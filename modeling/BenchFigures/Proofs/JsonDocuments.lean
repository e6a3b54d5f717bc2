import BenchFigures.Proofs.JsonTokens

/-!
# JSON documents

A value is written with blanks between its tokens, and a document is a value with blanks around it.
Like a text or a number, a written value has one form and one meaning, and reading the form gives
the meaning. Each step of reading is paid for by a character, so that the fuel suffices.
-/

namespace BenchFigures.Json

/-! ### Values -/

mutual

/-- A value as it is written, without blanks around it. -/
inductive Written where
  | null
  | boolean (value : Bool)
  | number (written : WrittenNumber)
  | string (written : WrittenText)
  | emptyArray (inside : Blanks)
  | array (items : WrittenItems)
  | emptyObject (inside : Blanks)
  | object (members : WrittenMembers)

/-- The items of an array, at least one, each with the blanks around it. -/
inductive WrittenItems where
  | last (before : Blanks) (item : Written) (after : Blanks)
  | more (before : Blanks) (item : Written) (after : Blanks) (others : WrittenItems)

/-- The members of an object, at least one, each with the blanks around its key and its value. -/
inductive WrittenMembers where
  | last (before : Blanks) (key : WrittenText) (between : Blanks) (beforeValue : Blanks)
    (value : Written) (after : Blanks)
  | more (before : Blanks) (key : WrittenText) (between : Blanks) (beforeValue : Blanks)
    (value : Written) (after : Blanks) (others : WrittenMembers)

end

mutual

/-- How a value is written. -/
def Written.text : Written → List Char
  | .null => ['n', 'u', 'l', 'l']
  | .boolean true => ['t', 'r', 'u', 'e']
  | .boolean false => ['f', 'a', 'l', 's', 'e']
  | .number written => written.text
  | .string written => written.text
  | .emptyArray inside => '[' :: (inside.text ++ [']'])
  | .array items => '[' :: (items.text ++ [']'])
  | .emptyObject inside => '\x7b' :: (inside.text ++ ['\x7d'])
  | .object members => '\x7b' :: (members.text ++ ['\x7d'])

/-- How items are written, with commas between them. -/
def WrittenItems.text : WrittenItems → List Char
  | .last before item after => before.text ++ (item.text ++ after.text)
  | .more before item after others =>
    before.text ++ (item.text ++ (after.text ++ ',' :: others.text))

/-- How members are written, with commas between them. -/
def WrittenMembers.text : WrittenMembers → List Char
  | .last before key between beforeValue value after =>
    before.text ++ (key.text ++ (between.text ++ ':' ::
      (beforeValue.text ++ (value.text ++ after.text))))
  | .more before key between beforeValue value after others =>
    before.text ++ (key.text ++ (between.text ++ ':' ::
      (beforeValue.text ++ (value.text ++ (after.text ++ ',' :: others.text)))))

end

mutual

/-- The value that is meant. -/
def Written.value : Written → Json
  | .null => .null
  | .boolean value => .boolean value
  | .number written => .number written.number
  | .string written => .string written.value
  | .emptyArray _ => .array []
  | .array items => .array items.values
  | .emptyObject _ => .object []
  | .object members => .object members.values

/-- The items that are meant. -/
def WrittenItems.values : WrittenItems → List Json
  | .last _ item _ => [item.value]
  | .more _ item _ others => item.value :: others.values

/-- The members that are meant. -/
def WrittenMembers.values : WrittenMembers → List (Text × Json)
  | .last _ key _ _ value _ => [(key.value, value.value)]
  | .more _ key _ _ value _ others => (key.value, value.value) :: others.values

end

mutual

/-- How many steps reading a value may take. -/
def Written.steps : Written → Nat
  | .array items => items.steps + 1
  | .object members => members.steps + 1
  | _ => 1

/-- How many steps reading items may take. -/
def WrittenItems.steps : WrittenItems → Nat
  | .last _ item _ => item.steps + 1
  | .more _ item _ others => item.steps + others.steps + 1

/-- How many steps reading members may take. -/
def WrittenMembers.steps : WrittenMembers → Nat
  | .last _ _ _ _ value _ => value.steps + 2
  | .more _ _ _ _ value _ others => value.steps + others.steps + 2

end

/-- A value starts with a character that is no blank and closes nothing. -/
theorem Written.exists_head (written : Written) :
    ∃ first others, written.text = first :: others ∧ isBlank first = false ∧ first ≠ ']' := by
  cases written with
  | null => exact ⟨_, _, by rw [text], by decide, by decide⟩
  | boolean value => cases value <;> exact ⟨_, _, by rw [text], by decide, by decide⟩
  | number written =>
    obtain ⟨first, others, listed, solid, single⟩ := written.exists_solid
    refine ⟨first, others, by rw [text, listed], solid, ?_⟩
    rintro rfl
    exact single (by simp)
  | string written => exact ⟨_, _, by rw [text, WrittenText.text], by decide, by decide⟩
  | emptyArray inside => exact ⟨_, _, by rw [text], by decide, by decide⟩
  | array items => exact ⟨_, _, by rw [text], by decide, by decide⟩
  | emptyObject inside => exact ⟨_, _, by rw [text], by decide, by decide⟩
  | object members => exact ⟨_, _, by rw [text], by decide, by decide⟩

/-- Items start, blanks aside, with a character that closes nothing. -/
theorem WrittenItems.exists_head (items : WrittenItems) (rest : List Char) :
    ∃ first others, skipBlanks (items.text ++ rest) = first :: others ∧ first ≠ ']' := by
  cases items with
  | last before item after =>
    obtain ⟨first, others, listed, solid, opening⟩ := item.exists_head
    rw [text, List.append_assoc, skipBlanks_append, listed]
    exact ⟨first, _, skipBlanks_cons solid _, opening⟩
  | more before item after others =>
    obtain ⟨first, others, listed, solid, opening⟩ := item.exists_head
    rw [text, List.append_assoc, skipBlanks_append, listed]
    exact ⟨first, _, skipBlanks_cons solid _, opening⟩

/-- Members start, blanks aside, with the quote of a key. -/
theorem WrittenMembers.exists_head (members : WrittenMembers) (rest : List Char) :
    ∃ others, skipBlanks (members.text ++ rest) = '"' :: others := by
  cases members with
  | last before key between beforeValue value after =>
    rw [text, List.append_assoc, skipBlanks_append, WrittenText.text]
    exact ⟨_, skipBlanks_cons (by decide) _⟩
  | more before key between beforeValue value after others =>
    rw [text, List.append_assoc, skipBlanks_append, WrittenText.text]
    exact ⟨_, skipBlanks_cons (by decide) _⟩

/-- A value is at least one character long. -/
theorem Written.length_pos (written : Written) : 0 < written.text.length := by
  obtain ⟨first, others, listed, -⟩ := written.exists_head
  simp [listed]

mutual

/-- A value takes fewer steps than three for each of its characters. -/
theorem Written.steps_lt : (written : Written) → written.steps < 3 * written.text.length
  | .array items => by
    have inside := items.steps_le
    simp only [Written.steps, Written.text, List.length_cons, List.length_append]
    omega
  | .object members => by
    have inside := members.steps_le
    simp only [Written.steps, Written.text, List.length_cons, List.length_append]
    omega
  | .null => by decide
  | .boolean value => by cases value <;> decide
  | .number written => by
    have filled := (Written.number written).length_pos
    change 1 < 3 * _
    omega
  | .string written => by
    have filled := (Written.string written).length_pos
    change 1 < 3 * _
    omega
  | .emptyArray inside => by
    have filled := (Written.emptyArray inside).length_pos
    change 1 < 3 * _
    omega
  | .emptyObject inside => by
    have filled := (Written.emptyObject inside).length_pos
    change 1 < 3 * _
    omega

/-- Items take at most three steps for each of their characters. -/
theorem WrittenItems.steps_le : (items : WrittenItems) → items.steps ≤ 3 * items.text.length
  | .last before item after => by
    have inside := item.steps_lt
    simp only [WrittenItems.steps, WrittenItems.text, List.length_append]
    omega
  | .more before item after others => by
    have inside := item.steps_lt
    have later := others.steps_le
    simp only [WrittenItems.steps, WrittenItems.text, List.length_cons, List.length_append]
    omega

/-- Members take at most three steps for each of their characters. -/
theorem WrittenMembers.steps_le : (members : WrittenMembers) →
    members.steps ≤ 3 * members.text.length
  | .last before key between beforeValue value after => by
    have inside := value.steps_lt
    simp only [WrittenMembers.steps, WrittenMembers.text, List.length_cons, List.length_append]
    omega
  | .more before key between beforeValue value after others => by
    have inside := value.steps_lt
    have later := others.steps_le
    simp only [WrittenMembers.steps, WrittenMembers.text, List.length_cons, List.length_append]
    omega

end

/-! ### Reading a value -/

/-- Blanks before a value are passed over. -/
theorem readValue_blanks (fuel : Nat) (blanks : Blanks) (text : List Char) :
    readValue fuel (blanks.text ++ text) = readValue fuel text := by
  cases fuel with
  | zero => rfl
  | succ fuel => rw [readValue, readValue, skipBlanks_append]

/-- What starts with no sign of another value is read as a number. -/
theorem readValue_number (fuel : Nat) (written : WrittenNumber) {rest : List Char}
    (ends : Ends rest) :
    readValue (fuel + 1) (written.text ++ rest) = some (.number written.number, rest) := by
  obtain ⟨first, others, listed, solid, single⟩ := written.exists_solid
  have read := written.readNumber_append ends
  rw [listed, List.cons_append] at read ⊢
  simp only [List.mem_cons, List.not_mem_nil, or_false, not_or] at single
  rw [readValue, skipBlanks_cons solid]
  -- The forms before the last one start with a character that starts no number.
  split
  all_goals simp_all

/-- A member is read if its value is. -/
theorem readMember_append {fuel : Nat} (before : Blanks) (key : WrittenText) (between : Blanks)
    (beforeValue : Blanks) {value : Json} {text rest : List Char}
    (read : readValue fuel text = some (value, rest)) :
    readMember (fuel + 1) (before.text ++ (key.text ++ (between.text ++ ':' ::
      (beforeValue.text ++ text)))) = some ((key.value, value), rest) := by
  obtain ⟨inner, opened, readKey⟩ := key.readText_append (between.text ++ ':' ::
    (beforeValue.text ++ text))
  rw [readMember, skipBlanks_append, opened, skipBlanks_cons (by decide)]
  simp only [readKey]
  rw [skipBlanks_append, skipBlanks_cons (by decide)]
  simp only [readValue_blanks, read, Option.map_some]

/-- Fuel for one more step. -/
theorem exists_fuel {steps fuel : Nat} (enough : steps + 1 ≤ fuel) :
    ∃ spare, fuel = spare + 1 ∧ steps ≤ spare :=
  ⟨fuel - 1, by omega, by omega⟩

mutual

/-- A written value is read in front of what ends it, and nothing after it is touched. -/
theorem Written.readValue_append : (written : Written) → (fuel : Nat) → (rest : List Char) →
    written.steps ≤ fuel → Ends rest →
      readValue fuel (written.text ++ rest) = some (written.value, rest)
  | .null, fuel, rest, enough, _ => by
    obtain ⟨spare, rfl, -⟩ := exists_fuel enough
    rfl
  | .boolean value, fuel, rest, enough, _ => by
    obtain ⟨spare, rfl, -⟩ := exists_fuel enough
    cases value <;> rfl
  | .number written, fuel, rest, enough, ends => by
    obtain ⟨spare, rfl, -⟩ := exists_fuel enough
    exact readValue_number spare written ends
  | .string written, fuel, rest, enough, _ => by
    obtain ⟨spare, rfl, -⟩ := exists_fuel enough
    obtain ⟨inner, opened, read⟩ := written.readText_append rest
    rw [Written.text, opened, readValue, skipBlanks_cons (by decide)]
    simp only [read, Option.map_some, Written.value]
  | .emptyArray inside, fuel, rest, enough, _ => by
    obtain ⟨spare, rfl, -⟩ := exists_fuel enough
    rw [Written.text, List.cons_append, List.append_assoc, readValue, skipBlanks_cons (by decide)]
    simp only [skipBlanks_append]
    rw [List.singleton_append, skipBlanks_cons (by decide)]
    rfl
  | .emptyObject inside, fuel, rest, enough, _ => by
    obtain ⟨spare, rfl, -⟩ := exists_fuel enough
    rw [Written.text, List.cons_append, List.append_assoc, readValue, skipBlanks_cons (by decide)]
    simp only [skipBlanks_append]
    rw [List.singleton_append, skipBlanks_cons (by decide)]
    rfl
  | .array items, fuel, rest, enough, _ => by
    obtain ⟨spare, rfl, inside⟩ := exists_fuel enough
    have read := items.readItems_append spare rest inside
    obtain ⟨first, others, skipped, opening⟩ := items.exists_head (']' :: rest)
    rw [Written.text, List.cons_append, List.append_assoc, List.singleton_append, readValue,
      skipBlanks_cons (by decide)]
    simp only [skipped, read]
    simp [opening, Written.value]
  | .object members, fuel, rest, enough, _ => by
    obtain ⟨spare, rfl, inside⟩ := exists_fuel enough
    have read := members.readMembers_append spare rest inside
    obtain ⟨others, skipped⟩ := members.exists_head ('\x7d' :: rest)
    rw [Written.text, List.cons_append, List.append_assoc, List.singleton_append, readValue,
      skipBlanks_cons (by decide)]
    simp only [skipped, read]
    rfl

/-- Written items are read up to their closing bracket. -/
theorem WrittenItems.readItems_append : (items : WrittenItems) → (fuel : Nat) →
    (rest : List Char) → items.steps ≤ fuel →
      readItems fuel (items.text ++ ']' :: rest) = some (items.values, rest)
  | .last before item after, fuel, rest, enough => by
    obtain ⟨spare, rfl, inside⟩ := exists_fuel enough
    have read := item.readValue_append spare (after.text ++ ']' :: rest) inside
      ((Ends.cons (by simp) rest).append after)
    rw [WrittenItems.text, List.append_assoc, List.append_assoc, readItems, readValue_blanks, read]
    simp only [skipBlanks_append]
    rw [skipBlanks_cons (by decide)]
    rfl
  | .more before item after others, fuel, rest, enough => by
    obtain ⟨spare, rfl, inside⟩ := exists_fuel enough
    have read := item.readValue_append spare (after.text ++ ',' :: (others.text ++ ']' :: rest))
      (Nat.le_of_add_right_le inside) ((Ends.cons (by simp) _).append after)
    have readOthers := others.readItems_append spare rest (Nat.le_of_add_left_le inside)
    simp only [WrittenItems.text, List.append_assoc, List.cons_append]
    rw [readItems, readValue_blanks, read]
    simp only [skipBlanks_append]
    rw [skipBlanks_cons (by decide)]
    simp only [readOthers, Option.map_some, WrittenItems.values]

/-- Written members are read up to their closing brace. -/
theorem WrittenMembers.readMembers_append : (members : WrittenMembers) → (fuel : Nat) →
    (rest : List Char) → members.steps ≤ fuel →
      readMembers fuel (members.text ++ '\x7d' :: rest) = some (members.values, rest)
  | .last before key between beforeValue value after, fuel, rest, enough => by
    obtain ⟨spare, rfl, inside⟩ := exists_fuel enough
    obtain ⟨valueSpare, rfl, inValue⟩ := exists_fuel inside
    have read := value.readValue_append valueSpare (after.text ++ '\x7d' :: rest) inValue
      ((Ends.cons (by simp) rest).append after)
    have member := readMember_append before key between beforeValue read
    simp only [WrittenMembers.text, List.append_assoc, List.cons_append]
    rw [readMembers, member]
    simp only [skipBlanks_append]
    rw [skipBlanks_cons (by decide)]
    rfl
  | .more before key between beforeValue value after others, fuel, rest, enough => by
    obtain ⟨spare, rfl, inside⟩ := exists_fuel enough
    obtain ⟨valueSpare, rfl, inValue⟩ := exists_fuel inside
    have read := value.readValue_append valueSpare
      (after.text ++ ',' :: (others.text ++ '\x7d' :: rest)) (Nat.le_of_add_right_le inValue)
      ((Ends.cons (by simp) _).append after)
    have member := readMember_append before key between beforeValue read
    have readOthers := others.readMembers_append (valueSpare + 1) rest
      (Nat.le_succ_of_le (Nat.le_of_add_left_le inValue))
    simp only [WrittenMembers.text, List.append_assoc, List.cons_append]
    rw [readMembers, member]
    simp only [skipBlanks_append]
    rw [skipBlanks_cons (by decide)]
    simp only [readOthers, Option.map_some, WrittenMembers.values]

end

/-! ### Documents -/

/-- A value with the blanks around it. -/
structure Document where
  before : Blanks
  written : Written
  after : Blanks

namespace Document

/-- The whole text of a document. -/
def text (document : Document) : List Char :=
  document.before.text ++ (document.written.text ++ document.after.text)

/-- The value of a document. -/
def value (document : Document) : Json := document.written.value

/-- A document is read as its value. -/
theorem parse?_text (document : Document) : parse? document.text = some document.value := by
  have ends : Ends document.after.text := by
    have nothing : Ends [] := by simp [Ends]
    simpa using nothing.append document.after
  have enough : document.written.steps ≤ 3 * document.text.length + 3 := by
    have steps := document.written.steps_lt
    simp only [text, List.length_append]
    omega
  have read := document.written.readValue_append _ _ enough ends
  have skipped : skipBlanks document.after.text = [] := by
    simpa [skipBlanks] using skipBlanks_append document.after []
  rw [parse?]
  generalize 3 * document.text.length + 3 = fuel at read ⊢
  rw [text, readValue_blanks, read]
  simp [skipped, value]

end Document

end BenchFigures.Json
