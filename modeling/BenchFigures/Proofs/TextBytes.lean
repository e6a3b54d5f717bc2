import BenchFigures.Text.Blank
import BenchFigures.Text.Utf8
import Mathlib

/-!
# Texts in bytes

Reading the bytes of a text gives the text back, and every byte counts as valid. The
bytes of ASCII white space are those of the characters that they stand for, and no
other character has such a byte. So dropping them from the ends of the bytes drops
characters from the ends of the text, and never a part of one.
-/

namespace BenchFigures.Text

/-! ### Reading back what was written -/

/-- A code point is not a surrogate and not beyond the last one. -/
theorem code_bounds (character : Char) :
    character.toNat < 0xD800 ∨ 0xDFFF < character.toNat ∧ character.toNat < 0x110000 :=
  character.valid

/-- The byte of a number that fits into one. -/
theorem toNat_ofNat_of_lt {number : Nat} (fits : number < 256) :
    (UInt8.ofNat number).toNat = number := by
  rw [UInt8.toNat_ofNat']
  exact Nat.mod_eq_of_lt fits

/-- A second byte is admitted if it continues a sequence and respects the narrower
bound that four of the first bytes set. -/
theorem mayFollow_iff (first second : UInt8) :
    mayFollow first second = true ↔
      (0x80 ≤ second.toNat ∧ second.toNat ≤ 0xBF) ∧
        (first.toNat = 0xE0 → 0xA0 ≤ second.toNat) ∧ (first.toNat = 0xED → second.toNat ≤ 0x9F) ∧
        (first.toNat = 0xF0 → 0x90 ≤ second.toNat) ∧
        (first.toNat = 0xF4 → second.toNat ≤ 0x8F) := by
  have same (byte : UInt8) : first = byte ↔ first.toNat = byte.toNat := UInt8.toNat_inj.symm
  simp only [mayFollow, secondByteRange, same, Bool.and_eq_true, decide_eq_true_eq,
    UInt8.le_iff_toNat_le]
  by_cases e0 : first.toNat = 0xE0
  · simp [e0]; omega
  · by_cases ed : first.toNat = 0xED
    · simp [ed]; omega
    · by_cases f0 : first.toNat = 0xF0
      · simp [f0]; omega
      · by_cases f4 : first.toNat = 0xF4
        · simp [f4]; omega
        · simp [e0, ed, f0, f4]

/-- A byte below 0x80 is a character by itself. -/
theorem firstCharacter?_one {a : UInt8} (rest : List UInt8) (single : a.toNat < 0x80) :
    firstCharacter? (a :: rest) = some (Char.ofNat a.toNat, 1) := by
  have small : a < 0x80 := UInt8.lt_iff_toNat_lt.2 single
  exact if_pos small

/-- Two bytes that a two-byte sequence consists of. -/
theorem firstCharacter?_two {a b : UInt8} (rest : List UInt8)
    (first : 0xC2 ≤ a.toNat ∧ a.toNat ≤ 0xDF) (second : 0x80 ≤ b.toNat ∧ b.toNat ≤ 0xBF) :
    firstCharacter? (a :: b :: rest) =
      some (Char.ofNat (a.toNat % 32 * 64 + b.toNat % 64), 2) := by
  have large : ¬ a < 0x80 := by
    rw [UInt8.lt_iff_toNat_lt]
    have : (0x80 : UInt8).toNat = 0x80 := rfl
    omega
  have inRange : (0xC2 ≤ a && a ≤ 0xDF) = true := by
    simpa [UInt8.le_iff_toNat_le] using first
  have continued : isContinuation b = true := by
    simpa [isContinuation, UInt8.le_iff_toNat_le] using second
  exact (if_neg large).trans ((if_pos inRange).trans (if_pos continued))

/-- Three bytes that a three-byte sequence consists of. -/
theorem firstCharacter?_three {a b c : UInt8} (rest : List UInt8)
    (first : 0xE0 ≤ a.toNat ∧ a.toNat ≤ 0xEF) (second : mayFollow a b = true)
    (third : 0x80 ≤ c.toNat ∧ c.toNat ≤ 0xBF) :
    firstCharacter? (a :: b :: c :: rest) =
      some (Char.ofNat (a.toNat % 16 * 4096 + b.toNat % 64 * 64 + c.toNat % 64), 3) := by
  have large : ¬ a < 0x80 := by
    rw [UInt8.lt_iff_toNat_lt]
    have : (0x80 : UInt8).toNat = 0x80 := rfl
    omega
  have notTwo : ¬ (0xC2 ≤ a && a ≤ 0xDF) = true := by
    simp [UInt8.le_iff_toNat_le]
    omega
  have inRange : (0xE0 ≤ a && a ≤ 0xEF) = true := by
    simpa [UInt8.le_iff_toNat_le] using first
  have continued : (mayFollow a b && isContinuation c) = true := by
    simpa [second, isContinuation, UInt8.le_iff_toNat_le] using third
  exact (if_neg large).trans ((if_neg notTwo).trans ((if_pos inRange).trans (if_pos continued)))

/-- Four bytes that a four-byte sequence consists of. -/
theorem firstCharacter?_four {a b c d : UInt8} (rest : List UInt8)
    (first : 0xF0 ≤ a.toNat ∧ a.toNat ≤ 0xF4) (second : mayFollow a b = true)
    (third : 0x80 ≤ c.toNat ∧ c.toNat ≤ 0xBF) (fourth : 0x80 ≤ d.toNat ∧ d.toNat ≤ 0xBF) :
    firstCharacter? (a :: b :: c :: d :: rest) =
      some (Char.ofNat (a.toNat % 8 * 262144 + b.toNat % 64 * 4096 + c.toNat % 64 * 64 +
        d.toNat % 64), 4) := by
  have large : ¬ a < 0x80 := by
    rw [UInt8.lt_iff_toNat_lt]
    have : (0x80 : UInt8).toNat = 0x80 := rfl
    omega
  have notTwo : ¬ (0xC2 ≤ a && a ≤ 0xDF) = true := by
    simp [UInt8.le_iff_toNat_le]
    omega
  have notThree : ¬ (0xE0 ≤ a && a ≤ 0xEF) = true := by
    simp [UInt8.le_iff_toNat_le]
    omega
  have inRange : (0xF0 ≤ a && a ≤ 0xF4) = true := by
    simpa [UInt8.le_iff_toNat_le] using first
  have continued : (mayFollow a b && isContinuation c && isContinuation d) = true := by
    simpa [second, isContinuation, UInt8.le_iff_toNat_le] using And.intro third fourth
  exact (if_neg large).trans ((if_neg notTwo).trans ((if_neg notThree).trans
    ((if_pos inRange).trans (if_pos continued))))

/-- The bytes of a character are read as that character, whatever comes after them. -/
theorem firstCharacter?_encodeCharacter (character : Char) (rest : List UInt8) :
    firstCharacter? (encodeCharacter character ++ rest) =
      some (character, (encodeCharacter character).length) := by
  have bounds := code_bounds character
  have same := Char.ofNat_toNat character
  rw [encodeCharacter]
  generalize character.toNat = code at bounds same
  have lead {base part : Nat} (fits : base + part < 256) :
      (UInt8.ofNat (base + part)).toNat = base + part := toNat_ofNat_of_lt fits
  have tail (part : Nat) : (UInt8.ofNat (0x80 + part % 64)).toNat = 0x80 + part % 64 :=
    toNat_ofNat_of_lt (by omega)
  by_cases one : code < 0x80
  · have byte : (UInt8.ofNat code).toNat = code := toNat_ofNat_of_lt (by omega)
    rw [if_pos one, List.singleton_append, firstCharacter?_one rest (by omega), byte, same]
    rfl
  · rw [if_neg one]
    by_cases two : code < 0x800
    · have byte := @lead 0xC0 (code / 64) (by omega)
      rw [if_pos two, List.cons_append, List.cons_append,
        firstCharacter?_two _ (by omega) (by rw [tail]; omega), byte, tail]
      have value : (0xC0 + code / 64) % 32 * 64 + (0x80 + code % 64) % 64 = code := by omega
      rw [value, same]
      rfl
    · rw [if_neg two]
      by_cases three : code < 0x10000
      · have byte := @lead 0xE0 (code / 4096) (by omega)
        have follows : mayFollow (UInt8.ofNat (0xE0 + code / 4096))
            (UInt8.ofNat (0x80 + code / 64 % 64)) = true := by
          rw [mayFollow_iff, byte, tail]
          omega
        rw [if_pos three, List.cons_append, List.cons_append, List.cons_append,
          firstCharacter?_three _ (by omega) follows (by rw [tail]; omega), byte, tail, tail]
        have value : (0xE0 + code / 4096) % 16 * 4096 + (0x80 + code / 64 % 64) % 64 * 64 +
            (0x80 + code % 64) % 64 = code := by omega
        rw [value, same]
        rfl
      · have byte := @lead 0xF0 (code / 262144) (by omega)
        have follows : mayFollow (UInt8.ofNat (0xF0 + code / 262144))
            (UInt8.ofNat (0x80 + code / 4096 % 64)) = true := by
          rw [mayFollow_iff, byte, tail]
          omega
        rw [if_neg three, List.cons_append, List.cons_append, List.cons_append, List.cons_append,
          firstCharacter?_four _ (by omega) follows (by rw [tail]; omega) (by rw [tail]; omega),
          byte, tail, tail, tail]
        have value : (0xF0 + code / 262144) % 8 * 262144 + (0x80 + code / 4096 % 64) % 64 * 4096 +
            (0x80 + code / 64 % 64) % 64 * 64 + (0x80 + code % 64) % 64 = code := by omega
        rw [value, same]
        rfl

/-- Bytes that belong to a character already read are passed over. -/
theorem decodeFrom_append (passed rest : List UInt8) :
    decodeFrom (passed ++ rest) passed.length =
      ((decodeFrom rest 0).1, (decodeFrom rest 0).2 + passed.length) := by
  induction passed with
  | nil => rfl
  | cons byte others inductionHypothesis =>
    rw [List.cons_append, List.length_cons, decodeFrom, inductionHypothesis]
    rfl

/-- A character has a byte. -/
theorem encodeCharacter_ne_nil (character : Char) : encodeCharacter character ≠ [] := by
  rw [encodeCharacter]
  split_ifs <;> simp

/-- Reading the bytes of a text gives the text, and all of its bytes are valid. -/
theorem decodeValid_encode (text : List Char) :
    decodeValid (encode text) = (text, (encode text).length) := by
  induction text with
  | nil => rfl
  | cons character rest inductionHypothesis =>
    have read := firstCharacter?_encodeCharacter character (encode rest)
    have whole : encode (character :: rest) = encodeCharacter character ++ encode rest := rfl
    rw [decodeValid] at inductionHypothesis ⊢
    rw [whole]
    cases bytes : encodeCharacter character with
    | nil => exact absurd bytes (encodeCharacter_ne_nil character)
    | cons byte others =>
      rw [bytes, List.cons_append] at read
      have passed := decodeFrom_append others (encode rest)
      rw [inductionHypothesis] at passed
      simp only [List.cons_append, decodeFrom, read, List.length_cons, Nat.add_sub_cancel, passed]
      simp only [List.length_append, Nat.add_comm]

/-! ### Dropping from both ends -/

section Trimming

variable {α β : Type}

/-- Items that start and end with one that is not dropped, if there are any. -/
structure Solid (drop : α → Bool) (items : List α) : Prop where
  head : ∀ item ∈ items.head?, drop item = false
  last : ∀ item ∈ items.getLast?, drop item = false

/-- Items of which none is dropped stay as they are. -/
theorem Solid.of_forall {drop : α → Bool} {items : List α}
    (kept : ∀ item ∈ items, drop item = false) : Solid drop items :=
  ⟨fun item first => kept item (List.mem_of_mem_head? first),
    fun item last => kept item (List.mem_of_getLast? last)⟩

/-- Dropping from the front stops at an item that is not dropped. -/
theorem dropWhile_of_head {drop : α → Bool} {items : List α}
    (kept : ∀ item ∈ items.head?, drop item = false) : items.dropWhile drop = items := by
  cases items with
  | nil => rfl
  | cons item rest => rw [List.dropWhile_cons_of_neg (by simp [kept item rfl])]

/-- Dropping from both ends leaves what stands between the dropped items. -/
theorem trimBoth_between {drop : α → Bool} {before items after : List α}
    (dropBefore : ∀ item ∈ before, drop item = true) (solid : Solid drop items)
    (dropAfter : ∀ item ∈ after, drop item = true) :
    trimBoth drop (before ++ items ++ after) = items := by
  have backwards : ∀ item ∈ items.reverse.head?, drop item = false := by
    simpa using solid.last
  rw [trimBoth, List.append_assoc, List.dropWhile_append_of_pos dropBefore]
  cases items with
  | nil => simp [List.dropWhile_eq_nil_iff.2 dropAfter]
  | cons item rest =>
    rw [List.cons_append, List.dropWhile_cons_of_neg (by simp [solid.head item rfl]),
      ← List.cons_append, List.reverse_append,
      List.dropWhile_append_of_pos (by simpa using dropAfter), dropWhile_of_head backwards,
      List.reverse_reverse]

/-- Every list is what remains of it between what is dropped. -/
theorem exists_between (drop : α → Bool) (items : List α) :
    ∃ before after, items = before ++ trimBoth drop items ++ after ∧
      (∀ item ∈ before, drop item = true) ∧ (∀ item ∈ after, drop item = true) ∧
      Solid drop (trimBoth drop items) := by
  have front := List.takeWhile_append_dropWhile (p := drop) (l := items)
  have back := List.takeWhile_append_dropWhile (p := drop) (l := (items.dropWhile drop).reverse)
  have rest : items.dropWhile drop =
      trimBoth drop items ++ ((items.dropWhile drop).reverse.takeWhile drop).reverse := by
    rw [trimBoth, ← List.reverse_append, back, List.reverse_reverse]
  refine ⟨items.takeWhile drop, ((items.dropWhile drop).reverse.takeWhile drop).reverse, ?_, ?_, ?_,
    ?_, ?_⟩
  · rw [List.append_assoc, ← rest, front]
  · exact fun item member => List.mem_takeWhile_imp member
  · intro item member
    exact List.mem_takeWhile_imp (List.mem_reverse.1 member)
  · intro item first
    -- The first item that remains is the first one that dropping from the front left.
    have kept := List.head?_dropWhile_not drop items
    cases remaining : trimBoth drop items with
    | nil => simp [remaining] at first
    | cons other others =>
      obtain rfl : other = item := by simpa [remaining] using first
      rw [rest, remaining] at kept
      simpa using kept
  · intro item last
    have kept := List.head?_dropWhile_not drop (items.dropWhile drop).reverse
    rw [trimBoth, List.getLast?_reverse] at last
    rw [Option.mem_def.1 last] at kept
    simpa using kept

/-- Dropping less beforehand makes no difference. -/
theorem trimBoth_trimBoth {drop fewer : α → Bool}
    (less : ∀ item, fewer item = true → drop item = true) (items : List α) :
    trimBoth drop (trimBoth fewer items) = trimBoth drop items := by
  obtain ⟨before, after, whole, dropBefore, dropAfter, -⟩ := exists_between fewer items
  obtain ⟨inner, outer, rest, dropInner, dropOuter, solid⟩ :=
    exists_between drop (trimBoth fewer items)
  have joined : items = (before ++ inner) ++ trimBoth drop (trimBoth fewer items) ++
      (outer ++ after) := by
    conv_lhs => rw [whole, rest]
    simp
  conv_rhs => rw [joined]
  refine (trimBoth_between ?_ solid ?_).symm
  · intro item member
    rcases List.mem_append.1 member with early | late
    · exact less item (dropBefore item early)
    · exact dropInner item late
  · intro item member
    rcases List.mem_append.1 member with early | late
    · exact dropOuter item early
    · exact less item (dropAfter item late)

/-- What a list of parts is made of: nothing is dropped from the ends of the parts that
remain. -/
theorem Solid.flatMap {part : α → List β} {drop : α → Bool} {dropPart : β → Bool}
    (solidPart : ∀ item, drop item = false → part item ≠ [] ∧ Solid dropPart (part item))
    {items : List α} (solid : Solid drop items) : Solid dropPart (items.flatMap part) where
  head := by
    cases items with
    | nil => simp
    | cons item rest =>
      obtain ⟨filled, ends⟩ := solidPart item (solid.head item rfl)
      rw [List.flatMap_cons, List.head?_append_of_ne_nil _ filled]
      exact ends.head
  last := by
    rcases List.eq_nil_or_concat items with rfl | ⟨rest, item, rfl⟩
    · simp
    · obtain ⟨filled, ends⟩ := solidPart item (solid.last item (by simp))
      simpa [List.getLast?_append_of_ne_nil _ filled] using ends.last

/-- Where whole items consist of parts that are dropped, or have none such at their ends,
dropping parts is dropping items. -/
theorem trimBoth_flatMap {part : α → List β} {drop : α → Bool} {dropPart : β → Bool}
    (dropped : ∀ item, drop item = true → ∀ one ∈ part item, dropPart one = true)
    (solidPart : ∀ item, drop item = false → part item ≠ [] ∧ Solid dropPart (part item))
    (items : List α) :
    trimBoth dropPart (items.flatMap part) = (trimBoth drop items).flatMap part := by
  obtain ⟨before, after, whole, dropBefore, dropAfter, solid⟩ := exists_between drop items
  have droppedParts {list : List α} (all : ∀ item ∈ list, drop item = true) :
      ∀ one ∈ list.flatMap part, dropPart one = true := by
    intro one member
    obtain ⟨item, inList, inPart⟩ := List.mem_flatMap.1 member
    exact dropped item (all item inList) one inPart
  conv_lhs => rw [whole, List.flatMap_append, List.flatMap_append]
  exact trimBoth_between (droppedParts dropBefore) (solid.flatMap solidPart)
    (droppedParts dropAfter)

end Trimming

/-! ### White space in bytes -/

/-- A character is white space exactly if its code point is one of these. -/
theorem isBlank_iff (character : Char) :
    isBlank character = true ↔
      9 ≤ character.toNat ∧ character.toNat ≤ 13 ∨ character.toNat = 0x20 ∨
      character.toNat = 0x85 ∨ character.toNat = 0xA0 ∨ character.toNat = 0x1680 ∨
      0x2000 ≤ character.toNat ∧ character.toNat ≤ 0x200A ∨
      0x2028 ≤ character.toNat ∧ character.toNat ≤ 0x2029 ∨ character.toNat = 0x202F ∨
      character.toNat = 0x205F ∨ character.toNat = 0x3000 := by
  simp only [isBlank, blankRanges, List.any_cons, List.any_nil, Bool.or_eq_true, Bool.and_eq_true,
    decide_eq_true_eq, Bool.or_false]
  omega

/-- Whether a character is ASCII white space. -/
def isAsciiBlank (character : Char) : Bool :=
  character = ' ' || character = '\t' || character = '\n' || character = '\x0C' ||
    character = '\r'

/-- ASCII white space is white space. -/
theorem isBlank_of_isAsciiBlank {character : Char} (blank : isAsciiBlank character = true) :
    isBlank character = true := by
  simp only [isAsciiBlank, Bool.or_eq_true, decide_eq_true_eq] at blank
  rcases blank with (((rfl | rfl) | rfl) | rfl) | rfl <;> decide

/-- A character that is ASCII white space has only bytes that are. -/
theorem isBlankByte_of_isAsciiBlank {character : Char} (blank : isAsciiBlank character = true) :
    ∀ byte ∈ encodeCharacter character, isBlankByte byte = true := by
  simp only [isAsciiBlank, Bool.or_eq_true, decide_eq_true_eq] at blank
  rcases blank with (((rfl | rfl) | rfl) | rfl) | rfl <;> simp [encodeCharacter, isBlankByte]

/-- A byte is ASCII white space exactly if it has one of five values. -/
theorem isBlankByte_iff (byte : UInt8) :
    isBlankByte byte = true ↔
      byte.toNat = 0x20 ∨ byte.toNat = 0x09 ∨ byte.toNat = 0x0A ∨ byte.toNat = 0x0C ∨
        byte.toNat = 0x0D := by
  have same (other : UInt8) : byte = other ↔ byte.toNat = other.toNat := UInt8.toNat_inj.symm
  simp [isBlankByte, same, or_assoc]

/-- A character beyond ASCII has only bytes beyond ASCII. -/
theorem le_of_mem_encodeCharacter {character : Char} (beyond : 0x80 ≤ character.toNat)
    {byte : UInt8} (member : byte ∈ encodeCharacter character) : 0x80 ≤ byte.toNat := by
  have bounds := code_bounds character
  have large {base number : Nat} (high : 0x80 ≤ base) (fits : base + number < 256) :
      0x80 ≤ (UInt8.ofNat (base + number)).toNat := by
    rw [toNat_ofNat_of_lt fits]
    omega
  rw [encodeCharacter, if_neg (by omega)] at member
  split_ifs at member
  · simp only [List.mem_cons, List.not_mem_nil, or_false] at member
    rcases member with rfl | rfl <;> exact large (by omega) (by omega)
  · simp only [List.mem_cons, List.not_mem_nil, or_false] at member
    rcases member with rfl | rfl | rfl <;> exact large (by omega) (by omega)
  · simp only [List.mem_cons, List.not_mem_nil, or_false] at member
    rcases member with rfl | rfl | rfl | rfl <;> exact large (by omega) (by omega)

/-- No other character has such a byte. -/
theorem isBlankByte_eq_false {character : Char} (solid : isAsciiBlank character = false)
    {byte : UInt8} (member : byte ∈ encodeCharacter character) : isBlankByte byte = false := by
  rw [Bool.eq_false_iff]
  intro blank
  by_cases beyond : 0x80 ≤ character.toNat
  · have high := le_of_mem_encodeCharacter beyond member
    have low := (isBlankByte_iff byte).1 blank
    omega
  · rw [encodeCharacter, if_pos (by omega), List.mem_singleton] at member
    have code := (isBlankByte_iff byte).1 blank
    rw [member, toNat_ofNat_of_lt (by omega)] at code
    have same := Char.ofNat_toNat character
    rw [Bool.eq_false_iff] at solid
    apply solid
    rw [← same]
    rcases code with code | code | code | code | code <;> rw [code] <;> decide

/-- Dropping white space bytes from the ends of a text's bytes drops characters. -/
theorem trimBoth_encode (text : List Char) :
    trimBoth isBlankByte (encode text) = encode (trimBoth isAsciiBlank text) :=
  trimBoth_flatMap (fun _ blank => isBlankByte_of_isAsciiBlank blank)
    (fun character solid => ⟨encodeCharacter_ne_nil character,
      .of_forall fun _ member => isBlankByte_eq_false solid member⟩) text

/-- A trimmed text is what stands between its white space. -/
theorem trim_between {before text after : List Char}
    (blankBefore : ∀ character ∈ before, isBlank character = true) (solid : Solid isBlank text)
    (blankAfter : ∀ character ∈ after, isBlank character = true) :
    trim (before ++ text ++ after) = text :=
  trimBoth_between blankBefore solid blankAfter

end BenchFigures.Text
