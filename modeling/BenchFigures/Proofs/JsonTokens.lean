import BenchFigures.Json.Grammar
import Mathlib

/-!
# Texts and numbers in JSON

A text can be written with its characters as they are or escaped, and a number in several forms,
with blanks around either. What is written keeps what was chosen, so that it has one form and one
meaning. Reading the form gives the meaning.

A number has no end of its own, it goes on as long as it can. So it is read in front of something
that ends it: a blank, a comma, a closing bracket or nothing.
-/

namespace BenchFigures.Json

/-! ### Blanks -/

/-- Blanks between two tokens. -/
structure Blanks where
  text : List Char
  blank : ∀ character ∈ text, isBlank character = true

/-- No blanks. -/
def Blanks.none : Blanks := ⟨[], by simp⟩

/-- What may follow a value: nothing, a blank, a comma or a closing bracket. -/
def Ends (rest : List Char) : Prop :=
  ∀ character ∈ rest.head?, isBlank character = true ∨ character ∈ [',', ']', '\x7d']

/-- Blanks are passed over. -/
theorem skipBlanks_append (blanks : Blanks) (rest : List Char) :
    skipBlanks (blanks.text ++ rest) = skipBlanks rest :=
  List.dropWhile_append_of_pos blanks.blank

/-- Blanks come to an end before another character. -/
theorem skipBlanks_cons {character : Char} (solid : isBlank character = false)
    (rest : List Char) : skipBlanks (character :: rest) = character :: rest := by
  rw [skipBlanks, List.dropWhile_cons_of_neg (by simp [solid])]

/-- Blanks end a value if what follows them does. -/
theorem Ends.append {rest : List Char} (ends : Ends rest) (blanks : Blanks) :
    Ends (blanks.text ++ rest) := by
  intro character first
  cases listed : blanks.text with
  | nil =>
    rw [listed, List.nil_append] at first
    exact ends character first
  | cons blank others =>
    obtain rfl : blank = character := by simpa [listed] using first
    exact .inl (blanks.blank blank (by simp [listed]))

/-- A character that ends a value ends it, whatever comes after. -/
theorem Ends.cons {character : Char} (closing : character ∈ [',', ']', '\x7d'])
    (rest : List Char) : Ends (character :: rest) := by
  intro first same
  obtain rfl : character = first := by simpa using same
  exact .inr closing

/-! ### Texts -/

/-- One character or escape of a written text. -/
inductive Glyph where
  /-- A character as it is. -/
  | plain (character : Char)
    (allowed : character ≠ '"' ∧ character ≠ '\\' ∧ ¬ character < ' ')
  /-- A backslash and a letter that stand for another character. -/
  | short (letter character : Char) (stands : escaped? letter = some character)
  /-- A backslash, the letter u and four hexadecimal digits. -/
  | digits (a b c d : Char) (unit : Nat) (shows : hexUnit? a b c d = some unit)

namespace Glyph

/-- How a glyph is written. -/
def text : Glyph → List Char
  | plain character _ => [character]
  | short letter _ _ => ['\\', letter]
  | digits a b c d _ _ => ['\\', 'u', a, b, c, d]

/-- What a glyph gives: a character, or a number that may be half a surrogate pair. -/
def unit : Glyph → Char ⊕ Nat
  | plain character _ => .inl character
  | short _ character _ => .inl character
  | digits _ _ _ _ unit _ => .inr unit

end Glyph

/-- One glyph is read before the others. -/
theorem readUnits_cons (glyph : Glyph) {following : List (Char ⊕ Nat)} {text after : List Char}
    (read : readUnits text = some (following, after)) :
    readUnits (glyph.text ++ text) = some (glyph.unit :: following, after) := by
  cases glyph with
  | plain character allowed =>
    obtain ⟨noQuote, noBackslash, printed⟩ := allowed
    rw [Glyph.text, List.singleton_append, readUnits, read]
    · simp [noBackslash, printed, Glyph.unit]
    all_goals simp_all
  | short letter character stands =>
    have other : letter ≠ 'u' := by
      rintro rfl
      simp [escaped?] at stands
    rw [Glyph.text, List.cons_append, List.singleton_append, readUnits, read, stands]
    · rfl
    · simp_all
  | digits a b c d unit shows =>
    simp only [Glyph.text, List.cons_append, List.nil_append]
    rw [readUnits, shows, read]
    rfl

/-- The glyphs of a text are read up to its closing quote. -/
theorem readUnits_glyphs (glyphs : List Glyph) (rest : List Char) :
    readUnits (glyphs.flatMap Glyph.text ++ '"' :: rest) = some (glyphs.map Glyph.unit, rest) := by
  induction glyphs with
  | nil => rfl
  | cons glyph others inductionHypothesis =>
    rw [List.flatMap_cons, List.append_assoc, readUnits_cons glyph inductionHypothesis]
    rfl

/-- A text as it is written between quotes. -/
structure WrittenText where
  glyphs : List Glyph

namespace WrittenText

/-- How a text is written. -/
def text (written : WrittenText) : List Char :=
  '"' :: (written.glyphs.flatMap Glyph.text ++ ['"'])

/-- The text that is meant. -/
def value (written : WrittenText) : Text := joinPairs (written.glyphs.map Glyph.unit)

/-- A written text is read after its opening quote. -/
theorem readText_append (written : WrittenText) (rest : List Char) :
    ∃ inner, written.text ++ rest = '"' :: inner ∧ readText inner = some (written.value, rest) := by
  refine ⟨written.glyphs.flatMap Glyph.text ++ '"' :: rest, by simp [text], ?_⟩
  rw [readText, readUnits_glyphs]
  rfl

end WrittenText

/-- The ways to write a character: as it is, with a letter, by its number, or as a surrogate pair
by the numbers of both halves. -/
inductive Spells (character : Char) : List Glyph → Prop
  | plain (allowed) : Spells character [.plain character allowed]
  | short (letter) (stands) : Spells character [.short letter character stands]
  | digits (a b c d unit) (shows) (same : unit = character.toNat) :
    Spells character [.digits a b c d unit shows]
  | pair (a b c d high) (shows) (a' b' c' d' low) (shows') (isHigh : isHighSurrogate high = true)
    (isLow : isLowSurrogate low = true)
    (same : character.toNat = 0x10000 + (high - 0xD800) * 1024 + (low - 0xDC00)) :
    Spells character [.digits a b c d high shows, .digits a' b' c' d' low shows']

/-- The number of a character is no half of a surrogate pair. -/
theorem not_surrogate (character : Char) :
    isHighSurrogate character.toNat = false ∧ isLowSurrogate character.toNat = false := by
  have valid : character.toNat < 0xD800 ∨ 0xDFFF < character.toNat := by
    rcases character.valid with low | ⟨high, -⟩
    · exact .inl low
    · exact .inr high
  simp only [isHighSurrogate, isLowSurrogate, Bool.and_eq_false_iff, decide_eq_false_iff_not]
  omega

/-- A number that is no first half of a pair stands on its own. -/
theorem joinPairs_of_not_high {unit : Nat} (single : isHighSurrogate unit = false)
    (rest : List (Char ⊕ Nat)) : joinPairs (.inr unit :: rest) = ofUnit unit :: joinPairs rest := by
  rcases rest with _ | ⟨_ | low, rest⟩
  · simp [joinPairs]
  · simp [joinPairs]
  · rw [joinPairs, single]
    rfl

/-- A text of characters means these, however each of them is written. -/
theorem WrittenText.value_of_spelled {characters : List Char} {spellings : List (List Glyph)}
    (spelled : List.Forall₂ Spells characters spellings) :
    (WrittenText.mk spellings.flatten).value = characters.map some := by
  rw [value]
  induction spelled with
  | nil => rfl
  | @cons character spelling _ others here _ inductionHypothesis =>
    rw [List.flatten_cons, List.map_append, List.map_cons, ← inductionHypothesis]
    generalize others.flatten.map Glyph.unit = rest
    cases here with
    | plain allowed => simp [Glyph.unit, joinPairs]
    | short letter stands => simp [Glyph.unit, joinPairs]
    | digits a b c d unit shows same =>
      obtain ⟨notHigh, notLow⟩ := not_surrogate character
      subst same
      rw [List.map_singleton, Glyph.unit, List.singleton_append, joinPairs_of_not_high notHigh,
        ofUnit, notHigh, notLow]
      simp
    | pair a b c d high shows a' b' c' d' low shows' isHigh isLow same =>
      simp [Glyph.unit, joinPairs, isHigh, isLow, ← same]

/-- A text written with its characters as they are. -/
def WrittenText.plain (characters : List Char)
    (allowed : ∀ character ∈ characters, character ≠ '"' ∧ character ≠ '\\' ∧ ¬ character < ' ') :
    WrittenText :=
  ⟨characters.pmap .plain allowed⟩

/-! ### Numbers -/

/-- Decimal digits, at least one. -/
structure Digits where
  text : List Char
  filled : text ≠ []
  digits : ∀ character ∈ text, Numeral.isDigit character = true

/-- What goes on without a digit. -/
def StopsDigits (rest : List Char) : Prop :=
  ∀ character ∈ rest.head?, Numeral.isDigit character = false

/-- Digits are taken up to what stops them. -/
theorem Digits.span (digits : Digits) {rest : List Char} (stops : StopsDigits rest) :
    (digits.text ++ rest).takeWhile Numeral.isDigit = digits.text ∧
      (digits.text ++ rest).dropWhile Numeral.isDigit = rest := by
  rw [List.takeWhile_append_of_pos digits.digits, List.dropWhile_append_of_pos digits.digits]
  cases rest with
  | nil => simp
  | cons first others =>
    have stopped := stops first rfl
    simp [stopped]

/-- What ends a value stops its digits. -/
theorem Ends.stopsDigits {rest : List Char} (ends : Ends rest) : StopsDigits rest := by
  intro character first
  rcases ends character first with blank | closing
  · simp only [isBlank, Bool.or_eq_true, decide_eq_true_eq] at blank
    rcases blank with ((rfl | rfl) | rfl) | rfl <;> decide
  · simp only [List.mem_cons, List.not_mem_nil, or_false] at closing
    rcases closing with rfl | rfl | rfl <;> decide

/-- A character that goes on with a number does not end it. -/
theorem Ends.head_ne {character : Char} {rest : List Char} (ends : Ends (character :: rest))
    {other : Char} (inNumber : other ∈ ['.', 'e', 'E']) : character ≠ other := by
  rintro rfl
  have ended := ends character rfl
  simp only [List.mem_cons, List.not_mem_nil, or_false] at inNumber
  rcases inNumber with rfl | rfl | rfl <;> exact absurd ended (by decide)

/-- An exponent: its mark, perhaps a sign, and digits. -/
structure WrittenExponent where
  mark : Char
  marked : mark = 'e' ∨ mark = 'E'
  sign : Option Char
  signed : ∀ character ∈ sign, character = '+' ∨ character = '-'
  digits : Digits

namespace WrittenExponent

/-- How an exponent is written. -/
def text (written : WrittenExponent) : List Char :=
  written.mark :: (written.sign.toList ++ written.digits.text)

/-- The exponent that is meant. -/
def exponent (written : WrittenExponent) : Exponent :=
  ⟨written.sign = some '-', written.digits.text⟩

/-- The sign of an exponent is split off its digits. -/
theorem splitSign_append (written : WrittenExponent) (rest : List Char) :
    Numeral.splitSign (written.sign.toList ++ (written.digits.text ++ rest)) =
      (written.exponent.negative, written.digits.text ++ rest) := by
  cases sign : written.sign with
  | none =>
    cases listed : written.digits.text with
    | nil => exact absurd listed written.digits.filled
    | cons first others =>
      have digit := written.digits.digits first (by simp [listed])
      have noMinus : first ≠ '-' := by
        rintro rfl
        exact absurd digit (by decide)
      have noPlus : first ≠ '+' := by
        rintro rfl
        exact absurd digit (by decide)
      rw [exponent, sign, Option.toList_none, List.nil_append, List.cons_append,
        Numeral.splitSign.eq_3 _ (by simp [noMinus]) (by simp [noPlus])]
      rfl
  | some character =>
    rcases written.signed character sign with rfl | rfl
    · simp [exponent, sign, Numeral.splitSign]
    · simp [exponent, sign, Numeral.splitSign]

/-- A written exponent is read. -/
theorem readExponent_text (written : WrittenExponent) {rest : List Char}
    (stops : StopsDigits rest) :
    readExponent (written.text ++ rest) = some (some written.exponent, rest) := by
  obtain ⟨taken, left⟩ := written.digits.span stops
  have filled : written.digits.text.isEmpty = false := by simp [written.digits.filled]
  rw [text, List.cons_append, List.append_assoc, readExponent, if_pos written.marked,
    splitSign_append]
  simp only [taken, left, filled]
  rfl

/-- Nothing is read if there is no exponent. -/
theorem readExponent_none {rest : List Char} (ends : Ends rest) :
    readExponent rest = some (none, rest) := by
  cases rest with
  | nil => rfl
  | cons first others =>
    have small : first ≠ 'e' := ends.head_ne (by simp)
    have capital : first ≠ 'E' := ends.head_ne (by simp)
    simp [readExponent, small, capital]

end WrittenExponent

/-- A digit is no blank and starts no other value. -/
theorem not_isBlank_of_isDigit {character : Char} (digit : Numeral.isDigit character = true) :
    isBlank character = false ∧ character ∉ ['"', '[', ']', '\x7b', 't', 'f', 'n'] := by
  have other (letter : Char) (single : Numeral.isDigit letter = false) : character ≠ letter := by
    rintro rfl
    exact absurd digit (by simp [single])
  constructor
  · simp [isBlank, other _ (show Numeral.isDigit ' ' = false by decide),
      other _ (show Numeral.isDigit '\t' = false by decide),
      other _ (show Numeral.isDigit '\n' = false by decide),
      other _ (show Numeral.isDigit '\r' = false by decide)]
  · intro listed
    have none : ['"', '[', ']', '\x7b', 't', 'f', 'n'].all fun letter =>
      !Numeral.isDigit letter := by decide
    simpa [digit] using List.all_eq_true.mp none character listed

/-- A number: perhaps a minus, digits with a zero at the front only if there are no others, and
perhaps a fraction and an exponent. -/
structure WrittenNumber where
  negative : Bool
  whole : Digits
  leading : whole.text.head? = some '0' → whole.text = ['0']
  fraction : Option Digits
  exponent : Option WrittenExponent

namespace WrittenNumber

/-- How a fraction is written. -/
def fractionText (written : WrittenNumber) : List Char :=
  match written.fraction with
  | some digits => '.' :: digits.text
  | none => []

/-- How an exponent is written. -/
def exponentText (written : WrittenNumber) : List Char :=
  match written.exponent with
  | some exponent => exponent.text
  | none => []

/-- How a number is written. -/
def text (written : WrittenNumber) : List Char :=
  (if written.negative then ['-'] else []) ++
    (written.whole.text ++ (written.fractionText ++ written.exponentText))

/-- The number that is meant. -/
def number (written : WrittenNumber) : Number :=
  ⟨written.negative, written.whole.text, written.fraction.map Digits.text,
    written.exponent.map WrittenExponent.exponent⟩

/-- An exponent, or what ends a number, stops its digits. -/
theorem stopsDigits_exponentText (written : WrittenNumber) {rest : List Char} (ends : Ends rest) :
    StopsDigits (written.exponentText ++ rest) := by
  rw [exponentText]
  cases written.exponent with
  | none => exact ends.stopsDigits
  | some exponent =>
    intro character first
    obtain rfl : exponent.mark = character := by simpa [WrittenExponent.text] using first
    rcases exponent.marked with small | capital
    · rw [small]
      decide
    · rw [capital]
      decide

/-- An exponent is read, and so is none. -/
theorem readExponent_exponentText (written : WrittenNumber) {rest : List Char}
    (ends : Ends rest) :
    readExponent (written.exponentText ++ rest) =
      some (written.exponent.map WrittenExponent.exponent, rest) := by
  rw [exponentText]
  cases written.exponent with
  | none => exact WrittenExponent.readExponent_none ends
  | some exponent => exact exponent.readExponent_text ends.stopsDigits

/-- A fraction, or what comes after the digits before it, stops these digits. -/
theorem stopsDigits_fractionText (written : WrittenNumber) {rest : List Char} (ends : Ends rest) :
    StopsDigits (written.fractionText ++ (written.exponentText ++ rest)) := by
  rw [fractionText]
  cases written.fraction with
  | none => exact written.stopsDigits_exponentText ends
  | some digits =>
    intro character first
    obtain rfl : '.' = character := by simpa using first
    decide

/-- Neither an exponent nor what ends a number starts with a point. -/
theorem exponentText_ne_point (written : WrittenNumber) {rest : List Char} (ends : Ends rest)
    (others : List Char) : written.exponentText ++ rest ≠ '.' :: others := by
  rw [exponentText]
  cases written.exponent with
  | none =>
    rintro rfl
    have other : '.' ≠ '.' := ends.head_ne (by simp)
    exact other rfl
  | some exponent =>
    intro same
    obtain ⟨pointed, -⟩ := List.cons.inj same
    rcases exponent.marked with small | capital
    · exact absurd (pointed.symm.trans small) (by decide)
    · exact absurd (pointed.symm.trans capital) (by decide)

/-- A fraction is read, and so is none. -/
theorem readFraction_fractionText (written : WrittenNumber) {rest : List Char}
    (ends : Ends rest) :
    readFraction (written.fractionText ++ (written.exponentText ++ rest)) =
      some (written.fraction.map Digits.text, written.exponentText ++ rest) := by
  rw [fractionText]
  cases written.fraction with
  | none =>
    rw [List.nil_append, readFraction]
    · rfl
    · exact written.exponentText_ne_point ends
  | some digits =>
    obtain ⟨taken, left⟩ := digits.span (written.stopsDigits_exponentText ends)
    rw [List.cons_append, readFraction, taken, left, if_neg (by simp [digits.filled])]
    rfl

/-- The digits before the point are read. -/
theorem readWhole_whole (written : WrittenNumber) {rest : List Char} (stops : StopsDigits rest) :
    readWhole (written.whole.text ++ rest) = some (written.whole.text, rest) := by
  obtain ⟨taken, left⟩ := written.whole.span stops
  rw [readWhole, taken, left]
  cases listed : written.whole.text with
  | nil => exact absurd listed written.whole.filled
  | cons first others =>
    have single : ¬ (first = '0' ∧ others ≠ []) := by
      rintro ⟨rfl, more⟩
      have alone := written.leading (by rw [listed]; rfl)
      rw [listed] at alone
      exact more (List.cons.inj alone).2
    exact if_neg single

/-- A number without its minus is read in three parts. -/
theorem readUnsigned_append (written : WrittenNumber) {rest : List Char} (ends : Ends rest) :
    (do
      let (whole, afterWhole) ← readWhole (written.whole.text ++
        (written.fractionText ++ (written.exponentText ++ rest)))
      let (fraction, afterFraction) ← readFraction afterWhole
      let (exponent, last) ← readExponent afterFraction
      return (Number.mk written.negative whole fraction exponent, last)) =
        some (written.number, rest) := by
  rw [written.readWhole_whole (written.stopsDigits_fractionText ends)]
  simp only [Option.bind_eq_bind, Option.bind_some]
  rw [written.readFraction_fractionText ends]
  simp only [Option.bind_some]
  rw [written.readExponent_exponentText ends]
  rfl

/-- The digits of a number do not start with a minus. -/
theorem whole_ne_minus (written : WrittenNumber) (rest others : List Char) :
    written.whole.text ++ rest ≠ '-' :: others := by
  cases listed : written.whole.text with
  | nil => exact absurd listed written.whole.filled
  | cons first more =>
    intro same
    have digit := written.whole.digits first (by simp [listed])
    rw [(List.cons.inj same).1] at digit
    exact absurd digit (by decide)

/-- A written number is read in front of what ends it. -/
theorem readNumber_append (written : WrittenNumber) {rest : List Char} (ends : Ends rest) :
    readNumber (written.text ++ rest) = some (written.number, rest) := by
  have unsigned := written.readUnsigned_append ends
  cases sign : written.negative with
  | true =>
    simp only [text, sign, if_true, List.cons_append, List.nil_append, List.append_assoc]
    rw [sign] at unsigned
    rw [readNumber]
    exact unsigned
  | false =>
    simp only [text, sign, Bool.false_eq_true, if_false, List.nil_append, List.append_assoc]
    rw [sign] at unsigned
    rw [readNumber]
    · exact unsigned
    · exact fun others => written.whole_ne_minus _ others

/-- A number starts with a minus or with a digit. -/
theorem exists_head (written : WrittenNumber) :
    ∃ first others, written.text = first :: others ∧
      (first = '-' ∨ Numeral.isDigit first = true) := by
  cases sign : written.negative with
  | true => exact ⟨'-', _, by simp [text, sign]; rfl, .inl rfl⟩
  | false =>
    cases listed : written.whole.text with
    | nil => exact absurd listed written.whole.filled
    | cons first more =>
      refine ⟨first, more ++ (written.fractionText ++ written.exponentText),
        by simp [text, sign, listed], .inr ?_⟩
      exact written.whole.digits first (by simp [listed])

/-- A number starts with a character that is no blank and starts no other value. -/
theorem exists_solid (written : WrittenNumber) :
    ∃ first others, written.text = first :: others ∧ isBlank first = false ∧
      first ∉ ['"', '[', ']', '\x7b', 't', 'f', 'n'] := by
  obtain ⟨first, others, listed, rfl | digit⟩ := written.exists_head
  · exact ⟨'-', others, listed, by decide, by decide⟩
  · exact ⟨first, others, listed, not_isBlank_of_isDigit digit⟩

end WrittenNumber

end BenchFigures.Json
