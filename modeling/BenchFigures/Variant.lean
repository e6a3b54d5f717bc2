/-!
# Benchmarked variants

A benchmark runs each combination of two decoding and two encoding strategies.
What is known of all four is kept in a record with one place for each, so that a
value cannot be missing or stand twice. The fixed order of the variants is the
order in which result directories are searched and summary lines are written.
-/

namespace BenchFigures

/-- How the virtual machine decodes an instruction. -/
inductive Decoding where
  | bitmask
  | union
  deriving DecidableEq, Repr

/-- How the virtual machine encodes its operands. -/
inductive Encoding where
  | register
  | stack
  deriving DecidableEq, Repr

/-- One combination of decoding and encoding. -/
structure Variant where
  decoding : Decoding
  encoding : Encoding
  deriving DecidableEq, Repr

/-- The name of a decoding strategy in messages and tables. -/
def Decoding.name : Decoding → String
  | .bitmask => "bitmask"
  | .union => "union"

/-- The name of an encoding strategy in messages and tables. -/
def Encoding.name : Encoding → String
  | .register => "register"
  | .stack => "stack"

namespace Variant

/-- Every variant, in the fixed order. -/
def all : List Variant :=
  [⟨.bitmask, .register⟩, ⟨.bitmask, .stack⟩, ⟨.union, .register⟩, ⟨.union, .stack⟩]

/-- The name in messages and tables. -/
def name (variant : Variant) : String := variant.decoding.name ++ "-" ++ variant.encoding.name

/-- The name of the directory that holds the results: the two initials. -/
def directoryName : Variant → String
  | ⟨.bitmask, .register⟩ => "br"
  | ⟨.bitmask, .stack⟩ => "bs"
  | ⟨.union, .register⟩ => "ur"
  | ⟨.union, .stack⟩ => "us"

/-- The place of a variant in the fixed order. -/
def position (variant : Variant) : Nat := all.idxOf variant

/-- Every variant stands in the fixed order. -/
theorem mem_all (variant : Variant) : variant ∈ all := by
  rcases variant with ⟨decoding, encoding⟩
  cases decoding <;> cases encoding <;> decide

/-- Different variants have different directories. -/
theorem directoryName_injective {first second : Variant}
    (same : first.directoryName = second.directoryName) : first = second := by
  rcases first with ⟨decoding, encoding⟩
  rcases second with ⟨decoding', encoding'⟩
  cases decoding <;> cases encoding <;> cases decoding' <;> cases encoding' <;>
    first | rfl | (simp [directoryName] at same)

end Variant

/-- One value for each variant. -/
structure PerVariant (α : Type) where
  bitmaskRegister : α
  bitmaskStack : α
  unionRegister : α
  unionStack : α
  deriving DecidableEq, Repr

namespace PerVariant

variable {α β : Type}

/-- The value of one variant. -/
def get (values : PerVariant α) : Variant → α
  | ⟨.bitmask, .register⟩ => values.bitmaskRegister
  | ⟨.bitmask, .stack⟩ => values.bitmaskStack
  | ⟨.union, .register⟩ => values.unionRegister
  | ⟨.union, .stack⟩ => values.unionStack

/-- The record whose value for each variant is given by a function. -/
def ofFunction (value : Variant → α) : PerVariant α :=
  ⟨value ⟨.bitmask, .register⟩, value ⟨.bitmask, .stack⟩, value ⟨.union, .register⟩,
    value ⟨.union, .stack⟩⟩

/-- Compute a value for each variant, in the fixed order. The first failure ends
the computation. -/
def forEach {m : Type → Type} [Monad m] (compute : Variant → m α) : m (PerVariant α) := do
  let bitmaskRegister ← compute ⟨.bitmask, .register⟩
  let bitmaskStack ← compute ⟨.bitmask, .stack⟩
  let unionRegister ← compute ⟨.union, .register⟩
  let unionStack ← compute ⟨.union, .stack⟩
  return ⟨bitmaskRegister, bitmaskStack, unionRegister, unionStack⟩

/-- The values in the fixed order. -/
def toList (values : PerVariant α) : List α := Variant.all.map values.get

@[simp] theorem get_ofFunction (value : Variant → α) (variant : Variant) :
    (ofFunction value).get variant = value variant := by
  rcases variant with ⟨decoding, encoding⟩
  cases decoding <;> cases encoding <;> rfl

/-- Two records that agree on every variant are equal. -/
theorem ext_get {first second : PerVariant α}
    (agree : ∀ variant, first.get variant = second.get variant) : first = second := by
  cases first
  cases second
  have bitmaskRegister := agree ⟨.bitmask, .register⟩
  have bitmaskStack := agree ⟨.bitmask, .stack⟩
  have unionRegister := agree ⟨.union, .register⟩
  have unionStack := agree ⟨.union, .stack⟩
  simp_all [get]

end PerVariant

end BenchFigures
