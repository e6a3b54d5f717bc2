import BenchFigures.Variant
import Mathlib

/-!
# Traversals that may fail

A traversal computes something for each element of a list, or for each variant in
the fixed order, and the first failure ends it. So it succeeds exactly if every
computation does, and otherwise it fails with the failure of the first element whose
computation fails.
-/

namespace BenchFigures

variable {α β ε ε' : Type}

/-- Saying a failure in other words does not touch a success. -/
@[simp] theorem mapError_eq_ok_iff (rephrase : ε → ε') (computed : Except ε α) (value : α) :
    computed.mapError rephrase = .ok value ↔ computed = .ok value := by
  cases computed <;> simp [Except.mapError]

/-- A failure in other words is a failure. -/
theorem mapError_eq_error_iff (rephrase : ε → ε') (computed : Except ε α) (fault : ε') :
    computed.mapError rephrase = .error fault ↔
      ∃ inner, computed = .error inner ∧ fault = rephrase inner := by
  cases computed <;> simp [Except.mapError, eq_comm]

/-- A computation whose value is changed succeeds with a changed value. -/
theorem map_eq_ok_iff (change : α → β) (computed : Except ε α) (value : β) :
    computed.map change = .ok value ↔ ∃ inner, computed = .ok inner ∧ change inner = value := by
  cases computed <;> simp [Except.map]

/-- Changing a value does not touch a failure. -/
theorem map_eq_error_iff (change : α → β) (computed : Except ε α) (fault : ε) :
    computed.map change = .error fault ↔ computed = .error fault := by
  cases computed <;> simp [Except.map]

/-- A computation of two parts succeeds if both do. -/
theorem bind_eq_ok_iff (first : Except ε α) (next : α → Except ε β) (value : β) :
    first.bind next = .ok value ↔
      ∃ middle, first = .ok middle ∧ next middle = .ok value := by
  cases first <;> simp [Except.bind]

/-- A computation of two parts fails as the first part does or, after that has
succeeded, as the second part does. -/
theorem bind_eq_error_iff (first : Except ε α) (next : α → Except ε β) (fault : ε) :
    first.bind next = .error fault ↔
      first = .error fault ∨ ∃ middle, first = .ok middle ∧ next middle = .error fault := by
  cases first <;> simp [Except.bind]

/-- A computation that succeeds computes something. -/
theorem exists_of_isOk {computed : Except ε α} (succeeds : computed.isOk = true) :
    ∃ value, computed = .ok value := by
  cases computed with
  | error fault => simp [Except.isOk, Except.toBool] at succeeds
  | ok value => exact ⟨value, rfl⟩

/-- A computation whose value passes a test computes something that does. -/
theorem exists_of_any {computed : Except ε α} {test : α → Bool}
    (passes : computed.toOption.any test = true) :
    ∃ value, computed = .ok value ∧ test value = true := by
  cases computed with
  | error fault => simp [Except.toOption] at passes
  | ok value => exact ⟨value, rfl, by simpa [Except.toOption] using passes⟩

/-- A computation that fails for something that passes a test fails for it. -/
theorem exists_error_of_any {computed : Except ε α} {test : ε → Bool}
    (fails : (match computed with | .error fault => test fault | .ok _ => false) = true) :
    ∃ fault, computed = .error fault ∧ test fault = true := by
  cases computed with
  | error fault => exact ⟨fault, rfl, fails⟩
  | ok value => cases fails

/-- A computation of two parts in other words is that of the parts in other words. -/
theorem mapError_bind (rephrase : ε → ε') (first : Except ε α) (next : α → Except ε β) :
    (first.bind next).mapError rephrase =
      (first.mapError rephrase).bind fun middle => (next middle).mapError rephrase := by
  cases first <;> rfl

/-- A traversal of a list in other words is that of its computations in other words. -/
theorem mapError_mapM (rephrase : ε → ε') (compute : α → Except ε β) (list : List α) :
    (list.mapM compute).mapError rephrase =
      list.mapM fun element => (compute element).mapError rephrase := by
  induction list with
  | nil => rfl
  | cons element rest inductionHypothesis =>
    rw [List.mapM_cons, List.mapM_cons, ← inductionHypothesis]
    cases compute element with
    | error fault => rfl
    | ok value => cases rest.mapM compute <;> rfl

/-- Two lists look the same through functions exactly if their elements do, one by one. -/
theorem map_eq_map_iff_forall₂ {γ : Type} (first : α → γ) (second : β → γ) (list : List α)
    (other : List β) :
    list.map first = other.map second ↔
      List.Forall₂ (fun a b => first a = second b) list other := by
  rw [← List.forall₂_eq_eq_eq, List.forall₂_map_left_iff, List.forall₂_map_right_iff]

/-- Traversals of two lists are the same if what they compute is, element by element. -/
theorem mapM_congr_of_forall₂ {compute : α → Except ε β} {list other : List α}
    (same : List.Forall₂ (fun first second => compute first = compute second) list other) :
    list.mapM compute = other.mapM compute := by
  induction same with
  | nil => rfl
  | cons here _ inductionHypothesis =>
    rw [List.mapM_cons, List.mapM_cons, here, inductionHypothesis]

/-- A traversal of a list succeeds with exactly what it computes for each element. -/
theorem mapM_eq_ok_iff (compute : α → Except ε β) (list : List α) (values : List β) :
    list.mapM compute = .ok values ↔
      List.Forall₂ (fun element value => compute element = .ok value) list values := by
  induction list generalizing values with
  | nil => cases values <;> simp [pure, Except.pure]
  | cons element rest inductionHypothesis =>
    rw [List.mapM_cons, List.forall₂_cons_left_iff]
    cases computed : compute element with
    | error fault => simp [bind, Except.bind]
    | ok value =>
      cases others : rest.mapM compute with
      | error fault => simp [bind, Except.bind, ← inductionHypothesis, others]
      | ok computedRest =>
        simp [bind, Except.bind, pure, Except.pure, ← inductionHypothesis, others, eq_comm]

/-- A traversal without a reason to fail succeeds with exactly what it computes for each
element. -/
theorem mapM_eq_some_iff (compute : α → Option β) (list : List α) (values : List β) :
    list.mapM compute = some values ↔
      List.Forall₂ (fun element value => compute element = some value) list values := by
  induction list generalizing values with
  | nil => cases values <;> simp
  | cons element rest inductionHypothesis =>
    rw [List.mapM_cons, List.forall₂_cons_left_iff]
    cases computed : compute element with
    | none => simp
    | some value =>
      cases others : rest.mapM compute with
      | none => simp [← inductionHypothesis, others]
      | some computedRest => simp [← inductionHypothesis, others, eq_comm]

/-- A traversal of a list fails exactly as its first failing element does. -/
theorem mapM_eq_error_iff (compute : α → Except ε β) (list : List α) (fault : ε) :
    list.mapM compute = .error fault ↔
      ∃ earlier element later, list = earlier ++ element :: later ∧
        (∀ other ∈ earlier, ∃ value, compute other = .ok value) ∧
        compute element = .error fault := by
  induction list with
  | nil => simp [pure, Except.pure]
  | cons first rest inductionHypothesis =>
    rw [List.mapM_cons]
    constructor
    · intro failed
      cases computed : compute first with
      | error firstFault =>
        have same : firstFault = fault := by simpa [computed, bind, Except.bind] using failed
        exact ⟨[], first, rest, rfl, by simp, same ▸ computed⟩
      | ok value =>
        have restFailed : rest.mapM compute = .error fault := by
          cases others : rest.mapM compute with
          | error restFault => simpa [computed, others, bind, Except.bind] using failed
          | ok values => simp [computed, others, bind, Except.bind, pure, Except.pure] at failed
        obtain ⟨earlier, element, later, split, succeeded, elementFailed⟩ :=
          inductionHypothesis.1 restFailed
        refine ⟨first :: earlier, element, later, by simp [split], ?_, elementFailed⟩
        exact List.forall_mem_cons.2 ⟨⟨value, computed⟩, succeeded⟩
    · rintro ⟨earlier, element, later, split, succeeded, elementFailed⟩
      cases earlier with
      | nil =>
        obtain ⟨rfl, rfl⟩ : first = element ∧ rest = later := by simpa using split
        simp [elementFailed, bind, Except.bind]
      | cons head earlier =>
        obtain ⟨rfl, restSplit⟩ : first = head ∧ rest = earlier ++ element :: later := by
          simpa using split
        obtain ⟨⟨value, computed⟩, restSucceeded⟩ := List.forall_mem_cons.1 succeeded
        have restFailed : rest.mapM compute = .error fault :=
          inductionHypothesis.2 ⟨earlier, element, later, restSplit, restSucceeded, elementFailed⟩
        simp [computed, restFailed, bind, Except.bind]

/-- A traversal of a list succeeds exactly if all its computations do. -/
theorem exists_mapM_eq_ok_iff (compute : α → Except ε β) (list : List α) :
    (∃ values, list.mapM compute = .ok values) ↔
      ∀ element ∈ list, ∃ value, compute element = .ok value := by
  constructor
  · rintro ⟨values, succeeded⟩
    have pointwise := (mapM_eq_ok_iff compute list values).1 succeeded
    have computed := pointwise.imp fun _ value same => And.intro (Exists.intro value same) same
    exact ((List.forall₂_and_left _ _).1 computed).1
  · intro every
    cases traversed : list.mapM compute with
    | ok values => exact ⟨values, rfl⟩
    | error fault =>
      obtain ⟨earlier, element, later, split, -, failed⟩ :=
        (mapM_eq_error_iff compute list fault).1 traversed
      obtain ⟨value, computed⟩ := every element (by simp [split])
      exact absurd (failed.symm.trans computed) (by simp)

namespace PerVariant

/-- The values in the fixed order determine the record. -/
theorem toList_inj {first second : PerVariant α} :
    first.toList = second.toList ↔ first = second := by
  constructor
  · intro same
    apply ext_get
    intro variant
    exact List.map_inj_left.1 same variant variant.mem_all
  · exact congrArg toList

/-- The traversal of the variants is that of the list of them. -/
theorem toList_forEach {m : Type → Type} [Monad m] [LawfulMonad m] {α : Type}
    (compute : Variant → m α) : toList <$> forEach compute = Variant.all.mapM compute := by
  simp [forEach, Variant.all, toList, get]

/-- A traversal of the variants succeeds with exactly what it computes for each. -/
theorem forEach_eq_ok_iff (compute : Variant → Except ε α) (values : PerVariant α) :
    forEach compute = .ok values ↔ ∀ variant, compute variant = .ok (values.get variant) := by
  have listed : forEach compute = .ok values ↔ Variant.all.mapM compute = .ok values.toList := by
    rw [← toList_forEach]
    cases forEach compute with
    | error fault => simp [Functor.map, Except.map]
    | ok computed => simp [Functor.map, Except.map, toList_inj]
  rw [listed, mapM_eq_ok_iff, toList, List.forall₂_map_right_iff, List.forall₂_same]
  constructor
  · intro every variant
    exact every variant variant.mem_all
  · intro every variant _
    exact every variant

/-- A traversal of the variants fails exactly as the first failing one of them does. -/
theorem forEach_eq_error_iff (compute : Variant → Except ε α) (fault : ε) :
    forEach compute = .error fault ↔
      ∃ earlier variant later, Variant.all = earlier ++ variant :: later ∧
        (∀ other ∈ earlier, ∃ value, compute other = .ok value) ∧
        compute variant = .error fault := by
  rw [← mapM_eq_error_iff, ← toList_forEach]
  cases forEach compute <;> simp [Functor.map, Except.map]

end PerVariant

end BenchFigures
