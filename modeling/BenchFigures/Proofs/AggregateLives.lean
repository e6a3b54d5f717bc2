import BenchFigures.Bench
import BenchFigures.Proofs.Actions

/-!
# Lives of aggregates

Names at a bench come to hold other aggregates, so the history of an aggregate is not the
history of its name. Seen backwards, what is under a name after a step was under one name
before it, unless the step built it; a copy comes from another name. The steps that an
aggregate went through are those on the way back to the step that built it.

A step does one of three things to what is under a name: it builds it, stores its speedup,
or leaves it as it was. From this follows by induction on the steps that an aggregate has
the statistics it was built with, and the speedup of the one comparison on its way, if
there is one. Copies share the part of the way that lies before the copying.
-/

namespace BenchFigures

namespace Bench

variable {α : Type} [Scalar α]

/-! ### Ways back -/

/-- The bench after some steps. -/
def after (bench : Bench α) (steps : List (Step α)) : Bench α :=
  steps.foldl (fun bench step => (bench.take step).1) bench

/-- The name that held before a step what a name holds after it. There is none for what
the step built. -/
def source? (bench : Bench α) (step : Step α) (name : String) : Option String :=
  match step, (bench.take step).2 with
  | .build own _ _ _, .built _ => if name = own then none else some name
  | .copy original target, .copied => if name = target then some original else some name
  | _, _ => some name

/-- Some steps lead from what is under one name before them to what is under another, or
the same, after them. -/
def Leads (bench : Bench α) : List (Step α) → String → String → Prop
  | [], before, now => before = now
  | step :: later, before, now =>
    ∃ next, bench.source? step next = some before ∧ Leads (bench.take step).1 later next now

/-- A step builds what is under a name from a sample, and succeeds. -/
def Makes (step : Step α) (name : String) (sample : Sample α) : Prop :=
  ∃ indexes elapsed meanDeviations, step = .build name indexes elapsed meanDeviations ∧
    Sample.ofColumns indexes elapsed meanDeviations = .ok sample

/-- A step compares what is under a name with a baseline, and succeeds. -/
def Compares (bench : Bench α) (step : Step α) (name : String) (baseline : Aggregate α) : Prop :=
  ∃ other speedup own runs, step = .compare name other ∧ bench.get? other = some baseline ∧
    (bench.take step).2 = .compared speedup own runs

/-- What is under a name after some steps went through one of them: the step after the
earlier ones, which left it under the name `held`. -/
def WentThrough (steps : List (Step α)) (name : String) (earlier : List (Step α)) (step : Step α)
    (held : String) : Prop :=
  ∃ later, steps = earlier ++ step :: later ∧
    (empty.after (earlier ++ [step])).Leads later held name

/-- What is under a name after some steps was built from a sample by the step after the
earlier ones. -/
def BuiltAfter (steps : List (Step α)) (name : String) (earlier : List (Step α))
    (sample : Sample α) : Prop :=
  ∃ step held, WentThrough steps name earlier step held ∧ Makes step held sample

/-- What is under a name after some steps was successfully compared with a baseline by the
step after the earlier ones. -/
def ComparedAfter (steps : List (Step α)) (name : String) (earlier : List (Step α))
    (baseline : Aggregate α) : Prop :=
  ∃ step held, WentThrough steps name earlier step held ∧
    (empty.after earlier).Compares step held baseline

/-- An aggregate under a name is what the way to this name made of it. One step built it.
It has no speedup unless one step compared it, and then it is the speedup of this
comparison. -/
structure Lived (steps : List (Step α)) (name : String) (aggregate : Aggregate α) : Prop where
  built : ∃ earlier sample, BuiltAfter steps name earlier sample ∧
    (∀ other again, BuiltAfter steps name other again → other = earlier ∧ again = sample) ∧
    { aggregate with speedup := none } = Aggregate.ofSample sample
  compared :
    (aggregate.speedup = none ∧ ∀ earlier baseline, ¬ ComparedAfter steps name earlier baseline) ∨
      ∃ earlier baseline, ComparedAfter steps name earlier baseline ∧
        (∀ other again, ComparedAfter steps name other again →
          other = earlier ∧ again = baseline) ∧
        aggregate.speedup = some (baseline.average / aggregate.average - Scalar.ofInt 1)

@[simp] theorem after_nil (bench : Bench α) : bench.after [] = bench := rfl

@[simp] theorem after_concat (bench : Bench α) (steps : List (Step α)) (step : Step α) :
    bench.after (steps ++ [step]) = ((bench.after steps).take step).1 := by
  simp [after]

/-- Steps lead as their parts do, one after the other. -/
theorem leads_concat_iff (bench : Bench α) (steps : List (Step α)) (step : Step α)
    (before now : String) :
    bench.Leads (steps ++ [step]) before now ↔
      ∃ middle, (bench.after steps).source? step now = some middle ∧
        bench.Leads steps before middle := by
  induction steps generalizing bench before with
  | nil => simp [Leads, and_comm, eq_comm]
  | cons first rest inductionHypothesis =>
    have unfolded : bench.after (first :: rest) = (bench.take first).1.after rest := rfl
    simp only [List.cons_append, Leads, inductionHypothesis, unfolded]
    constructor
    · rintro ⟨next, came, middle, last, led⟩
      exact ⟨middle, last, next, came, led⟩
    · rintro ⟨middle, last, next, came, led⟩
      exact ⟨next, came, middle, last, led⟩

/-- What is under a name after a last step went through that step and through what it went
through before. -/
theorem wentThrough_concat_iff (steps earlier : List (Step α)) (last step : Step α)
    (name held : String) :
    WentThrough (steps ++ [last]) name earlier step held ↔
      (earlier = steps ∧ step = last ∧ held = name) ∨
        ∃ before, (empty.after steps).source? last name = some before ∧
          WentThrough steps before earlier step held := by
  constructor
  · rintro ⟨later, split, led⟩
    rcases List.eq_nil_or_concat' later with rfl | ⟨rest, final, rfl⟩
    · obtain ⟨rfl, same⟩ := List.append_inj' split rfl
      exact .inl ⟨rfl, (List.cons.inj same).1.symm, led⟩
    · rw [← List.cons_append, ← List.append_assoc] at split
      obtain ⟨rfl, same⟩ := List.append_inj' split rfl
      obtain rfl := (List.cons.inj same).1
      obtain ⟨before, came, ledBefore⟩ := (leads_concat_iff _ _ _ _ _).1 led
      have joined : (empty.after (earlier ++ [step])).after rest =
          empty.after (earlier ++ step :: rest) := by
        simp [after]
      exact .inr ⟨before, joined ▸ came, rest, rfl, ledBefore⟩
  · rintro (⟨rfl, rfl, rfl⟩ | ⟨before, came, later, rfl, led⟩)
    · exact ⟨[], rfl, rfl⟩
    · have joined : (empty.after (earlier ++ [step])).after later =
          empty.after (earlier ++ step :: later) := by
        simp [after]
      exact ⟨later ++ [last], by simp, (leads_concat_iff _ _ _ _ _).2 ⟨before, joined ▸ came, led⟩⟩

/-! ### What a step does -/

/-- A step builds what is under a name. -/
structure Builds (bench : Bench α) (step : Step α) (name : String) (sample : Sample α) :
    Prop where
  makes : Makes step name sample
  source : bench.source? step name = none
  get : (bench.take step).1.get? name = some (.ofSample sample)

/-- A step stores the speedup of what is under a name. -/
structure Stores (bench : Bench α) (step : Step α) (name : String)
    (aggregate baseline : Aggregate α) : Prop where
  compares : bench.Compares step name baseline
  held : bench.get? name = some aggregate
  first : aggregate.speedup = none
  source : bench.source? step name = some name
  get : (bench.take step).1.get? name =
    some { aggregate with speedup := some (aggregate.speedupOver baseline) }

/-- A step leaves what is now under a name as it was under another, or the same. -/
structure Spares (bench : Bench α) (step : Step α) (name before : String) : Prop where
  source : bench.source? step name = some before
  get : (bench.take step).1.get? name = bench.get? before
  unmade : ∀ sample, ¬ Makes step name sample
  uncompared : ∀ baseline, ¬ bench.Compares step name baseline

omit [Scalar α] in
/-- Only building makes something. -/
theorem not_makes {step : Step α} {name : String} {sample : Sample α}
    (other : ∀ indexes elapsed meanDeviations,
      step ≠ .build name indexes elapsed meanDeviations) : ¬ Makes step name sample := by
  rintro ⟨indexes, elapsed, meanDeviations, same, -⟩
  exact other indexes elapsed meanDeviations same

/-- Only comparing compares something. -/
theorem not_compares {bench : Bench α} {step : Step α} {name : String} {baseline : Aggregate α}
    (other : ∀ against, step ≠ .compare name against) : ¬ bench.Compares step name baseline := by
  rintro ⟨against, _, _, _, same, -⟩
  exact other against same

/-- Building makes what is under the name, and nothing else. -/
theorem take_build_cases (bench : Bench α) (own : String) (indexes : List Int)
    (elapsed meanDeviations : List α) (name : String) :
    (∃ sample, bench.Builds (.build own indexes elapsed meanDeviations) name sample) ∨
      bench.Spares (.build own indexes elapsed meanDeviations) name name := by
  have uncompared (baseline : Aggregate α) :
      ¬ bench.Compares (.build own indexes elapsed meanDeviations) name baseline :=
    not_compares (by simp)
  cases made : Sample.ofColumns indexes elapsed meanDeviations with
  | error fault =>
    refine .inr ⟨by simp [source?, take, made], by simp [take, made], ?_, uncompared⟩
    rintro sample ⟨_, _, _, same, succeeded⟩
    obtain ⟨rfl, rfl, rfl, rfl⟩ := Step.build.inj same
    simp [made] at succeeded
  | ok sample =>
    by_cases same : name = own
    · subst same
      exact .inl ⟨sample, ⟨_, _, _, rfl, made⟩, by simp [source?, take, made],
        by simp [take, made, get?_put]⟩
    · refine .inr ⟨by simp [source?, take, made, same], by simp [take, made, get?_put, same], ?_,
        uncompared⟩
      exact fun sample => not_makes fun _ _ _ named => same (Step.build.inj named).1.symm

/-- Comparing stores a speedup under the name of the aggregate that has none yet. -/
theorem take_compare_cases (bench : Bench α) (own other name : String) :
    (∃ aggregate baseline, bench.Stores (.compare own other) name aggregate baseline) ∨
      bench.Spares (.compare own other) name name := by
  have source : bench.source? (.compare own other) name = some name := rfl
  have unmade (sample : Sample α) : ¬ Makes (.compare own other) name sample :=
    not_makes (by simp)
  have refused (same : (bench.take (.compare own other)).1 = bench)
      (failed : ∀ speedup own' runs,
        (bench.take (.compare own other)).2 ≠ .compared speedup own' runs) :
      bench.Spares (.compare own other) name name := by
    refine ⟨source, by rw [same], unmade, ?_⟩
    rintro baseline ⟨_, speedup, own', runs, -, -, succeeded⟩
    exact failed speedup own' runs succeeded
  cases held : bench.get? own with
  | none => exact .inr (refused (by simp [take, held]) (by simp [take, held]))
  | some aggregate =>
    cases found : bench.get? other with
    | none => exact .inr (refused (by simp [take, held, found]) (by simp [take, held, found]))
    | some baseline =>
      cases stored : aggregate.speedup with
      | some speedup =>
        have again := Aggregate.compare_of_some stored baseline
        exact .inr (refused (by simp [take, held, found, again])
          (by simp [take, held, found, again]))
      | none =>
        have first := Aggregate.compare_of_none stored baseline
        by_cases same : name = own
        · subst same
          have compared : bench.Compares (.compare name other) name baseline :=
            ⟨other, aggregate.speedupOver baseline, aggregate.count, baseline.count, rfl, found,
              by simp [take, held, found, first]⟩
          exact .inl ⟨aggregate, baseline, compared, held, stored, source,
            by simp [take, held, found, first, get?_put]⟩
        · refine .inr ⟨source, by simp [take, held, found, first, get?_put, same], unmade, ?_⟩
          exact fun _ => not_compares fun _ named => same (Step.compare.inj named).1.symm

/-- Copying changes no aggregate. -/
theorem take_copy_spares (bench : Bench α) (original target name : String) :
    ∃ before, bench.Spares (.copy original target) name before := by
  have uncompared (baseline : Aggregate α) :
      ¬ bench.Compares (.copy original target) name baseline :=
    not_compares (by simp)
  have unmade (sample : Sample α) : ¬ Makes (.copy original target) name sample :=
    not_makes (by simp)
  cases held : bench.get? original with
  | none => exact ⟨name, by simp [source?, take, held], by simp [take, held], unmade,
      uncompared⟩
  | some aggregate =>
    by_cases same : name = target
    · exact ⟨original, by simp [source?, take, held, same], by simp [take, held, get?_put, same],
        unmade, uncompared⟩
    · exact ⟨name, by simp [source?, take, held, same], by simp [take, held, get?_put, same],
        unmade, uncompared⟩

/-- Whatever a step is, it builds what is under a name, stores its speedup or spares it. -/
theorem take_cases (bench : Bench α) (step : Step α) (name : String) :
    (∃ sample, bench.Builds step name sample) ∨
      (∃ aggregate baseline, bench.Stores step name aggregate baseline) ∨
      ∃ before, bench.Spares step name before := by
  cases step with
  | build own indexes elapsed meanDeviations =>
    exact (bench.take_build_cases own indexes elapsed meanDeviations name).imp_right
      fun spared => .inr ⟨name, spared⟩
  | compare own other =>
    exact .inr ((bench.take_compare_cases own other name).imp_right fun spared => ⟨name, spared⟩)
  | copy original target => exact .inr (.inr (bench.take_copy_spares original target name))

/-! ### What a run does -/

/-- What a way does after a last step is what this step does, or what the way did before. -/
theorem exists_wentThrough_concat_iff (steps earlier : List (Step α)) (last : Step α)
    (name : String) (did : Step α → String → Prop) :
    (∃ step held, WentThrough (steps ++ [last]) name earlier step held ∧ did step held) ↔
      (earlier = steps ∧ did last name) ∨
        ∃ before, (empty.after steps).source? last name = some before ∧
          ∃ step held, WentThrough steps before earlier step held ∧ did step held := by
  simp only [wentThrough_concat_iff]
  constructor
  · rintro ⟨step, held, ⟨rfl, rfl, rfl⟩ | ⟨before, came, went⟩, done⟩
    · exact .inl ⟨rfl, done⟩
    · exact .inr ⟨before, came, step, held, went, done⟩
  · rintro (⟨rfl, done⟩ | ⟨before, came, step, held, went, done⟩)
    · exact ⟨last, name, .inl ⟨rfl, rfl, rfl⟩, done⟩
    · exact ⟨step, held, .inr ⟨before, came, went⟩, done⟩

/-- What is under a name was built by the last step or by an earlier one. -/
theorem builtAfter_concat_iff (steps earlier : List (Step α)) (last : Step α) (name : String)
    (sample : Sample α) :
    BuiltAfter (steps ++ [last]) name earlier sample ↔
      (earlier = steps ∧ Makes last name sample) ∨
        ∃ before, (empty.after steps).source? last name = some before ∧
          BuiltAfter steps before earlier sample :=
  exists_wentThrough_concat_iff steps earlier last name fun step held => Makes step held sample

/-- What is under a name was compared by the last step or by an earlier one. -/
theorem comparedAfter_concat_iff (steps earlier : List (Step α)) (last : Step α) (name : String)
    (baseline : Aggregate α) :
    ComparedAfter (steps ++ [last]) name earlier baseline ↔
      (earlier = steps ∧ (empty.after steps).Compares last name baseline) ∨
        ∃ before, (empty.after steps).source? last name = some before ∧
          ComparedAfter steps before earlier baseline := by
  refine (exists_wentThrough_concat_iff steps earlier last name fun step held =>
    (empty.after earlier).Compares step held baseline).trans ?_
  refine or_congr (and_congr_right ?_) .rfl
  rintro rfl
  exact .rfl

/-- What a step just built has no speedup, and nothing else ever happened to it. -/
theorem Builds.lived {steps : List (Step α)} {last : Step α} {name : String} {sample : Sample α}
    (builds : (empty.after steps).Builds last name sample) :
    Lived (steps ++ [last]) name (.ofSample sample) where
  built := by
    refine ⟨steps, sample, (builtAfter_concat_iff _ _ _ _ _).2 (.inl ⟨rfl, builds.makes⟩), ?_, rfl⟩
    intro other again built
    rcases (builtAfter_concat_iff _ _ _ _ _).1 built with ⟨rfl, made⟩ | ⟨before, came, -⟩
    · refine ⟨rfl, ?_⟩
      obtain ⟨_, _, _, rfl, here⟩ := builds.makes
      obtain ⟨_, _, _, same, there⟩ := made
      obtain ⟨-, rfl, rfl, rfl⟩ := Step.build.inj same
      exact Except.ok.inj (there.symm.trans here)
    · simp [builds.source] at came
  compared := by
    refine .inl ⟨rfl, ?_⟩
    intro earlier baseline compared
    rcases (comparedAfter_concat_iff _ _ _ _ _).1 compared with ⟨-, compares⟩ | ⟨before, came, -⟩
    · obtain ⟨_, _, _, rfl, -⟩ := builds.makes
      exact not_compares (by simp) compares
    · simp [builds.source] at came

/-- What a step spares has the life it had before. -/
theorem Spares.lived {steps : List (Step α)} {last : Step α} {name before : String}
    {aggregate : Aggregate α} (spares : (empty.after steps).Spares last name before)
    (lived : Lived steps before aggregate) : Lived (steps ++ [last]) name aggregate := by
  have builtAlike (earlier : List (Step α)) (sample : Sample α) :
      BuiltAfter (steps ++ [last]) name earlier sample ↔
        BuiltAfter steps before earlier sample := by
    simp [builtAfter_concat_iff, spares.unmade, spares.source]
  have comparedAlike (earlier : List (Step α)) (baseline : Aggregate α) :
      ComparedAfter (steps ++ [last]) name earlier baseline ↔
        ComparedAfter steps before earlier baseline := by
    simp [comparedAfter_concat_iff, spares.uncompared, spares.source]
  exact ⟨by simpa only [builtAlike] using lived.built, by
    simpa only [comparedAlike] using lived.compared⟩

/-- What a step compares for the first time has the life it had before and this comparison. -/
theorem Stores.lived {steps : List (Step α)} {last : Step α} {name : String}
    {aggregate baseline : Aggregate α}
    (stores : (empty.after steps).Stores last name aggregate baseline)
    (lived : Lived steps name aggregate) :
    Lived (steps ++ [last]) name
      { aggregate with speedup := some (aggregate.speedupOver baseline) } where
  built := by
    obtain ⟨against, _, _, _, rfl, -⟩ := stores.compares
    have unmade (sample : Sample α) : ¬ Makes (.compare name against) name sample :=
      not_makes (by simp)
    have builtAlike (earlier : List (Step α)) (sample : Sample α) :
        BuiltAfter (steps ++ [.compare name against]) name earlier sample ↔
          BuiltAfter steps name earlier sample := by
      simp [builtAfter_concat_iff, unmade, stores.source]
    simpa only [builtAlike] using lived.built
  compared := by
    have never : ∀ earlier again, ¬ ComparedAfter steps name earlier again := by
      rcases lived.compared with ⟨-, never⟩ | ⟨_, _, -, -, stored⟩
      · exact never
      · simp [stores.first] at stored
    refine .inr ⟨steps, baseline,
      (comparedAfter_concat_iff _ _ _ _ _).2 (.inl ⟨rfl, stores.compares⟩), ?_, rfl⟩
    intro other again compared
    rcases (comparedAfter_concat_iff _ _ _ _ _).1 compared with ⟨rfl, there⟩ | ⟨before, came, past⟩
    · refine ⟨rfl, ?_⟩
      obtain ⟨_, _, _, _, rfl, found, -⟩ := stores.compares
      obtain ⟨_, _, _, _, same, foundAgain, -⟩ := there
      obtain ⟨-, rfl⟩ := Step.compare.inj same
      exact Option.some.inj (foundAgain.symm.trans found)
    · obtain rfl := Option.some.inj (came.symm.trans stores.source)
      exact absurd past (never other again)

/-- Every aggregate at a bench is what the way to its name made of it. The induction is on
the steps from the last one back. -/
theorem lived_of_get {steps : List (Step α)} {name : String} {aggregate : Aggregate α}
    (held : (empty.after steps).get? name = some aggregate) : Lived steps name aggregate := by
  induction steps using List.reverseRecOn generalizing name aggregate with
  | nil => simp [empty, get?] at held
  | append_singleton steps last inductionHypothesis =>
    rw [after_concat] at held
    rcases (empty.after steps).take_cases last name with
      ⟨sample, builds⟩ | ⟨before, baseline, stores⟩ | ⟨before, spares⟩
    · obtain rfl := Option.some.inj (held.symm.trans builds.get)
      exact builds.lived
    · obtain rfl := Option.some.inj (held.symm.trans stores.get)
      exact stores.lived (inductionHypothesis stores.held)
    · rw [spares.get] at held
      exact spares.lived (inductionHypothesis held)

/-- Once an aggregate has its speedup, no further step changes it, wherever it is copied. -/
theorem get?_of_leads {bench : Bench α} {steps : List (Step α)} {before now : String}
    {aggregate : Aggregate α} {stored : α} (held : bench.get? before = some aggregate)
    (known : aggregate.speedup = some stored) (led : bench.Leads steps before now) :
    (bench.after steps).get? now = some aggregate := by
  induction steps generalizing bench before with
  | nil => exact led ▸ held
  | cons step rest inductionHypothesis =>
    obtain ⟨next, came, further⟩ := led
    refine inductionHypothesis ?_ further
    rcases bench.take_cases step next with
      ⟨sample, builds⟩ | ⟨other, baseline, stores⟩ | ⟨other, spares⟩
    · simp [builds.source] at came
    · obtain rfl := Option.some.inj (came.symm.trans stores.source)
      obtain rfl := Option.some.inj (held.symm.trans stores.held)
      simp [stores.first] at known
    · obtain rfl := Option.some.inj (came.symm.trans spares.source)
      rw [spares.get, held]

end Bench

/-! ### Comparing -/

/-- Comparing with a baseline is refused if a speedup is stored, and then nothing is
reported. Otherwise it stores the speedup and reports different numbers of runs. -/
theorem Aggregate.run_compareWith (aggregate baseline : Aggregate Float) (workspace : Workspace) :
    (aggregate.compareWith baseline).run workspace =
      match aggregate.speedup with
      | some stored => (.error (Cause.alreadyCompared stored).failure, workspace)
      | none =>
        (.ok { aggregate with speedup := some (aggregate.speedupOver baseline) },
          workspace.reporting (if baseline.count ≠ aggregate.count then
            [.runCountsDiffer aggregate.count baseline.count] else [])) := by
  rw [compareWith]
  cases known : aggregate.speedup with
  | some stored => simp [compare_of_some known, Action.run_bind, Except.mapError]
  | none =>
    by_cases differ : baseline.count = aggregate.count <;>
      simp [-bind_pure_comp, compare_of_none known, Action.run_bind, Except.mapError, differ]

/-- Whatever was built, copied and compared at a bench, an aggregate under a name has the
statistics of the sample it was built from, and a speedup exactly if one comparison of it, or
of what it was copied from, succeeded; then the speedup is that of this comparison. No later
step changes an aggregate that has a speedup. What is built has the statistics of its columns
and no speedup, what is copied is the same with its speedup, and neither changes what is under
other names. A comparison is refused exactly if a speedup is stored, and then the bench stays
as it is and nothing is reported. Otherwise it stores the speedup of the one aggregate, changes
nothing else, and warns exactly of different numbers of runs. -/
theorem Bench.lives_of_aggregates (steps : List (Bench.Step Float)) :
    let bench := Bench.empty.after steps
    (∀ name aggregate, bench.get? name = some aggregate → Bench.Lived steps name aggregate) ∧
    (∀ later name now aggregate stored, bench.get? name = some aggregate →
      aggregate.speedup = some stored → bench.Leads later name now →
      (bench.after later).get? now = some aggregate) ∧
    (∀ name indexes elapsed meanDeviations sample,
      Sample.ofColumns indexes elapsed meanDeviations = .ok sample →
      (bench.take (.build name indexes elapsed meanDeviations)).2 = .built (.ofSample sample) ∧
      ∀ any, (bench.take (.build name indexes elapsed meanDeviations)).1.get? any =
        if any = name then some (.ofSample sample) else bench.get? any) ∧
    (∀ name target aggregate, bench.get? name = some aggregate →
      (bench.take (.copy name target)).2 = .copied ∧
      ∀ any, (bench.take (.copy name target)).1.get? any =
        if any = target then some aggregate else bench.get? any) ∧
    ∀ name other aggregate baseline, bench.get? name = some aggregate →
      bench.get? other = some baseline →
      ((∃ stored, (bench.take (.compare name other)).2 = .refused stored) ↔
        aggregate.speedup ≠ none) ∧
      (∀ stored, aggregate.speedup = some stored →
        bench.take (.compare name other) = (bench, .refused stored) ∧
        (bench.take (.compare name other)).2.events = [] ∧
        ∀ workspace, (aggregate.compareWith baseline).run workspace =
          (.error (Cause.alreadyCompared stored).failure, workspace)) ∧
      (aggregate.speedup = none → ∃ speedup,
        speedup = baseline.average / aggregate.average - Float.ofInt 1 ∧
        (bench.take (.compare name other)).2 =
          .compared speedup aggregate.count baseline.count ∧
        (∀ any, (bench.take (.compare name other)).1.get? any =
          if any = name then some { aggregate with speedup := some speedup }
          else bench.get? any) ∧
        (bench.take (.compare name other)).2.events =
          (if aggregate.count = baseline.count then []
            else [.runCountsDiffer aggregate.count baseline.count]) ∧
        ∀ workspace, (aggregate.compareWith baseline).run workspace =
          (.ok { aggregate with speedup := some speedup },
            workspace.reporting (bench.take (.compare name other)).2.events)) := by
  intro bench
  refine ⟨fun _ _ => Bench.lived_of_get, fun _ _ _ _ _ => Bench.get?_of_leads, ?_, ?_, ?_⟩
  · intro name indexes elapsed meanDeviations sample columns
    simp [Bench.take, columns, Bench.get?_put]
  · intro name target aggregate held
    simp [Bench.take, held, Bench.get?_put]
  intro name other aggregate baseline held found
  have refused {stored : Float} (known : aggregate.speedup = some stored) :
      bench.take (.compare name other) = (bench, .refused stored) := by
    simp [Bench.take, held, found, Aggregate.compare_of_some known]
  have compared (first : aggregate.speedup = none) :
      bench.take (.compare name other) =
        (bench.put name { aggregate with speedup := some (aggregate.speedupOver baseline) },
          .compared (aggregate.speedupOver baseline) aggregate.count baseline.count) := by
    simp [Bench.take, held, found, Aggregate.compare_of_none first]
  refine ⟨?_, ?_, ?_⟩
  · cases known : aggregate.speedup with
    | some stored => simp [refused known]
    | none => simp [compared known]
  · intro stored known
    refine ⟨refused known, by rw [refused known]; rfl, ?_⟩
    intro workspace
    rw [Aggregate.run_compareWith, known]
  · intro first
    refine ⟨aggregate.speedupOver baseline, rfl, by rw [compared first], ?_, ?_, ?_⟩
    · intro any
      rw [compared first, Bench.get?_put]
    · rw [compared first, Bench.Outcome.events]
      simp only [ne_eq, ite_not, eq_comm]
    · intro workspace
      rw [Aggregate.run_compareWith, first, compared first]
      rfl

/-- A name is compared, copied and built anew. The copy has the speedup of the comparison, which
is two, and keeps it; a comparison of it is refused. What was built anew has no speedup. -/
theorem Bench.lives_of_aggregates_twin :
    let steps : List (Bench.Step Float) :=
      [.build "union" [1, 2] [1.0, 3.0] [0.0, 0.0], .build "bitmask" [1] [6.0] [0.0],
        .compare "union" "bitmask", .copy "union" "twin", .build "union" [1] [4.0] [0.0]]
    let bench := Bench.empty.after steps
    ∃ twin union baseline, bench.get? "twin" = some twin ∧ bench.get? "union" = some union ∧
      bench.get? "bitmask" = some baseline ∧
      twin.average = 2.0 ∧ twin.speedup = some 2.0 ∧ Bench.Lived steps "twin" twin ∧
      bench.take (.compare "twin" "bitmask") = (bench, .refused 2.0) ∧
      union.speedup = none ∧ Bench.Lived steps "union" union ∧
      (bench.take (.compare "union" "bitmask")).2 = .compared 0.5 1 1 := by
  intro steps bench
  obtain ⟨twin, held, average, speedup⟩ : ∃ twin, bench.get? "twin" = some twin ∧
      twin.average = 2.0 ∧ twin.speedup = some 2.0 :=
    ⟨_, rfl, by decide +kernel, by decide +kernel⟩
  obtain ⟨union, heldUnion, fresh, unionAverage, unionCount⟩ : ∃ union,
      bench.get? "union" = some union ∧ union.speedup = none ∧ union.average = 4.0 ∧
        union.count = 1 := ⟨_, rfl, rfl, by decide +kernel, rfl⟩
  obtain ⟨baseline, found, baselineAverage, baselineCount⟩ : ∃ baseline,
      bench.get? "bitmask" = some baseline ∧ baseline.average = 6.0 ∧ baseline.count = 1 :=
    ⟨_, rfl, by decide +kernel, rfl⟩
  obtain ⟨lived, -, -, -, compared⟩ := Bench.lives_of_aggregates steps
  obtain ⟨refused, -, -⟩ := (compared _ _ _ _ held found).2.1 _ speedup
  obtain ⟨stored, computed, outcome, -, -, -⟩ := (compared _ _ _ _ heldUnion found).2.2 fresh
  have half : stored = 0.5 := by
    rw [computed, unionAverage, baselineAverage]
    decide +kernel
  rw [half, unionCount, baselineCount] at outcome
  exact ⟨twin, union, baseline, held, heldUnion, found, average, speedup, lived _ _ held, refused,
    fresh, lived _ _ heldUnion, outcome⟩

end BenchFigures
