import BenchFigures.Results.Level
import Mathlib

/-!
# Running actions

What a composed action does follows from what its parts do. Most parts of a run only
look at the files: what they give and what they report depends on the tree and the
working directory alone, and they change nothing but the reports, to which they
append. The result of such actions composes like a computation without any
workspace, and their reports are those of the parts in order.
-/

namespace BenchFigures

namespace Workspace

/-- The same files with no font registered and nothing reported yet. -/
def fresh (workspace : Workspace) : Workspace := { workspace with font := none, events := [] }

/-- The workspace after some more reports. -/
def reporting (workspace : Workspace) (added : List Event) : Workspace :=
  { workspace with events := workspace.events ++ added }

@[simp] theorem fresh_reporting (workspace : Workspace) (added : List Event) :
    (workspace.reporting added).fresh = workspace.fresh := rfl

@[simp] theorem tree_reporting (workspace : Workspace) (added : List Event) :
    (workspace.reporting added).tree = workspace.tree := rfl

@[simp] theorem working_reporting (workspace : Workspace) (added : List Event) :
    (workspace.reporting added).working = workspace.working := rfl

@[simp] theorem events_reporting (workspace : Workspace) (added : List Event) :
    (workspace.reporting added).events = workspace.events ++ added := rfl

@[simp] theorem reporting_nil (workspace : Workspace) : workspace.reporting [] = workspace := by
  simp [reporting]

@[simp] theorem reporting_reporting (workspace : Workspace) (first second : List Event) :
    (workspace.reporting first).reporting second = workspace.reporting (first ++ second) := by
  simp [reporting]

end Workspace

namespace Action

variable {α β ε : Type}

/-- What an action gives on a workspace. -/
def result (action : Action α) (workspace : Workspace) : Except Failure α :=
  (action.run workspace).1

/-- What an action reports about the files of a workspace. -/
def reports (action : Action α) (workspace : Workspace) : List Event :=
  (action.run workspace.fresh).2.events

/-- An action that only looks gives the same whatever font is registered and whatever
was reported before. It appends its reports, none of which says that a file was
saved, and leaves everything else as it was. -/
structure OnlyLooks (action : Action α) : Prop where
  run_eq (workspace : Workspace) : action.run workspace =
    (action.result workspace.fresh, workspace.reporting (action.reports workspace))
  nothing_saved (workspace : Workspace) (path : Path) : .saved path ∉ action.reports workspace

/-! ### The parts of actions -/

@[simp] theorem run_pure (value : α) (workspace : Workspace) :
    (pure value : Action α).run workspace = (.ok value, workspace) := rfl

@[simp] theorem run_fail (cause : Cause) (workspace : Workspace) :
    (fail cause : Action α).run workspace = (.error cause.failure, workspace) := rfl

/-- A failure of the first part ends the whole; otherwise the second part runs on the
workspace that the first one leaves. -/
theorem run_bind (first : Action α) (next : α → Action β) (workspace : Workspace) :
    Action.run (first >>= next) workspace =
      match first.run workspace with
      | (.ok value, after) => (next value).run after
      | (.error failure, after) => (.error failure, after) := by
  change (ExceptT.bindCont next (first.run workspace).1) (first.run workspace).2 = _
  rcases first.run workspace with ⟨_ | _, after⟩ <;> rfl

/-- What starts by looking at the workspace sees the one it is run in. -/
theorem run_get_bind (next : Workspace → ExceptT ε (StateM Workspace) α) (workspace : Workspace) :
    (get >>= next : ExceptT ε (StateM Workspace) α).run workspace =
      (next workspace).run workspace := rfl

/-- The first of two parts succeeds if both together do. -/
theorem exists_result_of_bind {first : Action α} {next : α → Action β} {workspace : Workspace}
    {value : β} (succeeded : Action.result (first >>= next) workspace = .ok value) :
    ∃ given, first.result workspace = .ok given := by
  rw [result, run_bind] at succeeded
  rw [result]
  rcases run : first.run workspace with ⟨failure | given, after⟩
  · simp [run] at succeeded
  · exact ⟨given, rfl⟩

@[simp] theorem run_ofExcept (cause : ε → Cause) (computed : Except ε α) (workspace : Workspace) :
    (ofExcept cause computed).run workspace =
      (computed.mapError fun fault => (cause fault).failure, workspace) := by
  cases computed <;> rfl

@[simp] theorem run_ofResult (computed : Except Failure α) (workspace : Workspace) :
    (ofResult computed).run workspace = (computed, workspace) := by
  cases computed <;> rfl

@[simp] theorem run_report (event : Event) (workspace : Workspace) :
    (report event).run workspace = (.ok (), workspace.reporting [event]) := rfl

@[simp] theorem run_look (question : FileTree → Location → α) (workspace : Workspace) :
    (look question).run workspace = (.ok (question workspace.tree workspace.working), workspace) :=
  rfl

@[simp] theorem run_during (circumstance : Circumstance) (action : Action α)
    (workspace : Workspace) :
    (action.during circumstance).run workspace =
      ((action.result workspace).mapError (Failure.during circumstance),
        (action.run workspace).2) := rfl

/-! ### Actions that only look -/

namespace OnlyLooks

/-- The result of an action that only looks does not depend on font and reports. -/
theorem result_fresh {action : Action α} (looks : action.OnlyLooks) (workspace : Workspace) :
    action.result workspace.fresh = action.result workspace := by
  have whole := looks.run_eq workspace
  exact (congrArg Prod.fst whole).symm

/-- An action that only looks gives and reports the same on the same files. -/
theorem run_result {action : Action α} (looks : action.OnlyLooks) (workspace : Workspace) :
    action.run workspace =
      (action.result workspace, workspace.reporting (action.reports workspace)) := by
  rw [looks.run_eq workspace, looks.result_fresh workspace]

/-- More reports do not change what an action that only looks gives. -/
theorem result_reporting {action : Action α} (looks : action.OnlyLooks) (workspace : Workspace)
    (added : List Event) : action.result (workspace.reporting added) = action.result workspace := by
  rw [← looks.result_fresh (workspace.reporting added), ← looks.result_fresh workspace,
    Workspace.fresh_reporting]

/-- An action whose runs are given by what it answers and adds only looks. -/
theorem of_run {action : Action α} (answer : Workspace → Except Failure α)
    (added : Workspace → List Event)
    (run : ∀ workspace, action.run workspace =
      (answer workspace.fresh, workspace.reporting (added workspace.fresh)))
    (unsaved : ∀ workspace path, .saved path ∉ added workspace) : action.OnlyLooks where
  run_eq workspace := by simp [result, reports, run, Workspace.fresh]
  nothing_saved workspace path := by
    simpa [reports, run, Workspace.fresh] using unsaved workspace.fresh path

theorem pure (value : α) : (Pure.pure value : Action α).OnlyLooks :=
  of_run (fun _ => .ok value) (fun _ => []) (by simp) (by simp)

theorem fail (cause : Cause) : (Action.fail cause : Action α).OnlyLooks :=
  of_run (fun _ => .error cause.failure) (fun _ => []) (by simp) (by simp)

theorem ofExcept (cause : ε → Cause) (computed : Except ε α) :
    (Action.ofExcept cause computed).OnlyLooks :=
  of_run (fun _ => computed.mapError fun fault => (cause fault).failure) (fun _ => []) (by simp)
    (by simp)

theorem ofResult (computed : Except Failure α) : (Action.ofResult computed).OnlyLooks :=
  of_run (fun _ => computed) (fun _ => []) (by simp) (by simp)

theorem look (question : FileTree → Location → α) : (Action.look question).OnlyLooks :=
  of_run (fun workspace => .ok (question workspace.tree workspace.working)) (fun _ => [])
    (by simp [Workspace.fresh]) (by simp)

theorem report (event : Event) (unsaved : ∀ path, event ≠ .saved path) :
    (Action.report event).OnlyLooks :=
  of_run (fun _ => .ok ()) (fun _ => [event]) (by simp)
    (fun _ path member => unsaved path (List.mem_singleton.1 member).symm)

/-- Naming the circumstance of a failure changes no more than the failure. -/
theorem during {action : Action α} (looks : action.OnlyLooks) (circumstance : Circumstance) :
    (action.during circumstance).OnlyLooks :=
  of_run
    (fun workspace => (action.result workspace).mapError (Failure.during circumstance))
    action.reports
    (fun workspace => by
      rw [run_during, looks.result_fresh, looks.run_result]
      rfl)
    looks.nothing_saved

/-- What one action leaves is for the next one the same files. -/
theorem run_bind {first : Action α} {next : α → Action β} (looks : first.OnlyLooks)
    (nextLooks : ∀ value, (next value).OnlyLooks) (workspace : Workspace) :
    Action.run (first >>= next) workspace =
      match first.result workspace with
      | .ok value => ((next value).result workspace,
          workspace.reporting (first.reports workspace ++ (next value).reports workspace))
      | .error failure => (.error failure, workspace.reporting (first.reports workspace)) := by
  rw [Action.run_bind, looks.run_result workspace]
  cases first.result workspace with
  | error failure => rfl
  | ok value =>
    simp only [(nextLooks value).run_result, (nextLooks value).result_reporting,
      Workspace.reporting_reporting]
    rfl

/-- What comes after a successful first action is reported, too. -/
theorem reports_bind {first : Action α} {next : α → Action β} (looks : first.OnlyLooks)
    (nextLooks : ∀ value, (next value).OnlyLooks) (workspace : Workspace) :
    Action.reports (first >>= next) workspace = first.reports workspace ++
      match first.result workspace with
      | .ok value => (next value).reports workspace
      | .error _ => [] := by
  rw [← looks.result_fresh]
  rw [reports, run_bind looks nextLooks]
  cases first.result workspace.fresh with
  | error failure => simp [reports, Workspace.fresh]
  | ok value => simp [reports, Workspace.fresh]

/-- The results of actions that only look compose like plain computations. -/
theorem result_bind {first : Action α} {next : α → Action β} (looks : first.OnlyLooks)
    (nextLooks : ∀ value, (next value).OnlyLooks) (workspace : Workspace) :
    Action.result (first >>= next) workspace =
      (first.result workspace).bind fun value => (next value).result workspace := by
  rw [result, run_bind looks nextLooks]
  cases first.result workspace <;> rfl

/-- Looking and then looking again is looking. -/
theorem bind {first : Action α} {next : α → Action β} (looks : first.OnlyLooks)
    (nextLooks : ∀ value, (next value).OnlyLooks) : OnlyLooks (first >>= next : Action β) where
  run_eq workspace := by
    rw [result_bind looks nextLooks, reports_bind looks nextLooks, run_bind looks nextLooks]
    rw [looks.result_fresh]
    cases first.result workspace with
    | error failure => simp [Except.bind]
    | ok value => simp [Except.bind, (nextLooks value).result_fresh]
  nothing_saved workspace path := by
    rw [reports_bind looks nextLooks]
    intro member
    rcases List.mem_append.1 member with inFirst | inNext
    · exact looks.nothing_saved workspace path inFirst
    · split at inNext
      · exact (nextLooks _).nothing_saved workspace path inNext
      · simp at inNext

/-- Looking once for each element of a list is looking. -/
theorem mapM {action : β → Action α} (looks : ∀ element, (action element).OnlyLooks)
    (list : List β) : OnlyLooks (list.mapM action : Action (List α)) := by
  induction list with
  | nil => exact pure []
  | cons element rest inductionHypothesis =>
    rw [List.mapM_cons]
    exact (looks element).bind fun _ => inductionHypothesis.bind fun _ => pure _

/-- The result of looking once for each element is a traversal of the results. -/
theorem result_mapM {action : β → Action α} (looks : ∀ element, (action element).OnlyLooks)
    (list : List β) (workspace : Workspace) :
    Action.result (list.mapM action) workspace =
      list.mapM fun element => (action element).result workspace := by
  induction list with
  | nil => rfl
  | cons element rest inductionHypothesis =>
    have restLooks := mapM looks rest
    rw [List.mapM_cons, List.mapM_cons,
      result_bind (looks element) fun _ => restLooks.bind fun _ => pure _]
    apply congrArg
    funext value
    rw [result_bind restLooks fun _ => pure _, inductionHypothesis]
    rfl

/-- The reports about a list are those about its elements in order, up to the first
one that fails. -/
theorem reports_mapM {action : β → Action α} (looks : ∀ element, (action element).OnlyLooks)
    {earlier : List β} {element : β} (later : List β) {workspace : Workspace} {failure : Failure}
    (succeeded : ∀ other ∈ earlier, ∃ value, (action other).result workspace = .ok value)
    (failed : (action element).result workspace = .error failure) :
    Action.reports ((earlier ++ element :: later).mapM action) workspace =
      (earlier ++ [element]).flatMap fun other => (action other).reports workspace := by
  induction earlier with
  | nil =>
    rw [List.nil_append, List.mapM_cons,
      reports_bind (looks element) fun _ => (mapM looks later).bind fun _ => pure _, failed]
    simp
  | cons first rest inductionHypothesis =>
    obtain ⟨⟨value, computed⟩, restSucceeded⟩ := List.forall_mem_cons.1 succeeded
    have restLooks := mapM looks (rest ++ element :: later)
    rw [List.cons_append, List.mapM_cons,
      reports_bind (looks first) fun _ => restLooks.bind fun _ => pure _, computed]
    simp only
    rw [reports_bind restLooks fun _ => pure _, inductionHypothesis restSucceeded]
    cases Action.result ((rest ++ element :: later).mapM action) workspace <;>
      simp [reports, Workspace.fresh]

/-- Looking once for each variant is looking. -/
theorem forEach {action : Variant → Action α} (looks : ∀ variant, (action variant).OnlyLooks) :
    OnlyLooks (PerVariant.forEach action) :=
  (looks _).bind fun _ => (looks _).bind fun _ => (looks _).bind fun _ => (looks _).bind fun _ =>
    pure _

/-- The result of looking once for each variant is a traversal of the results. -/
theorem result_forEach {action : Variant → Action α}
    (looks : ∀ variant, (action variant).OnlyLooks) (workspace : Workspace) :
    Action.result (PerVariant.forEach action) workspace =
      PerVariant.forEach fun variant => (action variant).result workspace := by
  unfold PerVariant.forEach
  rw [result_bind (looks _) fun _ => (looks _).bind fun _ => (looks _).bind fun _ =>
    (looks _).bind fun _ => pure _]
  apply congrArg
  funext _
  rw [result_bind (looks _) fun _ => (looks _).bind fun _ => (looks _).bind fun _ => pure _]
  apply congrArg
  funext _
  rw [result_bind (looks _) fun _ => (looks _).bind fun _ => pure _]
  apply congrArg
  funext _
  rw [result_bind (looks _) fun _ => pure _]
  rfl

end OnlyLooks

end Action

end BenchFigures
