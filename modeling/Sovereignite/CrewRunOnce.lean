import Sovereignite.CrewWiring
import Sovereignite.EffectTriples

/-!
# How often a run of a crew is executed

A run is marked as running before it is executed and as finished after.  The
reconciler executes every run that is not finished.  So a run whose reconcile
was stopped in between, or whose last update was lost, is executed again.  It
is executed once as long as no reconcile starts on a run that is marked as
running and was executed already.
-/

namespace Sovereignite.Shipcrew

open Effect Program

section History

/-- The versions of a run, and how often a runner was invoked for it. -/
structure RunHistory where
  current : CrewRun
  past : List CrewRun
  invocations : Nat

namespace RunHistory

/-- A run that was just created. -/
def created (run : CrewRun) : RunHistory :=
  ⟨run, [], 0⟩

def succeed (history : RunHistory) (next : CrewRun) : RunHistory :=
  { history with
    current := { next with version := history.current.version + 1 }
    past := history.current :: history.past }

def store (history : RunHistory) (status : CrewRunStatus) : RunHistory :=
  history.succeed { history.current with status }

/-- A version that was stored at some time. -/
def Stored (history : RunHistory) (run : CrewRun) : Prop :=
  run = history.current ∨ run ∈ history.past

/-- A user changes what the run asks for. -/
inductive Edit : RunHistory → RunHistory → Prop where
  | spec (history : RunHistory) (spec : CrewRunSpec) :
      Edit history (history.succeed { history.current with spec })

end RunHistory

/-- How a request is answered.  A read may be out of date.  An update that is not
based on the current version is refused; one that is may be refused too, and
its reply may be lost. -/
def runAnswer (history : RunHistory) : (request : Request) → Reply request → RunHistory → Prop
  | .getCrewRun _, reply, after =>
    after = history ∧ ∀ run, reply = .ok run → history.Stored run
  | .updateCrewRun run, reply, after =>
    ((∃ error, reply = .error error) ∧ after = history) ∨
      (run.version = history.current.version ∧ after = history.store run.status ∧
        ((∃ error, reply = .error error) ∨ reply = .ok (history.current.version + 1)))
  | .run _ _ _ _ _ _, _, after => after = { history with invocations := history.invocations + 1 }
  | _, _, after => after = history

/-- Users may change the run between any two requests. -/
def editedAnswer (history : RunHistory) (request : Request) (reply : Reply request)
    (after : RunHistory) : Prop :=
  ∃ edited, Relation.ReflTransGen RunHistory.Edit history edited ∧
    runAnswer edited request reply after

/-- Reconciles of one run, each up to its end or to a restart of the controller,
started where a condition holds. -/
def runRules (kit : Toolkit) (key : ObjectKey) (condition : RunHistory → Prop) :
    SequenceRules signature RunHistory Error Unit where
  answer := editedAnswer
  offered history program := condition history ∧ program = reconcileCrewRun kit key
  disturb before after := RunHistory.Edit before after

/-- A run that is marked as running was not executed yet. -/
def Unexecuted (history : RunHistory) : Prop :=
  history.current.status.phase = .running → history.invocations = 0

end History

section Invariant

/-- Older versions have smaller numbers, the run was executed at most once, and a
run that was executed is marked. -/
structure OnceExecuted (history : RunHistory) : Prop where
  ordered : ∀ old ∈ history.past, old.version < history.current.version
  once : history.invocations ≤ 1
  marked : history.invocations = 1 → history.current.status.phase = .running ∨
    history.current.status.phase.terminal = true

variable {history after : RunHistory}

theorem OnceExecuted.succeed {next : CrewRun} (valid : OnceExecuted history)
    (marked : history.invocations = 1 → next.status.phase = .running ∨
      next.status.phase.terminal = true) : OnceExecuted (history.succeed next) where
  ordered := by
    intro old member
    have bound : old.version ≤ history.current.version := by
      rcases List.mem_cons.mp member with same | older
      · rw [same]
      · exact Nat.le_of_lt (valid.ordered old older)
    change old.version < history.current.version + 1
    omega
  once := valid.once
  marked := marked

/-- What edits leave as it was. -/
structure SameStatus (before after : RunHistory) : Prop where
  status : after.current.status = before.current.status
  invocations : after.invocations = before.invocations
  stored : ∀ run, before.Stored run → after.Stored run

theorem sameStatus_edit (edit : RunHistory.Edit history after) : SameStatus history after := by
  cases edit with
  | spec =>
    refine ⟨rfl, rfl, ?_⟩
    intro _ stored
    right
    rcases stored with rfl | older
    · exact List.mem_cons_self
    · exact List.mem_cons_of_mem _ older

theorem edits_keep (edits : Relation.ReflTransGen RunHistory.Edit history after)
    (valid : OnceExecuted history) : OnceExecuted after ∧ SameStatus history after := by
  induction edits with
  | refl => exact ⟨valid, rfl, rfl, fun _ stored => stored⟩
  | tail _ edit ih =>
    obtain ⟨kept, same⟩ := ih
    have next := sameStatus_edit edit
    refine ⟨?_, next.status.trans same.status, next.invocations.trans same.invocations,
      fun run stored => next.stored run (same.stored run stored)⟩
    cases edit with
    | spec => exact kept.succeed kept.marked

/-- The current version is the only one with its number. -/
theorem OnceExecuted.current_of_version {run : CrewRun} (valid : OnceExecuted history)
    (stored : history.Stored run) (same : run.version = history.current.version) :
    run = history.current := by
  rcases stored with rfl | older
  · rfl
  · have smaller := valid.ordered run older
    omega

end Invariant

section Steps

variable (kit : Toolkit) (key : ObjectKey)

abbrev runContract : Contract signature RunHistory :=
  (runRules kit key Unexecuted).contract OnceExecuted

variable {kit key}

theorem ensures_ask {request : Request} {pre : RunHistory → Prop}
    {post : Reply request → RunHistory → Prop}
    (lasts : ∀ before after, SameStatus before after → pre before → pre after)
    (answered : ∀ history reply after, OnceExecuted history → pre history →
      runAnswer history request reply after → OnceExecuted after ∧ post reply after) :
    Ensures (runContract kit key) Anywhere pre (ask request) post := by
  rintro _ valid known _ _ rfl reply after ⟨edited, edits, given⟩
  obtain ⟨kept, same⟩ := edits_keep edits valid
  obtain ⟨held, learned⟩ := answered edited reply after kept (lasts _ _ same known) given
  refine ⟨held, trivial, held, trivial, ?_⟩
  rintro _ ⟨⟩
  exact learned

theorem unexecuted_lasts (before after : RunHistory) (same : SameStatus before after)
    (known : Unexecuted before) : Unexecuted after := by
  unfold Unexecuted at *
  rw [same.status, same.invocations]
  exact known

theorem ask_getCrewRun :
    Ensures (runContract kit key) Anywhere Unexecuted (ask (.getCrewRun key))
      fun reply history => Unexecuted history ∧ ∀ run, reply = .ok run → history.Stored run := by
  apply ensures_ask unexecuted_lasts
  rintro _ _ _ valid known ⟨rfl, stored⟩
  exact ⟨valid, known, stored⟩

/-- The run is marked as running and was not executed. -/
def Marked (history : RunHistory) : Prop :=
  history.current.status.phase = .running ∧ history.invocations = 0

theorem marked_lasts (before after : RunHistory) (same : SameStatus before after)
    (known : Marked before) : Marked after := by
  unfold Marked at *
  rw [same.status, same.invocations]
  exact known

/-- Marking a run that is not finished as running.  The version that was read is
the current one, so it was not executed. -/
theorem ask_mark {found : CrewRun} (unfinished : found.status.phase.terminal = false) :
    Ensures (runContract kit key) Anywhere
      (fun history => Unexecuted history ∧ history.Stored found)
      (ask (.updateCrewRun (found.withPhase .running)))
      fun reply history => ∀ version, reply = .ok version → Marked history := by
  apply ensures_ask
  · rintro _ after same ⟨known, stored⟩
    exact ⟨unexecuted_lasts _ _ same known, same.stored _ stored⟩
  · rintro history _ _ valid ⟨known, stored⟩ answered
    rcases answered with ⟨⟨error, rfl⟩, rfl⟩ | ⟨based, rfl, _⟩
    · refine ⟨valid, ?_⟩
      rintro _ ⟨⟩
    · have same := valid.current_of_version stored based
      have none : history.invocations = 0 := by
        have bound := valid.once
        by_contra executed
        have one : history.invocations = 1 := by omega
        rcases valid.marked one with running | finished
        · exact executed (known running)
        · rw [← same, unfinished] at finished
          cases finished
      exact ⟨valid.succeed fun _ => .inl rfl, fun _ _ => ⟨rfl, none⟩⟩

theorem ask_finish {run : CrewRun} (finishes : run.status.phase.terminal = true) :
    Ensures (runContract kit key) Anywhere (fun _ => True) (ask (.updateCrewRun run))
      fun _ _ => True := by
  apply ensures_ask (fun _ _ _ _ => trivial)
  intro _ _ _ valid _ answered
  rcases answered with ⟨_, rfl⟩ | ⟨_, rfl, _⟩
  · exact ⟨valid, trivial⟩
  · exact ⟨valid.succeed fun _ => .inr finishes, trivial⟩

theorem failRun_ensures (run : CrewRun) (error : Error) :
    Ensures (runContract kit key) Anywhere (fun _ => True) (failRun run error) fun _ _ => True := by
  apply Ensures.sequence (ask_finish rfl)
  intro reply
  exact Ensures.fail

theorem ask_run {entry : RunnerEntry} {userID sessionID : String} {message : Content}
    {config : RunConfig} {runKey : ObjectKey} :
    Ensures (runContract kit key) Anywhere Marked
      (ask (.run runKey entry userID sessionID message config)) fun _ _ => True := by
  apply ensures_ask marked_lasts
  rintro history _ _ valid ⟨running, _⟩ rfl
  refine ⟨⟨valid.ordered, ?_, fun _ => .inl running⟩, trivial⟩
  change history.invocations + 1 ≤ 1
  omega

theorem executeRun_ensures (run : CrewRun) (entry : RunnerEntry) :
    Ensures (runContract kit key) Anywhere Marked (executeRun kit run entry) fun _ _ => True := by
  apply Ensures.sequence ask_run
  intro items
  cases collectEvents kit items with
  | error error => exact failRun_ensures _ error
  | ok =>
    apply Ensures.sequence (ask_finish rfl)
    intro reply
    apply Ensures.sequence Ensures.ofExcept
    intro version
    exact Ensures.ret fun _ _ _ => trivial

/-- A reconcile that starts on a run which is not both marked as running and
executed executes it at most once. -/
theorem reconcileCrewRun_ensures :
    Ensures (runContract kit key) Anywhere Unexecuted (reconcileCrewRun kit key)
      fun _ _ => True := by
  apply Ensures.sequence ask_getCrewRun
  intro reply
  cases reply with
  | error error =>
    change Ensures _ _ _ (ignoreNotFound error) _
    unfold ignoreNotFound
    split
    · exact Ensures.ret fun _ _ _ => trivial
    · exact Ensures.fail
  | ok found =>
    dsimp only
    split
    · exact Ensures.ret fun _ _ _ => trivial
    · rename_i unfinished
      have marks := @ask_mark kit key found (by simpa using unfinished)
      apply Ensures.sequence (marks.strengthen fun _ known => ⟨known.1, known.2 found rfl⟩)
      intro outcome
      cases outcome with
      | error => exact Ensures.fail
      | ok version =>
        apply Ensures.strengthen (fun history known => known version rfl)
        apply Ensures.sequence (ensures_ask marked_lasts
          (fun _ _ _ valid known same => by cases same; exact ⟨valid, known⟩))
        intro registered
        cases registered with
        | none => exact (failRun_ensures _ _).strengthen fun _ _ => trivial
        | some entry => exact executeRun_ensures _ entry

end Steps

theorem reconcileCrewRun_executes (kit : Toolkit) (key : ObjectKey) (history : RunHistory)
    (unfinished : history.current.status.phase.terminal = false) :
    ∃ after, (reconcileCrewRun kit key).Leaves editedAnswer history after ∧
      after.invocations = history.invocations + 1 ∧
      after.current.status.phase = .running := by
  refine ⟨{ history.store (history.current.withPhase .running).status with
    invocations := history.invocations + 1 }, ?_, rfl, rfl⟩
  apply Leaves.answered (S := signature) (Request.getCrewRun key) _ (.ok history.current)
  · refine ⟨history, .refl, rfl, ?_⟩
    rintro run ⟨⟩
    exact .inl rfl
  · change Leaves _ (if history.current.status.phase.terminal then _ else _) _ _
    rw [unfinished]
    apply Leaves.answered (S := signature) (Request.updateCrewRun _) _
      (.ok (history.current.version + 1))
    · exact ⟨history, .refl, .inr ⟨rfl, rfl, .inr rfl⟩⟩
    · apply Leaves.answered (S := signature) (Request.registryGet _) _
        (some (⟨default, ""⟩ : RunnerEntry))
      · exact ⟨_, .refl, rfl⟩
      · apply Leaves.answered (S := signature) (Request.run _ _ _ _ _ _) _ ([] : List StreamItem)
        · exact ⟨_, .refl, rfl⟩
        · exact Leaves.stopped _ _

/-- In every run of reconciles that start where a run marked as running was not
executed yet, it is executed at most once; and a reconcile that starts
elsewhere can execute it again. -/
theorem executed_once_iff_unexecuted (kit : Toolkit) (key : ObjectKey) :
    (∀ run history,
      (runRules kit key Unexecuted).Reachable (RunHistory.created run) history →
        history.invocations ≤ 1) ∧
      ∀ history, ¬ Unexecuted history →
        ∃ after, (reconcileCrewRun kit key).Leaves editedAnswer history after ∧
          1 < after.invocations := by
  constructor
  · intro _ history reached
    have valid : OnceExecuted history := by
      apply reached.invariant
      · constructor
        · intro _ member
          cases member
        · exact Nat.zero_le 1
        · intro one
          cases one
      · rintro before _ valid ⟨known, rfl⟩
        exact reconcileCrewRun_ensures.safe valid known
      · intro _ after valid edit
        exact (edits_keep (.single edit) valid).1
    exact valid.once
  · intro history executed
    simp only [Unexecuted, Classical.not_imp] at executed
    obtain ⟨running, _⟩ := executed
    have unfinished : history.current.status.phase.terminal = false := by rw [running]; rfl
    obtain ⟨after, left, _, _⟩ := reconcileCrewRun_executes kit key history unfinished
    exact ⟨after, left, by omega⟩

section Restart

def sampleRun : CrewRun where
  key := ⟨"default", "run"⟩
  version := 1
  spec := ⟨"crew", "user", "", ⟨"hello", none⟩, none, none⟩
  status := ⟨.unset, "", []⟩

theorem sampleRun_executed : ∃ history,
    (reconcileCrewRun permissive sampleRun.key).Leaves editedAnswer
        (RunHistory.created sampleRun) history ∧
      history.invocations = 1 ∧ history.current.status.phase = .running :=
  reconcileCrewRun_executes permissive sampleRun.key (RunHistory.created sampleRun) rfl

/-- A run is executed twice when the controller is restarted after the execution
and before the run is marked as finished. -/
theorem restarted_run_executed_twice :
    ∃ kit key run history, (runRules kit key fun _ => True).Reachable
      (RunHistory.created run) history ∧ history.invocations = 2 := by
  obtain ⟨first, left, once, running⟩ := sampleRun_executed
  obtain ⟨second, again, twice, _⟩ :=
    reconcileCrewRun_executes permissive sampleRun.key first (by rw [running]; rfl)
  refine ⟨permissive, sampleRun.key, sampleRun, second,
    .operated _ (.operated _ .start ⟨trivial, rfl⟩ left) ⟨trivial, rfl⟩ again, ?_⟩
  rw [twice, once]

/-- The first reconcile executes the run once, and one after a restart can
execute it again. -/
theorem first_reconcile_executes_once :
    ∃ history, (runRules permissive sampleRun.key Unexecuted).Reachable
        (RunHistory.created sampleRun) history ∧
      history.invocations = 1 ∧ history.invocations ≤ 1 ∧
      ∃ after, (reconcileCrewRun permissive sampleRun.key).Leaves editedAnswer history after ∧
        1 < after.invocations := by
  obtain ⟨history, left, once, running⟩ := sampleRun_executed
  obtain ⟨bounded, again⟩ := executed_once_iff_unexecuted permissive sampleRun.key
  have reached : (runRules permissive sampleRun.key Unexecuted).Reachable
      (RunHistory.created sampleRun) history := by
    apply SequenceRules.Reachable.operated _ .start _ left
    refine ⟨?_, rfl⟩
    intro _
    rfl
  refine ⟨history, reached, once, bounded sampleRun history reached, again history ?_⟩
  intro unexecuted
  rw [unexecuted running] at once
  cases once

end Restart

end Sovereignite.Shipcrew
