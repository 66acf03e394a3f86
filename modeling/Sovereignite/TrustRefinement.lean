import Sovereignite.TrustProposals

/-!
# Every commit is a transition of the ledger

What an operation learned from the store lasts, because the log only grows.  So
each commit it asks for is a proposal on documents of the log as it is now.  A
proposal that the store accepts is a transition of the ledger from the newest
document; and each request to the key manager carries the serial of a
reservation that the same operation made before, and is its first.
-/

namespace Sovereignite.Trust

open Effect Program
open KeyManager (CertificateRequest)

/-- An operation has entered a commit of a given kind on a given document. -/
def Committed (caller : Caller) (label : CommitLabel) (base next : Snapshot)
    (world : World) : Prop :=
  ∃ older, ⟨caller, label, next⟩ :: older <:+ world.log ∧ durable older = base

/-- An operation has reserved a serial. -/
def Reserved (caller : Caller) (serial : Int) (world : World) : Prop :=
  ∃ operation grant base next, Committed caller (.reserve operation grant) base next world ∧
    serial = base.nextSerial.toNat

structure Sound (env : Platform) (world : World) : Prop where
  recorded : Recorded env world.log
  memory : ∀ service, (world.memory service).opened = true →
    InHistory world.log (world.memory service).snapshot
  issuedOnce : (world.issued.map Prod.fst).Nodup
  issuedReserved : ∀ caller request, (caller, request) ∈ world.issued →
    ∃ serial, requestSerial request = some serial ∧ Reserved caller serial world

/-- The memory of an open instance holds a committed document of its identity. -/
def Bound (configs : Nat → ServiceConfig) (world : World) : Prop :=
  ∀ service, (world.memory service).opened = true →
    (world.memory service).snapshot.identity = (configs service).identity ∧
      (world.memory service).snapshot.revision ≠ 0

/-- No request of an operation reached the key manager yet. -/
def Unissued (caller : Caller) (world : World) : Prop :=
  ∀ request, (caller, request) ∉ world.issued

/-- The requests that replace the copy of an instance. -/
def Writes : Request → Prop
  | .writeMemory _ => True
  | _ => False

/-- What the key manager keeps to where it is trusted. -/
def Honest (env : Platform) : (request : Request) → Reply request → Prop
  | .issueCertificate request, reply =>
    ∀ encoded, reply = .ok encoded → Faithful env request encoded
  | _, _ => True

theorem Reserved.grow {caller : Caller} {serial : Int} {before after : World}
    (reserved : Reserved caller serial before) (grows : before.log <:+ after.log) :
    Reserved caller serial after := by
  obtain ⟨operation, grant, base, next, ⟨older, within, equal⟩, same⟩ := reserved
  exact ⟨operation, grant, base, next, ⟨older, within.trans grows, equal⟩, same⟩

variable {config : ServiceConfig}

theorem Known.grow {older log : List Commit} {base : Snapshot} (known : Known config older base)
    (grows : older <:+ log) : Known config log base :=
  { known with durable := known.durable.grow grows }

variable {env : Platform} {configs : Nat → ServiceConfig} {caller : Caller}
variable {trusted : Prop} {before after : World} {request : Request} {reply : Reply request}

/-- What a call leaves as it was. -/
theorem answer_frame (answered : answer env caller before request reply after) :
    before.log <:+ after.log ∧ (¬ Writes request → after.memory = before.memory) ∧
      (¬ Issues request → after.issued = before.issued) := by
  have same := List.suffix_refl before.log
  cases request with
  | contextError =>
    rw [answered.1]
    exact ⟨same, fun _ => rfl, fun _ => rfl⟩
  | lock =>
    rw [answered.2]
    exact ⟨same, fun _ => rfl, fun _ => rfl⟩
  | readMemory =>
    rw [answered.2]
    exact ⟨same, fun _ => rfl, fun _ => rfl⟩
  | load =>
    rw [answered.1]
    exact ⟨same, fun _ => rfl, fun _ => rfl⟩
  | commit =>
    rcases answered with ⟨_, rfl⟩ | ⟨_, rfl⟩
    · exact ⟨same, fun _ => rfl, fun _ => rfl⟩
    · exact ⟨List.suffix_cons _ _, fun _ => rfl, fun _ => rfl⟩
  | writeMemory =>
    cases answered
    exact ⟨same, fun quiet => absurd trivial quiet, fun _ => rfl⟩
  | issueCertificate =>
    cases answered
    exact ⟨same, fun _ => rfl, fun other => absurd trivial other⟩
  | _ =>
    cases answered
    exact ⟨same, fun _ => rfl, fun _ => rfl⟩

/-- What is known of a reply is known for good. -/
theorem admissible_grow {older log : List Commit} (grows : older <:+ log)
    (given : admissible env config caller older trusted request reply) :
    admissible env config caller log trusted request reply := by
  cases request with
  | readMemory => exact fun opened => (given opened).grow grows
  | load => exact fun document loaded => (given document loaded).grow grows
  | commit =>
    intro succeeded
    obtain ⟨committed, base, same, earlier, within, equal⟩ := given succeeded
    exact ⟨committed, base, same, earlier, within.trans grows, equal⟩
  | issueCertificate => exact given
  | _ => trivial

/-- The invariant for the commits and the requests for certificates, given what became of
the memories. -/
theorem Sound.kept (sound : Sound env before)
    (made : permitted env (configs caller.service) caller before.log trusted request ∨
      entitled caller before.log request ∧ Unissued caller before)
    (answered : answer env caller before request reply after)
    (memory : ∀ service, (after.memory service).opened = true →
      InHistory after.log (after.memory service).snapshot) : Sound env after := by
  obtain ⟨grows, _, issued⟩ := answer_frame answered
  have reserved : ∀ other earlier, (other, earlier) ∈ before.issued →
      ∃ serial, requestSerial earlier = some serial ∧ Reserved other serial after := by
    intro other earlier member
    obtain ⟨serial, carried, reserved⟩ := sound.issuedReserved other earlier member
    exact ⟨serial, carried, reserved.grow grows⟩
  have quiet : after.log = before.log → ¬ Issues request → Sound env after := by
    intro log other
    refine ⟨log ▸ sound.recorded, memory, issued other ▸ sound.issuedOnce, ?_⟩
    rw [issued other]
    exact reserved
  cases request with
  | commit =>
    rcases answered with ⟨_, same⟩ | ⟨accepted, rfl⟩
    · exact quiet (by rw [same]) id
    · refine ⟨?_, memory, sound.issuedOnce, reserved⟩
      rcases made with ⟨base, _, revision, proposed⟩ | ⟨granted, _⟩
      · obtain ⟨known, _, transition⟩ := proposed.transition sound.recorded
        have newest := known.eq_durable sound.recorded (accepted.current.trans revision.symm)
        subst newest
        rw [← accepted.current] at accepted
        exact .cons _ sound.recorded accepted transition
      · exact granted.elim
  | issueCertificate =>
    cases answered
    rcases made with none | ⟨⟨serial, carried, holding⟩, unissued⟩
    · exact none.elim
    · refine ⟨sound.recorded, memory, ?_, ?_⟩
      · rw [List.map_cons, List.nodup_cons]
        refine ⟨?_, sound.issuedOnce⟩
        intro member
        obtain ⟨⟨other, earlier⟩, present, rfl⟩ := List.mem_map.mp member
        exact unissued earlier present
      · intro other earlier member
        rcases List.mem_cons.mp member with equal | present
        · cases equal
          exact ⟨serial, carried, holding⟩
        · exact reserved other earlier present
  | contextError => exact quiet (by rw [answered.1]) id
  | lock => exact quiet (by rw [answered.2]; rfl) id
  | readMemory => exact quiet (by rw [answered.2]) id
  | load => exact quiet (by rw [answered.1]) id
  | _ => exact quiet (by cases answered; rfl) id

/-- A call of an operation keeps the invariant, and its reply is admissible. -/
theorem answered_admissible (sound : Sound env before) (bound : Bound configs before)
    (made : permitted env (configs caller.service) caller before.log trusted request ∨
      entitled caller before.log request ∧ Unissued caller before)
    (honest : trusted → Honest env request reply)
    (answered : answer env caller before request reply after) :
    (Sound env after ∧ Bound configs after) ∧
      admissible env (configs caller.service) caller after.log trusted request reply := by
  obtain ⟨grows, unwritten, _⟩ := answer_frame answered
  have kept : ¬ Writes request → Sound env after ∧ Bound configs after := by
    intro quiet
    have same := unwritten quiet
    refine ⟨sound.kept made answered fun service opened => ?_, fun service opened => ?_⟩
    · rw [same] at opened ⊢
      exact (sound.memory service opened).grow grows
    · rw [same] at opened ⊢
      exact bound service opened
  cases request with
  | readMemory =>
    refine ⟨kept id, fun opened => ?_⟩
    obtain ⟨read, unchanged⟩ := answered
    rw [read] at opened ⊢
    rw [unchanged]
    obtain ⟨identity, committed⟩ := bound caller.service opened
    exact ⟨sound.memory caller.service opened, identity, committed⟩
  | writeMemory memory =>
    have known : ∀ service, (after.memory service).opened = true →
        Known (configs service) after.log (after.memory service).snapshot := by
      intro service opened
      cases answered
      by_cases same : service = caller.service
      · subst same
        simp only [Function.update_self] at opened ⊢
        exact (made.resolve_right fun granted => granted.1.elim) opened
      · simp only [Function.update_of_ne same] at opened ⊢
        obtain ⟨identity, committed⟩ := bound service opened
        exact ⟨sound.memory service opened, identity, committed⟩
    exact ⟨⟨sound.kept made answered fun service opened => (known service opened).durable,
      fun service opened => ⟨(known service opened).identity, (known service opened).committed⟩⟩,
      trivial⟩
  | load =>
    refine ⟨kept id, fun document returned => ?_⟩
    rw [answered.1, answered.2 document returned]
    exact InHistory.durable _
  | commit =>
    refine ⟨kept id, fun succeeded => ?_⟩
    rcases answered with ⟨failed, _⟩ | ⟨accepted, stored⟩
    · exact absurd succeeded failed
    · refine ⟨?_, _, accepted.current, ?_⟩
      · rw [accepted.advances]
        exact succ_ne_zero_of_room accepted.room
      · rw [stored]
        exact ⟨before.log, List.suffix_refl _, rfl⟩
  | issueCertificate =>
    exact ⟨kept id, fun encoded given trust => honest trust encoded given⟩
  | _ => exact ⟨kept id, trivial⟩

theorem Unissued.kept {other : Caller} (answered : answer env caller before request reply after)
    (apart : other ≠ caller ∨ ¬ Issues request) (unissued : Unissued other before) :
    Unissued other after := by
  by_cases issues : Issues request
  · cases request with
    | issueCertificate =>
      cases answered
      intro earlier member
      rcases List.mem_cons.mp member with equal | present
      · exact (apart.resolve_right fun quiet => quiet issues) (congrArg Prod.fst equal)
      · exact unissued earlier present
    | _ => exact issues.elim
  · intro earlier
    rw [(answer_frame answered).2.2 issues]
    exact unissued earlier

theorem permitted_not_issues {log : List Commit}
    (allowed : permitted env config caller log trusted request) : ¬ Issues request := by
  cases request <;> first | exact id | exact allowed.elim

theorem sound_initialWorld : Sound env initialWorld ∧ Bound configs initialWorld := by
  refine ⟨⟨.nil, ?_, List.nodup_nil, ?_⟩, ?_⟩
  · intro service opened
    cases opened
  · intro _ _ member
    cases member
  · intro _ opened
    cases opened

theorem unissued_initialWorld (caller : Caller) : Unissued caller initialWorld := by
  intro _ member
  cases member

/-- The operations propose what is listed, in any interleaving and with crashes. -/
theorem rules_followed (env : Platform) (configs : Nat → ServiceConfig) :
    (rules env configs).Followed (fun world => Sound env world ∧ Bound configs world)
      Unissued Issues
      (fun caller world =>
        admissible env (configs caller.service) caller world.log False)
      (fun caller world =>
        permitted env (configs caller.service) caller world.log False)
      (fun caller world => entitled caller world.log) where
  plain _ _ _ allowed := permitted_not_issues allowed
  offered _ _ _ valid offered := proposes_offered valid.1.recorded offered
  answered _ _ _ _ _ valid made answered :=
    answered_admissible valid.1 valid.2 made False.elim answered
  fresh _ _ _ _ _ _ answered apart unissued := unissued.kept answered apart
  lasting _ _ _ _ _ _ _ _ answered given := admissible_grow (answer_frame answered).1 given
  crashed _ _ _ crashed := crashed.1

theorem Reachable.sound {state : SystemState signature World Caller Error Unit}
    (reachable : Reachable env configs state) : Sound env state.world :=
  (SystemRules.Reachable.follows (rules_followed env configs) sound_initialWorld
    unissued_initialWorld reachable).1.1

end Sovereignite.Trust
