import Sovereignite.TrustIdentityRecord

/-!
# Updates of an identity record by peer records

An envelope is stale when its sequence is below the one of the record.  A fresh
one replaces the sequence, and the addresses when it carries any.  Which peer
it is about is not asked.
-/

namespace Sovereignite.Trust

open Effect

/-- A peer record with its addresses, given as texts or as parsed addresses. -/
structure IdentityEnvelope (Multiaddr : Type) where
  addrInfo : AddrInfo Multiaddr
  sequence : UInt64
  addresses : List String

section Updates

variable {Multiaddr : Type} (lib : PeerLibrary Multiaddr)

def mapPeerRecordToIdentityRecord (record : IdentityRecord)
    (envelope : IdentityEnvelope Multiaddr) : Except Error IdentityRecord := do
  reject (decide (envelope.sequence < record.peerRecordSequence))
    (.sentinel .stalePeerRecordEnvelope)
  let result := { record with peerRecordSequence := envelope.sequence }
  if envelope.addresses.length > 0 then
    return { result with addrs := envelope.addresses }
  else
    match envelope.addrInfo.addrs with
    | some addrs => return { result with addrs := addrs.map lib.multiaddrString }
    | none => return result

/-- Apply an envelope, or skip it when it is rejected. -/
def applyEnvelope (record : IdentityRecord) (envelope : IdentityEnvelope Multiaddr) :
    IdentityRecord :=
  match mapPeerRecordToIdentityRecord lib record envelope with
  | .ok updated => updated
  | .error _ => record

def applyEnvelopes (record : IdentityRecord) (envelopes : List (IdentityEnvelope Multiaddr)) :
    IdentityRecord :=
  envelopes.foldl (applyEnvelope lib) record

/-- The addresses that an envelope puts into a record. -/
def IdentityEnvelope.carried (envelope : IdentityEnvelope Multiaddr) : Option (List String) :=
  if envelope.addresses = [] then
    envelope.addrInfo.addrs.map (List.map lib.multiaddrString)
  else
    some envelope.addresses

/-- The order of the envelopes does not matter, and neither do those of other
peers. -/
structure Converges (record : IdentityRecord) (envelopes : List (IdentityEnvelope Multiaddr)) :
    Prop where
  order : ∀ others, others.Perm envelopes →
    applyEnvelopes lib record others = applyEnvelopes lib record envelopes
  foreign : ∀ others, others.Perm envelopes →
    applyEnvelopes lib record (others.filter fun envelope => envelope.addrInfo.id = record.peerID) =
      applyEnvelopes lib record others

/-- The newest envelope, when it is fresh, decides: one of this peer has to
carry addresses, or nothing fresh may change them; one of another peer must
repeat what the record has. -/
def Decided (record : IdentityRecord) (envelopes : List (IdentityEnvelope Multiaddr)) : Prop :=
  ∀ newest ∈ envelopes, record.peerRecordSequence ≤ newest.sequence →
    (∀ envelope ∈ envelopes, envelope.sequence ≤ newest.sequence) →
    if newest.addrInfo.id = record.peerID then
      newest.carried lib = none → ∀ envelope ∈ envelopes,
        record.peerRecordSequence ≤ envelope.sequence →
          ∀ addrs, envelope.carried lib = some addrs → addrs = record.addrs
    else
      newest.sequence = record.peerRecordSequence ∧
        ∀ addrs, newest.carried lib = some addrs → addrs = record.addrs

end Updates

variable {Multiaddr : Type} {lib : PeerLibrary Multiaddr} {record : IdentityRecord}
variable {envelope newest : IdentityEnvelope Multiaddr}
variable {envelopes before after : List (IdentityEnvelope Multiaddr)}

theorem applyEnvelope_stale (stale : envelope.sequence < record.peerRecordSequence) :
    applyEnvelope lib record envelope = record := by
  simp [applyEnvelope, mapPeerRecordToIdentityRecord, reject, stale, bind, Except.bind]

variable (lib) in
theorem applyEnvelope_fresh (fresh : record.peerRecordSequence ≤ envelope.sequence) :
    applyEnvelope lib record envelope = { record with
        peerRecordSequence := envelope.sequence
        addrs := (envelope.carried lib).getD record.addrs } := by
  have current : ¬ envelope.sequence < record.peerRecordSequence := UInt64.not_lt.mpr fresh
  unfold applyEnvelope mapPeerRecordToIdentityRecord IdentityEnvelope.carried
  cases given : envelope.addresses with
  | nil =>
    cases known : envelope.addrInfo.addrs <;>
      simp [reject, current, bind, Except.bind, pure, Except.pure]
  | cons => simp [reject, current, bind, Except.bind, pure, Except.pure]

/-- An envelope that does not change a record: it is stale or repeats it. -/
def Inert (lib : PeerLibrary Multiaddr) (record : IdentityRecord)
    (envelope : IdentityEnvelope Multiaddr) : Prop :=
  envelope.sequence < record.peerRecordSequence ∨
    (envelope.sequence = record.peerRecordSequence ∧
      ∀ addrs, envelope.carried lib = some addrs → addrs = record.addrs)

theorem applyEnvelopes_inert (inert : ∀ envelope ∈ envelopes, Inert lib record envelope) :
    applyEnvelopes lib record envelopes = record := by
  induction envelopes with
  | nil => rfl
  | cons envelope _ ih =>
    simp only [List.mem_cons, forall_eq_or_imp] at inert
    have unchanged : applyEnvelope lib record envelope = record := by
      rcases inert.1 with stale | ⟨same, repeats⟩
      · exact applyEnvelope_stale stale
      · rw [applyEnvelope_fresh lib (UInt64.le_of_eq same.symm), same]
        cases carries : envelope.carried lib with
        | none => rfl
        | some addrs => simp [repeats addrs carries]
    simp only [applyEnvelopes, List.foldl_cons, unchanged]
    exact ih inert.2

/-- Nothing fresh in a list changes the addresses. -/
def Agrees (lib : PeerLibrary Multiaddr) (record : IdentityRecord)
    (envelopes : List (IdentityEnvelope Multiaddr)) : Prop :=
  ∀ envelope ∈ envelopes, record.peerRecordSequence ≤ envelope.sequence →
    ∀ addrs, envelope.carried lib = some addrs → addrs = record.addrs

variable (lib) in
/-- Only the sequence and the addresses change, and the sequence is one that
was there. -/
theorem applyEnvelopes_frame (record : IdentityRecord)
    (envelopes : List (IdentityEnvelope Multiaddr)) :
    ∃ sequence addrs, applyEnvelopes lib record envelopes =
        { record with peerRecordSequence := sequence, addrs } ∧
      (sequence = record.peerRecordSequence ∨
        ∃ envelope ∈ envelopes, sequence = envelope.sequence) ∧
      (Agrees lib record envelopes → addrs = record.addrs) := by
  induction envelopes generalizing record with
  | nil => exact ⟨_, _, rfl, .inl rfl, fun _ => rfl⟩
  | cons envelope rest ih =>
    by_cases stale : envelope.sequence < record.peerRecordSequence
    · obtain ⟨sequence, addrs, applied, known, agreed⟩ := ih record
      refine ⟨sequence, addrs, ?_, ?_, ?_⟩
      · simpa only [applyEnvelopes, List.foldl_cons, applyEnvelope_stale stale] using applied
      · exact known.imp_right fun ⟨other, member, same⟩ =>
          ⟨other, List.mem_cons_of_mem _ member, same⟩
      · exact fun agrees => agreed fun other member => agrees other (List.mem_cons_of_mem _ member)
    · have fresh := UInt64.not_lt.mp stale
      obtain ⟨sequence, addrs, applied, known, agreed⟩ := ih (applyEnvelope lib record envelope)
      have updated := applyEnvelope_fresh lib fresh
      refine ⟨sequence, addrs, ?_, ?_, ?_⟩
      · simp only [applyEnvelopes, List.foldl_cons]
        rw [show rest.foldl _ _ = _ from applied, updated]
      · rw [updated] at known
        rcases known with same | ⟨other, member, same⟩
        · exact .inr ⟨envelope, List.mem_cons_self, same⟩
        · exact .inr ⟨other, List.mem_cons_of_mem _ member, same⟩
      · intro agrees
        have kept : (applyEnvelope lib record envelope).addrs = record.addrs := by
          rw [updated]
          cases carries : envelope.carried lib with
          | none => rfl
          | some given => exact agrees envelope List.mem_cons_self fresh given carries
        rw [agreed, kept]
        intro other member later given carries
        rw [kept]
        refine agrees other (List.mem_cons_of_mem _ member) ?_ given carries
        rw [updated] at later
        exact UInt64.le_trans fresh later

def Distinct (envelopes : List (IdentityEnvelope Multiaddr)) : Prop :=
  (envelopes.map IdentityEnvelope.sequence).Nodup

theorem below_newest (distinct : Distinct (newest :: envelopes))
    (highest : ∀ envelope ∈ newest :: envelopes, envelope.sequence ≤ newest.sequence)
    {envelope : IdentityEnvelope Multiaddr} (member : envelope ∈ envelopes) :
    envelope.sequence < newest.sequence := by
  have apart : newest.sequence ∉ envelopes.map IdentityEnvelope.sequence :=
    (List.nodup_cons.mp distinct).1
  refine UInt64.lt_of_le_of_ne (highest envelope (List.mem_cons_of_mem _ member)) ?_
  intro same
  exact apart (same ▸ List.mem_map_of_mem member)

variable (lib) in
/-- Applied first, the newest envelope leaves the others stale. -/
theorem applyEnvelopes_newest_first (distinct : Distinct (newest :: envelopes))
    (fresh : record.peerRecordSequence ≤ newest.sequence)
    (highest : ∀ envelope ∈ newest :: envelopes, envelope.sequence ≤ newest.sequence) :
    applyEnvelopes lib record (newest :: envelopes) = { record with
        peerRecordSequence := newest.sequence
        addrs := (newest.carried lib).getD record.addrs } := by
  have updated := applyEnvelope_fresh lib fresh
  simp only [applyEnvelopes, List.foldl_cons, updated]
  exact applyEnvelopes_inert fun envelope member => .inl (below_newest distinct highest member)

/-- Wherever it stands, the newest envelope decides, when it carries addresses
or nothing fresh changes them. -/
theorem applyEnvelopes_newest (member : newest ∈ envelopes) (distinct : Distinct envelopes)
    (fresh : record.peerRecordSequence ≤ newest.sequence)
    (highest : ∀ envelope ∈ envelopes, envelope.sequence ≤ newest.sequence)
    (decides : newest.carried lib = none → Agrees lib record envelopes) :
    applyEnvelopes lib record envelopes = { record with
        peerRecordSequence := newest.sequence
        addrs := (newest.carried lib).getD record.addrs } := by
  obtain ⟨before, after, rfl⟩ := List.append_of_mem member
  obtain ⟨sequence, addrs, applied, known, agreed⟩ := applyEnvelopes_frame lib record before
  have split : applyEnvelopes lib record (before ++ newest :: after) =
      applyEnvelopes lib { record with peerRecordSequence := sequence, addrs }
        (newest :: after) := by
    rw [← applied]
    exact List.foldl_append
  have current : sequence ≤ newest.sequence := by
    rcases known with rfl | ⟨envelope, inside, rfl⟩
    · exact fresh
    · exact highest envelope (List.mem_append_left _ inside)
  have distinctTail : Distinct (newest :: after) := by
    unfold Distinct at distinct ⊢
    rw [List.map_append] at distinct
    exact distinct.of_append_right
  rw [split, applyEnvelopes_newest_first lib distinctTail current
    fun envelope inside => highest envelope (List.mem_append_right _ inside)]
  cases carries : newest.carried lib with
  | some => rfl
  | none =>
    have same := agreed fun envelope inside =>
      decides carries envelope (List.mem_append_left _ inside)
    simp [same]

theorem exists_newest (envelopes : List (IdentityEnvelope Multiaddr)) (nonempty : envelopes ≠ []) :
    ∃ newest ∈ envelopes, ∀ envelope ∈ envelopes, envelope.sequence ≤ newest.sequence := by
  induction envelopes with
  | nil => exact absurd rfl nonempty
  | cons envelope rest ih =>
    by_cases alone : rest = []
    · exact ⟨envelope, List.mem_cons_self, by simp [alone]⟩
    · obtain ⟨newest, member, highest⟩ := ih alone
      by_cases older : envelope.sequence ≤ newest.sequence
      · exact ⟨newest, List.mem_cons_of_mem _ member, by simpa using ⟨older, highest⟩⟩
      · have above : newest.sequence ≤ envelope.sequence := (UInt64.le_total _ _).resolve_left older
        refine ⟨envelope, List.mem_cons_self, ?_⟩
        simpa using fun other inside => UInt64.le_trans (highest other inside) above

theorem converges_of_decided (distinct : Distinct envelopes)
    (decided : Decided lib record envelopes) : Converges lib record envelopes := by
  by_cases own : ∃ newest ∈ envelopes, record.peerRecordSequence ≤ newest.sequence ∧
      (∀ envelope ∈ envelopes, envelope.sequence ≤ newest.sequence) ∧
      newest.addrInfo.id = record.peerID
  · obtain ⟨newest, member, fresh, highest, own⟩ := own
    have decides := decided newest member fresh highest
    rw [if_pos own] at decides
    have result : ∀ others : List (IdentityEnvelope Multiaddr), others ⊆ envelopes →
        Distinct others → newest ∈ others → applyEnvelopes lib record others = { record with
            peerRecordSequence := newest.sequence
            addrs := (newest.carried lib).getD record.addrs } := by
      intro others among distinctOthers present
      exact applyEnvelopes_newest present distinctOthers fresh
        (fun envelope there => highest envelope (among there))
        fun missing envelope there => decides missing envelope (among there)
    have permuted : ∀ others, others.Perm envelopes → Distinct others ∧ newest ∈ others :=
      fun others perm => ⟨(perm.map _).nodup_iff.mpr distinct, perm.mem_iff.mpr member⟩
    constructor
    · intro others perm
      obtain ⟨distinctOthers, present⟩ := permuted others perm
      rw [result others perm.subset distinctOthers present,
        result envelopes (List.Subset.refl _) distinct member]
    · intro others perm
      obtain ⟨distinctOthers, present⟩ := permuted others perm
      have sublist : (others.filter fun envelope => envelope.addrInfo.id = record.peerID).Sublist
          others := List.filter_sublist
      rw [result others perm.subset distinctOthers present,
        result _ (fun _ there => perm.subset (sublist.subset there))
          ((sublist.map _).nodup distinctOthers) (by simp [present, own])]
  · have inert : ∀ envelope ∈ envelopes, Inert lib record envelope := by
      intro envelope member
      obtain ⟨newest, inside, highest⟩ := exists_newest envelopes (List.ne_nil_of_mem member)
      by_cases fresh : record.peerRecordSequence ≤ newest.sequence
      · have foreign : newest.addrInfo.id ≠ record.peerID :=
          fun same => own ⟨newest, inside, fresh, highest, same⟩
        have decision := decided newest inside fresh highest
        rw [if_neg foreign] at decision
        by_cases same : envelope.sequence = newest.sequence
        · rw [List.inj_on_of_nodup_map distinct member inside same]
          exact .inr decision
        · rw [Inert, ← decision.1]
          exact .inl (UInt64.lt_of_le_of_ne (highest envelope member) same)
      · exact .inl (UInt64.lt_of_le_of_lt (highest envelope member) (UInt64.not_le.mp fresh))
    have skipped : ∀ others : List (IdentityEnvelope Multiaddr), others ⊆ envelopes →
        applyEnvelopes lib record others = record :=
      fun others among => applyEnvelopes_inert fun envelope there => inert envelope (among there)
    constructor
    · intro others perm
      rw [skipped others perm.subset, skipped envelopes (List.Subset.refl _)]
    · intro others perm
      rw [skipped others perm.subset,
        skipped _ fun _ there => perm.subset (List.mem_of_mem_filter there)]

theorem decided_of_converges (distinct : Distinct envelopes)
    (converges : Converges lib record envelopes) : Decided lib record envelopes := by
  intro newest member fresh highest
  obtain ⟨before, after, rfl⟩ := List.append_of_mem member
  have front : (newest :: (before ++ after)).Perm (before ++ newest :: after) :=
    List.perm_middle.symm
  have distinctFront : Distinct (newest :: (before ++ after)) :=
    (front.map _).nodup_iff.mpr distinct
  have highestFront : ∀ envelope ∈ newest :: (before ++ after),
      envelope.sequence ≤ newest.sequence :=
    fun envelope there => highest envelope (front.subset there)
  have first := applyEnvelopes_newest_first lib distinctFront fresh highestFront
  split
  · intro missing envelope there later addrs carries
    have other : envelope ≠ newest := by
      rintro rfl
      cases missing.symm.trans carries
    have inRest : envelope ∈ before ++ after :=
      (List.mem_cons.mp (front.symm.subset there)).resolve_left other
    obtain ⟨left, right, parts⟩ := List.append_of_mem inRest
    have rest : (envelope :: (left ++ right)).Perm (before ++ after) := by
      rw [parts]
      exact List.perm_middle.symm
    -- the carrying envelope first, then the newest one, then the others
    have swapped : (envelope :: newest :: (left ++ right)).Perm (before ++ newest :: after) :=
      (List.Perm.swap newest envelope _).trans ((rest.cons newest).trans front)
    have sublist : (newest :: (left ++ right)).Sublist (newest :: (left ++ envelope :: right)) :=
      ((List.sublist_cons_self envelope right).append_left left).cons_cons newest
    rw [parts] at distinctFront highestFront
    have reached : (applyEnvelope lib record envelope).peerRecordSequence ≤ newest.sequence := by
      rw [applyEnvelope_fresh lib later]
      exact highest envelope there
    have second := applyEnvelopes_newest_first lib ((sublist.map _).nodup distinctFront)
      reached fun other inside => highestFront other (sublist.subset inside)
    have equal : applyEnvelopes lib record (envelope :: newest :: (left ++ right)) =
        applyEnvelopes lib record (newest :: (before ++ after)) :=
      (converges.order _ swapped).trans (converges.order _ front).symm
    rw [first, show applyEnvelopes lib record (envelope :: newest :: (left ++ right)) = _
      from second, applyEnvelope_fresh lib later, missing, carries] at equal
    exact congrArg IdentityRecord.addrs equal
  · next foreign =>
      have equal := converges.foreign _ front
      rw [first, List.filter_cons_of_neg (by simpa using foreign)] at equal
      have below : ∀ envelope ∈ (before ++ after).filter
          fun envelope => envelope.addrInfo.id = record.peerID,
          envelope.sequence < newest.sequence := fun envelope inside =>
        below_newest distinctFront highestFront (List.mem_of_mem_filter inside)
      obtain ⟨sequence, addrs, applied, known, _⟩ := applyEnvelopes_frame lib
        record ((before ++ after).filter fun envelope => envelope.addrInfo.id = record.peerID)
      have reached : sequence = newest.sequence :=
        congrArg IdentityRecord.peerRecordSequence (applied.symm.trans equal)
      have same : newest.sequence = record.peerRecordSequence := by
        rcases known with kept | ⟨envelope, inside, taken⟩
        · rw [← reached, kept]
        · exact absurd (taken.symm.trans reached) (UInt64.ne_of_lt (below envelope inside))
      refine ⟨same, fun given carries => ?_⟩
      rw [applyEnvelopes_inert fun envelope inside => .inl (same ▸ below envelope inside),
        carries] at equal
      exact (congrArg IdentityRecord.addrs equal).symm

/-- Updates converge exactly when the newest envelope decides them. -/
theorem updates_converge_iff (distinct : Distinct envelopes) :
    Converges lib record envelopes ↔ Decided lib record envelopes :=
  ⟨decided_of_converges distinct, converges_of_decided distinct⟩

def sampleEnvelope (peerID : String) (sequence : UInt64) (addresses : List String) :
    IdentityEnvelope String :=
  ⟨⟨peerID, none⟩, sequence, addresses⟩

def sampleIdentityRecord : IdentityRecord where
  peerID := samplePeer
  addrs := ["/ip4/10.0.0.1/tcp/4001"]
  keys := []
  handle := 0x81000000
  phase := .pending
  spiffeID := deviceSPIFFEID sampleName samplePeer

theorem carrying_updates_converge : Converges plainLibrary sampleIdentityRecord
    [sampleEnvelope samplePeer 1 ["/ip4/10.0.0.2/tcp/4001"],
      sampleEnvelope samplePeer 2 ["/ip4/10.0.0.3/tcp/4001"]] :=
  (updates_converge_iff (by unfold Distinct; decide)).mpr (by unfold Decided; decide)

/-- When the newest envelope carries no addresses, its place decides which ones
the record keeps; and an envelope of another peer replaces the addresses. -/
theorem bare_and_foreign_updates_diverge :
    (¬ Converges plainLibrary sampleIdentityRecord
      [sampleEnvelope samplePeer 1 ["/ip4/10.0.0.2/tcp/4001"], sampleEnvelope samplePeer 2 []]) ∧
    ¬ Converges plainLibrary sampleIdentityRecord
      [sampleEnvelope "12d3other" 1 ["/ip4/10.0.0.2/tcp/4001"]] := by
  constructor
  · intro converges
    have swapped := converges.order _ (List.Perm.swap _ _ [])
    revert swapped
    decide
  · intro converges
    have dropped := converges.foreign _ (.refl _)
    revert dropped
    decide

end Sovereignite.Trust
