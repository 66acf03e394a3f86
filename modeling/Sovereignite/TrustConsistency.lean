import Sovereignite.TrustWellFormed

/-!
# What validation says about the records of a document

Each record is stored under its own identifier, and a revocation belongs
either to a revoked certificate or to a cross-certificate that no federation
uses any more.  These facts hold of every durable document.
-/

namespace Sovereignite.Trust

open Effect

variable {env : Platform}

/-- The record a revocation belongs to. -/
inductive RevocationOf (snapshot : Snapshot) (id : String) (revocation : RevocationRecord) :
    Prop where
  | leaf (cert : CertificateRecord) (kind : revocation.kind = .mtls)
      (found : snapshot.certificates.lookup id = some cert)
      (serial : cert.serial = revocation.serial)
      (revoked : cert.status = .revoked)
  | replaced (kind : revocation.kind = .cross) (absent : snapshot.certificates.lookup id = none)
      (unused : ∀ domain federation, snapshot.federations.lookup domain = some federation →
        federation.crossCertificateID ≠ id)

/-- The records of a document agree with each other. -/
structure Consistent (snapshot : Snapshot) : Prop where
  relationships : ∀ id relationship,
    snapshot.relationships.lookup id = some relationship → relationship.id = id
  certificates : ∀ id cert, snapshot.certificates.lookup id = some cert → cert.id = id
  certificateStatus : ∀ id cert,
    snapshot.certificates.lookup id = some cert → cert.status = .active ∨ cert.status = .revoked
  revokedCertificates : ∀ id cert,
    snapshot.certificates.lookup id = some cert →
      cert.status = .revoked → snapshot.revocations.has id = true
  revocations : ∀ id revocation,
    snapshot.revocations.lookup id = some revocation → RevocationOf snapshot id revocation
  federations : ∀ domain federation,
    snapshot.federations.lookup domain = some federation → federation.targetDomain = domain
  bundles : ∀ domain bundle, snapshot.bundles.lookup domain = some bundle →
    ∀ encoded ∈ bundle.caCertificates, encoded ≠ []

variable {snapshot : Snapshot}

theorem checkBundle_nonempty {entry : Σ _ : String, TrustBundleRecord} {encoded : Bytes}
    (checked : checkBundle env entry = .ok ())
    (member : encoded ∈ entry.2.caCertificates) : encoded ≠ [] := by
  simp only [checkBundle, bind_eq_ok, checkEach_eq_ok, mapError_eq_ok, Unique.exists_iff,
    PUnit.default_eq_unit] at checked
  obtain ⟨_, _, _, _, each⟩ := checked
  obtain ⟨_, form⟩ := validateCACertificate_eq_ok.mp (each encoded member).1
  exact form.nonempty

/-- The records of a document that passes validation agree with each other. -/
theorem WellFormed.consistent (form : WellFormed env snapshot) : Consistent snapshot where
  relationships := fun id record found => (form.relationships id record found).keyed
  certificates := fun id record found => (form.certificates id record found).keyed
  certificateStatus := fun id record found => (form.certificates id record found).status
  revokedCertificates := fun id record found =>
    (form.certificateLinks id record found).revocation
  revocations := fun id record found => by
    rcases (form.revocations id record found).kind with leaf | cross
    · obtain ⟨cert, present, serial, _, revoked, _⟩ :=
        form.revocationLeaves id record found leaf
      exact .leaf cert leaf present serial revoked
    · obtain ⟨uncertified, inactive⟩ := form.revocationsReplaced id record found cross
      exact .replaced cross uncertified inactive
  federations := fun domain record found => (form.federations domain record found).keyed
  bundles := fun domain record found encoded listed =>
    checkBundle_nonempty (form.bundles domain record found) listed

theorem Recorded.consistent {log : List Commit} (recorded : Recorded env log) :
    Consistent (durable log) := by
  cases recorded with
  | nil => refine ⟨?_, ?_, ?_, ?_, ?_, ?_, ?_⟩ <;> intro _ _ found <;> cases found
  | cons newest _ accepted =>
    have committed : newest.next.revision ≠ 0 := by
      intro zero
      have advanced := toNat_succ accepted.room
      rw [← accepted.advances, zero] at advanced
      simp at advanced
    exact ((validateSnapshot_eq_ok committed).mp accepted.valid).2.consistent

end Sovereignite.Trust
