import ContractMate.SigningRequests

/-!
# The status of a signing request

What each status says about the signers.  Every list of signers is described by exactly
one status, and `derive_request_status` gives that one.
-/

namespace ContractMate

namespace SigningRequests

/-- No signer has been sent anything. -/
def Untouched (signers : List SignerOut) : Prop :=
  ∀ signer ∈ signers, signer.latestStatus = .pending

/-- Some required signer has the latest status. -/
def RequiredHas (signers : List SignerOut) (status : SignerStatus) : Prop :=
  ∃ signer ∈ signers, signer.required = true ∧ signer.latestStatus = status

/-- There is a required signer, and all of them have signed. -/
def RequiredSigned (signers : List SignerOut) : Prop :=
  (∃ signer ∈ signers, signer.required = true) ∧
    ∀ signer ∈ signers, signer.required = true → signer.latestStatus = .signed

instance (signers : List SignerOut) : Decidable (Untouched signers) :=
  inferInstanceAs (Decidable (∀ signer ∈ signers, _))

instance (signers : List SignerOut) (status : SignerStatus) :
    Decidable (RequiredHas signers status) :=
  inferInstanceAs (Decidable (∃ signer ∈ signers, _))

instance (signers : List SignerOut) : Decidable (RequiredSigned signers) :=
  inferInstanceAs (Decidable (_ ∧ _))

/-- What a request status says about the signers. -/
def SigningRequestStatus.Describes (signers : List SignerOut) : SigningRequestStatus → Prop
  | notStarted => Untouched signers
  | declined => RequiredHas signers .declined
  | expired => RequiredHas signers .expired ∧ ¬ RequiredHas signers .declined
  | cancelled =>
      RequiredHas signers .cancelled ∧ ¬ RequiredHas signers .declined ∧
        ¬ RequiredHas signers .expired
  | completed => RequiredSigned signers
  | inProgress =>
      ¬ Untouched signers ∧ ¬ RequiredSigned signers ∧ ¬ RequiredHas signers .declined ∧
        ¬ RequiredHas signers .expired ∧ ¬ RequiredHas signers .cancelled

section Describes

variable {signers : List SignerOut} {latest : SignerStatus}

theorem untouched_iff_all :
    (signers.isEmpty || signers.all fun signer => signer.latestStatus = .pending) = true ↔
      Untouched signers := by
  constructor
  · intro checked
    rcases Bool.or_eq_true_iff.mp checked with empty | all
    · rw [List.isEmpty_iff.mp empty]
      intro signer member
      cases member
    · simpa [Untouched] using all
  · intro untouched
    simp only [Bool.or_eq_true]
    exact .inr (by simpa [Untouched] using untouched)

theorem requiredHas_iff_any :
    ((signers.filter fun signer => signer.required).any fun signer =>
      signer.latestStatus = latest) = true ↔ RequiredHas signers latest := by
  simp [RequiredHas]

theorem requiredSigned_iff_all :
    (!(signers.filter fun signer => signer.required).isEmpty &&
      (signers.filter fun signer => signer.required).all fun signer =>
        signer.latestStatus = .signed) = true ↔ RequiredSigned signers := by
  rw [Bool.and_eq_true, Bool.not_eq_true', List.isEmpty_eq_false_iff_exists_mem,
    List.all_eq_true]
  simp [RequiredSigned, and_imp]

/-- A required signer with some other status than `pending` has been sent the request. -/
theorem RequiredHas.touched (has : RequiredHas signers latest) (moved : latest ≠ .pending) :
    ¬ Untouched signers := by
  obtain ⟨signer, member, _, rfl⟩ := has
  intro untouched
  exact moved (untouched signer member)

theorem RequiredSigned.touched (signed : RequiredSigned signers) : ¬ Untouched signers := by
  obtain ⟨⟨signer, member, required⟩, all⟩ := signed
  exact RequiredHas.touched ⟨signer, member, required, all signer member required⟩ nofun

theorem RequiredSigned.not_has (signed : RequiredSigned signers) (other : latest ≠ .signed) :
    ¬ RequiredHas signers latest := by
  rintro ⟨signer, member, required, rfl⟩
  exact other (signed.2 signer member required)

/-- The search through the terminal statuses, one after the other. -/
theorem match_terminalStatuses (found : SignerStatus → Bool)
    (otherwise : SigningRequestStatus) :
    (match terminalStatuses.find? fun terminal => found terminal.1 with
      | some terminal => terminal.2
      | none => otherwise) =
      if found .declined then .declined
      else if found .expired then .expired
      else if found .cancelled then .cancelled
      else otherwise := by
  cases declined : found .declined <;> cases expired : found .expired <;>
    cases cancelled : found .cancelled <;>
    simp [terminalStatuses, declined, expired, cancelled]

theorem deriveRequestStatus_eq (signers : List SignerOut) :
    deriveRequestStatus signers =
      if Untouched signers then .notStarted
      else if RequiredHas signers .declined then .declined
      else if RequiredHas signers .expired then .expired
      else if RequiredHas signers .cancelled then .cancelled
      else if RequiredSigned signers then .completed
      else .inProgress := by
  have searched (otherwise : SigningRequestStatus) := match_terminalStatuses
    (fun latest => (signers.filter fun signer => signer.required).any fun signer =>
      signer.latestStatus = latest) otherwise
  simp only [requiredHas_iff_any] at searched
  rw [deriveRequestStatus]
  simp only [untouched_iff_all, requiredSigned_iff_all, ite_self]
  by_cases untouched : Untouched signers
  · rw [if_pos untouched, if_pos untouched]
  · rw [if_neg untouched, if_neg untouched]
    exact searched _

theorem deriveRequestStatus_eq_iff {status : SigningRequestStatus} :
    deriveRequestStatus signers = status ↔ status.Describes signers := by
  rw [deriveRequestStatus_eq]
  by_cases untouched : Untouched signers
  · have never : ∀ latest ≠ SignerStatus.pending, ¬ RequiredHas signers latest :=
      fun latest moved has => has.touched moved untouched
    have unsigned : ¬ RequiredSigned signers := fun signed => signed.touched untouched
    cases status <;> simp [SigningRequestStatus.Describes, untouched, never, unsigned]
  · by_cases signed : RequiredSigned signers
    · have never : ∀ latest ≠ SignerStatus.signed, ¬ RequiredHas signers latest :=
        fun latest other => signed.not_has other
      cases status <;> simp [SigningRequestStatus.Describes, untouched, never, signed]
    · by_cases declined : RequiredHas signers .declined
      · cases status <;>
          simp [SigningRequestStatus.Describes, untouched, signed, declined]
      · by_cases expired : RequiredHas signers .expired
        · cases status <;>
            simp [SigningRequestStatus.Describes, untouched, signed, declined, expired]
        · by_cases cancelled : RequiredHas signers .cancelled
          · cases status <;> simp [SigningRequestStatus.Describes, untouched, signed,
              declined, expired, cancelled]
          · cases status <;> simp [SigningRequestStatus.Describes, untouched, signed,
              declined, expired, cancelled]

/-- Two lists with the same members have the same status. -/
theorem describes_congr {first second : List SignerOut} {status : SigningRequestStatus}
    (same : ∀ signer, signer ∈ first ↔ signer ∈ second) :
    status.Describes first ↔ status.Describes second := by
  cases status <;>
    simp only [SigningRequestStatus.Describes, Untouched, RequiredHas, RequiredSigned, same]

/-- Beyond having been sent at all, only the required signers count. -/
theorem describes_of_required {first second : List SignerOut}
    {status : SigningRequestStatus}
    (same : ∀ signer, signer.required = true → (signer ∈ first ↔ signer ∈ second))
    (describes : status.Describes first) (begun : status ≠ .notStarted)
    (settled : status ≠ .inProgress) : status.Describes second := by
  have alike (latest : SignerStatus) :
      RequiredHas first latest ↔ RequiredHas second latest := by
    constructor
    · rintro ⟨signer, member, required, has⟩
      exact ⟨signer, (same signer required).mp member, required, has⟩
    · rintro ⟨signer, member, required, has⟩
      exact ⟨signer, (same signer required).mpr member, required, has⟩
  cases status with
  | notStarted => exact absurd rfl begun
  | inProgress => exact absurd rfl settled
  | declined => exact (alike _).mp describes
  | expired => exact describes.imp (alike _).mp (mt (alike _).mpr)
  | cancelled =>
      exact describes.imp (alike _).mp (And.imp (mt (alike _).mpr) (mt (alike _).mpr))
  | completed =>
      obtain ⟨⟨signer, member, required⟩, all⟩ := describes
      refine ⟨⟨signer, (same signer required).mp member, required⟩, ?_⟩
      intro signer member required
      exact all signer ((same signer required).mpr member) required

/-- `derive_request_status` reads the latest statuses of the required signers, in the
order of the terminal statuses, and asks of the others only whether all are pending. -/
theorem request_status_derivation (signers : List SignerOut) :
    (∀ other : List SignerOut, signers.Perm other →
      deriveRequestStatus other = deriveRequestStatus signers) ∧
    (deriveRequestStatus signers = .completed ↔
      (∃ signer ∈ signers, signer.required = true) ∧
        ∀ signer ∈ signers, signer.required = true → signer.latestStatus = .signed) ∧
    (deriveRequestStatus signers = .declined ↔
      ∃ signer ∈ signers, signer.required = true ∧ signer.latestStatus = .declined) ∧
    (deriveRequestStatus signers = .expired ↔
      (∃ signer ∈ signers, signer.required = true ∧ signer.latestStatus = .expired) ∧
        ∀ signer ∈ signers, signer.required = true → signer.latestStatus ≠ .declined) ∧
    (deriveRequestStatus signers = .cancelled ↔
      (∃ signer ∈ signers, signer.required = true ∧ signer.latestStatus = .cancelled) ∧
        ∀ signer ∈ signers, signer.required = true →
          signer.latestStatus ≠ .declined ∧ signer.latestStatus ≠ .expired) ∧
    (∀ other : List SignerOut,
      (signers.filter (·.required)).Perm (other.filter (·.required)) →
        deriveRequestStatus other = deriveRequestStatus signers ∨
          (deriveRequestStatus signers = .notStarted ∧
            deriveRequestStatus other = .inProgress) ∨
          deriveRequestStatus signers = .inProgress ∧
            deriveRequestStatus other = .notStarted) ∧
    (deriveRequestStatus signers = .notStarted ↔
      ∀ signer ∈ signers, signer.latestStatus = .pending) := by
  refine ⟨?_, deriveRequestStatus_eq_iff, deriveRequestStatus_eq_iff, ?_, ?_, ?_,
    deriveRequestStatus_eq_iff⟩
  · intro other permuted
    have described := deriveRequestStatus_eq_iff.mp (Eq.refl (deriveRequestStatus signers))
    exact deriveRequestStatus_eq_iff.mpr
      ((describes_congr fun _ => permuted.mem_iff).mp described)
  · rw [deriveRequestStatus_eq_iff]
    simp [SigningRequestStatus.Describes, RequiredHas]
  · rw [deriveRequestStatus_eq_iff]
    simp only [SigningRequestStatus.Describes, RequiredHas]
    grind
  · intro other required
    have alike : ∀ signer : SignerOut, signer.required = true →
        (signer ∈ signers ↔ signer ∈ other) := by
      intro signer isRequired
      have member := required.mem_iff (a := signer)
      simpa [isRequired] using member
    by_cases settled : deriveRequestStatus signers ≠ .notStarted ∧
        deriveRequestStatus signers ≠ .inProgress
    · have described := describes_of_required alike (deriveRequestStatus_eq_iff.mp rfl)
        settled.1 settled.2
      exact .inl (deriveRequestStatus_eq_iff.mpr described)
    · by_cases other_settled : deriveRequestStatus other ≠ .notStarted ∧
          deriveRequestStatus other ≠ .inProgress
      · have described := describes_of_required (fun signer isRequired =>
          (alike signer isRequired).symm) (deriveRequestStatus_eq_iff.mp rfl)
          other_settled.1 other_settled.2
        exact .inl (deriveRequestStatus_eq_iff.mpr described).symm
      · grind

end Describes

end SigningRequests

end ContractMate
