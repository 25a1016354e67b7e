import ContractMate.AdmissionAgreement

/-!
# Reservation keys

The key of an upload reservation is made of two digests, of the account and of the
pathname.  Both are taken by the helper that hashes email addresses, which strips its
argument and folds its case.
-/

namespace ContractMate

open PythonText AdmissionScripts

/-- The case folding of single characters, which is that of `str.lower` on ASCII. -/
structure CaseFolding where
  fold : Char → Text
  ascii : ∀ character : Char, character.toNat < 128 → fold character = [character.toLower]

/-- `str.casefold`. -/
def CaseFolding.casefold (folding : CaseFolding) (text : Text) : Text :=
  text.flatMap folding.fold

/-- `hexdigest` of a `sha256` that is injective on UTF-8 texts. -/
structure HexDigest where
  hexdigest : Text → Text
  hex : ∀ text, ∀ digit ∈ hexdigest text, digit ∈ "0123456789abcdef".toList
  injective : Function.Injective hexdigest

/-- `hash_identifier`. -/
def hashIdentifier (folding : CaseFolding) (sha256 : HexDigest) (identifier : Text) : Text :=
  sha256.hexdigest (folding.casefold (strip identifier))

/-- An account id: `str(uuid4())`. -/
structure AccountId where
  text : Text
  issued : ∀ character ∈ text, character ∈ "0123456789abcdef-".toList

/-- `_reservation_key` of an account. -/
def reservationKey (folding : CaseFolding) (sha256 : HexDigest) (account : AccountId)
    (pathname : Text) : Text :=
  reservationName (hashIdentifier folding sha256) account.text pathname

/-- `f"contracts/{workspace}/"`. -/
def expectedPathHead (workspace : Text) : Text :=
  "contracts/".toList ++ (workspace ++ ['/'])

/-- The pathname that a call is about. -/
def LimiterCall.pathname? : LimiterCall → Option Text
  | consume _ => none
  | reserveUpload pathname _ _ _ => some pathname
  | acquireUploadReservation pathname _ _ => some pathname
  | finalizeUploadReservation pathname _ _ => some pathname

/-- Calls on one pathname bear on calls on the other through the account's quota alone. -/
def KeptApart (key : Text → Text) (first second : Text) : Prop :=
  ∀ (limits : WindowLimits) (time later : RedisTime) (store : UploadStore Text)
    (call other : LimiterCall),
    call.pathname? = some first → other.pathname? = some second →
      let left := (call.run limits key time store).2
      (other.run limits key later left).1 =
        (other.run limits key later { left with reservations := store.reservations }).1

/-! ## Keys -/

section Keys

variable {folding : CaseFolding} {sha256 : HexDigest}

theorem hashIdentifier_inj {first second : Text} :
    hashIdentifier folding sha256 first = hashIdentifier folding sha256 second ↔
      folding.casefold (strip first) = folding.casefold (strip second) :=
  sha256.injective.eq_iff

theorem plain_of_issued {character : Char}
    (issued : character ∈ "0123456789abcdef-".toList) :
    isSpace character = false ∧ character.toNat < 128 ∧
      character.toLower = character := by
  have all : ("0123456789abcdef-".toList.all fun character =>
      decide (isSpace character = false ∧ character.toNat < 128 ∧
        character.toLower = character)) = true := by decide
  exact of_decide_eq_true (List.all_eq_true.mp all character issued)

/-- Nothing of an issued id is stripped or folded. -/
theorem AccountId.normalized (account : AccountId) :
    folding.casefold (strip account.text) = account.text := by
  have visible : ∀ character ∈ account.text, isSpace character = false :=
    fun character member => (plain_of_issued (account.issued character member)).1
  have trimmed : Trimmed account.text :=
    ⟨fun character leading => visible character (List.mem_of_mem_head? leading),
      fun character last => visible character (List.mem_of_mem_getLast? last)⟩
  rw [strip_of_trimmed trimmed, CaseFolding.casefold]
  have kept : ∀ text : Text, (∀ character ∈ text, character ∈ "0123456789abcdef-".toList) →
      text.flatMap folding.fold = text := by
    intro text issued
    induction text with
    | nil => rfl
    | cons character rest induction =>
        obtain ⟨_, ascii, lower⟩ := plain_of_issued (issued character (.head rest))
        rw [List.flatMap_cons, folding.ascii character ascii, lower,
          induction fun other member => issued other (.tail _ member)]
        rfl
  exact kept account.text account.issued

/-- Two keys are the same exactly for one account and texts that differ only in what the
helper takes away. -/
theorem reservationKey_inj {account other : AccountId} {pathname another : Text} :
    reservationKey folding sha256 account pathname =
        reservationKey folding sha256 other another ↔
      account.text = other.text ∧
        folding.casefold (strip pathname) = folding.casefold (strip another) := by
  have clear (identifier : Text) : ':' ∉ hashIdentifier folding sha256 identifier := by
    intro member
    have digit := sha256.hex _ _ member
    revert digit
    decide
  unfold reservationKey reservationName
  constructor
  · intro same
    rw [List.append_assoc, List.append_assoc, List.append_cancel_left_eq] at same
    obtain ⟨accounts, pathnames⟩ := separated_inj (clear _) (clear _) (List.cons.inj same).2
    rw [hashIdentifier_inj, account.normalized, other.normalized] at accounts
    exact ⟨accounts, hashIdentifier_inj.mp pathnames⟩
  · rintro ⟨accounts, pathnames⟩
    rw [accounts, hashIdentifier_inj.mpr pathnames]

end Keys

/-! ## Calls on two pathnames -/

section Calls

variable {limits : WindowLimits} {key : Text → Text} {time : RedisTime}
  {store left : UploadStore Text} {call : LimiterCall} {pathname first second : Text}

/-- A call writes at no key but its pathname's. -/
theorem LimiterCall.reservations_of_ne (about : call.pathname? = some first)
    (other : key first ≠ key second) :
    (call.run limits key time store).2.reservations (key second) =
      store.reservations (key second) := by
  cases call with
  | consume units => cases about
  | reserveUpload pathname ttlSeconds units observe =>
      cases about
      by_cases invalid : first = [] ∨ units < 1
      · simp [run, invalid]
      · simp [run, invalid, Function.update_of_ne other.symm]
  | acquireUploadReservation pathname leaseSeconds leaseId =>
      cases about
      by_cases missing : first = []
      · simp [run, missing]
      by_cases invalid : leaseSeconds < 1
      · simp [run, missing, invalid]
      · simp [run, missing, invalid, Function.update_of_ne other.symm]
  | finalizeUploadReservation pathname leaseId state =>
      cases about
      simp [run, Function.update_of_ne other.symm]

/-- A call reads the quota and its pathname's key. -/
theorem LimiterCall.result_congr (about : call.pathname? = some pathname)
    (quota : left.quota = store.quota)
    (reserved : left.reservations (key pathname) = store.reservations (key pathname)) :
    (call.run limits key time left).1 = (call.run limits key time store).1 := by
  cases call with
  | consume units => cases about
  | reserveUpload pathname ttlSeconds units observe =>
      cases about
      simp only [run, quota, reserved]
      split <;> rfl
  | acquireUploadReservation pathname leaseSeconds leaseId =>
      cases about
      simp only [run, reserved]
      split
      · rfl
      · split <;> rfl
  | finalizeUploadReservation pathname leaseId state =>
      cases about
      simp only [run, reserved]

theorem keptApart_of_ne (other : key first ≠ key second) : KeptApart key first second := by
  intro limits time later store call next about aboutNext left
  have untouched : left.reservations (key second) = store.reservations (key second) :=
    LimiterCall.reservations_of_ne about other
  exact LimiterCall.result_congr aboutNext rfl untouched

/-- With one key for both, a reservation of the first pathname is leased for the
second. -/
theorem key_ne_of_keptApart (named : first ≠ []) (named' : second ≠ [])
    (apart : KeptApart key first second) : key first ≠ key second := by
  intro same
  have leased := apart ⟨0, 0, 0⟩ 0 0 {} (.reserveUpload first 1 1 false)
    (.acquireUploadReservation second 1 []) rfl rfl
  have reserved : ((LimiterCall.reserveUpload first 1 1 false).run ⟨0, 0, 0⟩ key 0
      {}).2.reservations (key second) = some ⟨reservedValue, some 1000⟩ := by
    rw [← same]
    simp [LimiterCall.run, named, reserveUploadScript, RedisKey.get, WindowsReading.denied,
      RedisKey.expiry, RedisTime.millis]
  have acquired (store : UploadStore Text)
      (found : store.reservations (key second) = some ⟨reservedValue, some 1000⟩) :
      ((LimiterCall.acquireUploadReservation second 1 []).run ⟨0, 0, 0⟩ key 0 store).1 =
        .lease .acquired (some 1) := by
    simp only [LimiterCall.run, named', if_false, found]
    rfl
  have missing (store : UploadStore Text) (absent : store.reservations (key second) = none) :
      ((LimiterCall.acquireUploadReservation second 1 []).run ⟨0, 0, 0⟩ key 0 store).1 =
        .lease .missing none := by
    simp only [LimiterCall.run, named', if_false, absent]
    rfl
  simp only at leased
  rw [acquired _ reserved, missing _ rfl] at leased
  cases leased

theorem keptApart_iff (named : first ≠ []) (named' : second ≠ []) :
    KeptApart key first second ↔ key first ≠ key second :=
  ⟨key_ne_of_keptApart named named', keptApart_of_ne⟩

end Calls

theorem ne_nil_of_own {workspace pathname : Text}
    (own : expectedPathHead workspace <+: pathname) : pathname ≠ [] := by
  intro empty
  rw [empty, List.prefix_nil] at own
  unfold expectedPathHead at own
  have slash := (List.append_eq_nil_iff.mp (List.append_eq_nil_iff.mp own).2).2
  cases slash

/-- Keys of two issued accounts and pathnames of theirs tell them apart, and calls on two
pathnames of an account are kept apart, exactly when pathnames of one account differ in
more than surrounding white space and case. -/
theorem reservations_per_pathname (folding : CaseFolding) (sha256 : HexDigest)
    (account other : AccountId) (workspace workspace' pathname another : Text)
    (own : expectedPathHead workspace <+: pathname)
    (own' : expectedPathHead workspace' <+: another) :
    ((reservationKey folding sha256 account pathname =
          reservationKey folding sha256 other another →
        account.text = other.text ∧ pathname = another) ↔
      (account.text = other.text → pathname ≠ another →
        folding.casefold (strip pathname) ≠ folding.casefold (strip another))) ∧
    (KeptApart (reservationKey folding sha256 account) pathname another ↔
      folding.casefold (strip pathname) ≠ folding.casefold (strip another)) := by
  constructor
  · rw [reservationKey_inj]
    constructor
    · intro separated accounts distinct same
      exact distinct (separated ⟨accounts, same⟩).2
    · rintro separated ⟨accounts, same⟩
      refine ⟨accounts, ?_⟩
      by_contra distinct
      exact separated accounts distinct same
  · rw [keptApart_iff (ne_nil_of_own own) (ne_nil_of_own own'), Ne, reservationKey_inj]
    simp

/-! ## Two pathnames of one blob store -/

def asciiFolding : CaseFolding where
  fold := fun character => [character.toLower]
  ascii := fun _ _ => rfl

theorem mem_of_contains {text alphabet : Text}
    (contains : (text.all fun character => alphabet.contains character) = true) :
    ∀ character ∈ text, character ∈ alphabet := by
  intro character member
  simpa using List.all_eq_true.mp contains character member

def accountUuid : AccountId where
  text := "0b7c9a52-6a3e-4c1d-9f58-2d4e8b1a7c30".toList
  issued := mem_of_contains (by decide)

def ndaPathname : Text := "contracts/user-1/nda.pdf".toList

def msaPathname : Text := "contracts/user-1/msa.pdf".toList

/-- Every code point in unary digits. -/
def unaryDigits (text : Text) : Text :=
  text.flatMap fun character => List.replicate character.toNat 'f' ++ ['0']

theorem unaryDigits_injective : Function.Injective unaryDigits := by
  intro first
  induction first with
  | nil =>
      rintro (_ | ⟨head, tail⟩) same
      · rfl
      · simp [unaryDigits] at same
  | cons head tail induction =>
      rintro (_ | ⟨head', tail'⟩) same
      · simp [unaryDigits] at same
      · have split (head : Char) (tail : Text) : unaryDigits (head :: tail) =
            List.replicate head.toNat 'f' ++ '0' :: unaryDigits tail := by
          simp [unaryDigits]
        rw [split, split] at same
        obtain ⟨heads, tails⟩ := separated_inj (by simp [List.mem_replicate])
          (by simp [List.mem_replicate]) same
        have points : head.toNat = head'.toNat := by
          simpa using congrArg List.length heads
        rw [Char.toNat_inj.mp points, induction tails]

/-- A digest with the value at one text replaced. -/
def withDigest (key value : Text) (digest : Text → Text) (text : Text) : Text :=
  if text = key then value else digest text

theorem withDigest_injective {digest : Text → Text} (injective : Function.Injective digest)
    {key value : Text} (fresh : ∀ text, digest text ≠ value) :
    Function.Injective (withDigest key value digest) := by
  intro first second same
  unfold withDigest at same
  split_ifs at same with here there there
  · rw [here, there]
  · exact absurd same.symm (fresh second)
  · exact absurd same (fresh first)
  · exact injective same

def accountDigest : Text :=
  "fe9938bfd7175727aeb5ce11ac6d6641d661c702fbea365689f6b8eb52034cb9".toList

def ndaDigest : Text :=
  "70475fb1d4d3a4ff352bc003465e2bb82fb4f48cad314e8b5085228c329eaa64".toList

def msaDigest : Text :=
  "ea72407d9d029b7336d66cb663b6cda0132b686dd8de2a8792561c172935f339".toList

/-- The digests of the texts above, and of no other text. -/
def sampleHexdigest : Text → Text :=
  withDigest accountUuid.text accountDigest
    (withDigest ndaPathname ndaDigest
      (withDigest msaPathname msaDigest fun text => '0' :: unaryDigits text))

theorem sampleHexdigest_injective : Function.Injective sampleHexdigest := by
  have plain : Function.Injective fun text => '0' :: unaryDigits text :=
    fun _ _ same => unaryDigits_injective (List.cons.inj same).2
  have other (text digest : Text) (head : digest.head? ≠ some '0') :
      '0' :: unaryDigits text ≠ digest :=
    fun same => head (by rw [← same]; rfl)
  apply withDigest_injective
  · apply withDigest_injective
    · apply withDigest_injective plain
      exact fun text => other text _ (by decide)
    · intro text
      unfold withDigest
      split
      · decide
      · exact other text _ (by decide)
  · intro text
    unfold withDigest
    split
    · decide
    split
    · decide
    · exact other text _ (by decide)

def sampleSha256 : HexDigest where
  hexdigest := sampleHexdigest
  injective := sampleHexdigest_injective
  hex := by
    intro text
    unfold sampleHexdigest withDigest
    split
    · exact mem_of_contains (by decide)
    split
    · exact mem_of_contains (by decide)
    split
    · exact mem_of_contains (by decide)
    · intro digit member
      rcases List.mem_cons.mp member with rfl | member
      · decide
      · obtain ⟨character, _, member⟩ := List.mem_flatMap.mp member
        rcases List.mem_append.mp member with member | member
        · rw [(List.mem_replicate.mp member).2]
          decide
        · rw [List.mem_singleton.mp member]
          decide

/-- A capital letter makes another blob and the same reservation. -/
theorem reservations_of_cases :
    let key := reservationKey asciiFolding sampleSha256 accountUuid
    expectedPathHead "user-1".toList <+: "contracts/user-1/NDA.pdf".toList ∧
      expectedPathHead "user-1".toList <+: ndaPathname ∧
      "contracts/user-1/NDA.pdf".toList ≠ ndaPathname ∧
      key "contracts/user-1/NDA.pdf".toList = key ndaPathname ∧
      ¬ KeptApart key "contracts/user-1/NDA.pdf".toList ndaPathname := by
  have same : reservationKey asciiFolding sampleSha256 accountUuid
      "contracts/user-1/NDA.pdf".toList =
        reservationKey asciiFolding sampleSha256 accountUuid ndaPathname :=
    reservationKey_inj.mpr ⟨rfl, by decide⟩
  refine ⟨by decide, by decide, by decide, same, ?_⟩
  intro apart
  exact key_ne_of_keptApart (by decide) (by decide) apart same

/-- Blobs of different names have reservations of their own. -/
theorem reservations_of_names :
    KeptApart (reservationKey asciiFolding sampleSha256 accountUuid) ndaPathname
      msaPathname :=
  (reservations_per_pathname asciiFolding sampleSha256 accountUuid accountUuid
    "user-1".toList "user-1".toList ndaPathname msaPathname (by decide) (by decide)).2.mpr
      (by decide)

end ContractMate
