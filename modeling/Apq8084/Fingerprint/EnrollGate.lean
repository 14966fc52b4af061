import Apq8084.Fingerprint.SingleWorker

/-! The checks of `fingerprint_enroll` on the hardware auth token, and the challenge that
`fingerprint_pre_enroll` and `fingerprint_post_enroll` set (`fingerprint/fingerprint.c`). -/
namespace Apq8084.Fingerprint

def EPERM : Int := 1
def EPROTONOSUPPORT : Int := 93

def HW_AUTH_TOKEN_VERSION : UInt8 := 0
def HW_AUTH_FINGERPRINT : UInt32 := 2

/-- The fields of `hw_auth_token_t` that are looked at. -/
structure HwAuthToken where
  version : UInt8
  challenge : UInt64
  user_id : UInt64
  authenticator_type : UInt32

/-- The device; its `secure_user_id` is among what the threads share. -/
structure Device where
  challenge : UInt64
  user_id : UInt64
  hal : Hal

/-- How far a call of `fingerprint_enroll` gets. -/
inductive EnrollExit where
  | refused | noSpace | startEnroll
deriving DecidableEq

structure EnrollArgs where
  hat : Option HwAuthToken
  timeout_sec : UInt32
  init : InitOutcome
  create : Int
  createTimeout : Int

inductive DeviceEvent where
  /-- With the string that is in `tz.auth_token`. -/
  | preEnroll (auth_token : List UInt8)
  | postEnroll
  | enroll (args : EnrollArgs)
  /-- Anything else that the HAL and its threads do. -/
  | other (e : HalEvent)

namespace Device

/-- The structure comes from `calloc`. -/
def opened : Device := { challenge := 0, user_id := 0, hal := .quiet .opened }

def secureUserId (s : Device) : UInt64 := s.hal.shared.secureUserId

def setSecureUserId (s : Device) (user_id : UInt64) : Device :=
  { s with hal := { s.hal with shared := { s.hal.shared with secureUserId := user_id } } }

def sendErrorNotice (s : Device) (error_info : FingerprintError) : Device :=
  { s with hal := { s.hal with shared := s.hal.shared.notify (.error error_info) } }

/-- Behind the checks of the token: a free slot is needed, then the worker is started. -/
def enrollChecked (s : Device) (args : EnrollArgs) : EnrollExit × Int × Device :=
  if s.hal.shared.templates.firstFree = none then (.noSpace, -1, s.sendErrorNotice .noSpace)
  else
    let (ret, hal) := s.hal.vcsStartEnroll args.timeout_sec args.init args.create args.createTimeout
    (.startEnroll, ret, { s with hal })

def fingerprintEnroll (s : Device) (args : EnrollArgs) : EnrollExit × Int × Device :=
  match args.hat with
  | none => (.refused, -EPROTONOSUPPORT, s)
  | some hat =>
    let s := if hat.challenge = s.challenge then s.setSecureUserId hat.user_id else s
    if hat.version ≠ HW_AUTH_TOKEN_VERSION then (.refused, -EPROTONOSUPPORT, s)
    else if hat.challenge ≠ s.challenge ∧ hat.authenticator_type &&& HW_AUTH_FINGERPRINT = 0 then
      (.refused, -EPERM, s)
    else enrollChecked { s with user_id := hat.user_id } args

variable (hashString : List UInt8 → UInt64)

def fingerprintPreEnroll (s : Device) (auth_token : List UInt8) : UInt64 × Device :=
  let challenge := hashString auth_token
  (challenge, { s with challenge })

def fingerprintPostEnroll (s : Device) : Device := { s with challenge := 0 }

def step (s : Device) : DeviceEvent → Option Device
  | .preEnroll auth_token => some (s.fingerprintPreEnroll hashString auth_token).2
  | .postEnroll => some s.fingerprintPostEnroll
  | .enroll args => some (s.fingerprintEnroll args).2.2
  | .other (.enroll ..) => none
  | .other e => (s.hal.step e).map fun hal => { s with hal }

/-- The challenge that the last `pre_enroll` returned, unless a `post_enroll` came after it. -/
def issued : Option UInt64 → List DeviceEvent → Option UInt64
  | c, [] => c
  | _, .preEnroll auth_token :: as => issued (some (hashString auth_token)) as
  | _, .postEnroll :: as => issued none as
  | c, _ :: as => issued c as

variable {hashString} {s s' : Device} {hat : HwAuthToken} {args : EnrollArgs}
  {c : Option UInt64} {as : List DeviceEvent}

@[simp] theorem setSecureUserId_challenge (user_id : UInt64) :
    (s.setSecureUserId user_id).challenge = s.challenge := rfl

@[simp] theorem setSecureUserId_user_id (user_id : UInt64) :
    (s.setSecureUserId user_id).user_id = s.user_id := rfl

theorem enrollChecked_challenge : (s.enrollChecked args).2.2.challenge = s.challenge := by
  unfold enrollChecked
  split_ifs <;> rfl

theorem enrollChecked_exit : (s.enrollChecked args).1 ≠ .refused := by
  unfold enrollChecked
  split_ifs <;> nofun

/-- The device with the user of a token that carries the challenge. -/
def noted (s : Device) (hat : HwAuthToken) : Device :=
  if hat.challenge = s.challenge then s.setSecureUserId hat.user_id else s

theorem noted_challenge : (s.noted hat).challenge = s.challenge := by
  unfold noted
  split_ifs <;> rfl

theorem noted_user_id : (s.noted hat).user_id = s.user_id := by
  unfold noted
  split_ifs <;> rfl

/-- Whether a token passes the checks. -/
def Admitted (s : Device) (hat : HwAuthToken) : Prop :=
  hat.version = HW_AUTH_TOKEN_VERSION ∧
    (hat.challenge = s.challenge ∨ hat.authenticator_type &&& HW_AUTH_FINGERPRINT ≠ 0)

theorem fingerprintEnroll_none (h : args.hat = none) :
    s.fingerprintEnroll args = (.refused, -EPROTONOSUPPORT, s) := by
  unfold fingerprintEnroll
  rw [h]

/-- The ways through the checks for a token. -/
theorem fingerprintEnroll_some (h : args.hat = some hat) :
    (Admitted s hat ∧
      s.fingerprintEnroll args = enrollChecked { s.noted hat with user_id := hat.user_id } args) ∨
    (hat.version ≠ HW_AUTH_TOKEN_VERSION ∧
      s.fingerprintEnroll args = (.refused, -EPROTONOSUPPORT, s.noted hat)) ∨
    (hat.version = HW_AUTH_TOKEN_VERSION ∧ hat.challenge ≠ s.challenge ∧
      s.fingerprintEnroll args = (.refused, -EPERM, s)) := by
  have hunfold : s.fingerprintEnroll args =
      if hat.version ≠ HW_AUTH_TOKEN_VERSION then (.refused, -EPROTONOSUPPORT, s.noted hat)
      else if hat.challenge ≠ (s.noted hat).challenge ∧
          hat.authenticator_type &&& HW_AUTH_FINGERPRINT = 0 then (.refused, -EPERM, s.noted hat)
      else enrollChecked { s.noted hat with user_id := hat.user_id } args := by
    unfold fingerprintEnroll
    rw [h]
    rfl
  rw [noted_challenge] at hunfold
  by_cases hversion : hat.version = HW_AUTH_TOKEN_VERSION
  · rw [if_neg (not_not.mpr hversion)] at hunfold
    by_cases hperm : hat.challenge ≠ s.challenge ∧
        hat.authenticator_type &&& HW_AUTH_FINGERPRINT = 0
    · have hnoted : s.noted hat = s := if_neg hperm.1
      rw [if_pos hperm, hnoted] at hunfold
      exact Or.inr (Or.inr ⟨hversion, hperm.1, hunfold⟩)
    · rw [if_neg hperm] at hunfold
      refine Or.inl ⟨⟨hversion, ?_⟩, hunfold⟩
      rcases Classical.em (hat.challenge = s.challenge) with hc | hc
      · exact Or.inl hc
      · exact Or.inr fun hf => hperm ⟨hc, hf⟩
  · rw [if_pos hversion] at hunfold
    exact Or.inr (Or.inl ⟨hversion, hunfold⟩)

theorem fingerprintEnroll_challenge :
    (s.fingerprintEnroll args).2.2.challenge = s.challenge := by
  cases h : args.hat with
  | none => rw [fingerprintEnroll_none h]
  | some hat =>
    rcases fingerprintEnroll_some (s := s) h with ⟨-, h⟩ | ⟨-, h⟩ | ⟨-, -, h⟩ <;> rw [h]
    · rw [enrollChecked_challenge]
      exact noted_challenge
    · exact noted_challenge

theorem step_other_challenge {e : HalEvent} (hs : step hashString s (.other e) = some s') :
    s'.challenge = s.challenge := by
  have hmap : (s.hal.step e).map (fun hal => { s with hal }) = some s' := by
    cases e with
    | enroll => cases hs
    | _ => exact hs
  obtain ⟨hal, -, rfl⟩ := Option.map_eq_some_iff.mp hmap
  rfl

/-- The challenge is the one issued and not revoked, and 0 while there is none. -/
theorem run_challenge (hr : Machine.run (step hashString) s as = some s')
    (hs : s.challenge = c.getD 0) : s'.challenge = (issued hashString c as).getD 0 := by
  induction as generalizing s c with
  | nil =>
    cases hr
    exact hs
  | cons a as ih =>
    obtain ⟨t, ht, hrest⟩ := Option.bind_eq_some_iff.mp hr
    cases a with
    | preEnroll auth_token =>
      cases ht
      exact ih hrest rfl
    | postEnroll =>
      cases ht
      exact ih hrest rfl
    | enroll args =>
      cases ht
      exact ih hrest (fingerprintEnroll_challenge.trans hs)
    | other e =>
      exact ih hrest ((step_other_challenge ht).trans hs)

/-- After any calls, an enrollment is started only with a token of the right version that has
the fingerprint bit or carries the challenge issued; nothing is said of the challenge 0 while none
is issued. A refused token leaves the device as it was; nothing is said of the secure user where a
token of the wrong version carries the current challenge. -/
theorem enrollment_gate (hr : Machine.run (step hashString) opened as = some s)
    (args : EnrollArgs) :
    ((s.fingerprintEnroll args).1 = .startEnroll →
      ∃ hat, args.hat = some hat ∧ hat.version = HW_AUTH_TOKEN_VERSION ∧
        (hat.authenticator_type &&& HW_AUTH_FINGERPRINT = 0 →
          (issued hashString none as ≠ none ∨ hat.challenge ≠ 0) →
          issued hashString none as = some hat.challenge)) ∧
    ((s.fingerprintEnroll args).1 = .refused →
      ((s.fingerprintEnroll args).2.1 = -EPROTONOSUPPORT ∨
        (s.fingerprintEnroll args).2.1 = -EPERM) ∧
      (s.fingerprintEnroll args).2.2.user_id = s.user_id ∧
      (s.fingerprintEnroll args).2.2.challenge = s.challenge ∧
      ((∀ hat, args.hat = some hat → hat.version ≠ HW_AUTH_TOKEN_VERSION →
          hat.challenge ≠ s.challenge) →
        (s.fingerprintEnroll args).2.2.secureUserId = s.secureUserId)) := by
  have hchallenge : s.challenge = (issued hashString none as).getD 0 := run_challenge hr rfl
  cases h : args.hat with
  | none =>
    rw [fingerprintEnroll_none h]
    exact ⟨nofun, fun _ => ⟨Or.inl rfl, rfl, rfl, fun _ => rfl⟩⟩
  | some hat =>
    rcases fingerprintEnroll_some (s := s) h with ⟨hadm, h⟩ | ⟨hversion, h⟩ | ⟨-, -, h⟩ <;> rw [h]
    · refine ⟨fun _ => ⟨hat, rfl, hadm.1, fun hbit hopen => ?_⟩, fun hexit => ?_⟩
      · have hhat : hat.challenge = (issued hashString none as).getD 0 := by
          rcases hadm.2 with hc | hf
          · exact hc.trans hchallenge
          · exact absurd hbit hf
        cases hissued : issued hashString none as with
        | none =>
          rw [hissued] at hhat hopen
          rcases hopen with hno | hno
          · exact absurd rfl hno
          · exact absurd hhat hno
        | some c =>
          rw [hissued] at hhat
          rw [hhat]
          rfl
      · exact absurd hexit enrollChecked_exit
    · refine ⟨nofun, fun _ => ⟨Or.inl rfl, noted_user_id, noted_challenge, fun hother => ?_⟩⟩
      have hnoted : s.noted hat = s := if_neg (hother hat rfl hversion)
      rw [hnoted]
    · exact ⟨nofun, fun _ => ⟨Or.inr rfl, rfl, rfl, fun _ => rfl⟩⟩

/-- `hash_string` of the empty token. -/
def emptyTokenHash : UInt64 := 0xda39a3ee5e6b4b0d

def ending (as : List DeviceEvent) : Device :=
  (Machine.run (step fun _ => emptyTokenHash) opened as).getD opened

/-- An enrollment without time limit, whose worker can be started. -/
def enrollWith (hat : HwAuthToken) : EnrollArgs :=
  { hat := some hat, timeout_sec := 0, init := ⟨0, 0, 0⟩, create := 0, createTimeout := 0 }

theorem enrollment_gate_preEnroll :
    issued (fun _ => emptyTokenHash) none [.preEnroll []] = some emptyTokenHash ∧
      ((ending [.preEnroll []]).fingerprintEnroll (enrollWith ⟨0, emptyTokenHash, 9, 1⟩)).1 =
        .startEnroll ∧
      ((ending [.preEnroll []]).fingerprintEnroll (enrollWith ⟨0, 5, 9, 1⟩)).2.2.secureUserId =
        0 := by
  have hrun : Machine.run (step fun _ => emptyTokenHash) opened [.preEnroll []] =
      some (ending [.preEnroll []]) := rfl
  obtain ⟨-, hrefused⟩ := enrollment_gate hrun (enrollWith ⟨0, 5, 9, 1⟩)
  refine ⟨rfl, rfl, ((hrefused rfl).2.2.2 fun hat hhat hversion => ?_).trans rfl⟩
  cases hhat
  exact absurd rfl hversion

/-- A token with the fingerprint bit needs no challenge; a revoked challenge is replaced by 0; the
secure user is taken from a token that is then refused; and the -1 of a busy sensor is `-EPERM`. -/
theorem foreign_tokens_enroll :
    (issued (fun _ => emptyTokenHash) none [.preEnroll []] = some emptyTokenHash ∧
      ((ending [.preEnroll []]).fingerprintEnroll (enrollWith ⟨0, 5, 9, 2⟩)).1 = .startEnroll) ∧
    (issued (fun _ => emptyTokenHash) none [.preEnroll [], .postEnroll] = none ∧
      ((ending [.preEnroll [], .postEnroll]).fingerprintEnroll (enrollWith ⟨0, 0, 9, 1⟩)).1 =
        .startEnroll) ∧
    (((ending [.preEnroll []]).fingerprintEnroll (enrollWith ⟨1, emptyTokenHash, 9, 1⟩)).2.1 =
        -EPROTONOSUPPORT ∧
      (ending [.preEnroll []]).secureUserId = 0 ∧
      ((ending [.preEnroll []]).fingerprintEnroll
        (enrollWith ⟨1, emptyTokenHash, 9, 1⟩)).2.2.secureUserId = 9) ∧
    ((ending [.enroll (enrollWith ⟨0, 0, 9, 1⟩)]).user_id = 9 ∧
      ((ending [.enroll (enrollWith ⟨0, 0, 9, 1⟩)]).fingerprintEnroll
        (enrollWith ⟨0, 0, 10, 1⟩)).2.1 = -EPERM ∧
      ((ending [.enroll (enrollWith ⟨0, 0, 9, 1⟩)]).fingerprintEnroll
        (enrollWith ⟨0, 0, 10, 1⟩)).2.2.user_id = 10) :=
  ⟨⟨rfl, rfl⟩, ⟨rfl, rfl⟩, ⟨rfl, rfl, rfl⟩, rfl, rfl, rfl⟩

end Device

end Apq8084.Fingerprint
