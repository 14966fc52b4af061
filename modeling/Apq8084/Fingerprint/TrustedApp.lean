import Apq8084.Fingerprint.Worker
import Apq8084.Lib.Machine

/-! Starting and stopping the trusted app, `vcs_init`, `vcs_resume` and `vcs_uninit` of
`fingerprint/fingerprint_tz.c`, and what the return value of `vcs_init` says about the app. -/
namespace Apq8084.Fingerprint.TrustedApp

/-- The commands that are sent outside the worker threads. -/
inductive Cmd where
  | vfmInitialize
  | vfmUninitialize
  | vfmDeviceInitialize
  | vfmDeviceCalibrate
  | vfmAuthSessionBegin
  | vfmAuthSessionEnd
  | vendorGetAuthToken
  | vendorEnterAuthSession
deriving DecidableEq

/-- `len` and `data` as the app sees them. -/
structure Request where
  cmd : Cmd
  len : Int
  data : Nat → UInt8

structure Exchange where
  request : Request
  reply : Reply

/-- An instance of the app that is running: whether a session was open when it was started, and
what it was sent since. -/
structure App where
  session : Bool
  exchanges : List Exchange

def AUTH_TOKEN_LENGTH : Nat := 0x70

def AUTH_SESSION_TOKEN_LENGTH : Nat := 0x20

/-- The fields of `tz`, and the instances of the app. -/
structure State where
  init : Bool
  state : WorkerState
  /-- The instance that the handle belongs to. -/
  qhandle : Option App
  authSessionOpend : Bool
  authToken : Nat → UInt8
  authSessionToken : Nat → UInt8
  calibrateLen : Int
  calibrateData : Nat → UInt8
  /-- The running instances whose handle was overwritten. -/
  leaked : Nat

/-- The outcome of one `vcs_init`. -/
structure AppOutcome where
  startApp : Int
  setBandwidth : Int
  replies : Cmd → Reply

def zeros : Nat → UInt8 := fun _ => 0

/-- `memcpy` to the start of a buffer. -/
def memcpy (dst src : Nat → UInt8) (len : Nat) : Nat → UInt8 :=
  fun k => if k < len then src k else dst k

namespace State

/-- `QSEECom_send_cmd` with the answer `reply`. -/
def sendCmd (s : State) (request : Request) (reply : Reply) : State :=
  { s with
    qhandle := s.qhandle.map fun app =>
      { app with exchanges := app.exchanges ++ [⟨request, reply⟩] } }

/-- A successful `QSEECom_start_app`. -/
def startApp (s : State) : State :=
  { s with
    qhandle := some { session := s.authSessionOpend, exchanges := [] }
    leaked := s.leaked + s.qhandle.toList.length }

/-- `QSEECom_shutdown_app`. -/
def shutdownApp (s : State) : State := { s with qhandle := none }

/-- `vfmDeviceCalibrate`, with the calibration data of the last time if there is any. -/
def calibrateRequest (s : State) : Request :=
  { cmd := .vfmDeviceCalibrate
    len := if s.calibrateLen ≠ 0 then s.calibrateLen else 0x10
    data := fun k =>
      if k = 0 then 0xc0
      else if k = 1 then 0x12
      else if 4 ≤ k ∧ k < 4 + s.calibrateLen.toNat then s.calibrateData (k - 4)
      else 0 }

def keepCalibration (s : State) (r : Reply) : State :=
  if s.calibrateLen = 0 then
    let len := r.data 3 + 0xf
    { s with calibrateLen := len, calibrateData := memcpy s.calibrateData r.bytes len.toNat }
  else s

/-- The end of `vcs_resume`. -/
def resumeDevice (s : State) (replies : Cmd → Reply) : Int × State :=
  let r := replies .vfmDeviceInitialize
  let s := s.sendCmd { cmd := .vfmDeviceInitialize, len := 0, data := zeros } r
  if ¬r.Ok then (r.ret, s)
  else
    let r := replies .vfmDeviceCalibrate
    let s := s.sendCmd s.calibrateRequest r
    if ¬r.Ok then (r.ret, s) else (r.ret, s.keepCalibration r)

def vcsResume (s : State) (replies : Cmd → Reply) : Int × State :=
  let r := replies .vfmInitialize
  let s := s.sendCmd
    { cmd := .vfmInitialize, len := 4, data := fun k => if k = 0 then 2 else 0 } r
  if ¬r.Ok then (r.ret, s)
  else if s.authSessionOpend then
    let r := replies .vendorEnterAuthSession
    let s := s.sendCmd
      { cmd := .vendorEnterAuthSession, len := 0x70, data := memcpy zeros s.authToken 0x70 } r
    if ¬r.Ok then (r.result, s) else s.resumeDevice replies
  else s.resumeDevice replies

def vcsInit (s : State) (o : AppOutcome) : Int × State :=
  if s.init then (0, s)
  else if o.startApp ≠ 0 then (-1, s)
  else
    let s := s.startApp
    if o.setBandwidth ≠ 0 then (-1, s)
    else { s with init := true }.vcsResume o.replies

/-- The command is sent twice, and the value and the token are those of the second time. -/
def vcsUpdateAuthToken (s : State) (r1 r2 : Reply) : Int × State :=
  let request : Request := { cmd := .vendorGetAuthToken, len := 0, data := zeros }
  let s := (s.sendCmd request r1).sendCmd request r2
  if r2.result ≠ 0 then (r2.result, s)
  else (r2.ret, { s with authToken := memcpy s.authToken r2.bytes AUTH_TOKEN_LENGTH })

/-- Without a handle there is no buffer to write the command to. -/
def vcsUninit (s : State) (r1 r2 r : Reply) : Option (Int × State) :=
  match s.qhandle with
  | none => none
  | some _ =>
    let s := if s.authSessionOpend then (s.vcsUpdateAuthToken r1 r2).2 else s
    let s := s.sendCmd { cmd := Cmd.vfmUninitialize, len := 0, data := zeros } r
    some (0, { s.shutdownApp with init := false, state := .idle })

def vcsStartAuthSession (s : State) (r : Reply) : Option (Int × State) :=
  match s.qhandle with
  | none => none
  | some _ =>
    let s := s.sendCmd { cmd := .vfmAuthSessionBegin, len := 0, data := zeros } r
    if ¬r.Ok then some (r.ret, s)
    else some (r.ret, { s with
      authSessionToken := memcpy s.authSessionToken r.bytes AUTH_SESSION_TOKEN_LENGTH
      authSessionOpend := true })

def vcsStopAuthSession (s : State) (r : Reply) : Option (Int × State) :=
  match s.qhandle with
  | none => none
  | some _ =>
    let s := s.sendCmd { cmd := .vfmAuthSessionEnd, len := 0, data := zeros } r
    some (r.ret, { s with
      authSessionToken := memcpy s.authSessionToken zeros AUTH_SESSION_TOKEN_LENGTH
      authSessionOpend := false })

/-- Some instance of the app is running. -/
def Running (s : State) : Prop := s.qhandle ≠ none ∨ 0 < s.leaked

end State

/-- The commands that an instance has to complete before it is of use. -/
def startCommands (session : Bool) : List Cmd :=
  .vfmInitialize ::
    ((if session then [.vendorEnterAuthSession] else []) ++
      [.vfmDeviceInitialize, .vfmDeviceCalibrate])

def App.Completed (app : App) (cmd : Cmd) : Prop :=
  ∃ e ∈ app.exchanges, e.request.cmd = cmd ∧ e.reply.Ok

/-- The app is running and completed what it was sent at its start. -/
def State.Working (s : State) : Prop :=
  ∃ app, s.qhandle = some app ∧ ∀ cmd ∈ startCommands app.session, app.Completed cmd

/-- The first of the commands that does not come back without an error. -/
def firstFailure (session : Bool) (replies : Cmd → Reply) : Option Cmd :=
  (startCommands session).find? fun cmd => ¬(replies cmd).Ok

/-- The error code that is looked at: the result of the app for one command, the code of the
transport for the others. -/
def Cmd.code (cmd : Cmd) (r : Reply) : Int :=
  if cmd = .vendorEnterAuthSession then r.result else r.ret

/-- All that the instance was sent was answered by `replies`. -/
def App.AnsweredBy (app : App) (replies : Cmd → Reply) : Prop :=
  ∀ e ∈ app.exchanges, e.reply = replies e.request.cmd

/-- The same instance after some more commands that `replies` answers. -/
structure App.Extends (replies : Cmd → Reply) (app app' : App) : Prop where
  session : app'.session = app.session
  answered : app.AnsweredBy replies → app'.AnsweredBy replies
  completed : ∀ cmd, app.Completed cmd → app'.Completed cmd

variable {s t : State} {app app' app'' : App} {replies : Cmd → Reply} {cmd : Cmd} {r : Reply}
  {request : Request}

theorem extends_trans (h : app.Extends replies app') (h' : app'.Extends replies app'') :
    app.Extends replies app'' := by
  refine ⟨h'.session.trans h.session, ?_, ?_⟩
  · intro ha
    exact h'.answered (h.answered ha)
  · intro cmd hcmd
    exact h'.completed cmd (h.completed cmd hcmd)

theorem ok_of_completed (ha : app.AnsweredBy replies) (h : app.Completed cmd) :
    (replies cmd).Ok := by
  obtain ⟨e, he, hcmd, hok⟩ := h
  rw [← hcmd, ← ha e he]
  exact hok

theorem sendCmd_app (happ : s.qhandle = some app) :
    (s.sendCmd request r).qhandle =
      some { app with exchanges := app.exchanges ++ [⟨request, r⟩] } := by
  simp [State.sendCmd, happ]

/-- One more command is on record, and it is complete if it came back without an error. -/
theorem sendCmd_extends (request : Request) (replies : Cmd → Reply)
    (happ : s.qhandle = some app) :
    ∃ app', (s.sendCmd request (replies request.cmd)).qhandle = some app' ∧
      app.Extends replies app' ∧ ((replies request.cmd).Ok → app'.Completed request.cmd) := by
  refine ⟨_, sendCmd_app happ, ⟨rfl, ?_, ?_⟩, ?_⟩
  · intro ha e he
    rcases List.mem_append.mp he with he | he
    · exact ha e he
    · rw [List.mem_singleton.mp he]
  · rintro cmd ⟨e, he, hcmd⟩
    exact ⟨e, List.mem_append_left _ he, hcmd⟩
  · intro hok
    exact ⟨⟨request, replies request.cmd⟩,
      List.mem_append_right _ (List.mem_singleton_self _), rfl, hok⟩

@[simp] theorem sendCmd_init : (s.sendCmd request r).init = s.init := rfl

@[simp] theorem sendCmd_state : (s.sendCmd request r).state = s.state := rfl

@[simp] theorem sendCmd_authSessionOpend :
    (s.sendCmd request r).authSessionOpend = s.authSessionOpend := rfl

@[simp] theorem sendCmd_authToken : (s.sendCmd request r).authToken = s.authToken := rfl

@[simp] theorem calibrateRequest_cmd : s.calibrateRequest.cmd = .vfmDeviceCalibrate := rfl

@[simp] theorem sendCmd_leaked : (s.sendCmd request r).leaked = s.leaked := rfl

@[simp] theorem keepCalibration_qhandle : (s.keepCalibration r).qhandle = s.qhandle := by
  unfold State.keepCalibration
  split <;> rfl

@[simp] theorem keepCalibration_leaked : (s.keepCalibration r).leaked = s.leaked := by
  unfold State.keepCalibration
  split <;> rfl

@[simp] theorem keepCalibration_state : (s.keepCalibration r).state = s.state := by
  unfold State.keepCalibration
  split <;> rfl

@[simp] theorem keepCalibration_init : (s.keepCalibration r).init = s.init := by
  unfold State.keepCalibration
  split <;> rfl

theorem resumeDevice_ret :
    (s.resumeDevice replies).1 =
      if (replies .vfmDeviceInitialize).Ok then (replies .vfmDeviceCalibrate).ret
      else (replies .vfmDeviceInitialize).ret := by
  by_cases hd : (replies .vfmDeviceInitialize).Ok
  · by_cases hc : (replies .vfmDeviceCalibrate).Ok <;> simp [State.resumeDevice, hd, hc]
  · simp [State.resumeDevice, hd]

theorem resumeDevice_extends (replies : Cmd → Reply) (happ : s.qhandle = some app) :
    ∃ app', (s.resumeDevice replies).2.qhandle = some app' ∧ app.Extends replies app' ∧
      ((replies .vfmDeviceInitialize).Ok → (replies .vfmDeviceCalibrate).Ok →
        app'.Completed .vfmDeviceInitialize ∧ app'.Completed .vfmDeviceCalibrate) := by
  obtain ⟨app₁, happ₁, hext₁, hdone₁⟩ := sendCmd_extends
    { cmd := .vfmDeviceInitialize, len := 0, data := zeros } replies happ
  by_cases hd : (replies .vfmDeviceInitialize).Ok
  · obtain ⟨app₂, happ₂, hext₂, hdone₂⟩ := sendCmd_extends
      (State.calibrateRequest _) replies happ₁
    refine ⟨app₂, ?_, extends_trans hext₁ hext₂, ?_⟩
    · by_cases hc : (replies .vfmDeviceCalibrate).Ok
      · simpa [State.resumeDevice, hd, hc] using happ₂
      · simpa [State.resumeDevice, hd, hc] using happ₂
    · intro _ hc
      exact ⟨hext₂.completed _ (hdone₁ hd), hdone₂ hc⟩
  · refine ⟨app₁, ?_, hext₁, fun h => absurd h hd⟩
    simpa [State.resumeDevice, hd] using happ₁

/-- What `vcs_resume` returns: zero, or the code it looks at for the first command that fails. -/
theorem resume_ret :
    (s.vcsResume replies).1 =
      match firstFailure s.authSessionOpend replies with
      | none => 0
      | some cmd => cmd.code (replies cmd) := by
  have hret : ∀ t : State, (t.resumeDevice replies).1 =
      match ([.vfmDeviceInitialize, .vfmDeviceCalibrate].find? fun cmd => ¬(replies cmd).Ok) with
      | none => 0
      | some cmd => cmd.code (replies cmd) := by
    intro t
    rw [resumeDevice_ret]
    by_cases hd : (replies .vfmDeviceInitialize).Ok
    · by_cases hc : (replies .vfmDeviceCalibrate).Ok
      · simp [hd, hc, hc.1]
      · simp [hd, hc, Cmd.code]
    · simp [hd, Cmd.code]
  by_cases hi : (replies .vfmInitialize).Ok
  · cases hs : s.authSessionOpend with
    | false => simp [State.vcsResume, firstFailure, startCommands, hi, hs, hret]
    | true =>
      by_cases he : (replies .vendorEnterAuthSession).Ok
      · simp [State.vcsResume, firstFailure, startCommands, hi, hs, he, hret]
      · simp [State.vcsResume, firstFailure, startCommands, hi, hs, he, Cmd.code]
  · simp [State.vcsResume, firstFailure, startCommands, hi, Cmd.code]

theorem firstFailure_eq_none_iff {session : Bool} :
    firstFailure session replies = none ↔ ∀ cmd ∈ startCommands session, (replies cmd).Ok := by
  simp [firstFailure]

/-- Without a failure all the commands are completed, whatever was sent before. -/
theorem resume_extends (replies : Cmd → Reply) (happ : s.qhandle = some app) :
    ∃ app', (s.vcsResume replies).2.qhandle = some app' ∧ app.Extends replies app' ∧
      (firstFailure s.authSessionOpend replies = none →
        ∀ cmd ∈ startCommands s.authSessionOpend, app'.Completed cmd) := by
  obtain ⟨app₁, happ₁, hext₁, hdone₁⟩ := sendCmd_extends
    { cmd := .vfmInitialize, len := 4, data := fun k => if k = 0 then 2 else 0 } replies happ
  by_cases hi : (replies .vfmInitialize).Ok
  · cases hs : s.authSessionOpend with
    | false =>
      obtain ⟨app₂, happ₂, hext₂, hdone₂⟩ := resumeDevice_extends replies happ₁
      refine ⟨app₂, ?_, extends_trans hext₁ hext₂, ?_⟩
      · simpa [State.vcsResume, hi, hs] using happ₂
      · intro hnone
        have hok := firstFailure_eq_none_iff.mp hnone
        have hdone₂ := hdone₂ (hok _ (by simp [startCommands])) (hok _ (by simp [startCommands]))
        simpa [startCommands] using ⟨hext₂.completed _ (hdone₁ hi), hdone₂⟩
    | true =>
      obtain ⟨app₂, happ₂, hext₂, hdone₂⟩ := sendCmd_extends
        { cmd := .vendorEnterAuthSession, len := 0x70, data := memcpy zeros s.authToken 0x70 }
        replies happ₁
      by_cases he : (replies .vendorEnterAuthSession).Ok
      · obtain ⟨app₃, happ₃, hext₃, hdone₃⟩ := resumeDevice_extends replies happ₂
        refine ⟨app₃, ?_, extends_trans hext₁ (extends_trans hext₂ hext₃), ?_⟩
        · simpa [State.vcsResume, hi, hs, he] using happ₃
        · intro hnone
          have hok := firstFailure_eq_none_iff.mp hnone
          have hdone₃ := hdone₃ (hok _ (by simp [startCommands]))
            (hok _ (by simp [startCommands]))
          have hdone₁ := hext₃.completed _ (hext₂.completed _ (hdone₁ hi))
          simpa [startCommands] using ⟨hdone₁, hext₃.completed _ (hdone₂ he), hdone₃⟩
      · refine ⟨app₂, ?_, extends_trans hext₁ hext₂, ?_⟩
        · simpa [State.vcsResume, hi, hs, he] using happ₂
        · intro hnone
          exact absurd (firstFailure_eq_none_iff.mp hnone _ (by simp [startCommands])) he
  · refine ⟨app₁, ?_, hext₁, ?_⟩
    · simpa [State.vcsResume, hi] using happ₁
    · intro hnone
      exact absurd (firstFailure_eq_none_iff.mp hnone _ (by simp [startCommands])) hi

/-- For an instance that was just started, `vcs_resume` is decisive. -/
theorem resume_working_iff
    (happ : s.qhandle = some { session := s.authSessionOpend, exchanges := [] }) :
    (s.vcsResume replies).2.Working ↔ firstFailure s.authSessionOpend replies = none := by
  obtain ⟨app', happ', hext, hdone⟩ := resume_extends replies happ
  have hsession : app'.session = s.authSessionOpend := hext.session
  have hanswered : app'.AnsweredBy replies := by
    apply hext.answered
    intro e he
    cases he
  constructor
  · rintro ⟨app, happ, hall⟩
    rw [happ'] at happ
    cases happ
    apply firstFailure_eq_none_iff.mpr
    intro cmd hcmd
    rw [← hsession] at hcmd
    exact ok_of_completed hanswered (hall cmd hcmd)
  · intro hnone
    refine ⟨app', happ', ?_⟩
    rw [hsession]
    exact hdone hnone

/-- The flag, the state and the instances that no handle belongs to are left alone. -/
theorem resume_frame :
    (s.vcsResume replies).2.init = s.init ∧ (s.vcsResume replies).2.state = s.state ∧
      (s.vcsResume replies).2.leaked = s.leaked := by
  have hdevice : ∀ t : State, (t.resumeDevice replies).2.init = t.init ∧
      (t.resumeDevice replies).2.state = t.state ∧
      (t.resumeDevice replies).2.leaked = t.leaked := by
    intro t
    by_cases hd : (replies .vfmDeviceInitialize).Ok
    · by_cases hc : (replies .vfmDeviceCalibrate).Ok <;> simp [State.resumeDevice, hd, hc]
    · simp [State.resumeDevice, hd]
  by_cases hi : (replies .vfmInitialize).Ok
  · cases hs : s.authSessionOpend with
    | false => simp [State.vcsResume, hi, hs, hdevice]
    | true =>
      by_cases he : (replies .vendorEnterAuthSession).Ok <;>
        simp [State.vcsResume, hi, hs, he, hdevice]
  · simp [State.vcsResume, hi]

theorem running_of_working (h : s.Working) : s.Running := by
  obtain ⟨app, happ, -⟩ := h
  left
  rw [happ]
  simp

/-- An `init` that is set for whoever asks, and returns what is said of it. -/
structure Truthful (ret : Int) (s : State) : Prop where
  ret : ret = 0 ↔ s.Working
  init : s.init = true ↔ s.Running

/-- An instance that is already running completed its commands; no bandwidth vote fails; and the
first command that fails does so with the code that is looked at. -/
def InitReports (s : State) (o : AppOutcome) : Prop :=
  if s.init = true then s.Working
  else o.startApp = 0 → o.setBandwidth = 0 ∧
    ∀ cmd, firstFailure s.authSessionOpend o.replies = some cmd → cmd.code (o.replies cmd) ≠ 0

/-- From here on the app runs, and `vcs_resume` decides. -/
theorem started_truthful_iff {u : State} (hu : u = { s.startApp with init := true }) :
    Truthful (u.vcsResume replies).1 (u.vcsResume replies).2 ↔
      ∀ cmd, firstFailure s.authSessionOpend replies = some cmd →
        cmd.code (replies cmd) ≠ 0 := by
  subst hu
  let u : State := { s.startApp with init := true }
  show Truthful (u.vcsResume replies).1 (u.vcsResume replies).2 ↔ _
  obtain ⟨app', happ', -, -⟩ := resume_extends (s := u) replies rfl
  have hinit : (u.vcsResume replies).2.init = true ↔ (u.vcsResume replies).2.Running := by
    apply iff_of_true resume_frame.1
    left
    rw [happ']
    simp
  have hworking : (u.vcsResume replies).2.Working ↔
      firstFailure s.authSessionOpend replies = none := resume_working_iff rfl
  have hret : (u.vcsResume replies).1 =
      match firstFailure s.authSessionOpend replies with
      | none => 0
      | some cmd => cmd.code (replies cmd) := resume_ret
  cases hfail : firstFailure s.authSessionOpend replies with
  | none =>
    rw [hfail] at hret hworking
    constructor
    · intro _ cmd h
      cases h
    · intro _
      exact ⟨iff_of_true hret (hworking.mpr rfl), hinit⟩
  | some cmd =>
    rw [hfail] at hret hworking
    have hidle : ¬(u.vcsResume replies).2.Working := by
      intro h
      cases hworking.mp h
    constructor
    · intro h cmd' hcmd' hcode
      cases hcmd'
      exact hidle (h.ret.mp (hret.trans hcode))
    · intro h
      refine ⟨iff_of_false ?_ hidle, hinit⟩
      rw [hret]
      exact h cmd rfl

/-- When one `vcs_init` tells the truth. -/
theorem init_truthful_iff {o : AppOutcome} (hs : s.init = true ↔ s.Running) :
    Truthful (s.vcsInit o).1 (s.vcsInit o).2 ↔ InitReports s o := by
  unfold InitReports
  by_cases hinit : s.init = true
  · rw [if_pos hinit]
    have heq : s.vcsInit o = (0, s) := by simp [State.vcsInit, hinit]
    rw [heq]
    constructor
    · intro h
      exact h.ret.mp rfl
    · intro h
      exact ⟨iff_of_true rfl h, hs⟩
  · rw [if_neg hinit]
    by_cases hstart : o.startApp = 0
    · by_cases hband : o.setBandwidth = 0
      · have heq : s.vcsInit o = { s.startApp with init := true }.vcsResume o.replies := by
          simp [State.vcsInit, hinit, hstart, hband]
        rw [heq, started_truthful_iff rfl]
        constructor
        · intro h _
          exact ⟨hband, h⟩
        · intro h
          exact (h hstart).2
      · have heq : s.vcsInit o = (-1, s.startApp) := by
          simp [State.vcsInit, hinit, hstart, hband]
        rw [heq]
        -- the app runs, and nothing says so
        apply iff_of_false
        · intro h
          exact hinit (h.init.mpr (Or.inl (by simp [State.startApp])))
        · intro h
          exact hband (h hstart).1
    · have heq : s.vcsInit o = (-1, s) := by simp [State.vcsInit, hinit, hstart]
      rw [heq]
      apply iff_of_true
      · refine ⟨iff_of_false (Int.negSucc_ne_zero 0) ?_, hs⟩
        intro h
        exact hinit (hs.mpr (running_of_working h))
      · intro h
        exact absurd h hstart

/-- What `vcs_init` returns where the app is not running. -/
theorem init_ret_eq_zero_iff {o : AppOutcome} (hinit : s.init = false) :
    (s.vcsInit o).1 = 0 ↔ o.startApp = 0 ∧ o.setBandwidth = 0 ∧
      ∀ cmd, firstFailure s.authSessionOpend o.replies = some cmd →
        cmd.code (o.replies cmd) = 0 := by
  by_cases hstart : o.startApp = 0
  · by_cases hband : o.setBandwidth = 0
    · have hret : (s.vcsInit o).1 =
          match firstFailure s.authSessionOpend o.replies with
          | none => 0
          | some cmd => cmd.code (o.replies cmd) := by
        simp only [State.vcsInit, hinit, hstart, hband, ne_eq, not_true_eq_false, if_false,
          Bool.false_eq_true]
        exact resume_ret
      rw [hret]
      cases firstFailure s.authSessionOpend o.replies <;> simp [hstart, hband]
    · simp [State.vcsInit, hinit, hstart, hband]
  · simp [State.vcsInit, hinit, hstart]

theorem init_state {o : AppOutcome} : (s.vcsInit o).2.state = s.state := by
  unfold State.vcsInit
  split
  · rfl
  split
  · rfl
  split
  · rfl
  exact resume_frame.2.1

/-- A state and, after a `vcs_init`, what it returned. -/
structure History where
  state : State
  returned : Option Int

inductive Action where
  | vcsInit (o : AppOutcome)
  | vcsUninit (r1 r2 r : Reply)
  | vcsStartAuthSession (r : Reply)
  | vcsStopAuthSession (r : Reply)

/-- A call that needs the handle of an instance is taken only with one. -/
def step (h : History) : Action → Option History
  | .vcsInit o =>
    let (ret, s) := h.state.vcsInit o
    some { state := s, returned := some ret }
  | .vcsUninit r1 r2 r =>
    (h.state.vcsUninit r1 r2 r).map fun p => { state := p.2, returned := none }
  | .vcsStartAuthSession r =>
    (h.state.vcsStartAuthSession r).map fun p => { state := p.2, returned := none }
  | .vcsStopAuthSession r =>
    (h.state.vcsStopAuthSession r).map fun p => { state := p.2, returned := none }

/-- `vcs_init` returns 0 exactly for a working app, and `tz.init` is set exactly while an app is
running. -/
def InitTruthful (h : History) : Prop :=
  (∀ ret, h.returned = some ret → (ret = 0 ↔ h.state.Working)) ∧
  (h.state.init = true ↔ h.state.Running)

/-- Each `vcs_init` meets its condition, and `vcs_uninit` finds no instance without a handle. -/
def Reports (h : History) : Action → Prop
  | .vcsInit o => InitReports h.state o
  | .vcsUninit .. => h.state.leaked = 0
  | _ => True

variable {h h' : History} {a : Action} {as : List Action}

theorem sendCmd_running : (s.sendCmd request r).Running ↔ s.Running := by
  simp [State.Running, State.sendCmd]

/-- `vcs_uninit` updates the token of an open session, sends its command and shuts the app down. -/
theorem vcsUninit_cases {r1 r2 : Reply} {p : Int × State} (hp : s.vcsUninit r1 r2 r = some p) :
    ∃ request, p.2 =
      { ((if s.authSessionOpend then (s.vcsUpdateAuthToken r1 r2).2 else s).sendCmd
          request r).shutdownApp with init := false, state := .idle } := by
  unfold State.vcsUninit at hp
  cases happ : s.qhandle with
  | none => simp [happ] at hp
  | some app =>
    simp only [happ, Option.some.injEq] at hp
    subst p
    exact ⟨_, rfl⟩

/-- The two session commands send one command and change the token and the mark of the session. -/
theorem session_cases {p : Int × State}
    (hp : s.vcsStartAuthSession r = some p ∨ s.vcsStopAuthSession r = some p) :
    s.qhandle ≠ none ∧ ∃ request token opend, p.2 =
      { s.sendCmd request r with authSessionToken := token, authSessionOpend := opend } := by
  unfold State.vcsStartAuthSession State.vcsStopAuthSession at hp
  cases happ : s.qhandle with
  | none => simp [happ] at hp
  | some app =>
    simp only [happ] at hp
    refine ⟨Option.some_ne_none app, ?_⟩
    rcases hp with hp | hp
    · by_cases hr : r.Ok
      · simp only [hr, not_true_eq_false, if_false, Option.some.injEq] at hp
        subst p
        exact ⟨_, _, _, rfl⟩
      · simp only [hr, not_false_eq_true, if_true, Option.some.injEq] at hp
        subst p
        exact ⟨_, _, _, rfl⟩
    · cases hp
      exact ⟨_, _, _, rfl⟩

/-- After `vcs_uninit` only an instance without a handle can be running. -/
theorem uninit_running {r1 r2 : Reply} {p : Int × State} (hp : s.vcsUninit r1 r2 r = some p) :
    p.2.init = false ∧ (p.2.Running ↔ 0 < s.leaked) := by
  obtain ⟨request, heq⟩ := vcsUninit_cases hp
  rw [heq]
  refine ⟨rfl, ?_⟩
  have hleaked : (s.vcsUpdateAuthToken r1 r2).2.leaked = s.leaked := by
    unfold State.vcsUpdateAuthToken
    by_cases hr : r2.result = 0 <;> simp [hr]
  by_cases hs : s.authSessionOpend = true <;>
    simp [State.Running, State.shutdownApp, hs, hleaked]

/-- The two session commands leave the app running. -/
theorem session_running {p : Int × State}
    (hp : s.vcsStartAuthSession r = some p ∨ s.vcsStopAuthSession r = some p) :
    (p.2.init = true ↔ s.init = true) ∧ (p.2.Running ↔ s.Running) := by
  obtain ⟨-, request, token, opend, heq⟩ := session_cases hp
  rw [heq]
  exact ⟨Iff.rfl, sendCmd_running⟩

/-- Where the condition is met the step keeps the promise, and elsewhere it breaks it. -/
theorem step_truthful_iff (hs : InitTruthful h) (hstep : step h a = some h') :
    InitTruthful h' ↔ Reports h a := by
  cases a with
  | vcsInit o =>
    cases hstep
    rw [Reports, ← init_truthful_iff hs.2]
    constructor
    · rintro ⟨hret, hinit⟩
      exact ⟨hret _ rfl, hinit⟩
    · rintro ⟨hret, hinit⟩
      refine ⟨?_, hinit⟩
      rintro ret ⟨⟩
      exact hret
  | vcsUninit r1 r2 r =>
    obtain ⟨p, hp, rfl⟩ := Option.map_eq_some_iff.mp hstep
    obtain ⟨hinit, hrunning⟩ := uninit_running hp
    constructor
    · intro h'
      by_contra hleaked
      have := h'.2.mpr (hrunning.mpr (Nat.pos_of_ne_zero hleaked))
      rw [hinit] at this
      cases this
    · intro hleaked
      refine ⟨?_, ?_⟩
      · intro ret hret
        cases hret
      · apply iff_of_false
        · simp [hinit]
        · rw [hrunning, show h.state.leaked = 0 from hleaked]
          exact Nat.lt_irrefl 0
  | vcsStartAuthSession r =>
    obtain ⟨p, hp, rfl⟩ := Option.map_eq_some_iff.mp hstep
    obtain ⟨hinit, hrunning⟩ := session_running (Or.inl hp)
    refine iff_of_true ⟨?_, hinit.trans (hs.2.trans hrunning.symm)⟩ trivial
    intro ret hret
    cases hret
  | vcsStopAuthSession r =>
    obtain ⟨p, hp, rfl⟩ := Option.map_eq_some_iff.mp hstep
    obtain ⟨hinit, hrunning⟩ := session_running (Or.inr hp)
    refine iff_of_true ⟨?_, hinit.trans (hs.2.trans hrunning.symm)⟩ trivial
    intro ret hret
    cases hret

/-- Over any history of calls, `vcs_init` reports success only for a working app if and only if
every call meets its condition. -/
theorem init_truthful_run_iff (hstart : h.returned = none)
    (hinit : h.state.init = true ↔ h.state.Running)
    (hr : Machine.run step h as = some h') :
    Machine.Along step Reports h as ↔
      ∀ bs u, bs <+: as → Machine.run step h bs = some u → InitTruthful u := by
  apply Machine.along_iff_forall_prefix (P := InitTruthful) _ _ _ hr
  · refine ⟨?_, hinit⟩
    intro ret hret
    rw [hstart] at hret
    cases hret
  · intro h a h' hs hok hstep
    exact (step_truthful_iff hs hstep).mpr hok
  · intro h hs
    exact hs
  · intro h a h' hs hbad hstep h'
    exact hbad ((step_truthful_iff hs hstep).mp h')

/-- `tz` as `fingerprint_open` clears it. -/
def State.cleared : State :=
  { init := false, state := .idle, qhandle := none, authSessionOpend := false
    authToken := zeros, authSessionToken := zeros, calibrateLen := 0, calibrateData := zeros
    leaked := 0 }

/-- All commands succeed but `cmd`, which the app refuses with `result`. -/
def AppOutcome.refusing (cmd : Cmd) (result : Int) : AppOutcome :=
  { startApp := 0, setBandwidth := 0
    replies := fun c => { ret := 0, result := if c = cmd then result else 0, data := fun _ => 0 } }

/-- An answer without an error. -/
def granted : Reply := { ret := 0, result := 0, data := fun _ => 0 }

/-- The app is started, used for opening a session, stopped, and started again. -/
def opening : List Action :=
  [.vcsInit (.refusing .vfmInitialize 0), .vcsStartAuthSession granted,
    .vcsUninit granted granted granted, .vcsInit (.refusing .vfmInitialize 0)]

theorem init_truthful_run_iff_open :
    ∃ h, Machine.run step { state := .cleared, returned := none } opening = some h ∧
      InitTruthful h := by
  have hsome : (Machine.run step { state := .cleared, returned := none } opening).isSome := rfl
  obtain ⟨h, hrun⟩ := Option.isSome_iff_exists.mp hsome
  refine ⟨h, hrun, ?_⟩
  apply (init_truthful_run_iff rfl _ hrun).mp _ opening _ List.prefix_rfl hrun
  · simp [State.cleared, State.Running]
  · simp [Machine.Along, Reports, InitReports, State.cleared, State.vcsInit, firstFailure,
      startCommands, AppOutcome.refusing, Reply.Ok, State.startApp, State.vcsResume, step,
      State.resumeDevice, State.vcsStartAuthSession, State.vcsUninit, State.sendCmd,
      State.keepCalibration, State.vcsUpdateAuthToken, State.shutdownApp, opening, granted]

/-- The app refuses `vfmInitialize`, the transport does not fail, and `vcs_init` returns 0. -/
theorem init_not_truthful_refused :
    ¬∀ h as h', h.returned = none → (h.state.init = true ↔ h.state.Running) →
      Machine.run step h as = some h' → InitTruthful h' := by
  intro hall
  have hstart : State.cleared.init = true ↔ State.cleared.Running := by
    simp [State.cleared, State.Running]
  obtain ⟨hret, -⟩ := hall { state := .cleared, returned := none }
    [.vcsInit (.refusing .vfmInitialize 7)] _ rfl hstart rfl
  obtain ⟨app, happ, hdone⟩ := (hret 0 rfl).mp rfl
  obtain ⟨e, he, -, hok⟩ := hdone .vfmInitialize List.mem_cons_self
  cases happ
  rw [List.mem_singleton.mp he] at hok
  exact absurd hok.2 (by decide)

end Apq8084.Fingerprint.TrustedApp
