import Apq8084.Fingerprint.TrustedApp

/-! What a failed `vcs_start_authenticate` or `vcs_start_enroll` leaves behind,
`fingerprint/fingerprint_tz.c`. A call is one step: nothing else runs in the meantime. -/
namespace Apq8084.Fingerprint.StartUp

open TrustedApp (Cmd AppOutcome firstFailure)

/-- The HAL as the calls of the framework find it. -/
structure State where
  tz : TrustedApp.State
  /-- `sensor.init`. -/
  sensorInit : Bool
  /-- The threads of `vcs_authenticate` and `vcs_enroll` that have not returned. -/
  workers : List WorkerState
  /-- The threads of `vcs_timeout` that have not returned, with `tz.timeout.timeout`. -/
  timeouts : List UInt32

/-- What the calls of a start return. -/
structure Outcome where
  init : AppOutcome
  create : Int
  createTimeout : Int

namespace State

def setState (s : State) (state : WorkerState) : State :=
  { s with tz := { s.tz with state } }

def sensorInitialize (s : State) : State := { s with sensorInit := true }

def vcsInit (s : State) (o : AppOutcome) : Int × State :=
  let (ret, tz) := s.tz.vcsInit o
  (ret, { s with tz })

/-- "Sensor is busy!" -/
def busy (s : State) : Bool := s.tz.state ≠ .idle

/-- What both start functions do until the worker runs. -/
def startWorker (s : State) (state : WorkerState) (o : Outcome) : Int × State :=
  if s.busy then (-1, s)
  else
    let s := (s.setState state).sensorInitialize
    let (ret, s) := s.vcsInit o.init
    if ret ≠ 0 then (ret, s)
    else if o.create ≠ 0 then (o.create, s)
    else (0, { s with workers := s.workers ++ [state] })

/-- The five tries to find the sensor idle see the same state. -/
def vcsStartAuthenticate (s : State) (o : Outcome) : Int × State := s.startWorker .scan o

def vcsStartEnroll (s : State) (timeout : UInt32) (o : Outcome) : Int × State :=
  let (ret, s) := s.startWorker .enroll o
  if ret ≠ 0 then (ret, s)
  else if timeout = 0 then (0, s)
  else if o.createTimeout ≠ 0 then (o.createTimeout, s)
  else (0, { s with timeouts := s.timeouts ++ [timeout] })

/-- `fingerprint_cancel` waits until the state is idle; `none` if no worker is left to make it
so. -/
def fingerprintCancel (s : State) : Option Int :=
  if s.tz.state = .idle ∨ s.tz.state = .cancel then some 0
  else if s.workers = [] then none
  else some 0

end State

/-- The two calls that start a worker. -/
inductive Start where
  | authenticate
  | enroll (timeout : UInt32)

def Start.call (s : State) (o : Outcome) : Start → Int × State
  | .authenticate => s.vcsStartAuthenticate o
  | .enroll timeout => s.vcsStartEnroll timeout o

/-- Nothing is left of the start. -/
structure Unwound (s : State) : Prop where
  workers : s.workers = []
  state : s.tz.state = .idle
  sensor : s.sensorInit = false
  init : s.tz.init = false
  app : ¬s.tz.Running

/-- The app starts, gets its bandwidth and completes its commands, or fails one of them with a
code that `vcs_resume` does not look at; and the worker is created. -/
def WorkerStarts (s : State) (o : Outcome) : Prop :=
  o.init.startApp = 0 ∧ o.init.setBandwidth = 0 ∧
  (∀ cmd, firstFailure s.tz.authSessionOpend o.init.replies = some cmd →
    cmd.code (o.init.replies cmd) = 0) ∧
  o.create = 0

/-- Nothing fails that the call looks at. -/
def Start.Succeeds (s : State) (o : Outcome) : Start → Prop
  | .authenticate => WorkerStarts s o
  | .enroll timeout => WorkerStarts s o ∧ (timeout ≠ 0 → o.createTimeout = 0)

variable {s : State} {o : Outcome} {start : Start} {timeout : UInt32}

theorem unwound_idle (h : Unwound s) : s.busy = false ∧ s.fingerprintCancel = some 0 := by
  constructor
  · simp [State.busy, h.state]
  · simp [State.fingerprintCancel, h.state]

variable {state : WorkerState}

theorem vcsInit_ret_eq_zero_iff (hinit : s.tz.init = false) :
    (s.vcsInit o.init).1 = 0 ↔ o.init.startApp = 0 ∧ o.init.setBandwidth = 0 ∧
      ∀ cmd, firstFailure s.tz.authSessionOpend o.init.replies = some cmd →
        cmd.code (o.init.replies cmd) = 0 :=
  TrustedApp.init_ret_eq_zero_iff hinit

/-- Past the check that the state is idle. -/
theorem startWorker_eq {p : Int × State} (hstate : s.tz.state = .idle)
    (hp : p = (s.setState state).sensorInitialize.vcsInit o.init) :
    s.startWorker state o =
      if p.1 ≠ 0 then p
      else if o.create ≠ 0 then (o.create, p.2)
      else (0, { p.2 with workers := p.2.workers ++ [state] }) := by
  have hbusy : s.busy = false := by simp [State.busy, hstate]
  subst hp
  simp [State.startWorker, hbusy]

theorem startWorker_ret_eq_zero_iff (state : WorkerState) (hstate : s.tz.state = .idle)
    (hinit : s.tz.init = false) :
    (s.startWorker state o).1 = 0 ↔ WorkerStarts s o := by
  obtain ⟨p, hp⟩ : ∃ p, p = (s.setState state).sensorInitialize.vcsInit o.init := ⟨_, rfl⟩
  have hret := vcsInit_ret_eq_zero_iff (s := (s.setState state).sensorInitialize) (o := o) hinit
  rw [← hp] at hret
  rw [startWorker_eq hstate hp]
  by_cases hzero : p.1 = 0
  · have hret := hret.mp hzero
    rw [if_neg (not_not.mpr hzero)]
    constructor
    · intro h
      refine ⟨hret.1, hret.2.1, hret.2.2, ?_⟩
      by_contra hcreate
      rw [if_pos hcreate] at h
      exact hcreate h
    · intro h
      rw [if_neg (not_not.mpr h.2.2.2)]
  · rw [if_pos hzero]
    apply iff_of_false hzero
    intro h
    exact hzero (hret.mpr ⟨h.1, h.2.1, h.2.2.1⟩)

/-- No exit of the call takes back the state it began with. -/
theorem startWorker_state (state : WorkerState) (hstate : s.tz.state = .idle) :
    (s.startWorker state o).2.tz.state = state := by
  obtain ⟨p, hp⟩ : ∃ p, p = (s.setState state).sensorInitialize.vcsInit o.init := ⟨_, rfl⟩
  have hu : p.2.tz.state = state := by
    rw [hp]
    exact TrustedApp.init_state
  rw [startWorker_eq hstate hp]
  split
  · exact hu
  split
  · exact hu
  · exact hu

theorem call_ret_eq_zero_iff (hstate : s.tz.state = .idle) (hinit : s.tz.init = false) :
    (start.call s o).1 = 0 ↔ start.Succeeds s o := by
  cases start with
  | authenticate => exact startWorker_ret_eq_zero_iff .scan hstate hinit
  | enroll timeout =>
    have hret := startWorker_ret_eq_zero_iff .enroll (o := o) hstate hinit
    by_cases hzero : (s.startWorker .enroll o).1 = 0
    · have hstarts := hret.mp hzero
      by_cases htimeout : timeout = 0
      · simp [Start.call, State.vcsStartEnroll, Start.Succeeds, hzero, htimeout, hstarts]
      · by_cases hcreate : o.createTimeout = 0 <;>
          simp [Start.call, State.vcsStartEnroll, Start.Succeeds, hzero, htimeout, hstarts, hcreate]
    · have hcall : (Start.call s o (.enroll timeout)).1 = (s.startWorker .enroll o).1 := by
        simp [Start.call, State.vcsStartEnroll, hzero]
      rw [hcall]
      apply iff_of_false hzero
      intro h
      exact hzero (hret.mpr h.1)

theorem call_state (hstate : s.tz.state = .idle) : (start.call s o).2.tz.state ≠ .idle := by
  cases start with
  | authenticate =>
    have hscan : (Start.call s o .authenticate).2.tz.state = .scan := startWorker_state .scan hstate
    rw [hscan]
    decide
  | enroll timeout =>
    have henroll := startWorker_state .enroll (o := o) hstate
    have hcall : (Start.call s o (.enroll timeout)).2.tz.state = .enroll := by
      by_cases hzero : (s.startWorker .enroll o).1 = 0
      · by_cases htimeout : timeout = 0
        · simpa [Start.call, State.vcsStartEnroll, hzero, htimeout] using henroll
        · by_cases hcreate : o.createTimeout = 0 <;>
            simpa [Start.call, State.vcsStartEnroll, hzero, htimeout, hcreate] using henroll
      · simpa [Start.call, State.vcsStartEnroll, hzero] using henroll
    rw [hcall]
    decide

/-- A start that fails is never unwound: what is claimed of failed starts holds exactly where
the start does not fail. -/
theorem failed_start_unwound_iff (hstate : s.tz.state = .idle) (hinit : s.tz.init = false) :
    ((start.call s o).1 ≠ 0 →
      Unwound (start.call s o).2 ∧ (start.call s o).2.busy = false ∧
        (start.call s o).2.fingerprintCancel = some 0) ↔
      start.Succeeds s o := by
  rw [← call_ret_eq_zero_iff hstate hinit]
  constructor
  · intro h
    by_contra hret
    exact call_state hstate (h hret).1.state
  · intro hret hne
    exact absurd hret hne

/-- The HAL with no call before it. -/
def State.quiet : State :=
  { tz := .cleared, sensorInit := false, workers := [], timeouts := [] }

theorem failed_start_unwound_iff_quiet :
    Start.Succeeds .quiet { init := .refusing .vfmInitialize 0, create := 0, createTimeout := 0 }
      (.enroll 60) := by
  apply (failed_start_unwound_iff rfl rfl).mp
  intro h
  exact absurd rfl h

/-- The app cannot be loaded: the state stays busy, and a cancellation waits for ever. -/
theorem failed_start_not_unwound :
    ¬∀ s o start, s.tz.state = .idle → s.sensorInit = false → s.tz.init = false →
      (Start.call s o start).1 ≠ 0 →
        Unwound (start.call s o).2 ∧ (start.call s o).2.busy = false ∧
          (start.call s o).2.fingerprintCancel = some 0 := by
  intro h
  have := h .quiet
    { init := { AppOutcome.refusing .vfmInitialize 0 with startApp := -1 }, create := 0
      createTimeout := 0 }
    .authenticate rfl rfl rfl (by decide)
  exact absurd this.2.1 (by decide)

end Apq8084.Fingerprint.StartUp
