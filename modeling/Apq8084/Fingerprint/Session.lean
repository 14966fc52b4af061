import Apq8084.Fingerprint.SingleWorker

/-! One worker with the threads around it: any number of calls of `fingerprint_cancel`, a
`vcs_timeout`, and the handler of the DRDY signal (`fingerprint/fingerprint.c`,
`fingerprint/fingerprint_tz.c`). `sensor.cond` wakes nobody but on a signal. -/
namespace Apq8084.Fingerprint

/-- Where a thread stands in `fingerprint_cancel`. -/
inductive CancelPc where
  | outside
  | testTimeout | signalTimeout | join
  | readIdle | readCancel | write | signalSensor | poll
  | leave
deriving DecidableEq

/-- Where `vcs_timeout` stands, if that thread was created. -/
inductive TimeoutPc where
  | absent
  | starting | waiting | signalled
  | readIdle | readCancel | write | poll | notice
  | done
deriving DecidableEq

/-- A worker at `pthread_cond_wait` has not called it yet, is blocked in it, or was signalled. -/
inductive Sleep where
  | awake | asleep | woken
deriving DecidableEq

/-- What has happened so far. -/
structure CancelHistory where
  /-- Some `fingerprint_cancel` has returned. -/
  returned : Bool
  /-- `tz.state` was switched to `STATE_CANCEL`. -/
  switched : Bool
  /-- It was so when the last match command was sent. -/
  sentSwitched : Bool
  /-- The worker has sent a notice although some `fingerprint_cancel` had returned. -/
  lateNotice : Bool
  /-- It has announced a finger although the state was switched before the match command. -/
  lateMatch : Bool

structure Session where
  shared : Shared
  worker : Worker
  sleep : Sleep
  cancels : Nat → CancelPc
  timeout : TimeoutPc
  /-- `tz.timeout.timeout_thread` is not 0. -/
  timeoutThread : Bool
  /-- Handlers of a DRDY signal that have still to take `sensor.lock`. -/
  handlers : Nat
  history : CancelHistory

inductive SessionEvent where
  | work (r : Reply)
  | cancel (t : Nat)
  | timeout
  /-- A finger is put on the sensor. -/
  | drdy
  | handle

namespace Session

/-- What the threads share when `vcs_start_authenticate` or `vcs_start_enroll` has succeeded. -/
def begun (sh : Shared) (routine : Routine) : Shared :=
  { sh with
    state := match routine with
      | .vcs_authenticate => .scan
      | .vcs_enroll => .enroll
    sensorInit := true
    tzInit := true }

/-- `timeout` is whether `vcs_timeout` was started too. -/
def start (sh : Shared) (routine : Routine) (timeout : Bool) : Session :=
  { shared := begun sh routine, worker := .start routine, sleep := .awake
    cancels := fun _ => .outside, timeout := if timeout then .starting else .absent
    timeoutThread := timeout, handlers := 0
    history := ⟨false, false, false, false, false⟩ }

/-- From the loop around `pthread_cond_wait` on the worker holds `sensor.lock`, except in that
call; all other sections under the lock lie within a step. -/
def holdsSensorLock (s : Session) : Bool :=
  match s.worker.pc with
  | .check .waiting _ | .testSignal => true
  | .wait => s.sleep = .awake
  | _ => false

/-- `pthread_cond_signal(&sensor.cond)`. -/
def signalCond (s : Session) : Session :=
  if s.sleep = .asleep then { s with sleep := .woken } else s

/-- A write of `STATE_CANCEL`. -/
def switch (s : Session) : Session :=
  { s with shared := s.shared.setState .cancel, history := { s.history with switched := true } }

def goCancel (s : Session) (t : Nat) (pc : CancelPc) : Session :=
  { s with cancels := Function.update s.cancels t pc }

def goTimeout (s : Session) (pc : TimeoutPc) : Session := { s with timeout := pc }

/-- `pthread_cond_signal(&tz.timeout.cond)`. -/
def signalTimeout (s : Session) : Session :=
  if s.timeout = .waiting then { s with timeout := .signalled } else s

def stepCancel (s : Session) (t : Nat) : Option Session :=
  match s.cancels t with
  | .outside => some (s.goCancel t .testTimeout)
  | .testTimeout => some (s.goCancel t (if s.timeoutThread then .signalTimeout else .readIdle))
  | .signalTimeout => some (s.signalTimeout.goCancel t .join)
  | .join =>
    if s.timeoutThread ∧ s.timeout ≠ .done then none
    else some { s.goCancel t .readIdle with timeoutThread := false }
  | .readIdle => some (s.goCancel t (if s.shared.state ≠ .idle then .readCancel else .leave))
  | .readCancel => some (s.goCancel t (if s.shared.state ≠ .cancel then .write else .leave))
  | .write => some (s.switch.goCancel t .signalSensor)
  | .signalSensor =>
    if s.holdsSensorLock then none else some (s.signalCond.goCancel t .poll)
  | .poll => some (s.goCancel t (if s.shared.state = .idle then .leave else .poll))
  | .leave =>
    some { s.goCancel t .outside with history := { s.history with returned := true } }

def stepTimeout (s : Session) : Option Session :=
  match s.timeout with
  | .absent | .done => none
  | .starting => some (s.goTimeout .waiting)
  | .waiting => some (s.goTimeout .readIdle)
  | .signalled => some (s.goTimeout .done)
  | .readIdle => some (s.goTimeout (if s.shared.state ≠ .idle then .readCancel else .notice))
  | .readCancel => some (s.goTimeout (if s.shared.state ≠ .cancel then .write else .notice))
  | .write => some (s.switch.goTimeout .poll)
  | .poll => some (s.goTimeout (if s.shared.state = .idle then .notice else .poll))
  | .notice => some { s.goTimeout .done with shared := s.shared.notify (.error .timeout) }

/-- The first half of `sensor_process_signal`. -/
def drdy (s : Session) : Session :=
  if s.timeoutThread then
    { s.signalTimeout with timeoutThread := false, handlers := s.handlers + 1 }
  else { s with handlers := s.handlers + 1 }

/-- Its second half. -/
def handle (s : Session) : Session :=
  { s.signalCond with
    shared := { s.shared with
      signal := s.shared.signal || (s.shared.state ≠ .idle && s.shared.state ≠ .cancel) }
    handlers := s.handlers - 1 }

/-- What a step of the worker adds to what has happened. -/
def record (h : CancelHistory) (w : Worker) (notified : Bool) : CancelHistory :=
  { h with
    sentSwitched := if w.pc = .matchImage then h.switched else h.sentSwitched
    lateNotice := h.lateNotice || (h.returned && notified)
    lateMatch := h.lateMatch || (decide (w.pc = .authenticatedNotice) && h.sentSwitched) }

/-- A step of the worker that is not blocked. -/
def workStep (s : Session) (r : Reply) : Option Session :=
  (s.worker.step s.shared r).map fun p =>
    { s with
      shared := p.1
      worker := p.2
      sleep := .awake
      history := record s.history s.worker (p.1.templates.notices ≠ s.shared.templates.notices) }

def step (s : Session) : SessionEvent → Option Session
  | .work r =>
    if s.worker.pc = .wait then
      match s.sleep with
      | .awake => some { s with sleep := .asleep }
      | .asleep => none
      | .woken => workStep s r
    else workStep s r
  | .cancel t => stepCancel s t
  | .timeout => stepTimeout s
  | .drdy => some s.drdy
  | .handle =>
    if s.handlers = 0 ∨ s.holdsSensorLock then none else some s.handle

/-! What the steps do. -/

variable {s s' : Session} {a : SessionEvent} {r : Reply} {t : Nat} {sh : Shared} {w : Worker}

/-- The step is a write of `STATE_CANCEL`. -/
def Switches (s : Session) : SessionEvent → Prop
  | .cancel t => s.cancels t = .write
  | .timeout => s.timeout = .write
  | _ => False

/-- The other threads leave the worker alone, and of what it shares change no more than the state
and the signal. -/
structure Env (s s' : Session) : Prop where
  worker : s'.worker = s.worker
  sensorInit : s'.shared.sensorInit = s.shared.sensorInit
  tzInit : s'.shared.tzInit = s.shared.tzInit
  secureUserId : s'.shared.secureUserId = s.shared.secureUserId
  finger : s'.shared.templates.finger = s.shared.templates.finger

theorem signalTimeout_eq (s : Session) :
    s.signalTimeout = { s with timeout := s.signalTimeout.timeout } := by
  unfold signalTimeout
  split_ifs <;> rfl

theorem signalCond_eq (s : Session) : s.signalCond = { s with sleep := s.signalCond.sleep } := by
  unfold signalCond
  split_ifs <;> rfl

theorem drdy_eq (s : Session) :
    s.drdy = { s with
      timeout := s.drdy.timeout, timeoutThread := s.drdy.timeoutThread
      handlers := s.handlers + 1 } := by
  unfold drdy
  split_ifs
  · rw [signalTimeout_eq]
  · rfl

theorem handle_eq (s : Session) :
    s.handle = { s with
      sleep := s.handle.sleep, handlers := s.handlers - 1
      shared := { s.shared with signal := s.handle.shared.signal } } := by
  unfold handle
  rw [signalCond_eq]

theorem stepCancel_env (hs : stepCancel s t = some s') :
    Env s s' ∧ s'.shared.state = if s.cancels t = .write then .cancel else s.shared.state := by
  unfold stepCancel at hs
  split at hs
  case h_3 hpc =>
    cases hs
    rw [signalTimeout_eq]
    exact ⟨⟨rfl, rfl, rfl, rfl, rfl⟩, by simp [hpc, goCancel]⟩
  case h_8 hpc =>
    split at hs
    · cases hs
    · cases hs
      rw [signalCond_eq]
      exact ⟨⟨rfl, rfl, rfl, rfl, rfl⟩, by simp [hpc, goCancel]⟩
  case h_4 hpc =>
    split at hs
    · cases hs
    · cases hs
      exact ⟨⟨rfl, rfl, rfl, rfl, rfl⟩, by simp [hpc, goCancel]⟩
  all_goals
    rename_i hpc
    cases hs
    exact ⟨⟨rfl, rfl, rfl, rfl, rfl⟩, by simp [hpc, goCancel, switch]⟩

theorem stepTimeout_env (hs : stepTimeout s = some s') :
    Env s s' ∧ s'.shared.state = if s.timeout = .write then .cancel else s.shared.state := by
  unfold stepTimeout at hs
  split at hs <;> rename_i hpc <;> cases hs
  all_goals exact ⟨⟨rfl, rfl, rfl, rfl, rfl⟩, by simp [hpc, goTimeout, switch]⟩

/-- What a step of another thread does. -/
theorem env_step (hs : step s a = some s') (ha : ∀ r, a ≠ .work r) :
    Env s s' ∧ ((Switches s a ∧ s'.shared.state = .cancel) ∨
      (¬Switches s a ∧ s'.shared.state = s.shared.state)) := by
  cases a with
  | work r => exact absurd rfl (ha r)
  | cancel t =>
    obtain ⟨henv, hstate⟩ := stepCancel_env hs
    refine ⟨henv, ?_⟩
    by_cases hw : s.cancels t = .write
    · rw [if_pos hw] at hstate
      exact Or.inl ⟨hw, hstate⟩
    · rw [if_neg hw] at hstate
      exact Or.inr ⟨hw, hstate⟩
  | timeout =>
    obtain ⟨henv, hstate⟩ := stepTimeout_env hs
    refine ⟨henv, ?_⟩
    by_cases hw : s.timeout = .write
    · rw [if_pos hw] at hstate
      exact Or.inl ⟨hw, hstate⟩
    · rw [if_neg hw] at hstate
      exact Or.inr ⟨hw, hstate⟩
  | drdy =>
    cases hs
    rw [drdy_eq]
    exact ⟨⟨rfl, rfl, rfl, rfl, rfl⟩, Or.inr ⟨id, rfl⟩⟩
  | handle =>
    simp only [step] at hs
    split at hs
    · cases hs
    · cases hs
      rw [handle_eq]
      exact ⟨⟨rfl, rfl, rfl, rfl, rfl⟩, Or.inr ⟨id, rfl⟩⟩

/-- The worker calls `pthread_cond_wait`, or it takes one of its own steps. -/
theorem work_step (hs : step s (.work r) = some s') :
    (s.worker.pc = .wait ∧ s.sleep = .awake ∧ s' = { s with sleep := .asleep }) ∨
      ((s.worker.pc = .wait → s.sleep = .woken) ∧ ∃ sh w, s.worker.step s.shared r = some (sh, w) ∧
        s' = { s with
          shared := sh, worker := w, sleep := .awake
          history := record s.history s.worker
            (sh.templates.notices ≠ s.shared.templates.notices) }) := by
  simp only [step] at hs
  split at hs
  · rename_i hpc
    cases hsleep : s.sleep with
    | awake =>
      rw [hsleep] at hs
      cases hs
      exact Or.inl ⟨hpc, rfl, rfl⟩
    | asleep =>
      rw [hsleep] at hs
      cases hs
    | woken =>
      rw [hsleep] at hs
      obtain ⟨⟨sh, w⟩, hstep, rfl⟩ := Option.map_eq_some_iff.mp hs
      exact Or.inr ⟨fun _ => rfl, sh, w, hstep, rfl⟩
  · rename_i hpc
    obtain ⟨⟨sh, w⟩, hstep, rfl⟩ := Option.map_eq_some_iff.mp hs
    exact Or.inr ⟨fun h => absurd h hpc, sh, w, hstep, rfl⟩

theorem vcsInit_ok {o : InitOutcome} (h : (Hal.vcsInit o sh).1 = 0) :
    (Hal.vcsInit o sh).2 = { sh with tzInit := true } := by
  unfold Hal.vcsInit at h ⊢
  split_ifs at h ⊢ with hinit
  · rw [← hinit]
  · cases h
  · cases h
  · rfl

/-- A start function that succeeds leaves what a session begins with. -/
theorem startWorker_begun {hal : Hal} {state : WorkerState} {routine : Routine} {o : InitOutcome}
    {create : Int} (hstate : state = (begun hal.shared routine).state)
    (h : (Hal.startWorker hal state routine o create).1 = 0) :
    (Hal.startWorker hal state routine o create).2.shared = begun hal.shared routine := by
  subst hstate
  simp only [Hal.startWorker] at h ⊢
  by_cases hidle : hal.shared.state = .idle
  · rw [if_neg (not_not.mpr hidle)] at h ⊢
    by_cases hinit : (Hal.vcsInit o (Hal.sensorInit
        (hal.shared.setState (begun hal.shared routine).state))).1 = 0
    · rw [if_neg (not_not.mpr hinit)] at h ⊢
      have hsh := vcsInit_ok hinit
      by_cases hcreate : create = 0
      · rw [if_neg (not_not.mpr hcreate)]
        exact hsh
      · rw [if_pos hcreate] at h
        exact absurd h hcreate
    · rw [if_pos hinit] at h
      exact absurd h hinit
  · rw [if_pos hidle] at h
    cases h

end Session

end Apq8084.Fingerprint
