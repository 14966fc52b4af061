import Apq8084.Fingerprint.Worker
import Apq8084.Lib.Machine

/-! The calls of the fingerprint HAL, the worker threads they start, and the question whether two
workers are ever alive at once. A call is one step, as is each step of a worker and each access
that `vcs_timeout` makes to `tz.state`. -/
namespace Apq8084.Fingerprint

/-- A worker that was created and has not returned. -/
structure Thread where
  worker : Worker
  /-- It has set `tz.state` to `STATE_IDLE`; no variable of the source. -/
  wroteIdle : Bool

structure Hal where
  shared : Shared
  /-- Oldest first. -/
  workers : List Thread
  /-- The threads of `vcs_timeout` that still wait. -/
  timeouts : Nat
  /-- Those that found a busy state and will switch it to `STATE_CANCEL`. -/
  expired : Nat

/-- What `QSEECom_start_app`, `QSEECom_set_bandwidth` and `vcs_resume` return. -/
structure InitOutcome where
  startApp : Int
  setBandwidth : Int
  resume : Int

inductive HalEvent where
  | authenticate (init : InitOutcome) (create : Int)
  /-- With a token that is accepted. -/
  | enroll (timeout : UInt32) (init : InitOutcome) (create createTimeout : Int)
  | cancel
  | signal
  | work (i : Nat) (r : Reply)
  /-- A `vcs_timeout` times out and reads `tz.state`. -/
  | expire
  /-- It writes `STATE_CANCEL`. -/
  | switch

namespace Hal

def sensorInit (sh : Shared) : Shared := { sh with sensorInit := true }

def vcsInit (o : InitOutcome) (sh : Shared) : Int × Shared :=
  if sh.tzInit then (0, sh)
  else if o.startApp ≠ 0 then (-1, sh)
  else if o.setBandwidth ≠ 0 then (-1, sh)
  else (o.resume, { sh with tzInit := true })

def busy (state : WorkerState) : Bool := state ≠ .idle && state ≠ .cancel

/-- The state check, `sensor_init`, `vcs_init` and `pthread_create` of both start functions. -/
def startWorker (s : Hal) (state : WorkerState) (routine : Routine) (o : InitOutcome)
    (create : Int) : Int × Hal :=
  if s.shared.state ≠ .idle then (-1, s)
  else
    let (ret, sh) := vcsInit o (sensorInit (s.shared.setState state))
    if ret ≠ 0 then (ret, { s with shared := sh })
    else if create ≠ 0 then (create, { s with shared := sh })
    else (0, { s with
      shared := sh, workers := s.workers ++ [{ worker := .start routine, wroteIdle := false }] })

/-- Within one step, the five tries read the same state. -/
def vcsStartAuthenticate (s : Hal) (o : InitOutcome) (create : Int) : Int × Hal :=
  startWorker s .scan .vcs_authenticate o create

def vcsStartEnroll (s : Hal) (timeout : UInt32) (o : InitOutcome) (create createTimeout : Int) :
    Int × Hal :=
  let (ret, s) := startWorker s .enroll .vcs_enroll o create
  if ret ≠ 0 then (ret, s)
  else if timeout = 0 then (0, s)
  else if createTimeout ≠ 0 then (createTimeout, s)
  else (0, { s with timeouts := s.timeouts + 1 })

/-- The switch that a cancelled worker answers; the call returns when the state is idle. -/
def fingerprintCancel (s : Hal) : Hal :=
  if busy s.shared.state then { s with shared := s.shared.setState .cancel } else s

def work (s : Hal) (i : Nat) (r : Reply) : Option Hal :=
  match s.workers[i]? with
  | none => none
  | some t =>
    (t.worker.step s.shared r).map fun (sh, w) =>
      { s with
        shared := sh
        workers := if w.pc = .returned then s.workers.eraseIdx i
          else s.workers.set i
            { worker := w, wroteIdle := t.wroteIdle || Worker.writesIdle t.worker.pc } }

/-- An enrollment without a free slot does not get as far as the worker. -/
def step (s : Hal) : HalEvent → Option Hal
  | .authenticate o create => some (vcsStartAuthenticate s o create).2
  | .enroll timeout o create createTimeout =>
    if s.shared.templates.firstFree = none then none
    else some (vcsStartEnroll s timeout o create createTimeout).2
  | .cancel => some (fingerprintCancel s)
  | .signal =>
    some { s with
      shared := { s.shared with signal := s.shared.signal || busy s.shared.state } }
  | .work i r => work s i r
  | .expire =>
    if s.timeouts = 0 then none
    else some { s with
      timeouts := s.timeouts - 1
      expired := if busy s.shared.state then s.expired + 1 else s.expired }
  | .switch =>
    if s.expired = 0 then none
    else some { s with shared := s.shared.setState .cancel, expired := s.expired - 1 }

/-- The HAL with no worker. -/
def quiet (sh : Shared) : Hal := { shared := sh, workers := [], timeouts := 0, expired := 0 }

/-- The next step is `sensor_uninit`, `vcs_uninit` or a write of `STATE_IDLE`. -/
def TearsDown (w : Worker) : Prop := w.pc = .sensorUninit ∨ Worker.writesIdle w.pc = true

/-- At most one worker is alive, and none tears down while a later one is. -/
def SingleWorker (s : Hal) : Prop :=
  s.workers.length ≤ 1 ∧
    ∀ i t, s.workers[i]? = some t → TearsDown t.worker → i + 1 = s.workers.length

/-- The state check, `vcs_init` and `pthread_create` all let the call pass. -/
def Accepted (s : Hal) (o : InitOutcome) (create : Int) : Prop :=
  s.shared.state = .idle ∧ (vcsInit o s.shared).1 = 0 ∧ create = 0

/-- An accepted call comes when no worker that has made the state idle is still alive. -/
def Timely (s : Hal) : HalEvent → Prop
  | .authenticate o create => Accepted s o create → ∀ t ∈ s.workers, t.wroteIdle = false
  | .enroll _ o create _ => Accepted s o create → ∀ t ∈ s.workers, t.wroteIdle = false
  | _ => True

/-- The state stays busy until the only worker itself makes it idle. -/
structure Inv (s : Hal) : Prop where
  single : s.workers.length ≤ 1
  busy : ∀ t ∈ s.workers, t.wroteIdle = false → s.shared.state ≠ .idle

variable {s s' : Hal} {sh : Shared} {as : List HalEvent}

theorem inv_quiet : Inv (quiet sh) := by
  constructor <;> simp [quiet]

theorem vcsInit_state (o : InitOutcome) (sh : Shared) : (vcsInit o sh).2.state = sh.state := by
  unfold vcsInit
  split_ifs <;> rfl

/-- A change of the state to anything but idle is harmless. -/
theorem Inv.of_workers (h : Inv s) (hw : s'.workers = s.workers)
    (hst : s'.shared.state = .idle → s.shared.state = .idle) : Inv s' := by
  constructor
  · rw [hw]
    exact h.single
  · rw [hw]
    exact fun t ht hno hidle => h.busy t ht hno (hst hidle)

theorem vcsInit_congr (o : InitOutcome) {sh' : Shared} (h : sh'.tzInit = sh.tzInit) :
    (vcsInit o sh').1 = (vcsInit o sh).1 := by
  unfold vcsInit
  rw [h]
  split_ifs <;> rfl

/-- What a start function does to the state and to the workers. -/
theorem startWorker_cases (s : Hal) (state : WorkerState) (routine : Routine) (o : InitOutcome)
    (create : Int) :
    (¬Accepted s o create ∧ (startWorker s state routine o create).2.workers = s.workers ∧
      ((startWorker s state routine o create).2 = s ∨
        (startWorker s state routine o create).2.shared.state = state)) ∨
    (Accepted s o create ∧ (startWorker s state routine o create).2.workers =
        s.workers ++ [{ worker := .start routine, wroteIdle := false }] ∧
      (startWorker s state routine o create).2.shared.state = state) := by
  have hret : (vcsInit o (sensorInit (s.shared.setState state))).1 = (vcsInit o s.shared).1 :=
    vcsInit_congr o rfl
  have hst : (vcsInit o (sensorInit (s.shared.setState state))).2.state = state :=
    vcsInit_state o _
  unfold startWorker Accepted
  by_cases hidle : s.shared.state = .idle
  · by_cases hinit : (vcsInit o s.shared).1 = 0
    · by_cases hcreate : create = 0
      · exact Or.inr (by simp [hidle, hinit, hcreate, hret, hst])
      · exact Or.inl (by simp [hidle, hinit, hcreate, hret, hst])
    · exact Or.inl (by simp [hidle, hinit, hret, hst])
  · exact Or.inl (by simp [hidle])

theorem startWorker_inv (h : Inv s) {state : WorkerState} (hstate : state ≠ .idle)
    (routine : Routine) (o : InitOutcome) (create : Int)
    (htimely : Accepted s o create → ∀ t ∈ s.workers, t.wroteIdle = false) :
    Inv (startWorker s state routine o create).2 := by
  rcases startWorker_cases s state routine o create with
    ⟨-, hworkers, hs | hst⟩ | ⟨hacc, hworkers, hst⟩
  · rw [hs]
    exact h
  · exact h.of_workers hworkers fun hi => absurd (hst.symm.trans hi) hstate
  · have hnone : s.workers = [] := by
      by_contra hne
      obtain ⟨t, ht⟩ := List.exists_mem_of_ne_nil _ hne
      exact h.busy t ht (htimely hacc t ht) hacc.1
    constructor
    · simp [hworkers, hnone]
    · exact fun t _ _ hi => hstate (hst.symm.trans hi)

/-- An accepted call while a worker is alive makes a second one. -/
theorem startWorker_two {state : WorkerState} {routine : Routine} {o : InitOutcome} {create : Int}
    (hno : ¬(Accepted s o create → ∀ t ∈ s.workers, t.wroteIdle = false)) :
    2 ≤ (startWorker s state routine o create).2.workers.length := by
  obtain ⟨hacc, hlive⟩ := Classical.not_imp.mp hno
  have hne : s.workers ≠ [] := by
    rintro hnil
    simp [hnil] at hlive
  rcases startWorker_cases s state routine o create with ⟨hnot, -⟩ | ⟨-, hworkers, -⟩
  · exact absurd hacc hnot
  · have := List.length_pos_iff.mpr hne
    rw [hworkers, List.length_append, List.length_singleton]
    omega

theorem work_inv {i : Nat} {r : Reply} (h : Inv s) (hs : work s i r = some s') : Inv s' := by
  unfold work at hs
  cases ht : s.workers[i]? with
  | none => simp [ht] at hs
  | some t =>
    simp only [ht] at hs
    obtain ⟨⟨sh', w'⟩, hstep, rfl⟩ := Option.map_eq_some_iff.mp hs
    obtain ⟨hi, hget⟩ := List.getElem?_eq_some_iff.mp ht
    have hsingle := h.single
    obtain rfl : i = 0 := by omega
    have hlen : s.workers.length = 1 := by omega
    obtain ⟨t', hworkers⟩ := List.length_eq_one_iff.mp hlen
    obtain rfl : t' = t := by simpa [hworkers] using hget
    constructor
    · simp only [hworkers]
      split <;> simp
    · intro t₁ ht₁ hno hidle
      simp only [hworkers] at ht₁
      split at ht₁
      · simp at ht₁
      · obtain rfl := List.mem_singleton.mp ht₁
        obtain ⟨hbefore, hwrites⟩ := (Bool.or_eq_false_iff).mp hno
        have hstate := Worker.step_state hstep
        rw [hwrites] at hstate
        exact h.busy t' (by simp [hworkers]) hbefore (hstate.symm.trans hidle)

/-- Every step keeps the invariant, unless a call finds the state idle too early. -/
theorem step_inv (s : Hal) (a : HalEvent) (s' : Hal) (h : Inv s) (hok : Timely s a)
    (hs : step s a = some s') : Inv s' := by
  cases a with
  | authenticate o create =>
    cases hs
    exact startWorker_inv h (by decide) _ o create hok
  | enroll timeout o create createTimeout =>
    simp only [step] at hs
    split at hs
    · cases hs
    · cases hs
      have hstart : Inv (startWorker s .enroll .vcs_enroll o create).2 :=
        startWorker_inv h (by decide) _ o create hok
      simp only [vcsStartEnroll]
      split_ifs
      · exact hstart
      · exact hstart
      · exact hstart
      · exact hstart.of_workers rfl id
  | cancel =>
    cases hs
    unfold fingerprintCancel
    split
    · exact h.of_workers rfl (by simp)
    · exact h
  | signal =>
    cases hs
    exact h.of_workers rfl id
  | work i r => exact work_inv h hs
  | expire =>
    simp only [step] at hs
    split at hs
    · cases hs
    · cases hs
      exact h.of_workers rfl id
  | switch =>
    simp only [step] at hs
    split at hs
    · cases hs
    · cases hs
      exact h.of_workers rfl (by simp)

theorem Inv.singleWorker (h : Inv s) : SingleWorker s := by
  refine ⟨h.single, fun i t ht _ => ?_⟩
  obtain ⟨hi, -⟩ := List.getElem?_eq_some_iff.mp ht
  have := h.single
  omega

theorem vcsStartEnroll_workers (s : Hal) (timeout : UInt32) (o : InitOutcome)
    (create createTimeout : Int) :
    (vcsStartEnroll s timeout o create createTimeout).2.workers =
      (startWorker s .enroll .vcs_enroll o create).2.workers := by
  simp only [vcsStartEnroll]
  split_ifs <;> rfl

/-- A call that is not timely makes a second worker. -/
theorem untimely_step (s : Hal) (a : HalEvent) (s' : Hal) (hno : ¬Timely s a)
    (hs : step s a = some s') : ¬SingleWorker s' := by
  rintro ⟨hsingle, -⟩
  cases a with
  | authenticate o create =>
    cases hs
    have := @startWorker_two s .scan .vcs_authenticate _ _ hno
    simp only [vcsStartAuthenticate] at hsingle
    omega
  | enroll timeout o create createTimeout =>
    simp only [step] at hs
    split at hs
    · cases hs
    · cases hs
      have := @startWorker_two s .enroll .vcs_enroll _ _ hno
      rw [vcsStartEnroll_workers] at hsingle
      omega
  | _ => exact hno trivial

/-- At most one worker is alive in every state of a run exactly if its calls are timely. -/
theorem single_worker_iff (hr : Machine.run step (quiet sh) as = some s) :
    (∀ bs t, bs <+: as → Machine.run step (quiet sh) bs = some t → SingleWorker t) ↔
      Machine.Along step Timely (quiet sh) as :=
  (Machine.along_iff_forall_prefix step_inv (fun _ => Inv.singleWorker)
    (fun s a t _ => untimely_step s a t) hr inv_quiet).symm

def ok : Reply := ⟨0, 0, fun _ => 0⟩

def authenticateOk : HalEvent := .authenticate ⟨0, 0, 0⟩ 0

def ending (as : List HalEvent) : Hal :=
  (Machine.run step (quiet .opened) as).getD (quiet .opened)

def oneScan : List HalEvent := [authenticateOk, .work 0 ok, authenticateOk]

/-- A second call is refused while the first worker is busy. -/
theorem single_worker_oneScan : SingleWorker (ending oneScan) := by
  have hrun : Machine.run step (quiet .opened) oneScan = some (ending oneScan) := rfl
  refine (single_worker_iff hrun).mpr ?_ oneScan (ending oneScan) List.prefix_rfl hrun
  refine Machine.along_cons rfl (fun _ t ht => ?_) (Machine.along_cons rfl trivial
    (Machine.along_cons rfl (fun hacc => ?_) trivial))
  · cases ht
  · cases hacc.1

/-- A scan is cancelled, and the next one begins as soon as the state is idle. -/
def overlappingScans : List HalEvent :=
  [authenticateOk, .work 0 ok, .cancel, .work 0 ok, .work 0 ok, .work 0 ok, authenticateOk]

/-- Two workers are alive, and the first then makes the state idle under the second. -/
theorem overlappingScans_two_workers :
    Machine.run step (quiet .opened) overlappingScans = some (ending overlappingScans) ∧
      (ending overlappingScans).workers.length = 2 ∧
      ¬SingleWorker (ending overlappingScans) ∧
      (ending (overlappingScans ++ [.work 0 ok])).workers.length = 1 ∧
      (ending (overlappingScans ++ [.work 0 ok])).shared.state = .idle := by
  refine ⟨rfl, rfl, fun h => ?_, rfl, rfl⟩
  exact absurd h.1 (by decide)

end Hal

end Apq8084.Fingerprint
