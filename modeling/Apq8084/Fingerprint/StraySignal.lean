import Apq8084.Fingerprint.SingleWorker

/-! Whose finger-detect signal ends the wait loop of `vcs_start_capture`. As the signal handler
compares `tz.state` twice, a DRDY signal is two steps here. -/
namespace Apq8084.Fingerprint

structure Watch where
  hal : Hal
  /-- For each worker, whether `sensor.signal` was set after it last armed the sensor; no variable
  of the source. -/
  fresh : List Bool
  /-- The calls of `sensor_process_signal` that have found the state not idle. -/
  handlers : Nat

inductive WatchEvent where
  /-- Any event but a signal. -/
  | hal (a : HalEvent)
  /-- `sensor_process_signal` compares the state with `STATE_IDLE`. -/
  | drdy
  /-- It compares the state with `STATE_CANCEL`, and may set `sensor.signal`. -/
  | raise

namespace Watch

def quiet (sh : Shared) : Watch := { hal := Hal.quiet sh, fresh := [], handlers := 0 }

/-- A worker that arms the sensor waits for a signal of its own. -/
def work (s : Watch) (i : Nat) (r : Reply) : Option Watch :=
  match s.hal.workers[i]? with
  | none => none
  | some t =>
    (s.hal.work i r).map fun hal =>
      { s with
        hal
        fresh :=
          if hal.workers.length < s.hal.workers.length then s.fresh.eraseIdx i
          else if t.worker.pc = .arm then s.fresh.set i false else s.fresh }

/-- The calls of the HAL, which may add a worker. -/
def call (s : Watch) (a : HalEvent) : Option Watch :=
  (s.hal.step a).map fun hal =>
    { s with
      hal
      fresh := s.fresh ++ List.replicate (hal.workers.length - s.hal.workers.length) false }

def step (s : Watch) : WatchEvent → Option Watch
  | .hal .signal => none
  | .hal (.work i r) => work s i r
  | .hal a => call s a
  | .drdy =>
    some { s with handlers := if s.hal.shared.state = .idle then s.handlers else s.handlers + 1 }
  | .raise =>
    if s.handlers = 0 then none
    else if s.hal.shared.state = .cancel then some { s with handlers := s.handlers - 1 }
    else some { s with
      hal := { s.hal with shared := { s.hal.shared with signal := true } }
      fresh := s.fresh.map fun _ => true
      handlers := s.handlers - 1 }

/-- A worker that has left its wait loop to read the image was sent a signal after it armed the
sensor. -/
def OwnSignal (s : Watch) : Prop :=
  ∀ (i : Nat) t, s.hal.workers[i]? = some t → t.worker.pc = .clearSignal →
    s.fresh[i]? = some true

/-- In the wait loop, where `sensor.signal` is still to be tested. -/
def waiting : Pc → Bool
  | .check .waiting .readIdle | .check .waiting .readCancel | .testSignal | .wait => true
  | _ => false

/-- Worker `i` is at `pc`, and no signal was sent since it armed the sensor. -/
def Unsent (s : Watch) (i : Nat) (pc : Pc) : Prop :=
  (∃ t, s.hal.workers[i]? = some t ∧ t.worker.pc = pc) ∧ s.fresh[i]? = some false

/-- A worker that has left its wait loop because of a cancellation, or will leave it because of a
signal that is left over, is not given a busy state. -/
def NoneLeft (s : Watch) : Prop :=
  s.hal.shared.state = .idle → ∀ i pc, Unsent s i pc →
    pc ≠ .check .waited .readIdle ∧ (waiting pc = true → s.hal.shared.signal = false)

/-- The sensor is armed when no signal is left over, no operation begins under a capture that was
given up, and no worker makes the state idle between the two comparisons of another one. -/
def Prompt (s : Watch) : WatchEvent → Prop
  | .hal (.authenticate _ _) | .hal (.enroll _ _ _ _) => NoneLeft s
  | .hal (.work i _) => ∀ t, s.hal.workers[i]? = some t →
      (t.worker.pc = .arm → Hal.busy s.hal.shared.state = true → s.hal.shared.signal = false) ∧
      (Worker.writesIdle t.worker.pc = true →
        ∀ j, j ≠ i → ¬Unsent s j (.check .waited .readCancel))
  | _ => True

/-- Left alone, a worker there goes on to read the image. -/
def exposed (sh : Shared) : Pc → Bool
  | .check .waited .readIdle => Hal.busy sh.state
  | .check .waited .readCancel => sh.state ≠ .cancel
  | .clearSignal => true
  | pc => waiting pc && sh.signal && Hal.busy sh.state

structure Inv (s : Watch) : Prop where
  length_fresh : s.fresh.length = s.hal.workers.length
  unsent : ∀ i pc, Unsent s i pc → exposed s.hal.shared pc = false

variable {sh sh' : Shared} {w w' : Worker} {r : Reply} {pc : Pc} {s s' : Watch} {a : WatchEvent}
  {as : List WatchEvent} {i j : Nat}

/-! What a step of a worker does to the chances of the others, and to its own. -/

@[simp] theorem updateFinger_signal (sh : Shared) (idx : Option Slot) (f : Finger → Finger) :
    (sh.updateFinger idx f).signal = sh.signal := by
  cases idx <;> rfl

@[simp] theorem dbWrite_signal (sh : Shared) (idx : Option Slot) (ret : Int) :
    (sh.dbWrite idx ret).signal = sh.signal := by
  cases idx with
  | none => rfl
  | some i =>
    simp only [Shared.dbWrite]
    split <;> rfl

@[simp] theorem sendEnrollNotice_signal (sh : Shared) (fid remaining : Int) :
    (sh.sendEnrollNotice fid remaining).signal = sh.signal := by
  rcases sh.sendEnrollNotice_eq fid remaining with h | h <;> rw [h]
  rfl

/-- No step of a worker sets `sensor.signal`. -/
theorem step_signal (h : w.step sh r = some (sh', w')) (hsig : sh'.signal = true) :
    sh.signal = true := by
  unfold Worker.step at h
  split at h <;> simp only [Option.some.injEq, Prod.mk.injEq, reduceCtorEq] at h <;>
    obtain ⟨rfl, -⟩ := h <;> first
      | exact hsig
      | (simp at hsig; done)
      | simpa using hsig
      | (split at hsig <;> simpa using hsig)

theorem exposed_waiting (hpc : waiting pc = true) :
    exposed sh pc = (sh.signal && Hal.busy sh.state) := by
  unfold waiting at hpc
  split at hpc <;> simp_all [exposed, waiting]

/-- Fewer workers are exposed when the signal is cleared or the state no longer busy. -/
theorem exposed_mono (hsig : sh'.signal = true → sh.signal = true)
    (hbusy : Hal.busy sh'.state = true → Hal.busy sh.state = true)
    (hcancel : pc = .check .waited .readCancel → sh.state = .cancel → sh'.state = .cancel)
    (h : exposed sh' pc = true) : exposed sh pc = true := by
  unfold exposed at h ⊢
  split at h
  · exact hbusy h
  · simp only [decide_eq_true_eq] at h ⊢
    exact fun hc => h (hcancel rfl hc)
  · rfl
  · simp only [Bool.and_eq_true] at h ⊢
    exact ⟨⟨h.1.1, hsig h.1.2⟩, hbusy h.2⟩

/-- The step of another worker exposes none but those that are about to compare the state with
`STATE_CANCEL`. -/
theorem exposed_of_other (h : w.step sh r = some (sh', w'))
    (hcancel : Worker.writesIdle w.pc = true → pc ≠ .check .waited .readCancel)
    (hexp : exposed sh' pc = true) : exposed sh pc = true := by
  have hstate := Worker.step_state h
  apply exposed_mono (step_signal h) _ _ hexp
  · intro hbusy
    rw [hstate] at hbusy
    split at hbusy
    · cases hbusy
    · exact hbusy
  · intro hpc hc
    rw [hstate, if_neg, hc]
    exact fun hw => hcancel hw hpc

theorem exposed_out (sh : Shared) (w : Worker) : exposed sh w.out.pc = false := by
  rcases w.out_pc with h | h <;> rw [h] <;> rfl

theorem exposed_captured (sh : Shared) (w : Worker) (ret : Int) :
    exposed sh (w.captured ret).pc = false := by
  rcases w.captured_pc ret with h | h | h <;> rw [h]
  · rfl
  · rfl
  · exact exposed_out sh w

theorem eq_cancel_of_not_busy {state : WorkerState} (h : Hal.busy state = false)
    (hidle : state ≠ .idle) : state = .cancel := by
  cases state <;> first | rfl | exact absurd rfl hidle | cases h

/-- The comparison with `STATE_IDLE` in `vcs_check_state`. -/
theorem readIdle_exposed {site : CheckSite} (hno : exposed sh (.check site .readIdle) = false) :
    exposed sh (if sh.state = .idle then w.checked true site
      else w.goto (.check site .readCancel)).pc = false := by
  split_ifs with hidle
  · cases site with
    | waiting =>
      change Hal.busy sh.state = false
      rw [hidle]
      rfl
    | waited => exact exposed_captured sh w (-1)
    | reading => exact exposed_captured sh w (-1)
  · cases site with
    | waiting => exact hno
    | waited =>
      have hc : sh.state = .cancel := eq_cancel_of_not_busy hno hidle
      simp [Worker.goto, exposed, hc]
    | reading => rfl

/-- The comparison with `STATE_CANCEL`. -/
theorem readCancel_exposed {site : CheckSite}
    (hno : exposed sh (.check site .readCancel) = false) :
    exposed sh (if sh.state = .cancel then w.goto (.check site .abort)
      else w.checked false site).pc = false := by
  split_ifs with hc
  · cases site <;> rfl
  · cases site with
    | waiting => exact hno
    | waited => simp [exposed, hc] at hno
    | reading => rfl

theorem setIdle_exposed {site : CheckSite} :
    exposed (sh.setState .idle) (w.checked true site).pc = false := by
  cases site with
  | waiting => rfl
  | waited => exact exposed_captured _ w (-1)
  | reading => exact exposed_captured _ w (-1)

theorem testSignal_exposed (hno : exposed sh .testSignal = false) :
    exposed sh (w.goto (if sh.signal then .check .waited .readIdle else .wait)).pc = false := by
  have hno : (sh.signal && Hal.busy sh.state) = false := hno
  by_cases hsig : sh.signal = true
  · rw [if_pos hsig]
    rwa [hsig, Bool.true_and] at hno
  · rw [if_neg hsig]
    exact hno

/-- A worker does not become exposed by itself, unless it arms the sensor. -/
theorem step_exposed (h : w.step sh r = some (sh', w')) (hpc : w.pc ≠ .arm)
    (hno : exposed sh w.pc = false) : exposed sh' w'.pc = false := by
  unfold Worker.step at h
  split at h <;> rename_i hat <;>
    simp only [Option.some.injEq, Prod.mk.injEq, reduceCtorEq] at h <;>
    obtain ⟨rfl, rfl⟩ := h <;> first
      | rfl
      | exact exposed_out _ _
      | exact exposed_captured _ _ _
      | (split_ifs <;> first | rfl | exact exposed_out _ _ | exact exposed_captured _ _ _)
      | exact absurd hat hpc
      | rw [hat] at hno
  · exact readIdle_exposed hno
  · exact readCancel_exposed hno
  · rename_i site
    cases site <;> rfl
  · exact setIdle_exposed
  · exact testSignal_exposed hno
  · exact hno
  · split <;> rfl
  · split
    · cases w.fingerindex.isSome <;> rfl
    · rfl

/-! What the calls of the HAL do. -/

theorem vcsInit_signal (o : InitOutcome) (sh : Shared) :
    (Hal.vcsInit o sh).2.signal = sh.signal := by
  unfold Hal.vcsInit
  split_ifs <;> rfl

/-- A start function leaves everything as it is unless it finds the state idle. -/
theorem startWorker_busy {h : Hal} {state : WorkerState} {routine : Routine} {o : InitOutcome}
    {create : Int} (hbusy : h.shared.state ≠ .idle) :
    (h.startWorker state routine o create).2 = h := by
  unfold Hal.startWorker
  rw [if_pos hbusy]

theorem startWorker_shared {h : Hal} {state : WorkerState} {routine : Routine} {o : InitOutcome}
    {create : Int} (hidle : h.shared.state = .idle) :
    (h.startWorker state routine o create).2.shared =
      (Hal.vcsInit o (Hal.sensorInit (h.shared.setState state))).2 := by
  unfold Hal.startWorker
  rw [if_neg (not_not.mpr hidle)]
  obtain ⟨ret, sh⟩ := Hal.vcsInit o (Hal.sensorInit (h.shared.setState state))
  simp only
  split_ifs <;> rfl

/-- The workers after a start function, and whether the last one is new. -/
theorem startWorker_workers (h : Hal) (state : WorkerState) (routine : Routine) (o : InitOutcome)
    (create : Int) : ∃ new : List Thread,
      (h.startWorker state routine o create).2.workers = h.workers ++ new ∧
        ∀ t ∈ new, t.worker = .start routine := by
  rcases Hal.startWorker_cases h state routine o create with ⟨-, hw, -⟩ | ⟨-, hw, -⟩
  · refine ⟨[], by simpa using hw, ?_⟩
    simp
  · refine ⟨_, hw, ?_⟩
    simp

theorem exposed_start (routine : Routine) : exposed sh (Worker.start routine).pc = false := by
  cases routine <;> rfl

theorem vcsStartEnroll_shared (h : Hal) (timeout : UInt32) (o : InitOutcome)
    (create createTimeout : Int) :
    (h.vcsStartEnroll timeout o create createTimeout).2.shared =
      (h.startWorker .enroll .vcs_enroll o create).2.shared := by
  simp only [Hal.vcsStartEnroll]
  split_ifs <;> rfl

/-- Nobody becomes exposed by the beginning of an operation. -/
theorem startWorker_exposed {state : WorkerState} {routine : Routine} {o : InitOutcome}
    {create : Int} (hok : NoneLeft s) (hun : Unsent s i pc)
    (hexp : exposed (s.hal.startWorker state routine o create).2.shared pc = true) :
    exposed s.hal.shared pc = true := by
  by_cases hidle : s.hal.shared.state = .idle
  · obtain ⟨hne, hsig⟩ := hok hidle i pc hun
    have hsignal : (s.hal.startWorker state routine o create).2.shared.signal =
        s.hal.shared.signal := by
      rw [startWorker_shared hidle]
      exact vcsInit_signal o _
    unfold exposed at hexp ⊢
    split at hexp
    · exact absurd rfl hne
    · simp [hidle]
    · rfl
    · simp only [Bool.and_eq_true, hsignal] at hexp
      have hno := hsig hexp.1.1
      rw [hexp.1.2] at hno
      cases hno
  · rwa [startWorker_busy hidle] at hexp

/-! The invariant. -/

theorem inv_quiet (sh : Shared) : Inv (quiet sh) := by
  constructor
  · rfl
  · rintro i pc ⟨⟨t, ht, -⟩, -⟩
    simp [quiet, Hal.quiet] at ht

/-- Workers are added at the end, and the others are not exposed by the change. -/
theorem Inv.of_append (h : Inv s) {new : List Thread}
    (hw : s'.hal.workers = s.hal.workers ++ new)
    (hnew : ∀ t ∈ new, exposed s'.hal.shared t.worker.pc = false)
    (hf : s'.fresh = s.fresh ++ List.replicate new.length false)
    (hexp : ∀ i pc, Unsent s i pc → exposed s'.hal.shared pc = true →
      exposed s.hal.shared pc = true) : Inv s' := by
  constructor
  · simp [hw, hf, h.length_fresh]
  · rintro i pc ⟨⟨t, ht, rfl⟩, hfresh⟩
    rw [hw] at ht
    rw [hf] at hfresh
    by_cases hi : i < s.hal.workers.length
    · rw [List.getElem?_append_left hi] at ht
      rw [List.getElem?_append_left (h.length_fresh ▸ hi)] at hfresh
      have hun : Unsent s i t.worker.pc := ⟨⟨t, ht, rfl⟩, hfresh⟩
      by_contra hno
      have := h.unsent i _ hun
      rw [hexp i _ hun ((Bool.not_eq_false _).mp hno)] at this
      cases this
    · rw [List.getElem?_append_right (Nat.le_of_not_lt hi)] at ht
      exact hnew t (List.mem_of_getElem? ht)

/-- A call that leaves the workers alone. -/
theorem Inv.of_same (h : Inv s) (hw : s'.hal.workers = s.hal.workers) (hf : s'.fresh = s.fresh)
    (hexp : ∀ pc, exposed s'.hal.shared pc = true → exposed s.hal.shared pc = true) : Inv s' := by
  refine @Inv.of_append s s' h [] ?_ ?_ ?_ fun _ pc _ => hexp pc
  · simpa using hw
  · simp
  · simpa using hf

theorem exposed_setState_cancel (h : exposed (sh.setState .cancel) pc = true) :
    exposed sh pc = true := by
  apply exposed_mono _ _ _ h
  · exact id
  · intro hbusy
    cases hbusy
  · exact fun _ _ => rfl

theorem start_inv {state : WorkerState} {routine : Routine} {o : InitOutcome} {create : Int}
    (h : Inv s) (hok : NoneLeft s)
    (hw : s'.hal.workers = (s.hal.startWorker state routine o create).2.workers)
    (hsh : s'.hal.shared = (s.hal.startWorker state routine o create).2.shared)
    (hf : s'.fresh = s.fresh ++
      List.replicate (s'.hal.workers.length - s.hal.workers.length) false) : Inv s' := by
  obtain ⟨new, hnew, hstart⟩ := startWorker_workers s.hal state routine o create
  rw [← hw] at hnew
  have hlen : s'.hal.workers.length - s.hal.workers.length = new.length := by
    rw [hnew, List.length_append]
    omega
  rw [hlen] at hf
  apply h.of_append hnew _ hf
  · intro i pc hun hexp
    rw [hsh] at hexp
    exact startWorker_exposed hok hun hexp
  · intro t ht
    rw [hstart t ht]
    exact exposed_start routine

theorem call_cases {e : HalEvent} (hs : call s e = some s') : ∃ hal, s.hal.step e = some hal ∧
    s' = { s with
      hal
      fresh := s.fresh ++
        List.replicate (hal.workers.length - s.hal.workers.length) false } := by
  obtain ⟨hal, hhal, rfl⟩ := Option.map_eq_some_iff.mp hs
  exact ⟨hal, hhal, rfl⟩

theorem call_inv {e : HalEvent} (h : Inv s) (hok : Prompt s (.hal e))
    (hsig : e ≠ .signal) (hwork : ∀ i r, e ≠ .work i r) (hs : call s e = some s') : Inv s' := by
  obtain ⟨hal, hhal, rfl⟩ := call_cases hs
  cases e with
  | authenticate o create =>
    cases hhal
    exact start_inv h hok rfl rfl rfl
  | enroll timeout o create createTimeout =>
    simp only [Hal.step] at hhal
    split at hhal
    · cases hhal
    · cases hhal
      exact start_inv h hok (Hal.vcsStartEnroll_workers ..) (vcsStartEnroll_shared ..) rfl
  | cancel =>
    cases hhal
    unfold Hal.fingerprintCancel
    split
    · exact h.of_same rfl (by simp) fun pc => exposed_setState_cancel
    · exact h.of_same rfl (by simp) fun pc => id
  | signal => exact absurd rfl hsig
  | work i r => exact absurd rfl (hwork i r)
  | expire =>
    simp only [Hal.step] at hhal
    split at hhal
    · cases hhal
    · cases hhal
      exact h.of_same rfl (by simp) fun pc => id
  | switch =>
    simp only [Hal.step] at hhal
    split at hhal
    · cases hhal
    · cases hhal
      exact h.of_same rfl (by simp) fun pc => exposed_setState_cancel

/-- The worker that takes a step returns, or stays where it is in the list. -/
theorem work_cases (hs : work s i r = some s') : ∃ t sh' w',
    s.hal.workers[i]? = some t ∧ t.worker.step s.hal.shared r = some (sh', w') ∧
      s'.hal.shared = sh' ∧
      ((w'.pc = .returned ∧ s'.hal.workers = s.hal.workers.eraseIdx i ∧
          s'.fresh = s.fresh.eraseIdx i) ∨
        ∃ wrote, s'.hal.workers = s.hal.workers.set i { worker := w', wroteIdle := wrote } ∧
          s'.fresh = if t.worker.pc = .arm then s.fresh.set i false else s.fresh) := by
  unfold work at hs
  cases ht : s.hal.workers[i]? with
  | none => simp [ht] at hs
  | some t =>
    simp only [ht] at hs
    obtain ⟨hal, hhal, rfl⟩ := Option.map_eq_some_iff.mp hs
    simp only [Hal.work, ht] at hhal
    obtain ⟨⟨sh', w'⟩, hstep, rfl⟩ := Option.map_eq_some_iff.mp hhal
    refine ⟨t, sh', w', rfl, hstep, rfl, ?_⟩
    obtain ⟨hi, -⟩ := List.getElem?_eq_some_iff.mp ht
    by_cases hret : w'.pc = .returned
    · refine Or.inl ⟨hret, if_pos hret, ?_⟩
      simp only [hret, if_true, List.length_eraseIdx, hi]
      rw [if_pos (by omega)]
    · refine Or.inr ⟨_, if_neg hret, ?_⟩
      simp [hret]

theorem arm_step (hpc : w.pc = .arm) (h : w.step sh r = some (sh', w')) :
    sh' = sh ∧ w'.pc = .check .waiting .readIdle := by
  simp only [Worker.step, hpc, Option.some.injEq, Prod.mk.injEq] at h
  obtain ⟨rfl, rfl⟩ := h
  exact ⟨rfl, rfl⟩

theorem exposed_armed (h : Hal.busy sh.state = true → sh.signal = false) :
    exposed sh (.check .waiting .readIdle) = false := by
  change (sh.signal && Hal.busy sh.state) = false
  cases hbusy : Hal.busy sh.state with
  | false => exact Bool.and_false _
  | true => simp [h hbusy]

theorem work_inv (h : Inv s) (hok : Prompt s (.hal (.work i r))) (hs : work s i r = some s') :
    Inv s' := by
  obtain ⟨t, sh', w', ht, hstep, hsh, hcase⟩ := work_cases hs
  obtain ⟨harm, hothers⟩ := hok t ht
  -- what holds of the workers that did not take the step
  have hother : ∀ j pc, j ≠ i → Unsent s j pc → exposed s'.hal.shared pc = false := by
    intro j pc hj hun
    by_contra hexp
    have hno := h.unsent j pc hun
    rw [hsh] at hexp
    rw [exposed_of_other hstep _ ((Bool.not_eq_false _).mp hexp)] at hno
    · cases hno
    · rintro hw rfl
      exact hothers hw j hj hun
  rcases hcase with ⟨-, hw, hf⟩ | ⟨wrote, hw, hf⟩
  · constructor
    · simp only [hw, hf, List.length_eraseIdx, h.length_fresh]
    · rintro j pc ⟨⟨u, hu, rfl⟩, hfresh⟩
      rw [hw, List.getElem?_eraseIdx] at hu
      rw [hf, List.getElem?_eraseIdx] at hfresh
      by_cases hj : j < i
      · rw [if_pos hj] at hu hfresh
        exact hother j _ (by omega) ⟨⟨u, hu, rfl⟩, hfresh⟩
      · rw [if_neg hj] at hu hfresh
        exact hother (j + 1) _ (by omega) ⟨⟨u, hu, rfl⟩, hfresh⟩
  · constructor
    · rw [hw, hf, List.length_set]
      split_ifs
      · rw [List.length_set, h.length_fresh]
      · exact h.length_fresh
    · rintro j pc ⟨⟨u, hu, rfl⟩, hfresh⟩
      by_cases hj : j = i
      · subst hj
        rw [hw, List.getElem?_set_self (List.getElem?_eq_some_iff.mp ht).1] at hu
        cases hu
        rw [hsh]
        by_cases hpc : t.worker.pc = .arm
        · obtain ⟨rfl, hpc'⟩ := arm_step hpc hstep
          rw [hpc']
          exact exposed_armed (harm hpc)
        · rw [hf, if_neg hpc] at hfresh
          exact step_exposed hstep hpc (h.unsent j _ ⟨⟨t, ht, rfl⟩, hfresh⟩)
      · rw [hw, List.getElem?_set_ne (Ne.symm hj)] at hu
        apply hother j _ hj ⟨⟨u, hu, rfl⟩, _⟩
        rw [hf] at hfresh
        split_ifs at hfresh
        · rwa [List.getElem?_set_ne (Ne.symm hj)] at hfresh
        · exact hfresh

theorem raise_inv (h : Inv s) (hs : step s .raise = some s') : Inv s' := by
  simp only [step] at hs
  split_ifs at hs
  · cases hs
    exact h.of_same rfl rfl fun pc => id
  · cases hs
    constructor
    · simpa using h.length_fresh
    -- the signal is new to every worker
    · rintro i pc ⟨-, hfresh⟩
      rw [List.getElem?_map] at hfresh
      obtain ⟨_, -, htrue⟩ := Option.map_eq_some_iff.mp hfresh
      cases htrue

theorem step_inv (s : Watch) (a : WatchEvent) (s' : Watch) (h : Inv s) (hok : Prompt s a)
    (hs : step s a = some s') : Inv s' := by
  cases a with
  | hal e =>
    cases e with
    | signal => cases hs
    | work i r => exact work_inv h hok hs
    | authenticate o create => exact call_inv h hok nofun nofun hs
    | enroll timeout o create createTimeout => exact call_inv h hok nofun nofun hs
    | cancel => exact call_inv h hok nofun nofun hs
    | expire => exact call_inv h hok nofun nofun hs
    | switch => exact call_inv h hok nofun nofun hs
  | drdy =>
    cases hs
    exact h.of_same rfl rfl fun pc => id
  | raise => exact raise_inv h hs

theorem Inv.ownSignal (h : Inv s) : OwnSignal s := by
  intro i t ht hpc
  have hi : i < s.fresh.length := by
    rw [h.length_fresh]
    exact (List.getElem?_eq_some_iff.mp ht).1
  rw [List.getElem?_eq_getElem hi, Option.some.injEq]
  by_contra hno
  have hun : Unsent s i .clearSignal := by
    refine ⟨⟨t, ht, hpc⟩, ?_⟩
    rw [List.getElem?_eq_getElem hi, (Bool.not_eq_true _).mp hno]
  cases h.unsent i _ hun

/-! Conversely, an event that is not prompt lets a capture go astray. -/

/-- Where an exposed worker is after its next step, and how many steps it is from the read loop. -/
def onward : Pc → Pc × Nat
  | .wait => (.check .waiting .readIdle, 6)
  | .check .waiting .readIdle => (.check .waiting .readCancel, 5)
  | .check .waiting .readCancel => (.testSignal, 4)
  | .testSignal => (.check .waited .readIdle, 3)
  | .check .waited .readIdle => (.check .waited .readCancel, 2)
  | .check .waited .readCancel => (.clearSignal, 1)
  | _ => (.clearSignal, 0)

theorem exposed_cases (h : exposed sh pc = true) :
    pc = .clearSignal ∨ (pc = .check .waited .readCancel ∧ sh.state ≠ .cancel) ∨
      (Hal.busy sh.state = true ∧ (pc = .check .waited .readIdle ∨
        (waiting pc = true ∧ sh.signal = true))) := by
  unfold exposed at h
  split at h
  · exact Or.inr (Or.inr ⟨h, Or.inl rfl⟩)
  · exact Or.inr (Or.inl ⟨rfl, by simpa using h⟩)
  · exact Or.inl rfl
  · simp only [Bool.and_eq_true] at h
    exact Or.inr (Or.inr ⟨h.2, Or.inr h.1⟩)

theorem busy_ne {state : WorkerState} (h : Hal.busy state = true) :
    state ≠ .idle ∧ state ≠ .cancel := by
  constructor <;> rintro rfl <;> cases h

/-- An exposed worker takes the next step of `onward` and remains exposed. -/
theorem step_onward (hpc : w.pc ≠ .clearSignal) (h : exposed sh w.pc = true) (r : Reply) :
    w.step sh r = some (sh, w.goto (onward w.pc).1) ∧ w.pc ≠ .arm ∧
      exposed sh (onward w.pc).1 = true ∧ (onward w.pc).1 ≠ .returned ∧
      (onward w.pc).2 = (onward (onward w.pc).1).2 + 1 := by
  rcases exposed_cases h with hclear | ⟨hat, hc⟩ | ⟨hbusy, hat | ⟨hat, hsig⟩⟩
  · exact absurd hclear hpc
  · simp [Worker.step, hat, hc, Worker.checked, onward, exposed]
  · obtain ⟨hidle, hc⟩ := busy_ne hbusy
    simp [Worker.step, hat, hidle, hc, onward, exposed]
  · obtain ⟨hidle, hc⟩ := busy_ne hbusy
    unfold waiting at hat
    split at hat
    · simp [Worker.step, *, onward, exposed, waiting]
    · simp [Worker.step, *, Worker.checked, onward, exposed, waiting]
    · simp [Worker.step, *, onward, exposed]
    · simp [Worker.step, *, onward, exposed, waiting]
    · cases hat

/-- The steps of worker `i`, with any replies. -/
def steps (i n : Nat) : List WatchEvent := List.replicate n (.hal (.work i Hal.ok))

theorem work_onward {t : Thread} (ht : s.hal.workers[i]? = some t)
    (hpc : t.worker.pc ≠ .clearSignal) (h : exposed s.hal.shared t.worker.pc = true) :
    ∃ s' t', step s (.hal (.work i Hal.ok)) = some s' ∧ s'.hal.workers[i]? = some t' ∧
      t'.worker.pc = (onward t.worker.pc).1 ∧ s'.hal.shared = s.hal.shared ∧
      s'.fresh = s.fresh := by
  obtain ⟨hstep, harm, -, hret, -⟩ := step_onward hpc h Hal.ok
  obtain ⟨hi, -⟩ := List.getElem?_eq_some_iff.mp ht
  simp only [step, work, Hal.work, ht, hstep, Option.map_some, Worker.goto, hret, if_false,
    harm, List.length_set, Nat.lt_irrefl]
  exact ⟨_, _, rfl, List.getElem?_set_self hi, rfl, rfl, rfl⟩

/-- An exposed worker that was sent no signal reaches the read loop by its own steps. -/
theorem exposed_strays (hun : Unsent s i pc) (h : exposed s.hal.shared pc = true) :
    ∃ n t, Machine.run step s (steps i n) = some t ∧ ¬OwnSignal t := by
  obtain ⟨⟨t, ht, rfl⟩, hfresh⟩ := hun
  induction hn : (onward t.worker.pc).2 using Nat.strongRecOn generalizing s t with
  | ind n ih =>
    by_cases hpc : t.worker.pc = .clearSignal
    · refine ⟨0, s, rfl, fun hown => ?_⟩
      have := hown i t ht hpc
      rw [hfresh] at this
      cases this
    · obtain ⟨-, -, hexp, -, hlt⟩ := step_onward hpc h Hal.ok
      obtain ⟨s', t', hs, ht', hpc', hsh, hf⟩ := work_onward ht hpc h
      rw [← hpc'] at hexp hlt
      obtain ⟨m, u, hu, hno⟩ := ih _ (by omega) (hf ▸ hfresh) t' ht' (hsh ▸ hexp) rfl
      refine ⟨m + 1, u, ?_, hno⟩
      change (step s _).bind _ = _
      rw [hs]
      exact hu

theorem unsent_append {new : List Thread} {bs : List Bool} (hun : Unsent s i pc)
    (hw : s'.hal.workers = s.hal.workers ++ new) (hf : s'.fresh = s.fresh ++ bs) :
    Unsent s' i pc := by
  obtain ⟨⟨t, ht, hpc⟩, hfresh⟩ := hun
  refine ⟨⟨t, ?_, hpc⟩, ?_⟩
  · rw [hw, List.getElem?_append_left (List.getElem?_eq_some_iff.mp ht).1]
    exact ht
  · rw [hf, List.getElem?_append_left (List.getElem?_eq_some_iff.mp hfresh).1]
    exact hfresh

theorem start_exposes {state : WorkerState} {routine : Routine} {o : InitOutcome} {create : Int}
    {bs : List Bool} (hbad : ¬NoneLeft s) (hstate : Hal.busy state = true)
    (hw : s'.hal.workers = (s.hal.startWorker state routine o create).2.workers)
    (hsh : s'.hal.shared = (s.hal.startWorker state routine o create).2.shared)
    (hf : s'.fresh = s.fresh ++ bs) :
    ∃ i pc, Unsent s' i pc ∧ exposed s'.hal.shared pc = true := by
  obtain ⟨hidle, hbad⟩ := Classical.not_imp.mp hbad
  push Not at hbad
  obtain ⟨i, pc, hun, hleft⟩ := hbad
  obtain ⟨new, hnew, -⟩ := startWorker_workers s.hal state routine o create
  rw [← hw] at hnew
  rw [startWorker_shared hidle] at hsh
  have hbusy : Hal.busy s'.hal.shared.state = true := by
    rw [hsh, Hal.vcsInit_state]
    exact hstate
  refine ⟨i, pc, unsent_append hun hnew hf, ?_⟩
  by_cases hpc : pc = .check .waited .readIdle
  · rw [hpc]
    exact hbusy
  · obtain ⟨hwait, hsig⟩ := hleft hpc
    rw [exposed_waiting hwait, hbusy, Bool.and_true, hsh, vcsInit_signal]
    exact (Bool.not_eq_false _).mp hsig

/-- What becomes of the others when worker `i` takes a step. -/
theorem unsent_work (hun : Unsent s j pc) (hj : j ≠ i) (hs : work s i r = some s') :
    ∃ k, Unsent s' k pc := by
  obtain ⟨⟨u, hu, hpc⟩, hfresh⟩ := hun
  obtain ⟨t, sh', w', ht, -, -, ⟨-, hw, hf⟩ | ⟨wrote, hw, hf⟩⟩ := work_cases hs
  · rcases Nat.lt_or_gt_of_ne hj with hlt | hgt
    · refine ⟨j, ⟨u, ?_, hpc⟩, ?_⟩
      · rw [hw, List.getElem?_eraseIdx, if_pos hlt, hu]
      · rw [hf, List.getElem?_eraseIdx, if_pos hlt, hfresh]
    · have hsucc : j - 1 + 1 = j := by omega
      refine ⟨j - 1, ⟨u, ?_, hpc⟩, ?_⟩
      · rw [hw, List.getElem?_eraseIdx, if_neg (by omega), hsucc, hu]
      · rw [hf, List.getElem?_eraseIdx, if_neg (by omega), hsucc, hfresh]
  · refine ⟨j, ⟨u, ?_, hpc⟩, ?_⟩
    · rw [hw, List.getElem?_set_ne (Ne.symm hj), hu]
    · rw [hf]
      split_ifs
      · rw [List.getElem?_set_ne (Ne.symm hj), hfresh]
      · exact hfresh

theorem work_exposes (h : Inv s) (hbad : ¬Prompt s (.hal (.work i r)))
    (hs : work s i r = some s') : ∃ j pc, Unsent s' j pc ∧ exposed s'.hal.shared pc = true := by
  obtain ⟨t, sh', w', ht, hstep, hsh, hcase⟩ := work_cases hs
  simp only [Prompt, ht, Option.some.injEq, forall_eq', not_and_or] at hbad
  rcases hbad with harm | hcancel
  · push Not at harm
    obtain ⟨hpc, hbusy, hsig⟩ := harm
    obtain ⟨rfl, hpc'⟩ := arm_step hpc hstep
    obtain ⟨hi, -⟩ := List.getElem?_eq_some_iff.mp ht
    rcases hcase with ⟨hret, -⟩ | ⟨wrote, hw, hf⟩
    · rw [hpc'] at hret
      cases hret
    · rw [if_pos hpc] at hf
      refine ⟨i, .check .waiting .readIdle, ⟨⟨⟨w', wrote⟩, ?_, hpc'⟩, ?_⟩, ?_⟩
      · rw [hw, List.getElem?_set_self hi]
      · rw [hf, List.getElem?_set_self (h.length_fresh ▸ hi)]
      · rw [exposed_waiting rfl, hsh, hbusy, Bool.and_true]
        exact (Bool.not_eq_false _).mp hsig
  · push Not at hcancel
    obtain ⟨hw, j, hj, hun⟩ := hcancel
    obtain ⟨k, hk⟩ := unsent_work hun hj hs
    refine ⟨k, _, hk, ?_⟩
    have hidle := Worker.step_state hstep
    rw [if_pos hw] at hidle
    simp [exposed, hsh, hidle]

/-- After an event that is not prompt, some worker goes astray if it is left alone. -/
theorem strays_of_not_prompt (h : Inv s) (hbad : ¬Prompt s a) (hs : step s a = some s') :
    ∃ i n t, Machine.run step s' (steps i n) = some t ∧ ¬OwnSignal t := by
  suffices hexp : ∃ i pc, Unsent s' i pc ∧ exposed s'.hal.shared pc = true by
    obtain ⟨i, pc, hun, hexp⟩ := hexp
    exact ⟨i, exposed_strays hun hexp⟩
  cases a with
  | hal e =>
    cases e with
    | authenticate o create =>
      obtain ⟨hal, hhal, rfl⟩ := call_cases hs
      cases hhal
      exact start_exposes hbad rfl rfl rfl rfl
    | enroll timeout o create createTimeout =>
      obtain ⟨hal, hhal, rfl⟩ := call_cases hs
      simp only [Hal.step] at hhal
      split at hhal
      · cases hhal
      · cases hhal
        exact start_exposes hbad rfl (Hal.vcsStartEnroll_workers ..) (vcsStartEnroll_shared ..)
          rfl
    | work i r => exact work_exposes h hbad hs
    | _ => exact absurd trivial hbad
  | _ => exact absurd trivial hbad

/-- If all events of a run are prompt, whoever goes on to read an image was sent a signal; and a
run with an event that is not has a beginning from which a worker goes astray by itself. -/
theorem own_signal_runs (hr : Machine.run step (quiet sh) as = some s) :
    (Machine.Along step Prompt (quiet sh) as → OwnSignal s) ∧
      (¬Machine.Along step Prompt (quiet sh) as → ∃ bs i n t, bs <+: as ∧
        Machine.run step (quiet sh) (bs ++ steps i n) = some t ∧ ¬OwnSignal t) := by
  constructor
  · intro hok
    exact (Machine.run_invariant_along step_inv hr hok (inv_quiet sh)).ownSignal
  · intro hno
    obtain ⟨bs, a, u, v, hbs, hu, halong, hbad, hv⟩ := Machine.exists_first_of_not_along hr hno
    have hinv : Inv u := Machine.run_invariant_along step_inv hu halong (inv_quiet sh)
    obtain ⟨i, n, t, ht, hstray⟩ := strays_of_not_prompt hinv hbad hv
    refine ⟨bs ++ [a], i, n, t, hbs, ?_, hstray⟩
    have hv' : Machine.run step (quiet sh) (bs ++ [a]) = some v := by
      apply Machine.run_trans hu
      rw [Machine.run_cons, hv]
      rfl
    exact Machine.run_trans hv' ht

/-! Two runs: a finger-detect signal of the second capture's own, and one that the first capture
left behind when it was cancelled. -/

def begin : WatchEvent := .hal Hal.authenticateOk

def detect : List WatchEvent := [.drdy, .raise]

def ownDetect : List WatchEvent := begin :: steps 0 8 ++ detect ++ steps 0 6

def leftBehind : List WatchEvent :=
  begin :: steps 0 9 ++ detect ++ .hal .cancel :: steps 0 8 ++ begin :: steps 0 10

def ending (as : List WatchEvent) : Watch :=
  (Machine.run step (quiet .opened) as).getD (quiet .opened)

/-- The steps of the only worker are prompt unless it arms the sensor beside a left-over signal. -/
theorem prompt_alone {t : Thread} (hw : s.hal.workers = [t])
    (harm : t.worker.pc = .arm → s.hal.shared.signal = false) : Prompt s (.hal (.work 0 r)) := by
  intro u hu
  simp only [hw, List.getElem?_cons_zero, Option.some.injEq] at hu
  subst hu
  refine ⟨fun hpc _ => harm hpc, ?_⟩
  rintro - j hj ⟨⟨u, hu, -⟩, -⟩
  rw [hw, List.getElem?_eq_none (by simp; omega)] at hu
  cases hu

theorem own_signal_ownDetect :
    Machine.run step (quiet .opened) ownDetect = some (ending ownDetect) ∧
      OwnSignal (ending ownDetect) := by
  have hrun : Machine.run step (quiet .opened) ownDetect = some (ending ownDetect) := rfl
  refine ⟨hrun, (own_signal_runs hrun).1 (Machine.along_cons rfl ?_ ?_)⟩
  · rintro - i pc ⟨⟨t, ht, -⟩, -⟩
    cases ht
  iterate 8 refine Machine.along_cons rfl (prompt_alone rfl (by decide)) ?_
  refine Machine.along_cons rfl trivial (Machine.along_cons rfl trivial ?_)
  iterate 6 refine Machine.along_cons rfl (prompt_alone rfl (by decide)) ?_
  trivial

theorem leftBehind_strays :
    ∃ s, Machine.run step (quiet .opened) leftBehind = some s ∧ ¬OwnSignal s := by
  refine ⟨ending leftBehind, rfl, fun h => ?_⟩
  cases h 0 _ rfl rfl

end Watch

end Apq8084.Fingerprint
