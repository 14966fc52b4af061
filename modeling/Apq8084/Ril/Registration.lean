import Apq8084.Lib.Machine
import Apq8084.Lib.RwLock
import Mathlib.Algebra.Group.Nat.Defs
import Mathlib.Logic.Function.Basic

/-! Registering and losing the callbacks of one slot, `ril/libril/ril_service.cpp`. Any number of
threads register callbacks and deliver responses, acknowledgements and indications; a step lasts
from one operation on the slot's lock to the next, and a client call is a step of its own. -/
namespace Apq8084.Ril.Registration

/-- `isRadioService`. -/
inductive Service where
  | radio
  | oemHook
deriving DecidableEq

/-- How a delivering thread comes to call a response function: with the lock held for reading, as
`RIL_onRequestComplete`, `RIL_onRequestAck` and most of `RIL_onUnsolicitedResponse`; held for
writing, as `RIL_onUnsolicitedResponse` for `RIL_UNSOL_NITZ_TIME_RECEIVED`; or not held at all, as
`sendErrorResponse`. -/
inductive Entry where
  | rdlock
  | wrlock
  | sendErrorResponse
deriving DecidableEq

/-- Where a thread stands. `failed` is the registration whose callback could not be called, and
`noted` the number of changes when `counter` was read. -/
inductive PC where
  | idle
  | registered
  | calling (e : Entry) (svc : Service)
  | checking (e : Entry) (svc : Service) (failed : Nat)
  | counted (e : Entry) (svc : Service) (failed : Nat) (counter : BitVec 32) (noted : Nat)
  | released (e : Entry) (svc : Service) (failed : Nat) (counter : BitVec 32) (noted : Nat)
  | compared (e : Entry)
  | reacquiring (e : Entry)
  | checked (e : Entry)
  | called (e : Entry)
deriving DecidableEq

/-- The callback objects and the counters; registrations are numbered. -/
structure Callbacks where
  /-- `mRadioResponse` and `mRadioIndication`, or `mOemHookResponse` and `mOemHookIndication`. -/
  registration : Service → Option Nat
  /-- `mCounterRadio`, `mCounterOemHook`. -/
  counter : Service → BitVec 32
  /-- How often the counter was incremented. -/
  changes : Service → Nat

/-- `checkReturnStatus` set the callbacks of `registration` to `NULL`. -/
structure Cleared where
  svc : Service
  failed : Nat
  registration : Option Nat
deriving DecidableEq

structure State where
  lock : RwLock Nat
  callbacks : Callbacks
  threads : Nat → PC
  /-- The number of registrations made. -/
  made : Nat
  /-- The last registration made with each service. -/
  latest : Service → Option Nat
  cleared : List Cleared

inductive Action where
  | setResponseFunctions (t : Nat) (svc : Service)
  | deliver (t : Nat) (e : Entry) (svc : Service)
  | call (t : Nat) (isOk : Bool)
  | proceed (t : Nat)

def initial : State :=
  { lock := .free
    callbacks := { registration := fun _ => none, counter := fun _ => 0, changes := fun _ => 0 }
    threads := fun _ => .idle, made := 0, latest := fun _ => none, cleared := [] }

def Callbacks.set (c : Callbacks) (svc : Service) (registration : Option Nat) : Callbacks :=
  { registration := Function.update c.registration svc registration
    counter := Function.update c.counter svc (c.counter svc + 1)
    changes := Function.update c.changes svc (c.changes svc + 1) }

def State.goto (s : State) (t : Nat) (pc : PC) : State :=
  { s with threads := Function.update s.threads t pc }

def State.unlock (s : State) (t : Nat) : State := { s with lock := s.lock.unlock t }

/-- Release what the caller of the response function acquired. -/
def leave (s : State) (t : Nat) : Entry → State
  | .rdlock | .wrlock => s.unlock t
  | .sendErrorResponse => s

/-- The comparison and the resetting in `checkReturnStatus`, with the lock held for writing. -/
def compare (s : State) (svc : Service) (failed : Nat) (counter : BitVec 32) : State :=
  if counter = s.callbacks.counter svc then
    { s with
      callbacks := s.callbacks.set svc none
      cleared := s.cleared ++ [⟨svc, failed, s.callbacks.registration svc⟩] }
  else s

def step (s : State) : Action → Option State
  | .setResponseFunctions t svc =>
    match s.threads t with
    | .idle => (s.lock.wrlock t).map fun lock =>
      { s.goto t .registered with
        lock
        callbacks := s.callbacks.set svc (some s.made)
        made := s.made + 1
        latest := Function.update s.latest svc (some s.made) }
    | _ => none
  | .deliver t e svc =>
    match s.threads t with
    | .idle =>
      match e with
      | .rdlock => (s.lock.rdlock t).map fun lock => { s.goto t (.calling e svc) with lock }
      | .wrlock => (s.lock.wrlock t).map fun lock => { s.goto t (.calling e svc) with lock }
      | .sendErrorResponse => some (s.goto t (.calling e svc))
    | _ => none
  | .call t isOk =>
    match s.threads t with
    | .calling e svc =>
      match s.callbacks.registration svc, isOk with
      | some failed, false => some (s.goto t (.checking e svc failed))
      | _, _ => some (s.goto t (.called e))
    | _ => none
  | .proceed t =>
    match s.threads t with
    | .registered => some ((s.unlock t).goto t .idle)
    | .checking e svc failed =>
      some (s.goto t
        (.counted e svc failed (s.callbacks.counter svc) (s.callbacks.changes svc)))
    | .counted e svc failed counter noted =>
      some ((s.unlock t).goto t (.released e svc failed counter noted))
    | .released e svc failed counter _ => (s.lock.wrlock t).map fun lock =>
      { (compare s svc failed counter).goto t (.compared e) with lock }
    | .compared e => some ((s.unlock t).goto t (.reacquiring e))
    | .reacquiring e => (s.lock.rdlock t).map fun lock => { s.goto t (.checked e) with lock }
    | .checked e | .called e => some ((leave s t e).goto t .idle)
    | .idle | .calling .. => none

/-- A thread that is about to enter `checkReturnStatus`, or has returned from it. -/
def PC.atCheck : PC → Bool
  | .checking .. | .checked _ => true
  | _ => false

/-- Only registrations whose own callback failed were cleared, no other one is lost, and
`checkReturnStatus` is entered and left with the lock held. -/
structure Safe (s : State) : Prop where
  own : ∀ c ∈ s.cleared, c.registration = some c.failed
  kept : ∀ svc, s.callbacks.registration svc = s.latest svc ∨
    ∃ r, s.latest svc = some r ∧ (⟨svc, r, some r⟩ : Cleared) ∈ s.cleared
  held : ∀ t, (s.threads t).atCheck = true → s.lock.Holds t

/-- No client call fails inside `sendErrorResponse`, and fewer than 2^32 changes are made between
the reading of a counter and its comparison. -/
def Guarded (s : State) : Action → Prop
  | .call t isOk => ∀ svc, s.threads t = .calling .sendErrorResponse svc →
    s.callbacks.registration svc = none ∨ isOk = true
  | .proceed t => ∀ e svc failed counter noted,
    s.threads t = .released e svc failed counter noted →
    s.callbacks.changes svc < noted + 2 ^ 32
  | _ => True

/-! What each place of the code relies on. -/

def Entry.Held (lock : RwLock Nat) (t : Nat) : Entry → Prop
  | .rdlock => lock.Reads t
  | .wrlock => lock.Writes t
  | .sendErrorResponse => True

/-- A thread in `checkReturnStatus` came there with the lock. -/
def Entry.Locked (lock : RwLock Nat) (t : Nat) (e : Entry) : Prop :=
  e ≠ .sendErrorResponse ∧ e.Held lock t

def PC.Inv (lock : RwLock Nat) (c : Callbacks) (t : Nat) : PC → Prop
  | .idle => True
  | .registered => lock.Writes t
  | .calling e _ | .called e => e.Held lock t
  | .checking e svc failed => e.Locked lock t ∧ c.registration svc = some failed
  | .counted e svc failed counter noted =>
    e.Locked lock t ∧ c.registration svc = some failed ∧ counter = BitVec.ofNat 32 noted ∧
      noted = c.changes svc
  | .released e svc failed counter noted =>
    e ≠ .sendErrorResponse ∧ counter = BitVec.ofNat 32 noted ∧ noted ≤ c.changes svc ∧
      (noted = c.changes svc → c.registration svc = some failed)
  | .compared e => e ≠ .sendErrorResponse ∧ lock.Writes t
  | .reacquiring e => e ≠ .sendErrorResponse
  | .checked e => e ≠ .sendErrorResponse ∧ lock.Reads t

structure Inv (s : State) : Prop where
  counter : ∀ svc, s.callbacks.counter svc = BitVec.ofNat 32 (s.callbacks.changes svc)
  thread : ∀ t, (s.threads t).Inv s.lock s.callbacks t
  own : ∀ c ∈ s.cleared, c.registration = some c.failed
  kept : ∀ svc, s.callbacks.registration svc = s.latest svc ∨
    ∃ r, s.latest svc = some r ∧ (⟨svc, r, some r⟩ : Cleared) ∈ s.cleared
  /-- Each registration is cleared at most once. -/
  bound : ∀ svc,
    s.callbacks.changes svc + (s.callbacks.registration svc).toList.length ≤ 2 * s.made

variable {s s' : State} {lock lock' : RwLock Nat} {c c' : Callbacks} {t v : Nat} {e : Entry}
  {pc : PC}

theorem Entry.Held.mono (h : e.Held lock v) (hr : lock.Reads v → lock'.Reads v)
    (hw : lock.Writes v → lock'.Writes v) : e.Held lock' v := by
  cases e with
  | rdlock => exact hr h
  | wrlock => exact hw h
  | sendErrorResponse => trivial

theorem Entry.Locked.holds (h : e.Locked lock v) : lock.Holds v := by
  obtain ⟨hne, hheld⟩ := h
  cases e with
  | rdlock => exact Or.inl hheld
  | wrlock => exact Or.inr hheld
  | sendErrorResponse => exact absurd rfl hne

/-- A thread keeps what it relies on while others use the lock. -/
theorem PC.Inv.mono (h : pc.Inv lock c v) (hr : lock.Reads v → lock'.Reads v)
    (hw : lock.Writes v → lock'.Writes v) : pc.Inv lock' c v := by
  cases pc with
  | idle => trivial
  | registered => exact hw h
  | calling e svc => exact h.mono hr hw
  | called e => exact h.mono hr hw
  | checking e svc failed => exact ⟨⟨h.1.1, h.1.2.mono hr hw⟩, h.2⟩
  | counted e svc failed counter noted => exact ⟨⟨h.1.1, h.1.2.mono hr hw⟩, h.2⟩
  | released e svc failed counter noted => exact h
  | compared e => exact ⟨h.1, hw h.2⟩
  | reacquiring e => exact h
  | checked e => exact ⟨h.1, hr h.2⟩

theorem Callbacks.set_changes (svc : Service) (registration : Option Nat) (q : Service) :
    c.changes q ≤ (c.set svc registration).changes q ∧
      ((c.set svc registration).changes q = c.changes q →
        (c.set svc registration).registration q = c.registration q) := by
  by_cases hq : q = svc
  · subst hq
    simp [Callbacks.set]
  · simp [Callbacks.set, hq]

/-- The callbacks change only while nobody else holds the lock. -/
theorem PC.Inv.changed (h : pc.Inv lock c v) (hfree : ¬lock.Holds v)
    (hc : ∀ q, c.changes q ≤ c'.changes q ∧
      (c'.changes q = c.changes q → c'.registration q = c.registration q)) :
    pc.Inv lock c' v := by
  cases pc with
  | idle => trivial
  | registered => exact h
  | calling e svc => exact h
  | called e => exact h
  | checking e svc failed => exact absurd h.1.holds hfree
  | counted e svc failed counter noted => exact absurd h.1.holds hfree
  | released e svc failed counter noted =>
    obtain ⟨hne, hcounter, hle, hreg⟩ := h
    obtain ⟨hmono, hsame⟩ := hc svc
    refine ⟨hne, hcounter, Nat.le_trans hle hmono, fun heq => ?_⟩
    have heq' : c'.changes svc = c.changes svc := by omega
    rw [hsame heq']
    exact hreg (heq.trans heq')
  | compared e => exact h
  | reacquiring e => exact h
  | checked e => exact h

theorem inv_initial : Inv initial := by
  refine ⟨fun _ => rfl, fun _ => trivial, ?_, fun _ => Or.inl rfl, fun _ => Nat.le_refl 0⟩
  intro c hc
  cases hc

/-- What a step has to show when it only moves one thread and uses the lock. -/
theorem Inv.goto (h : Inv s) {lock : RwLock Nat} (hpc : pc.Inv lock s.callbacks t)
    (hr : ∀ v, v ≠ t → s.lock.Reads v → lock.Reads v)
    (hw : ∀ v, v ≠ t → s.lock.Writes v → lock.Writes v) :
    Inv { s.goto t pc with lock } := by
  refine ⟨h.counter, fun v => ?_, h.own, h.kept, h.bound⟩
  by_cases hv : v = t
  · subst hv
    simpa [State.goto] using hpc
  · simpa [State.goto, Function.update_of_ne hv] using (h.thread v).mono (hr v hv) (hw v hv)

theorem Inv.goto_unlock (h : Inv s) (hpc : pc.Inv (s.lock.unlock t) s.callbacks t) :
    Inv ((s.unlock t).goto t pc) :=
  h.goto hpc (fun _ hv hr => hr.of_unlock hv) fun _ hv hw => hw.of_unlock hv

theorem Inv.goto_rdlock (h : Inv s) (hl : s.lock.rdlock t = some lock)
    (hpc : pc.Inv lock s.callbacks t) : Inv { s.goto t pc with lock } :=
  h.goto hpc (fun _ _ hr => hr.of_rdlock hl) fun _ _ hw =>
    absurd hw (RwLock.not_writes_of_rdlock hl)

theorem Inv.goto_wrlock (h : Inv s) (hl : s.lock.wrlock t = some lock)
    (hpc : pc.Inv lock s.callbacks t) : Inv { s.goto t pc with lock } :=
  h.goto hpc (fun _ _ hr => absurd (Or.inl hr) (RwLock.not_holds_of_wrlock hl)) fun _ _ hw =>
    absurd (Or.inr hw) (RwLock.not_holds_of_wrlock hl)

/-! Steps. -/

variable {svc : Service} {failed noted : Nat} {counter : BitVec 32}

theorem counter_set (h : ∀ q, c.counter q = BitVec.ofNat 32 (c.changes q)) (svc : Service)
    (registration : Option Nat) (q : Service) :
    (c.set svc registration).counter q =
      BitVec.ofNat 32 ((c.set svc registration).changes q) := by
  by_cases hq : q = svc
  · subst hq
    simp [Callbacks.set, h, BitVec.ofNat_add]
  · simp [Callbacks.set, hq, h]

/-- What a writer of the callbacks leaves to all threads. -/
theorem Inv.thread_set (h : Inv s) (hl : s.lock.wrlock t = some lock) {registration : Option Nat}
    (hpc : pc.Inv lock (s.callbacks.set svc registration) t) (v : Nat) :
    (Function.update s.threads t pc v).Inv lock (s.callbacks.set svc registration) v := by
  by_cases hv : v = t
  · subst hv
    rw [Function.update_self]
    exact hpc
  · have hfree : ¬s.lock.Holds v := RwLock.not_holds_of_wrlock hl
    rw [Function.update_of_ne hv]
    refine ((h.thread v).changed hfree (s.callbacks.set_changes svc registration)).mono ?_ ?_
    · exact fun hr => absurd (Or.inl hr) hfree
    · exact fun hw => absurd (Or.inr hw) hfree

theorem setResponseFunctions_inv (h : Inv s) (hl : s.lock.wrlock t = some lock) :
    Inv { s.goto t .registered with
      lock
      callbacks := s.callbacks.set svc (some s.made)
      made := s.made + 1
      latest := Function.update s.latest svc (some s.made) } := by
  refine ⟨counter_set h.counter svc _, ?_, h.own, fun q => ?_, fun q => ?_⟩
  · exact h.thread_set hl (RwLock.wrlock_writes hl)
  · by_cases hq : q = svc
    · subst hq
      left
      simp [Callbacks.set]
    · simpa [State.goto, Callbacks.set, hq] using h.kept q
  · have := h.bound q
    by_cases hq : q = svc
    · subst hq
      simp [Callbacks.set]
      omega
    · simp [Callbacks.set, hq]
      omega

/-- Without a wrap-around, an unchanged counter means an unchanged registration. -/
theorem registration_of_counter (h : Inv s)
    (hpc : (PC.released e svc failed counter noted).Inv s.lock s.callbacks t)
    (hwrap : s.callbacks.changes svc < noted + 2 ^ 32)
    (heq : counter = s.callbacks.counter svc) :
    s.callbacks.registration svc = some failed := by
  obtain ⟨-, hcounter, hle, hreg⟩ := hpc
  refine hreg ?_
  rw [hcounter, h.counter svc] at heq
  have hmod := congrArg BitVec.toNat heq
  simp only [BitVec.toNat_ofNat] at hmod
  omega

theorem compare_inv (h : Inv s) (hl : s.lock.wrlock t = some lock)
    (hpc : (PC.released e svc failed counter noted).Inv s.lock s.callbacks t)
    (hwrap : s.callbacks.changes svc < noted + 2 ^ 32) :
    Inv { (compare s svc failed counter).goto t (.compared e) with lock } := by
  have hwrites : (PC.compared e).Inv lock s.callbacks t := ⟨hpc.1, RwLock.wrlock_writes hl⟩
  unfold compare
  split
  · rename_i heq
    have hreg := registration_of_counter h hpc hwrap heq
    refine ⟨counter_set h.counter svc _, ?_, fun d hd => ?_, fun q => ?_, fun q => ?_⟩
    · exact h.thread_set hl hwrites
    · rcases List.mem_append.mp hd with hd | hd
      · exact h.own d hd
      · rw [List.mem_singleton.mp hd]
        exact hreg
    · by_cases hq : q = svc
      · subst hq
        right
        rcases h.kept q with hk | ⟨r, hr, hmem⟩
        · refine ⟨failed, hk.symm.trans hreg, List.mem_append_right _ ?_⟩
          rw [hreg]
          exact List.mem_singleton_self _
        · exact ⟨r, hr, List.mem_append_left _ hmem⟩
      · rcases h.kept q with hk | ⟨r, hr, hmem⟩
        · left
          simpa [State.goto, Callbacks.set, hq] using hk
        · exact Or.inr ⟨r, hr, List.mem_append_left _ hmem⟩
    · have hbound := h.bound q
      by_cases hq : q = svc
      · subst hq
        rw [hreg] at hbound
        simpa [State.goto, Callbacks.set] using hbound
      · simpa [State.goto, Callbacks.set, hq] using hbound
  · exact h.goto_wrlock hl hwrites

theorem deliver_inv (h : Inv s) (hs : step s (.deliver t e svc) = some s') : Inv s' := by
  cases hpc : s.threads t <;> simp only [step, hpc] at hs <;> try cases hs
  cases e with
  | rdlock =>
    obtain ⟨lock, hl, rfl⟩ := Option.map_eq_some_iff.mp hs
    exact h.goto_rdlock hl (RwLock.rdlock_reads hl)
  | wrlock =>
    obtain ⟨lock, hl, rfl⟩ := Option.map_eq_some_iff.mp hs
    exact h.goto_wrlock hl (RwLock.wrlock_writes hl)
  | sendErrorResponse =>
    cases hs
    exact h.goto trivial (fun _ _ hr => hr) fun _ _ hw => hw

theorem call_inv {isOk : Bool} (h : Inv s) (hg : Guarded s (.call t isOk))
    (hs : step s (.call t isOk) = some s') : Inv s' := by
  cases hpc : s.threads t <;> simp only [step, hpc] at hs <;> try cases hs
  rename_i e svc
  have hheld := h.thread t
  rw [hpc] at hheld
  split at hs
  · rename_i failed hreg
    cases hs
    refine h.goto ⟨⟨?_, hheld⟩, hreg⟩ (fun _ _ hr => hr) fun _ _ hw => hw
    rintro rfl
    rcases hg svc hpc with hnone | hok
    · rw [hreg] at hnone
      cases hnone
    · cases hok
  · cases hs
    exact h.goto hheld (fun _ _ hr => hr) fun _ _ hw => hw

theorem leave_inv (h : Inv s) : Inv ((leave s t e).goto t .idle) := by
  cases e with
  | rdlock => exact h.goto_unlock trivial
  | wrlock => exact h.goto_unlock trivial
  | sendErrorResponse => exact h.goto trivial (fun _ _ hr => hr) fun _ _ hw => hw

theorem proceed_inv (h : Inv s) (hg : Guarded s (.proceed t))
    (hs : step s (.proceed t) = some s') : Inv s' := by
  have hthread := h.thread t
  cases hpc : s.threads t <;> rw [hpc] at hthread <;> simp only [step, hpc] at hs
  case idle => cases hs
  case calling => cases hs
  case registered =>
    cases hs
    exact h.goto_unlock trivial
  case checking e svc failed =>
    cases hs
    refine h.goto ⟨hthread.1, hthread.2, h.counter svc, rfl⟩ (fun _ _ hr => hr) fun _ _ hw => hw
  case counted e svc failed counter noted =>
    cases hs
    obtain ⟨hlocked, hreg, hcounter, hnoted⟩ := hthread
    exact h.goto_unlock ⟨hlocked.1, hcounter, Nat.le_of_eq hnoted, fun _ => hreg⟩
  case released e svc failed counter noted =>
    obtain ⟨lock, hl, rfl⟩ := Option.map_eq_some_iff.mp hs
    exact compare_inv h hl hthread (hg e svc failed counter noted hpc)
  case compared e =>
    cases hs
    exact h.goto_unlock hthread.1
  case reacquiring e =>
    obtain ⟨lock, hl, rfl⟩ := Option.map_eq_some_iff.mp hs
    exact h.goto_rdlock hl ⟨hthread, RwLock.rdlock_reads hl⟩
  case checked e =>
    cases hs
    exact leave_inv h
  case called e =>
    cases hs
    exact leave_inv h

theorem step_inv {a : Action} (h : Inv s) (hg : Guarded s a) (hs : step s a = some s') :
    Inv s' := by
  cases a with
  | setResponseFunctions t svc =>
    cases hpc : s.threads t <;> simp only [step, hpc] at hs <;> try cases hs
    obtain ⟨lock, hl, rfl⟩ := Option.map_eq_some_iff.mp hs
    exact setResponseFunctions_inv h hl
  | deliver t e svc => exact deliver_inv h hs
  | call t isOk => exact call_inv h hg hs
  | proceed t => exact proceed_inv h hg hs

theorem Inv.safe (h : Inv s) : Safe s := by
  refine ⟨h.own, h.kept, fun t ht => ?_⟩
  have hthread := h.thread t
  cases hpc : s.threads t <;> rw [hpc] at hthread ht <;> try cases ht
  case checking => exact hthread.1.holds
  case checked => exact Or.inl hthread.2

/-- Fewer than 2^31 registrations leave no room for a wrap-around. -/
theorem Inv.changes_lt (h : Inv s) (hmade : s.made < 2 ^ 31) :
    s.callbacks.changes svc < noted + 2 ^ 32 := by
  have := h.bound svc
  omega

/-- While no client call fails inside `sendErrorResponse` and no counter wraps around, every
registration is safe. -/
theorem registrations_safe {as : List Action} (hr : Machine.run step initial as = some s)
    (hok : Machine.Along step Guarded initial as) : Safe s :=
  (Machine.run_invariant_along (fun _ _ _ h hg hs => step_inv h hg hs) hr hok inv_initial).safe

theorem registrations_safe_failedIndication : ∃ s,
    s.cleared = [⟨.radio, 0, some 0⟩] ∧ Safe s := by
  have hrun : Machine.run step initial [.setResponseFunctions 0 .radio, .proceed 0,
      .deliver 1 .rdlock .radio, .call 1 false, .proceed 1, .proceed 1, .proceed 1] = some _ := rfl
  refine ⟨_, rfl, registrations_safe hrun ?_⟩
  refine Machine.along_cons rfl trivial (Machine.along_cons rfl ?_ ?_)
  · intro e svc failed counter noted hpc
    cases hpc
  · refine Machine.along_cons rfl trivial (Machine.along_cons rfl ?_ ?_)
    · intro svc hpc
      cases hpc
    · refine Machine.along_cons rfl ?_
        (Machine.along_cons rfl ?_ (Machine.along_cons rfl ?_ trivial))
      · intro e svc failed counter noted hpc
        cases hpc
      · intro e svc failed counter noted hpc
        cases hpc
      · intro e svc failed counter noted hpc
        cases hpc
        decide

/-- A call that fails inside `sendErrorResponse` enters `checkReturnStatus` without the lock, and
it clears the registration that another thread makes in the meantime. -/
theorem newer_registration_cleared :
    ¬ ∀ (as : List Action) (s : State), Machine.run step initial as = some s →
      s.made < 2 ^ 32 → Safe s := by
  intro h
  have hsafe := h [.setResponseFunctions 0 .radio, .proceed 0,
    .deliver 1 .sendErrorResponse .radio, .call 1 false, .setResponseFunctions 0 .radio,
    .proceed 0, .proceed 1, .proceed 1, .proceed 1] _ rfl (by decide)
  have := hsafe.own ⟨.radio, 0, some 1⟩ (by decide)
  cases this

end Apq8084.Ril.Registration
