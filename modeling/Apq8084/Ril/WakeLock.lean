import Apq8084.Lib.Machine
import Mathlib.Logic.Function.Basic

/-! The partial wake lock of the daemon, `grabPartialWakeLock`, `releaseWakeLock` and the wake
timers of `ril/libril/ril.cpp`. -/
namespace Apq8084.Ril.WakeLock

/-- What a queued wake timer points to; its `p_callback` is `wakeTimeoutCallback`. -/
structure UserCallbackInfo where
  /-- 0 is `NULL`. -/
  userParam : Nat
deriving DecidableEq

def UserCallbackInfo.Live (info : UserCallbackInfo) : Prop := info.userParam = 0

/-- The timer addresses are those of the `UserCallbackInfo`, which lives as long as the timer. -/
structure State where
  /-- The named kernel wake lock, which is not counted. -/
  held : Bool
  /-- `s_wakelock_count`. -/
  wakelockCount : Int
  /-- `s_last_wake_timeout_info`. -/
  lastWakeTimeoutInfo : Option Nat
  timers : Nat → Option UserCallbackInfo

def initial : State :=
  { held := false, wakelockCount := 0, lastWakeTimeoutInfo := none, timers := fun _ => none }

def State.acquireWakeLock (s : State) : State := { s with held := true }

def State.releaseKernelLock (s : State) : State := { s with held := false }

/-- `s_last_wake_timeout_info->userParam = (void *)1` where it is not `NULL`. -/
def State.cancelLast (s : State) : State :=
  match s.lastWakeTimeoutInfo with
  | none => s
  | some p =>
    { s with timers := Function.update s.timers p ((s.timers p).map fun _ => ⟨1⟩) }

/-- `calloc` is what the allocation returned. -/
def internalRequestTimedCallback (s : State) (calloc : Option Nat) (param : Nat) :
    Option Nat × State :=
  match calloc with
  | none => (none, s)
  | some p => (some p, { s with timers := Function.update s.timers p (some ⟨param⟩) })

section version

variable (version : Int)

def grabPartialWakeLock (s : State) (calloc : Option Nat) : State :=
  if 13 ≤ version then
    match internalRequestTimedCallback s.acquireWakeLock calloc 0 with
    | (none, s) => s.releaseKernelLock
    | (some p, s) =>
      { { s with wakelockCount := s.wakelockCount + 1 }.cancelLast with
        lastWakeTimeoutInfo := some p }
  else s.acquireWakeLock

def releaseWakeLock (s : State) : State :=
  if 13 ≤ version then
    if 1 < s.wakelockCount then { s with wakelockCount := s.wakelockCount - 1 }
    else { s with wakelockCount := 0 }.releaseKernelLock.cancelLast
  else s.releaseKernelLock

def wakeTimeoutCallback (s : State) (param : Nat) : State :=
  if 13 ≤ version then
    if param = 0 then { s with wakelockCount := 0 }.releaseKernelLock else s
  else if param = 0 then releaseWakeLock version s else s

/-- The queued timer `p` fires, is forgotten and freed. -/
def userTimerCallback (s : State) (p : Nat) (info : UserCallbackInfo) : State :=
  let s := wakeTimeoutCallback version s info.userParam
  { s with
    lastWakeTimeoutInfo :=
      if s.lastWakeTimeoutInfo = some p then none else s.lastWakeTimeoutInfo
    timers := Function.update s.timers p none }

inductive Action where
  | grabPartialWakeLock (calloc : Option Nat)
  | releaseWakeLock
  | userTimerCallback (p : Nat)

/-- An allocation does not return what is in use, and only a queued timer expires. -/
def step (s : State) : Action → Option State
  | .grabPartialWakeLock none => some (grabPartialWakeLock version s none)
  | .grabPartialWakeLock (some p) =>
    match s.timers p with
    | none => some (grabPartialWakeLock version s (some p))
    | some _ => none
  | .releaseWakeLock => some (releaseWakeLock version s)
  | .userTimerCallback p => (s.timers p).map (userTimerCallback version s p)

end version

def Action.Allocates : Action → Prop
  | .grabPartialWakeLock calloc => calloc ≠ none
  | _ => True

/-- The queued timers that are not cancelled. -/
def State.LiveTimer (s : State) (p : Nat) : Prop := ∃ info, s.timers p = some info ∧ info.Live

/-- How the lock, the counter, the timers and the pointer belong together. -/
structure Inv (s : State) : Prop where
  count_nonneg : 0 ≤ s.wakelockCount
  held_iff : s.held = true ↔ 0 < s.wakelockCount
  last_live : s.held = true → ∃ p, s.lastWakeTimeoutInfo = some p ∧ s.LiveTimer p
  live_last : ∀ p, s.LiveTimer p → s.held = true ∧ s.lastWakeTimeoutInfo = some p
  last_queued : ∀ p, s.lastWakeTimeoutInfo = some p → s.timers p ≠ none

variable {version : Int} {s t : State} {p q : Nat} {info : UserCallbackInfo}

@[simp] theorem cancelLast_held : s.cancelLast.held = s.held := by
  unfold State.cancelLast
  split <;> rfl

@[simp] theorem cancelLast_count : s.cancelLast.wakelockCount = s.wakelockCount := by
  unfold State.cancelLast
  split <;> rfl

@[simp] theorem cancelLast_last : s.cancelLast.lastWakeTimeoutInfo = s.lastWakeTimeoutInfo := by
  unfold State.cancelLast
  split <;> rfl

/-- A timer is live after the cancellation if it was before and is not the last one. -/
theorem cancelLast_live :
    s.cancelLast.LiveTimer q ↔ s.LiveTimer q ∧ s.lastWakeTimeoutInfo ≠ some q := by
  unfold State.cancelLast State.LiveTimer
  cases hlast : s.lastWakeTimeoutInfo with
  | none => simp
  | some p =>
    by_cases hq : q = p
    · subst q
      simp [UserCallbackInfo.Live]
    · have hne : p ≠ q := fun h => hq h.symm
      simp [hq, hne]

theorem cancelLast_queued : s.cancelLast.timers q ≠ none ↔ s.timers q ≠ none := by
  unfold State.cancelLast
  cases hlast : s.lastWakeTimeoutInfo with
  | none => rfl
  | some p =>
    by_cases hq : q = p
    · subst q
      simp
    · simp [hq]

theorem inv_initial : Inv initial := by
  refine ⟨by decide, by decide, ?_, ?_, ?_⟩
  · intro h
    cases h
  · rintro p ⟨info, hinfo, -⟩
    cases hinfo
  · intro p h
    cases h

/-- With the lock dropped and the last timer cancelled no timer is live. -/
theorem inv_dropped (hs : Inv s) (hheld : t.held = false) (hcount : t.wakelockCount = 0)
    (hlive : ∀ q, t.LiveTimer q → s.LiveTimer q ∧ s.lastWakeTimeoutInfo ≠ some q)
    (hqueued : ∀ q, t.lastWakeTimeoutInfo = some q → t.timers q ≠ none) : Inv t := by
  refine ⟨by omega, by simp [hheld, hcount], ?_, ?_, hqueued⟩
  · intro h
    rw [hheld] at h
    cases h
  · intro q hq
    obtain ⟨hq, hne⟩ := hlive q hq
    exact absurd (hs.live_last q hq).2 hne

/-- The new timer is the only one that is live: the last one was cancelled. -/
theorem inv_grab (hv : 13 ≤ version) (hp : s.timers p = none) (hs : Inv s) :
    Inv (grabPartialWakeLock version s (some p)) := by
  have hnonneg := hs.count_nonneg
  have hlast : s.lastWakeTimeoutInfo ≠ some p := fun h => hs.last_queued p h hp
  let u : State :=
    { s with
      held := true, wakelockCount := s.wakelockCount + 1
      timers := Function.update s.timers p (some ⟨0⟩) }
  have hgrab : grabPartialWakeLock version s (some p) =
      { u.cancelLast with lastWakeTimeoutInfo := some p } := by
    unfold grabPartialWakeLock
    rw [if_pos hv]
    rfl
  have hlive : ∀ q, { u.cancelLast with lastWakeTimeoutInfo := some p : State }.LiveTimer q ↔
      u.LiveTimer q ∧ s.lastWakeTimeoutInfo ≠ some q := fun q => cancelLast_live
  have hp : u.LiveTimer p := ⟨⟨0⟩, Function.update_self .., rfl⟩
  rw [hgrab]
  refine ⟨?_, ?_, ?_, ?_, ?_⟩
  · show 0 ≤ u.cancelLast.wakelockCount
    rw [cancelLast_count]
    exact Int.le_add_one hnonneg
  · show u.cancelLast.held = true ↔ 0 < u.cancelLast.wakelockCount
    rw [cancelLast_held, cancelLast_count]
    exact iff_of_true rfl (Int.lt_add_one_of_le hnonneg)
  · intro _
    exact ⟨p, rfl, (hlive p).mpr ⟨hp, hlast⟩⟩
  · intro q hq
    refine ⟨cancelLast_held.trans rfl, ?_⟩
    obtain ⟨⟨info, hinfo, hzero⟩, hne⟩ := (hlive q).mp hq
    by_cases h : q = p
    · rw [h]
    · -- a timer that was live already is the last one, which is cancelled
      have hinfo : s.timers q = some info := by
        rw [← hinfo]
        exact (Function.update_of_ne h _ _).symm
      exact absurd (hs.live_last q ⟨info, hinfo, hzero⟩).2 hne
  · intro q hq
    cases hq
    apply cancelLast_queued.mpr
    simp [u]

theorem inv_release (hv : 13 ≤ version) (hs : Inv s) : Inv (releaseWakeLock version s) := by
  unfold releaseWakeLock
  rw [if_pos hv]
  split
  case isTrue hcount =>
    refine ⟨?_, ?_, hs.last_live, hs.live_last, hs.last_queued⟩
    · show 0 ≤ s.wakelockCount - 1
      omega
    · show s.held = true ↔ 0 < s.wakelockCount - 1
      rw [hs.held_iff]
      omega
  case isFalse hcount =>
    let u : State := { s with wakelockCount := 0 }.releaseKernelLock
    apply inv_dropped hs
    · exact cancelLast_held (s := u)
    · exact cancelLast_count (s := u)
    · intro q hq
      exact (cancelLast_live (s := u)).mp hq
    · intro q hq
      apply (cancelLast_queued (s := u)).mpr
      exact hs.last_queued q ((cancelLast_last (s := u)).symm.trans hq)

/-- A cancelled timer that fires changes only the pointer to it. -/
theorem inv_fire_cancelled (hp : ¬s.LiveTimer p) (hs : Inv s) :
    Inv { s with
      lastWakeTimeoutInfo :=
        if s.lastWakeTimeoutInfo = some p then none else s.lastWakeTimeoutInfo
      timers := Function.update s.timers p none } := by
  refine ⟨hs.count_nonneg, hs.held_iff, ?_, ?_, ?_⟩
  · intro hheld
    obtain ⟨q, hlast, hq⟩ := hs.last_live hheld
    have hne : q ≠ p := fun h => hp (h ▸ hq)
    refine ⟨q, ?_, ?_⟩
    · show (if s.lastWakeTimeoutInfo = some p then none else s.lastWakeTimeoutInfo) = some q
      rw [hlast, if_neg]
      simpa using hne
    · obtain ⟨info, hinfo, hzero⟩ := hq
      exact ⟨info, (Function.update_of_ne hne _ _).trans hinfo, hzero⟩
  · rintro q ⟨info, hinfo, hzero⟩
    have hne : q ≠ p := by
      intro h
      subst q
      simp at hinfo
    have hinfo : s.timers q = some info := (Function.update_of_ne hne _ _).symm.trans hinfo
    obtain ⟨hheld, hlast⟩ := hs.live_last q ⟨info, hinfo, hzero⟩
    refine ⟨hheld, ?_⟩
    show (if s.lastWakeTimeoutInfo = some p then none else s.lastWakeTimeoutInfo) = some q
    rw [hlast, if_neg]
    simpa using hne
  · intro q hq
    have hq : (if s.lastWakeTimeoutInfo = some p then none else s.lastWakeTimeoutInfo) =
      some q := hq
    split at hq
    · cases hq
    · rename_i hne
      have hqp : q ≠ p := by
        intro h
        subst q
        exact hne hq
      show Function.update s.timers p none q ≠ none
      rw [Function.update_of_ne hqp]
      exact hs.last_queued q hq

/-- The live timer is the last one: when it fires no other is live and no pointer is left. -/
theorem inv_fire_live (hp : s.LiveTimer p) (hs : Inv s) :
    Inv { s with
      held := false, wakelockCount := 0
      lastWakeTimeoutInfo :=
        if s.lastWakeTimeoutInfo = some p then none else s.lastWakeTimeoutInfo
      timers := Function.update s.timers p none } := by
  have hlast := (hs.live_last p hp).2
  apply inv_dropped hs
  · rfl
  · rfl
  · rintro q ⟨info, hinfo, hzero⟩
    have hne : q ≠ p := by
      intro h
      subst q
      simp at hinfo
    refine ⟨⟨info, (Function.update_of_ne hne _ _).symm.trans hinfo, hzero⟩, ?_⟩
    rw [hlast]
    simpa using hne.symm
  · intro q hq
    have hq : (if s.lastWakeTimeoutInfo = some p then none else s.lastWakeTimeoutInfo) =
      some q := hq
    rw [if_pos hlast] at hq
    cases hq

theorem inv_fire (hv : 13 ≤ version) (hp : s.timers p = some info) (hs : Inv s) :
    Inv (userTimerCallback version s p info) := by
  unfold userTimerCallback wakeTimeoutCallback
  rw [if_pos hv]
  by_cases hzero : info.userParam = 0
  · rw [if_pos hzero]
    have hlive : s.LiveTimer p := ⟨info, hp, hzero⟩
    exact inv_fire_live (s := s) hlive hs
  · rw [if_neg hzero]
    apply inv_fire_cancelled _ hs
    rintro ⟨info', hinfo', hlive⟩
    rw [hp] at hinfo'
    cases hinfo'
    exact hzero hlive

theorem inv_step (hv : 13 ≤ version) {a : Action} (ha : a.Allocates) (hs : Inv s)
    (h : step version s a = some t) : Inv t := by
  cases a with
  | grabPartialWakeLock calloc =>
    cases calloc with
    | none => exact absurd rfl ha
    | some p =>
      cases hp : s.timers p with
      | none =>
        simp only [step, hp, Option.some.injEq] at h
        rw [← h]
        exact inv_grab hv hp hs
      | some info => simp [step, hp] at h
  | releaseWakeLock =>
    cases h
    exact inv_release hv hs
  | userTimerCallback p =>
    obtain ⟨info, hp, ht⟩ := Option.map_eq_some_iff.mp h
    rw [← ht]
    exact inv_fire hv hp hs

theorem inv_reaches (hv : 13 ≤ version)
    (h : Machine.Reaches (step version) Action.Allocates initial t) : Inv t := by
  apply h.invariant _ inv_initial
  intro s a t hs ha ht
  exact inv_step hv ha hs ht

/-- The lock is held exactly while requests are counted, and then exactly one queued timer, the
last one, will drop it. -/
theorem wake_lock_has_one_timer (hv : 13 ≤ version)
    (h : Machine.Reaches (step version) Action.Allocates initial t) :
    (t.held = true ↔ 0 < t.wakelockCount) ∧
    (t.held = true → ∃ p, t.lastWakeTimeoutInfo = some p ∧ ∀ q, t.LiveTimer q ↔ q = p) ∧
    (t.held = false → ∀ q info, t.timers q = some info → info.userParam ≠ 0) ∧
    ∀ p, t.lastWakeTimeoutInfo = some p → t.timers p ≠ none := by
  have ht := inv_reaches hv h
  refine ⟨ht.held_iff, ?_, ?_, ht.last_queued⟩
  · intro hheld
    obtain ⟨p, hlast, hp⟩ := ht.last_live hheld
    refine ⟨p, hlast, fun q => ⟨?_, ?_⟩⟩
    · intro hq
      have := (ht.live_last q hq).2
      rw [hlast] at this
      cases this
      rfl
    · intro hq
      rw [hq]
      exact hp
  · intro hheld q info hinfo hzero
    have := (ht.live_last q ⟨info, hinfo, hzero⟩).1
    rw [hheld] at this
    cases this

/-- Two requests, three acknowledgements, a request, and the first, cancelled timer fires. -/
theorem wake_lock_has_one_timer_late :
    ∃ t, Machine.run (step 13) initial
        [.grabPartialWakeLock (some 7), .grabPartialWakeLock (some 8), .releaseWakeLock,
          .releaseWakeLock, .releaseWakeLock, .grabPartialWakeLock (some 9),
          .userTimerCallback 7] = some t ∧
      t.timers 8 = some ⟨1⟩ ∧ (t.held = true ↔ 0 < t.wakelockCount) := by
  refine ⟨_, rfl, rfl, ?_⟩
  have hv : (13 : Int) ≤ 13 := by decide
  apply (wake_lock_has_one_timer hv _).1
  refine ⟨[.grabPartialWakeLock (some 7), .grabPartialWakeLock (some 8), .releaseWakeLock,
    .releaseWakeLock, .releaseWakeLock, .grabPartialWakeLock (some 9),
    .userTimerCallback 7], ?_, rfl⟩
  simp [Action.Allocates]

end Apq8084.Ril.WakeLock
