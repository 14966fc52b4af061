import Apq8084.Ril.EventWatch

/-! The thread of the event loop (`eventLoop` of `ril.cpp` and `ril_event_loop`), the thread that
starts it (`RIL_startEventLoop`), and any number of other threads, which add events and timers and
then write a byte to the wakeup pipe (`triggerEvLoop`). -/
namespace Apq8084.Ril.EventLoop

open EventWatch (Events Watched WellFormed FD_SETSIZE)

/-- The bytes that fit into a pipe. -/
def PIPE_CAPACITY : Nat := 65536

/-- Where `RIL_startEventLoop` is, once it has created the thread. -/
inductive Main where
  /-- It holds `s_startupMutex`. -/
  | locked
  /-- It waits on `s_startupCond`. -/
  | asleep
  | woken
  | returned
deriving DecidableEq

/-- Where the thread of the event loop is. -/
inductive Loop where
  | created
  /-- `ril_event_init` was called. -/
  | initialised
  /-- `s_started` is set, and the waiting thread was woken. -/
  | started
  /-- The wakeup pipe exists. -/
  | piped
  | top
  /-- `readFds` was copied. -/
  | copied (rfds : Nat → Bool)
  /-- `calcNextTimeout` has answered; `now` is what it read from the clock, in microseconds. -/
  | timed (rfds : Nat → Bool) (ptv : Option Int) (now : Int)
  /-- It waits in `select`. -/
  | selecting (rfds : Nat → Bool) (nfds : Nat) (ptv : Option Int) (now : Int)
  | selected (rfds : Nat → Bool) (n : Int)
  | timedOut (rfds : Nat → Bool) (n : Int)
  | ready
  /-- The callbacks of `firePending` run. -/
  | firing

structure State (ι : Type) where
  main : Main
  loop : Loop
  s_started : Bool
  events : EventWatch.State ι
  /-- The timeouts in `timer_list`, in microseconds. -/
  timers : List Int
  /-- The bytes in the wakeup pipe, if it exists. -/
  wakeup : Option Nat
  /-- The threads that have changed the lists and not yet called `triggerEvLoop`. -/
  owes : Nat → Bool

inductive Action (ι : Type) where
  /-- `RIL_startEventLoop` looks at `s_started`. -/
  | waitStarted
  | spuriousMain
  | init
  | start
  | pipe
  | addWakeup
  | copy
  | calcNextTimeout (now : Int)
  | select
  | selectReturns (readies : List Nat)
  | interrupted
  | processTimeouts (now : Int)
  | processReadReadies
  | firePending
  /-- A callback adds or removes an event, or adds a timer. -/
  | callbackAdd (ev : ι)
  | callbackDel (ev : ι)
  | callbackTimer (timeout : Int)
  | fired
  /-- Thread `k` does so. -/
  | add (k : Nat) (ev : ι)
  | del (k : Nat) (ev : ι)
  | addTimer (k : Nat) (timeout : Int)
  | triggerEvLoop (k : Nat)

/-- `RIL_startEventLoop` has the mutex and has created the thread. -/
def initial {ι : Type} : State ι :=
  { main := .locked, loop := .created, s_started := false, events := EventWatch.ril_event_init
    timers := [], wakeup := none, owes := fun _ => false }

/-- `ril_timer_add` behind the timers that are earlier. -/
def insertTimer (timeout : Int) (timers : List Int) : List Int :=
  timers.takeWhile (· < timeout) ++ timeout :: timers.dropWhile (· < timeout)

/-- The answer `none` stands for -1. -/
def nextTimeout (timers : List Int) (now : Int) : Option Int :=
  timers.head?.map fun timeout => if now < timeout then timeout - now else 0

variable {ι : Type} [DecidableEq ι] (E : Events ι) (wake : ι)

/-- What a call of `ril_event_add`, `ril_event_del` or `ril_timer_add` writes. The wakeup event is
never removed, and nothing that is watched is added. -/
def addEvent (s : State ι) (ev : ι) : Option (State ι) :=
  if ev = wake then none
  else (EventWatch.step E s.events (.ril_event_add ev)).map fun w => { s with events := w }

def delEvent (s : State ι) (ev : ι) : Option (State ι) :=
  if ev = wake then none
  else (EventWatch.step E s.events (.ril_event_del ev)).map fun w => { s with events := w }

def addTimer (s : State ι) (timeout : Int) : State ι :=
  { s with timers := insertTimer timeout s.timers }

/-- Thread `k` has changed the lists. -/
def owe (k : Nat) (s : State ι) : State ι := { s with owes := Function.update s.owes k true }

/-- The fds that `select` may report: readable ones among those it watches. -/
def Reports (s : State ι) (rfds : Nat → Bool) (nfds : Nat) (readies : List Nat) : Prop :=
  readies.Nodup ∧
    ∀ fd ∈ readies, rfds fd = true ∧ fd < nfds ∧ (fd = E.fd wake → s.wakeup ≠ some 0)

instance (s : State ι) (rfds : Nat → Bool) (nfds : Nat) (readies : List Nat) :
    Decidable (Reports E wake s rfds nfds readies) :=
  inferInstanceAs (Decidable (_ ∧ _))

/-- The steps of the thread of the event loop. -/
def loopStep (s : State ι) : Action ι → Option (State ι)
  | .init =>
    match s.loop with
    | .created =>
      some { s with loop := .initialised, events := EventWatch.ril_event_init, timers := [] }
    | _ => none
  | .start =>
    match s.loop with
    | .initialised =>
      -- the mutex is free as soon as the other thread waits
      if s.main = .locked then none
      else some { s with loop := .started, s_started := true, main := .woken }
    | _ => none
  | .pipe =>
    match s.loop with
    | .started => some { s with loop := .piped, wakeup := some 0 }
    | _ => none
  | .addWakeup =>
    match s.loop with
    | .piped => some { s with loop := .top, events := EventWatch.ril_event_add E s.events wake }
    | _ => none
  | .copy =>
    match s.loop with
    | .top => some { s with loop := .copied s.events.readFds }
    | _ => none
  | .calcNextTimeout now =>
    match s.loop with
    | .copied rfds => some { s with loop := .timed rfds (nextTimeout s.timers now) now }
    | _ => none
  | .select =>
    match s.loop with
    | .timed rfds ptv now => some { s with loop := .selecting rfds s.events.nfds ptv now }
    | _ => none
  | .selectReturns readies =>
    match s.loop with
    | .selecting rfds nfds ptv _ =>
      if Reports E wake s rfds nfds readies ∧ (readies ≠ [] ∨ ptv.isSome) then
        some { s with loop := .selected (fun fd => decide (fd ∈ readies)) readies.length }
      else none
    | _ => none
  | .interrupted =>
    match s.loop with
    | .selecting .. => some { s with loop := .top }
    | _ => none
  | .processTimeouts now =>
    match s.loop with
    | .selected rfds n =>
      some { s with loop := .timedOut rfds n, timers := s.timers.dropWhile (· < now) }
    | _ => none
  | .processReadReadies =>
    match s.loop with
    | .timedOut rfds n =>
      some { s with loop := .ready, events := EventWatch.processReadReadies E s.events rfds n }
    | _ => none
  | .firePending =>
    match s.loop with
    | .ready =>
      some { s with
        loop := .firing
        events := { s.events with pending := [] }
        -- `processWakeupCallback` reads until the pipe is empty
        wakeup := if wake ∈ s.events.pending then some 0 else s.wakeup }
    | _ => none
  | .callbackAdd ev =>
    match s.loop with
    | .firing => addEvent E wake s ev
    | _ => none
  | .callbackDel ev =>
    match s.loop with
    | .firing => delEvent E wake s ev
    | _ => none
  | .callbackTimer timeout =>
    match s.loop with
    | .firing => some (addTimer s timeout)
    | _ => none
  | .fired =>
    match s.loop with
    | .firing => some { s with loop := .top }
    | _ => none
  | _ => none

/-- The steps of the other threads. -/
def threadStep (s : State ι) : Action ι → Option (State ι)
  | .waitStarted =>
    match s.main with
    | .locked | .woken =>
      some { s with main := if s.s_started then .returned else .asleep }
    | _ => none
  | .spuriousMain =>
    match s.main with
    | .asleep => some { s with main := .woken }
    | _ => none
  | .add k ev =>
    if s.main = .returned ∧ s.owes k = false then (addEvent E wake s ev).map (owe k) else none
  | .del k ev =>
    if s.main = .returned ∧ s.owes k = false then delEvent E wake s ev else none
  | .addTimer k timeout =>
    if s.main = .returned ∧ s.owes k = false then some (owe k (addTimer s timeout)) else none
  | .triggerEvLoop k =>
    if s.owes k = true then
      match s.wakeup with
      -- `s_fdWakeupWrite` is still 0
      | none => some { s with owes := Function.update s.owes k false }
      | some bytes =>
        if bytes < PIPE_CAPACITY then
          some { s with owes := Function.update s.owes k false, wakeup := some (bytes + 1) }
        else none
    else none
  | _ => none

def step (s : State ι) (a : Action ι) : Option (State ι) :=
  (loopStep E wake s a).or (threadStep E wake s a)

omit [DecidableEq ι]

/-! What holds between any two steps. -/

/-- `s_started` is not set yet. -/
def Loop.early : Loop → Bool
  | .created | .initialised => true
  | _ => false

/-- The wakeup pipe does not exist yet. -/
def Loop.pipeless : Loop → Bool
  | .created | .initialised | .started => true
  | _ => false

/-- The wakeup event was not added yet. -/
def Loop.unwatched : Loop → Bool
  | .created | .initialised | .started | .piped => true
  | _ => false

/-- The pipe is not empty, or somebody will write to it. -/
def Dirty (s : State ι) : Prop :=
  (∃ k, s.owes k = true) ∨ ∃ bytes, s.wakeup = some (bytes + 1)

/-- The copy has the wakeup event and, with a clean pipe, all others. -/
structure Covers (E : Events ι) (wake : ι) (s : State ι) (P : Nat → Prop) : Prop where
  wakeup : Watched s.events wake → P (E.fd wake)
  events : ¬Dirty s → ∀ ev, Watched s.events ev → P (E.fd ev)

/-- With a clean pipe no timer is due before `select` gives up. -/
def Timely (s : State ι) (ptv : Option Int) (now : Int) : Prop :=
  ¬Dirty s → ∀ timeout ∈ s.timers, ∃ tv, ptv = some tv ∧ (tv ≤ timeout - now ∨ tv = 0)

/-- What the thread of the event loop has read from the lists is up to date, or it will be woken. -/
def Fresh (E : Events ι) (wake : ι) (s : State ι) : Prop :=
  match s.loop with
  | .copied rfds => Covers E wake s fun fd => rfds fd = true
  | .timed rfds ptv now => Covers E wake s (fun fd => rfds fd = true) ∧ Timely s ptv now
  | .selecting rfds nfds ptv now =>
    Covers E wake s (fun fd => rfds fd = true) ∧ Timely s ptv now ∧
      Covers E wake s fun fd => fd < nfds
  | _ => True

structure Inv (E : Events ι) (wake : ι) (s : State ι) : Prop where
  wellFormed : WellFormed E s.events
  sorted : s.timers.Pairwise (· ≤ ·)
  started_iff : s.s_started = true ↔ s.loop.early = false
  asleep : s.main = .asleep → s.s_started = false
  returned : s.main = .returned → s.s_started = true
  pipe : s.wakeup = none ↔ s.loop.pipeless = true
  unwatched : s.loop.unwatched = true → ¬Watched s.events wake
  fresh : Fresh E wake s

variable {E wake} {s t : State ι} {ev rev : ι} {k : Nat}

theorem mem_insertTimer {timeout x : Int} {timers : List Int} :
    x ∈ insertTimer timeout timers ↔ x = timeout ∨ x ∈ timers := by
  have hsplit := List.takeWhile_append_dropWhile (p := (· < timeout)) (l := timers)
  conv_rhs => rw [← hsplit]
  simp only [insertTimer, List.mem_append, List.mem_cons]
  tauto

theorem insertTimer_sorted {timeout : Int} {timers : List Int} (h : timers.Pairwise (· ≤ ·)) :
    (insertTimer timeout timers).Pairwise (· ≤ ·) := by
  induction timers with
  | nil => exact List.pairwise_singleton _ _
  | cons x timers ih =>
    obtain ⟨hx, hrest⟩ := List.pairwise_cons.mp h
    by_cases hlt : x < timeout
    · have hcons : insertTimer timeout (x :: timers) = x :: insertTimer timeout timers := by
        simp [insertTimer, hlt]
      rw [hcons]
      refine List.pairwise_cons.mpr ⟨fun y hy => ?_, ih hrest⟩
      rcases mem_insertTimer.mp hy with rfl | hy
      · exact Int.le_of_lt hlt
      · exact hx y hy
    · have hcons : insertTimer timeout (x :: timers) = timeout :: x :: timers := by
        simp [insertTimer, hlt]
      rw [hcons]
      refine List.pairwise_cons.mpr ⟨fun y hy => ?_, h⟩
      rcases List.mem_cons.mp hy with rfl | hy
      · omega
      · have := hx y hy
        omega

/-- The first timer is the earliest. -/
theorem nextTimeout_timely {timers : List Int} {now : Int} (h : timers.Pairwise (· ≤ ·)) :
    ∀ timeout ∈ timers, ∃ tv, nextTimeout timers now = some tv ∧ (tv ≤ timeout - now ∨ tv = 0) := by
  cases timers with
  | nil => exact fun _ hmem => absurd hmem List.not_mem_nil
  | cons x timers =>
    obtain ⟨hx, -⟩ := List.pairwise_cons.mp h
    intro timeout hmem
    have hle : x ≤ timeout := by
      rcases List.mem_cons.mp hmem with rfl | hmem
      · exact Int.le_refl _
      · exact hx timeout hmem
    by_cases hlt : now < x
    · exact ⟨x - now, congrArg some (if_pos hlt), .inl (by omega)⟩
    · exact ⟨0, congrArg some (if_neg hlt), .inr rfl⟩

theorem Covers.mono {P : Nat → Prop} (h : Covers E wake s P) (hdirty : Dirty s → Dirty t)
    (hwake : Watched t.events wake → Watched s.events wake)
    (hevents : ¬Dirty t → ∀ ev, Watched t.events ev → Watched s.events ev) :
    Covers E wake t P where
  wakeup := fun hw => h.wakeup (hwake hw)
  events := fun hclean ev hev =>
    h.events (fun hs => hclean (hdirty hs)) ev (hevents hclean ev hev)

/-- A change that the loop will be told of, or that takes away only. -/
theorem Fresh.mono (h : Fresh E wake s) (hloop : t.loop = s.loop) (hdirty : Dirty s → Dirty t)
    (hwake : Watched t.events wake → Watched s.events wake)
    (hevents : ¬Dirty t → ∀ ev, Watched t.events ev → Watched s.events ev)
    (htimers : ¬Dirty t → ∀ timeout ∈ t.timers, timeout ∈ s.timers) : Fresh E wake t := by
  have htimely : ∀ ptv now, Timely s ptv now → Timely t ptv now := by
    intro ptv now ht hclean timeout hmem
    exact ht (fun hs => hclean (hdirty hs)) timeout (htimers hclean timeout hmem)
  unfold Fresh at h ⊢
  rw [hloop]
  cases hl : s.loop with
  | copied rfds =>
    rw [hl] at h
    exact h.mono hdirty hwake hevents
  | timed rfds ptv now =>
    rw [hl] at h
    exact ⟨h.1.mono hdirty hwake hevents, htimely _ _ h.2⟩
  | selecting rfds nfds ptv now =>
    rw [hl] at h
    exact ⟨h.1.mono hdirty hwake hevents, htimely _ _ h.2.1, h.2.2.mono hdirty hwake hevents⟩
  | created | initialised | started | piped | top | selected | timedOut | ready | firing => trivial

theorem inv_initial : Inv E wake initial where
  wellFormed := EventWatch.wellFormed_init
  sorted := List.Pairwise.nil
  started_iff := by simp [initial, Loop.early]
  asleep := nofun
  returned := nofun
  pipe := by simp [initial, Loop.pipeless]
  unwatched := by
    rintro - ⟨i, hi⟩
    cases hi
  fresh := trivial

/-- A thread that has changed the lists keeps the loop informed. -/
theorem inv_owe {events : EventWatch.State ι} {timers : List Int} (h : Inv E wake s)
    (hw : WellFormed E events) (hsorted : timers.Pairwise (· ≤ ·))
    (hwake : Watched events wake → Watched s.events wake) :
    Inv E wake (owe k { s with events := events, timers := timers }) := by
  have hdirty : Dirty (owe k { s with events := events, timers := timers }) :=
    .inl ⟨k, Function.update_self ..⟩
  exact ⟨hw, hsorted, h.started_iff, h.asleep, h.returned, h.pipe,
    fun hl hw => h.unwatched hl (hwake hw),
    h.fresh.mono rfl (fun _ => hdirty) hwake (fun hclean => absurd hdirty hclean)
      fun hclean => absurd hdirty hclean⟩

theorem inv_main {m : Main} (h : Inv E wake s) (hasleep : m = .asleep → s.s_started = false)
    (hreturned : m = .returned → s.s_started = true) : Inv E wake { s with main := m } :=
  ⟨h.wellFormed, h.sorted, h.started_iff, hasleep, hreturned, h.pipe, h.unwatched,
    h.fresh.mono rfl id id (fun _ _ => id) fun _ _ => id⟩

theorem inv_trigger {bytes : Option Nat} (h : Inv E wake s)
    (hbytes : bytes = none ∧ s.wakeup = none ∨ ∃ n, bytes = some (n + 1) ∧ s.wakeup ≠ none) :
    Inv E wake { s with owes := Function.update s.owes k false, wakeup := bytes } := by
  obtain ⟨rfl, hnone⟩ | ⟨n, rfl, hsome⟩ := hbytes
  · -- nobody waits yet
    have hearly := h.pipe.mp hnone
    refine ⟨h.wellFormed, h.sorted, h.started_iff, h.asleep, h.returned, ?_, h.unwatched, ?_⟩
    · exact ⟨fun _ => hearly, fun _ => rfl⟩
    · unfold Fresh
      cases hl : s.loop with
      | created | initialised | started => trivial
      | piped | top | copied | timed | selecting | selected | timedOut | ready | firing =>
        rw [hl] at hearly
        cases hearly
  · have hdirty : Dirty { s with owes := Function.update s.owes k false, wakeup := some (n + 1) } :=
      .inr ⟨n, rfl⟩
    refine ⟨h.wellFormed, h.sorted, h.started_iff, h.asleep, h.returned, ?_, h.unwatched, ?_⟩
    · exact ⟨nofun, fun hl => absurd (h.pipe.mpr hl) hsome⟩
    · exact h.fresh.mono rfl (fun _ => hdirty) id (fun hclean => absurd hdirty hclean)
        fun hclean => absurd hdirty hclean

/-- Past the start only the place in the loop changes, and what the loop took from the lists. -/
theorem Inv.loop_of {loop : Loop} {timers : List Int} {events : EventWatch.State ι}
    (h : Inv E wake s) (hpast : s.loop.unwatched = false) (hpast' : loop.unwatched = false)
    (hw : WellFormed E events) (hsorted : timers.Pairwise (· ≤ ·)) {wakeup : Option Nat}
    (hwakeup : wakeup = none ↔ s.wakeup = none)
    (hfresh : Fresh E wake
      { s with loop := loop, timers := timers, events := events, wakeup := wakeup }) :
    Inv E wake { s with loop := loop, timers := timers, events := events, wakeup := wakeup } := by
  have hearly : ∀ l : Loop, l.unwatched = false → l.early = false ∧ l.pipeless = false := by
    intro l hl
    cases l with
    | created | initialised | started | piped => cases hl
    | top | copied | timed | selecting | selected | timedOut | ready | firing => exact ⟨rfl, rfl⟩
  refine ⟨hw, hsorted, ?_, h.asleep, h.returned, ?_, ?_, hfresh⟩
  · rw [h.started_iff, (hearly _ hpast).1, (hearly _ hpast').1]
  · rw [hwakeup, h.pipe, (hearly _ hpast).2, (hearly _ hpast').2]
  · intro hl
    rw [hpast'] at hl
    cases hl

variable [DecidableEq ι]

/-! The other threads. -/

theorem watched_of_add {w : EventWatch.State ι} (hfds : ∀ ev, E.fd ev < FD_SETSIZE)
    (h : Watched (EventWatch.ril_event_add E w ev) rev) : rev = ev ∨ Watched w rev := by
  cases hfree : EventWatch.firstFree w with
  | none =>
    rw [EventWatch.add_full hfree] at h
    exact .inr h
  | some i => exact (EventWatch.watched_add hfree (hfds ev)).mp h

theorem watched_del_iff {w : EventWatch.State ι} (hw : WellFormed E w) :
    Watched (EventWatch.ril_event_del E w ev) rev ↔ Watched w rev ∧ rev ≠ ev := by
  obtain ⟨hnot, heq⟩ | ⟨i, hi, heq⟩ := EventWatch.del_cases hw ev
  · rw [heq]
    refine ⟨fun h => ⟨h, ?_⟩, fun h => h.1⟩
    rintro rfl
    exact hnot h
  · rw [heq]
    exact EventWatch.watched_removeWatch hw hi

theorem addEvent_some (h : addEvent E wake s ev = some t) :
    ev ≠ wake ∧ ¬Watched s.events ev ∧
      t = { s with events := EventWatch.ril_event_add E s.events ev } := by
  unfold addEvent at h
  split at h
  · cases h
  · rename_i hne
    obtain ⟨events, hevents, rfl⟩ := Option.map_eq_some_iff.mp h
    simp only [EventWatch.step] at hevents
    split at hevents
    · cases hevents
    · rename_i hw
      cases hevents
      exact ⟨hne, hw, rfl⟩

theorem delEvent_some (h : delEvent E wake s ev = some t) :
    ev ≠ wake ∧ t = { s with events := EventWatch.ril_event_del E s.events ev } := by
  unfold delEvent at h
  split at h
  · cases h
  · rename_i hne
    cases h
    exact ⟨hne, rfl⟩

theorem inv_del (hfds : ∀ ev, E.fd ev < FD_SETSIZE) (h : Inv E wake s)
    (ht : delEvent E wake s ev = some t) : Inv E wake t := by
  obtain ⟨hne, rfl⟩ := delEvent_some ht
  have hw : WellFormed E (EventWatch.ril_event_del E s.events ev) :=
    EventWatch.step_wellFormed hfds s.events (.ril_event_del ev) _ h.wellFormed rfl
  have hwatched : ∀ rev, Watched (EventWatch.ril_event_del E s.events ev) rev →
      Watched s.events rev := fun rev hrev => ((watched_del_iff h.wellFormed).mp hrev).1
  exact ⟨hw, h.sorted, h.started_iff, h.asleep, h.returned, h.pipe,
    fun hl hrev => h.unwatched hl (hwatched wake hrev),
    h.fresh.mono rfl id (hwatched wake) (fun _ => hwatched) fun _ _ hmem => hmem⟩

theorem threadStep_inv {a : Action ι} (hfds : ∀ ev, E.fd ev < FD_SETSIZE) (h : Inv E wake s)
    (ht : threadStep E wake s a = some t) : Inv E wake t := by
  cases a with
  | waitStarted =>
    have hmain : Inv E wake { s with main := if s.s_started then .returned else .asleep } := by
      apply inv_main h
      · intro hm
        split at hm
        · cases hm
        · rename_i hstarted
          exact Bool.eq_false_iff.mpr hstarted
      · intro hm
        split at hm
        · rename_i hstarted
          exact hstarted
        · cases hm
    simp only [threadStep] at ht
    split at ht
    · cases ht
      exact hmain
    · cases ht
      exact hmain
    · cases ht
  | spuriousMain =>
    simp only [threadStep] at ht
    split at ht
    · cases ht
      exact inv_main h nofun nofun
    · cases ht
  | add k ev =>
    simp only [threadStep] at ht
    split at ht
    · obtain ⟨u, hu, rfl⟩ := Option.map_eq_some_iff.mp ht
      obtain ⟨hne, hnew, rfl⟩ := addEvent_some hu
      refine inv_owe h (EventWatch.add_wellFormed h.wellFormed hnew (hfds ev)) h.sorted ?_
      intro hw
      exact (watched_of_add hfds hw).resolve_left fun heq => hne heq.symm
    · cases ht
  | del k ev =>
    simp only [threadStep] at ht
    split at ht
    · exact inv_del hfds h ht
    · cases ht
  | addTimer k timeout =>
    simp only [threadStep] at ht
    split at ht
    · cases ht
      exact inv_owe h h.wellFormed (insertTimer_sorted h.sorted) id
    · cases ht
  | triggerEvLoop k =>
    simp only [threadStep] at ht
    split at ht
    · split at ht
      · rename_i hnone
        cases ht
        have : Inv E wake { s with owes := Function.update s.owes k false, wakeup := none } :=
          inv_trigger h (.inl ⟨rfl, hnone⟩)
        rw [← hnone] at this
        exact this
      · rename_i bytes hsome
        split at ht
        · cases ht
          refine inv_trigger h (.inr ⟨bytes, rfl, ?_⟩)
          rw [hsome]
          exact nofun
        · cases ht
    · cases ht
  | init | start | pipe | addWakeup | copy | calcNextTimeout | select | selectReturns | interrupted
  | processTimeouts | processReadReadies | firePending | callbackAdd | callbackDel | callbackTimer
  | fired => cases ht

/-! The thread of the event loop. -/

theorem loopStep_inv {a : Action ι} (hfds : ∀ ev, E.fd ev < FD_SETSIZE) (h : Inv E wake s)
    (ht : loopStep E wake s a = some t) : Inv E wake t := by
  cases a with
  | init =>
    simp only [loopStep] at ht
    split at ht
    · rename_i hl
      cases ht
      have hstarted := h.started_iff
      have hpipe := h.pipe
      rw [hl] at hstarted hpipe
      refine ⟨EventWatch.wellFormed_init, .nil, hstarted, h.asleep, h.returned, hpipe, ?_, trivial⟩
      rintro - ⟨i, hi⟩
      cases hi
    · cases ht
  | start =>
    simp only [loopStep] at ht
    split at ht
    · rename_i hl
      split at ht
      · cases ht
      · cases ht
        have hpipe := h.pipe
        have hunwatched := h.unwatched
        rw [hl] at hpipe hunwatched
        exact ⟨h.wellFormed, h.sorted, by simp [Loop.early], by simp, by simp, hpipe, hunwatched,
          trivial⟩
    · cases ht
  | pipe =>
    simp only [loopStep] at ht
    split at ht
    · rename_i hl
      cases ht
      have hstarted := h.started_iff
      have hunwatched := h.unwatched
      rw [hl] at hstarted hunwatched
      exact ⟨h.wellFormed, h.sorted, hstarted, h.asleep, h.returned, by simp [Loop.pipeless],
        hunwatched, trivial⟩
    · cases ht
  | addWakeup =>
    simp only [loopStep] at ht
    split at ht
    · rename_i hl
      cases ht
      have hstarted := h.started_iff
      have hpipe := h.pipe
      have hunwatched := h.unwatched
      rw [hl] at hstarted hpipe hunwatched
      have hw := EventWatch.add_wellFormed h.wellFormed (hunwatched rfl) (hfds wake)
      exact ⟨hw, h.sorted, hstarted, h.asleep, h.returned, hpipe, by simp [Loop.unwatched], trivial⟩
    · cases ht
  | copy =>
    simp only [loopStep] at ht
    split at ht
    · rename_i hl
      cases ht
      have hreads : ∀ ev, Watched s.events ev → s.events.readFds (E.fd ev) = true :=
        fun ev hev => h.wellFormed.readFds_iff_watched.mpr ⟨ev, hev, rfl⟩
      exact h.loop_of (by rw [hl]; rfl) rfl h.wellFormed h.sorted Iff.rfl
        ⟨hreads wake, fun _ => hreads⟩
    · cases ht
  | calcNextTimeout now =>
    simp only [loopStep] at ht
    split at ht
    · rename_i rfds hl
      cases ht
      have hfresh := h.fresh
      rw [Fresh, hl] at hfresh
      exact h.loop_of (by rw [hl]; rfl) rfl h.wellFormed h.sorted Iff.rfl
        ⟨Covers.mono hfresh id id fun _ _ => id, fun _ => nextTimeout_timely h.sorted⟩
    · cases ht
  | select =>
    simp only [loopStep] at ht
    split at ht
    · rename_i rfds ptv now hl
      cases ht
      have hfresh := h.fresh
      rw [Fresh, hl] at hfresh
      exact h.loop_of (by rw [hl]; rfl) rfl h.wellFormed h.sorted Iff.rfl
        ⟨hfresh.1.mono id id fun _ _ => id, hfresh.2, h.wellFormed.fd_lt wake,
          fun _ => h.wellFormed.fd_lt⟩
    · cases ht
  | selectReturns readies =>
    simp only [loopStep] at ht
    split at ht
    · rename_i rfds nfds ptv now hl
      split at ht
      · cases ht
        exact h.loop_of (by rw [hl]; rfl) rfl h.wellFormed h.sorted Iff.rfl trivial
      · cases ht
    · cases ht
  | interrupted =>
    simp only [loopStep] at ht
    split at ht
    · rename_i rfds nfds ptv now hl
      cases ht
      exact h.loop_of (by rw [hl]; rfl) rfl h.wellFormed h.sorted Iff.rfl trivial
    · cases ht
  | processTimeouts now =>
    simp only [loopStep] at ht
    split at ht
    · rename_i rfds n hl
      cases ht
      exact h.loop_of (by rw [hl]; rfl) rfl h.wellFormed
        (h.sorted.sublist (List.dropWhile_sublist _)) Iff.rfl trivial
    · cases ht
  | processReadReadies =>
    simp only [loopStep] at ht
    split at ht
    · rename_i rfds n hl
      cases ht
      have hw : WellFormed E (EventWatch.processReadReadies E s.events rfds n) :=
        EventWatch.step_wellFormed hfds s.events (.processReadReadies rfds n) _ h.wellFormed rfl
      exact h.loop_of (by rw [hl]; rfl) rfl hw h.sorted Iff.rfl trivial
    · cases ht
  | firePending =>
    simp only [loopStep] at ht
    split at ht
    · rename_i hl
      cases ht
      have hw := EventWatch.pending_wellFormed h.wellFormed []
      refine h.loop_of (by rw [hl]; rfl) rfl hw h.sorted ?_ trivial
      -- the pipe exists for as long as the loop runs
      have hpipe := h.pipe
      rw [hl] at hpipe
      split
      · simp [hpipe, Loop.pipeless]
      · exact Iff.rfl
    · cases ht
  | callbackAdd ev =>
    simp only [loopStep] at ht
    split at ht
    · rename_i hl
      obtain ⟨-, hnew, rfl⟩ := addEvent_some ht
      have hadd : Inv E wake
          { s with loop := .firing, events := EventWatch.ril_event_add E s.events ev } :=
        h.loop_of (by rw [hl]; rfl) rfl (EventWatch.add_wellFormed h.wellFormed hnew (hfds ev))
          h.sorted Iff.rfl trivial
      rwa [← hl] at hadd
    · cases ht
  | callbackDel ev =>
    simp only [loopStep] at ht
    split at ht
    · exact inv_del hfds h ht
    · cases ht
  | callbackTimer timeout =>
    simp only [loopStep] at ht
    split at ht
    · rename_i hl
      cases ht
      have hinsert : Inv E wake
          { s with loop := .firing, timers := insertTimer timeout s.timers } :=
        h.loop_of (by rw [hl]; rfl) rfl h.wellFormed (insertTimer_sorted h.sorted) Iff.rfl trivial
      rwa [← hl] at hinsert
    · cases ht
  | fired =>
    simp only [loopStep] at ht
    split at ht
    · rename_i hl
      cases ht
      exact h.loop_of (by rw [hl]; rfl) rfl h.wellFormed h.sorted Iff.rfl trivial
    · cases ht
  | waitStarted | spuriousMain | add | del | addTimer | triggerEvLoop => cases ht

theorem step_inv (hfds : ∀ ev, E.fd ev < FD_SETSIZE) (s : State ι) (a : Action ι) (t : State ι)
    (h : Inv E wake s) (ht : step E wake s a = some t) : Inv E wake t := by
  rcases Option.or_eq_some_iff.mp ht with ht | ⟨-, ht⟩
  · exact loopStep_inv hfds h ht
  · exact threadStep_inv hfds h ht

theorem watched_add_of {w : EventWatch.State ι} (hfds : ∀ ev, E.fd ev < FD_SETSIZE)
    (h : Watched w rev) : Watched (EventWatch.ril_event_add E w ev) rev := by
  cases hfree : EventWatch.firstFree w with
  | none => rwa [EventWatch.add_full hfree]
  | some i => exact (EventWatch.watched_add hfree (hfds ev)).mpr (.inr h)

theorem addEvent_wakeup (hfds : ∀ ev, E.fd ev < FD_SETSIZE) (hw : Watched s.events wake)
    (ht : addEvent E wake s ev = some t) : Watched t.events wake := by
  obtain ⟨-, -, rfl⟩ := addEvent_some ht
  exact watched_add_of hfds hw

theorem delEvent_wakeup (h : Inv E wake s) (hw : Watched s.events wake)
    (ht : delEvent E wake s ev = some t) : Watched t.events wake := by
  obtain ⟨hne, rfl⟩ := delEvent_some ht
  exact (watched_del_iff h.wellFormed).mpr ⟨hw, fun heq => hne heq.symm⟩

/-- The wakeup event is persistent, and no other thread knows it. -/
theorem step_wakeup {a : Action ι} (hfds : ∀ ev, E.fd ev < FD_SETSIZE)
    (hpersist : E.persist wake = true) (h : Inv E wake s) (hw : Watched s.events wake)
    (ht : step E wake s a = some t) : Watched t.events wake := by
  have hpast : s.loop.unwatched = false := by
    by_contra hl
    exact h.unwatched (by simpa using hl) hw
  rcases Option.or_eq_some_iff.mp ht with ht | ⟨-, ht⟩
  · cases a with
    | init | addWakeup =>
      simp only [loopStep] at ht
      split at ht
      · rename_i hl
        rw [hl] at hpast
        cases hpast
      · cases ht
    | start =>
      simp only [loopStep] at ht
      split at ht
      · split at ht
        · cases ht
        · cases ht
          exact hw
      · cases ht
    | selectReturns readies =>
      simp only [loopStep] at ht
      split at ht
      · split at ht
        · cases ht
          exact hw
        · cases ht
      · cases ht
    | pipe | copy | calcNextTimeout | select | interrupted | processTimeouts | firePending
    | callbackTimer | fired =>
      simp only [loopStep] at ht
      split at ht
      · cases ht
        exact hw
      · cases ht
    | processReadReadies =>
      simp only [loopStep] at ht
      split at ht
      · rename_i rfds n hl
        cases ht
        have hprocessed : EventWatch.Processed E s.events
            (EventWatch.readReadies E rfds (List.finRange _) n s.events) _ :=
          EventWatch.readReadies_processed hfds h.wellFormed (List.nodup_finRange _)
        refine (hprocessed.watched wake).mpr ⟨hw, fun hremoved => ?_⟩
        rw [hpersist] at hremoved
        cases hremoved.2
      · cases ht
    | callbackAdd ev =>
      simp only [loopStep] at ht
      split at ht
      · exact addEvent_wakeup hfds hw ht
      · cases ht
    | callbackDel ev =>
      simp only [loopStep] at ht
      split at ht
      · exact delEvent_wakeup h hw ht
      · cases ht
    | waitStarted | spuriousMain | add | del | addTimer | triggerEvLoop => cases ht
  · cases a with
    | waitStarted =>
      simp only [threadStep] at ht
      split at ht
      · cases ht
        exact hw
      · cases ht
        exact hw
      · cases ht
    | spuriousMain =>
      simp only [threadStep] at ht
      split at ht
      · cases ht
        exact hw
      · cases ht
    | add k ev =>
      simp only [threadStep] at ht
      split at ht
      · obtain ⟨u, hu, rfl⟩ := Option.map_eq_some_iff.mp ht
        have hwatched := addEvent_wakeup hfds hw hu
        exact hwatched
      · cases ht
    | del k ev =>
      simp only [threadStep] at ht
      split at ht
      · exact delEvent_wakeup h hw ht
      · cases ht
    | addTimer k timeout =>
      simp only [threadStep] at ht
      split at ht
      · cases ht
        exact hw
      · cases ht
    | triggerEvLoop k =>
      simp only [threadStep] at ht
      split at ht
      · split at ht
        · cases ht
          exact hw
        · split at ht
          · cases ht
            exact hw
          · cases ht
      · cases ht
    | init | start | pipe | addWakeup | copy | calcNextTimeout | select | selectReturns
    | interrupted | processTimeouts | processReadReadies | firePending | callbackAdd | callbackDel
    | callbackTimer | fired => cases ht

/-- No wake-up is lost, whatever other threads do between any two steps of the event loop. The
thread that starts the loop sleeps only before `s_started` is set. While the loop waits in `select`
with the wakeup event in the table, a byte in the pipe ends the wait; and if there is none and no
thread is about to write one, `select` watches every event and gives up before the next timer. The
wakeup event stays in the table. -/
theorem wakeup_never_lost {as : List (Action ι)} (hfds : ∀ ev, E.fd ev < FD_SETSIZE)
    (hpersist : E.persist wake = true)
    (h : Machine.run (step E wake) initial as = some s) :
    (s.main = .asleep → s.loop.early = true) ∧ (s.main = .returned → s.loop.early = false) ∧
    (∀ rfds nfds ptv now, s.loop = .selecting rfds nfds ptv now → Watched s.events wake →
      (∀ bytes, s.wakeup = some (bytes + 1) →
        ∃ t, step E wake s (.selectReturns [E.fd wake]) = some t) ∧
      (s.wakeup = some 0 → (∀ k, s.owes k = false) →
        (∀ ev, Watched s.events ev → rfds (E.fd ev) = true ∧ E.fd ev < nfds) ∧
        ∀ timeout ∈ s.timers, ∃ tv, ptv = some tv ∧ (tv ≤ timeout - now ∨ tv = 0))) ∧
    ∀ a t, Watched s.events wake → step E wake s a = some t → Watched t.events wake := by
  have hinv : Inv E wake s := Machine.run_invariant (step_inv hfds) h inv_initial
  refine ⟨fun hm => ?_, fun hm => hinv.started_iff.mp (hinv.returned hm), ?_,
    fun a t hw ht => step_wakeup hfds hpersist hinv hw ht⟩
  · by_contra hl
    have hstarted := hinv.started_iff.mpr (by simpa using hl)
    rw [hinv.asleep hm] at hstarted
    cases hstarted
  · intro rfds nfds ptv now hl hw
    have hfresh := hinv.fresh
    rw [Fresh, hl] at hfresh
    obtain ⟨hrfds, htimely, hnfds⟩ := hfresh
    refine ⟨fun bytes hbytes => ?_, fun hempty howes => ?_⟩
    · have hreports : Reports E wake s rfds nfds [E.fd wake] := by
        refine ⟨List.nodup_singleton _, fun fd hfd => ?_⟩
        rw [List.mem_singleton.mp hfd, hbytes]
        exact ⟨hrfds.wakeup hw, hnfds.wakeup hw, fun _ => by simp⟩
      have hguard : Reports E wake s rfds nfds [E.fd wake] ∧ ([E.fd wake] ≠ [] ∨ ptv.isSome) :=
        ⟨hreports, .inl (List.cons_ne_nil _ _)⟩
      have hstep : step E wake s (.selectReturns [E.fd wake]) = some { s with
          loop := .selected (fun fd => decide (fd ∈ [E.fd wake])) [E.fd wake].length } := by
        simp only [step, loopStep, hl, if_pos hguard, Option.some_or]
      exact ⟨_, hstep⟩
    · have hclean : ¬Dirty s := by
        rintro (⟨k, hk⟩ | ⟨bytes, hbytes⟩)
        · rw [howes k] at hk
          cases hk
        · rw [hempty] at hbytes
          cases hbytes
      exact ⟨fun ev hev => ⟨hrfds.events hclean ev hev, hnfds.events hclean ev hev⟩,
        htimely hclean⟩

/-- A timer is added while the loop waits in `select`. -/
theorem wakeup_never_lost_timer :
    ∃ s : State (Fin 4), s.timers = [100] ∧
      ∃ t, step EventWatch.four 0 s (.selectReturns [0]) = some t := by
  have hrun : Machine.run (step EventWatch.four 0) initial
      [.waitStarted, .init, .start, .waitStarted, .pipe, .addWakeup, .copy, .calcNextTimeout 5,
        .select, .addTimer 0 100, .triggerEvLoop 0] = some _ := rfl
  obtain ⟨hreturns, -⟩ := (wakeup_never_lost (by decide) rfl hrun).2.2.1 _ _ _ _ rfl
    ⟨⟨0, by decide⟩, rfl⟩
  exact ⟨_, rfl, hreturns 0 rfl⟩

end Apq8084.Ril.EventLoop
