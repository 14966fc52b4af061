import Apq8084.Ril.TimerSteps

/-! Timers are fired once, not early, and in the order of their timeouts, over whole runs. -/
namespace Apq8084.Ril.EventTimers

open Decimal (Abi)
open Timeval

variable {ι : Type} {abi : Abi} {s s' : State ι} {timers pending : List ι} {ev : ι}
  {tv now : Timeval} {t : Ticket ι} {i : Nat}

/-! ### Tickets -/

/-- A ticket that is not due is held by an event in `timer_list`. -/
theorem Invariant.mem_timers (h : Invariant abi s timers pending) (ht : t ∈ s.tickets)
    (hdue : due s.readings t = none) : t.ev ∈ timers ∧ t.timeout = s.timeout (.event t.ev) := by
  obtain ⟨i, hi⟩ := List.mem_iff_getElem?.mp ht
  rcases h.kept i (List.getElem?_eq_some_iff.mp hi).1 with ⟨ev, hev⟩ | ⟨f, hf, hfi⟩
  · obtain ⟨u, hu, rfl, htimeout⟩ := h.held ev i hev
    rw [hi] at hu
    cases hu
    refine ⟨?_, htimeout⟩
    rcases h.queued t.ev i hev with hmem | hmem
    · exact hmem
    · obtain ⟨k, hk, -⟩ := h.expired t.ev hmem i t hev hi
      rw [hdue] at hk
      cases hk
  · have hk := h.due_eq hf hfi hi
    rw [hdue] at hk
    cases hk

theorem Invariant.mem_timers_iff (h : Invariant abi s timers pending) :
    ev ∈ timers ↔ ∃ t ∈ s.tickets, t.ev = ev ∧ due s.readings t = none := by
  constructor
  · intro hev
    obtain ⟨i, t, hi, ht, hdue⟩ := h.waiting ev hev
    exact ⟨t, List.mem_of_getElem? ht, (h.held_eq hi ht).1, hdue⟩
  · rintro ⟨t, ht, rfl, hdue⟩
    exact (h.mem_timers ht hdue).1

/-- A ticket is fired once in the iteration in which it is due, and that iteration may still be
about to fire it. -/
theorem Invariant.firings_eq (h : Invariant abi s timers pending) (hat : AtPhase s pending)
    (ht : s.tickets[i]? = some t) :
    firings s i = (due s.readings t).toList ∨
      s.phase ≠ .top ∧ firings s i = [] ∧ due s.readings t = some (s.readings.length - 1) := by
  rcases h.kept i (List.getElem?_eq_some_iff.mp ht).1 with ⟨ev, hev⟩ | ⟨f, hf, hfi⟩
  · have hnone : firings s i = [] := by
      rw [firings, List.map_eq_nil_iff, List.filter_eq_nil_iff]
      intro f hf hfi
      exact h.fired_released f hf i (of_decide_eq_true hfi) ev hev
    rcases h.queued ev i hev with hmem | hmem
    · rw [hnone, h.waiting_eq hmem hev ht]
      exact Or.inl rfl
    · obtain ⟨k, hk, hlen⟩ := h.expired ev hmem i t hev ht
      refine Or.inr ⟨?_, hnone, ?_⟩
      · intro htop
        unfold AtPhase at hat
        rw [htop] at hat
        subst hat
        cases hmem
      · rw [hk, ← hlen, Nat.add_sub_cancel]
  · have hdue := h.due_eq hf hfi ht
    have honce := h.once.sublist (List.filter_sublist (p := fun f => f.ticket = some i))
    have hmem : f ∈ s.fired.filter fun f => f.ticket = some i :=
      List.mem_filter.mpr ⟨hf, decide_eq_true hfi⟩
    have hall : ∀ g ∈ s.fired.filter fun f => f.ticket = some i, g.ticket = some i :=
      fun g hg => of_decide_eq_true (List.mem_filter.mp hg).2
    left
    rw [firings, hdue]
    cases hlist : s.fired.filter fun f => f.ticket = some i with
    | nil =>
      rw [hlist] at hmem
      cases hmem
    | cons g rest =>
      rw [hlist] at hmem honce hall
      cases rest with
      | nil =>
        obtain rfl := List.mem_singleton.mp hmem
        rfl
      | cons g' rest =>
        have hg' := (List.pairwise_cons.mp honce).1 g' List.mem_cons_self i
          (hall g List.mem_cons_self)
        exact absurd (hall g' (List.mem_cons_of_mem g List.mem_cons_self)) hg'

/-- What `calcNextTimeout` answers, in terms of the tickets that are not due. -/
def NextTimeout (abi : Abi) (s : State ι) (now : Timeval) (r : Option Timeval) : Prop :=
  (r = none ↔ ∀ t ∈ s.tickets, due s.readings t ≠ none) ∧
    ∀ tv, r = some tv → Normalised abi tv ∧ ∃ t ∈ s.tickets, due s.readings t = none ∧
      (∀ u ∈ s.tickets, due s.readings u = none → t.timeout.micros ≤ u.timeout.micros) ∧
        tv.micros = max 0 (t.timeout.micros - now.micros)

/-- What holds of the timers between any two steps. -/
structure Timely (s : State ι) : Prop where
  /-- `timer_list` has the events of the tickets that are not due, in the order of their
  timeouts. -/
  timer_list : ∃ timers : List ι, s.links.Ring .timer_list (timers.map .event) ∧
    (timers.Pairwise fun a b => ¬Later (s.timeout (.event a)) (s.timeout (.event b))) ∧
    ∀ ev, ev ∈ timers ↔ ∃ t ∈ s.tickets, t.ev = ev ∧ t.timeout = s.timeout (.event ev) ∧
      due s.readings t = none
  /-- A ticket is fired in the iteration in which it is due, once, and in no other. -/
  firings_eq : ∀ i t, s.tickets[i]? = some t → firings s i = (due s.readings t).toList ∨
    s.phase ≠ .top ∧ firings s i = [] ∧ due s.readings t = some (s.readings.length - 1)
  fired_ev : ∀ f ∈ s.fired, ∀ i, f.ticket = some i → ∃ t, s.tickets[i]? = some t ∧ t.ev = f.ev
  order : s.fired.Pairwise fun f g => f.iteration = g.iteration → ∀ i j t u,
    f.ticket = some i → g.ticket = some j → s.tickets[i]? = some t → s.tickets[j]? = some u →
      ¬Later t.timeout u.timeout

theorem Invariant.timely (h : Invariant abi s timers pending) (hat : AtPhase s pending) :
    Timely s := by
  refine ⟨⟨timers, h.timers_ring, h.sorted, fun ev => ?_⟩, ?_, ?_, h.order⟩
  · rw [h.mem_timers_iff]
    constructor
    · rintro ⟨t, ht, rfl, hdue⟩
      exact ⟨t, ht, rfl, (h.mem_timers ht hdue).2, hdue⟩
    · rintro ⟨t, ht, hev, -, hdue⟩
      exact ⟨t, ht, hev, hdue⟩
  · exact fun i t ht => h.firings_eq hat ht
  · intro f hf i hi
    obtain ⟨t, ht, hev, -⟩ := h.fired_ticket f hf i hi
    exact ⟨t, ht, hev⟩

variable [DecidableEq ι]

theorem Invariant.calcNextTimeout (h : Invariant abi s timers pending)
    (hnow : Normalised abi now) :
    ∃ r, EventTimers.calcNextTimeout abi s now = some r ∧ NextTimeout abi s now r := by
  rw [EventTimers.calcNextTimeout, h.timers_ring.next_head]
  cases timers with
  | nil =>
    refine ⟨none, rfl, ⟨fun _ t ht hdue => ?_, fun _ => rfl⟩, nofun⟩
    cases (h.mem_timers ht hdue).1
  | cons ev timers =>
    obtain ⟨i, t, hi, ht, hdue⟩ := h.waiting ev List.mem_cons_self
    have htimeout := (h.held_eq hi ht).2
    have hmem := List.mem_of_getElem? ht
    have hproper := (h.added t hmem).2
    have hmin : ∀ u ∈ s.tickets, due s.readings u = none →
        t.timeout.micros ≤ u.timeout.micros := by
      intro u hu hudue
      obtain ⟨huev, hutimeout⟩ := h.mem_timers hu hudue
      rw [← Int.not_lt, ← later_iff_micros hproper (h.added u hu).2, htimeout, hutimeout]
      rcases List.mem_cons.mp huev with heq | huev
      · rw [heq]
        exact not_later_self _
      · exact (List.pairwise_cons.mp h.sorted).1 u.ev huev
    have hsome : ∀ tv, Normalised abi tv → tv.micros = max 0 (t.timeout.micros - now.micros) →
        NextTimeout abi s now (some tv) := by
      intro tv htv hmicros
      refine ⟨⟨nofun, fun hnone => absurd hdue (hnone t hmem)⟩, ?_⟩
      intro tv' htv'
      obtain rfl := Option.some.inj htv'
      exact ⟨htv, t, hmem, hdue, hmin, hmicros⟩
    rw [List.map_cons, List.headD_cons, Option.map_some, if_neg nofun, ← htimeout]
    by_cases hlater : Later t.timeout now
    · rw [if_pos (timercmp_gt.mpr hlater)]
      obtain ⟨hsub, hmicros⟩ := timersub_of_later hproper hnow hlater
      refine ⟨_, rfl, hsome _ hsub (hmicros.trans (max_eq_right ?_).symm)⟩
      have := (later_iff_micros hproper hnow.toProper).mp hlater
      omega
    · rw [if_neg fun hcmp => hlater (timercmp_gt.mp hcmp)]
      have hzero : Normalised abi ⟨0, 0⟩ :=
        normalised_of_int ⟨by omega, by omega⟩ ⟨by omega, by omega⟩
      refine ⟨_, rfl, hsome _ hzero ?_⟩
      have hmicros : micros ⟨0, 0⟩ = 0 := rfl
      rw [hmicros, max_eq_left]
      rw [later_iff_micros hproper hnow.toProper] at hlater
      omega

/-! ### Runs -/

section Steps

variable {a : Action ι} {as : List (Action ι)}

/-- Where the event loop is at the place of the step, no null pointer is followed, and the
invariant is kept. -/
theorem good_step (h : Good abi s) (hadm : Admissible abi s a) (henabled : Enabled s a) :
    ∃ t, exec abi s a = some t ∧ Good abi t := by
  cases a with
  | ril_timer_add ev tv now => exact good_ril_timer_add h hadm
  | processTimeouts now =>
    have hphase : s.phase = .top := henabled
    simp only [exec, if_pos hphase]
    exact good_processTimeouts h hphase
  | processReadReadies rfds n =>
    have hphase : s.phase = .timedOut := henabled
    simp only [exec, if_pos hphase]
    exact good_processReadReadies h hphase
  | firePending =>
    have hphase : s.phase = .ready := henabled
    simp only [exec, if_pos hphase]
    exact good_firePending h
  | fire =>
    obtain ⟨x, hx⟩ := henabled
    simp only [exec, hx]
    exact good_fire h hx
  | watch i ev => exact ⟨_, rfl, good_watch h hadm i⟩
  | overwrite ev next prev timeout fd persist =>
    exact ⟨_, rfl, good_overwrite h hadm next prev timeout fd persist⟩

theorem enabled_of_exec (hs : exec abi s a = some s') : Enabled s a := by
  cases a with
  | processTimeouts now =>
    simp only [exec] at hs
    split_ifs at hs with hphase
    exact hphase
  | processReadReadies rfds n =>
    simp only [exec] at hs
    split_ifs at hs with hphase
    exact hphase
  | firePending =>
    simp only [exec] at hs
    split_ifs at hs with hphase
    exact hphase
  | fire =>
    cases hphase : s.phase with
    | firing x => exact ⟨x, hphase⟩
    | _ => simp [exec, hphase] at hs
  | _ => trivial

theorem good_run (hr : Machine.run (exec abi) ril_event_init as = some s)
    (hok : Machine.Along (exec abi) (Admissible abi) ril_event_init as) : Good abi s := by
  refine Machine.run_invariant_along ?_ hr hok good_init
  intro s a t h hadm hs
  obtain ⟨u, hu, hgood⟩ := good_step h hadm (enabled_of_exec hs)
  rw [hs] at hu
  cases hu
  exact hgood

/-- The loop of `firePending` ends. -/
theorem Invariant.exists_fires (h : Invariant abi s timers pending)
    (hphase : s.phase = .firing ((pending.map .event).headD .pending_list)) :
    ∃ n t, Machine.run (exec abi) s (List.replicate n .fire) = some t ∧ t.phase = .top := by
  induction pending generalizing s with
  | nil =>
    refine ⟨1, { s with phase := .top }, ?_, rfl⟩
    simp only [List.replicate, Machine.run_cons, exec, hphase]
    rfl
  | cons ev pending ih =>
    obtain ⟨u, hu, h', hphase'⟩ := h.fire_cons
    obtain ⟨n, t, hrun, htop⟩ := ih h' hphase'
    refine ⟨n + 1, t, ?_, htop⟩
    rw [List.replicate_succ, Machine.run_cons]
    simp only [exec, hphase, List.map_cons, List.headD_cons, hu, Option.bind_some]
    exact hrun

/-- What a call of `ril_timer_add` leaves behind: a ticket for the time it asks for, if a `long`
can hold that time. -/
theorem ticket_of_add (hadm : Admissible abi s (.ril_timer_add ev (some tv) now))
    (hs : exec abi s (.ril_timer_add ev (some tv) now) = some s') :
    ∃ timeout, s'.tickets = s.tickets ++ [⟨ev, timeout, s.readings.length⟩] ∧
      (now.micros + tv.micros < (abi.longMax + 1) * 1000000 →
        timeout.micros = now.micros + tv.micros) := by
  obtain ⟨htv, hnow, -⟩ := hadm tv rfl
  refine ⟨timeradd abi now tv, ?_, micros_timeradd hnow htv⟩
  simp only [exec, ril_timer_add] at hs
  obtain ⟨first, -, hs⟩ := Option.bind_eq_some_iff.mp hs
  obtain ⟨place, -, hs⟩ := Option.bind_eq_some_iff.mp hs
  obtain ⟨links, -, rfl⟩ := Option.map_eq_some_iff.mp hs
  rfl

/-- Whatever is added between any two steps of the event loop, the timers are fired once, not
early, and in order; the list stays sorted, the next timeout is exact, no null pointer is followed
and each iteration ends. -/
theorem timers_fire_once (hr : Machine.run (exec abi) ril_event_init as = some s)
    (hok : Machine.Along (exec abi) (Admissible abi) ril_event_init as) :
    Timely s ∧
      (∀ now, Normalised abi now →
        ∃ r, calcNextTimeout abi s now = some r ∧ NextTimeout abi s now r) ∧
      (∀ a, Admissible abi s a → Enabled s a → ∃ t, exec abi s a = some t) ∧
      (∀ ev tv now t, Admissible abi s (.ril_timer_add ev (some tv) now) →
        exec abi s (.ril_timer_add ev (some tv) now) = some t →
          ∃ timeout, t.tickets = s.tickets ++ [⟨ev, timeout, s.readings.length⟩] ∧
            (now.micros + tv.micros < (abi.longMax + 1) * 1000000 →
              timeout.micros = now.micros + tv.micros)) ∧
      ∀ x, s.phase = .firing x →
        ∃ n t, Machine.run (exec abi) s (List.replicate n .fire) = some t ∧ t.phase = .top := by
  have hgood := good_run hr hok
  have ⟨timers, pending, h, hat⟩ := hgood
  refine ⟨h.timely hat, fun now hnow => h.calcNextTimeout hnow, ?_, ?_, ?_⟩
  · intro a hadm henabled
    obtain ⟨t, ht, -⟩ := good_step hgood hadm henabled
    exact ⟨t, ht⟩
  · exact fun ev tv now t hadm hs => ticket_of_add hadm hs
  · intro x hx
    unfold AtPhase at hat
    rw [hx] at hat
    subst hat
    exact h.exists_fires hx

end Steps

/-- A timer of five microseconds is fired by the first iteration that finds it late. -/
theorem timers_fire_once_first :
    ∃ s, Machine.run (exec .ilp32) (ril_event_init : State Unit)
        [.ril_timer_add () (some ⟨0, 5⟩) ⟨1, 0⟩, .processTimeouts ⟨1, 6⟩,
          .processReadReadies (fun _ => false) 0, .firePending, .fire, .fire] = some s ∧
      Timely s ∧ firings s 0 = [0] := by
  have hrun : ((Machine.run (exec .ilp32) (ril_event_init : State Unit)
      [.ril_timer_add () (some ⟨0, 5⟩) ⟨1, 0⟩, .processTimeouts ⟨1, 6⟩,
        .processReadReadies (fun _ => false) 0, .firePending, .fire, .fire]).map
          fun s => firings s 0) = some [0] := by
    decide
  obtain ⟨s, hs, hfirings⟩ := Option.map_eq_some_iff.mp hrun
  refine ⟨s, hs, (timers_fire_once hs ?_).1, hfirings⟩
  have hrel : Normalised .ilp32 ⟨0, 5⟩ :=
    normalised_of_int ⟨by omega, by omega⟩ ⟨by omega, by omega⟩
  have hnow : Normalised .ilp32 ⟨1, 0⟩ :=
    normalised_of_int ⟨by omega, by omega⟩ ⟨by omega, by omega⟩
  have hlate : Normalised .ilp32 ⟨1, 6⟩ :=
    normalised_of_int ⟨by omega, by omega⟩ ⟨by omega, by omega⟩
  have hrings : ∀ list : Addr Unit, (∀ ev, list ≠ .event ev) →
      ¬InList (ril_event_init : State Unit) list () := by
    rintro (_ | _ | _) hlist ⟨l, hl, hmem⟩
    · have hnil : (ril_event_init : State Unit).links.Ring .timer_list [] :=
        ⟨⟨rfl, rfl⟩, List.nodup_singleton _⟩
      rw [hl.unique hnil] at hmem
      cases hmem
    · have hnil : (ril_event_init : State Unit).links.Ring .pending_list [] :=
        ⟨⟨rfl, rfl⟩, List.nodup_singleton _⟩
      rw [hl.unique hnil] at hmem
      cases hmem
    · exact hlist _ rfl
  have hunqueued : Unqueued (ril_event_init : State Unit) () :=
    ⟨nofun, hrings _ nofun, hrings _ nofun⟩
  refine ⟨?_, fun _ _ => ⟨hlate, fun _ _ => ⟨trivial, fun _ _ => ⟨trivial, fun _ _ =>
    ⟨trivial, fun _ _ => ⟨trivial, fun _ _ => trivial⟩⟩⟩⟩⟩⟩
  rintro _ ⟨⟩
  exact ⟨hrel, hnow, hunqueued⟩

end Apq8084.Ril.EventTimers
