import Apq8084.Lib.LinkedRing
import Apq8084.Lib.Machine
import Apq8084.Ril.EventWatch
import Apq8084.Ril.Timeval
import Mathlib.Algebra.Order.Group.Unbundled.Int
import Mathlib.Data.List.Pairwise
import Mathlib.Data.List.Perm.Subperm
import Mathlib.Data.List.TakeWhile

/-! The timers of `ril_event.cpp`: two circular lists in the memory of the events, the steps of the
event loop, and calls of `ril_timer_add` between any two of them. -/
namespace Apq8084.Ril.EventTimers

open Decimal (Abi)
open EventWatch (MAX_FD_EVENTS)
open Timeval

/-- The addresses of `timer_list`, of `pending_list`, and of the events of the callers. -/
inductive Addr (ι : Type) where
  | timer_list
  | pending_list
  | event (ev : ι)
deriving DecidableEq

/-- Where `ril_event_loop` is; `firing` is inside the loop of `firePending`, with its variable
`ev`. -/
inductive Phase (ι : Type) where
  | top
  | timedOut
  | ready
  | firing (ev : Addr ι)
deriving DecidableEq

/-- One call of `ril_timer_add`: the timeout that it has stored, and how many iterations of the
loop had read the clock by then. -/
structure Ticket (ι : Type) where
  ev : ι
  timeout : Timeval
  added : Nat

/-- One call of the callback of an event, the ticket of the event, and the iteration. -/
structure Firing (ι : Type) where
  ev : ι
  ticket : Option Nat
  iteration : Nat

structure State (ι : Type) where
  links : Pointers (Addr ι)
  timeout : Addr ι → Timeval
  fd : ι → Int
  persist : ι → Bool
  watchTable : Fin MAX_FD_EVENTS → Option ι
  phase : Phase ι
  /-- What each call of `processTimeouts` so far has got from the clock. -/
  readings : List Timeval
  tickets : List (Ticket ι)
  /-- The ticket for which an event is queued. -/
  ticketOf : ι → Option Nat
  fired : List (Firing ι)

inductive Action (ι : Type) where
  | ril_timer_add (ev : ι) (tv : Option Timeval) (now : Timeval)
  | processTimeouts (now : Timeval)
  | processReadReadies (rfds : Int → Bool) (n : Int)
  | firePending
  /-- One round of the loop of `firePending`, up to the call of the callback. -/
  | fire
  /-- What `ril_event_add` and `ril_event_del` write to the table. -/
  | watch (i : Fin MAX_FD_EVENTS) (ev : Option ι)
  /-- `ril_event_set`, and all that is done to the memory of an event that is not queued. -/
  | overwrite (ev : ι) (next prev : Option (Addr ι)) (timeout : Timeval) (fd : Int)
      (persist : Bool)

variable {ι : Type}

/-- The first iteration behind the call whose reading is strictly later than the timeout. -/
def due (readings : List Timeval) (t : Ticket ι) : Option Nat :=
  ((readings.drop t.added).findIdx? fun now => timercmp now t.timeout (· > ·)).map (t.added + ·)

/-- The iterations in which the callback was called for a ticket. -/
def firings (s : State ι) (i : Nat) : List Nat :=
  (s.fired.filter fun f => f.ticket = some i).map Firing.iteration

/-- `ril_event_init`. -/
def ril_event_init : State ι :=
  { links :=
      { next := fun
          | .event _ => none
          | list => some list
        prev := fun
          | .event _ => none
          | list => some list }
    timeout := fun _ => ⟨0, 0⟩, fd := fun _ => 0, persist := fun _ => false
    watchTable := fun _ => none, phase := .top
    readings := [], tickets := [], ticketOf := fun _ => none, fired := [] }

/-- An event is in one of the two lists. -/
def InList (s : State ι) (list : Addr ι) (ev : ι) : Prop :=
  ∃ l, s.links.Ring list l ∧ Addr.event ev ∈ l

structure Unqueued (s : State ι) (ev : ι) : Prop where
  unwatched : ∀ i, s.watchTable i ≠ some ev
  timers : ¬InList s .timer_list ev
  pending : ¬InList s .pending_list ev

/-- Times are normalised and not negative, and an event is handed over, or its memory reused, only
when it is not queued. -/
def Admissible (abi : Abi) (s : State ι) : Action ι → Prop
  | .ril_timer_add ev tv now =>
    ∀ rel, tv = some rel → Normalised abi rel ∧ Normalised abi now ∧ Unqueued s ev
  | .processTimeouts now => Normalised abi now
  | .watch _ ev => ∀ rev, ev = some rev → Unqueued s rev
  | .overwrite ev .. => Unqueued s ev
  | _ => True

/-- The event loop is where it takes the step; the other calls come at any time. -/
def Enabled (s : State ι) : Action ι → Prop
  | .processTimeouts _ => s.phase = .top
  | .processReadReadies _ _ => s.phase = .timedOut
  | .firePending => s.phase = .ready
  | .fire => ∃ ev, s.phase = .firing ev
  | _ => True

variable (abi : Abi) [DecidableEq ι]

def removeWatch (s : State ι) (index : Fin MAX_FD_EVENTS) : State ι :=
  { s with watchTable := Function.update s.watchTable index none }

/-- The loop of `processReadReadies` over the rest of the table. -/
def readReadies (rfds : Int → Bool) : List (Fin MAX_FD_EVENTS) → Int → State ι → Option (State ι)
  | [], _, s => some s
  | i :: is, n, s =>
    if 0 < n then
      match s.watchTable i with
      | none => readReadies rfds is n s
      | some rev =>
        if rfds (s.fd rev) then
          (s.links.insertBefore (.event rev) .pending_list).bind fun links =>
            let s := { s with links := links }
            let s := if s.persist rev then s else removeWatch s i
            readReadies rfds is (n - 1) s
        else readReadies rfds is n s
    else some s

def processReadReadies (s : State ι) (rfds : Int → Bool) (n : Int) : Option (State ι) :=
  (readReadies rfds (List.finRange MAX_FD_EVENTS) n s).map fun s => { s with phase := .ready }

def firePending (s : State ι) : Option (State ι) :=
  (s.links.next .pending_list).map fun ev => { s with phase := .firing ev }

/-- The loop condition, and the body up to `ev->func(ev->fd, 0, ev->param)`. What the callback does
are further actions. -/
def fire (s : State ι) : Addr ι → Option (State ι)
  | .pending_list => some { s with phase := .top }
  | .timer_list => none
  | .event ev =>
    (s.links.next (.event ev)).bind fun next =>
      (s.links.remove (.event ev)).map fun links =>
        { s with
          links := links, phase := .firing next
          ticketOf := Function.update s.ticketOf ev none
          fired := s.fired ++ [⟨ev, s.ticketOf ev, s.readings.length - 1⟩] }

/-- `none`: a null pointer is followed. The answer `none` stands for -1. -/
def calcNextTimeout (s : State ι) (now : Timeval) : Option (Option Timeval) :=
  (s.links.next .timer_list).map fun tev =>
    if tev = .timer_list then none
    else if timercmp (s.timeout tev) now (· > ·) then some (timersub abi (s.timeout tev) now)
    else some ⟨0, 0⟩

/-- The condition of the loop that keeps the list sorted. -/
def earlier (timeouts : Addr ι → Timeval) (timeout : Timeval) (list : Addr ι) : Bool :=
  timercmp (timeouts list) timeout (· < ·) && decide (list ≠ .timer_list)

/-- The condition of the loop of `processTimeouts`. -/
def expired (s : State ι) (now : Timeval) (tev : Addr ι) : Bool :=
  decide (tev ≠ .timer_list) && timercmp now (s.timeout tev) (· > ·)

/-- The loops meet no event twice, and `timer_list` has no more events than were ever added. -/
def rounds (s : State ι) : Nat := s.tickets.length + 1

def ril_timer_add (s : State ι) (ev : ι) (tv : Option Timeval) (now : Timeval) :
    Option (State ι) :=
  match tv with
  | none => some s
  | some tv =>
    let timeout := timeradd abi now tv
    let timeouts := Function.update s.timeout (.event ev) timeout
    (s.links.next .timer_list).bind fun list =>
      (s.links.walkWhile (earlier timeouts timeout) (rounds s) list).bind fun list =>
        (s.links.insertBefore (.event ev) list).map fun links =>
          { s with
            links := links, timeout := timeouts, fd := Function.update s.fd ev (-1)
            tickets := s.tickets ++ [⟨ev, timeout, s.readings.length⟩]
            ticketOf := Function.update s.ticketOf ev (some s.tickets.length) }

def processTimeouts (s : State ι) (now : Timeval) : Option (State ι) :=
  (s.links.next .timer_list).bind fun tev =>
    (Pointers.moveWhile (expired s now) .pending_list (rounds s) s.links tev).map fun links =>
      { s with links := links, readings := s.readings ++ [now], phase := .timedOut }

/-- `none`: a null pointer is followed, or the event loop is elsewhere. -/
def exec (s : State ι) : Action ι → Option (State ι)
  | .ril_timer_add ev tv now => ril_timer_add abi s ev tv now
  | .processTimeouts now => if s.phase = .top then processTimeouts s now else none
  | .processReadReadies rfds n => if s.phase = .timedOut then processReadReadies s rfds n else none
  | .firePending => if s.phase = .ready then firePending s else none
  | .fire =>
    match s.phase with
    | .firing ev => fire s ev
    | _ => none
  | .watch i ev => some { s with watchTable := Function.update s.watchTable i ev }
  | .overwrite ev next prev timeout fd persist =>
    some { s with
      links :=
        { next := Function.update s.links.next (.event ev) next
          prev := Function.update s.links.prev (.event ev) prev }
      timeout := Function.update s.timeout (.event ev) timeout
      fd := Function.update s.fd ev fd
      persist := Function.update s.persist ev persist }

omit [DecidableEq ι]

/-! ### Invariants -/

/-- The two lists and the events in them. -/
structure Rings (s : State ι) (timers pending : List ι) : Prop where
  timers_ring : s.links.Ring .timer_list (timers.map .event)
  pending_ring : s.links.Ring .pending_list (pending.map .event)
  disjoint : ∀ ev ∈ timers, ev ∉ pending
  sorted : timers.Pairwise fun a b => ¬Later (s.timeout (.event a)) (s.timeout (.event b))

/-- A ticket is held by a queued event until it is fired, and is due exactly when the event is no
longer in `timer_list`. -/
structure Tickets (s : State ι) (timers pending : List ι) : Prop where
  added : ∀ t ∈ s.tickets, t.added ≤ s.readings.length ∧ Proper abi t.timeout
  queued : ∀ ev i, s.ticketOf ev = some i → ev ∈ timers ∨ ev ∈ pending
  held : ∀ ev i, s.ticketOf ev = some i →
    ∃ t, s.tickets[i]? = some t ∧ t.ev = ev ∧ t.timeout = s.timeout (.event ev)
  waiting : ∀ ev ∈ timers, ∃ i t, s.ticketOf ev = some i ∧ s.tickets[i]? = some t ∧
    due s.readings t = none
  expired : ∀ ev ∈ pending, ∀ i t, s.ticketOf ev = some i → s.tickets[i]? = some t →
    ∃ k, due s.readings t = some k ∧ k + 1 = s.readings.length
  kept : ∀ i, i < s.tickets.length →
    (∃ ev, s.ticketOf ev = some i) ∨ ∃ f ∈ s.fired, f.ticket = some i

/-- What has been fired, and what is fired next. -/
structure Fired (s : State ι) (pending : List ι) : Prop where
  fired_ticket : ∀ f ∈ s.fired, ∀ i, f.ticket = some i →
    ∃ t, s.tickets[i]? = some t ∧ t.ev = f.ev ∧ due s.readings t = some f.iteration
  fired_released : ∀ f ∈ s.fired, ∀ i, f.ticket = some i → ∀ ev, s.ticketOf ev ≠ some i
  once : s.fired.Pairwise fun f g => ∀ i, f.ticket = some i → g.ticket ≠ some i
  order : s.fired.Pairwise fun f g => f.iteration = g.iteration → ∀ i j t u,
    f.ticket = some i → g.ticket = some j → s.tickets[i]? = some t → s.tickets[j]? = some u →
      ¬Later t.timeout u.timeout
  pending_sorted : pending.Pairwise fun a b => s.ticketOf a ≠ none → s.ticketOf b ≠ none →
    ¬Later (s.timeout (.event a)) (s.timeout (.event b))
  ahead : ∀ f ∈ s.fired, f.iteration + 1 = s.readings.length → ∀ i t, f.ticket = some i →
    s.tickets[i]? = some t → ∀ ev ∈ pending, s.ticketOf ev ≠ none →
      ¬Later t.timeout (s.timeout (.event ev))

structure Watches (s : State ι) (timers : List ι) : Prop where
  watched_free : ∀ i ev, s.watchTable i = some ev → ev ∉ timers ∧ s.ticketOf ev = none
  watched_once : ∀ i j ev, s.watchTable i = some ev → s.watchTable j = some ev → i = j

structure Invariant (s : State ι) (timers pending : List ι) : Prop
    extends Rings s timers pending, Tickets abi s timers pending, Fired s pending,
      Watches s timers

/-- What `pending_list` holds, place by place of the event loop. -/
def AtPhase (s : State ι) (pending : List ι) : Prop :=
  match s.phase with
  | .top => pending = []
  | .timedOut => ∀ i ev, s.watchTable i = some ev → ev ∉ pending
  | .ready => True
  | .firing ev => ev = (pending.map .event).headD .pending_list

def Good (s : State ι) : Prop := ∃ timers pending, Invariant abi s timers pending ∧
  AtPhase s pending

variable {abi} {s : State ι} {timers pending : List ι} {ev : ι} {now : Timeval}
  {readings : List Timeval} {t : Ticket ι} {i k : Nat}

/-! ### Lists -/

section Lists

variable {α : Type} {R : α → α → Prop} {q : α → Bool} {l : List α} {x : α}

theorem dropWhile_not (hl : l.Pairwise R) (hq : ∀ a b, R a b → q b = true → q a = true) :
    ∀ b ∈ l.dropWhile q, q b = false := by
  induction l with
  | nil => simp
  | cons a l ih =>
    obtain ⟨ha, hl⟩ := List.pairwise_cons.mp hl
    cases hqa : q a with
    | true =>
      rw [List.dropWhile_cons_of_pos hqa]
      exact ih hl
    | false =>
      rw [List.dropWhile_cons_of_neg (by simp [hqa])]
      intro b hb
      rcases List.mem_cons.mp hb with rfl | hb
      · exact hqa
      · by_contra hqb
        have := hq a b (ha b hb) (by simpa using hqb)
        simp [hqa] at this

/-- The place in front of the first element that fails the condition keeps the order. -/
theorem pairwise_insert (hl : l.Pairwise R) (hbefore : ∀ a ∈ l.takeWhile q, R a x)
    (hbehind : ∀ b ∈ l.dropWhile q, R x b) :
    (l.takeWhile q ++ x :: l.dropWhile q).Pairwise R := by
  rw [← List.takeWhile_append_dropWhile (p := q) (l := l), List.pairwise_append] at hl
  obtain ⟨htake, hdrop, hcross⟩ := hl
  refine List.pairwise_append.mpr ⟨htake, List.pairwise_cons.mpr ⟨hbehind, hdrop⟩, ?_⟩
  intro a ha b hb
  rcases List.mem_cons.mp hb with rfl | hb
  · exact hbefore a ha
  · exact hcross a ha b hb

end Lists

section Snoc

variable {α : Type} {l : List α} {x y z : α} {i : Nat}

theorem getElem?_snoc_of_some (h : l[i]? = some x) : (l ++ [y])[i]? = some x := by
  rw [List.getElem?_append_left (List.getElem?_eq_some_iff.mp h).1, h]

theorem getElem?_of_snoc (hz : l[i]? = some z) (h : (l ++ [y])[i]? = some x) : l[i]? = some x := by
  rw [getElem?_snoc_of_some hz] at h
  exact hz.trans h

end Snoc

section Update

variable {κ β : Type} [DecidableEq κ] {f : κ → Option β} {a c : κ} {b : Option β} {d : β}

theorem update_eq_some (h : Function.update f a b c = some d) :
    c = a ∧ b = some d ∨ c ≠ a ∧ f c = some d := by
  rw [Function.update_apply] at h
  split_ifs at h with hca
  · exact Or.inl ⟨hca, h⟩
  · exact Or.inr ⟨hca, h⟩

theorem update_none_ne (h : Function.update f a none c ≠ none) : c ≠ a ∧ f c ≠ none := by
  obtain ⟨d, hd⟩ := Option.ne_none_iff_exists'.mp h
  rcases update_eq_some hd with ⟨-, hnone⟩ | ⟨hca, hd⟩
  · cases hnone
  · exact ⟨hca, by simp [hd]⟩

end Update

/-! ### When a ticket is due -/

theorem due_lt (h : due readings t = some k) : t.added ≤ k ∧ k < readings.length := by
  unfold due at h
  obtain ⟨n, hn, rfl⟩ := Option.map_eq_some_iff.mp h
  have := List.findIdx?_eq_some_iff_getElem.mp hn
  obtain ⟨hlt, -⟩ := this
  rw [List.length_drop] at hlt
  omega

/-- The next reading can only be the first one for the tickets that had none. -/
theorem due_append (hadded : t.added ≤ readings.length) :
    due (readings ++ [now]) t =
      (due readings t).or (if Later now t.timeout then some readings.length else none) := by
  unfold due
  rw [List.drop_append_of_le_length hadded, List.findIdx?_append]
  cases hfound : (readings.drop t.added).findIdx? fun now => timercmp now t.timeout (· > ·) with
  | some n => rfl
  | none =>
    by_cases hlater : Later now t.timeout
    · have hcmp := timercmp_gt.mpr hlater
      simp only [List.findIdx?_cons, hcmp, hlater, List.length_drop]
      simp
      omega
    · have hcmp : timercmp now t.timeout (· > ·) = false := by
        rw [← Bool.not_eq_true, timercmp_gt]
        exact hlater
      simp [hcmp, hlater]

theorem due_new (ht : t.added = readings.length) : due readings t = none := by
  unfold due
  rw [ht, List.drop_length]
  rfl

/-! ### Queued events -/

theorem inList_iff {list : Addr ι} {l : List ι} (hr : s.links.Ring list (l.map .event)) :
    InList s list ev ↔ ev ∈ l := by
  constructor
  · rintro ⟨l', hr', hev⟩
    rw [hr'.unique hr] at hev
    obtain ⟨ev', hev', heq⟩ := List.mem_map.mp hev
    cases heq
    exact hev'
  · intro hev
    exact ⟨_, hr, List.mem_map.mpr ⟨ev, hev, rfl⟩⟩

theorem Rings.not_mem (h : Rings s timers pending) (hev : Unqueued s ev) :
    ev ∉ timers ∧ ev ∉ pending :=
  ⟨fun hmem => hev.timers ((inList_iff h.timers_ring).mpr hmem),
    fun hmem => hev.pending ((inList_iff h.pending_ring).mpr hmem)⟩

theorem Invariant.no_ticket (h : Invariant abi s timers pending) (hev : Unqueued s ev) :
    s.ticketOf ev = none := by
  cases hi : s.ticketOf ev with
  | none => rfl
  | some i =>
    obtain ⟨htimers, hpending⟩ := h.toRings.not_mem hev
    rcases h.queued ev i hi with hmem | hmem
    · exact absurd hmem htimers
    · exact absurd hmem hpending

theorem Tickets.held_eq (h : Tickets abi s timers pending) (hi : s.ticketOf ev = some i)
    (ht : s.tickets[i]? = some t) : t.ev = ev ∧ t.timeout = s.timeout (.event ev) := by
  obtain ⟨u, hu, hev⟩ := h.held ev i hi
  rw [ht] at hu
  cases hu
  exact hev

theorem Tickets.waiting_eq (h : Tickets abi s timers pending) (hev : ev ∈ timers)
    (hi : s.ticketOf ev = some i) (ht : s.tickets[i]? = some t) : due s.readings t = none := by
  obtain ⟨j, u, hj, hu, hdue⟩ := h.waiting ev hev
  rw [hi] at hj
  cases hj
  rw [ht] at hu
  cases hu
  exact hdue

theorem Fired.due_eq {f : Firing ι} (h : Fired s pending) (hf : f ∈ s.fired)
    (hi : f.ticket = some i) (ht : s.tickets[i]? = some t) :
    due s.readings t = some f.iteration := by
  obtain ⟨u, hu, -, hdue⟩ := h.fired_ticket f hf i hi
  rw [ht] at hu
  cases hu
  exact hdue

/-- Behind the first event that is not earlier than a time, no event is. -/
theorem Rings.dropWhile_not_later {p : ι → Bool} (h : Rings s timers pending)
    (hp : ∀ ev, p ev = true ↔ Later now (s.timeout (.event ev))) :
    ∀ ev ∈ timers.dropWhile p, ¬Later now (s.timeout (.event ev)) := by
  have hdown : ∀ a b, ¬Later (s.timeout (.event a)) (s.timeout (.event b)) → p b = true →
      p a = true := by
    intro a b hab hb
    exact (hp a).mpr (later_of_later ((hp b).mp hb) hab)
  intro ev hev hlater
  have hnot := dropWhile_not h.sorted hdown ev hev
  rw [(hp ev).mpr hlater] at hnot
  cases hnot

theorem Invariant.length_lt (h : Invariant abi s timers pending) :
    (timers.map Addr.event).length < rounds s := by
  have hnodup := List.Nodup.of_map _ (List.nodup_cons.mp h.timers_ring.nodup).2
  have htickets : (timers.map s.ticketOf).Nodup := by
    apply List.Nodup.map_on _ hnodup
    intro a ha b _ hab
    obtain ⟨i, t, hi, ht, -⟩ := h.waiting a ha
    exact (h.held_eq hi ht).1.symm.trans (h.held_eq (hab.symm.trans hi) ht).1
  have hsub : timers.map s.ticketOf ⊆ (List.range s.tickets.length).map some := by
    intro o ho
    obtain ⟨ev, hev, rfl⟩ := List.mem_map.mp ho
    obtain ⟨i, t, hi, ht, -⟩ := h.waiting ev hev
    have hlt := (List.getElem?_eq_some_iff.mp ht).1
    exact List.mem_map.mpr ⟨i, List.mem_range.mpr hlt, hi.symm⟩
  have hle := (List.Nodup.subperm htickets hsub).length_le
  rw [List.length_map, List.length_map, List.length_range] at hle
  rw [List.length_map, rounds]
  omega

end Apq8084.Ril.EventTimers
