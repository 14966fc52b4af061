import Apq8084.Ril.EventTimers

/-! The steps of the event loop and the calls of `ril_timer_add` keep the two lists and the
tickets in order, and follow no null pointer. -/
namespace Apq8084.Ril.EventTimers

open Decimal (Abi)
open EventWatch (MAX_FD_EVENTS)
open Timeval

variable {ι : Type} {abi : Abi} {s : State ι} {timers pending : List ι} {ev rev : ι}
  {now : Timeval} {i : Nat} {p : ι → Bool}

theorem good_init : Good abi (ril_event_init : State ι) := by
  refine ⟨[], [], ?_, rfl⟩
  refine {
    timers_ring := ⟨⟨rfl, rfl⟩, List.nodup_singleton _⟩
    pending_ring := ⟨⟨rfl, rfl⟩, List.nodup_singleton _⟩
    disjoint := ?_, sorted := List.Pairwise.nil, added := ?_, queued := ?_, held := ?_
    waiting := ?_, expired := ?_, kept := ?_, fired_ticket := ?_, fired_released := ?_
    once := List.Pairwise.nil, order := List.Pairwise.nil, pending_sorted := List.Pairwise.nil
    ahead := ?_, watched_free := ?_, watched_once := ?_ } <;> simp [ril_event_init]

theorem good_watch {ev : Option ι} (h : Good abi s)
    (hev : ∀ rev, ev = some rev → Unqueued s rev) (i : Fin MAX_FD_EVENTS) :
    Good abi { s with watchTable := Function.update s.watchTable i ev } := by
  obtain ⟨timers, pending, h, hphase⟩ := h
  refine ⟨timers, pending, { h with watched_free := ?_, watched_once := ?_ }, ?_⟩
  · intro j rev hj
    rcases update_eq_some hj with ⟨-, hj⟩ | ⟨-, hj⟩
    · exact ⟨(h.toRings.not_mem (hev rev hj)).1, h.no_ticket (hev rev hj)⟩
    · exact h.watched_free j rev hj
  · intro j k rev hj hk
    rcases update_eq_some hj with ⟨hji, hj⟩ | ⟨-, hj⟩ <;>
      rcases update_eq_some hk with ⟨hki, hk⟩ | ⟨-, hk⟩
    · rw [hji, hki]
    · exact absurd hk ((hev rev hj).unwatched k)
    · exact absurd hj ((hev rev hk).unwatched j)
    · exact h.watched_once j k rev hj hk
  · unfold AtPhase at hphase ⊢
    dsimp only
    cases hp : s.phase with
    | timedOut =>
      rw [hp] at hphase
      intro j rev hj
      rcases update_eq_some hj with ⟨-, hj⟩ | ⟨-, hj⟩
      · exact (h.toRings.not_mem (hev rev hj)).2
      · exact hphase j rev hj
    | _ =>
      rw [hp] at hphase
      exact hphase

theorem good_firePending (h : Good abi s) : ∃ t, firePending s = some t ∧ Good abi t := by
  obtain ⟨timers, pending, h, -⟩ := h
  refine ⟨{ s with phase := .firing ((pending.map .event).headD .pending_list) }, ?_, timers,
    pending, { h with }, rfl⟩
  rw [firePending, h.pending_ring.next_head]
  rfl

theorem Rings.event_disjoint (h : Rings s timers pending) :
    ∀ y ∈ Addr.timer_list :: timers.map .event, y ∉ Addr.pending_list :: pending.map .event := by
  intro y hy hy'
  rcases List.mem_cons.mp hy with rfl | hy
  · simp at hy'
  · obtain ⟨ev, hev, rfl⟩ := List.mem_map.mp hy
    have hpending : ev ∈ pending := by simpa using hy'
    exact h.disjoint ev hev hpending

/-- The events whose timeout has passed go over to the empty `pending_list`. -/
theorem Invariant.processTimeouts (h : Invariant abi s timers []) (links : Pointers (Addr ι))
    (hp : ∀ ev, p ev = true ↔ Later now (s.timeout (.event ev)))
    (htimers : links.Ring .timer_list ((timers.dropWhile p).map .event))
    (hpending : links.Ring .pending_list ((timers.takeWhile p).map .event)) (phase : Phase ι) :
    Invariant abi { s with links := links, readings := s.readings ++ [now], phase := phase }
      (timers.dropWhile p) (timers.takeWhile p) := by
  have hdrop := h.toRings.dropWhile_not_later hp
  have hsuffix := List.dropWhile_suffix p (l := timers)
  have htake := List.takeWhile_prefix p (l := timers)
  have hlater : ∀ ev ∈ timers.takeWhile p, Later now (s.timeout (.event ev)) :=
    fun ev hev => (hp ev).mp (List.mem_takeWhile_imp hev)
  have hdue : ∀ i t, s.tickets[i]? = some t →
      due (s.readings ++ [now]) t =
        (due s.readings t).or (if Later now t.timeout then some s.readings.length else none) :=
    fun i t ht => due_append (h.added t (List.mem_of_getElem? ht)).1
  refine {
    timers_ring := htimers, pending_ring := hpending, disjoint := ?_
    sorted := h.sorted.sublist hsuffix.sublist
    added := ?_, queued := ?_, held := h.held, waiting := ?_, expired := ?_, kept := h.kept
    fired_ticket := ?_, fired_released := h.fired_released, once := h.once, order := h.order
    pending_sorted := ?_, ahead := ?_, watched_free := ?_, watched_once := h.watched_once }
  · intro ev hev hmem
    exact hdrop ev hev (hlater ev hmem)
  · intro t ht
    obtain ⟨hadded, hproper⟩ := h.added t ht
    refine ⟨?_, hproper⟩
    rw [List.length_append]
    omega
  · intro ev i hi
    rcases h.queued ev i hi with hmem | hmem
    · rw [← List.takeWhile_append_dropWhile (p := p) (l := timers)] at hmem
      exact (List.mem_append.mp hmem).symm
    · cases hmem
  · intro ev hev
    obtain ⟨i, t, hi, ht, hnone⟩ := h.waiting ev (hsuffix.subset hev)
    refine ⟨i, t, hi, ht, (hdue i t ht).trans ?_⟩
    rw [hnone, (h.held_eq hi ht).2, if_neg (hdrop ev hev)]
    rfl
  · intro ev hev i t hi ht
    have hnone := h.waiting_eq (htake.subset hev) hi ht
    refine ⟨s.readings.length, (hdue i t ht).trans ?_, ?_⟩
    · rw [hnone, (h.held_eq hi ht).2, if_pos (hlater ev hev)]
      rfl
    · dsimp only
      rw [List.length_append]
      rfl
  · intro f hf i hi
    obtain ⟨t, ht, hev, hk⟩ := h.fired_ticket f hf i hi
    refine ⟨t, ht, hev, (hdue i t ht).trans ?_⟩
    rw [hk]
    rfl
  · apply (h.sorted.sublist htake.sublist).imp
    intro a b hab _ _
    exact hab
  · intro f hf hround i t hi ht
    have hlt := (due_lt (h.due_eq hf hi ht)).2
    rw [List.length_append] at hround
    simp only [List.length_cons, List.length_nil] at hround
    omega
  · intro i ev hi
    obtain ⟨hmem, hnone⟩ := h.watched_free i ev hi
    exact ⟨fun hev => hmem (hsuffix.subset hev), hnone⟩

/-- A watched event, which has no ticket, goes to the end of `pending_list`. -/
theorem Invariant.addPending (h : Invariant abi s timers pending) (links : Pointers (Addr ι))
    (hev : ev ∉ timers) (hnone : s.ticketOf ev = none)
    (htimers : links.Ring .timer_list (timers.map .event))
    (hpending : links.Ring .pending_list ((pending ++ [ev]).map .event)) :
    Invariant abi { s with links := links } timers (pending ++ [ev]) := by
  refine { h with
    timers_ring := htimers, pending_ring := hpending, disjoint := ?_, queued := ?_, expired := ?_
    pending_sorted := ?_, ahead := ?_ }
  · intro rev hrev hmem
    rcases List.mem_append.mp hmem with hmem | hmem
    · exact h.disjoint rev hrev hmem
    · obtain rfl := List.mem_singleton.mp hmem
      exact hev hrev
  · intro rev i hi
    exact (h.queued rev i hi).imp id (List.mem_append_left [ev])
  · intro rev hrev i t hi ht
    rcases List.mem_append.mp hrev with hrev | hrev
    · exact h.expired rev hrev i t hi ht
    · obtain rfl := List.mem_singleton.mp hrev
      rw [hnone] at hi
      cases hi
  · refine List.pairwise_append.mpr ⟨h.pending_sorted, List.pairwise_singleton _ _, ?_⟩
    intro a _ b hb _ hticket
    obtain rfl := List.mem_singleton.mp hb
    exact absurd hnone hticket
  · intro f hf hround i t hi ht rev hrev hticket
    rcases List.mem_append.mp hrev with hrev | hrev
    · exact h.ahead f hf hround i t hi ht rev hrev hticket
    · obtain rfl := List.mem_singleton.mp hrev
      exact absurd hnone hticket

theorem Invariant.removeWatch (h : Invariant abi s timers pending) (i : Fin MAX_FD_EVENTS) :
    Invariant abi (removeWatch s i) timers pending := by
  have hsub : ∀ j ev, (EventTimers.removeWatch s i).watchTable j = some ev →
      s.watchTable j = some ev := by
    intro j ev hj
    rcases update_eq_some hj with ⟨-, hnone⟩ | ⟨-, hj⟩
    · cases hnone
    · exact hj
  refine { h with watched_free := ?_, watched_once := ?_ }
  · exact fun j ev hj => h.watched_free j ev (hsub j ev hj)
  · exact fun j k ev hj hk => h.watched_once j k ev (hsub j ev hj) (hsub k ev hk)

/-- The memory of an event that is not queued may change. -/
theorem Invariant.overwrite (h : Invariant abi s timers pending) (links : Pointers (Addr ι))
    (timeouts : Addr ι → Timeval) (fds : ι → Int) (persists : ι → Bool)
    (hevt : ev ∉ timers) (hevp : ev ∉ pending)
    (htimeouts : ∀ rev, rev ≠ ev → timeouts (.event rev) = s.timeout (.event rev))
    (htimers : links.Ring .timer_list (timers.map .event))
    (hpending : links.Ring .pending_list (pending.map .event)) :
    Invariant abi { s with links := links, timeout := timeouts, fd := fds, persist := persists }
      timers pending := by
  have htimer : ∀ rev ∈ timers, timeouts (.event rev) = s.timeout (.event rev) := by
    intro rev hrev
    apply htimeouts
    rintro rfl
    exact hevt hrev
  have hpend : ∀ rev ∈ pending, timeouts (.event rev) = s.timeout (.event rev) := by
    intro rev hrev
    apply htimeouts
    rintro rfl
    exact hevp hrev
  refine { h with
    timers_ring := htimers, pending_ring := hpending, sorted := ?_, held := ?_
    pending_sorted := ?_, ahead := ?_ }
  · apply h.sorted.imp_of_mem
    intro a b ha hb hab
    dsimp only
    rwa [htimer a ha, htimer b hb]
  · intro rev i hi
    obtain ⟨t, ht, hrev, htimeout⟩ := h.held rev i hi
    refine ⟨t, ht, hrev, htimeout.trans ?_⟩
    rcases h.queued rev i hi with hmem | hmem
    · exact (htimer rev hmem).symm
    · exact (hpend rev hmem).symm
  · apply h.pending_sorted.imp_of_mem
    intro a b ha hb hab
    dsimp only
    rwa [hpend a ha, hpend b hb]
  · intro f hf hround i t hi ht rev hrev hticket
    dsimp only
    rw [hpend rev hrev]
    exact h.ahead f hf hround i t hi ht rev hrev hticket

section Writes

variable [DecidableEq ι]

/-! The callback of the first event in `pending_list` is called. -/

/-- The event holds no ticket from here on, and its firing is recorded. -/
def releaseTicket (s : State ι) (ev : ι) (links : Pointers (Addr ι)) (phase : Phase ι) : State ι :=
  { s with
    links := links, phase := phase
    ticketOf := Function.update s.ticketOf ev none
    fired := s.fired ++ [⟨ev, s.ticketOf ev, s.readings.length - 1⟩] }

section Released

variable {links : Pointers (Addr ι)} {phase : Phase ι}

theorem releaseTicket_ticketOf (hi : (releaseTicket s ev links phase).ticketOf rev = some i) :
    rev ≠ ev ∧ s.ticketOf rev = some i := by
  rcases update_eq_some hi with ⟨-, hnone⟩ | hi
  · cases hnone
  · exact hi

theorem Tickets.released (h : Tickets abi s timers (ev :: pending)) (hev : ev ∉ timers) :
    Tickets abi (releaseTicket s ev links phase) timers pending := by
  refine {
    added := h.added, queued := ?_, held := ?_, waiting := ?_, expired := ?_, kept := ?_ }
  · intro rev i hi
    obtain ⟨hne, hi⟩ := releaseTicket_ticketOf hi
    rcases h.queued rev i hi with hmem | hmem
    · exact Or.inl hmem
    · exact Or.inr ((List.mem_cons.mp hmem).resolve_left hne)
  · intro rev i hi
    exact h.held rev i (releaseTicket_ticketOf hi).2
  · intro rev hrev
    obtain ⟨i, t, hi, ht⟩ := h.waiting rev hrev
    have hne : rev ≠ ev := by
      rintro rfl
      exact hev hrev
    exact ⟨i, t, (Function.update_of_ne hne _ _).trans hi, ht⟩
  · intro rev hrev i t hi ht
    exact h.expired rev (List.mem_cons_of_mem ev hrev) i t (releaseTicket_ticketOf hi).2 ht
  · intro i hi
    rcases h.kept i hi with ⟨rev, hrev⟩ | ⟨f, hf, hfi⟩
    · by_cases hne : rev = ev
      · subst hne
        exact Or.inr ⟨_, List.mem_append_right _ List.mem_cons_self, hrev⟩
      · exact Or.inl ⟨rev, (Function.update_of_ne hne _ _).trans hrev⟩
    · exact Or.inr ⟨f, List.mem_append_left _ hf, hfi⟩

theorem Fired.released (h : Fired s (ev :: pending)) (ht : Tickets abi s timers (ev :: pending)) :
    Fired (releaseTicket s ev links phase) pending := by
  refine {
    fired_ticket := ?_, fired_released := ?_, once := ?_, order := ?_, pending_sorted := ?_
    ahead := ?_ }
  · intro f hf i hi
    rcases List.mem_append.mp hf with hf | hf
    · exact h.fired_ticket f hf i hi
    · obtain rfl := List.mem_singleton.mp hf
      obtain ⟨t, hget, htev, -⟩ := ht.held ev i hi
      obtain ⟨k, hk, hlen⟩ := ht.expired ev List.mem_cons_self i t hi hget
      refine ⟨t, hget, htev, hk.trans ?_⟩
      dsimp only
      rw [← hlen, Nat.add_sub_cancel]
  · intro f hf i hi rev hrev
    obtain ⟨hne, hrev⟩ := releaseTicket_ticketOf hrev
    rcases List.mem_append.mp hf with hf | hf
    · exact h.fired_released f hf i hi rev hrev
    · obtain rfl := List.mem_singleton.mp hf
      obtain ⟨t, hget, htev, -⟩ := ht.held ev i hi
      exact hne ((ht.held_eq hrev hget).1.symm.trans htev)
  · refine List.pairwise_append.mpr ⟨h.once, List.pairwise_singleton _ _, ?_⟩
    intro f hf g hg i hi hgi
    obtain rfl := List.mem_singleton.mp hg
    exact h.fired_released f hf i hi ev hgi
  · refine List.pairwise_append.mpr ⟨h.order, List.pairwise_singleton _ _, ?_⟩
    intro f hf g hg hsame i j t u hi hj hti huj
    obtain rfl := List.mem_singleton.mp hg
    obtain ⟨k, -, hlen⟩ := ht.expired ev List.mem_cons_self j u hj huj
    rw [(ht.held_eq hj huj).2]
    apply h.ahead f hf _ i t hi hti ev List.mem_cons_self
    · intro hnone
      rw [hnone] at hj
      cases hj
    · rw [hsame]
      dsimp only
      omega
  · have hsorted := (List.pairwise_cons.mp h.pending_sorted).2
    apply hsorted.imp
    intro a b hab ha hb
    exact hab (update_none_ne ha).2 (update_none_ne hb).2
  · intro f hf hround i t hi hget rev hrev hticket
    have hticket := (update_none_ne hticket).2
    rcases List.mem_append.mp hf with hf | hf
    · exact h.ahead f hf hround i t hi hget rev (List.mem_cons_of_mem ev hrev) hticket
    · obtain rfl := List.mem_singleton.mp hf
      rw [(ht.held_eq hi hget).2]
      apply (List.pairwise_cons.mp h.pending_sorted).1 rev hrev _ hticket
      intro hnone
      rw [hnone] at hi
      cases hi

theorem Watches.released (h : Watches s timers) :
    Watches (releaseTicket s ev links phase) timers := by
  refine { watched_free := fun i rev hi => ?_, watched_once := h.watched_once }
  obtain ⟨hmem, hnone⟩ := h.watched_free i rev hi
  refine ⟨hmem, (Function.update_apply _ _ _ _).trans ?_⟩
  rw [hnone, ite_self]

theorem Invariant.released (h : Invariant abi s timers (ev :: pending))
    (htimers : links.Ring .timer_list (timers.map .event))
    (hpending : links.Ring .pending_list (pending.map .event)) :
    Invariant abi (releaseTicket s ev links phase) timers pending := by
  have hev : ev ∉ timers := fun hmem => h.disjoint ev hmem List.mem_cons_self
  exact {
    timers_ring := htimers, pending_ring := hpending, sorted := h.sorted
    disjoint := fun rev hrev hmem => h.disjoint rev hrev (List.mem_cons_of_mem ev hmem)
    toTickets := h.toTickets.released hev
    toFired := h.toFired.released h.toTickets
    toWatches := h.toWatches.released }

end Released

/-- One round of the loop of `firePending` on a list that is not empty. -/
theorem Invariant.fire_cons (h : Invariant abi s timers (ev :: pending)) :
    ∃ t, EventTimers.fire s (.event ev) = some t ∧ Invariant abi t timers pending ∧
      t.phase = .firing ((pending.map .event).headD .pending_list) := by
  have hring := h.pending_ring
  obtain ⟨links, hremove, hpending, hagree⟩ :=
    @Pointers.Ring.remove _ s.links (.event ev) .pending_list [] (pending.map .event) _ hring
  have htimers : links.Ring .timer_list (timers.map .event) := by
    apply h.timers_ring.congr hagree
    exact h.toRings.event_disjoint
  have hnext := hring.seg.2.link_first.1
  refine ⟨releaseTicket s ev links (.firing ((pending.map .event).headD .pending_list)), ?_,
    h.released htimers hpending, rfl⟩
  rw [EventTimers.fire, hnext, Option.bind_some, hremove]
  rfl

theorem good_fire {x : Addr ι} (h : Good abi s) (hx : s.phase = .firing x) :
    ∃ t, fire s x = some t ∧ Good abi t := by
  obtain ⟨timers, pending, h, hat⟩ := h
  unfold AtPhase at hat
  rw [hx] at hat
  subst hat
  cases pending with
  | nil => exact ⟨{ s with phase := .top }, rfl, timers, [], { h with }, rfl⟩
  | cons ev pending =>
    obtain ⟨t, ht, h', hphase⟩ := h.fire_cons
    refine ⟨t, ht, timers, pending, h', ?_⟩
    unfold AtPhase
    rw [hphase]

theorem good_processTimeouts (h : Good abi s) (hphase : s.phase = .top) :
    ∃ t, EventTimers.processTimeouts s now = some t ∧ Good abi t := by
  obtain ⟨timers, pending, h, hat⟩ := h
  unfold AtPhase at hat
  rw [hphase] at hat
  subst hat
  obtain ⟨links, hmove, htimers, hpending⟩ := h.timers_ring.moveWhile (p := expired s now)
    h.pending_ring h.toRings.event_disjoint rfl h.length_lt
  rw [List.dropWhile_map] at htimers
  rw [List.takeWhile_map, List.map_nil, List.nil_append] at hpending
  have hp : ∀ ev, (expired s now ∘ Addr.event) ev = true ↔ Later now (s.timeout (.event ev)) := by
    intro ev
    rw [← timercmp_gt]
    simp [expired]
  refine ⟨_, ?_, _, _, h.processTimeouts links hp htimers hpending .timedOut, ?_⟩
  · rw [EventTimers.processTimeouts, h.timers_ring.next_head, Option.bind_some, hmove]
    rfl
  · intro i ev hi hmem
    have htake := List.takeWhile_prefix (l := timers) (expired s now ∘ Addr.event)
    exact (h.watched_free i ev hi).1 (htake.subset hmem)

theorem readReadies_invariant {rfds : Int → Bool} {is : List (Fin MAX_FD_EVENTS)} {n : Int}
    (h : Invariant abi s timers pending) (hnodup : is.Nodup)
    (hfree : ∀ i ∈ is, ∀ ev, s.watchTable i = some ev → ev ∉ pending) :
    ∃ t pending', readReadies rfds is n s = some t ∧ Invariant abi t timers pending' := by
  induction is generalizing s pending n with
  | nil => exact ⟨s, pending, rfl, h⟩
  | cons i is ih =>
    obtain ⟨hi, hnodup⟩ := List.nodup_cons.mp hnodup
    have hrest : ∀ j ∈ is, ∀ ev, s.watchTable j = some ev → ev ∉ pending :=
      fun j hj => hfree j (List.mem_cons_of_mem i hj)
    rw [readReadies]
    split_ifs with hn
    · cases hslot : s.watchTable i with
      | none => exact ih h hnodup hrest
      | some rev =>
        dsimp only
        by_cases hready : rfds (s.fd rev) = true
        · rw [if_pos hready]
          obtain ⟨htimers, hnone⟩ := h.watched_free i rev hslot
          have hpending := hfree i List.mem_cons_self rev hslot
          have hnode : Addr.event rev ∉ Addr.pending_list :: (pending.map .event ++ []) := by
            simpa using hpending
          obtain ⟨links, hinsert, hring, hagree⟩ :=
            @Pointers.Ring.insertBefore _ _ _ _ (pending.map Addr.event) [] _
              (by rw [List.append_nil]; exact h.pending_ring) hnode
          rw [List.headD_nil] at hinsert
          rw [hinsert, Option.bind_some]
          have htimers_ring : links.Ring .timer_list (timers.map .event) := by
            apply h.timers_ring.congr hagree
            intro y hy hmem
            rw [List.append_nil] at hmem
            rcases List.mem_cons.mp hmem with rfl | hmem
            · exact htimers (by simpa using hy)
            · exact h.toRings.event_disjoint y hy hmem
          have h' := h.addPending links htimers hnone htimers_ring
            (by rw [List.map_append]; exact hring)
          have hrest' : ∀ j ∈ is, ∀ ev, s.watchTable j = some ev → ev ∉ pending ++ [rev] := by
            intro j hj ev hev hmem
            rcases List.mem_append.mp hmem with hmem | hmem
            · exact hrest j hj ev hev hmem
            · obtain rfl := List.mem_singleton.mp hmem
              exact hi (h.watched_once i j ev hslot hev ▸ hj)
          by_cases hpersist : s.persist rev = true
          · rw [if_pos hpersist]
            exact ih h' hnodup hrest'
          · rw [if_neg hpersist]
            apply ih (h'.removeWatch i) hnodup
            intro j hj ev hev
            rcases update_eq_some hev with ⟨-, hnone⟩ | ⟨-, hev⟩
            · cases hnone
            · exact hrest' j hj ev hev
        · rw [if_neg hready]
          exact ih h hnodup hrest
    · exact ⟨s, pending, rfl, h⟩

theorem good_processReadReadies {rfds : Int → Bool} {n : Int} (h : Good abi s)
    (hphase : s.phase = .timedOut) :
    ∃ t, EventTimers.processReadReadies s rfds n = some t ∧ Good abi t := by
  obtain ⟨timers, pending, h, hat⟩ := h
  unfold AtPhase at hat
  rw [hphase] at hat
  have hloop : ∃ t pending', readReadies rfds (List.finRange MAX_FD_EVENTS) n s = some t ∧
      Invariant abi t timers pending' := by
    apply readReadies_invariant h (List.nodup_finRange MAX_FD_EVENTS)
    exact fun i _ => hat i
  obtain ⟨t, pending', ht, h'⟩ := hloop
  refine ⟨{ t with phase := .ready }, ?_, timers, pending', { h' with }, trivial⟩
  rw [EventTimers.processReadReadies, ht]
  rfl

theorem good_overwrite (h : Good abi s) (hev : Unqueued s ev) (next prev : Option (Addr ι))
    (timeout : Timeval) (fd : Int) (persist : Bool) :
    Good abi { s with
      links :=
        { next := Function.update s.links.next (.event ev) next
          prev := Function.update s.links.prev (.event ev) prev }
      timeout := Function.update s.timeout (.event ev) timeout
      fd := Function.update s.fd ev fd
      persist := Function.update s.persist ev persist } := by
  obtain ⟨timers, pending, h, hat⟩ := h
  obtain ⟨hevt, hevp⟩ := h.toRings.not_mem hev
  have hagree : Pointers.Agree [Addr.event ev] s.links
      { next := Function.update s.links.next (.event ev) next
        prev := Function.update s.links.prev (.event ev) prev } := by
    intro y hy
    have hne := List.ne_of_not_mem_cons hy
    exact ⟨Function.update_of_ne hne _ _, Function.update_of_ne hne _ _⟩
  refine ⟨timers, pending, h.overwrite _ _ _ _ hevt hevp ?_ ?_ ?_, hat⟩
  · intro rev hrev
    apply Function.update_of_ne
    simpa using hrev
  · apply h.timers_ring.congr hagree
    intro y hy hmem
    obtain rfl := List.mem_singleton.mp hmem
    exact hevt (by simpa using hy)
  · apply h.pending_ring.congr hagree
    intro y hy hmem
    obtain rfl := List.mem_singleton.mp hmem
    exact hevp (by simpa using hy)

/-! An event that is not queued goes to its place in `timer_list`, with a new ticket. -/

def giveTicket (s : State ι) (ev : ι) (links : Pointers (Addr ι)) : State ι :=
  { s with
    links := links
    tickets := s.tickets ++ [⟨ev, s.timeout (.event ev), s.readings.length⟩]
    ticketOf := Function.update s.ticketOf ev (some s.tickets.length) }

section Ticketed

variable {links : Pointers (Addr ι)} {timers' : List ι}

theorem giveTicket_ticketOf (hnone : s.ticketOf ev = none) (hi : s.ticketOf rev = some i) :
    (giveTicket s ev links).ticketOf rev = some i := by
  have hne : rev ≠ ev := by
    rintro rfl
    rw [hnone] at hi
    cases hi
  exact (Function.update_of_ne hne _ _).trans hi

theorem giveTicket_pending (hev : ev ∉ pending) (hrev : rev ∈ pending) :
    (giveTicket s ev links).ticketOf rev = s.ticketOf rev := by
  apply Function.update_of_ne
  rintro rfl
  exact hev hrev

theorem Tickets.ticketed (h : Tickets abi s timers pending)
    (hmem : ∀ rev, rev ∈ timers' ↔ rev = ev ∨ rev ∈ timers) (hev : ev ∉ pending)
    (hnone : s.ticketOf ev = none) (hproper : Proper abi (s.timeout (.event ev))) :
    Tickets abi (giveTicket s ev links) timers' pending := by
  refine { added := ?_, queued := ?_, held := ?_, waiting := ?_, expired := ?_, kept := ?_ }
  · intro t ht
    rcases List.mem_append.mp ht with ht | ht
    · exact h.added t ht
    · obtain rfl := List.mem_singleton.mp ht
      exact ⟨Nat.le_refl _, hproper⟩
  · intro rev i hi
    rcases update_eq_some hi with ⟨rfl, -⟩ | ⟨-, hi⟩
    · exact Or.inl ((hmem rev).mpr (Or.inl rfl))
    · exact (h.queued rev i hi).imp (fun hrev => (hmem rev).mpr (Or.inr hrev)) id
  · intro rev i hi
    rcases update_eq_some hi with ⟨rfl, hlen⟩ | ⟨-, hi⟩
    · cases hlen
      exact ⟨_, List.getElem?_concat_length, rfl, rfl⟩
    · obtain ⟨t, ht, hrev⟩ := h.held rev i hi
      exact ⟨t, getElem?_snoc_of_some ht, hrev⟩
  · intro rev hrev
    rcases (hmem rev).mp hrev with rfl | hrev
    · exact ⟨_, _, Function.update_self _ _ _, List.getElem?_concat_length, due_new rfl⟩
    · obtain ⟨i, t, hi, ht, hdue⟩ := h.waiting rev hrev
      exact ⟨i, t, giveTicket_ticketOf hnone hi, getElem?_snoc_of_some ht, hdue⟩
  · intro rev hrev i t hi ht
    rw [giveTicket_pending hev hrev] at hi
    obtain ⟨u, hu, -⟩ := h.held rev i hi
    exact h.expired rev hrev i t hi (getElem?_of_snoc hu ht)
  · intro i hi
    have hi : i < s.tickets.length + 1 := by
      simpa [giveTicket] using hi
    rcases Nat.lt_succ_iff_lt_or_eq.mp hi with hi | rfl
    · exact (h.kept i hi).imp (fun ⟨rev, hrev⟩ => ⟨rev, giveTicket_ticketOf hnone hrev⟩) id
    · exact Or.inl ⟨ev, Function.update_self _ _ _⟩

theorem Fired.ticketed (h : Fired s pending) (hev : ev ∉ pending) :
    Fired (giveTicket s ev links) pending := by
  have hfired : ∀ {f i t}, f ∈ s.fired → f.ticket = some i →
      (giveTicket s ev links).tickets[i]? = some t → s.tickets[i]? = some t := by
    intro f i t hf hi ht
    obtain ⟨u, hu, -⟩ := h.fired_ticket f hf i hi
    exact getElem?_of_snoc hu ht
  refine {
    fired_ticket := ?_, fired_released := ?_, once := h.once, order := ?_, pending_sorted := ?_
    ahead := ?_ }
  · intro f hf i hi
    obtain ⟨t, ht, hrest⟩ := h.fired_ticket f hf i hi
    exact ⟨t, getElem?_snoc_of_some ht, hrest⟩
  · intro f hf i hi rev hrev
    rcases update_eq_some hrev with ⟨-, hi'⟩ | ⟨-, hrev⟩
    · obtain ⟨u, hu, -⟩ := h.fired_ticket f hf i hi
      obtain ⟨hlt, -⟩ := List.getElem?_eq_some_iff.mp hu
      cases hi'
      exact Nat.lt_irrefl _ hlt
    · exact h.fired_released f hf i hi rev hrev
  · apply h.order.imp_of_mem
    intro f g hf hg hfg hsame i j t u hi hj ht hu
    exact hfg hsame i j t u hi hj (hfired hf hi ht) (hfired hg hj hu)
  · apply h.pending_sorted.imp_of_mem
    intro a b ha hb hab ha' hb'
    rw [giveTicket_pending hev ha] at ha'
    rw [giveTicket_pending hev hb] at hb'
    exact hab ha' hb'
  · intro f hf hround i t hi ht rev hrev hrev'
    rw [giveTicket_pending hev hrev] at hrev'
    exact h.ahead f hf hround i t hi (hfired hf hi ht) rev hrev hrev'

theorem Watches.ticketed (h : Watches s timers)
    (hmem : ∀ rev, rev ∈ timers' ↔ rev = ev ∨ rev ∈ timers)
    (hwatch : ∀ i, s.watchTable i ≠ some ev) : Watches (giveTicket s ev links) timers' := by
  refine { watched_free := fun i rev hi => ?_, watched_once := h.watched_once }
  have hrev : rev ≠ ev := by
    rintro rfl
    exact hwatch i hi
  obtain ⟨htimer, hticket⟩ := h.watched_free i rev hi
  refine ⟨fun hrev' => ?_, (Function.update_of_ne hrev _ _).trans hticket⟩
  exact ((hmem rev).mp hrev').elim hrev htimer

theorem Invariant.ticketed (h : Invariant abi s timers pending) (hev : ev ∉ pending)
    (hnone : s.ticketOf ev = none) (hwatch : ∀ i, s.watchTable i ≠ some ev)
    (hproper : Proper abi (s.timeout (.event ev)))
    (hp : ∀ rev, p rev = true ↔ Later (s.timeout (.event ev)) (s.timeout (.event rev)))
    (htimers : links.Ring .timer_list
      ((timers.takeWhile p ++ ev :: timers.dropWhile p).map .event))
    (hpending : links.Ring .pending_list (pending.map .event)) :
    Invariant abi (giveTicket s ev links) (timers.takeWhile p ++ ev :: timers.dropWhile p)
      pending := by
  have hmem : ∀ rev, rev ∈ timers.takeWhile p ++ ev :: timers.dropWhile p ↔
      rev = ev ∨ rev ∈ timers := by
    intro rev
    conv_rhs => rw [← List.takeWhile_append_dropWhile (p := p) (l := timers)]
    simp only [List.mem_append, List.mem_cons]
    tauto
  refine {
    timers_ring := htimers, pending_ring := hpending, disjoint := ?_, sorted := ?_
    toTickets := h.toTickets.ticketed hmem hev hnone hproper
    toFired := h.toFired.ticketed hev
    toWatches := h.toWatches.ticketed hmem hwatch }
  · intro rev hrev
    rcases (hmem rev).mp hrev with rfl | hrev
    · exact hev
    · exact h.disjoint rev hrev
  · apply pairwise_insert h.sorted
    · intro a ha
      exact not_later_of_later ((hp a).mp (List.mem_takeWhile_imp ha))
    · exact h.toRings.dropWhile_not_later hp

end Ticketed

/-- The place that the walk finds, and the lists behind the insertion. -/
theorem Rings.insert {q : Addr ι → Bool} {fuel : Nat} (h : Rings s timers pending)
    (hq : q .timer_list = false) (hfuel : (timers.map Addr.event).length < fuel)
    (hevt : ev ∉ timers) (hevp : ev ∉ pending) :
    ∃ place links, s.links.walkWhile q fuel ((timers.map .event).headD .timer_list) =
        some place ∧
      s.links.insertBefore (.event ev) place = some links ∧
      links.Ring .timer_list ((timers.takeWhile (q ∘ Addr.event) ++
        ev :: timers.dropWhile (q ∘ Addr.event)).map .event) ∧
      links.Ring .pending_list (pending.map .event) := by
  have hwalk := h.timers_ring.seg.walkWhile hq hfuel
  have hsplit := List.takeWhile_append_dropWhile (p := q) (l := timers.map .event)
  have hring := h.timers_ring
  rw [← hsplit] at hring
  have hnode : Addr.event ev ∉ Addr.timer_list ::
      ((timers.map .event).takeWhile q ++ (timers.map .event).dropWhile q) := by
    rw [hsplit]
    simpa using hevt
  obtain ⟨links, hinsert, htimers, hagree⟩ := hring.insertBefore hnode
  refine ⟨_, links, hwalk, hinsert, ?_, ?_⟩
  · rwa [List.map_append, List.map_cons, ← List.takeWhile_map, ← List.dropWhile_map]
  · apply h.pending_ring.congr hagree
    intro y hy hmem
    rw [hsplit] at hmem
    rcases List.mem_cons.mp hmem with rfl | hmem
    · exact hevp (by simpa using hy)
    · exact h.event_disjoint y hmem hy

theorem good_ril_timer_add {tv : Option Timeval} (h : Good abi s)
    (hadm : Admissible abi s (.ril_timer_add ev tv now)) :
    ∃ t, EventTimers.ril_timer_add abi s ev tv now = some t ∧ Good abi t := by
  cases tv with
  | none => exact ⟨s, rfl, h⟩
  | some tv =>
    obtain ⟨timers, pending, h, hat⟩ := h
    obtain ⟨htv, hnow, hev⟩ := hadm tv rfl
    obtain ⟨hevt, hevp⟩ := h.toRings.not_mem hev
    -- the fields of the event are written first
    let timeouts := Function.update s.timeout (.event ev) (timeradd abi now tv)
    let written := { s with timeout := timeouts, fd := Function.update s.fd ev (-1) }
    have hself : timeouts (.event ev) = timeradd abi now tv := Function.update_self _ _ _
    have hwritten : Invariant abi written timers pending := by
      apply h.overwrite s.links timeouts _ _ hevt hevp _ h.timers_ring h.pending_ring
      intro rev hrev
      apply Function.update_of_ne
      simpa using hrev
    -- the walk stops behind the earlier events
    obtain ⟨place, links, hwalk, hinsert, htimers, hpending⟩ :=
      @Rings.insert _ _ _ _ _ _ (earlier timeouts (timeradd abi now tv)) _ hwritten.toRings
        (by simp [earlier]) h.length_lt hevt hevp
    have hp : ∀ rev, (earlier timeouts (timeradd abi now tv) ∘ Addr.event) rev = true ↔
        Later (timeouts (.event ev)) (timeouts (.event rev)) := by
      intro rev
      rw [hself, ← timercmp_lt]
      simp [earlier]
    have hproper : Proper abi (timeouts (.event ev)) := by
      rw [hself]
      exact timeradd_proper hnow.toProper htv.toProper
    refine ⟨giveTicket written ev links, ?_, _, pending, hwritten.ticketed hevp (h.no_ticket hev)
      hev.unwatched hproper hp htimers hpending, hat⟩
    rw [EventTimers.ril_timer_add, h.timers_ring.next_head, Option.bind_some, hwalk,
      Option.bind_some, hinsert, Option.map_some, giveTicket]
    simp only [written, hself]
    rfl

end Writes

end Apq8084.Ril.EventTimers
