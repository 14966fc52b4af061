import Apq8084.Lib.Machine
import Mathlib.Data.List.FinRange
import Mathlib.Logic.Function.Basic
import Mathlib.Logic.ExistsUnique
import Mathlib.Order.Lattice
import Mathlib.Data.Fin.Basic

/-! The table of watched events of `ril_event.cpp`, kept beside the indices of the events, the set
`readFds` and the mark `nfds`. -/
namespace Apq8084.Ril.EventWatch

def MAX_FD_EVENTS : Nat := 8

/-- The number of bits of an `fd_set`. -/
def FD_SETSIZE : Nat := 1024

/-- What `ril_event_set` has put into the events, which are named by their addresses. -/
structure Events (ι : Type) where
  fd : ι → Nat
  persist : ι → Bool
  fd_injective : Function.Injective fd

structure State (ι : Type) where
  watchTable : Fin MAX_FD_EVENTS → Option ι
  index : ι → Int
  readFds : Nat → Bool
  nfds : Nat
  /-- The events in `pending_list`. -/
  pending : List ι
  /-- A bit outside `readFds` was written. -/
  outOfBounds : Bool

/-- `ril_event_init`, with events that `ril_event_set` has initialised. -/
def ril_event_init {ι : Type} : State ι :=
  { watchTable := fun _ => none, index := fun _ => -1, readFds := fun _ => false, nfds := 0
    pending := [], outOfBounds := false }

inductive Action (ι : Type) where
  | ril_event_add (ev : ι)
  | ril_event_del (ev : ι)
  | processReadReadies (rfds : Nat → Bool) (n : Int)
  | firePending

variable {ι : Type} (E : Events ι)

/-- `FD_SET` and `FD_CLR`. -/
def setBit (s : State ι) (fd : Nat) (value : Bool) : State ι :=
  if fd < FD_SETSIZE then { s with readFds := Function.update s.readFds fd value }
  else { s with outOfBounds := true }

/-- The body of the loop that looks for the largest fd. -/
def largerFd (s : State ι) (n : Nat) (i : Fin MAX_FD_EVENTS) : Nat :=
  match s.watchTable i with
  | none => n
  | some rev => if n < E.fd rev then E.fd rev else n

def maxFd (s : State ι) : Nat := (List.finRange MAX_FD_EVENTS).foldl (largerFd E s) 0

def firstFree (s : State ι) : Option (Fin MAX_FD_EVENTS) :=
  (List.finRange MAX_FD_EVENTS).find? fun i => (s.watchTable i).isNone

def Watched (s : State ι) (ev : ι) : Prop := ∃ i, s.watchTable i = some ev

/-- The watched events that are ready, in the order of the table. -/
def ready (s : State ι) (rfds : Nat → Bool) (is : List (Fin MAX_FD_EVENTS)) : List ι :=
  (is.filterMap s.watchTable).filter fun ev => rfds (E.fd ev)

/-- The four representations agree. -/
structure WellFormed (s : State ι) : Prop where
  index_eq : ∀ ev i, s.watchTable i = some ev → s.index ev = (i : Nat)
  index_neg : ∀ ev, ¬Watched s ev → s.index ev = -1
  readFds_iff : ∀ fd, s.readFds fd = true ↔ ∃! i, ∃ ev, s.watchTable i = some ev ∧ E.fd ev = fd
  fd_lt : ∀ ev, Watched s ev → E.fd ev < s.nfds
  inBounds : s.outOfBounds = false

variable {E} {s s' : State ι} {ev rev : ι} {i j : Fin MAX_FD_EVENTS} {fd : Nat} {value : Bool}

/-! The pieces. -/

@[simp] theorem setBit_watchTable : (setBit s fd value).watchTable = s.watchTable := by
  unfold setBit
  split_ifs <;> rfl

@[simp] theorem setBit_index : (setBit s fd value).index = s.index := by
  unfold setBit
  split_ifs <;> rfl

@[simp] theorem setBit_nfds : (setBit s fd value).nfds = s.nfds := by
  unfold setBit
  split_ifs <;> rfl

@[simp] theorem setBit_pending : (setBit s fd value).pending = s.pending := by
  unfold setBit
  split_ifs <;> rfl

theorem setBit_of_lt (h : fd < FD_SETSIZE) :
    setBit s fd value = { s with readFds := Function.update s.readFds fd value } :=
  if_pos h

theorem le_largerFd (s : State ι) (n : Nat) (i : Fin MAX_FD_EVENTS) : n ≤ largerFd E s n i := by
  unfold largerFd
  split
  · exact Nat.le_refl n
  · split_ifs <;> omega

theorem fd_le_largerFd (h : s.watchTable i = some ev) (n : Nat) :
    E.fd ev ≤ largerFd E s n i := by
  simp only [largerFd, h]
  split_ifs <;> omega

theorem le_foldl_largerFd (s : State ι) (is : List (Fin MAX_FD_EVENTS)) (n : Nat) :
    n ≤ is.foldl (largerFd E s) n := by
  induction is generalizing n with
  | nil => exact Nat.le_refl n
  | cons i is ih => exact Nat.le_trans (le_largerFd s n i) (ih _)

theorem fd_le_foldl_largerFd {is : List (Fin MAX_FD_EVENTS)} (hi : i ∈ is)
    (h : s.watchTable i = some ev) (n : Nat) : E.fd ev ≤ is.foldl (largerFd E s) n := by
  induction is generalizing n with
  | nil => cases hi
  | cons j is ih =>
    rcases List.mem_cons.mp hi with rfl | hi
    · exact Nat.le_trans (fd_le_largerFd h n) (le_foldl_largerFd s is _)
    · exact ih hi _

theorem fd_le_maxFd (h : s.watchTable i = some ev) : E.fd ev ≤ maxFd E s :=
  fd_le_foldl_largerFd (List.mem_finRange i) h 0

theorem firstFree_some (h : firstFree s = some i) : s.watchTable i = none := by
  have := List.find?_some h
  simpa using this

theorem firstFree_none (h : firstFree s = none) (i : Fin MAX_FD_EVENTS) :
    s.watchTable i ≠ none := by
  have := List.find?_eq_none.mp h i (List.mem_finRange i)
  simpa using this

/-- No event has two places in the table, and no fd two events. -/
theorem WellFormed.place_unique (h : WellFormed E s) (hi : s.watchTable i = some ev)
    (hj : s.watchTable j = some rev) (hfd : E.fd ev = E.fd rev) : i = j := by
  obtain rfl := E.fd_injective hfd
  have hij := (h.index_eq _ i hi).symm.trans (h.index_eq _ j hj)
  exact Fin.ext (Int.ofNat_inj.mp hij)

theorem WellFormed.readFds_iff_watched (h : WellFormed E s) :
    s.readFds fd = true ↔ ∃ ev, Watched s ev ∧ E.fd ev = fd := by
  rw [h.readFds_iff]
  constructor
  · rintro ⟨i, ⟨ev, hi, hfd⟩, -⟩
    exact ⟨ev, ⟨i, hi⟩, hfd⟩
  · rintro ⟨ev, ⟨i, hi⟩, rfl⟩
    refine ⟨i, ⟨ev, hi, rfl⟩, ?_⟩
    rintro j ⟨rev, hj, hfd⟩
    exact (h.place_unique hj hi hfd)

/-- The five facts, with the set of fds described by the watched events. -/
theorem wellFormed_of (hindex : ∀ ev i, s.watchTable i = some ev → s.index ev = (i : Nat))
    (hneg : ∀ ev, ¬Watched s ev → s.index ev = -1)
    (hfds : ∀ fd, s.readFds fd = true ↔ ∃ ev, Watched s ev ∧ E.fd ev = fd)
    (hlt : ∀ ev, Watched s ev → E.fd ev < s.nfds) (hin : s.outOfBounds = false) :
    WellFormed E s := by
  refine ⟨hindex, hneg, fun fd => ?_, hlt, hin⟩
  rw [hfds]
  constructor
  · rintro ⟨ev, ⟨i, hi⟩, rfl⟩
    refine ⟨i, ⟨ev, hi, rfl⟩, ?_⟩
    rintro j ⟨rev, hj, hfd⟩
    obtain rfl := E.fd_injective hfd
    have hij := (hindex _ j hj).symm.trans (hindex _ i hi)
    exact Fin.ext (Int.ofNat_inj.mp hij)
  · rintro ⟨i, ⟨ev, hi, hfd⟩, -⟩
    exact ⟨ev, ⟨i, hi⟩, hfd⟩

theorem wellFormed_init : WellFormed E ril_event_init := by
  apply wellFormed_of <;> simp [ril_event_init, Watched]

theorem pending_wellFormed (h : WellFormed E s) (l : List ι) :
    WellFormed E { s with pending := l } :=
  ⟨h.index_eq, h.index_neg, h.readFds_iff, h.fd_lt, h.inBounds⟩

theorem filterMap_update {is : List (Fin MAX_FD_EVENTS)} (hi : i ∉ is)
    (f : Fin MAX_FD_EVENTS → Option ι) :
    is.filterMap (Function.update f i none) = is.filterMap f := by
  apply List.filterMap_congr
  intro j hj
  apply Function.update_of_ne
  rintro rfl
  exact hi hj

/-- What the loop does from any place of the table on. -/
structure Processed (E : Events ι) (s s' : State ι) (queued : List ι) : Prop where
  wellFormed : WellFormed E s'
  pending : s'.pending = s.pending ++ queued
  watched : ∀ ev, Watched s' ev ↔ Watched s ev ∧ ¬(ev ∈ queued ∧ E.persist ev = false)

theorem processed_nil (h : WellFormed E s) : Processed E s s [] := by
  refine ⟨h, (List.append_nil _).symm, fun ev => ?_⟩
  simp

variable (E) [DecidableEq ι]

def removeWatch (s : State ι) (ev : ι) (index : Fin MAX_FD_EVENTS) : State ι :=
  let s := setBit
    { s with
      watchTable := Function.update s.watchTable index none
      index := Function.update s.index ev (-1) } (E.fd ev) false
  if E.fd ev + 1 = s.nfds then { s with nfds := maxFd E s + 1 } else s

def ril_event_add (s : State ι) (ev : ι) : State ι :=
  match firstFree s with
  | none => s
  | some i =>
    let s := setBit
      { s with
        watchTable := Function.update s.watchTable i (some ev)
        index := Function.update s.index ev (i : Nat) } (E.fd ev) true
    if s.nfds ≤ E.fd ev then { s with nfds := E.fd ev + 1 } else s

def ril_event_del (s : State ι) (ev : ι) : State ι :=
  if h : s.index ev < 0 ∨ (MAX_FD_EVENTS : Int) ≤ s.index ev then s
  else removeWatch E s ev ⟨(s.index ev).toNat, by omega⟩

/-- The loop of `processReadReadies` over the rest of the table. -/
def readReadies (rfds : Nat → Bool) : List (Fin MAX_FD_EVENTS) → Int → State ι → State ι
  | [], _, s => s
  | i :: is, n, s =>
    if 0 < n then
      match s.watchTable i with
      | none => readReadies rfds is n s
      | some rev =>
        if rfds (E.fd rev) then
          let s := { s with pending := s.pending ++ [rev] }
          let s := if E.persist rev then s else removeWatch E s rev i
          readReadies rfds is (n - 1) s
        else readReadies rfds is n s
    else s

def processReadReadies (s : State ι) (rfds : Nat → Bool) (n : Int) : State ι :=
  readReadies E rfds (List.finRange MAX_FD_EVENTS) n s

instance (s : State ι) (ev : ι) : Decidable (Watched s ev) :=
  inferInstanceAs (Decidable (∃ i, s.watchTable i = some ev))

/-- An event that is watched is not added again. The callbacks that `firePending` calls are
further actions. -/
def step (s : State ι) : Action ι → Option (State ι)
  | .ril_event_add ev => if Watched s ev then none else some (ril_event_add E s ev)
  | .ril_event_del ev => some (ril_event_del E s ev)
  | .processReadReadies rfds n => some (processReadReadies E s rfds n)
  | .firePending => some { s with pending := [] }

variable {E}

/-! Removing an event. -/

theorem removeWatch_watchTable :
    (removeWatch E s ev i).watchTable = Function.update s.watchTable i none := by
  unfold removeWatch
  simp only
  split_ifs <;> simp

theorem removeWatch_pending : (removeWatch E s ev i).pending = s.pending := by
  unfold removeWatch
  simp only
  split_ifs <;> simp

theorem removeWatch_index : (removeWatch E s ev i).index = Function.update s.index ev (-1) := by
  unfold removeWatch
  simp only
  split_ifs <;> simp

theorem removeWatch_readFds (hfd : E.fd ev < FD_SETSIZE) :
    (removeWatch E s ev i).readFds = Function.update s.readFds (E.fd ev) false ∧
      (removeWatch E s ev i).outOfBounds = s.outOfBounds := by
  unfold removeWatch
  simp only [setBit_of_lt hfd]
  split_ifs <;> exact ⟨rfl, rfl⟩

/-- Either the mark stays, or it is above everything that is left. -/
theorem removeWatch_nfds : (removeWatch E s ev i).nfds = s.nfds ∨
    ∀ rev, Watched (removeWatch E s ev i) rev → E.fd rev < (removeWatch E s ev i).nfds := by
  unfold removeWatch
  simp only
  split_ifs
  · right
    rintro rev ⟨j, hj⟩
    exact Nat.lt_succ_of_le (fd_le_maxFd hj)
  · exact Or.inl setBit_nfds

theorem watched_removeWatch (h : WellFormed E s) (hi : s.watchTable i = some ev) :
    Watched (removeWatch E s ev i) rev ↔ Watched s rev ∧ rev ≠ ev := by
  unfold Watched
  rw [removeWatch_watchTable]
  constructor
  · rintro ⟨j, hj⟩
    by_cases hij : j = i
    · rw [hij, Function.update_self] at hj
      cases hj
    · rw [Function.update_of_ne hij] at hj
      refine ⟨⟨j, hj⟩, ?_⟩
      rintro rfl
      exact hij (h.place_unique hj hi rfl)
  · rintro ⟨⟨j, hj⟩, hne⟩
    have hij : j ≠ i := by
      rintro rfl
      rw [hi] at hj
      cases hj
      exact hne rfl
    exact ⟨j, by rw [Function.update_of_ne hij, hj]⟩

theorem removeWatch_wellFormed (h : WellFormed E s) (hi : s.watchTable i = some ev)
    (hfd : E.fd ev < FD_SETSIZE) : WellFormed E (removeWatch E s ev i) := by
  obtain ⟨hfds, hin⟩ := @removeWatch_readFds _ E s ev i _ hfd
  have hwatched := fun rev => @watched_removeWatch _ E s ev rev i _ h hi
  apply wellFormed_of
  · intro rev j hj
    have hne := ((hwatched rev).mp ⟨j, hj⟩).2
    rw [removeWatch_watchTable, Function.update_apply] at hj
    split_ifs at hj
    rw [removeWatch_index, Function.update_of_ne hne]
    exact h.index_eq rev j hj
  · intro rev hrev
    rw [removeWatch_index, Function.update_apply]
    split_ifs with heq
    · rfl
    · exact h.index_neg rev fun hw => hrev ((hwatched rev).mpr ⟨hw, heq⟩)
  · intro fd
    rw [hfds, Function.update_apply]
    split_ifs with heq
    · refine iff_of_false (by simp) ?_
      rintro ⟨rev, hw, hrev⟩
      exact ((hwatched rev).mp hw).2 (E.fd_injective (hrev.trans heq))
    · rw [h.readFds_iff_watched]
      constructor
      · rintro ⟨rev, hw, rfl⟩
        exact ⟨rev, (hwatched rev).mpr ⟨hw, fun he => heq (he ▸ rfl)⟩, rfl⟩
      · rintro ⟨rev, hw, hrev⟩
        exact ⟨rev, ((hwatched rev).mp hw).1, hrev⟩
  · intro rev hrev
    rcases @removeWatch_nfds _ E s ev i _ with hn | hn
    · rw [hn]
      exact h.fd_lt rev ((hwatched rev).mp hrev).1
    · exact hn rev hrev
  · rw [hin]
    exact h.inBounds

/-! Adding one. -/

theorem add_full (h : firstFree s = none) : ril_event_add E s ev = s := by
  simp only [ril_event_add, h]

/-- A free place takes the event, if its bit is one of the set. -/
theorem add_free (h : firstFree s = some i) (hfd : E.fd ev < FD_SETSIZE) :
    ril_event_add E s ev =
      { s with
        watchTable := Function.update s.watchTable i (some ev)
        index := Function.update s.index ev (i : Nat)
        readFds := Function.update s.readFds (E.fd ev) true
        nfds := max s.nfds (E.fd ev + 1) } := by
  simp only [ril_event_add, h, setBit_of_lt hfd]
  split_ifs with hn
  · rw [max_eq_right (by omega)]
  · rw [max_eq_left (by omega)]

theorem watched_add (h : firstFree s = some i) (hfd : E.fd ev < FD_SETSIZE) :
    Watched (ril_event_add E s ev) rev ↔ rev = ev ∨ Watched s rev := by
  rw [add_free h hfd]
  simp only [Watched]
  constructor
  · rintro ⟨j, hj⟩
    rw [Function.update_apply] at hj
    split_ifs at hj
    · cases hj
      exact Or.inl rfl
    · exact Or.inr ⟨j, hj⟩
  · rintro (rfl | ⟨j, hj⟩)
    · exact ⟨i, Function.update_self ..⟩
    · have hij : j ≠ i := by
        rintro rfl
        rw [firstFree_some h] at hj
        cases hj
      exact ⟨j, by rw [Function.update_of_ne hij, hj]⟩

theorem add_wellFormed (h : WellFormed E s) (hnew : ¬Watched s ev) (hfd : E.fd ev < FD_SETSIZE) :
    WellFormed E (ril_event_add E s ev) := by
  cases hfree : firstFree s with
  | none =>
    rw [add_full hfree]
    exact h
  | some i =>
    have hwatched := fun rev => @watched_add _ E s ev rev i _ hfree hfd
    simp only [add_free hfree hfd] at hwatched ⊢
    apply wellFormed_of
    · intro rev j hj
      simp only at hj ⊢
      rw [Function.update_apply] at hj
      split_ifs at hj with hij
      · cases hj
        rw [Function.update_self, hij]
      · have hne : rev ≠ ev := by
          rintro rfl
          exact hnew ⟨j, hj⟩
        rw [Function.update_of_ne hne]
        exact h.index_eq rev j hj
    · intro rev hrev
      have hno := fun hw => hrev ((hwatched rev).mpr hw)
      simp only
      rw [Function.update_of_ne fun he => hno (Or.inl he)]
      exact h.index_neg rev fun hw => hno (Or.inr hw)
    · intro fd
      simp only
      rw [Function.update_apply]
      split_ifs with heq
      · exact iff_of_true rfl ⟨ev, (hwatched ev).mpr (Or.inl rfl), heq.symm⟩
      · rw [h.readFds_iff_watched]
        constructor
        · rintro ⟨rev, hw, hrev⟩
          exact ⟨rev, (hwatched rev).mpr (Or.inr hw), hrev⟩
        · rintro ⟨rev, hw, hrev⟩
          rcases (hwatched rev).mp hw with rfl | hw
          · exact absurd hrev.symm heq
          · exact ⟨rev, hw, hrev⟩
    · intro rev hrev
      simp only
      rcases (hwatched rev).mp hrev with rfl | hw
      · omega
      · have := h.fd_lt rev hw
        omega
    · exact h.inBounds

/-- The index of an event leads to its place in the table or out of it. -/
theorem del_cases (h : WellFormed E s) (ev : ι) :
    (¬Watched s ev ∧ ril_event_del E s ev = s) ∨
      ∃ i, s.watchTable i = some ev ∧ ril_event_del E s ev = removeWatch E s ev i := by
  by_cases hw : Watched s ev
  · obtain ⟨i, hi⟩ := hw
    right
    refine ⟨i, hi, ?_⟩
    have hindex := h.index_eq ev i hi
    have hlt := i.isLt
    unfold ril_event_del
    rw [dif_neg (by omega)]
    congr 1
    apply Fin.ext
    simp only
    omega
  · left
    refine ⟨hw, dif_pos ?_⟩
    left
    rw [h.index_neg ev hw]
    decide

/-! The loop of `processReadReadies`. -/

variable {rfds : Nat → Bool} {n : Int} {is : List (Fin MAX_FD_EVENTS)}

/-- One turn of the loop at a ready event. -/
def take (E : Events ι) (s : State ι) (rev : ι) (i : Fin MAX_FD_EVENTS) : State ι :=
  let s := { s with pending := s.pending ++ [rev] }
  if E.persist rev then s else removeWatch E s rev i

theorem take_pending : (take E s rev i).pending = s.pending ++ [rev] := by
  unfold take
  simp only
  split_ifs
  · rfl
  · exact removeWatch_pending

theorem take_wellFormed (h : WellFormed E s) (hi : s.watchTable i = some rev)
    (hfd : E.fd rev < FD_SETSIZE) : WellFormed E (take E s rev i) := by
  unfold take
  simp only
  split_ifs
  · exact pending_wellFormed h _
  · exact removeWatch_wellFormed (pending_wellFormed h _) hi hfd

theorem watched_take (h : WellFormed E s) (hi : s.watchTable i = some rev) :
    Watched (take E s rev i) ev ↔ Watched s ev ∧ ¬(ev = rev ∧ E.persist ev = false) := by
  unfold take
  simp only
  split_ifs with hp
  · refine (and_iff_left ?_).symm
    rintro ⟨rfl, hno⟩
    rw [hp] at hno
    cases hno
  · have hw := @watched_removeWatch _ E { s with pending := s.pending ++ [rev] } rev ev i _
      (pending_wellFormed h _) hi
    rw [hw]
    refine and_congr Iff.rfl (not_congr ⟨?_, And.left⟩)
    rintro rfl
    exact ⟨rfl, (Bool.not_eq_true _).mp hp⟩

theorem ready_take (hi : i ∉ is) : ready E (take E s rev i) rfds is = ready E s rfds is := by
  unfold ready take
  simp only
  split_ifs
  · rfl
  · rw [removeWatch_watchTable, filterMap_update hi]

theorem readReadies_cons (i : Fin MAX_FD_EVENTS) (s : State ι) :
    readReadies E rfds (i :: is) n s =
      if 0 < n then
        match s.watchTable i with
        | none => readReadies E rfds is n s
        | some rev =>
          if rfds (E.fd rev) then readReadies E rfds is (n - 1) (take E s rev i)
          else readReadies E rfds is n s
      else s := rfl

theorem Processed.cons {queued : List ι} (h : WellFormed E s) (hi : s.watchTable i = some rev)
    (hp : Processed E (take E s rev i) s' queued) : Processed E s s' (rev :: queued) := by
  refine ⟨hp.wellFormed, ?_, fun ev => ?_⟩
  · rw [hp.pending, take_pending, List.append_assoc]
    rfl
  · rw [hp.watched, watched_take h hi, List.mem_cons]
    tauto

theorem readReadies_processed (hfds : ∀ ev, E.fd ev < FD_SETSIZE) (h : WellFormed E s)
    (hnodup : is.Nodup) :
    Processed E s (readReadies E rfds is n s) ((ready E s rfds is).take n.toNat) := by
  induction is generalizing s n with
  | nil =>
    rw [ready, List.filterMap_nil, List.filter_nil, List.take_nil]
    exact processed_nil h
  | cons i is ih =>
    obtain ⟨hnot, hnodup⟩ := List.nodup_cons.mp hnodup
    rw [readReadies_cons]
    split_ifs with hn
    · cases hi : s.watchTable i with
      | none =>
        have hready : ready E s rfds (i :: is) = ready E s rfds is := by
          simp [ready, hi]
        rw [hready]
        exact ih h hnodup
      | some rev =>
        by_cases hset : rfds (E.fd rev) = true
        · have hready : ready E s rfds (i :: is) = rev :: ready E s rfds is := by
            simp [ready, hi, hset]
          have hcount : n.toNat = (n - 1).toNat + 1 := by omega
          simp only [hready, hcount, List.take_succ_cons, if_pos hset]
          apply Processed.cons h hi
          have hrest := ih (n := n - 1) (take_wellFormed (E := E) h hi (hfds rev)) hnodup
          rwa [ready_take hnot] at hrest
        · have hready : ready E s rfds (i :: is) = ready E s rfds is := by
            simp [ready, hi, hset]
          simp only [hready, if_neg hset]
          exact ih h hnodup
    · have hzero : n.toNat = 0 := by omega
      rw [hzero, List.take_zero]
      exact processed_nil h

theorem step_wellFormed (hfds : ∀ ev, E.fd ev < FD_SETSIZE) (s : State ι) (a : Action ι)
    (s' : State ι) (h : WellFormed E s) (hs : step E s a = some s') : WellFormed E s' := by
  cases a with
  | ril_event_add ev =>
    simp only [step] at hs
    split_ifs at hs with hw
    cases hs
    exact add_wellFormed h hw (hfds ev)
  | ril_event_del ev =>
    cases hs
    rcases del_cases h ev with ⟨-, heq⟩ | ⟨i, hi, heq⟩ <;> rw [heq]
    · exact h
    · exact removeWatch_wellFormed h hi (hfds ev)
  | processReadReadies rfds n =>
    cases hs
    exact (readReadies_processed hfds h (List.nodup_finRange _)).wellFormed
  | firePending =>
    cases hs
    exact pending_wellFormed h []

/-- Four events; every other one is persistent. -/
def four : Events (Fin 4) :=
  { fd := fun ev => ev.val, persist := fun ev => ev.val % 2 = 0
    fd_injective := fun _ _ => Fin.ext }

def addFour : List (Action (Fin 4)) := (List.finRange 4).map .ril_event_add

/-- Each event is its own fd. -/
def plain : Events Nat :=
  { fd := fun ev => ev, persist := fun ev => ev % 2 = 0, fd_injective := fun _ _ => id }

def addAll (l : List Nat) : List (Action Nat) := l.map .ril_event_add

def full : State Nat := (List.range 8).foldl (ril_event_add plain) ril_event_init

end Apq8084.Ril.EventWatch
