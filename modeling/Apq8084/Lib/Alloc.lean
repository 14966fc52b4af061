import Mathlib.Algebra.BigOperators.Group.List.Basic
import Mathlib.Algebra.Order.Group.Multiset
import Mathlib.Data.Multiset.Basic
import Mathlib.Tactic.Common

/-! Code that allocates blocks of memory, each of which may be refused, and frees them: who owns
which block, and that none is freed twice or used after it was freed. -/
namespace Alloc

/-- A null pointer, or the address of a block. -/
abbrev Ptr := Option Nat

/-- Addresses are not used again, so that a stale pointer is told from a live one. -/
structure Heap where
  live : Multiset Nat
  next : Nat
  /-- How many allocations were tried. -/
  tried : Nat
  /-- A block was used or freed that was not live. -/
  fault : Bool
  nodup : live.Nodup
  below : ∀ a ∈ live, a < next

def emptyHeap : Heap :=
  ⟨0, 0, 0, false, Multiset.nodup_zero, fun _ ha => (Multiset.notMem_zero _ ha).elim⟩

/-- Code that changes the heap. -/
def Code (α : Type) : Type := Heap → α × Heap

variable {α β : Type} {h : Heap} {M N : Multiset Nat} {P : Heap → Prop} {Q R : α → Heap → Prop}
  {ps qs : List Ptr}

def ret (a : α) : Code α := fun h => (a, h)

def andThen (p : Code α) (f : α → Code β) : Code β := fun h => f (p h).1 (p h).2

instance : Monad Code where
  pure := ret
  bind := andThen

/-- `calloc` or `malloc`, where `grants` says which allocations succeed. -/
def allocate (grants : Nat → Bool) : Code Ptr := fun h =>
  if grants h.tried then
    (some h.next,
      { live := h.next ::ₘ h.live, next := h.next + 1, tried := h.tried + 1, fault := h.fault
        nodup := Multiset.nodup_cons.mpr ⟨fun hmem => Nat.lt_irrefl _ (h.below _ hmem), h.nodup⟩
        below := fun a ha => by
          rcases Multiset.mem_cons.mp ha with rfl | ha
          · exact Nat.lt_succ_self _
          · exact Nat.lt_succ_of_lt (h.below a ha) })
  else (none, { h with tried := h.tried + 1 })

/-- A null pointer may be freed. -/
def free : Ptr → Code Unit
  | none => ret ()
  | some a => fun h =>
    ((), if a ∈ h.live then
        { h with
          live := h.live.erase a
          nodup := h.nodup.erase a
          below := fun b hb => h.below b (Multiset.mem_of_mem_erase hb) }
      else { h with fault := true })

def freeAll : List Ptr → Code Unit
  | [] => ret ()
  | p :: ps => do
    free p
    freeAll ps

/-- Pass the pointers to somebody who may follow those that are not null. -/
def use (ps : List Ptr) : Code Unit := fun h =>
  ((), if ∀ p ∈ ps, ∀ a, p = some a → a ∈ h.live then h else { h with fault := true })

/-- The block behind a pointer. -/
def block : Ptr → Multiset Nat
  | none => 0
  | some a => {a}

def blocks (ps : List Ptr) : Multiset Nat := (ps.map block).sum

/-- Nothing went wrong, and these are the live blocks. -/
def Heap.Owns (h : Heap) (M : Multiset Nat) : Prop := h.fault = false ∧ h.live = M

def Triple (P : Heap → Prop) (p : Code α) (Q : α → Heap → Prop) : Prop :=
  ∀ h, P h → Q (p h).1 (p h).2

@[simp] theorem blocks_nil : blocks [] = 0 := rfl

@[simp] theorem blocks_cons (p : Ptr) : blocks (p :: ps) = block p + blocks ps := by
  rw [blocks, List.map_cons, List.sum_cons, blocks]

@[simp] theorem blocks_append : blocks (ps ++ qs) = blocks ps + blocks qs := by
  rw [blocks, List.map_append, List.sum_append, blocks, blocks]

theorem mem_blocks {a : Nat} (hmem : some a ∈ ps) : a ∈ blocks ps := by
  induction ps with
  | nil => cases hmem
  | cons p ps ih =>
    rw [blocks_cons, Multiset.mem_add]
    rcases List.mem_cons.mp hmem with rfl | hmem
    · exact .inl (Multiset.mem_singleton_self a)
    · exact .inr (ih hmem)

theorem blocks_replicate_none (n : Nat) : blocks (List.replicate n none) = 0 := by
  induction n with
  | zero => rfl
  | succ n ih =>
    rw [List.replicate_succ, blocks_cons, ih]
    rfl

theorem blocks_perm (hperm : ps.Perm qs) : blocks ps = blocks qs := (hperm.map block).sum_eq

/-- A null pointer need not be in the list. -/
theorem blocks_erase {p : Ptr} (hp : p = none ∨ p ∈ ps) :
    blocks ps = block p + blocks (ps.erase p) := by
  by_cases hmem : p ∈ ps
  · rw [blocks_perm (List.perm_cons_erase hmem), blocks_cons]
  · obtain rfl : p = none := hp.resolve_right hmem
    rw [List.erase_of_not_mem hmem]
    exact (zero_add _).symm

/-- Another pointer at one place. -/
theorem blocks_set {i : Nat} {old : Ptr} (hold : ps[i]? = some old) :
    ∃ N, blocks ps = block old + N ∧ ∀ p, blocks (ps.set i p) = block p + N := by
  induction ps generalizing i with
  | nil => cases hold
  | cons q ps ih =>
    cases i with
    | zero =>
      obtain rfl : q = old := Option.some.inj hold
      exact ⟨blocks ps, blocks_cons q, fun p => blocks_cons p⟩
    | succ i =>
      obtain ⟨N, hN, hset⟩ := ih hold
      refine ⟨block q + N, ?_, fun p => ?_⟩
      · rw [blocks_cons, hN, add_left_comm]
      · rw [List.set_cons_succ, blocks_cons, hset, add_left_comm]

theorem triple_pure {a : α} (hpq : ∀ h, P h → Q a h) : Triple P (pure a) Q := hpq

theorem triple_bind {p : Code α} {f : α → Code β} {R : β → Heap → Prop} (hp : Triple P p Q)
    (hf : ∀ a, Triple (Q a) (f a) R) : Triple P (p >>= f) R :=
  fun h hh => hf (p h).1 (p h).2 (hp h hh)

theorem triple_pre {p : Code α} {P' : Heap → Prop} (hp : Triple P p Q) (hpp : ∀ h, P' h → P h) :
    Triple P' p Q :=
  fun h hh => hp h (hpp h hh)

/-- A part of the precondition that is not about the heap. -/
theorem triple_given {p : Code α} {c : Prop} (hp : c → Triple P p Q) :
    Triple (fun h => P h ∧ c) p Q :=
  fun h hh => hp hh.2 h hh.1

/-- A block that is granted is a new one. -/
theorem triple_allocate (grants : Nat → Bool) :
    Triple (Heap.Owns · M) (allocate grants) fun p h => h.Owns (block p + M) := by
  intro h hh
  unfold allocate
  split
  · exact ⟨hh.1, by rw [← hh.2]; rfl⟩
  · exact ⟨hh.1, by rw [← hh.2]; exact (zero_add _).symm⟩

theorem triple_free (p : Ptr) :
    Triple (Heap.Owns · (block p + M)) (free p) fun _ h => h.Owns M := by
  intro h hh
  cases p with
  | none => exact ⟨hh.1, hh.2.trans (zero_add _)⟩
  | some a =>
    have hlive : h.live = a ::ₘ M := hh.2
    have hmem : a ∈ h.live := by
      rw [hlive]
      exact Multiset.mem_cons_self a M
    simp only [free, if_pos hmem]
    refine ⟨hh.1, ?_⟩
    simp only [hlive, Multiset.erase_cons_head]

theorem triple_freeAll (ps : List Ptr) :
    Triple (Heap.Owns · (blocks ps + M)) (freeAll ps) fun _ h => h.Owns M := by
  induction ps with
  | nil =>
    intro h hh
    exact ⟨hh.1, hh.2.trans (zero_add _)⟩
  | cons p ps ih =>
    apply triple_pre (triple_bind (triple_free p) fun _ => ih)
    intro h hh
    rwa [blocks_cons, add_assoc] at hh

theorem blocks_flatMap (l : List α) (f : α → List Ptr) :
    blocks (l.flatMap f) = (l.map fun a => blocks (f a)).sum := by
  induction l with
  | nil => rfl
  | cons a l ih => rw [List.flatMap_cons, blocks_append, ih, List.map_cons, List.sum_cons]

theorem triple_use_mem (hqs : ∀ a, some a ∈ qs → a ∈ M) :
    Triple (Heap.Owns · M) (use qs) fun _ h => h.Owns M := by
  intro h hh
  have hlive : ∀ p ∈ qs, ∀ a, p = some a → a ∈ h.live := by
    rintro p hp a rfl
    rw [hh.2]
    exact hqs a hp
  simp only [use, if_pos hlive]
  exact hh

theorem triple_use (hqs : ∀ a, some a ∈ qs → some a ∈ ps) :
    Triple (Heap.Owns · (blocks ps + M)) (use qs) fun _ h => h.Owns (blocks ps + M) :=
  triple_use_mem fun a ha => Multiset.mem_add.mpr (.inl (mem_blocks (hqs a ha)))

end Alloc
