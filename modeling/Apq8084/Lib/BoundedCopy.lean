import Mathlib.Logic.Function.Basic
import Mathlib.Tactic.Common

/-! The loop `for (i = 0; i < count; i++) dst[i] = convert(src[i]);` and the indices it uses. -/

universe u v

/-- What such a loop has done: the indices it has read and written, and the entries written. -/
structure BoundedCopy (β : Type v) where
  reads : List Nat
  writes : List Nat
  dst : Nat → Option β

namespace BoundedCopy

variable {α : Type u} {β : Type v} {convert : α → β} {src : Nat → α}
  {i n readBound writeBound : Nat}

def start : BoundedCopy β := { reads := [], writes := [], dst := fun _ => none }

/-- One round. -/
def round (convert : α → β) (src : Nat → α) (c : BoundedCopy β) (i : Nat) : BoundedCopy β :=
  { reads := c.reads ++ [i]
    writes := c.writes ++ [i]
    dst := Function.update c.dst i (some (convert (src i))) }

/-- The loop. Behind the end of the array `src` says what the memory holds there. -/
def copy (convert : α → β) (src : Nat → α) (count : Nat) : BoundedCopy β :=
  (List.range count).foldl (round convert src) start

theorem copy_succ : copy convert src (n + 1) = round convert src (copy convert src n) n := by
  rw [copy, List.range_succ, List.foldl_append]
  rfl

theorem reads_copy (n : Nat) : (copy convert src n).reads = List.range n := by
  induction n with
  | zero => rfl
  | succ n ih => rw [copy_succ, round, ih, List.range_succ]

theorem writes_copy (n : Nat) : (copy convert src n).writes = List.range n := by
  induction n with
  | zero => rfl
  | succ n ih => rw [copy_succ, round, ih, List.range_succ]

/-- The first entries are converted, and no other entry is touched. -/
theorem dst_copy (n i : Nat) :
    (copy convert src n).dst i = if i < n then some (convert (src i)) else none := by
  induction n with
  | zero => exact (if_neg (Nat.not_lt_zero i)).symm
  | succ n ih =>
    rw [copy_succ, round]
    simp only
    by_cases hi : i = n
    · rw [hi, Function.update_self, if_pos (Nat.lt_succ_self n)]
    · rw [Function.update_of_ne hi, ih]
      have hlt : i < n ↔ i < n + 1 := by omega
      simp only [hlt]

theorem forall_range_lt : (∀ i ∈ List.range n, i < readBound) ↔ n ≤ readBound := by
  constructor
  · intro h
    cases n with
    | zero => exact Nat.zero_le readBound
    | succ n => exact h n (List.mem_range.mpr (Nat.lt_succ_self n))
  · intro h i hi
    exact Nat.lt_of_lt_of_le (List.mem_range.mp hi) h

/-- All indices are within the bounds of the arrays, and `count` entries were converted. -/
structure Within (readBound writeBound count : Nat) (c : BoundedCopy β) : Prop where
  reads_lt : ∀ i ∈ c.reads, i < readBound
  writes_lt : ∀ i ∈ c.writes, i < writeBound
  length_writes : c.writes.length = count
  converted : ∀ i, (c.dst i).isSome = true ↔ i < count

/-- The loop stays within the bounds exactly when the count does. -/
theorem within_copy (n : Nat) : Within readBound writeBound n (copy convert src n) ↔
    n ≤ readBound ∧ n ≤ writeBound := by
  constructor
  · intro h
    have hreads := h.reads_lt
    have hwrites := h.writes_lt
    rw [reads_copy, forall_range_lt] at hreads
    rw [writes_copy, forall_range_lt] at hwrites
    exact ⟨hreads, hwrites⟩
  · rintro ⟨hreads, hwrites⟩
    refine ⟨?_, ?_, ?_, fun i => ?_⟩
    · rw [reads_copy, forall_range_lt]
      exact hreads
    · rw [writes_copy, forall_range_lt]
      exact hwrites
    · rw [writes_copy, List.length_range]
    · rw [dst_copy]
      split_ifs with hi
      · exact iff_of_true rfl hi
      · exact iff_of_false Bool.false_ne_true hi

end BoundedCopy
