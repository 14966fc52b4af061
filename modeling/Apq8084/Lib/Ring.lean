import Mathlib.Logic.Function.Basic
import Mathlib.Data.List.Range
import Mathlib.Tactic.Common

/-! Circular buffers over signed machine indices: slots, contents, and how stores and
advances of the start change the contents. -/
namespace Ring

universe u
variable {ε : Type u} {data : Int → ε} {cap start i j : Int} {n k : Nat} {e : ε}

/-- The slot `i` places after `start`; the remainder truncates as in C. -/
def slot (cap start i : Int) : Int := (start + i).tmod cap

/-- One lap is the only wrap that bounded offsets can make. -/
theorem slot_eq (hs : 0 ≤ start) (hsc : start < cap) (hi : 0 ≤ i) (hic : i ≤ cap) :
    slot cap start i = if start + i < cap then start + i else start + i - cap := by
  have hmod : slot cap start i = (start + i) % cap := Int.tmod_eq_emod_of_nonneg (by omega)
  rw [hmod]
  split
  · exact Int.emod_eq_of_lt (by omega) ‹_›
  · rw [← Int.sub_emod_right]
    exact Int.emod_eq_of_lt (by omega) (by omega)

theorem slot_nonneg (hs : 0 ≤ start) (hsc : start < cap) (hi : 0 ≤ i) (hic : i ≤ cap) :
    0 ≤ slot cap start i := by
  rw [slot_eq hs hsc hi hic]
  split <;> omega

theorem slot_lt (hs : 0 ≤ start) (hsc : start < cap) (hi : 0 ≤ i) (hic : i ≤ cap) :
    slot cap start i < cap := by
  rw [slot_eq hs hsc hi hic]
  split <;> omega

theorem slot_zero (hs : 0 ≤ start) (hsc : start < cap) : slot cap start 0 = start := by
  rw [slot_eq hs hsc (Int.le_refl 0) (by omega)]
  split <;> omega

/-- Advancing the start shifts every later offset by one. -/
theorem slot_advance (hs : 0 ≤ start) (hsc : start < cap) (hi : 0 ≤ i) (hic : i + 1 ≤ cap) :
    slot cap (slot cap start 1) i = slot cap start (i + 1) := by
  have hn := slot_nonneg (i := 1) hs hsc (by omega) (by omega)
  have hl := slot_lt (i := 1) hs hsc (by omega) (by omega)
  have h1 := slot_eq (i := 1) hs hsc (by omega) (by omega)
  rw [slot_eq hn hl hi (by omega), slot_eq hs hsc (by omega) hic]
  split at h1 <;> split <;> split <;> omega

/-- The first `n` records from `start` on, in reading order. -/
def contents (data : Int → ε) (cap start : Int) (n : Nat) : List ε :=
  (List.range n).map fun i : Nat => data (slot cap start i)

@[simp] theorem contents_zero : contents data cap start 0 = [] := rfl

@[simp] theorem length_contents : (contents data cap start n).length = n := by
  simp [contents]

theorem contents_succ : contents data cap start (n + 1) =
    contents data cap start n ++ [data (slot cap start n)] := by
  simp [contents, List.range_succ]

/-- Reading the record at the start leaves the contents from the next slot on. -/
theorem contents_succ_cons (hs : 0 ≤ start) (hsc : start < cap) (hn : (n : Int) + 1 ≤ cap) :
    contents data cap start (n + 1) =
      data start :: contents data cap (slot cap start 1) n := by
  rw [contents, List.range_succ_eq_map, List.map_cons, List.map_map]
  congr 1
  · rw [Int.ofNat_zero, slot_zero hs hsc]
  · apply List.map_congr_left
    intro i hi
    have hin := List.mem_range.mp hi
    simp only [Function.comp_apply, Nat.succ_eq_add_one, Int.natCast_add, Int.natCast_one]
    rw [slot_advance hs hsc (by omega) (by omega)]

/-- A store outside the readable slots is not seen by the reader. -/
theorem contents_update (hj : ∀ i : Nat, i < n → slot cap start i ≠ j) :
    contents (Function.update data j e) cap start n = contents data cap start n := by
  apply List.map_congr_left
  intro i hi
  exact Function.update_of_ne (hj i (List.mem_range.mp hi)) e data

/-- The `k` records stored from index `first` on. -/
def segment (data : Int → ε) (first : Int) (k : Nat) : List ε :=
  (List.range k).map fun i : Nat => data (first + i)

@[simp] theorem segment_zero {first : Int} : segment data first 0 = [] := rfl

/-- Storing behind a segment extends it by the stored record. -/
theorem segment_update {first : Int} :
    segment (Function.update data (first + k) e) first (k + 1) = segment data first k ++ [e] := by
  rw [segment, List.range_succ, List.map_append, List.map_singleton, Function.update_self]
  congr 1
  apply List.map_congr_left
  intro i hi
  have hne : first + (i : Int) ≠ first + k := by
    have := List.mem_range.mp hi
    omega
  exact Function.update_of_ne hne e data

/-- A segment that starts right behind the contents continues them. -/
theorem contents_add {first : Int} (hs : 0 ≤ start) (hsc : start < cap)
    (hf : first = slot cap start n) (hk : first + k ≤ cap) (hn : (n : Int) + k ≤ cap) :
    contents data cap start (n + k) = contents data cap start n ++ segment data first k := by
  induction k with
  | zero => simp
  | succ k ih =>
    rw [← Nat.add_assoc, contents_succ, ih (by omega) (by omega), List.append_assoc]
    congr 1
    rw [segment, segment, List.range_succ, List.map_append, List.map_singleton]
    have hslot : slot cap start ((n + k : Nat) : Int) = first + k := by
      have h0 := slot_eq (i := (n : Int)) hs hsc (by omega) (by omega)
      have h1 := slot_eq (i := ((n + k : Nat) : Int)) hs hsc (by omega) (by omega)
      rw [h1]
      split at h0 <;> split <;> omega
    rw [hslot]

end Ring
