import Mathlib.Data.List.TakeWhile
import Mathlib.Tactic.Common

/-! C strings: their comparison, where each is given by what stands in front of its terminator, and
their copies in memory. -/
namespace CStrings

universe u
variable {α : Type u} [DecidableEq α] {n : Nat} {s t : List α}

/-- `strncmp(s, t, n)`: 0 for strings that agree up to `n` places or a common end, and otherwise
not 0. The end of a string is less than any character of the other. -/
def strncmp (less : α → α → Bool) : Nat → List α → List α → Int
  | 0, _, _ => 0
  | _ + 1, [], [] => 0
  | _ + 1, [], _ :: _ => -1
  | _ + 1, _ :: _, [] => 1
  | n + 1, a :: s, b :: t =>
    if a = b then strncmp less n s t else if less a b then -1 else 1

theorem strncmp_eq_zero_iff {less : α → α → Bool} :
    strncmp less n s t = 0 ↔ s.take n = t.take n := by
  induction n generalizing s t with
  | zero => exact iff_of_true rfl rfl
  | succ n ih =>
    match s, t with
    | [], [] => exact iff_of_true rfl rfl
    | [], b :: t => simp [strncmp]
    | a :: s, [] => simp [strncmp]
    | a :: s, b :: t =>
      by_cases hab : a = b
      · simp [strncmp, hab, ih]
      · have hne : strncmp less (n + 1) (a :: s) (b :: t) ≠ 0 := by
          simp only [strncmp, if_neg hab]
          split <;> decide
        simp [hne, hab]

/-- More places than the first string has make the comparison one for equality. -/
theorem strncmp_eq_zero_of_length_lt {less : α → α → Bool} (h : s.length < n) :
    strncmp less n s t = 0 ↔ t = s := by
  rw [strncmp_eq_zero_iff, List.take_of_length_le (Nat.le_of_lt h)]
  constructor
  · intro hs
    have hlen := congrArg List.length hs
    rw [List.length_take] at hlen
    rw [hs, List.take_of_length_le (by omega)]
  · rintro rfl
    exact (List.take_of_length_le (Nat.le_of_lt h)).symm

/-- As many places as it has make it one for a common beginning. -/
theorem strncmp_eq_zero_of_length_eq {less : α → α → Bool} (h : s.length = n) :
    strncmp less n s t = 0 ↔ ∃ u, t = s ++ u := by
  subst h
  rw [strncmp_eq_zero_iff, List.take_length]
  constructor
  · intro hs
    refine ⟨t.drop s.length, ?_⟩
    conv_lhs => rw [← List.take_append_drop s.length t, ← hs]
  · rintro ⟨u, rfl⟩
    exact List.take_left.symm

/-! ### Copies in memory -/

section

variable {size : Nat} {nul : α} {rest : List α}

/-- `strlcpy` into an array of `size` places that holds nothing but terminators. -/
def strlcpy (nul : α) (s : List α) (size : Nat) : List α :=
  s.take (size - 1) ++ List.replicate (size - (s.take (size - 1)).length) nul

/-- The string that starts here, if it ends somewhere. -/
def stringAt (nul : α) (b : List α) : Option (List α) :=
  if nul ∈ b then some (b.takeWhile (· ≠ nul)) else none

omit [DecidableEq α] in
theorem length_strlcpy (hsize : 0 < size) : (strlcpy nul s size).length = size := by
  have htake : (s.take (size - 1)).length ≤ size - 1 := List.length_take_le _ _
  rw [strlcpy, List.length_append, List.length_replicate]
  omega

theorem stringAt_terminated : stringAt nul (s ++ nul :: rest) = some (s.takeWhile (· ≠ nul)) := by
  have hwhile : (s ++ nul :: rest).takeWhile (· ≠ nul) = s.takeWhile (· ≠ nul) := by
    induction s with
    | nil => exact List.takeWhile_cons_of_neg (by simp)
    | cons x s ih => rw [List.cons_append, List.takeWhile_cons, List.takeWhile_cons, ih]
  rw [stringAt, if_pos (List.mem_append_right s List.mem_cons_self), hwhile]

/-- A copy is terminated, whatever is behind it. -/
theorem stringAt_strlcpy (hsize : 0 < size) : stringAt nul (strlcpy nul s size ++ rest) =
    some ((s.take (size - 1)).takeWhile (· ≠ nul)) := by
  have htake : (s.take (size - 1)).length ≤ size - 1 := List.length_take_le _ _
  obtain ⟨k, hk⟩ : ∃ k, size - (s.take (size - 1)).length = k + 1 :=
    ⟨size - (s.take (size - 1)).length - 1, by omega⟩
  rw [strlcpy, hk, List.replicate_succ, List.append_assoc, List.cons_append, stringAt_terminated]

/-- Nothing is cut off a string that is short enough and has no terminator inside. -/
theorem takeWhile_take_eq_iff :
    (s.take n).takeWhile (· ≠ nul) = s ↔ s.length ≤ n ∧ nul ∉ s := by
  constructor
  · intro h
    constructor
    · calc s.length = ((s.take n).takeWhile (· ≠ nul)).length := congrArg List.length h.symm
        _ ≤ (s.take n).length := (List.takeWhile_sublist _).length_le
        _ ≤ n := List.length_take_le _ _
    · intro hnul
      rw [← h] at hnul
      simpa using List.mem_takeWhile_imp hnul
  · rintro ⟨hlen, hnul⟩
    rw [List.take_of_length_le hlen, List.takeWhile_eq_self_iff]
    intro x hx
    exact decide_eq_true fun h => hnul (h ▸ hx)

end

/-- The bytes of a text of ASCII characters. -/
def ascii (s : String) : List UInt8 := s.toList.map fun c => UInt8.ofNat c.toNat

end CStrings
