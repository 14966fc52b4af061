import Mathlib.Tactic.Common

/-! A loop that computes the places of a vector in order and gives up where one cannot be
computed. -/
namespace FillLoop

universe u
variable {α : Type u} {f g : Nat → Option α} {todo i : Nat} {v out : List α}

/-- Compute `todo` places from the `i`th on. -/
def fill (f : Nat → Option α) : Nat → Nat → List α → Option (List α)
  | 0, _, v => some v
  | todo + 1, i, v =>
    match f i with
    | none => none
    | some a => fill f todo (i + 1) (v.set i a)

/-- It gives up exactly when one of the places cannot be computed. -/
theorem fill_eq_none_iff : fill f todo i v = none ↔ ∃ j, i ≤ j ∧ j < i + todo ∧ f j = none := by
  induction todo generalizing i v with
  | zero =>
    simp only [fill, reduceCtorEq, false_iff, not_exists, not_and]
    intro j hlo hhi
    omega
  | succ todo ih =>
    cases hi : f i with
    | none =>
      rw [fill, hi]
      exact iff_of_true rfl ⟨i, Nat.le_refl i, by omega, hi⟩
    | some a =>
      rw [fill, hi]
      refine ih.trans ⟨?_, ?_⟩
      · rintro ⟨j, hlo, hhi, hj⟩
        exact ⟨j, by omega, by omega, hj⟩
      · rintro ⟨j, hlo, hhi, hj⟩
        have hne : j ≠ i := by
          rintro rfl
          rw [hi] at hj
          cases hj
        exact ⟨j, by omega, by omega, hj⟩

/-- Otherwise each place has its value, and the places before and behind keep theirs. -/
theorem fill_spec (h : fill f todo i v = some out) (hlen : i + todo ≤ v.length) :
    out.length = v.length ∧ (∀ j, j < i → out[j]? = v[j]?) ∧
      ∀ j, i ≤ j → j < i + todo → ∃ a, f j = some a ∧ out[j]? = some a := by
  induction todo generalizing i v with
  | zero =>
    cases h
    exact ⟨rfl, fun _ _ => rfl, fun j hlo hhi => by omega⟩
  | succ todo ih =>
    cases hi : f i with
    | none =>
      rw [fill, hi] at h
      cases h
    | some a =>
      rw [fill, hi] at h
      obtain ⟨hout, hbefore, hplaces⟩ := ih h (by rw [List.length_set]; omega)
      refine ⟨by rw [hout, List.length_set], ?_, ?_⟩
      · intro j hj
        rw [hbefore j (by omega), List.getElem?_set_ne (by omega)]
      · intro j hlo hhi
        rcases Nat.eq_or_lt_of_le hlo with rfl | hlt
        · exact ⟨a, hi, by rw [hbefore i (by omega), List.getElem?_set_self (by omega)]⟩
        · exact hplaces j hlt (by omega)

/-- Only the places that are computed matter. -/
theorem fill_congr (h : ∀ j, i ≤ j → j < i + todo → f j = g j) :
    fill f todo i v = fill g todo i v := by
  induction todo generalizing i v with
  | zero => rfl
  | succ todo ih =>
    rw [fill, fill, h i (Nat.le_refl i) (by omega)]
    cases g i with
    | none => rfl
    | some a => exact ih fun j hlo hhi => h j (by omega) (by omega)

end FillLoop
