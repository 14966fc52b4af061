import Mathlib.Tactic.Common

/-! Planes of rows of bytes that are stored one behind the other: every byte has a place of its own,
and the planes leave no gap. -/
namespace Planes

/-- Rows that are `stride` bytes apart. -/
structure Plane where
  stride : Nat
  rows : Nat

def Plane.size (p : Plane) : Nat := p.stride * p.rows

def total : List Plane → Nat
  | [] => 0
  | p :: planes => p.size + total planes

/-- The place of a byte in plane `k`. -/
def offset : List Plane → Nat → Nat → Nat → Option Nat
  | [], _, _, _ => none
  | p :: _, 0, row, col =>
    if row < p.rows ∧ col < p.stride then some (p.stride * row + col) else none
  | p :: planes, k + 1, row, col => (offset planes k row col).map (p.size + ·)

variable {p : Plane} {planes : List Plane} {k k' row row' col col' a : Nat}

theorem place_lt_size (hrow : row < p.rows) (hcol : col < p.stride) :
    p.stride * row + col < p.size := by
  have hnext : p.stride * (row + 1) ≤ p.stride * p.rows := Nat.mul_le_mul_left _ hrow
  rw [Nat.mul_succ] at hnext
  unfold Plane.size
  omega

theorem offset_lt_total (h : offset planes k row col = some a) : a < total planes := by
  induction planes generalizing k a with
  | nil => cases h
  | cons p planes ih =>
    cases k with
    | zero =>
      obtain ⟨⟨hrow, hcol⟩, ⟨⟩⟩ := Option.ite_none_right_eq_some.mp h
      exact Nat.lt_add_right _ (place_lt_size hrow hcol)
    | succ k =>
      obtain ⟨b, hb, rfl⟩ := Option.map_eq_some_iff.mp h
      exact Nat.add_lt_add_left (ih hb) _

theorem place_inj (hcol : col < p.stride) (hcol' : col' < p.stride)
    (h : p.stride * row + col = p.stride * row' + col') : row = row' ∧ col = col' := by
  have hpos : 0 < p.stride := by omega
  have hrow : row = row' := by
    have hdiv := congrArg (· / p.stride) h
    simpa only [Nat.mul_add_div hpos, Nat.div_eq_of_lt hcol, Nat.div_eq_of_lt hcol',
      Nat.add_zero] using hdiv
  subst hrow
  exact ⟨rfl, Nat.add_left_cancel h⟩

/-- No byte has the place of another one. -/
theorem offset_injective (h : offset planes k row col = some a)
    (h' : offset planes k' row' col' = some a) : k = k' ∧ row = row' ∧ col = col' := by
  induction planes generalizing k k' a with
  | nil => cases h
  | cons p planes ih =>
    cases k with
    | zero =>
      obtain ⟨⟨hrow, hcol⟩, ⟨⟩⟩ := Option.ite_none_right_eq_some.mp h
      cases k' with
      | zero =>
        obtain ⟨⟨hrow', hcol'⟩, hplace⟩ := Option.ite_none_right_eq_some.mp h'
        exact ⟨rfl, place_inj hcol hcol' (Option.some.inj hplace).symm⟩
      | succ k' =>
        obtain ⟨b, -, hplace⟩ := Option.map_eq_some_iff.mp h'
        have hlt := place_lt_size hrow hcol
        omega
    | succ k =>
      obtain ⟨b, hb, rfl⟩ := Option.map_eq_some_iff.mp h
      cases k' with
      | zero =>
        obtain ⟨⟨hrow', hcol'⟩, hplace⟩ := Option.ite_none_right_eq_some.mp h'
        have hlt := place_lt_size hrow' hcol'
        have hplace := Option.some.inj hplace
        omega
      | succ k' =>
        obtain ⟨b', hb', hplace⟩ := Option.map_eq_some_iff.mp h'
        obtain rfl : b' = b := Nat.add_left_cancel hplace
        obtain ⟨rfl, hrest⟩ := ih hb hb'
        exact ⟨rfl, hrest⟩

/-- A byte of a plane has a place. -/
theorem exists_offset (hp : planes[k]? = some p) (hrow : row < p.rows) (hcol : col < p.stride) :
    ∃ a, offset planes k row col = some a := by
  induction planes generalizing k with
  | nil => cases hp
  | cons q planes ih =>
    cases k with
    | zero =>
      obtain rfl : q = p := Option.some.inj hp
      exact ⟨_, if_pos ⟨hrow, hcol⟩⟩
    | succ k =>
      obtain ⟨a, ha⟩ := ih hp
      exact ⟨_, by rw [offset, ha]; rfl⟩

variable {qs : List Plane}

theorem total_append : total (planes ++ qs) = total planes + total qs := by
  induction planes with
  | nil => exact (Nat.zero_add _).symm
  | cons p planes ih => rw [List.cons_append, total, total, ih, Nat.add_assoc]

/-- Planes behind others are moved by what those take. -/
theorem offset_append : offset (planes ++ qs) (planes.length + k) row col =
    (offset qs k row col).map (total planes + ·) := by
  induction planes with
  | nil =>
    rw [List.nil_append, List.length_nil, Nat.zero_add]
    cases offset qs k row col with
    | none => rfl
    | some a => exact congrArg some (Nat.zero_add a).symm
  | cons p planes ih =>
    rw [List.cons_append, List.length_cons, Nat.add_right_comm, offset, ih]
    cases offset qs k row col with
    | none => rfl
    | some a => exact congrArg some (Nat.add_assoc _ _ _).symm

end Planes
