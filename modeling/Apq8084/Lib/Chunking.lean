import Mathlib.Tactic.Common

/-! Event sequences whose runs of data arrive in pieces, and handlers that do not notice. -/
namespace Chunking

universe u v w
variable {τ : Type u} {α : Type v} {σ : Type w}

/-- What a reader reports: a mark, or a piece of data. -/
inductive Event (τ : Type u) (α : Type v) where
  | mark (t : τ)
  | data (s : List α)

/-- `cs` is `es` with each run of data cut into consecutive pieces, none of them empty. -/
inductive Splits : List (Event τ α) → List (Event τ α) → Prop where
  | nil : Splits [] []
  | mark (t : τ) {es cs : List (Event τ α)} (h : Splits es cs) :
      Splits (.mark t :: es) (.mark t :: cs)
  | data {pieces : List (List α)} (hp : pieces ≠ []) (hne : ∀ p ∈ pieces, p ≠ [])
      {es cs : List (Event τ α)} (h : Splits es cs) :
      Splits (.data pieces.flatten :: es) (pieces.map .data ++ cs)

/-- Two pieces one after the other act as the one piece they make up. -/
def Additive (handle : σ → Event τ α → σ) : Prop :=
  ∀ s p q, handle (handle s (.data p)) (.data q) = handle s (.data (p ++ q))

variable {handle : σ → Event τ α → σ} {es cs ds : List (Event τ α)} {s : σ}

theorem foldl_pieces (hadd : Additive handle) (p : List α) (pieces : List (List α)) :
    (pieces.map Event.data).foldl handle (handle s (.data p)) =
      handle s (.data (p ++ pieces.flatten)) := by
  induction pieces generalizing p with
  | nil => simp
  | cons q pieces ih =>
    have h := ih (p ++ q)
    rw [← hadd s p q] at h
    simpa using h

/-- An additive handler ends a split sequence as it ends the sequence itself. -/
theorem Splits.foldl_eq (hadd : Additive handle) (h : Splits es cs) :
    cs.foldl handle s = es.foldl handle s := by
  induction h generalizing s with
  | nil => rfl
  | mark t _ ih => exact ih
  | @data pieces hp _ es cs _ ih =>
    cases pieces with
    | nil => exact absurd rfl hp
    | cons p pieces =>
      have hpieces := foldl_pieces (s := s) hadd p pieces
      simp only [List.map_cons, List.cons_append, List.foldl_cons, List.foldl_append,
        List.flatten_cons, hpieces, ih]

end Chunking
