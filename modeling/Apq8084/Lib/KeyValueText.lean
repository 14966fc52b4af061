import Mathlib.Tactic.Common

/-! Texts of the form `key = value ; … ; key = value`, for any two symbols in the places of
`=` and `;`. -/

universe u

namespace KeyValueText

variable {A : Type u} [DecidableEq A] {b c eq semi : A} {k s t v : List A}
  {e : List A × List A} {l : List (List A × List A)}

/-- The text in front of the first `c` and the text behind it. -/
def cut (c : A) : List A → Option (List A × List A)
  | [] => none
  | b :: s => if b = c then some ([], s) else (cut c s).map fun p => (b :: p.1, p.2)

theorem cut_eq_none : cut c s = none ↔ c ∉ s := by
  induction s with
  | nil => exact iff_of_true rfl List.not_mem_nil
  | cons b s ih =>
    rw [cut, List.mem_cons]
    split_ifs with hb
    · exact iff_of_false nofun fun h => h (Or.inl hb.symm)
    · rw [Option.map_eq_none_iff, ih]
      constructor
      · rintro hs (h | h)
        · exact hb h.symm
        · exact hs h
      · exact fun h hs => h (Or.inr hs)

theorem cut_append (h : c ∉ k) : cut c (k ++ c :: t) = some (k, t) := by
  induction k with
  | nil => exact if_pos rfl
  | cons b k ih =>
    have hb : b ≠ c := fun hb => h (List.mem_cons.mpr (Or.inl hb.symm))
    have hk : c ∉ k := fun hk => h (List.mem_cons_of_mem b hk)
    rw [List.cons_append, cut, if_neg hb, ih hk]
    rfl

theorem cut_eq_some (h : cut c s = some (k, t)) : c ∉ k ∧ s = k ++ c :: t := by
  induction s generalizing k with
  | nil => cases h
  | cons b s ih =>
    rw [cut] at h
    split_ifs at h with hb
    · cases h
      subst hb
      exact ⟨List.not_mem_nil, rfl⟩
    · obtain ⟨⟨k, t⟩, hs, h⟩ := Option.map_eq_some_iff.mp h
      cases h
      obtain ⟨hk, rfl⟩ := ih hs
      refine ⟨fun h => ?_, rfl⟩
      rcases List.mem_cons.mp h with h | h
      · exact hb h.symm
      · exact hk h

theorem length_cut (h : cut c s = some (k, t)) : t.length < s.length := by
  obtain ⟨-, rfl⟩ := cut_eq_some h
  rw [List.length_append, List.length_cons]
  omega

/-- Keys and values that the separators tell apart. -/
def Separable (eq semi : A) (e : List A × List A) : Prop := eq ∉ e.1 ∧ semi ∉ e.2

def joinPairs (eq semi : A) : List (List A × List A) → List A
  | [] => []
  | [e] => e.1 ++ eq :: e.2
  | e :: f :: l => e.1 ++ eq :: (e.2 ++ semi :: joinPairs eq semi (f :: l))

/-- Read a key up to `eq` and its value up to `semi`, until either is missing. -/
def splitPairs (eq semi : A) (s : List A) : List (List A × List A) :=
  match _hk : cut eq s with
  | none => []
  | some (k, t) =>
    match _hv : cut semi t with
    | none => [(k, t)]
    | some (v, s') => (k, v) :: splitPairs eq semi s'
termination_by s.length
decreasing_by
  have h := length_cut _hk
  have h' := length_cut _hv
  omega

theorem splitPairs_none (h : cut eq s = none) : splitPairs eq semi s = [] := by
  rw [splitPairs]
  split
  · rfl
  · simp_all

theorem splitPairs_last (hk : cut eq s = some (k, t)) (hv : cut semi t = none) :
    splitPairs eq semi s = [(k, t)] := by
  rw [splitPairs]
  split
  · simp_all
  · split <;> simp_all

theorem splitPairs_cons {s' : List A} (hk : cut eq s = some (k, t))
    (hv : cut semi t = some (v, s')) :
    splitPairs eq semi s = (k, v) :: splitPairs eq semi s' := by
  rw [splitPairs]
  split
  · simp_all
  · split <;> simp_all

/-- Whatever text is read, the pairs found in it are separable. -/
theorem splitPairs_separable (s : List A) : ∀ e ∈ splitPairs eq semi s, Separable eq semi e := by
  fun_induction splitPairs eq semi s with
  | case1 s hk => exact fun e he => absurd he List.not_mem_nil
  | case2 s k t hk hv =>
    intro e he
    obtain rfl := List.mem_singleton.mp he
    exact ⟨(cut_eq_some hk).1, cut_eq_none.mp hv⟩
  | case3 s k t hk v s' hv ih =>
    intro e he
    rcases List.mem_cons.mp he with rfl | he
    · exact ⟨(cut_eq_some hk).1, (cut_eq_some hv).1⟩
    · exact ih e he

/-- Separable pairs are read back as they were written. -/
theorem splitPairs_joinPairs (h : ∀ e ∈ l, Separable eq semi e) :
    splitPairs eq semi (joinPairs eq semi l) = l := by
  induction l with
  | nil => exact splitPairs_none rfl
  | cons e l ih =>
    obtain ⟨hk, hv⟩ := h e List.mem_cons_self
    cases l with
    | nil => exact splitPairs_last (cut_append hk) (cut_eq_none.mpr hv)
    | cons f l =>
      have ih := ih fun g hg => h g (List.mem_cons_of_mem e hg)
      rw [joinPairs, splitPairs_cons (cut_append hk) (cut_append hv), ih]

end KeyValueText
