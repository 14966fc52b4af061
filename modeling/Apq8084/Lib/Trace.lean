import Mathlib.Data.List.DropRight
import Mathlib.Tactic.Common

/-! Traces with marked events, and requirements on what happens between two of them. -/
namespace Trace

universe u
variable {A : Type u} {mark : A → Bool} {ready : List A → Prop} {l : List A} {e : A}

/-- The events behind the last marked one. -/
def sinceMark (mark : A → Bool) (l : List A) : List A := l.rtakeWhile fun e => !mark e

@[simp] theorem sinceMark_nil : sinceMark mark [] = [] := List.rtakeWhile_nil _

theorem sinceMark_mark (h : mark e = true) : sinceMark mark (l ++ [e]) = [] :=
  List.rtakeWhile_concat_neg _ _ _ (by simp [h])

theorem sinceMark_concat (h : mark e = false) :
    sinceMark mark (l ++ [e]) = sinceMark mark l ++ [e] :=
  List.rtakeWhile_concat_pos _ _ _ (by simp [h])

/-- Before each marked event, the events since the last one are `ready`. -/
def Guarded (mark : A → Bool) (ready : List A → Prop) (l : List A) : Prop :=
  ∀ pre e, pre ++ [e] <+: l → mark e = true → ready (sinceMark mark pre)

theorem guarded_nil : Guarded mark ready [] := by
  intro pre e hpre
  have := List.prefix_nil.mp hpre
  simp at this

theorem guarded_concat :
    Guarded mark ready (l ++ [e]) ↔
      Guarded mark ready l ∧ (mark e = true → ready (sinceMark mark l)) := by
  constructor
  · intro h
    refine ⟨fun pre f hpre => h pre f (hpre.trans (List.prefix_append l [e])), fun he => ?_⟩
    exact h l e List.prefix_rfl he
  · rintro ⟨hl, he⟩ pre f hpre
    rcases List.prefix_concat_iff.mp hpre with heq | hpre
    · obtain ⟨rfl, hef⟩ := List.append_inj' heq rfl
      cases hef
      exact he
    · exact hl pre f hpre

end Trace
