import Mathlib.Tactic.Common

/-! Partial step functions, their finite runs, and the induction rules for runs. -/
namespace Machine

universe u v w x
variable {σ : Type u} {α : Type v} {τ : Type w} {β : Type x}
variable {step : σ → α → Option σ} {s t u : σ} {a : α} {as bs : List α}

/-- Take the listed actions one after the other; `none` if one of them is not enabled. -/
def run (step : σ → α → Option σ) : σ → List α → Option σ
  | s, [] => some s
  | s, a :: as => (step s a).bind fun t => run step t as

@[simp] theorem run_nil : run step s [] = some s := rfl

@[simp] theorem run_cons : run step s (a :: as) = (step s a).bind fun t => run step t as := rfl

theorem run_append : run step s (as ++ bs) = (run step s as).bind fun t => run step t bs := by
  induction as generalizing s with
  | nil => rfl
  | cons a as ih =>
    simp only [List.cons_append, run_cons, Option.bind_assoc, ih]

theorem run_trans (hs : run step s as = some t) (ht : run step t bs = some u) :
    run step s (as ++ bs) = some u := by
  rw [run_append, hs]
  exact ht

/-- What every step preserves holds at the end of every run. -/
theorem run_invariant {P : σ → Prop} (hp : ∀ s a t, P s → step s a = some t → P t)
    (hr : run step s as = some t) (hs : P s) : P t := by
  induction as generalizing s with
  | nil =>
    cases hr
    exact hs
  | cons a as ih =>
    obtain ⟨u, hu, hr⟩ := Option.bind_eq_some_iff.mp hr
    exact ih hr (hp s a u hs hu)

/-- Each action of the list meets `ok` in the state in which it is taken. -/
def Along (step : σ → α → Option σ) (ok : σ → α → Prop) : σ → List α → Prop
  | _, [] => True
  | s, a :: as => ok s a ∧ ∀ t, step s a = some t → Along step ok t as

theorem along_cons {ok : σ → α → Prop} (hs : step s a = some t) (hok : ok s a)
    (ht : Along step ok t as) : Along step ok s (a :: as) := by
  refine ⟨hok, fun u hu => ?_⟩
  rw [hs] at hu
  cases hu
  exact ht

theorem along_mono {ok ok' : σ → α → Prop} (h : ∀ a ∈ as, ∀ s, ok s a → ok' s a)
    (hok : Along step ok s as) : Along step ok' s as := by
  induction as generalizing s with
  | nil => trivial
  | cons a as ih =>
    refine ⟨h a List.mem_cons_self s hok.1, fun t ht => ih (fun b hb => ?_) (hok.2 t ht)⟩
    exact h b (List.mem_cons_of_mem a hb)

theorem along_and {ok ok' : σ → α → Prop} (h : Along step ok s as) (h' : Along step ok' s as) :
    Along step (fun s a => ok s a ∧ ok' s a) s as := by
  induction as generalizing s with
  | nil => trivial
  | cons a as ih => exact ⟨⟨h.1, h'.1⟩, fun t ht => ih (h.2 t ht) (h'.2 t ht)⟩

/-- Executions whose steps all meet `ok` need the invariant only at such steps. -/
theorem run_invariant_along {P : σ → Prop} {ok : σ → α → Prop}
    (hp : ∀ s a t, P s → ok s a → step s a = some t → P t)
    (hr : run step s as = some t) (hok : Along step ok s as) (hs : P s) : P t := by
  induction as generalizing s with
  | nil =>
    cases hr
    exact hs
  | cons a as ih =>
    obtain ⟨u, hu, hr⟩ := Option.bind_eq_some_iff.mp hr
    exact ih hr (hok.2 u hu) (hp s a u hs hok.1 hu)

/-- An invariant that also says what it means that all actions so far met `ok`. -/
theorem run_invariant_tracking {P : σ → Prop → Prop} {ok : σ → α → Prop}
    (hp : ∀ s a t g, P s g → step s a = some t → P t (g ∧ ok s a))
    (hr : run step s as = some t) (hs : P s True) : P t (Along step ok s as) := by
  have key : ∀ g, P s g → P t (g ∧ Along step ok s as) := by
    clear hs
    induction as generalizing s with
    | nil =>
      intro g hs
      cases hr
      rwa [Along, and_true]
    | cons a as ih =>
      intro g hs
      obtain ⟨u, hu, hr⟩ := Option.bind_eq_some_iff.mp hr
      have hgood : (Along step ok s (a :: as)) ↔ ok s a ∧ Along step ok u as := by
        constructor
        · exact fun h => ⟨h.1, h.2 u hu⟩
        · exact fun h => along_cons hu h.1 h.2
      rw [hgood, ← and_assoc]
      exact ih hr _ (hp s a u g hs hu)
  have := key True hs
  rwa [true_and] at this

/-- A run that does not meet `ok` throughout has a first action that fails it. -/
theorem exists_first_of_not_along {ok : σ → α → Prop} (hr : run step s as = some t)
    (h : ¬Along step ok s as) : ∃ bs a u v, bs ++ [a] <+: as ∧ run step s bs = some u ∧
      Along step ok s bs ∧ ¬ok u a ∧ step u a = some v := by
  induction as generalizing s with
  | nil => exact absurd trivial h
  | cons a as ih =>
    obtain ⟨v, hv, hr⟩ := Option.bind_eq_some_iff.mp hr
    by_cases hok : ok s a
    · obtain ⟨bs, b, u, w, hbs, hu, halong, hno, hw⟩ := ih hr fun hv' => h (along_cons hv hok hv')
      refine ⟨a :: bs, b, u, w, ?_, ?_, along_cons hv hok halong, hno, hw⟩
      · exact List.cons_prefix_cons.mpr ⟨rfl, hbs⟩
      · rw [run_cons, hv]
        exact hu
    · refine ⟨[], a, s, v, ?_, rfl, trivial, hok, hv⟩
      exact List.cons_prefix_cons.mpr ⟨rfl, List.nil_prefix⟩

/-- If the actions that fail `ok` are those that lead out of `Q`, a run meets `ok` throughout
exactly when all its states are in `Q`. -/
theorem along_iff_forall_prefix {P Q : σ → Prop} {ok : σ → α → Prop}
    (hp : ∀ s a t, P s → ok s a → step s a = some t → P t) (hq : ∀ s, P s → Q s)
    (hbad : ∀ s a t, P s → ¬ok s a → step s a = some t → ¬Q t)
    (hr : run step s as = some t) (hs : P s) :
    Along step ok s as ↔ ∀ bs u, bs <+: as → run step s bs = some u → Q u := by
  induction as generalizing s with
  | nil =>
    refine iff_of_true trivial fun bs u hbs hu => ?_
    obtain rfl := List.prefix_nil.mp hbs
    cases hu
    exact hq s hs
  | cons a as ih =>
    obtain ⟨v, hv, hr⟩ := Option.bind_eq_some_iff.mp hr
    by_cases hok : ok s a
    · have ih := ih hr (hp s a v hs hok hv)
      constructor
      · rintro h (_ | ⟨b, bs⟩) u hbs hu
        · cases hu
          exact hq s hs
        · obtain ⟨rfl, htail⟩ := List.cons_prefix_cons.mp hbs
          rw [run_cons, hv] at hu
          exact ih.mp (h.2 v hv) bs u htail hu
      · intro h
        refine along_cons hv hok (ih.mpr fun bs u hbs hu => ?_)
        refine h (a :: bs) u (List.cons_prefix_cons.mpr ⟨rfl, hbs⟩) ?_
        rw [run_cons, hv]
        exact hu
    · refine iff_of_false (fun h => hok h.1) fun h => ?_
      refine hbad s a v hs hok hv (h [a] v ?_ ?_)
      · exact List.cons_prefix_cons.mpr ⟨rfl, List.nil_prefix⟩
      · rw [run_cons, hv]
        rfl

/-- `t` can be reached from `s` by actions that all meet `ok`. -/
def Reaches (step : σ → α → Option σ) (ok : α → Prop) (s t : σ) : Prop :=
  ∃ as, (∀ a ∈ as, ok a) ∧ run step s as = some t

section Reaches

variable {ok : α → Prop}

theorem reaches_refl (s : σ) : Reaches step ok s s := ⟨[], by simp, rfl⟩

theorem reaches_step (hs : step s a = some t) (ha : ok a) : Reaches step ok s t := by
  refine ⟨[a], by simpa using ha, ?_⟩
  rw [run_cons, hs]
  rfl

theorem Reaches.trans (hs : Reaches step ok s t) (ht : Reaches step ok t u) :
    Reaches step ok s u := by
  obtain ⟨as, has, hs⟩ := hs
  obtain ⟨bs, hbs, ht⟩ := ht
  refine ⟨as ++ bs, fun a ha => ?_, run_trans hs ht⟩
  rcases List.mem_append.mp ha with ha | ha
  · exact has a ha
  · exact hbs a ha

/-- What the admitted actions preserve holds of all that they reach. -/
theorem Reaches.invariant {P : σ → Prop} (h : Reaches step ok s t)
    (hp : ∀ s a t, P s → ok a → step s a = some t → P t) (hs : P s) : P t := by
  obtain ⟨as, has, hr⟩ := h
  have halong : Along step (fun _ a => ok a) s as := by
    clear hr hs
    induction as generalizing s with
    | nil => trivial
    | cons a as ih =>
      refine ⟨has a List.mem_cons_self, fun u _ => ih fun b hb => ?_⟩
      exact has b (List.mem_cons_of_mem a hb)
  exact run_invariant_along hp hr halong hs

/-- A goal can be reached if, short of it, a measure can always be brought down. -/
theorem reaches_goal {P goal : σ → Prop} (measure : σ → ℕ)
    (hp : ∀ s, P s → goal s ∨
      ∃ t, Reaches step ok s t ∧ (goal t ∨ (P t ∧ measure t < measure s)))
    (hs : P s) : ∃ t, Reaches step ok s t ∧ goal t := by
  induction hm : measure s using Nat.strongRecOn generalizing s with
  | ind m ih =>
    rcases hp s hs with hgoal | ⟨t, hst, hgoal | ⟨ht, hlt⟩⟩
    · exact ⟨s, reaches_refl s, hgoal⟩
    · exact ⟨t, hst, hgoal⟩
    · obtain ⟨u, htu, hgoal⟩ := ih (measure t) (hm ▸ hlt) ht rfl
      exact ⟨u, hst.trans htu, hgoal⟩

end Reaches

/-- One concrete step matched by a finite abstract run carries whole runs across. -/
theorem run_refines {step' : τ → β → Option τ} {R : σ → τ → Prop}
    (hsim : ∀ s x a t, R s x → step s a = some t →
      ∃ bs y, run step' x bs = some y ∧ R t y)
    (hr : run step s as = some t) {x : τ} (hs : R s x) :
    ∃ bs y, run step' x bs = some y ∧ R t y := by
  induction as generalizing s x with
  | nil =>
    cases hr
    exact ⟨[], x, rfl, hs⟩
  | cons a as ih =>
    obtain ⟨u, hu, hr⟩ := Option.bind_eq_some_iff.mp hr
    obtain ⟨bs, y, hy, huy⟩ := hsim s x a u hs hu
    obtain ⟨cs, z, hz, htz⟩ := ih hr huy
    exact ⟨bs ++ cs, z, run_trans hy hz, htz⟩

end Machine
