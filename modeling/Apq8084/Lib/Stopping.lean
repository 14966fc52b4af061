import Mathlib.Tactic.Common

/-! Stateful code with early returns, and rules that follow its exits. -/

universe u v w x

/-- Code that ends with a value, or returns early with none. -/
def Stopping (σ : Type u) (α : Type v) : Type (max u v) := σ → Option α × σ

namespace Stopping

variable {σ : Type u} {α : Type v} {β : Type w} {ι : Type x}

def ret (a : α) : Stopping σ α := fun s => (some a, s)

def andThen (p : Stopping σ α) (f : α → Stopping σ β) : Stopping σ β := fun s =>
  match p s with
  | (some a, t) => f a t
  | (none, t) => (none, t)

instance : Monad (Stopping σ) where
  pure := ret
  bind := andThen

/-- Change the state and go on. -/
def modify (f : σ → σ) : Stopping σ Unit := fun s => (some (), f s)

/-- Change the state and return early. -/
def stop (f : σ → σ) : Stopping σ α := fun s => (none, f s)

/-- Run the code on each element, as a `for` loop that collects the values. -/
def forEach (f : ι → Stopping σ β) : List ι → Stopping σ (List β)
  | [] => ret []
  | i :: l => andThen (f i) fun b => andThen (forEach f l) fun bs => ret (b :: bs)

variable {γ : Type u} in
theorem andThen_assoc (p : Stopping σ α) (f : α → Stopping σ β) (g : β → Stopping σ γ) :
    andThen (andThen p f) g = andThen p fun a => andThen (f a) g := by
  funext s
  unfold andThen
  cases p s with
  | mk r t =>
    cases r with
    | none => rfl
    | some a => rfl

/-- The code goes on exactly in the states that `ok` describes and then changes them by `go`;
when it returns early, `exit` relates the states before and after. -/
structure Spec (p : Stopping σ α) (ok : σ → Prop) (go : σ → σ) (exit : σ → σ → Prop) : Prop where
  passes : ∀ s, (p s).1.isSome ↔ ok s
  passed : ∀ s, (p s).1.isSome → (p s).2 = go s
  exits : ∀ s, (p s).1 = none → exit s (p s).2

variable {p : Stopping σ α} {f : α → Stopping σ β} {ok ok₁ ok₂ : σ → Prop} {go go₁ go₂ : σ → σ}
  {exit : σ → σ → Prop}

theorem spec_ret (a : α) : Spec (ret a : Stopping σ α) (fun _ => True) id exit := by
  constructor
  · simp [ret]
  · simp [ret]
  · simp [ret]

theorem spec_stop {f : σ → σ} (hexit : ∀ s, exit s (f s)) :
    Spec (stop f : Stopping σ α) (fun _ => False) go exit := by
  constructor
  · simp [stop]
  · simp [stop]
  · intro s _
    exact hexit s

theorem Spec.congr (h : Spec p ok go exit) {ok' : σ → Prop} {go' : σ → σ}
    (hok : ∀ s, ok' s ↔ ok s) (hgo : ∀ s, go' s = go s) : Spec p ok' go' exit := by
  obtain rfl : ok' = ok := funext fun s => propext (hok s)
  obtain rfl : go' = go := funext hgo
  exact h

/-- The exits of the second part must be exits of the whole. -/
theorem Spec.andThen (hp : Spec p ok₁ go₁ exit) (hf : ∀ a, Spec (f a) ok₂ go₂ exit)
    (hexit : ∀ s t, exit (go₁ s) t → exit s t) :
    Spec (andThen p f) (fun s => ok₁ s ∧ ok₂ (go₁ s)) (fun s => go₂ (go₁ s)) exit := by
  have key : ∀ s, ((Stopping.andThen p f s).1.isSome ↔ ok₁ s ∧ ok₂ (go₁ s)) ∧
      ((Stopping.andThen p f s).1.isSome → (Stopping.andThen p f s).2 = go₂ (go₁ s)) ∧
      ((Stopping.andThen p f s).1 = none → exit s (Stopping.andThen p f s).2) := by
    intro s
    have hpass := hp.passes s
    have hgo := hp.passed s
    have hstop := hp.exits s
    unfold Stopping.andThen
    cases hps : p s with
    | mk r t =>
      rw [hps] at hpass hgo hstop
      cases r with
      | none =>
        have hno : ¬ok₁ s := fun hok => by simpa using hpass.mpr hok
        refine ⟨?_, by simp, fun _ => hstop rfl⟩
        simp [hno]
      | some a =>
        have hok : ok₁ s := hpass.mp rfl
        obtain rfl : t = go₁ s := hgo rfl
        refine ⟨?_, (hf a).passed _, fun hnone => hexit s _ ((hf a).exits _ hnone)⟩
        rw [(hf a).passes]
        simp [hok]
  exact ⟨fun s => (key s).1, fun s => (key s).2.1, fun s => (key s).2.2⟩

end Stopping
