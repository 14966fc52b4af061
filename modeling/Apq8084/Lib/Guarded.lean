import Mathlib.Logic.Function.Basic
import Mathlib.Tactic.Common

/-! Data that a mutex protects, among threads that are each at some place of their code: one rule
for each thing that a thread can do. Other threads only rely on what no holder takes away. -/
namespace Guarded

universe u v w

variable {ι : Type u} {κ : Type v} {δ : Type w} [DecidableEq ι]

/-- The owner is the thread that is at a holding place, every thread finds what its place relies on,
and a free mutex leaves the data in order. -/
structure Protects (holds : κ → Bool) (Ok : δ → κ → Prop) (Free : δ → Prop) (owner : Option ι)
    (data : δ) (pcs : ι → κ) : Prop where
  owner_iff : ∀ t, owner = some t ↔ holds (pcs t) = true
  ok : ∀ t, Ok data (pcs t)
  free : owner = none → Free data

variable {holds : κ → Bool} {Ok : δ → κ → Prop} {Free : δ → Prop} {owner : Option ι}
  {data data' : δ} {pcs : ι → κ} {t t' : ι} {pc pc' : κ}

omit [DecidableEq ι] in
theorem Protects.exclusive (h : Protects holds Ok Free owner data pcs) (ht : holds (pcs t) = true)
    (ht' : holds (pcs t') = true) : t = t' := by
  have howner := (h.owner_iff t).mpr ht
  rw [(h.owner_iff t').mpr ht'] at howner
  exact (Option.some.inj howner).symm

omit [DecidableEq ι] in
theorem Protects.ok_at (h : Protects holds Ok Free owner data pcs) (hpc : pcs t = pc) :
    Ok data pc := by
  rw [← hpc]
  exact h.ok t

theorem ok_update (hothers : ∀ t', t' ≠ t → Ok data (pcs t')) (hok : Ok data pc) (t' : ι) :
    Ok data (Function.update pcs t pc t') := by
  by_cases ht : t' = t
  · subst ht
    rwa [Function.update_self]
  · rw [Function.update_of_ne ht]
    exact hothers t' ht

theorem Protects.owner_update (h : Protects holds Ok Free owner data pcs) (hpc : pcs t = pc)
    (hholds : holds pc' = holds pc) (t' : ι) :
    owner = some t' ↔ holds (Function.update pcs t pc' t') = true := by
  rw [h.owner_iff t']
  by_cases ht : t' = t
  · subst ht
    rw [Function.update_self, hholds, hpc]
  · rw [Function.update_of_ne ht]

/-- A thread goes on and leaves mutex and data alone. -/
theorem Protects.keep (h : Protects holds Ok Free owner data pcs) (hpc : pcs t = pc)
    (hholds : holds pc' = holds pc) (hok : Ok data pc') :
    Protects holds Ok Free owner data (Function.update pcs t pc') :=
  ⟨h.owner_update hpc hholds, ok_update (fun t' _ => h.ok t') hok, h.free⟩

/-- It finds the data in order. -/
theorem Protects.lock (h : Protects holds Ok Free owner data pcs) (hfree : owner = none)
    (hholds : holds pc = true) (hok : Free data → Ok data pc) :
    Protects holds Ok Free (some t) data (Function.update pcs t pc) := by
  refine ⟨fun t' => ?_, ok_update (fun t' _ => h.ok t') (hok (h.free hfree)),
    fun hnone => by cases hnone⟩
  by_cases ht : t' = t
  · subst ht
    rw [Function.update_self]
    exact iff_of_true rfl hholds
  · have hnot : ¬holds (pcs t') = true := by
      rw [← h.owner_iff t', hfree]
      exact fun hsome => by cases hsome
    rw [Function.update_of_ne ht]
    exact iff_of_false (fun hsome => ht (Option.some.inj hsome).symm) hnot

omit [DecidableEq ι] in
theorem Protects.others_free (h : Protects holds Ok Free owner data pcs) (hpc : pcs t = pc)
    (hbefore : holds pc = true) (ht : t' ≠ t) : holds (pcs t') = false := by
  rw [← hpc] at hbefore
  exact Bool.eq_false_iff.mpr fun hholds => ht (h.exclusive hholds hbefore)

theorem Protects.ok_write (h : Protects holds Ok Free owner data pcs) (hpc : pcs t = pc)
    (hbefore : holds pc = true) (hframe : ∀ pc, holds pc = false → Ok data pc → Ok data' pc)
    (hok : Ok data' pc') (t' : ι) : Ok data' (Function.update pcs t pc' t') :=
  ok_update (fun t' ht => hframe (pcs t') (h.others_free hpc hbefore ht) (h.ok t')) hok t'

/-- The owner changes the data. -/
theorem Protects.write (h : Protects holds Ok Free owner data pcs) (hpc : pcs t = pc)
    (hbefore : holds pc = true) (hafter : holds pc' = true)
    (hframe : ∀ pc, holds pc = false → Ok data pc → Ok data' pc) (hok : Ok data' pc') :
    Protects holds Ok Free owner data' (Function.update pcs t pc') := by
  refine ⟨h.owner_update hpc (hafter.trans hbefore.symm), h.ok_write hpc hbefore hframe hok,
    fun hnone => ?_⟩
  rw [← hpc, ← h.owner_iff t, hnone] at hbefore
  cases hbefore

/-- It may change the data first, and must leave them in order. -/
theorem Protects.unlock (h : Protects holds Ok Free owner data pcs) (hpc : pcs t = pc)
    (hbefore : holds pc = true) (hafter : holds pc' = false)
    (hframe : ∀ pc, holds pc = false → Ok data pc → Ok data' pc) (hok : Ok data' pc')
    (hfree : Free data') :
    Protects holds Ok Free none data' (Function.update pcs t pc') := by
  refine ⟨fun t' => iff_of_false (fun hnone => by cases hnone) ?_,
    h.ok_write hpc hbefore hframe hok, fun _ => hfree⟩
  by_cases ht : t' = t
  · subst ht
    rw [Function.update_self, hafter]
    exact Bool.false_ne_true
  · rw [Function.update_of_ne ht, h.others_free hpc hbefore ht]
    exact Bool.false_ne_true

end Guarded
