import Apq8084.Lib.Locks

/-! Threads that take their locks in one order: whatever the interleaving, some thread need not
wait, so that all can finish. Several locks may be modes of one resource; how requests for a
resource that is held are served is left open. -/
namespace Locks

universe u v
variable {L : Type u} {R : Type v}

/-- What a thread has done, and what is left. -/
structure Thread (L : Type u) where
  done : List (Op L)
  todo : List (Op L)

def Thread.ops (t : Thread L) : List (Op L) := t.done ++ t.todo

def Thread.Finished (t : Thread L) : Prop := t.todo = []

variable [DecidableEq L] [DecidableEq R] (resource : L → R) (compatible : L → L → Bool)

/-- What the other threads hold. -/
def heldByOthers (threads : List (Thread L)) (i : Nat) : List L :=
  (threads.eraseIdx i).flatMap fun t => held t.done

/-- Nobody holds what the operation takes, in any mode: no policy lets it wait. -/
def Op.Certain (others : List L) : Op L → Prop
  | .lock l => ∀ h ∈ others, resource h ≠ resource l
  | .unlock _ => True

/-- What the others hold may be held together with it: some policy lets it proceed. -/
def Op.possible (others : List L) : Op L → Bool
  | .lock l => others.all fun h => decide (resource h ≠ resource l) || compatible h l
  | .unlock _ => true

/-- A thread does its next operation. -/
def step (threads : List (Thread L)) (i : Nat) : Option (List (Thread L)) :=
  match threads[i]? with
  | some ⟨done, o :: todo⟩ =>
    if o.possible resource compatible (heldByOthers threads i) then
      some (threads.set i ⟨done ++ [o], todo⟩)
    else none
  | _ => none

/-- The thread need not wait. -/
def Free (threads : List (Thread L)) (i : Nat) : Prop :=
  ∀ t o todo, threads[i]? = some t → t.todo = o :: todo →
    o.Certain resource (heldByOthers threads i)

variable {resource compatible} {ok : L → L → Bool} {rank : R → Nat}
  {threads threads' : List (Thread L)} {i : Nat} {is : List Nat} {t : Thread L} {o : Op L}
  {todo : List (Op L)} {others : List L}

/-- Every thread keeps to the order, and gives back all it takes. -/
def Ordered (resource : L → R) (rank : R → Nat) (threads : List (Thread L)) : Prop :=
  ∀ t ∈ threads, Machine.run (acquire fun h l => decide (rank (resource h) < rank (resource l)))
    [] t.ops = some []

omit [DecidableEq L] in
theorem possible_of_certain (h : o.Certain resource others) :
    o.possible resource compatible others = true := by
  cases o with
  | lock l =>
    refine List.all_eq_true.mpr fun x hx => ?_
    rw [decide_eq_true (h x hx), Bool.true_or]
  | unlock l => rfl

/-- What a step changes. -/
theorem step_cases (h : step resource compatible threads i = some threads') :
    ∃ done o todo, threads[i]? = some ⟨done, o :: todo⟩ ∧
      threads' = threads.set i ⟨done ++ [o], todo⟩ := by
  unfold step at h
  split at h
  · next done o todo hi =>
    obtain ⟨-, ht⟩ := Option.ite_none_right_eq_some.mp h
    exact ⟨done, o, todo, hi, (Option.some.inj ht).symm⟩
  · cases h

variable (compatible) in
theorem step_of_free (hi : threads[i]? = some t) (htodo : t.todo = o :: todo)
    (hfree : Free resource threads i) :
    ∃ threads', step resource compatible threads i = some threads' := by
  obtain ⟨done, _⟩ := t
  obtain rfl : _ = o :: todo := htodo
  have hcertain := hfree _ o todo hi rfl
  refine ⟨threads.set i ⟨done ++ [o], todo⟩, ?_⟩
  simp only [step, hi]
  exact if_pos (possible_of_certain hcertain)

/-- What a thread does altogether stays the same. -/
theorem ordered_step (hs : Ordered resource rank threads)
    (h : step resource compatible threads i = some threads') :
    Ordered resource rank threads' := by
  obtain ⟨done, o, todo, hi, rfl⟩ := step_cases h
  intro t ht
  rcases List.mem_or_eq_of_mem_set ht with ht | rfl
  · exact hs t ht
  · have hops : (⟨done ++ [o], todo⟩ : Thread L).ops = (⟨done, o :: todo⟩ : Thread L).ops :=
      List.append_assoc done [o] todo
    rw [hops]
    exact hs _ (List.mem_of_getElem? hi)

omit [DecidableEq R] in
/-- A finished thread holds nothing. -/
theorem held_finished (hs : Ordered resource rank threads) (ht : t ∈ threads)
    (hfinished : t.Finished) : held t.done = [] := by
  have hrun := hs t ht
  rw [Thread.ops, show t.todo = [] from hfinished, List.append_nil] at hrun
  exact run_after hrun

omit [DecidableEq R] in
/-- What a thread is about to take comes behind all that it holds. -/
theorem rank_lt (hs : Ordered resource rank threads) (ht : t ∈ threads) {h l : L}
    (htodo : t.todo = .lock l :: todo) (hheld : h ∈ held t.done) :
    rank (resource h) < rank (resource l) := by
  have hrun := hs t ht
  have hops : t.ops = t.done ++ .lock l :: todo := congrArg (t.done ++ ·) htodo
  exact of_decide_eq_true (run_allowed hrun hops h hheld)

/-- The rank of the lock that comes next, if one does. -/
def nextRank (resource : L → R) (rank : R → Nat) : List (Op L) → Nat
  | .lock l :: _ => rank (resource l)
  | _ => 0

theorem exists_bound {α : Type u} (f : α → Nat) (l : List α) : ∃ n, ∀ a ∈ l, f a < n := by
  induction l with
  | nil => exact ⟨0, fun a ha => by cases ha⟩
  | cons b l ih =>
    obtain ⟨n, hn⟩ := ih
    refine ⟨n + f b + 1, fun a ha => ?_⟩
    rcases List.mem_cons.mp ha with rfl | ha
    · omega
    · have := hn a ha
      omega

omit [DecidableEq R] in
/-- If every unfinished thread waits, each waits for one that waits for more. -/
theorem waits_above (hs : Ordered resource rank threads)
    (hwait : ∀ i t, threads[i]? = some t → ¬t.Finished → ¬Free resource threads i)
    (hi : threads[i]? = some t) (hunfinished : ¬t.Finished) (n : Nat) :
    ∃ t ∈ threads, ∃ l todo, t.todo = .lock l :: todo ∧ n ≤ rank (resource l) := by
  -- a waiting thread, and whom it waits for
  have hnext : ∀ (i : Nat) (t : Thread L), threads[i]? = some t → ¬t.Finished →
      ∃ (l : L) (todo : List (Op L)), t.todo = .lock l :: todo ∧
        ∃ (j : Nat) (t' : Thread L) (h : L),
          threads[j]? = some t' ∧ h ∈ held t'.done ∧ resource h = resource l := by
    intro i t hi hunfinished
    have hnot := hwait i t hi hunfinished
    simp only [Free, not_forall] at hnot
    obtain ⟨t', o, todo, hi', htodo, hnot⟩ := hnot
    obtain rfl : t = t' := Option.some.inj (hi.symm.trans hi')
    cases o with
    | unlock l => exact absurd trivial hnot
    | lock l =>
      simp only [Op.Certain, not_forall, not_not] at hnot
      obtain ⟨h, hh, heq⟩ := hnot
      obtain ⟨t', ht', hh⟩ := List.mem_flatMap.mp hh
      obtain ⟨j, hj⟩ := List.mem_iff_getElem?.mp (List.mem_of_mem_eraseIdx ht')
      exact ⟨l, todo, htodo, j, t', h, hj, hh, heq⟩
  induction n with
  | zero =>
    obtain ⟨l, todo, htodo, -⟩ := hnext i t hi hunfinished
    exact ⟨t, List.mem_of_getElem? hi, l, todo, htodo, Nat.zero_le _⟩
  | succ n ih =>
    obtain ⟨t₁, ht₁, l₁, todo₁, htodo₁, hle⟩ := ih
    obtain ⟨i₁, hi₁⟩ := List.mem_iff_getElem?.mp ht₁
    have hunfinished₁ : ¬t₁.Finished := by simp [Thread.Finished, htodo₁]
    obtain ⟨l, todo, htodo, j, t', h, hj, hh, heq⟩ := hnext i₁ t₁ hi₁ hunfinished₁
    obtain ⟨rfl, -⟩ : l₁ = l ∧ todo₁ = todo := by simpa [htodo₁] using htodo
    have ht' : t' ∈ threads := List.mem_of_getElem? hj
    have hunfinished' : ¬t'.Finished := by
      intro hfinished
      rw [held_finished hs ht' hfinished] at hh
      cases hh
    obtain ⟨l', todo', htodo', -⟩ := hnext j t' hj hunfinished'
    have hlt := rank_lt hs ht' htodo' hh
    rw [heq] at hlt
    exact ⟨t', ht', l', todo', htodo', by omega⟩

omit [DecidableEq R] in
/-- No deadlock: as long as a thread is unfinished, some unfinished thread need not wait. -/
theorem exists_free (hs : Ordered resource rank threads) (hi : threads[i]? = some t)
    (hunfinished : ¬t.Finished) :
    ∃ j t', threads[j]? = some t' ∧ ¬t'.Finished ∧ Free resource threads j := by
  by_contra hnone
  have hwait : ∀ i t, threads[i]? = some t → ¬t.Finished → ¬Free resource threads i :=
    fun i t hi hunfinished hfree => hnone ⟨i, t, hi, hunfinished, hfree⟩
  obtain ⟨n, hn⟩ := exists_bound (fun t : Thread L => nextRank resource rank t.todo) threads
  obtain ⟨t', ht', l, todo, htodo, hle⟩ := waits_above hs hwait hi hunfinished n
  have hlt := hn t' ht'
  simp only [htodo, nextRank] at hlt
  omega

/-- How much is left to do. -/
def left : List (Thread L) → Nat
  | [] => 0
  | t :: threads => t.todo.length + left threads

omit [DecidableEq L] in
theorem left_eq_zero : left threads = 0 ↔ ∀ t ∈ threads, t.Finished := by
  induction threads with
  | nil => exact iff_of_true rfl fun t ht => by cases ht
  | cons t threads ih =>
    rw [List.forall_mem_cons, ← ih, left, Nat.add_eq_zero_iff, List.length_eq_zero_iff]
    rfl

omit [DecidableEq L] in
theorem left_set {done : List (Op L)} (done' : List (Op L))
    (hi : threads[i]? = some ⟨done, o :: todo⟩) :
    left (threads.set i ⟨done', todo⟩) + 1 = left threads := by
  induction threads generalizing i with
  | nil => cases hi
  | cons t threads ih =>
    cases i with
    | zero =>
      obtain rfl : t = ⟨done, o :: todo⟩ := Option.some.inj hi
      simp only [left, List.set_cons_zero, List.length_cons]
      omega
    | succ i =>
      have h := ih hi
      simp only [left, List.set_cons_succ] at h ⊢
      omega

variable (compatible) in
/-- Without waiting, all threads can finish. -/
theorem can_finish (hs : Ordered resource rank threads) :
    ∃ is threads', Machine.run (step resource compatible) threads is = some threads' ∧
      Machine.Along (step resource compatible) (Free resource) threads is ∧
      ∀ t ∈ threads', t.Finished := by
  induction hn : left threads generalizing threads with
  | zero => exact ⟨[], threads, rfl, trivial, left_eq_zero.mp hn⟩
  | succ n ih =>
    obtain ⟨t, ht, hunfinished⟩ : ∃ t ∈ threads, ¬t.Finished := by
      by_contra hnone
      have hall : ∀ t ∈ threads, t.Finished := by
        intro t ht
        by_contra hunfinished
        exact hnone ⟨t, ht, hunfinished⟩
      rw [left_eq_zero.mpr hall] at hn
      cases hn
    obtain ⟨i, hi⟩ := List.mem_iff_getElem?.mp ht
    obtain ⟨j, t', hj, hunfinished', hfree⟩ := exists_free hs hi hunfinished
    obtain ⟨o, todo, htodo⟩ := List.exists_cons_of_ne_nil hunfinished'
    obtain ⟨threads', hstep⟩ := step_of_free compatible hj htodo hfree
    have hleft : left threads' = n := by
      obtain ⟨done, o, todo, hk, rfl⟩ := step_cases hstep
      have := left_set (done ++ [o]) hk
      omega
    obtain ⟨is, u, hrun, halong, hdone⟩ := ih (ordered_step hs hstep) hleft
    refine ⟨j :: is, u, ?_, Machine.along_cons hstep hfree halong, hdone⟩
    rw [Machine.run_cons, hstep]
    exact hrun

end Locks
