import Mathlib.Data.List.Rotate
import Mathlib.Tactic.Common

/-! Reading several queues in turn: the order in which their elements come, and a reader that takes
them in this order until it has enough or all queues were found empty. -/
namespace RoundRobin

universe u
variable {α : Type u} {qs rest : List (List α)} {q l r : List α} {e : α} {n : Nat}

/-- The heads of all queues, then those of their tails, for `n` rounds. -/
def rounds : Nat → List (List α) → List α
  | 0, _ => []
  | n + 1, qs => qs.filterMap List.head? ++ rounds n (qs.map List.tail)

def AllEmpty (qs : List (List α)) : Prop := ∀ q ∈ qs, q = []

/-- All elements in the order of the rounds; the first queue is read first. -/
def order (qs : List (List α)) : List α := rounds qs.flatten.length qs

theorem rounds_allEmpty (h : AllEmpty qs) : rounds n qs = [] := by
  induction n generalizing qs with
  | zero => rfl
  | succ n ih =>
    have hhead : qs.filterMap List.head? = [] := by
      apply List.filterMap_eq_nil_iff.mpr
      intro q hq
      rw [h q hq]
      rfl
    have htail : AllEmpty (qs.map List.tail) := by
      intro q hq
      obtain ⟨p, hp, rfl⟩ := List.mem_map.mp hq
      rw [h p hp]
      rfl
    rw [rounds, hhead, ih htail]
    rfl

theorem rounds_succ (h : ∀ q ∈ qs, q.length ≤ n) : rounds (n + 1) qs = rounds n qs := by
  induction n generalizing qs with
  | zero =>
    apply rounds_allEmpty
    intro q hq
    exact List.eq_nil_of_length_eq_zero (Nat.le_zero.mp (h q hq))
  | succ n ih =>
    rw [rounds, ih, rounds]
    intro q hq
    obtain ⟨p, hp, rfl⟩ := List.mem_map.mp hq
    have := h p hp
    rw [List.length_tail]
    omega

theorem rounds_eq_order (h : ∀ q ∈ qs, q.length ≤ n) : rounds n qs = order qs := by
  have hlen : ∀ q ∈ qs, q.length ≤ qs.flatten.length := by
    intro q hq
    exact (List.sublist_flatten_of_mem hq).length_le
  -- both numbers of rounds are enough
  have hmax : ∀ k m, (∀ q ∈ qs, q.length ≤ m) → rounds (m + k) qs = rounds m qs := by
    intro k m hm
    induction k with
    | zero => rfl
    | succ k ih =>
      rw [← Nat.add_assoc, rounds_succ, ih]
      intro q hq
      exact Nat.le_add_right_of_le (hm q hq)
  rw [order, ← hmax qs.flatten.length n h, ← hmax n _ hlen, Nat.add_comm]

theorem rounds_rotate (h : ∀ p ∈ q :: rest, p.length ≤ n) :
    rounds n (q :: rest) = q.head?.toList ++ rounds n (rest ++ [q.tail]) := by
  induction n generalizing q rest with
  | zero =>
    have hq : q = [] := List.eq_nil_of_length_eq_zero (Nat.le_zero.mp (h q List.mem_cons_self))
    rw [hq]
    rfl
  | succ n ih =>
    have hhead : (q :: rest).filterMap List.head? =
        q.head?.toList ++ rest.filterMap List.head? := by
      cases q <;> rfl
    have hlast : ([q.tail].filterMap List.head? : List α) = q.tail.head?.toList := by
      cases q.tail <;> rfl
    have htails : ∀ p ∈ q.tail :: rest.map List.tail, p.length ≤ n := by
      intro p hp
      rw [← List.map_cons] at hp
      obtain ⟨p', hp', rfl⟩ := List.mem_map.mp hp
      have := h p' hp'
      rw [List.length_tail]
      omega
    rw [rounds, rounds, hhead, List.filterMap_append, hlast, List.map_append, List.map_cons,
      ih htails]
    simp

/-- Taking one element of the first queue, if there is one, and sending the queue to the end of
the line leaves the order of the others. -/
theorem order_rotate (q : List α) (rest : List (List α)) :
    order (q :: rest) = q.head?.toList ++ order (rest ++ [q.tail]) := by
  let n := (q :: rest).flatten.length
  have hall : ∀ p ∈ q :: rest, p.length ≤ n := by
    intro p hp
    exact (List.sublist_flatten_of_mem hp).length_le
  rw [← rounds_eq_order hall, rounds_rotate hall, rounds_eq_order]
  intro p hp
  rcases List.mem_append.mp hp with hp | hp
  · exact hall p (List.mem_cons_of_mem q hp)
  · have := hall q List.mem_cons_self
    rw [List.mem_singleton.mp hp, List.length_tail]
    omega

theorem order_cons_cons : order ((e :: q) :: rest) = e :: order (rest ++ [q]) :=
  order_rotate (e :: q) rest

theorem order_cons_nil : order ([] :: rest) = order (rest ++ [[]]) :=
  order_rotate [] rest

theorem order_allEmpty (h : AllEmpty qs) : order qs = [] := rounds_allEmpty h

/-- A line of queues that is kept in place, with the index of the first. -/
theorem rotate_read {β : Type u} {turns : List β} {i : Nat} {a : β} (h : turns[i]? = some a) :
    ∃ rest, turns.rotate i = a :: rest ∧
      ∀ b, (turns.set i b).rotate ((i + 1) % turns.length) = rest ++ [b] := by
  obtain ⟨hi, ha⟩ := List.getElem?_eq_some_iff.mp h
  refine ⟨turns.drop (i + 1) ++ turns.take i, ?_, ?_⟩
  · rw [List.rotate_eq_drop_append_take (Nat.le_of_lt hi), List.drop_eq_getElem_cons hi, ha]
    rfl
  · intro b
    have hset : i < (turns.set i b).length := by rwa [List.length_set]
    have hlen : turns.length = (turns.set i b).length := List.length_set.symm
    rw [hlen, List.rotate_mod, List.rotate_eq_drop_append_take hset,
      List.take_succ_eq_append_getElem hset, List.drop_set_of_lt (Nat.lt_succ_self i),
      List.take_set_of_le (Nat.le_refl i), List.getElem_set_self, List.append_assoc]

/-- The shortest beginning of a list that holds `limit` elements of the kind, or all of it. -/
def upTo (keep : α → Bool) : Nat → List α → List α
  | 0, _ => []
  | _ + 1, [] => []
  | limit + 1, a :: l => a :: upTo keep (if keep a then limit else limit + 1) l

/-- A reader: the queues, that to read next in front, the number of queues that were found empty
since the last element, and the elements taken. -/
structure Reader (α : Type u) where
  queues : List (List α)
  empties : Nat
  taken : List α

namespace Reader

variable {s : Reader α} {keep : α → Bool} {limit : Nat}

/-- Read the first queue and send it to the end of the line. -/
def visit (s : Reader α) : Reader α :=
  match s.queues with
  | [] => s
  | [] :: rest => { s with queues := rest ++ [[]], empties := s.empties + 1 }
  | (e :: q) :: rest => { queues := rest ++ [q], empties := 0, taken := s.taken ++ [e] }

/-- Not all queues were found empty, and more elements of the kind are wanted. -/
def Wants (keep : α → Bool) (limit : Nat) (s : Reader α) : Prop :=
  s.empties < s.queues.length ∧ s.taken.countP keep < limit

instance : Decidable (Wants keep limit s) := inferInstanceAs (Decidable (_ ∧ _))

/-- Elements left, and then queues that were not found empty. -/
def left (s : Reader α) : Nat :=
  s.queues.flatten.length * (s.queues.length + 1) + (s.queues.length - s.empties)

theorem visit_left (h : s.empties < s.queues.length) : s.visit.left < s.left := by
  obtain ⟨queues, empties, taken⟩ := s
  cases queues with
  | nil => exact absurd h (Nat.not_lt_zero _)
  | cons q rest =>
    cases q with
    | nil =>
      simp only [visit, left, List.flatten_cons, List.flatten_append, List.flatten_nil,
        List.append_nil, List.nil_append, List.length_append, List.length_cons, List.length_nil,
        Nat.zero_add]
      simp only [List.length_cons] at h
      omega
    | cons e q =>
      simp only [visit, left, List.flatten_cons, List.flatten_append, List.flatten_nil,
        List.append_nil, List.length_append, List.length_cons, List.length_nil, Nat.zero_add]
      have hmul : (q.length + 1 + rest.flatten.length) * (rest.length + 1 + 1) =
          (rest.flatten.length + q.length) * (rest.length + 1 + 1) + (rest.length + 1 + 1) := by
        rw [← Nat.succ_mul]
        congr 1
        omega
      simp only [List.length_cons] at h
      omega

/-- Read until enough was taken or all queues were found empty. -/
def finish (keep : α → Bool) (limit : Nat) (s : Reader α) : Reader α :=
  if _h : Wants keep limit s then finish keep limit s.visit else s
termination_by s.left
decreasing_by exact visit_left _h.1

/-- The queues counted as empty are at the end of the line, and not too much was taken. -/
structure Valid (limit : Nat) (keep : α → Bool) (s : Reader α) : Prop where
  empties : ∃ front, s.queues = front ++ List.replicate s.empties []
  taken : s.taken.countP keep ≤ limit

variable {keep' : α → Bool}

theorem valid_start : Valid limit keep { queues := qs, empties := 0, taken := [] } where
  empties := ⟨qs, (List.append_nil qs).symm⟩
  taken := Nat.zero_le limit

theorem visit_valid (hs : Valid limit keep s) (hw : Wants keep limit s) :
    Valid limit keep s.visit := by
  obtain ⟨queues, empties, taken⟩ := s
  obtain ⟨⟨front, hfront⟩, htaken⟩ := hs
  obtain ⟨hempties, hlimit⟩ := hw
  simp only at hfront htaken hempties hlimit
  cases queues with
  | nil => exact absurd hempties (Nat.not_lt_zero _)
  | cons q rest =>
    cases q with
    | nil =>
      refine ⟨?_, htaken⟩
      cases front with
      | nil =>
        -- then all queues were found empty
        have := congrArg List.length hfront
        simp only [List.nil_append, List.length_replicate] at this
        omega
      | cons p front =>
        refine ⟨front, ?_⟩
        rw [List.cons_append, List.cons.injEq] at hfront
        show rest ++ [[]] = front ++ List.replicate (empties + 1) []
        rw [hfront.2, List.replicate_succ', List.append_assoc]
    | cons e q =>
      refine ⟨⟨rest ++ [q], (List.append_nil _).symm⟩, ?_⟩
      show (taken ++ [e]).countP keep ≤ limit
      rw [List.countP_append, List.countP_singleton]
      split <;> omega

theorem finish_induction {P : Reader α → Prop} (hs : P s)
    (hvisit : ∀ s, P s → Wants keep limit s → P s.visit) :
    P (finish keep limit s) ∧ ¬Wants keep limit (finish keep limit s) := by
  fun_induction finish keep limit s with
  | case1 s hw ih => exact ih (hvisit s hs hw)
  | case2 s hw => exact ⟨hs, hw⟩

/-- All queues were found empty one after the other, and none was filled in between. -/
theorem allEmpty_of_valid (hs : Valid limit keep s) (h : s.queues.length ≤ s.empties) :
    AllEmpty s.queues := by
  obtain ⟨front, hfront⟩ := hs.empties
  have hlen := congrArg List.length hfront
  rw [List.length_append, List.length_replicate] at hlen
  have hnil : front = [] := List.eq_nil_of_length_eq_zero (by omega)
  intro q hq
  rw [hfront, hnil, List.nil_append] at hq
  exact List.eq_of_mem_replicate hq

theorem upTo_nil : upTo keep limit [] = [] := by
  cases limit <;> rfl

theorem upTo_cons (h : 0 < limit) (e : α) (l : List α) :
    upTo keep limit (e :: l) = e :: upTo keep (limit - [e].countP keep) l := by
  cases limit with
  | zero => exact absurd h (Nat.lt_irrefl 0)
  | succ limit =>
    rw [upTo, List.countP_singleton]
    split <;> rfl

/-- The reader takes the elements in their order, and no more than it needs. -/
theorem finish_taken (hs : Valid limit keep s) :
    (finish keep limit s).taken =
      s.taken ++ upTo keep (limit - s.taken.countP keep) (order s.queues) := by
  fun_induction finish keep limit s with
  | case1 s hw ih =>
    rw [ih (visit_valid hs hw)]
    obtain ⟨queues, empties, taken⟩ := s
    cases queues with
    | nil => rfl
    | cons q rest =>
      cases q with
      | nil => simp [visit, order_cons_nil]
      | cons e q =>
        have hpos : 0 < limit - taken.countP keep := Nat.sub_pos_of_lt hw.2
        simp [visit, order_cons_cons, upTo_cons hpos, Nat.sub_sub]
  | case2 s hw =>
    by_cases hlimit : s.taken.countP keep < limit
    · have hempties : s.queues.length ≤ s.empties := by
        by_contra h
        exact hw ⟨Nat.lt_of_not_le h, hlimit⟩
      rw [order_allEmpty (allEmpty_of_valid hs hempties), upTo_nil, List.append_nil]
    · have hzero : limit - s.taken.countP keep = 0 := by omega
      rw [hzero, upTo, List.append_nil]

end Reader

/-- Kinds that agree on what is taken for the one take the same for the other. -/
theorem upTo_congr {keep keep' : α → Bool} {limit : Nat}
    (h : ∀ a ∈ upTo keep limit l, keep a = keep' a) : upTo keep limit l = upTo keep' limit l := by
  fun_induction upTo keep limit l with
  | case1 => rw [upTo]
  | case2 => rw [upTo]
  | case3 limit a l ih =>
    have ha := h a List.mem_cons_self
    rw [upTo, ← ha, ih]
    intro b hb
    exact h b (List.mem_cons_of_mem a hb)

end RoundRobin
