import Mathlib.Order.Lattice
import Mathlib.Tactic.Common

/-! Maps stored as a list of entries in ascending order of their keys. -/

universe u v

/-- Every key occurs once, and the keys ascend. -/
structure KeyedVector (K : Type u) (V : Type v) [LinearOrder K] where
  entries : List (K × V)
  sorted : entries.Pairwise fun e f => e.1 < f.1

namespace KeyedVector

variable {K : Type u} {V : Type v} [LinearOrder K] {k : K} {x y : V} {e : K × V}
  {l l' : List (K × V)} {m m' : KeyedVector K V} {P : K × V → Prop}

theorem ext_entries (h : m.entries = m'.entries) : m = m' := by
  cases m
  cases m'
  cases h
  rfl

def empty : KeyedVector K V := ⟨[], List.Pairwise.nil⟩

@[simp] theorem entries_empty : (empty : KeyedVector K V).entries = [] := rfl

def size (m : KeyedVector K V) : Nat := m.entries.length

/-- Put an entry in front of the first greater key; an entry with the same key is overwritten. -/
def insertEntry (k : K) (x : V) : List (K × V) → List (K × V)
  | [] => [(k, x)]
  | e :: l =>
    if k < e.1 then (k, x) :: e :: l
    else if k = e.1 then (k, x) :: l
    else e :: insertEntry k x l

theorem mem_insertEntry (h : e ∈ insertEntry k x l) : e = (k, x) ∨ e ∈ l := by
  induction l with
  | nil => exact Or.inl (List.mem_singleton.mp h)
  | cons f l ih =>
    simp only [insertEntry] at h
    split_ifs at h
    · rcases List.mem_cons.mp h with h | h
      · exact Or.inl h
      · exact Or.inr h
    · rcases List.mem_cons.mp h with h | h
      · exact Or.inl h
      · exact Or.inr (List.mem_cons_of_mem f h)
    · rcases List.mem_cons.mp h with h | h
      · exact Or.inr (List.mem_cons.mpr (Or.inl h))
      · rcases ih h with h | h
        · exact Or.inl h
        · exact Or.inr (List.mem_cons_of_mem f h)

theorem insertEntry_sorted (h : l.Pairwise fun e f => e.1 < f.1) :
    (insertEntry k x l).Pairwise fun e f => e.1 < f.1 := by
  induction l with
  | nil => exact List.pairwise_singleton _ _
  | cons f l ih =>
    obtain ⟨hf, hl⟩ := List.pairwise_cons.mp h
    simp only [insertEntry]
    split_ifs with hlt heq
    · refine List.pairwise_cons.mpr ⟨fun g hg => ?_, h⟩
      rcases List.mem_cons.mp hg with rfl | hg
      · exact hlt
      · exact hlt.trans (hf g hg)
    · subst heq
      exact List.pairwise_cons.mpr ⟨hf, hl⟩
    · refine List.pairwise_cons.mpr ⟨fun g hg => ?_, ih hl⟩
      rcases mem_insertEntry hg with rfl | hg
      · exact lt_of_le_of_ne (not_lt.mp hlt) (Ne.symm heq)
      · exact hf g hg

/-- A key above all the others goes to the end. -/
theorem insertEntry_append (h : ∀ e ∈ l, e.1 < k) : insertEntry k x l = l ++ [(k, x)] := by
  induction l with
  | nil => rfl
  | cons f l ih =>
    have hf := h f List.mem_cons_self
    have hl := ih fun e he => h e (List.mem_cons_of_mem f he)
    rw [insertEntry, if_neg hf.not_gt, if_neg hf.ne', hl]
    rfl

def add (m : KeyedVector K V) (k : K) (x : V) : KeyedVector K V :=
  ⟨insertEntry k x m.entries, insertEntry_sorted m.sorted⟩

def replaceValueFor (m : KeyedVector K V) (k : K) (x : V) : KeyedVector K V := m.add k x

def removeItem (m : KeyedVector K V) (k : K) : KeyedVector K V :=
  ⟨m.entries.filter fun e => e.1 ≠ k, m.sorted.sublist List.filter_sublist⟩

/-- The value of a key, or the default. -/
def valueFor (m : KeyedVector K V) (k : K) (default : V) : V :=
  (m.entries.find? fun e => e.1 = k).elim default Prod.snd

theorem forall_add (hm : ∀ e ∈ m.entries, P e) (hx : P (k, x)) :
    ∀ e ∈ (m.add k x).entries, P e := by
  intro e he
  rcases mem_insertEntry he with rfl | he
  · exact hx
  · exact hm e he

theorem forall_removeItem (hm : ∀ e ∈ m.entries, P e) :
    ∀ e ∈ (m.removeItem k).entries, P e := by
  intro e he
  exact hm e (List.mem_filter.mp he).1

/-- Enter the listed pairs in turn. -/
def addAll (m : KeyedVector K V) (l : List (K × V)) : KeyedVector K V :=
  l.foldl (fun m e => m.add e.1 e.2) m

@[simp] theorem addAll_nil : m.addAll [] = m := rfl

@[simp] theorem addAll_cons : m.addAll (e :: l) = (m.add e.1 e.2).addAll l := rfl

theorem forall_addAll (hm : ∀ e ∈ m.entries, P e) (hl : ∀ e ∈ l, P e) :
    ∀ e ∈ (m.addAll l).entries, P e := by
  induction l generalizing m with
  | nil => exact hm
  | cons e l ih =>
    apply ih
    · exact forall_add hm (hl e List.mem_cons_self)
    · exact fun f hf => hl f (List.mem_cons_of_mem e hf)

/-- Pairs that continue the map in ascending order are appended to it. -/
theorem addAll_entries (h : (m.entries ++ l).Pairwise fun e f => e.1 < f.1) :
    (m.addAll l).entries = m.entries ++ l := by
  induction l generalizing m with
  | nil => rw [addAll_nil, List.append_nil]
  | cons e l ih =>
    have habove : ∀ f ∈ m.entries, f.1 < e.1 := fun f hf =>
      (List.pairwise_append.mp h).2.2 f hf e List.mem_cons_self
    have hadd : (m.add e.1 e.2).entries = m.entries ++ [e] := insertEntry_append habove
    rw [addAll_cons, ih, hadd, List.append_assoc]
    · rfl
    · rw [hadd, List.append_assoc]
      exact h

/-- A map is rebuilt from its entries. -/
theorem addAll_empty_entries : empty.addAll m.entries = m := by
  apply ext_entries
  rw [addAll_entries] <;> rw [entries_empty, List.nil_append]
  exact m.sorted

/-! What is found under a key. -/

variable {k' : K} {default : V}

def lookup (m : KeyedVector K V) (k : K) : Option V :=
  (m.entries.find? fun e => e.1 = k).map Prod.snd

theorem valueFor_eq (m : KeyedVector K V) (k : K) (default : V) :
    m.valueFor k default = (m.lookup k).getD default := by
  unfold valueFor lookup
  cases m.entries.find? fun e => e.1 = k <;> rfl

@[simp] theorem lookup_empty : (empty : KeyedVector K V).lookup k = none := rfl

theorem find_insertEntry_self : (insertEntry k x l).find? (fun e => e.1 = k) = some (k, x) := by
  induction l with
  | nil => simp [insertEntry]
  | cons f l ih =>
    simp only [insertEntry]
    split_ifs with hlt heq
    · simp
    · simp
    · rw [List.find?_cons_of_neg (by simpa using Ne.symm heq), ih]

theorem find_insertEntry_of_ne (h : k' ≠ k) :
    (insertEntry k x l).find? (fun e => e.1 = k') = l.find? fun e => e.1 = k' := by
  induction l with
  | nil => simpa [insertEntry] using Ne.symm h
  | cons f l ih =>
    simp only [insertEntry]
    split_ifs with hlt heq
    · rw [List.find?_cons_of_neg (by simpa using Ne.symm h)]
    · subst heq
      rw [List.find?_cons_of_neg (by simpa using Ne.symm h),
        List.find?_cons_of_neg (by simpa using Ne.symm h)]
    · rw [List.find?_cons, List.find?_cons, ih]

/-- An entry that is there already changes nothing. -/
theorem insertEntry_of_mem (hl : l.Pairwise fun e f => e.1 < f.1) (h : (k, x) ∈ l) :
    insertEntry k x l = l := by
  induction l with
  | nil => cases h
  | cons f l ih =>
    obtain ⟨hf, hl⟩ := List.pairwise_cons.mp hl
    rcases List.mem_cons.mp h with rfl | h
    · simp [insertEntry]
    · have hlt : f.1 < k := hf _ h
      rw [insertEntry, if_neg hlt.not_gt, if_neg hlt.ne', ih hl h]

@[simp] theorem lookup_add_self : (m.add k x).lookup k = some x := by
  rw [lookup, add, find_insertEntry_self]
  rfl

theorem lookup_add_of_ne (h : k' ≠ k) : (m.add k x).lookup k' = m.lookup k' := by
  rw [lookup, add, find_insertEntry_of_ne h]
  rfl

theorem mem_of_lookup (h : m.lookup k = some x) : (k, x) ∈ m.entries := by
  obtain ⟨e, he, rfl⟩ := Option.map_eq_some_iff.mp h
  have hk : e.1 = k := by simpa using List.find?_some he
  rw [← hk]
  exact List.mem_of_find?_eq_some he

theorem add_of_lookup (h : m.lookup k = some x) : m.add k x = m :=
  ext_entries (insertEntry_of_mem m.sorted (mem_of_lookup h))

end KeyedVector
