import Mathlib.Data.List.Nodup
import Mathlib.Logic.Function.Basic
import Mathlib.Tactic.Common

/-! Doubly linked lists that are closed to rings by the node that stands for the whole list. -/

universe u

/-- The pointers of all nodes of the memory; `none` is the null pointer. -/
structure Pointers (A : Type u) where
  next : A → Option A
  prev : A → Option A

namespace Pointers

variable {A : Type u} {h h' : Pointers A} {a b c x y node head dst : A} {l l' q : List A}
  {p : A → Bool} {fuel : Nat}

section Operations

variable [DecidableEq A]

/-- `node->next = place; node->prev = place->prev; node->prev->next = node; place->prev = node;`
where a null pointer is not followed. -/
def insertBefore (h : Pointers A) (node place : A) : Option (Pointers A) :=
  (h.prev place).map fun before =>
    { next := Function.update (Function.update h.next node (some place)) before (some node)
      prev := Function.update (Function.update h.prev node (some before)) place (some node) }

/-- `node->next->prev = node->prev; node->prev->next = node->next;` and both pointers of the node
become null. -/
def remove (h : Pointers A) (node : A) : Option (Pointers A) :=
  (h.next node).bind fun after =>
    let prev := Function.update h.prev after (h.prev node)
    (prev node).map fun before =>
      { next := Function.update (Function.update h.next before (some after)) node none
        prev := Function.update prev node none }

/-- `while (p(node)) node = node->next;` for so many rounds at most. -/
def walkWhile (h : Pointers A) (p : A → Bool) : Nat → A → Option A
  | 0, _ => none
  | fuel + 1, node => if p node then (h.next node).bind (walkWhile h p fuel) else some node

/-- The loop that moves nodes to the end of another list as long as they meet the condition. -/
def moveWhile (p : A → Bool) (dst : A) : Nat → Pointers A → A → Option (Pointers A)
  | 0, _, _ => none
  | fuel + 1, h, node =>
    if p node then
      (h.next node).bind fun next =>
        (h.remove node).bind fun h => (h.insertBefore node dst).bind fun h =>
          moveWhile p dst fuel h next
    else some h

end Operations

/-! ### Segments -/

/-- The two nodes are linked both ways. -/
def Link (h : Pointers A) (a b : A) : Prop := h.next a = some b ∧ h.prev b = some a

/-- The nodes between `a` and `b` are those of the list. -/
def Seg (h : Pointers A) : A → List A → A → Prop
  | a, [], b => h.Link a b
  | a, x :: l, b => h.Link a x ∧ Seg h x l b

/-- The same for the nodes of the list, whatever is in front of them. -/
def Tail (h : Pointers A) : List A → A → Prop
  | [], _ => True
  | x :: l, b => Seg h x l b

theorem seg_iff_tail : h.Seg a l b ↔ h.Link a (l.headD b) ∧ h.Tail l b := by
  cases l with
  | nil => exact (and_iff_left trivial).symm
  | cons x l => exact Iff.rfl

theorem seg_append : h.Seg a (l ++ l') b ↔ h.Seg a l (l'.headD b) ∧ h.Tail l' b := by
  induction l generalizing a with
  | nil => exact seg_iff_tail
  | cons y l ih => simp only [List.cons_append, Seg, ih, and_assoc]

/-- A segment reads the forward pointers in front of its end, and the backward ones behind its
start. -/
theorem Seg.congr (hs : h.Seg a l b) (hnext : ∀ y ∈ a :: l, h'.next y = h.next y)
    (hprev : ∀ y ∈ b :: l, h'.prev y = h.prev y) : h'.Seg a l b := by
  induction l generalizing a with
  | nil =>
    obtain ⟨hab, hba⟩ := hs
    exact ⟨(hnext a List.mem_cons_self).trans hab, (hprev b List.mem_cons_self).trans hba⟩
  | cons x l ih =>
    obtain ⟨⟨hax, hxa⟩, hs⟩ := hs
    refine ⟨⟨(hnext a List.mem_cons_self).trans hax, ?_⟩, ih hs (fun y hy => ?_) fun y hy => ?_⟩
    · exact (hprev x (List.mem_cons_of_mem b List.mem_cons_self)).trans hxa
    · exact hnext y (List.mem_cons_of_mem a hy)
    · apply hprev y
      rcases List.mem_cons.mp hy with hy | hy
      · exact List.mem_cons.mpr (Or.inl hy)
      · exact List.mem_cons_of_mem b (List.mem_cons_of_mem x hy)

theorem Tail.congr (ht : h.Tail l b) (hnodup : (b :: l).Nodup)
    (hnext : ∀ y ∈ l, h'.next y = h.next y)
    (hprev : ∀ y ∈ b :: l, y ≠ l.headD b → h'.prev y = h.prev y) : h'.Tail l b := by
  cases l with
  | nil => trivial
  | cons x l =>
    apply Seg.congr ht hnext
    intro y hy
    apply hprev y
    · grind
    · rintro rfl
      grind

theorem getLastD_mem (a : A) (l : List A) : l.getLastD a ∈ a :: l := by
  induction l generalizing a with
  | nil => exact List.mem_cons_self
  | cons x l ih =>
    rw [List.getLastD_cons]
    exact List.mem_cons_of_mem a (ih x)

/-- The last node of a segment is linked to its end. -/
theorem Seg.link_last (hs : h.Seg a l b) : h.Link (l.getLastD a) b := by
  induction l generalizing a with
  | nil => exact hs
  | cons x l ih =>
    rw [List.getLastD_cons]
    exact ih hs.2

/-- The first node behind the start is linked to it. -/
theorem Seg.link_first (hs : h.Seg a l b) : h.Link a (l.headD b) := by
  cases l with
  | nil => exact hs
  | cons x l => exact hs.1

/-- A segment gets another end when the last pointer is changed. -/
theorem Seg.redirect (hs : h.Seg a l b) (hnodup : (a :: l).Nodup)
    (hnext : ∀ y ∈ a :: l, y ≠ l.getLastD a → h'.next y = h.next y)
    (hprev : ∀ y ∈ l, h'.prev y = h.prev y) (hlast : h'.Link (l.getLastD a) c) :
    h'.Seg a l c := by
  induction l generalizing a with
  | nil => exact hlast
  | cons x l ih =>
    obtain ⟨⟨hax, hxa⟩, hs⟩ := hs
    rw [List.getLastD_cons] at hnext hlast
    obtain ⟨ha, hnodup⟩ := List.nodup_cons.mp hnodup
    refine ⟨⟨?_, (hprev x List.mem_cons_self).trans hxa⟩, ?_⟩
    · rw [hnext a List.mem_cons_self, hax]
      intro hlasta
      exact ha (hlasta ▸ getLastD_mem x l)
    · apply ih hs hnodup _ _ hlast
      · exact fun y hy => hnext y (List.mem_cons_of_mem a hy)
      · exact fun y hy => hprev y (List.mem_cons_of_mem x hy)

/-- The walk stops at the first node that does not meet the condition. -/
theorem Seg.walkWhile (hs : h.Seg a l b) (hb : p b = false) (hfuel : l.length < fuel) :
    h.walkWhile p fuel (l.headD b) = some ((l.dropWhile p).headD b) := by
  induction l generalizing a fuel with
  | nil =>
    cases fuel with
    | zero => cases hfuel
    | succ fuel =>
      rw [List.headD_nil, Pointers.walkWhile, hb]
      rfl
  | cons x l ih =>
    cases fuel with
    | zero => cases hfuel
    | succ fuel =>
      rw [List.headD_cons, Pointers.walkWhile]
      cases hx : p x with
      | false =>
        rw [List.dropWhile_cons_of_neg (by simp [hx])]
        rfl
      | true =>
        rw [List.dropWhile_cons_of_pos hx, if_pos rfl, hs.2.link_first.1]
        exact ih hs.2 (Nat.lt_of_succ_lt_succ hfuel)

/-! ### Rings -/

/-- The list `head` has the nodes of `l`, and no node is met twice. -/
structure Ring (h : Pointers A) (head : A) (l : List A) : Prop where
  seg : h.Seg head l head
  nodup : (head :: l).Nodup

/-- Outside the given nodes the pointers are as they were. -/
def Agree (S : List A) (h h' : Pointers A) : Prop :=
  ∀ y, y ∉ S → h'.next y = h.next y ∧ h'.prev y = h.prev y

theorem Ring.congr {S : List A} (hr : h.Ring head l) (hagree : Agree S h h')
    (hdisjoint : ∀ y ∈ head :: l, y ∉ S) : h'.Ring head l :=
  ⟨hr.seg.congr (fun y hy => (hagree y (hdisjoint y hy)).1)
    fun y hy => (hagree y (hdisjoint y hy)).2, hr.nodup⟩

theorem Ring.unique (hr : h.Ring head l) (hr' : h.Ring head l') : l = l' := by
  have hseg : ∀ {l l' : List A} {a : A}, h.Seg a l head → h.Seg a l' head → head ∉ l →
      head ∉ l' → l = l' := by
    intro l
    induction l with
    | nil =>
      intro l' a hs hs' _ hno'
      cases l' with
      | nil => rfl
      | cons x l' =>
        have hx : head = x := Option.some.inj (hs.1.symm.trans hs'.1.1)
        exact absurd (List.mem_cons.mpr (Or.inl hx)) hno'
    | cons x l ih =>
      intro l' a hs hs' hno hno'
      cases l' with
      | nil =>
        have hx : x = head := Option.some.inj (hs.1.1.symm.trans hs'.1)
        exact absurd (List.mem_cons.mpr (Or.inl hx.symm)) hno
      | cons x' l' =>
        obtain rfl : x = x' := Option.some.inj (hs.1.1.symm.trans hs'.1.1)
        rw [ih hs.2 hs'.2 (List.not_mem_of_not_mem_cons hno) (List.not_mem_of_not_mem_cons hno')]
  exact hseg hr.seg hr'.seg (List.nodup_cons.mp hr.nodup).1 (List.nodup_cons.mp hr'.nodup).1

theorem Ring.next_head (hr : h.Ring head l) : h.next head = some (l.headD head) :=
  hr.seg.link_first.1

theorem headD_mem (b : A) (l : List A) : l.headD b ∈ b :: l := by
  cases l with
  | nil => exact List.mem_cons_self
  | cons x l => exact List.mem_cons_of_mem b List.mem_cons_self

section Operations

variable [DecidableEq A]

/-- What `insertBefore` does to the pointers. -/
theorem insertBefore_links (hprev : h.prev y = some x) (hx : x ≠ node) (hy : y ≠ node) :
    ∃ h', h.insertBefore node y = some h' ∧ h'.Link x node ∧ h'.Link node y ∧
      (∀ z, z ≠ x → z ≠ node → h'.next z = h.next z) ∧
      ∀ z, z ≠ y → z ≠ node → h'.prev z = h.prev z := by
  refine ⟨_, by rw [insertBefore, hprev]; rfl, ⟨?_, ?_⟩, ⟨?_, ?_⟩, ?_, ?_⟩
  · exact Function.update_self x _ _
  · exact (Function.update_of_ne hy.symm _ _).trans (Function.update_self node _ _)
  · exact (Function.update_of_ne hx.symm _ _).trans (Function.update_self node _ _)
  · exact Function.update_self y _ _
  · intro z hzx hzn
    exact (Function.update_of_ne hzx _ _).trans (Function.update_of_ne hzn _ _)
  · intro z hzy hzn
    exact (Function.update_of_ne hzy _ _).trans (Function.update_of_ne hzn _ _)

/-- What `remove` does to the pointers. -/
theorem remove_links (hnext : h.next node = some y) (hprev : h.prev node = some x) (hx : x ≠ node)
    (hy : y ≠ node) :
    ∃ h', h.remove node = some h' ∧ h'.Link x y ∧ h'.next node = none ∧ h'.prev node = none ∧
      (∀ z, z ≠ x → z ≠ node → h'.next z = h.next z) ∧
      ∀ z, z ≠ y → z ≠ node → h'.prev z = h.prev z := by
  have hprev' : Function.update h.prev y (h.prev node) node = some x :=
    (Function.update_of_ne hy.symm _ _).trans hprev
  have hremove : h.remove node = some
      { next := Function.update (Function.update h.next x (some y)) node none
        prev := Function.update (Function.update h.prev y (h.prev node)) node none } := by
    simp only [remove, hnext, Option.bind_some, hprev', Option.map_some]
  refine ⟨_, hremove, ⟨?_, ?_⟩, ?_, ?_, ?_, ?_⟩
  · exact (Function.update_of_ne hx _ _).trans (Function.update_self x _ _)
  · exact (Function.update_of_ne hy _ _).trans ((Function.update_self y _ _).trans hprev)
  · exact Function.update_self node _ _
  · exact Function.update_self node _ _
  · intro z hzx hzn
    exact (Function.update_of_ne hzn _ _).trans (Function.update_of_ne hzx _ _)
  · intro z hzy hzn
    exact (Function.update_of_ne hzn _ _).trans (Function.update_of_ne hzy _ _)

/-- The node comes in front of the place, and no pointer outside the ring is written. -/
theorem Ring.insertBefore (hr : h.Ring head (l ++ l')) (hnode : node ∉ head :: (l ++ l')) :
    ∃ h', h.insertBefore node (l'.headD head) = some h' ∧ h'.Ring head (l ++ node :: l') ∧
      Agree (node :: head :: (l ++ l')) h h' := by
  obtain ⟨hseg, hnodup⟩ := hr
  obtain ⟨hseg, htail⟩ := seg_append.mp hseg
  have hbefore := getLastD_mem head l
  have hplace := headD_mem head l'
  have hbefore_ne : l.getLastD head ≠ node := by grind
  have hplace_ne : l'.headD head ≠ node := by grind
  obtain ⟨h', hins, hlast, hnew, hnext, hprev⟩ :=
    insertBefore_links hseg.link_last.2 hbefore_ne hplace_ne
  refine ⟨h', hins, ⟨seg_append.mpr ⟨?_, ?_⟩, by grind⟩, ?_⟩
  · apply hseg.redirect (by grind) _ _ hlast
    · exact fun y hy hne => hnext y hne (by grind)
    · exact fun y hy => hprev y (by grind) (by grind)
  · apply seg_iff_tail.mpr ⟨hnew, _⟩
    apply htail.congr (by grind)
    · exact fun y hy => hnext y (by grind) (by grind)
    · exact fun y hy hne => hprev y hne (by grind)
  · intro y hy
    exact ⟨hnext y (by grind) (by grind), hprev y (by grind) (by grind)⟩

/-- The node leaves the ring with null pointers, and no pointer outside the ring is written. -/
theorem Ring.remove (hr : h.Ring head (l ++ node :: l')) :
    ∃ h', h.remove node = some h' ∧ h'.Ring head (l ++ l') ∧
      Agree (head :: (l ++ node :: l')) h h' := by
  obtain ⟨hseg, hnodup⟩ := hr
  obtain ⟨hseg, htail⟩ := seg_append.mp hseg
  obtain ⟨hlink, htail⟩ := seg_iff_tail.mp htail
  have hbefore := getLastD_mem head l
  have hplace := headD_mem head l'
  obtain ⟨h', hrem, hlast, hnn, hnp, hnext, hprev⟩ :=
    remove_links hlink.1 hseg.link_last.2 (by grind) (by grind)
  refine ⟨h', hrem, ⟨seg_append.mpr ⟨?_, ?_⟩, by grind⟩, ?_⟩
  · apply hseg.redirect (by grind) _ _ hlast
    · exact fun y hy hne => hnext y hne (by grind)
    · exact fun y hy => hprev y (by grind) (by grind)
  · apply htail.congr (by grind)
    · exact fun y hy => hnext y (by grind) (by grind)
    · exact fun y hy hne => hprev y hne (by grind)
  · intro y hy
    exact ⟨hnext y (by grind) (by grind), hprev y (by grind) (by grind)⟩

/-- The loop moves exactly the nodes in front of the first one that does not meet the condition. -/
theorem Ring.moveWhile (hr : h.Ring head l) (hq : h.Ring dst q)
    (hdisjoint : ∀ y ∈ head :: l, y ∉ dst :: q) (hp : p head = false) (hfuel : l.length < fuel) :
    ∃ h', moveWhile p dst fuel h (l.headD head) = some h' ∧ h'.Ring head (l.dropWhile p) ∧
      h'.Ring dst (q ++ l.takeWhile p) := by
  induction l generalizing h q fuel with
  | nil =>
    cases fuel with
    | zero => cases hfuel
    | succ fuel =>
      refine ⟨h, ?_, hr, ?_⟩
      · rw [List.headD_nil, Pointers.moveWhile, hp]
        rfl
      · rw [List.takeWhile_nil, List.append_nil]
        exact hq
  | cons x l ih =>
    cases fuel with
    | zero => cases hfuel
    | succ fuel =>
      rw [List.headD_cons, Pointers.moveWhile]
      cases hx : p x with
      | false =>
        have hnot : ¬p x = true := by simp [hx]
        refine ⟨h, rfl, ?_, ?_⟩
        · rw [List.dropWhile_cons_of_neg hnot]
          exact hr
        · rw [List.takeWhile_cons_of_neg hnot, List.append_nil]
          exact hq
      | true =>
        -- the node leaves its ring, and the other ring keeps its pointers
        obtain ⟨h₁, hremove, hr₁, hagree₁⟩ := @Ring.remove _ h x head [] l _ hr
        have hq₁ : h₁.Ring dst q := hq.congr hagree₁ (by grind)
        -- it comes in at the end of the other ring
        have hxq : x ∉ dst :: (q ++ []) := by grind
        obtain ⟨h₂, hinsert, hq₂, hagree₂⟩ :=
          @Ring.insertBefore _ _ _ _ q [] _ (by rwa [List.append_nil]) hxq
        have hnodup := hr.nodup
        have hr₂ : h₂.Ring head l := hr₁.congr hagree₂ (by grind)
        obtain ⟨h', hmove, hr', hq'⟩ :=
          ih hr₂ hq₂ (by grind) (Nat.lt_of_succ_lt_succ hfuel)
        rw [List.headD_nil] at hinsert
        rw [hr.seg.2.link_first.1, if_pos rfl, Option.bind_some, hremove, Option.bind_some, hinsert,
          Option.bind_some, List.dropWhile_cons_of_pos hx, List.takeWhile_cons_of_pos hx]
        refine ⟨h', hmove, hr', ?_⟩
        rwa [List.append_assoc] at hq'

end Operations

end Pointers
