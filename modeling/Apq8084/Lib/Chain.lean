import Mathlib.Logic.Function.Basic
import Mathlib.Data.List.Nodup
import Mathlib.Tactic.Common

/-! Singly linked lists in memory, searched and edited through a pointer to the link that is
being followed. -/

universe u

/-- The head variable of a list and the link field of every node. -/
structure Links (A : Type u) where
  head : Option A
  next : A → Option A

namespace Links

variable {A : Type u} {L : Links A} {next : A → Option A} {p v : Option A} {a t : A}
  {l k l₁ l₂ : List A} {m : A → Bool} {n : Nat}

/-- A place that holds a link: the head variable or a node's link field. -/
inductive Place (A : Type u) where
  | head
  | next (a : A)

def load (L : Links A) : Place A → Option A
  | .head => L.head
  | .next a => L.next a

/-- Follow the links from `place` until a node matches; at most `n` nodes are visited. -/
def find (L : Links A) (m : A → Bool) : Nat → Place A → Option (Place A × A)
  | 0, _ => none
  | n + 1, place =>
    match L.load place with
    | none => none
    | some a => if m a then some (place, a) else find L m n (.next a)

/-- The nodes `l` follow one another from `p` on and end in the null link. -/
def Chain (next : A → Option A) : Option A → List A → Prop
  | p, [] => p = none
  | p, a :: l => p = some a ∧ Chain next (next a) l

@[simp] theorem chain_nil : Chain next p [] ↔ p = none := Iff.rfl

@[simp] theorem chain_cons : Chain next p (a :: l) ↔ p = some a ∧ Chain next (next a) l := Iff.rfl

/-- A link starts at most one chain. -/
theorem chain_unique (hl : Chain next p l) (hk : Chain next p k) : l = k := by
  induction l generalizing p k with
  | nil =>
    rw [chain_nil] at hl
    cases k with
    | nil => rfl
    | cons b k => simp [hl] at hk
  | cons a l ih =>
    obtain ⟨ha, hl⟩ := hl
    cases k with
    | nil => simp [ha] at hk
    | cons b k =>
      obtain ⟨hb, hk⟩ := hk
      obtain rfl := Option.some.inj (ha.symm.trans hb)
      rw [ih hl hk]

theorem chain_congr {next' : A → Option A} (hn : ∀ a ∈ l, next' a = next a)
    (hl : Chain next p l) : Chain next' p l := by
  induction l generalizing p with
  | nil => exact hl
  | cons a l ih =>
    refine ⟨hl.1, ?_⟩
    rw [hn a List.mem_cons_self]
    exact ih (fun b hb => hn b (List.mem_cons_of_mem a hb)) hl.2

/-- The place that holds the link behind the nodes `l`, read from `place` on. -/
def placeAfter : Place A → List A → Place A
  | place, [] => place
  | _, a :: l => placeAfter (.next a) l

theorem placeAfter_eq (place : Place A) (l : List A) :
    (l = [] ∧ placeAfter place l = place) ∨ ∃ a ∈ l, placeAfter place l = .next a := by
  induction l generalizing place with
  | nil => exact Or.inl ⟨rfl, rfl⟩
  | cons b l ih =>
    right
    rcases ih (.next b) with ⟨_, h⟩ | ⟨a, ha, h⟩
    · exact ⟨b, List.mem_cons_self, h⟩
    · exact ⟨a, List.mem_cons_of_mem b ha, h⟩

/-- The search stops in front of the first match. -/
theorem find_some (place : Place A) {place' : Place A} (hl : Chain L.next (L.load place) l)
    (hf : L.find m n place = some (place', t)) :
    ∃ l₁ l₂, l = l₁ ++ t :: l₂ ∧ m t = true ∧ (∀ a ∈ l₁, m a = false) ∧
      place' = placeAfter place l₁ := by
  induction n generalizing place l with
  | zero => simp [find] at hf
  | succ n ih =>
    cases l with
    | nil =>
      rw [chain_nil] at hl
      simp [find, hl] at hf
    | cons a l =>
      obtain ⟨ha, hl⟩ := hl
      simp only [find, ha] at hf
      split at hf
      · rename_i hm
        cases hf
        exact ⟨[], l, rfl, hm, by simp, rfl⟩
      · rename_i hm
        obtain ⟨l₁, l₂, rfl, ht, hl₁, hp⟩ := ih (.next a) hl hf
        refine ⟨a :: l₁, l₂, rfl, ht, ?_, hp⟩
        intro b hb
        rcases List.mem_cons.mp hb with rfl | hb
        · simpa using hm
        · exact hl₁ b hb

/-- A search that may visit every node misses none. -/
theorem find_none (place : Place A) (hl : Chain L.next (L.load place) l)
    (hn : l.length < n) (hf : L.find m n place = none) : ∀ a ∈ l, m a = false := by
  induction n generalizing place l with
  | zero => omega
  | succ n ih =>
    cases l with
    | nil => simp
    | cons a l =>
      obtain ⟨ha, hl⟩ := hl
      simp only [find, ha] at hf
      split at hf
      · cases hf
      · rename_i hm
        intro b hb
        rcases List.mem_cons.mp hb with rfl | hb
        · simpa using hm
        · exact ih (.next a) hl (by simpa using hn) hf b hb

/-- What is left of a list without repetitions when `t` is taken out. -/
theorem mem_unlinked (hd : l.Nodup) (hl : l = l₁ ++ t :: l₂) :
    t ∉ l₁ ++ l₂ ∧ (l₁ ++ l₂).Nodup ∧ ∀ x, x ∈ l₁ ++ l₂ ↔ x ∈ l ∧ x ≠ t := by
  rw [hl, List.nodup_middle, List.nodup_cons] at hd
  obtain ⟨ht, hrest⟩ := hd
  refine ⟨ht, hrest, fun x => ?_⟩
  rw [hl, List.mem_append, List.mem_append, List.mem_cons]
  constructor
  · intro hx
    refine ⟨hx.imp_right Or.inr, ?_⟩
    rintro rfl
    exact ht (List.mem_append.mpr hx)
  · rintro ⟨hx | rfl | hx, hxt⟩
    · exact Or.inl hx
    · exact absurd rfl hxt
    · exact Or.inr hx

/-! Stores. -/

variable [DecidableEq A]

def store (L : Links A) (place : Place A) (v : Option A) : Links A :=
  match place with
  | .head => { L with head := v }
  | .next a => { L with next := Function.update L.next a v }

/-- Only the links of a chain's own nodes matter to it. -/
theorem chain_update (ha : a ∉ l) (hl : Chain next p l) :
    Chain (Function.update next a v) p l := by
  induction l generalizing p with
  | nil => exact hl
  | cons b l ih =>
    rw [List.mem_cons, not_or] at ha
    refine ⟨hl.1, ?_⟩
    rw [Function.update_of_ne (Ne.symm ha.1)]
    exact ih ha.2 hl.2

theorem chain_push (ha : a ∉ l) (hl : Chain next p l) :
    Chain (Function.update next a p) (some a) (a :: l) := by
  refine ⟨rfl, ?_⟩
  rw [Function.update_self]
  exact chain_update ha hl

theorem load_store_self (place : Place A) : (L.store place v).load place = v := by
  cases place with
  | head => rfl
  | next a => exact Function.update_self a v L.next

theorem load_store_next (place : Place A) (ha : ∀ b, place = .next b → b ≠ a) :
    (L.store (.next a) v).load place = L.load place := by
  cases place with
  | head => rfl
  | next b => exact Function.update_of_ne (ha b rfl) v L.next

theorem chain_store (place : Place A) (hp : ∀ a, place = .next a → a ∉ l)
    (hl : Chain L.next p l) : Chain (L.store place v).next p l := by
  cases place with
  | head => exact hl
  | next a => exact chain_update (hp a rfl) hl

/-- Overwriting the link that leads to `t` with the link behind `t` takes `t` out. -/
theorem chain_unlink (place : Place A) (hl : Chain L.next (L.load place) (l₁ ++ t :: l₂))
    (hd : (l₁ ++ t :: l₂).Nodup) (hp : ∀ a, place = .next a → a ∉ l₁ ++ t :: l₂) :
    Chain (L.store (placeAfter place l₁) (L.next t)).next
      ((L.store (placeAfter place l₁) (L.next t)).load place) (l₁ ++ l₂) := by
  induction l₁ generalizing place with
  | nil =>
    change Chain _ ((L.store place (L.next t)).load place) l₂
    rw [load_store_self]
    exact chain_store place (fun a ha hm => hp a ha (List.mem_cons_of_mem t hm)) hl.2
  | cons b l₁ ih =>
    rw [List.cons_append] at hl hd hp
    rw [List.nodup_cons] at hd
    have hrest := ih (.next b) hl.2 hd.2 (by
      rintro a ha
      cases ha
      exact hd.1)
    refine ⟨?_, hrest⟩
    -- the link at `place` itself is not the one that is overwritten
    obtain ⟨c, hc, h⟩ : ∃ c ∈ b :: l₁, placeAfter place (b :: l₁) = .next c := by
      rcases placeAfter_eq place (b :: l₁) with ⟨h, _⟩ | h
      · cases h
      · exact h
    rw [h, load_store_next place, hl.1]
    intro a ha he
    subst he
    exact hp a ha (List.mem_append_left (t :: l₂) hc)

/-- The loop `for (pp = &head; *pp; pp = &(*pp)->next) if (match) { *pp = (*pp)->next; break; }`
removes the first match. -/
theorem chain_unlink_head {place : Place A} (hl : Chain L.next L.head l) (hd : l.Nodup)
    (hf : L.find m n .head = some (place, t)) :
    ∃ l₁ l₂, l = l₁ ++ t :: l₂ ∧ m t = true ∧ (∀ a ∈ l₁, m a = false) ∧
      (place = .head ∨ ∃ a ∈ l, place = .next a) ∧
      Chain (L.store place (L.next t)).next (L.store place (L.next t)).head (l₁ ++ l₂) := by
  obtain ⟨l₁, l₂, rfl, ht, hl₁, rfl⟩ := find_some .head hl hf
  refine ⟨l₁, l₂, rfl, ht, hl₁, ?_, chain_unlink .head hl hd (by simp)⟩
  rcases placeAfter_eq Place.head l₁ with ⟨_, h⟩ | ⟨a, ha, h⟩
  · exact Or.inl h
  · exact Or.inr ⟨a, List.mem_append_left (t :: l₂) ha, h⟩

end Links
