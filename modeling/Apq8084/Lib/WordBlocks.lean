import Mathlib.Data.List.Forall2
import Mathlib.Tactic.Common

/-! Blocks of bytes that hold records of 32-bit words, least significant byte first: reads that
fail outside the block, vectors that take their size from it, and the layout of a record. -/

universe u v w

namespace WordBlock

inductive Fault where
  /-- Something outside of a block or an array is read. -/
  | outOfBounds
  /-- A vector gets a negative size. -/
  | badSize
deriving DecidableEq

abbrev Word := BitVec 32

abbrev Block := List UInt8

/-! ### Words -/

def ofBytes (b₀ b₁ b₂ b₃ : UInt8) : Word :=
  .ofNat 32 (b₀.toNat + 256 * (b₁.toNat + 256 * (b₂.toNat + 256 * b₃.toNat)))

def bytes (w : Word) : Block :=
  [.ofNat w.toNat, .ofNat (w.toNat / 256), .ofNat (w.toNat / 65536), .ofNat (w.toNat / 16777216)]

def bytesOf (ws : List Word) : Block := ws.flatMap bytes

/-- Read the `i`th word. -/
def word (b : Block) (i : Nat) : Except Fault Word :=
  match b.drop (4 * i) with
  | b₀ :: b₁ :: b₂ :: b₃ :: _ => .ok (ofBytes b₀ b₁ b₂ b₃)
  | _ => .error .outOfBounds

variable {b : Block} {w : Word} {ws : List Word} {i k n : Nat}

theorem ofBytes_bytes : ofBytes (.ofNat w.toNat) (.ofNat (w.toNat / 256))
    (.ofNat (w.toNat / 65536)) (.ofNat (w.toNat / 16777216)) = w := by
  have h := w.isLt
  apply BitVec.eq_of_toNat_eq
  simp only [ofBytes, BitVec.toNat_ofNat, UInt8.toNat_ofNat']
  omega

theorem bytes_ofBytes (b₀ b₁ b₂ b₃ : UInt8) : bytes (ofBytes b₀ b₁ b₂ b₃) = [b₀, b₁, b₂, b₃] := by
  have h₀ := b₀.toNat_lt
  have h₁ := b₁.toNat_lt
  have h₂ := b₂.toNat_lt
  have h₃ := b₃.toNat_lt
  simp only [bytes, ofBytes, BitVec.toNat_ofNat, List.cons.injEq, ← UInt8.toNat_inj,
    UInt8.toNat_ofNat', and_true]
  omega

@[simp] theorem length_bytesOf : (bytesOf ws).length = 4 * ws.length := by
  induction ws with
  | nil => rfl
  | cons w ws ih =>
    simp only [bytesOf, List.flatMap_cons, List.length_append, bytes, List.length_cons,
      List.length_nil] at ih ⊢
    omega

theorem bytesOf_cons : bytesOf (w :: ws) = bytes w ++ bytesOf ws := rfl

theorem exists_bytesOf (h : b.length = 4 * n) :
    ∃ ws : List Word, ws.length = n ∧ bytesOf ws = b := by
  induction n generalizing b with
  | zero => exact ⟨[], rfl, (List.length_eq_zero_iff.mp h).symm⟩
  | succ n ih =>
    rcases b with _ | ⟨b₀, _ | ⟨b₁, _ | ⟨b₂, _ | ⟨b₃, b⟩⟩⟩⟩ <;> simp only [List.length_cons,
      List.length_nil] at h <;> try omega
    obtain ⟨ws, hlen, hws⟩ := ih (b := b) (by omega)
    refine ⟨ofBytes b₀ b₁ b₂ b₃ :: ws, congrArg (· + 1) hlen, ?_⟩
    rw [bytesOf_cons, bytes_ofBytes, hws]
    rfl

/-- A read finds the word that was written, and nothing behind the last one. -/
theorem word_bytesOf : word (bytesOf ws) i =
    match ws[i]? with
    | some w => .ok w
    | none => .error .outOfBounds := by
  induction ws generalizing i with
  | nil => simp [word, bytesOf]
  | cons w ws ih =>
    cases i with
    | zero => simp [word, bytesOf_cons, bytes, ofBytes_bytes]
    | succ i =>
      have hdrop : (bytesOf (w :: ws)).drop (4 * (i + 1)) = (bytesOf ws).drop (4 * i) := rfl
      simp only [word, hdrop, List.getElem?_cons_succ] at ih ⊢
      exact ih

theorem bytesOf_injective : Function.Injective bytesOf := by
  intro ws vs h
  apply List.ext_getElem?
  intro i
  have hword : word (bytesOf ws) i = word (bytesOf vs) i := by rw [h]
  rw [word_bytesOf, word_bytesOf] at hword
  cases hw : ws[i]? <;> cases hv : vs[i]? <;> simp_all

theorem word_ok (h : ws[i]? = some w) : word (bytesOf ws) i = .ok w := by
  rw [word_bytesOf, h]

theorem word_fails (h : ws[i]? = none) : word (bytesOf ws) i = .error .outOfBounds := by
  rw [word_bytesOf, h]

/-- Any block can be read below its end, and nothing past it. -/
theorem word_isOk : (∃ w, word b i = .ok w) ↔ 4 * (i + 1) ≤ b.length := by
  have hlen : (b.drop (4 * i)).length = b.length - 4 * i := List.length_drop
  simp only [word]
  split
  · next b₀ b₁ b₂ b₃ rest heq =>
    rw [heq] at hlen
    simp only [List.length_cons] at hlen
    exact iff_of_true ⟨_, rfl⟩ (by omega)
  · next hshort =>
    refine iff_of_false (by simp) fun h => ?_
    rcases heq : b.drop (4 * i) with _ | ⟨b₀, _ | ⟨b₁, _ | ⟨b₂, _ | ⟨b₃, rest⟩⟩⟩⟩ <;>
      rw [heq] at hlen <;> simp only [List.length_cons, List.length_nil] at hlen <;> try omega
    exact hshort _ _ _ _ _ heq

/-- What stands behind a block does not change its words. -/
theorem word_append {b' : Block} (h : word b i = .ok w) : word (b ++ b') i = .ok w := by
  simp only [word] at h ⊢
  split at h
  · next b₀ b₁ b₂ b₃ rest heq =>
    have hlen : 4 * i ≤ b.length := by
      by_contra hlong
      rw [List.drop_eq_nil_of_le (by omega)] at heq
      cases heq
    rw [List.drop_append_of_le_length hlen, heq]
    exact h
  · cases h

/-! ### Vectors -/

variable {α β : Type u} {f : Nat → Except Fault α} {g : β → α} {l : List β} {m : Int}

/-- Resize a vector to `m` elements and set them one after the other. -/
def fill (m : Int) (f : Nat → Except Fault α) : Except Fault (List α) :=
  if m < 0 then .error .badSize else (List.range m.toNat).mapM f

theorem mapM_range_ok (hf : ∀ i a, l[i]? = some a → f i = .ok (g a)) (hn : n ≤ l.length) :
    (List.range n).mapM f = .ok ((l.take n).map g) := by
  induction n with
  | zero => rfl
  | succ n ih =>
    have hget : l[n]? = some l[n] := List.getElem?_eq_getElem hn
    rw [List.range_succ, List.mapM_append, ih (Nat.le_of_succ_le hn)]
    simp only [List.mapM_cons, List.mapM_nil, hf n _ hget, List.take_add_one, hget,
      Option.toList_some, List.map_append]
    rfl

theorem mapM_fails {ε : Type v} {ι : Type w} {f : ι → Except ε β} {ns : List ι} {i : ι}
    (hi : i ∈ ns) (hf : ∃ x, f i = .error x) : ∃ x, ns.mapM f = .error x := by
  obtain ⟨x, hx⟩ := hf
  induction ns with
  | nil => cases hi
  | cons j ns ih =>
    rw [List.mapM_cons]
    cases hj : f j with
    | error y => exact ⟨y, rfl⟩
    | ok a =>
      have hins : i ∈ ns := by
        rcases List.mem_cons.mp hi with rfl | hi
        · rw [hx] at hj
          cases hj
        · exact hi
      obtain ⟨y, hy⟩ := ih hins
      exact ⟨y, by rw [hy]; rfl⟩

/-- A vector that is set from the first elements of the array `l`. -/
theorem fill_ok (hf : ∀ i a, l[i]? = some a → f i = .ok (g a)) (hm : 0 ≤ m)
    (hl : m ≤ l.length) : fill m f = .ok ((l.take m.toNat).map g) := by
  rw [fill, if_neg (by omega)]
  exact mapM_range_ok hf (by omega)

/-- A negative size, or one above that of the array, is a fault. -/
theorem fill_fails (hf : ∀ i, l[i]? = none → ∃ x, f i = .error x)
    (hm : ¬ (0 ≤ m ∧ m ≤ l.length)) : ∃ x, fill m f = .error x := by
  by_cases hneg : m < 0
  · exact ⟨.badSize, if_pos hneg⟩
  · rw [fill, if_neg hneg]
    have hend : l.length ∈ List.range m.toNat := List.mem_range.mpr (by omega)
    exact mapM_fails hend (hf _ (List.getElem?_eq_none (Nat.le_refl _)))

/-- Such a loop succeeds if each of its rounds does. -/
theorem mapM_eq_ok_iff {ε : Type v} {ι : Type w} {f : ι → Except ε β} {as : List ι}
    {bs : List β} :
    as.mapM f = .ok bs ↔ List.Forall₂ (fun a b => f a = .ok b) as bs := by
  induction as generalizing bs with
  | nil =>
    rw [List.mapM_nil, List.forall₂_nil_left_iff]
    constructor
    · rintro ⟨⟩
      rfl
    · rintro rfl
      rfl
  | cons a as ih =>
    rw [List.mapM_cons, List.forall₂_cons_left_iff]
    constructor
    · intro h
      cases ha : f a with
      | error x =>
        rw [ha] at h
        cases h
      | ok b =>
        cases has : as.mapM f with
        | error x =>
          rw [ha, has] at h
          cases h
        | ok bs' =>
          rw [ha, has] at h
          cases h
          exact ⟨b, bs', rfl, ih.mp has, rfl⟩
    · rintro ⟨b, bs', ha, has, rfl⟩
      rw [ha, ih.mpr has]
      rfl

theorem length_fill_ok {as : List α} (h : fill m f = .ok as) : (as.length : Int) = m := by
  unfold fill at h
  split at h
  · cases h
  · have hlen := (mapM_eq_ok_iff.mp h).length_eq
    rw [List.length_range] at hlen
    omega

/-! ### Layouts -/

/-- A record that is stored as a fixed number of words, any of which may hold anything. -/
class Layout (S : Type u) where
  size : Nat
  words : S → List Word
  length_words : ∀ s, (words s).length = size
  words_injective : Function.Injective words
  exists_words : ∀ ws : List Word, ws.length = size → ∃ s, words s = ws

namespace Layout

variable {S : Type u} [Layout S] {s : S} {l : List S}

variable (S) in
def sizeof : Nat := 4 * size S

def bytes (s : S) : Block := bytesOf (words s)

@[simp] theorem length_bytes : (bytes s).length = sizeof S := by
  rw [bytes, length_bytesOf, length_words, sizeof]

/-- Every block of the right length holds a record. -/
theorem exists_bytes (h : b.length = sizeof S) : ∃ s : S, bytes s = b := by
  obtain ⟨ws, hlen, hws⟩ := exists_bytesOf h
  obtain ⟨s, hs⟩ := exists_words ws hlen
  exact ⟨s, by rw [bytes, hs, hws]⟩

theorem bytes_injective : Function.Injective (bytes (S := S)) := by
  intro s t h
  exact words_injective (bytesOf_injective h)

/-- The words of an array. -/
def array (l : List S) : List Word := l.flatMap words

theorem length_array : (array l).length = size S * l.length := by
  induction l with
  | nil => rfl
  | cons s l ih =>
    simp only [array, List.flatMap_cons, List.length_append, length_words, List.length_cons,
      Nat.mul_succ] at ih ⊢
    omega

theorem getElem?_array (hk : k < size S) :
    (array l)[size S * i + k]? = l[i]?.bind fun s => (words s)[k]? := by
  induction l generalizing i with
  | nil => rfl
  | cons s l ih =>
    have hlen := length_words s
    cases i with
    | zero =>
      rw [array, List.flatMap_cons, List.getElem?_append_left (by omega)]
      simp
    | succ i =>
      rw [array, List.flatMap_cons, List.getElem?_append_right (by rw [Nat.mul_succ]; omega),
        List.getElem?_cons_succ, ← ih, hlen, Nat.mul_succ]
      congr 1
      omega

theorem exists_array (h : ws.length = size S * n) :
    ∃ l : List S, l.length = n ∧ array l = ws := by
  induction n generalizing ws with
  | zero => exact ⟨[], rfl, (List.length_eq_zero_iff.mp h).symm⟩
  | succ n ih =>
    rw [Nat.mul_succ] at h
    obtain ⟨s, hs⟩ := @exists_words S _ (ws.take (size S)) (by rw [List.length_take]; omega)
    obtain ⟨l, hlen, hl⟩ := @ih (ws.drop (size S)) (by rw [List.length_drop]; omega)
    refine ⟨s :: l, congrArg (· + 1) hlen, ?_⟩
    calc array (s :: l) = words s ++ array l := rfl
      _ = ws := by rw [hs, hl, List.take_append_drop]

theorem array_injective {l l' : List S} (hlen : l.length = l'.length) (h : array l = array l') :
    l = l' := by
  apply List.ext_getElem hlen
  intro i hi hi'
  apply words_injective
  apply List.ext_getElem (by rw [length_words, length_words])
  intro k hk hk'
  have hkS : k < size S := by rwa [length_words] at hk
  have hget : (array l)[size S * i + k]? = (array l')[size S * i + k]? := by rw [h]
  rw [getElem?_array hkS, getElem?_array hkS, List.getElem?_eq_getElem hi,
    List.getElem?_eq_getElem hi'] at hget
  simpa [List.getElem?_eq_getElem hk, List.getElem?_eq_getElem hk'] using hget

variable {head : List Word}

/-- Read a field of an element of an array that has other words in front of it. -/
theorem word_array (hs : l[i]? = some s) (hw : (words s)[k]? = some w) :
    word (bytesOf (head ++ array l)) (head.length + (size S * i + k)) = .ok w := by
  obtain ⟨hk, -⟩ := List.getElem?_eq_some_iff.mp hw
  rw [length_words] at hk
  apply word_ok
  rw [List.getElem?_append_right (Nat.le_add_right _ _), Nat.add_sub_cancel_left,
    getElem?_array hk, hs]
  exact hw

theorem word_array_fails (hs : l[i]? = none) :
    word (bytesOf (head ++ array l)) (head.length + (size S * i + k)) = .error .outOfBounds := by
  have hi : l.length ≤ i := List.getElem?_eq_none_iff.mp hs
  have hmul : size S * l.length ≤ size S * i := Nat.mul_le_mul_left _ hi
  apply word_fails
  apply List.getElem?_eq_none
  rw [List.length_append, length_array]
  omega

end Layout

end WordBlock
