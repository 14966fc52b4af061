import Apq8084.Lib.Sha1

/-! Hash values of messages that consist of zero bytes. Blocks of zeros have a schedule of zeros, and
their compression is done on natural numbers, in a form that the kernel evaluates. -/
namespace Sha1.Zeros

universe u
variable {α : Type u} {h s : Digest} {i j k n q : Nat}

/-! ### The steps on numbers -/

/-- What is done with the five working variables. -/
abbrev Next (α : Type u) : Type u := Nat → Nat → Nat → Nat → Nat → α

def Next.on (g : Next α) (s : Digest) : α :=
  g s.a.toNat s.b.toNat s.c.toNat s.d.toNat s.e.toNat

def ch (x y z : Nat) : Nat := Nat.xor z (Nat.land x (Nat.xor y z))

def parity (x y z : Nat) : Nat := Nat.xor (Nat.xor x y) z

def maj (x y z : Nat) : Nat := Nat.lor (Nat.land x y) (Nat.land z (Nat.lor x y))

/-- `n` steps with the same function and constant. The recursor and the operations on literals are
what the kernel evaluates at once. -/
def rounds (f : Nat → Nat → Nat → Nat) (k n : Nat) (g : Next α) : Next α :=
  Nat.rec g (fun _ next a b c d e =>
    next (Nat.mod (Nat.add (Nat.add (Nat.add
        (Nat.lor (Nat.mod (Nat.shiftLeft a 5) 4294967296) (Nat.shiftRight a 27)) (f b c d)) e) k)
        4294967296)
      a (Nat.lor (Nat.mod (Nat.shiftLeft b 30) 4294967296) (Nat.shiftRight b 2)) c d) n

/-- Evaluate `n` before going on. -/
def force (n : Nat) (g : Nat → α) : α := Nat.rec (g 0) (fun m _ => g (Nat.succ m)) n

/-- The sums with the hash value before. -/
def finish (g : Next α) (a b c d e : Nat) : Next α := fun a' b' c' d' e' =>
  force (Nat.mod (Nat.add a' a) 4294967296) fun a =>
  force (Nat.mod (Nat.add b' b) 4294967296) fun b =>
  force (Nat.mod (Nat.add c' c) 4294967296) fun c =>
  force (Nat.mod (Nat.add d' d) 4294967296) fun d =>
  force (Nat.mod (Nat.add e' e) 4294967296) fun e => g a b c d e

/-- A block of zeros. -/
def block (g : Next α) : Next α := fun a b c d e =>
  rounds ch 0x5A827999 20 (rounds parity 0x6ED9EBA1 20 (rounds maj 0x8F1BBCDC 20
    (rounds parity 0xCA62C1D6 20 (finish g a b c d e)))) a b c d e

def blocks (n : Nat) (g : Next α) : Next α := Nat.rec g (fun _ next => block next) n

/-! ### They are the steps on words -/

theorem force_eq (n : Nat) (g : Nat → α) : force n g = g n := by
  cases n <;> rfl

theorem ch_toNat (x y z : Word) : (Sha1.ch x y z).toNat = ch x.toNat y.toNat z.toNat := by
  have hch : Sha1.ch x y z = z ^^^ (x &&& (y ^^^ z)) := by
    apply BitVec.eq_of_getLsbD_eq
    intro i hi
    simp only [Sha1.ch, BitVec.getLsbD_xor, BitVec.getLsbD_and, BitVec.getLsbD_not, hi, decide_true,
      Bool.true_and]
    cases x.getLsbD i <;> cases y.getLsbD i <;> cases z.getLsbD i <;> rfl
  rw [hch, BitVec.toNat_xor, BitVec.toNat_and, BitVec.toNat_xor]
  rfl

theorem maj_toNat (x y z : Word) : (Sha1.maj x y z).toNat = maj x.toNat y.toNat z.toNat := by
  have hmaj : Sha1.maj x y z = (x &&& y) ||| (z &&& (x ||| y)) := by
    apply BitVec.eq_of_getLsbD_eq
    intro i hi
    simp only [Sha1.maj, BitVec.getLsbD_xor, BitVec.getLsbD_and, BitVec.getLsbD_or]
    cases x.getLsbD i <;> cases y.getLsbD i <;> cases z.getLsbD i <;> rfl
  rw [hmaj, BitVec.toNat_or, BitVec.toNat_and, BitVec.toNat_and, BitVec.toNat_or]
  rfl

theorem parity_toNat (x y z : Word) :
    (Sha1.parity x y z).toNat = parity x.toNat y.toNat z.toNat := by
  rw [Sha1.parity, BitVec.toNat_xor, BitVec.toNat_xor]
  rfl

theorem rotateLeft_toNat (x : Word) (hi : i < 32) :
    (x.rotateLeft i).toNat =
      Nat.lor (Nat.mod (Nat.shiftLeft x.toNat i) 4294967296) (Nat.shiftRight x.toNat (32 - i)) := by
  rw [BitVec.rotateLeft_def, Nat.mod_eq_of_lt hi, BitVec.toNat_or, BitVec.toNat_shiftLeft,
    BitVec.toNat_ushiftRight]
  rfl

variable {f : Nat → Nat → Nat → Nat} {F : Word → Word → Word → Word} {c : Word}

theorem step_a_toNat (hf : ∀ x y z, (F x y z).toNat = f x.toNat y.toNat z.toNat)
    (hF : Sha1.f i = F) (hK : K i = c) :
    (step (fun _ => 0) s i).a.toNat =
      Nat.mod (Nat.add (Nat.add (Nat.add
        (Nat.lor (Nat.mod (Nat.shiftLeft s.a.toNat 5) 4294967296) (Nat.shiftRight s.a.toNat 27))
        (f s.b.toNat s.c.toNat s.d.toNat)) s.e.toNat) c.toNat) 4294967296 := by
  have ha : (step (fun _ => 0) s i).a = s.a.rotateLeft 5 + F s.b s.c s.d + s.e + c := by
    rw [step, hF, hK]
    exact BitVec.add_zero _
  have hmod : ∀ x y z w : Nat, (((x + y) % 2 ^ 32 + z) % 2 ^ 32 + w) % 2 ^ 32 =
      (x + y + z + w) % 2 ^ 32 := by
    intro x y z w
    omega
  rw [ha, BitVec.toNat_add, BitVec.toNat_add, BitVec.toNat_add, hf, rotateLeft_toNat _ (by omega),
    hmod]
  rfl

/-- Steps with zero words, one function and one constant. -/
theorem rounds_on (hf : ∀ x y z, (F x y z).toNat = f x.toNat y.toNat z.toNat) (hk : c.toNat = k)
    (g : Next α) (h : ∀ t, i ≤ t → t < i + n → Sha1.f t = F ∧ K t = c) :
    Next.on (rounds f k n g) s = Next.on g ((List.range' i n).foldl (step fun _ => 0) s) := by
  subst hk
  induction n generalizing i s with
  | zero => rfl
  | succ n ih =>
    obtain ⟨hF, hK⟩ := h i le_rfl (by omega)
    rw [List.range'_succ, List.foldl_cons, ← ih fun t hit ht => h t (by omega) (by omega), Next.on,
      Next.on, step_a_toNat hf hF hK]
    have hb := rotateLeft_toNat s.b (i := 30) (by omega)
    simp only [step, hb]
    rfl

theorem schedule_zero (n : Nat) : (schedule (fun _ => 0) n).getD i 0 = 0 := by
  induction n generalizing i with
  | zero => rfl
  | succ n ih =>
    by_cases hin : i < n
    · rw [schedule_succ_of_lt _ hin, ih]
    · by_cases hi : i = n
      · rw [hi, schedule_succ_self, ih, ih, ih, ih]
        split <;> rfl
      · exact List.getD_eq_default _ _ (by rw [length_schedule]; omega)

theorem steps_on (g : Next α) (h : Digest) :
    Next.on (rounds ch 0x5A827999 20 (rounds parity 0x6ED9EBA1 20 (rounds maj 0x8F1BBCDC 20
      (rounds parity 0xCA62C1D6 20 g)))) h = g.on (steps (fun _ => 0) h) := by
  have hrange : List.range 80 =
      List.range' 0 20 ++ List.range' 20 20 ++ List.range' 40 20 ++ List.range' 60 20 := rfl
  rw [rounds_on (i := 0) (k := 0x5A827999) ch_toNat rfl _ fun t _ ht => phase₀ (by omega),
    rounds_on (i := 20) (k := 0x6ED9EBA1) parity_toNat rfl _ fun t ht ht' => phase₁ ht ht',
    rounds_on (i := 40) (k := 0x8F1BBCDC) maj_toNat rfl _ fun t ht ht' => phase₂ ht ht',
    rounds_on (i := 60) (k := 0xCA62C1D6) parity_toNat rfl _ fun t ht _ => phase₃ ht,
    steps, hrange, List.foldl_append, List.foldl_append, List.foldl_append]

theorem finish_on (g : Next α) (h s : Digest) :
    (finish g h.a.toNat h.b.toNat h.c.toNat h.d.toNat h.e.toNat).on s =
      g.on { a := s.a + h.a, b := s.b + h.b, c := s.c + h.c, d := s.d + h.d, e := s.e + h.e } := by
  simp only [Next.on, finish, force_eq, BitVec.toNat_add]
  rfl

theorem block_on (g : Next α) (h : Digest) : (block g).on h = g.on (compress h fun _ => 0) := by
  have hwords : ((schedule (fun _ => 0) 80).getD · 0) = fun _ => (0 : Word) :=
    funext fun _ => schedule_zero 80
  have hsum := (steps_on (finish g h.a.toNat h.b.toNat h.c.toNat h.d.toNat h.e.toNat) h).trans
    (finish_on g h (steps (fun _ => 0) h))
  rw [compress, hwords, ← hsum, Next.on, Next.on, block]

theorem blocks_on (n : Nat) (g : Next α) :
    (blocks n g).on (hash (fun _ => 0) i) = g.on (hash (fun _ => 0) (i + n)) := by
  induction n generalizing i with
  | zero => rfl
  | succ n ih =>
    have hcompress : compress (hash (fun _ => 0) i) (fun _ => 0) = hash (fun _ => 0) (i + 1) := by
      rw [hash]
      apply compress_congr
      intro t _
      have hzero : (0 : Word) = (0 : Byte) ++ (0 : Byte) ++ (0 : Byte) ++ (0 : Byte) := by decide
      exact hzero
    calc (block (blocks n g)).on (hash (fun _ => 0) i)
      _ = (blocks n g).on (hash (fun _ => 0) (i + 1)) := by rw [block_on, hcompress]
      _ = g.on (hash (fun _ => 0) (i + (n + 1))) := by rw [ih, Nat.add_right_comm, Nat.add_assoc]

/-- Compare with a hash value. -/
def same (h : Digest) : Next Bool := fun a b c d e =>
  Nat.beq a h.a.toNat && Nat.beq b h.b.toNat && Nat.beq c h.c.toNat && Nat.beq d h.d.toNat &&
    Nat.beq e h.e.toNat

theorem same_on (hs : (same h).on s = true) : s = h := by
  simp only [Next.on, same, Bool.and_eq_true, Nat.beq_eq] at hs
  obtain ⟨⟨⟨⟨ha, hb⟩, hc⟩, hd⟩, he⟩ := hs
  cases s
  cases h
  rw [Digest.mk.injEq]
  exact ⟨BitVec.eq_of_toNat_eq ha, BitVec.eq_of_toNat_eq hb, BitVec.eq_of_toNat_eq hc,
    BitVec.eq_of_toNat_eq hd, BitVec.eq_of_toNat_eq he⟩

/-- The hash value after `n` blocks of zeros, by evaluation. -/
theorem hash_eq (hs : (blocks n (same h)).on initial = true) : hash (fun _ => 0) n = h := by
  have hon := blocks_on (i := 0) n (same h)
  rw [Nat.zero_add] at hon
  exact same_on (hon.symm.trans hs)

/-! ### Messages of zeros -/

/-- The `j`th byte of the last block of `n` zero bytes, `i` of them in this block. -/
def lastByte (i n j : Nat) : Byte :=
  if j = i then 0x80
  else if j < 56 then 0
  else (BitVec.ofNat 64 (8 * n)).extractLsb' (8 * (63 - j)) 8

theorem stream_replicate (hi : i ≤ 55) (hj : j < 64) (hn : n = 64 * q + i) :
    stream (List.replicate n 0) (64 * q + j) = lastByte i n j := by
  have hlen : (List.replicate n (0 : Byte)).length = n := List.length_replicate
  have hzeros : zeros (List.replicate n (0 : Byte)).length = 55 - i := by
    rw [hlen, zeros]
    omega
  rw [lastByte]
  split
  · rename_i hji
    have hpos : 64 * q + j = (List.replicate n (0 : Byte)).length := by omega
    rw [hpos, stream_length]
  · split
    · by_cases hji : j < i
      · rw [stream_of_lt (by omega), List.getElem_replicate]
      · exact stream_zero (by omega) (by omega)
    · have hpos : 64 * q + j = (List.replicate n (0 : Byte)).length + 1 +
          zeros (List.replicate n (0 : Byte)).length + (j - 56) := by omega
      have hshift : 56 - 8 * (j - 56) = 8 * (63 - j) := by omega
      rw [hpos, stream_lengthBytes (by omega), hlen, hshift]

/-- Blocks of zeros, and one that has the padding. -/
theorem sha1_replicate (hi : i ≤ 55) (hn : n = 64 * q + i) :
    sha1 (List.replicate n 0) = compress (hash (fun _ => 0) q) (word (lastByte i n) 0) := by
  have hlen : (List.replicate n (0 : Byte)).length = n := List.length_replicate
  have hblocks : (pad (List.replicate n 0)).length / 64 = q + 1 := by
    rw [length_pad, hlen, zeros]
    omega
  have hhash : hash (stream (List.replicate n 0)) q = hash (fun _ => 0) q := by
    apply hash_congr
    intro j hj
    rw [stream_of_lt (by omega), List.getElem_replicate]
  rw [sha1, hblocks, hash, hhash]
  apply compress_congr
  intro t ht
  simp only [word, Nat.mul_zero, Nat.zero_add, Nat.add_assoc]
  rw [stream_replicate hi (by omega) hn, stream_replicate hi (by omega) hn,
    stream_replicate hi (by omega) hn, stream_replicate hi (by omega) hn]

end Sha1.Zeros
