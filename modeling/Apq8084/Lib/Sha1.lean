import Mathlib.Data.List.GetD
import Mathlib.Order.Bounds.Basic
import Mathlib.Tactic.Common

/-! SHA-1 on messages of whole bytes, after FIPS 180: padding, message schedule, compression and
hash values; and what a block buffer holds while a message is put through it byte by byte. -/
namespace Sha1

abbrev Word := BitVec 32

abbrev Byte := BitVec 8

/-- The words of a hash value, and the working variables of its computation. -/
structure Digest where
  a : Word
  b : Word
  c : Word
  d : Word
  e : Word
deriving DecidableEq

def initial : Digest :=
  { a := 0x67452301, b := 0xEFCDAB89, c := 0x98BADCFE, d := 0x10325476, e := 0xC3D2E1F0 }

def ch (x y z : Word) : Word := (x &&& y) ^^^ (~~~x &&& z)

def parity (x y z : Word) : Word := x ^^^ y ^^^ z

def maj (x y z : Word) : Word := (x &&& y) ^^^ (x &&& z) ^^^ (y &&& z)

def f (t : Nat) : Word → Word → Word → Word :=
  if t < 20 then ch else if t < 40 then parity else if t < 60 then maj else parity

def K (t : Nat) : Word :=
  if t < 20 then 0x5A827999 else if t < 40 then 0x6ED9EBA1
  else if t < 60 then 0x8F1BBCDC else 0xCA62C1D6

/-- The first words of the message schedule of the block `m`. -/
def schedule (m : Nat → Word) : Nat → List Word
  | 0 => []
  | t + 1 =>
    let W := schedule m t
    W ++ [if t < 16 then m t
      else (W.getD (t - 3) 0 ^^^ W.getD (t - 8) 0 ^^^ W.getD (t - 14) 0 ^^^
        W.getD (t - 16) 0).rotateLeft 1]

def step (w : Nat → Word) (s : Digest) (t : Nat) : Digest :=
  { a := s.a.rotateLeft 5 + f t s.b s.c s.d + s.e + K t + w t
    b := s.a, c := s.b.rotateLeft 30, d := s.c, e := s.d }

def steps (w : Nat → Word) (s : Digest) : Digest := (List.range 80).foldl (step w) s

/-- The hash value after the block `m`. -/
def compress (h : Digest) (m : Nat → Word) : Digest :=
  let s := steps ((schedule m 80).getD · 0) h
  { a := s.a + h.a, b := s.b + h.b, c := s.c + h.c, d := s.d + h.d, e := s.e + h.e }

/-- The words of the `i`th block of a message. -/
def word (bytes : Nat → Byte) (i t : Nat) : Word :=
  bytes (64 * i + 4 * t) ++ bytes (64 * i + 4 * t + 1) ++ bytes (64 * i + 4 * t + 2) ++
    bytes (64 * i + 4 * t + 3)

/-- The hash value after that many blocks. -/
def hash (bytes : Nat → Byte) : Nat → Digest
  | 0 => initial
  | i + 1 => compress (hash bytes i) (word bytes i)

/-- The zero bytes in the padding of a message of `n` bytes. -/
def zeros (n : Nat) : Nat := (119 - n % 64) % 64

/-- The number of bits in 64 bits. -/
def lengthBytes (n : Nat) : List Byte :=
  (List.range 8).map fun i => (BitVec.ofNat 64 (8 * n)).extractLsb' (56 - 8 * i) 8

def pad (m : List Byte) : List Byte :=
  m ++ 0x80 :: (List.replicate (zeros m.length) 0 ++ lengthBytes m.length)

/-- The bytes of a padded message. -/
def stream (m : List Byte) (i : Nat) : Byte := (pad m).getD i 0

def sha1 (m : List Byte) : Digest := hash (stream m) ((pad m).length / 64)

def Digest.words (h : Digest) : Vector Word 5 := #v[h.a, h.b, h.c, h.d, h.e]

/-- A hash value as a string of 20 bytes. -/
def Digest.bytes (h : Digest) : List Byte :=
  [h.a, h.b, h.c, h.d, h.e].flatMap fun w =>
    (List.range 4).map fun i => w.extractLsb' (24 - 8 * i) 8

def bigEndian (l : List Byte) : Nat := l.foldl (fun n b => 256 * n + b.toNat) 0

variable {m m' : List Byte} {bytes bytes' : Nat → Byte} {h : Digest} {i n t : Nat}

/-! ### Padding -/

/-- The padding takes the least number of zero bits that leaves 64 bits of the last block. -/
theorem zeros_isLeast (n : Nat) :
    IsLeast {k | (8 * n + 1 + k) % 512 = 448} (8 * zeros n + 7) := by
  constructor
  · have : zeros n = (119 - n % 64) % 64 := rfl
    rw [Set.mem_ofPred_eq]
    omega
  · intro k hk
    have : zeros n = (119 - n % 64) % 64 := rfl
    rw [Set.mem_ofPred_eq] at hk
    omega

@[simp] theorem length_lengthBytes : (lengthBytes n).length = 8 := by simp [lengthBytes]

@[simp] theorem length_pad (m : List Byte) : (pad m).length = m.length + zeros m.length + 9 := by
  simp only [pad, List.length_append, List.length_cons, List.length_replicate, length_lengthBytes]
  omega

theorem stream_of_lt (hi : i < m.length) : stream m i = m[i] := by
  rw [stream, pad, List.getD_append _ _ _ _ hi, List.getD_eq_getElem _ _ hi]

theorem stream_length : stream m m.length = 0x80 := by
  rw [stream, pad, List.getD_append_right _ _ _ _ le_rfl, Nat.sub_self]
  rfl

theorem stream_zero (hi : m.length < i) (hz : i < m.length + 1 + zeros m.length) :
    stream m i = 0 := by
  obtain ⟨j, rfl⟩ : ∃ j, i = m.length + (j + 1) := ⟨i - m.length - 1, by omega⟩
  rw [stream, pad, List.getD_append_right _ _ _ _ (by omega), Nat.add_sub_cancel_left,
    List.getD_cons_succ, List.getD_append _ _ _ _ (by rw [List.length_replicate]; omega)]
  exact List.getD_replicate _ (by omega)

theorem stream_lengthBytes (hi : i < 8) :
    stream m (m.length + 1 + zeros m.length + i) =
      (BitVec.ofNat 64 (8 * m.length)).extractLsb' (56 - 8 * i) 8 := by
  have hj : m.length + 1 + zeros m.length + i = m.length + (zeros m.length + i + 1) := by omega
  rw [hj, stream, pad, List.getD_append_right _ _ _ _ (by omega), Nat.add_sub_cancel_left,
    List.getD_cons_succ, List.getD_append_right _ _ _ _ (by rw [List.length_replicate]; omega),
    List.length_replicate, Nat.add_sub_cancel_left, List.getD_eq_getElem _ _ (by simpa using hi)]
  simp [lengthBytes]

/-! ### Blocks -/

theorem phase₀ (ht : t < 20) : f t = ch ∧ K t = 0x5A827999 := by
  rw [f, K, if_pos ht, if_pos ht]
  exact ⟨rfl, rfl⟩

theorem phase₁ (h : 20 ≤ t) (ht : t < 40) : f t = parity ∧ K t = 0x6ED9EBA1 := by
  rw [f, K, if_neg (by omega), if_pos ht, if_neg (by omega), if_pos ht]
  exact ⟨rfl, rfl⟩

theorem phase₂ (h : 40 ≤ t) (ht : t < 60) : f t = maj ∧ K t = 0x8F1BBCDC := by
  rw [f, K, if_neg (by omega), if_neg (by omega), if_pos ht, if_neg (by omega), if_neg (by omega),
    if_pos ht]
  exact ⟨rfl, rfl⟩

theorem phase₃ (h : 60 ≤ t) : f t = parity ∧ K t = 0xCA62C1D6 := by
  rw [f, K, if_neg (by omega), if_neg (by omega), if_neg (by omega), if_neg (by omega),
    if_neg (by omega), if_neg (by omega)]
  exact ⟨rfl, rfl⟩

@[simp] theorem length_schedule (m : Nat → Word) (n : Nat) : (schedule m n).length = n := by
  induction n with
  | zero => rfl
  | succ n ih => rw [schedule, List.length_append, ih, List.length_singleton]

theorem schedule_succ_of_lt (m : Nat → Word) (ht : t < n) :
    (schedule m (n + 1)).getD t 0 = (schedule m n).getD t 0 :=
  List.getD_append _ _ _ _ (by rwa [length_schedule])

theorem schedule_succ_self (m : Nat → Word) (n : Nat) :
    (schedule m (n + 1)).getD n 0 =
      if n < 16 then m n
      else ((schedule m n).getD (n - 3) 0 ^^^ (schedule m n).getD (n - 8) 0 ^^^
        (schedule m n).getD (n - 14) 0 ^^^ (schedule m n).getD (n - 16) 0).rotateLeft 1 := by
  rw [schedule, List.getD_append_right _ _ _ _ (by rw [length_schedule]), length_schedule,
    Nat.sub_self]
  rfl

/-- The schedule starts with the block. -/
theorem schedule_of_lt (m : Nat → Word) (ht : t < n) (ht16 : t < 16) :
    (schedule m n).getD t 0 = m t := by
  induction n with
  | zero => exact (Nat.not_lt_zero t ht).elim
  | succ n ih =>
    by_cases htn : t = n
    · rw [← htn, schedule_succ_self, if_pos ht16]
    · rw [schedule_succ_of_lt m (by omega), ih (by omega)]

theorem schedule_congr {m m' : Nat → Word} (h : ∀ t < 16, m t = m' t) (n : Nat) :
    schedule m n = schedule m' n := by
  induction n with
  | zero => rfl
  | succ n ih =>
    rw [schedule, schedule, ih]
    by_cases hn : n < 16
    · rw [if_pos hn, if_pos hn, h n hn]
    · rw [if_neg hn, if_neg hn]

/-- Compression reads sixteen words. -/
theorem compress_congr {m m' : Nat → Word} (hm : ∀ t < 16, m t = m' t) :
    compress h m = compress h m' := by
  rw [compress, schedule_congr hm, compress]

theorem hash_congr (h : ∀ j < 64 * n, bytes j = bytes' j) : hash bytes n = hash bytes' n := by
  induction n with
  | zero => rfl
  | succ n ih =>
    rw [hash, hash, ih fun j hj => h j (by omega)]
    apply compress_congr
    intro t ht
    rw [word, word, h _ (by omega), h _ (by omega), h _ (by omega), h _ (by omega)]

/-- The block buffer holds the first `i` bytes of the `n`th block. -/
structure Filled (bytes : Nat → Byte) (n i : Nat) (block : Vector Byte 64) : Prop where
  le : i ≤ 64
  block : ∀ j (hj : j < i), block[j] = bytes (64 * n + j)

variable {block : Vector Byte 64}

theorem Filled.start (bytes : Nat → Byte) (n : Nat) (block : Vector Byte 64) :
    Filled bytes n 0 block :=
  ⟨Nat.zero_le _, fun j hj => (Nat.not_lt_zero j hj).elim⟩

theorem Filled.put (hf : Filled bytes n i block) (hi : i < 64) :
    Filled bytes n (i + 1) (block.set i (bytes (64 * n + i))) := by
  refine ⟨hi, ?_⟩
  intro j hj
  by_cases hij : i = j
  · subst hij
    rw [Vector.getElem_set_self]
  · rw [Vector.getElem_set_ne _ _ hij]
    exact hf.block j (by omega)

/-- A full buffer is the next block. -/
theorem Filled.hash_succ {w : Nat → Word} (hf : Filled bytes n 64 block)
    (hw : ∀ t (ht : t < 16), w t =
      block[4 * t] ++ block[4 * t + 1] ++ block[4 * t + 2] ++ block[4 * t + 3]) :
    hash bytes (n + 1) = compress (hash bytes n) w := by
  rw [hash]
  apply compress_congr
  intro t ht
  rw [hw t ht, hf.block _ (by omega), hf.block _ (by omega), hf.block _ (by omega),
    hf.block _ (by omega)]
  rfl

/-- The first two words of a hash value, as a number. -/
theorem bigEndian_take_bytes (h : Digest) :
    bigEndian (h.bytes.take 8) = 4294967296 * h.a.toNat + h.b.toNat := by
  have ha := h.a.isLt
  have hb := h.b.isLt
  simp [Digest.bytes, bigEndian, List.range, List.range.loop, BitVec.extractLsb'_toNat,
    Nat.shiftRight_eq_div_pow]
  omega

theorem bigEndian_take_bytes_inj {h' : Digest}
    (heq : bigEndian (h.bytes.take 8) = bigEndian (h'.bytes.take 8)) : h.a = h'.a ∧ h.b = h'.b := by
  rw [bigEndian_take_bytes, bigEndian_take_bytes] at heq
  have hb := h.b.isLt
  have hb' := h'.b.isLt
  constructor
  · apply BitVec.eq_of_toNat_eq
    omega
  · apply BitVec.eq_of_toNat_eq
    omega

end Sha1
