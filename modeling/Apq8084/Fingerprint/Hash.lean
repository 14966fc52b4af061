import Apq8084.Lib.Sha1
import Mathlib.Data.List.Basic

/-! The hash of the template database: SHA-1 over a global context that takes the message byte by
byte, and the number made of its first words. Accesses outside of `Message_Block` have no result. -/
namespace Apq8084.Fingerprint.Hash

open Sha1 (Word Byte Digest)

structure SHA1Context where
  messageDigest : Vector Word 5
  lengthLow : Word
  lengthHigh : Word
  messageBlock : Vector Byte 64
  messageBlockIndex : Int
  computed : Int
  corrupted : Int

def sha1CircularShift (bits : Nat) (word : Word) : Word :=
  ((word <<< bits) &&& 0xFFFFFFFF) ||| (word >>> (32 - bits))

def convertHashToNumber (sha : SHA1Context) : BitVec 64 :=
  (sha.messageDigest[0].setWidth 64 <<< 32) + sha.messageDigest[1].setWidth 64

def sha1Reset (c : SHA1Context) : SHA1Context :=
  { c with
    lengthLow := 0, lengthHigh := 0, messageBlockIndex := 0
    messageDigest := #v[0x67452301, 0xEFCDAB89, 0x98BADCFE, 0x10325476, 0xC3D2E1F0]
    computed := 0, corrupted := 0 }

/-! ### One block -/

def K : Vector Word 4 := #v[0x5A827999, 0x6ED9EBA1, 0x8F1BBCDC, 0xCA62C1D6]

/-- The sixteen words of the block. -/
def blockWord (block : Vector Byte 64) (t : Fin 16) : Word :=
  block[4 * t.val].setWidth 32 <<< 24 ||| block[4 * t.val + 1].setWidth 32 <<< 16 |||
    block[4 * t.val + 2].setWidth 32 <<< 8 ||| block[4 * t.val + 3].setWidth 32

/-- The array `W`, of which all 80 words are written before any is read. -/
def words (block : Vector Byte 64) : List Word :=
  let W := (List.finRange 16).foldl
    (fun W t => W.set t.val (blockWord block t)) (List.replicate 80 0)
  (List.range' 16 64).foldl
    (fun W t => W.set t
      (sha1CircularShift 1
        (W.getD (t - 3) 0 ^^^ W.getD (t - 8) 0 ^^^ W.getD (t - 14) 0 ^^^ W.getD (t - 16) 0))) W

/-- The body of the four loops. -/
def round (f : Word → Word → Word → Word) (K : Word) (W : List Word) (s : Digest) (t : Nat) :
    Digest :=
  let temp := sha1CircularShift 5 s.a + f s.b s.c s.d + s.e + W.getD t 0 + K
  { a := temp &&& 0xFFFFFFFF, b := s.a, c := sha1CircularShift 30 s.b, d := s.c, e := s.d }

def rounds (W : List Word) (s : Digest) : Digest :=
  let s := (List.range 20).foldl (round (fun B C D => (B &&& C) ||| (~~~B &&& D)) K[0] W) s
  let s := (List.range' 20 20).foldl (round (fun B C D => B ^^^ C ^^^ D) K[1] W) s
  let s := (List.range' 40 20).foldl
    (round (fun B C D => (B &&& C) ||| (B &&& D) ||| (C &&& D)) K[2] W) s
  (List.range' 60 20).foldl (round (fun B C D => B ^^^ C ^^^ D) K[3] W) s

/-- `A` to `E` as a block begins. -/
def registers (H : Vector Word 5) : Digest :=
  { a := H[0], b := H[1], c := H[2], d := H[3], e := H[4] }

def sha1ProcessMessageBlock (c : SHA1Context) : SHA1Context :=
  let H := c.messageDigest
  let s := rounds (words c.messageBlock) (registers H)
  { c with
    messageDigest := #v[(H[0] + s.a) &&& 0xFFFFFFFF, (H[1] + s.b) &&& 0xFFFFFFFF,
      (H[2] + s.c) &&& 0xFFFFFFFF, (H[3] + s.d) &&& 0xFFFFFFFF, (H[4] + s.e) &&& 0xFFFFFFFF]
    messageBlockIndex := 0 }

/-! ### The message -/

/-- `Message_Block[Message_Block_Index++] = byte`. -/
def put (c : SHA1Context) (byte : Byte) : Option SHA1Context :=
  if h : 0 ≤ c.messageBlockIndex ∧ c.messageBlockIndex < 64 then
    some { c with
      messageBlock := c.messageBlock.set c.messageBlockIndex.toNat byte (by omega)
      messageBlockIndex := c.messageBlockIndex + 1 }
  else none

theorem put_index {c c' : SHA1Context} {byte : Byte} (h : put c byte = some c') :
    c'.messageBlockIndex = c.messageBlockIndex + 1 := by
  unfold put at h
  split at h
  · cases h
    rfl
  · cases h

/-- A `char`, which may be signed, as an `int`. -/
def promote (signed : Bool) (c : Byte) : BitVec 32 :=
  if signed then c.signExtend 32 else c.setWidth 32

/-- Eight more bits; an overflow of both words is an error. -/
def countByte (c : SHA1Context) : SHA1Context :=
  let low := (c.lengthLow + 8) &&& 0xFFFFFFFF
  if low = 0 then
    let high := (c.lengthHigh + 1) &&& 0xFFFFFFFF
    { c with
      lengthLow := low, lengthHigh := high
      corrupted := if high = 0 then 1 else c.corrupted }
  else { c with lengthLow := low }

/-- The loop of `SHA1Input`, with no result if it leaves `message_array`. -/
def inputLoop (signed : Bool) : Nat → List Byte → SHA1Context → Option SHA1Context
  | 0, _, c => some c
  | length + 1, messageArray, c =>
    if c.corrupted ≠ 0 then some c
    else match messageArray with
      | [] => none
      | byte :: rest => do
        let c ← put c ((promote signed byte &&& 0xFF).setWidth 8)
        let c := countByte c
        inputLoop signed length rest
          (if c.messageBlockIndex = 64 then sha1ProcessMessageBlock c else c)

def sha1Input (signed : Bool) (c : SHA1Context) (messageArray : List Byte) (length : BitVec 32) :
    Option SHA1Context :=
  if length = 0 then some c
  else if c.computed ≠ 0 ∨ c.corrupted ≠ 0 then some { c with corrupted := 1 }
  else inputLoop signed length.toNat messageArray c

/-- `while (Message_Block_Index < limit) Message_Block[Message_Block_Index++] = 0`. -/
def fill (limit : Int) (c : SHA1Context) : Option SHA1Context :=
  if c.messageBlockIndex < limit then
    match _ : put c 0 with
    | none => none
    | some c' => fill limit c'
  else some c
termination_by (limit - c.messageBlockIndex).toNat
decreasing_by
  have := put_index ‹_›
  omega

/-- The byte of a length that is `shift` bits up. -/
def lengthByte (length : Word) (shift : Nat) : Byte := ((length >>> shift) &&& 0xFF).setWidth 8

def setLength (c : SHA1Context) : SHA1Context :=
  { c with
    messageBlock := ((((((((c.messageBlock.set 56 (lengthByte c.lengthHigh 24)).set 57
      (lengthByte c.lengthHigh 16)).set 58 (lengthByte c.lengthHigh 8)).set 59
      (lengthByte c.lengthHigh 0)).set 60 (lengthByte c.lengthLow 24)).set 61
      (lengthByte c.lengthLow 16)).set 62 (lengthByte c.lengthLow 8)).set 63
      (lengthByte c.lengthLow 0)) }

def sha1PadMessage (c : SHA1Context) : Option SHA1Context := do
  let c ← if c.messageBlockIndex > 55 then do
      let c ← put c 0x80
      let c ← fill 64 c
      fill 56 (sha1ProcessMessageBlock c)
    else do
      let c ← put c 0x80
      fill 56 c
  some (sha1ProcessMessageBlock (setLength c))

def sha1Result (c : SHA1Context) : Option (Int × SHA1Context) :=
  if c.corrupted ≠ 0 then some (0, c)
  else if c.computed = 0 then do
    let c ← sha1PadMessage c
    some (1, { c with computed := 1 })
  else some (1, c)

def sha1Hash (signed : Bool) (source : List Byte) (len : Int) (sha : SHA1Context) :
    Option (Int × SHA1Context) := do
  let sha ← sha1Input signed (sha1Reset sha) source (BitVec.ofInt 32 len)
  let (done, sha) ← sha1Result sha
  if done = 0 then some (-1, sha) else some (0, sha)

variable {c c' : SHA1Context} {bytes : Nat → Byte} {block : Vector Byte 64} {byte : Byte}
variable {W : List Word} {w : Nat → Word} {s : Digest} {source rest : List Byte} {signed : Bool}
variable {i k l n t len : Nat}

/-! ### One block is compressed -/

@[simp] theorem and_mask (x : Word) : x &&& 0xFFFFFFFF = x := BitVec.and_allOnes

theorem sha1CircularShift_eq (hi : i < 32) (x : Word) :
    sha1CircularShift i x = x.rotateLeft i := by
  rw [sha1CircularShift, and_mask, BitVec.rotateLeft_def, Nat.mod_eq_of_lt hi]

theorem ch_eq (x y z : Word) : (x &&& y) ||| (~~~x &&& z) = Sha1.ch x y z := by
  apply BitVec.eq_of_getLsbD_eq
  intro i hi
  simp only [Sha1.ch, BitVec.getLsbD_or, BitVec.getLsbD_and, BitVec.getLsbD_xor,
    BitVec.getLsbD_not, hi, decide_true, Bool.true_and]
  cases x.getLsbD i <;> simp

theorem maj_eq (x y z : Word) : (x &&& y) ||| (x &&& z) ||| (y &&& z) = Sha1.maj x y z := by
  apply BitVec.eq_of_getLsbD_eq
  intro i hi
  simp only [Sha1.maj, BitVec.getLsbD_or, BitVec.getLsbD_and, BitVec.getLsbD_xor]
  cases x.getLsbD i <;> cases y.getLsbD i <;> cases z.getLsbD i <;> rfl

theorem blockWord_eq (block : Vector Byte 64) (t : Fin 16) :
    blockWord block t = block[4 * t.val] ++ block[4 * t.val + 1] ++ block[4 * t.val + 2] ++
      block[4 * t.val + 3] := by
  rw [blockWord]
  generalize block[4 * t.val] = x, block[4 * t.val + 1] = y, block[4 * t.val + 2] = z,
    block[4 * t.val + 3] = u
  apply BitVec.eq_of_getLsbD_eq
  intro i hi
  simp
  grind

theorem getD_set_self (h : t < W.length) (x : Word) : (W.set t x).getD t 0 = x := by
  rw [List.getD_eq_getElem?_getD, List.getElem?_set_self h]
  rfl

theorem getD_set_ne (h : i ≠ t) (x : Word) : (W.set t x).getD i 0 = W.getD i 0 := by
  rw [List.getD_eq_getElem?_getD, List.getElem?_set_ne h.symm, List.getD_eq_getElem?_getD]

/-- The first loop writes the block. -/
theorem foldl_block (g : Fin 16 → Word) (l : List (Fin 16)) (hW : W.length = 80) :
    (l.foldl (fun W t => W.set t.val (g t)) W).length = 80 ∧
    ∀ t, t ∈ l ∨ W.getD t.val 0 = g t →
      (l.foldl (fun W t => W.set t.val (g t)) W).getD t.val 0 = g t := by
  induction l generalizing W with
  | nil => exact ⟨hW, fun t h => h.resolve_left List.not_mem_nil⟩
  | cons u l ih =>
    rw [List.foldl_cons]
    obtain ⟨hlen, hget⟩ := ih (W := W.set u.val (g u)) (by rw [List.length_set, hW])
    refine ⟨hlen, ?_⟩
    intro t h
    apply hget
    by_cases htu : t = u
    · right
      rw [htu, getD_set_self (by omega)]
    · rw [getD_set_ne fun h => htu (Fin.ext h)]
      exact h.imp_left fun h => (List.mem_cons.mp h).resolve_left htu

/-- The second loop extends the schedule by one word at a time. -/
theorem foldl_schedule (hlen : W.length = 80) (hW : ∀ t < 16, W.getD t 0 = w t) (hn : n ≤ 64) :
    ∀ W', (List.range' 16 n).foldl
      (fun W t => W.set t
        (sha1CircularShift 1 (W.getD (t - 3) 0 ^^^ W.getD (t - 8) 0 ^^^ W.getD (t - 14) 0 ^^^
          W.getD (t - 16) 0))) W = W' →
      W'.length = 80 ∧ ∀ t < 16 + n, W'.getD t 0 = (Sha1.schedule w (16 + n)).getD t 0 := by
  induction n with
  | zero =>
    rintro W' rfl
    refine ⟨hlen, ?_⟩
    intro t ht
    rw [Sha1.schedule_of_lt w ht ht]
    exact hW t ht
  | succ n ih =>
    rintro W' rfl
    obtain ⟨hlen', ih⟩ := ih (by omega) _ rfl
    rw [List.range'_1_concat, List.foldl_append, List.foldl_cons, List.foldl_nil, ← Nat.add_assoc]
    refine ⟨by rw [List.length_set, hlen'], ?_⟩
    intro t ht
    by_cases htn : t = 16 + n
    · rw [htn, getD_set_self (by omega), ih _ (by omega), ih _ (by omega), ih _ (by omega),
        ih _ (by omega), sha1CircularShift_eq (by omega), Sha1.schedule_succ_self,
        if_neg (by omega)]
    · rw [getD_set_ne htn, Sha1.schedule_succ_of_lt w (by omega)]
      exact ih t (by omega)

theorem words_eq (hw : ∀ t : Fin 16, w t.val = blockWord block t) (ht : t < 80) :
    (words block).getD t 0 = (Sha1.schedule w 80).getD t 0 := by
  obtain ⟨hlen, hget⟩ := foldl_block (blockWord block) (List.finRange 16)
    (List.length_replicate (n := 80) (a := (0 : Word)))
  refine (foldl_schedule (w := w) (n := 64) hlen ?_ le_rfl _ rfl).2 t ht
  intro t ht
  rw [hw ⟨t, ht⟩]
  exact hget ⟨t, ht⟩ (Or.inl (List.mem_finRange _))

/-- The four loops are the eighty steps. -/
theorem rounds_eq (hW : ∀ t < 80, W.getD t 0 = w t) :
    rounds W s = Sha1.steps w s := by
  have hround : ∀ (f : Word → Word → Word → Word) (k : Word) (l : List Nat) (s : Digest),
      (∀ t ∈ l, t < 80 ∧ f = Sha1.f t ∧ k = Sha1.K t) →
      l.foldl (round f k W) s = l.foldl (Sha1.step w) s := by
    intro f k l s hl
    apply List.foldl_ext
    intro s t ht
    obtain ⟨ht, hf, hk⟩ := hl t ht
    rw [round, Sha1.step, sha1CircularShift_eq (by omega), sha1CircularShift_eq (by omega),
      and_mask, hW t ht, hf, hk, BitVec.add_assoc _ (w t),
      BitVec.add_comm (w t), ← BitVec.add_assoc]
  have hrange : List.range 80 =
      List.range 20 ++ List.range' 20 20 ++ List.range' 40 20 ++ List.range' 60 20 := rfl
  rw [Sha1.steps, hrange, List.foldl_append, List.foldl_append, List.foldl_append, rounds, hround,
    hround, hround, hround]
  · intro t ht
    have ht := List.mem_range.mp ht
    refine ⟨by omega, ?_, ?_⟩
    · rw [Sha1.f, if_pos ht]
      funext x y z
      exact ch_eq x y z
    · rw [Sha1.K, if_pos ht]
      rfl
  · intro t ht
    have ht := List.mem_range'_1.mp ht
    refine ⟨by omega, ?_, ?_⟩
    · rw [Sha1.f, if_neg (by omega), if_pos (by omega)]
      rfl
    · rw [Sha1.K, if_neg (by omega), if_pos (by omega)]
      rfl
  · intro t ht
    have ht := List.mem_range'_1.mp ht
    refine ⟨by omega, ?_, ?_⟩
    · rw [Sha1.f, if_neg (by omega), if_neg (by omega), if_pos (by omega)]
      funext x y z
      exact maj_eq x y z
    · rw [Sha1.K, if_neg (by omega), if_neg (by omega), if_pos (by omega)]
      rfl
  · intro t ht
    have ht := List.mem_range'_1.mp ht
    refine ⟨by omega, ?_, ?_⟩
    · rw [Sha1.f, if_neg (by omega), if_neg (by omega), if_neg (by omega)]
      rfl
    · rw [Sha1.K, if_neg (by omega), if_neg (by omega), if_neg (by omega)]
      rfl

/-- The registers are added to the hash value. -/
theorem messageDigest_eq {h : Digest} (hc : c.messageDigest = h.words)
    (hs : rounds (words c.messageBlock) (registers c.messageDigest) = s) :
    (sha1ProcessMessageBlock c).messageDigest = Sha1.Digest.words
      { a := s.a + h.a, b := s.b + h.b, c := s.c + h.c, d := s.d + h.d, e := s.e + h.e } := by
  rw [sha1ProcessMessageBlock]
  simp only [and_mask, hs]
  simp only [hc, Sha1.Digest.words, BitVec.add_comm s.a, BitVec.add_comm s.b, BitVec.add_comm s.c,
    BitVec.add_comm s.d, BitVec.add_comm s.e]
  rfl

/-- A full block is compressed into the hash value of the blocks before. -/
theorem sha1ProcessMessageBlock_digest (hf : Sha1.Filled bytes n 64 c.messageBlock)
    (hc : c.messageDigest = (Sha1.hash bytes n).words) :
    (sha1ProcessMessageBlock c).messageDigest = (Sha1.hash bytes (n + 1)).words := by
  obtain ⟨w, hw⟩ : ∃ w : Nat → Word, ∀ t : Fin 16, w t.val = blockWord c.messageBlock t :=
    ⟨fun t => if h : t < 16 then blockWord c.messageBlock ⟨t, h⟩ else 0,
      fun t => dif_pos t.isLt⟩
  have hrounds : ∀ s, rounds (words c.messageBlock) s =
      Sha1.steps ((Sha1.schedule w 80).getD · 0) s := by
    intro s
    apply rounds_eq
    intro t ht
    exact words_eq hw ht
  have hsucc : Sha1.hash bytes (n + 1) = Sha1.compress (Sha1.hash bytes n) w := by
    apply hf.hash_succ
    intro t ht
    exact (hw ⟨t, ht⟩).trans (blockWord_eq c.messageBlock ⟨t, ht⟩)
  have hregs : registers c.messageDigest = Sha1.hash bytes n := by
    rw [hc]
    rfl
  rw [messageDigest_eq hc (hrounds _), hregs, hsucc]
  rfl

/-! ### The message is put into blocks -/

/-- `n` blocks were compressed, the first `i` bytes of the next one are in the buffer, and `k` bytes
were counted. -/
structure Reads (bytes : Nat → Byte) (n i k : Nat) (c : SHA1Context) : Prop where
  index : c.messageBlockIndex = (i : Int)
  filled : Sha1.Filled bytes n i c.messageBlock
  digest : c.messageDigest = (Sha1.hash bytes n).words
  bits : c.lengthHigh.toNat * 4294967296 + c.lengthLow.toNat = 8 * k
  computed : c.computed = 0
  corrupted : c.corrupted = 0

theorem sha1Reset_reads (bytes : Nat → Byte) (c : SHA1Context) :
    Reads bytes 0 0 0 (sha1Reset c) :=
  ⟨rfl, .start _ _ _, rfl, by simp [sha1Reset], rfl, rfl⟩

theorem Reads.put (h : Reads bytes n i k c) (hi : i < 64) (hb : byte = bytes (64 * n + i)) :
    ∃ c', put c byte = some c' ∧ Reads bytes n (i + 1) k c' := by
  have hindex : 0 ≤ c.messageBlockIndex ∧ c.messageBlockIndex < 64 := by
    rw [h.index]
    omega
  refine ⟨_, dif_pos hindex, ?_, ?_, h.digest, h.bits, h.computed, h.corrupted⟩
  · simp [h.index]
  · have hset := h.filled.put hi
    simp only [h.index, Int.toNat_natCast]
    rwa [hb]

theorem Reads.process (h : Reads bytes n 64 k c) :
    Reads bytes (n + 1) 0 k (sha1ProcessMessageBlock c) :=
  ⟨rfl, .start _ _ _, sha1ProcessMessageBlock_digest h.filled h.digest, h.bits, h.computed,
    h.corrupted⟩

/-- The two words do not overflow below two to the 61 bytes. -/
theorem Reads.countByte (h : Reads bytes n i k c) (hk : k < 2305843009213693951) :
    Reads bytes n i (k + 1) (countByte c) := by
  have hbits := h.bits
  have hlow := c.lengthLow.isLt
  have hhigh := c.lengthHigh.isLt
  have hadd : (c.lengthLow + 8).toNat = (c.lengthLow.toNat + 8) % 4294967296 := rfl
  have hinc : (c.lengthHigh + 1).toNat = (c.lengthHigh.toNat + 1) % 4294967296 := rfl
  rw [Hash.countByte]
  simp only [and_mask]
  split
  · rename_i hzero
    have hadd : 0 = (c.lengthLow.toNat + 8) % 4294967296 := by
      rw [← hadd, hzero]
      rfl
    have hne : c.lengthHigh + 1 ≠ 0 := by
      intro heq
      have hinc : 0 = (c.lengthHigh.toNat + 1) % 4294967296 := by
        rw [← hinc, heq]
        rfl
      omega
    rw [if_neg hne]
    refine ⟨h.index, h.filled, h.digest, ?_, h.computed, h.corrupted⟩
    have hlow : (c.lengthLow + 8).toNat = 0 := by
      rw [hzero]
      rfl
    have hfull : c.lengthLow.toNat + 8 = 4294967296 := by omega
    have hroom : c.lengthHigh.toNat + 1 < 4294967296 := by omega
    simp only [hlow, hinc, Nat.mod_eq_of_lt hroom, Nat.add_mul, Nat.one_mul, Nat.add_zero]
    rw [Nat.mul_add 8 k 1, ← hbits, Nat.mul_one, Nat.add_assoc _ c.lengthLow.toNat, hfull]
  · rename_i hzero
    have hne : (c.lengthLow + 8).toNat ≠ 0 := fun heq => hzero (BitVec.eq_of_toNat_eq heq)
    refine ⟨h.index, h.filled, h.digest, ?_, h.computed, h.corrupted⟩
    simp only [hadd]
    omega

/-- `x & 0xFF`, stored into an `unsigned char`. -/
theorem setWidth_and_byte (x : Word) : (x &&& 0xFF).setWidth 8 = x.setWidth 8 := by
  have hmask : (0xFF : Word).setWidth 8 = BitVec.allOnes 8 := rfl
  rw [BitVec.setWidth_and, hmask, BitVec.and_allOnes]

theorem promote_eq (signed : Bool) (byte : Byte) :
    (promote signed byte &&& 0xFF).setWidth 8 = byte := by
  rw [setWidth_and_byte, promote]
  apply BitVec.eq_of_getLsbD_eq
  intro i hi
  cases signed
  · simp [hi]
  · simp [hi, BitVec.getLsbD_signExtend]
    omega

/-- The loop stops with fewer than 64 bytes in the buffer. -/
theorem Reads.inputLoop (signed : Bool) (h : Reads bytes n i (64 * n + i) c) (hi : i < 64)
    (hlen : len ≤ rest.length) (hk : 64 * n + i + len < 2305843009213693952)
    (hb : ∀ j (hj : j < len), rest[j] = bytes (64 * n + i + j)) :
    ∃ n' i' c', inputLoop signed len rest c = some c' ∧ 64 * n' + i' = 64 * n + i + len ∧ i' < 64 ∧
      Reads bytes n' i' (64 * n' + i') c' := by
  induction len generalizing n i c rest with
  | zero => exact ⟨n, i, c, rfl, rfl, hi, h⟩
  | succ len ih =>
    cases rest with
    | nil => exact absurd hlen (Nat.not_succ_le_zero len)
    | cons byte rest =>
      have hbyte : (promote signed byte &&& 0xFF).setWidth 8 = bytes (64 * n + i) := by
        rw [promote_eq]
        exact hb 0 (Nat.succ_pos len)
      obtain ⟨c₁, hput, h₁⟩ := h.put hi hbyte
      have h₂ := h₁.countByte (by omega)
      have hrest : len ≤ rest.length := Nat.le_of_succ_le_succ hlen
      have htail : ∀ j (hj : j < len), rest[j] = bytes (64 * n + i + 1 + j) := by
        intro j hj
        have hnext := hb (j + 1) (by omega)
        rw [List.getElem_cons_succ] at hnext
        rw [hnext]
        congr 1
        omega
      rw [Hash.inputLoop, if_neg (not_not_intro h.corrupted)]
      simp only [hput, Option.bind_eq_bind, Option.bind_some]
      by_cases hfull : i + 1 = 64
      · rw [if_pos (by rw [h₂.index, hfull]; rfl)]
        rw [hfull] at h₂
        have hpos : 64 * n + i + 1 = 64 * (n + 1) + 0 := by omega
        have h₃ := h₂.process
        rw [hpos] at h₃ htail
        obtain ⟨n', i', c', hloop, hpos', hi', h'⟩ :=
          ih h₃ (by omega) hrest (by omega) htail
        exact ⟨n', i', c', hloop, by omega, hi', h'⟩
      · rw [if_neg (by rw [h₂.index]; omega)]
        obtain ⟨n', i', c', hloop, hpos', hi', h'⟩ :=
          ih h₂ (by omega) hrest (by omega) htail
        exact ⟨n', i', c', hloop, by omega, hi', h'⟩

theorem Reads.fill (h : Reads bytes n i k c) (hil : i ≤ l) (hl : l ≤ 64)
    (hb : ∀ j, i ≤ j → j < l → bytes (64 * n + j) = 0) :
    ∃ c', fill l c = some c' ∧ Reads bytes n l k c' := by
  obtain ⟨d, rfl⟩ : ∃ d, l = i + d := ⟨l - i, by omega⟩
  induction d generalizing i c with
  | zero =>
    refine ⟨c, ?_, h⟩
    rw [Hash.fill, if_neg]
    rw [h.index]
    omega
  | succ d ih =>
    obtain ⟨c₁, hput, h₁⟩ := h.put (by omega) (hb i le_rfl (by omega)).symm
    have hpos : i + (d + 1) = i + 1 + d := by omega
    rw [hpos] at hb hl ⊢
    obtain ⟨c', hfill, h'⟩ := ih h₁ (by omega) hl fun j hj => hb j (by omega)
    refine ⟨c', ?_, h'⟩
    rw [Hash.fill, if_pos]
    · split
      · rename_i hnone
        rw [hput] at hnone
        cases hnone
      · rename_i c₂ hsome
        rw [hput] at hsome
        cases hsome
        exact hfill
    · rw [h.index]
      omega

theorem lengthByte_eq (length : Word) (i : Nat) :
    lengthByte length i = length.extractLsb' i 8 := by
  rw [lengthByte, setWidth_and_byte]
  apply BitVec.eq_of_getLsbD_eq
  intro j hj
  simp [hj]

/-- The two words are the halves of the number of bits. -/
theorem Reads.bits_append (h : Reads bytes n i k c) :
    BitVec.ofNat 64 (8 * k) = c.lengthHigh ++ c.lengthLow := by
  have hlow := c.lengthLow.isLt
  have hhigh := c.lengthHigh.isLt
  have hbits := h.bits
  apply BitVec.eq_of_toNat_eq
  rw [BitVec.toNat_append, ← Nat.shiftLeft_add_eq_or_of_lt hlow, Nat.shiftLeft_eq,
    BitVec.toNat_ofNat, ← hbits]
  omega

theorem setLength_block {j : Nat} (hj : j < 8) :
    (setLength c).messageBlock[56 + j] =
      if j < 4 then lengthByte c.lengthHigh (24 - 8 * j)
      else lengthByte c.lengthLow (56 - 8 * j) := by
  have hcases : j = 0 ∨ j = 1 ∨ j = 2 ∨ j = 3 ∨ j = 4 ∨ j = 5 ∨ j = 6 ∨ j = 7 := by omega
  rcases hcases with rfl | rfl | rfl | rfl | rfl | rfl | rfl | rfl <;>
    simp [setLength]

theorem Reads.setLength (h : Reads bytes n 56 k c)
    (hb : ∀ j < 8, bytes (64 * n + (56 + j)) =
      (BitVec.ofNat 64 (8 * k)).extractLsb' (56 - 8 * j) 8) :
    Sha1.Filled bytes n 64 (setLength c).messageBlock := by
  have hhigh : ∀ i : Nat, (c.lengthHigh ++ c.lengthLow).extractLsb' (32 + i) 8 =
      lengthByte c.lengthHigh i := by
    intro i
    rw [lengthByte_eq]
    apply BitVec.eq_of_getLsbD_eq
    intro j hj
    simp [hj]
    grind
  have hlow : ∀ i : Nat, i ≤ 24 → (c.lengthHigh ++ c.lengthLow).extractLsb' i 8 =
      lengthByte c.lengthLow i := by
    intro i hi
    rw [lengthByte_eq]
    apply BitVec.eq_of_getLsbD_eq
    intro j hj
    simp [hj]
    grind
  rw [h.bits_append] at hb
  refine ⟨le_rfl, ?_⟩
  intro j hj
  by_cases hj56 : j < 56
  · rw [← h.filled.block j hj56]
    simp only [Hash.setLength]
    repeat rw [Vector.getElem_set_ne _ _ (by omega)]
  · obtain ⟨j, rfl⟩ : ∃ d, j = 56 + d := ⟨j - 56, by omega⟩
    rw [hb j (by omega)]
    rw [setLength_block (by omega)]
    split
    · have hj4 : 56 - 8 * j = 32 + (24 - 8 * j) := by omega
      rw [hj4, hhigh]
    · rw [hlow _ (by omega)]

variable {m : List Byte}

/-- What is left of the padding once the last block has 56 bytes. -/
theorem Reads.last (h : Reads (Sha1.stream m) n 56 m.length c)
    (hn : 64 * n + 56 = m.length + 1 + Sha1.zeros m.length) :
    (sha1ProcessMessageBlock (Hash.setLength c)).messageDigest = (Sha1.sha1 m).words := by
  have hfilled := h.setLength fun j hj => by
    rw [← Nat.add_assoc, hn]
    exact Sha1.stream_lengthBytes hj
  have hblocks : (Sha1.pad m).length / 64 = n + 1 := by
    rw [Sha1.length_pad]
    omega
  rw [Sha1.sha1, hblocks]
  exact sha1ProcessMessageBlock_digest hfilled h.digest

theorem Reads.padMessage (h : Reads (Sha1.stream m) n i m.length c) (hi : i < 64)
    (hn : 64 * n + i = m.length) :
    ∃ c', sha1PadMessage c = some c' ∧ c'.messageDigest = (Sha1.sha1 m).words ∧
      c'.corrupted = 0 := by
  have hzeros : Sha1.zeros m.length = (119 - m.length % 64) % 64 := rfl
  have hmark : 0x80 = Sha1.stream m (64 * n + i) := by rw [hn, Sha1.stream_length]
  obtain ⟨c₁, hput, h₁⟩ := h.put hi hmark
  have hzero : ∀ p, m.length < p → p < m.length + 1 + Sha1.zeros m.length →
      Sha1.stream m p = 0 := fun p => Sha1.stream_zero
  by_cases hi55 : i ≤ 55
  · obtain ⟨c₂, hfill, h₂⟩ := h₁.fill (l := 56) (by omega) (by omega)
      fun j hj hj' => hzero _ (by omega) (by omega)
    refine ⟨_, ?_, h₂.last (by omega), h₂.corrupted⟩
    have hfill : Hash.fill 56 c₁ = some c₂ := hfill
    rw [sha1PadMessage, if_neg (by rw [h.index]; omega)]
    simp only [hput, hfill, Option.bind_eq_bind, Option.bind_some]
  · obtain ⟨c₂, hfill, h₂⟩ := h₁.fill (l := 64) (by omega) (by omega)
      fun j hj hj' => hzero _ (by omega) (by omega)
    obtain ⟨c₃, hfill', h₃⟩ := h₂.process.fill (l := 56) (by omega) (by omega)
      fun j hj hj' => hzero _ (by omega) (by omega)
    refine ⟨_, ?_, h₃.last (by omega), h₃.corrupted⟩
    have hfill : Hash.fill 64 c₁ = some c₂ := hfill
    have hfill' : Hash.fill 56 (sha1ProcessMessageBlock c₂) = some c₃ := hfill'
    rw [sha1PadMessage, if_pos (by rw [h.index]; omega), hput, Option.bind_eq_bind,
      Option.bind_some, hfill, Option.bind_some, hfill', Option.bind_some]

/-! ### The digest -/

theorem convertHashToNumber_toNat {h : Digest} (hc : c.messageDigest = h.words) :
    (convertHashToNumber c).toNat = Sha1.bigEndian (h.bytes.take 8) := by
  have ha := h.a.isLt
  have hb := h.b.isLt
  rw [Sha1.bigEndian_take_bytes, convertHashToNumber, hc]
  have hwords : h.words[0] = h.a ∧ h.words[1] = h.b := ⟨rfl, rfl⟩
  rw [hwords.1, hwords.2, BitVec.toNat_add, BitVec.toNat_shiftLeft, BitVec.toNat_setWidth,
    BitVec.toNat_setWidth, Nat.shiftLeft_eq]
  omega

/-- The bytes of the message are read and counted. -/
theorem sha1Input_reads (signed : Bool) (c : SHA1Context) (hlen : len ≤ source.length)
    (hmax : len ≤ 2147483647) :
    ∃ n i c', sha1Input signed (sha1Reset c) source (BitVec.ofInt 32 len) = some c' ∧
      64 * n + i = len ∧ i < 64 ∧ Reads (Sha1.stream (source.take len)) n i len c' := by
  have hnat : BitVec.ofInt 32 len = BitVec.ofNat 32 len := rfl
  have htoNat : (BitVec.ofNat 32 len).toNat = len := by
    rw [BitVec.toNat_ofNat]
    omega
  have h := sha1Reset_reads (Sha1.stream (source.take len)) c
  rw [sha1Input, hnat]
  by_cases hzero : len = 0
  · subst hzero
    exact ⟨0, 0, _, rfl, rfl, by omega, h⟩
  · have hne : BitVec.ofNat 32 len ≠ 0 := by
      intro heq
      rw [heq] at htoNat
      exact hzero htoNat.symm
    rw [if_neg hne, if_neg (by simp [h.computed, h.corrupted]), htoNat]
    obtain ⟨n, i, c', hloop, hpos, hi, h'⟩ :=
      h.inputLoop signed (by omega) hlen (by omega) fun j hj => by
        have hj' : j < (source.take len).length := by
          rw [List.length_take]
          omega
        rw [Nat.mul_zero, Nat.zero_add, Sha1.stream_of_lt hj', List.getElem_take]
    have hpos : 64 * n + i = len := by omega
    rw [hpos] at h'
    exact ⟨n, i, c', hloop, hpos, hi, h'⟩

/-- All accesses to `Message_Block` are in bounds, and what the context was before is forgotten. -/
theorem sha1Hash_digest (signed : Bool) (sha : SHA1Context) (hlen : len ≤ source.length)
    (hmax : len ≤ 2147483647) :
    ∃ sha', sha1Hash signed source len sha = some (0, sha') ∧
      sha'.messageDigest = (Sha1.sha1 (source.take len)).words ∧ sha'.corrupted = 0 := by
  obtain ⟨n, i, c, hinput, hpos, hi, h⟩ := sha1Input_reads signed sha hlen hmax
  have hlen : (source.take len).length = len := by
    rw [List.length_take]
    omega
  have h : Reads (Sha1.stream (source.take len)) n i (source.take len).length c := by rwa [hlen]
  obtain ⟨c', hpad, hdigest, hcorrupted⟩ := h.padMessage hi (hpos.trans hlen.symm)
  refine ⟨{ c' with computed := 1 }, ?_, hdigest, hcorrupted⟩
  rw [sha1Hash, hinput, Option.bind_eq_bind, Option.bind_some, sha1Result,
    if_neg (not_not_intro h.corrupted), if_pos h.computed, hpad]
  rfl

/-- `sha1_hash` computes SHA-1 of any bytes whose number is an `int`: it leaves neither array, and
the number is that of the first 8 bytes of the digest. -/
theorem sha1_hash_correct (signed : Bool) (sha : SHA1Context) (hlen : len ≤ source.length)
    (hmax : len ≤ 2147483647) :
    ∃ sha', sha1Hash signed source len sha = some (0, sha') ∧
      sha'.messageDigest = (Sha1.sha1 (source.take len)).words ∧ sha'.corrupted = 0 ∧
      (convertHashToNumber sha').toNat =
        Sha1.bigEndian ((Sha1.sha1 (source.take len)).bytes.take 8) := by
  obtain ⟨sha', hhash, hdigest, hcorrupted⟩ := sha1Hash_digest signed sha hlen hmax
  exact ⟨sha', hhash, hdigest, hcorrupted, convertHashToNumber_toNat hdigest⟩

/-- `sha` before the first call. -/
def sha : SHA1Context :=
  { messageDigest := Vector.replicate 5 0, lengthLow := 0, lengthHigh := 0
    messageBlock := Vector.replicate 64 0, messageBlockIndex := 0, computed := 0, corrupted := 0 }

theorem sha1_hash_correct_abc :
    ∃ sha', sha1Hash true [0x61, 0x62, 0x63] 3 sha = some (0, sha') ∧
      sha'.messageDigest = (Sha1.sha1 [0x61, 0x62, 0x63]).words ∧ sha'.corrupted = 0 ∧
      (convertHashToNumber sha').toNat =
        Sha1.bigEndian ((Sha1.sha1 [0x61, 0x62, 0x63]).bytes.take 8) :=
  @sha1_hash_correct [0x61, 0x62, 0x63] 3 true sha (by decide) (by decide)

end Apq8084.Fingerprint.Hash
