import Apq8084.Fingerprint.Hash
import Apq8084.Lib.Sha1Zeros

/-! The authenticator id is the hash of the file with the template database, of which a buffer takes
the first 300000 bytes. -/
namespace Apq8084.Fingerprint.Hash

open Sha1 (Byte)

def MAX_FILE_LENGTH : Nat := 300000

/-- `file` is what `fopen` and `fread` deliver, and `str` what the buffer held before. -/
def hashFile (signed : Bool) (str : Vector Byte MAX_FILE_LENGTH) (file : Option (List Byte))
    (sha : SHA1Context) : Option (BitVec 64 × SHA1Context) :=
  match file with
  | none => some (1, sha)
  | some content => do
    let len := min MAX_FILE_LENGTH content.length
    let str := content.take len ++ str.toList.drop len
    let (_, sha) ← sha1Hash signed str len sha
    some (convertHashToNumber sha, sha)

/-- The global context and the id in the device. -/
structure AuthState where
  sha : SHA1Context
  authenticatorId : BitVec 64

def fingerprintGetAuthId (signed : Bool) (str : Vector Byte MAX_FILE_LENGTH)
    (file : Option (List Byte)) (s : AuthState) : Option (BitVec 64 × AuthState) := do
  let (id, sha) ← hashFile signed str file s.sha
  some (id, { sha := sha, authenticatorId := id })

/-- The first 64 bits of the SHA-1 of `m`. -/
def firstBits (m : List Byte) : Nat := Sha1.bigEndian ((Sha1.sha1 m).bytes.take 8)

/-- `hash_file` returns the first bits of the SHA-1 of the whole content. -/
def HashesAll (signed : Bool) (str : Vector Byte MAX_FILE_LENGTH) (c : List Byte) : Prop :=
  ∀ sha, ∃ id sha', hashFile signed str (some c) sha = some (id, sha') ∧ id.toNat = firstBits c

variable {signed : Bool} {str : Vector Byte MAX_FILE_LENGTH} {c c' : List Byte} {n : Nat}

/-- What is hashed ends with the buffer. -/
theorem hashFile_eq (signed : Bool) (str : Vector Byte MAX_FILE_LENGTH) (c : List Byte)
    (sha : SHA1Context) :
    ∃ id sha', hashFile signed str (some c) sha = some (id, sha') ∧
      id.toNat = firstBits (c.take MAX_FILE_LENGTH) := by
  obtain ⟨len, hlen⟩ : ∃ len, len = min MAX_FILE_LENGTH c.length := ⟨_, rfl⟩
  have htake : (c.take len).length = len := by
    rw [List.length_take]
    omega
  have hstr : (c.take len ++ str.toList.drop len).take len = c.take MAX_FILE_LENGTH := by
    rw [List.take_append_of_le_length htake.ge, List.take_take, Nat.min_self, hlen,
      ← List.take_eq_take_min]
  have hmax : len ≤ 2147483647 := by
    have : MAX_FILE_LENGTH = 300000 := rfl
    omega
  have hsource : len ≤ (c.take len ++ str.toList.drop len).length := by
    rw [List.length_append]
    omega
  obtain ⟨sha', hhash, hdigest, -⟩ := sha1Hash_digest signed sha hsource hmax
  rw [hstr] at hdigest
  refine ⟨_, sha', ?_, convertHashToNumber_toNat hdigest⟩
  rw [hashFile, ← hlen, hhash]
  rfl

theorem HashesAll.firstBits_eq (h : HashesAll signed str c) :
    firstBits (c.take MAX_FILE_LENGTH) = firstBits c := by
  obtain ⟨id, sha', hhash, hid⟩ := h sha
  obtain ⟨id', sha'', hhash', hid'⟩ := hashFile_eq signed str c sha
  rw [hhash] at hhash'
  cases hhash'
  exact hid'.symm.trans hid

/-- The whole content counts if it fits into the buffer, or if the bits happen to be those of its
beginning. -/
theorem hashes_all_iff :
    HashesAll signed str c ↔
      c.length ≤ MAX_FILE_LENGTH ∨ firstBits (c.take MAX_FILE_LENGTH) = firstBits c := by
  constructor
  · intro h
    exact Or.inr h.firstBits_eq
  · intro h sha
    obtain ⟨id, sha', hhash, hid⟩ := hashFile_eq signed str c sha
    refine ⟨id, sha', hhash, ?_⟩
    rcases h with hlen | hbits
    · rwa [List.take_of_length_le hlen] at hid
    · exact hid.trans hbits

/-- Databases that are hashed as a whole have different ids if their first bits differ. -/
theorem auth_ids_differ {s s' t t' : AuthState} {id id' : BitVec 64}
    (hc : HashesAll signed str c) (hc' : HashesAll signed str c')
    (h : fingerprintGetAuthId signed str (some c) s = some (id, t))
    (h' : fingerprintGetAuthId signed str (some c') s' = some (id', t'))
    (hne : firstBits c ≠ firstBits c') : t.authenticatorId ≠ t'.authenticatorId := by
  obtain ⟨x, sha, hhash, hx⟩ := hc s.sha
  obtain ⟨x', sha', hhash', hx'⟩ := hc' s'.sha
  rw [fingerprintGetAuthId, hhash] at h
  rw [fingerprintGetAuthId, hhash'] at h'
  cases h
  cases h'
  intro heq
  apply hne
  rw [← hx, ← hx']
  exact congrArg BitVec.toNat heq

/-- What 300000 and 300001 zero bytes have in common. -/
theorem hash_zeros :
    Sha1.hash (fun _ => 0) 4687 =
      { a := 0xA5E65663, b := 0x8B0400BD, c := 0xCE8FE987, d := 0xE05F53FF, e := 0xB87749BF } := by
  apply Sha1.Zeros.hash_eq
  decide +kernel

/-- The last blocks of both. -/
theorem compress_zeros :
    (Sha1.compress (Sha1.hash (fun _ => 0) 4687)
      (Sha1.word (Sha1.Zeros.lastByte 32 300000) 0)).a = 0xBAE46700 ∧
    (Sha1.compress (Sha1.hash (fun _ => 0) 4687)
      (Sha1.word (Sha1.Zeros.lastByte 33 300001) 0)).a = 0x44D7B7AE := by
  rw [hash_zeros]
  decide +kernel

/-- The file has one byte more than the buffer. -/
theorem not_hashes_all_zeros : ¬∀ signed str c, HashesAll signed str c := by
  intro h
  have hbits := (h true (Vector.replicate MAX_FILE_LENGTH 0) (List.replicate 300001 0)).firstBits_eq
  have hfull := Sha1.Zeros.sha1_replicate (i := 32) (n := 300000) (q := 4687) (by omega) (by omega)
  have hmore := Sha1.Zeros.sha1_replicate (i := 33) (n := 300001) (q := 4687) (by omega) (by omega)
  have htake : min MAX_FILE_LENGTH 300001 = 300000 := by decide
  rw [List.take_replicate, htake] at hbits
  obtain ⟨ha, -⟩ := Sha1.bigEndian_take_bytes_inj hbits
  rw [hfull, hmore, compress_zeros.1, compress_zeros.2] at ha
  exact absurd ha (by decide)

end Apq8084.Fingerprint.Hash
