import Mathlib.Tactic.Common

/-! Hexadecimal digits, given by their codes, and the bytes that pairs of them stand for. -/
namespace Hex

/-- The value of a digit in either case. -/
def value (c : Nat) : Option Nat :=
  if 48 ≤ c ∧ c ≤ 57 then some (c - 48)
  else if 65 ≤ c ∧ c ≤ 70 then some (c - 55)
  else if 97 ≤ c ∧ c ≤ 102 then some (c - 87)
  else none

/-- The code of the digit in upper case. -/
def digit (d : Nat) : Nat := if d < 10 then 48 + d else 55 + d

/-- The six small letters among the digits become capitals. -/
def upper (c : Nat) : Nat := if 97 ≤ c ∧ c ≤ 102 then c - 32 else c

def IsDigit (c : Nat) : Prop := (value c).isSome = true

variable {c d : Nat} {s : List Nat}

/-- A code has the value of the one digit that it is up to case. -/
theorem value_eq_some_iff : value c = some d ↔ d < 16 ∧ upper c = digit d := by
  unfold value upper digit
  split_ifs <;> simp only [Option.some.injEq, false_iff] <;> omega

theorem value_lt (h : value c = some d) : d < 16 := (value_eq_some_iff.mp h).1

/-- The digits of bytes in upper case, two for each. -/
def encode : List UInt8 → List Nat
  | [] => []
  | b :: bs => digit (b.toNat / 16) :: digit (b.toNat % 16) :: encode bs

/-- The bytes of which the codes are a rendering; `none` for an odd number of them and where one
is no digit. -/
def decode : List Nat → Option (List UInt8)
  | [] => some []
  | [_] => none
  | c₁ :: c₂ :: s =>
    match value c₁, value c₂ with
    | some d₁, some d₂ => (decode s).map (UInt8.ofNat (16 * d₁ + d₂) :: ·)
    | _, _ => none

theorem decode_pair {c₁ c₂ d₁ d₂ : Nat} (h₁ : value c₁ = some d₁) (h₂ : value c₂ = some d₂) :
    decode (c₁ :: c₂ :: s) = (decode s).map (UInt8.ofNat (16 * d₁ + d₂) :: ·) := by
  rw [decode, h₁, h₂]

/-- Bytes are decoded from their renderings, whatever the case of each digit, and from nothing
else. -/
theorem decode_eq_some_iff (s : List Nat) (bs : List UInt8) :
    decode s = some bs ↔ s.map upper = encode bs := by
  match s, bs with
  | [], [] => simp [decode, encode]
  | [], b :: bs => simp [decode, encode]
  | [c], [] => simp [decode, encode]
  | [c], b :: bs => simp [decode, encode]
  | c₁ :: c₂ :: s, [] =>
    apply iff_of_false
    · rw [decode]
      split
      · cases decode s <;> simp
      · simp
    · simp [encode]
  | c₁ :: c₂ :: s, b :: bs =>
    have ih := decode_eq_some_iff s bs
    have hb := b.toNat_lt
    rw [List.map_cons, List.map_cons, encode, List.cons.injEq, List.cons.injEq, ← ih]
    constructor
    · intro h
      rw [decode] at h
      split at h
      · next d₁ d₂ h₁ h₂ =>
        obtain ⟨bs', hbs, heq⟩ := Option.map_eq_some_iff.mp h
        obtain ⟨hd₁, hup₁⟩ := value_eq_some_iff.mp h₁
        obtain ⟨hd₂, hup₂⟩ := value_eq_some_iff.mp h₂
        obtain ⟨hbyte, rfl⟩ := List.cons.inj heq
        have hnat : b.toNat = 16 * d₁ + d₂ := by
          rw [← hbyte, UInt8.toNat_ofNat', Nat.mod_eq_of_lt (by omega)]
        have hdiv : b.toNat / 16 = d₁ := by omega
        have hmod : b.toNat % 16 = d₂ := by omega
        rw [hdiv, hmod]
        exact ⟨hup₁, hup₂, hbs⟩
      · cases h
    · rintro ⟨hup₁, hup₂, hs⟩
      have h₁ : value c₁ = some (b.toNat / 16) := value_eq_some_iff.mpr ⟨by omega, hup₁⟩
      have h₂ : value c₂ = some (b.toNat % 16) := value_eq_some_iff.mpr ⟨by omega, hup₂⟩
      have hnat : 16 * (b.toNat / 16) + b.toNat % 16 = b.toNat := by omega
      rw [decode_pair h₁ h₂, hs, hnat, UInt8.ofNat_toNat]
      rfl

/-- Something is decoded exactly from an even number of digits. -/
theorem isSome_decode_iff (s : List Nat) :
    (decode s).isSome = true ↔ s.length % 2 = 0 ∧ ∀ c ∈ s, IsDigit c := by
  match s with
  | [] => simp [decode]
  | [c] => simp [decode]
  | c₁ :: c₂ :: s =>
    have ih := isSome_decode_iff s
    have hlen : (c₁ :: c₂ :: s).length % 2 = s.length % 2 := by
      simp only [List.length_cons]
      omega
    rw [hlen, List.forall_mem_cons, List.forall_mem_cons]
    unfold IsDigit at ih ⊢
    cases h₁ : value c₁ with
    | none => simp [decode, h₁]
    | some d₁ =>
      cases h₂ : value c₂ with
      | none => simp [decode, h₁, h₂]
      | some d₂ => simp [decode_pair h₁ h₂, ih]

end Hex
