import Apq8084.Lib.Hex
import Apq8084.Ril.Decoders

/-! SMS PDUs in hexadecimal notation: `convertHexStringToBytes` of `ril_service.cpp`, and the two
indications that deliver what it returns. -/
namespace Apq8084.Ril.SmsPdu

open Payloads (RadioIndicationType convertIntToRadioIndicationType)

def INVALID_HEX_CHAR : UInt8 := 16

def hexCharToInt (c : UInt8) : UInt8 :=
  if 48 ≤ c ∧ c ≤ 57 then c - 48
  else if 65 ≤ c ∧ c ≤ 70 then c - 65 + 10
  else if 97 ≤ c ∧ c ≤ 102 then c - 97 + 10
  else INVALID_HEX_CHAR

/-- The loop, over the characters from `hexString[i]` on. -/
def convertPairs : List UInt8 → Option (List UInt8)
  | c₁ :: c₂ :: hexString =>
    let hexChar1 := hexCharToInt c₁
    let hexChar2 := hexCharToInt c₂
    if hexChar1 = INVALID_HEX_CHAR ∨ hexChar2 = INVALID_HEX_CHAR then none
    else (convertPairs hexString).map ((hexChar1 <<< 4 ||| hexChar2) :: ·)
  | _ => some []

/-- `calloc n` says whether `calloc` of so many bytes succeeds. -/
def convertHexStringToBytes (calloc : Nat → Bool) (response : List UInt8) : Option (List UInt8) :=
  if response.length % 2 ≠ 0 then none
  else if calloc (response.length / 2) = false then none
  else convertPairs response

inductive SmsCall where
  | newSms (pdu : List UInt8)
  | newSmsStatusReport (pdu : List UInt8)

abbrev SmsNotice := Option (RadioIndicationType × SmsCall)

/-- The body that the two indications share. `registered` is `mRadioIndication != NULL` of the
slot's service, and no `response` a null pointer. -/
def smsInd (call : List UInt8 → SmsCall) (calloc : Nat → Bool) (registered : Bool)
    (indicationType : Nat) (response : Option (List UInt8)) : SmsNotice :=
  if registered then
    match response with
    | none => none
    | some response =>
      if response.length = 0 then none
      else match convertHexStringToBytes calloc response with
        | none => none
        | some bytes => some (convertIntToRadioIndicationType indicationType, call bytes)
  else none

def newSmsInd := smsInd .newSms

def newSmsStatusReportInd := smsInd .newSmsStatusReport

/-- The codes of the characters. -/
def codes (s : List UInt8) : List Nat := s.map UInt8.toNat

/-- The characters are `pdu` in hexadecimal, each digit in either case. -/
def Renders (s pdu : List UInt8) : Prop := (codes s).map Hex.upper = Hex.encode pdu

/-- An even number of characters from `0` to `9`, `A` to `F` and `a` to `f`. -/
def WellFormed (s : List UInt8) : Prop :=
  s.length % 2 = 0 ∧ ∀ c ∈ s, (48 ≤ c ∧ c ≤ 57) ∨ (65 ≤ c ∧ c ≤ 70) ∨ (97 ≤ c ∧ c ≤ 102)

variable {c c₁ c₂ : UInt8} {s pdu : List UInt8} {calloc : Nat → Bool} {call : List UInt8 → SmsCall}

/-- A character that is no digit has a value that no digit has. -/
theorem toNat_hexCharToInt (c : UInt8) :
    (hexCharToInt c).toNat = (Hex.value c.toNat).getD 16 := by
  have hc := c.toNat_lt
  simp only [hexCharToInt, Hex.value, UInt8.le_iff_toNat_le, UInt8.reduceToNat]
  split_ifs with h₁ h₂ h₃
  · rw [UInt8.toNat_sub_of_le _ _ (by rw [UInt8.le_iff_toNat_le]; exact h₁.1)]
    rfl
  · rw [UInt8.toNat_add, UInt8.toNat_sub_of_le _ _ (by rw [UInt8.le_iff_toNat_le]; exact h₂.1)]
    simp only [UInt8.reduceToNat, Option.getD_some]
    omega
  · rw [UInt8.toNat_add, UInt8.toNat_sub_of_le _ _ (by rw [UInt8.le_iff_toNat_le]; exact h₃.1)]
    simp only [UInt8.reduceToNat, Option.getD_some]
    omega
  · rfl

theorem hexCharToInt_eq_invalid_iff :
    hexCharToInt c = INVALID_HEX_CHAR ↔ Hex.value c.toNat = none := by
  rw [← UInt8.toNat_inj, toNat_hexCharToInt]
  cases h : Hex.value c.toNat with
  | none => simp [INVALID_HEX_CHAR]
  | some d =>
    have hd := Hex.value_lt h
    simp only [Option.getD_some, reduceCtorEq, iff_false]
    intro h16
    have : INVALID_HEX_CHAR.toNat = 16 := rfl
    omega

/-- The two nibbles do not overlap in the byte that they are packed into. -/
theorem pack_nibbles {a b : UInt8} {d₁ d₂ : Nat} (ha : a.toNat = d₁) (hb : b.toNat = d₂)
    (h₁ : d₁ < 16) (h₂ : d₂ < 16) : a <<< 4 ||| b = UInt8.ofNat (16 * d₁ + d₂) := by
  rw [← UInt8.toNat_inj, UInt8.toNat_or, UInt8.toNat_shiftLeft, UInt8.toNat_ofNat', ha, hb]
  have hshift : d₁ <<< 4 = 16 * d₁ := by
    rw [Nat.shiftLeft_eq]
    omega
  have hor : d₁ <<< 4 ||| d₂ = d₁ <<< 4 + d₂ := (Nat.shiftLeft_add_eq_or_of_lt h₂ d₁).symm
  change d₁ <<< 4 % 256 ||| d₂ = (16 * d₁ + d₂) % 256
  rw [Nat.mod_eq_of_lt (by omega), hor, Nat.mod_eq_of_lt (by omega), hshift]

/-- On an even number of characters the loop decodes pairs of digits. -/
theorem convertPairs_eq (s : List UInt8) (heven : s.length % 2 = 0) :
    convertPairs s = Hex.decode (codes s) := by
  match s with
  | [] => rfl
  | [c] => simp at heven
  | c₁ :: c₂ :: s =>
    have ih := convertPairs_eq s (by simp only [List.length_cons] at heven; omega)
    simp only [convertPairs, hexCharToInt_eq_invalid_iff, codes, List.map_cons, Hex.decode]
    cases h₁ : Hex.value c₁.toNat with
    | none => simp
    | some d₁ =>
      cases h₂ : Hex.value c₂.toNat with
      | none => simp
      | some d₂ =>
        have hd₁ : (hexCharToInt c₁).toNat = d₁ := by rw [toNat_hexCharToInt, h₁, Option.getD_some]
        have hd₂ : (hexCharToInt c₂).toNat = d₂ := by rw [toNat_hexCharToInt, h₂, Option.getD_some]
        rw [pack_nibbles hd₁ hd₂ (Hex.value_lt h₁) (Hex.value_lt h₂), ih]
        simp [codes]

theorem length_of_renders (h : Renders s pdu) : s.length % 2 = 0 := by
  have hsome : (Hex.decode (codes s)).isSome = true := by
    rw [(Hex.decode_eq_some_iff (codes s) pdu).mpr h]
    rfl
  simpa [codes] using ((Hex.isSome_decode_iff (codes s)).mp hsome).1

theorem wellFormed_iff : WellFormed s ↔ (Hex.decode (codes s)).isSome = true := by
  have hdigit : ∀ c : UInt8, Hex.IsDigit c.toNat ↔
      (48 ≤ c ∧ c ≤ 57) ∨ (65 ≤ c ∧ c ≤ 70) ∨ (97 ≤ c ∧ c ≤ 102) := by
    intro c
    simp only [Hex.IsDigit, Hex.value, UInt8.le_iff_toNat_le, UInt8.reduceToNat]
    split_ifs <;> simp_all
  simp [Hex.isSome_decode_iff, WellFormed, codes, hdigit]

theorem convertHexStringToBytes_eq_some_iff :
    convertHexStringToBytes calloc s = some pdu ↔
      Renders s pdu ∧ calloc (s.length / 2) = true := by
  rw [convertHexStringToBytes]
  split_ifs with hodd hmem
  · simp only [false_iff, not_and]
    intro h
    exact absurd (length_of_renders h) hodd
  · simp [hmem]
  · rw [convertPairs_eq s (not_not.mp hodd), Hex.decode_eq_some_iff, Renders]
    simp [hmem]

theorem isSome_convertHexStringToBytes_iff :
    (convertHexStringToBytes calloc s).isSome = true ↔
      WellFormed s ∧ calloc (s.length / 2) = true := by
  rw [wellFormed_iff, Option.isSome_iff_exists, Option.isSome_iff_exists]
  simp only [convertHexStringToBytes_eq_some_iff, Hex.decode_eq_some_iff, Renders, exists_and_right]

/-- An indication delivers what was converted, and nothing was converted from an empty payload. -/
theorem smsInd_eq_some_iff {registered : Bool} {indicationType : Nat}
    {response : Option (List UInt8)} {call : List UInt8 → SmsCall}
    {notice : RadioIndicationType × SmsCall} :
    smsInd call calloc registered indicationType response = some notice ↔
      registered = true ∧ ∃ s pdu, response = some s ∧ s ≠ [] ∧
        convertHexStringToBytes calloc s = some pdu ∧
        notice = (convertIntToRadioIndicationType indicationType, call pdu) := by
  unfold smsInd
  cases registered with
  | false => simp
  | true =>
    cases response with
    | none => simp
    | some s =>
      cases s with
      | nil => simp
      | cons c s => cases h : convertHexStringToBytes calloc (c :: s) <;> simp [h, eq_comm]

/-- An indication with `call` delivers exactly the payloads that are well formed and not empty, in
whole, where there is memory for the bytes. -/
def DeliversPdus (ind : (Nat → Bool) → Bool → Nat → Option (List UInt8) → SmsNotice)
    (call : List UInt8 → SmsCall) (calloc : Nat → Bool) : Prop :=
  ∀ (indicationType : Nat) (s : List UInt8),
    ((ind calloc true indicationType (some s)).isSome = true ↔
      s ≠ [] ∧ WellFormed s ∧ calloc (s.length / 2) = true) ∧
    ∀ notice, ind calloc true indicationType (some s) = some notice →
      ∃ pdu, Renders s pdu ∧
        notice = (convertIntToRadioIndicationType indicationType, call pdu)

theorem smsInd_deliversPdus (call : List UInt8 → SmsCall) (calloc : Nat → Bool) :
    DeliversPdus (smsInd call) call calloc := by
  intro indicationType s
  constructor
  · rw [← isSome_convertHexStringToBytes_iff, Option.isSome_iff_exists, Option.isSome_iff_exists]
    simp [smsInd_eq_some_iff, exists_and_left]
  · intro notice h
    obtain ⟨-, s', pdu, hs, -, hconv, rfl⟩ := smsInd_eq_some_iff.mp h
    cases hs
    exact ⟨pdu, (convertHexStringToBytes_eq_some_iff.mp hconv).1, rfl⟩

/-- PDUs survive their hexadecimal transport. -/
theorem convert_and_deliver (calloc : Nat → Bool) :
    (∀ s pdu, convertHexStringToBytes calloc s = some pdu ↔
      Renders s pdu ∧ calloc (s.length / 2) = true) ∧
    (∀ s, (convertHexStringToBytes calloc s).isSome = true ↔
      WellFormed s ∧ calloc (s.length / 2) = true) ∧
    DeliversPdus newSmsInd .newSms calloc ∧
    DeliversPdus newSmsStatusReportInd .newSmsStatusReport calloc :=
  ⟨fun _ _ => convertHexStringToBytes_eq_some_iff, fun _ => isSome_convertHexStringToBytes_iff,
    smsInd_deliversPdus .newSms calloc, smsInd_deliversPdus .newSmsStatusReport calloc⟩

/-- The empty payload is well formed and not delivered. -/
theorem empty_not_delivered :
    WellFormed [] ∧ newSmsInd (fun _ => true) true 1 (some []) = none ∧
      newSmsStatusReportInd (fun _ => true) true 1 (some []) = none := by
  refine ⟨⟨rfl, ?_⟩, rfl, rfl⟩
  intro c hc
  cases hc

end Apq8084.Ril.SmsPdu
