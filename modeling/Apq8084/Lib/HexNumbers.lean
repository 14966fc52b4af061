import Apq8084.Lib.Decimal
import Apq8084.Lib.Hex

/-! Whole numbers in hexadecimal notation at the front of a text, as `strtol` of C reads them,
against the notation itself. -/
namespace HexNumber

open Decimal (Abi isSpace takeSign saturate)

def digit (c : Char) : Option Nat := Hex.value c.toNat

/-- `0x` and `0X` are passed over in front of a digit. -/
def skipPrefix : List Char → List Char
  | '0' :: x :: c :: s =>
    if (x = 'x' ∨ x = 'X') ∧ (digit c).isSome = true then c :: s else '0' :: x :: c :: s
  | s => s

/-- The values of the digits at the front. -/
def digits : List Char → List Nat
  | [] => []
  | c :: s =>
    match digit c with
    | some d => d :: digits s
    | none => []

def ofDigits (ds : List Nat) : Nat := ds.foldl (16 * · + ·) 0

/-- What `strtol(s, NULL, 16)` returns. -/
def strtol (abi : Abi) (s : List Char) : Int :=
  let signed := takeSign (s.dropWhile isSpace)
  let value : Int := ofDigits (digits (skipPrefix signed.2))
  saturate abi (if signed.1 then -value else value)

/-- The text is `v` in hexadecimal notation: one digit or more, in either case and perhaps behind
`0x` or `0X`, with any number of zeros in front. -/
def Denotes (s : List Char) (v : Nat) : Prop :=
  ∃ t ds, (s = t ∨ s = '0' :: 'x' :: t ∨ s = '0' :: 'X' :: t) ∧ t ≠ [] ∧
    t.map digit = ds.map some ∧ ofDigits ds = v

variable {c x : Char} {s t : List Char} {ds : List Nat} {d v : Nat} {abi : Abi}

/-- The codes of a digit. -/
theorem digit_bounds (h : digit c = some d) : (48 ≤ c.toNat ∧ c.toNat ≤ 57) ∨
    (65 ≤ c.toNat ∧ c.toNat ≤ 70) ∨ (97 ≤ c.toNat ∧ c.toNat ≤ 102) := by
  simp only [digit, Hex.value] at h
  split_ifs at h with h₁ h₂ h₃
  · exact Or.inl h₁
  · exact Or.inr (Or.inl h₂)
  · exact Or.inr (Or.inr h₃)

theorem isSpace_of_digit (h : digit c = some d) : isSpace c = false := by
  have hc := digit_bounds h
  simp only [isSpace, Bool.or_eq_false_iff, Bool.and_eq_false_iff, decide_eq_false_iff_not]
  omega

/-- No sign and no letter of the prefix is a digit. -/
theorem ne_of_digit (h : digit c = some d) : c ≠ '-' ∧ c ≠ '+' ∧ c ≠ 'x' ∧ c ≠ 'X' := by
  refine ⟨?_, ?_, ?_, ?_⟩ <;>
  · rintro rfl
    cases h

theorem digits_of_map (h : t.map digit = ds.map some) : digits t = ds := by
  induction t generalizing ds with
  | nil =>
    cases ds with
    | nil => rfl
    | cons d ds => cases h
  | cons c t ih =>
    cases ds with
    | nil => cases h
    | cons d ds =>
      obtain ⟨hc, ht⟩ := List.cons.inj h
      rw [digits, hc, ih ht]

theorem skipPrefix_of_map (h : t.map digit = ds.map some) : skipPrefix t = t := by
  unfold skipPrefix
  split
  · next x c s =>
    match ds with
    | [] => cases h
    | [_] => cases h
    | _ :: d :: _ =>
      have hx : digit x = some d := (List.cons.inj (List.cons.inj h).2).1
      obtain ⟨-, -, hsmall, hcapital⟩ := ne_of_digit hx
      rw [if_neg]
      rintro ⟨hx | hx, -⟩
      · exact hsmall hx
      · exact hcapital hx
  · rfl

theorem skipPrefix_marked (hx : x = 'x' ∨ x = 'X') (hne : t ≠ [])
    (h : t.map digit = ds.map some) : skipPrefix ('0' :: x :: t) = t := by
  match t, ds with
  | [], _ => exact absurd rfl hne
  | c :: t, [] => cases h
  | c :: t, d :: ds =>
    have hc : digit c = some d := (List.cons.inj h).1
    exact if_pos ⟨hx, by rw [hc]; rfl⟩

/-- A text that starts with a digit has no white space and no sign in front. -/
theorem takeSign_dropWhile (h : digit c = some d) :
    takeSign ((c :: t).dropWhile isSpace) = (false, c :: t) := by
  obtain ⟨hminus, hplus, -, -⟩ := ne_of_digit h
  rw [List.dropWhile_cons_of_neg (by simp [isSpace_of_digit h]), takeSign, if_neg hminus,
    if_neg hplus]

theorem strtol_of_front (hfront : ∃ c s', s = c :: s' ∧ ∃ d, digit c = some d)
    (hskip : skipPrefix s = t) (h : t.map digit = ds.map some) :
    strtol abi s = saturate abi (ofDigits ds) := by
  obtain ⟨c, s', rfl, d, hc⟩ := hfront
  simp only [strtol, takeSign_dropWhile hc, hskip, digits_of_map h]
  rfl

/-- The notation of a number is read as the number. -/
theorem strtol_denotes (h : Denotes s v) : strtol abi s = saturate abi v := by
  obtain ⟨t, ds, hs, hne, hmap, rfl⟩ := h
  rcases hs with rfl | rfl | rfl
  · refine strtol_of_front ?_ (skipPrefix_of_map hmap) hmap
    match s, ds with
    | [], _ => exact absurd rfl hne
    | c :: s, [] => cases hmap
    | c :: s, d :: ds => exact ⟨c, s, rfl, d, (List.cons.inj hmap).1⟩
  · exact strtol_of_front ⟨'0', _, rfl, 0, rfl⟩ (skipPrefix_marked (Or.inl rfl) hne hmap) hmap
  · exact strtol_of_front ⟨'0', _, rfl, 0, rfl⟩ (skipPrefix_marked (Or.inr rfl) hne hmap) hmap

end HexNumber
