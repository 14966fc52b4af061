import Mathlib.Data.List.TakeWhile
import Mathlib.Tactic.Common

/-! Whole numbers in decimal notation at the front of a text, as `strtol` of C reads them, against
the notation that `%d` prints. -/
namespace Decimal

variable {c : Char} {s t d : List Char} {i : Int}

/-- `isspace` of the C locale. -/
def isSpace (c : Char) : Bool := c.toNat = 32 || (9 ≤ c.toNat && c.toNat ≤ 13)

/-- An optional sign, and what is behind it. -/
def takeSign : List Char → Bool × List Char
  | [] => (false, [])
  | c :: s => if c = '-' then (true, s) else if c = '+' then (false, s) else (false, c :: s)

/-- The number at the front, and what is behind it; white space may precede it. -/
def read (s : List Char) : Option (Int × List Char) :=
  let signed := takeSign (s.dropWhile isSpace)
  let digits := signed.2.takeWhile Char.isDigit
  let value : Int := Nat.ofDigitChars 10 digits 0
  if digits = [] then none
  else some (if signed.1 then -value else value, signed.2.dropWhile Char.isDigit)

/-! ### Texts that go on behind the number -/

/-- The symbol cannot be part of a number. -/
def Stops (c : Char) : Prop :=
  isSpace c = false ∧ c ≠ '-' ∧ c ≠ '+' ∧ c.isDigit = false

instance : Decidable (Stops c) := inferInstanceAs (Decidable (_ ∧ _))

theorem takeWhile_stop {p : Char → Bool} (hc : p c = false) :
    (s ++ c :: t).takeWhile p = s.takeWhile p := by
  induction s with
  | nil => exact List.takeWhile_cons_of_neg (by simp [hc])
  | cons b s ih =>
    rw [List.cons_append, List.takeWhile_cons, List.takeWhile_cons, ih]

theorem dropWhile_stop {p : Char → Bool} (hc : p c = false) :
    (s ++ c :: t).dropWhile p = s.dropWhile p ++ c :: t := by
  induction s with
  | nil => exact List.dropWhile_cons_of_neg (by simp [hc])
  | cons b s ih =>
    rw [List.cons_append, List.dropWhile_cons, List.dropWhile_cons, ih]
    split <;> rfl

theorem takeSign_stop (hminus : c ≠ '-') (hplus : c ≠ '+') :
    takeSign (s ++ c :: t) = ((takeSign s).1, (takeSign s).2 ++ c :: t) := by
  cases s with
  | nil =>
    simp only [List.nil_append, takeSign]
    rw [if_neg hminus, if_neg hplus]
  | cons b s =>
    simp only [List.cons_append, takeSign]
    split_ifs <;> rfl

/-- A symbol that cannot be part of a number ends it. -/
theorem read_append (hc : Stops c) :
    read (s ++ c :: t) = (read s).map fun p => (p.1, p.2 ++ c :: t) := by
  obtain ⟨hspace, hminus, hplus, hdigit⟩ := hc
  simp only [read]
  rw [dropWhile_stop hspace, takeSign_stop hminus hplus, takeWhile_stop hdigit,
    dropWhile_stop hdigit]
  split_ifs <;> rfl

theorem takeSign_suffix (s : List Char) : (takeSign s).2 <:+ s := by
  cases s with
  | nil => exact List.suffix_refl []
  | cons b s =>
    simp only [takeSign]
    split_ifs
    · exact List.suffix_cons b s
    · exact List.suffix_cons b s
    · exact List.suffix_refl _

theorem read_suffix (h : read s = some (i, t)) : t <:+ s := by
  simp only [read] at h
  split_ifs at h
  all_goals
    cases h
    apply (List.dropWhile_suffix Char.isDigit).trans
    exact (takeSign_suffix _).trans (List.dropWhile_suffix isSpace)

/-! ### Printed numbers -/

theorem isDigit_bounds (h : c.isDigit = true) : 48 ≤ c.toNat ∧ c.toNat ≤ 57 := by
  simpa [Char.isDigit, UInt32.le_iff_toNat_le] using h

theorem isSpace_of_isDigit (h : c.isDigit = true) : isSpace c = false := by
  obtain ⟨hlo, hhi⟩ := isDigit_bounds h
  simp only [isSpace, Bool.or_eq_false_iff, Bool.and_eq_false_iff, decide_eq_false_iff_not]
  omega

theorem takeSign_digits (hd : ∀ c ∈ d, c.isDigit = true) : takeSign d = (false, d) := by
  cases d with
  | nil => rfl
  | cons c d =>
    have hc := hd c List.mem_cons_self
    rw [takeSign, if_neg, if_neg]
    · rintro rfl
      cases hc
    · rintro rfl
      cases hc

theorem read_digits (hd : ∀ c ∈ d, c.isDigit = true) (hne : d ≠ []) :
    read d = some ((Nat.ofDigitChars 10 d 0 : Int), []) := by
  have hspace : d.dropWhile isSpace = d := by
    cases d with
    | nil => rfl
    | cons c d =>
      exact List.dropWhile_cons_of_neg (by simp [isSpace_of_isDigit (hd c List.mem_cons_self)])
  simp only [read]
  rw [hspace, takeSign_digits hd, List.takeWhile_eq_self_iff.mpr hd,
    List.dropWhile_eq_nil_iff.mpr hd, if_neg hne]
  rfl

theorem read_minus_digits (hd : ∀ c ∈ d, c.isDigit = true) (hne : d ≠ []) :
    read ('-' :: d) = some (-(Nat.ofDigitChars 10 d 0 : Int), []) := by
  have hspace : ('-' :: d).dropWhile isSpace = '-' :: d := List.dropWhile_cons_of_neg (by decide)
  simp only [read]
  rw [hspace, takeSign, if_pos rfl, List.takeWhile_eq_self_iff.mpr hd,
    List.dropWhile_eq_nil_iff.mpr hd, if_neg hne]
  rfl

theorem toList_toString (i : Int) : (toString i).toList =
    if 0 ≤ i then Nat.toDigits 10 i.toNat else '-' :: Nat.toDigits 10 (-i).toNat := by
  rw [Int.toString_eq_repr, Int.repr_eq_if]
  split_ifs
  · exact Nat.toList_repr
  · rw [String.toList_append, Nat.toList_repr]
    rfl

theorem isDigit_toDigits {n : Nat} : ∀ c ∈ Nat.toDigits 10 n, c.isDigit = true :=
  fun _ hc => Nat.isDigit_of_mem_toDigits (by decide) (by decide) hc

/-- The printed number is read back, and nothing is left. -/
theorem read_toString (i : Int) : read (toString i).toList = some (i, []) := by
  rw [toList_toString]
  split_ifs with hi
  · rw [read_digits isDigit_toDigits Nat.toDigits_ne_nil, Nat.ofDigitChars_ten_toDigits,
      Int.toNat_of_nonneg hi]
  · rw [read_minus_digits isDigit_toDigits Nat.toDigits_ne_nil, Nat.ofDigitChars_ten_toDigits,
      Int.toNat_of_nonneg (by omega), Int.neg_neg]

theorem mem_toString (hc : c ∈ (toString i).toList) : c = '-' ∨ c.isDigit = true := by
  rw [toList_toString] at hc
  split_ifs at hc
  · exact Or.inr (isDigit_toDigits c hc)
  · rcases List.mem_cons.mp hc with hc | hc
    · exact Or.inl hc
    · exact Or.inr (isDigit_toDigits c hc)

/-! ### The function of C -/

/-- The platforms, by their `long`. -/
inductive Abi where
  | ilp32
  | lp64

def Abi.longMax : Abi → Int
  | .ilp32 => 2147483647
  | .lp64 => 9223372036854775807

def Abi.longMin : Abi → Int
  | .ilp32 => -2147483648
  | .lp64 => -9223372036854775808

variable {abi : Abi}

def saturate (abi : Abi) (i : Int) : Int :=
  if abi.longMax < i then abi.longMax else if i < abi.longMin then abi.longMin else i

/-- `strtol(s, &end, 10)`: the number and `end`, which is `s` itself where no number is found. -/
def strtol (abi : Abi) (s : List Char) : Int × List Char :=
  match read s with
  | none => (0, s)
  | some (i, t) => (saturate abi i, t)

theorem strtol_append (hc : Stops c) :
    strtol abi (s ++ c :: t) = ((strtol abi s).1, (strtol abi s).2 ++ c :: t) := by
  rw [strtol, strtol, read_append hc]
  cases read s <;> rfl

theorem strtol_suffix (s : List Char) : (strtol abi s).2 <:+ s := by
  unfold strtol
  split
  · exact List.suffix_refl s
  · exact read_suffix ‹_›

theorem saturate_int (abi : Abi) (hlo : -2147483648 ≤ i) (hhi : i ≤ 2147483647) :
    saturate abi i = i := by
  have hmax : i ≤ abi.longMax := by
    cases abi with
    | ilp32 => exact hhi
    | lp64 => exact Int.le_trans hhi (by decide)
  have hmin : abi.longMin ≤ i := by
    cases abi with
    | ilp32 => exact hlo
    | lp64 => exact Int.le_trans (by decide) hlo
  rw [saturate, if_neg (Int.not_lt.mpr hmax), if_neg (Int.not_lt.mpr hmin)]

theorem strtol_toString (i : Int32) : strtol abi (toString i.toInt).toList = (i.toInt, []) := by
  have hlo := i.le_toInt
  have hhi := i.toInt_lt
  simp only [strtol, read_toString]
  rw [saturate_int abi (by omega) (by omega)]

end Decimal
