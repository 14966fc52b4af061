import Apq8084.Lib.Decimal
import Mathlib.Tactic.Common

/-! The `struct timeval` of the event loop and the macros that compare, add and subtract two. -/
namespace Apq8084.Ril

/-- Both fields are of type `long`. -/
structure Timeval where
  tv_sec : Int
  tv_usec : Int
deriving DecidableEq, Repr

namespace Timeval

open Decimal (Abi)

variable {abi : Abi} {a b c : Timeval} {i : Int}

/-- What is left of a sum in a `long`. -/
def wrapLong : Abi → Int → Int
  | .ilp32, i => i.bmod 4294967296
  | .lp64, i => i.bmod 18446744073709551616

def timercmp (a b : Timeval) (op : Int → Int → Bool) : Bool :=
  if a.tv_sec = b.tv_sec then op a.tv_usec b.tv_usec else op a.tv_sec b.tv_sec

def timeradd (abi : Abi) (a b : Timeval) : Timeval :=
  let sec := wrapLong abi (a.tv_sec + b.tv_sec)
  let usec := wrapLong abi (a.tv_usec + b.tv_usec)
  if 1000000 ≤ usec then ⟨wrapLong abi (sec + 1), usec - 1000000⟩ else ⟨sec, usec⟩

def timersub (abi : Abi) (a b : Timeval) : Timeval :=
  let sec := wrapLong abi (a.tv_sec - b.tv_sec)
  let usec := wrapLong abi (a.tv_usec - b.tv_usec)
  if usec < 0 then ⟨wrapLong abi (sec - 1), usec + 1000000⟩ else ⟨sec, usec⟩

/-- The microseconds are a proper part of a second, and the seconds are a `long`. -/
structure Proper (abi : Abi) (a : Timeval) : Prop where
  usec_nonneg : 0 ≤ a.tv_usec
  usec_lt : a.tv_usec < 1000000
  sec_ge : abi.longMin ≤ a.tv_sec
  sec_le : a.tv_sec ≤ abi.longMax

/-- A normalised time that is not negative. -/
structure Normalised (abi : Abi) (a : Timeval) : Prop extends Proper abi a where
  sec_nonneg : 0 ≤ a.tv_sec

def micros (a : Timeval) : Int := a.tv_sec * 1000000 + a.tv_usec

/-- The first time is strictly later than the second one. -/
def Later (a b : Timeval) : Prop :=
  b.tv_sec < a.tv_sec ∨ a.tv_sec = b.tv_sec ∧ b.tv_usec < a.tv_usec

instance : Decidable (Later a b) := inferInstanceAs (Decidable (_ ∨ _))

theorem timercmp_gt : timercmp a b (· > ·) = true ↔ Later a b := by
  unfold timercmp Later
  split_ifs <;> simp only [decide_eq_true_iff] <;> omega

theorem timercmp_lt : timercmp a b (· < ·) = true ↔ Later b a := by
  unfold timercmp Later
  split_ifs <;> simp only [decide_eq_true_iff] <;> omega

theorem not_later_self (a : Timeval) : ¬Later a a := by
  unfold Later
  omega

theorem not_later_of_later (h : Later a b) : ¬Later b a := by
  unfold Later at *
  omega

theorem later_of_later (hab : Later a b) (hbc : ¬Later c b) : Later a c := by
  unfold Later at *
  omega

/-- In whole microseconds the order is that of the numbers. -/
theorem later_iff_micros (ha : Proper abi a) (hb : Proper abi b) :
    Later a b ↔ b.micros < a.micros := by
  obtain ⟨ha, ha', -, -⟩ := ha
  obtain ⟨hb, hb', -, -⟩ := hb
  unfold Later micros
  omega

/-! Sums and differences. -/

theorem wrapLong_bounds (abi : Abi) (i : Int) :
    abi.longMin ≤ wrapLong abi i ∧ wrapLong abi i ≤ abi.longMax := by
  cases abi with
  | ilp32 =>
    have hlo := Int.le_bmod (x := i) (m := 4294967296) (by omega)
    have hhi := Int.bmod_lt (x := i) (m := 4294967296) (by omega)
    simp only [Abi.longMin, Abi.longMax, wrapLong]
    omega
  | lp64 =>
    have hlo := Int.le_bmod (x := i) (m := 18446744073709551616) (by omega)
    have hhi := Int.bmod_lt (x := i) (m := 18446744073709551616) (by omega)
    simp only [Abi.longMin, Abi.longMax, wrapLong]
    omega

theorem wrapLong_of_fits (hlo : abi.longMin ≤ i) (hhi : i ≤ abi.longMax) :
    wrapLong abi i = i := by
  cases abi with
  | ilp32 =>
    simp only [Abi.longMin, Abi.longMax] at hlo hhi
    apply Int.bmod_eq_of_le <;> omega
  | lp64 =>
    simp only [Abi.longMin, Abi.longMax] at hlo hhi
    apply Int.bmod_eq_of_le <;> omega

/-- Every `long` holds the numbers of an `int`. -/
theorem longMax_ge (abi : Abi) : 2147483647 ≤ abi.longMax ∧ abi.longMin ≤ -2147483648 := by
  cases abi <;> decide

/-- A time whose seconds are an `int` that is not negative. -/
theorem normalised_of_int {sec usec : Int} (hsec : 0 ≤ sec ∧ sec ≤ 2147483647)
    (husec : 0 ≤ usec ∧ usec < 1000000) : Normalised abi ⟨sec, usec⟩ := by
  have hlong := longMax_ge abi
  have hmin : abi.longMin ≤ sec := by omega
  have hmax : sec ≤ abi.longMax := by omega
  exact ⟨⟨husec.1, husec.2, hmin, hmax⟩, hsec.1⟩

theorem wrapLong_int (hlo : -2147483648 ≤ i) (hhi : i ≤ 2147483647) : wrapLong abi i = i := by
  have := longMax_ge abi
  apply wrapLong_of_fits <;> omega

theorem timeradd_proper (ha : Proper abi a) (hb : Proper abi b) :
    Proper abi (timeradd abi a b) := by
  obtain ⟨ha, ha', -, -⟩ := ha
  obtain ⟨hb, hb', -, -⟩ := hb
  have husec : wrapLong abi (a.tv_usec + b.tv_usec) = a.tv_usec + b.tv_usec := by
    apply wrapLong_int <;> omega
  unfold timeradd
  simp only [husec]
  split_ifs with hcarry
  · have hsec := wrapLong_bounds abi (wrapLong abi (a.tv_sec + b.tv_sec) + 1)
    refine ⟨?_, ?_, hsec.1, hsec.2⟩ <;> dsimp only <;> omega
  · have hsec := wrapLong_bounds abi (a.tv_sec + b.tv_sec)
    refine ⟨?_, ?_, hsec.1, hsec.2⟩ <;> dsimp only <;> omega

/-- The sum is exact if it is a time at all. -/
theorem micros_timeradd (ha : Normalised abi a) (hb : Normalised abi b)
    (hfits : a.micros + b.micros < (abi.longMax + 1) * 1000000) :
    (timeradd abi a b).micros = a.micros + b.micros := by
  have hlong := longMax_ge abi
  obtain ⟨⟨ha, ha', -, -⟩, ha₀⟩ := ha
  obtain ⟨⟨hb, hb', -, -⟩, hb₀⟩ := hb
  unfold micros at *
  have husec : wrapLong abi (a.tv_usec + b.tv_usec) = a.tv_usec + b.tv_usec := by
    apply wrapLong_int <;> omega
  have hsec : wrapLong abi (a.tv_sec + b.tv_sec) = a.tv_sec + b.tv_sec := by
    apply wrapLong_of_fits <;> omega
  unfold timeradd
  simp only [husec, hsec]
  split_ifs with hcarry
  · have hcarried : wrapLong abi (a.tv_sec + b.tv_sec + 1) = a.tv_sec + b.tv_sec + 1 := by
      apply wrapLong_of_fits <;> omega
    simp only [hcarried]
    omega
  · simp only
    omega

/-- The difference to an earlier time that is not negative is exact. -/
theorem timersub_of_later (ha : Proper abi a) (hb : Normalised abi b) (h : Later a b) :
    Normalised abi (timersub abi a b) ∧ (timersub abi a b).micros = a.micros - b.micros := by
  have hlong := longMax_ge abi
  obtain ⟨ha, ha', -, hsec_le⟩ := ha
  obtain ⟨⟨hb, hb', -, -⟩, hb₀⟩ := hb
  unfold Later at h
  have husec : wrapLong abi (a.tv_usec - b.tv_usec) = a.tv_usec - b.tv_usec := by
    apply wrapLong_int <;> omega
  have hsec : wrapLong abi (a.tv_sec - b.tv_sec) = a.tv_sec - b.tv_sec := by
    apply wrapLong_of_fits <;> omega
  unfold timersub micros
  simp only [husec, hsec]
  split_ifs with hborrow
  · have hborrowed : wrapLong abi (a.tv_sec - b.tv_sec - 1) = a.tv_sec - b.tv_sec - 1 := by
      apply wrapLong_of_fits <;> omega
    simp only [hborrowed]
    refine ⟨⟨⟨?_, ?_, ?_, ?_⟩, ?_⟩, by omega⟩ <;> dsimp only <;> omega
  · refine ⟨⟨⟨?_, ?_, ?_, ?_⟩, ?_⟩, ?_⟩ <;> dsimp only <;> omega

end Timeval

end Apq8084.Ril
