import Apq8084.Lib.FillLoop
import Apq8084.Ril.Decoders

/-! CDMA information records: `cdmaInfoRecInd` of `ril_service.cpp` with the records of `ril.h` that
it reads. A `char` has no sign. -/
namespace Apq8084.Ril.CdmaInfoRecords

open Payloads (RadioIndicationType convertIntToRadioIndicationType)

/-! ### The records of `ril.h` -/

def CDMA_ALPHA_INFO_BUFFER_LENGTH : Nat := 64
def CDMA_NUMBER_INFO_BUFFER_LENGTH : Nat := 81
def RIL_CDMA_MAX_NUMBER_OF_INFO_RECS : Nat := 10

def RIL_CDMA_DISPLAY_INFO_REC : Int := 0
def RIL_CDMA_CALLED_PARTY_NUMBER_INFO_REC : Int := 1
def RIL_CDMA_CALLING_PARTY_NUMBER_INFO_REC : Int := 2
def RIL_CDMA_CONNECTED_NUMBER_INFO_REC : Int := 3
def RIL_CDMA_SIGNAL_INFO_REC : Int := 4
def RIL_CDMA_REDIRECTING_NUMBER_INFO_REC : Int := 5
def RIL_CDMA_LINE_CONTROL_INFO_REC : Int := 6
def RIL_CDMA_EXTENDED_DISPLAY_INFO_REC : Int := 7
def RIL_CDMA_T53_CLIR_INFO_REC : Int := 8
def RIL_CDMA_T53_RELEASE_INFO_REC : Int := 9
def RIL_CDMA_T53_AUDIO_CONTROL_INFO_REC : Int := 10

/-- What stands in memory from an address on. -/
abbrev Bytes := Nat → UInt8

def Bytes.from (m : Bytes) (offset : Nat) : Bytes := fun i => m (offset + i)

/-- An `int` or an enumeration. -/
def Bytes.int (m : Bytes) : Int := (WordBlock.ofBytes (m 0) (m 1) (m 2) (m 3)).toInt

structure RIL_CDMA_DisplayInfoRecord where
  alpha_len : UInt8
  alpha_buf : Bytes

structure RIL_CDMA_NumberInfoRecord where
  len : UInt8
  buf : Bytes
  number_type : UInt8
  number_plan : UInt8
  pi : UInt8
  si : UInt8

structure RIL_CDMA_SignalInfoRecord where
  isPresent : UInt8
  signalType : UInt8
  alertPitch : UInt8
  signal : UInt8

structure RIL_CDMA_RedirectingNumberInfoRecord where
  redirectingNumber : RIL_CDMA_NumberInfoRecord
  redirectingReason : Int

structure RIL_CDMA_LineControlInfoRecord where
  lineCtrlPolarityIncluded : UInt8
  lineCtrlToggle : UInt8
  lineCtrlReverse : UInt8
  lineCtrlPowerDenial : UInt8

structure RIL_CDMA_T53_CLIRInfoRecord where
  cause : UInt8

structure RIL_CDMA_T53_AudioControlInfoRecord where
  upLink : UInt8
  downLink : UInt8

/-- The bytes of the union `rec`, whose members all start at the first. -/
structure RIL_CDMA_InformationRecord where
  name : Int
  recBytes : Bytes

namespace RIL_CDMA_InformationRecord

def display (infoRec : RIL_CDMA_InformationRecord) : RIL_CDMA_DisplayInfoRecord :=
  { alpha_len := infoRec.recBytes 0, alpha_buf := infoRec.recBytes.from 1 }

def number (infoRec : RIL_CDMA_InformationRecord) : RIL_CDMA_NumberInfoRecord :=
  { len := infoRec.recBytes 0, buf := infoRec.recBytes.from 1, number_type := infoRec.recBytes 82
    number_plan := infoRec.recBytes 83, pi := infoRec.recBytes 84, si := infoRec.recBytes 85 }

def signal (infoRec : RIL_CDMA_InformationRecord) : RIL_CDMA_SignalInfoRecord :=
  { isPresent := infoRec.recBytes 0, signalType := infoRec.recBytes 1, alertPitch := infoRec.recBytes 2
    signal := infoRec.recBytes 3 }

/-- Two bytes of padding stand in front of the reason. -/
def redir (infoRec : RIL_CDMA_InformationRecord) : RIL_CDMA_RedirectingNumberInfoRecord :=
  { redirectingNumber := infoRec.number, redirectingReason := (infoRec.recBytes.from 88).int }

def lineCtrl (infoRec : RIL_CDMA_InformationRecord) : RIL_CDMA_LineControlInfoRecord :=
  { lineCtrlPolarityIncluded := infoRec.recBytes 0, lineCtrlToggle := infoRec.recBytes 1
    lineCtrlReverse := infoRec.recBytes 2, lineCtrlPowerDenial := infoRec.recBytes 3 }

def clir (infoRec : RIL_CDMA_InformationRecord) : RIL_CDMA_T53_CLIRInfoRecord :=
  { cause := infoRec.recBytes 0 }

def audioCtrl (infoRec : RIL_CDMA_InformationRecord) : RIL_CDMA_T53_AudioControlInfoRecord :=
  { upLink := infoRec.recBytes 0, downLink := infoRec.recBytes 1 }

/-- The name and the longest member, `redir`. -/
def size : Nat := 4 + 92

end RIL_CDMA_InformationRecord

/-- `infoRec` goes on behind the ten records that the struct has. -/
structure RIL_CDMA_InformationRecords where
  numberOfInfoRecs : UInt8
  infoRec : Nat → RIL_CDMA_InformationRecord

namespace RIL_CDMA_InformationRecords

/-- Three bytes of padding stand in front of the records. -/
def size : Nat := 4 + RIL_CDMA_MAX_NUMBER_OF_INFO_RECS * RIL_CDMA_InformationRecord.size

def ofBytes (m : Bytes) : RIL_CDMA_InformationRecords :=
  { numberOfInfoRecs := m 0
    infoRec := fun i =>
      let r := m.from (4 + i * RIL_CDMA_InformationRecord.size)
      { name := r.int, recBytes := r.from 4 } }

/-- Ten records are read at most. -/
def num (recordsRil : RIL_CDMA_InformationRecords) : Nat :=
  min recordsRil.numberOfInfoRecs.toNat RIL_CDMA_MAX_NUMBER_OF_INFO_RECS

end RIL_CDMA_InformationRecords

/-! ### What the client gets -/

structure CdmaDisplayInfoRecord where
  alphaBuf : HidlString

structure CdmaNumberInfoRecord where
  number : HidlString
  numberType : UInt8
  numberPlan : UInt8
  pi : UInt8
  si : UInt8

structure CdmaSignalInfoRecord where
  isPresent : Bool
  signalType : Int8
  alertPitch : Int8
  signal : Int8

structure CdmaRedirectingNumberInfoRecord where
  redirectingNumber : CdmaNumberInfoRecord
  redirectingReason : Int

structure CdmaLineControlInfoRecord where
  lineCtrlPolarityIncluded : UInt8
  lineCtrlToggle : UInt8
  lineCtrlReverse : UInt8
  lineCtrlPowerDenial : UInt8

structure CdmaT53ClirInfoRecord where
  cause : UInt8

structure CdmaT53AudioControlInfoRecord where
  upLink : UInt8
  downLink : UInt8

structure CdmaInformationRecord where
  name : Int := 0
  display : List CdmaDisplayInfoRecord := []
  number : List CdmaNumberInfoRecord := []
  signal : List CdmaSignalInfoRecord := []
  redir : List CdmaRedirectingNumberInfoRecord := []
  lineCtrl : List CdmaLineControlInfoRecord := []
  clir : List CdmaT53ClirInfoRecord := []
  audioCtrl : List CdmaT53AudioControlInfoRecord := []

/-- `string8`, copied from a buffer that has room for `bound` characters, up to its first NUL. -/
def copyString8 (malloc : Nat → Bool) (bound : Nat) (len : UInt8) (buf : Bytes) :
    Option HidlString :=
  if len.toNat > bound then none
  else if malloc (len.toNat + 1) = false then none
  else
    let string8 := (List.range len.toNat).map buf ++ [0]
    some (HidlString.ofCStr (string8.takeWhile (· ≠ 0)))

def copyNumber (malloc : Nat → Bool) (number : RIL_CDMA_NumberInfoRecord) :
    Option CdmaNumberInfoRecord :=
  match copyString8 malloc CDMA_NUMBER_INFO_BUFFER_LENGTH number.len number.buf with
  | none => none
  | some string8 =>
    some { number := string8, numberType := number.number_type, numberPlan := number.number_plan
           pi := number.pi, si := number.si }

/-- The body of the loop; `none` is a return. -/
def fillRecord (malloc : Nat → Bool) (infoRec : RIL_CDMA_InformationRecord) :
    Option CdmaInformationRecord :=
  let record : CdmaInformationRecord := { name := infoRec.name }
  if infoRec.name ∈ [RIL_CDMA_DISPLAY_INFO_REC, RIL_CDMA_EXTENDED_DISPLAY_INFO_REC] then
    match copyString8 malloc CDMA_ALPHA_INFO_BUFFER_LENGTH infoRec.display.alpha_len
      infoRec.display.alpha_buf with
    | none => none
    | some string8 => some { record with display := [{ alphaBuf := string8 }] }
  else if infoRec.name ∈ [RIL_CDMA_CALLED_PARTY_NUMBER_INFO_REC,
      RIL_CDMA_CALLING_PARTY_NUMBER_INFO_REC, RIL_CDMA_CONNECTED_NUMBER_INFO_REC] then
    match copyNumber malloc infoRec.number with
    | none => none
    | some number => some { record with number := [number] }
  else if infoRec.name = RIL_CDMA_SIGNAL_INFO_REC then
    let signal : CdmaSignalInfoRecord :=
      { isPresent := infoRec.signal.isPresent ≠ 0, signalType := infoRec.signal.signalType.toInt8
        alertPitch := infoRec.signal.alertPitch.toInt8, signal := infoRec.signal.signal.toInt8 }
    -- the workaround of the "ring of death"
    if infoRec.signal.isPresent ≠ 0 ∧ infoRec.signal.signalType = 2 ∧
        infoRec.signal.alertPitch = 0 ∧ infoRec.signal.signal = 1 then none
    else some { record with signal := [signal] }
  else if infoRec.name = RIL_CDMA_REDIRECTING_NUMBER_INFO_REC then
    match copyNumber malloc infoRec.redir.redirectingNumber with
    | none => none
    | some number =>
      some { record with
        redir := [{ redirectingNumber := number
                    redirectingReason := infoRec.redir.redirectingReason }] }
  else if infoRec.name = RIL_CDMA_LINE_CONTROL_INFO_REC then
    some { record with
      lineCtrl := [{ lineCtrlPolarityIncluded := infoRec.lineCtrl.lineCtrlPolarityIncluded
                     lineCtrlToggle := infoRec.lineCtrl.lineCtrlToggle
                     lineCtrlReverse := infoRec.lineCtrl.lineCtrlReverse
                     lineCtrlPowerDenial := infoRec.lineCtrl.lineCtrlPowerDenial }] }
  else if infoRec.name = RIL_CDMA_T53_CLIR_INFO_REC then
    some { record with clir := [{ cause := infoRec.clir.cause }] }
  else if infoRec.name = RIL_CDMA_T53_AUDIO_CONTROL_INFO_REC then
    some { record with
      audioCtrl := [{ upLink := infoRec.audioCtrl.upLink, downLink := infoRec.audioCtrl.downLink }] }
  -- `RIL_CDMA_T53_RELEASE_INFO_REC` and what is no name
  else none

/-- `registered` is `mRadioIndication != NULL` of the slot's service, and no `response` a null
pointer. -/
def cdmaInfoRecInd (malloc : Nat → Bool) (registered : Bool) (indicationType : Nat)
    (response : Option Bytes) (responseLen : Nat) :
    Option (RadioIndicationType × List CdmaInformationRecord) :=
  if registered then
    match response with
    | none => none
    | some response =>
      if responseLen ≠ RIL_CDMA_InformationRecords.size then none
      else
        let recordsRil := RIL_CDMA_InformationRecords.ofBytes response
        let infoRec := List.replicate recordsRil.num ({} : CdmaInformationRecord)
        match FillLoop.fill (fun i => fillRecord malloc (recordsRil.infoRec i)) recordsRil.num 0
          infoRec with
        | none => none
        | some infoRec => some (convertIntToRadioIndicationType indicationType, infoRec)
  else none

/-! ### What a record is for the client -/

/-- The vectors of a record. -/
inductive Vec where
  | display | number | signal | redir | lineCtrl | clir | audioCtrl
deriving DecidableEq

def CdmaInformationRecord.length (record : CdmaInformationRecord) : Vec → Nat
  | .display => record.display.length
  | .number => record.number.length
  | .signal => record.signal.length
  | .redir => record.redir.length
  | .lineCtrl => record.lineCtrl.length
  | .clir => record.clir.length
  | .audioCtrl => record.audioCtrl.length

/-- The names with the vectors that belong to them. -/
def vectors : List (Int × Vec) :=
  [(RIL_CDMA_DISPLAY_INFO_REC, .display),
    (RIL_CDMA_CALLED_PARTY_NUMBER_INFO_REC, .number),
    (RIL_CDMA_CALLING_PARTY_NUMBER_INFO_REC, .number),
    (RIL_CDMA_CONNECTED_NUMBER_INFO_REC, .number),
    (RIL_CDMA_SIGNAL_INFO_REC, .signal),
    (RIL_CDMA_REDIRECTING_NUMBER_INFO_REC, .redir),
    (RIL_CDMA_LINE_CONTROL_INFO_REC, .lineCtrl),
    (RIL_CDMA_EXTENDED_DISPLAY_INFO_REC, .display),
    (RIL_CDMA_T53_CLIR_INFO_REC, .clir),
    (RIL_CDMA_T53_AUDIO_CONTROL_INFO_REC, .audioCtrl)]

def vectorOf (name : Int) : Option Vec := vectors.lookup name

/-- The first `len` bytes of a buffer up to the first NUL. -/
def text (len : UInt8) (buf : Bytes) : HidlString :=
  HidlString.ofCStr (((List.range len.toNat).map buf).takeWhile (· ≠ 0))

/-- The number that the client gets of one of `ril.h`. -/
def RIL_CDMA_NumberInfoRecord.toCdma (number : RIL_CDMA_NumberInfoRecord) : CdmaNumberInfoRecord :=
  { number := text number.len number.buf, numberType := number.number_type
    numberPlan := number.number_plan, pi := number.pi, si := number.si }

/-- The signal that is not passed on. -/
def RIL_CDMA_SignalInfoRecord.IsFiltered (signal : RIL_CDMA_SignalInfoRecord) : Prop :=
  signal.isPresent ≠ 0 ∧ signal.signalType = 2 ∧ signal.alertPitch = 0 ∧ signal.signal = 1

/-- A record with which the whole indication is dropped. -/
inductive Drops (infoRec : RIL_CDMA_InformationRecord) : Prop where
  | unknown (h : infoRec.name < 0 ∨ 10 < infoRec.name)
  | release (h : infoRec.name = RIL_CDMA_T53_RELEASE_INFO_REC)
  | display (h : vectorOf infoRec.name = some .display)
      (hlen : CDMA_ALPHA_INFO_BUFFER_LENGTH < infoRec.display.alpha_len.toNat)
  | number (h : vectorOf infoRec.name = some .number)
      (hlen : CDMA_NUMBER_INFO_BUFFER_LENGTH < infoRec.number.len.toNat)
  | redir (h : vectorOf infoRec.name = some .redir)
      (hlen : CDMA_NUMBER_INFO_BUFFER_LENGTH < infoRec.redir.redirectingNumber.len.toNat)
  | signal (h : vectorOf infoRec.name = some .signal) (hsignal : infoRec.signal.IsFiltered)

/-- The client's record has the name and one element, in the vector that belongs to the name. -/
structure Carries (infoRec : RIL_CDMA_InformationRecord) (record : CdmaInformationRecord) :
    Prop where
  name : record.name = infoRec.name
  length : ∀ v, record.length v = if vectorOf infoRec.name = some v then 1 else 0
  isSome : (vectorOf infoRec.name).isSome = true
  display : ∀ x ∈ record.display,
    x.alphaBuf = text infoRec.display.alpha_len infoRec.display.alpha_buf
  number : ∀ x ∈ record.number, x = infoRec.number.toCdma
  signal : ∀ x ∈ record.signal,
    x = ⟨infoRec.signal.isPresent ≠ 0, infoRec.signal.signalType.toInt8,
      infoRec.signal.alertPitch.toInt8, infoRec.signal.signal.toInt8⟩
  redir : ∀ x ∈ record.redir,
    x = ⟨infoRec.redir.redirectingNumber.toCdma, infoRec.redir.redirectingReason⟩
  lineCtrl : ∀ x ∈ record.lineCtrl,
    x = ⟨infoRec.lineCtrl.lineCtrlPolarityIncluded, infoRec.lineCtrl.lineCtrlToggle,
      infoRec.lineCtrl.lineCtrlReverse, infoRec.lineCtrl.lineCtrlPowerDenial⟩
  clir : ∀ x ∈ record.clir, x = ⟨infoRec.clir.cause⟩
  audioCtrl : ∀ x ∈ record.audioCtrl, x = ⟨infoRec.audioCtrl.upLink, infoRec.audioCtrl.downLink⟩

variable {malloc : Nat → Bool} {infoRec infoRec' : RIL_CDMA_InformationRecord}
  {record : CdmaInformationRecord} {bound : Nat} {len : UInt8} {buf buf' : Bytes}

/-- The NUL behind the copy is not part of the text, nor is what stands behind an earlier one. -/
theorem copyString8_eq (hmalloc : ∀ n, malloc n = true) :
    copyString8 malloc bound len buf = if bound < len.toNat then none else some (text len buf) := by
  have hnul : ∀ s : List UInt8, (s ++ [0]).takeWhile (· ≠ 0) = s.takeWhile (· ≠ 0) := by
    intro s
    induction s with
    | nil => rfl
    | cons c s ih =>
      rw [List.cons_append, List.takeWhile_cons, List.takeWhile_cons, ih]
  simp only [copyString8, hmalloc, hnul]
  rfl

theorem copyNumber_eq (hmalloc : ∀ n, malloc n = true) (number : RIL_CDMA_NumberInfoRecord) :
    copyNumber malloc number =
      if CDMA_NUMBER_INFO_BUFFER_LENGTH < number.len.toNat then none else some number.toCdma := by
  rw [copyNumber, copyString8_eq hmalloc]
  split_ifs <;> rfl

/-- A release has no vector, and neither has what is no name. -/
theorem vectorOf_eq_none_iff {name : Int} :
    vectorOf name = none ↔ (name < 0 ∨ 10 < name) ∨ name = RIL_CDMA_T53_RELEASE_INFO_REC := by
  simp only [vectorOf, List.lookup_eq_none_iff, vectors, List.forall_mem_cons, List.not_mem_nil,
    false_implies, implies_true, and_true, bne_iff_ne, ne_eq, RIL_CDMA_DISPLAY_INFO_REC,
    RIL_CDMA_CALLED_PARTY_NUMBER_INFO_REC, RIL_CDMA_CALLING_PARTY_NUMBER_INFO_REC,
    RIL_CDMA_CONNECTED_NUMBER_INFO_REC, RIL_CDMA_SIGNAL_INFO_REC,
    RIL_CDMA_REDIRECTING_NUMBER_INFO_REC, RIL_CDMA_LINE_CONTROL_INFO_REC,
    RIL_CDMA_EXTENDED_DISPLAY_INFO_REC, RIL_CDMA_T53_CLIR_INFO_REC,
    RIL_CDMA_T53_RELEASE_INFO_REC, RIL_CDMA_T53_AUDIO_CONTROL_INFO_REC]
  omega

/-- The body of the loop by the vector that is filled. -/
theorem fillRecord_eq : fillRecord malloc infoRec =
    match vectorOf infoRec.name with
    | some .display =>
      match copyString8 malloc CDMA_ALPHA_INFO_BUFFER_LENGTH infoRec.display.alpha_len
        infoRec.display.alpha_buf with
      | none => none
      | some string8 => some { name := infoRec.name, display := [{ alphaBuf := string8 }] }
    | some .number =>
      match copyNumber malloc infoRec.number with
      | none => none
      | some number => some { name := infoRec.name, number := [number] }
    | some .signal =>
      if infoRec.signal.isPresent ≠ 0 ∧ infoRec.signal.signalType = 2 ∧
        infoRec.signal.alertPitch = 0 ∧ infoRec.signal.signal = 1 then none
      else some
        { name := infoRec.name
          signal := [⟨infoRec.signal.isPresent ≠ 0, infoRec.signal.signalType.toInt8,
            infoRec.signal.alertPitch.toInt8, infoRec.signal.signal.toInt8⟩] }
    | some .redir =>
      match copyNumber malloc infoRec.redir.redirectingNumber with
      | none => none
      | some number =>
        some { name := infoRec.name, redir := [⟨number, infoRec.redir.redirectingReason⟩] }
    | some .lineCtrl =>
      some
        { name := infoRec.name
          lineCtrl := [⟨infoRec.lineCtrl.lineCtrlPolarityIncluded, infoRec.lineCtrl.lineCtrlToggle,
            infoRec.lineCtrl.lineCtrlReverse, infoRec.lineCtrl.lineCtrlPowerDenial⟩] }
    | some .clir => some { name := infoRec.name, clir := [⟨infoRec.clir.cause⟩] }
    | some .audioCtrl =>
      some { name := infoRec.name,
             audioCtrl := [⟨infoRec.audioCtrl.upLink, infoRec.audioCtrl.downLink⟩] }
    | none => none := by
  obtain ⟨name, recBytes⟩ := infoRec
  by_cases hname : 0 ≤ name ∧ name ≤ 10
  · obtain rfl | rfl | rfl | rfl | rfl | rfl | rfl | rfl | rfl | rfl | rfl : name = 0 ∨ name = 1 ∨
      name = 2 ∨ name = 3 ∨ name = 4 ∨ name = 5 ∨ name = 6 ∨ name = 7 ∨ name = 8 ∨ name = 9 ∨
      name = 10 := by omega
    all_goals rfl
  · have hv : vectorOf name = none := vectorOf_eq_none_iff.mpr (Or.inl (by omega))
    have hne : ∀ c : Int, 0 ≤ c → c ≤ 10 → name ≠ c := fun c hlo hhi => by omega
    rw [hv]
    simp only [fillRecord, List.mem_cons, List.not_mem_nil,
      hne RIL_CDMA_DISPLAY_INFO_REC (by decide) (by decide),
      hne RIL_CDMA_CALLED_PARTY_NUMBER_INFO_REC (by decide) (by decide),
      hne RIL_CDMA_CALLING_PARTY_NUMBER_INFO_REC (by decide) (by decide),
      hne RIL_CDMA_CONNECTED_NUMBER_INFO_REC (by decide) (by decide),
      hne RIL_CDMA_SIGNAL_INFO_REC (by decide) (by decide),
      hne RIL_CDMA_REDIRECTING_NUMBER_INFO_REC (by decide) (by decide),
      hne RIL_CDMA_LINE_CONTROL_INFO_REC (by decide) (by decide),
      hne RIL_CDMA_EXTENDED_DISPLAY_INFO_REC (by decide) (by decide),
      hne RIL_CDMA_T53_CLIR_INFO_REC (by decide) (by decide),
      hne RIL_CDMA_T53_AUDIO_CONTROL_INFO_REC (by decide) (by decide),
      or_false, if_false]

theorem fillRecord_of_drops (hmalloc : ∀ n, malloc n = true) (h : Drops infoRec) :
    fillRecord malloc infoRec = none := by
  rw [fillRecord_eq]
  cases h with
  | unknown h => rw [vectorOf_eq_none_iff.mpr (Or.inl h)]
  | release h => rw [vectorOf_eq_none_iff.mpr (Or.inr h)]
  | display h hlen => simp only [h, copyString8_eq hmalloc, if_pos hlen]
  | number h hlen => simp only [h, copyNumber_eq hmalloc, if_pos hlen]
  | redir h hlen => simp only [h, copyNumber_eq hmalloc, if_pos hlen]
  | signal h hsignal =>
    rw [h]
    exact if_pos hsignal

theorem forall_vec {p : Vec → Prop} : (∀ v, p v) ↔ p .display ∧ p .number ∧ p .signal ∧ p .redir ∧
    p .lineCtrl ∧ p .clir ∧ p .audioCtrl := by
  constructor
  · intro h
    exact ⟨h _, h _, h _, h _, h _, h _, h _⟩
  · rintro ⟨h₁, h₂, h₃, h₄, h₅, h₆, h₇⟩ v
    cases v <;> assumption

/-- A record either drops the indication or is filled for the client. -/
theorem fillRecord_cases (hmalloc : ∀ n, malloc n = true) (infoRec : RIL_CDMA_InformationRecord) :
    Drops infoRec ∨ ∃ record, fillRecord malloc infoRec = some record ∧ Carries infoRec record := by
  rw [fillRecord_eq]
  cases hv : vectorOf infoRec.name with
  | none =>
    left
    rcases vectorOf_eq_none_iff.mp hv with h | h
    · exact .unknown h
    · exact .release h
  | some v =>
    cases v with
    | display =>
      simp only [copyString8_eq hmalloc]
      by_cases hlen : CDMA_ALPHA_INFO_BUFFER_LENGTH < infoRec.display.alpha_len.toNat
      · exact Or.inl (.display hv hlen)
      · rw [if_neg hlen]
        refine Or.inr ⟨_, rfl, ?_⟩
        constructor <;> simp [hv, forall_vec, CdmaInformationRecord.length]
    | number =>
      simp only [copyNumber_eq hmalloc]
      by_cases hlen : CDMA_NUMBER_INFO_BUFFER_LENGTH < infoRec.number.len.toNat
      · exact Or.inl (.number hv hlen)
      · rw [if_neg hlen]
        refine Or.inr ⟨_, rfl, ?_⟩
        constructor <;> simp [hv, forall_vec, CdmaInformationRecord.length]
    | signal =>
      by_cases hsignal : infoRec.signal.IsFiltered
      · exact Or.inl (.signal hv hsignal)
      · refine Or.inr ⟨_, if_neg hsignal, ?_⟩
        constructor <;> simp [hv, forall_vec, CdmaInformationRecord.length]
    | redir =>
      simp only [copyNumber_eq hmalloc]
      by_cases hlen : CDMA_NUMBER_INFO_BUFFER_LENGTH < infoRec.redir.redirectingNumber.len.toNat
      · exact Or.inl (.redir hv hlen)
      · rw [if_neg hlen]
        refine Or.inr ⟨_, rfl, ?_⟩
        constructor <;> simp [hv, forall_vec, CdmaInformationRecord.length]
    | lineCtrl | clir | audioCtrl =>
      refine Or.inr ⟨_, rfl, ?_⟩
      constructor <;> simp [hv, forall_vec, CdmaInformationRecord.length]

/-! ### What is read of a record -/

theorem copyString8_congr (h : ∀ k < bound, buf k = buf' k) :
    copyString8 malloc bound len buf = copyString8 malloc bound len buf' := by
  unfold copyString8
  split_ifs with hlen hmem
  · rfl
  · rfl
  · have hcopy : (List.range len.toNat).map buf = (List.range len.toNat).map buf' := by
      apply List.map_congr_left
      intro k hk
      exact h k (Nat.lt_of_lt_of_le (List.mem_range.mp hk) (Nat.le_of_not_lt hlen))
    rw [hcopy]

theorem copyNumber_congr (h : ∀ k < 92, infoRec.recBytes k = infoRec'.recBytes k) :
    copyNumber malloc infoRec.number = copyNumber malloc infoRec'.number := by
  have hcopy : copyString8 malloc CDMA_NUMBER_INFO_BUFFER_LENGTH infoRec.number.len
      infoRec.number.buf = copyString8 malloc CDMA_NUMBER_INFO_BUFFER_LENGTH infoRec'.number.len
      infoRec'.number.buf := by
    have hlen : infoRec.number.len = infoRec'.number.len := h 0 (by omega)
    rw [hlen]
    apply copyString8_congr
    intro k hk
    have hk : k < 81 := hk
    exact h (1 + k) (by omega)
  simp only [copyNumber, hcopy]
  simp only [RIL_CDMA_InformationRecord.number, h 82 (by omega), h 83 (by omega),
    h 84 (by omega), h 85 (by omega)]

/-- Nothing but the name and the bytes of the union is read. -/
theorem fillRecord_congr (hname : infoRec.name = infoRec'.name)
    (h : ∀ k < 92, infoRec.recBytes k = infoRec'.recBytes k) :
    fillRecord malloc infoRec = fillRecord malloc infoRec' := by
  rw [fillRecord_eq, fillRecord_eq, hname]
  cases vectorOf infoRec'.name with
  | none => rfl
  | some v =>
    cases v with
    | display =>
      have hcopy : copyString8 malloc CDMA_ALPHA_INFO_BUFFER_LENGTH infoRec.display.alpha_len
          infoRec.display.alpha_buf = copyString8 malloc CDMA_ALPHA_INFO_BUFFER_LENGTH
          infoRec'.display.alpha_len infoRec'.display.alpha_buf := by
        have hlen : infoRec.display.alpha_len = infoRec'.display.alpha_len := h 0 (by omega)
        rw [hlen]
        apply copyString8_congr
        intro k hk
        have hk : k < 64 := hk
        exact h (1 + k) (by omega)
      simp only [hcopy]
    | number => simp only [copyNumber_congr h]
    | redir =>
      have hreason : infoRec.redir.redirectingReason = infoRec'.redir.redirectingReason := by
        simp only [RIL_CDMA_InformationRecord.redir, Bytes.int, Bytes.from, h 88 (by omega),
          h (88 + 1) (by omega), h (88 + 2) (by omega), h (88 + 3) (by omega)]
      have hnumber : copyNumber malloc infoRec.redir.redirectingNumber =
          copyNumber malloc infoRec'.redir.redirectingNumber := copyNumber_congr h
      simp only [hnumber, hreason]
    | signal =>
      have hsignal : infoRec.signal = infoRec'.signal := by
        simp only [RIL_CDMA_InformationRecord.signal, h 0 (by omega), h 1 (by omega),
          h 2 (by omega), h 3 (by omega)]
      rw [hsignal]
    | lineCtrl =>
      simp only [RIL_CDMA_InformationRecord.lineCtrl, h 0 (by omega), h 1 (by omega),
        h 2 (by omega), h 3 (by omega)]
    | clir => simp only [RIL_CDMA_InformationRecord.clir, h 0 (by omega)]
    | audioCtrl =>
      simp only [RIL_CDMA_InformationRecord.audioCtrl, h 0 (by omega), h 1 (by omega)]

/-! ### The indication -/

variable {indicationType : Nat} {response response' : Bytes}

theorem cdmaInfoRecInd_eq : cdmaInfoRecInd malloc true indicationType (some response)
    RIL_CDMA_InformationRecords.size =
      (FillLoop.fill
        (fun i => fillRecord malloc ((RIL_CDMA_InformationRecords.ofBytes response).infoRec i))
        (RIL_CDMA_InformationRecords.ofBytes response).num 0
        (List.replicate (RIL_CDMA_InformationRecords.ofBytes response).num {})).map
      (convertIntToRadioIndicationType indicationType, ·) := by
  simp only [cdmaInfoRecInd, if_true, ne_eq, not_true_eq_false, if_false]
  cases FillLoop.fill _ _ _ _ <;> rfl

theorem cdmaInfoRecInd_eq_none_iff (hmalloc : ∀ n, malloc n = true) :
    cdmaInfoRecInd malloc true indicationType (some response) RIL_CDMA_InformationRecords.size =
      none ↔ ∃ i, i < (RIL_CDMA_InformationRecords.ofBytes response).num ∧
        Drops ((RIL_CDMA_InformationRecords.ofBytes response).infoRec i) := by
  rw [cdmaInfoRecInd_eq, Option.map_eq_none_iff, FillLoop.fill_eq_none_iff]
  constructor
  · rintro ⟨i, -, hi, hnone⟩
    refine ⟨i, by omega, ?_⟩
    rcases fillRecord_cases hmalloc ((RIL_CDMA_InformationRecords.ofBytes response).infoRec i) with
      h | ⟨record, hsome, -⟩
    · exact h
    · rw [hnone] at hsome
      cases hsome
  · rintro ⟨i, hi, h⟩
    exact ⟨i, Nat.zero_le i, by omega, fillRecord_of_drops hmalloc h⟩

theorem carries_of_cdmaInfoRecInd (hmalloc : ∀ n, malloc n = true) {type : RadioIndicationType}
    {infoRec : List CdmaInformationRecord}
    (h : cdmaInfoRecInd malloc true indicationType (some response)
      RIL_CDMA_InformationRecords.size = some (type, infoRec)) :
    type = convertIntToRadioIndicationType indicationType ∧
      infoRec.length = (RIL_CDMA_InformationRecords.ofBytes response).num ∧
      ∀ i, i < (RIL_CDMA_InformationRecords.ofBytes response).num →
        ∃ record, infoRec[i]? = some record ∧
          Carries ((RIL_CDMA_InformationRecords.ofBytes response).infoRec i) record := by
  rw [cdmaInfoRecInd_eq, Option.map_eq_some_iff] at h
  obtain ⟨out, hfill, heq⟩ := h
  cases heq
  obtain ⟨hlen, -, hplaces⟩ := FillLoop.fill_spec hfill (by rw [List.length_replicate]; omega)
  refine ⟨rfl, by rw [hlen, List.length_replicate], ?_⟩
  intro i hi
  obtain ⟨record, hrecord, hout⟩ := hplaces i (Nat.zero_le i) (by omega)
  refine ⟨record, hout, ?_⟩
  rcases fillRecord_cases hmalloc ((RIL_CDMA_InformationRecords.ofBytes response).infoRec i) with
    h | ⟨record', hsome, hcarries⟩
  · rw [fillRecord_of_drops hmalloc h] at hrecord
    cases hrecord
  · rw [hsome] at hrecord
    cases hrecord
    exact hcarries

/-- The count and so many records are read, and nothing behind them. -/
theorem cdmaInfoRecInd_congr
    (h : ∀ k, k < 4 + (RIL_CDMA_InformationRecords.ofBytes response).num *
      RIL_CDMA_InformationRecord.size → response' k = response k) :
    cdmaInfoRecInd malloc true indicationType (some response') RIL_CDMA_InformationRecords.size =
      cdmaInfoRecInd malloc true indicationType (some response)
        RIL_CDMA_InformationRecords.size := by
  have hnum : (RIL_CDMA_InformationRecords.ofBytes response').num =
      (RIL_CDMA_InformationRecords.ofBytes response).num := by
    simp only [RIL_CDMA_InformationRecords.num, RIL_CDMA_InformationRecords.ofBytes,
      h 0 (by omega)]
  rw [cdmaInfoRecInd_eq, cdmaInfoRecInd_eq, hnum]
  congr 1
  apply FillLoop.fill_congr
  intro i _ hi
  have hread : ∀ k, k < 96 → response' (4 + i * RIL_CDMA_InformationRecord.size + k) =
      response (4 + i * RIL_CDMA_InformationRecord.size + k) := by
    intro k hk
    apply h
    simp only [RIL_CDMA_InformationRecord.size]
    omega
  apply fillRecord_congr
  · simp only [RIL_CDMA_InformationRecords.ofBytes, Bytes.int, Bytes.from, hread 0 (by omega),
      hread 1 (by omega), hread 2 (by omega), hread 3 (by omega)]
  · intro k hk
    exact hread (4 + k) (by omega)

/-- All of the records are delivered, or none; those behind the tenth never matter. -/
theorem all_or_nothing (hmalloc : ∀ n, malloc n = true) (indicationType : Nat)
    (response : Bytes) :
    let recordsRil := RIL_CDMA_InformationRecords.ofBytes response
    let ind m := cdmaInfoRecInd malloc true indicationType (some m)
      RIL_CDMA_InformationRecords.size
    (ind response = none ↔
      ∃ i, i < min recordsRil.numberOfInfoRecs.toNat 10 ∧ Drops (recordsRil.infoRec i)) ∧
    (∀ type infoRec, ind response = some (type, infoRec) →
      type = convertIntToRadioIndicationType indicationType ∧
      infoRec.length = min recordsRil.numberOfInfoRecs.toNat 10 ∧
      ∀ i, i < min recordsRil.numberOfInfoRecs.toNat 10 →
        ∃ record, infoRec[i]? = some record ∧ Carries (recordsRil.infoRec i) record) ∧
    ∀ response' : Bytes,
      (∀ k, k < 4 + min recordsRil.numberOfInfoRecs.toNat 10 * RIL_CDMA_InformationRecord.size →
        response' k = response k) → ind response' = ind response := by
  exact ⟨cdmaInfoRecInd_eq_none_iff hmalloc,
    fun type infoRec h => carries_of_cdmaInfoRecInd hmalloc h,
    fun response' h => cdmaInfoRecInd_congr h⟩

/-- One record, which carries the cause of a T53 CLIR. -/
def clirRecord : Bytes := fun k =>
  if k = 0 then 1 else if k = 4 then 8 else if k = 8 then 5 else 0

theorem all_or_nothing_clirRecord :
    cdmaInfoRecInd (fun _ => true) true 1 (some clirRecord) RIL_CDMA_InformationRecords.size ≠
      none := by
  rw [ne_eq, (all_or_nothing (fun _ => rfl) 1 clirRecord).1]
  rintro ⟨i, hi, hdrops⟩
  have hi : i < 1 := hi
  obtain rfl : i = 0 := by omega
  have hv : vectorOf ((RIL_CDMA_InformationRecords.ofBytes clirRecord).infoRec 0).name =
    some .clir := by decide
  cases hdrops with
  | unknown h => rw [vectorOf_eq_none_iff.mpr (Or.inl h)] at hv; cases hv
  | release h => rw [vectorOf_eq_none_iff.mpr (Or.inr h)] at hv; cases hv
  | display h | number h | redir h | signal h =>
    rw [hv] at h
    cases h

end Apq8084.Ril.CdmaInfoRecords
