import Apq8084.Lib.Decimal
import Apq8084.Ril.Decoders

/-! The cells that the vendor reports, `convertRilCellInfoListToHal` of `ril_service.cpp` and its
three callers. A record has 18 words, the last twelve of them the union. -/
namespace Apq8084.Ril.Payloads

open WordBlock WordBlock.Layout

/-! ### What the vendor reports -/

structure RIL_CellInfo_v12 where
  cellInfoType : Word
  registered : Word
  timeStampType : Word
  /-- `timeStamp` starts at a multiple of eight. -/
  padding : Word
  timeStampLow : Word
  timeStampHigh : Word
  w₀ : Word
  w₁ : Word
  w₂ : Word
  w₃ : Word
  w₄ : Word
  w₅ : Word
  w₆ : Word
  w₇ : Word
  w₈ : Word
  w₉ : Word
  w₁₀ : Word
  w₁₁ : Word

instance : Layout RIL_CellInfo_v12 where
  size := 18
  words r := [r.cellInfoType, r.registered, r.timeStampType, r.padding, r.timeStampLow,
    r.timeStampHigh, r.w₀, r.w₁, r.w₂, r.w₃, r.w₄, r.w₅, r.w₆, r.w₇, r.w₈, r.w₉, r.w₁₀, r.w₁₁]
  length_words _ := rfl
  words_injective := by
    rintro ⟨⟩ ⟨⟩ h
    simpa using h
  exists_words
    | [a, b, c, d, e, f, g, h, i, j, k, l, m, n, o, p, q, r], _ =>
      ⟨⟨a, b, c, d, e, f, g, h, i, j, k, l, m, n, o, p, q, r⟩, rfl⟩

structure RIL_NetworkScanResult where
  status : Word
  network_infos_length : Word
  network_infos : Word

instance : Layout RIL_NetworkScanResult where
  size := 3
  words s := [s.status, s.network_infos_length, s.network_infos]
  length_words _ := rfl
  words_injective := by
    rintro ⟨⟩ ⟨⟩ h
    simpa using h
  exists_words
    | [a, b, c], _ => ⟨⟨a, b, c⟩, rfl⟩

def RIL_CELL_INFO_TYPE_GSM : Int := 1
def RIL_CELL_INFO_TYPE_CDMA : Int := 2
def RIL_CELL_INFO_TYPE_LTE : Int := 3
def RIL_CELL_INFO_TYPE_WCDMA : Int := 4
def RIL_CELL_INFO_TYPE_TD_SCDMA : Int := 5

/-! ### What the framework gets -/

structure CellIdentityGsm where
  mcc : String
  mnc : String
  lac : Int
  cid : Int
  arfcn : Int
  bsic : BitVec 8

structure GsmSignalStrength where
  signalStrength : Int
  bitErrorRate : Int
  timingAdvance : Int

structure CellInfoGsm where
  cellIdentityGsm : CellIdentityGsm
  signalStrengthGsm : GsmSignalStrength

structure CellIdentityWcdma where
  mcc : String
  mnc : String
  lac : Int
  cid : Int
  psc : Int
  uarfcn : Int

structure WcdmaSignalStrength where
  signalStrength : Int
  bitErrorRate : Int

structure CellInfoWcdma where
  cellIdentityWcdma : CellIdentityWcdma
  signalStrengthWcdma : WcdmaSignalStrength

structure CellIdentityCdma where
  networkId : Int
  systemId : Int
  baseStationId : Int
  longitude : Int
  latitude : Int

structure CdmaSignalStrength where
  dbm : Int
  ecio : Int

structure EvdoSignalStrength where
  dbm : Int
  ecio : Int
  signalNoiseRatio : Int

structure CellInfoCdma where
  cellIdentityCdma : CellIdentityCdma
  signalStrengthCdma : CdmaSignalStrength
  signalStrengthEvdo : EvdoSignalStrength

structure CellIdentityLte where
  mcc : String
  mnc : String
  ci : Int
  pci : Int
  tac : Int
  earfcn : Int

structure LteSignalStrength where
  signalStrength : Int
  rsrp : Int
  rsrq : Int
  rssnr : Int
  cqi : Int
  timingAdvance : Int

structure CellInfoLte where
  cellIdentityLte : CellIdentityLte
  signalStrengthLte : LteSignalStrength

structure CellIdentityTdscdma where
  mcc : String
  mnc : String
  lac : Int
  cid : Int
  cpid : Int

structure TdScdmaSignalStrength where
  rscp : Int

structure CellInfoTdscdma where
  cellIdentityTdscdma : CellIdentityTdscdma
  signalStrengthTdscdma : TdScdmaSignalStrength

structure CellInfo where
  cellInfoType : Int
  registered : Bool
  timeStampType : Int
  timeStamp : BitVec 64
  gsm : List CellInfoGsm
  wcdma : List CellInfoWcdma
  cdma : List CellInfoCdma
  lte : List CellInfoLte
  tdscdma : List CellInfoTdscdma

/-! ### One cell -/

/-- `std::to_string` of an `int`. -/
def to_string (w : Word) : String := toString w.toInt

variable (r : RIL_CellInfo_v12)

def cellInfoGsm : CellInfoGsm where
  cellIdentityGsm := {
    mcc := to_string r.w₀
    mnc := to_string r.w₁
    lac := r.w₂.toInt
    cid := r.w₃.toInt
    arfcn := r.w₄.toInt
    bsic := r.w₅.setWidth 8 }
  signalStrengthGsm := {
    signalStrength := r.w₆.toInt
    bitErrorRate := r.w₇.toInt
    timingAdvance := r.w₈.toInt }

def cellInfoWcdma : CellInfoWcdma where
  cellIdentityWcdma := {
    mcc := to_string r.w₀
    mnc := to_string r.w₁
    lac := r.w₂.toInt
    cid := r.w₃.toInt
    psc := r.w₄.toInt
    uarfcn := r.w₅.toInt }
  signalStrengthWcdma := {
    signalStrength := r.w₆.toInt
    bitErrorRate := r.w₇.toInt }

def cellInfoCdma : CellInfoCdma where
  cellIdentityCdma := {
    networkId := r.w₀.toInt
    systemId := r.w₁.toInt
    baseStationId := r.w₂.toInt
    longitude := r.w₃.toInt
    latitude := r.w₄.toInt }
  signalStrengthCdma := {
    dbm := r.w₅.toInt
    ecio := r.w₆.toInt }
  signalStrengthEvdo := {
    dbm := r.w₇.toInt
    ecio := r.w₈.toInt
    signalNoiseRatio := r.w₉.toInt }

def cellInfoLte : CellInfoLte where
  cellIdentityLte := {
    mcc := to_string r.w₀
    mnc := to_string r.w₁
    ci := r.w₂.toInt
    pci := r.w₃.toInt
    tac := r.w₄.toInt
    earfcn := r.w₅.toInt }
  signalStrengthLte := {
    signalStrength := r.w₆.toInt
    rsrp := r.w₇.toInt
    rsrq := r.w₈.toInt
    rssnr := r.w₉.toInt
    cqi := r.w₁₀.toInt
    timingAdvance := r.w₁₁.toInt }

def cellInfoTdscdma : CellInfoTdscdma where
  cellIdentityTdscdma := {
    mcc := to_string r.w₀
    mnc := to_string r.w₁
    lac := r.w₂.toInt
    cid := r.w₃.toInt
    cpid := r.w₄.toInt }
  signalStrengthTdscdma := { rscp := r.w₅.toInt }

/-- The record before the `switch`. -/
def withoutVectors : CellInfo where
  cellInfoType := r.cellInfoType.toInt
  registered := r.registered ≠ 0
  timeStampType := r.timeStampType.toInt
  timeStamp := r.timeStampHigh ++ r.timeStampLow
  gsm := []
  wcdma := []
  cdma := []
  lte := []
  tdscdma := []

/-- The body of the loop. -/
def toCellInfo : CellInfo :=
  let record := withoutVectors r
  if r.cellInfoType.toInt = RIL_CELL_INFO_TYPE_GSM then { record with gsm := [cellInfoGsm r] }
  else if r.cellInfoType.toInt = RIL_CELL_INFO_TYPE_WCDMA then
    { record with wcdma := [cellInfoWcdma r] }
  else if r.cellInfoType.toInt = RIL_CELL_INFO_TYPE_CDMA then
    { record with cdma := [cellInfoCdma r] }
  else if r.cellInfoType.toInt = RIL_CELL_INFO_TYPE_LTE then { record with lte := [cellInfoLte r] }
  else if r.cellInfoType.toInt = RIL_CELL_INFO_TYPE_TD_SCDMA then
    { record with tdscdma := [cellInfoTdscdma r] }
  else record

/-! ### Lists of cells -/

/-- The record that `rillCellInfo` points to in round `i`. -/
def rillCellInfo (response : Payload) (i : Nat) : Except Fault RIL_CellInfo_v12 := do
  let cellInfoType ← response.word (18 * i + 0)
  let registered ← response.word (18 * i + 1)
  let timeStampType ← response.word (18 * i + 2)
  let padding ← response.word (18 * i + 3)
  let timeStampLow ← response.word (18 * i + 4)
  let timeStampHigh ← response.word (18 * i + 5)
  let w₀ ← response.word (18 * i + 6)
  let w₁ ← response.word (18 * i + 7)
  let w₂ ← response.word (18 * i + 8)
  let w₃ ← response.word (18 * i + 9)
  let w₄ ← response.word (18 * i + 10)
  let w₅ ← response.word (18 * i + 11)
  let w₆ ← response.word (18 * i + 12)
  let w₇ ← response.word (18 * i + 13)
  let w₈ ← response.word (18 * i + 14)
  let w₉ ← response.word (18 * i + 15)
  let w₁₀ ← response.word (18 * i + 16)
  let w₁₁ ← response.word (18 * i + 17)
  return ⟨cellInfoType, registered, timeStampType, padding, timeStampLow, timeStampHigh,
    w₀, w₁, w₂, w₃, w₄, w₅, w₆, w₇, w₈, w₉, w₁₀, w₁₁⟩

def convertRilCellInfoListToHal (response : Payload) (responseLen : Nat) :
    Except Fault (List CellInfo) :=
  fill ((responseLen / sizeof RIL_CellInfo_v12 : Nat) : Int) fun i => do
    let cell ← rillCellInfo response i
    return toCellInfo cell

/-- The test that both callers make first. -/
def invalidList (response : Payload) : Bool :=
  (response.isNull && response.responseLen ≠ 0) ||
    response.responseLen % sizeof RIL_CellInfo_v12 ≠ 0

def getCellInfoListResponse (serial : Int) (responseType : Nat) (e : Int) (response : Payload) :
    Except Fault (Answer (List CellInfo)) :=
  let responseInfo := populateResponseInfo {} serial responseType e
  if invalidList response then .ok (responseInfo.invalid e, [])
  else do
    let ret ← convertRilCellInfoListToHal response response.responseLen
    return (responseInfo, ret)

/-- The call of `cellInfoList`, if it is made. -/
def cellInfoListInd (indicationType : Nat) (response : Payload) :
    Except Fault (Option (RadioIndicationType × List CellInfo)) :=
  if invalidList response then .ok none
  else do
    let records ← convertRilCellInfoListToHal response response.responseLen
    return some (convertIntToRadioIndicationType indicationType, records)

/-- `memory` says what a pointer to cells leads to. -/
def networkScanResultInd (memory : Word → Payload) (indicationType : Nat) (e : Int)
    (response : Payload) :
    Except Fault (Option (RadioIndicationType × Int × Int × List CellInfo)) :=
  if response.isNull ∨ response.responseLen = 0 then .ok none
  else do
    let status ← response.int 0
    let network_infos_length ← response.word 1
    let network_infos ← response.word 2
    let networkInfos ← convertRilCellInfoListToHal (memory network_infos)
      (network_infos_length * .ofNat 32 (sizeof RIL_CellInfo_v12)).toNat
    return some (convertIntToRadioIndicationType indicationType, status, e, networkInfos)

/-! ### What is passed on -/

/-- The vectors of a cell; the comment in the loop has all but one of them empty. -/
def CellInfo.vectors (c : CellInfo) : List Nat :=
  [c.gsm.length, c.wcdma.length, c.cdma.length, c.lte.length, c.tdscdma.length]

/-- The vectors that the type of a cell calls for. -/
def vectorsOf (cellInfoType : Int) : List Nat :=
  if cellInfoType = RIL_CELL_INFO_TYPE_GSM then [1, 0, 0, 0, 0]
  else if cellInfoType = RIL_CELL_INFO_TYPE_WCDMA then [0, 1, 0, 0, 0]
  else if cellInfoType = RIL_CELL_INFO_TYPE_CDMA then [0, 0, 1, 0, 0]
  else if cellInfoType = RIL_CELL_INFO_TYPE_LTE then [0, 0, 0, 1, 0]
  else if cellInfoType = RIL_CELL_INFO_TYPE_TD_SCDMA then [0, 0, 0, 0, 1]
  else [0, 0, 0, 0, 0]

/-- How much of the union a cell of this type uses, and whether its `bsic` is a byte. -/
def used (r : RIL_CellInfo_v12) : List Word :=
  if r.cellInfoType.toInt = RIL_CELL_INFO_TYPE_GSM then
    [r.w₀, r.w₁, r.w₂, r.w₃, r.w₄, (r.w₅.setWidth 8).setWidth 32, r.w₆, r.w₇, r.w₈]
  else if r.cellInfoType.toInt = RIL_CELL_INFO_TYPE_WCDMA then
    [r.w₀, r.w₁, r.w₂, r.w₃, r.w₄, r.w₅, r.w₆, r.w₇]
  else if r.cellInfoType.toInt = RIL_CELL_INFO_TYPE_CDMA then
    [r.w₀, r.w₁, r.w₂, r.w₃, r.w₄, r.w₅, r.w₆, r.w₇, r.w₈, r.w₉]
  else if r.cellInfoType.toInt = RIL_CELL_INFO_TYPE_LTE then
    [r.w₀, r.w₁, r.w₂, r.w₃, r.w₄, r.w₅, r.w₆, r.w₇, r.w₈, r.w₉, r.w₁₀, r.w₁₁]
  else if r.cellInfoType.toInt = RIL_CELL_INFO_TYPE_TD_SCDMA then
    [r.w₀, r.w₁, r.w₂, r.w₃, r.w₄, r.w₅]
  else []

/-- Two records that say the same about a cell. -/
structure Same (r r' : RIL_CellInfo_v12) : Prop where
  cellInfoType : r.cellInfoType = r'.cellInfoType
  registered : r.registered = 0 ↔ r'.registered = 0
  timeStampType : r.timeStampType = r'.timeStampType
  timeStampLow : r.timeStampLow = r'.timeStampLow
  timeStampHigh : r.timeStampHigh = r'.timeStampHigh
  used : used r = used r'

variable {r r' : RIL_CellInfo_v12} {l l' : List RIL_CellInfo_v12} {i k : Nat} {w w' : Word}

theorem to_string_inj : to_string w = to_string w' ↔ w = w' := by
  refine ⟨fun h => ?_, congrArg to_string⟩
  have hread := Decimal.read_toString w.toInt
  rw [show toString w.toInt = toString w'.toInt from h, Decimal.read_toString] at hread
  exact BitVec.eq_of_toInt_eq (Prod.mk.inj (Option.some.inj hread)).1.symm

theorem toCellInfo_cellInfoType : (toCellInfo r).cellInfoType = r.cellInfoType.toInt := by
  unfold toCellInfo
  split_ifs <;> rfl

theorem toCellInfo_registered : (toCellInfo r).registered = decide (r.registered ≠ 0) := by
  unfold toCellInfo
  split_ifs <;> rfl

theorem toCellInfo_timeStampType : (toCellInfo r).timeStampType = r.timeStampType.toInt := by
  unfold toCellInfo
  split_ifs <;> rfl

theorem toCellInfo_timeStamp : (toCellInfo r).timeStamp = r.timeStampHigh ++ r.timeStampLow := by
  unfold toCellInfo
  split_ifs <;> rfl

theorem cellInfoGsm_eq_iff : cellInfoGsm r = cellInfoGsm r' ↔
    [r.w₀, r.w₁, r.w₂, r.w₃, r.w₄, (r.w₅.setWidth 8).setWidth 32, r.w₆, r.w₇, r.w₈] =
    [r'.w₀, r'.w₁, r'.w₂, r'.w₃, r'.w₄, (r'.w₅.setWidth 8).setWidth 32, r'.w₆, r'.w₇, r'.w₈] := by
  have hbyte : (r.w₅.setWidth 8).setWidth 32 = (r'.w₅.setWidth 8).setWidth 32 ↔
      r.w₅.setWidth 8 = r'.w₅.setWidth 8 := by
    refine ⟨fun h => ?_, congrArg (BitVec.setWidth 32)⟩
    simpa using congrArg (BitVec.setWidth 8) h
  simp [cellInfoGsm, to_string_inj, BitVec.toInt_inj, hbyte, and_assoc]

theorem cellInfoWcdma_eq_iff : cellInfoWcdma r = cellInfoWcdma r' ↔
    [r.w₀, r.w₁, r.w₂, r.w₃, r.w₄, r.w₅, r.w₆, r.w₇] =
    [r'.w₀, r'.w₁, r'.w₂, r'.w₃, r'.w₄, r'.w₅, r'.w₆, r'.w₇] := by
  simp [cellInfoWcdma, to_string_inj, BitVec.toInt_inj, and_assoc]

theorem cellInfoCdma_eq_iff : cellInfoCdma r = cellInfoCdma r' ↔
    [r.w₀, r.w₁, r.w₂, r.w₃, r.w₄, r.w₅, r.w₆, r.w₇, r.w₈, r.w₉] =
    [r'.w₀, r'.w₁, r'.w₂, r'.w₃, r'.w₄, r'.w₅, r'.w₆, r'.w₇, r'.w₈, r'.w₉] := by
  simp [cellInfoCdma, BitVec.toInt_inj, and_assoc]

theorem cellInfoLte_eq_iff : cellInfoLte r = cellInfoLte r' ↔
    [r.w₀, r.w₁, r.w₂, r.w₃, r.w₄, r.w₅, r.w₆, r.w₇, r.w₈, r.w₉, r.w₁₀, r.w₁₁] =
    [r'.w₀, r'.w₁, r'.w₂, r'.w₃, r'.w₄, r'.w₅, r'.w₆, r'.w₇, r'.w₈, r'.w₉, r'.w₁₀, r'.w₁₁] := by
  simp [cellInfoLte, to_string_inj, BitVec.toInt_inj, and_assoc]

theorem cellInfoTdscdma_eq_iff : cellInfoTdscdma r = cellInfoTdscdma r' ↔
    [r.w₀, r.w₁, r.w₂, r.w₃, r.w₄, r.w₅] = [r'.w₀, r'.w₁, r'.w₂, r'.w₃, r'.w₄, r'.w₅] := by
  simp [cellInfoTdscdma, to_string_inj, BitVec.toInt_inj, and_assoc]

/-- The framework gets the same cell exactly if the vendor says the same about it. -/
theorem toCellInfo_eq_iff : toCellInfo r = toCellInfo r' ↔ Same r r' := by
  by_cases hhead : r.cellInfoType = r'.cellInfoType ∧ (r.registered = 0 ↔ r'.registered = 0) ∧
      r.timeStampType = r'.timeStampType ∧ r.timeStampLow = r'.timeStampLow ∧
      r.timeStampHigh = r'.timeStampHigh
  · obtain ⟨htype, hregistered, hstamp, hlow, hhigh⟩ := hhead
    have hsame : Same r r' ↔ used r = used r' :=
      ⟨Same.used, fun h => ⟨htype, hregistered, hstamp, hlow, hhigh, h⟩⟩
    have hwithout : withoutVectors r = withoutVectors r' := by
      simp only [withoutVectors, htype, hstamp, hlow, hhigh, ne_eq, hregistered]
    rw [hsame]
    unfold toCellInfo used
    rw [hwithout, htype]
    split_ifs
    · rw [← cellInfoGsm_eq_iff]
      simp
    · rw [← cellInfoWcdma_eq_iff]
      simp
    · rw [← cellInfoCdma_eq_iff]
      simp
    · rw [← cellInfoLte_eq_iff]
      simp
    · rw [← cellInfoTdscdma_eq_iff]
      simp
    · exact iff_of_true rfl rfl
  · refine iff_of_false (fun h => hhead ?_) fun h =>
      hhead ⟨h.cellInfoType, h.registered, h.timeStampType, h.timeStampLow, h.timeStampHigh⟩
    have htype := congrArg CellInfo.cellInfoType h
    have hregistered := congrArg CellInfo.registered h
    have hstamp := congrArg CellInfo.timeStampType h
    have htime := congrArg CellInfo.timeStamp h
    rw [toCellInfo_cellInfoType, toCellInfo_cellInfoType] at htype
    rw [toCellInfo_registered, toCellInfo_registered, decide_eq_decide] at hregistered
    rw [toCellInfo_timeStampType, toCellInfo_timeStampType] at hstamp
    rw [toCellInfo_timeStamp, toCellInfo_timeStamp] at htime
    have hhigh := congrArg (BitVec.extractLsb' 32 32) htime
    have hlow := congrArg (BitVec.extractLsb' 0 32) htime
    rw [BitVec.extractLsb'_append_eq_left, BitVec.extractLsb'_append_eq_left] at hhigh
    rw [BitVec.extractLsb'_append_eq_right, BitVec.extractLsb'_append_eq_right] at hlow
    exact ⟨BitVec.eq_of_toInt_eq htype, not_iff_not.mp hregistered, BitVec.eq_of_toInt_eq hstamp,
      hlow, hhigh⟩

theorem toCellInfo_vectors : (toCellInfo r).vectors = vectorsOf r.cellInfoType.toInt := by
  unfold toCellInfo vectorsOf
  split_ifs <;> rfl

theorem map_toCellInfo_eq_iff :
    l.map toCellInfo = l'.map toCellInfo ↔ List.Forall₂ Same l l' := by
  rw [← List.forall₂_eq_eq_eq, List.forall₂_map_left_iff, List.forall₂_map_right_iff]
  simp only [toCellInfo_eq_iff]

/-! ### Lists -/

theorem word_cell (hr : l[i]? = some r) (hw : (words r)[k]? = some w) :
    (Payload.block (bytesOf (array l))).word (18 * i + k) = .ok w := by
  obtain ⟨hk, -⟩ := List.getElem?_eq_some_iff.mp hw
  rw [length_words] at hk
  apply Payload.word_ok
  rw [show 18 = size RIL_CellInfo_v12 from rfl, getElem?_array hk, hr]
  exact hw

theorem rillCellInfo_ok (hr : l[i]? = some r) :
    rillCellInfo (.block (bytesOf (array l))) i = .ok r := by
  have h : ∀ k w, (words r)[k]? = some w →
      (Payload.block (bytesOf (array l))).word (18 * i + k) = .ok w := fun k w => word_cell hr
  simp only [rillCellInfo, h 0 _ rfl, h 1 _ rfl, h 2 _ rfl, h 3 _ rfl, h 4 _ rfl, h 5 _ rfl,
    h 6 _ rfl, h 7 _ rfl, h 8 _ rfl, h 9 _ rfl, h 10 _ rfl, h 11 _ rfl, h 12 _ rfl, h 13 _ rfl,
    h 14 _ rfl, h 15 _ rfl, h 16 _ rfl, h 17 _ rfl]
  rfl

theorem length_cells : (bytesOf (array l)).length = sizeof RIL_CellInfo_v12 * l.length := by
  rw [length_bytesOf, length_array, sizeof, Nat.mul_assoc]

theorem sizeof_cell : sizeof RIL_CellInfo_v12 = 72 := rfl

theorem convertRilCellInfoListToHal_ok :
    convertRilCellInfoListToHal (.block (bytesOf (array l)))
      (sizeof RIL_CellInfo_v12 * l.length) = .ok (l.map toCellInfo) := by
  have hnum : sizeof RIL_CellInfo_v12 * l.length / sizeof RIL_CellInfo_v12 = l.length :=
    Nat.mul_div_cancel_left _ (by rw [sizeof_cell]; omega)
  rw [convertRilCellInfoListToHal, hnum]
  have hfill := fill_ok (m := (l.length : Int)) (l := l) (g := toCellInfo)
    (f := fun i => do
      let cell ← rillCellInfo (.block (bytesOf (array l))) i
      return toCellInfo cell) (fun i r hr => by rw [rillCellInfo_ok hr]; rfl) (by omega) (by omega)
  simpa using hfill

/-- The payload is a list of cells. -/
def ListOf (response : Payload) (l : List RIL_CellInfo_v12) : Prop :=
  response = .null 0 ∧ l = [] ∨ response = .block (bytesOf (array l))

theorem convertRilCellInfoListToHal_list {response : Payload} (h : ListOf response l) :
    invalidList response = false ∧
      convertRilCellInfoListToHal response response.responseLen = .ok (l.map toCellInfo) := by
  rcases h with ⟨rfl, rfl⟩ | rfl
  · exact ⟨rfl, rfl⟩
  · have hlen : (Payload.block (bytesOf (array l))).responseLen =
        sizeof RIL_CellInfo_v12 * l.length := length_cells
    refine ⟨?_, ?_⟩
    · simp [invalidList, hlen, Payload.isNull]
    · rw [hlen]
      exact convertRilCellInfoListToHal_ok

/-- The result of a scan with its cells, as long as their size in bytes is a number of 32 bits. -/
theorem networkScanResultInd_list {memory : Word → Payload} (indicationType : Nat) (e : Int)
    {result : RIL_NetworkScanResult} (h : ListOf (memory result.network_infos) l)
    (hlen : result.network_infos_length.toNat = l.length)
    (hsize : sizeof RIL_CellInfo_v12 * l.length < 4294967296) :
    networkScanResultInd memory indicationType e (.block (bytes result)) =
      .ok (some (convertIntToRadioIndicationType indicationType, result.status.toInt, e,
        l.map toCellInfo)) := by
  have hwords : ∀ k w, (words result)[k]? = some w →
      (Payload.block (bytes result)).word k = .ok w := fun k w => Payload.word_ok
  have hbytes : (result.network_infos_length * .ofNat 32 (sizeof RIL_CellInfo_v12)).toNat =
      (memory result.network_infos).responseLen := by
    have hresponse : (memory result.network_infos).responseLen =
        sizeof RIL_CellInfo_v12 * l.length := by
      rcases h with ⟨hnull, rfl⟩ | hblock
      · rw [hnull]
        rfl
      · rw [hblock]
        exact length_cells
    rw [BitVec.toNat_mul, hlen, hresponse, BitVec.toNat_ofNat, sizeof_cell] at *
    omega
  have hne : ¬((Payload.block (bytes result)).isNull = true ∨
      (Payload.block (bytes result)).responseLen = 0) := by
    simp [Payload.isNull, Payload.responseLen, length_bytes, sizeof, size]
  simp only [networkScanResultInd, if_neg hne, Payload.int, hwords 0 _ rfl, hwords 1 _ rfl,
    hwords 2 _ rfl]
  change (convertRilCellInfoListToHal _ _ >>= _) = _
  rw [hbytes, (convertRilCellInfoListToHal_list h).2]
  rfl

theorem invalidList_of_not_list {response : Payload} (h : ∀ l, ¬ListOf response l) :
    invalidList response = true := by
  rcases response with n | b
  · have hn : n ≠ 0 := by
      rintro rfl
      exact h [] (.inl ⟨rfl, rfl⟩)
    simp [invalidList, Payload.isNull, Payload.responseLen, hn]
  · by_cases hdvd : b.length % sizeof RIL_CellInfo_v12 = 0
    · obtain ⟨m, hm⟩ := Nat.dvd_of_mod_eq_zero hdvd
      obtain ⟨ws, hws, rfl⟩ := exists_bytesOf (b := b) (n := 18 * m) (by
        rw [hm, sizeof_cell]
        omega)
      obtain ⟨l, -, rfl⟩ := exists_array (S := RIL_CellInfo_v12) hws
      exact absurd (.inr rfl) (h l)
    · simp [invalidList, Payload.isNull, Payload.responseLen, hdvd]

end Apq8084.Ril.Payloads
