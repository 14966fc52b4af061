import Apq8084.Lib.BoundedCopy

/-! The satellite reports of the legacy HAL, and what `gnss/Gnss.cpp` makes of them. -/
namespace Apq8084.Gnss

def GPS_MAX_SVS : Nat := 32
def GNSS_MAX_SVS : Nat := 64

/-- `GnssMax::SVS_COUNT`. -/
def SVS_COUNT : UInt32 := 64

/-- The other constants of the headers that are generated from the HIDL interface. -/
structure Hidl where
  UNKNOWN : UInt8
  GPS : UInt8
  SBAS : UInt8
  GLONASS : UInt8
  QZSS : UInt8
  BEIDOU : UInt8
  NONE : UInt8
  HAS_EPHEMERIS_DATA : UInt8
  HAS_ALMANAC_DATA : UInt8
  USED_IN_FIX : UInt8
  HAS_CARRIER_FREQUENCY : UInt8
  STATE_TOW_DECODED : UInt32
  STATE_TOW_KNOWN : UInt32
  STATE_GLO_TOD_DECODED : UInt32
  STATE_GLO_TOD_KNOWN : UInt32
  GNSS_MEASUREMENT_HAS_SNR : UInt32
  GNSS_MEASUREMENT_HAS_CARRIER_FREQUENCY : UInt32
  GNSS_MEASUREMENT_HAS_CARRIER_PHASE : UInt32
  GNSS_MEASUREMENT_HAS_CARRIER_PHASE_UNCERTAINTY : UInt32

structure GpsSvInfo where
  prn : Int32
  snr : Float32
  elevation : Float32
  azimuth : Float32

/-- Behind its `GPS_MAX_SVS` entries `sv_list` says what the memory holds there. -/
structure GpsSvStatus where
  num_svs : Int32
  sv_list : Nat → GpsSvInfo
  ephemeris_mask : UInt32
  almanac_mask : UInt32
  used_in_fix_mask : UInt32

/-- `GnssSvInfo` of `gps.h`. -/
structure LegacyGnssSvInfo where
  svid : Int16
  constellation : UInt8
  c_n0_dbhz : Float32
  elevation : Float32
  azimuth : Float32
  flags : UInt8

structure LegacyGnssSvStatus where
  num_svs : Int32
  gnss_sv_list : Nat → LegacyGnssSvInfo

/-- `IGnssCallback::GnssSvInfo`. -/
structure GnssSvInfo where
  svid : Int16
  constellation : UInt8
  cN0Dbhz : Float32
  elevationDegrees : Float32
  azimuthDegrees : Float32
  svFlag : UInt8
  /-- `none` where nothing is assigned. -/
  carrierFrequencyHz : Option Float32

/-- What is passed to the callback. -/
structure GnssSvStatus where
  numSvs : UInt32
  gnssSvList : BoundedCopy GnssSvInfo

/-- A count of the legacy HAL becomes unsigned and is cut to `SVS_COUNT`. -/
def clampSvs (num_svs : Int32) : UInt32 :=
  let numSvs := num_svs.toUInt32
  if SVS_COUNT < numSvs then SVS_COUNT else numSvs

def convertGnssSv (hidl : Hidl) (svInfo : LegacyGnssSvInfo) : GnssSvInfo :=
  { svid := svInfo.svid
    constellation := svInfo.constellation
    cN0Dbhz := svInfo.c_n0_dbhz
    elevationDegrees := svInfo.elevation
    azimuthDegrees := svInfo.azimuth
    svFlag := svInfo.flags &&& ~~~hidl.HAS_CARRIER_FREQUENCY
    carrierFrequencyHz := some 0 }

/-- Nothing is passed on without a callback or a status. -/
def gnssSvStatusCb (hidl : Hidl) (sGnssCbIface : Bool) (status : Option LegacyGnssSvStatus) :
    Option GnssSvStatus :=
  if sGnssCbIface then
    status.map fun status =>
      let numSvs := clampSvs status.num_svs
      { numSvs := numSvs
        gnssSvList := BoundedCopy.copy (convertGnssSv hidl) status.gnss_sv_list numSvs.toNat }
  else none

def GLONASS_SVID_OFFSET : Int16 := 64
def GLONASS_SVID_COUNT : Int16 := 24
def BEIDOU_SVID_OFFSET : Int16 := 200
def BEIDOU_SVID_COUNT : Int16 := 35
def SBAS_SVID_MIN : Int16 := 33
def SBAS_SVID_MAX : Int16 := 64
def SBAS_SVID_ADD : Int16 := 87
def QZSS_SVID_MIN : Int16 := 193
def QZSS_SVID_MAX : Int16 := 200

/-- The constellation that the number of a satellite stands for, and its number in it. -/
def constellationOf (hidl : Hidl) (svid : Int16) : UInt8 × Int16 :=
  if 1 ≤ svid ∧ svid ≤ 32 then (hidl.GPS, svid)
  else if GLONASS_SVID_OFFSET < svid ∧ svid ≤ GLONASS_SVID_OFFSET + GLONASS_SVID_COUNT then
    (hidl.GLONASS, svid - GLONASS_SVID_OFFSET)
  else if BEIDOU_SVID_OFFSET < svid ∧ svid ≤ BEIDOU_SVID_OFFSET + BEIDOU_SVID_COUNT then
    (hidl.BEIDOU, svid - BEIDOU_SVID_OFFSET)
  else if SBAS_SVID_MIN ≤ svid ∧ svid ≤ SBAS_SVID_MAX then (hidl.SBAS, svid + SBAS_SVID_ADD)
  else if QZSS_SVID_MIN ≤ svid ∧ svid ≤ QZSS_SVID_MAX then (hidl.QZSS, svid)
  else (hidl.UNKNOWN, svid)

/-- The flags of a GPS satellite, from the bits of the masks that its number stands for. -/
def svFlags (hidl : Hidl) (status : GpsSvStatus) (svid : Int16) : UInt8 :=
  let svidMask : UInt32 := 1 <<< UInt32.ofNat (svid - 1).toNatClampNeg
  let svFlag := hidl.NONE
  let svFlag := if status.ephemeris_mask &&& svidMask ≠ 0 then svFlag ||| hidl.HAS_EPHEMERIS_DATA
    else svFlag
  let svFlag := if status.almanac_mask &&& svidMask ≠ 0 then svFlag ||| hidl.HAS_ALMANAC_DATA
    else svFlag
  if status.used_in_fix_mask &&& svidMask ≠ 0 then svFlag ||| hidl.USED_IN_FIX else svFlag

def convertGpsSv (hidl : Hidl) (status : GpsSvStatus) (sv : GpsSvInfo) : GnssSvInfo :=
  let (constellation, svid) := constellationOf hidl sv.prn.toInt16
  { svid := svid
    constellation := constellation
    cN0Dbhz := sv.snr
    elevationDegrees := sv.elevation
    azimuthDegrees := sv.azimuth
    svFlag := if constellation = hidl.GPS then svFlags hidl status svid else hidl.NONE
    carrierFrequencyHz := none }

def gpsSvStatusCb (hidl : Hidl) (sGnssCbIface : Bool) (svInfo : Option GpsSvStatus) :
    Option GnssSvStatus :=
  if sGnssCbIface then
    svInfo.map fun svInfo =>
      let numSvs := clampSvs svInfo.num_svs
      { numSvs := numSvs
        gnssSvList := BoundedCopy.copy (convertGpsSv hidl svInfo) svInfo.sv_list numSvs.toNat }
  else none

/-! ### The counts -/

theorem toNat_clampSvs_le (num_svs : Int32) : (clampSvs num_svs).toNat ≤ SVS_COUNT.toNat := by
  simp only [clampSvs]
  split_ifs with h
  · exact Nat.le_refl _
  · exact UInt32.le_iff_toNat_le.mp (UInt32.not_lt.mp h)

/-- The cast of a negative number to `uint32_t`. -/
theorem toInt_eq_toNat (i : Int32) : i.toInt =
    if i.toUInt32.toNat < 2147483648 then (i.toUInt32.toNat : Int)
    else (i.toUInt32.toNat : Int) - 4294967296 := by
  have h : i.toInt = if 2 * i.toUInt32.toNat < 4294967296 then (i.toUInt32.toNat : Int)
      else (i.toUInt32.toNat : Int) - 4294967296 := BitVec.toInt_eq_toNat_cond i.toBitVec
  rw [h]
  have hdouble : 2 * i.toUInt32.toNat < 4294967296 ↔ i.toUInt32.toNat < 2147483648 := by omega
  simp only [hdouble]

/-- A count that is negative or too large for the legacy list is cut to more than the list holds. -/
theorem toNat_clampSvs_le_gps (num_svs : Int32) :
    (clampSvs num_svs).toNat ≤ GPS_MAX_SVS ↔ 0 ≤ num_svs ∧ num_svs ≤ 32 := by
  have hclamp : (clampSvs num_svs).toNat ≤ 32 ↔ num_svs.toUInt32.toNat ≤ 32 := by
    simp only [clampSvs]
    split_ifs with h
    · have hlt : 64 < num_svs.toUInt32.toNat := UInt32.lt_iff_toNat_lt.mp h
      exact iff_of_false (by decide) (by omega)
    · exact Iff.rfl
  have hlo : (0 : Int32).toInt = 0 := rfl
  have hhi : (32 : Int32).toInt = 32 := rfl
  have hlt := num_svs.toUInt32.toNat_lt
  rw [Int32.le_iff_toInt_le, Int32.le_iff_toInt_le, hlo, hhi, GPS_MAX_SVS, hclamp, toInt_eq_toNat]
  split_ifs with h <;> omega

/-! ### The bounds -/

variable {hidl : Hidl} {sGnssCbIface : Bool} {svInfo : Option GpsSvStatus}
  {status : Option LegacyGnssSvStatus}

/-- A report that is passed on read the legacy list within its bound, wrote `gnssSvList` within its
own, and carries the number of entries converted. -/
def SvsWithin (readBound : Nat) (report : Option GnssSvStatus) : Prop :=
  ∀ svStatus, report = some svStatus →
    svStatus.gnssSvList.Within readBound SVS_COUNT.toNat svStatus.numSvs.toNat

theorem gnssSvStatusCb_within :
    SvsWithin GNSS_MAX_SVS (gnssSvStatusCb hidl sGnssCbIface status) := by
  intro svStatus h
  rw [gnssSvStatusCb, Option.ite_none_right_eq_some] at h
  obtain ⟨legacy, -, rfl⟩ := Option.map_eq_some_iff.mp h.2
  have hle := toNat_clampSvs_le legacy.num_svs
  exact (BoundedCopy.within_copy _).mpr ⟨hle, hle⟩

theorem gpsSvStatusCb_within : SvsWithin GPS_MAX_SVS (gpsSvStatusCb hidl sGnssCbIface svInfo) ↔
    (sGnssCbIface = true → ∀ legacy, svInfo = some legacy →
      0 ≤ legacy.num_svs ∧ legacy.num_svs ≤ 32) := by
  constructor
  · intro h hiface legacy hlegacy
    have hwithin := h _ (by rw [gpsSvStatusCb, if_pos hiface, hlegacy]; rfl)
    rw [BoundedCopy.within_copy] at hwithin
    exact (toNat_clampSvs_le_gps legacy.num_svs).mp hwithin.1
  · intro h svStatus hreport
    rw [gpsSvStatusCb, Option.ite_none_right_eq_some] at hreport
    obtain ⟨hiface, hreport⟩ := hreport
    obtain ⟨legacy, hlegacy, rfl⟩ := Option.map_eq_some_iff.mp hreport
    apply (BoundedCopy.within_copy _).mpr
    exact ⟨(toNat_clampSvs_le_gps _).mpr (h hiface legacy hlegacy), toNat_clampSvs_le _⟩

end Apq8084.Gnss
