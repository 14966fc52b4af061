import Apq8084.Gnss.SvStatus

/-! The measurement reports of the legacy HAL, and what `gnss/GnssMeasurement.cpp` makes of them. -/
namespace Apq8084.Gnss

def GPS_MAX_MEASUREMENT : Nat := 32
def GNSS_MAX_MEASUREMENT : Nat := 64

def GPS_CLOCK_HAS_FULL_BIAS : UInt16 := 4
def GPS_CLOCK_TYPE_UNKNOWN : UInt8 := 0
def GPS_CLOCK_TYPE_LOCAL_HW_TIME : UInt8 := 1
def GPS_CLOCK_TYPE_GPS_TIME : UInt8 := 2

/-- The fields of `GpsMeasurement` that are read. -/
structure GpsMeasurement where
  flags : UInt32
  prn : Int8
  time_offset_ns : Float
  state : UInt16
  received_gps_tow_ns : Int64
  received_gps_tow_uncertainty_ns : Int64
  c_n0_dbhz : Float
  pseudorange_rate_mps : Float
  pseudorange_rate_uncertainty_mps : Float
  accumulated_delta_range_state : UInt16
  accumulated_delta_range_m : Float
  accumulated_delta_range_uncertainty_m : Float
  carrier_frequency_hz : Float32
  carrier_phase : Float
  carrier_phase_uncertainty : Float
  multipath_indicator : UInt8
  snr_db : Float

structure GpsClock where
  flags : UInt16
  leap_second : Int16
  type : UInt8
  time_ns : Int64
  time_uncertainty_ns : Float
  full_bias_ns : Int64
  bias_ns : Float
  bias_uncertainty_ns : Float
  drift_nsps : Float
  drift_uncertainty_nsps : Float

/-- `measurement_count` is a `size_t` of any width. -/
structure GpsData where
  measurement_count : Nat
  measurements : Nat → GpsMeasurement
  clock : GpsClock

/-- `GnssMeasurement` of `gps.h`. -/
structure LegacyGnssMeasurement where
  flags : UInt32
  svid : Int16
  constellation : UInt8
  time_offset_ns : Float
  state : UInt32
  received_sv_time_in_ns : Int64
  received_sv_time_uncertainty_in_ns : Int64
  c_n0_dbhz : Float
  pseudorange_rate_mps : Float
  pseudorange_rate_uncertainty_mps : Float
  accumulated_delta_range_state : UInt16
  accumulated_delta_range_m : Float
  accumulated_delta_range_uncertainty_m : Float
  carrier_frequency_hz : Float32
  carrier_cycles : Int64
  carrier_phase : Float
  carrier_phase_uncertainty : Float
  multipath_indicator : UInt8
  snr_db : Float

/-- `GnssClock` of `gps.h`. -/
structure LegacyGnssClock where
  flags : UInt16
  leap_second : Int16
  time_ns : Int64
  time_uncertainty_ns : Float
  full_bias_ns : Int64
  bias_ns : Float
  bias_uncertainty_ns : Float
  drift_nsps : Float
  drift_uncertainty_nsps : Float
  hw_clock_discontinuity_count : UInt32

structure LegacyGnssData where
  measurement_count : Nat
  measurements : Nat → LegacyGnssMeasurement
  clock : LegacyGnssClock

/-- `IGnssMeasurementCallback::GnssMeasurement`. -/
structure GnssMeasurement where
  flags : UInt32
  svid : Int16
  constellation : UInt8
  timeOffsetNs : Float
  state : UInt32
  receivedSvTimeInNs : Int64
  receivedSvTimeUncertaintyInNs : Int64
  cN0DbHz : Float
  pseudorangeRateMps : Float
  pseudorangeRateUncertaintyMps : Float
  accumulatedDeltaRangeState : UInt16
  accumulatedDeltaRangeM : Float
  accumulatedDeltaRangeUncertaintyM : Float
  carrierFrequencyHz : Float32
  /-- `none` where nothing is assigned. -/
  carrierCycles : Option Int64
  carrierPhase : Float
  carrierPhaseUncertainty : Float
  multipathIndicator : UInt8
  snrDb : Float

/-- `IGnssMeasurementCallback::GnssClock`. -/
structure GnssClock where
  gnssClockFlags : UInt16
  leapSecond : Int16
  timeNs : Int64
  timeUncertaintyNs : Float
  fullBiasNs : Int64
  biasNs : Float
  biasUncertaintyNs : Float
  driftNsps : Float
  driftUncertaintyNsps : Float
  /-- `none` where nothing is assigned; every other field is always assigned. -/
  hwClockDiscontinuityCount : Option UInt32

/-- What is passed to the callback. -/
structure GnssData where
  measurementCount : UInt32
  measurements : BoundedCopy GnssMeasurement
  clock : GnssClock

/-- `std::min` with `SVS_COUNT`, as an `uint32_t`. -/
def clampMeasurements (measurement_count : Nat) : UInt32 :=
  UInt32.ofNat (if SVS_COUNT.toNat < measurement_count then SVS_COUNT.toNat else measurement_count)

def convertGnssMeasurement (hidl : Hidl) (entry : LegacyGnssMeasurement) : GnssMeasurement :=
  let state := entry.state
  let state :=
    if state &&& hidl.STATE_TOW_DECODED ≠ 0 then state ||| hidl.STATE_TOW_KNOWN else state
  let state :=
    if state &&& hidl.STATE_GLO_TOD_DECODED ≠ 0 then state ||| hidl.STATE_GLO_TOD_KNOWN else state
  { flags := entry.flags
    svid := entry.svid
    constellation := entry.constellation
    timeOffsetNs := entry.time_offset_ns
    state := state
    receivedSvTimeInNs := entry.received_sv_time_in_ns
    receivedSvTimeUncertaintyInNs := entry.received_sv_time_uncertainty_in_ns
    cN0DbHz := entry.c_n0_dbhz
    pseudorangeRateMps := entry.pseudorange_rate_mps
    pseudorangeRateUncertaintyMps := entry.pseudorange_rate_uncertainty_mps
    accumulatedDeltaRangeState := entry.accumulated_delta_range_state
    accumulatedDeltaRangeM := entry.accumulated_delta_range_m
    accumulatedDeltaRangeUncertaintyM := entry.accumulated_delta_range_uncertainty_m
    carrierFrequencyHz := entry.carrier_frequency_hz
    carrierCycles := some entry.carrier_cycles
    carrierPhase := entry.carrier_phase
    carrierPhaseUncertainty := entry.carrier_phase_uncertainty
    multipathIndicator := entry.multipath_indicator
    snrDb := entry.snr_db }

def convertGnssClock (clockVal : LegacyGnssClock) : GnssClock :=
  { gnssClockFlags := clockVal.flags
    leapSecond := clockVal.leap_second
    timeNs := clockVal.time_ns
    timeUncertaintyNs := clockVal.time_uncertainty_ns
    fullBiasNs := clockVal.full_bias_ns
    biasNs := clockVal.bias_ns
    biasUncertaintyNs := clockVal.bias_uncertainty_ns
    driftNsps := clockVal.drift_nsps
    driftUncertaintyNsps := clockVal.drift_uncertainty_nsps
    hwClockDiscontinuityCount := some clockVal.hw_clock_discontinuity_count }

def gnssMeasurementCb (hidl : Hidl) (sGnssMeasureCbIface : Bool)
    (legacyGnssData : Option LegacyGnssData) : Option GnssData :=
  if sGnssMeasureCbIface then
    legacyGnssData.map fun legacyGnssData =>
      let measurementCount := clampMeasurements legacyGnssData.measurement_count
      { measurementCount := measurementCount
        measurements := BoundedCopy.copy (convertGnssMeasurement hidl) legacyGnssData.measurements
          measurementCount.toNat
        clock := convertGnssClock legacyGnssData.clock }
  else none

def convertGpsMeasurement (hidl : Hidl) (entry : GpsMeasurement) : GnssMeasurement :=
  { flags := entry.flags
    svid := entry.prn.toInt16
    constellation := if 1 ≤ entry.prn ∧ entry.prn ≤ 32 then hidl.GPS else hidl.UNKNOWN
    timeOffsetNs := entry.time_offset_ns
    state := entry.state.toUInt32
    receivedSvTimeInNs := entry.received_gps_tow_ns
    receivedSvTimeUncertaintyInNs := entry.received_gps_tow_uncertainty_ns
    cN0DbHz := entry.c_n0_dbhz
    pseudorangeRateMps := entry.pseudorange_rate_mps
    pseudorangeRateUncertaintyMps := entry.pseudorange_rate_uncertainty_mps
    accumulatedDeltaRangeState := entry.accumulated_delta_range_state
    accumulatedDeltaRangeM := entry.accumulated_delta_range_m
    accumulatedDeltaRangeUncertaintyM := entry.accumulated_delta_range_uncertainty_m
    carrierFrequencyHz :=
      if entry.flags &&& hidl.GNSS_MEASUREMENT_HAS_CARRIER_FREQUENCY ≠ 0 then
        entry.carrier_frequency_hz
      else 0
    carrierCycles := none
    carrierPhase :=
      if entry.flags &&& hidl.GNSS_MEASUREMENT_HAS_CARRIER_PHASE ≠ 0 then entry.carrier_phase else 0
    carrierPhaseUncertainty :=
      if entry.flags &&& hidl.GNSS_MEASUREMENT_HAS_CARRIER_PHASE_UNCERTAINTY ≠ 0 then
        entry.carrier_phase_uncertainty
      else 0
    multipathIndicator := entry.multipath_indicator
    snrDb := if entry.flags &&& hidl.GNSS_MEASUREMENT_HAS_SNR ≠ 0 then entry.snr_db else 0 }

/-- The `switch` over the type: the clock as it is read from then on, the count of discontinuities
if one is assigned, and the static variable. -/
def handleClockType (clockVal : GpsClock) (discontinuity_count : UInt32) :
    GpsClock × Option UInt32 × UInt32 :=
  if clockVal.type = GPS_CLOCK_TYPE_GPS_TIME then
    ({ clockVal with
        flags := clockVal.flags ||| GPS_CLOCK_HAS_FULL_BIAS
        full_bias_ns := clockVal.time_ns
        time_ns := 0 },
      some discontinuity_count, discontinuity_count + 1)
  else (clockVal, none, discontinuity_count)

/-- The signs of the two biases are flipped; the negation wraps around. -/
def convertGpsClock (clockVal : GpsClock) (hwClockDiscontinuityCount : Option UInt32) : GnssClock :=
  { gnssClockFlags := clockVal.flags
    leapSecond := clockVal.leap_second
    timeNs := clockVal.time_ns
    timeUncertaintyNs := clockVal.time_uncertainty_ns
    fullBiasNs := -clockVal.full_bias_ns
    biasNs := -clockVal.bias_ns
    biasUncertaintyNs := clockVal.bias_uncertainty_ns
    driftNsps := clockVal.drift_nsps
    driftUncertaintyNsps := clockVal.drift_uncertainty_nsps
    hwClockDiscontinuityCount := hwClockDiscontinuityCount }

/-- What is passed on, and `discontinuity_count_to_handle_old_clock_type` after the call. -/
def gpsMeasurementCb (hidl : Hidl) (sGnssMeasureCbIface : Bool) (gpsData : Option GpsData)
    (discontinuity_count : UInt32) : Option GnssData × UInt32 :=
  if sGnssMeasureCbIface then
    match gpsData with
    | none => (none, discontinuity_count)
    | some gpsData =>
      let measurementCount := clampMeasurements gpsData.measurement_count
      let (clockVal, hwCount, discontinuity_count) :=
        handleClockType gpsData.clock discontinuity_count
      (some
        { measurementCount := measurementCount
          measurements := BoundedCopy.copy (convertGpsMeasurement hidl) gpsData.measurements
            measurementCount.toNat
          clock := convertGpsClock clockVal hwCount },
        discontinuity_count)
  else (none, discontinuity_count)

/-! ### The bounds -/

variable {hidl : Hidl} {sGnssMeasureCbIface : Bool} {gpsData : Option GpsData}
  {legacyGnssData : Option LegacyGnssData} {discontinuity_count : UInt32}

theorem toNat_clampMeasurements (measurement_count : Nat) :
    (clampMeasurements measurement_count).toNat =
      if 64 < measurement_count then 64 else measurement_count := by
  have hcount : SVS_COUNT.toNat = 64 := rfl
  have hsize : UInt32.size = 4294967296 := rfl
  unfold clampMeasurements
  rw [hcount, UInt32.toNat_ofNat_of_lt']
  split_ifs <;> omega

/-- The same of the measurements. -/
def MeasurementsWithin (readBound : Nat) (report : Option GnssData) : Prop :=
  ∀ gnssData, report = some gnssData →
    gnssData.measurements.Within readBound SVS_COUNT.toNat gnssData.measurementCount.toNat

theorem gnssMeasurementCb_within : MeasurementsWithin GNSS_MAX_MEASUREMENT
    (gnssMeasurementCb hidl sGnssMeasureCbIface legacyGnssData) := by
  intro gnssData h
  rw [gnssMeasurementCb, Option.ite_none_right_eq_some] at h
  obtain ⟨legacy, -, rfl⟩ := Option.map_eq_some_iff.mp h.2
  have hle : (clampMeasurements legacy.measurement_count).toNat ≤ 64 := by
    rw [toNat_clampMeasurements]
    split_ifs <;> omega
  exact (BoundedCopy.within_copy _).mpr ⟨hle, hle⟩

theorem gpsMeasurementCb_within : MeasurementsWithin GPS_MAX_MEASUREMENT
      (gpsMeasurementCb hidl sGnssMeasureCbIface gpsData discontinuity_count).1 ↔
    (sGnssMeasureCbIface = true → ∀ legacy, gpsData = some legacy →
      legacy.measurement_count ≤ 32) := by
  have hclamp : ∀ count, (clampMeasurements count).toNat ≤ 32 ↔ count ≤ 32 := by
    intro count
    rw [toNat_clampMeasurements]
    split_ifs <;> omega
  cases sGnssMeasureCbIface with
  | false => exact iff_of_true (fun gnssData h => by cases h) fun h => by cases h
  | true =>
    cases gpsData with
    | none => exact iff_of_true (fun gnssData h => by cases h) fun _ legacy h => by cases h
    | some legacy =>
      constructor
      · rintro h - legacy' hlegacy
        cases hlegacy
        have hwithin := (BoundedCopy.within_copy _).mp (h _ rfl)
        exact (hclamp _).mp hwithin.1
      · intro h gnssData hreport
        cases hreport
        have hle := (hclamp _).mpr (h rfl legacy rfl)
        exact (BoundedCopy.within_copy _).mpr ⟨hle, Nat.le_trans hle (by decide)⟩

/-- Of the four converters two stay within their lists whatever is reported; the two of the
structures with 32 entries do so exactly when no more than 32 are reported. -/
theorem reports_within (hidl : Hidl) (sGnssCbIface sGnssMeasureCbIface : Bool)
    (svInfo : Option GpsSvStatus) (status : Option LegacyGnssSvStatus) (gpsData : Option GpsData)
    (legacyGnssData : Option LegacyGnssData) (discontinuity_count : UInt32) :
    (SvsWithin GPS_MAX_SVS (gpsSvStatusCb hidl sGnssCbIface svInfo) ↔
      (sGnssCbIface = true → ∀ legacy, svInfo = some legacy →
        0 ≤ legacy.num_svs ∧ legacy.num_svs ≤ 32)) ∧
    SvsWithin GNSS_MAX_SVS (gnssSvStatusCb hidl sGnssCbIface status) ∧
    (MeasurementsWithin GPS_MAX_MEASUREMENT
        (gpsMeasurementCb hidl sGnssMeasureCbIface gpsData discontinuity_count).1 ↔
      (sGnssMeasureCbIface = true → ∀ legacy, gpsData = some legacy →
        legacy.measurement_count ≤ 32)) ∧
    MeasurementsWithin GNSS_MAX_MEASUREMENT
      (gnssMeasurementCb hidl sGnssMeasureCbIface legacyGnssData) :=
  ⟨gpsSvStatusCb_within, gnssSvStatusCb_within, gpsMeasurementCb_within, gnssMeasurementCb_within⟩

/-- The values in the generated headers. -/
def Hidl.generated : Hidl :=
  { UNKNOWN := 0, GPS := 1, SBAS := 2, GLONASS := 3, QZSS := 4, BEIDOU := 5
    NONE := 0, HAS_EPHEMERIS_DATA := 1, HAS_ALMANAC_DATA := 2, USED_IN_FIX := 4
    HAS_CARRIER_FREQUENCY := 8
    STATE_TOW_DECODED := 8, STATE_TOW_KNOWN := 16384
    STATE_GLO_TOD_DECODED := 128, STATE_GLO_TOD_KNOWN := 32768
    GNSS_MEASUREMENT_HAS_SNR := 1, GNSS_MEASUREMENT_HAS_CARRIER_FREQUENCY := 512
    GNSS_MEASUREMENT_HAS_CARRIER_PHASE := 2048
    GNSS_MEASUREMENT_HAS_CARRIER_PHASE_UNCERTAINTY := 4096 }

/-- A report of minus one satellites. -/
def minusOneSvs : GpsSvStatus :=
  { num_svs := -1, sv_list := fun _ => { prn := 1, snr := 0, elevation := 0, azimuth := 0 }
    ephemeris_mask := 0, almanac_mask := 0, used_in_fix_mask := 0 }

def gpsTimeZero : GpsClock :=
  { flags := 0, leap_second := 0, type := GPS_CLOCK_TYPE_GPS_TIME, time_ns := 0
    time_uncertainty_ns := 0, full_bias_ns := 0, bias_ns := 0, bias_uncertainty_ns := 0
    drift_nsps := 0, drift_uncertainty_nsps := 0 }

/-- A report of one measurement more than the list holds. -/
def manyMeasurements : GpsData :=
  { measurement_count := 33
    measurements := fun _ =>
      { flags := 0, prn := 1, time_offset_ns := 0, state := 0, received_gps_tow_ns := 0
        received_gps_tow_uncertainty_ns := 0, c_n0_dbhz := 0, pseudorange_rate_mps := 0
        pseudorange_rate_uncertainty_mps := 0, accumulated_delta_range_state := 0
        accumulated_delta_range_m := 0, accumulated_delta_range_uncertainty_m := 0
        carrier_frequency_hz := 0, carrier_phase := 0, carrier_phase_uncertainty := 0
        multipath_indicator := 0, snr_db := 0 }
    clock := gpsTimeZero }

/-- Both are read at the index 32, which is one past the last entry. -/
theorem read_past_end :
    (∃ report, gpsSvStatusCb Hidl.generated true (some minusOneSvs) = some report ∧
      GPS_MAX_SVS ∈ report.gnssSvList.reads ∧
      ¬SvsWithin GPS_MAX_SVS (gpsSvStatusCb Hidl.generated true (some minusOneSvs))) ∧
    ∃ report, (gpsMeasurementCb Hidl.generated true (some manyMeasurements) 0).1 = some report ∧
      GPS_MAX_MEASUREMENT ∈ report.measurements.reads ∧
      ¬MeasurementsWithin GPS_MAX_MEASUREMENT
        (gpsMeasurementCb Hidl.generated true (some manyMeasurements) 0).1 := by
  refine ⟨⟨_, rfl, ?_, fun hwithin => ?_⟩, _, rfl, ?_, fun hwithin => ?_⟩
  · rw [BoundedCopy.reads_copy]
    exact List.mem_range.mpr (by decide)
  · exact absurd ((BoundedCopy.within_copy _).mp (hwithin _ rfl)).1 (by decide)
  · rw [BoundedCopy.reads_copy]
    exact List.mem_range.mpr (by decide)
  · exact absurd ((BoundedCopy.within_copy _).mp (hwithin _ rfl)).1 (by decide)

end Apq8084.Gnss
