import Apq8084.Gnss.Measurement
import Mathlib.Data.List.Chain

/-! The GPS time that the clocks of `gpsMeasurementCb` carry over any series of calls. -/
namespace Apq8084.Gnss

/-- A clock of the legacy HAL and the one that was delivered for it. -/
structure ClockReport where
  legacy : GpsClock
  delivered : GnssClock

structure Reporter where
  /-- The static variable of `gpsMeasurementCb`. -/
  discontinuity_count : UInt32
  reports : List ClockReport

def Reporter.initial : Reporter := { discontinuity_count := 0, reports := [] }

structure MeasurementCall where
  sGnssMeasureCbIface : Bool
  gpsData : Option GpsData

def Reporter.call (hidl : Hidl) (s : Reporter) (c : MeasurementCall) : Reporter :=
  let r := gpsMeasurementCb hidl c.sGnssMeasureCbIface c.gpsData s.discontinuity_count
  { discontinuity_count := r.2
    reports := s.reports ++
      match c.gpsData, r.1 with
      | some gpsData, some gnssData => [⟨gpsData.clock, gnssData.clock⟩]
      | _, _ => [] }

def Reporter.calls (hidl : Hidl) (s : Reporter) (cs : List MeasurementCall) : Reporter :=
  cs.foldl (Reporter.call hidl) s

theorem handleClockType_gpsTime {clockVal : GpsClock} {count : UInt32}
    (h : clockVal.type = GPS_CLOCK_TYPE_GPS_TIME) : handleClockType clockVal count =
      ({ clockVal with
          flags := clockVal.flags ||| GPS_CLOCK_HAS_FULL_BIAS
          full_bias_ns := clockVal.time_ns
          time_ns := 0 },
        some count, count + 1) :=
  if_pos h

theorem handleClockType_other {clockVal : GpsClock} {count : UInt32}
    (h : clockVal.type ≠ GPS_CLOCK_TYPE_GPS_TIME) :
    handleClockType clockVal count = (clockVal, none, count) :=
  if_neg h

namespace ClockReport

variable {r : ClockReport}

def LocalHwTime (r : ClockReport) : Prop := r.legacy.type = GPS_CLOCK_TYPE_LOCAL_HW_TIME

def GpsTime (r : ClockReport) : Prop := r.legacy.type = GPS_CLOCK_TYPE_GPS_TIME

instance : DecidablePred GpsTime := fun _ => inferInstanceAs (Decidable (_ = _))

/-- What the full bias is taken from. -/
def bias (r : ClockReport) : Int64 := if r.GpsTime then r.legacy.time_ns else r.legacy.full_bias_ns

/-- The GPS time that the legacy clock denotes. -/
def denoted (r : ClockReport) : Int :=
  if r.GpsTime then r.legacy.time_ns.toInt
  else r.legacy.time_ns.toInt + r.legacy.full_bias_ns.toInt

/-- The delivered clock carries the denoted time: the full bias is the negated bias, it is flagged
if the legacy clock flags it or is the GPS time, and no overflow occurs. -/
structure CarriesTime (r : ClockReport) : Prop where
  time : r.delivered.timeNs.toInt - r.delivered.fullBiasNs.toInt = r.denoted
  negation : r.delivered.fullBiasNs.toInt = -r.bias.toInt
  flag : r.GpsTime ∨ r.legacy.flags &&& GPS_CLOCK_HAS_FULL_BIAS ≠ 0 →
    r.delivered.gnssClockFlags &&& GPS_CLOCK_HAS_FULL_BIAS ≠ 0

/-- The time is carried and every field is initialised. -/
structure Preserves (r : ClockReport) : Prop extends CarriesTime r where
  initialised : r.delivered.hwClockDiscontinuityCount.isSome = true

/-- The delivered clock is what the callback makes of the legacy one at some count. -/
def Converted (r : ClockReport) : Prop :=
  ∃ count, r.delivered = convertGpsClock (handleClockType r.legacy count).1
    (handleClockType r.legacy count).2.1

theorem minValue_toInt : Int64.minValue.toInt = -9223372036854775808 := rfl

/-- In 64 bits only the least number has no negation. -/
theorem toInt_neg_eq_iff (i : Int64) : (-i).toInt = -i.toInt ↔ i ≠ Int64.minValue := by
  constructor
  · rintro h rfl
    have hmin : (-Int64.minValue).toInt = -9223372036854775808 := rfl
    rw [hmin, minValue_toInt] at h
    omega
  · intro hne
    have hlo := i.le_toInt
    have hhi := i.toInt_lt
    have hne' : i.toInt ≠ -9223372036854775808 := by
      rw [← minValue_toInt]
      exact fun h => hne (Int64.toInt_inj.mp h)
    rw [Int64.toInt_neg, Int.bmod_eq_of_le]
    · omega
    · omega

theorem has_full_bias (flags : UInt16) :
    (flags ||| GPS_CLOCK_HAS_FULL_BIAS) &&& GPS_CLOCK_HAS_FULL_BIAS ≠ 0 := by
  have habsorb : (flags ||| GPS_CLOCK_HAS_FULL_BIAS) &&& GPS_CLOCK_HAS_FULL_BIAS =
      GPS_CLOCK_HAS_FULL_BIAS := by
    apply UInt16.toBitVec_inj.mp
    ext i hi
    simp only [UInt16.toBitVec_and, UInt16.toBitVec_or, BitVec.getElem_and, BitVec.getElem_or]
    cases GPS_CLOCK_HAS_FULL_BIAS.toBitVec[i] with
    | false => rw [Bool.and_false]
    | true => rw [Bool.or_true, Bool.and_true]
  rw [habsorb]
  decide

theorem delivered_gpsTime (h : r.Converted) (hgps : r.GpsTime) :
    r.delivered.timeNs = 0 ∧ r.delivered.fullBiasNs = -r.bias ∧
      r.delivered.gnssClockFlags = r.legacy.flags ||| GPS_CLOCK_HAS_FULL_BIAS ∧
      r.delivered.hwClockDiscontinuityCount.isSome = true := by
  obtain ⟨count, heq⟩ := h
  have hbias : r.bias = r.legacy.time_ns := if_pos hgps
  rw [heq, handleClockType_gpsTime hgps, hbias]
  exact ⟨rfl, rfl, rfl, rfl⟩

theorem delivered_other (h : r.Converted) (hgps : ¬r.GpsTime) :
    r.delivered.timeNs = r.legacy.time_ns ∧ r.delivered.fullBiasNs = -r.bias ∧
      r.delivered.gnssClockFlags = r.legacy.flags ∧
      r.delivered.hwClockDiscontinuityCount = none := by
  obtain ⟨count, heq⟩ := h
  have hbias : r.bias = r.legacy.full_bias_ns := if_neg hgps
  rw [heq, handleClockType_other hgps, hbias]
  exact ⟨rfl, rfl, rfl, rfl⟩

/-- The time is carried exactly when the bias can be negated, whatever the type. -/
theorem carriesTime_iff (h : r.Converted) : r.CarriesTime ↔ r.bias ≠ Int64.minValue := by
  rw [← toInt_neg_eq_iff]
  by_cases hgps : r.GpsTime
  · obtain ⟨htime, hbias, hflags, -⟩ := delivered_gpsTime h hgps
    constructor
    · intro hcarries
      rw [← hbias]
      exact hcarries.negation
    · intro hneg
      rw [← hbias] at hneg
      refine ⟨?_, hneg, fun _ => ?_⟩
      · rw [htime, hneg, bias, denoted, if_pos hgps, if_pos hgps, Int64.toInt_zero]
        omega
      · rw [hflags]
        exact has_full_bias _
  · obtain ⟨htime, hbias, hflags, -⟩ := delivered_other h hgps
    constructor
    · intro hcarries
      rw [← hbias]
      exact hcarries.negation
    · intro hneg
      rw [← hbias] at hneg
      refine ⟨?_, hneg, fun hflag => ?_⟩
      · rw [htime, hneg, bias, denoted, if_neg hgps, if_neg hgps]
        omega
      · rw [hflags]
        exact hflag.resolve_left hgps

/-- Only the clocks of the GPS time are delivered with all their fields. -/
theorem preserves_iff (h : r.Converted) :
    r.Preserves ↔ r.GpsTime ∧ r.legacy.time_ns ≠ Int64.minValue := by
  by_cases hgps : r.GpsTime
  · have hbias : r.bias = r.legacy.time_ns := if_pos hgps
    rw [← hbias, ← carriesTime_iff h]
    constructor
    · exact fun hpreserves => ⟨hgps, hpreserves.toCarriesTime⟩
    · exact fun hcarries => ⟨hcarries.2, (delivered_gpsTime h hgps).2.2.2⟩
  · refine iff_of_false (fun hpreserves => ?_) fun hno => hgps hno.1
    have hsome := hpreserves.initialised
    rw [(delivered_other h hgps).2.2.2] at hsome
    cases hsome

end ClockReport

/-! ### Runs -/

namespace Reporter

variable {hidl : Hidl} {s t : Reporter} {c : MeasurementCall} {cs : List MeasurementCall}

/-- The reports of the GPS time, in their order. -/
def gpsTimes (s : Reporter) : List ClockReport := s.reports.filter fun r => r.GpsTime

/-- Neighbours among the reports of the GPS time have different counts. -/
def DifferentCounts (s : Reporter) : Prop :=
  s.gpsTimes.IsChain fun r r' =>
    r.delivered.hwClockDiscontinuityCount ≠ r'.delivered.hwClockDiscontinuityCount

/-- Every report is a converted clock, and the static variable is one ahead of the last count. -/
structure Counted (s : Reporter) : Prop where
  converted : ∀ r ∈ s.reports, r.Converted
  differ : DifferentCounts s
  last : ∀ r ∈ s.gpsTimes.getLast?, ∃ count,
    r.delivered.hwClockDiscontinuityCount = some count ∧ s.discontinuity_count = count + 1

theorem counted_initial : Counted initial where
  converted _ hr := absurd hr List.not_mem_nil
  differ := List.isChain_nil
  last _ hr := by cases hr

/-- What a call with a callback and a report adds. -/
theorem call_report {gpsData : GpsData} (hiface : c.sGnssMeasureCbIface = true)
    (hdata : c.gpsData = some gpsData) :
    (s.call hidl c).reports = s.reports ++ [⟨gpsData.clock,
      convertGpsClock (handleClockType gpsData.clock s.discontinuity_count).1
        (handleClockType gpsData.clock s.discontinuity_count).2.1⟩] ∧
    (s.call hidl c).discontinuity_count =
      (handleClockType gpsData.clock s.discontinuity_count).2.2 := by
  unfold call gpsMeasurementCb
  rw [if_pos hiface, hdata]
  exact ⟨rfl, rfl⟩

theorem call_nothing (h : c.sGnssMeasureCbIface = false ∨ c.gpsData = none) :
    s.call hidl c = s := by
  have hempty : s.reports ++ [] = s.reports := List.append_nil _
  unfold call gpsMeasurementCb
  rcases h with h | h
  · rw [h]
    cases c.gpsData <;> simp [hempty]
  · rw [h]
    cases c.sGnssMeasureCbIface <;> simp [hempty]

theorem gpsTimes_append_gpsTime {r : ClockReport} (h : t.reports = s.reports ++ [r])
    (hr : r.GpsTime) : t.gpsTimes = s.gpsTimes ++ [r] := by
  have hkeep : [r].filter (fun r => decide r.GpsTime) = [r] :=
    List.filter_cons_of_pos (by simpa using hr)
  rw [gpsTimes, h, List.filter_append, hkeep]
  rfl

theorem gpsTimes_append_other {r : ClockReport} (h : t.reports = s.reports ++ [r])
    (hr : ¬r.GpsTime) : t.gpsTimes = s.gpsTimes := by
  have hdrop : [r].filter (fun r => decide r.GpsTime) = [] :=
    List.filter_cons_of_neg (by simpa using hr)
  rw [gpsTimes, h, List.filter_append, hdrop]
  exact List.append_nil _

theorem count_succ_ne (count : UInt32) : count + 1 ≠ count := by
  intro h
  have hone : (1 : UInt32) = 0 := UInt32.add_eq_left.mp h
  exact absurd hone (by decide)

theorem counted_call (hs : s.Counted) : (s.call hidl c).Counted := by
  cases hiface : c.sGnssMeasureCbIface with
  | false =>
    rw [call_nothing (Or.inl hiface)]
    exact hs
  | true =>
    cases hdata : c.gpsData with
    | none =>
      rw [call_nothing (Or.inr hdata)]
      exact hs
    | some gpsData =>
      obtain ⟨hreports, hcount⟩ := @call_report hidl s c gpsData hiface hdata
      have hconverted : ∀ r ∈ (s.call hidl c).reports, r.Converted := by
        rw [hreports]
        intro r hr
        rcases List.mem_append.mp hr with hr | hr
        · exact hs.converted r hr
        · obtain rfl := List.mem_singleton.mp hr
          exact ⟨s.discontinuity_count, rfl⟩
      by_cases htype : gpsData.clock.type = GPS_CLOCK_TYPE_GPS_TIME
      · rw [handleClockType_gpsTime htype] at hreports hcount
        have hgps := gpsTimes_append_gpsTime hreports htype
        refine ⟨hconverted, ?_, ?_⟩
        · rw [DifferentCounts, hgps]
          refine List.IsChain.append hs.differ (List.isChain_singleton _) fun r hr r' hr' => ?_
          obtain ⟨count, hlast, hnext⟩ := hs.last r hr
          cases hr'
          rw [hlast, hnext]
          exact fun h => count_succ_ne count (Option.some.inj h).symm
        · rw [hgps]
          intro r hr
          rw [List.getLast?_concat] at hr
          cases hr
          exact ⟨s.discontinuity_count, rfl, hcount⟩
      · rw [handleClockType_other htype] at hreports hcount
        have hgps := gpsTimes_append_other hreports htype
        refine ⟨hconverted, ?_, ?_⟩
        · rw [DifferentCounts, hgps]
          exact hs.differ
        · rw [hgps, hcount]
          exact hs.last

theorem counted_calls (hs : s.Counted) : (s.calls hidl cs).Counted := by
  induction cs generalizing s with
  | nil => exact hs
  | cons c cs ih => exact ih (counted_call hs)

/-- The clocks of the local hardware time and of the GPS time. -/
def Supported (r : ClockReport) : Prop := r.LocalHwTime ∨ r.GpsTime

/-- All supported clocks of a series of calls are preserved, with different counts for neighbours
of the GPS time, exactly when all of them are of the GPS time and none is the least number. The
counts always differ, and the time itself is carried exactly when the bias can be negated. -/
theorem clocks_preserved (hidl : Hidl) (cs : List MeasurementCall) :
    (((∀ r ∈ (initial.calls hidl cs).reports, Supported r → r.Preserves) ∧
        DifferentCounts (initial.calls hidl cs)) ↔
      ∀ r ∈ (initial.calls hidl cs).reports, Supported r →
        r.GpsTime ∧ r.legacy.time_ns ≠ Int64.minValue) ∧
    DifferentCounts (initial.calls hidl cs) ∧
    ∀ r ∈ (initial.calls hidl cs).reports, r.CarriesTime ↔ r.bias ≠ Int64.minValue := by
  have hcounted : (initial.calls hidl cs).Counted := counted_calls counted_initial
  refine ⟨⟨?_, ?_⟩, hcounted.differ, fun r hr => ?_⟩
  · rintro ⟨hpreserves, -⟩ r hr hsupported
    exact (ClockReport.preserves_iff (hcounted.converted r hr)).mp (hpreserves r hr hsupported)
  · intro h
    refine ⟨fun r hr hsupported => ?_, hcounted.differ⟩
    exact (ClockReport.preserves_iff (hcounted.converted r hr)).mpr (h r hr hsupported)
  · exact ClockReport.carriesTime_iff (hcounted.converted r hr)

/-- A clock of the local hardware time, without any bias. -/
def localTimeZero : GpsClock := { gpsTimeZero with type := GPS_CLOCK_TYPE_LOCAL_HW_TIME }

/-- One report of no measurements and the local hardware time. -/
def localCall : MeasurementCall :=
  { sGnssMeasureCbIface := true
    gpsData := some { manyMeasurements with measurement_count := 0, clock := localTimeZero } }

/-- The count of discontinuities is delivered as nothing has been assigned to it. -/
theorem local_count_unassigned :
    ∃ r ∈ (initial.calls Hidl.generated [localCall]).reports, r.LocalHwTime ∧
      r.delivered.hwClockDiscontinuityCount = none ∧ ¬r.Preserves := by
  refine ⟨_, List.mem_cons_self, rfl, rfl, fun hpreserves => ?_⟩
  exact Bool.false_ne_true hpreserves.initialised

end Reporter

end Apq8084.Gnss
