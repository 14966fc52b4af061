import Apq8084.Ril.PayloadInts

/-! Where the functions that decode a record read it in bounds, pass on what it holds and report one
that is malformed. -/
namespace Apq8084.Ril.Payloads

open WordBlock WordBlock.Layout

variable {mem : Memory} {serial : Int} {responseType : Nat} {e : Int} {response : Payload}

/-! ### The status of the card -/

def RIL_AppStatus.toAppStatus (mem : Memory) (s : RIL_AppStatus) : AppStatus where
  appType := s.app_type.toInt
  appState := s.app_state.toInt
  persoSubstate := s.perso_substate.toInt
  aidPtr := convertCharPtrToHidlString mem s.aid_ptr
  appLabelPtr := convertCharPtrToHidlString mem s.app_label_ptr
  pin1Replaced := s.pin1_replaced.toInt
  pin1 := s.pin1.toInt
  pin2 := s.pin2.toInt

namespace RIL_CardStatus_v6

/-- The indexes are below the number of applications. -/
def Indexed (s : RIL_CardStatus_v6) : Prop :=
  s.gsm_umts_subscription_app_index.toInt < s.num_applications.toInt ∧
  s.cdma_subscription_app_index.toInt < s.num_applications.toInt ∧
  s.ims_subscription_app_index.toInt < s.num_applications.toInt

instance (s : RIL_CardStatus_v6) : Decidable s.Indexed := inferInstanceAs (Decidable (_ ∧ _ ∧ _))

/-- The number of applications is one of those that `applications` has room for. -/
def InRange (s : RIL_CardStatus_v6) : Prop :=
  0 ≤ s.num_applications.toInt ∧ s.num_applications.toInt ≤ RIL_CARD_MAX_APPS

def toCardStatus (mem : Memory) (s : RIL_CardStatus_v6) : CardStatus where
  cardState := s.card_state.toInt
  universalPinState := s.universal_pin_state.toInt
  gsmUmtsSubscriptionAppIndex := s.gsm_umts_subscription_app_index.toInt
  cdmaSubscriptionAppIndex := s.cdma_subscription_app_index.toInt
  imsSubscriptionAppIndex := s.ims_subscription_app_index.toInt
  applications := (s.applications.take s.num_applications.toInt.toNat).map (·.toAppStatus mem)

end RIL_CardStatus_v6

section

variable {s : RIL_CardStatus_v6} {a : RIL_AppStatus} {i : Nat}

theorem appStatus_ok (ha : s.applications[i]? = some a) :
    appStatus mem (.block (bytes s)) i = .ok (a.toAppStatus mem) := by
  have field : ∀ {k w}, (words a)[k]? = some w →
      Payload.word (6 + (13 * i + k)) (.block (bytes s)) = .ok w := fun hw =>
    @word_array _ _ _ _ _ _ _ s.head ha hw
  simp only [appStatus, Payload.int, @field 0 _ rfl, @field 1 _ rfl, @field 2 _ rfl,
    @field 3 _ rfl, @field 4 _ rfl, @field 5 _ rfl, @field 6 _ rfl, @field 7 _ rfl]
  rfl

theorem appStatus_fails (hi : s.applications[i]? = none) :
    ∃ x, appStatus mem (.block (bytes s)) i = .error x := by
  have hword : Payload.word (6 + (13 * i + 0)) (.block (bytes s)) = .error .outOfBounds :=
    @word_array_fails _ _ _ _ _ s.head hi
  refine ⟨.outOfBounds, ?_⟩
  simp only [appStatus, Payload.int, hword]
  rfl

/-- The payload is the documented record, with its counts and indexes in range. -/
def HoldsCardStatus (mem : Memory) (response : Payload) (v : CardStatus) : Prop :=
  ∃ s : RIL_CardStatus_v6, response = .block (bytes s) ∧ s.Indexed ∧ s.InRange ∧
    v = s.toCardStatus mem

/-- A record that passes the check of its indexes has room for its applications. -/
def CardStatusFits (response : Payload) : Prop :=
  ∀ s : RIL_CardStatus_v6, response = .block (bytes s) → s.Indexed → s.InRange

theorem getIccCardStatusResponse_short {b : Block}
    (hlen : b.length ≠ sizeof RIL_CardStatus_v6) :
    getIccCardStatusResponse mem serial responseType e (.block b) =
      .ok ((populateResponseInfo {} serial responseType e).invalid e, {}) := by
  simp [getIccCardStatusResponse, Payload.responseLen, hlen]

theorem getIccCardStatusResponse_record (s : RIL_CardStatus_v6) :
    getIccCardStatusResponse mem serial responseType e (.block (bytes s)) =
      if s.Indexed then do
        let applications ←
          fill s.num_applications.toInt (appStatus mem (.block (bytes s)))
        return (populateResponseInfo {} serial responseType e,
          { s.toCardStatus mem with applications })
      else
        .ok ((populateResponseInfo {} serial responseType e).invalid e, {}) := by
  have field : ∀ {i w}, s.head[i]? = some w → (Payload.block (bytes s)).int i = .ok w.toInt :=
    fun hw => Payload.int_head hw
  simp only [getIccCardStatusResponse, Payload.isNull, Payload.responseLen, length_bytes,
    @field 0 _ rfl, @field 1 _ rfl, @field 2 _ rfl, @field 3 _ rfl, @field 4 _ rfl,
    @field 5 _ rfl]
  have hcheck : (s.gsm_umts_subscription_app_index.toInt ≥ s.num_applications.toInt ∨
      s.cdma_subscription_app_index.toInt ≥ s.num_applications.toInt ∨
      s.ims_subscription_app_index.toInt ≥ s.num_applications.toInt) ↔ ¬ s.Indexed := by
    simp only [RIL_CardStatus_v6.Indexed]
    omega
  change (if (_ ≥ _ ∨ _ ≥ _ ∨ _ ≥ _) then _ else _) = _
  by_cases hindexed : s.Indexed
  · rw [if_pos hindexed, if_neg (fun h => hcheck.mp h hindexed)]
    rfl
  · rw [if_neg hindexed, if_pos (hcheck.mpr hindexed)]
    rfl

theorem getIccCardStatusResponse_held {v : CardStatus} (hv : HoldsCardStatus mem response v) :
    getIccCardStatusResponse mem serial responseType e response =
      .ok (populateResponseInfo {} serial responseType e, v) := by
  obtain ⟨s, rfl, hindexed, hrange, rfl⟩ := hv
  have hmax : s.num_applications.toInt ≤ s.applications.length := by
    rw [s.length_applications]
    exact hrange.2
  rw [getIccCardStatusResponse_record, if_pos hindexed,
    fill_ok (fun i a ha => appStatus_ok ha) hrange.1 hmax]
  rfl

/-- A card status is answered as it should be unless its indexes hide a count out of range. -/
theorem getIccCardStatusResponse_iff :
    Answers (populateResponseInfo {} serial responseType e) (HoldsCardStatus mem response)
      (getIccCardStatusResponse mem serial responseType e response) ↔ CardStatusFits response := by
  rcases Payload.record_cases RIL_CardStatus_v6 response with
    ⟨n, rfl⟩ | ⟨b, hlen, rfl⟩ | ⟨s, rfl⟩
  · refine iff_of_true (answers_invalid (v := {}) ?_ rfl) fun s hs => by cases hs
    rintro v ⟨s, hs, -⟩
    cases hs
  · refine iff_of_true (answers_invalid (v := {}) ?_ (getIccCardStatusResponse_short hlen))
      fun s hs => absurd hs (Payload.not_record hlen s)
    rintro v ⟨s, hs, -⟩
    exact Payload.not_record hlen s hs
  · by_cases hindexed : s.Indexed
    · by_cases hrange : s.InRange
      · refine iff_of_true
          (answers_held ⟨s, rfl, hindexed, hrange, rfl⟩ fun v => getIccCardStatusResponse_held) ?_
        intro t ht _
        exact Payload.record_injective ht ▸ hrange
      · refine iff_of_false (not_answers ?_) fun h => hrange (h s rfl hindexed)
        have hcount : ¬ (0 ≤ s.num_applications.toInt ∧
            s.num_applications.toInt ≤ s.applications.length) := by
          rw [s.length_applications]
          exact hrange
        obtain ⟨x, hx⟩ := fill_fails (fun i hi => @appStatus_fails mem s i hi) hcount
        rw [getIccCardStatusResponse_record, if_pos hindexed, hx]
        exact ⟨x, rfl⟩
    · refine iff_of_true (answers_invalid (v := {}) ?_ ?_) ?_
      · rintro v ⟨t, ht, htindexed, -⟩
        exact hindexed (Payload.record_injective ht ▸ htindexed)
      · rw [getIccCardStatusResponse_record, if_neg hindexed]
        rfl
      · intro t ht htindexed
        exact absurd (Payload.record_injective ht ▸ htindexed) hindexed

end

/-! ### Carriers -/

namespace RIL_CarrierRestrictions

/-- Each array has as many carriers as its count says. -/
def InReach (mem : Memory) (s : RIL_CarrierRestrictions) : Prop :=
  (0 ≤ s.len_allowed_carriers.toInt ∧
    s.len_allowed_carriers.toInt ≤ (mem.carriers s.allowed_carriers).length) ∧
  (0 ≤ s.len_excluded_carriers.toInt ∧
    s.len_excluded_carriers.toInt ≤ (mem.carriers s.excluded_carriers).length)

/-- The first `n` carriers from a pointer on. -/
def firstCarriers (mem : Memory) (carriers n : Word) : List Carrier :=
  ((mem.carriers carriers).take n.toInt.toNat).map (·.toCarrier mem)

def toCarriers (mem : Memory) (s : RIL_CarrierRestrictions) : Bool × CarrierRestrictions :=
  (!(0 < s.len_allowed_carriers.toInt || 0 < s.len_excluded_carriers.toInt),
    ⟨firstCarriers mem s.allowed_carriers s.len_allowed_carriers,
      firstCarriers mem s.excluded_carriers s.len_excluded_carriers⟩)

end RIL_CarrierRestrictions

section

variable {n : Word} {carriers : Word} {v : Bool × CarrierRestrictions}

theorem carriers_ok (h : 0 ≤ n.toInt ∧ n.toInt ≤ (mem.carriers carriers).length) :
    fill n.toInt (carrierAt mem carriers) =
      .ok (RIL_CarrierRestrictions.firstCarriers mem carriers n) := by
  apply fill_ok _ h.1 h.2
  intro i c hc
  simp only [carrierAt, hc]

theorem carriers_fail (h : ¬ (0 ≤ n.toInt ∧ n.toInt ≤ (mem.carriers carriers).length)) :
    ∃ x, fill n.toInt (carrierAt mem carriers) = .error x := by
  apply fill_fails _ h
  intro i hi
  exact ⟨.outOfBounds, by simp only [carrierAt, hi]⟩

/-- Nothing at all, which allows every carrier, or the documented record with its carriers. -/
def HoldsCarriers (mem : Memory) (response : Payload) (v : Bool × CarrierRestrictions) : Prop :=
  (response.isNull ∧ v = (true, {})) ∨
  ∃ s : RIL_CarrierRestrictions, response = .block (bytes s) ∧ s.InReach mem ∧
    v = s.toCarriers mem

def CarriersFit (mem : Memory) (response : Payload) : Prop :=
  ∀ s : RIL_CarrierRestrictions, response = .block (bytes s) → s.InReach mem

theorem getAllowedCarriersResponse_record (s : RIL_CarrierRestrictions) :
    getAllowedCarriersResponse mem serial responseType e (.block (bytes s)) = (do
      let allowedCarriers ←
        fill s.len_allowed_carriers.toInt (carrierAt mem s.allowed_carriers)
      let excludedCarriers ←
        fill s.len_excluded_carriers.toInt (carrierAt mem s.excluded_carriers)
      return (populateResponseInfo {} serial responseType e, (s.toCarriers mem).1,
        ⟨allowedCarriers, excludedCarriers⟩)) := by
  have field : ∀ {i w}, (words s)[i]? = some w → Payload.word i (.block (bytes s)) = .ok w :=
    fun hw => Payload.word_ok hw
  simp only [getAllowedCarriersResponse, Payload.isNull, Payload.responseLen, length_bytes,
    Payload.int, @field 0 _ rfl, @field 1 _ rfl, @field 2 _ rfl, @field 3 _ rfl]
  rfl

theorem getAllowedCarriersResponse_held (hv : HoldsCarriers mem response v) :
    getAllowedCarriersResponse mem serial responseType e response =
      .ok (populateResponseInfo {} serial responseType e, v) := by
  rcases hv with ⟨hnull, rfl⟩ | ⟨s, rfl, ⟨hallowed, hexcluded⟩, rfl⟩
  · simp only [getAllowedCarriersResponse, if_pos hnull]
  · rw [getAllowedCarriersResponse_record, carriers_ok hallowed, carriers_ok hexcluded]
    rfl

theorem getAllowedCarriersResponse_iff :
    Answers (populateResponseInfo {} serial responseType e) (HoldsCarriers mem response)
      (getAllowedCarriersResponse mem serial responseType e response) ↔
      CarriersFit mem response := by
  rcases Payload.record_cases RIL_CarrierRestrictions response with
    ⟨n, rfl⟩ | ⟨b, hlen, rfl⟩ | ⟨s, rfl⟩
  · exact iff_of_true
      (answers_held (.inl ⟨rfl, rfl⟩) fun v => getAllowedCarriersResponse_held)
      fun s hs => by cases hs
  · refine iff_of_true (answers_invalid (v := (true, {})) ?_ ?_)
      fun s hs => absurd hs (Payload.not_record hlen s)
    · rintro v (⟨hnull, -⟩ | ⟨s, hs, -⟩)
      · cases hnull
      · exact Payload.not_record hlen s hs
    · simp [getAllowedCarriersResponse, Payload.isNull, Payload.responseLen, hlen,
        populateResponseInfo]
  · by_cases hreach : s.InReach mem
    · refine iff_of_true (answers_held (.inr ⟨s, rfl, hreach, rfl⟩)
        fun v => getAllowedCarriersResponse_held) ?_
      intro t ht
      exact Payload.record_injective ht ▸ hreach
    · refine iff_of_false (not_answers ?_) fun h => hreach (h s rfl)
      rw [getAllowedCarriersResponse_record]
      by_cases hallowed : 0 ≤ s.len_allowed_carriers.toInt ∧
          s.len_allowed_carriers.toInt ≤ (mem.carriers s.allowed_carriers).length
      · obtain ⟨x, hx⟩ := carriers_fail fun hexcluded => hreach ⟨hallowed, hexcluded⟩
        rw [carriers_ok hallowed, hx]
        exact ⟨x, rfl⟩
      · obtain ⟨x, hx⟩ := carriers_fail hallowed
        rw [hx]
        exact ⟨x, rfl⟩

end

/-! ### Supplementary services -/

def RIL_CallForwardInfo.toCallForwardInfo (mem : Memory) (s : RIL_CallForwardInfo) :
    CallForwardInfo :=
  ⟨s.status.toInt, s.reason.toInt, s.serviceClass.toInt, s.toa.toInt,
    convertCharPtrToHidlString mem s.number, s.timeSeconds.toInt⟩

namespace RIL_StkCcUnsolSsResponse

def isCfQuery (s : RIL_StkCcUnsolSsResponse) : Bool :=
  isServiceTypeCfQuery s.serviceType.toInt s.requestType.toInt

/-- The entries of a query for call forwarding, of which `cfInfo` has no more than it has room
for, or the integers of any other service. -/
def toResult (mem : Memory) (s : RIL_StkCcUnsolSsResponse) : StkCcUnsolSsResult where
  serviceType := s.serviceType.toInt
  requestType := s.requestType.toInt
  teleserviceType := s.teleserviceType.toInt
  serviceClass := s.serviceClass.toInt
  result := s.result.toInt
  ssInfo := if s.isCfQuery then [] else [s.ssInfo.map (·.toInt)]
  cfData :=
    if s.isCfQuery then
      [(s.cfInfo.take s.numValidIndexes.toInt.toNat).map (·.toCallForwardInfo mem)]
    else []

end RIL_StkCcUnsolSsResponse

section

variable {s : RIL_StkCcUnsolSsResponse} {c : RIL_CallForwardInfo} {i : Nat} {v : Indication}
  {indicationType : Nat}

theorem callForwardInfo_ok (hc : s.cfInfo[i]? = some c) :
    callForwardInfo mem (.block (bytes s)) i = .ok (c.toCallForwardInfo mem) := by
  have field : ∀ {k w}, (words c)[k]? = some w →
      Payload.word (6 + (8 * i + k)) (.block (bytes s)) = .ok w := fun hw =>
    @word_array _ _ _ _ _ _ _ s.head hc hw
  simp only [callForwardInfo, Payload.int, @field 0 _ rfl, @field 1 _ rfl, @field 2 _ rfl,
    @field 3 _ rfl, @field 4 _ rfl, @field 5 _ rfl, @field 6 _ rfl, @field 7 _ rfl]
  rfl

theorem ssInfo_ok :
    fill SS_INFO_MAX (fun i => (Payload.block (bytes s)).int (i + 5)) =
      .ok (s.ssInfo.map (·.toInt)) := by
  apply fill_ok (l := s.numValidIndexes :: array s.cfInfo)
  · intro i w hw
    exact Payload.int_ok (Payload.word_ok hw)
  · decide
  · rw [List.length_cons, length_array, s.length_cfInfo]
    decide

/-- The payload is the documented record, with a count that is not negative where it is used. -/
def HoldsSs (mem : Memory) (response : Payload) (v : Indication) : Prop :=
  ∃ s : RIL_StkCcUnsolSsResponse, response = .block (bytes s) ∧
    (s.isCfQuery → 0 ≤ s.numValidIndexes.toInt) ∧
    v = .onSupplementaryServiceIndication (s.toResult mem)

def SsFits (response : Payload) : Prop :=
  ∀ s : RIL_StkCcUnsolSsResponse, response = .block (bytes s) → s.isCfQuery →
    0 ≤ s.numValidIndexes.toInt

theorem onSupplementaryServiceIndicationInd_short {b : Block}
    (hlen : b.length ≠ sizeof RIL_StkCcUnsolSsResponse) :
    onSupplementaryServiceIndicationInd mem (.block b) indicationType = .ok none := by
  simp [onSupplementaryServiceIndicationInd, Payload.responseLen, hlen]

theorem onSupplementaryServiceIndicationInd_record (s : RIL_StkCcUnsolSsResponse) :
    onSupplementaryServiceIndicationInd mem (.block (bytes s)) indicationType =
      if s.isCfQuery then do
        let cfInfo ← fill (min s.numValidIndexes.toInt NUM_SERVICE_CLASSES)
          (callForwardInfo mem (.block (bytes s)))
        return some (convertIntToRadioIndicationType indicationType,
          .onSupplementaryServiceIndication { s.toResult mem with cfData := [cfInfo] })
      else
        .ok (some (convertIntToRadioIndicationType indicationType,
          .onSupplementaryServiceIndication (s.toResult mem))) := by
  have field : ∀ {i w}, s.head[i]? = some w → (Payload.block (bytes s)).int i = .ok w.toInt :=
    fun hw => Payload.int_head hw
  have hmin : (if s.numValidIndexes.toInt > NUM_SERVICE_CLASSES then (NUM_SERVICE_CLASSES : Int)
      else s.numValidIndexes.toInt) = min s.numValidIndexes.toInt NUM_SERVICE_CLASSES := by
    omega
  simp only [onSupplementaryServiceIndicationInd, Payload.isNull, Payload.responseLen,
    length_bytes, @field 0 _ rfl, @field 1 _ rfl, @field 2 _ rfl, @field 3 _ rfl, @field 4 _ rfl,
    @field 5 _ rfl, ssInfo_ok]
  change ((if s.isCfQuery then (fill (if _ > _ then _ else _) _).bind _ else _) >>= _) = _
  rw [hmin]
  cases hquery : s.isCfQuery
  · simp only [RIL_StkCcUnsolSsResponse.toResult, hquery]
    rfl
  · cases hfill : fill (min s.numValidIndexes.toInt NUM_SERVICE_CLASSES)
        (callForwardInfo mem (.block (bytes s))) with
    | error x => rfl
    | ok cfInfo =>
      simp only [RIL_StkCcUnsolSsResponse.toResult, hquery]
      rfl

theorem onSupplementaryServiceIndicationInd_held (hv : HoldsSs mem response v) :
    onSupplementaryServiceIndicationInd mem response indicationType =
      .ok (some (convertIntToRadioIndicationType indicationType, v)) := by
  obtain ⟨s, rfl, hcount, rfl⟩ := hv
  rw [onSupplementaryServiceIndicationInd_record]
  cases hquery : s.isCfQuery
  · rfl
  · have hlen : s.cfInfo.length = 7 := s.length_cfInfo
    have hfill := fill_ok (m := min s.numValidIndexes.toInt NUM_SERVICE_CLASSES)
      (fun i c hc => @callForwardInfo_ok mem s c i hc)
      (le_min (hcount hquery) (by decide)) (by rw [hlen]; exact min_le_right _ _)
    have htake : s.cfInfo.take (min s.numValidIndexes.toInt NUM_SERVICE_CLASSES).toNat =
        s.cfInfo.take s.numValidIndexes.toInt.toNat := by
      rcases le_total s.numValidIndexes.toInt NUM_SERVICE_CLASSES with hle | hge
      · rw [min_eq_left hle]
      · have hge' : (7 : Int) ≤ s.numValidIndexes.toInt := hge
        rw [min_eq_right hge, Int.toNat_natCast, List.take_of_length_le (le_of_eq s.length_cfInfo),
          List.take_of_length_le (by omega)]
    rw [hfill, htake]
    simp only [RIL_StkCcUnsolSsResponse.toResult, hquery]
    rfl

theorem onSupplementaryServiceIndicationInd_iff :
    Notifies (convertIntToRadioIndicationType indicationType) (HoldsSs mem response)
      (onSupplementaryServiceIndicationInd mem response indicationType) ↔ SsFits response := by
  rcases Payload.record_cases RIL_StkCcUnsolSsResponse response with
    ⟨n, rfl⟩ | ⟨b, hlen, rfl⟩ | ⟨s, rfl⟩
  · refine iff_of_true (notifies_none ?_ rfl) fun s hs => by cases hs
    rintro v ⟨s, hs, -⟩
    cases hs
  · refine iff_of_true
      (notifies_none ?_ (onSupplementaryServiceIndicationInd_short hlen))
      fun s hs => absurd hs (Payload.not_record hlen s)
    rintro v ⟨s, hs, -⟩
    exact Payload.not_record hlen s hs
  · by_cases hcount : s.isCfQuery → 0 ≤ s.numValidIndexes.toInt
    · refine iff_of_true (notifies_held ⟨s, rfl, hcount, rfl⟩
        fun v => onSupplementaryServiceIndicationInd_held) ?_
      intro t ht
      exact Payload.record_injective ht ▸ hcount
    · refine iff_of_false (not_notifies ?_) fun h => hcount (h s rfl)
      rw [Classical.not_imp] at hcount
      obtain ⟨hquery, hneg⟩ := hcount
      have hfault : fill (min s.numValidIndexes.toInt NUM_SERVICE_CLASSES)
          (callForwardInfo mem (.block (bytes s))) = .error .badSize := if_pos (by omega)
      rw [onSupplementaryServiceIndicationInd_record, if_pos hquery, hfault]
      exact ⟨.badSize, rfl⟩

end

/-! ### All of them -/

/-- Where each function that decodes a payload does it in bounds, passes on what the payload holds,
and reports one that holds nothing. -/
theorem decoders_iff (mem : Memory) (responseInfo : RadioResponseInfo) (serial : Int)
    (responseType indicationType : Nat) (e : Int) (response : Payload) :
    (Answers (populateResponseInfo responseInfo serial responseType e) (HoldsInt response)
      (responseInt responseInfo serial responseType e response) ↔ response ≠ .block []) ∧
    (Answers (populateResponseInfo responseInfo serial responseType e) (HoldsIntOrEmpty response)
      (responseIntOrEmpty responseInfo serial responseType e response) ↔ response ≠ .block []) ∧
    (Answers (populateResponseInfo {} serial responseType e) (HoldsCardStatus mem response)
      (getIccCardStatusResponse mem serial responseType e response) ↔ CardStatusFits response) ∧
    (Answers (populateResponseInfo {} serial responseType e) (HoldsLastCallFailCause mem response)
      (getLastCallFailCauseResponse mem serial responseType e response) ↔
      LastCallFailCauseFits e response) ∧
    (Answers (populateResponseInfo {} serial responseType e) (HoldsChannel response)
      (iccOpenLogicalChannelResponse serial responseType e response) ↔
      response ≠ .block [] ∧ (response.isNull → e ≠ RIL_E_SUCCESS)) ∧
    (Answers (populateResponseInfo {} serial responseType e) (HoldsCarriers mem response)
      (getAllowedCarriersResponse mem serial responseType e response) ↔
      CarriersFit mem response) ∧
    (∀ d ∈ intIndications,
      Notifies (convertIntToRadioIndicationType indicationType) (HoldsCall d.1 response)
        (d.2 indicationType response) ↔ response ≠ .block []) ∧
    (Notifies (convertIntToRadioIndicationType indicationType) (HoldsSs mem response)
      (onSupplementaryServiceIndicationInd mem response indicationType) ↔ SsFits response) := by
  refine ⟨responseInt_iff, responseIntOrEmpty_iff, getIccCardStatusResponse_iff,
    getLastCallFailCauseResponse_iff, iccOpenLogicalChannelResponse_iff,
    getAllowedCarriersResponse_iff, ?_, onSupplementaryServiceIndicationInd_iff⟩
  intro d hd
  rw [intInd_of_mem hd]
  exact intInd_iff

/-- `CALL_FAIL_NORMAL` as a plain integer is answered with an error, a card status with nine
applications is read past its array, and an integer is read from an empty block. -/
theorem decoders_fail :
    let mem : Memory := ⟨fun _ => [], fun _ => [], rfl⟩
    let app : RIL_AppStatus := ⟨0, 0, 0, 0, 0, 0, 0, 0, 0, 0, 0, 0, 0⟩
    let card : RIL_CardStatus_v6 :=
      ⟨1, 0, 0, 0, 0, 9, List.replicate RIL_CARD_MAX_APPS app, List.length_replicate⟩
    ¬ Answers (populateResponseInfo {} 7 RESPONSE_SOLICITED RIL_E_SUCCESS)
      (HoldsLastCallFailCause mem (.block [16, 0, 0, 0]))
      (getLastCallFailCauseResponse mem 7 RESPONSE_SOLICITED RIL_E_SUCCESS
        (.block [16, 0, 0, 0])) ∧
    ¬ Answers (populateResponseInfo {} 7 RESPONSE_SOLICITED RIL_E_SUCCESS)
      (HoldsCardStatus mem (.block (bytes card)))
      (getIccCardStatusResponse mem 7 RESPONSE_SOLICITED RIL_E_SUCCESS (.block (bytes card))) ∧
    ¬ Answers (populateResponseInfo {} 7 RESPONSE_SOLICITED RIL_E_SUCCESS)
      (HoldsInt (.block []))
      (responseInt {} 7 RESPONSE_SOLICITED RIL_E_SUCCESS (.block [])) := by
  intro mem app card
  refine ⟨?_, ?_, ?_⟩
  · rw [getLastCallFailCauseResponse_iff]
    rintro (hnil | hrecord | ⟨he, -⟩)
    · cases hnil
    · cases hrecord
    · exact he rfl
  · rw [getIccCardStatusResponse_iff]
    intro hfits
    have hrange : card.InRange := hfits card rfl (by decide)
    exact absurd hrange.2 (by decide)
  · rw [responseInt_iff]
    exact fun h => h rfl

end Apq8084.Ril.Payloads
