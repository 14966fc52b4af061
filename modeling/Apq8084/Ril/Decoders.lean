import Apq8084.Ril.PayloadRecords

/-! The functions of `ril_service.cpp` that decode what the vendor returns, for a service whose
callbacks are set. -/
namespace Apq8084.Ril.Payloads

open WordBlock WordBlock.Layout

/-! ### Responses -/

def convertCharPtrToHidlString (mem : Memory) (ptr : Word) : HidlString :=
  if ptr = 0 then ⟨0, []⟩ else .ofCStr (mem.cString ptr)

def populateResponseInfo (responseInfo : RadioResponseInfo) (serial : Int) (responseType : Nat)
    (e : Int) : RadioResponseInfo where
  serial
  type :=
    if responseType = RESPONSE_SOLICITED then .SOLICITED
    else if responseType = RESPONSE_SOLICITED_ACK_EXP then .SOLICITED_ACK_EXP
    else responseInfo.type
  error := e

/-- Report an invalid response, unless the vendor reported an error itself. -/
def RadioResponseInfo.invalid (responseInfo : RadioResponseInfo) (e : Int) : RadioResponseInfo :=
  if e = RIL_E_SUCCESS then { responseInfo with error := INVALID_RESPONSE } else responseInfo

def responseIntOrEmpty (responseInfo : RadioResponseInfo) (serial : Int) (responseType : Nat)
    (e : Int) (response : Payload) : Except Fault (Answer Int) :=
  let responseInfo := populateResponseInfo responseInfo serial responseType e
  if response.isNull ∧ response.responseLen = 0 then
    .ok (responseInfo, -1)
  else if response.isNull ∨ response.responseLen % 4 ≠ 0 then
    .ok (responseInfo.invalid e, -1)
  else do
    let ret ← response.int 0
    return (responseInfo, ret)

def responseInt (responseInfo : RadioResponseInfo) (serial : Int) (responseType : Nat)
    (e : Int) (response : Payload) : Except Fault (Answer Int) :=
  let responseInfo := populateResponseInfo responseInfo serial responseType e
  if response.isNull ∨ response.responseLen % 4 ≠ 0 then
    .ok (responseInfo.invalid e, -1)
  else do
    let ret ← response.int 0
    return (responseInfo, ret)

variable (mem : Memory) (serial : Int) (responseType : Nat) (e : Int) (response : Payload)

/-- The body of the loop over `rilAppStatus`. -/
def appStatus (i : Nat) : Except Fault AppStatus := do
  let app_type ← response.int (6 + (13 * i + 0))
  let app_state ← response.int (6 + (13 * i + 1))
  let perso_substate ← response.int (6 + (13 * i + 2))
  let aid_ptr ← response.word (6 + (13 * i + 3))
  let app_label_ptr ← response.word (6 + (13 * i + 4))
  let pin1_replaced ← response.int (6 + (13 * i + 5))
  let pin1 ← response.int (6 + (13 * i + 6))
  let pin2 ← response.int (6 + (13 * i + 7))
  return {
    appType := app_type
    appState := app_state
    persoSubstate := perso_substate
    aidPtr := convertCharPtrToHidlString mem aid_ptr
    appLabelPtr := convertCharPtrToHidlString mem app_label_ptr
    pin1Replaced := pin1_replaced
    pin1 := pin1
    pin2 := pin2 }

def getIccCardStatusResponse : Except Fault (Answer CardStatus) :=
  let responseInfo := populateResponseInfo {} serial responseType e
  if response.isNull ∨ response.responseLen ≠ sizeof RIL_CardStatus_v6 then
    .ok (responseInfo.invalid e, {})
  else do
    let gsm_umts_subscription_app_index ← response.int 2
    let cdma_subscription_app_index ← response.int 3
    let ims_subscription_app_index ← response.int 4
    let num_applications ← response.int 5
    if gsm_umts_subscription_app_index ≥ num_applications
        ∨ cdma_subscription_app_index ≥ num_applications
        ∨ ims_subscription_app_index ≥ num_applications then
      return (responseInfo.invalid e, {})
    else
      let card_state ← response.int 0
      let universal_pin_state ← response.int 1
      let applications ← fill num_applications (appStatus mem response)
      return (responseInfo, {
        cardState := card_state
        universalPinState := universal_pin_state
        gsmUmtsSubscriptionAppIndex := gsm_umts_subscription_app_index
        cdmaSubscriptionAppIndex := cdma_subscription_app_index
        imsSubscriptionAppIndex := ims_subscription_app_index
        applications := applications })

def getLastCallFailCauseResponse : Except Fault (Answer LastCallFailCauseInfo) :=
  let responseInfo := populateResponseInfo {} serial responseType e
  if response.isNull then
    .ok (responseInfo.invalid e, {})
  else if response.responseLen = sizeof RIL_LastCallFailCauseInfo then do
    let cause_code ← response.int 0
    let vendor_cause ← response.word 1
    return (responseInfo, {
      causeCode := cause_code
      vendorCause := convertCharPtrToHidlString mem vendor_cause })
  else if response.responseLen % 4 ≠ 0 then do
    -- the source tests for a remainder here, where its other functions reject one
    let pInt₀ ← response.int 0
    return (responseInfo, { causeCode := pInt₀ })
  else
    .ok (responseInfo.invalid e, {})

/-- As the conversion to `int8_t`. -/
def int8 (w : Word) : Int := (w.setWidth 8).toInt

def iccOpenLogicalChannelResponse : Except Fault (Answer (Int × List Int)) :=
  let responseInfo := populateResponseInfo {} serial responseType e
  let numInts := response.responseLen / 4
  if response.isNull ∨ response.responseLen % 4 ≠ 0 then
    .ok (if response.isNull then responseInfo else responseInfo.invalid e, -1, [])
  else do
    let channelId ← response.int 0
    let selectResponse ← fill ((numInts : Int) - 1) fun i => do
      let pInt ← response.word (i + 1)
      return int8 pInt
    return (responseInfo, channelId, selectResponse)

def RIL_Carrier.toCarrier (carrier : RIL_Carrier) : Carrier where
  mcc := convertCharPtrToHidlString mem carrier.mcc
  mnc := convertCharPtrToHidlString mem carrier.mnc
  matchType := carrier.match_type.toInt
  matchData := convertCharPtrToHidlString mem carrier.match_data

/-- The body of the loops over `allowed_carriers` and `excluded_carriers`. -/
def carrierAt (carriers : Word) (i : Nat) : Except Fault Carrier :=
  match (mem.carriers carriers)[i]? with
  | some carrier => .ok (carrier.toCarrier mem)
  | none => .error .outOfBounds

/-- The flag says that all carriers are allowed. -/
def getAllowedCarriersResponse : Except Fault (Answer (Bool × CarrierRestrictions)) :=
  let responseInfo := populateResponseInfo {} serial responseType e
  if response.isNull then
    .ok (responseInfo, true, {})
  else if response.responseLen ≠ sizeof RIL_CarrierRestrictions then
    .ok (responseInfo.invalid e, true, {})
  else do
    let len_allowed_carriers ← response.int 0
    let len_excluded_carriers ← response.int 1
    let allowed_carriers ← response.word 2
    let allowedCarriers ← fill len_allowed_carriers (carrierAt mem allowed_carriers)
    let excluded_carriers ← response.word 3
    let excludedCarriers ← fill len_excluded_carriers (carrierAt mem excluded_carriers)
    return (responseInfo, !(0 < len_allowed_carriers || 0 < len_excluded_carriers),
      ⟨allowedCarriers, excludedCarriers⟩)

/-! ### Indications -/

def convertIntToRadioIndicationType (indicationType : Nat) : RadioIndicationType :=
  if indicationType = RESPONSE_UNSOLICITED then .UNSOLICITED else .UNSOLICITED_ACK_EXP

/-- An indication that reads one integer from its payload. -/
def intInd (call : Int → Indication) (indicationType : Nat) (response : Payload) :
    Except Fault Notice :=
  if response.isNull ∨ response.responseLen % 4 ≠ 0 then
    .ok none
  else do
    let value ← response.int 0
    return some (convertIntToRadioIndicationType indicationType, call value)

def newSmsOnSimInd := intInd .newSmsOnSim

def stkCallSetupInd := intInd .stkCallSetup

def restrictedStateChangedInd := intInd .restrictedStateChanged

def cdmaOtaProvisionStatusInd := intInd .cdmaOtaProvisionStatus

def indicateRingbackToneInd := intInd fun start => .indicateRingbackTone (start ≠ 0)

def cdmaSubscriptionSourceChangedInd := intInd .cdmaSubscriptionSourceChanged

def cdmaPrlChangedInd := intInd .cdmaPrlChanged

def voiceRadioTechChangedInd := intInd .voiceRadioTechChanged

def subscriptionStatusChangedInd :=
  intInd fun activate => .subscriptionStatusChanged (activate ≠ 0)

def srvccStateNotifyInd := intInd .srvccStateNotify

/-- The indications that read one integer, with the call that each of them is for. -/
def intIndications : List ((Int → Indication) × (Nat → Payload → Except Fault Notice)) := [
  (.newSmsOnSim, newSmsOnSimInd),
  (.stkCallSetup, stkCallSetupInd),
  (.restrictedStateChanged, restrictedStateChangedInd),
  (.cdmaOtaProvisionStatus, cdmaOtaProvisionStatusInd),
  (fun start => .indicateRingbackTone (start ≠ 0), indicateRingbackToneInd),
  (.cdmaSubscriptionSourceChanged, cdmaSubscriptionSourceChangedInd),
  (.cdmaPrlChanged, cdmaPrlChangedInd),
  (.voiceRadioTechChanged, voiceRadioTechChangedInd),
  (fun activate => .subscriptionStatusChanged (activate ≠ 0), subscriptionStatusChangedInd),
  (.srvccStateNotify, srvccStateNotifyInd)]

def isServiceTypeCfQuery (serType reqType : Int) : Bool :=
  reqType = SS_INTERROGATION &&
    (serType = SS_CFU || serType = SS_CF_BUSY || serType = SS_CF_NO_REPLY ||
      serType = SS_CF_NOT_REACHABLE || serType = SS_CF_ALL || serType = SS_CF_ALL_CONDITIONAL)

/-- The body of the loop over `cfInfo`, which copies the whole entry. -/
def callForwardInfo (i : Nat) : Except Fault CallForwardInfo := do
  let status ← response.int (6 + (8 * i + 0))
  let reason ← response.int (6 + (8 * i + 1))
  let serviceClass ← response.int (6 + (8 * i + 2))
  let toa ← response.int (6 + (8 * i + 3))
  let number ← response.word (6 + (8 * i + 4))
  let timeSeconds ← response.int (6 + (8 * i + 5))
  let _startTime ← response.word (6 + (8 * i + 6))
  let _endTime ← response.word (6 + (8 * i + 7))
  return ⟨status, reason, serviceClass, toa, convertCharPtrToHidlString mem number, timeSeconds⟩

def onSupplementaryServiceIndicationInd (indicationType : Nat) : Except Fault Notice :=
  if response.isNull ∨ response.responseLen ≠ sizeof RIL_StkCcUnsolSsResponse then
    .ok none
  else do
    let serviceType ← response.int 0
    let requestType ← response.int 1
    let teleserviceType ← response.int 2
    let serviceClass ← response.int 3
    let result ← response.int 4
    let ss : StkCcUnsolSsResult :=
      ⟨serviceType, requestType, teleserviceType, serviceClass, result, [], []⟩
    let ss ← (
      if isServiceTypeCfQuery serviceType requestType then do
        let numValidIndexes ← response.int 5
        -- the source stores the truncated count in the payload and reads it from there
        let numValidIndexes :=
          if numValidIndexes > NUM_SERVICE_CLASSES then (NUM_SERVICE_CLASSES : Int)
          else numValidIndexes
        let cfInfo ← fill numValidIndexes (callForwardInfo mem response)
        return { ss with cfData := [cfInfo] }
      else do
        let ssInfo ← fill SS_INFO_MAX fun i => response.int (i + 5)
        return { ss with ssInfo := [ssInfo] })
    return some (convertIntToRadioIndicationType indicationType,
      .onSupplementaryServiceIndication ss)

end Apq8084.Ril.Payloads
