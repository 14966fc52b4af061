import Apq8084.Ril.Dispatch

/-! The request methods of `RadioImpl` that `ril_service.cpp` builds on its dispatch functions,
with the values each of them passes on. -/
namespace Apq8084.Ril

/-- As `RIL_DST_LOW_DATA_EXPECTED` of `ril.h`. -/
def LOW_DATA_EXPECTED : Int := 2

/-- A call of a request method with its arguments. -/
inductive RadioCall where
  | supplyIccPinForApp (pin aid : HidlString)
  | supplyIccPukForApp (puk pin aid : HidlString)
  | supplyIccPin2ForApp (pin2 aid : HidlString)
  | supplyIccPuk2ForApp (puk2 pin2 aid : HidlString)
  | changeIccPinForApp (oldPin newPin aid : HidlString)
  | changeIccPin2ForApp (oldPin2 newPin2 aid : HidlString)
  | supplyNetworkDepersonalization (netPin : HidlString)
  | getImsiForApp (aid : HidlString)
  | hangup (gsmIndex : Int)
  | setRadioPower (on : Bool)
  | sendDtmf (s : HidlString)
  | sendSms (message : GsmSmsMessage)
  | sendSMSExpectMore (message : GsmSmsMessage)
  | setupDataCall (radioTechnology : Int) (dataProfileInfo : DataProfileInfo)
      (modemCognitive roamingAllowed isRoaming : Bool)
  | sendUssd (ussd : HidlString)
  | setClir (status : Int)
  | getCallForwardStatus (callInfo : CallForwardInfo)
  | setCallForward (callInfo : CallForwardInfo)
  | getCallWaiting (serviceClass : Int)
  | setCallWaiting (enable : Bool) (serviceClass : Int)
  | acknowledgeLastIncomingGsmSms (success : Bool) (cause : Int)
  | deactivateDataCall (cid : Int) (reasonRadioShutDown : Bool)
  | getFacilityLockForApp (facility password : HidlString) (serviceClass : Int)
      (appId : HidlString)
  | setFacilityLockForApp (facility : HidlString) (lockState : Bool) (password : HidlString)
      (serviceClass : Int) (appId : HidlString)
  | setBarringPassword (facility oldPassword newPassword : HidlString)
  | setNetworkSelectionModeManual (operatorNumeric : HidlString)
  | startNetworkScan (request : NetworkScanRequest)
  | startDtmf (s : HidlString)
  | separateConnection (gsmIndex : Int)
  | setMute (enable : Bool)
  | setSuppServiceNotifications (enable : Bool)
  | deleteSmsOnSim (index : Int)
  | setBandMode (mode : Int)
  | sendEnvelope (command : HidlString)
  | sendTerminalResponseToSim (commandResponse : HidlString)
  | handleStkCallSetupRequestFromSim (accept : Bool)
  | setPreferredNetworkType (nwType : Int)
  | setLocationUpdates (enable : Bool)
  | setCdmaSubscriptionSource (cdmaSub : Int)
  | setCdmaRoamingPreference (type : Int)
  | setTTYMode (mode : Int)
  | setPreferredVoicePrivacy (enable : Bool)
  | sendCDMAFeatureCode (featureCode : HidlString)
  | sendBurstDtmf (dtmf : HidlString) (on off : Int)
  | setGsmBroadcastActivation (activate : Bool)
  | setCdmaBroadcastActivation (activate : Bool)
  | deleteSmsOnRuim (index : Int)
  | setSmscAddress (smsc : HidlString)
  | reportSmsMemoryStatus (available : Bool)
  | requestIsimAuthentication (challenge : HidlString)
  | acknowledgeIncomingGsmSmsWithPdu (success : Bool) (ackPdu : HidlString)
  | sendEnvelopeWithStatus (contents : HidlString)
  | setCellInfoListRate (rate : Int)
  | setInitialAttachApn (dataProfileInfo : DataProfileInfo) (modemCognitive isRoaming : Bool)
  | sendImsSms (message : ImsSmsMessage)
  | iccTransmitApduBasicChannel (message : SimApdu)
  | iccOpenLogicalChannel (aid : HidlString) (p2 : Int)
  | iccCloseLogicalChannel (channelId : Int)
  | iccTransmitApduLogicalChannel (message : SimApdu)
  | nvResetConfig (resetType : ResetNvType)
  | setDataAllowed (allow : Bool)
  | setDataProfile (profiles : List DataProfileInfo) (isRoaming : Bool)
  | startLceService (reportInterval : Int) (pullMode : Bool)
  | sendDeviceState (deviceStateType : Int) (state : Bool)
  | setIndicationFilter (indicationFilter : Int)
  | setSimCardPower (powerUp : Bool)
  | setSimCardPower_1_1 (state : Int)
  | startKeepalive (keepalive : KeepaliveRequest)
  /-- The one method of `OemHookImpl` that copies its arguments. -/
  | sendRequestStrings (data : List HidlString)

/-- The dispatch function that a method calls, with what it is called with. -/
inductive Dispatched where
  | string (request : RilRequest) (str : CString)
  | strings (request : RilRequest) (allowEmpty : Bool) (strs : List CString)
  | stringVec (request : RilRequest) (data : List HidlString)
  | ints (request : RilRequest) (values : List Int)
  | callForwardStatus (request : RilRequest) (callInfo : CallForwardInfo)
  | iccApdu (request : RilRequest) (message : SimApdu)
  | refused (request : RilRequest) (err : Int)
  | networkScan (request : NetworkScanRequest)
  | initialAttachApn (dataProfileInfo : DataProfileInfo) (modemCognitive isRoaming : Bool)
  | imsSms (message : ImsSmsMessage)
  | openLogicalChannel (aid : HidlString) (p2 : Int)
  | dataProfile (profiles : List DataProfileInfo) (isRoaming : Bool)
  | keepalive (request : KeepaliveRequest)

namespace Dispatched

variable {n : Nat} {ρ : Type}

def perform (e : Setting n) (serial : Int) : Dispatched → Dispatch n ρ Unit
  | .string request str => Dispatch.dispatchString e serial request str
  | .strings request allowEmpty strs => Dispatch.dispatchStrings e serial request allowEmpty strs
  | .stringVec request data => Dispatch.dispatchStringVec e serial request data
  | .ints request values => Dispatch.dispatchInts e serial request values
  | .callForwardStatus request callInfo =>
    Dispatch.dispatchCallForwardStatus e serial request callInfo
  | .iccApdu request message => Dispatch.dispatchIccApdu e serial request message
  | .refused request err => Dispatch.addAndRefuse e serial request err
  | .networkScan request => Dispatch.startNetworkScan e serial request
  | .initialAttachApn dataProfileInfo modemCognitive isRoaming =>
    Dispatch.setInitialAttachApn e serial dataProfileInfo modemCognitive isRoaming
  | .imsSms message => Dispatch.sendImsSms e serial message
  | .openLogicalChannel aid p2 => Dispatch.openLogicalChannel e serial aid p2
  | .dataProfile profiles isRoaming => Dispatch.setDataProfile e serial profiles isRoaming
  | .keepalive request => Dispatch.startKeepalive e serial request

end Dispatched

namespace RadioCall

/-- `std::to_string(value).c_str()`. -/
def to_string (value : Int) : CString := cString (toString value)

/-- A flag that is passed as a string. -/
def flagString (b : Bool) : CString := if b then cString "1" else cString "0"

def setupDataCallRequest (version radioTechnology : Int) (dataProfileInfo : DataProfileInfo)
    (modemCognitive roamingAllowed isRoaming : Bool) : Dispatched :=
  if 4 ≤ version ∧ version ≤ 14 then
    .strings .SETUP_DATA_CALL true
      [to_string (radioTechnology + 2), to_string dataProfileInfo.profileId,
        dataProfileInfo.apn.cStr, dataProfileInfo.user.cStr, dataProfileInfo.password.cStr,
        to_string dataProfileInfo.authType,
        if isRoaming then dataProfileInfo.roamingProtocol.cStr else dataProfileInfo.protocol.cStr]
  else if 15 ≤ version then
    match Dispatch.convertMvnoTypeToString dataProfileInfo.mvnoType with
    | none => .refused .SETUP_DATA_CALL RIL_E_INVALID_ARGUMENTS
    | some mvnoTypeStr =>
      .strings .SETUP_DATA_CALL true
        [to_string (radioTechnology + 2), to_string dataProfileInfo.profileId,
          dataProfileInfo.apn.cStr, dataProfileInfo.user.cStr, dataProfileInfo.password.cStr,
          to_string dataProfileInfo.authType, dataProfileInfo.protocol.cStr,
          dataProfileInfo.roamingProtocol.cStr, to_string dataProfileInfo.supportedApnTypesBitmap,
          to_string dataProfileInfo.bearerBitmap, flagString modemCognitive,
          to_string dataProfileInfo.mtu, mvnoTypeStr, dataProfileInfo.mvnoMatchData.cStr,
          flagString roamingAllowed]
  else .refused .SETUP_DATA_CALL RIL_E_REQUEST_NOT_SUPPORTED

def rilResetType : ResetNvType → Int
  | .RELOAD => 1
  | .ERASE => 2
  | .FACTORY_RESET => 3
  | .other _ => -1

def sendDeviceStateRequest (version deviceStateType : Int) (state : Bool) : Dispatched :=
  if version < 15 then
    if deviceStateType = LOW_DATA_EXPECTED then .ints .SCREEN_STATE [BOOL_TO_INT (!state)]
    else .refused .SEND_DEVICE_STATE RIL_E_REQUEST_NOT_SUPPORTED
  else .ints .SEND_DEVICE_STATE [deviceStateType, BOOL_TO_INT state]

/-- The body of each method. -/
def dispatched (version : Int) : RadioCall → Dispatched
  | supplyIccPinForApp pin aid => .strings .ENTER_SIM_PIN true [pin.cStr, aid.cStr]
  | supplyIccPukForApp puk pin aid => .strings .ENTER_SIM_PUK true [puk.cStr, pin.cStr, aid.cStr]
  | supplyIccPin2ForApp pin2 aid => .strings .ENTER_SIM_PIN2 true [pin2.cStr, aid.cStr]
  | supplyIccPuk2ForApp puk2 pin2 aid =>
    .strings .ENTER_SIM_PUK2 true [puk2.cStr, pin2.cStr, aid.cStr]
  | changeIccPinForApp oldPin newPin aid =>
    .strings .CHANGE_SIM_PIN true [oldPin.cStr, newPin.cStr, aid.cStr]
  | changeIccPin2ForApp oldPin2 newPin2 aid =>
    .strings .CHANGE_SIM_PIN2 true [oldPin2.cStr, newPin2.cStr, aid.cStr]
  | supplyNetworkDepersonalization netPin =>
    .strings .ENTER_NETWORK_DEPERSONALIZATION true [netPin.cStr]
  | getImsiForApp aid => .strings .GET_IMSI false [aid.cStr]
  | hangup gsmIndex => .ints .HANGUP [gsmIndex]
  | setRadioPower on => .ints .RADIO_POWER [BOOL_TO_INT on]
  | sendDtmf s => .string .DTMF s.cStr
  | sendSms message => .strings .SEND_SMS false [message.smscPdu.cStr, message.pdu.cStr]
  | sendSMSExpectMore message =>
    .strings .SEND_SMS_EXPECT_MORE false [message.smscPdu.cStr, message.pdu.cStr]
  | setupDataCall radioTechnology dataProfileInfo modemCognitive roamingAllowed isRoaming =>
    setupDataCallRequest version radioTechnology dataProfileInfo modemCognitive roamingAllowed
      isRoaming
  | sendUssd ussd => .string .SEND_USSD ussd.cStr
  | setClir status => .ints .SET_CLIR [status]
  | getCallForwardStatus callInfo => .callForwardStatus .QUERY_CALL_FORWARD_STATUS callInfo
  | setCallForward callInfo => .callForwardStatus .SET_CALL_FORWARD callInfo
  | getCallWaiting serviceClass => .ints .QUERY_CALL_WAITING [serviceClass]
  | setCallWaiting enable serviceClass =>
    .ints .SET_CALL_WAITING [BOOL_TO_INT enable, serviceClass]
  | acknowledgeLastIncomingGsmSms success cause =>
    .ints .SMS_ACKNOWLEDGE [BOOL_TO_INT success, cause]
  | deactivateDataCall cid reasonRadioShutDown =>
    .strings .DEACTIVATE_DATA_CALL false [to_string cid, flagString reasonRadioShutDown]
  | getFacilityLockForApp facility password serviceClass appId =>
    .strings .QUERY_FACILITY_LOCK true
      [facility.cStr, password.cStr, to_string serviceClass, appId.cStr]
  | setFacilityLockForApp facility lockState password serviceClass appId =>
    .strings .SET_FACILITY_LOCK true
      [facility.cStr, flagString lockState, password.cStr, to_string serviceClass, appId.cStr]
  | setBarringPassword facility oldPassword newPassword =>
    .strings .CHANGE_BARRING_PASSWORD true [facility.cStr, oldPassword.cStr, newPassword.cStr]
  | setNetworkSelectionModeManual operatorNumeric =>
    .string .SET_NETWORK_SELECTION_MANUAL operatorNumeric.cStr
  | startNetworkScan request => .networkScan request
  | startDtmf s => .string .DTMF_START s.cStr
  | separateConnection gsmIndex => .ints .SEPARATE_CONNECTION [gsmIndex]
  | setMute enable => .ints .SET_MUTE [BOOL_TO_INT enable]
  | setSuppServiceNotifications enable => .ints .SET_SUPP_SVC_NOTIFICATION [BOOL_TO_INT enable]
  | deleteSmsOnSim index => .ints .DELETE_SMS_ON_SIM [index]
  | setBandMode mode => .ints .SET_BAND_MODE [mode]
  | sendEnvelope command => .string .STK_SEND_ENVELOPE_COMMAND command.cStr
  | sendTerminalResponseToSim commandResponse =>
    .string .STK_SEND_TERMINAL_RESPONSE commandResponse.cStr
  | handleStkCallSetupRequestFromSim accept =>
    .ints .STK_HANDLE_CALL_SETUP_REQUESTED_FROM_SIM [BOOL_TO_INT accept]
  | setPreferredNetworkType nwType => .ints .SET_PREFERRED_NETWORK_TYPE [nwType]
  | setLocationUpdates enable => .ints .SET_LOCATION_UPDATES [BOOL_TO_INT enable]
  | setCdmaSubscriptionSource cdmaSub => .ints .CDMA_SET_SUBSCRIPTION_SOURCE [cdmaSub]
  | setCdmaRoamingPreference type => .ints .CDMA_SET_ROAMING_PREFERENCE [type]
  | setTTYMode mode => .ints .SET_TTY_MODE [mode]
  | setPreferredVoicePrivacy enable =>
    .ints .CDMA_SET_PREFERRED_VOICE_PRIVACY_MODE [BOOL_TO_INT enable]
  | sendCDMAFeatureCode featureCode => .string .CDMA_FLASH featureCode.cStr
  | sendBurstDtmf dtmf on off =>
    .strings .CDMA_BURST_DTMF false [dtmf.cStr, to_string on, to_string off]
  | setGsmBroadcastActivation activate =>
    .ints .GSM_SMS_BROADCAST_ACTIVATION [BOOL_TO_INT (!activate)]
  | setCdmaBroadcastActivation activate =>
    .ints .CDMA_SMS_BROADCAST_ACTIVATION [BOOL_TO_INT (!activate)]
  | deleteSmsOnRuim index => .ints .CDMA_DELETE_SMS_ON_RUIM [index]
  | setSmscAddress smsc => .string .SET_SMSC_ADDRESS smsc.cStr
  | reportSmsMemoryStatus available => .ints .REPORT_SMS_MEMORY_STATUS [BOOL_TO_INT available]
  | requestIsimAuthentication challenge => .string .ISIM_AUTHENTICATION challenge.cStr
  | acknowledgeIncomingGsmSmsWithPdu success ackPdu =>
    .strings .ACKNOWLEDGE_INCOMING_GSM_SMS_WITH_PDU false [flagString success, ackPdu.cStr]
  | sendEnvelopeWithStatus contents => .string .STK_SEND_ENVELOPE_WITH_STATUS contents.cStr
  | setCellInfoListRate rate => .ints .SET_UNSOL_CELL_INFO_LIST_RATE [rate]
  | setInitialAttachApn dataProfileInfo modemCognitive isRoaming =>
    .initialAttachApn dataProfileInfo modemCognitive isRoaming
  | sendImsSms message => .imsSms message
  | iccTransmitApduBasicChannel message => .iccApdu .SIM_TRANSMIT_APDU_BASIC message
  | iccOpenLogicalChannel aid p2 =>
    if version < 15 then .string .SIM_OPEN_CHANNEL aid.cStr else .openLogicalChannel aid p2
  | iccCloseLogicalChannel channelId => .ints .SIM_CLOSE_CHANNEL [channelId]
  | iccTransmitApduLogicalChannel message => .iccApdu .SIM_TRANSMIT_APDU_CHANNEL message
  | nvResetConfig resetType => .ints .NV_RESET_CONFIG [rilResetType resetType]
  | setDataAllowed allow => .ints .ALLOW_DATA [BOOL_TO_INT allow]
  | setDataProfile profiles isRoaming => .dataProfile profiles isRoaming
  | startLceService reportInterval pullMode =>
    .ints .START_LCE [reportInterval, BOOL_TO_INT pullMode]
  | sendDeviceState deviceStateType state =>
    sendDeviceStateRequest version deviceStateType state
  | setIndicationFilter indicationFilter =>
    if version < 15 then .refused .SET_UNSOLICITED_RESPONSE_FILTER RIL_E_REQUEST_NOT_SUPPORTED
    else .ints .SET_UNSOLICITED_RESPONSE_FILTER [indicationFilter]
  | setSimCardPower powerUp => .ints .SET_SIM_CARD_POWER [BOOL_TO_INT powerUp]
  | setSimCardPower_1_1 state => .ints .SET_SIM_CARD_POWER [state]
  | startKeepalive keepalive => .keepalive keepalive
  | sendRequestStrings data => .stringVec .OEM_HOOK_STRINGS data

/-- A request method, with the service object's slot and the vendor's version in `e`. -/
def perform {n : Nat} {ρ : Type} (e : Setting n) (serial : Int) (c : RadioCall) :
    Dispatch n ρ Unit :=
  (c.dispatched e.version).perform e serial

end RadioCall

end Apq8084.Ril
