import Mathlib.Tactic.Common

/-! The tables that lead from a method of `IRadio` to the client callback that answers it: the
request number that `ril_service.cpp` sends, the entry of `s_commands` in `ril_commands.h`, and
the callback that the entry's response function makes. -/
namespace Apq8084.Ril

/-- The request methods of `IRadio`, in the order of `ril_service.cpp`. -/
inductive Method where
  | getIccCardStatus | supplyIccPinForApp | supplyIccPukForApp | supplyIccPin2ForApp
  | supplyIccPuk2ForApp | changeIccPinForApp | changeIccPin2ForApp
  | supplyNetworkDepersonalization | getCurrentCalls | dial | getImsiForApp | hangup
  | hangupWaitingOrBackground | hangupForegroundResumeBackground
  | switchWaitingOrHoldingAndActive | conference | rejectCall | getLastCallFailCause
  | getSignalStrength | getVoiceRegistrationState | getDataRegistrationState | getOperator
  | setRadioPower | sendDtmf | sendSms | sendSMSExpectMore | setupDataCall | iccIOForApp
  | sendUssd | cancelPendingUssd | getClir | setClir | getCallForwardStatus | setCallForward
  | getCallWaiting | setCallWaiting | acknowledgeLastIncomingGsmSms | acceptCall
  | deactivateDataCall | getFacilityLockForApp | setFacilityLockForApp | setBarringPassword
  | getNetworkSelectionMode | setNetworkSelectionModeAutomatic | setNetworkSelectionModeManual
  | getAvailableNetworks | startNetworkScan | stopNetworkScan | startDtmf | stopDtmf
  | getBasebandVersion | separateConnection | setMute | getMute | getClip | getDataCallList
  | setSuppServiceNotifications | writeSmsToSim | deleteSmsOnSim | setBandMode
  | getAvailableBandModes | sendEnvelope | sendTerminalResponseToSim
  | handleStkCallSetupRequestFromSim | explicitCallTransfer | setPreferredNetworkType
  | getPreferredNetworkType | getNeighboringCids | setLocationUpdates | setCdmaSubscriptionSource
  | setCdmaRoamingPreference | getCdmaRoamingPreference | setTTYMode | getTTYMode
  | setPreferredVoicePrivacy | getPreferredVoicePrivacy | sendCDMAFeatureCode | sendBurstDtmf
  | sendCdmaSms | acknowledgeLastIncomingCdmaSms | getGsmBroadcastConfig | setGsmBroadcastConfig
  | setGsmBroadcastActivation | getCdmaBroadcastConfig | setCdmaBroadcastConfig
  | setCdmaBroadcastActivation | getCDMASubscription | writeSmsToRuim | deleteSmsOnRuim
  | getDeviceIdentity | exitEmergencyCallbackMode | getSmscAddress | setSmscAddress
  | reportSmsMemoryStatus | reportStkServiceIsRunning | getCdmaSubscriptionSource
  | requestIsimAuthentication | acknowledgeIncomingGsmSmsWithPdu | sendEnvelopeWithStatus
  | getVoiceRadioTechnology | getCellInfoList | setCellInfoListRate | setInitialAttachApn
  | getImsRegistrationState | sendImsSms | iccTransmitApduBasicChannel | iccOpenLogicalChannel
  | iccCloseLogicalChannel | iccTransmitApduLogicalChannel | nvReadItem | nvWriteItem
  | nvWriteCdmaPrl | nvResetConfig | setUiccSubscription | setDataAllowed | getHardwareConfig
  | requestIccSimAuthentication | setDataProfile | requestShutdown | getRadioCapability
  | setRadioCapability | startLceService | stopLceService | pullLceData | getModemActivityInfo
  | setAllowedCarriers | getAllowedCarriers | sendDeviceState | setIndicationFilter
  | setSimCardPower | setSimCardPower_1_1 | setCarrierInfoForImsiEncryption | startKeepalive
  | stopKeepalive
deriving DecidableEq

/-- The `RIL_REQUEST_…` of `ril.h`, in the order of their numbers. -/
inductive RilRequest where
  | GET_SIM_STATUS | ENTER_SIM_PIN | ENTER_SIM_PUK | ENTER_SIM_PIN2 | ENTER_SIM_PUK2
  | CHANGE_SIM_PIN | CHANGE_SIM_PIN2 | ENTER_NETWORK_DEPERSONALIZATION | GET_CURRENT_CALLS | DIAL
  | GET_IMSI | HANGUP | HANGUP_WAITING_OR_BACKGROUND | HANGUP_FOREGROUND_RESUME_BACKGROUND
  | SWITCH_WAITING_OR_HOLDING_AND_ACTIVE | CONFERENCE | UDUB | LAST_CALL_FAIL_CAUSE
  | SIGNAL_STRENGTH | VOICE_REGISTRATION_STATE | DATA_REGISTRATION_STATE | OPERATOR | RADIO_POWER
  | DTMF | SEND_SMS | SEND_SMS_EXPECT_MORE | SETUP_DATA_CALL | SIM_IO | SEND_USSD | CANCEL_USSD
  | GET_CLIR | SET_CLIR | QUERY_CALL_FORWARD_STATUS | SET_CALL_FORWARD | QUERY_CALL_WAITING
  | SET_CALL_WAITING | SMS_ACKNOWLEDGE | GET_IMEI | GET_IMEISV | ANSWER | DEACTIVATE_DATA_CALL
  | QUERY_FACILITY_LOCK | SET_FACILITY_LOCK | CHANGE_BARRING_PASSWORD
  | QUERY_NETWORK_SELECTION_MODE | SET_NETWORK_SELECTION_AUTOMATIC | SET_NETWORK_SELECTION_MANUAL
  | QUERY_AVAILABLE_NETWORKS | DTMF_START | DTMF_STOP | BASEBAND_VERSION | SEPARATE_CONNECTION
  | SET_MUTE | GET_MUTE | QUERY_CLIP | LAST_DATA_CALL_FAIL_CAUSE | DATA_CALL_LIST | RESET_RADIO
  | OEM_HOOK_RAW | OEM_HOOK_STRINGS | SCREEN_STATE | SET_SUPP_SVC_NOTIFICATION | WRITE_SMS_TO_SIM
  | DELETE_SMS_ON_SIM | SET_BAND_MODE | QUERY_AVAILABLE_BAND_MODE | STK_GET_PROFILE
  | STK_SET_PROFILE | STK_SEND_ENVELOPE_COMMAND | STK_SEND_TERMINAL_RESPONSE
  | STK_HANDLE_CALL_SETUP_REQUESTED_FROM_SIM | EXPLICIT_CALL_TRANSFER
  | SET_PREFERRED_NETWORK_TYPE | GET_PREFERRED_NETWORK_TYPE | GET_NEIGHBORING_CELL_IDS
  | SET_LOCATION_UPDATES | CDMA_SET_SUBSCRIPTION_SOURCE | CDMA_SET_ROAMING_PREFERENCE
  | CDMA_QUERY_ROAMING_PREFERENCE | SET_TTY_MODE | QUERY_TTY_MODE
  | CDMA_SET_PREFERRED_VOICE_PRIVACY_MODE | CDMA_QUERY_PREFERRED_VOICE_PRIVACY_MODE | CDMA_FLASH
  | CDMA_BURST_DTMF | CDMA_VALIDATE_AND_WRITE_AKEY | CDMA_SEND_SMS | CDMA_SMS_ACKNOWLEDGE
  | GSM_GET_BROADCAST_SMS_CONFIG | GSM_SET_BROADCAST_SMS_CONFIG | GSM_SMS_BROADCAST_ACTIVATION
  | CDMA_GET_BROADCAST_SMS_CONFIG | CDMA_SET_BROADCAST_SMS_CONFIG | CDMA_SMS_BROADCAST_ACTIVATION
  | CDMA_SUBSCRIPTION | CDMA_WRITE_SMS_TO_RUIM | CDMA_DELETE_SMS_ON_RUIM | DEVICE_IDENTITY
  | EXIT_EMERGENCY_CALLBACK_MODE | GET_SMSC_ADDRESS | SET_SMSC_ADDRESS | REPORT_SMS_MEMORY_STATUS
  | REPORT_STK_SERVICE_IS_RUNNING | CDMA_GET_SUBSCRIPTION_SOURCE | ISIM_AUTHENTICATION
  | ACKNOWLEDGE_INCOMING_GSM_SMS_WITH_PDU | STK_SEND_ENVELOPE_WITH_STATUS | VOICE_RADIO_TECH
  | GET_CELL_INFO_LIST | SET_UNSOL_CELL_INFO_LIST_RATE | SET_INITIAL_ATTACH_APN
  | IMS_REGISTRATION_STATE | IMS_SEND_SMS | SIM_TRANSMIT_APDU_BASIC | SIM_OPEN_CHANNEL
  | SIM_CLOSE_CHANNEL | SIM_TRANSMIT_APDU_CHANNEL | NV_READ_ITEM | NV_WRITE_ITEM
  | NV_WRITE_CDMA_PRL | NV_RESET_CONFIG | SET_UICC_SUBSCRIPTION | ALLOW_DATA
  | GET_HARDWARE_CONFIG | SIM_AUTHENTICATION | GET_DC_RT_INFO | SET_DC_RT_INFO_RATE
  | SET_DATA_PROFILE | SHUTDOWN | GET_RADIO_CAPABILITY | SET_RADIO_CAPABILITY | START_LCE
  | STOP_LCE | PULL_LCEDATA | GET_ACTIVITY_INFO | SET_CARRIER_RESTRICTIONS
  | GET_CARRIER_RESTRICTIONS | SEND_DEVICE_STATE | SET_UNSOLICITED_RESPONSE_FILTER
  | SET_SIM_CARD_POWER | SET_CARRIER_INFO_IMSI_ENCRYPTION | START_NETWORK_SCAN
  | STOP_NETWORK_SCAN | START_KEEPALIVE | STOP_KEEPALIVE
deriving DecidableEq

/-- The requests are numbered from 1. -/
def RilRequest.number (r : RilRequest) : Nat := r.ctorIdx + 1

/-- The functions `radio::…Response` of `ril_service.cpp`, called by the method that they are
named after: `radio m` for `getIccCardStatusResponse` and so on, with
`radio::getIMSIForAppResponse` for `getImsiForApp` and `radio::hangupConnectionResponse` for
`hangup`. -/
inductive ResponseFunction where
  | radio (m : Method)
  | sendRequestRaw
  | sendRequestStrings
deriving DecidableEq

/-- The request that a method sends; `lowDataExpected` is about the `deviceStateType` of
`sendDeviceState`. -/
def request (version : Int) (lowDataExpected : Bool) : Method → RilRequest
  | .sendDeviceState =>
    if version < 15 ∧ lowDataExpected then .SCREEN_STATE else .SEND_DEVICE_STATE
  | .getIccCardStatus => .GET_SIM_STATUS
  | .supplyIccPinForApp => .ENTER_SIM_PIN
  | .supplyIccPukForApp => .ENTER_SIM_PUK
  | .supplyIccPin2ForApp => .ENTER_SIM_PIN2
  | .supplyIccPuk2ForApp => .ENTER_SIM_PUK2
  | .changeIccPinForApp => .CHANGE_SIM_PIN
  | .changeIccPin2ForApp => .CHANGE_SIM_PIN2
  | .supplyNetworkDepersonalization => .ENTER_NETWORK_DEPERSONALIZATION
  | .getCurrentCalls => .GET_CURRENT_CALLS
  | .dial => .DIAL
  | .getImsiForApp => .GET_IMSI
  | .hangup => .HANGUP
  | .hangupWaitingOrBackground => .HANGUP_WAITING_OR_BACKGROUND
  | .hangupForegroundResumeBackground => .HANGUP_FOREGROUND_RESUME_BACKGROUND
  | .switchWaitingOrHoldingAndActive => .SWITCH_WAITING_OR_HOLDING_AND_ACTIVE
  | .conference => .CONFERENCE
  | .rejectCall => .UDUB
  | .getLastCallFailCause => .LAST_CALL_FAIL_CAUSE
  | .getSignalStrength => .SIGNAL_STRENGTH
  | .getVoiceRegistrationState => .VOICE_REGISTRATION_STATE
  | .getDataRegistrationState => .DATA_REGISTRATION_STATE
  | .getOperator => .OPERATOR
  | .setRadioPower => .RADIO_POWER
  | .sendDtmf => .DTMF
  | .sendSms => .SEND_SMS
  | .sendSMSExpectMore => .SEND_SMS_EXPECT_MORE
  | .setupDataCall => .SETUP_DATA_CALL
  | .iccIOForApp => RilRequest.SIM_IO
  | .sendUssd => .SEND_USSD
  | .cancelPendingUssd => .CANCEL_USSD
  | .getClir => .GET_CLIR
  | .setClir => .SET_CLIR
  | .getCallForwardStatus => .QUERY_CALL_FORWARD_STATUS
  | .setCallForward => .SET_CALL_FORWARD
  | .getCallWaiting => .QUERY_CALL_WAITING
  | .setCallWaiting => .SET_CALL_WAITING
  | .acknowledgeLastIncomingGsmSms => .SMS_ACKNOWLEDGE
  | .acceptCall => .ANSWER
  | .deactivateDataCall => .DEACTIVATE_DATA_CALL
  | .getFacilityLockForApp => .QUERY_FACILITY_LOCK
  | .setFacilityLockForApp => .SET_FACILITY_LOCK
  | .setBarringPassword => .CHANGE_BARRING_PASSWORD
  | .getNetworkSelectionMode => .QUERY_NETWORK_SELECTION_MODE
  | .setNetworkSelectionModeAutomatic => .SET_NETWORK_SELECTION_AUTOMATIC
  | .setNetworkSelectionModeManual => .SET_NETWORK_SELECTION_MANUAL
  | .getAvailableNetworks => .QUERY_AVAILABLE_NETWORKS
  | .startNetworkScan => .START_NETWORK_SCAN
  | .stopNetworkScan => .STOP_NETWORK_SCAN
  | .startDtmf => .DTMF_START
  | .stopDtmf => .DTMF_STOP
  | .getBasebandVersion => .BASEBAND_VERSION
  | .separateConnection => .SEPARATE_CONNECTION
  | .setMute => .SET_MUTE
  | .getMute => .GET_MUTE
  | .getClip => .QUERY_CLIP
  | .getDataCallList => .DATA_CALL_LIST
  | .setSuppServiceNotifications => .SET_SUPP_SVC_NOTIFICATION
  | .writeSmsToSim => .WRITE_SMS_TO_SIM
  | .deleteSmsOnSim => .DELETE_SMS_ON_SIM
  | .setBandMode => .SET_BAND_MODE
  | .getAvailableBandModes => .QUERY_AVAILABLE_BAND_MODE
  | .sendEnvelope => .STK_SEND_ENVELOPE_COMMAND
  | .sendTerminalResponseToSim => .STK_SEND_TERMINAL_RESPONSE
  | .handleStkCallSetupRequestFromSim => .STK_HANDLE_CALL_SETUP_REQUESTED_FROM_SIM
  | .explicitCallTransfer => .EXPLICIT_CALL_TRANSFER
  | .setPreferredNetworkType => .SET_PREFERRED_NETWORK_TYPE
  | .getPreferredNetworkType => .GET_PREFERRED_NETWORK_TYPE
  | .getNeighboringCids => .GET_NEIGHBORING_CELL_IDS
  | .setLocationUpdates => .SET_LOCATION_UPDATES
  | .setCdmaSubscriptionSource => .CDMA_SET_SUBSCRIPTION_SOURCE
  | .setCdmaRoamingPreference => .CDMA_SET_ROAMING_PREFERENCE
  | .getCdmaRoamingPreference => .CDMA_QUERY_ROAMING_PREFERENCE
  | .setTTYMode => .SET_TTY_MODE
  | .getTTYMode => .QUERY_TTY_MODE
  | .setPreferredVoicePrivacy => .CDMA_SET_PREFERRED_VOICE_PRIVACY_MODE
  | .getPreferredVoicePrivacy => .CDMA_QUERY_PREFERRED_VOICE_PRIVACY_MODE
  | .sendCDMAFeatureCode => .CDMA_FLASH
  | .sendBurstDtmf => .CDMA_BURST_DTMF
  | .sendCdmaSms => .CDMA_SEND_SMS
  | .acknowledgeLastIncomingCdmaSms => .CDMA_SMS_ACKNOWLEDGE
  | .getGsmBroadcastConfig => .GSM_GET_BROADCAST_SMS_CONFIG
  | .setGsmBroadcastConfig => .GSM_SET_BROADCAST_SMS_CONFIG
  | .setGsmBroadcastActivation => .GSM_SMS_BROADCAST_ACTIVATION
  | .getCdmaBroadcastConfig => .CDMA_GET_BROADCAST_SMS_CONFIG
  | .setCdmaBroadcastConfig => .CDMA_SET_BROADCAST_SMS_CONFIG
  | .setCdmaBroadcastActivation => .CDMA_SMS_BROADCAST_ACTIVATION
  | .getCDMASubscription => .CDMA_SUBSCRIPTION
  | .writeSmsToRuim => .CDMA_WRITE_SMS_TO_RUIM
  | .deleteSmsOnRuim => .CDMA_DELETE_SMS_ON_RUIM
  | .getDeviceIdentity => .DEVICE_IDENTITY
  | .exitEmergencyCallbackMode => .EXIT_EMERGENCY_CALLBACK_MODE
  | .getSmscAddress => .GET_SMSC_ADDRESS
  | .setSmscAddress => .SET_SMSC_ADDRESS
  | .reportSmsMemoryStatus => .REPORT_SMS_MEMORY_STATUS
  | .reportStkServiceIsRunning => .REPORT_STK_SERVICE_IS_RUNNING
  | .getCdmaSubscriptionSource => .CDMA_GET_SUBSCRIPTION_SOURCE
  | .requestIsimAuthentication => .ISIM_AUTHENTICATION
  | .acknowledgeIncomingGsmSmsWithPdu => .ACKNOWLEDGE_INCOMING_GSM_SMS_WITH_PDU
  | .sendEnvelopeWithStatus => .STK_SEND_ENVELOPE_WITH_STATUS
  | .getVoiceRadioTechnology => .VOICE_RADIO_TECH
  | .getCellInfoList => .GET_CELL_INFO_LIST
  | .setCellInfoListRate => .SET_UNSOL_CELL_INFO_LIST_RATE
  | .setInitialAttachApn => .SET_INITIAL_ATTACH_APN
  | .getImsRegistrationState => .IMS_REGISTRATION_STATE
  | .sendImsSms => .IMS_SEND_SMS
  | .iccTransmitApduBasicChannel => .SIM_TRANSMIT_APDU_BASIC
  | .iccOpenLogicalChannel => .SIM_OPEN_CHANNEL
  | .iccCloseLogicalChannel => .SIM_CLOSE_CHANNEL
  | .iccTransmitApduLogicalChannel => .SIM_TRANSMIT_APDU_CHANNEL
  | .nvReadItem => .NV_READ_ITEM
  | .nvWriteItem => .NV_WRITE_ITEM
  | .nvWriteCdmaPrl => .NV_WRITE_CDMA_PRL
  | .nvResetConfig => .NV_RESET_CONFIG
  | .setUiccSubscription => .SET_UICC_SUBSCRIPTION
  | .setDataAllowed => .ALLOW_DATA
  | .getHardwareConfig => .GET_HARDWARE_CONFIG
  | .requestIccSimAuthentication => .SIM_AUTHENTICATION
  | .setDataProfile => .SET_DATA_PROFILE
  | .requestShutdown => .SHUTDOWN
  | .getRadioCapability => .GET_RADIO_CAPABILITY
  | .setRadioCapability => .SET_RADIO_CAPABILITY
  | .startLceService => .START_LCE
  | .stopLceService => .STOP_LCE
  | .pullLceData => .PULL_LCEDATA
  | .getModemActivityInfo => .GET_ACTIVITY_INFO
  | .setAllowedCarriers => .SET_CARRIER_RESTRICTIONS
  | .getAllowedCarriers => .GET_CARRIER_RESTRICTIONS
  | .setIndicationFilter => .SET_UNSOLICITED_RESPONSE_FILTER
  | .setSimCardPower => .SET_SIM_CARD_POWER
  | .setSimCardPower_1_1 => .SET_SIM_CARD_POWER
  | .setCarrierInfoForImsiEncryption => .SET_CARRIER_INFO_IMSI_ENCRYPTION
  | .startKeepalive => .START_KEEPALIVE
  | .stopKeepalive => .STOP_KEEPALIVE

/-- `s_commands`. -/
def commands : List (Nat × Option ResponseFunction) :=
  open RilRequest in [
    (0, none),
    (number .GET_SIM_STATUS, some (.radio .getIccCardStatus)),
    (number .ENTER_SIM_PIN, some (.radio .supplyIccPinForApp)),
    (number .ENTER_SIM_PUK, some (.radio .supplyIccPukForApp)),
    (number .ENTER_SIM_PIN2, some (.radio .supplyIccPin2ForApp)),
    (number .ENTER_SIM_PUK2, some (.radio .supplyIccPuk2ForApp)),
    (number .CHANGE_SIM_PIN, some (.radio .changeIccPinForApp)),
    (number .CHANGE_SIM_PIN2, some (.radio .changeIccPin2ForApp)),
    (number .ENTER_NETWORK_DEPERSONALIZATION, some (.radio .supplyNetworkDepersonalization)),
    (number .GET_CURRENT_CALLS, some (.radio .getCurrentCalls)),
    (number .DIAL, some (.radio .dial)),
    (number .GET_IMSI, some (.radio .getImsiForApp)),
    (number .HANGUP, some (.radio .hangup)),
    (number .HANGUP_WAITING_OR_BACKGROUND, some (.radio .hangupWaitingOrBackground)),
    (number .HANGUP_FOREGROUND_RESUME_BACKGROUND, some (.radio .hangupForegroundResumeBackground)),
    (number .SWITCH_WAITING_OR_HOLDING_AND_ACTIVE, some (.radio .switchWaitingOrHoldingAndActive)),
    (number .CONFERENCE, some (.radio .conference)),
    (number .UDUB, some (.radio .rejectCall)),
    (number .LAST_CALL_FAIL_CAUSE, some (.radio .getLastCallFailCause)),
    (number .SIGNAL_STRENGTH, some (.radio .getSignalStrength)),
    (number .VOICE_REGISTRATION_STATE, some (.radio .getVoiceRegistrationState)),
    (number .DATA_REGISTRATION_STATE, some (.radio .getDataRegistrationState)),
    (number .OPERATOR, some (.radio .getOperator)),
    (number .RADIO_POWER, some (.radio .setRadioPower)),
    (number .DTMF, some (.radio .sendDtmf)),
    (number .SEND_SMS, some (.radio .sendSms)),
    (number .SEND_SMS_EXPECT_MORE, some (.radio .sendSMSExpectMore)),
    (number .SETUP_DATA_CALL, some (.radio .setupDataCall)),
    (number SIM_IO, some (.radio .iccIOForApp)),
    (number .SEND_USSD, some (.radio .sendUssd)),
    (number .CANCEL_USSD, some (.radio .cancelPendingUssd)),
    (number .GET_CLIR, some (.radio .getClir)),
    (number .SET_CLIR, some (.radio .setClir)),
    (number .QUERY_CALL_FORWARD_STATUS, some (.radio .getCallForwardStatus)),
    (number .SET_CALL_FORWARD, some (.radio .setCallForward)),
    (number .QUERY_CALL_WAITING, some (.radio .getCallWaiting)),
    (number .SET_CALL_WAITING, some (.radio .setCallWaiting)),
    (number .SMS_ACKNOWLEDGE, some (.radio .acknowledgeLastIncomingGsmSms)),
    (number .GET_IMEI, none),
    (number .GET_IMEISV, none),
    (number .ANSWER, some (.radio .acceptCall)),
    (number .DEACTIVATE_DATA_CALL, some (.radio .deactivateDataCall)),
    (number .QUERY_FACILITY_LOCK, some (.radio .getFacilityLockForApp)),
    (number .SET_FACILITY_LOCK, some (.radio .setFacilityLockForApp)),
    (number .CHANGE_BARRING_PASSWORD, some (.radio .setBarringPassword)),
    (number .QUERY_NETWORK_SELECTION_MODE, some (.radio .getNetworkSelectionMode)),
    (number .SET_NETWORK_SELECTION_AUTOMATIC, some (.radio .setNetworkSelectionModeAutomatic)),
    (number .SET_NETWORK_SELECTION_MANUAL, some (.radio .setNetworkSelectionModeManual)),
    (number .QUERY_AVAILABLE_NETWORKS, some (.radio .getAvailableNetworks)),
    (number .DTMF_START, some (.radio .startDtmf)),
    (number .DTMF_STOP, some (.radio .stopDtmf)),
    (number .BASEBAND_VERSION, some (.radio .getBasebandVersion)),
    (number .SEPARATE_CONNECTION, some (.radio .separateConnection)),
    (number .SET_MUTE, some (.radio .setMute)),
    (number .GET_MUTE, some (.radio .getMute)),
    (number .QUERY_CLIP, some (.radio .getClip)),
    (number .LAST_DATA_CALL_FAIL_CAUSE, none),
    (number .DATA_CALL_LIST, some (.radio .getDataCallList)),
    (number RESET_RADIO, none),
    (number .OEM_HOOK_RAW, some .sendRequestRaw),
    (number .OEM_HOOK_STRINGS, some .sendRequestStrings),
    (number .SCREEN_STATE, some (.radio .sendDeviceState)),
    (number .SET_SUPP_SVC_NOTIFICATION, some (.radio .setSuppServiceNotifications)),
    (number .WRITE_SMS_TO_SIM, some (.radio .writeSmsToSim)),
    (number .DELETE_SMS_ON_SIM, some (.radio .deleteSmsOnSim)),
    (number .SET_BAND_MODE, some (.radio .setBandMode)),
    (number .QUERY_AVAILABLE_BAND_MODE, some (.radio .getAvailableBandModes)),
    (number .STK_GET_PROFILE, none),
    (number .STK_SET_PROFILE, none),
    (number .STK_SEND_ENVELOPE_COMMAND, some (.radio .sendEnvelope)),
    (number .STK_SEND_TERMINAL_RESPONSE, some (.radio .sendTerminalResponseToSim)),
    (number .STK_HANDLE_CALL_SETUP_REQUESTED_FROM_SIM,
      some (.radio .handleStkCallSetupRequestFromSim)),
    (number .EXPLICIT_CALL_TRANSFER, some (.radio .explicitCallTransfer)),
    (number .SET_PREFERRED_NETWORK_TYPE, some (.radio .setPreferredNetworkType)),
    (number .GET_PREFERRED_NETWORK_TYPE, some (.radio .getPreferredNetworkType)),
    (number .GET_NEIGHBORING_CELL_IDS, some (.radio .getNeighboringCids)),
    (number .SET_LOCATION_UPDATES, some (.radio .setLocationUpdates)),
    (number .CDMA_SET_SUBSCRIPTION_SOURCE, some (.radio .setCdmaSubscriptionSource)),
    (number .CDMA_SET_ROAMING_PREFERENCE, some (.radio .setCdmaRoamingPreference)),
    (number .CDMA_QUERY_ROAMING_PREFERENCE, some (.radio .getCdmaRoamingPreference)),
    (number .SET_TTY_MODE, some (.radio .setTTYMode)),
    (number .QUERY_TTY_MODE, some (.radio .getTTYMode)),
    (number .CDMA_SET_PREFERRED_VOICE_PRIVACY_MODE, some (.radio .setPreferredVoicePrivacy)),
    (number .CDMA_QUERY_PREFERRED_VOICE_PRIVACY_MODE, some (.radio .getPreferredVoicePrivacy)),
    (number .CDMA_FLASH, some (.radio .sendCDMAFeatureCode)),
    (number .CDMA_BURST_DTMF, some (.radio .sendBurstDtmf)),
    (number .CDMA_VALIDATE_AND_WRITE_AKEY, none),
    (number .CDMA_SEND_SMS, some (.radio .sendCdmaSms)),
    (number .CDMA_SMS_ACKNOWLEDGE, some (.radio .acknowledgeLastIncomingCdmaSms)),
    (number .GSM_GET_BROADCAST_SMS_CONFIG, some (.radio .getGsmBroadcastConfig)),
    (number .GSM_SET_BROADCAST_SMS_CONFIG, some (.radio .setGsmBroadcastConfig)),
    (number .GSM_SMS_BROADCAST_ACTIVATION, some (.radio .setGsmBroadcastActivation)),
    (number .CDMA_GET_BROADCAST_SMS_CONFIG, some (.radio .getCdmaBroadcastConfig)),
    (number .CDMA_SET_BROADCAST_SMS_CONFIG, some (.radio .setCdmaBroadcastConfig)),
    (number .CDMA_SMS_BROADCAST_ACTIVATION, some (.radio .setCdmaBroadcastActivation)),
    (number .CDMA_SUBSCRIPTION, some (.radio .getCDMASubscription)),
    (number .CDMA_WRITE_SMS_TO_RUIM, some (.radio .writeSmsToRuim)),
    (number .CDMA_DELETE_SMS_ON_RUIM, some (.radio .deleteSmsOnRuim)),
    (number .DEVICE_IDENTITY, some (.radio .getDeviceIdentity)),
    (number .EXIT_EMERGENCY_CALLBACK_MODE, some (.radio .exitEmergencyCallbackMode)),
    (number .GET_SMSC_ADDRESS, some (.radio .getSmscAddress)),
    (number .SET_SMSC_ADDRESS, some (.radio .setSmscAddress)),
    (number .REPORT_SMS_MEMORY_STATUS, some (.radio .reportSmsMemoryStatus)),
    (number .REPORT_STK_SERVICE_IS_RUNNING, some (.radio .reportStkServiceIsRunning)),
    (number .CDMA_GET_SUBSCRIPTION_SOURCE, some (.radio .getCdmaSubscriptionSource)),
    (number .ISIM_AUTHENTICATION, some (.radio .requestIsimAuthentication)),
    (number .ACKNOWLEDGE_INCOMING_GSM_SMS_WITH_PDU,
      some (.radio .acknowledgeIncomingGsmSmsWithPdu)),
    (number .STK_SEND_ENVELOPE_WITH_STATUS, some (.radio .sendEnvelopeWithStatus)),
    (number .VOICE_RADIO_TECH, some (.radio .getVoiceRadioTechnology)),
    (number .GET_CELL_INFO_LIST, some (.radio .getCellInfoList)),
    (number .SET_UNSOL_CELL_INFO_LIST_RATE, some (.radio .setCellInfoListRate)),
    (number .SET_INITIAL_ATTACH_APN, some (.radio .setInitialAttachApn)),
    (number .IMS_REGISTRATION_STATE, some (.radio .getImsRegistrationState)),
    (number .IMS_SEND_SMS, some (.radio .sendImsSms)),
    (number .SIM_TRANSMIT_APDU_BASIC, some (.radio .iccTransmitApduBasicChannel)),
    (number .SIM_OPEN_CHANNEL, some (.radio .iccOpenLogicalChannel)),
    (number .SIM_CLOSE_CHANNEL, some (.radio .iccCloseLogicalChannel)),
    (number .SIM_TRANSMIT_APDU_CHANNEL, some (.radio .iccTransmitApduLogicalChannel)),
    (number .NV_READ_ITEM, some (.radio .nvReadItem)),
    (number .NV_WRITE_ITEM, some (.radio .nvWriteItem)),
    (number .NV_WRITE_CDMA_PRL, some (.radio .nvWriteCdmaPrl)),
    (number .NV_RESET_CONFIG, some (.radio .nvResetConfig)),
    (number .SET_UICC_SUBSCRIPTION, some (.radio .setUiccSubscription)),
    (number .ALLOW_DATA, some (.radio .setDataAllowed)),
    (number .GET_HARDWARE_CONFIG, some (.radio .getHardwareConfig)),
    (number .SIM_AUTHENTICATION, some (.radio .requestIccSimAuthentication)),
    (number .GET_DC_RT_INFO, none),
    (number .SET_DC_RT_INFO_RATE, none),
    (number .SET_DATA_PROFILE, some (.radio .setDataProfile)),
    (number .SHUTDOWN, some (.radio .requestShutdown)),
    (number .GET_RADIO_CAPABILITY, some (.radio .getRadioCapability)),
    (number .SET_RADIO_CAPABILITY, some (.radio .setRadioCapability)),
    (number .START_LCE, some (.radio .startLceService)),
    (number .STOP_LCE, some (.radio .stopLceService)),
    (number .PULL_LCEDATA, some (.radio .pullLceData)),
    (number .GET_ACTIVITY_INFO, some (.radio .getModemActivityInfo)),
    (number .SET_CARRIER_RESTRICTIONS, some (.radio .setAllowedCarriers)),
    (number .GET_CARRIER_RESTRICTIONS, some (.radio .getAllowedCarriers)),
    (number .SEND_DEVICE_STATE, some (.radio .sendDeviceState)),
    (number .SET_UNSOLICITED_RESPONSE_FILTER, some (.radio .setIndicationFilter)),
    (number .SET_SIM_CARD_POWER, some (.radio .setSimCardPower)),
    (number .SET_CARRIER_INFO_IMSI_ENCRYPTION, some (.radio .setCarrierInfoForImsiEncryption)),
    (number .START_NETWORK_SCAN, some (.radio .startNetworkScan)),
    (number .STOP_NETWORK_SCAN, some (.radio .stopNetworkScan)),
    (number .START_KEEPALIVE, some (.radio .startKeepalive)),
    (number .STOP_KEEPALIVE, some (.radio .stopKeepalive))]

/-- The client callback that `radio::…Response` makes with a V1_1 client. -/
def answer : Method → Method
  | .hangupForegroundResumeBackground => .hangupWaitingOrBackground
  | .setSimCardPower => .setSimCardPower_1_1
  | m => m

/-- The two functions for OEM requests call another interface. -/
def ResponseFunction.callback : ResponseFunction → Option Method
  | .radio m => some (answer m)
  | .sendRequestRaw | .sendRequestStrings => none

/-- The `IRadioResponse` callback for the completion of a request with this number. -/
def callback (requestNumber : Nat) : Option Method :=
  match commands[requestNumber]? with
  | some (_, some f) => f.callback
  | _ => none

/-- The callback named after a method; `setSimCardPower` has a second one. -/
def NamedAfter (m name : Method) : Prop :=
  name = m ∨ m = .setSimCardPower ∧ name = .setSimCardPower_1_1

instance (m name : Method) : Decidable (NamedAfter m name) :=
  inferInstanceAs (Decidable (_ ∨ _))

/-- Every entry of the table stands at its own number. -/
theorem commands_index : commands.map Prod.fst = List.range 146 := by
  decide

/-- No request that a method sends meets an empty or a foreign entry. -/
theorem callback_request (version : Int) (lowDataExpected : Bool) (m : Method) :
    callback (request version lowDataExpected m).number = some (answer m) := by
  cases m
  case sendDeviceState =>
    simp only [request]
    split <;> rfl
  all_goals rfl

theorem answer_namedAfter (m : Method) :
    NamedAfter m (answer m) ↔ m ≠ .hangupForegroundResumeBackground := by
  cases m <;> decide

end Apq8084.Ril
