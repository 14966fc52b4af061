import Apq8084.Lib.Stopping
import Apq8084.Ril.Commands
import Apq8084.Ril.PendingRequests

/-! The functions of `ril_service.cpp` that add a request to the pending list, copy its arguments
and pass it to the vendor. Every allocation behind `addRequestToList` may fail. -/
namespace Apq8084.Ril

def RIL_E_SUCCESS : Int := 0
def RIL_E_REQUEST_NOT_SUPPORTED : Int := 6
def RIL_E_NO_MEMORY : Int := 37
def RIL_E_INVALID_ARGUMENTS : Int := 44

def RADIO_TECH_3GPP : Int := 1
def RADIO_TECH_3GPP2 : Int := 2

def NATT_IPV4 : Int := 0
def NATT_IPV6 : Int := 1

def MAX_BANDS : Nat := 8
def MAX_CHANNELS : Nat := 32
def MAX_RADIO_ACCESS_NETWORKS : Nat := 8

def BOOL_TO_INT (b : Bool) : Int := if b then 1 else 0

/-- The bytes of a C string in front of its terminator. -/
abbrev CString := List UInt8

/-- What `size()` and `c_str()` of a `hidl_string` return. -/
structure HidlString where
  size : Nat
  cStr : CString
deriving DecidableEq

/-- The string that is made of a `const char *`. -/
def HidlString.ofCStr (s : CString) : HidlString := ⟨s.length, s⟩

/-- A string constant, or the result of `std::to_string`. -/
def cString (s : String) : CString := s.toUTF8.toList

/-! The arguments, and the structures that are built from them. `other` is a value that is not
one of the enumeration's own. -/

inductive MvnoType where
  | IMSI | GID | SPN | NONE
  | other (value : Int)

inductive RadioAccessNetworks where
  | GERAN | UTRAN | EUTRAN
  | other (value : Int)

inductive ResetNvType where
  | RELOAD | ERASE | FACTORY_RESET
  | other (value : Int)

structure CallForwardInfo where
  status : Int
  reason : Int
  serviceClass : Int
  toa : Int
  number : HidlString
  timeSeconds : Int

/-- `startTime` and `endTime` are always null. -/
structure RIL_CallForwardInfo where
  status : Int
  reason : Int
  serviceClass : Int
  toa : Int
  number : Option CString
  timeSeconds : Int

structure SimApdu where
  sessionId : Int
  cla : Int
  instruction : Int
  p1 : Int
  p2 : Int
  p3 : Int
  data : HidlString

structure RIL_SIM_APDU where
  sessionid : Int
  cla : Int
  instruction : Int
  p1 : Int
  p2 : Int
  p3 : Int
  data : Option CString

structure RadioAccessSpecifier where
  radioAccessNetwork : RadioAccessNetworks
  geranBands : List UInt32
  utranBands : List UInt32
  eutranBands : List UInt32
  channels : List UInt32

structure NetworkScanRequest where
  type : Int
  interval : Int
  specifiers : List RadioAccessSpecifier

/-- Arrays are as long as their length field says. -/
structure RIL_RadioAccessSpecifier where
  radio_access_network : RadioAccessNetworks
  bands : List UInt32
  channels : List UInt32

structure RIL_NetworkScanRequest where
  type : Int
  interval : Int
  specifiers : List RIL_RadioAccessSpecifier

structure DataProfileInfo where
  profileId : Int
  apn : HidlString
  protocol : HidlString
  roamingProtocol : HidlString
  authType : Int
  user : HidlString
  password : HidlString
  type : Int
  maxConnsTime : Int
  maxConns : Int
  waitTime : Int
  enabled : Bool
  supportedApnTypesBitmap : Int
  bearerBitmap : Int
  mtu : Int
  mvnoType : MvnoType
  mvnoMatchData : HidlString

structure RIL_DataProfileInfo where
  profileId : Int
  apn : Option CString
  protocol : Option CString
  authType : Int
  user : Option CString
  password : Option CString
  type : Int
  maxConnsTime : Int
  maxConns : Int
  waitTime : Int
  enabled : Int

structure RIL_DataProfileInfo_v15 extends RIL_DataProfileInfo where
  roamingProtocol : Option CString
  supportedTypesBitmask : Int
  bearerBitmask : Int
  mtu : Int
  mvnoType : CString
  mvnoMatchData : Option CString

structure RIL_InitialAttachApn where
  apn : Option CString
  protocol : Option CString
  authtype : Int
  username : Option CString
  password : Option CString

structure RIL_InitialAttachApn_v15 extends RIL_InitialAttachApn where
  roamingProtocol : Option CString
  supportedTypesBitmask : Int
  bearerBitmask : Int
  modemCognitive : Int
  mtu : Int
  mvnoType : CString
  mvnoMatchData : Option CString

structure GsmSmsMessage where
  smscPdu : HidlString
  pdu : HidlString

structure CdmaSmsAddress where
  digitMode : Int
  numberMode : Int
  numberType : Int
  numberPlan : Int
  digits : List UInt8

structure CdmaSmsSubaddress where
  subaddressType : Int
  odd : Bool
  digits : List UInt8

structure CdmaSmsMessage where
  teleserviceId : Int
  isServicePresent : Bool
  serviceCategory : Int
  address : CdmaSmsAddress
  subAddress : CdmaSmsSubaddress
  bearerData : List UInt8

structure ImsSmsMessage where
  tech : Int
  retry : Bool
  messageRef : Int
  cdmaMessage : List CdmaSmsMessage
  gsmMessage : List GsmSmsMessage

/-- The union of `RIL_IMS_SMS_Message`; the CDMA message is the one given to
`constructCdmaSms`. -/
inductive RIL_IMS_SMS_Content where
  | gsmMessage (smscPdu pdu : Option CString)
  | cdmaMessage (sms : CdmaSmsMessage)

structure RIL_IMS_SMS_Message where
  tech : Int
  retry : Int
  messageRef : Int
  message : RIL_IMS_SMS_Content

structure KeepaliveRequest where
  type : Int
  sourceAddress : List UInt8
  sourcePort : Int
  destinationAddress : List UInt8
  destinationPort : Int
  maxKeepaliveIntervalMillis : Int
  cid : Int

structure RIL_OpenChannelParams where
  aidPtr : Option CString
  p2 : Int

/-- The data of a request as the vendor gets it. -/
inductive Payload where
  | string (pString : Option CString)
  | strings (pStrings : List (Option CString))
  | ints (pInts : List Int)
  | callForward (cf : RIL_CallForwardInfo)
  | simApdu (apdu : RIL_SIM_APDU)
  | networkScan (scan_request : RIL_NetworkScanRequest)
  | initialAttachApn (iaa : RIL_InitialAttachApn)
  | initialAttachApn_v15 (iaa : RIL_InitialAttachApn_v15)
  | imsSms (rism : RIL_IMS_SMS_Message)
  | dataProfiles (dataProfilePtrs : List RIL_DataProfileInfo)
  | dataProfiles_v15 (dataProfilePtrs : List RIL_DataProfileInfo_v15)
  | openChannel (params : RIL_OpenChannelParams)
  | keepalive (kaReq : KeepaliveRequest)

/-- A call of a response function by `sendErrorResponse`. -/
structure ErrorResponse where
  slotId : Nat
  responseType : Nat
  serial : Int
  requestNumber : Nat
  error : Int
deriving DecidableEq

/-- A call of the vendor's `onRequest`. -/
structure OnRequest (n : Nat) where
  request : Nat
  data : Payload
  t : Fin n
  slotId : Nat

/-- What a method finds: its service object, the vendor's version and the outcomes of `calloc`. -/
structure Setting (n : Nat) where
  simCount : Nat
  version : Int
  mSlotId : Nat
  /-- Where `addRequestToList` gets its memory. -/
  place : Option (Fin n)
  /-- Whether the allocation of this number succeeds. -/
  calloc : Nat → Bool

structure World (n : Nat) (ρ : Type) where
  requests : State n ρ
  /-- How many allocations were tried. -/
  tried : Nat
  errors : List ErrorResponse
  onRequests : List (OnRequest n)

/-- Code of a request method; it stops where the method returns early. -/
abbrev Dispatch (n : Nat) (ρ : Type) (α : Type) : Type := Stopping (World n ρ) α

namespace Dispatch

variable {n : Nat} {ρ : Type}

def addRequestToList (e : Setting n) (serial : Int) (request : RilRequest) :
    Dispatch n ρ (Fin n) := fun w =>
  match e.place with
  | none => (none, w)
  | some a =>
    (some a, { w with
      requests := PendingRequests.addRequestToList e.simCount w.requests serial e.mSlotId
        request.number a })

def errorResponse (r : RequestInfo) (err : Int) : ErrorResponse :=
  ⟨r.socketId, RESPONSE_SOLICITED, r.token, r.requestNumber, err⟩

def sendErrorResponse (pRI : Fin n) (err : Int) (w : World n ρ) : World n ρ :=
  { w with errors := w.errors ++ [errorResponse (w.requests.mem pRI) err] }

/-- `sendErrorResponse` and return. -/
def refuse {α : Type} (pRI : Fin n) (err : Int) : Dispatch n ρ α :=
  Stopping.stop (sendErrorResponse pRI err)

def require (c : Prop) [Decidable c] (pRI : Fin n) : Dispatch n ρ Unit :=
  if c then pure () else refuse pRI RIL_E_INVALID_ARGUMENTS

def calloc (e : Setting n) (pRI : Fin n) : Dispatch n ρ Unit := fun w =>
  let w' := { w with tried := w.tried + 1 }
  if e.calloc w.tried then (some (), w') else (none, sendErrorResponse pRI RIL_E_NO_MEMORY w')

def copyHidlStringToRil (e : Setting n) (src : HidlString) (pRI : Fin n) (allowEmpty : Bool) :
    Dispatch n ρ (Option CString) :=
  if src.size = 0 ∧ allowEmpty = false then pure none
  else do
    calloc e pRI
    -- `strlcpy` returns the length of its source; the caller returns without a response
    if src.size + 1 ≤ src.cStr.length then Stopping.stop id else pure (some src.cStr)

/-- `CALL_ONREQUEST`. -/
def callOnRequest (e : Setting n) (request : RilRequest) (data : Payload) (pRI : Fin n) :
    Dispatch n ρ Unit :=
  Stopping.modify fun w =>
    { w with onRequests := w.onRequests ++ [⟨request.number, data, pRI, e.mSlotId⟩] }

def dispatchString (e : Setting n) (serial : Int) (request : RilRequest) (str : CString) :
    Dispatch n ρ Unit := do
  let pRI ← addRequestToList e serial request
  let pString ← copyHidlStringToRil e (.ofCStr str) pRI false
  callOnRequest e request (.string pString) pRI

def dispatchStrings (e : Setting n) (serial : Int) (request : RilRequest) (allowEmpty : Bool)
    (strs : List CString) : Dispatch n ρ Unit := do
  let pRI ← addRequestToList e serial request
  calloc e pRI
  let pStrings ← Stopping.forEach
    (fun str => copyHidlStringToRil e (.ofCStr str) pRI allowEmpty) strs
  callOnRequest e request (.strings pStrings) pRI

/-- `dispatchStrings` of a vector. -/
def dispatchStringVec (e : Setting n) (serial : Int) (request : RilRequest)
    (data : List HidlString) : Dispatch n ρ Unit := do
  let pRI ← addRequestToList e serial request
  calloc e pRI
  let pStrings ← Stopping.forEach (fun str => copyHidlStringToRil e str pRI false) data
  callOnRequest e request (.strings pStrings) pRI

def dispatchInts (e : Setting n) (serial : Int) (request : RilRequest) (ints : List Int) :
    Dispatch n ρ Unit := do
  let pRI ← addRequestToList e serial request
  calloc e pRI
  callOnRequest e request (.ints ints) pRI

def dispatchCallForwardStatus (e : Setting n) (serial : Int) (request : RilRequest)
    (callInfo : CallForwardInfo) : Dispatch n ρ Unit := do
  let pRI ← addRequestToList e serial request
  let number ← copyHidlStringToRil e callInfo.number pRI false
  callOnRequest e request (.callForward
    { status := callInfo.status, reason := callInfo.reason, serviceClass := callInfo.serviceClass
      toa := callInfo.toa, number, timeSeconds := callInfo.timeSeconds }) pRI

def dispatchIccApdu (e : Setting n) (serial : Int) (request : RilRequest) (message : SimApdu) :
    Dispatch n ρ Unit := do
  let pRI ← addRequestToList e serial request
  let data ← copyHidlStringToRil e message.data pRI false
  callOnRequest e request (.simApdu
    { sessionid := message.sessionId, cla := message.cla, instruction := message.instruction
      p1 := message.p1, p2 := message.p2, p3 := message.p3, data }) pRI

/-- A request that is added only to be refused. -/
def addAndRefuse (e : Setting n) (serial : Int) (request : RilRequest) (err : Int) :
    Dispatch n ρ Unit := do
  let pRI ← addRequestToList e serial request
  refuse pRI err

/-- The bands that belong to the network; none for a value that is no network. -/
def RadioAccessSpecifier.bands (ras_from : RadioAccessSpecifier) : Option (List UInt32) :=
  match ras_from.radioAccessNetwork with
  | .GERAN => some ras_from.geranBands
  | .UTRAN => some ras_from.utranBands
  | .EUTRAN => some ras_from.eutranBands
  | .other _ => none

def convertSpecifier (pRI : Fin n) (ras_from : RadioAccessSpecifier) :
    Dispatch n ρ RIL_RadioAccessSpecifier := do
  require (ras_from.geranBands.length ≤ MAX_BANDS ∧ ras_from.utranBands.length ≤ MAX_BANDS ∧
    ras_from.eutranBands.length ≤ MAX_BANDS ∧ ras_from.channels.length ≤ MAX_CHANNELS) pRI
  match RadioAccessSpecifier.bands ras_from with
  | none => refuse pRI RIL_E_INVALID_ARGUMENTS
  | some bands => pure ⟨ras_from.radioAccessNetwork, bands, ras_from.channels⟩

def startNetworkScan (e : Setting n) (serial : Int) (request : NetworkScanRequest) :
    Dispatch n ρ Unit := do
  let pRI ← addRequestToList e serial .START_NETWORK_SCAN
  require (request.specifiers.length ≤ MAX_RADIO_ACCESS_NETWORKS) pRI
  let specifiers ← Stopping.forEach (convertSpecifier pRI) request.specifiers
  callOnRequest e .START_NETWORK_SCAN
    (.networkScan ⟨request.type, request.interval, specifiers⟩) pRI

def convertMvnoTypeToString : MvnoType → Option CString
  | .IMSI => some (cString "imsi")
  | .GID => some (cString "gid")
  | .SPN => some (cString "spn")
  | .NONE => some (cString "")
  | .other _ => none

/-- `convertMvnoTypeToString` and the refusal of a type it does not know. -/
def mvnoTypeString (type : MvnoType) (pRI : Fin n) : Dispatch n ρ CString :=
  match convertMvnoTypeToString type with
  | none => refuse pRI RIL_E_INVALID_ARGUMENTS
  | some str => pure str

def setInitialAttachApn (e : Setting n) (serial : Int) (dataProfileInfo : DataProfileInfo)
    (modemCognitive isRoaming : Bool) : Dispatch n ρ Unit := do
  let pRI ← addRequestToList e serial .SET_INITIAL_ATTACH_APN
  if e.version ≤ 14 then
    let apn ← copyHidlStringToRil e dataProfileInfo.apn pRI true
    let protocol ← copyHidlStringToRil e
      (if isRoaming then dataProfileInfo.roamingProtocol else dataProfileInfo.protocol) pRI false
    let username ← copyHidlStringToRil e dataProfileInfo.user pRI false
    let password ← copyHidlStringToRil e dataProfileInfo.password pRI false
    callOnRequest e .SET_INITIAL_ATTACH_APN (.initialAttachApn
      { apn, protocol, authtype := dataProfileInfo.authType, username, password }) pRI
  else
    let apn ← copyHidlStringToRil e dataProfileInfo.apn pRI true
    let protocol ← copyHidlStringToRil e dataProfileInfo.protocol pRI false
    let roamingProtocol ← copyHidlStringToRil e dataProfileInfo.roamingProtocol pRI false
    let username ← copyHidlStringToRil e dataProfileInfo.user pRI false
    let password ← copyHidlStringToRil e dataProfileInfo.password pRI false
    let mvnoType ← mvnoTypeString dataProfileInfo.mvnoType pRI
    let mvnoMatchData ← copyHidlStringToRil e dataProfileInfo.mvnoMatchData pRI false
    callOnRequest e .SET_INITIAL_ATTACH_APN (.initialAttachApn_v15
      { apn, protocol, authtype := dataProfileInfo.authType, username, password, roamingProtocol
        supportedTypesBitmask := dataProfileInfo.supportedApnTypesBitmap
        bearerBitmask := dataProfileInfo.bearerBitmap
        modemCognitive := BOOL_TO_INT modemCognitive
        mtu := dataProfileInfo.mtu, mvnoType, mvnoMatchData }) pRI

def dispatchImsGsmSms (e : Setting n) (message : ImsSmsMessage) (pRI : Fin n) :
    Dispatch n ρ Unit :=
  match message.gsmMessage with
  | [gsmMessage] => do
    calloc e pRI
    let smscPdu ← copyHidlStringToRil e gsmMessage.smscPdu pRI false
    let pdu ← copyHidlStringToRil e gsmMessage.pdu pRI false
    callOnRequest e .IMS_SEND_SMS (.imsSms
      { tech := RADIO_TECH_3GPP, retry := BOOL_TO_INT message.retry
        messageRef := message.messageRef, message := .gsmMessage smscPdu pdu }) pRI
  | _ => refuse pRI RIL_E_INVALID_ARGUMENTS

def dispatchImsCdmaSms (e : Setting n) (message : ImsSmsMessage) (pRI : Fin n) :
    Dispatch n ρ Unit :=
  match message.cdmaMessage with
  | [cdmaMessage] =>
    callOnRequest e .IMS_SEND_SMS (.imsSms
      { tech := RADIO_TECH_3GPP2, retry := BOOL_TO_INT message.retry
        messageRef := message.messageRef, message := .cdmaMessage cdmaMessage }) pRI
  | _ => refuse pRI RIL_E_INVALID_ARGUMENTS

def sendImsSms (e : Setting n) (serial : Int) (message : ImsSmsMessage) :
    Dispatch n ρ Unit := do
  let pRI ← addRequestToList e serial .IMS_SEND_SMS
  if message.tech = RADIO_TECH_3GPP then dispatchImsGsmSms e message pRI
  else if message.tech = RADIO_TECH_3GPP2 then dispatchImsCdmaSms e message pRI
  else refuse pRI RIL_E_INVALID_ARGUMENTS

/-- `iccOpenLogicalChannel` from version 15 on. -/
def openLogicalChannel (e : Setting n) (serial : Int) (aid : HidlString) (p2 : Int) :
    Dispatch n ρ Unit := do
  let pRI ← addRequestToList e serial .SIM_OPEN_CHANNEL
  let aidPtr ← copyHidlStringToRil e aid pRI false
  callOnRequest e .SIM_OPEN_CHANNEL (.openChannel ⟨aidPtr, p2⟩) pRI

/-- The body of the loop of `setDataProfile` up to version 14. -/
def convertDataProfile (e : Setting n) (isRoaming : Bool) (pRI : Fin n)
    (profile : DataProfileInfo) : Dispatch n ρ RIL_DataProfileInfo := do
  let apn ← copyHidlStringToRil e profile.apn pRI true
  let protocol ← copyHidlStringToRil e
    (if isRoaming then profile.roamingProtocol else profile.protocol) pRI true
  let user ← copyHidlStringToRil e profile.user pRI true
  let password ← copyHidlStringToRil e profile.password pRI true
  pure
    { profileId := profile.profileId, apn, protocol, authType := profile.authType, user, password
      type := profile.type, maxConnsTime := profile.maxConnsTime, maxConns := profile.maxConns
      waitTime := profile.waitTime, enabled := BOOL_TO_INT profile.enabled }

/-- The body of the loop of `setDataProfile` from version 15 on. -/
def convertDataProfile_v15 (e : Setting n) (pRI : Fin n) (profile : DataProfileInfo) :
    Dispatch n ρ RIL_DataProfileInfo_v15 := do
  let apn ← copyHidlStringToRil e profile.apn pRI true
  let protocol ← copyHidlStringToRil e profile.protocol pRI false
  let roamingProtocol ← copyHidlStringToRil e profile.roamingProtocol pRI true
  let user ← copyHidlStringToRil e profile.user pRI true
  let password ← copyHidlStringToRil e profile.password pRI true
  let mvnoMatchData ← copyHidlStringToRil e profile.mvnoMatchData pRI true
  let mvnoType ← mvnoTypeString profile.mvnoType pRI
  pure
    { profileId := profile.profileId, apn, protocol, authType := profile.authType, user, password
      type := profile.type, maxConnsTime := profile.maxConnsTime, maxConns := profile.maxConns
      waitTime := profile.waitTime, enabled := BOOL_TO_INT profile.enabled, roamingProtocol
      supportedTypesBitmask := profile.supportedApnTypesBitmap
      bearerBitmask := profile.bearerBitmap, mtu := profile.mtu, mvnoType, mvnoMatchData }

def setDataProfile (e : Setting n) (serial : Int) (profiles : List DataProfileInfo)
    (isRoaming : Bool) : Dispatch n ρ Unit := do
  let pRI ← addRequestToList e serial .SET_DATA_PROFILE
  -- `dataProfiles` and `dataProfilePtrs`
  calloc e pRI
  calloc e pRI
  if e.version ≤ 14 then
    let dataProfilePtrs ← Stopping.forEach (convertDataProfile e isRoaming pRI) profiles
    callOnRequest e .SET_DATA_PROFILE (.dataProfiles dataProfilePtrs) pRI
  else
    let dataProfilePtrs ← Stopping.forEach (convertDataProfile_v15 e pRI) profiles
    callOnRequest e .SET_DATA_PROFILE (.dataProfiles_v15 dataProfilePtrs) pRI

/-- The length of an address; none for a type that is unknown. -/
def addressSize (type : Int) : Option Nat :=
  if type = NATT_IPV4 then some 4 else if type = NATT_IPV6 then some 16 else none

def startKeepalive (e : Setting n) (serial : Int) (keepalive : KeepaliveRequest) :
    Dispatch n ρ Unit := do
  let pRI ← addRequestToList e serial .START_KEEPALIVE
  require (addressSize keepalive.type = some keepalive.sourceAddress.length ∧
    addressSize keepalive.type = some keepalive.destinationAddress.length) pRI
  callOnRequest e .START_KEEPALIVE (.keepalive keepalive) pRI

end Dispatch

end Apq8084.Ril
