import Mathlib.Algebra.Group.Nat.Defs
import Mathlib.Data.List.Basic

/-! From a message of the vendor's SIM access code to a callback of the SAP client:
`RilSapSocket.cpp` and `sap_service.cpp`. -/
namespace Apq8084.Ril.Sap

/-- The ids that the switches of `sap_service.cpp` name, and any other. -/
inductive MsgId where
  | connect | disconnect | apdu | transferAtr | power | resetSim | status
  | transferCardReaderStatus | errorResp | setTransferProtocol | other
deriving DecidableEq

inductive MsgType where
  | request | response | unsolResponse
deriving DecidableEq

/-- The `RIL_E_` values of the `Response` enumerations. -/
inductive RilE where
  | success | genericFailure | simNotReady | simAlreadyPoweredOff | simAlreadyPoweredOn
  | simAbsent | simDataNotAvailable | other
deriving DecidableEq

inductive SapResultCode where
  | success | genericFailure | cardNotAccessible | cardAlreadyPoweredOff | cardRemoved
  | cardAlreadyPoweredOn | dataNotAvailable | notSupported
deriving DecidableEq

structure ConnectRsp where
  response : Int
  maxMessageSize : Int

structure ApduRsp where
  response : RilE
  apduResponse : Option (List UInt8)

structure TransferAtrRsp where
  response : RilE
  atr : Option (List UInt8)

structure CardReaderStatusRsp where
  response : RilE
  cardReaderStatus : Int

/-- The message descriptions that are passed to `pb_decode`. -/
inductive Fields where
  | connectRsp | disconnectRsp | disconnectInd | apduRsp | transferAtrRsp | powerRsp
  | resetSimRsp | statusInd | transferCardReaderStatusRsp | errorRsp | setTransferProtocolRsp
deriving DecidableEq

/-- The structure that a description fills. -/
def Fields.Struct : Fields → Type
  | .connectRsp => ConnectRsp
  | .disconnectRsp | .errorRsp => Unit
  | .disconnectInd | .statusInd => Int
  | .apduRsp => ApduRsp
  | .transferAtrRsp => TransferAtrRsp
  | .powerRsp | .resetSimRsp | .setTransferProtocolRsp => RilE
  | .transferCardReaderStatusRsp => CardReaderStatusRsp

/-- What `messagePtr` points to. -/
structure Decoded where
  fields : Fields
  value : fields.Struct

/-- A cast of `messagePtr`; none if it points to another structure. -/
def Decoded.as (m : Decoded) (fields : Fields) : Option fields.Struct :=
  if h : m.fields = fields then some (h ▸ m.value) else none

/-- `pb_decode` fills the structure or fails. -/
abbrev PbDecode := (fields : Fields) → List UInt8 → Option fields.Struct

/-- `MsgHeader`; a token that nobody has set is none. -/
structure MsgHeader where
  token : Option Int
  type : MsgType
  id : MsgId
  error : Int
  payload : List UInt8

/-- The methods of `ISapCallback`. -/
inductive Method where
  | connectResponse | disconnectResponse | disconnectIndication | apduResponse
  | transferAtrResponse | powerResponse | resetSimResponse | statusIndication
  | transferCardReaderStatusResponse | errorResponse | transferProtocolResponse
deriving DecidableEq

/-- The arguments behind the token. -/
inductive Args where
  | none
  | int (value : Int)
  | connect (response maxMsgSize : Int)
  | code (resultCode : SapResultCode)
  | codeBytes (resultCode : SapResultCode) (bytes : List UInt8)
  | codeInt (resultCode : SapResultCode) (value : Int)
deriving DecidableEq

structure Callback where
  method : Method
  token : Option Int
  args : Args
deriving DecidableEq

/-- `SapConnectRsp::CONNECT_FAILURE`. -/
def CONNECT_FAILURE : Int := 1

/-- The switch of `SapImpl::sendFailedResponse`. -/
def sendFailedResponse (msgId : MsgId) (token : Option Int) : Option Callback :=
  match msgId with
  | .connect => some ⟨.connectResponse, token, .connect CONNECT_FAILURE 0⟩
  | .disconnect => some ⟨.disconnectResponse, token, .none⟩
  | .apdu => some ⟨.apduResponse, token, .codeBytes .genericFailure []⟩
  | .transferAtr => some ⟨.transferAtrResponse, token, .codeBytes .genericFailure []⟩
  | .power => some ⟨.powerResponse, token, .code .genericFailure⟩
  | .resetSim => some ⟨.resetSimResponse, token, .code .genericFailure⟩
  | .transferCardReaderStatus =>
    some ⟨.transferCardReaderStatusResponse, token, .codeInt .genericFailure 0⟩
  | .setTransferProtocol => some ⟨.transferProtocolResponse, token, .code .notSupported⟩
  | .status | .errorResp | .other => none

/-- The switch of `sapDecodeMessage`. -/
def fieldsOf (msgId : MsgId) (msgType : MsgType) : Option Fields :=
  match msgId with
  | .connect => some .connectRsp
  | .disconnect => some (if msgType = .response then .disconnectRsp else .disconnectInd)
  | .apdu => some .apduRsp
  | .transferAtr => some .transferAtrRsp
  | .power => some .powerRsp
  | .resetSim => some .resetSimRsp
  | .status => some .statusInd
  | .transferCardReaderStatus => some .transferCardReaderStatusRsp
  | .errorResp => some .errorRsp
  | .setTransferProtocol => some .setTransferProtocolRsp
  | .other => none

/-- `malloc` says whether the memory for the structure is there. -/
def sapDecodeMessage (pbDecode : PbDecode) (malloc : Bool) (msgId : MsgId) (msgType : MsgType)
    (payload : List UInt8) : Option Decoded :=
  match fieldsOf msgId msgType with
  | none => none
  | some fields => if malloc then (pbDecode fields payload).map fun v => ⟨fields, v⟩ else none

def convertApduResponseProtoToHal : RilE → SapResultCode
  | .success => .success
  | .genericFailure => .genericFailure
  | .simNotReady => .cardNotAccessible
  | .simAlreadyPoweredOff => .cardAlreadyPoweredOff
  | .simAbsent => .cardRemoved
  | _ => .genericFailure

def convertTransferAtrResponseProtoToHal : RilE → SapResultCode
  | .success => .success
  | .genericFailure => .genericFailure
  | .simAlreadyPoweredOff => .cardAlreadyPoweredOff
  | .simAbsent => .cardRemoved
  | .simDataNotAvailable => .dataNotAvailable
  | _ => .genericFailure

def convertPowerResponseProtoToHal : RilE → SapResultCode
  | .success => .success
  | .genericFailure => .genericFailure
  | .simAbsent => .cardRemoved
  | .simAlreadyPoweredOff => .cardAlreadyPoweredOff
  | .simAlreadyPoweredOn => .cardAlreadyPoweredOn
  | _ => .genericFailure

def convertResetSimResponseProtoToHal : RilE → SapResultCode
  | .success => .success
  | .genericFailure => .genericFailure
  | .simAbsent => .cardRemoved
  | .simNotReady => .cardNotAccessible
  | .simAlreadyPoweredOff => .cardAlreadyPoweredOff
  | _ => .genericFailure

def convertTransferCardReaderStatusResponseProtoToHal : RilE → SapResultCode
  | .success => .success
  | .genericFailure => .genericFailure
  | .simDataNotAvailable => .dataNotAvailable
  | _ => .genericFailure

/-- A missing byte array is delivered as an empty one. -/
def bytesOf (bytes : Option (List UInt8)) : List UInt8 := bytes.getD []

/-- The second switch of `processResponse`; none if a cast is wrong. -/
def deliver (msgId : MsgId) (msgType : MsgType) (token : Option Int) (m : Decoded) :
    Option (Option Callback) :=
  match msgId with
  | .connect => (m.as .connectRsp).map fun r : ConnectRsp =>
    some ⟨.connectResponse, token, .connect r.response r.maxMessageSize⟩
  | .disconnect =>
    if msgType = .response then some (some ⟨.disconnectResponse, token, .none⟩)
    else (m.as .disconnectInd).map fun disconnectType : Int =>
      some ⟨.disconnectIndication, token, .int disconnectType⟩
  | .apdu => (m.as .apduRsp).map fun r : ApduRsp =>
    some ⟨.apduResponse, token,
      .codeBytes (convertApduResponseProtoToHal r.response) (bytesOf r.apduResponse)⟩
  | .transferAtr => (m.as .transferAtrRsp).map fun r : TransferAtrRsp =>
    some ⟨.transferAtrResponse, token,
      .codeBytes (convertTransferAtrResponseProtoToHal r.response) (bytesOf r.atr)⟩
  | .power => (m.as .powerRsp).map fun response : RilE =>
    some ⟨.powerResponse, token, .code (convertPowerResponseProtoToHal response)⟩
  | .resetSim => (m.as .resetSimRsp).map fun response : RilE =>
    some ⟨.resetSimResponse, token, .code (convertResetSimResponseProtoToHal response)⟩
  | .status => (m.as .statusInd).map fun statusChange : Int =>
    some ⟨.statusIndication, token, .int statusChange⟩
  | .transferCardReaderStatus =>
    (m.as .transferCardReaderStatusRsp).map fun r : CardReaderStatusRsp =>
      some ⟨.transferCardReaderStatusResponse, token,
        .codeInt (convertTransferCardReaderStatusResponseProtoToHal r.response)
          r.cardReaderStatus⟩
  | .errorResp => some (some ⟨.errorResponse, token, .none⟩)
  | .setTransferProtocol => (m.as .setTransferProtocolRsp).map fun response : RilE =>
    some ⟨.transferProtocolResponse, token,
      .code (if response = .success then .success else .notSupported)⟩
  | .other => some none

/-- The callbacks made, and whether `sapCallback` is still registered. -/
structure Outcome where
  callbacks : List Callback
  sapCallback : Bool
deriving DecidableEq

/-- `checkReturnStatus` behind the call, if there was one. -/
def called (callback : Option Callback) (isOk : Bool) : Outcome :=
  { callbacks := callback.toList, sapCallback := callback.isNone || isOk }

/-- What the environment decides: `pb_decode`, `malloc`, and whether the client is alive. -/
structure Env where
  pbDecode : PbDecode
  malloc : Bool
  isOk : Bool

/-- `processResponse`; none if a structure was read as another one. -/
def processResponse (env : Env) (sapCallback : Bool) (rsp : MsgHeader) (msgType : MsgType) :
    Option Outcome :=
  let messagePtr := sapDecodeMessage env.pbDecode env.malloc rsp.id msgType rsp.payload
  if sapCallback = false then some { callbacks := [], sapCallback }
  else match messagePtr with
    | none => some (called (sendFailedResponse rsp.id rsp.token) env.isOk)
    | some m => (deliver rsp.id msgType rsp.token m).map fun callback => called callback env.isOk

/-- The vendor's code completes a request, whose header is at hand, or reports something. -/
inductive Arrival where
  | completed (token : Int) (id : MsgId) (e : Int) (response : List UInt8)
  | unsolicited (unsolResponse : MsgId) (data : List UInt8)

/-- The size of a payload is kept in `width` bits. -/
def payloadOf (width : Nat) (data : List UInt8) : List UInt8 := data.take (data.length % 2 ^ width)

/-- `RilSapSocket::onRequestComplete`, once it has memory for the payload. -/
def onRequestComplete (width : Nat) (token : Int) (id : MsgId) (e : Int)
    (response : List UInt8) : MsgHeader :=
  { token := some token, type := .response, id, error := e, payload := payloadOf width response }

/-- `RilSapSocket::onUnsolicitedResponse`, which leaves the token of its `rsp` unset. -/
def onUnsolicitedResponse (width : Nat) (unsolResponse : MsgId) (data : List UInt8) :
    Option MsgHeader :=
  if data = [] then none
  else some
    { token := none, type := .unsolResponse, id := unsolResponse, error := 0
      payload := payloadOf width data }

/-- What a registered client gets to see. -/
def Arrival.outcome (env : Env) (width : Nat) : Arrival → Option Outcome
  | .completed token id e response =>
    processResponse env true (onRequestComplete width token id e response) .response
  | .unsolicited unsolResponse data =>
    match onUnsolicitedResponse width unsolResponse data with
    | none => some { callbacks := [], sapCallback := true }
    | some rsp => processResponse env true rsp .unsolResponse

/-- The response of each of the eight requests of `ISap`. -/
def responseMethod : MsgId → Option Method
  | .connect => some .connectResponse
  | .disconnect => some .disconnectResponse
  | .apdu => some .apduResponse
  | .transferAtr => some .transferAtrResponse
  | .power => some .powerResponse
  | .resetSim => some .resetSimResponse
  | .transferCardReaderStatus => some .transferCardReaderStatusResponse
  | .setTransferProtocol => some .transferProtocolResponse
  | .status | .errorResp | .other => none

/-- A request is answered once, by its own method and with its token; nothing else is taken for
an answer, and no token is made up. -/
def AnswersRightly (env : Env) (width : Nat) (a : Arrival) : Prop :=
  ∃ outcome, a.outcome env width = some outcome ∧
    match a with
    | .completed token id _ _ => ∀ method, responseMethod id = some method →
        ∃ args, outcome.callbacks = [⟨method, some token, args⟩]
    | .unsolicited _ _ => ∀ c ∈ outcome.callbacks,
        (∀ id, responseMethod id ≠ some c.method) ∧ c.token ≠ none

/-- Memory and payload allow to fill the structure. -/
def Decodes (env : Env) (fields : Fields) (payload : List UInt8) : Prop :=
  env.malloc = true ∧ (env.pbDecode fields payload).isSome = true

/-- A request was completed, or what is reported is empty or an indication that does not decode. -/
def Answerable (env : Env) (width : Nat) : Arrival → Prop
  | .completed _ _ _ _ => True
  | .unsolicited unsolResponse data =>
    data = [] ∨ unsolResponse = .other ∨
      (unsolResponse = .status ∧ ¬Decodes env .statusInd (payloadOf width data)) ∨
      (unsolResponse = .errorResp ∧ ¬Decodes env .errorRsp (payloadOf width data))

variable {env : Env} {width : Nat} {msgId : MsgId} {msgType : MsgType} {token : Option Int}
  {payload : List UInt8} {m : Decoded} {rsp : MsgHeader}

/-- The method that a decoded message is delivered by. -/
def deliveryMethod (msgId : MsgId) (msgType : MsgType) : Option Method :=
  match msgId with
  | .disconnect => some (if msgType = .response then .disconnectResponse else .disconnectIndication)
  | .status => some .statusIndication
  | .errorResp => some .errorResponse
  | id => responseMethod id

theorem as_self (fields : Fields) (value : fields.Struct) :
    (Decoded.mk fields value).as fields = some value := by
  simp [Decoded.as]

theorem sendFailedResponse_eq (msgId : MsgId) (token : Option Int) :
    ∃ args, sendFailedResponse msgId token =
      (responseMethod msgId).map fun method => ⟨method, token, args⟩ := by
  cases msgId <;> first | exact ⟨_, rfl⟩ | exact ⟨.none, rfl⟩

/-- The two switches agree: no cast is wrong. -/
theorem deliver_eq (hfields : fieldsOf msgId msgType = some m.fields) (token : Option Int) :
    ∃ args, deliver msgId msgType token m =
      some ((deliveryMethod msgId msgType).map fun method => ⟨method, token, args⟩) := by
  obtain ⟨fields, value⟩ := m
  cases msgId with
  | disconnect =>
    by_cases hresp : msgType = .response
    · refine ⟨.none, ?_⟩
      simp [deliver, deliveryMethod, hresp]
    · simp only [fieldsOf, hresp, if_false, Option.some.injEq] at hfields
      subst hfields
      refine ⟨.int value, ?_⟩
      simp only [deliver, deliveryMethod, hresp, if_false, as_self]
      rfl
  | other => exact ⟨.none, rfl⟩
  | errorResp => exact ⟨.none, rfl⟩
  | _ =>
    simp only [fieldsOf, Option.some.injEq] at hfields
    subst hfields
    simp only [deliver, as_self]
    exact ⟨_, rfl⟩

theorem fields_of_decoded {malloc : Bool} {pbDecode : PbDecode}
    (h : sapDecodeMessage pbDecode malloc msgId msgType payload = some m) :
    fieldsOf msgId msgType = some m.fields := by
  unfold sapDecodeMessage at h
  split at h
  · cases h
  · rename_i fields hfields
    split_ifs at h
    obtain ⟨v, -, rfl⟩ := Option.map_eq_some_iff.mp h
    exact hfields

/-- The method by which a message reaches the client, if any does. -/
def reachedBy (env : Env) (rsp : MsgHeader) (msgType : MsgType) : Option Method :=
  match sapDecodeMessage env.pbDecode env.malloc rsp.id msgType rsp.payload with
  | none => responseMethod rsp.id
  | some _ => deliveryMethod rsp.id msgType

theorem processResponse_eq (env : Env) (rsp : MsgHeader) (msgType : MsgType) :
    ∃ args, processResponse env true rsp msgType =
      some (called ((reachedBy env rsp msgType).map fun method => ⟨method, rsp.token, args⟩)
        env.isOk) := by
  unfold reachedBy processResponse
  cases hdec : sapDecodeMessage env.pbDecode env.malloc rsp.id msgType rsp.payload with
  | none =>
    obtain ⟨args, hargs⟩ := sendFailedResponse_eq rsp.id rsp.token
    exact ⟨args, by simp [hargs]⟩
  | some m =>
    obtain ⟨args, hargs⟩ := deliver_eq (fields_of_decoded hdec) rsp.token
    exact ⟨args, by simp [hargs]⟩

theorem decoded_none_iff {fields : Fields} (hfields : fieldsOf msgId msgType = some fields) :
    sapDecodeMessage env.pbDecode env.malloc msgId msgType payload = none ↔
      ¬Decodes env fields payload := by
  simp only [sapDecodeMessage, hfields, Decodes]
  cases env.malloc <;> simp

/-- A completed request is answered by the method of its id, decodable or not. -/
theorem reachedBy_response {method : Method} (h : responseMethod rsp.id = some method) :
    reachedBy env rsp .response = some method := by
  have hdeliver : deliveryMethod rsp.id .response = some method := by
    cases hid : rsp.id <;> rw [hid] at h <;> first | exact h | cases h
  unfold reachedBy
  split
  · exact h
  · exact hdeliver

/-- Nothing is called for an unsolicited message only if it is an indication that does not
decode. -/
theorem reachedBy_unsol :
    reachedBy env rsp .unsolResponse = none ↔
      rsp.id = .other ∨ (rsp.id = .status ∧ ¬Decodes env .statusInd rsp.payload) ∨
        (rsp.id = .errorResp ∧ ¬Decodes env .errorRsp rsp.payload) := by
  unfold reachedBy
  cases hid : rsp.id with
  | status =>
    have hnone :
      sapDecodeMessage env.pbDecode env.malloc .status .unsolResponse rsp.payload = none ↔
        ¬Decodes env .statusInd rsp.payload := decoded_none_iff rfl
    split <;> simp_all [deliveryMethod, responseMethod]
  | errorResp =>
    have hnone :
      sapDecodeMessage env.pbDecode env.malloc .errorResp .unsolResponse rsp.payload = none ↔
        ¬Decodes env .errorRsp rsp.payload := decoded_none_iff rfl
    split <;> simp_all [deliveryMethod, responseMethod]
  | _ => split <;> simp [deliveryMethod, responseMethod]

/-- Whatever the client is called with for a message without a token, it is wrong. -/
theorem unsolicited_rightly_iff (htoken : rsp.token = none) :
    (∃ outcome, processResponse env true rsp .unsolResponse = some outcome ∧
      ∀ c ∈ outcome.callbacks, (∀ id, responseMethod id ≠ some c.method) ∧ c.token ≠ none) ↔
      reachedBy env rsp .unsolResponse = none := by
  obtain ⟨args, hargs⟩ := processResponse_eq env rsp .unsolResponse
  constructor
  · rintro ⟨outcome, houtcome, hall⟩
    rw [hargs, Option.some.injEq] at houtcome
    subst houtcome
    cases hreached : reachedBy env rsp .unsolResponse with
    | none => rfl
    | some method =>
      rw [hreached] at hall
      have htok := (hall _ List.mem_cons_self).2
      exact absurd htoken htok
  · intro hreached
    refine ⟨_, hargs, fun c hc => ?_⟩
    rw [hreached] at hc
    cases hc

/-- Completed requests are always answered rightly, unsolicited messages only if the client hears
nothing of them. -/
theorem answers_rightly_iff (env : Env) (width : Nat) (a : Arrival) :
    AnswersRightly env width a ↔ Answerable env width a := by
  cases a with
  | completed token id e response =>
    refine iff_of_true ?_ trivial
    obtain ⟨args, hargs⟩ :=
      processResponse_eq env (onRequestComplete width token id e response) .response
    refine ⟨_, hargs, fun method hmethod => ⟨args, ?_⟩⟩
    rw [reachedBy_response hmethod]
    rfl
  | unsolicited unsolResponse data =>
    unfold AnswersRightly Answerable Arrival.outcome onUnsolicitedResponse
    by_cases hdata : data = []
    · simp [hdata]
    · simp only [hdata, if_false, false_or]
      rw [unsolicited_rightly_iff rfl]
      exact reachedBy_unsol

/-! The client has disconnected, and the report of it is garbled. -/

def garbled : Env := { pbDecode := fun _ _ => none, malloc := true, isOk := true }

/-- A response that nobody waits for, with a token that was never set. -/
theorem unsolicited_disconnect :
    (Arrival.unsolicited .disconnect [0]).outcome garbled 16 =
        some { callbacks := [⟨.disconnectResponse, none, .none⟩], sapCallback := true } ∧
      ¬AnswersRightly garbled 16 (.unsolicited .disconnect [0]) := by
  refine ⟨rfl, ?_⟩
  rintro ⟨outcome, houtcome, hall⟩
  cases houtcome
  exact (hall _ List.mem_cons_self).2 rfl

end Apq8084.Ril.Sap
