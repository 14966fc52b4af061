import Apq8084.Ril.SapResponses
import Mathlib.Algebra.Group.Int.Defs

/-! The requests of the SAP client on their way to the vendor's SIM access code. -/
namespace Apq8084.Ril.Sap

/-- The `RIL_SIM_SAP_*_REQ` structures that are encoded. -/
inductive ProtoReq where
  | connect (maxMessageSize : Int)
  | disconnect
  | apdu (type : Int) (command : Option (List UInt8))
  | transferAtr
  | power (state : Bool)
  | resetSim
  | transferCardReaderStatus
  | setTransferProtocol (protocol : Int)

/-- The memory that a request asks for. -/
inductive Allocation where
  | msg | command | buffer | payload | currRequest

structure RequestEnv where
  /-- The complete encoding of a structure. -/
  encode : ProtoReq → List UInt8
  /-- `pb_get_encoded_size` and `pb_encode` succeed. -/
  pbGetEncodedSize : Bool
  pbEncode : Bool
  memory : Allocation → Bool
  /-- The bits of `pb_size_t`. -/
  width : Nat
  /-- `RilSapSocket::getSocketById` finds a socket, and that has the functions of the vendor. -/
  sapSocket : Bool
  uimFuncs : Bool

/-- The responses that the client gets at once, and the calls of the vendor's `onRequest`. -/
structure Sent where
  callbacks : List Callback
  onRequest : List (MsgId × List UInt8)
deriving DecidableEq

/-- `sendFailedResponse`, to a client that is registered. -/
def failed (msgId : MsgId) (token : Int) : Sent :=
  { callbacks := (sendFailedResponse msgId (some token)).toList, onRequest := [] }

def createMsgHeader (env : RequestEnv) (msgId : MsgId) (token : Int) : Option MsgHeader :=
  if env.memory .msg then some ⟨some token, .request, msgId, 0, []⟩ else none

def dispatchRequest (env : RequestEnv) (req : MsgHeader) : Sent :=
  if env.memory .currRequest = false then { callbacks := [], onRequest := [] }
  else if env.uimFuncs then { callbacks := [], onRequest := [(req.id, req.payload)] }
  else { callbacks := [], onRequest := [] }

/-- `reqLen` is a `uint16_t`, and the size of the payload a `pb_size_t`. -/
def addPayloadAndDispatchRequest (env : RequestEnv) (msg : MsgHeader) (token : Int)
    (reqLen : UInt16) (reqPtr : List UInt8) : Sent :=
  if env.memory .payload = false then failed msg.id token
  else
    let msg :=
      { msg with payload := (reqPtr.take reqLen.toNat).take (reqLen.toNat % 2 ^ env.width) }
    if env.sapSocket then dispatchRequest env msg else failed msg.id token

/-- What the requests do with the structure once it is filled. -/
def encodeAndDispatch (env : RequestEnv) (msg : MsgHeader) (token : Int) (req : ProtoReq) : Sent :=
  if env.pbGetEncodedSize = false then failed msg.id token
  else if env.memory .buffer = false then failed msg.id token
  else if env.pbEncode = false then failed msg.id token
  else
    let buffer := env.encode req
    addPayloadAndDispatchRequest env msg token (UInt16.ofNat buffer.length) buffer

/-- The seven requests without a byte array. -/
def plainReq (env : RequestEnv) (msgId : MsgId) (token : Int) (req : ProtoReq) : Sent :=
  match createMsgHeader env msgId token with
  | none => failed msgId token
  | some msg => encodeAndDispatch env msg token req

def connectReq (env : RequestEnv) (token maxMsgSize : Int) : Sent :=
  plainReq env .connect token (.connect maxMsgSize)

def disconnectReq (env : RequestEnv) (token : Int) : Sent :=
  plainReq env .disconnect token .disconnect

/-- `req.command->size` is a `pb_size_t` as well. -/
def apduReq (env : RequestEnv) (token type : Int) (command : List UInt8) : Sent :=
  match createMsgHeader env .apdu token with
  | none => failed .apdu token
  | some msg =>
    if command.length > 0 then
      if env.memory .command = false then failed .apdu token
      else encodeAndDispatch env msg token (.apdu type (some (payloadOf env.width command)))
    else encodeAndDispatch env msg token (.apdu type none)

def transferAtrReq (env : RequestEnv) (token : Int) : Sent :=
  plainReq env .transferAtr token .transferAtr

def powerReq (env : RequestEnv) (token : Int) (state : Bool) : Sent :=
  plainReq env .power token (.power state)

def resetSimReq (env : RequestEnv) (token : Int) : Sent :=
  plainReq env .resetSim token .resetSim

def transferCardReaderStatusReq (env : RequestEnv) (token : Int) : Sent :=
  plainReq env .transferCardReaderStatus token .transferCardReaderStatus

def setTransferProtocolReq (env : RequestEnv) (token transferProtocol : Int) : Sent :=
  plainReq env .setTransferProtocol token (.setTransferProtocol transferProtocol)

/-- A call of a request method. -/
inductive SapCall where
  | connectReq (maxMsgSize : Int)
  | disconnectReq
  | apduReq (type : Int) (command : List UInt8)
  | transferAtrReq
  | powerReq (state : Bool)
  | resetSimReq
  | transferCardReaderStatusReq
  | setTransferProtocolReq (transferProtocol : Int)

namespace SapCall

def send (env : RequestEnv) (token : Int) : SapCall → Sent
  | .connectReq maxMsgSize => Sap.connectReq env token maxMsgSize
  | .disconnectReq => Sap.disconnectReq env token
  | .apduReq type command => Sap.apduReq env token type command
  | .transferAtrReq => Sap.transferAtrReq env token
  | .powerReq state => Sap.powerReq env token state
  | .resetSimReq => Sap.resetSimReq env token
  | .transferCardReaderStatusReq => Sap.transferCardReaderStatusReq env token
  | .setTransferProtocolReq transferProtocol =>
    Sap.setTransferProtocolReq env token transferProtocol

def id : SapCall → MsgId
  | .connectReq _ => .connect
  | .disconnectReq => .disconnect
  | .apduReq _ _ => .apdu
  | .transferAtrReq => .transferAtr
  | .powerReq _ => .power
  | .resetSimReq => .resetSim
  | .transferCardReaderStatusReq => .transferCardReaderStatus
  | .setTransferProtocolReq _ => .setTransferProtocol

/-- The request as the client means it. -/
def proto : SapCall → ProtoReq
  | .connectReq maxMsgSize => .connect maxMsgSize
  | .disconnectReq => .disconnect
  | .apduReq type command => .apdu type (if command = [] then none else some command)
  | .transferAtrReq => .transferAtr
  | .powerReq state => .power state
  | .resetSimReq => .resetSim
  | .transferCardReaderStatusReq => .transferCardReaderStatus
  | .setTransferProtocolReq transferProtocol => .setTransferProtocol transferProtocol

/-- The client gets the response of the request's own method, and the vendor nothing. -/
def Refused (token : Int) (msgId : MsgId) (s : Sent) : Prop :=
  ∃ method args, responseMethod msgId = some method ∧
    s = { callbacks := [⟨method, some token, args⟩], onRequest := [] }

/-- The client is told that the request failed, or the vendor gets its complete encoding. -/
def Whole (env : RequestEnv) (token : Int) (c : SapCall) : Prop :=
  Refused token c.id (c.send env token) ∨
    c.send env token = { callbacks := [], onRequest := [(c.id, env.encode c.proto)] }

/-- A function that the request needs fails, or the socket is missing. -/
def Fails (env : RequestEnv) : Prop :=
  env.pbGetEncodedSize = false ∨ env.pbEncode = false ∨ env.sapSocket = false

/-- The request fails on the way, or the vendor is there and 16 bits measure the encoding. -/
def Fits (env : RequestEnv) (c : SapCall) : Prop :=
  Fails env ∨ (env.uimFuncs = true ∧ (env.encode c.proto).length < 65536)

/-- The encoding of a command contains its bytes. -/
def CarriesCommand (encode : ProtoReq → List UInt8) : Prop :=
  ∀ type command, command.length ≤ (encode (.apdu type (some command))).length

variable {env : RequestEnv} {msg : MsgHeader} {token : Int} {req : ProtoReq}
  {full : List UInt8} {msgId : MsgId} {method : Method}

theorem failed_refused (hid : responseMethod msgId = some method) :
    Refused token msgId (failed msgId token) := by
  obtain ⟨args, hargs⟩ := sendFailedResponse_eq msgId (some token)
  refine ⟨method, args, hid, ?_⟩
  rw [failed, hargs, hid]
  rfl

/-- What is left of an encoding once its length went through `uint16_t`. -/
def wire (l : List UInt8) : List UInt8 := l.take (l.length % 65536)

theorem wire_eq_self_iff (l : List UInt8) : wire l = l ↔ l.length < 65536 := by
  constructor
  · intro h
    have hlen := congrArg List.length h
    rw [wire, List.length_take] at hlen
    omega
  · intro h
    rw [wire, Nat.mod_eq_of_lt h, List.take_length]

theorem length_wire_lt (l : List UInt8) : (wire l).length < 65536 := by
  rw [wire, List.length_take]
  omega

theorem two_pow_width (hw : 16 ≤ env.width) : 65536 ≤ 2 ^ env.width :=
  Nat.pow_le_pow_right (n := 2) (by decide) hw

/-- A size that fits in 16 bits is kept by `pb_size_t`. -/
theorem payload_eq_wire (hw : 16 ≤ env.width) (l : List UInt8) :
    (l.take (UInt16.ofNat l.length).toNat).take
      ((UInt16.ofNat l.length).toNat % 2 ^ env.width) = wire l := by
  have hlt : l.length % 65536 < 2 ^ env.width := by
    have := two_pow_width hw
    have : l.length % 65536 < 65536 := Nat.mod_lt _ (by decide)
    omega
  have hlen : (UInt16.ofNat l.length).toNat = l.length % 65536 := UInt16.toNat_ofNat'
  rw [hlen, Nat.mod_eq_of_lt hlt, List.take_take, Nat.min_self, wire]

/-- With enough memory, a structure that is encoded is passed on as far as 16 bits go. -/
theorem encodeAndDispatch_eq (hmem : ∀ a, env.memory a = true) (hw : 16 ≤ env.width) :
    (Fails env ∧ encodeAndDispatch env msg token req = failed msg.id token) ∨
      (¬Fails env ∧ env.uimFuncs = true ∧ encodeAndDispatch env msg token req =
        { callbacks := [], onRequest := [(msg.id, wire (env.encode req))] }) ∨
      (¬Fails env ∧ env.uimFuncs = false ∧ encodeAndDispatch env msg token req =
        { callbacks := [], onRequest := [] }) := by
  unfold Fails encodeAndDispatch addPayloadAndDispatchRequest dispatchRequest
  simp only [hmem, payload_eq_wire hw]
  cases env.pbGetEncodedSize <;> cases env.pbEncode <;> cases env.sapSocket <;>
    cases env.uimFuncs <;> simp

/-- What is encoded is `full`, or `full` cannot be measured by 16 bits anyway. -/
theorem encodeAndDispatch_whole_iff (hmem : ∀ a, env.memory a = true) (hw : 16 ≤ env.width)
    (msgId : MsgId) (hid : responseMethod msgId = some method)
    (hreq : env.encode req = full ∨ 65536 ≤ full.length) :
    (Refused token msgId (encodeAndDispatch env ⟨some token, .request, msgId, 0, []⟩ token req) ∨
      encodeAndDispatch env ⟨some token, .request, msgId, 0, []⟩ token req =
        { callbacks := [], onRequest := [(msgId, full)] }) ↔
      Fails env ∨ (env.uimFuncs = true ∧ full.length < 65536) := by
  rcases @encodeAndDispatch_eq env ⟨some token, .request, msgId, 0, []⟩ token req hmem hw with
    ⟨hfails, heq⟩ | ⟨hfails, huim, heq⟩ | ⟨hfails, huim, heq⟩
  · exact iff_of_true (Or.inl (heq ▸ failed_refused hid)) (Or.inl hfails)
  · have hnot : ¬Refused token msgId
        (encodeAndDispatch env ⟨some token, .request, msgId, 0, []⟩ token req) := by
      rintro ⟨method, args, -, h⟩
      rw [heq] at h
      cases h
    rw [or_iff_right hnot, or_iff_right hfails, heq]
    simp only [Sent.mk.injEq, List.cons.injEq, Prod.mk.injEq, true_and, and_true, huim]
    constructor
    · intro h
      rw [← h]
      exact length_wire_lt _
    · intro hlt
      have henc : env.encode req = full := hreq.resolve_right (by omega)
      rw [henc]
      exact (wire_eq_self_iff full).mpr hlt
  · refine iff_of_false ?_ ?_
    · rintro (⟨method, args, -, h⟩ | h) <;> rw [heq] at h <;> cases h
    · rintro (h | ⟨h, -⟩)
      · exact hfails h
      · rw [huim] at h
        cases h

theorem plainReq_eq (hmem : ∀ a, env.memory a = true) (msgId : MsgId) :
    plainReq env msgId token req =
      encodeAndDispatch env ⟨some token, .request, msgId, 0, []⟩ token req := by
  simp [plainReq, createMsgHeader, hmem]

theorem plainReq_whole_iff {c : SapCall} (hmem : ∀ a, env.memory a = true) (hw : 16 ≤ env.width)
    (hid : responseMethod c.id = some method)
    (hsend : c.send env token = plainReq env c.id token c.proto) :
    Whole env token c ↔ Fits env c := by
  unfold Whole Fits
  rw [hsend, plainReq_eq hmem]
  exact encodeAndDispatch_whole_iff hmem hw c.id hid (Or.inl rfl)

/-- The varint of a number below `128 ^ n`. -/
def varint : Nat → Nat → List UInt8
  | 0, _ => []
  | n + 1, k =>
    if k < 128 then [UInt8.ofNat k] else UInt8.ofNat (k % 128 + 128) :: varint n (k / 128)

/-- A negative number is extended to 64 bits. -/
def signed (k : Int) : List UInt8 := varint 10 (k % 2 ^ 64).toNat

/-- Scalars are field 1, and the command is field 2. -/
def protobuf : ProtoReq → List UInt8
  | .connect maxMessageSize => 0x08 :: signed maxMessageSize
  | .apdu type none => 0x08 :: signed type
  | .apdu type (some command) =>
    0x08 :: signed type ++ 0x12 :: varint 10 command.length ++ command
  | .power state => [0x08, if state then 1 else 0]
  | .setTransferProtocol protocol => 0x08 :: signed protocol
  | .disconnect | .transferAtr | .resetSim | .transferCardReaderStatus => []

theorem protobuf_carriesCommand : CarriesCommand protobuf := by
  intro type command
  simp only [protobuf, List.length_append]
  omega

/-- Everything that can fail succeeds, and `pb_size_t` has 32 bits. -/
def good : RequestEnv :=
  { encode := protobuf, pbGetEncodedSize := true, pbEncode := true, memory := fun _ => true
    width := 32, sapSocket := true, uimFuncs := true }

/-- 65530 bytes, which are encoded in 65536. -/
def longCommand : List UInt8 := List.replicate 65530 0

theorem length_longCommand : longCommand.length = 65530 := List.length_replicate

theorem length_protobuf_longCommand :
    (protobuf (.apdu 0 (some longCommand))).length = 65536 := by
  have htype : (signed 0).length = 1 := by decide
  have hlen : (varint 10 65530).length = 3 := by decide
  simp only [protobuf, length_longCommand, List.length_append, List.length_cons, htype, hlen]

end SapCall

end Apq8084.Ril.Sap
