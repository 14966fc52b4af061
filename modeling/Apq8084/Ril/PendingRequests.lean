import Apq8084.Lib.Chain
import Apq8084.Lib.Machine
import Mathlib.Data.Fintype.Card

/-! The pending-request lists of `ril/libril/ril.cpp`. A step is one critical section of a list
mutex, or the rest of a completion or acknowledgement after its critical section. Addresses are
the `n` places at which `calloc` may put a `RequestInfo`. -/
namespace Apq8084.Ril

def RIL_SOCKET_2 : Nat := 1
def RIL_SOCKET_3 : Nat := 2
def RIL_SOCKET_4 : Nat := 3

def RESPONSE_SOLICITED : Nat := 0
def RESPONSE_SOLICITED_ACK_EXP : Nat := 3

/-- `RequestInfo` without its link field; `pCI` points to the `requestNumber`-th command. -/
structure RequestInfo where
  token : Int
  requestNumber : Nat
  cancelled : Int
  /-- The field `local`. -/
  locallyIssued : Int
  socketId : Nat
  wasAckSent : Int
  /-- How many requests were added before this one; no field of the source. -/
  id : Nat
deriving DecidableEq

/-- What `addRequestToList` was called with. -/
structure Request where
  serial : Int
  slotId : Nat
  requestNumber : Nat
deriving DecidableEq

/-- One call of a request's `responseFunction`. -/
structure Response (ρ : Type) where
  id : Nat
  slotId : Nat
  responseType : Nat
  token : Int
  requestNumber : Nat
  reply : ρ

/-- A vendor call that has left its critical section with a listed token. -/
inductive InFlight (n : Nat) (ρ : Type) where
  | ack (pRI : Fin n)
  | complete (pRI : Fin n) (reply : ρ)

/-- The request that the call has taken out and not yet answered. -/
def InFlight.taken {n : Nat} {ρ : Type} : InFlight n ρ → Option (Fin n)
  | .ack _ => none
  | .complete pRI _ => some pRI

@[simp] theorem InFlight.taken_ack {n : Nat} {ρ : Type} (pRI : Fin n) :
    (InFlight.ack pRI : InFlight n ρ).taken = none := rfl

@[simp] theorem InFlight.taken_complete {n : Nat} {ρ : Type} (pRI : Fin n) (reply : ρ) :
    (InFlight.complete pRI reply).taken = some pRI := rfl

structure State (n : Nat) (ρ : Type) where
  /-- `s_pendingRequests`, `s_pendingRequests_socket2`, ... -/
  heads : Nat → Option (Fin n)
  pNext : Fin n → Option (Fin n)
  /-- The other fields of the memory cells, also of cells that were freed. -/
  mem : Fin n → RequestInfo
  allocated : Fin n → Bool
  inFlight : List (InFlight n ρ)
  responses : List (Response ρ)
  /-- Slot and serial of every `acknowledgeRequest`. -/
  acknowledged : List (Nat × Int)
  /-- Every request added so far, oldest first. -/
  added : List Request
  /-- The requests whose acknowledgement was accepted. -/
  acked : List Nat

/-- The vendor's calls and the framework's requests; `reply` stands for error and payload. -/
inductive Action (n : Nat) (ρ : Type) where
  | addRequestToList (serial : Int) (slotId request : Nat) (calloc : Option (Fin n))
  | onRequestAck (t : Option (Fin n))
  | onRequestComplete (t : Option (Fin n)) (reply : ρ)
  | finish (i : Nat)

namespace PendingRequests

variable {n : Nat} {ρ : Type}

/-- Which list belongs to a socket id, as the preprocessor selects it. -/
def hook (simCount socketId : Nat) : Nat :=
  if 2 ≤ simCount ∧ socketId = RIL_SOCKET_2 then 1
  else if 3 ≤ simCount ∧ socketId = RIL_SOCKET_3 then 2
  else if 4 ≤ simCount ∧ socketId = RIL_SOCKET_4 then 3
  else 0

def initial (mem : Fin n → RequestInfo) (pNext : Fin n → Option (Fin n)) : State n ρ :=
  { heads := fun _ => none, pNext, mem, allocated := fun _ => false, inFlight := []
    responses := [], acknowledged := [], added := [], acked := [] }

def links (s : State n ρ) (slot : Nat) : Links (Fin n) :=
  { head := s.heads slot, next := s.pNext }

/-- `*ppCur = v` for a place of the list of this slot. -/
def storeLink (s : State n ρ) (slot : Nat) (ppCur : Links.Place (Fin n)) (v : Option (Fin n)) :
    State n ρ :=
  match ppCur with
  | .head => { s with heads := Function.update s.heads slot v }
  | .next a => { s with pNext := Function.update s.pNext a v }

/-- `calloc` clears the fields that are not set here. -/
def addRequestToList (simCount : Nat) (s : State n ρ) (serial : Int) (slotId request : Nat)
    (a : Fin n) : State n ρ :=
  let slot := hook simCount slotId
  { s with
    mem := Function.update s.mem a
      { token := serial, requestNumber := request, cancelled := 0, locallyIssued := 0
        socketId := slotId, wasAckSent := 0, id := s.added.length }
    allocated := Function.update s.allocated a true
    pNext := Function.update s.pNext a (s.heads slot)
    heads := Function.update s.heads slot (some a)
    added := s.added ++ [⟨serial, slotId, request⟩] }

/-- The result is the return value, the address it is about, and the state after the critical
section. -/
def checkAndDequeueRequestInfoIfAck (simCount : Nat) (s : State n ρ) (pRI : Option (Fin n))
    (isAck : Bool) : Option (Fin n) × State n ρ :=
  match pRI with
  | none => (none, s)
  | some t =>
    let slot := hook simCount (s.mem t).socketId
    match (links s slot).find (· = t) (n + 1) .head with
    | none => (none, s)
    | some (ppCur, cur) =>
      if isAck then
        if (s.mem cur).wasAckSent = 1 then (some cur, s)
        else (some cur,
          { s with mem := Function.update s.mem cur { s.mem cur with wasAckSent := 1 } })
      else (some cur, storeLink s slot ppCur (s.pNext cur))

/-- The critical section of `RIL_onRequestAck`. -/
def onRequestAck (simCount : Nat) (s : State n ρ) (t : Option (Fin n)) : State n ρ :=
  match checkAndDequeueRequestInfoIfAck simCount s t true with
  | (none, _) => s
  | (some pRI, s') =>
    { s' with inFlight := s.inFlight ++ [.ack pRI], acked := s.acked ++ [(s.mem pRI).id] }

/-- The critical section of `RIL_onRequestComplete`. -/
def onRequestComplete (simCount : Nat) (s : State n ρ) (t : Option (Fin n)) (reply : ρ) :
    State n ρ :=
  match checkAndDequeueRequestInfoIfAck simCount s t false with
  | (none, _) => s
  | (some pRI, s') => { s' with inFlight := s.inFlight ++ [.complete pRI reply] }

/-- `RIL_onRequestAck` from its critical section on. -/
def finishAck (s : State n ρ) (pRI : Fin n) : State n ρ :=
  if (s.mem pRI).cancelled = 0 then
    { s with acknowledged := s.acknowledged ++ [((s.mem pRI).socketId, (s.mem pRI).token)] }
  else s

def responseType (version : Int) (r : RequestInfo) : Nat :=
  if 13 ≤ version ∧ r.wasAckSent = 1 then RESPONSE_SOLICITED_ACK_EXP else RESPONSE_SOLICITED

/-- `RIL_onRequestComplete` from its critical section on. -/
def finishComplete (version : Int) (s : State n ρ) (pRI : Fin n) (reply : ρ) : State n ρ :=
  let r := s.mem pRI
  let freed := { s with allocated := Function.update s.allocated pRI false }
  if r.locallyIssued > 0 then freed
  else if r.cancelled = 0 then
    { freed with
      responses := s.responses ++
        [⟨r.id, r.socketId, responseType version r, r.token, r.requestNumber, reply⟩] }
  else freed

def step (simCount : Nat) (version : Int) (s : State n ρ) : Action n ρ → Option (State n ρ)
  | .addRequestToList serial slotId request calloc =>
    match calloc with
    | none => some s
    | some a =>
      if s.allocated a then none else some (addRequestToList simCount s serial slotId request a)
  | .onRequestAck t => some (onRequestAck simCount s t)
  | .onRequestComplete t reply => some (onRequestComplete simCount s t reply)
  | .finish i =>
    match s.inFlight[i]? with
    | none => none
    | some (.ack pRI) => some { finishAck s pRI with inFlight := s.inFlight.eraseIdx i }
    | some (.complete pRI reply) =>
      some { finishComplete version s pRI reply with inFlight := s.inFlight.eraseIdx i }

/-- The list of a slot is `l`, front to back. -/
def Pending (s : State n ρ) (slot : Nat) (l : List (Fin n)) : Prop :=
  Links.Chain s.pNext (s.heads slot) l

/-- The requests that were taken out and are not yet answered. -/
def completing (s : State n ρ) : List (Fin n) :=
  s.inFlight.filterMap InFlight.taken

end PendingRequests

end Apq8084.Ril
