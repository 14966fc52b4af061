import Apq8084.Lib.LockOrder

/-! The locks of `libril`: `ril.cpp`, `ril_service.cpp`, `ril_event.cpp` and `rilSocketQueue.h`, on
up to four slots. Functions are kept as far as they lock and unlock; branches on what other code
returns go both ways. Writing to the wakeup pipe is taken not to wait. -/
namespace Apq8084.Ril.LockOrder

open Locks Locks.Code

/-- `SIM_COUNT` is at most 4. -/
abbrev Slot := Fin 4

inductive Lock where
  /-- `s_pendingRequestsMutex`, and those of the other sockets. -/
  | pendingRequests (slot : Slot)
  /-- The lock of `getRadioServiceRwlock`, for reading and for writing. -/
  | rdlock (slot : Slot)
  | wrlock (slot : Slot)
  | wakeLockCount
  /-- `listMutex` of `ril_event.cpp`. -/
  | list
  | startup
  /-- `mutex_instance` of a socket's `pendingResponseQueue`. -/
  | queue (slot : Slot)
deriving DecidableEq

inductive Resource where
  | pendingRequests (slot : Slot)
  | radioService (index : Nat)
  | wakeLockCount | list | startup
  | queue (slot : Slot)
deriving DecidableEq

/-- The first two slots have one lock. -/
def getRadioServiceRwlock (slot : Slot) : Nat := if slot = 2 then 2 else if slot = 3 then 3 else 0

def resource : Lock → Resource
  | .pendingRequests slot => .pendingRequests slot
  | .rdlock slot | .wrlock slot => .radioService (getRadioServiceRwlock slot)
  | .wakeLockCount => .wakeLockCount
  | .list => .list
  | .startup => .startup
  | .queue slot => .queue slot

/-- Readers hold a lock together. -/
def compatible : Lock → Lock → Bool
  | .rdlock _, .rdlock _ => true
  | _, _ => false

/-- A timer is added while the wake locks are counted. -/
def rank : Resource → Nat
  | .list => 1
  | _ => 0

def mutex (l : Lock) : Code Lock := block [lock l, unlock l]

/-! ### `ril_event.cpp` -/

def ril_event_add : Code Lock := mutex .list

def ril_timer_add : Code Lock := mutex .list

def ril_event_del : Code Lock :=
  block [lock .list, alt (block [unlock .list, leave .ret]) skip, unlock .list]

def processTimeouts : Code Lock := mutex .list

def processReadReadies : Code Lock := mutex .list

/-! ### Wake locks and timers, `ril.cpp` -/

def internalRequestTimedCallback : Code Lock := block [alt (leave .ret) skip, ril_timer_add]

def RIL_requestTimedCallback : Code Lock := call internalRequestTimedCallback

/-- From version 13 on, or before it. -/
def grabPartialWakeLock : Code Lock :=
  alt (block [lock .wakeLockCount, call internalRequestTimedCallback, unlock .wakeLockCount]) skip

def releaseWakeLock : Code Lock := alt (mutex .wakeLockCount) skip

def wakeTimeoutCallback : Code Lock :=
  alt (alt (mutex .wakeLockCount) skip) (alt (call releaseWakeLock) skip)

/-! ### Responses and indications -/

/-- With the lock held for reading. -/
def checkReturnStatus (slot : Slot) : Code Lock :=
  alt
    (block [unlock (.rdlock slot), lock (.wrlock slot), unlock (.wrlock slot),
      lock (.rdlock slot)])
    skip

/-- `responseFunction`, `acknowledgeRequest` and the like: any calls of the client may fail. -/
def responseFunction (slot : Slot) : Code Lock :=
  loop (alt (leave .brk) (checkReturnStatus slot))

def respond (slot : Slot) : Code Lock :=
  block [lock (.rdlock slot), responseFunction slot, unlock (.rdlock slot)]

/-- `nitzTimeReceivedInd` with the lock held for writing, until its call of the client fails. -/
def respondNitz (slot : Slot) : Code Lock :=
  alt (mutex (.wrlock slot))
    (block [lock (.wrlock slot), unlock (.wrlock slot), lock (.wrlock slot), unlock (.wrlock slot),
      lock (.rdlock slot), responseFunction slot, unlock (.rdlock slot)])

def addRequestToList (slot : Slot) : Code Lock :=
  block [alt (leave .ret) skip, mutex (.pendingRequests slot)]

def checkAndDequeueRequestInfoIfAck (slot : Slot) : Code Lock :=
  block [alt (leave .ret) skip, mutex (.pendingRequests slot)]

def RIL_onRequestAck (slot : Slot) : Code Lock :=
  block
    [call (checkAndDequeueRequestInfoIfAck slot), alt (leave .ret) skip,
      alt (respond slot) skip]

def RIL_onRequestComplete (slot : Slot) : Code Lock :=
  block
    [call (checkAndDequeueRequestInfoIfAck slot), alt (leave .ret) skip,
      -- `pRI->local`
      alt (leave .ret) skip,
      alt (block [alt grabPartialWakeLock skip, respond slot]) skip]

def RIL_onUnsolicitedResponse (slot : Slot) : Code Lock :=
  block
    [ -- `s_registerCalled`, `unsolResponseIndex`
      alt (leave .ret) skip, alt (leave .ret) skip,
      alt grabPartialWakeLock skip,
      alt (respondNitz slot) (respond slot),
      upTo .goto (block
        [alt (block [call internalRequestTimedCallback, alt (leave .goto) skip]) skip,
          -- the copy of the NITZ data
          alt (leave .goto) skip,
          leave .ret]),
      alt (call releaseWakeLock) skip]

def resendLastNITZTimeData (slot : Slot) : Code Lock := alt (respond slot) skip

def onNewCommandConnect (slot : Slot) : Code Lock :=
  block
    [call (RIL_onUnsolicitedResponse slot), call (RIL_onUnsolicitedResponse slot),
      alt (resendLastNITZTimeData slot) skip]

/-! ### The methods of the services, `ril_service.cpp` -/

def setResponseFunctions (slot : Slot) : Code Lock :=
  block [mutex (.wrlock slot), onNewCommandConnect slot]

/-- `OemHookImpl::setResponseFunctions` -/
def setOemHookFunctions (slot : Slot) : Code Lock := mutex (.wrlock slot)

def responseAcknowledgement : Code Lock := call releaseWakeLock

/-- `sendErrorResponse` calls the response function without the lock; `failed` says whether that
call of the client fails. -/
def sendErrorResponse (slot : Slot) (failed : Bool) : Code Lock :=
  if failed then
    block [unlock (.rdlock slot), lock (.wrlock slot), unlock (.wrlock slot), lock (.rdlock slot)]
  else skip

/-- A request method: it may be refused, or it calls the vendor. -/
def requestMethod (slot : Slot) (failed : Bool) : Code Lock :=
  block
    [call (addRequestToList slot), alt (leave .ret) skip,
      alt (sendErrorResponse slot failed) skip]

/-- `RIL_register` locks one service after the other. -/
def RIL_register : Code Lock :=
  block
    [alt (leave .ret) skip, alt (leave .ret) skip, alt (leave .ret) skip,
      loop (alt (leave .brk) (alt (alt (mutex (.wrlock 0)) (mutex (.wrlock 1)))
        (alt (mutex (.wrlock 2)) (mutex (.wrlock 3)))))]

/-! ### Sockets of the SIM access profile, `RilSapSocket.cpp` -/

/-- `dispatchRequest`, up to `enqueue`. -/
def dispatchRequest (slot : Slot) : Code Lock :=
  block [alt (leave .ret) skip, mutex (.queue slot)]

/-- `RilSapSocket::onRequestComplete`, with `checkAndDequeue`. -/
def onSapRequestComplete (slot : Slot) : Code Lock :=
  block [alt (leave .ret) skip, mutex (.queue slot)]

/-! ### The event loop -/

def alts (cs : List (Code Lock)) : Code Lock := cs.foldr alt skip

/-- What a vendor library may call, also from its timers. -/
def vendorCall : Code Lock :=
  alts (RIL_requestTimedCallback :: (List.finRange 4).flatMap fun slot =>
    [RIL_onRequestAck slot, RIL_onRequestComplete slot, RIL_onUnsolicitedResponse slot,
      onSapRequestComplete slot].map call)

/-- `processWakeupCallback` or `userTimerCallback`. -/
def fire : Code Lock :=
  alts [skip, call wakeTimeoutCallback, loop (alt (leave .brk) vendorCall)]

def firePending : Code Lock := loop (alt (leave .brk) fire)

def ril_event_loop : Code Lock :=
  loop (block
    [ -- `select` is interrupted, or fails
      alt (leave .cont) skip, alt (leave .ret) skip,
      processTimeouts, processReadReadies, firePending])

def eventLoop : Code Lock :=
  block
    [mutex .startup,
      -- `pipe`
      alt (leave .ret) skip,
      ril_event_add, call ril_event_loop]

/-- The sleep of `pthread_cond_wait` is one of no lock. -/
def RIL_startEventLoop : Code Lock :=
  block
    [lock .startup,
      upTo .goto (block
        [alt (leave .goto) skip,
          loop (alt (leave .brk) (block [unlock .startup, lock .startup]))]),
      unlock .startup]

/-! ### Threads -/

inductive EntryPoint where
  | RIL_startEventLoop | eventLoop | RIL_register
  | RIL_onRequestAck (slot : Slot) | RIL_onRequestComplete (slot : Slot)
  | RIL_onUnsolicitedResponse (slot : Slot) | RIL_requestTimedCallback
  | setResponseFunctions (slot : Slot) | setOemHookFunctions (slot : Slot)
  | responseAcknowledgement
  | requestMethod (slot : Slot) (failed : Bool)
  | dispatchRequest (slot : Slot) | onSapRequestComplete (slot : Slot)

namespace EntryPoint

def code : EntryPoint → Code Lock
  | RIL_startEventLoop => LockOrder.RIL_startEventLoop
  | eventLoop => LockOrder.eventLoop
  | RIL_register => LockOrder.RIL_register
  | RIL_onRequestAck slot => LockOrder.RIL_onRequestAck slot
  | RIL_onRequestComplete slot => LockOrder.RIL_onRequestComplete slot
  | RIL_onUnsolicitedResponse slot => LockOrder.RIL_onUnsolicitedResponse slot
  | RIL_requestTimedCallback => LockOrder.RIL_requestTimedCallback
  | setResponseFunctions slot => LockOrder.setResponseFunctions slot
  | setOemHookFunctions slot => LockOrder.setOemHookFunctions slot
  | responseAcknowledgement => LockOrder.responseAcknowledgement
  | requestMethod slot failed => LockOrder.requestMethod slot failed
  | dispatchRequest slot => LockOrder.dispatchRequest slot
  | onSapRequestComplete slot => LockOrder.onSapRequestComplete slot

/-- A refused request whose client does not get the error. -/
def FailsUnlocked : EntryPoint → Prop
  | requestMethod _ failed => failed = true
  | _ => False

end EntryPoint

/-- One entry point after the other. -/
inductive Performs : List EntryPoint → List (Op Lock) → Prop where
  | nil : Performs [] []
  | cons {entry : EntryPoint} {entries : List EntryPoint} {xs ys : List (Op Lock)} {e : Exit} :
      Runs entry.code xs e → Performs entries ys → Performs (entry :: entries) (xs ++ ys)

def above (h l : Lock) : Bool := decide (rank (resource h) < rank (resource l))

theorem entry_balanced {entry : EntryPoint} (h : ¬entry.FailsUnlocked) :
    balanced above entry.code = true := by
  cases entry with
  | requestMethod slot failed =>
    cases failed with
    | false =>
      clear h
      revert slot
      decide
    | true => exact absurd rfl h
  | RIL_startEventLoop | eventLoop | RIL_register | RIL_requestTimedCallback
  | responseAcknowledgement => decide
  | RIL_onRequestAck slot | RIL_onRequestComplete slot | RIL_onUnsolicitedResponse slot
  | setResponseFunctions slot | setOemHookFunctions slot | dispatchRequest slot
  | onSapRequestComplete slot =>
    clear h
    revert slot
    decide

theorem performs_run {entries : List EntryPoint} {ops : List (Op Lock)}
    (hno : ∀ entry ∈ entries, ¬entry.FailsUnlocked) (h : Performs entries ops) :
    Machine.run (acquire above) [] ops = some [] := by
  induction h with
  | nil => rfl
  | cons hr _ ih =>
    rw [List.forall_mem_cons] at hno
    exact Machine.run_trans (balanced_run (entry_balanced hno.1) hr) (ih hno.2)

/-- A thread that has not started yet. -/
def Starts (t : Thread Lock) (entries : List EntryPoint) : Prop :=
  t.done = [] ∧ Performs entries t.todo

theorem ordered_start {threads : List (Thread Lock)}
    (h : ∀ t ∈ threads, ∃ entries, Starts t entries ∧ ∀ entry ∈ entries, ¬entry.FailsUnlocked) :
    Ordered resource rank threads := by
  intro t ht
  obtain ⟨entries, ⟨hdone, htodo⟩, hno⟩ := h t ht
  rw [Thread.ops, hdone, List.nil_append]
  exact performs_run hno htodo

/-- The thread that answers a refused request keeps a lock that it never took. -/
theorem failed_keeps (slot : Slot) : ∃ ops e,
    Runs (EntryPoint.requestMethod slot true).code ops e ∧ .rdlock slot ∈ held ops := by
  have hadd : Runs (call (addRequestToList slot))
      [.lock (.pendingRequests slot), .unlock (.pendingRequests slot)] .next := by
    refine .passed (.seq (.altRight .skip) (.seq (.seq (.op _) (.seq (.op _) .skip)) .skip)) ?_
    decide
  have hsend : Runs (sendErrorResponse slot true)
      [.unlock (.rdlock slot), .lock (.wrlock slot), .unlock (.wrlock slot), .lock (.rdlock slot)]
      .next :=
    .seq (.op _) (.seq (.op _) (.seq (.op _) (.seq (.op _) .skip)))
  refine ⟨_, _, .seq hadd (.seq (.altRight .skip) (.seq (.altLeft hsend) .skip)), ?_⟩
  clear hadd hsend
  revert slot
  decide

/-- A client registers with the hook while another acknowledges. -/
def twoThreads : List (Thread Lock) :=
  [⟨[], [.lock (.wrlock 0), .unlock (.wrlock 0)]⟩,
    ⟨[], [.lock .wakeLockCount, .unlock .wakeLockCount]⟩]

end Apq8084.Ril.LockOrder
