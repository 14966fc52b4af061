import Apq8084.Ril.PayloadRecords
import Apq8084.Ril.PendingRequests
import Apq8084.Ril.WakeLock
import Mathlib.Data.List.Perm.Basic

/-! `RIL_onUnsolicitedResponse` of `ril/libril/ril.cpp`, the table of `ril_unsol_commands.h`, and
the wake lock between the vendor's threads, the event loop and the client's acknowledgements. -/
namespace Apq8084.Ril.Unsolicited

open WakeLock (internalRequestTimedCallback)
open Payloads (RESPONSE_UNSOLICITED)

def RESPONSE_UNSOLICITED_ACK_EXP : Nat := 4

def RIL_UNSOL_RESPONSE_BASE : Int := 1000

def RIL_UNSOL_NITZ_TIME_RECEIVED : Int := 1008

inductive WakeType where
  | DONT_WAKE | WAKE_PARTIAL
deriving DecidableEq

/-- The indication functions of `ril_service.cpp` that the table names. -/
inductive ResponseFunction where
  | radioStateChangedInd | callStateChangedInd | networkStateChangedInd | newSmsInd
  | newSmsStatusReportInd | newSmsOnSimInd | onUssdInd | nitzTimeReceivedInd
  | currentSignalStrengthInd | dataCallListChangedInd | suppSvcNotifyInd | stkSessionEndInd
  | stkProactiveCommandInd | stkEventNotifyInd | stkCallSetupInd | simSmsStorageFullInd
  | simRefreshInd | callRingInd | simStatusChangedInd | cdmaNewSmsInd | newBroadcastSmsInd
  | cdmaRuimSmsStorageFullInd | restrictedStateChangedInd | enterEmergencyCallbackModeInd
  | cdmaCallWaitingInd | cdmaOtaProvisionStatusInd | cdmaInfoRecInd | oemHookRawInd
  | indicateRingbackToneInd | resendIncallMuteInd | cdmaSubscriptionSourceChangedInd
  | cdmaPrlChangedInd | exitEmergencyCallbackModeInd | rilConnectedInd | voiceRadioTechChangedInd
  | cellInfoListInd | imsNetworkStateChangedInd | subscriptionStatusChangedInd
  | srvccStateNotifyInd | hardwareConfigChangedInd | radioCapabilityIndicationInd
  | onSupplementaryServiceIndicationInd | stkCallControlAlphaNotifyInd | lceDataInd | pcoDataInd
  | modemResetInd | carrierInfoForImsiEncryption | networkScanResultInd
deriving DecidableEq

structure UnsolResponseInfo where
  requestNumber : Int
  /-- `none` is `NULL`. -/
  responseFunction : Option ResponseFunction
  wakeType : WakeType
deriving DecidableEq

/-- `s_unsolResponses`. -/
def unsolResponses : List UnsolResponseInfo :=
  [⟨1000, some .radioStateChangedInd, .WAKE_PARTIAL⟩,
    ⟨1001, some .callStateChangedInd, .WAKE_PARTIAL⟩,
    ⟨1002, some .networkStateChangedInd, .WAKE_PARTIAL⟩, ⟨1003, some .newSmsInd, .WAKE_PARTIAL⟩,
    ⟨1004, some .newSmsStatusReportInd, .WAKE_PARTIAL⟩,
    ⟨1005, some .newSmsOnSimInd, .WAKE_PARTIAL⟩, ⟨1006, some .onUssdInd, .WAKE_PARTIAL⟩,
    ⟨1007, some .onUssdInd, .DONT_WAKE⟩, ⟨1008, some .nitzTimeReceivedInd, .WAKE_PARTIAL⟩,
    ⟨1009, some .currentSignalStrengthInd, .DONT_WAKE⟩,
    ⟨1010, some .dataCallListChangedInd, .WAKE_PARTIAL⟩,
    ⟨1011, some .suppSvcNotifyInd, .WAKE_PARTIAL⟩, ⟨1012, some .stkSessionEndInd, .WAKE_PARTIAL⟩,
    ⟨1013, some .stkProactiveCommandInd, .WAKE_PARTIAL⟩,
    ⟨1014, some .stkEventNotifyInd, .WAKE_PARTIAL⟩, ⟨1015, some .stkCallSetupInd, .WAKE_PARTIAL⟩,
    ⟨1016, some .simSmsStorageFullInd, .WAKE_PARTIAL⟩,
    ⟨1017, some .simRefreshInd, .WAKE_PARTIAL⟩, ⟨1018, some .callRingInd, .WAKE_PARTIAL⟩,
    ⟨1019, some .simStatusChangedInd, .WAKE_PARTIAL⟩, ⟨1020, some .cdmaNewSmsInd, .WAKE_PARTIAL⟩,
    ⟨1021, some .newBroadcastSmsInd, .WAKE_PARTIAL⟩,
    ⟨1022, some .cdmaRuimSmsStorageFullInd, .WAKE_PARTIAL⟩,
    ⟨1023, some .restrictedStateChangedInd, .WAKE_PARTIAL⟩,
    ⟨1024, some .enterEmergencyCallbackModeInd, .WAKE_PARTIAL⟩,
    ⟨1025, some .cdmaCallWaitingInd, .WAKE_PARTIAL⟩,
    ⟨1026, some .cdmaOtaProvisionStatusInd, .WAKE_PARTIAL⟩,
    ⟨1027, some .cdmaInfoRecInd, .WAKE_PARTIAL⟩, ⟨1028, some .oemHookRawInd, .WAKE_PARTIAL⟩,
    ⟨1029, some .indicateRingbackToneInd, .WAKE_PARTIAL⟩,
    ⟨1030, some .resendIncallMuteInd, .WAKE_PARTIAL⟩,
    ⟨1031, some .cdmaSubscriptionSourceChangedInd, .WAKE_PARTIAL⟩,
    ⟨1032, some .cdmaPrlChangedInd, .WAKE_PARTIAL⟩,
    ⟨1033, some .exitEmergencyCallbackModeInd, .WAKE_PARTIAL⟩,
    ⟨1034, some .rilConnectedInd, .WAKE_PARTIAL⟩,
    ⟨1035, some .voiceRadioTechChangedInd, .WAKE_PARTIAL⟩,
    ⟨1036, some .cellInfoListInd, .WAKE_PARTIAL⟩,
    ⟨1037, some .imsNetworkStateChangedInd, .WAKE_PARTIAL⟩,
    ⟨1038, some .subscriptionStatusChangedInd, .WAKE_PARTIAL⟩,
    ⟨1039, some .srvccStateNotifyInd, .WAKE_PARTIAL⟩,
    ⟨1040, some .hardwareConfigChangedInd, .WAKE_PARTIAL⟩, ⟨1041, none, .WAKE_PARTIAL⟩,
    ⟨1042, some .radioCapabilityIndicationInd, .WAKE_PARTIAL⟩,
    ⟨1043, some .onSupplementaryServiceIndicationInd, .WAKE_PARTIAL⟩,
    ⟨1044, some .stkCallControlAlphaNotifyInd, .WAKE_PARTIAL⟩,
    ⟨1045, some .lceDataInd, .WAKE_PARTIAL⟩, ⟨1046, some .pcoDataInd, .WAKE_PARTIAL⟩,
    ⟨1047, some .modemResetInd, .WAKE_PARTIAL⟩,
    ⟨1048, some .carrierInfoForImsiEncryption, .WAKE_PARTIAL⟩,
    ⟨1049, some .networkScanResultInd, .WAKE_PARTIAL⟩]


/-- The entry for a code; `remapUnsol` is empty on this device. -/
def unsolResponseInfo (unsolResponse : Int) : Option UnsolResponseInfo :=
  let unsolResponseIndex := unsolResponse - RIL_UNSOL_RESPONSE_BASE
  if unsolResponseIndex < 0 ∨ (unsolResponses.length : Int) ≤ unsolResponseIndex then none
  else unsolResponses[unsolResponseIndex.toNat]?

/-- What an indication function did with the message. -/
inductive IndEnd where
  /-- The callback of the client was called. -/
  | called
  /-- The message was invalid. -/
  | dropped
  /-- The pointer to the client's callbacks is `NULL`. -/
  | noClient
deriving DecidableEq

/-- What the indication function returns: only the one for the time reports a missing client. -/
def ret : Option ResponseFunction → IndEnd → Int
  | some .nitzTimeReceivedInd, .noClient => -1
  | _, _ => 0

/-- What passes between the daemon and the client, in its order. -/
inductive Message where
  /-- `heard` is whether the client's callback was called. -/
  | indication (unsolResponse : Int) (responseFunction : Option ResponseFunction)
      (responseType : Nat) (heard : Bool)
  /-- `resendLastNITZTimeData`. -/
  | resentNITZTimeData (responseType : Nat) (heard : Bool)
  /-- The answer to a request. -/
  | response (responseType : Nat) (heard : Bool)
  | responseAcknowledgement
deriving DecidableEq

/-- Where a call of a vendor's thread stands. -/
inductive Call where
  /-- In `RIL_onUnsolicitedResponse`, before the response function. -/
  | responding (unsolResponse : Int) (info : UnsolResponseInfo)
  /-- In `RIL_onUnsolicitedResponse`, after the response function. -/
  | responded (unsolResponse : Int) (info : UnsolResponseInfo) (ret : Int)
  /-- In `RIL_onRequestComplete`, before the response function. -/
  | completing (responseType : Nat)
deriving DecidableEq

structure State where
  lock : WakeLock.State
  /-- `s_registerCalled`. -/
  registerCalled : Bool
  calls : List Call
  /-- Whether `s_lastNITZTimeData` is not `NULL`. -/
  lastNITZTimeData : Bool
  traffic : List Message

def initial : State :=
  { lock := WakeLock.initial, registerCalled := false, calls := [], lastNITZTimeData := false
    traffic := [] }

inductive Action where
  /-- With callbacks of a version that is not too old; a second call is ignored. -/
  | RIL_register
  /-- Up to the response function. -/
  | RIL_onUnsolicitedResponse (unsolResponse : Int) (calloc : Option Nat)
  /-- The response function of one of the calls. -/
  | responseFunction (call : Nat) (indEnd : IndEnd)
  /-- What `RIL_onUnsolicitedResponse` does after it; `copied` is whether the copy of the time
  could be allocated. -/
  | returns (call : Nat) (calloc : Option Nat) (copied : Bool)
  /-- Up to the response function. -/
  | RIL_onRequestComplete (wasAckSent : Bool) (calloc : Option Nat)
  | resendLastNITZTimeData (indEnd : IndEnd)
  | responseAcknowledgement
  | userTimerCallback (p : Nat)
deriving DecidableEq

section version

variable (version : Int)

def responseType (info : UnsolResponseInfo) : Nat :=
  if 13 ≤ version ∧ info.wakeType = .WAKE_PARTIAL then RESPONSE_UNSOLICITED_ACK_EXP
  else RESPONSE_UNSOLICITED

/-- A new call of `RIL_onUnsolicitedResponse`; an allocation does not return what is in use. -/
def onUnsolicitedResponse (s : State) (unsolResponse : Int) (calloc : Option Nat) :
    Option State :=
  if s.registerCalled = false then some s
  else
    match unsolResponseInfo unsolResponse with
    | none => some s
    | some info =>
      match info.wakeType with
      | .DONT_WAKE => some { s with calls := .responding unsolResponse info :: s.calls }
      | .WAKE_PARTIAL =>
        (WakeLock.step version s.lock (.grabPartialWakeLock calloc)).map fun lock =>
          { s with lock := lock, calls := .responding unsolResponse info :: s.calls }

/-- The new timer is the last one; the one before is cancelled. -/
def scheduleTimeout (lock : WakeLock.State) (calloc : Option Nat) : Option WakeLock.State :=
  match internalRequestTimedCallback lock calloc 0 with
  | (none, _) => none
  | (some p, lock) => some { lock.cancelLast with lastWakeTimeoutInfo := some p }

/-- `error_exit`. -/
def errorExit (s : State) (info : UnsolResponseInfo) : State :=
  match info.wakeType with
  | .DONT_WAKE => s
  | .WAKE_PARTIAL => { s with lock := WakeLock.releaseWakeLock version s.lock }

/-- The copy for a client that is not connected. -/
def saveNITZTimeData (s : State) (unsolResponse : Int) (info : UnsolResponseInfo) (ret : Int)
    (copied : Bool) : State :=
  if ret ≠ 0 ∧ unsolResponse = RIL_UNSOL_NITZ_TIME_RECEIVED then
    if copied then { s with lastNITZTimeData := true }
    else errorExit version { s with lastNITZTimeData := false } info
  else s

/-- The rest of a call of `RIL_onUnsolicitedResponse`. -/
def finish (s : State) (unsolResponse : Int) (info : UnsolResponseInfo) (ret : Int)
    (calloc : Option Nat) (copied : Bool) : State :=
  if version < 13 ∧ info.wakeType = .WAKE_PARTIAL then
    match scheduleTimeout s.lock calloc with
    | none => errorExit version s info
    | some lock => saveNITZTimeData version { s with lock := lock } unsolResponse info ret copied
  else saveNITZTimeData version s unsolResponse info ret copied

def step (s : State) : Action → Option State
  | .RIL_register => some { s with registerCalled := true }
  | .RIL_onUnsolicitedResponse unsolResponse calloc =>
    onUnsolicitedResponse version s unsolResponse calloc
  | .responseFunction i indEnd =>
    match s.calls[i]? with
    | some (.responding unsolResponse info) =>
      some { s with
        calls := .responded unsolResponse info (ret info.responseFunction indEnd) ::
          s.calls.eraseIdx i
        traffic := s.traffic ++ [.indication unsolResponse info.responseFunction
          (responseType version info) (info.responseFunction.isSome && indEnd = .called)] }
    | some (.completing responseType) =>
      some { s with
        calls := s.calls.eraseIdx i
        traffic := s.traffic ++ [.response responseType (indEnd = .called)] }
    | _ => none
  | .returns i calloc copied =>
    match s.calls[i]? with
    | some (.responded unsolResponse info ret) =>
      if calloc.all (fun p => (s.lock.timers p).isNone) then
        some (finish version { s with calls := s.calls.eraseIdx i } unsolResponse info ret calloc
          copied)
      else none
    | _ => none
  | .RIL_onRequestComplete wasAckSent calloc =>
    if 13 ≤ version ∧ wasAckSent = true then
      (WakeLock.step version s.lock (.grabPartialWakeLock calloc)).map fun lock =>
        { s with lock := lock, calls := .completing RESPONSE_SOLICITED_ACK_EXP :: s.calls }
    else some { s with calls := .completing RESPONSE_SOLICITED :: s.calls }
  | .resendLastNITZTimeData indEnd =>
    if s.lastNITZTimeData = true then
      -- no wake lock is taken here, although the client is asked for an acknowledgement
      some { s with
        lastNITZTimeData := decide (ret (some .nitzTimeReceivedInd) indEnd ≠ 0)
        traffic := s.traffic ++ [.resentNITZTimeData
          (if 13 ≤ version then RESPONSE_UNSOLICITED_ACK_EXP else RESPONSE_UNSOLICITED)
          (indEnd = .called)] }
    else some s
  | .responseAcknowledgement =>
    some { s with
      lock := WakeLock.releaseWakeLock version s.lock
      traffic := s.traffic ++ [.responseAcknowledgement] }
  | .userTimerCallback p =>
    (WakeLock.step version s.lock (.userTimerCallback p)).map fun lock => { s with lock := lock }

end version

/-- The call took the lock, or owes it a timer, where the version leaves that to the end. -/
def Call.Scheduling : Call → Prop
  | .responding _ info | .responded _ info _ => info.wakeType = .WAKE_PARTIAL
  | .completing _ => False

/-- A lock that is held has a timer to drop it, unless one is still `owed`. -/
structure Expiring (lock : WakeLock.State) (owed : Prop) : Prop where
  held_live : lock.held = true →
    (∃ p, lock.lastWakeTimeoutInfo = some p ∧ lock.LiveTimer p) ∨ owed
  live_last : ∀ p, lock.LiveTimer p → lock.lastWakeTimeoutInfo = some p
  last_queued : ∀ p, lock.lastWakeTimeoutInfo = some p → lock.timers p ≠ none

/-- The timer a state still owes to the lock. -/
def State.Owed (version : Int) (s : State) : Prop :=
  version < 13 ∧ ∃ call ∈ s.calls, call.Scheduling

variable {version : Int} {s t : State} {lock lock' : WakeLock.State} {owed owed' : Prop}
variable {p q : Nat} {calloc : Option Nat} {info : WakeLock.UserCallbackInfo} {as : List Action}

theorem Expiring.mono (h : Expiring lock owed) (howed : owed → owed') : Expiring lock owed' :=
  ⟨fun hheld => (h.held_live hheld).imp_right howed, h.live_last, h.last_queued⟩

/-- A lock that is not held owes no timer. -/
theorem expiring_dropped (h : Expiring lock owed) (hheld : lock'.held = false)
    (hlast : lock'.lastWakeTimeoutInfo = lock.lastWakeTimeoutInfo)
    (htimers : lock'.timers = lock.timers) : Expiring lock' owed' := by
  refine ⟨fun hheld' => ?_, fun p hp => ?_, fun p hp => ?_⟩
  · rw [hheld] at hheld'
    cases hheld'
  · rw [hlast]
    refine h.live_last p ?_
    rwa [WakeLock.State.LiveTimer, htimers] at hp
  · rw [htimers]
    exact h.last_queued p (hlast ▸ hp)

/-- The timer that was requested last is the only one that is live. -/
theorem expiring_requested (h : Expiring lock owed) (hp : lock.timers p = none)
    (htimers : lock'.timers = Function.update lock.timers p (some ⟨0⟩))
    (hlast : lock'.lastWakeTimeoutInfo = lock.lastWakeTimeoutInfo) :
    Expiring { lock'.cancelLast with lastWakeTimeoutInfo := some p } owed' := by
  have hne : lock.lastWakeTimeoutInfo ≠ some p := fun hlast => h.last_queued p hlast hp
  have hlive : ∀ q, { lock'.cancelLast with lastWakeTimeoutInfo := some p :
      WakeLock.State }.LiveTimer q ↔ lock'.LiveTimer q ∧ lock'.lastWakeTimeoutInfo ≠ some q :=
    fun q => WakeLock.cancelLast_live
  have hpLive : lock'.LiveTimer p := ⟨⟨0⟩, by rw [htimers, Function.update_self], rfl⟩
  refine ⟨fun _ => .inl ⟨p, rfl, ?_⟩, fun q hq => ?_, fun q hq => ?_⟩
  · exact (hlive p).mpr ⟨hpLive, hlast ▸ hne⟩
  · obtain ⟨⟨info, hinfo, hzero⟩, hnot⟩ := (hlive q).mp hq
    by_cases hqp : q = p
    · rw [hqp]
    · -- what was live before is the last one, which is cancelled
      rw [htimers, Function.update_of_ne hqp] at hinfo
      rw [hlast] at hnot
      exact absurd (h.live_last q ⟨info, hinfo, hzero⟩) hnot
  · cases hq
    refine WakeLock.cancelLast_queued.mpr ?_
    simp [htimers]

theorem expiring_scheduleTimeout (h : Expiring lock owed)
    (hfresh : calloc.all (fun p => (lock.timers p).isNone) = true)
    (hs : scheduleTimeout lock calloc = some lock') : Expiring lock' owed' := by
  cases calloc with
  | none => cases hs
  | some p =>
    cases hs
    exact expiring_requested h (by simpa using hfresh) rfl rfl

theorem expiring_grab (h : Expiring lock owed)
    (hs : WakeLock.step version lock (.grabPartialWakeLock calloc) = some lock')
    (howed : version < 13 ∨ owed → owed') : Expiring lock' owed' := by
  have hgrab : lock' = WakeLock.grabPartialWakeLock version lock calloc ∧
      ∀ p, calloc = some p → lock.timers p = none := by
    cases calloc with
    | none =>
      cases hs
      exact ⟨rfl, nofun⟩
    | some p =>
      cases hp : lock.timers p with
      | none =>
        simp only [WakeLock.step, hp, Option.some.injEq] at hs
        exact ⟨hs.symm, by simpa using hp⟩
      | some info => simp [WakeLock.step, hp] at hs
  obtain ⟨rfl, hfresh⟩ := hgrab
  unfold WakeLock.grabPartialWakeLock
  split
  case isTrue hv =>
    cases calloc with
    | none => exact expiring_dropped h rfl rfl rfl
    | some p => exact expiring_requested h (hfresh p rfl) rfl rfl
  case isFalse hv =>
    exact ⟨fun _ => .inr (howed (.inl (by omega))), h.live_last, h.last_queued⟩

theorem expiring_cancelled (h : Expiring lock owed) (hheld : lock.held = false) :
    Expiring lock.cancelLast owed' := by
  refine ⟨fun hheld' => ?_, fun q hq => ?_, fun q hq => ?_⟩
  · rw [WakeLock.cancelLast_held, hheld] at hheld'
    cases hheld'
  · rw [WakeLock.cancelLast_last]
    exact h.live_last q (WakeLock.cancelLast_live.mp hq).1
  · rw [WakeLock.cancelLast_last] at hq
    exact WakeLock.cancelLast_queued.mpr (h.last_queued q hq)

theorem expiring_release (h : Expiring lock owed) :
    Expiring (WakeLock.releaseWakeLock version lock) (13 ≤ version ∧ owed) := by
  unfold WakeLock.releaseWakeLock
  split
  case isTrue hv =>
    split
    · exact ⟨fun hheld => (h.held_live hheld).imp_right fun howed => ⟨hv, howed⟩, h.live_last,
        h.last_queued⟩
    · have hdropped : Expiring { lock with wakelockCount := 0 }.releaseKernelLock owed :=
        expiring_dropped h rfl rfl rfl
      exact expiring_cancelled hdropped rfl
  case isFalse => exact expiring_dropped h rfl rfl rfl

/-- The timer that fires is forgotten; if it is live the lock is dropped. -/
theorem userTimerCallback_facts (version : Int) (hp : lock.timers p = some info) :
    let lock' := WakeLock.userTimerCallback version lock p info
    (lock'.held = true → lock.held = true ∧ ¬lock.LiveTimer p) ∧
    lock'.lastWakeTimeoutInfo =
      (if lock.lastWakeTimeoutInfo = some p then none else lock.lastWakeTimeoutInfo) ∧
    lock'.timers = Function.update lock.timers p none := by
  have hlive : lock.LiveTimer p ↔ info.userParam = 0 := by
    constructor
    · rintro ⟨info', hinfo', hzero⟩
      rw [hp] at hinfo'
      cases hinfo'
      exact hzero
    · exact fun hzero => ⟨info, hp, hzero⟩
  rw [hlive]
  by_cases hzero : info.userParam = 0
  · by_cases hv : 13 ≤ version <;>
      simp [WakeLock.userTimerCallback, WakeLock.wakeTimeoutCallback, WakeLock.releaseWakeLock,
        WakeLock.State.releaseKernelLock, hzero, hv]
  · simp [WakeLock.userTimerCallback, WakeLock.wakeTimeoutCallback, hzero]

theorem expiring_fire (h : Expiring lock owed) (hp : lock.timers p = some info) :
    Expiring (WakeLock.userTimerCallback version lock p info) owed := by
  obtain ⟨hheld, hlast, htimers⟩ := userTimerCallback_facts version hp
  generalize WakeLock.userTimerCallback version lock p info = lock' at *
  have hlive : ∀ q, lock'.LiveTimer q ↔ lock.LiveTimer q ∧ q ≠ p := by
    intro q
    unfold WakeLock.State.LiveTimer
    rw [htimers]
    by_cases hqp : q = p <;> simp [hqp]
  refine ⟨fun hheld' => ?_, fun q hq => ?_, fun q hq => ?_⟩
  · obtain ⟨hheld, hnot⟩ := hheld hheld'
    refine (h.held_live hheld).imp_left ?_
    rintro ⟨q, hq, hqLive⟩
    have hqp : q ≠ p := fun h => hnot (h ▸ hqLive)
    refine ⟨q, ?_, (hlive q).mpr ⟨hqLive, hqp⟩⟩
    rw [hlast, if_neg (by simpa [hq] using hqp), hq]
  · obtain ⟨hqLive, hqp⟩ := (hlive q).mp hq
    have hq := h.live_last q hqLive
    rw [hlast, if_neg (by simpa [hq] using hqp), hq]
  · rw [hlast] at hq
    split at hq
    · cases hq
    · rename_i hne
      have hqp : q ≠ p := fun h => hne (h ▸ hq)
      rw [htimers, Function.update_of_ne hqp]
      exact h.last_queued q hq

section returns

variable {unsolResponse ret : Int} {entry : UnsolResponseInfo} {copied : Bool} {rest : Prop}

theorem expiring_saveNITZTimeData (h : Expiring s.lock rest) :
    Expiring (saveNITZTimeData version s unsolResponse entry ret copied).lock rest := by
  unfold saveNITZTimeData
  split
  · split
    · exact h
    · unfold errorExit
      split
      · exact h
      · exact (expiring_release h).mono And.right
  · exact h

theorem expiring_finish (h : Expiring s.lock owed)
    (hfresh : calloc.all (fun p => (s.lock.timers p).isNone) = true)
    (hrest : ¬(version < 13 ∧ entry.wakeType = .WAKE_PARTIAL) → owed → rest) :
    Expiring (finish version s unsolResponse entry ret calloc copied).lock rest := by
  unfold finish
  split
  case isTrue howes =>
    cases hs : scheduleTimeout s.lock calloc with
    | none =>
      simp only [errorExit, howes.2]
      exact (expiring_release h).mono fun hv => absurd hv.1 (by omega)
    | some lock =>
      have hlock : Expiring lock rest := expiring_scheduleTimeout h hfresh hs
      exact expiring_saveNITZTimeData (s := { s with lock := lock }) hlock
  case isFalse howes => exact expiring_saveNITZTimeData (h.mono (hrest howes))

@[simp] theorem errorExit_calls : (errorExit version s entry).calls = s.calls := by
  unfold errorExit
  split <;> rfl

@[simp] theorem errorExit_traffic : (errorExit version s entry).traffic = s.traffic := by
  unfold errorExit
  split <;> rfl

@[simp] theorem saveNITZTimeData_calls :
    (saveNITZTimeData version s unsolResponse entry ret copied).calls = s.calls := by
  unfold saveNITZTimeData
  split
  · split <;> simp
  · rfl

@[simp] theorem saveNITZTimeData_traffic :
    (saveNITZTimeData version s unsolResponse entry ret copied).traffic = s.traffic := by
  unfold saveNITZTimeData
  split
  · split <;> simp
  · rfl

@[simp] theorem finish_calls :
    (finish version s unsolResponse entry ret calloc copied).calls = s.calls := by
  unfold finish
  split
  · split <;> simp
  · simp

@[simp] theorem finish_traffic :
    (finish version s unsolResponse entry ret calloc copied).traffic = s.traffic := by
  unfold finish
  split
  · split <;> simp
  · simp

end returns

theorem perm_of_getElem? {α : Type} {l : List α} {i : Nat} {a : α} (h : l[i]? = some a) :
    (a :: l.eraseIdx i).Perm l := by
  obtain ⟨hi, rfl⟩ := List.getElem?_eq_some_iff.mp h
  exact List.getElem_cons_eraseIdx_perm hi

/-- What one step may do to the lock, seen from the timers. -/
theorem expiring_step {a : Action} (hs : Expiring s.lock (s.Owed version))
    (h : step version s a = some t) : Expiring t.lock (t.Owed version) := by
  cases a with
  | RIL_register =>
    cases h
    exact hs
  | RIL_onUnsolicitedResponse unsolResponse calloc =>
    simp only [step, onUnsolicitedResponse] at h
    split at h
    · cases h
      exact hs
    · split at h
      · cases h
        exact hs
      · rename_i info hinfo
        split at h
        · cases h
          refine hs.mono fun ⟨hv, call, hcall, hsched⟩ => ?_
          exact ⟨hv, call, List.mem_cons_of_mem _ hcall, hsched⟩
        · rename_i hwake
          obtain ⟨lock, hlock, rfl⟩ := Option.map_eq_some_iff.mp h
          refine expiring_grab hs hlock fun howed => ?_
          have hv : version < 13 := howed.elim id And.left
          exact ⟨hv, _, List.mem_cons_self, hwake⟩
  | responseFunction i indEnd =>
    simp only [step] at h
    split at h
    · rename_i unsolResponse info hcall
      cases h
      refine hs.mono fun ⟨hv, call, hmem, hsched⟩ => ?_
      rcases List.mem_cons.mp ((perm_of_getElem? hcall).mem_iff.mpr hmem) with rfl | hmem
      · exact ⟨hv, _, List.mem_cons_self, hsched⟩
      · exact ⟨hv, call, List.mem_cons_of_mem _ hmem, hsched⟩
    · rename_i responseType hcall
      cases h
      refine hs.mono fun ⟨hv, call, hmem, hsched⟩ => ?_
      rcases List.mem_cons.mp ((perm_of_getElem? hcall).mem_iff.mpr hmem) with rfl | hmem
      · exact hsched.elim
      · exact ⟨hv, call, hmem, hsched⟩
    · cases h
  | returns i calloc copied =>
    simp only [step] at h
    split at h
    · rename_i unsolResponse info ret hcall
      obtain ⟨hfresh, ⟨⟩⟩ := Option.ite_none_right_eq_some.mp h
      refine expiring_finish hs hfresh ?_
      rintro hnot ⟨hv, call, hmem, hsched⟩
      refine ⟨hv, call, ?_, hsched⟩
      rw [finish_calls]
      rcases List.mem_cons.mp ((perm_of_getElem? hcall).mem_iff.mpr hmem) with rfl | hmem
      · exact absurd ⟨hv, hsched⟩ hnot
      · exact hmem
    · cases h
  | RIL_onRequestComplete wasAckSent calloc =>
    simp only [step] at h
    split at h
    · rename_i hack
      obtain ⟨lock, hlock, rfl⟩ := Option.map_eq_some_iff.mp h
      refine expiring_grab hs hlock fun howed => ?_
      have hv : version < 13 := howed.elim id And.left
      omega
    · cases h
      refine hs.mono fun ⟨hv, call, hmem, hsched⟩ => ?_
      exact ⟨hv, call, List.mem_cons_of_mem _ hmem, hsched⟩
  | resendLastNITZTimeData indEnd =>
    simp only [step] at h
    split at h <;>
    · cases h
      exact hs
  | responseAcknowledgement =>
    cases h
    exact (expiring_release hs).mono And.right
  | userTimerCallback p =>
    obtain ⟨lock, hlock, rfl⟩ := Option.map_eq_some_iff.mp h
    obtain ⟨info, hp, rfl⟩ := Option.map_eq_some_iff.mp hlock
    exact expiring_fire hs hp

theorem expiring_run (h : Machine.run (step version) initial as = some t) :
    Expiring t.lock (t.Owed version) := by
  refine Machine.run_invariant (P := fun s => Expiring s.lock (s.Owed version)) ?_ h ?_
  · exact fun s a t hs ht => expiring_step hs ht
  · refine ⟨nofun, ?_, nofun⟩
    rintro p ⟨info, hinfo, -⟩
    cases hinfo

/-- Below version 13, with nobody connected: the copy of the time cannot be allocated and the lock
is dropped, while the timer stays queued. -/
def lateTime : List Action :=
  [.RIL_register, .RIL_onUnsolicitedResponse 1008 none, .responseFunction 0 .noClient,
    .returns 0 (some 5) false, .RIL_onUnsolicitedResponse 1001 none]

end Apq8084.Ril.Unsolicited
