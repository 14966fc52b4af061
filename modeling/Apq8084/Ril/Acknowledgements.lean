import Apq8084.Ril.Unsolicited

/-! The counter of the wake lock against the messages that wait for an acknowledgement, and every
indication sent once. -/
namespace Apq8084.Ril.Unsolicited

variable {version : Int} {s t : State} {lock lock' : WakeLock.State} {as : List Action}

/-- The client got the message and is asked to acknowledge it. -/
def Message.expectsAck : Message → Bool
  | .indication _ _ responseType heard | .resentNITZTimeData responseType heard =>
    heard && responseType = RESPONSE_UNSOLICITED_ACK_EXP
  | .response responseType heard => heard && responseType = RESPONSE_SOLICITED_ACK_EXP
  | .responseAcknowledgement => false

/-- A message that took the lock and that nobody got. -/
def Message.unheard : Message → Bool
  | .indication _ _ responseType heard => !heard && responseType = RESPONSE_UNSOLICITED_ACK_EXP
  | .response responseType heard => !heard && responseType = RESPONSE_SOLICITED_ACK_EXP
  | .resentNITZTimeData _ _ | .responseAcknowledgement => false

/-- A message that asks for an acknowledgement without having taken the lock. -/
def Message.resent : Message → Bool
  | .resentNITZTimeData responseType heard => heard && responseType = RESPONSE_UNSOLICITED_ACK_EXP
  | _ => false

/-- The message of the call is still to be sent, and the lock was taken for it. -/
def Call.inFlight (version : Int) : Call → Bool
  | .responding _ info => responseType version info = RESPONSE_UNSOLICITED_ACK_EXP
  | .responded _ _ _ => false
  | .completing responseType => responseType = RESPONSE_SOLICITED_ACK_EXP

/-- Nobody got the time, and the call may still release the lock. -/
def Call.failed (version : Int) : Call → Bool
  | .responded _ info ret => responseType version info = RESPONSE_UNSOLICITED_ACK_EXP && ret ≠ 0
  | _ => false

structure Tally where
  expected : Nat
  acknowledged : Nat
  unheard : Nat
  resent : Nat
  inFlight : Nat
  failed : Nat

def tally (version : Int) (s : State) : Tally where
  expected := s.traffic.countP Message.expectsAck
  acknowledged := s.traffic.count .responseAcknowledgement
  unheard := s.traffic.countP Message.unheard
  resent := s.traffic.countP Message.resent
  inFlight := s.calls.countP (Call.inFlight version)
  failed := s.calls.countP (Call.failed version)

/-- The client acknowledges only what it got. -/
def Answers (s : State) : Action → Prop
  | .responseAcknowledgement =>
    s.traffic.count .responseAcknowledgement < s.traffic.countP Message.expectsAck
  | _ => True

/-- Timers can be allocated, and none that is live expires. -/
def Prompt (s : State) : Action → Prop
  | .RIL_onUnsolicitedResponse _ calloc | .RIL_onRequestComplete _ calloc => calloc ≠ none
  | .userTimerCallback p => ¬s.lock.LiveTimer p
  | _ => True

/-- What a step does to the lock and the numbers. -/
inductive Counted (version : Int) (prompt : Prop) :
    WakeLock.State → Tally → WakeLock.State → Tally → Prop where
  | idle {lock tally} : Counted version prompt lock tally lock tally
  | grabbed {lock lock' tally calloc} (halloc : prompt → calloc ≠ none)
      (h : WakeLock.step version lock (.grabPartialWakeLock calloc) = some lock') :
      Counted version prompt lock tally lock' { tally with inFlight := tally.inFlight + 1 }
  | heard {lock tally tally'} (hflight : tally.inFlight = tally'.inFlight + 1)
      (h : tally' = { tally with inFlight := tally'.inFlight, expected := tally.expected + 1 }) :
      Counted version prompt lock tally lock tally'
  | unheard {lock tally tally'} (hflight : tally.inFlight = tally'.inFlight + 1)
      (hfailed : tally'.failed ≤ tally.failed + 1)
      (h : tally' = { tally with
        inFlight := tally'.inFlight, unheard := tally.unheard + 1, failed := tally'.failed }) :
      Counted version prompt lock tally lock tally'
  | returned {lock tally tally'} (hfailed : tally'.failed ≤ tally.failed)
      (h : tally' = { tally with failed := tally'.failed }) :
      Counted version prompt lock tally lock tally'
  | released {lock tally tally'} (hfailed : tally.failed = tally'.failed + 1)
      (h : tally' = { tally with failed := tally'.failed }) :
      Counted version prompt lock tally (WakeLock.releaseWakeLock version lock) tally'
  | resent {lock tally} : Counted version prompt lock tally lock
      { tally with expected := tally.expected + 1, resent := tally.resent + 1 }
  | acknowledged {lock tally} (h : tally.acknowledged < tally.expected) :
      Counted version prompt lock tally (WakeLock.releaseWakeLock version lock)
        { tally with acknowledged := tally.acknowledged + 1 }
  | fired {lock tally p info} (hp : lock.timers p = some info)
      (hprompt : prompt → ¬lock.LiveTimer p) :
      Counted version prompt lock tally (WakeLock.userTimerCallback version lock p info) tally

theorem countP_eraseIdx {f : Call → Bool} {calls : List Call} {i : Nat} {call : Call}
    (h : calls[i]? = some call) :
    calls.countP f = (calls.eraseIdx i).countP f + if f call then 1 else 0 := by
  rw [← (perm_of_getElem? h).countP_eq, List.countP_cons]

theorem responseType_ack {info : UnsolResponseInfo} (hv : 13 ≤ version) :
    responseType version info = RESPONSE_UNSOLICITED_ACK_EXP ↔ info.wakeType = .WAKE_PARTIAL := by
  unfold responseType
  by_cases hwake : info.wakeType = .WAKE_PARTIAL
  · simp [hv, hwake]
  · simp [hwake, RESPONSE_UNSOLICITED_ACK_EXP, Payloads.RESPONSE_UNSOLICITED]

theorem ret_of_called (f : Option ResponseFunction) : ret f .called = 0 := by
  unfold ret
  split
  · rename_i h
    cases h
  · rfl

section step

variable {prompt : Prop}

theorem Counted.same (hlock : t.lock = s.lock) (h : tally version t = tally version s) :
    Counted version prompt s.lock (tally version s) t.lock (tally version t) := by
  rw [hlock, h]
  exact .idle

theorem counted_onUnsolicitedResponse {unsolResponse : Int} {calloc : Option Nat}
    (hv : 13 ≤ version) (halloc : prompt → calloc ≠ none)
    (h : onUnsolicitedResponse version s unsolResponse calloc = some t) :
    Counted version prompt s.lock (tally version s) t.lock (tally version t) := by
  unfold onUnsolicitedResponse at h
  split at h
  · cases h
    exact .idle
  · split at h
    · cases h
      exact .idle
    · rename_i info _
      split at h
      · rename_i hwake
        cases h
        refine .same rfl ?_
        have hnot : responseType version info ≠ RESPONSE_UNSOLICITED_ACK_EXP := by
          rw [Ne, responseType_ack hv, hwake]
          decide
        simp [tally, Call.inFlight, Call.failed, hnot]
      · rename_i hwake
        obtain ⟨lock, hlock, rfl⟩ := Option.map_eq_some_iff.mp h
        have hack := (responseType_ack hv).mpr hwake
        convert Counted.grabbed halloc hlock using 1
        simp [tally, Call.inFlight, Call.failed, hack]

/-- A call that took the lock sends its message, which the client gets or not. -/
theorem counted_responseFunction {i : Nat} {indEnd : IndEnd}
    (h : step version s (.responseFunction i indEnd) = some t) :
    Counted version prompt s.lock (tally version s) t.lock (tally version t) := by
  simp only [step] at h
  split at h
  · rename_i unsolResponse info hcall
    have hflight := countP_eraseIdx (f := Call.inFlight version) hcall
    have hfailed := countP_eraseIdx (f := Call.failed version) hcall
    cases h
    by_cases hack : responseType version info = RESPONSE_UNSOLICITED_ACK_EXP
    · simp only [Call.inFlight, hack, decide_true, if_true] at hflight
      simp only [Call.failed, Bool.false_eq_true, if_false, Nat.add_zero] at hfailed
      by_cases hheard : info.responseFunction.isSome ∧ indEnd = .called
      · refine .heard ?_ ?_
        · simp [tally, hflight, Call.inFlight]
        · simp [tally, hfailed, Call.failed, Message.expectsAck, Message.unheard, Message.resent,
            hack, hheard, ret_of_called]
      · refine .unheard ?_ ?_ ?_
        · simp [tally, hflight, Call.inFlight]
        · simp only [tally, hfailed, List.countP_cons]
          split <;> simp
        · have hheard : (info.responseFunction.isSome && decide (indEnd = .called)) = false := by
            simpa using hheard
          simp [tally, Message.expectsAck, Message.unheard, Message.resent, hack, hheard]
    · refine .same rfl ?_
      simp only [Call.inFlight, hack, decide_false, Bool.false_eq_true, if_false,
        Nat.add_zero] at hflight
      simp only [Call.failed, Bool.false_eq_true, if_false, Nat.add_zero] at hfailed
      simp [tally, hflight, hfailed, Call.inFlight, Call.failed, Message.expectsAck,
        Message.unheard, Message.resent, hack]
  · rename_i responseType hcall
    have hflight := countP_eraseIdx (f := Call.inFlight version) hcall
    have hfailed := countP_eraseIdx (f := Call.failed version) hcall
    cases h
    simp only [Call.failed, Bool.false_eq_true, if_false, Nat.add_zero] at hfailed
    by_cases hack : responseType = RESPONSE_SOLICITED_ACK_EXP
    · simp only [Call.inFlight, hack, decide_true, if_true] at hflight
      by_cases hheard : indEnd = .called
      · refine .heard ?_ ?_
        · simp [tally, hflight]
        · simp [tally, hfailed, Message.expectsAck, Message.unheard, Message.resent, hack, hheard]
      · refine .unheard ?_ ?_ ?_
        · simp [tally, hflight]
        · simp [tally, hfailed]
        · simp [tally, hfailed, Message.expectsAck, Message.unheard, Message.resent, hack, hheard]
    · refine .same rfl ?_
      simp only [Call.inFlight, hack, decide_false, Bool.false_eq_true, if_false,
        Nat.add_zero] at hflight
      simp [tally, hflight, hfailed, Message.expectsAck, Message.unheard, Message.resent, hack]
  · cases h

/-- From version 13 on the call has nothing to queue; it may release the lock of a failed one. -/
theorem counted_returns {i : Nat} {calloc : Option Nat} {copied : Bool} (hv : 13 ≤ version)
    (h : step version s (.returns i calloc copied) = some t) :
    Counted version prompt s.lock (tally version s) t.lock (tally version t) := by
  simp only [step] at h
  split at h
  · rename_i unsolResponse info ret hcall
    have hflight := countP_eraseIdx (f := Call.inFlight version) hcall
    have hfailed := countP_eraseIdx (f := Call.failed version) hcall
    obtain ⟨-, ⟨⟩⟩ := Option.ite_none_right_eq_some.mp h
    simp only [Call.inFlight, Bool.false_eq_true, if_false, Nat.add_zero] at hflight
    simp only [tally, finish_calls, finish_traffic, hflight]
    unfold finish
    rw [if_neg (by omega)]
    unfold saveNITZTimeData
    split
    · rename_i hret
      split
      · exact .returned (by simp only [hfailed]; omega) rfl
      · unfold errorExit
        split
        · exact .returned (by simp only [hfailed]; omega) rfl
        · rename_i hwake
          refine .released ?_ rfl
          have hack := (responseType_ack hv).mpr hwake
          simpa [Call.failed, hack, hret.1] using hfailed
    · exact .returned (by simp only [hfailed]; omega) rfl
  · cases h

theorem counted_step {a : Action} (hv : 13 ≤ version) (hanswers : Answers s a)
    (h : step version s a = some t) :
    Counted version (Prompt s a) s.lock (tally version s) t.lock (tally version t) := by
  cases a with
  | RIL_register =>
    cases h
    exact .idle
  | RIL_onUnsolicitedResponse unsolResponse calloc =>
    exact counted_onUnsolicitedResponse hv id h
  | responseFunction i indEnd => exact counted_responseFunction h
  | returns i calloc copied => exact counted_returns hv h
  | RIL_onRequestComplete wasAckSent calloc =>
    simp only [step] at h
    split at h
    · obtain ⟨lock, hlock, rfl⟩ := Option.map_eq_some_iff.mp h
      have halloc : Prompt s (.RIL_onRequestComplete wasAckSent calloc) → calloc ≠ none := id
      convert Counted.grabbed halloc hlock using 1
      simp [tally, Call.inFlight, Call.failed]
    · cases h
      refine .same rfl ?_
      simp [tally, Call.inFlight, Call.failed, RESPONSE_SOLICITED, RESPONSE_SOLICITED_ACK_EXP]
  | resendLastNITZTimeData indEnd =>
    simp only [step] at h
    split at h
    · cases h
      by_cases hheard : indEnd = .called
      · convert Counted.resent using 1
        simp [tally, Message.expectsAck, Message.unheard, Message.resent, hheard]
      · refine .same rfl ?_
        simp [tally, Message.expectsAck, Message.unheard, Message.resent, hheard]
    · cases h
      exact .idle
  | responseAcknowledgement =>
    cases h
    have hlt : (tally version s).acknowledged < (tally version s).expected := hanswers
    convert Counted.acknowledged hlt using 1
    simp [tally, Message.expectsAck, Message.unheard, Message.resent]
  | userTimerCallback p =>
    obtain ⟨lock, hlock, rfl⟩ := Option.map_eq_some_iff.mp h
    obtain ⟨info, hp, rfl⟩ := Option.map_eq_some_iff.mp hlock
    exact .fired hp id

end step

theorem grab_count {calloc : Option Nat} (hv : 13 ≤ version)
    (h : WakeLock.step version lock (.grabPartialWakeLock calloc) = some lock') :
    (calloc = none ∧ lock'.held = false ∧ lock'.wakelockCount = lock.wakelockCount) ∨
    (lock'.held = true ∧ lock'.wakelockCount = lock.wakelockCount + 1) := by
  cases calloc with
  | none =>
    cases h
    simp [WakeLock.grabPartialWakeLock, WakeLock.internalRequestTimedCallback, hv,
      WakeLock.State.releaseKernelLock, WakeLock.State.acquireWakeLock]
  | some p =>
    cases hp : lock.timers p with
    | none =>
      simp only [WakeLock.step, hp, Option.some.injEq] at h
      subst lock'
      simp [WakeLock.grabPartialWakeLock, WakeLock.internalRequestTimedCallback, hv,
        WakeLock.State.acquireWakeLock]
    | some info => simp [WakeLock.step, hp] at h

theorem release_count (lock : WakeLock.State) (hv : 13 ≤ version) :
    let lock' := WakeLock.releaseWakeLock version lock
    (1 < lock.wakelockCount ∧ lock'.held = lock.held ∧
      lock'.wakelockCount = lock.wakelockCount - 1) ∨
    (lock.wakelockCount ≤ 1 ∧ lock'.held = false ∧ lock'.wakelockCount = 0) := by
  by_cases hcount : 1 < lock.wakelockCount
  · simp [WakeLock.releaseWakeLock, hv, hcount]
  · simp [WakeLock.releaseWakeLock, hv, hcount, WakeLock.State.releaseKernelLock]
    omega

theorem fire_count {p : Nat} {info : WakeLock.UserCallbackInfo} (hv : 13 ≤ version)
    (hp : lock.timers p = some info) :
    let lock' := WakeLock.userTimerCallback version lock p info
    (lock.LiveTimer p ∧ lock'.held = false ∧ lock'.wakelockCount = 0) ∨
    (lock'.held = lock.held ∧ lock'.wakelockCount = lock.wakelockCount) := by
  by_cases hzero : info.userParam = 0
  · refine .inl ⟨⟨info, hp, hzero⟩, ?_⟩
    simp [WakeLock.userTimerCallback, WakeLock.wakeTimeoutCallback, hv, hzero,
      WakeLock.State.releaseKernelLock]
  · refine .inr ?_
    simp [WakeLock.userTimerCallback, WakeLock.wakeTimeoutCallback, hv, hzero]

/-- No reference of the counter is without a message: sent, on its way, or heard by nobody. -/
structure Bounded (lock : WakeLock.State) (n : Tally) : Prop where
  answers : n.acknowledged ≤ n.expected
  count_nonneg : 0 ≤ lock.wakelockCount
  held_counted : lock.held = true → 0 < lock.wakelockCount
  count_le : lock.wakelockCount + n.acknowledged ≤ n.expected + n.inFlight + n.unheard

/-- No message is without its reference, but for those that were sent again. -/
structure Covered (lock : WakeLock.State) (n : Tally) : Prop where
  counted_held : 0 < lock.wakelockCount → lock.held = true
  le_count : n.expected + n.inFlight + n.failed ≤
    lock.wakelockCount + n.acknowledged + n.resent

theorem bounded_step {prompt : Prop} {m n : Tally} (hv : 13 ≤ version)
    (h : Counted version prompt lock m lock' n) (hb : Bounded lock m) : Bounded lock' n := by
  obtain ⟨hanswers, hnonneg, hheld, hle⟩ := hb
  cases h with
  | idle => exact ⟨hanswers, hnonneg, hheld, hle⟩
  | grabbed halloc hgrab =>
    rcases grab_count hv hgrab with ⟨-, hdropped, hcount⟩ | ⟨-, hcount⟩
    · refine ⟨hanswers, by omega, by simp [hdropped], ?_⟩
      simp only
      omega
    · refine ⟨hanswers, by omega, fun _ => by omega, ?_⟩
      simp only
      omega
  | heard hflight hn =>
    rw [hn]
    refine ⟨?_, hnonneg, hheld, ?_⟩
    · simp only
      omega
    · simp only
      omega
  | unheard hflight hfailed hn =>
    rw [hn]
    refine ⟨hanswers, hnonneg, hheld, ?_⟩
    simp only
    omega
  | returned hfailed hn =>
    rw [hn]
    exact ⟨hanswers, hnonneg, hheld, hle⟩
  | released hfailed hn =>
    rw [hn]
    rcases release_count lock hv with ⟨hlt, hsame, hcount⟩ | ⟨-, hdropped, hcount⟩
    · refine ⟨hanswers, by omega, fun _ => by omega, ?_⟩
      simp only
      omega
    · refine ⟨hanswers, by omega, by simp [hdropped], ?_⟩
      simp only
      omega
  | resent =>
    refine ⟨?_, hnonneg, hheld, ?_⟩
    · simp only
      omega
    · simp only
      omega
  | acknowledged hlt =>
    rcases release_count lock hv with ⟨hmany, hsame, hcount⟩ | ⟨-, hdropped, hcount⟩
    · refine ⟨hlt, by omega, fun _ => by omega, ?_⟩
      simp only
      omega
    · refine ⟨hlt, by omega, by simp [hdropped], ?_⟩
      simp only
      omega
  | fired hp hprompt =>
    rcases fire_count hv hp with ⟨-, hdropped, hcount⟩ | ⟨hsame, hcount⟩
    · exact ⟨hanswers, by omega, by simp [hdropped], by omega⟩
    · exact ⟨hanswers, by omega, fun h => by rw [hsame] at h; have := hheld h; omega, by omega⟩

theorem covered_step {prompt : Prop} {m n : Tally} (hv : 13 ≤ version) (hprompt : prompt)
    (h : Counted version prompt lock m lock' n) (hb : Bounded lock m) (hc : Covered lock m) :
    Covered lock' n := by
  obtain ⟨hheld, hle⟩ := hc
  have hnonneg := hb.count_nonneg
  cases h with
  | idle => exact ⟨hheld, hle⟩
  | grabbed halloc hgrab =>
    rcases grab_count hv hgrab with ⟨hnone, -, -⟩ | ⟨hheld, hcount⟩
    · exact absurd hnone (halloc hprompt)
    · refine ⟨fun _ => hheld, ?_⟩
      simp only
      omega
  | heard hflight hn =>
    rw [hn]
    refine ⟨hheld, ?_⟩
    simp only
    omega
  | unheard hflight hfailed hn =>
    rw [hn]
    refine ⟨hheld, ?_⟩
    simp only
    omega
  | returned hfailed hn =>
    rw [hn]
    refine ⟨hheld, ?_⟩
    simp only
    omega
  | released hfailed hn =>
    rw [hn]
    rcases release_count lock hv with ⟨hlt, hsame, hcount⟩ | ⟨hfew, -, hcount⟩
    · refine ⟨fun _ => hsame.trans (hheld (by omega)), ?_⟩
      simp only
      omega
    · refine ⟨fun h => by omega, ?_⟩
      simp only
      omega
  | resent =>
    refine ⟨hheld, ?_⟩
    simp only
    omega
  | acknowledged hlt =>
    rcases release_count lock hv with ⟨hmany, hsame, hcount⟩ | ⟨hfew, -, hcount⟩
    · refine ⟨fun _ => hsame.trans (hheld (by omega)), ?_⟩
      simp only
      omega
    · refine ⟨fun h => by omega, ?_⟩
      simp only
      omega
  | fired hp hlive =>
    rcases fire_count hv hp with ⟨hpLive, -, -⟩ | ⟨hsame, hcount⟩
    · exact absurd hpLive (hlive hprompt)
    · exact ⟨fun h => hsame.trans (hheld (by omega)), by omega⟩

/-- From version 13 on, however the vendor's threads, the timers and the client interleave: a lock
that is held is held for a message that is on its way, was heard by nobody or waits for its
acknowledgement. While no live timer expires and timers can be allocated it is held for each of
them, except that the time of the network is sent again without a reference of its own. -/
theorem held_while_unacknowledged (hv : 13 ≤ version)
    (h : Machine.run (step version) initial as = some t)
    (hanswers : Machine.Along (step version) Answers initial as) :
    (t.lock.held = true → (tally version t).acknowledged <
      (tally version t).expected + (tally version t).inFlight + (tally version t).unheard) ∧
    (Machine.Along (step version) Prompt initial as →
      (tally version t).acknowledged + (tally version t).resent <
        (tally version t).expected + (tally version t).inFlight → t.lock.held = true) := by
  have hinit : Bounded initial.lock (tally version initial) :=
    ⟨Nat.le_refl _, Int.le_refl _, nofun, Int.le_refl _⟩
  refine ⟨fun hheld => ?_, fun hprompt hlt => ?_⟩
  · have hb : Bounded t.lock (tally version t) := by
      refine Machine.run_invariant_along (P := fun s => Bounded s.lock (tally version s)) ?_ h
        hanswers hinit
      exact fun s a t hs ha ht => bounded_step hv (counted_step hv ha ht) hs
    have hcount := hb.held_counted hheld
    have hle := hb.count_le
    omega
  · have hc : Bounded t.lock (tally version t) ∧ Covered t.lock (tally version t) := by
      refine Machine.run_invariant_along
        (P := fun s => Bounded s.lock (tally version s) ∧ Covered s.lock (tally version s)) ?_ h
        (Machine.along_and hanswers hprompt) ⟨hinit, nofun, Int.le_refl _⟩
      rintro s a t ⟨hb, hc⟩ ⟨ha, hp⟩ ht
      have hstep := counted_step hv ha ht
      exact ⟨bounded_step hv hstep hb, covered_step hv hp hstep hb hc⟩
    have hle := hc.2.le_count
    exact hc.2.counted_held (by omega)

/-- A call waits for its acknowledgement while the time of the network is sent again. -/
def resentTime : List Action :=
  [.RIL_register, .RIL_onUnsolicitedResponse 1008 (some 1), .responseFunction 0 .noClient,
    .returns 0 none true, .RIL_onUnsolicitedResponse 1001 (some 2), .responseFunction 0 .called,
    .returns 0 none false, .resendLastNITZTimeData .called]

theorem held_while_unacknowledged_resent_time :
    ∃ t, Machine.run (step 13) initial resentTime = some t ∧
      (tally 13 t).resent = 1 ∧ (tally 13 t).expected = 2 ∧ t.lock.held = true := by
  refine ⟨_, rfl, rfl, rfl, ?_⟩
  have h : Machine.run (step 13) initial resentTime = some _ := rfl
  refine (held_while_unacknowledged (by decide) h ?_).2 ?_ (by decide)
  · open Machine in
    exact along_cons rfl trivial <| along_cons rfl trivial <| along_cons rfl trivial <|
      along_cons rfl trivial <| along_cons rfl trivial <| along_cons rfl trivial <|
      along_cons rfl trivial <| along_cons rfl trivial trivial
  · open Machine in
    exact along_cons rfl trivial <| along_cons rfl nofun <| along_cons rfl trivial <|
      along_cons rfl trivial <| along_cons rfl nofun <| along_cons rfl trivial <|
      along_cons rfl trivial <| along_cons rfl trivial trivial

/-- The self-check of `RIL_register`. -/
theorem unsolResponses_numbers :
    unsolResponses.map UnsolResponseInfo.requestNumber =
      (List.range 50).map fun i => RIL_UNSOL_RESPONSE_BASE + Int.ofNat i := by
  decide

/-- The entry that is found by its place is the one with the number. -/
theorem unsolResponseInfo_eq_some {c : Int} {info : UnsolResponseInfo} :
    unsolResponseInfo c = some info ↔ info ∈ unsolResponses ∧ info.requestNumber = c := by
  have hlength : unsolResponses.length = 50 := rfl
  have hnumber : ∀ i info, unsolResponses[i]? = some info →
      info.requestNumber = RIL_UNSOL_RESPONSE_BASE + Int.ofNat i := by
    intro i info h
    have hi : i < 50 := (List.getElem?_eq_some_iff.mp h).1
    have hmap := congrArg (·[i]?) unsolResponses_numbers
    simpa [h, hi] using hmap
  unfold unsolResponseInfo
  constructor
  · intro h
    simp only at h
    split at h
    · cases h
    · rename_i hrange
      refine ⟨List.mem_of_getElem? h, ?_⟩
      rw [hnumber _ _ h]
      simp only [Int.ofNat_eq_natCast]
      omega
  · rintro ⟨hmem, rfl⟩
    obtain ⟨i, hi⟩ := List.getElem?_of_mem hmem
    have hlt : i < 50 := (List.getElem?_eq_some_iff.mp hi).1
    rw [hnumber i info hi]
    simp only [Int.ofNat_eq_natCast, hlength]
    have hsub : RIL_UNSOL_RESPONSE_BASE + (i : Int) - RIL_UNSOL_RESPONSE_BASE = i := by omega
    rw [if_neg (by omega), hsub, Int.toNat_natCast]
    exact hi

def Message.ofCode (c : Int) : Message → Bool
  | .indication unsolResponse _ _ _ => unsolResponse = c
  | _ => false

def Call.respondingTo (c : Int) : Call → Bool
  | .responding unsolResponse _ => unsolResponse = c
  | _ => false

def Action.isCallFor (c : Int) : Action → Bool
  | .RIL_onUnsolicitedResponse unsolResponse _ => unsolResponse = c
  | _ => false

/-- The calls for a code since `RIL_register`. -/
def arrivals (c : Int) (as : List Action) : Nat :=
  (as.dropWhile (· ≠ .RIL_register)).countP (Action.isCallFor c)

/-- The indications for a code that were sent or are being sent. -/
def sent (c : Int) (s : State) : Nat :=
  s.traffic.countP (Message.ofCode c) + s.calls.countP (Call.respondingTo c)

/-- The last piece of a call sends nothing and does not register. -/
theorem finish_registerCalled {unsolResponse ret : Int} {info : UnsolResponseInfo}
    {calloc : Option Nat} {copied : Bool} :
    (finish version s unsolResponse info ret calloc copied).registerCalled = s.registerCalled := by
  have herror : ∀ s : State, (errorExit version s info).registerCalled = s.registerCalled := by
    intro s
    unfold errorExit
    split <;> rfl
  have hsave : ∀ s : State, (saveNITZTimeData version s unsolResponse info ret
      copied).registerCalled = s.registerCalled := by
    intro s
    unfold saveNITZTimeData
    split
    · split <;> simp [herror]
    · rfl
  unfold finish
  split
  · split <;> simp [herror, hsave]
  · exact hsave s

/-- One more indication for a code is under way exactly after a call for it that is accepted. -/
theorem sent_step {a : Action} (h : step version s a = some t) :
    t.registerCalled = (s.registerCalled || decide (a = .RIL_register)) ∧
    ∀ c, sent c t = sent c s +
      if s.registerCalled = true ∧ a.isCallFor c = true ∧ (unsolResponseInfo c).isSome then 1
      else 0 := by
  cases a with
  | RIL_register =>
    cases h
    simp [sent, Action.isCallFor]
  | RIL_onUnsolicitedResponse unsolResponse calloc =>
    simp only [step, onUnsolicitedResponse] at h
    split at h
    · rename_i hregister
      cases h
      simp [hregister]
    · rename_i hregister
      have hregister : s.registerCalled = true := by simpa using hregister
      have hsent : ∀ info, unsolResponseInfo unsolResponse = some info → ∀ (u : State) c,
          u.calls = .responding unsolResponse info :: s.calls → u.traffic = s.traffic →
          sent c u = sent c s + if s.registerCalled = true ∧
            (Action.RIL_onUnsolicitedResponse unsolResponse calloc).isCallFor c = true ∧
            (unsolResponseInfo c).isSome then 1 else 0 := by
        intro info hinfo u c hcalls htraffic
        by_cases hc : unsolResponse = c
        · simp [sent, hcalls, htraffic, Call.respondingTo, Action.isCallFor, hregister, ← hc, hinfo,
            Nat.add_assoc]
        · simp [sent, hcalls, htraffic, Call.respondingTo, Action.isCallFor, hc]
      split at h
      · rename_i hinfo
        cases h
        refine ⟨by simp, fun c => ?_⟩
        by_cases hc : unsolResponse = c
        · simp [← hc, hinfo]
        · simp [Action.isCallFor, hc]
      · rename_i info hinfo
        split at h
        · cases h
          exact ⟨by simp, fun c => hsent info hinfo _ c rfl rfl⟩
        · obtain ⟨lock, -, rfl⟩ := Option.map_eq_some_iff.mp h
          exact ⟨by simp, fun c => hsent info hinfo _ c rfl rfl⟩
  | responseFunction i indEnd =>
    simp only [step] at h
    split at h
    · rename_i unsolResponse info hcall
      cases h
      refine ⟨by simp, fun c => ?_⟩
      have hcount := countP_eraseIdx (f := Call.respondingTo c) hcall
      by_cases hc : unsolResponse = c
      · simp only [Call.respondingTo, hc, decide_true, if_true] at hcount
        simp [sent, hcount, Message.ofCode, Call.respondingTo, Action.isCallFor, hc]
        omega
      · simp only [Call.respondingTo, hc, decide_false, Bool.false_eq_true, if_false,
          Nat.add_zero] at hcount
        simp [sent, hcount, Message.ofCode, Call.respondingTo, Action.isCallFor, hc]
    · rename_i responseType hcall
      cases h
      refine ⟨by simp, fun c => ?_⟩
      have hcount := countP_eraseIdx (f := Call.respondingTo c) hcall
      simp only [Call.respondingTo, Bool.false_eq_true, if_false, Nat.add_zero] at hcount
      simp [sent, hcount, Message.ofCode, Action.isCallFor]
    · cases h
  | returns i calloc copied =>
    simp only [step] at h
    split at h
    · rename_i unsolResponse info ret hcall
      obtain ⟨-, ⟨⟩⟩ := Option.ite_none_right_eq_some.mp h
      refine ⟨by simp [finish_registerCalled], fun c => ?_⟩
      have hcount := countP_eraseIdx (f := Call.respondingTo c) hcall
      simp only [Call.respondingTo, Bool.false_eq_true, if_false, Nat.add_zero] at hcount
      simp [sent, hcount, Action.isCallFor]
    · cases h
  | RIL_onRequestComplete wasAckSent calloc =>
    simp only [step] at h
    split at h
    · obtain ⟨lock, -, rfl⟩ := Option.map_eq_some_iff.mp h
      simp [sent, Call.respondingTo, Action.isCallFor]
    · cases h
      simp [sent, Call.respondingTo, Action.isCallFor]
  | resendLastNITZTimeData indEnd =>
    simp only [step] at h
    split at h <;>
    · cases h
      simp [sent, Message.ofCode, Action.isCallFor]
  | responseAcknowledgement =>
    cases h
    simp [sent, Message.ofCode, Action.isCallFor]
  | userTimerCallback p =>
    obtain ⟨lock, -, rfl⟩ := Option.map_eq_some_iff.mp h
    simp [sent, Action.isCallFor]

/-- The calls that are accepted from a state on. -/
theorem sent_run (h : Machine.run (step version) s as = some t) (c : Int) :
    sent c t = sent c s + if (unsolResponseInfo c).isSome then
      (if s.registerCalled then as.countP (Action.isCallFor c) else arrivals c as) else 0 := by
  induction as generalizing s with
  | nil =>
    cases h
    simp [arrivals]
  | cons a as ih =>
    obtain ⟨u, hu, h⟩ := Option.bind_eq_some_iff.mp h
    obtain ⟨hregister, hsent⟩ := sent_step hu
    rw [ih h, hsent c, hregister]
    by_cases hknown : (unsolResponseInfo c).isSome
    · by_cases hs : s.registerCalled = true
      · simp [hknown, hs, List.countP_cons]
        omega
      · by_cases ha : a = .RIL_register
        · simp [hknown, hs, ha, arrivals, Action.isCallFor]
        · simp [hknown, hs, ha, arrivals]
    · simp [hknown]

/-- What the entry of the table makes of a message. -/
def Message.Matches (version : Int) : Message → Prop
  | .indication unsolResponse responseFunction type heard =>
    ∃ info ∈ unsolResponses, info.requestNumber = unsolResponse ∧
      responseFunction = info.responseFunction ∧ type = responseType version info ∧
      (heard = true → info.responseFunction.isSome)
  | _ => True

def Call.Matches : Call → Prop
  | .responding unsolResponse info => info ∈ unsolResponses ∧ info.requestNumber = unsolResponse
  | _ => True

theorem matches_step {a : Action} (h : step version s a = some t)
    (hcalls : ∀ call ∈ s.calls, call.Matches) (htraffic : ∀ m ∈ s.traffic, m.Matches version) :
    (∀ call ∈ t.calls, call.Matches) ∧ ∀ m ∈ t.traffic, m.Matches version := by
  have herase : ∀ i, ∀ call ∈ s.calls.eraseIdx i, call.Matches :=
    fun i call hcall => hcalls call (List.mem_of_mem_eraseIdx hcall)
  have hsend : ∀ m : Message, m.Matches version → ∀ m' ∈ s.traffic ++ [m], m'.Matches version := by
    intro m hm m' hm'
    rcases List.mem_append.mp hm' with hm' | hm'
    · exact htraffic m' hm'
    · rwa [List.mem_singleton.mp hm']
  cases a with
  | RIL_register =>
    cases h
    exact ⟨hcalls, htraffic⟩
  | RIL_onUnsolicitedResponse unsolResponse calloc =>
    simp only [step, onUnsolicitedResponse] at h
    split at h
    · cases h
      exact ⟨hcalls, htraffic⟩
    · split at h
      · cases h
        exact ⟨hcalls, htraffic⟩
      · rename_i info hinfo
        have hcalls : ∀ call ∈ .responding unsolResponse info :: s.calls, call.Matches :=
          List.forall_mem_cons.mpr ⟨unsolResponseInfo_eq_some.mp hinfo, hcalls⟩
        split at h
        · cases h
          exact ⟨hcalls, htraffic⟩
        · obtain ⟨lock, -, rfl⟩ := Option.map_eq_some_iff.mp h
          exact ⟨hcalls, htraffic⟩
  | responseFunction i indEnd =>
    simp only [step] at h
    split at h
    · rename_i unsolResponse info hcall
      cases h
      obtain ⟨hmem, hnumber⟩ := hcalls _ (List.mem_of_getElem? hcall)
      refine ⟨List.forall_mem_cons.mpr ⟨trivial, herase i⟩, hsend _ ?_⟩
      refine ⟨info, hmem, hnumber, rfl, rfl, fun hheard => ?_⟩
      exact (Bool.and_eq_true_iff.mp hheard).1
    · cases h
      exact ⟨herase i, hsend _ trivial⟩
    · cases h
  | returns i calloc copied =>
    simp only [step] at h
    split at h
    · obtain ⟨-, ⟨⟩⟩ := Option.ite_none_right_eq_some.mp h
      simp only [finish_calls, finish_traffic]
      exact ⟨herase i, htraffic⟩
    · cases h
  | RIL_onRequestComplete wasAckSent calloc =>
    simp only [step] at h
    split at h
    · obtain ⟨lock, -, rfl⟩ := Option.map_eq_some_iff.mp h
      exact ⟨List.forall_mem_cons.mpr ⟨trivial, hcalls⟩, htraffic⟩
    · cases h
      exact ⟨List.forall_mem_cons.mpr ⟨trivial, hcalls⟩, htraffic⟩
  | resendLastNITZTimeData indEnd =>
    simp only [step] at h
    split at h
    · cases h
      exact ⟨hcalls, hsend _ trivial⟩
    · cases h
      exact ⟨hcalls, htraffic⟩
  | responseAcknowledgement =>
    cases h
    exact ⟨hcalls, hsend _ trivial⟩
  | userTimerCallback p =>
    obtain ⟨lock, -, rfl⟩ := Option.map_eq_some_iff.mp h
    exact ⟨hcalls, htraffic⟩

/-- A call that comes too early, one for a code without an entry and two that are accepted. -/
def earlyCall : List Action :=
  [.RIL_onUnsolicitedResponse 1000 none, .RIL_register, .RIL_onUnsolicitedResponse 1050 none,
    .RIL_onUnsolicitedResponse 1000 none, .RIL_onUnsolicitedResponse 1000 (some 4),
    .responseFunction 1 .called]

end Apq8084.Ril.Unsolicited
