import Apq8084.Fingerprint.WakeUp

/-! Notices that are sent although a `fingerprint_cancel` has returned. -/
namespace Apq8084.Fingerprint.Session

/-- The worker has found a finger, or is going to in its next step. -/
def Found (sh : Shared) (w : Worker) : Prop :=
  match w.pc with
  | .lookup =>
    w.routine = .vcs_authenticate ∧ 1 ≤ w.fakeFid ∧
      (sh.enrolled[(w.fakeFid - 1).toNat]?).isSome
  | .payloadRelease | .sensorUninit | .vcsUninit | .setIdle =>
    w.routine = .vcs_authenticate ∧ w.fingerindex.isSome
  | .acquiredNotice | .authenticatedNotice => True
  | _ => False

/-- The worker may send a notice before it looks at the state again. -/
def NoticeAhead (sh : Shared) (w : Worker) : Prop :=
  match w.pc with
  | .captureStart | .readData | .processData | .processNotice
  | .buildMatch | .matchImage | .matchError | .matchNotice
  | .findSlot | .enrollBegin | .unknownA | .addImage | .addImageNotice
  | .failSetIdle | .failNotice => True
  | .enrollNotice => Worker.fid w.idx ≠ 0 ∧ sh.secureUserId ≠ 0
  | _ => Found sh w

/-- The worker may send the match command before it looks at the state again. -/
def beforeMatch : Pc → Bool
  | .captureStart | .readData | .processData | .processNotice | .buildMatch | .matchImage => true
  | _ => false

/-- It may do so, and there is a finger that can match. -/
def MatchAhead (sh : Shared) (w : Worker) : Prop :=
  beforeMatch w.pc = true ∧ w.routine = .vcs_authenticate ∧ sh.enrolled ≠ []

/-- `fingerprint_cancel` returns only when the worker has no notice to send, and `STATE_CANCEL` is
written only when the worker has no match command to send. -/
def Timely (s : Session) : SessionEvent → Prop
  | .cancel t =>
    (s.cancels t = .leave → ¬NoticeAhead s.shared s.worker) ∧
      (s.cancels t = .write → ¬MatchAhead s.shared s.worker)
  | .timeout => s.timeout = .write → ¬MatchAhead s.shared s.worker
  | _ => True

def IsWork : SessionEvent → Prop
  | .work _ => True
  | _ => False

/-- However the worker goes on, it has not sent a notice behind the return of a
`fingerprint_cancel`, and not announced a finger that was matched behind a switch. -/
def Quiet (s : Session) : Prop :=
  ∀ s', Machine.Reaches step IsWork s s' →
    s'.history.lateNotice = false ∧ s'.history.lateMatch = false

variable {sh sh' : Shared} {w w' : Worker} {r : Reply} {s s' : Session} {a : SessionEvent}
  {t : Nat} {as : List SessionEvent}

/-! ### The worker -/

/-- Where the worker can stand in an idle state, and with a finger found. -/
structure Placed (sh : Shared) (w : Worker) : Prop where
  idle : sh.state = .idle → exitStage w.pc ≠ .running ∨ w.pc = .check .waited .readIdle
  finger : w.fingerindex.isSome → exitStage w.pc ≠ .running ∨ w.pc = .payloadRelease

theorem out_stage (w : Worker) : exitStage w.out.pc ≠ .running := by
  rw [exitStage_out]
  cases w.routine <;> exact nofun

theorem out_fingerindex (w : Worker) : w.out.fingerindex = w.fingerindex := by
  unfold Worker.out
  split <;> rfl

theorem captured_fingerindex (w : Worker) (ret : Int) :
    (w.captured ret).fingerindex = w.fingerindex := by
  unfold Worker.captured
  split
  · exact out_fingerindex w
  · split <;> rfl

theorem checked_fingerindex (w : Worker) (ret : Bool) (site : CheckSite) :
    (w.checked ret site).fingerindex = w.fingerindex := by
  cases site <;> cases ret <;> first | rfl | exact captured_fingerindex w (-1)

theorem step_fingerindex (h : w.step sh r = some (sh', w')) :
    w'.fingerindex = w.fingerindex ∨ (w.pc = .lookup ∧ w'.pc = .payloadRelease) := by
  unfold Worker.step at h
  split at h <;> rename_i hpc <;>
    simp only [Option.some.injEq, Prod.mk.injEq, reduceCtorEq] at h <;> obtain ⟨-, rfl⟩ := h
  case h_7 => exact Or.inr ⟨hpc, rfl⟩
  all_goals
    left
    first
      | rfl
      | exact out_fingerindex w
      | exact captured_fingerindex w _
      | exact checked_fingerindex w _ _
      | (split_ifs <;> first
          | rfl
          | exact out_fingerindex w
          | exact captured_fingerindex w _
          | exact checked_fingerindex w _ _)
      | (split <;> rfl)

/-- A worker that leaves does not come back. -/
theorem exit_step (hpc : exitStage w.pc ≠ .running) (h : w.step sh r = some (sh', w')) :
    exitStage w'.pc ≠ .running := by
  cases hp : w.pc with
  | failSetIdle | failNotice | sensorUninit | acquiredNotice | authenticatedNotice =>
    simp only [Worker.step, hp, Option.some.injEq, Prod.mk.injEq] at h
    rw [← h.2]
    simp [exitStage, Worker.goto]
  | vcsUninit =>
    simp only [Worker.step, hp, Option.some.injEq, Prod.mk.injEq] at h
    rw [← h.2]
    split <;> simp [exitStage, Worker.goto]
  | setIdle =>
    simp only [Worker.step, hp, Option.some.injEq, Prod.mk.injEq] at h
    rw [← h.2]
    split
    · dsimp only [Worker.goto]
      split_ifs <;> simp [exitStage]
    · simp [exitStage, Worker.goto]
  | returned => simp [Worker.step, hp] at h
  | _ => simp [hp, exitStage] at hpc

theorem running_of_step (hs : w.step sh r = some (sh', w')) (h : exitStage w'.pc = .running) :
    exitStage w.pc = .running := by
  by_contra hpc
  exact exit_step hpc hs h

theorem placed_step (h : Placed sh w) (hs : w.step sh r = some (sh', w')) : Placed sh' w' := by
  by_cases hpc : exitStage w.pc = .running
  · constructor
    · intro hidle
      have hstate := Worker.step_state hs
      by_cases hwrites : Worker.writesIdle w.pc = true
      · cases hp : w.pc with
        | check site point =>
          cases point with
          | setIdle =>
            simp only [Worker.step, hp, Option.some.injEq, Prod.mk.injEq] at hs
            rw [← hs.2]
            cases site with
            | waiting => exact Or.inr rfl
            | waited | reading => exact Or.inl (out_stage w)
          | _ => simp [hp, Worker.writesIdle] at hwrites
        | failSetIdle | vcsUninit | setIdle => simp [hp, exitStage] at hpc
        | _ => simp [hp, Worker.writesIdle] at hwrites
      · rw [if_neg hwrites, hidle] at hstate
        have hp := (h.idle hstate.symm).resolve_left (not_not.mpr hpc)
        simp only [Worker.step, hp, ← hstate, if_true, Option.some.injEq, Prod.mk.injEq] at hs
        rw [← hs.2]
        exact Or.inl (out_stage w)
    · intro hfinger
      rcases step_fingerindex hs with hsame | ⟨-, hp'⟩
      · rw [hsame] at hfinger
        have hp := (h.finger hfinger).resolve_left (not_not.mpr hpc)
        simp only [Worker.step, hp, Option.some.injEq, Prod.mk.injEq] at hs
        rw [← hs.2]
        exact Or.inl (out_stage w)
      · exact Or.inr hp'
  · exact ⟨fun _ => Or.inl (exit_step hpc hs), fun _ => Or.inl (exit_step hpc hs)⟩

/-- Until a finger is looked up, none is found. -/
theorem Placed.none (hp : Placed sh w) (hrun : exitStage w.pc = .running)
    (hne : w.pc ≠ .payloadRelease) : w.fingerindex = none := by
  by_contra hsome
  rcases hp.finger (Option.isSome_iff_ne_none.mpr hsome) with h | h
  · exact h hrun
  · exact hne h

/-- A worker that has found nothing sends nothing behind `out`. -/
theorem out_quiet (hnone : w.fingerindex = none) : ¬NoticeAhead sh w.out := by
  unfold Worker.out
  split <;> simp [NoticeAhead, Found, Worker.goto, hnone]

/-- What the threads see when a session is over or on its way to its end. -/
def Stopped (sh : Shared) : Prop := sh.state = .idle ∨ sh.state = .cancel

theorem Stopped.ne_scan (h : Stopped sh) : sh.state ≠ .scan := by
  rcases h with h | h <;> rw [h] <;> simp

theorem Stopped.ne_enroll (h : Stopped sh) : sh.state ≠ .enroll := by
  rcases h with h | h <;> rw [h] <;> simp

/-- A worker that has not left and does not look for the idle state stands in a cancelled one. -/
theorem Placed.cancel (hp : Placed sh w) (hst : Stopped sh) (hrun : exitStage w.pc = .running)
    (hne : w.pc ≠ .check .waited .readIdle) : sh.state = .cancel := by
  refine hst.resolve_left fun hidle => ?_
  rcases hp.idle hidle with h | h
  · exact h hrun
  · exact hne h

theorem stopped_step (h : Stopped sh) (hs : w.step sh r = some (sh', w')) : Stopped sh' := by
  unfold Stopped
  rw [Worker.step_state hs]
  split
  · exact Or.inl rfl
  · exact h

theorem dbWrite_notices (sh : Shared) (idx : Option Slot) (ret : Int) :
    (sh.dbWrite idx ret).templates.notices = sh.templates.notices := by
  cases idx with
  | none => rfl
  | some i =>
    simp only [Shared.dbWrite]
    split <;> rfl

theorem updateFinger_notices (sh : Shared) (idx : Option Slot) (f : Finger → Finger) :
    (sh.updateFinger idx f).templates.notices = sh.templates.notices := by
  cases idx <;> rfl

/-- In a stopped session, a worker without a notice ahead sends none, whatever the replies are. -/
theorem quiet_step (hst : Stopped sh) (hp : Placed sh w) (hq : ¬NoticeAhead sh w)
    (hs : w.step sh r = some (sh', w')) :
    sh'.templates.notices = sh.templates.notices ∧ ¬NoticeAhead sh' w' := by
  have hout : exitStage w.pc = .running → w.pc ≠ .payloadRelease → ∀ sh, ¬NoticeAhead sh w.out :=
    fun hrun hne sh => out_quiet (hp.none hrun hne)
  cases hpc : w.pc with
  | check site point =>
    have hout := hout (by rw [hpc]; rfl) (by rw [hpc]; simp)
    have htrue : ∀ sh, ¬NoticeAhead sh (w.checked true site) := by
      intro sh
      cases site with
      | waiting => exact id
      | waited | reading => exact hout sh
    cases point with
    | readIdle =>
      simp only [Worker.step, hpc, Option.some.injEq, Prod.mk.injEq] at hs
      obtain ⟨rfl, rfl⟩ := hs
      refine ⟨rfl, ?_⟩
      split
      · exact htrue _
      · exact id
    | readCancel =>
      have hcancel := hp.cancel hst (by rw [hpc]; rfl) (by rw [hpc]; simp)
      simp only [Worker.step, hpc, hcancel, if_true, Option.some.injEq, Prod.mk.injEq] at hs
      obtain ⟨rfl, rfl⟩ := hs
      exact ⟨rfl, id⟩
    | abort =>
      simp only [Worker.step, hpc, Option.some.injEq, Prod.mk.injEq] at hs
      obtain ⟨rfl, rfl⟩ := hs
      exact ⟨rfl, id⟩
    | setIdle =>
      simp only [Worker.step, hpc, Option.some.injEq, Prod.mk.injEq] at hs
      obtain ⟨rfl, rfl⟩ := hs
      exact ⟨rfl, htrue _⟩
  | scanLoop =>
    simp only [Worker.step, hpc, if_neg hst.ne_scan, Option.some.injEq, Prod.mk.injEq] at hs
    obtain ⟨rfl, rfl⟩ := hs
    exact ⟨rfl, hout (by rw [hpc]; rfl) (by rw [hpc]; simp) _⟩
  | enrollLoop =>
    simp only [Worker.step, hpc, if_neg hst.ne_enroll, Option.some.injEq, Prod.mk.injEq] at hs
    obtain ⟨rfl, rfl⟩ := hs
    exact ⟨rfl, id⟩
  | passwordSet second =>
    simp only [Worker.step, hpc, Option.some.injEq, Prod.mk.injEq] at hs
    obtain ⟨rfl, rfl⟩ := hs
    refine ⟨rfl, ?_⟩
    split
    · exact hout (by rw [hpc]; rfl) (by rw [hpc]; simp) _
    · exact id
  | enrollFinish | store =>
    simp only [Worker.step, hpc, Option.some.injEq, Prod.mk.injEq] at hs
    obtain ⟨rfl, rfl⟩ := hs
    refine ⟨?_, id⟩
    simp [updateFinger_notices, dbWrite_notices]
  | payloadBind second =>
    simp only [Worker.step, hpc, Option.some.injEq, Prod.mk.injEq] at hs
    obtain ⟨rfl, rfl⟩ := hs
    cases second
    · exact ⟨rfl, id⟩
    · rw [if_pos rfl]
      exact ⟨updateFinger_notices _ _ _, id⟩
  | enrollNotice =>
    simp only [NoticeAhead, hpc, not_and_or, not_not] at hq
    simp only [Worker.step, hpc, Option.some.injEq, Prod.mk.injEq] at hs
    obtain ⟨rfl, rfl⟩ := hs
    constructor
    · unfold Shared.sendEnrollNotice
      rcases hq with hfid | huid
      · rw [if_pos hfid]
      · rw [if_pos huid, ite_self]
    · split <;> exact id
  | lookup =>
    simp only [Worker.step, hpc, Option.some.injEq, Prod.mk.injEq] at hs
    obtain ⟨rfl, rfl⟩ := hs
    refine ⟨rfl, fun hfound => hq ?_⟩
    simp only [NoticeAhead, Found] at hfound
    simp only [NoticeAhead, Found, hpc]
    split_ifs at hfound with hfid
    · exact ⟨hfound.1, hfid, hfound.2⟩
    · simp at hfound
  | payloadRelease =>
    simp only [NoticeAhead, Found, hpc] at hq
    simp only [Worker.step, hpc, Option.some.injEq, Prod.mk.injEq] at hs
    obtain ⟨rfl, rfl⟩ := hs
    refine ⟨rfl, ?_⟩
    unfold Worker.out
    split <;> simp_all [NoticeAhead, Found, Worker.goto]
  | sensorUninit | vcsUninit | setIdle =>
    simp only [NoticeAhead, Found, hpc] at hq
    simp only [Worker.step, hpc, Option.some.injEq, Prod.mk.injEq] at hs
    obtain ⟨rfl, rfl⟩ := hs
    refine ⟨rfl, ?_⟩
    cases hr : w.routine <;> simp_all [NoticeAhead, Found, Worker.goto]
  | unknown0 | updateCalData | arm | testSignal | wait | clearSignal =>
    simp only [Worker.step, hpc, Option.some.injEq, Prod.mk.injEq] at hs
    obtain ⟨rfl, rfl⟩ := hs
    refine ⟨rfl, ?_⟩
    first | exact id | (split <;> exact id)
  | returned => simp [Worker.step, hpc] at hs
  | _ => simp [NoticeAhead, Found, hpc] at hq

/-- In a stopped session the worker comes to no match command that was not ahead before. -/
theorem beforeMatch_step (hst : Stopped sh) (hp : Placed sh w) (hs : w.step sh r = some (sh', w'))
    (hahead : beforeMatch w'.pc = true) : beforeMatch w.pc = true := by
  have hout : beforeMatch w.out.pc = false := by
    rcases w.out_pc with h | h <;> rw [h] <;> rfl
  have hrun : exitStage w.pc = .running := by
    refine running_of_step hs ?_
    cases hp : w'.pc <;> simp [hp, beforeMatch] at hahead <;> rfl
  have htrue : ∀ site, beforeMatch (w.checked true site).pc = false := by
    intro site
    cases site with
    | waiting => rfl
    | waited | reading => exact hout
  by_contra hno
  cases hpc : w.pc with
  | check site point =>
    cases point with
    | readIdle =>
      simp only [Worker.step, hpc, Option.some.injEq, Prod.mk.injEq] at hs
      obtain ⟨-, rfl⟩ := hs
      split_ifs at hahead
      · simp [htrue] at hahead
      · simp [Worker.goto, beforeMatch] at hahead
    | readCancel =>
      have hcancel := hp.cancel hst (by rw [hpc]; rfl) (by rw [hpc]; simp)
      simp only [Worker.step, hpc, hcancel, if_true, Option.some.injEq, Prod.mk.injEq] at hs
      obtain ⟨-, rfl⟩ := hs
      simp [Worker.goto, beforeMatch] at hahead
    | abort =>
      simp only [Worker.step, hpc, Option.some.injEq, Prod.mk.injEq] at hs
      obtain ⟨-, rfl⟩ := hs
      simp [Worker.goto, beforeMatch] at hahead
    | setIdle =>
      simp only [Worker.step, hpc, Option.some.injEq, Prod.mk.injEq] at hs
      obtain ⟨-, rfl⟩ := hs
      simp [htrue] at hahead
  | scanLoop =>
    simp only [Worker.step, hpc, if_neg hst.ne_scan, Option.some.injEq, Prod.mk.injEq] at hs
    rw [← hs.2, hout] at hahead
    cases hahead
  | enrollLoop =>
    simp only [Worker.step, hpc, if_neg hst.ne_enroll, Option.some.injEq, Prod.mk.injEq] at hs
    rw [← hs.2] at hahead
    cases hahead
  | captureStart | readData | processData | processNotice | buildMatch | matchImage =>
    exact hno (by rw [hpc]; rfl)
  | failSetIdle | failNotice | sensorUninit | vcsUninit | setIdle | acquiredNotice
  | authenticatedNotice | returned => simp [hpc, exitStage] at hrun
  | _ =>
    simp only [Worker.step, hpc, Option.some.injEq, Prod.mk.injEq] at hs
    obtain ⟨-, rfl⟩ := hs
    first
      | (simp [Worker.goto, beforeMatch] at hahead; done)
      | (simp [hout] at hahead; done)
      | (split_ifs at hahead <;> first
          | (simp [Worker.goto, beforeMatch] at hahead; done)
          | simp [hout] at hahead)

/-- The slots that exist are the same where a match command is ahead. -/
theorem beforeMatch_enrolled (hs : w.step sh r = some (sh', w')) (h : beforeMatch w.pc = true) :
    sh'.enrolled = sh.enrolled := by
  have hkeeps : Worker.writesTemplates w.pc = false := by
    cases hp : w.pc <;> simp [hp, beforeMatch] at h <;> rfl
  have hsame := Worker.step_templates hs hkeeps
  unfold Shared.enrolled
  rw [hsame.1]

theorem matchAhead_step (hst : Stopped sh) (hp : Placed sh w) (hno : ¬MatchAhead sh w)
    (hs : w.step sh r = some (sh', w')) : ¬MatchAhead sh' w' := by
  rintro ⟨hahead, hroutine, henrolled⟩
  have hbefore := beforeMatch_step hst hp hs hahead
  refine hno ⟨hbefore, ?_, ?_⟩
  · rwa [Worker.step_routine hs] at hroutine
  · rwa [beforeMatch_enrolled hs hbefore] at henrolled

theorem step_lookup (hs : w.step sh r = some (sh', w')) (hlookup : w'.pc = .lookup) :
    w.pc = .matchImage := by
  have hout : w.out.pc ≠ .lookup := by
    rcases w.out_pc with h | h <;> simp [h]
  have hcaptured : ∀ ret, (w.captured ret).pc ≠ .lookup := by
    intro ret
    rcases w.captured_pc ret with h | h | h <;> simp [h, hout]
  have hrun : exitStage w.pc = .running := running_of_step hs (by rw [hlookup]; rfl)
  by_contra hno
  cases hpc : w.pc with
  | matchImage => exact hno hpc
  | check site point =>
    cases point <;> cases site <;>
      simp only [Worker.step, hpc, Option.some.injEq, Prod.mk.injEq] at hs <;>
      obtain ⟨-, rfl⟩ := hs <;> (try split_ifs at hlookup) <;>
      simp_all [Worker.checked, Worker.goto]
  | failSetIdle | failNotice | sensorUninit | vcsUninit | setIdle | acquiredNotice
  | authenticatedNotice | returned => simp [hpc, exitStage] at hrun
  | _ =>
    simp only [Worker.step, hpc, Option.some.injEq, Prod.mk.injEq] at hs
    obtain ⟨-, rfl⟩ := hs
    first
      | (simp [Worker.goto] at hlookup; done)
      | exact hout hlookup
      | (split_ifs at hlookup <;> simp_all [Worker.goto])

/-- Only the reply to a match command makes a worker find a finger. -/
theorem found_step (hp : Placed sh w) (hno : ¬Found sh w) (hpc : w.pc ≠ .matchImage)
    (hs : w.step sh r = some (sh', w')) : ¬Found sh' w' := by
  cases hcase : w.pc with
  | lookup =>
    simp only [Worker.step, hcase, Option.some.injEq, Prod.mk.injEq] at hs
    obtain ⟨rfl, rfl⟩ := hs
    refine fun hfound => hno ?_
    simp only [Found] at hfound
    simp only [Found, hcase]
    split_ifs at hfound with hfid
    · exact ⟨hfound.1, hfid, hfound.2⟩
    · simp at hfound
  | payloadRelease =>
    simp only [Found, hcase] at hno
    simp only [Worker.step, hcase, Option.some.injEq, Prod.mk.injEq] at hs
    obtain ⟨rfl, rfl⟩ := hs
    unfold Worker.out
    split <;> simp_all [Found, Worker.goto]
  | sensorUninit | vcsUninit | setIdle =>
    simp only [Found, hcase] at hno
    simp only [Worker.step, hcase, Option.some.injEq, Prod.mk.injEq] at hs
    obtain ⟨rfl, rfl⟩ := hs
    cases hr : w.routine <;> simp_all [Found, Worker.goto]
  | acquiredNotice | authenticatedNotice => simp [Found, hcase] at hno
  | failSetIdle | failNotice =>
    simp only [Worker.step, hcase, Option.some.injEq, Prod.mk.injEq] at hs
    obtain ⟨rfl, rfl⟩ := hs
    exact id
  | returned => simp [Worker.step, hcase] at hs
  | matchImage => exact absurd hcase hpc
  | _ =>
    -- nothing is found here, and the next position is neither the lookup nor a notice
    have hrun : exitStage w.pc = .running := by rw [hcase]; rfl
    have hnone : w'.fingerindex = none := by
      rcases step_fingerindex hs with hsame | ⟨hp', -⟩
      · rw [hsame]
        exact hp.none hrun (by rw [hcase]; simp)
      · simp [hcase] at hp'
    have hstage : exitStage w'.pc ≠ .notices := by
      rcases running_step hrun hs with ⟨-, h | h⟩ | ⟨-, h⟩ <;> rw [h]
      · simp
      · cases w.routine <;> simp [outStage]
      · simp
    intro hfound
    cases hp' : w'.pc <;> simp [Found, hp', hnone] at hfound
    · exact hpc (step_lookup hs hp')
    · exact hstage (by rw [hp']; rfl)
    · exact hstage (by rw [hp']; rfl)

/-! ### The session -/

/-- What holds in a run in which everything is timely. -/
structure Calm (s : Session) : Prop where
  placed : Placed s.shared s.worker
  leaving : ∀ t, s.cancels t = .leave → Stopped s.shared
  returned : s.history.returned = true → Stopped s.shared ∧ ¬NoticeAhead s.shared s.worker
  switched : s.history.switched = true → Stopped s.shared ∧ ¬MatchAhead s.shared s.worker
  sent : s.history.sentSwitched = true →
    s.history.switched = true ∧ ¬Found s.shared s.worker
  lateNotice : s.history.lateNotice = false
  lateMatch : s.history.lateMatch = false

theorem calm_start (sh : Shared) (routine : Routine) (timeout : Bool) :
    Calm (start sh routine timeout) := by
  refine ⟨⟨fun h => ?_, nofun⟩, nofun, nofun, nofun, nofun, rfl, rfl⟩
  cases routine <;> cases h

theorem calm_work (h : Calm s) (hs : step s (.work r) = some s') : Calm s' := by
  rcases work_step hs with ⟨-, -, rfl⟩ | ⟨-, sh, w, hstep, rfl⟩
  · exact ⟨h.placed, h.leaving, h.returned, h.switched, h.sent, h.lateNotice, h.lateMatch⟩
  · constructor
    case placed => exact placed_step h.placed hstep
    case leaving => exact fun t ht => stopped_step (h.leaving t ht) hstep
    case returned =>
      intro hret
      obtain ⟨hst, hq⟩ := h.returned hret
      exact ⟨stopped_step hst hstep, (quiet_step hst h.placed hq hstep).2⟩
    case switched =>
      intro hsw
      obtain ⟨hst, hm⟩ := h.switched hsw
      exact ⟨stopped_step hst hstep, matchAhead_step hst h.placed hm hstep⟩
    case sent =>
      by_cases hpc : s.worker.pc = .matchImage
      · intro hsent
        simp only [record, hpc, if_true] at hsent
        obtain ⟨-, hm⟩ := h.switched hsent
        refine ⟨hsent, fun hfound => hm ?_⟩
        -- the finger that is found is one of those that exist
        simp only [Worker.step, hpc, Option.some.injEq, Prod.mk.injEq] at hstep
        obtain ⟨rfl, rfl⟩ := hstep
        split_ifs at hfound
        · exact hfound.elim
        · exact hfound.elim
        · refine ⟨by rw [hpc]; rfl, hfound.1, fun hnil => ?_⟩
          have hsome := hfound.2.2
          simp [hnil] at hsome
      · intro hsent
        simp only [record, hpc, if_false] at hsent
        obtain ⟨hsw, hno⟩ := h.sent hsent
        exact ⟨hsw, found_step h.placed hno hpc hstep⟩
    case lateNotice =>
      simp only [record, h.lateNotice, Bool.false_or, Bool.and_eq_false_iff]
      cases hret : s.history.returned with
      | false => exact Or.inl rfl
      | true =>
        obtain ⟨hst, hq⟩ := h.returned hret
        exact Or.inr (decide_eq_false (not_not.mpr (quiet_step hst h.placed hq hstep).1))
    case lateMatch =>
      simp only [record, h.lateMatch, Bool.false_or, Bool.and_eq_false_iff]
      cases hsent : s.history.sentSwitched with
      | false => exact Or.inr rfl
      | true =>
        refine Or.inl (decide_eq_false fun hpc => (h.sent hsent).2 ?_)
        rw [Found, hpc]
        trivial

/-- What the other threads add to what has happened, and when they leave `fingerprint_cancel`. -/
structure EnvHistory (s : Session) (a : SessionEvent) (s' : Session) : Prop where
  leaving : ∀ t, s'.cancels t = .leave → s.cancels t = .leave ∨ Stopped s.shared
  returned : s'.history.returned = true →
    s.history.returned = true ∨ ∃ t, a = .cancel t ∧ s.cancels t = .leave
  switched : s'.history.switched = true ↔ s.history.switched = true ∨ Switches s a
  sentSwitched : s'.history.sentSwitched = s.history.sentSwitched
  lateNotice : s'.history.lateNotice = s.history.lateNotice
  lateMatch : s'.history.lateMatch = s.history.lateMatch

/-- A thread goes on without touching the history. -/
theorem envHistory_of_same (hh : s'.history = s.history) (hsw : ¬Switches s a)
    (hleave : ∀ t, s'.cancels t = .leave → s.cancels t = .leave ∨ Stopped s.shared) :
    EnvHistory s a s' := by
  refine ⟨hleave, ?_, ?_, ?_, ?_, ?_⟩ <;> rw [hh]
  · exact Or.inl
  · exact (or_iff_left hsw).symm

theorem leaving_goCancel {pc : CancelPc} (hpc : pc = .leave → Stopped s.shared) :
    ∀ t', (s.goCancel t pc).cancels t' = .leave → s.cancels t' = .leave ∨ Stopped s.shared := by
  intro t' ht'
  by_cases ht : t' = t
  · subst ht
    simp only [goCancel, Function.update_self] at ht'
    exact Or.inr (hpc ht')
  · simp only [goCancel, Function.update_of_ne ht] at ht'
    exact Or.inl ht'

theorem stepCancel_history (hs : stepCancel s t = some s') : EnvHistory s (.cancel t) s' := by
  have hsame : ∀ pc', s.cancels t = pc' → pc' ≠ .write → ¬Switches s (.cancel t) :=
    fun pc' hpc hne hsw => hne (hpc.symm.trans hsw)
  unfold stepCancel at hs
  split at hs <;> rename_i hpc
  case h_3 =>
    cases hs
    rw [signalTimeout_eq]
    exact envHistory_of_same rfl (hsame _ hpc nofun) (leaving_goCancel (s := s) nofun)
  case h_4 =>
    split at hs
    · cases hs
    · cases hs
      exact envHistory_of_same rfl (hsame _ hpc nofun) (leaving_goCancel (s := s) nofun)
  case h_5 =>
    cases hs
    refine envHistory_of_same rfl (hsame _ hpc nofun) (leaving_goCancel fun hleave => ?_)
    by_cases hidle : s.shared.state = .idle
    · exact Or.inl hidle
    · rw [if_pos hidle] at hleave
      cases hleave
  case h_6 =>
    cases hs
    refine envHistory_of_same rfl (hsame _ hpc nofun) (leaving_goCancel fun hleave => ?_)
    by_cases hcancel : s.shared.state = .cancel
    · exact Or.inr hcancel
    · rw [if_pos hcancel] at hleave
      cases hleave
  case h_7 =>
    cases hs
    exact ⟨leaving_goCancel (s := s) nofun, Or.inl, iff_of_true rfl (Or.inr hpc), rfl, rfl, rfl⟩
  case h_8 =>
    split at hs
    · cases hs
    · cases hs
      rw [signalCond_eq]
      exact envHistory_of_same rfl (hsame _ hpc nofun) (leaving_goCancel (s := s) nofun)
  case h_9 =>
    cases hs
    refine envHistory_of_same rfl (hsame _ hpc nofun) (leaving_goCancel fun hleave => ?_)
    by_cases hidle : s.shared.state = .idle
    · exact Or.inl hidle
    · rw [if_neg hidle] at hleave
      cases hleave
  case h_10 =>
    cases hs
    refine ⟨leaving_goCancel (s := s) nofun, fun _ => Or.inr ⟨t, rfl, hpc⟩, ?_, rfl, rfl, rfl⟩
    exact (or_iff_left (hsame _ hpc nofun)).symm
  all_goals
    cases hs
    refine envHistory_of_same rfl (hsame _ hpc nofun) (leaving_goCancel fun hleave => ?_)
    first | cases hleave | (split at hleave <;> cases hleave)

theorem env_history (hs : step s a = some s') (ha : ∀ r, a ≠ .work r) : EnvHistory s a s' := by
  cases a with
  | work r => exact absurd rfl (ha r)
  | cancel t => exact stepCancel_history hs
  | timeout =>
    simp only [step, stepTimeout] at hs
    split at hs <;> rename_i hpc <;> cases hs
    case h_8 =>
      exact ⟨fun t ht => Or.inl ht, Or.inl, iff_of_true rfl (Or.inr hpc), rfl, rfl, rfl⟩
    all_goals
      refine envHistory_of_same rfl (fun hsw => ?_) fun t ht => Or.inl ht
      cases hpc.symm.trans hsw
  | drdy =>
    cases hs
    rw [drdy_eq]
    exact envHistory_of_same rfl id fun t ht => Or.inl ht
  | handle =>
    simp only [step] at hs
    split at hs
    · cases hs
    · cases hs
      rw [handle_eq]
      exact envHistory_of_same rfl id fun t ht => Or.inl ht

theorem env_found (henv : Env s s') :
    (Found s'.shared s'.worker ↔ Found s.shared s.worker) ∧
      (NoticeAhead s'.shared s'.worker ↔ NoticeAhead s.shared s.worker) ∧
      (MatchAhead s'.shared s'.worker ↔ MatchAhead s.shared s.worker) := by
  have henrolled : s'.shared.enrolled = s.shared.enrolled := by
    unfold Shared.enrolled
    rw [henv.finger]
  have hfound : Found s'.shared s'.worker ↔ Found s.shared s.worker := by
    unfold Found
    rw [henv.worker, henrolled]
  refine ⟨hfound, ?_, ?_⟩
  · unfold NoticeAhead
    rw [henv.secureUserId, hfound, henv.worker]
  · unfold MatchAhead
    rw [henv.worker, henrolled]

theorem calm_env (h : Calm s) (hok : Timely s a) (hs : step s a = some s')
    (ha : ∀ r, a ≠ .work r) : Calm s' := by
  obtain ⟨henv, hstate⟩ := env_step hs ha
  have hh := env_history hs ha
  obtain ⟨hfound, hnotice, hmatch⟩ := env_found henv
  have hstopped : Stopped s.shared → Stopped s'.shared := by
    intro hst
    rcases hstate with ⟨-, hst'⟩ | ⟨-, hst'⟩
    · exact Or.inr hst'
    · unfold Stopped
      rwa [hst']
  constructor
  case placed =>
    rw [henv.worker]
    refine ⟨fun hidle => ?_, h.placed.finger⟩
    rcases hstate with ⟨-, hst'⟩ | ⟨-, hst'⟩
    · cases hidle.symm.trans hst'
    · exact h.placed.idle (hst'.symm.trans hidle)
  case leaving =>
    intro t ht
    rcases hh.leaving t ht with hleave | hst
    · exact hstopped (h.leaving t hleave)
    · exact hstopped hst
  case returned =>
    intro hret
    rw [hnotice]
    rcases hh.returned hret with hret | ⟨t, rfl, hleave⟩
    · exact ⟨hstopped (h.returned hret).1, (h.returned hret).2⟩
    · exact ⟨hstopped (h.leaving t hleave), hok.1 hleave⟩
  case switched =>
    intro hsw
    rw [hmatch]
    rcases hh.switched.mp hsw with hsw | hsw
    · exact ⟨hstopped (h.switched hsw).1, (h.switched hsw).2⟩
    · refine ⟨?_, ?_⟩
      · rcases hstate with ⟨-, hst'⟩ | ⟨hno, -⟩
        · exact Or.inr hst'
        · exact absurd hsw hno
      · cases a with
        | cancel t => exact hok.2 hsw
        | timeout => exact hok hsw
        | _ => exact hsw.elim
  case sent =>
    intro hsent
    rw [hh.sentSwitched] at hsent
    rw [hfound]
    exact ⟨hh.switched.mpr (Or.inl (h.sent hsent).1), (h.sent hsent).2⟩
  case lateNotice => exact hh.lateNotice.trans h.lateNotice
  case lateMatch => exact hh.lateMatch.trans h.lateMatch

theorem calm_step (h : Calm s) (hok : Timely s a) (hs : step s a = some s') : Calm s' := by
  cases a with
  | work r => exact calm_work h hs
  | _ => exact calm_env h hok hs nofun

theorem calm_quiet (h : Calm s) : Quiet s := by
  intro s' hreach
  have hcalm : Calm s' := by
    refine hreach.invariant (fun s a t h ha hs => calm_step h ?_ hs) h
    cases a with
    | work r => trivial
    | _ => exact ha.elim
  exact ⟨hcalm.lateNotice, hcalm.lateMatch⟩

/-! ### What comes of a step that is not timely -/

/-- A bound on the steps to a notice that is ahead. -/
def stepsAhead : Pc → Nat
  | .readData => 12
  | .processData => 11
  | .processNotice => 10
  | .captureStart => 9
  | .buildMatch => 8
  | .matchImage => 7
  | .lookup => 6
  | .payloadRelease => 5
  | .sensorUninit | .findSlot => 4
  | .vcsUninit | .addImage | .enrollBegin | .unknownA => 3
  | .setIdle | .failSetIdle => 2
  | .acquiredNotice => 1
  | _ => 0

theorem notify_notices (sh : Shared) (msg : Notice) :
    (sh.notify msg).templates.notices ≠ sh.templates.notices := by
  simp [Shared.notify, Templates.notify]

/-- The trusted app, or the sensor, refuses. -/
def refusal : Reply := ⟨1, 1, fun _ => 0⟩

/-- The image is good, and the first template matches it. -/
def acceptance : Reply := ⟨0, 0, fun i => if i = 2 then 2 else 0⟩

/-- What every outcome of an enabled step fulfils. -/
theorem exists_step {P : Shared → Worker → Prop} (hpc : w.pc ≠ .returned) (r : Reply)
    (h : ∀ sh' w', w.step sh r = some (sh', w') → P sh' w') :
    ∃ sh' w', w.step sh r = some (sh', w') ∧ P sh' w' := by
  obtain ⟨sh', w', hs⟩ := @step_isSome sh w hpc r
  exact ⟨sh', w', hs, h sh' w' hs⟩

/-- A finger that is found gets announced. -/
theorem found_progress (h : Found sh w) (r : Reply) :
    ∃ sh' w', w.step sh r = some (sh', w') ∧
      (w.pc = .authenticatedNotice ∨
        (Found sh' w' ∧ stepsAhead w'.pc < stepsAhead w.pc)) := by
  refine exists_step (fun hp => by simp [Found, hp] at h) r fun sh' w' hs => ?_
  cases hpc : w.pc with
  | lookup =>
    simp only [Found, hpc] at h
    simp only [Worker.step, hpc, if_pos h.2.1, Option.some.injEq, Prod.mk.injEq] at hs
    obtain ⟨rfl, rfl⟩ := hs
    exact Or.inr ⟨⟨h.1, h.2.2⟩, by simp [stepsAhead]⟩
  | payloadRelease =>
    simp only [Found, hpc] at h
    simp only [Worker.step, hpc, Worker.out, h.1, Option.some.injEq, Prod.mk.injEq] at hs
    obtain ⟨rfl, rfl⟩ := hs
    exact Or.inr ⟨h, by simp [stepsAhead, Worker.goto]⟩
  | sensorUninit | vcsUninit | setIdle =>
    simp only [Found, hpc] at h
    simp only [Worker.step, hpc, h.1, h.2, Option.some.injEq, Prod.mk.injEq] at hs
    obtain ⟨rfl, rfl⟩ := hs
    simp [Found, Worker.goto, h.1, h.2, stepsAhead]
  | acquiredNotice =>
    simp only [Worker.step, hpc, Option.some.injEq, Prod.mk.injEq] at hs
    obtain ⟨rfl, rfl⟩ := hs
    exact Or.inr ⟨trivial, by simp [stepsAhead, Worker.goto]⟩
  | authenticatedNotice => exact Or.inl rfl
  | _ => simp [Found, hpc] at h

/-- A match command that is ahead can be sent, and can find a finger. -/
theorem match_progress (h : MatchAhead sh w) :
    ∃ r sh' w', w.step sh r = some (sh', w') ∧
      ((w.pc = .matchImage ∧ Found sh' w') ∨
        (w.pc ≠ .matchImage ∧ MatchAhead sh' w' ∧ stepsAhead w'.pc < stepsAhead w.pc)) := by
  have hne : w.pc ≠ .returned := fun hp => by simp [MatchAhead, beforeMatch, hp] at h
  obtain ⟨hahead, hroutine, henrolled⟩ := h
  cases hpc : w.pc with
  | captureStart =>
    refine ⟨refusal, exists_step hne _ fun sh' w' hs => Or.inr ⟨by simp, ?_⟩⟩
    simp only [Worker.step, hpc, Option.some.injEq, Prod.mk.injEq] at hs
    obtain ⟨rfl, rfl⟩ := hs
    simp [refusal, Reply.Ok, Worker.captured, hroutine, MatchAhead, Worker.goto, beforeMatch,
      henrolled, stepsAhead]
  | readData | processData | processNotice | buildMatch =>
    refine ⟨acceptance, exists_step hne _ fun sh' w' hs => Or.inr ⟨by simp, ?_⟩⟩
    simp only [Worker.step, hpc, Option.some.injEq, Prod.mk.injEq] at hs
    obtain ⟨rfl, rfl⟩ := hs
    simp [acceptance, Reply.Ok, Worker.captured, hroutine, MatchAhead, Worker.goto, beforeMatch,
      stepsAhead]
    exact henrolled
  | matchImage =>
    refine ⟨acceptance, exists_step hne _ fun sh' w' hs => Or.inl ⟨rfl, ?_⟩⟩
    simp only [Worker.step, hpc, Option.some.injEq, Prod.mk.injEq] at hs
    obtain ⟨rfl, rfl⟩ := hs
    simp [acceptance, Found, hroutine, List.length_pos_iff.mpr henrolled]
  | _ => simp [hpc, beforeMatch] at hahead

theorem noticeAhead_of_found (h : Found sh w) : NoticeAhead sh w := by
  cases hpc : w.pc <;> simp_all [Found, NoticeAhead]

/-- A notice that is ahead can be sent. -/
theorem notice_progress (h : NoticeAhead sh w) :
    ∃ r sh' w', w.step sh r = some (sh', w') ∧
      (sh'.templates.notices ≠ sh.templates.notices ∨
        (NoticeAhead sh' w' ∧ stepsAhead w'.pc < stepsAhead w.pc)) := by
  have hne : w.pc ≠ .returned := fun hp => by simp [NoticeAhead, Found, hp] at h
  cases hpc : w.pc with
  | readData =>
    refine ⟨acceptance, exists_step hne _ fun sh' w' hs => Or.inr ?_⟩
    simp only [Worker.step, hpc, Option.some.injEq, Prod.mk.injEq] at hs
    obtain ⟨rfl, rfl⟩ := hs
    simp [acceptance, Reply.Ok, NoticeAhead, Worker.goto, stepsAhead]
  | processData =>
    refine ⟨⟨0, 1, fun _ => 0⟩, exists_step hne _ fun sh' w' hs => Or.inr ?_⟩
    simp only [Worker.step, hpc, Option.some.injEq, Prod.mk.injEq] at hs
    obtain ⟨rfl, rfl⟩ := hs
    simp [NoticeAhead, stepsAhead]
  | captureStart =>
    refine ⟨refusal, exists_step hne _ fun sh' w' hs => Or.inr ?_⟩
    simp only [Worker.step, hpc, Option.some.injEq, Prod.mk.injEq] at hs
    obtain ⟨rfl, rfl⟩ := hs
    cases hr : w.routine <;>
      simp [refusal, Reply.Ok, Worker.captured, hr, NoticeAhead, Worker.goto, stepsAhead]
  | buildMatch | matchImage | findSlot | enrollBegin | unknownA | addImage | failSetIdle =>
    refine ⟨refusal, exists_step hne _ fun sh' w' hs => Or.inr ?_⟩
    simp only [Worker.step, hpc, Option.some.injEq, Prod.mk.injEq] at hs
    obtain ⟨rfl, rfl⟩ := hs
    simp [refusal, Reply.Ok, NoticeAhead, Worker.goto, stepsAhead]
  | processNotice | matchError | matchNotice | addImageNotice | failNotice | acquiredNotice
  | authenticatedNotice =>
    refine ⟨refusal, exists_step hne _ fun sh' w' hs => Or.inl ?_⟩
    simp only [Worker.step, hpc, Option.some.injEq, Prod.mk.injEq] at hs
    obtain ⟨rfl, rfl⟩ := hs
    exact notify_notices _ _
  | enrollNotice =>
    simp only [NoticeAhead, hpc] at h
    refine ⟨refusal, exists_step hne _ fun sh' w' hs => Or.inl ?_⟩
    simp only [Worker.step, hpc, Option.some.injEq, Prod.mk.injEq] at hs
    obtain ⟨rfl, rfl⟩ := hs
    unfold Shared.sendEnrollNotice
    rw [if_neg h.1, if_neg h.2]
    exact notify_notices _ _
  | lookup | payloadRelease | sensorUninit | vcsUninit | setIdle =>
    have hfound : Found sh w := by
      simpa only [NoticeAhead, hpc] using h
    obtain ⟨sh', w', hs, hlast | ⟨hfound', hlt⟩⟩ := found_progress hfound refusal
    · simp [hpc] at hlast
    · rw [hpc] at hlt
      exact ⟨refusal, sh', w', hs, Or.inr ⟨noticeAhead_of_found hfound', hlt⟩⟩
  | _ => simp [NoticeAhead, Found, hpc] at h

/-- A step that the worker takes when it is not blocked. -/
theorem session_work (hpc : s.worker.pc ≠ .wait)
    (h : s.worker.step s.shared r = some (sh', w')) :
    ∃ s', step s (.work r) = some s' ∧ s'.shared = sh' ∧ s'.worker = w' ∧
      s'.history = record s.history s.worker
        (decide (sh'.templates.notices ≠ s.shared.templates.notices)) := by
  have hs : step s (.work r) = some { s with
      shared := sh', worker := w', sleep := .awake
      history := record s.history s.worker
        (decide (sh'.templates.notices ≠ s.shared.templates.notices)) } := by
    simp only [step, if_neg hpc, workStep, h, Option.map_some]
  exact ⟨_, hs, rfl, rfl, rfl⟩

/-- If `fingerprint_cancel` has returned, a notice that is ahead is late. -/
theorem late_notice_reached (hret : s.history.returned = true)
    (h : NoticeAhead s.shared s.worker) :
    ∃ s', Machine.Reaches step IsWork s s' ∧ s'.history.lateNotice = true := by
  refine Machine.reaches_goal
    (P := fun s => s.history.returned = true ∧ NoticeAhead s.shared s.worker)
    (fun s => stepsAhead s.worker.pc) ?_ ⟨hret, h⟩
  rintro s ⟨hret, h⟩
  obtain ⟨r, sh', w', hstep, hnext⟩ := notice_progress h
  have hpc : s.worker.pc ≠ .wait := fun hp => by simp [NoticeAhead, Found, hp] at h
  obtain ⟨s', hs, rfl, rfl, hh⟩ := session_work hpc hstep
  refine Or.inr ⟨s', Machine.reaches_step hs trivial, ?_⟩
  rw [hh]
  refine hnext.imp (fun hne => ?_) fun hnext => ⟨⟨hret, hnext.1⟩, hnext.2⟩
  simp [record, hret, hne]

/-- A finger that was matched behind a switch gets announced. -/
theorem late_match_reached (hsent : s.history.sentSwitched = true)
    (h : Found s.shared s.worker) :
    ∃ s', Machine.Reaches step IsWork s s' ∧ s'.history.lateMatch = true := by
  refine Machine.reaches_goal
    (P := fun s => s.history.sentSwitched = true ∧ Found s.shared s.worker)
    (fun s => stepsAhead s.worker.pc) ?_ ⟨hsent, h⟩
  rintro s ⟨hsent, h⟩
  obtain ⟨sh', w', hstep, hnext⟩ := found_progress h refusal
  have hpc : s.worker.pc ≠ .wait := fun hp => by simp [Found, hp] at h
  have hmatch : s.worker.pc ≠ .matchImage := fun hp => by simp [Found, hp] at h
  obtain ⟨s', hs, rfl, rfl, hh⟩ := session_work hpc hstep
  refine Or.inr ⟨s', Machine.reaches_step hs trivial, ?_⟩
  rw [hh]
  refine hnext.imp (fun hlast => ?_) fun hnext => ⟨⟨?_, hnext.1⟩, hnext.2⟩
  · simp [record, hlast, hsent]
  · simp [record, hmatch, hsent]

/-- Behind a switch, a match command that is ahead can lead to an announcement. -/
theorem late_match_sent (hsw : s.history.switched = true) (h : MatchAhead s.shared s.worker) :
    ∃ s', Machine.Reaches step IsWork s s' ∧ s'.history.lateMatch = true := by
  have hfound : ∃ u, Machine.Reaches step IsWork s u ∧
      (u.history.sentSwitched = true ∧ Found u.shared u.worker) := by
    refine Machine.reaches_goal
      (P := fun s => s.history.switched = true ∧ MatchAhead s.shared s.worker)
      (fun s => stepsAhead s.worker.pc) ?_ ⟨hsw, h⟩
    rintro s ⟨hsw, h⟩
    obtain ⟨r, sh', w', hstep, hnext⟩ := match_progress h
    have hpc : s.worker.pc ≠ .wait := fun hp => by simp [MatchAhead, beforeMatch, hp] at h
    obtain ⟨s', hs, rfl, rfl, hh⟩ := session_work hpc hstep
    refine Or.inr ⟨s', Machine.reaches_step hs trivial, ?_⟩
    rw [hh]
    refine hnext.imp (fun hnext => ⟨?_, hnext.2⟩) fun hnext => ⟨⟨hsw, hnext.2.1⟩, hnext.2.2⟩
    simp [record, hnext.1, hsw]
  obtain ⟨u, hu, hsent, hfound⟩ := hfound
  obtain ⟨s', hs', hlate⟩ := late_match_reached hsent hfound
  exact ⟨s', hu.trans hs', hlate⟩

/-- A step that is not timely leaves the worker free to break the rule. -/
theorem not_timely_loud (hbad : ¬Timely s a) (hs : step s a = some s') : ¬Quiet s' := by
  intro hquiet
  obtain ⟨u, hreach, hlate⟩ : ∃ u, Machine.Reaches step IsWork s' u ∧
      (u.history.lateNotice = true ∨ u.history.lateMatch = true) := by
    cases a with
    | cancel t =>
      by_cases hleave : s.cancels t = .leave ∧ NoticeAhead s.shared s.worker
      · simp only [step, stepCancel, hleave.1, Option.some.injEq] at hs
        subst hs
        obtain ⟨u, hu, hlate⟩ := late_notice_reached
          (s := { s.goCancel t .outside with history := { s.history with returned := true } })
          rfl hleave.2
        exact ⟨u, hu, Or.inl hlate⟩
      · have hwrite : s.cancels t = .write ∧ MatchAhead s.shared s.worker := by
          by_contra hno
          refine hbad ⟨fun hpc hahead => hleave ⟨hpc, hahead⟩, fun hpc hahead => hno ⟨hpc, hahead⟩⟩
        simp only [step, stepCancel, hwrite.1, Option.some.injEq] at hs
        subst hs
        obtain ⟨u, hu, hlate⟩ := late_match_sent (s := s.switch.goCancel t .signalSensor)
          rfl hwrite.2
        exact ⟨u, hu, Or.inr hlate⟩
    | timeout =>
      obtain ⟨hpc, hahead⟩ := Classical.not_imp.mp hbad
      simp only [step, stepTimeout, hpc, Option.some.injEq] at hs
      subst hs
      obtain ⟨u, hu, hlate⟩ := late_match_sent (s := s.switch.goTimeout .poll) rfl
        (not_not.mp hahead)
      exact ⟨u, hu, Or.inr hlate⟩
    | _ => exact absurd trivial hbad
  obtain ⟨hnotice, hmatch⟩ := hquiet u hreach
  simp [hnotice, hmatch] at hlate

/-- The worker stays quiet behind `fingerprint_cancel`, and announces nothing that was matched
behind a switch, exactly if the returns and the switches are timely. -/
theorem quiet_iff (sh : Shared) (routine : Routine) (timeout : Bool)
    (hr : Machine.run step (start sh routine timeout) as = some s) :
    Machine.Along step Timely (start sh routine timeout) as ↔
      ∀ bs t, bs <+: as → Machine.run step (start sh routine timeout) bs = some t → Quiet t := by
  refine Machine.along_iff_forall_prefix (P := Calm) ?_ (fun s h => calm_quiet h) ?_ hr
    (calm_start sh routine timeout)
  · exact fun s a t h hok hs => calm_step h hok hs
  · exact fun s a t _ hbad hs => not_timely_loud hbad hs

/-- The scan is cancelled before the first capture, and `fingerprint_cancel` returns. -/
def cancelledScan : List SessionEvent :=
  .work silent :: List.replicate 5 (.cancel 0) ++ List.replicate 4 (.work silent) ++
    List.replicate 3 (.cancel 0)

theorem quiet_cancelledScan : Quiet (ending cancelledScan) := by
  have hrun : Machine.run step authenticating cancelledScan = some (ending cancelledScan) := rfl
  refine (quiet_iff .opened .vcs_authenticate false hrun).mp ?_ cancelledScan _
    List.prefix_rfl hrun
  refine Machine.along_cons rfl trivial ?_
  iterate 4 refine Machine.along_cons rfl ⟨nofun, nofun⟩ ?_
  refine Machine.along_cons rfl ⟨nofun, fun _ hahead => nomatch hahead.1⟩ ?_
  iterate 4 refine Machine.along_cons rfl trivial ?_
  iterate 2 refine Machine.along_cons rfl ⟨nofun, nofun⟩ ?_
  refine Machine.along_cons rfl ⟨fun _ => id, nofun⟩ ?_
  trivial

/-- One finger is enrolled. -/
def oneFinger : Shared :=
  Shared.opened.updateFinger slots.head? fun f => { f with exist := true }

/-- A finger is put on the sensor, and the worker takes `k` steps. -/
def scans (k : Nat) : List SessionEvent :=
  .drdy :: .handle :: List.replicate k (.work acceptance)

/-- The session is cancelled when the finger is found; `fingerprint_cancel` sees the state that
`vcs_uninit` sets. -/
def cancelledMatch : List SessionEvent :=
  scans 18 ++ List.replicate 6 (.cancel 0) ++ List.replicate 3 (.work acceptance) ++
    List.replicate 2 (.cancel 0) ++ List.replicate 2 (.work acceptance)

/-- The session is cancelled when the image has been read. -/
def cancelledImage : List SessionEvent :=
  scans 14 ++ List.replicate 5 (.cancel 0) ++ List.replicate 10 (.work acceptance)

theorem cancelledMatch_late :
    (∃ s, Machine.run step (start oneFinger .vcs_authenticate false) cancelledMatch = some s ∧
      s.history.lateNotice = true) ∧
    ∃ s, Machine.run step (start oneFinger .vcs_authenticate false) cancelledImage = some s ∧
      s.history.lateMatch = true :=
  ⟨⟨_, rfl, rfl⟩, _, rfl, rfl⟩

end Apq8084.Fingerprint.Session
