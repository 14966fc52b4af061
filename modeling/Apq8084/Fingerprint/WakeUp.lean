import Apq8084.Fingerprint.Teardown

/-! Whether a cancelled worker wakes up, and the threads that wait for `STATE_IDLE` go on. -/
namespace Apq8084.Fingerprint.Session

/-- A thread will signal `sensor.cond`. -/
def AboutToSignal (s : Session) : Prop :=
  (∃ t, s.cancels t = .write ∨ s.cancels t = .signalSensor) ∨ 0 < s.handlers

/-- The worker is blocked, or will be without another look at `tz.state`. -/
def Bound (s : Session) : Prop :=
  (s.worker.pc = .testSignal ∧ s.shared.signal = false) ∨
    (s.worker.pc = .wait ∧ s.sleep ≠ .woken)

/-- The worker is blocked in a cancelled session, and no thread is going to wake it. -/
def LostWakeUp (s : Session) : Prop :=
  s.worker.pc = .wait ∧ s.sleep = .asleep ∧ s.shared.state = .cancel ∧ ¬AboutToSignal s

/-- Some thread polls for `STATE_IDLE` or is going to; a `pthread_join` on `vcs_timeout` ends
when that thread does. -/
def Waits (s : Session) : Prop :=
  (∃ t, s.cancels t = .signalSensor ∨ s.cancels t = .poll) ∨ s.timeout = .poll

/-- The threads that wait for `STATE_IDLE` can still see it, without another finger touch. -/
def NotStuck (s : Session) : Prop :=
  Waits s → ∃ s', Machine.Reaches step (· ≠ .drdy) s s' ∧ s'.shared.state = .idle

/-- A write of `STATE_CANCEL` comes before the last write of `STATE_IDLE`; and that of
`vcs_timeout`, which does not signal `sensor.cond`, finds a worker that will look at the state, or
some thread that is about to signal. -/
def Heeded (s : Session) : SessionEvent → Prop
  | .cancel t => s.cancels t = .write → ¬Published s.worker.pc
  | .timeout => s.timeout = .write → ¬Published s.worker.pc ∧ (Bound s → AboutToSignal s)
  | _ => True

/-- A switch has got lost: the worker will not look at the state again. -/
def Lost (s : Session) : Prop :=
  s.shared.state = .cancel ∧ (Published s.worker.pc ∨ (Bound s ∧ ¬AboutToSignal s))

variable {sh sh' : Shared} {w w' : Worker} {r : Reply} {s s' : Session} {a : SessionEvent}
  {t : Nat} {as : List SessionEvent}

/-! ### The worker of a cancelled session -/

/-- A bound on the steps that a worker takes to its next write of `STATE_IDLE` once the state is
`STATE_CANCEL`. -/
def rank : Pc → Nat
  | .failSetIdle | .vcsUninit | .setIdle | .check _ .setIdle => 1
  | .sensorUninit | .check _ .abort => 2
  | .payloadRelease | .matchError | .scanLoop | .passwordSet true | .check _ .readCancel => 3
  | .lookup | .matchNotice | .unknown0 | .passwordSet false | .check _ .readIdle => 4
  | .matchImage | .store | .clearSignal | .wait | .arm => 5
  | .buildMatch | .payloadBind true | .testSignal | .updateCalData => 6
  | .payloadBind false => 7
  | .enrollFinish => 8
  | .enrollLoop => 9
  | .enrollNotice | .addImageNotice | .unknownA => 10
  | .addImage | .enrollBegin => 11
  | .captureStart | .findSlot => 12
  | .processNotice => 13
  | .processData => 14
  | .readData => 15
  | .acquiredNotice | .authenticatedNotice | .failNotice | .returned => 0

theorem rank_out (w : Worker) : rank w.out.pc ≤ 2 := by
  rcases w.out_pc with h | h <;> simp [h, rank]

theorem rank_captured (w : Worker) (ret : Int) : rank (w.captured ret).pc ≤ 11 := by
  rcases w.captured_pc ret with h | h | h
  · simp [h, rank]
  · simp [h, rank]
  · rw [h]
    exact Nat.le_trans (rank_out w) (by omega)

/-- In a cancelled session a worker comes to a write of `STATE_IDLE`, whatever the replies are. -/
theorem rank_step (hc : sh.state = .cancel) (hpub : ¬Published w.pc)
    (h : w.step sh r = some (sh', w')) :
    sh'.state = .idle ∨ (sh'.state = .cancel ∧ rank w'.pc < rank w.pc) := by
  by_cases hwrites : Worker.writesIdle w.pc = true
  · left
    rw [Worker.step_state h, if_pos hwrites]
  · right
    refine ⟨by rw [Worker.step_state h, if_neg hwrites, hc], ?_⟩
    have hout := rank_out w
    cases hp : w.pc with
    | check site point =>
      cases point with
      | setIdle => simp [hp, Worker.writesIdle] at hwrites
      | _ =>
        simp [Worker.step, hp, hc] at h
        obtain ⟨-, rfl⟩ := h
        simp [rank, Worker.goto]
    | failSetIdle | vcsUninit | setIdle => simp [hp, Worker.writesIdle] at hwrites
    | acquiredNotice | authenticatedNotice | failNotice | returned => simp [hp, Published] at hpub
    | payloadBind second =>
      simp only [Worker.step, hp, Option.some.injEq, Prod.mk.injEq] at h
      obtain ⟨-, rfl⟩ := h
      cases second <;> simp [rank, Worker.goto]
    | passwordSet second =>
      simp only [Worker.step, hp, Option.some.injEq, Prod.mk.injEq] at h
      obtain ⟨-, rfl⟩ := h
      cases second
      · simp [rank, Worker.goto]
      · exact Nat.lt_of_le_of_lt hout (by decide)
    | captureStart =>
      simp only [Worker.step, hp, Option.some.injEq, Prod.mk.injEq] at h
      obtain ⟨-, rfl⟩ := h
      split_ifs
      · simp [rank, Worker.goto]
      · exact Nat.lt_of_le_of_lt (rank_captured w r.ret) (by decide)
    | processData =>
      simp only [Worker.step, hp, Option.some.injEq, Prod.mk.injEq] at h
      obtain ⟨-, rfl⟩ := h
      split_ifs
      · exact Nat.lt_of_le_of_lt (rank_captured w (-1)) (by decide)
      · simp [rank]
      · exact Nat.lt_of_le_of_lt (rank_captured w 0) (by decide)
    | scanLoop =>
      simp only [Worker.step, hp, hc, reduceCtorEq, if_false, Option.some.injEq, Prod.mk.injEq] at h
      obtain ⟨-, rfl⟩ := h
      exact Nat.lt_of_le_of_lt hout (by decide)
    | matchError | payloadRelease =>
      simp only [Worker.step, hp, Option.some.injEq, Prod.mk.injEq] at h
      obtain ⟨-, rfl⟩ := h
      exact Nat.lt_of_le_of_lt hout (by decide)
    | enrollLoop =>
      simp only [Worker.step, hp, hc, reduceCtorEq, if_false, Option.some.injEq, Prod.mk.injEq] at h
      obtain ⟨-, rfl⟩ := h
      simp [rank, Worker.goto]
    | _ =>
      simp only [Worker.step, hp, Option.some.injEq, Prod.mk.injEq] at h
      obtain ⟨-, rfl⟩ := h
      first
        | (simp [rank, Worker.goto]; done)
        | (split_ifs <;> simp [rank, Worker.goto])

/-- The worker comes to the wait only from a look at a state that is not `STATE_CANCEL`, or from
the test of `sensor.signal`. -/
theorem enters_wait (h : w.step sh r = some (sh', w')) :
    (w'.pc = .testSignal → sh.state ≠ .cancel) ∧
      (w'.pc = .wait → w.pc = .testSignal ∧ sh.signal = false) := by
  have hout : w.out.pc ≠ .testSignal ∧ w.out.pc ≠ .wait := by
    rcases w.out_pc with h | h <;> simp [h]
  have hcaptured : ∀ ret, (w.captured ret).pc ≠ .testSignal ∧ (w.captured ret).pc ≠ .wait := by
    intro ret
    rcases w.captured_pc ret with h | h | h <;> simp [h, hout]
  cases hp : w.pc with
  | check site point =>
    cases point <;> cases site <;>
      simp only [Worker.step, hp, Option.some.injEq, Prod.mk.injEq] at h <;>
      obtain ⟨-, rfl⟩ := h <;> (try split_ifs) <;>
      simp_all [Worker.checked, Worker.goto]
  | vcsUninit =>
    simp only [Worker.step, hp, Option.some.injEq, Prod.mk.injEq] at h
    obtain ⟨-, rfl⟩ := h
    split <;> simp [Worker.goto]
  | setIdle =>
    simp only [Worker.step, hp, Option.some.injEq, Prod.mk.injEq] at h
    obtain ⟨-, rfl⟩ := h
    split
    · dsimp only [Worker.goto]
      split_ifs <;> simp
    · simp [Worker.goto]
  | _ =>
    simp only [Worker.step, hp, Option.some.injEq, Prod.mk.injEq, reduceCtorEq] at h
    all_goals
      obtain ⟨-, rfl⟩ := h
      first
        | (simp [Worker.goto]; done)
        | exact ⟨fun h => absurd h hout.1, fun h => absurd h hout.2⟩
        | (split_ifs <;> simp_all [Worker.goto])

/-- Behind the last write of `STATE_IDLE` the state is left alone. -/
theorem published_step (hpub : Published w.pc) (h : w.step sh r = some (sh', w')) :
    Published w'.pc ∧ sh'.state = sh.state := by
  rcases hpub with hp | hp | hp | hp <;>
    simp only [Worker.step, hp, Option.some.injEq, Prod.mk.injEq, reduceCtorEq] at h
  · obtain ⟨rfl, rfl⟩ := h
    exact ⟨Or.inr (Or.inl rfl), rfl⟩
  · obtain ⟨rfl, rfl⟩ := h
    exact ⟨Or.inr (Or.inr (Or.inr rfl)), rfl⟩
  · obtain ⟨rfl, rfl⟩ := h
    exact ⟨Or.inr (Or.inr (Or.inr rfl)), rfl⟩

theorem published_of_step (h : w.step sh r = some (sh', w')) (hpub : Published w'.pc) :
    Published w.pc ∨ Worker.writesIdle w.pc = true := by
  have hout : ¬Published w.out.pc := by
    rcases w.out_pc with h | h <;> simp [h, Published]
  have hcaptured : ∀ ret, ¬Published (w.captured ret).pc := by
    intro ret
    rcases w.captured_pc ret with h | h | h
    · simp [h, Published]
    · simp [h, Published]
    · rwa [h]
  by_contra hno
  obtain ⟨hnot, hwrites⟩ := not_or.mp hno
  cases hp : w.pc with
  | check site point =>
    cases point <;> cases site <;>
      simp only [Worker.step, hp, Option.some.injEq, Prod.mk.injEq] at h <;>
      obtain ⟨-, rfl⟩ := h <;> (try split_ifs at hpub) <;>
      simp_all [Worker.checked, Worker.goto, Published]
  | _ =>
    simp only [Worker.step, hp, Option.some.injEq, Prod.mk.injEq, reduceCtorEq] at h
    all_goals
      obtain ⟨-, rfl⟩ := h
      first
        | exact hout hpub
        | (simp [Published, Worker.goto] at hpub; done)
        | (simp [hp, Published] at hnot; done)
        | (simp [hp, Worker.writesIdle] at hwrites; done)
        | (split_ifs at hpub <;> simp_all [Published, Worker.goto])

/-! ### The whole session -/

/-- Steps that leave the worker, the state and the signal alone, and no fewer threads about to
signal, lose nothing. -/
theorem lost_of_same (h : Lost s') (hw : s'.worker = s.worker) (hsleep : s'.sleep = s.sleep)
    (hsh : s'.shared.state = s.shared.state) (hsignal : s'.shared.signal = s.shared.signal)
    (habout : AboutToSignal s → AboutToSignal s') : Lost s := by
  unfold Lost Bound at h ⊢
  rw [hw, hsleep, hsh, hsignal] at h
  refine ⟨h.1, h.2.imp_right fun hb => ⟨hb.1, fun ha => hb.2 (habout ha)⟩⟩

/-- A thread that leaves a place where it is not about to signal. -/
theorem aboutToSignal_goCancel {pc : CancelPc} (hw : s.cancels t ≠ .write)
    (hs : s.cancels t ≠ .signalSensor) (h : AboutToSignal s) : AboutToSignal (s.goCancel t pc) := by
  rcases h with ⟨t', ht'⟩ | h
  · refine Or.inl ⟨t', ?_⟩
    have hne : t' ≠ t := by
      rintro rfl
      rcases ht' with ht' | ht'
      · exact hw ht'
      · exact hs ht'
    simpa [goCancel, Function.update_of_ne hne] using ht'
  · exact Or.inr h

theorem aboutToSignal_self {pc : CancelPc} (hpc : pc = .write ∨ pc = .signalSensor) :
    AboutToSignal (s.goCancel t pc) :=
  Or.inl ⟨t, by simpa [goCancel] using hpc⟩

theorem not_aboutToSignal_goCancel {pc : CancelPc} (hw : pc ≠ .write) (hs : pc ≠ .signalSensor)
    (h : ¬AboutToSignal s) : ¬AboutToSignal (s.goCancel t pc) := by
  rintro (⟨t', ht'⟩ | hpos)
  · by_cases ht : t' = t
    · subst ht
      simp only [goCancel, Function.update_self] at ht'
      exact ht'.elim hw hs
    · simp only [goCancel, Function.update_of_ne ht] at ht'
      exact h (Or.inl ⟨t', ht'⟩)
  · exact h (Or.inr hpos)

/-- Behind a signal the worker is not bound to sleep, as `sensor.lock` was free. -/
theorem not_bound_signalled (hw : s'.worker = s.worker) (hsleep : s'.sleep = s.signalCond.sleep)
    (hfree : s.holdsSensorLock = false) : ¬Bound s' := by
  rintro (⟨hpc, -⟩ | ⟨hpc, hno⟩)
  · rw [hw] at hpc
    simp [holdsSensorLock, hpc] at hfree
  · rw [hw] at hpc
    rw [hsleep] at hno
    unfold signalCond at hno
    split at hno
    · exact hno rfl
    · rename_i hsl
      cases hcase : s.sleep with
      | awake => simp [holdsSensorLock, hpc, hcase] at hfree
      | asleep => exact hsl hcase
      | woken => exact hno hcase

theorem work_not_lost (h : ¬Lost s) (hs : step s (.work r) = some s') : ¬Lost s' := by
  rcases work_step hs with ⟨hpc, hsleep, rfl⟩ | ⟨hwoken, sh, w, hstep, rfl⟩
  · rintro ⟨hstate, hlost⟩
    refine h ⟨hstate, hlost.imp_right fun hb => ⟨Or.inr ⟨hpc, ?_⟩, hb.2⟩⟩
    rw [hsleep]
    exact nofun
  · rintro ⟨hstate, hlost⟩
    have hstep_state := Worker.step_state hstep
    have hwrites : Worker.writesIdle s.worker.pc = false := by
      cases hwr : Worker.writesIdle s.worker.pc with
      | false => rfl
      | true =>
        rw [if_pos hwr] at hstep_state
        cases hstate.symm.trans hstep_state
    have hbefore : s.shared.state = .cancel := by
      rw [hwrites] at hstep_state
      exact hstep_state.symm.trans hstate
    obtain ⟨htest, hwait⟩ := enters_wait hstep
    rcases hlost with hpub | ⟨hbound, habout⟩
    · rcases published_of_step hstep hpub with hp | hp
      · exact h ⟨hbefore, Or.inl hp⟩
      · rw [hwrites] at hp
        cases hp
    · rcases hbound with ⟨hpc, -⟩ | ⟨hpc, -⟩
      · exact htest hpc hbefore
      · exact h ⟨hbefore, Or.inr ⟨Or.inl (hwait hpc), habout⟩⟩

theorem stepCancel_not_lost (h : ¬Lost s) (hok : Heeded s (.cancel t))
    (hs : stepCancel s t = some s') : ¬Lost s' := by
  unfold stepCancel at hs
  split at hs
  case h_7 hpc =>
    cases hs
    rintro ⟨-, hpub | ⟨-, habout⟩⟩
    · exact hok hpc hpub
    · exact habout (aboutToSignal_self (Or.inr rfl))
  case h_8 hpc =>
    split at hs
    · cases hs
    · rename_i hfree
      cases hs
      have hfree := Bool.eq_false_iff.mpr hfree
      rintro ⟨hstate, hpub | ⟨hbound, -⟩⟩
      · rw [signalCond_eq] at hstate hpub
        exact h ⟨hstate, Or.inl hpub⟩
      · refine not_bound_signalled ?_ rfl hfree hbound
        rw [signalCond_eq]
  case h_3 hpc =>
    cases hs
    rw [signalTimeout_eq]
    refine fun hlost => h (lost_of_same hlost rfl rfl rfl rfl fun ha => ?_)
    refine aboutToSignal_goCancel ?_ ?_ ha <;> exact hpc ▸ nofun
  case h_4 hpc =>
    split at hs
    · cases hs
    · cases hs
      refine fun hlost => h (lost_of_same hlost rfl rfl rfl rfl fun ha => ?_)
      refine aboutToSignal_goCancel ?_ ?_ ha <;> rw [hpc] <;> exact nofun
  all_goals
    rename_i hpc
    cases hs
    refine fun hlost => h (lost_of_same hlost rfl rfl rfl rfl fun ha => ?_)
    refine aboutToSignal_goCancel ?_ ?_ ha <;> rw [hpc] <;> exact nofun

theorem stepTimeout_not_lost (h : ¬Lost s) (hok : Heeded s .timeout)
    (hs : stepTimeout s = some s') : ¬Lost s' := by
  unfold stepTimeout at hs
  split at hs <;> rename_i hpc <;> cases hs
  case h_8 =>
    obtain ⟨hpub, hbound⟩ := hok hpc
    rintro ⟨-, hp | ⟨hb, habout⟩⟩
    · exact hpub hp
    · exact habout (hbound hb)
  all_goals exact fun hlost => h (lost_of_same hlost rfl rfl rfl rfl id)

/-- Nothing gets lost as long as the switches are heeded. -/
theorem step_not_lost (h : ¬Lost s) (hok : Heeded s a) (hs : step s a = some s') : ¬Lost s' := by
  cases a with
  | work r => exact work_not_lost h hs
  | cancel t => exact stepCancel_not_lost h hok hs
  | timeout => exact stepTimeout_not_lost h hok hs
  | drdy =>
    cases hs
    rw [drdy_eq]
    refine fun hlost => h (lost_of_same hlost rfl rfl rfl rfl fun ha => ?_)
    exact ha.imp_right fun hpos => Nat.succ_pos _
  | handle =>
    simp only [step] at hs
    split at hs
    · cases hs
    · rename_i hfree
      obtain ⟨-, hfree⟩ := not_or.mp hfree
      cases hs
      rintro ⟨hstate, hpub | ⟨hbound, -⟩⟩
      · rw [handle_eq] at hstate hpub
        exact h ⟨hstate, Or.inl hpub⟩
      · have hworker : s.handle.worker = s.worker := by rw [handle_eq]
        exact not_bound_signalled hworker rfl (Bool.eq_false_iff.mpr hfree) hbound

/-- What has got lost stays lost until a finger is put on the sensor. -/
theorem lost_step (h : Lost s) (ha : a ≠ .drdy) (hs : step s a = some s') : Lost s' := by
  obtain ⟨hstate, hlost⟩ := h
  cases a with
  | work r =>
    rcases work_step hs with ⟨hpc, hsleep, rfl⟩ | ⟨hwoken, sh, w, hstep, rfl⟩
    · refine ⟨hstate, hlost.imp_right fun hb => ⟨Or.inr ⟨hpc, by simp⟩, hb.2⟩⟩
    · rcases hlost with hpub | ⟨⟨hpc, hsignal⟩ | ⟨hpc, hsleep⟩, habout⟩
      · obtain ⟨hpub', hstate'⟩ := published_step hpub hstep
        exact ⟨hstate'.trans hstate, Or.inl hpub'⟩
      · simp only [Worker.step, hpc, hsignal, Option.some.injEq, Prod.mk.injEq] at hstep
        obtain ⟨rfl, rfl⟩ := hstep
        exact ⟨hstate, Or.inr ⟨Or.inr ⟨rfl, by simp⟩, habout⟩⟩
      · exact absurd (hwoken hpc) hsleep
  | cancel t =>
    obtain ⟨henv, hstate'⟩ := stepCancel_env hs
    have hcancel : s'.shared.state = .cancel := by
      rw [hstate', hstate, ite_self]
    rcases hlost with hpub | ⟨hbound, habout⟩
    · exact ⟨hcancel, Or.inl (henv.worker.symm ▸ hpub)⟩
    · have hno : ∀ pc, pc ≠ .write → pc ≠ .signalSensor → ¬AboutToSignal (s.goCancel t pc) :=
        fun pc hw hsig => not_aboutToSignal_goCancel hw hsig habout
      simp only [step, stepCancel] at hs
      split at hs
      case h_7 hpc => exact absurd (Or.inl ⟨t, Or.inl hpc⟩) habout
      case h_8 hpc => exact absurd (Or.inl ⟨t, Or.inr hpc⟩) habout
      case h_3 hpc =>
        cases hs
        rw [signalTimeout_eq]
        exact ⟨hstate, Or.inr ⟨hbound, hno _ (by simp) (by simp)⟩⟩
      case h_4 hpc =>
        split at hs
        · cases hs
        · cases hs
          exact ⟨hstate, Or.inr ⟨hbound, hno _ (by simp) (by simp)⟩⟩
      case h_6 hpc =>
        -- the state is `STATE_CANCEL`, so this thread leaves
        rw [if_neg (not_not.mpr hstate)] at hs
        cases hs
        exact ⟨hstate, Or.inr ⟨hbound, hno _ (by simp) (by simp)⟩⟩
      all_goals
        cases hs
        refine ⟨hstate, Or.inr ⟨hbound, hno _ ?_ ?_⟩⟩ <;>
          first | (split <;> simp) | simp
  | timeout =>
    obtain ⟨henv, hstate'⟩ := stepTimeout_env hs
    have hcancel : s'.shared.state = .cancel := by
      rw [hstate', hstate, ite_self]
    rcases hlost with hpub | hbound
    · exact ⟨hcancel, Or.inl (henv.worker.symm ▸ hpub)⟩
    · simp only [step, stepTimeout] at hs
      split at hs <;> cases hs
      all_goals exact ⟨hcancel, Or.inr hbound⟩
  | drdy => exact absurd rfl ha
  | handle =>
    simp only [step] at hs
    split at hs
    · cases hs
    · rename_i hfree
      cases hs
      rw [handle_eq]
      rcases hlost with hpub | ⟨-, habout⟩
      · exact ⟨hstate, Or.inl hpub⟩
      · exact absurd (Or.inr (Nat.pos_of_ne_zero (not_or.mp hfree).1)) habout

/-! ### The waiting threads -/

/-- Threads wait only behind a switch to `STATE_CANCEL`. -/
def WaitsForIdle (s : Session) : Prop :=
  Waits s → s.shared.state = .idle ∨ s.shared.state = .cancel

theorem waits_goCancel {pc : CancelPc} (h : Waits (s.goCancel t pc))
    (hpc : pc = .signalSensor ∨ pc = .poll → Waits s) : Waits s := by
  rcases h with ⟨t', ht'⟩ | htimeout
  · by_cases ht : t' = t
    · subst ht
      simp only [goCancel, Function.update_self] at ht'
      exact hpc ht'
    · simp only [goCancel, Function.update_of_ne ht] at ht'
      exact Or.inl ⟨t', ht'⟩
  · exact Or.inr htimeout

/-- A thread that begins to wait has just made a switch. -/
theorem waits_of_step (hs : step s a = some s') (h : Waits s') : Waits s ∨ Switches s a := by
  cases a with
  | work r =>
    rcases work_step hs with ⟨-, -, rfl⟩ | ⟨-, sh, w, -, rfl⟩ <;> exact Or.inl h
  | cancel t =>
    simp only [step, stepCancel] at hs
    split at hs
    case h_7 hpc => exact Or.inr hpc
    case h_8 hpc => exact Or.inl (Or.inl ⟨t, Or.inl hpc⟩)
    case h_9 hpc => exact Or.inl (Or.inl ⟨t, Or.inr hpc⟩)
    case h_3 hpc =>
      cases hs
      have htimeout : s.signalTimeout.timeout = .poll → s.timeout = .poll := by
        unfold signalTimeout
        split
        · simp
        · exact id
      rw [signalTimeout_eq] at h
      refine Or.inl ?_
      rcases waits_goCancel h (by simp) with hcancel | hpoll
      · exact Or.inl hcancel
      · exact Or.inr (htimeout hpoll)
    case h_4 hpc =>
      split at hs
      · cases hs
      · cases hs
        exact Or.inl (waits_goCancel h (by simp))
    all_goals
      cases hs
      refine Or.inl (waits_goCancel h ?_)
      first | (split <;> simp) | simp
  | timeout =>
    simp only [step, stepTimeout] at hs
    split at hs <;> rename_i hpc <;> cases hs
    case h_8 => exact Or.inr hpc
    case h_9 => exact Or.inl (Or.inr hpc)
    all_goals
      rcases h with hcancel | hpoll
      · exact Or.inl (Or.inl hcancel)
      · simp only [goTimeout] at hpoll
        first | cases hpoll | (split at hpoll <;> cases hpoll)
  | drdy =>
    cases hs
    have htimeout : s.drdy.timeout = .poll → s.timeout = .poll := by
      unfold drdy signalTimeout
      split
      · split
        · simp
        · exact id
      · exact id
    rw [drdy_eq] at h
    exact Or.inl (h.imp_right htimeout)
  | handle =>
    simp only [step] at hs
    split at hs
    · cases hs
    · cases hs
      rw [handle_eq] at h
      exact Or.inl h

theorem waitsForIdle_step (h : WaitsForIdle s) (hs : step s a = some s') : WaitsForIdle s' := by
  intro hwaits
  cases a with
  | work r =>
    rcases work_step hs with ⟨-, -, rfl⟩ | ⟨-, sh, w, hstep, rfl⟩
    · exact h hwaits
    · rw [Worker.step_state hstep]
      split
      · exact Or.inl rfl
      · exact h hwaits
  | _ =>
    obtain ⟨-, ⟨-, hstate⟩ | ⟨hsw, hstate⟩⟩ := env_step hs nofun
    · exact Or.inr hstate
    · rw [hstate]
      exact h ((waits_of_step hs hwaits).resolve_right hsw)

/-! ### How a cancelled session comes to its end -/

/-- The state is `STATE_CANCEL`, and the switch has not got lost. -/
def Cancelled (s : Session) : Prop := s.shared.state = .cancel ∧ ¬Lost s

theorem step_isSome (hpc : w.pc ≠ .returned) (r : Reply) :
    ∃ sh' w', w.step sh r = some (sh', w') := by
  cases hp : w.pc with
  | returned => exact absurd hp hpc
  | check site point => cases point <;> simp [Worker.step, hp]
  | _ => simp [Worker.step, hp]

theorem cancelled_not_published (h : Cancelled s) : ¬Published s.worker.pc :=
  fun hpub => h.2 ⟨h.1, Or.inl hpub⟩

/-- A step that leaves the worker at `pthread_cond_wait` in the cancelled session. -/
theorem cancelled_step (h : Cancelled s) (hpc : s.worker.pc = .wait) (hs : step s a = some s')
    (ha : a ≠ .timeout) (hw : s'.worker = s.worker) (hstate : s'.shared.state = .cancel) :
    Cancelled s' ∧ s'.worker.pc = .wait := by
  refine ⟨⟨hstate, step_not_lost h.2 ?_ hs⟩, hw ▸ hpc⟩
  cases a with
  | cancel t =>
    intro _
    rw [hpc]
    decide
  | timeout => exact absurd rfl ha
  | _ => trivial

/-- A blocked worker is signalled. -/
theorem cancelled_woken (h : Cancelled s) (hpc : s.worker.pc = .wait) (hsleep : s.sleep = .asleep) :
    ∃ s', Machine.Reaches step (· ≠ .drdy) s s' ∧ Cancelled s' ∧ s'.worker.pc = .wait ∧
      s'.sleep = .woken := by
  have hfree : s.holdsSensorLock = false := by simp [holdsSensorLock, hpc, hsleep]
  have habout : AboutToSignal s := by
    by_contra habout
    exact h.2 ⟨h.1, Or.inr ⟨Or.inr ⟨hpc, by simp [hsleep]⟩, habout⟩⟩
  have hwoken : s.signalCond.sleep = .woken := by
    unfold signalCond
    rw [if_pos hsleep]
  -- a call of `fingerprint_cancel` that stands before the signal
  have hsignal : ∀ u : Session, Cancelled u → u.worker = s.worker → u.sleep = .asleep →
      ∀ t, u.cancels t = .signalSensor →
      ∃ s', Machine.Reaches step (· ≠ .drdy) u s' ∧ Cancelled s' ∧ s'.worker.pc = .wait ∧
        s'.sleep = .woken := by
    intro u hu hw husleep t ht
    have hpc' : u.worker.pc = .wait := hw ▸ hpc
    have hs : step u (.cancel t) = some (u.signalCond.goCancel t .poll) := by
      simp [step, stepCancel, ht, holdsSensorLock, hpc', husleep]
    have heq : u.signalCond = { u with sleep := .woken } := by
      unfold signalCond
      rw [if_pos husleep]
    obtain ⟨hc, hp⟩ :=
      cancelled_step hu hpc' hs (by simp) (by rw [heq]; rfl) (by rw [heq]; exact hu.1)
    refine ⟨_, Machine.reaches_step hs (by simp), hc, hp, ?_⟩
    rw [heq]
    rfl
  rcases habout with ⟨t, ht | ht⟩ | hpos
  · have hs : step s (.cancel t) = some (s.switch.goCancel t .signalSensor) := by
      simp [step, stepCancel, ht]
    obtain ⟨hc, -⟩ := cancelled_step h hpc hs (by simp) rfl rfl
    obtain ⟨s', hreach, hs'⟩ := hsignal _ hc rfl hsleep t (by simp [goCancel])
    exact ⟨s', (Machine.reaches_step hs (by simp)).trans hreach, hs'⟩
  · exact hsignal s h rfl hsleep t ht
  · have hs : step s .handle = some s.handle := by
      simp [step, hfree, Nat.ne_of_gt hpos]
    have hw : s.handle.worker = s.worker := by rw [handle_eq]
    have hstate : s.handle.shared.state = .cancel := by
      rw [handle_eq]
      exact h.1
    obtain ⟨hc, hp⟩ := cancelled_step h hpc hs (by simp) hw hstate
    exact ⟨_, Machine.reaches_step hs (by simp), hc, hp, hwoken⟩

/-- The worker takes a step of its own. -/
theorem cancelled_work (h : Cancelled s) (hsleep : s.worker.pc = .wait → s.sleep = .woken) :
    ∃ s', Machine.Reaches step (· ≠ .drdy) s s' ∧
      (s'.shared.state = .idle ∨ (Cancelled s' ∧ rank s'.worker.pc < rank s.worker.pc)) := by
  have hpub := cancelled_not_published h
  have hreturned : s.worker.pc ≠ .returned :=
    fun hp => hpub (Or.inr (Or.inr (Or.inr hp)))
  obtain ⟨sh', w', hstep⟩ := @step_isSome s.shared s.worker hreturned silent
  obtain ⟨s', hwork, hsh, hw⟩ : ∃ s', workStep s silent = some s' ∧ s'.shared = sh' ∧
      s'.worker = w' := by
    simp only [workStep, hstep, Option.map_some]
    exact ⟨_, rfl, rfl, rfl⟩
  have hs : step s (.work silent) = some s' := by
    simp only [step]
    split
    · rename_i hpc
      rw [hsleep hpc]
      exact hwork
    · exact hwork
  refine ⟨s', Machine.reaches_step hs (by simp), ?_⟩
  rw [hsh, hw]
  refine (rank_step h.1 hpub hstep).imp_right fun hnext => ?_
  exact ⟨⟨hsh ▸ hnext.1, work_not_lost h.2 hs⟩, hnext.2⟩

/-- In a cancelled session `STATE_IDLE` can be reached without another finger touch. -/
theorem cancelled_reaches_idle (h : Cancelled s) :
    ∃ s', Machine.Reaches step (· ≠ .drdy) s s' ∧ s'.shared.state = .idle := by
  refine Machine.reaches_goal (P := Cancelled) (fun s => rank s.worker.pc) (fun s h => Or.inr ?_) h
  by_cases hpc : s.worker.pc = .wait
  · have hwake : ∀ u : Session, Cancelled u → u.worker.pc = .wait → u.sleep = .woken →
        ∃ s', Machine.Reaches step (· ≠ .drdy) u s' ∧
          (s'.shared.state = .idle ∨ (Cancelled s' ∧ rank s'.worker.pc < rank s.worker.pc)) := by
      intro u hu hp hsleep
      have := cancelled_work hu fun _ => hsleep
      rwa [hp, ← hpc] at this
    have hblocked : ∀ u : Session, Cancelled u → u.worker.pc = .wait → u.sleep = .asleep →
        ∃ s', Machine.Reaches step (· ≠ .drdy) u s' ∧
          (s'.shared.state = .idle ∨ (Cancelled s' ∧ rank s'.worker.pc < rank s.worker.pc)) := by
      intro u hu hp hsleep
      obtain ⟨v, huv, hv, hpv, hwoken⟩ := cancelled_woken hu hp hsleep
      obtain ⟨s', hs', hgoal⟩ := hwake v hv hpv hwoken
      exact ⟨s', huv.trans hs', hgoal⟩
    cases hsleep : s.sleep with
    | awake =>
      have hs : step s (.work silent) = some { s with sleep := .asleep } := by
        simp [step, hpc, hsleep]
      obtain ⟨hc, hp⟩ := cancelled_step h hpc hs (by simp) rfl h.1
      obtain ⟨s', hs', hgoal⟩ := hblocked _ hc hp rfl
      exact ⟨s', (Machine.reaches_step hs (by simp)).trans hs', hgoal⟩
    | asleep => exact hblocked s h hpc hsleep
    | woken => exact hwake s h hpc hsleep
  · exact cancelled_work h fun hp => absurd hp hpc

/-! ### The main result -/

/-- Nothing has got lost, and the threads that wait do so behind a switch. -/
def Awake (s : Session) : Prop := ¬Lost s ∧ WaitsForIdle s

theorem awake_ok (h : Awake s) : ¬LostWakeUp s ∧ NotStuck s := by
  constructor
  · rintro ⟨hpc, hsleep, hstate, habout⟩
    exact h.1 ⟨hstate, Or.inr ⟨Or.inr ⟨hpc, by simp [hsleep]⟩, habout⟩⟩
  · intro hwaits
    rcases h.2 hwaits with hstate | hstate
    · exact ⟨s, Machine.reaches_refl s, hstate⟩
    · exact cancelled_reaches_idle ⟨hstate, h.1⟩

theorem lost_stuck (h : Lost s) (hwaits : Waits s) : ¬NotStuck s := by
  intro hfree
  obtain ⟨s', hreach, hstate⟩ := hfree hwaits
  have hlost : Lost s' := hreach.invariant (fun s a t h ha hs => lost_step h ha hs) h
  cases hstate.symm.trans hlost.1

/-- A switch that is not heeded leaves the thread that made it stuck. -/
theorem not_heeded_stuck (hbad : ¬Heeded s a) (hs : step s a = some s') : ¬NotStuck s' := by
  cases a with
  | cancel t =>
    obtain ⟨hpc, hpub⟩ := Classical.not_imp.mp hbad
    simp only [step, stepCancel, hpc, Option.some.injEq] at hs
    subst hs
    exact lost_stuck ⟨rfl, Or.inl (not_not.mp hpub)⟩ (Or.inl ⟨t, by simp [goCancel]⟩)
  | timeout =>
    obtain ⟨hpc, hno⟩ := Classical.not_imp.mp hbad
    simp only [step, stepTimeout, hpc, Option.some.injEq] at hs
    subst hs
    refine lost_stuck ⟨rfl, ?_⟩ (Or.inr rfl)
    by_cases hpub : Published s.worker.pc
    · exact Or.inl hpub
    · obtain ⟨hbound, habout⟩ := Classical.not_imp.mp fun h => hno ⟨hpub, h⟩
      exact Or.inr ⟨hbound, habout⟩
  | _ => exact absurd trivial hbad

/-- In the states of a run no wake-up is lost, and no thread is stuck, exactly if all switches to
`STATE_CANCEL` are heeded. -/
theorem wake_up_iff (sh : Shared) (routine : Routine) (timeout : Bool)
    (hr : Machine.run step (start sh routine timeout) as = some s) :
    Machine.Along step Heeded (start sh routine timeout) as ↔
      ∀ bs t, bs <+: as → Machine.run step (start sh routine timeout) bs = some t →
        ¬LostWakeUp t ∧ NotStuck t := by
  have hstart : Awake (start sh routine timeout) := by
    constructor
    · rintro ⟨hstate, -⟩
      cases routine <;> cases hstate
    · rintro (⟨t, ht | ht⟩ | ht)
      · cases ht
      · cases ht
      · cases timeout <;> cases ht
  refine Machine.along_iff_forall_prefix (P := Awake) ?_ (fun s h => awake_ok h) ?_ hr hstart
  · exact fun s a t h hok hs => ⟨step_not_lost h.1 hok hs, waitsForIdle_step h.2 hs⟩
  · exact fun s a t _ hbad hs hok => not_heeded_stuck hbad hs hok.2

def enrolling : Session := start .opened .vcs_enroll true

def outcome (as : List SessionEvent) : Session := (Machine.run step enrolling as).getD enrolling

/-- The worker waits for a finger. -/
def fallsAsleep : List SessionEvent := List.replicate 11 (.work silent)

/-- A call of `fingerprint_cancel` stops `vcs_timeout` and signals the worker. -/
def userCancel : List SessionEvent :=
  fallsAsleep ++ .timeout :: List.replicate 3 (.cancel 0) ++
    .timeout :: List.replicate 5 (.cancel 0)

theorem wake_up_userCancel : ¬LostWakeUp (outcome userCancel) ∧ NotStuck (outcome userCancel) := by
  have hrun : Machine.run step enrolling userCancel = some (outcome userCancel) := rfl
  refine (wake_up_iff .opened .vcs_enroll true hrun).mp ?_ userCancel _ List.prefix_rfl hrun
  iterate 11 refine Machine.along_cons rfl trivial ?_
  refine Machine.along_cons rfl nofun ?_
  iterate 3 refine Machine.along_cons rfl nofun ?_
  refine Machine.along_cons rfl nofun ?_
  iterate 3 refine Machine.along_cons rfl nofun ?_
  refine Machine.along_cons rfl (fun _ => by decide) ?_
  refine Machine.along_cons rfl nofun ?_
  trivial

/-- The time runs out while the worker waits for a finger. -/
def timesOut : List SessionEvent := fallsAsleep ++ List.replicate 5 .timeout

theorem timesOut_stuck :
    ∃ s, Machine.run step enrolling timesOut = some s ∧ LostWakeUp s ∧ ¬NotStuck s := by
  have habout : ¬AboutToSignal (outcome timesOut) := by
    rintro (⟨t, ht | ht⟩ | hpos)
    · cases ht
    · cases ht
    · exact absurd hpos (by decide)
  refine ⟨outcome timesOut, rfl, ⟨rfl, rfl, rfl, habout⟩, ?_⟩
  refine lost_stuck ⟨rfl, Or.inr ⟨?_, habout⟩⟩ (Or.inr rfl)
  exact Or.inr ⟨rfl, nofun⟩

end Apq8084.Fingerprint.Session
