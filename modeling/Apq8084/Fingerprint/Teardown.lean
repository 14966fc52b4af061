import Apq8084.Fingerprint.Session

/-! What a worker leaves behind when it returns. -/
namespace Apq8084.Fingerprint.Session

/-- The state is idle, and the sensor and the trusted app are shut down. -/
def TornDown (s : Session) : Prop :=
  s.shared.state = .idle ∧ s.shared.sensorInit = false ∧ s.shared.tzInit = false

/-- The worker has made its last write of `STATE_IDLE`. -/
def Published (pc : Pc) : Prop :=
  pc = .acquiredNotice ∨ pc = .authenticatedNotice ∨ pc = .failNotice ∨ pc = .returned

instance (pc : Pc) : Decidable (Published pc) :=
  inferInstanceAs (Decidable (_ ∨ _ ∨ _ ∨ _))

/-- The replies with which `vcs_enroll` does not return early. -/
def Accepts (w : Worker) (r : Reply) : Prop :=
  (w.pc = .enrollBegin ∨ w.pc = .unknownA → r.Ok) ∧ (w.pc = .addImage → r.ret = 0)

/-- `vcs_enroll` does not return early, and no write of `STATE_CANCEL` comes after the last write
of `STATE_IDLE`. -/
def Orderly (s : Session) : SessionEvent → Prop
  | .work r => Accepts s.worker r
  | a => Switches s a → ¬Published s.worker.pc

/-- The parts of a run, as far as the shutting down is concerned. -/
inductive ExitStage where
  | running | failing | sensor | app | idle | notices | gone
deriving DecidableEq

def exitStage : Pc → ExitStage
  | .failSetIdle | .failNotice => .failing
  | .sensorUninit => .sensor
  | .vcsUninit => .app
  | .setIdle => .idle
  | .acquiredNotice | .authenticatedNotice => .notices
  | .returned => .gone
  | _ => .running

variable {sh sh' : Shared} {w w' : Worker} {r : Reply} {s s' : Session} {a : SessionEvent}
  {good : Prop} {as : List SessionEvent}

/-- Where the label `out` leads to. -/
def outStage : Routine → ExitStage
  | .vcs_authenticate => .sensor
  | .vcs_enroll => .idle

theorem exitStage_out (w : Worker) : exitStage w.out.pc = outStage w.routine := by
  unfold Worker.out outStage
  split <;> simp_all [exitStage, Worker.goto]

theorem exitStage_captured (w : Worker) (ret : Int) :
    exitStage (w.captured ret).pc = .running ∨
      exitStage (w.captured ret).pc = outStage w.routine := by
  unfold Worker.captured
  split
  · exact Or.inr (exitStage_out w)
  · left
    split <;> rfl

theorem exitStage_checked (w : Worker) (ret : Bool) (site : CheckSite) :
    exitStage (w.checked ret site).pc = .running ∨
      exitStage (w.checked ret site).pc = outStage w.routine := by
  cases site <;> cases ret
  · exact Or.inl rfl
  · exact Or.inl rfl
  · exact Or.inl rfl
  · exact exitStage_captured w (-1)
  · exact Or.inl rfl
  · exact exitStage_captured w (-1)

/-- Before the worker leaves, it goes on, returns early, or comes to `out`. -/
theorem running_step (hpc : exitStage w.pc = .running) (h : w.step sh r = some (sh', w')) :
    (Accepts w r ∧ (exitStage w'.pc = .running ∨ exitStage w'.pc = outStage w.routine)) ∨
      (¬Accepts w r ∧ exitStage w'.pc = .failing) := by
  cases hp : w.pc with
  | check site point =>
    have hacc : Accepts w r := by simp [Accepts, hp]
    refine Or.inl ⟨hacc, ?_⟩
    cases point <;> simp only [Worker.step, hp, Option.some.injEq, Prod.mk.injEq] at h <;>
      obtain ⟨-, rfl⟩ := h
    · split_ifs
      · exact exitStage_checked w true site
      · exact Or.inl rfl
    · split_ifs
      · exact Or.inl rfl
      · exact exitStage_checked w false site
    · exact Or.inl rfl
    · exact exitStage_checked w true site
  | enrollBegin | unknownA =>
    simp only [Worker.step, hp, Option.some.injEq, Prod.mk.injEq] at h
    obtain ⟨-, rfl⟩ := h
    by_cases hok : r.Ok
    · left
      simp [Accepts, hp, hok, Worker.goto, exitStage]
    · right
      simp [Accepts, hp, hok, Worker.goto, exitStage]
  | addImage =>
    simp only [Worker.step, hp, Option.some.injEq, Prod.mk.injEq] at h
    obtain ⟨-, rfl⟩ := h
    by_cases hret : r.ret = 0
    · left
      refine ⟨by simp [Accepts, hp, hret], Or.inl ?_⟩
      rw [if_neg (not_not.mpr hret)]
      split_ifs <;> rfl
    · right
      rw [if_pos hret]
      exact ⟨fun hacc => hret (hacc.2 hp), rfl⟩
  | captureStart =>
    simp only [Worker.step, hp, Option.some.injEq, Prod.mk.injEq] at h
    obtain ⟨-, rfl⟩ := h
    refine Or.inl ⟨by simp [Accepts, hp], ?_⟩
    split_ifs
    · exact Or.inl rfl
    · exact exitStage_captured w r.ret
  | processData =>
    simp only [Worker.step, hp, Option.some.injEq, Prod.mk.injEq] at h
    obtain ⟨-, rfl⟩ := h
    refine Or.inl ⟨by simp [Accepts, hp], ?_⟩
    split_ifs
    · exact exitStage_captured w (-1)
    · exact Or.inl rfl
    · exact exitStage_captured w 0
  | failSetIdle | failNotice | sensorUninit | vcsUninit | setIdle | acquiredNotice
  | authenticatedNotice | returned =>
    rw [hp] at hpc
    cases hpc
  | _ =>
    simp only [Worker.step, hp, Option.some.injEq, Prod.mk.injEq] at h
    obtain ⟨-, rfl⟩ := h
    refine Or.inl ⟨by simp [Accepts, hp], ?_⟩
    first
      | exact Or.inl rfl
      | exact Or.inr (exitStage_out w)
      | (split_ifs <;> first | exact Or.inl rfl | exact Or.inr (exitStage_out w))

/-- What holds in each part of a run; `good` says that all steps so far were orderly. -/
def AtExit (s : Session) (good : Prop) : ExitStage → Prop
  | .running => s.shared.inits = (true, true) ∧ good
  | .failing => s.shared.sensorInit = true ∧ ¬good
  | .sensor => good
  | .app => s.shared.sensorInit = false ∧ good
  | .idle => (s.worker.routine = .vcs_authenticate → s.shared.inits = (false, false)) ∧ good
  | .notices => s.shared.inits = (false, false) ∧ (good ↔ s.shared.state = .idle)
  | .gone =>
    (s.shared.inits = (false, false) ∧ (good ↔ s.shared.state = .idle)) ∨
      (s.shared.sensorInit = true ∧ ¬good)

def ExitInv (s : Session) (good : Prop) : Prop := AtExit s good (exitStage s.worker.pc)

theorem exitInv_start (sh : Shared) (routine : Routine) (timeout : Bool) :
    ExitInv (start sh routine timeout) True := by
  cases routine <;> exact ⟨rfl, trivial⟩

theorem inits_eq {b b' : Bool} : sh.inits = (b, b') ↔ sh.sensorInit = b ∧ sh.tzInit = b' :=
  Prod.mk.injEq _ _ _ _ ▸ Iff.rfl

theorem failing_pc {pc : Pc} (h : exitStage pc = .failing) :
    pc = .failSetIdle ∨ pc = .failNotice := by
  cases pc <;> simp [exitStage] at h ⊢

theorem sensor_pc {pc : Pc} (h : exitStage pc = .sensor) : pc = .sensorUninit := by
  cases pc <;> simp [exitStage] at h ⊢

theorem app_pc {pc : Pc} (h : exitStage pc = .app) : pc = .vcsUninit := by
  cases pc <;> simp [exitStage] at h ⊢

theorem idle_pc {pc : Pc} (h : exitStage pc = .idle) : pc = .setIdle := by
  cases pc <;> simp [exitStage] at h ⊢

theorem notices_pc {pc : Pc} (h : exitStage pc = .notices) :
    pc = .acquiredNotice ∨ pc = .authenticatedNotice := by
  cases pc <;> simp [exitStage] at h ⊢

theorem gone_pc {pc : Pc} (h : exitStage pc = .gone) : pc = .returned := by
  cases pc <;> simp [exitStage] at h ⊢

theorem published_stage {pc : Pc} (h : Published pc) :
    exitStage pc = .failing ∨ exitStage pc = .notices ∨ exitStage pc = .gone := by
  rcases h with rfl | rfl | rfl | rfl <;> simp [exitStage]

/-- Other threads change only the state. -/
theorem env_exitInv (h : ExitInv s good) (henv : Env s s')
    (hstate : (Switches s a ∧ s'.shared.state = .cancel) ∨
      (¬Switches s a ∧ s'.shared.state = s.shared.state)) (ha : ∀ r, a ≠ .work r) :
    ExitInv s' (good ∧ Orderly s a) := by
  have hsensor := henv.sensorInit
  have hinits : s'.shared.inits = s.shared.inits := by
    unfold Shared.inits
    rw [henv.sensorInit, henv.tzInit]
  have horderly : Orderly s a ↔ (Switches s a → ¬Published s.worker.pc) := by
    cases a with
    | work r => exact absurd rfl (ha r)
    | _ => exact Iff.rfl
  -- behind the last write of `STATE_IDLE`, a switch is what makes the difference
  have hidle : Published s.worker.pc → (good ↔ s.shared.state = .idle) →
      (good ∧ Orderly s a ↔ s'.shared.state = .idle) := by
    intro hpub hgood
    rw [horderly]
    rcases hstate with ⟨hsw, hst⟩ | ⟨hsw, hst⟩
    · rw [hst]
      exact iff_of_false (fun h => h.2 hsw hpub) nofun
    · rw [hst, hgood]
      exact and_iff_left fun h => absurd h hsw
  have hbefore : ¬Published s.worker.pc → good → good ∧ Orderly s a :=
    fun hpub hgood => ⟨hgood, horderly.mpr fun _ => hpub⟩
  unfold ExitInv at h ⊢
  rw [henv.worker]
  cases hpc : exitStage s.worker.pc with
  | running =>
    rw [hpc] at h
    refine ⟨hinits.trans h.1, hbefore (fun hp => ?_) h.2⟩
    have := published_stage hp
    simp [hpc] at this
  | failing =>
    rw [hpc] at h
    exact ⟨hsensor.trans h.1, fun hg => h.2 hg.1⟩
  | sensor =>
    rw [hpc] at h
    refine hbefore (fun hp => ?_) h
    have := published_stage hp
    simp [hpc] at this
  | app =>
    rw [hpc] at h
    refine ⟨hsensor.trans h.1, hbefore (fun hp => ?_) h.2⟩
    have := published_stage hp
    simp [hpc] at this
  | idle =>
    rw [hpc] at h
    refine ⟨fun hr => hinits.trans (h.1 ?_), hbefore (fun hp => ?_) h.2⟩
    · rw [← henv.worker]
      exact hr
    · have := published_stage hp
      simp [hpc] at this
  | notices =>
    rw [hpc] at h
    refine ⟨hinits.trans h.1, hidle ?_ h.2⟩
    rcases notices_pc hpc with hp | hp
    · exact Or.inl hp
    · exact Or.inr (Or.inl hp)
  | gone =>
    rw [hpc] at h
    rcases h with ⟨hi, hg⟩ | ⟨hi, hg⟩
    · exact Or.inl ⟨hinits.trans hi, hidle (Or.inr (Or.inr (Or.inr (gone_pc hpc)))) hg⟩
    · exact Or.inr ⟨hsensor.trans hi, fun h => hg h.1⟩

theorem running_work (hs : s.worker.step s.shared r = some (s'.shared, s'.worker))
    (hpc : exitStage s.worker.pc = .running) (hinits : s.shared.inits = (true, true))
    (hgood : good) : ExitInv s' (good ∧ Accepts s.worker r) := by
  have hroutine := Worker.step_routine hs
  have hsensor : s.worker.pc ≠ .sensorUninit := fun hp => by simp [hp, exitStage] at hpc
  have happ : s.worker.pc ≠ .vcsUninit := fun hp => by simp [hp, exitStage] at hpc
  have hinits' := (Worker.step_inits hs hsensor happ).trans hinits
  unfold ExitInv
  rcases running_step hpc hs with ⟨hacc, hnext | hnext⟩ | ⟨hacc, hnext⟩
  · rw [hnext]
    exact ⟨hinits', hgood, hacc⟩
  · rw [hnext]
    cases hr : s.worker.routine with
    | vcs_authenticate => exact ⟨hgood, hacc⟩
    | vcs_enroll =>
      refine ⟨fun hauth => ?_, hgood, hacc⟩
      rw [hroutine, hr] at hauth
      cases hauth
  · rw [hnext]
    exact ⟨(inits_eq.mp hinits').1, fun h => hacc h.2⟩

/-- Behind the commands, no reply matters. -/
theorem accepts_of_stage (hpc : exitStage w.pc ≠ .running) : Accepts w r := by
  constructor
  · rintro (hp | hp) <;> rw [hp] at hpc <;> exact absurd rfl hpc
  · intro hp
    rw [hp] at hpc
    exact absurd rfl hpc

/-- An early return skips the shutting down. -/
theorem failing_work (hs : s.worker.step s.shared r = some (s'.shared, s'.worker))
    (hpc : exitStage s.worker.pc = .failing) (hsensor : s.shared.sensorInit = true)
    (hgood : ¬good) : ExitInv s' good := by
  have hinits := Worker.step_inits hs (fun hp => by simp [hp, exitStage] at hpc)
    (fun hp => by simp [hp, exitStage] at hpc)
  have hsensor' : s'.shared.sensorInit = true := (congrArg Prod.fst hinits).trans hsensor
  unfold ExitInv
  rcases failing_pc hpc with hp | hp
  · simp only [Worker.step, hp, Option.some.injEq, Prod.mk.injEq] at hs
    rw [← hs.2]
    exact ⟨hsensor', hgood⟩
  · simp only [Worker.step, hp, Option.some.injEq, Prod.mk.injEq] at hs
    rw [← hs.2]
    exact Or.inr ⟨hsensor', hgood⟩

theorem sensorUninit_work (hs : s.worker.step s.shared r = some (s'.shared, s'.worker))
    (hp : s.worker.pc = .sensorUninit) (hgood : good) : ExitInv s' good := by
  simp only [Worker.step, hp, Option.some.injEq, Prod.mk.injEq] at hs
  unfold ExitInv
  rw [← hs.2]
  refine ⟨?_, hgood⟩
  rw [← hs.1]
  rfl

theorem vcsUninit_work (hs : s.worker.step s.shared r = some (s'.shared, s'.worker))
    (hp : s.worker.pc = .vcsUninit) (hsensor : s.shared.sensorInit = false) (hgood : good) :
    ExitInv s' good := by
  simp only [Worker.step, hp, Option.some.injEq, Prod.mk.injEq] at hs
  obtain ⟨hsh, hw⟩ := hs
  have hinits : s'.shared.inits = (false, false) := by
    rw [← hsh]
    exact inits_eq.mpr ⟨hsensor, rfl⟩
  have hstate : s'.shared.state = .idle := by
    rw [← hsh]
    rfl
  unfold ExitInv
  cases hr : s.worker.routine with
  | vcs_authenticate =>
    rw [hr] at hw
    rw [← hw]
    exact ⟨fun _ => hinits, hgood⟩
  | vcs_enroll =>
    rw [hr] at hw
    rw [← hw]
    exact Or.inl ⟨hinits, iff_of_true hgood hstate⟩

theorem setIdle_work (hs : s.worker.step s.shared r = some (s'.shared, s'.worker))
    (hp : s.worker.pc = .setIdle)
    (hinits : s.worker.routine = .vcs_authenticate → s.shared.inits = (false, false))
    (hgood : good) : ExitInv s' good := by
  simp only [Worker.step, hp, Option.some.injEq, Prod.mk.injEq] at hs
  obtain ⟨hsh, hw⟩ := hs
  unfold ExitInv
  cases hr : s.worker.routine with
  | vcs_authenticate =>
    have hinits' : s'.shared.inits = (false, false) := by
      rw [← hsh]
      exact hinits hr
    have hstate : s'.shared.state = .idle := by
      rw [← hsh]
      rfl
    rw [hr] at hw
    rw [← hw]
    dsimp only
    split
    · exact ⟨hinits', iff_of_true hgood hstate⟩
    · exact Or.inl ⟨hinits', iff_of_true hgood hstate⟩
  | vcs_enroll =>
    rw [hr] at hw
    rw [← hw]
    exact hgood

theorem notices_work (hs : s.worker.step s.shared r = some (s'.shared, s'.worker))
    (hpc : exitStage s.worker.pc = .notices) (hinits : s.shared.inits = (false, false))
    (hgood : good ↔ s.shared.state = .idle) : ExitInv s' good := by
  unfold ExitInv
  rcases notices_pc hpc with hp | hp
  · simp only [Worker.step, hp, Option.some.injEq, Prod.mk.injEq] at hs
    rw [← hs.2]
    refine ⟨?_, ?_⟩ <;> rw [← hs.1]
    · exact hinits
    · exact hgood
  · simp only [Worker.step, hp, Option.some.injEq, Prod.mk.injEq] at hs
    rw [← hs.2]
    refine Or.inl ⟨?_, ?_⟩ <;> rw [← hs.1]
    · exact hinits
    · exact hgood

/-- What the worker's own steps establish. -/
theorem worker_exitInv (h : ExitInv s good)
    (hs : s.worker.step s.shared r = some (s'.shared, s'.worker)) :
    ExitInv s' (good ∧ Accepts s.worker r) := by
  unfold ExitInv at h
  cases hpc : exitStage s.worker.pc with
  | running =>
    rw [hpc] at h
    exact running_work hs hpc h.1 h.2
  | failing =>
    rw [hpc] at h
    rw [and_iff_left (accepts_of_stage (by simp [hpc]))]
    exact failing_work hs hpc h.1 h.2
  | sensor =>
    rw [hpc] at h
    rw [and_iff_left (accepts_of_stage (by simp [hpc]))]
    exact sensorUninit_work hs (sensor_pc hpc) h
  | app =>
    rw [hpc] at h
    rw [and_iff_left (accepts_of_stage (by simp [hpc]))]
    exact vcsUninit_work hs (app_pc hpc) h.1 h.2
  | idle =>
    rw [hpc] at h
    rw [and_iff_left (accepts_of_stage (by simp [hpc]))]
    exact setIdle_work hs (idle_pc hpc) h.1 h.2
  | notices =>
    rw [hpc] at h
    rw [and_iff_left (accepts_of_stage (by simp [hpc]))]
    exact notices_work hs hpc h.1 h.2
  | gone => simp [Worker.step, gone_pc hpc] at hs

theorem step_exitInv (s : Session) (a : SessionEvent) (s' : Session) (good : Prop)
    (h : ExitInv s good) (hs : step s a = some s') : ExitInv s' (good ∧ Orderly s a) := by
  cases a with
  | work r =>
    rw [Orderly]
    rcases work_step hs with ⟨hpc, -, rfl⟩ | ⟨-, sh, w, hstep, rfl⟩
    · rw [and_iff_left (show Accepts s.worker r by simp [Accepts, hpc])]
      unfold ExitInv at h ⊢
      rw [hpc] at h
      show AtExit _ good (exitStage s.worker.pc)
      rw [hpc]
      exact h
    · exact worker_exitInv h hstep
  | cancel t =>
    obtain ⟨henv, hstate⟩ := env_step hs nofun
    exact env_exitInv h henv hstate nofun
  | timeout =>
    obtain ⟨henv, hstate⟩ := env_step hs nofun
    exact env_exitInv h henv hstate nofun
  | drdy =>
    obtain ⟨henv, hstate⟩ := env_step hs nofun
    exact env_exitInv h henv hstate nofun
  | handle =>
    obtain ⟨henv, hstate⟩ := env_step hs nofun
    exact env_exitInv h henv hstate nofun

/-- A worker that has returned has shut everything down exactly if its run was orderly. -/
theorem torn_down_iff (sh : Shared) (routine : Routine) (timeout : Bool)
    (hr : Machine.run step (start sh routine timeout) as = some s)
    (hpc : s.worker.pc = .returned) :
    TornDown s ↔ Machine.Along step Orderly (start sh routine timeout) as := by
  have hinv : ExitInv s (Machine.Along step Orderly (start sh routine timeout) as) :=
    Machine.run_invariant_tracking step_exitInv hr (exitInv_start sh routine timeout)
  rw [ExitInv, hpc] at hinv
  rcases hinv with ⟨hinits, hgood⟩ | ⟨hsensor, hgood⟩
  · rw [hgood]
    exact and_iff_left (inits_eq.mp hinits)
  · refine iff_of_false (fun h => ?_) hgood
    rw [h.2.1] at hsensor
    cases hsensor

def silent : Reply := ⟨0, 0, fun _ => 0⟩

def authenticating : Session := start .opened .vcs_authenticate false

def ending (as : List SessionEvent) : Session :=
  (Machine.run step authenticating as).getD authenticating

/-- The scan is cancelled before the first capture. -/
def cancelled : List SessionEvent :=
  .work silent :: List.replicate 5 (.cancel 0) ++ List.replicate 4 (.work silent)

theorem torn_down_cancelled : TornDown (ending cancelled) := by
  have hrun : Machine.run step authenticating cancelled = some (ending cancelled) := rfl
  refine (torn_down_iff .opened .vcs_authenticate false hrun rfl).mpr ?_
  refine Machine.along_cons rfl ⟨nofun, nofun⟩ ?_
  iterate 4 refine Machine.along_cons rfl nofun ?_
  refine Machine.along_cons rfl (fun _ => by decide) ?_
  iterate 4 refine Machine.along_cons rfl ⟨nofun, nofun⟩ ?_
  trivial

/-- `vfmEnrollBegin` fails. -/
def refused : List SessionEvent := List.replicate 4 (.work ⟨-1, 0, fun _ => 0⟩)

/-- No capture can be started; a call of `fingerprint_cancel` that has found the state busy switches
it when the worker has returned. -/
def lateSwitch : List SessionEvent :=
  List.replicate 4 (.cancel 0) ++ List.replicate 6 (.work ⟨-1, 0, fun _ => 0⟩) ++ [.cancel 0]

/-- The sensor and the trusted app stay on, or the state is not idle. -/
theorem refused_not_torn_down :
    (∃ s, Machine.run step (start .opened .vcs_enroll false) refused = some s ∧
      s.worker.pc = .returned ∧ s.shared.sensorInit = true ∧ s.shared.tzInit = true ∧
      ¬TornDown s) ∧
    ∃ s, Machine.run step authenticating lateSwitch = some s ∧ s.worker.pc = .returned ∧
      s.shared.state = .cancel ∧ ¬TornDown s := by
  refine ⟨⟨_, rfl, rfl, rfl, rfl, fun h => ?_⟩, _, rfl, rfl, rfl, fun h => ?_⟩
  · cases h.2.1
  · cases h.1

end Apq8084.Fingerprint.Session
