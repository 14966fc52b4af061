import Apq8084.Fingerprint.Worker
import Apq8084.Lib.Machine

/-! Runs of `vcs_enroll` with any replies of the trusted app, cancelled at any points. -/
namespace Apq8084.Fingerprint

/-- What has happened so far in a run. -/
structure History where
  /-- `tz.state` was switched to `STATE_CANCEL`. -/
  cancelled : Bool
  /-- Whether the run was cancelled before `vfmEnrollFinish`, and the reply. -/
  finish : Option (Bool × Reply)
  /-- `send_enroll_notice` was called with no samples remaining. -/
  lastSample : Bool
  /-- The last reply to `vfmPayloadBind`. -/
  bind : Option Reply
  /-- `exist` was set and `db_write_to_db` was called. -/
  registered : Bool

structure Enrollment where
  shared : Shared
  worker : Worker
  history : History

/-- A step of the worker, a switch by `fingerprint_cancel` or `vcs_timeout`, or a DRDY signal. The
switch may follow a read of `tz.state` that is no longer true. -/
inductive EnrollEvent where
  | work (r : Reply)
  | cancel
  | signal

namespace Enrollment

def record (h : History) (w : Worker) (r : Reply) : History :=
  match w.pc with
  | .enrollNotice => if w.count = 0 then { h with lastSample := true } else h
  | .enrollFinish => { h with finish := some (h.cancelled, r) }
  | .payloadBind _ => { h with bind := some r }
  | .store => { h with registered := true }
  | _ => h

/-- The worker as `vcs_start_enroll` creates it. -/
def start (sh : Shared) : Enrollment :=
  { shared := sh.setState .enroll, worker := .start .vcs_enroll
    history := ⟨false, none, false, none, false⟩ }

def step (s : Enrollment) : EnrollEvent → Option Enrollment
  | .work r => (s.worker.step s.shared r).map fun p => ⟨p.1, p.2, record s.history s.worker r⟩
  | .cancel => some { s with
      shared := s.shared.setState .cancel, history := { s.history with cancelled := true } }
  | .signal => some { s with
      shared := { s.shared with
        signal := s.shared.signal || (s.shared.state ≠ .idle && s.shared.state ≠ .cancel) } }

/-- The enrollment was not cancelled before `vfmEnrollFinish`, all samples were announced, and
both last commands succeeded. -/
def Completed (h : History) : Prop :=
  (∃ r, h.finish = some (false, r) ∧ r.Ok) ∧ h.lastSample = true ∧ ∃ r, h.bind = some r ∧ r.Ok

/-- Only a completed enrollment registers a template, and any other has left no trace when it
returns. -/
def RegistersCompleted (sh : Shared) (s : Enrollment) : Prop :=
  (s.history.registered = true → Completed s.history) ∧
    (s.worker.pc = .returned → ¬Completed s.history → Shared.SameTemplates sh s.shared)

/-- The template is registered, or will never be. -/
def Decided (s : Enrollment) : Prop := s.history.registered = true ∨ s.worker.pc = .returned

/-- The loop is not left by its condition, no switch comes between the last sample and
`vfmEnrollFinish`, and this command and the second `vfmPayloadBind` succeed. -/
def Regular (s : Enrollment) : EnrollEvent → Prop
  | .work r =>
    match s.worker.pc with
    | .enrollLoop => s.shared.state = .enroll
    | .enrollFinish => s.shared.state = .enroll ∧ r.Ok
    | .payloadBind true => r.Ok
    | _ => True
  | .cancel | .signal => True

/-- The parts of a run; `foreign` are the steps of `vcs_authenticate`. -/
inductive Stage where
  | sampling | finishing | binding | storing | stored | leaving | foreign
deriving DecidableEq

def stage : Pc → Stage
  | .unknown0 | .scanLoop | .buildMatch | .matchImage | .matchError | .matchNotice | .lookup
  | .payloadRelease | .acquiredNotice | .authenticatedNotice => .foreign
  | .enrollFinish => .finishing
  | .payloadBind _ => .binding
  | .store => .storing
  | .passwordSet _ => .stored
  | .failSetIdle | .failNotice | .sensorUninit | .vcsUninit | .setIdle | .returned => .leaving
  | _ => .sampling

variable {sh sh' sh₀ : Shared} {w w' : Worker} {r : Reply} {s s' : Enrollment} {good : Prop}

/-- Where a worker can be while `tz.state` is `STATE_IDLE`. -/
def SeesIdle (pc : Pc) : Prop := pc = .check .waited .readIdle

/-- The ways a step of the sampling part can go. -/
theorem sampling_step (hw : w.routine = .vcs_enroll) (hpc : stage w.pc = .sampling)
    (hidle : ¬SeesIdle w.pc → sh.state ≠ .idle) (h : w.step sh r = some (sh', w')) :
    (stage w'.pc = .sampling ∧ (¬SeesIdle w'.pc → sh'.state ≠ .idle) ∧
        (w.pc = .enrollLoop → sh.state = .enroll) ∧ (w.pc = .enrollNotice → w.count ≠ 0)) ∨
      (stage w'.pc = .leaving ∧ w.pc ≠ .enrollLoop ∧ w.pc ≠ .enrollNotice) ∨
      (stage w'.pc = .finishing ∧ sh'.state = sh.state ∧ sh.state ≠ .idle ∧
        ((w.pc = .enrollLoop ∧ sh.state ≠ .enroll) ∨ (w.pc = .enrollNotice ∧ w.count = 0))) := by
  obtain ⟨routine, pc, idx, count, result, sent, fakeFid, fingerindex⟩ := w
  subst hw
  cases pc with
  | check site point =>
    cases point <;> cases site <;>
      simp only [Worker.step, Option.some.injEq, Prod.mk.injEq] at h <;> obtain ⟨rfl, rfl⟩ := h <;>
      simp only [SeesIdle, Worker.checked, Worker.captured, Worker.out, Worker.goto] at hidle ⊢ <;>
      first
        | (simp_all [stage]; done)
        | (split_ifs <;> simp_all [stage])
  | _ =>
    simp only [stage, reduceCtorEq] at hpc
    all_goals
      simp only [Worker.step, Option.some.injEq, Prod.mk.injEq] at h
      obtain ⟨rfl, rfl⟩ := h
      simp only [SeesIdle, Worker.captured, Worker.out, Worker.goto] at hidle ⊢
      first
        | (simp_all [stage]; done)
        | (split_ifs <;> simp_all [stage])

theorem record_sampling (h : History) (hpc : stage w.pc = .sampling)
    (hnotice : w.pc = .enrollNotice → w.count ≠ 0) : record h w r = h := by
  unfold record
  split <;> simp_all [stage]

theorem regular_sampling (hpc : stage s.worker.pc = .sampling)
    (hloop : s.worker.pc = .enrollLoop → s.shared.state = .enroll) : Regular s (.work r) := by
  simp only [Regular]
  split <;> simp_all [stage]

/-- The run has left no trace so far. -/
def Untouched (sh₀ : Shared) (s : Enrollment) : Prop :=
  s.history.finish = none ∧ s.history.registered = false ∧ Shared.SameTemplates sh₀ s.shared

/-- What holds in each part of a run; `good` says that all steps so far were regular. -/
def AtStage (sh₀ : Shared) (s : Enrollment) (good : Prop) : Stage → Prop
  | .sampling =>
    Untouched sh₀ s ∧ good ∧ (¬SeesIdle s.worker.pc → s.shared.state ≠ .idle)
  | .finishing =>
    Untouched sh₀ s ∧ s.shared.state ≠ .idle ∧ (good → s.history.lastSample = true) ∧
      (¬good → s.history.cancelled = true)
  | .binding =>
    s.history.registered = false ∧ ∃ c r, s.history.finish = some (c, r) ∧
      (good ↔ c = false ∧ r.Ok ∧ s.history.lastSample = true)
  | .storing => s.history.registered = false ∧ (good ↔ Completed s.history)
  | .stored => s.history.registered = true ∧ (good ↔ Completed s.history)
  | .leaving =>
    (Untouched sh₀ s ∧ good) ∨ (s.history.registered = true ∧ (good ↔ Completed s.history))
  | .foreign => False

structure Inv (sh₀ : Shared) (s : Enrollment) (good : Prop) : Prop where
  routine : s.worker.routine = .vcs_enroll
  notScan : s.shared.state ≠ .scan
  cancelled : s.shared.state = .cancel → s.history.cancelled = true
  enrolling : s.shared.state = .enroll → s.history.cancelled = false
  atStage : AtStage sh₀ s good (stage s.worker.pc)

theorem inv_start (sh : Shared) : Inv sh (start sh) True := by
  constructor
  · rfl
  · simp [start]
  · simp [start]
  · simp [start]
  · refine ⟨⟨rfl, rfl, rfl, rfl⟩, trivial, ?_⟩
    simp [start]

/-- A switch or a signal changes neither the templates nor the worker. -/
theorem AtStage.env {st : Stage} (h : AtStage sh₀ s good st) (hw : s'.worker = s.worker)
    (hh : s'.history = { s.history with cancelled := s'.history.cancelled })
    (hc : s.history.cancelled = true → s'.history.cancelled = true)
    (ht : Shared.SameTemplates s.shared s'.shared)
    (hi : s'.shared.state = .idle → s.shared.state = .idle) : AtStage sh₀ s' good st := by
  have hfinish : s'.history.finish = s.history.finish := by rw [hh]
  have hlast : s'.history.lastSample = s.history.lastSample := by rw [hh]
  have hregistered : s'.history.registered = s.history.registered := by rw [hh]
  have hcompleted : Completed s'.history ↔ Completed s.history := by
    rw [hh]
    rfl
  have huntouched : Untouched sh₀ s → Untouched sh₀ s' := fun hu =>
    ⟨hfinish.trans hu.1, hregistered.trans hu.2.1, hu.2.2.trans ht⟩
  cases st with
  | sampling =>
    obtain ⟨hu, hgood, hidle⟩ := h
    rw [← hw] at hidle
    exact ⟨huntouched hu, hgood, fun hsee h' => hidle hsee (hi h')⟩
  | finishing =>
    obtain ⟨hu, hidle, hl, hcan⟩ := h
    exact ⟨huntouched hu, fun h' => hidle (hi h'), fun hg => hlast.trans (hl hg),
      fun hg => hc (hcan hg)⟩
  | binding =>
    obtain ⟨hr, c, r, hf, hg⟩ := h
    refine ⟨hregistered.trans hr, c, r, hfinish.trans hf, ?_⟩
    rw [hlast]
    exact hg
  | storing => exact ⟨hregistered.trans h.1, h.2.trans hcompleted.symm⟩
  | stored => exact ⟨hregistered.trans h.1, h.2.trans hcompleted.symm⟩
  | leaving =>
    rcases h with ⟨hu, hg⟩ | ⟨hr, hg⟩
    · exact Or.inl ⟨huntouched hu, hg⟩
    · exact Or.inr ⟨hregistered.trans hr, hg.trans hcompleted.symm⟩
  | foreign => exact h

theorem cancel_inv (h : Inv sh₀ s good) (hs : step s .cancel = some s') :
    Inv sh₀ s' (good ∧ Regular s .cancel) := by
  cases hs
  rw [Regular, and_true]
  exact
    { routine := h.routine
      notScan := by simp
      cancelled := fun _ => rfl
      enrolling := by simp
      atStage := h.atStage.env rfl rfl (fun _ => rfl) ⟨rfl, rfl⟩ (by simp) }

theorem signal_inv (h : Inv sh₀ s good) (hs : step s .signal = some s') :
    Inv sh₀ s' (good ∧ Regular s .signal) := by
  cases hs
  rw [Regular, and_true]
  exact
    { routine := h.routine
      notScan := h.notScan
      cancelled := h.cancelled
      enrolling := h.enrolling
      atStage := h.atStage.env rfl rfl id ⟨rfl, rfl⟩ id }

/-- The worker writes only `STATE_IDLE`. -/
theorem work_state (h : w.step sh r = some (sh', w')) {state : WorkerState} (hs : state ≠ .idle)
    (hst : sh'.state = state) : sh.state = state := by
  rw [Worker.step_state h] at hst
  split at hst
  · exact absurd hst.symm hs
  · exact hst

/-- The parts that leave the templates alone. -/
theorem not_writesTemplates {pc : Pc} (hpc : stage pc = .sampling ∨ stage pc = .leaving) :
    Worker.writesTemplates pc = false := by
  rcases hpc with hpc | hpc
  · cases pc <;> first | rfl | cases hpc
  · cases pc <;> first | rfl | cases hpc

theorem Untouched.work (hu : Untouched sh₀ s) (h : s.worker.step s.shared r = some (sh', w'))
    (hpc : Worker.writesTemplates s.worker.pc = false) {b : Bool} :
    Untouched sh₀ ⟨sh', w', { s.history with lastSample := b }⟩ :=
  ⟨hu.1, hu.2.1, hu.2.2.trans (Worker.step_templates h hpc)⟩

theorem sampling_work (h : Inv sh₀ s good) (hpc : stage s.worker.pc = .sampling)
    (hs : s.worker.step s.shared r = some (sh', w')) :
    AtStage sh₀ ⟨sh', w', record s.history s.worker r⟩ (good ∧ Regular s (.work r))
      (stage w'.pc) := by
  have hst := h.atStage
  rw [hpc] at hst
  obtain ⟨hu, hgood, hidle⟩ := hst
  have hwrites := not_writesTemplates (Or.inl hpc)
  rcases sampling_step h.routine hpc hidle hs with
    ⟨hnext, hidle', hloop, hnotice⟩ | ⟨hnext, hloop, hnotice⟩ | ⟨hnext, hstate, hbusy, hlast⟩
  · rw [hnext, record_sampling _ hpc hnotice]
    exact ⟨hu.work hs hwrites, ⟨hgood, regular_sampling hpc hloop⟩, hidle'⟩
  · rw [hnext, record_sampling _ hpc fun hn => absurd hn hnotice]
    exact Or.inl ⟨hu.work hs hwrites, hgood, regular_sampling hpc fun hl => absurd hl hloop⟩
  · rw [hnext]
    rcases hlast with ⟨hloop, henroll⟩ | ⟨hnotice, hcount⟩
    · -- the loop is left although samples are missing
      have hrec : record s.history s.worker r = s.history := by simp [record, hloop]
      have hnot : ¬(good ∧ Regular s (.work r)) := by simp [Regular, hloop, henroll]
      rw [hrec]
      refine ⟨hu.work hs hwrites, by rwa [hstate], fun hg => absurd hg hnot, fun _ => ?_⟩
      cases hcase : s.shared.state with
      | idle => exact absurd hcase hbusy
      | enroll => exact absurd hcase henroll
      | scan => exact absurd hcase h.notScan
      | cancel => exact h.cancelled hcase
    · have hrec : record s.history s.worker r = { s.history with lastSample := true } := by
        simp [record, hnotice, hcount]
      rw [hrec]
      refine ⟨hu.work hs hwrites, by rwa [hstate], fun _ => rfl, fun hnot => ?_⟩
      exact absurd ⟨hgood, by simp [Regular, hnotice]⟩ hnot

theorem finishing_work (h : Inv sh₀ s good) (hpc : s.worker.pc = .enrollFinish)
    (hs : s.worker.step s.shared r = some (sh', w')) :
    AtStage sh₀ ⟨sh', w', record s.history s.worker r⟩ (good ∧ Regular s (.work r))
      (stage w'.pc) := by
  have hst := h.atStage
  rw [hpc] at hst
  obtain ⟨⟨-, hreg, -⟩, hidle, hlast, hcan⟩ := hst
  simp only [Worker.step, hpc, Option.some.injEq, Prod.mk.injEq] at hs
  obtain ⟨-, rfl⟩ := hs
  refine ⟨by simpa [record, hpc] using hreg, s.history.cancelled, r, by simp [record, hpc], ?_⟩
  have hrec : (record s.history s.worker r).lastSample = s.history.lastSample := by
    simp [record, hpc]
  simp only [Regular, hpc, hrec]
  constructor
  · rintro ⟨hg, henroll, hok⟩
    exact ⟨h.enrolling henroll, hok, hlast hg⟩
  · rintro ⟨hno, hok, -⟩
    refine ⟨?_, ?_, hok⟩
    · by_contra hg
      simp [hcan hg] at hno
    · cases hcase : s.shared.state with
      | idle => exact absurd hcase hidle
      | enroll => rfl
      | scan => exact absurd hcase h.notScan
      | cancel => simp [h.cancelled hcase] at hno

theorem binding_work {second : Bool} (h : Inv sh₀ s good)
    (hpc : s.worker.pc = .payloadBind second)
    (hs : s.worker.step s.shared r = some (sh', w')) :
    AtStage sh₀ ⟨sh', w', record s.history s.worker r⟩ (good ∧ Regular s (.work r))
      (stage w'.pc) := by
  have hst := h.atStage
  rw [hpc] at hst
  obtain ⟨hreg, c, r₀, hfinish, hgood⟩ := hst
  have hrec : record s.history s.worker r = { s.history with bind := some r } := by
    simp [record, hpc]
  simp only [Worker.step, hpc, Option.some.injEq, Prod.mk.injEq] at hs
  obtain ⟨-, rfl⟩ := hs
  rw [hrec]
  cases second with
  | false =>
    refine ⟨hreg, c, r₀, hfinish, ?_⟩
    simp only [Regular, hpc, and_true]
    exact hgood
  | true =>
    refine ⟨hreg, ?_⟩
    simp only [Regular, hpc, hgood, Completed, hfinish, Option.some.injEq, Prod.mk.injEq]
    constructor
    · rintro ⟨⟨hc, hok, hl⟩, hbind⟩
      exact ⟨⟨r₀, ⟨hc, rfl⟩, hok⟩, hl, r, rfl, hbind⟩
    · rintro ⟨⟨_, ⟨hc, rfl⟩, hok⟩, hl, _, rfl, hbind⟩
      exact ⟨⟨hc, hok, hl⟩, hbind⟩

theorem storing_work (h : Inv sh₀ s good) (hpc : s.worker.pc = .store)
    (hs : s.worker.step s.shared r = some (sh', w')) :
    AtStage sh₀ ⟨sh', w', record s.history s.worker r⟩ (good ∧ Regular s (.work r))
      (stage w'.pc) := by
  have hst := h.atStage
  rw [hpc] at hst
  simp only [Worker.step, hpc, Option.some.injEq, Prod.mk.injEq] at hs
  obtain ⟨-, rfl⟩ := hs
  have hrec : record s.history s.worker r = { s.history with registered := true } := by
    simp [record, hpc]
  rw [hrec]
  simp only [Regular, hpc, and_true]
  exact ⟨rfl, hst.2⟩

theorem stored_work {second : Bool} (h : Inv sh₀ s good)
    (hpc : s.worker.pc = .passwordSet second)
    (hs : s.worker.step s.shared r = some (sh', w')) :
    AtStage sh₀ ⟨sh', w', record s.history s.worker r⟩ (good ∧ Regular s (.work r))
      (stage w'.pc) := by
  have hst := h.atStage
  rw [hpc] at hst
  simp only [Worker.step, hpc, Option.some.injEq, Prod.mk.injEq] at hs
  obtain ⟨-, rfl⟩ := hs
  have hrec : record s.history s.worker r = s.history := by simp [record, hpc]
  rw [hrec]
  simp only [Regular, hpc, and_true]
  cases second with
  | false => exact hst
  | true =>
    simp only [Worker.out, h.routine, if_true]
    exact Or.inr hst

theorem leaving_step (hw : w.routine = .vcs_enroll) (hpc : stage w.pc = .leaving)
    (h : w.step sh r = some (sh', w')) : stage w'.pc = .leaving := by
  obtain ⟨routine, pc, idx, count, result, sent, fakeFid, fingerindex⟩ := w
  subst hw
  cases pc <;> simp only [stage, reduceCtorEq] at hpc <;>
    simp only [Worker.step, Option.some.injEq, Prod.mk.injEq, reduceCtorEq] at h <;>
    obtain ⟨-, rfl⟩ := h <;> rfl

theorem leaving_work (h : Inv sh₀ s good) (hpc : stage s.worker.pc = .leaving)
    (hs : s.worker.step s.shared r = some (sh', w')) :
    AtStage sh₀ ⟨sh', w', record s.history s.worker r⟩ (good ∧ Regular s (.work r))
      (stage w'.pc) := by
  have hst := h.atStage
  rw [hpc] at hst
  have hrec : record s.history s.worker r = s.history := by
    unfold record
    split <;> simp_all [stage]
  have hregular : Regular s (.work r) := by
    simp only [Regular]
    split <;> simp_all [stage]
  have hwrites := not_writesTemplates (Or.inr hpc)
  rw [leaving_step h.routine hpc hs, hrec]
  rcases hst with ⟨hu, hgood⟩ | ⟨hreg, hgood⟩
  · exact Or.inl ⟨hu.work hs hwrites, hgood, hregular⟩
  · refine Or.inr ⟨hreg, ?_⟩
    simp only [hregular, and_true]
    exact hgood

theorem work_inv (h : Inv sh₀ s good) (hs : step s (.work r) = some s') :
    Inv sh₀ s' (good ∧ Regular s (.work r)) := by
  obtain ⟨⟨sh', w'⟩, hstep, rfl⟩ := Option.map_eq_some_iff.mp hs
  have hcancelled : (record s.history s.worker r).cancelled = s.history.cancelled := by
    unfold record
    split <;> try rfl
    split <;> rfl
  refine
    { routine := (Worker.step_routine hstep).trans h.routine
      notScan := fun hst => h.notScan (work_state hstep (by decide) hst)
      cancelled := fun hst => hcancelled.trans (h.cancelled (work_state hstep (by decide) hst))
      enrolling := fun hst => hcancelled.trans (h.enrolling (work_state hstep (by decide) hst))
      atStage := ?_ }
  cases hpc : stage s.worker.pc with
  | sampling => exact sampling_work h hpc hstep
  | finishing =>
    have : s.worker.pc = .enrollFinish := by
      cases hp : s.worker.pc <;> simp_all [stage]
    exact finishing_work h this hstep
  | binding =>
    obtain ⟨second, this⟩ : ∃ second, s.worker.pc = .payloadBind second := by
      cases hp : s.worker.pc <;> simp_all [stage]
    exact binding_work h this hstep
  | storing =>
    have : s.worker.pc = .store := by
      cases hp : s.worker.pc <;> simp_all [stage]
    exact storing_work h this hstep
  | stored =>
    obtain ⟨second, this⟩ : ∃ second, s.worker.pc = .passwordSet second := by
      cases hp : s.worker.pc <;> simp_all [stage]
    exact stored_work h this hstep
  | leaving => exact leaving_work h hpc hstep
  | foreign =>
    have hst := h.atStage
    rw [hpc] at hst
    exact hst.elim

theorem step_inv (h : Inv sh₀ s good) {a : EnrollEvent} (hs : step s a = some s') :
    Inv sh₀ s' (good ∧ Regular s a) := by
  cases a with
  | work r => exact work_inv h hs
  | cancel => exact cancel_inv h hs
  | signal => exact signal_inv h hs

theorem AtStage.of_registered {st : Stage} (h : AtStage sh₀ s good st)
    (hreg : s.history.registered = true) : good ↔ Completed s.history := by
  cases st with
  | sampling => simp [h.1.2.1] at hreg
  | finishing => simp [h.1.2.1] at hreg
  | binding => simp [h.1] at hreg
  | storing => simp [h.1] at hreg
  | stored => exact h.2
  | leaving =>
    rcases h with ⟨hu, -⟩ | ⟨-, hgood⟩
    · simp [hu.2.1] at hreg
    · exact hgood
  | foreign => exact h.elim

theorem Inv.of_returned (h : Inv sh₀ s good) (hreturned : s.worker.pc = .returned)
    (hreg : ¬s.history.registered = true) : Untouched sh₀ s ∧ good := by
  have hst := h.atStage
  rw [hreturned] at hst
  rcases hst with hu | ⟨hyes, -⟩
  · exact hu
  · exact absurd hyes hreg

/-- A run keeps to completed enrollments exactly if, once the outcome is decided, all its steps
were regular. -/
theorem registers_completed_iff {as : List EnrollEvent}
    (hr : Machine.run step (start sh₀) as = some s) :
    RegistersCompleted sh₀ s ↔ (Decided s → Machine.Along step Regular (start sh₀) as) := by
  have h : Inv sh₀ s (Machine.Along step Regular (start sh₀) as) :=
    Machine.run_invariant_tracking (fun _ _ _ _ hi hs => step_inv hi hs) hr (inv_start sh₀)
  by_cases hreg : s.history.registered = true
  · have hgood := h.atStage.of_registered hreg
    rw [hgood]
    constructor
    · exact fun hp _ => hp.1 hreg
    · intro hc
      have hcompleted := hc (Or.inl hreg)
      exact ⟨fun _ => hcompleted, fun _ hno => absurd hcompleted hno⟩
  · refine iff_of_true ⟨fun hyes => absurd hyes hreg, fun hreturned _ => ?_⟩ ?_
    · exact (h.of_returned hreturned hreg).1.2.2
    · rintro (hyes | hreturned)
      · exact absurd hyes hreg
      · exact (h.of_returned hreturned hreg).2

def reply (ret : Int) : EnrollEvent := .work ⟨ret, 0, fun _ => 0⟩

/-- `vfmEnrollBegin` fails. -/
def refusedRun : List EnrollEvent := [reply 0, reply (-1), reply 0, reply 0]

def ending (as : List EnrollEvent) : Enrollment :=
  (Machine.run step (start .opened) as).getD (start .opened)

theorem registers_completed_refused : RegistersCompleted .opened (ending refusedRun) := by
  have hrun : Machine.run step (start .opened) refusedRun = some (ending refusedRun) := rfl
  refine (registers_completed_iff hrun).mpr fun _ => ?_
  exact Machine.along_cons rfl trivial (Machine.along_cons rfl trivial
    (Machine.along_cons rfl trivial (Machine.along_cons rfl trivial trivial)))

/-- The enrollment is cancelled before the first sample; all commands succeed. -/
def cancelledRun : List EnrollEvent :=
  [reply 0, reply 0, reply 0, .cancel, reply 0, reply 0, reply 0, reply 0, reply SQLITE_DONE]

/-- The template of a finger that was never seen is stored and marked as enrolled. -/
theorem cancelled_registers :
    Machine.run step (start .opened) cancelledRun = some (ending cancelledRun) ∧
      (ending cancelledRun).history.registered = true ∧
      ((ending cancelledRun).shared.templates.finger 1).exist = true ∧
      (ending cancelledRun).shared.templates.rows.length = 1 ∧
      ¬RegistersCompleted .opened (ending cancelledRun) := by
  refine ⟨rfl, rfl, rfl, rfl, fun h => ?_⟩
  obtain ⟨⟨r, hfinish, -⟩, -⟩ := h.1 rfl
  cases hfinish

end Enrollment

end Apq8084.Fingerprint
