import Apq8084.Fingerprint.Worker
import Apq8084.Lib.Machine

/-! Runs of `vcs_authenticate` while the framework removes templates and switches groups, and
which finger they announce. -/
namespace Apq8084.Fingerprint

/-- What has happened so far in a run. -/
structure AuthHistory where
  /-- The payloads in the array when the match command was built. -/
  payloads : Slot → Payload
  /-- The index used for `vfmPayloadRelease` and the payload sent with it. -/
  released : Option (Option Slot × Payload)
  /-- The fid given to `send_authenticated_notice`. -/
  announced : Option Int

structure Authentication where
  shared : Shared
  worker : Worker
  history : AuthHistory

/-- A step of the worker, a call of the framework, a switch to `STATE_CANCEL` or a DRDY signal. -/
inductive AuthEvent where
  | work (r : Reply)
  | setActiveGroup (gid : UInt32)
  | remove (exec : Int → Int) (fid : UInt32)
  | cancel
  | signal

namespace Authentication

/-- The payload at an index; index 0 is never enrolled. -/
def payloadAt (sh : Shared) (idx : Option Slot) : Payload :=
  match idx with
  | none => (sh.templates.finger ⟨0, Nat.succ_pos _⟩).payload
  | some i => (sh.templates.finger i).payload

def record (h : AuthHistory) (sh : Shared) (w : Worker) : AuthHistory :=
  match w.pc with
  | .buildMatch => { h with payloads := fun i => (sh.templates.finger i).payload }
  | .payloadRelease => { h with released := some (w.fingerindex, payloadAt sh w.fingerindex) }
  | .authenticatedNotice => { h with announced := some (Worker.fid w.fingerindex) }
  | _ => h

/-- The worker as `vcs_start_authenticate` creates it. -/
def start (sh : Shared) : Authentication :=
  { shared := sh.setState .scan, worker := .start .vcs_authenticate
    history := ⟨fun i => (sh.templates.finger i).payload, none, none⟩ }

def setTemplates (s : Authentication) (templates : Templates) : Authentication :=
  { s with shared := { s.shared with templates } }

def step (s : Authentication) : AuthEvent → Option Authentication
  | .work r =>
    (s.worker.step s.shared r).map fun p => ⟨p.1, p.2, record s.history s.shared s.worker⟩
  | .setActiveGroup gid => some (s.setTemplates (s.shared.templates.fingerprintSetActiveGroup gid))
  | .remove exec fid => some (s.setTemplates (s.shared.templates.fingerprintRemove exec fid).2)
  | .cancel => some { s with shared := s.shared.setState .cancel }
  | .signal => some { s with
      shared := { s.shared with
        signal := s.shared.signal || (s.shared.state ≠ .idle && s.shared.state ≠ .cancel) } }

/-- The entry of a list at the position that the reply names. -/
def atIndex {A : Type} (l : List A) (fakeFid : Int) : Option A :=
  if 1 ≤ fakeFid then l[(fakeFid - 1).toNat]? else none

/-- The slot whose template was sent at the position that the reply names. -/
def matched (w : Worker) : Option Slot := (atIndex w.sent w.fakeFid).map Prod.fst

/-- What is announced is the slot that matched; what is released, if one matched, is the payload
that this slot had when its template was sent. -/
def RightFinger (s : Authentication) : Prop :=
  (∀ fid, s.history.announced = some fid →
    ∃ i, matched s.worker = some i ∧ fid = ((i : Nat) : Int)) ∧
  ∀ idx payload, s.history.released = some (idx, payload) →
    ∀ i, matched s.worker = some i → idx = some i ∧ payload = s.history.payloads i

/-- At the lookup, the existing slots have the same slot at the position named as they had when
the command was built; at the release, this slot still has the payload it had then. -/
def TableKept (s : Authentication) : AuthEvent → Prop
  | .work _ =>
    match s.worker.pc with
    | .lookup => atIndex s.shared.enrolled s.worker.fakeFid = matched s.worker
    | .payloadRelease =>
      ∀ i, matched s.worker = some i →
        (s.shared.templates.finger i).payload = s.history.payloads i
    | _ => True
  | _ => True

/-- The parts of a run; `foreign` are the steps of `vcs_enroll`. -/
inductive AuthStage where
  | searching | releasing | leaving | foreign
deriving DecidableEq

def authStage : Pc → AuthStage
  | .payloadRelease => .releasing
  | .sensorUninit | .vcsUninit | .setIdle | .acquiredNotice | .authenticatedNotice | .returned =>
    .leaving
  | .findSlot | .enrollBegin | .unknownA | .enrollLoop | .addImage | .addImageNotice
  | .enrollNotice | .enrollFinish | .payloadBind _ | .store | .passwordSet _ | .failSetIdle
  | .failNotice => .foreign
  | _ => .searching

variable {sh sh' : Shared} {w w' : Worker} {r : Reply} {s s' : Authentication} {good : Prop}
  {as : List AuthEvent}

/-- Until the lookup, nothing is found. -/
theorem searching_step (hw : w.routine = .vcs_authenticate) (hpc : authStage w.pc = .searching)
    (hlookup : w.pc ≠ .lookup) (h : w.step sh r = some (sh', w')) :
    w'.fingerindex = w.fingerindex ∧
      (authStage w'.pc = .searching ∨ w'.pc = .sensorUninit) := by
  obtain ⟨routine, pc, idx, count, result, sent, fakeFid, fingerindex⟩ := w
  subst hw
  cases pc with
  | check site point =>
    cases point <;> cases site <;>
      simp only [Worker.step, Option.some.injEq, Prod.mk.injEq] at h <;> obtain ⟨-, rfl⟩ := h <;>
      simp only [Worker.checked, Worker.captured, Worker.out, Worker.goto] <;>
      first
        | (simp [authStage]; done)
        | (split_ifs <;> simp_all [authStage])
  | lookup => exact absurd rfl hlookup
  | _ =>
    simp only [authStage, reduceCtorEq] at hpc
    all_goals
      simp only [Worker.step, Option.some.injEq, Prod.mk.injEq] at h
      obtain ⟨-, rfl⟩ := h
      simp only [Worker.captured, Worker.out, Worker.goto]
      first
        | (simp [authStage]; done)
        | (split_ifs <;> simp_all [authStage])

/-- Behind the lookup the worker keeps what it has found, and only notices are left to send. -/
theorem leaving_step (hw : w.routine = .vcs_authenticate) (hpc : authStage w.pc = .leaving)
    (h : w.step sh r = some (sh', w')) :
    w'.fingerindex = w.fingerindex ∧ w'.sent = w.sent ∧ w'.fakeFid = w.fakeFid ∧
      authStage w'.pc = .leaving ∧
      (w.pc = .authenticatedNotice → w'.pc = .returned) ∧
      (w'.pc = .authenticatedNotice → w.pc = .acquiredNotice) ∧
      (w'.pc = .acquiredNotice → w.fingerindex.isSome) ∧
      (w'.pc = .returned → w.pc = .authenticatedNotice ∨ w.fingerindex = none) := by
  obtain ⟨routine, pc, idx, count, result, sent, fakeFid, fingerindex⟩ := w
  subst hw
  cases pc with
  | setIdle =>
    cases fingerindex <;> cases h <;> simp [authStage, Worker.goto]
  | sensorUninit | vcsUninit | acquiredNotice | authenticatedNotice =>
    cases h
    simp [authStage, Worker.goto]
  | returned => cases h
  | _ => cases hpc

/-- The finger found is the one that matched. -/
def Found (s : Authentication) : Prop := s.worker.fingerindex = matched s.worker

/-- What was released is the payload of the slot that was found. -/
structure Released (s : Authentication) (payload : Payload) (good : Prop) : Prop where
  released : s.history.released = some (s.worker.fingerindex, payload)
  good_iff : good ↔ Found s ∧ ∀ i, matched s.worker = some i → payload = s.history.payloads i
  announced : s.history.announced =
    if s.worker.pc = .returned then s.worker.fingerindex.map fun i : Slot => ((i : Nat) : Int)
    else none

/-- Nothing was found, and nothing released. -/
structure Unfound (s : Authentication) : Prop where
  released : s.history.released = none
  announced : s.history.announced = none

/-- What holds in each part of a run; `good` says that all steps so far met the condition. -/
def AtAuthStage (s : Authentication) (good : Prop) : AuthStage → Prop
  | .searching => Unfound s ∧ s.worker.fingerindex = none ∧ good
  | .releasing => Unfound s ∧ (good ↔ Found s)
  | .leaving =>
    (Unfound s ∧ s.worker.fingerindex = none ∧ good) ∨ ∃ payload, Released s payload good
  | .foreign => False

structure AuthInv (s : Authentication) (good : Prop) : Prop where
  routine : s.worker.routine = .vcs_authenticate
  noticed : s.worker.pc = .acquiredNotice ∨ s.worker.pc = .authenticatedNotice →
    s.worker.fingerindex.isSome
  atStage : AtAuthStage s good (authStage s.worker.pc)

theorem inv_start (sh : Shared) : AuthInv (start sh) True := by
  constructor
  · rfl
  · rintro (h | h) <;> cases h
  · exact ⟨⟨rfl, rfl⟩, rfl, trivial⟩

/-- The framework changes neither the worker nor what has happened. -/
theorem AuthInv.env (h : AuthInv s good) (hw : s'.worker = s.worker)
    (hh : s'.history = s.history) : AuthInv s' good := by
  obtain ⟨sh', w', h'⟩ := s'
  cases hw
  cases hh
  refine ⟨h.routine, h.noticed, ?_⟩
  have hst := h.atStage
  show AtAuthStage _ good (authStage s.worker.pc)
  cases hpc : authStage s.worker.pc with
  | searching =>
    rw [hpc] at hst
    obtain ⟨hu, hrest⟩ := hst
    exact ⟨⟨hu.released, hu.announced⟩, hrest⟩
  | releasing =>
    rw [hpc] at hst
    obtain ⟨hu, hrest⟩ := hst
    exact ⟨⟨hu.released, hu.announced⟩, hrest⟩
  | leaving =>
    rw [hpc] at hst
    rcases hst with ⟨hu, hrest⟩ | ⟨payload, hrel⟩
    · exact Or.inl ⟨⟨hu.released, hu.announced⟩, hrest⟩
    · exact Or.inr ⟨payload, hrel.released, hrel.good_iff, hrel.announced⟩
  | foreign =>
    rw [hpc] at hst
    exact hst

theorem record_searching (sh : Shared) (h : AuthHistory) (hpc : authStage w.pc = .searching) :
    (record h sh w).released = h.released ∧ (record h sh w).announced = h.announced := by
  unfold record
  split <;> simp_all [authStage]

theorem tableKept_other (hlookup : s.worker.pc ≠ .lookup)
    (hrelease : s.worker.pc ≠ .payloadRelease) : TableKept s (.work r) := by
  simp only [TableKept]

theorem searching_work (h : AuthInv s good) (hpc : authStage s.worker.pc = .searching)
    (hlookup : s.worker.pc ≠ .lookup) (hs : s.worker.step s.shared r = some (sh', w')) :
    AuthInv ⟨sh', w', record s.history s.shared s.worker⟩ (good ∧ TableKept s (.work r)) := by
  have hst := h.atStage
  rw [hpc] at hst
  obtain ⟨hu, hnone, hgood⟩ := hst
  obtain ⟨hindex, hnext⟩ := searching_step h.routine hpc hlookup hs
  obtain ⟨hrel, hann⟩ := record_searching s.shared s.history hpc
  have hkept : TableKept s (.work r) := by
    apply tableKept_other hlookup
    intro hp
    rw [hp] at hpc
    cases hpc
  have hu' : Unfound ⟨sh', w', record s.history s.shared s.worker⟩ :=
    ⟨hrel.trans hu.released, hann.trans hu.announced⟩
  have hnone' : w'.fingerindex = none := hindex.trans hnone
  refine ⟨(Worker.step_routine hs).trans h.routine, ?_, ?_⟩
  · rcases hnext with hnext | hnext
    · rintro (hp | hp) <;> rw [hp] at hnext <;> cases hnext
    · rintro (hp | hp) <;> rw [hp] at hnext <;> cases hnext
  · rcases hnext with hnext | hnext
    · rw [hnext]
      exact ⟨hu', hnone', hgood, hkept⟩
    · rw [hnext]
      exact Or.inl ⟨hu', hnone', hgood, hkept⟩

theorem lookup_work (h : AuthInv s good) (hpc : s.worker.pc = .lookup)
    (hs : s.worker.step s.shared r = some (sh', w')) :
    AuthInv ⟨sh', w', record s.history s.shared s.worker⟩ (good ∧ TableKept s (.work r)) := by
  have hst := h.atStage
  rw [hpc] at hst
  obtain ⟨hu, -, hgood⟩ := hst
  have hroutine := Worker.step_routine hs
  simp only [Worker.step, hpc, Option.some.injEq, Prod.mk.injEq] at hs
  obtain ⟨rfl, rfl⟩ := hs
  have hrec : record s.history s.shared s.worker = s.history := by simp [record, hpc]
  rw [hrec]
  refine ⟨hroutine.trans h.routine, ?_, ?_, ?_⟩
  · rintro (hp | hp) <;> cases hp
  · exact ⟨hu.released, hu.announced⟩
  · simp only [TableKept, hpc]
    exact and_iff_right hgood

theorem release_work (h : AuthInv s good) (hpc : s.worker.pc = .payloadRelease)
    (hs : s.worker.step s.shared r = some (sh', w')) :
    AuthInv ⟨sh', w', record s.history s.shared s.worker⟩ (good ∧ TableKept s (.work r)) := by
  have hst := h.atStage
  rw [hpc] at hst
  obtain ⟨hu, hfound⟩ := hst
  have hroutine := Worker.step_routine hs
  have hout : s.worker.out = s.worker.goto .sensorUninit := by simp [Worker.out, h.routine]
  simp only [Worker.step, hpc, hout, Option.some.injEq, Prod.mk.injEq] at hs
  obtain ⟨rfl, rfl⟩ := hs
  refine ⟨hroutine.trans h.routine, ?_, Or.inr ⟨payloadAt s.shared s.worker.fingerindex, ?_⟩⟩
  · rintro (hp | hp) <;> cases hp
  · constructor
    · simp [record, hpc, Worker.goto]
    · have hpayloads : (record s.history s.shared s.worker).payloads = s.history.payloads := by
        simp [record, hpc]
      simp only [TableKept, hpc, hfound, hpayloads]
      show Found s ∧ _ ↔ Found s ∧ _
      refine and_congr_right fun hf => forall_congr' fun i => ?_
      show _ ↔ (matched s.worker = some i → _)
      refine forall_congr' fun hm => ?_
      rw [show s.worker.fingerindex = some i from hf.trans hm]
      rfl
    · simp [record, hpc, Worker.goto, hu.announced]

theorem leaving_work (h : AuthInv s good) (hpc : authStage s.worker.pc = .leaving)
    (hs : s.worker.step s.shared r = some (sh', w')) :
    AuthInv ⟨sh', w', record s.history s.shared s.worker⟩ (good ∧ TableKept s (.work r)) := by
  obtain ⟨hindex, hsent, hfake, hnext, hlast, hauth, hacq, hret⟩ := leaving_step h.routine hpc hs
  have hmatched : matched w' = matched s.worker := by
    unfold matched
    rw [hsent, hfake]
  have hkept : TableKept s (.work r) := by
    apply tableKept_other
    · intro hp
      rw [hp] at hpc
      cases hpc
    · intro hp
      rw [hp] at hpc
      cases hpc
  have hst := h.atStage
  rw [hpc] at hst
  refine ⟨(Worker.step_routine hs).trans h.routine, ?_, ?_⟩
  · rintro (hp | hp)
    · rw [hindex]
      exact hacq hp
    · rw [hindex]
      exact h.noticed (Or.inl (hauth hp))
  · rw [hnext, and_iff_left hkept]
    by_cases hnotice : s.worker.pc = .authenticatedNotice
    · rcases hst with ⟨-, hnone, -⟩ | ⟨payload, hrel⟩
      · have hsome := h.noticed (Or.inr hnotice)
        rw [hnone] at hsome
        cases hsome
      · refine Or.inr ⟨payload, ?_, ?_, ?_⟩
        · simpa [record, hnotice, hindex] using hrel.released
        · simpa [record, hnotice, Found, hindex, hmatched] using hrel.good_iff
        · obtain ⟨i, hi⟩ := Option.isSome_iff_exists.mp (h.noticed (Or.inr hnotice))
          simp [record, hnotice, hindex, hlast hnotice, hi, Worker.fid]
    · have hrec : record s.history s.shared s.worker = s.history := by
        unfold record
        split <;> simp_all [authStage]
      rw [hrec]
      rcases hst with ⟨hu, hnone, hgood⟩ | ⟨payload, hrel⟩
      · exact Or.inl ⟨⟨hu.released, hu.announced⟩, hindex.trans hnone, hgood⟩
      · refine Or.inr ⟨payload, ?_, ?_, ?_⟩
        · rw [hindex]
          exact hrel.released
        · simpa [Found, hindex, hmatched] using hrel.good_iff
        · have hann := hrel.announced
          have hnot : s.worker.pc ≠ .returned := by
            intro hp
            simp [Worker.step, hp] at hs
          rw [if_neg hnot] at hann
          simp only [hann, hindex]
          split
          · rename_i hp
            rcases hret hp with hp | hp
            · exact absurd hp hnotice
            · rw [hp]
              rfl
          · rfl

theorem step_inv (s : Authentication) (a : AuthEvent) (s' : Authentication) (good : Prop)
    (h : AuthInv s good) (hs : step s a = some s') : AuthInv s' (good ∧ TableKept s a) := by
  cases a with
  | work r =>
    obtain ⟨⟨sh', w'⟩, hstep, rfl⟩ := Option.map_eq_some_iff.mp hs
    cases hpc : authStage s.worker.pc with
    | searching =>
      by_cases hlookup : s.worker.pc = .lookup
      · exact lookup_work h hlookup hstep
      · exact searching_work h hpc hlookup hstep
    | releasing =>
      have hp : s.worker.pc = .payloadRelease := by
        cases hw : s.worker.pc <;> rw [hw] at hpc <;> first | rfl | cases hpc
      exact release_work h hp hstep
    | leaving => exact leaving_work h hpc hstep
    | foreign =>
      have hst := h.atStage
      rw [hpc] at hst
      exact hst.elim
  | setActiveGroup gid =>
    cases hs
    simp only [TableKept, and_true]
    exact h.env rfl rfl
  | remove exec fid =>
    cases hs
    simp only [TableKept, and_true]
    exact h.env rfl rfl
  | cancel =>
    cases hs
    simp only [TableKept, and_true]
    exact h.env rfl rfl
  | signal =>
    cases hs
    simp only [TableKept, and_true]
    exact h.env rfl rfl

/-- As long as the table is kept, only the slot that matched is announced and released. -/
theorem AuthInv.rightFinger (h : AuthInv s good) (hgood : good) : RightFinger s := by
  have hst := h.atStage
  have hunfound : Unfound s → RightFinger s := by
    intro hu
    constructor
    · intro fid hfid
      rw [hu.announced] at hfid
      cases hfid
    · intro idx payload hrel
      rw [hu.released] at hrel
      cases hrel
  cases hpc : authStage s.worker.pc with
  | searching =>
    rw [hpc] at hst
    exact hunfound hst.1
  | releasing =>
    rw [hpc] at hst
    exact hunfound hst.1
  | leaving =>
    rw [hpc] at hst
    rcases hst with ⟨hu, -⟩ | ⟨payload, hrel⟩
    · exact hunfound hu
    · obtain ⟨hfound, hpayload⟩ := hrel.good_iff.mp hgood
      constructor
      · intro fid hfid
        rw [hrel.announced] at hfid
        split at hfid
        · obtain ⟨i, hi, rfl⟩ := Option.map_eq_some_iff.mp hfid
          exact ⟨i, hfound.symm.trans hi, rfl⟩
        · cases hfid
      · intro idx payload' hrel' i hi
        rw [hrel.released] at hrel'
        cases hrel'
        exact ⟨hfound.trans hi, hpayload i hi⟩
  | foreign =>
    rw [hpc] at hst
    exact hst.elim

/-- At the end of a run the finger tells whether the table was kept. -/
theorem AuthInv.good_of_rightFinger (h : AuthInv s good) (hpc : s.worker.pc = .returned)
    (hright : RightFinger s) : good := by
  have hst := h.atStage
  rw [hpc] at hst
  rcases hst with ⟨-, -, hgood⟩ | ⟨payload, hrel⟩
  · exact hgood
  · have hreleased := fun i hi => hright.2 _ payload hrel.released i hi
    have hannounced := hrel.announced
    rw [if_pos hpc] at hannounced
    refine hrel.good_iff.mpr ⟨?_, fun i hi => (hreleased i hi).2⟩
    cases hm : matched s.worker with
    | some i => exact (hreleased i hm).1.trans hm.symm
    | none =>
      cases hf : s.worker.fingerindex with
      | none => exact hf.trans hm.symm
      | some j =>
        rw [hf] at hannounced
        obtain ⟨i, hi, -⟩ := hright.1 _ hannounced
        rw [hm] at hi
        cases hi

/-- While the table is kept, the finger announced and the payload released are those that
matched; and a run that has returned shows it if the table was not kept. -/
theorem right_finger_iff (sh : Shared) (hr : Machine.run step (start sh) as = some s) :
    (Machine.Along step TableKept (start sh) as → RightFinger s) ∧
      (s.worker.pc = .returned →
        (RightFinger s ↔ Machine.Along step TableKept (start sh) as)) := by
  have hinv : AuthInv s (Machine.Along step TableKept (start sh) as) :=
    Machine.run_invariant_tracking step_inv hr (inv_start sh)
  exact ⟨hinv.rightFinger, fun hpc => ⟨hinv.good_of_rightFinger hpc, hinv.rightFinger⟩⟩

def row (id : Int) : Row := ⟨id, fun _ => id.toNat.toUInt8, fun _ => id.toNat.toUInt8⟩

/-- The table of group 0 holds three templates. -/
def threeFingers : Shared :=
  { Shared.opened with
    templates := .fingerprintOpen fun gid => if gid = 0 then some [row 1, row 2, row 3] else none }

/-- The finger is lifted, and the second template sent matches. -/
def second : Reply := ⟨0, 0, fun k => if k = 2 then 2 else if k = 22 then 1 else 0⟩

/-- Up to the reply of the match command. -/
def scan : List AuthEvent := .signal :: List.replicate 17 (.work second)

/-- From the lookup to the end. -/
def finish : List AuthEvent := List.replicate 7 (.work second)

def ending (as : List AuthEvent) : Authentication :=
  (Machine.run step (start threeFingers) as).getD (start threeFingers)

theorem right_finger_second :
    (ending (scan ++ finish)).history.announced = some 2 ∧
      RightFinger (ending (scan ++ finish)) := by
  have hrun : Machine.run step (start threeFingers) (scan ++ finish) =
      some (ending (scan ++ finish)) := rfl
  refine ⟨rfl, (right_finger_iff threeFingers hrun).1 ?_⟩
  iterate 18 refine Machine.along_cons rfl trivial ?_
  refine Machine.along_cons rfl rfl (Machine.along_cons rfl (fun i hi => ?_) ?_)
  · cases hi
    rfl
  · iterate 5 refine Machine.along_cons rfl trivial ?_
    trivial

/-- The framework removes the first finger while the match command runs. -/
def firstRemoved : List AuthEvent := scan ++ .remove (fun _ => 0) 1 :: finish

/-- The second finger has matched; the third is announced, and its payload released. -/
theorem firstRemoved_announces_third :
    Machine.run step (start threeFingers) firstRemoved = some (ending firstRemoved) ∧
      matched (ending firstRemoved).worker = some 2 ∧
      (ending firstRemoved).history.announced = some 3 ∧
      ¬RightFinger (ending firstRemoved) := by
  refine ⟨rfl, rfl, rfl, fun h => ?_⟩
  obtain ⟨i, hi, hfid⟩ := h.1 3 rfl
  cases hi
  exact absurd hfid (by decide)

end Authentication

end Apq8084.Fingerprint
