import Apq8084.Fingerprint.Worker
import Apq8084.Lib.Machine
import Apq8084.Lib.Trace

/-! The commands that a worker sends to the trusted app, and whether each image that is matched
or added to an enrollment comes from a capture of its own. -/
namespace Apq8084.Fingerprint

/-- The commands for captures and the two that use the captured image. -/
inductive Command where
  | vfmCaptureStart | vfmCaptureReadData | vfmCaptureProcessData
  | vfmMatchImageToTemplates | vfmEnrollAddImage
deriving DecidableEq

namespace Command

/-- The command that a step of a worker sends. -/
def ofPc : Pc → Option Command
  | .captureStart => some .vfmCaptureStart
  | .readData => some .vfmCaptureReadData
  | .processData => some .vfmCaptureProcessData
  | .matchImage => some .vfmMatchImageToTemplates
  | .addImage => some .vfmEnrollAddImage
  | _ => none

def usesImage : Command → Bool
  | .vfmMatchImageToTemplates | .vfmEnrollAddImage => true
  | _ => false

end Command

structure Capture where
  shared : Shared
  worker : Worker
  /-- The commands sent, with their replies. -/
  trace : List (Command × Reply)

/-- A step of the worker, or any change that other threads make. -/
inductive CaptureEvent where
  | work (r : Reply)
  | others (sh : Shared)

namespace Capture

def start (sh : Shared) (routine : Routine) : Capture := ⟨sh, .start routine, []⟩

def record (trace : List (Command × Reply)) (w : Worker) (r : Reply) : List (Command × Reply) :=
  match Command.ofPc w.pc with
  | none => trace
  | some c => trace ++ [(c, r)]

def step (s : Capture) : CaptureEvent → Option Capture
  | .work r => (s.worker.step s.shared r).map fun p => ⟨p.1, p.2, record s.trace s.worker r⟩
  | .others sh => some { s with shared := sh }

def marked (e : Command × Reply) : Bool := e.1.usesImage

/-- A capture was started, the finger was lifted, and the image was processed. -/
def Captured (l : List (Command × Reply)) : Prop :=
  ∃ r r' r'' : Reply,
    List.Sublist [(.vfmCaptureStart, r), (.vfmCaptureReadData, r'),
        (.vfmCaptureProcessData, r'')] l ∧
      r.Ok ∧ (r'.Ok ∧ r'.data 2 = 2) ∧ r''.Ok

/-- Each image used was captured after the former one was used. -/
def FreshImages (s : Capture) : Prop := Trace.Guarded marked Captured s.trace

/-- A capture starts, or it fails with the code that the callers test for. -/
def StartDecided (s : Capture) : CaptureEvent → Prop
  | .work r => s.worker.pc = .captureStart → r.Ok ∨ r.ret = -1
  | .others _ => True

/-- `vcs_start_capture` has returned a success, and the image has not been used yet. -/
def Pending (pc : Pc) : Prop := pc = .buildMatch ∨ pc = .matchImage ∨ pc = .addImage

/-- The parts of a run: before a capture is started, until the finger is lifted, until the image is
processed, until it is used, and behind the loop. -/
inductive CaptureStage where
  | before | started | lifted | pending | done
deriving DecidableEq

def captureStage : Pc → CaptureStage
  | .unknown0 | .scanLoop | .matchNotice | .findSlot | .enrollBegin | .unknownA | .enrollLoop
  | .addImageNotice | .enrollNotice | .captureStart | .processNotice => .before
  | .updateCalData | .arm | .check .. | .testSignal | .wait | .clearSignal | .readData => .started
  | .processData => .lifted
  | .buildMatch | .matchImage | .addImage => .pending
  | _ => .done

theorem pending_iff {pc : Pc} : Pending pc ↔ captureStage pc = .pending := by
  cases pc <;> simp [Pending, captureStage]

variable {sh sh' : Shared} {w w' : Worker} {r : Reply} {s s' : Capture} {good : Prop}
  {l : List (Command × Reply)} {as : List CaptureEvent} {routine : Routine}

theorem captureStage_out (w : Worker) : captureStage w.out.pc = .done := by
  rcases w.out_pc with h | h <;> rw [h] <;> rfl

theorem captureStage_captured (w : Worker) (ret : Int) :
    captureStage (w.captured ret).pc = if ret = -1 then .done else .pending := by
  unfold Worker.captured
  split_ifs
  · exact captureStage_out w
  · split <;> rfl

theorem captureStage_failed (w : Worker) : captureStage (w.captured (-1)).pc = .done :=
  captureStage_captured w (-1)

theorem captureStage_checked (w : Worker) (ret : Bool) (site : CheckSite) :
    captureStage (w.checked ret site).pc = .started ∨
      captureStage (w.checked ret site).pc = .done := by
  cases site <;> cases ret
  · exact Or.inl rfl
  · exact Or.inl rfl
  · exact Or.inl rfl
  · exact Or.inr (captureStage_failed w)
  · exact Or.inl rfl
  · exact Or.inr (captureStage_failed w)

theorem captureStart_stage (hpc : w.pc = .captureStart) (h : w.step sh r = some (sh', w')) :
    captureStage w'.pc = if r.Ok then .started else if r.ret = -1 then .done else .pending := by
  simp only [Worker.step, hpc, Option.some.injEq, Prod.mk.injEq] at h
  obtain ⟨-, rfl⟩ := h
  by_cases hok : r.Ok
  · rw [if_pos hok, if_pos hok]
    rfl
  · rw [if_neg hok, if_neg hok]
    exact captureStage_captured w r.ret

theorem readData_stage (hpc : w.pc = .readData) (h : w.step sh r = some (sh', w')) :
    captureStage w'.pc = if r.Ok ∧ r.data 2 = 2 then .lifted else .started := by
  simp only [Worker.step, hpc, Option.some.injEq, Prod.mk.injEq] at h
  obtain ⟨-, rfl⟩ := h
  by_cases hok : r.Ok ∧ r.data 2 = 2
  · rw [if_pos hok, if_pos hok]
    rfl
  · rw [if_neg hok, if_neg hok]
    rfl

theorem processData_stage (hpc : w.pc = .processData) (h : w.step sh r = some (sh', w')) :
    captureStage w'.pc =
      if r.ret ≠ 0 then .done else if r.result ≠ 0 then .before else .pending := by
  simp only [Worker.step, hpc, Option.some.injEq, Prod.mk.injEq] at h
  obtain ⟨-, rfl⟩ := h
  split_ifs
  · exact captureStage_failed w
  · rfl
  · exact captureStage_captured w 0

/-- An image is used once. -/
theorem usesImage_stage (hpc : w.pc = .matchImage ∨ w.pc = .addImage)
    (h : w.step sh r = some (sh', w')) :
    captureStage w'.pc = .before ∨ captureStage w'.pc = .done := by
  rcases hpc with hpc | hpc
  · simp only [Worker.step, hpc, Option.some.injEq, Prod.mk.injEq] at h
    obtain ⟨-, rfl⟩ := h
    split_ifs
    · exact Or.inr rfl
    · exact Or.inl rfl
    · exact Or.inr rfl
  · simp only [Worker.step, hpc, Option.some.injEq, Prod.mk.injEq] at h
    obtain ⟨-, rfl⟩ := h
    split_ifs
    · exact Or.inr rfl
    · exact Or.inl rfl
    · exact Or.inl rfl

theorem check_stage {site : CheckSite} {point : CheckPoint} (hpc : w.pc = .check site point)
    (h : w.step sh r = some (sh', w')) :
    captureStage w'.pc = .started ∨ captureStage w'.pc = .done := by
  cases point <;> simp only [Worker.step, hpc, Option.some.injEq, Prod.mk.injEq] at h <;>
    obtain ⟨-, rfl⟩ := h
  · split_ifs
    · exact captureStage_checked w true site
    · exact Or.inl rfl
  · split_ifs
    · exact Or.inl rfl
    · exact captureStage_checked w false site
  · exact Or.inl rfl
  · exact captureStage_checked w true site

/-- Without a command, a worker stays in its part of the run or leaves the loop. -/
theorem silent_stage (hpc : Command.ofPc w.pc = none) (h : w.step sh r = some (sh', w')) :
    captureStage w'.pc = captureStage w.pc ∨
      (captureStage w'.pc = .done ∧ captureStage w.pc ≠ .pending) := by
  cases hp : w.pc with
  | check site point =>
    rcases check_stage hp h with h | h
    · exact Or.inl h
    · exact Or.inr ⟨h, nofun⟩
  | captureStart | readData | processData | matchImage | addImage =>
    rw [hp] at hpc
    cases hpc
  | returned => simp [Worker.step, hp] at h
  | scanLoop | enrollLoop | enrollBegin | unknownA =>
    simp only [Worker.step, hp, Option.some.injEq, Prod.mk.injEq] at h
    obtain ⟨-, rfl⟩ := h
    split_ifs
    · exact Or.inl rfl
    · first | exact Or.inr ⟨rfl, nofun⟩ | exact Or.inr ⟨captureStage_out w, nofun⟩
  | enrollNotice =>
    simp only [Worker.step, hp, Option.some.injEq, Prod.mk.injEq] at h
    obtain ⟨-, rfl⟩ := h
    split_ifs
    · exact Or.inr ⟨rfl, nofun⟩
    · exact Or.inl rfl
  | setIdle =>
    simp only [Worker.step, hp, Option.some.injEq, Prod.mk.injEq] at h
    obtain ⟨-, rfl⟩ := h
    left
    split
    · split_ifs <;> rfl
    · rfl
  | _ =>
    simp only [Worker.step, hp, Option.some.injEq, Prod.mk.injEq] at h
    obtain ⟨-, rfl⟩ := h
    first
      | exact Or.inl rfl
      | exact Or.inl (captureStage_out w)
      | (left; split <;> first | rfl | exact captureStage_out w)

/-- No image was processed since the last one was used. -/
def Unprocessed (l : List (Command × Reply)) : Prop :=
  ∀ r, (.vfmCaptureProcessData, r) ∈ l → ¬r.Ok

theorem Unprocessed.not_captured (h : Unprocessed l) : ¬Captured l := by
  rintro ⟨r, r', r'', hsub, -, -, hok⟩
  exact h r'' (hsub.subset (by simp)) hok

theorem unprocessed_nil : Unprocessed [] := fun _ h => absurd h List.not_mem_nil

theorem Unprocessed.concat (h : Unprocessed l) {c : Command}
    (hc : c = .vfmCaptureProcessData → ¬r.Ok) : Unprocessed (l ++ [(c, r)]) := by
  intro r' hmem
  rcases List.mem_append.mp hmem with hmem | hmem
  · exact h r' hmem
  · cases List.mem_singleton.mp hmem
    exact hc rfl

def Started (l : List (Command × Reply)) : Prop := ∃ r, (.vfmCaptureStart, r) ∈ l ∧ r.Ok

def Lifted (l : List (Command × Reply)) : Prop :=
  ∃ r r' : Reply, List.Sublist [(.vfmCaptureStart, r), (.vfmCaptureReadData, r')] l ∧
    r.Ok ∧ r'.Ok ∧ r'.data 2 = 2

/-- What the commands since the last use of an image tell in each part of a run; `good` says that
all steps so far met the condition. -/
def AtCaptureStage (trace : List (Command × Reply)) (good : Prop) : CaptureStage → Prop
  | .before => Unprocessed (Trace.sinceMark marked trace) ∧
      (good ↔ Trace.Guarded marked Captured trace)
  | .started => Unprocessed (Trace.sinceMark marked trace) ∧
      Started (Trace.sinceMark marked trace) ∧ (good ↔ Trace.Guarded marked Captured trace)
  | .lifted => Unprocessed (Trace.sinceMark marked trace) ∧
      Lifted (Trace.sinceMark marked trace) ∧ (good ↔ Trace.Guarded marked Captured trace)
  | .pending =>
    good ↔ Trace.Guarded marked Captured trace ∧ Captured (Trace.sinceMark marked trace)
  | .done => good ↔ Trace.Guarded marked Captured trace

def CaptureInv (s : Capture) (good : Prop) : Prop :=
  AtCaptureStage s.trace good (captureStage s.worker.pc)

theorem inv_start (sh : Shared) (routine : Routine) : CaptureInv (start sh routine) True := by
  have hbefore : AtCaptureStage [] True .before := by
    refine ⟨?_, iff_of_true trivial Trace.guarded_nil⟩
    rw [Trace.sinceMark_nil]
    exact unprocessed_nil
  cases routine <;> exact hbefore

/-- Every part knows at least what is known behind the loop, unless an image is pending. -/
theorem AtCaptureStage.done {trace : List (Command × Reply)} {st : CaptureStage}
    (h : AtCaptureStage trace good st) (hst : st ≠ .pending) : AtCaptureStage trace good .done := by
  cases st with
  | before => exact h.2
  | started => exact h.2.2
  | lifted => exact h.2.2
  | pending => exact absurd rfl hst
  | done => exact h

/-- A command that uses no image. -/
theorem guarded_command (trace : List (Command × Reply)) (r : Reply) {c : Command}
    (hc : c.usesImage = false) :
    Trace.sinceMark marked (trace ++ [(c, r)]) = Trace.sinceMark marked trace ++ [(c, r)] ∧
      (Trace.Guarded marked Captured (trace ++ [(c, r)]) ↔
        Trace.Guarded marked Captured trace) := by
  refine ⟨Trace.sinceMark_concat hc, ?_⟩
  rw [Trace.guarded_concat]
  refine and_iff_left fun he => ?_
  rw [marked, hc] at he
  cases he

theorem silent_work (h : CaptureInv s good) (hpc : Command.ofPc s.worker.pc = none)
    (hs : s.worker.step s.shared r = some (sh', w')) :
    CaptureInv ⟨sh', w', record s.trace s.worker r⟩ good := by
  have hrec : record s.trace s.worker r = s.trace := by
    unfold record
    rw [hpc]
  unfold CaptureInv
  rw [hrec]
  rcases silent_stage hpc hs with hstage | ⟨hstage, hpending⟩
  · rw [hstage]
    exact h
  · rw [hstage]
    exact AtCaptureStage.done h hpending

theorem captureStart_work (h : CaptureInv s good) (hpc : s.worker.pc = .captureStart)
    (hs : s.worker.step s.shared r = some (sh', w')) :
    CaptureInv ⟨sh', w', record s.trace s.worker r⟩ (good ∧ StartDecided s (.work r)) := by
  have hrec : record s.trace s.worker r = s.trace ++ [(.vfmCaptureStart, r)] := by
    unfold record
    rw [hpc]
    rfl
  have hdecided : StartDecided s (.work r) ↔ r.Ok ∨ r.ret = -1 := by
    simp [StartDecided, hpc]
  have hinv : AtCaptureStage s.trace good .before := by
    rw [CaptureInv, hpc] at h
    exact h
  obtain ⟨hun, hgood⟩ := hinv
  obtain ⟨hsince, hguard⟩ := @guarded_command s.trace r .vfmCaptureStart rfl
  have hun' : Unprocessed (Trace.sinceMark marked (s.trace ++ [(.vfmCaptureStart, r)])) := by
    rw [hsince]
    exact hun.concat nofun
  unfold CaptureInv
  rw [hrec, captureStart_stage hpc hs, hdecided]
  by_cases hok : r.Ok
  · rw [if_pos hok]
    refine ⟨hun', ⟨r, ?_, hok⟩, ?_⟩
    · rw [hsince]
      exact List.mem_append_right _ List.mem_cons_self
    · rw [hguard, ← hgood]
      exact and_iff_left (Or.inl hok)
  · rw [if_neg hok]
    by_cases hret : r.ret = -1
    · rw [if_pos hret]
      show _ ↔ _
      rw [hguard, ← hgood]
      exact and_iff_left (Or.inr hret)
    · rw [if_neg hret]
      -- the failure is taken for a success
      refine iff_of_false (fun hno => ?_) fun hno => hun'.not_captured hno.2
      exact hno.2.elim hok hret

theorem readData_work (h : CaptureInv s good) (hpc : s.worker.pc = .readData)
    (hs : s.worker.step s.shared r = some (sh', w')) :
    CaptureInv ⟨sh', w', record s.trace s.worker r⟩ good := by
  have hrec : record s.trace s.worker r = s.trace ++ [(.vfmCaptureReadData, r)] := by
    unfold record
    rw [hpc]
    rfl
  have hinv : AtCaptureStage s.trace good .started := by
    rw [CaptureInv, hpc] at h
    exact h
  obtain ⟨hun, ⟨r₀, hmem, hok₀⟩, hgood⟩ := hinv
  obtain ⟨hsince, hguard⟩ := @guarded_command s.trace r .vfmCaptureReadData rfl
  have hun' : Unprocessed (Trace.sinceMark marked (s.trace ++ [(.vfmCaptureReadData, r)])) := by
    rw [hsince]
    exact hun.concat nofun
  unfold CaptureInv
  rw [hrec, readData_stage hpc hs]
  split_ifs with hread
  · refine ⟨hun', ⟨r₀, r, ?_, hok₀, hread⟩, hgood.trans hguard.symm⟩
    rw [hsince]
    exact (List.singleton_sublist.mpr hmem).append_right [(.vfmCaptureReadData, r)]
  · refine ⟨hun', ⟨r₀, ?_, hok₀⟩, hgood.trans hguard.symm⟩
    rw [hsince]
    exact List.mem_append_left _ hmem

theorem processData_work (h : CaptureInv s good) (hpc : s.worker.pc = .processData)
    (hs : s.worker.step s.shared r = some (sh', w')) :
    CaptureInv ⟨sh', w', record s.trace s.worker r⟩ good := by
  have hrec : record s.trace s.worker r = s.trace ++ [(.vfmCaptureProcessData, r)] := by
    unfold record
    rw [hpc]
    rfl
  have hinv : AtCaptureStage s.trace good .lifted := by
    rw [CaptureInv, hpc] at h
    exact h
  obtain ⟨hun, ⟨r₀, r₁, hsub, hok₀, hok₁⟩, hgood⟩ := hinv
  obtain ⟨hsince, hguard⟩ := @guarded_command s.trace r .vfmCaptureProcessData rfl
  unfold CaptureInv
  rw [hrec, processData_stage hpc hs]
  split_ifs with hret hresult
  · exact hgood.trans hguard.symm
  · refine ⟨?_, hgood.trans hguard.symm⟩
    rw [hsince]
    exact hun.concat fun _ hok => hresult hok.2
  · have hok : r.Ok := ⟨not_not.mp hret, not_not.mp hresult⟩
    have hcaptured :
        Captured (Trace.sinceMark marked (s.trace ++ [(.vfmCaptureProcessData, r)])) := by
      rw [hsince]
      exact ⟨r₀, r₁, r, hsub.append_right [(.vfmCaptureProcessData, r)], hok₀, hok₁, hok⟩
    show _ ↔ _
    rw [hguard, ← hgood]
    exact (and_iff_left hcaptured).symm

/-- The use of an image closes the account. -/
theorem usesImage_work (h : CaptureInv s good)
    (hpc : s.worker.pc = .matchImage ∨ s.worker.pc = .addImage)
    (hs : s.worker.step s.shared r = some (sh', w')) :
    CaptureInv ⟨sh', w', record s.trace s.worker r⟩ good := by
  obtain ⟨c, hc, hrec⟩ : ∃ c : Command, c.usesImage = true ∧
      record s.trace s.worker r = s.trace ++ [(c, r)] := by
    unfold record
    rcases hpc with hpc | hpc
    · rw [hpc]
      exact ⟨.vfmMatchImageToTemplates, rfl, rfl⟩
    · rw [hpc]
      exact ⟨.vfmEnrollAddImage, rfl, rfl⟩
  have hinv : AtCaptureStage s.trace good .pending := by
    unfold CaptureInv at h
    rcases hpc with hpc | hpc
    · rw [hpc] at h
      exact h
    · rw [hpc] at h
      exact h
  have hmark : marked (c, r) = true := hc
  have hgood : good ↔ Trace.Guarded marked Captured (s.trace ++ [(c, r)]) := by
    rw [Trace.guarded_concat, forall_prop_of_true hmark]
    exact hinv
  unfold CaptureInv
  rw [hrec]
  rcases usesImage_stage hpc hs with hstage | hstage
  · rw [hstage]
    refine ⟨?_, hgood⟩
    rw [Trace.sinceMark_mark hmark]
    exact unprocessed_nil
  · rw [hstage]
    exact hgood

theorem step_inv (s : Capture) (a : CaptureEvent) (s' : Capture) (good : Prop)
    (h : CaptureInv s good) (hs : step s a = some s') :
    CaptureInv s' (good ∧ StartDecided s a) := by
  cases a with
  | others sh =>
    cases hs
    rw [StartDecided, and_true]
    exact h
  | work r =>
    obtain ⟨⟨sh', w'⟩, hstep, rfl⟩ := Option.map_eq_some_iff.mp hs
    by_cases hstart : s.worker.pc = .captureStart
    · exact captureStart_work h hstart hstep
    · have hdecided : StartDecided s (.work r) := fun hpc => absurd hpc hstart
      rw [and_iff_left hdecided]
      cases hpc : s.worker.pc with
      | captureStart => exact absurd hpc hstart
      | readData => exact readData_work h hpc hstep
      | processData => exact processData_work h hpc hstep
      | matchImage => exact usesImage_work h (Or.inl hpc) hstep
      | addImage => exact usesImage_work h (Or.inr hpc) hstep
      | _ => exact silent_work h (by rw [hpc]; rfl) hstep

/-- Each image used was captured for that use, if every `vfmCaptureStart` that fails returns -1;
and only if so, unless the use of an image is still to come. -/
theorem fresh_images_iff (sh : Shared) (routine : Routine)
    (hr : Machine.run step (start sh routine) as = some s) :
    (Machine.Along step StartDecided (start sh routine) as → FreshImages s) ∧
      (¬Pending s.worker.pc →
        (FreshImages s ↔ Machine.Along step StartDecided (start sh routine) as)) := by
  have hinv : CaptureInv s (Machine.Along step StartDecided (start sh routine) as) :=
    Machine.run_invariant_tracking step_inv hr (inv_start sh routine)
  constructor
  · intro hgood
    by_cases hpending : Pending s.worker.pc
    · rw [CaptureInv, pending_iff.mp hpending] at hinv
      exact (hinv.mp hgood).1
    · exact (hinv.done fun h => hpending (pending_iff.mpr h)).mp hgood
  · intro hpending
    exact (hinv.done fun h => hpending (pending_iff.mpr h)).symm

/-- Every command succeeds, and the finger is lifted. -/
def liftedReply : Reply := ⟨0, 0, fun k => if k = 2 then 2 else 0⟩

def ending (as : List CaptureEvent) : Capture :=
  (Machine.run step (start .opened .vcs_authenticate) as).getD (start .opened .vcs_authenticate)

/-- The shared state while a finger is on the sensor. -/
def touched : Shared := { Shared.opened with state := .scan, signal := true }

def oneMatch : List CaptureEvent := .others touched :: List.replicate 17 (.work liftedReply)

theorem fresh_images_oneMatch :
    (ending oneMatch).trace.map Prod.fst = [.vfmCaptureStart, .vfmCaptureReadData,
      .vfmCaptureProcessData, .vfmMatchImageToTemplates] ∧ FreshImages (ending oneMatch) := by
  have hrun : Machine.run step (start .opened .vcs_authenticate) oneMatch =
      some (ending oneMatch) := rfl
  refine ⟨rfl, (fresh_images_iff .opened .vcs_authenticate hrun).1 ?_⟩
  iterate 3 refine Machine.along_cons rfl (by first | trivial | nofun) ?_
  refine Machine.along_cons rfl (fun _ => Or.inl ⟨rfl, rfl⟩) ?_
  iterate 14 refine Machine.along_cons rfl nofun ?_
  trivial

/-- The trusted app refuses to start the capture. -/
def refusedCapture : List CaptureEvent :=
  [.others touched, .work liftedReply, .work liftedReply, .work ⟨0, 5, fun _ => 0⟩,
    .work liftedReply, .work liftedReply]

/-- An image that was never captured is matched. -/
theorem refusedCapture_matched :
    Machine.run step (start .opened .vcs_authenticate) refusedCapture =
        some (ending refusedCapture) ∧
      (ending refusedCapture).trace.map Prod.fst =
        [.vfmCaptureStart, .vfmMatchImageToTemplates] ∧
      ¬FreshImages (ending refusedCapture) := by
  refine ⟨rfl, rfl, fun h => ?_⟩
  have hcaptured := h [(.vfmCaptureStart, ⟨0, 5, fun _ => 0⟩)] _ List.prefix_rfl rfl
  have hun : Unprocessed ([] ++ [(.vfmCaptureStart, ⟨0, 5, fun _ => 0⟩)]) :=
    unprocessed_nil.concat nofun
  exact hun.not_captured hcaptured

end Capture

end Apq8084.Fingerprint
