import Apq8084.Camera.Fixups
import Apq8084.Lib.Machine
import Mathlib.Logic.Function.Basic

/-! What `camera_set_parameters` makes of `zsl` over the calls between an open and its close. The
framework's torch value is not the one that the wrapper looks for. -/
namespace CameraWrapper

open CameraParameters

variable {qcomHardware : Bool} {n : Nat} {params : CameraParameters} {settings : String8}

/-- A call of `camera_set_parameters`, with the string that the call before it was given. -/
structure SetCall where
  id : Int
  previous : Option String8
  passed : String8
  /-- What the vendor's `set_parameters` is given. -/
  forwarded : String8

/-- The `n` cameras. A camera is opened once at a time, as the camera service promises. -/
structure Session (n : Nat) where
  isOpen : Fin n → Bool
  fixed_set_params : Fin n → Option String8
  /-- What the last call since the open was given. -/
  last : Fin n → Option String8
  calls : List SetCall

/-- After the `calloc`. -/
def Session.initial (n : Nat) : Session n :=
  { isOpen := fun _ => false, fixed_set_params := fun _ => none, last := fun _ => none
    calls := [] }

inductive SessionAction (n : Nat) where
  | camera_device_open (id : Fin n)
  | camera_set_parameters (id : Fin n) (params : String8)
  | camera_device_close (id : Fin n)

def Session.step (qcomHardware : Bool) (s : Session n) : SessionAction n → Option (Session n)
  | .camera_device_open id =>
    if s.isOpen id then none
    else some { s with
      isOpen := Function.update s.isOpen id true
      last := Function.update s.last id none }
  | .camera_set_parameters id params =>
    if s.isOpen id then
      let fixed_params :=
        camera_fixup_setparams qcomHardware id.val (s.fixed_set_params id) params
      some { s with
        fixed_set_params := Function.update s.fixed_set_params id (some fixed_params)
        last := Function.update s.last id (some params)
        calls := s.calls ++ [⟨id.val, s.last id, params, fixed_params⟩] }
    else none
  | .camera_device_close id =>
    if s.isOpen id then
      some { s with
        isOpen := Function.update s.isOpen id false
        fixed_set_params := Function.update s.fixed_set_params id none }
    else none

/-! ### What is asked of a call -/

namespace SetCall

/-- The flash mode of the call or of the one before it is the given one. -/
def Flash (c : SetCall) (mode : String8) : Prop :=
  flashMode (some c.passed) = some mode ∨ flashMode c.previous = some mode

def video (c : SetCall) : Bool := isVideo (denotes c.passed)

/-- The value that is forced. -/
def forced (c : SetCall) : String8 := if c.video then OFF else ON

/-- `zsl` is passed on for the torch and forced without it. -/
def Right (c : SetCall) : Prop :=
  (c.Flash CameraParameters.FLASH_MODE_TORCH →
    (denotes c.forwarded).lookup KEY_ZSL = (denotes c.passed).lookup KEY_ZSL) ∧
  (¬c.Flash CameraParameters.FLASH_MODE_TORCH →
    (denotes c.forwarded).lookup KEY_ZSL = some c.forced ∧
      (c.video = true → (denotes c.forwarded).lookup KEY_DIS = some DIS_DISABLE))

/-- Both names of the torch say the same, or what is passed is already what would be forced. -/
def Unaffected (c : SetCall) : Prop :=
  (c.Flash CameraParameters.FLASH_MODE_TORCH ↔ c.Flash FLASH_MODE_TORCH) ∨
  ((denotes c.passed).lookup KEY_ZSL = some c.forced ∧
    (¬c.Flash CameraParameters.FLASH_MODE_TORCH → c.video = true →
      (denotes c.passed).lookup KEY_DIS = some DIS_DISABLE))

/-- The fix-up saw the flash mode of the call before. -/
def Fixed (qcomHardware : Bool) (c : SetCall) : Prop :=
  ∃ stored, flashMode stored = flashMode c.previous ∧
    c.forwarded = camera_fixup_setparams qcomHardware c.id stored c.passed

end SetCall

/-! ### One call -/

theorem lookup_zsl_forceZsl (keep : Bool) (params : CameraParameters) :
    (forceZsl qcomHardware keep params).lookup KEY_ZSL =
      if keep then params.lookup KEY_ZSL else some (if isVideo params then OFF else ON) := by
  unfold forceZsl
  split_ifs
  · rfl
  · exact lookup_set_self (by decide)
  · exact lookup_set_self (by decide)

theorem lookup_dis_forceZsl (keep : Bool) (params : CameraParameters) :
    (forceZsl qcomHardware keep params).lookup KEY_DIS =
      if keep = false ∧ isVideo params = true then some DIS_DISABLE else params.lookup KEY_DIS := by
  have hne : KEY_DIS ≠ KEY_ZSL := by decide
  have hq : KEY_DIS ≠ KEY_HDR_NEED_1X := by decide
  have hacc : Accepted KEY_DIS DIS_DISABLE := by decide
  unfold forceZsl
  split_ifs with hkeep hdis hvideo hdis hdis
  · exact absurd hdis.1 (by simp [hkeep])
  · rfl
  · rw [lookup_set_of_ne hne fun _ => hq]
    exact lookup_set_self hacc
  · exact absurd ⟨(Bool.not_eq_true _).mp hkeep, hvideo⟩ hdis
  · exact absurd hdis.2 hvideo
  · exact lookup_set_of_ne hne fun _ => hq

theorem lookup_zsl_fixupSet (id : Int) (was : Bool) (params : CameraParameters) :
    (fixupSet qcomHardware id was params).lookup KEY_ZSL =
      if isTorch params || was then params.lookup KEY_ZSL
      else some (if isVideo params then OFF else ON) := by
  rw [← @lookup_zsl_forceZsl qcomHardware]
  exact (edited_later id _ _).lookup_eq (by decide) fun _ => by decide

theorem lookup_dis_fixupSet (id : Int) (was : Bool) (params : CameraParameters) :
    (fixupSet qcomHardware id was params).lookup KEY_DIS =
      if (isTorch params || was) = false ∧ isVideo params = true then some DIS_DISABLE
      else params.lookup KEY_DIS := by
  rw [← @lookup_dis_forceZsl qcomHardware]
  exact (edited_later id _ _).lookup_eq (by decide) fun _ => by decide

namespace SetCall

variable {c : SetCall}

/-- The wrapper keeps `zsl` exactly when it sees its own name of the torch. -/
theorem keep_iff {stored : Option String8} (h : flashMode stored = flashMode c.previous) :
    (isTorch (denotes c.passed) || wasTorch stored) = true ↔ c.Flash FLASH_MODE_TORCH := by
  rw [wasTorch_eq, h, Bool.or_eq_true, decide_eq_true_iff]
  exact or_congr_left decide_eq_true_iff

theorem lookup_zsl_forwarded (h : c.Fixed qcomHardware) :
    (c.Flash FLASH_MODE_TORCH →
      (denotes c.forwarded).lookup KEY_ZSL = (denotes c.passed).lookup KEY_ZSL) ∧
    (¬c.Flash FLASH_MODE_TORCH → (denotes c.forwarded).lookup KEY_ZSL = some c.forced) := by
  obtain ⟨stored, hflash, hfwd⟩ := h
  rw [hfwd, denotes_setparams, lookup_zsl_fixupSet, ← keep_iff hflash]
  exact ⟨fun hkeep => if_pos hkeep, fun hkeep => if_neg hkeep⟩

theorem lookup_dis_forwarded (h : c.Fixed qcomHardware) (hvideo : c.video = true) :
    (c.Flash FLASH_MODE_TORCH →
      (denotes c.forwarded).lookup KEY_DIS = (denotes c.passed).lookup KEY_DIS) ∧
    (¬c.Flash FLASH_MODE_TORCH → (denotes c.forwarded).lookup KEY_DIS = some DIS_DISABLE) := by
  obtain ⟨stored, hflash, hfwd⟩ := h
  rw [hfwd, denotes_setparams, lookup_dis_fixupSet, ← keep_iff hflash]
  constructor
  · intro hkeep
    rw [hkeep]
    exact if_neg fun hno => Bool.noConfusion hno.1
  · intro hkeep
    exact if_pos ⟨(Bool.not_eq_true _).mp hkeep, hvideo⟩

theorem right_iff (h : c.Fixed qcomHardware) : c.Right ↔ c.Unaffected := by
  obtain ⟨hkept, hforced⟩ := lookup_zsl_forwarded h
  by_cases hframework : c.Flash CameraParameters.FLASH_MODE_TORCH
  · by_cases hwrapper : c.Flash FLASH_MODE_TORCH
    · refine iff_of_true ⟨fun _ => hkept hwrapper, fun hno => absurd hframework hno⟩ ?_
      exact Or.inl (iff_of_true hframework hwrapper)
    · -- the wrapper misses the torch and forces `zsl`
      constructor
      · intro hright
        refine Or.inr ⟨?_, fun hno => absurd hframework hno⟩
        rw [← hright.1 hframework]
        exact hforced hwrapper
      · rintro (hsame | ⟨hzsl, -⟩)
        · exact absurd (hsame.mp hframework) hwrapper
        · refine ⟨fun _ => ?_, fun hno => absurd hframework hno⟩
          rw [hforced hwrapper, hzsl]
  · by_cases hwrapper : c.Flash FLASH_MODE_TORCH
    · -- the wrapper sees a torch that the framework does not know
      constructor
      · intro hright
        obtain ⟨hzsl, hdis⟩ := hright.2 hframework
        rw [hkept hwrapper] at hzsl
        refine Or.inr ⟨hzsl, fun _ hvideo => ?_⟩
        rw [← (lookup_dis_forwarded h hvideo).1 hwrapper]
        exact hdis hvideo
      · rintro (hsame | ⟨hzsl, hdis⟩)
        · exact absurd (hsame.mpr hwrapper) hframework
        · refine ⟨fun hyes => absurd hyes hframework, fun _ => ⟨?_, fun hvideo => ?_⟩⟩
          · rw [hkept hwrapper]
            exact hzsl
          · rw [(lookup_dis_forwarded h hvideo).1 hwrapper]
            exact hdis hframework hvideo
    · refine iff_of_true ⟨fun hyes => absurd hyes hframework, fun _ => ?_⟩ ?_
      · exact ⟨hforced hwrapper, fun hvideo => (lookup_dis_forwarded h hvideo).2 hwrapper⟩
      · exact Or.inl (iff_of_false hframework hwrapper)

end SetCall

/-! ### Runs -/

namespace Session

variable {s t : Session n} {a : SessionAction n} {as : List (SessionAction n)}

/-- The slot of an open camera holds the flash mode of its last call, that of a closed one
nothing, and each call was decided with the flash mode of the call before. -/
structure Remembers (qcomHardware : Bool) (s : Session n) : Prop where
  opened : ∀ id, s.isOpen id = true → flashMode (s.fixed_set_params id) = flashMode (s.last id)
  closed : ∀ id, s.isOpen id = false → s.fixed_set_params id = none
  fixed : ∀ c ∈ s.calls, c.Fixed qcomHardware

theorem remembers_initial : (initial n).Remembers qcomHardware where
  opened _ h := Bool.noConfusion h
  closed _ _ := rfl
  fixed _ hc := absurd hc List.not_mem_nil

theorem remembers_open {id : Fin n} (hs : s.Remembers qcomHardware)
    (h : s.step qcomHardware (.camera_device_open id) = some t) : t.Remembers qcomHardware := by
  simp only [step, Option.ite_none_left_eq_some, Option.some.injEq] at h
  obtain ⟨hclosed, rfl⟩ := h
  rw [Bool.not_eq_true] at hclosed
  refine ⟨fun id' hopen => ?_, fun id' hclosed' => ?_, hs.fixed⟩
  · simp only at hopen ⊢
    by_cases hid : id' = id
    · subst hid
      rw [Function.update_self, hs.closed id' hclosed]
    · rw [Function.update_of_ne hid] at hopen ⊢
      exact hs.opened id' hopen
  · simp only at hclosed' ⊢
    by_cases hid : id' = id
    · subst hid
      exact hs.closed id' hclosed
    · rw [Function.update_of_ne hid] at hclosed'
      exact hs.closed id' hclosed'

theorem remembers_set {id : Fin n} {params : String8} (hs : s.Remembers qcomHardware)
    (h : s.step qcomHardware (.camera_set_parameters id params) = some t) :
    t.Remembers qcomHardware := by
  simp only [step, Option.ite_none_right_eq_some, Option.some.injEq] at h
  obtain ⟨hopen, rfl⟩ := h
  refine ⟨fun id' hopen' => ?_, fun id' hclosed => ?_, fun c hc => ?_⟩
  · simp only at hopen' ⊢
    by_cases hid : id' = id
    · subst hid
      rw [Function.update_self, Function.update_self, flashMode_setparams]
    · rw [Function.update_of_ne hid, Function.update_of_ne hid]
      exact hs.opened id' hopen'
  · simp only at hclosed ⊢
    have hid : id' ≠ id := by
      rintro rfl
      exact Bool.noConfusion (hclosed.symm.trans hopen)
    rw [Function.update_of_ne hid]
    exact hs.closed id' hclosed
  · rcases List.mem_append.mp hc with hc | hc
    · exact hs.fixed c hc
    · obtain rfl := List.mem_singleton.mp hc
      exact ⟨_, hs.opened id hopen, rfl⟩

theorem remembers_close {id : Fin n} (hs : s.Remembers qcomHardware)
    (h : s.step qcomHardware (.camera_device_close id) = some t) : t.Remembers qcomHardware := by
  simp only [step, Option.ite_none_right_eq_some, Option.some.injEq] at h
  obtain ⟨hopen, rfl⟩ := h
  refine ⟨fun id' hopen' => ?_, fun id' hclosed => ?_, hs.fixed⟩
  · simp only at hopen' ⊢
    by_cases hid : id' = id
    · subst hid
      rw [Function.update_self] at hopen'
      exact Bool.noConfusion hopen'
    · rw [Function.update_of_ne hid] at hopen' ⊢
      exact hs.opened id' hopen'
  · simp only at hclosed ⊢
    by_cases hid : id' = id
    · subst hid
      rw [Function.update_self]
    · rw [Function.update_of_ne hid] at hclosed ⊢
      exact hs.closed id' hclosed

theorem remembers_step (hs : s.Remembers qcomHardware) (h : s.step qcomHardware a = some t) :
    t.Remembers qcomHardware := by
  cases a with
  | camera_device_open id => exact remembers_open hs h
  | camera_set_parameters id params => exact remembers_set hs h
  | camera_device_close id => exact remembers_close hs h

theorem remembers_run (h : Machine.run (step qcomHardware) (initial n) as = some t) :
    t.Remembers qcomHardware :=
  Machine.run_invariant (fun _ _ _ hs hstep => remembers_step hs hstep) h remembers_initial

/-- A call treats `zsl` as the framework's flash mode asks for exactly when the wrapper's name of
the torch makes no difference to it. -/
theorem torch_runs (h : Machine.run (step qcomHardware) (initial n) as = some t) :
    ∀ c ∈ t.calls, c.Right ↔ c.Unaffected := by
  intro c hc
  exact SetCall.right_iff ((remembers_run h).fixed c hc)

def torchSettings : String8 := "flash-mode=torch".toList

/-- The first camera of one is opened, and the application switches the torch on. -/
def torchOn : List (SessionAction 1) :=
  [.camera_device_open ⟨0, Nat.zero_lt_one⟩,
    .camera_set_parameters ⟨0, Nat.zero_lt_one⟩ torchSettings]

theorem torch_runs_torchOn : ∃ t, Machine.run (step false) (initial 1) torchOn = some t ∧
    t.calls ≠ [] ∧ ∀ c ∈ t.calls, c.Right ↔ c.Unaffected :=
  ⟨_, rfl, List.cons_ne_nil _ _, torch_runs (rfl : Machine.run (step false) _ torchOn = some _)⟩

theorem denotes_torchSettings : denotes torchSettings =
    empty.replaceValueFor KEY_FLASH_MODE CameraParameters.FLASH_MODE_TORCH := by
  have hflat : torchSettings =
      (empty.replaceValueFor KEY_FLASH_MODE CameraParameters.FLASH_MODE_TORCH).flatten := by decide
  rw [hflat]
  apply unflatten_flatten_of_separable
  exact separable_replaceValueFor separable_empty (by decide) (by decide)

/-- The torch is on, nothing is said of `zsl`, and `zsl=on` is passed to the vendor. -/
theorem torchOn_forces_zsl : ∃ t, Machine.run (step false) (initial 1) torchOn = some t ∧
    ∃ c ∈ t.calls, c.Flash CameraParameters.FLASH_MODE_TORCH ∧
      (denotes c.passed).lookup KEY_ZSL = none ∧
      (denotes c.forwarded).lookup KEY_ZSL = some ON ∧ ¬c.Right := by
  have hflash : flashMode (some torchSettings) = some CameraParameters.FLASH_MODE_TORCH := by
    change (denotes torchSettings).get KEY_FLASH_MODE = _
    rw [denotes_torchSettings]
    decide
  have hpassed : (denotes torchSettings).lookup KEY_ZSL = none := by
    rw [denotes_torchSettings]
    decide
  have hforwarded : (denotes (camera_fixup_setparams false 0 none torchSettings)).lookup KEY_ZSL =
      some ON := by
    rw [denotes_setparams, lookup_zsl_fixupSet, denotes_torchSettings]
    decide
  refine ⟨_, rfl, _, List.mem_cons_self, Or.inl hflash, hpassed, hforwarded, fun hright => ?_⟩
  have hzsl := hright.1 (Or.inl hflash)
  exact Option.some_ne_none ON (hforwarded.symm.trans (hzsl.trans hpassed))

end Session

end CameraWrapper
