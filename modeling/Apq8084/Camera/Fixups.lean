import Apq8084.Camera.CameraParameters

/-! The fix-ups of `camera/CameraWrapper.cpp` between the framework's parameters and the
vendor's. -/
namespace CameraWrapper

open CameraParameters

def KEY_DIS : String8 := "dis".toList
def DIS_DISABLE : String8 := "disable".toList
def KEY_ZSL : String8 := "zsl".toList
def ON : String8 := "on".toList
def OFF : String8 := "off".toList
def KEY_VIDEO_HFR_VALUES : String8 := "video-hfr-values".toList
def KEY_VIDEO_SNAPSHOT_SUPPORTED : String8 := "video-snapshot-supported".toList
def KEY_FLASH_MODE : String8 := "flash-mode".toList
def FLASH_MODE_TORCH : String8 := "mode-torch".toList
def KEY_RECORDING_HINT : String8 := "recording-hint".toList
def KEY_PREVIEW_FORMAT : String8 := "preview-format".toList
def KEY_PREVIEW_FPS_RANGE : String8 := "preview-fps-range".toList
def KEY_PHASE_AF : String8 := "phase-af".toList
def KEY_DYNAMIC_RANGE_CONTROL : String8 := "dynamic-range-control".toList
def KEY_RT_HDR : String8 := "rt-hdr".toList
def KEY_SUPPORTED_RT_HDR : String8 := "rt-hdr-values".toList
def KEY_QC_VIDEO_HDR : String8 := "video-hdr".toList
def KEY_QC_VIDEO_HDR_VALUES : String8 := "video-hdr-values".toList
def PIXEL_FORMAT_NV12_VENUS : String8 := "nv12-venus".toList
def PIXEL_FORMAT_YUV420SP : String8 := "yuv420sp".toList
def TRUE : String8 := "true".toList
def BACK_CAMERA_ID : Int := 0
def FRONT_CAMERA_ID : Int := 1

/-- Whether `needle` occurs in the string. -/
def strstr : String8 → String8 → Bool
  | [], needle => needle.isEmpty
  | c :: s, needle => needle.isPrefixOf (c :: s) || strstr s needle

variable (qcomHardware : Bool)

/-! `camera_fixup_getparams`, one statement after the other. -/

def hideVenus (params : CameraParameters) : CameraParameters :=
  match params.get KEY_PREVIEW_FORMAT with
  | none => params.set qcomHardware (some KEY_PREVIEW_FORMAT) (some PIXEL_FORMAT_YUV420SP)
  | some preview_fmt =>
    if preview_fmt = PIXEL_FORMAT_NV12_VENUS then
      params.set qcomHardware (some KEY_PREVIEW_FORMAT) (some PIXEL_FORMAT_YUV420SP)
    else params

def allowHfrOff (params : CameraParameters) : CameraParameters :=
  match params.get KEY_VIDEO_HFR_VALUES with
  | none => params
  | some hfrModeValues =>
    if strstr hfrModeValues OFF then params
    else params.set qcomHardware (some KEY_VIDEO_HFR_VALUES) (some (OFF ++ ',' :: hfrModeValues))

def enforceSnapshot (videoMode : Bool) (params : CameraParameters) : CameraParameters :=
  if videoMode then params.set qcomHardware (some KEY_VIDEO_SNAPSHOT_SUPPORTED) (some TRUE)
  else params

def advertiseHdr (params : CameraParameters) : CameraParameters :=
  match params.get KEY_SUPPORTED_RT_HDR with
  | none => params
  | some vhdr_vals => params.set qcomHardware (some KEY_QC_VIDEO_HDR_VALUES) (some vhdr_vals)

def isVideo (params : CameraParameters) : Bool := params.get KEY_RECORDING_HINT = some TRUE

def fixupGet (params : CameraParameters) : CameraParameters :=
  advertiseHdr qcomHardware (enforceSnapshot qcomHardware (isVideo params)
    (allowHfrOff qcomHardware (hideVenus qcomHardware params)))

/-- The id is only logged. -/
def camera_fixup_getparams (_id : Int) (settings : String8) : String8 :=
  (fixupGet qcomHardware (empty.unflatten settings)).flatten

/-! `camera_fixup_setparams`. -/

def isTorch (params : CameraParameters) : Bool := params.get KEY_FLASH_MODE = some FLASH_MODE_TORCH

/-- What the last call has left in `fixed_set_params[id]` tells whether it was for the torch. -/
def wasTorch : Option String8 → Bool
  | none => false
  | some fixed => isTorch (empty.unflatten fixed)

def forceZsl (keep : Bool) (params : CameraParameters) : CameraParameters :=
  if keep then params
  else if isVideo params then
    (params.set qcomHardware (some KEY_DIS) (some DIS_DISABLE)).set qcomHardware (some KEY_ZSL)
      (some OFF)
  else params.set qcomHardware (some KEY_ZSL) (some ON)

def enableBack (id : Int) (params : CameraParameters) : CameraParameters :=
  if id = BACK_CAMERA_ID then
    (params.set qcomHardware (some KEY_PHASE_AF) (some ON)).set qcomHardware
      (some KEY_DYNAMIC_RANGE_CONTROL) (some ON)
  else params

def translateHdr (video : Bool) (params : CameraParameters) : CameraParameters :=
  if video then
    params.set qcomHardware (some KEY_RT_HDR) (some ((params.get KEY_QC_VIDEO_HDR).getD OFF))
  else params

def fixFront (id : Int) (params : CameraParameters) : CameraParameters :=
  if id = FRONT_CAMERA_ID then
    params.set qcomHardware (some KEY_PREVIEW_FPS_RANGE) (some "7000,30000".toList)
  else params

def fixupSet (id : Int) (was : Bool) (params : CameraParameters) : CameraParameters :=
  fixFront qcomHardware id (translateHdr qcomHardware (isVideo params)
    (enableBack qcomHardware id (forceZsl qcomHardware (isTorch params || was) params)))

/-- The result is also what `fixed_set_params[id]` holds from now on. -/
def camera_fixup_setparams (id : Int) (stored : Option String8) (settings : String8) : String8 :=
  (fixupSet qcomHardware id (wasTorch stored) (empty.unflatten settings)).flatten

/-! Each statement changes its own keys. -/

variable {qcomHardware} {params : CameraParameters} {video : Bool}

theorem edited_hideVenus (params : CameraParameters) :
    Edited qcomHardware [KEY_PREVIEW_FORMAT] params (hideVenus qcomHardware params) := by
  unfold hideVenus
  split
  · exact .single List.mem_cons_self
  · split_ifs
    · exact .single List.mem_cons_self
    · exact .refl params

theorem edited_allowHfrOff (params : CameraParameters) :
    Edited qcomHardware [KEY_VIDEO_HFR_VALUES] params (allowHfrOff qcomHardware params) := by
  unfold allowHfrOff
  split
  · exact .refl params
  · split_ifs
    · exact .refl params
    · exact .single List.mem_cons_self

theorem edited_enforceSnapshot (video : Bool) (params : CameraParameters) :
    Edited qcomHardware [KEY_VIDEO_SNAPSHOT_SUPPORTED] params
      (enforceSnapshot qcomHardware video params) := by
  unfold enforceSnapshot
  split_ifs
  · exact .single List.mem_cons_self
  · exact .refl params

theorem edited_advertiseHdr (params : CameraParameters) :
    Edited qcomHardware [KEY_QC_VIDEO_HDR_VALUES] params (advertiseHdr qcomHardware params) := by
  unfold advertiseHdr
  split
  · exact .refl params
  · exact .single List.mem_cons_self

/-- The keys that `camera_fixup_getparams` may change. -/
def getKeys : List String8 :=
  [KEY_PREVIEW_FORMAT, KEY_VIDEO_HFR_VALUES, KEY_VIDEO_SNAPSHOT_SUPPORTED, KEY_QC_VIDEO_HDR_VALUES]

theorem edited_fixupGet (params : CameraParameters) :
    Edited qcomHardware getKeys params (fixupGet qcomHardware params) :=
  (((edited_hideVenus params).trans (edited_allowHfrOff _)).trans
    (edited_enforceSnapshot _ _)).trans (edited_advertiseHdr _)

theorem edited_forceZsl (keep : Bool) (params : CameraParameters) :
    Edited qcomHardware [KEY_DIS, KEY_ZSL] params (forceZsl qcomHardware keep params) := by
  unfold forceZsl
  split_ifs
  · exact .refl params
  · exact .set _ (.single (by decide)) (by decide)
  · exact .single (by decide)

theorem edited_enableBack (id : Int) (params : CameraParameters) :
    Edited qcomHardware [KEY_PHASE_AF, KEY_DYNAMIC_RANGE_CONTROL] params
      (enableBack qcomHardware id params) := by
  unfold enableBack
  split_ifs
  · exact .set _ (.single (by decide)) (by decide)
  · exact .refl params

theorem edited_translateHdr (video : Bool) (params : CameraParameters) :
    Edited qcomHardware [KEY_RT_HDR] params (translateHdr qcomHardware video params) := by
  unfold translateHdr
  split_ifs
  · exact .single List.mem_cons_self
  · exact .refl params

theorem edited_fixFront (id : Int) (params : CameraParameters) :
    Edited qcomHardware [KEY_PREVIEW_FPS_RANGE] params (fixFront qcomHardware id params) := by
  unfold fixFront
  split_ifs
  · exact .single List.mem_cons_self
  · exact .refl params

/-- The keys that `camera_fixup_setparams` may change behind `dis` and `zsl`. -/
def laterKeys : List String8 :=
  [KEY_PHASE_AF, KEY_DYNAMIC_RANGE_CONTROL, KEY_RT_HDR, KEY_PREVIEW_FPS_RANGE]

theorem edited_later (id : Int) (video : Bool) (params : CameraParameters) :
    Edited qcomHardware laterKeys params (fixFront qcomHardware id
      (translateHdr qcomHardware video (enableBack qcomHardware id params))) :=
  ((edited_enableBack id params).trans (edited_translateHdr video _)).trans (edited_fixFront id _)

def setKeys : List String8 := [KEY_DIS, KEY_ZSL] ++ laterKeys

theorem edited_fixupSet (id : Int) (was : Bool) (params : CameraParameters) :
    Edited qcomHardware setKeys params (fixupSet qcomHardware id was params) :=
  (edited_forceZsl _ params).trans (edited_later id _ _)

/-! What is left to do for a second pass of `camera_fixup_getparams`: nothing. -/

theorem strstr_append (needle s : String8) : strstr (needle ++ s) needle = true := by
  cases h : needle ++ s with
  | nil =>
    obtain ⟨rfl, -⟩ := List.append_eq_nil_iff.mp h
    rfl
  | cons c t =>
    rw [strstr, ← h, List.isPrefixOf_iff_prefix.mpr (List.prefix_append needle s), Bool.true_or]

theorem get_hideVenus (params : CameraParameters) : ∃ preview_fmt,
    (hideVenus qcomHardware params).get KEY_PREVIEW_FORMAT = some preview_fmt ∧
      preview_fmt ≠ PIXEL_FORMAT_NV12_VENUS := by
  have hset := @get_set_self qcomHardware params KEY_PREVIEW_FORMAT PIXEL_FORMAT_YUV420SP
    (by decide) (by decide)
  unfold hideVenus
  cases hfmt : params.get KEY_PREVIEW_FORMAT with
  | none => exact ⟨_, hset, by decide⟩
  | some preview_fmt =>
    simp only
    split_ifs with hvenus
    · exact ⟨_, hset, by decide⟩
    · exact ⟨preview_fmt, hfmt, hvenus⟩

theorem hideVenus_of_get {preview_fmt : String8}
    (h : params.get KEY_PREVIEW_FORMAT = some preview_fmt)
    (hne : preview_fmt ≠ PIXEL_FORMAT_NV12_VENUS) : hideVenus qcomHardware params = params := by
  simp only [hideVenus, h]
  exact if_neg hne

/-- The list of HFR values offers `off`, or it holds a separator. -/
def HfrDone (params : CameraParameters) : Prop :=
  ∀ v, params.get KEY_VIDEO_HFR_VALUES = some v →
    strstr v OFF = true ∨ ¬Accepted KEY_VIDEO_HFR_VALUES (OFF ++ ',' :: v)

theorem hfrDone_allowHfrOff (params : CameraParameters) :
    HfrDone (allowHfrOff qcomHardware params) := by
  unfold allowHfrOff
  cases hv : params.get KEY_VIDEO_HFR_VALUES with
  | none =>
    intro v hv'
    rw [hv] at hv'
    cases hv'
  | some v =>
    simp only
    split_ifs with hoff
    · intro v' hv'
      rw [hv] at hv'
      cases hv'
      exact Or.inl hoff
    · by_cases hacc : Accepted KEY_VIDEO_HFR_VALUES (OFF ++ ',' :: v)
      · intro v' hv'
        rw [get_set_self hacc (by simp)] at hv'
        cases hv'
        exact Or.inl (strstr_append OFF _)
      · rw [set_refused hacc]
        intro v' hv'
        rw [hv] at hv'
        cases hv'
        exact Or.inr hacc

theorem allowHfrOff_of_done (h : HfrDone params) : allowHfrOff qcomHardware params = params := by
  unfold allowHfrOff
  split
  · rfl
  · rename_i v hv
    split_ifs with hoff
    · rfl
    · exact set_refused ((h v hv).resolve_left hoff)

theorem enforceSnapshot_of_settled
    (h : video = true → Settled qcomHardware params KEY_VIDEO_SNAPSHOT_SUPPORTED TRUE) :
    enforceSnapshot qcomHardware video params = params := by
  unfold enforceSnapshot
  split_ifs with hv
  · exact h hv
  · rfl

theorem advertiseHdr_of_settled (h : ∀ v, params.get KEY_SUPPORTED_RT_HDR = some v →
      Settled qcomHardware params KEY_QC_VIDEO_HDR_VALUES v) :
    advertiseHdr qcomHardware params = params := by
  unfold advertiseHdr
  split
  · rfl
  · exact h _ ‹_›

theorem settled_advertiseHdr (params : CameraParameters) (v : String8)
    (hv : (advertiseHdr qcomHardware params).get KEY_SUPPORTED_RT_HDR = some v) :
    Settled qcomHardware (advertiseHdr qcomHardware params) KEY_QC_VIDEO_HDR_VALUES v := by
  rw [(edited_advertiseHdr params).get_eq (by decide) (by decide)] at hv
  simp only [advertiseHdr, hv]
  exact settled_set (by decide)

theorem settled_snapshot (params : CameraParameters) :
    Settled qcomHardware (advertiseHdr qcomHardware (enforceSnapshot qcomHardware true params))
      KEY_VIDEO_SNAPSHOT_SUPPORTED TRUE := by
  have hset : Settled qcomHardware (enforceSnapshot qcomHardware true params)
      KEY_VIDEO_SNAPSHOT_SUPPORTED TRUE :=
    @settled_set qcomHardware params KEY_VIDEO_SNAPSHOT_SUPPORTED TRUE (by decide)
  exact (edited_advertiseHdr _).settled hset (by decide) (by decide) (by decide)

theorem isVideo_fixupGet (params : CameraParameters) :
    isVideo (fixupGet qcomHardware params) = isVideo params := by
  unfold isVideo
  rw [(edited_fixupGet params).get_eq (by decide) (by decide)]

/-- A second pass finds nothing to do. -/
theorem fixupGet_idempotent (params : CameraParameters) :
    fixupGet qcomHardware (fixupGet qcomHardware params) = fixupGet qcomHardware params := by
  have hformat : hideVenus qcomHardware (fixupGet qcomHardware params) =
      fixupGet qcomHardware params := by
    obtain ⟨preview_fmt, hget, hne⟩ := @get_hideVenus qcomHardware params
    apply hideVenus_of_get _ hne
    rw [← hget]
    exact (((edited_allowHfrOff _).trans (edited_enforceSnapshot _ _)).trans
      (edited_advertiseHdr _)).get_eq (by decide) (by decide)
  have hhfr : HfrDone (fixupGet qcomHardware params) := by
    intro v hv
    apply @hfrDone_allowHfrOff qcomHardware (hideVenus qcomHardware params) v
    rw [← hv]
    exact (((edited_enforceSnapshot _ _).trans (edited_advertiseHdr _)).get_eq (by decide)
      (by decide)).symm
  have hsnapshot : enforceSnapshot qcomHardware (isVideo params) (fixupGet qcomHardware params) =
      fixupGet qcomHardware params := by
    apply enforceSnapshot_of_settled
    intro hvideo
    unfold fixupGet
    rw [hvideo]
    exact settled_snapshot _
  have hhdr : advertiseHdr qcomHardware (fixupGet qcomHardware params) =
      fixupGet qcomHardware params :=
    advertiseHdr_of_settled fun v hv => settled_advertiseHdr _ v hv
  conv_lhs => rw [fixupGet]
  rw [hformat, allowHfrOff_of_done hhfr, isVideo_fixupGet, hsnapshot, hhdr]

/-! The strings that are passed on. -/

/-- The map that a string denotes. -/
def denotes (settings : String8) : CameraParameters := empty.unflatten settings

theorem get_flashMode_fixupSet (id : Int) (was : Bool) (params : CameraParameters) :
    (fixupSet qcomHardware id was params).get KEY_FLASH_MODE = params.get KEY_FLASH_MODE :=
  (edited_fixupSet id was params).get_eq (by decide) (by decide)

/-- What is set into a map that was read from a string can be read back. -/
theorem denotes_getparams (id : Int) (settings : String8) :
    denotes (camera_fixup_getparams qcomHardware id settings) =
      fixupGet qcomHardware (denotes settings) := by
  apply unflatten_flatten_of_separable
  exact (edited_fixupGet _).separable (separable_unflatten empty settings)

theorem denotes_setparams (id : Int) (stored : Option String8) (settings : String8) :
    denotes (camera_fixup_setparams qcomHardware id stored settings) =
      fixupSet qcomHardware id (wasTorch stored) (denotes settings) := by
  apply unflatten_flatten_of_separable
  exact (edited_fixupSet id _ _).separable (separable_unflatten empty settings)

/-- The flash mode that `fixed_set_params[id]` was left with. -/
def flashMode (stored : Option String8) : Option String8 :=
  stored.bind fun fixed => (denotes fixed).get KEY_FLASH_MODE

theorem wasTorch_eq (stored : Option String8) :
    wasTorch stored = decide (flashMode stored = some FLASH_MODE_TORCH) := by
  cases stored with
  | none => rfl
  | some fixed => rfl

theorem flashMode_setparams (id : Int) (stored : Option String8) (settings : String8) :
    flashMode (some (camera_fixup_setparams qcomHardware id stored settings)) =
      flashMode (some settings) := by
  simp only [flashMode, Option.bind_some]
  rw [denotes_setparams]
  exact get_flashMode_fixupSet id _ _

/-- The keys that the strings `s` and `s'` may differ in, where `QCOM_HARDWARE` adds one. -/
def DiffersAtMost (qcomHardware : Bool) (keys : List String8) (s s' : String8) : Prop :=
  ∀ key, key ∉ keys → (qcomHardware = true → key ≠ KEY_HDR_NEED_1X) →
    (denotes s').lookup key = (denotes s).lookup key

/-- `camera_fixup_getparams` is idempotent; `camera_fixup_setparams` does the same twice in a row
unless the flash mode of the call before differs; and both leave the other keys alone. -/
theorem fixups_idempotent_framed (qcomHardware : Bool) (id : Int) (s : String8) :
    denotes (camera_fixup_getparams qcomHardware id (camera_fixup_getparams qcomHardware id s)) =
        denotes (camera_fixup_getparams qcomHardware id s) ∧
      DiffersAtMost qcomHardware getKeys s (camera_fixup_getparams qcomHardware id s) ∧
      ∀ stored,
        DiffersAtMost qcomHardware setKeys s (camera_fixup_setparams qcomHardware id stored s) ∧
        (flashMode (some (camera_fixup_setparams qcomHardware id stored s)) = flashMode stored →
          denotes (camera_fixup_setparams qcomHardware id
              (some (camera_fixup_setparams qcomHardware id stored s)) s) =
            denotes (camera_fixup_setparams qcomHardware id stored s)) := by
  refine ⟨?_, ?_, fun stored => ⟨?_, ?_⟩⟩
  · rw [denotes_getparams, denotes_getparams, fixupGet_idempotent]
  · intro key hkey hq
    rw [denotes_getparams]
    exact (edited_fixupGet _).lookup_eq hkey hq
  · intro key hkey hq
    rw [denotes_setparams]
    exact (edited_fixupSet id _ _).lookup_eq hkey hq
  · intro hflash
    rw [denotes_setparams, denotes_setparams, wasTorch_eq, wasTorch_eq, hflash]

theorem fixups_idempotent_framed_video :
    let s : String8 := "recording-hint=true;video-hdr=on".toList
    let once := camera_fixup_setparams false BACK_CAMERA_ID (some s) s
    denotes (camera_fixup_setparams false BACK_CAMERA_ID (some once) s) = denotes once :=
  ((fixups_idempotent_framed false BACK_CAMERA_ID _).2.2 (some _)).2 (flashMode_setparams _ _ _)

end CameraWrapper
