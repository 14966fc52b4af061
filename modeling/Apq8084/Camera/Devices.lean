import Apq8084.Camera.Fixups
import Apq8084.Lib.Decimal
import Apq8084.Lib.Machine
import Mathlib.Logic.Function.Basic

/-! `camera_device_open`, and the ids by which the calls on an open device index
`fixed_set_params`. -/
namespace CameraWrapper

open Decimal

def EINVAL : Int32 := 22
def ENOMEM : Int32 := 12

/-- A `wrapper_camera_device`, which has a vendor's device of its own. -/
structure Device where
  id : Int32

/-- What is left in `*device`. -/
inductive DevicePtr where
  | untouched
  | null
  | opened (handle : Nat)

inductive Event where
  /-- `fixed_set_params[id]` is used. -/
  | indexed (id num_cameras : Int32)
  /-- `camera_device_open` returns, with the vendor's open devices before and after it. -/
  | returned (rv : Int32) (device : DevicePtr) (before after : Nat)

structure Wrapper where
  gVendorModule : Bool
  num_cameras : Int32
  fixed_set_params : Option (Int32 → Option String8)
  devices : Nat → Option Device
  /-- The handle of the next device. -/
  next : Nat
  vendorDevices : Nat
  log : List Event

def Wrapper.initial : Wrapper :=
  { gVendorModule := false, num_cameras := 0, fixed_set_params := none, devices := fun _ => none
    next := 0, vendorDevices := 0, log := [] }

/-- What the calls made by one `camera_device_open` return; an allocation may fail. -/
structure Outcome where
  hw_get_module_by_class : Int32
  callocTable : Bool
  callocDevice : Bool
  vendorOpen : Int32
  callocOps : Bool

def atoi (abi : Abi) (name : String8) : Int32 := Int32.ofInt (strtol abi name).1

def check_vendor_module (s : Wrapper) (rv : Int32) : Int32 × Wrapper :=
  if s.gVendorModule then (0, s) else (rv, { s with gVendorModule := decide (rv = 0) })

/-- `cameras` is what the vendor's `get_number_of_cameras` returns. -/
def countCameras (cameras : Int32) (s : Wrapper) : Wrapper :=
  if s.num_cameras = 0 then { s with num_cameras := cameras } else s

def prepareTable (calloc : Bool) (s : Wrapper) : Wrapper :=
  if s.fixed_set_params.isNone ∧ calloc then { s with fixed_set_params := some fun _ => none }
  else s

/-- `camera_device_open` from the check of the table on. -/
def openCamera (s : Wrapper) (camera_id : Int32) (o : Outcome) : Wrapper × Int32 × DevicePtr :=
  if s.fixed_set_params.isNone then (s, -ENOMEM, .null)
  else if camera_id < 0 ∨ s.num_cameras < camera_id then (s, -EINVAL, .null)
  else if o.callocDevice = false then (s, -ENOMEM, .null)
  else if o.vendorOpen ≠ 0 then (s, o.vendorOpen, .null)
  else
    let s := { s with vendorDevices := s.vendorDevices + 1 }
    -- the label `fail` frees the wrapper's memory and closes nothing
    if o.callocOps = false then (s, -ENOMEM, .null)
    else
      ({ s with
          devices := Function.update s.devices s.next (some ⟨camera_id⟩), next := s.next + 1 },
        0, .opened s.next)

def camera_device_open (abi : Abi) (cameras : Int32) (s : Wrapper) (name : Option String8)
    (o : Outcome) : Wrapper × Int32 × DevicePtr :=
  match name with
  | none => (s, 0, .untouched)
  | some name =>
    let (rv, s) := check_vendor_module s o.hw_get_module_by_class
    if rv ≠ 0 then (s, -EINVAL, .untouched)
    else openCamera (prepareTable o.callocTable (countCameras cameras s)) (atoi abi name) o

def camera_get_number_of_cameras (cameras : Int32) (s : Wrapper) (rv : Int32) : Wrapper :=
  if s.num_cameras = 0 then
    let (rv, s) := check_vendor_module s rv
    if rv = 0 then { s with num_cameras := cameras } else s
  else s

def camera_set_parameters (qcomHardware : Bool) (s : Wrapper) (device : Device) (params : String8) :
    Wrapper :=
  let stored := s.fixed_set_params.bind fun table => table device.id
  let fixed_params := camera_fixup_setparams qcomHardware device.id.toInt stored params
  { s with
    fixed_set_params := s.fixed_set_params.map fun table =>
      Function.update table device.id (some fixed_params)
    log := s.log ++ [.indexed device.id s.num_cameras] }

def camera_device_close (s : Wrapper) (handle : Nat) (device : Device) : Wrapper :=
  { s with
    fixed_set_params := s.fixed_set_params.map fun table => Function.update table device.id none
    devices := Function.update s.devices handle none
    vendorDevices := s.vendorDevices - 1
    log := s.log ++
      if s.fixed_set_params.isSome then [.indexed device.id s.num_cameras] else [] }

inductive Action where
  | camera_device_open (name : String8) (o : Outcome)
  | camera_get_number_of_cameras (rv : Int32)
  | camera_set_parameters (handle : Nat) (params : String8)
  | camera_device_close (handle : Nat)

/-- The calls on a device are made while it is open. -/
def Wrapper.step (qcomHardware : Bool) (abi : Abi) (cameras : Int32) (s : Wrapper) :
    Action → Option Wrapper
  | .camera_device_open name o =>
    let (t, rv, device) := CameraWrapper.camera_device_open abi cameras s (some name) o
    some { t with log := t.log ++ [.returned rv device s.vendorDevices t.vendorDevices] }
  | .camera_get_number_of_cameras rv =>
    some (CameraWrapper.camera_get_number_of_cameras cameras s rv)
  | .camera_set_parameters handle params =>
    (s.devices handle).map fun device =>
      CameraWrapper.camera_set_parameters qcomHardware s device params
  | .camera_device_close handle =>
    (s.devices handle).map fun device => CameraWrapper.camera_device_close s handle device

/-! ### What is asked -/

/-- The index is in range; an open without a device returns an error, and leaves a null pointer
and nothing open. -/
def Event.Fine : Event → Prop
  | .indexed id num_cameras => 0 ≤ id ∧ id < num_cameras
  | .returned rv device before after =>
    (∀ handle, device ≠ .opened handle) → rv ≠ 0 ∧ device = .null ∧ after = before

/-- The vendor's module is there. -/
def Found (s : Wrapper) (o : Outcome) : Prop :=
  s.gVendorModule = true ∨ o.hw_get_module_by_class = 0

/-- Nothing fails until the vendor has opened its device. -/
def VendorOpens (abi : Abi) (cameras : Int32) (s : Wrapper) (name : String8) (o : Outcome) : Prop :=
  (s.fixed_set_params.isSome = true ∨ o.callocTable = true) ∧
    (0 ≤ atoi abi name ∧ atoi abi name ≤ cameras) ∧ o.callocDevice = true ∧ o.vendorOpen = 0

/-- The module is found, memory does not run out behind the vendor's open, and no device is used
whose name is the number of cameras. -/
def Action.Harmless (abi : Abi) (cameras : Int32) (s : Wrapper) : Action → Prop
  | .camera_device_open name o =>
    Found s o ∧ (VendorOpens abi cameras s name o → o.callocOps = true)
  | .camera_get_number_of_cameras _ => True
  | .camera_set_parameters handle _ =>
    ∀ device, s.devices handle = some device → device.id ≠ cameras
  | .camera_device_close handle => ∀ device, s.devices handle = some device → device.id ≠ cameras

/-! ### One open -/

variable {qcomHardware : Bool} {abi : Abi} {cameras camera_id : Int32} {s t : Wrapper}
  {name : String8} {o : Outcome} {a : Action} {as : List Action}

theorem check_found (h : Found s o) : check_vendor_module s o.hw_get_module_by_class =
    (0, { s with gVendorModule := true }) := by
  unfold check_vendor_module
  split_ifs with hmodule
  · rw [← hmodule]
  · have hrv := h.resolve_left hmodule
    rw [hrv]
    rfl

theorem check_missing (h : ¬Found s o) : check_vendor_module s o.hw_get_module_by_class =
    (o.hw_get_module_by_class, { s with gVendorModule := false }) ∧
      o.hw_get_module_by_class ≠ 0 := by
  obtain ⟨hmodule, hrv⟩ := not_or.mp h
  refine ⟨?_, hrv⟩
  unfold check_vendor_module
  rw [if_neg hmodule, decide_eq_false hrv]

/-- The wrapper when the cameras are counted and the table is allocated, if it could be. -/
def prepared (cameras : Int32) (s : Wrapper) (o : Outcome) : Wrapper :=
  prepareTable o.callocTable (countCameras cameras { s with gVendorModule := true })

theorem open_found (h : Found s o) : camera_device_open abi cameras s (some name) o =
    openCamera (prepared cameras s o) (atoi abi name) o := by
  simp only [camera_device_open, check_found h]
  exact if_neg (not_not.mpr rfl)

theorem open_missing (h : ¬Found s o) : camera_device_open abi cameras s (some name) o =
    ({ s with gVendorModule := false }, -EINVAL, .untouched) := by
  obtain ⟨hcheck, hrv⟩ := check_missing h
  simp only [camera_device_open, hcheck]
  exact if_pos hrv

theorem prepared_eq (cameras : Int32) (s : Wrapper) (o : Outcome) :
    ∃ num_cameras table, prepared cameras s o =
        { s with gVendorModule := true, num_cameras := num_cameras, fixed_set_params := table } ∧
      num_cameras = (if s.num_cameras = 0 then cameras else s.num_cameras) ∧
      table.isSome = (s.fixed_set_params.isSome || o.callocTable) := by
  unfold prepared prepareTable countCameras
  refine ⟨_, if s.fixed_set_params.isNone ∧ o.callocTable then some fun _ => none
    else s.fixed_set_params, ?_, rfl, ?_⟩
  · split_ifs <;> rfl
  · cases s.fixed_set_params with
    | none => cases o.callocTable <;> rfl
    | some table => rfl

/-- The state of the calls on the vendor's side: nothing fails until the vendor has opened. -/
def Opens (s : Wrapper) (camera_id : Int32) (o : Outcome) : Prop :=
  s.fixed_set_params.isSome = true ∧ (0 ≤ camera_id ∧ camera_id ≤ s.num_cameras) ∧
    o.callocDevice = true ∧ o.vendorOpen = 0

theorem openCamera_fails (h : ¬Opens s camera_id o) :
    ∃ rv, rv ≠ 0 ∧ openCamera s camera_id o = (s, rv, .null) := by
  unfold openCamera
  split_ifs with htable hrange hcalloc hvendor
  · exact ⟨-ENOMEM, by decide, rfl⟩
  · exact ⟨-EINVAL, by decide, rfl⟩
  · exact ⟨-ENOMEM, by decide, rfl⟩
  · exact ⟨o.vendorOpen, hvendor, rfl⟩
  all_goals
    rw [not_or, Int32.not_lt, Int32.not_lt] at hrange
    rw [Option.isNone_iff_eq_none, ← Ne, Option.ne_none_iff_isSome] at htable
    exact absurd ⟨htable, hrange, (Bool.not_eq_false _).mp hcalloc, not_not.mp hvendor⟩ h

theorem openCamera_of_opens (h : Opens s camera_id o) : openCamera s camera_id o =
    if o.callocOps = false then
      ({ s with vendorDevices := s.vendorDevices + 1 }, -ENOMEM, .null)
    else ({ s with
      vendorDevices := s.vendorDevices + 1
      devices := Function.update s.devices s.next (some ⟨camera_id⟩)
      next := s.next + 1 }, 0, .opened s.next) := by
  obtain ⟨htable, hrange, hcalloc, hvendor⟩ := h
  unfold openCamera
  rw [if_neg, if_neg, if_neg, if_neg (not_not.mpr hvendor)]
  · rw [hcalloc]
    exact Bool.noConfusion
  · rw [not_or, Int32.not_lt, Int32.not_lt]
    exact hrange
  · rw [Option.isNone_iff_eq_none, ← Ne, Option.ne_none_iff_isSome]
    exact htable

/-! ### What every run keeps -/

/-- The cameras are counted when a device is open, its id was let through by the test, and the
table is there. -/
structure Sound (cameras : Int32) (s : Wrapper) : Prop where
  count : s.num_cameras = 0 ∨ s.num_cameras = cameras
  device : ∀ handle device, s.devices handle = some device →
    (0 ≤ device.id ∧ device.id ≤ cameras) ∧ s.num_cameras = cameras ∧
      s.fixed_set_params.isSome = true

theorem sound_initial : Sound cameras Wrapper.initial where
  count := Or.inl rfl
  device _ _ h := by cases h

theorem num_cameras_prepared (hs : Sound cameras s) :
    (prepared cameras s o).num_cameras = cameras := by
  obtain ⟨num_cameras, table, heq, hnum, -⟩ := prepared_eq cameras s o
  rw [heq]
  simp only
  rw [hnum]
  split_ifs with h
  · rfl
  · exact hs.count.resolve_left h

theorem opens_prepared (hs : Sound cameras s) :
    Opens (prepared cameras s o) (atoi abi name) o ↔ VendorOpens abi cameras s name o := by
  have hnum := @num_cameras_prepared cameras s o hs
  obtain ⟨num_cameras, table, heq, -, htable⟩ := prepared_eq cameras s o
  unfold Opens VendorOpens
  rw [hnum, heq]
  simp only
  rw [htable, Bool.or_eq_true]

theorem sound_prepared (hs : Sound cameras s) : Sound cameras (prepared cameras s o) := by
  refine ⟨Or.inr (num_cameras_prepared hs), fun handle device h => ?_⟩
  have hnum := @num_cameras_prepared cameras s o hs
  obtain ⟨num_cameras, table, heq, -, htable⟩ := prepared_eq cameras s o
  rw [heq] at h hnum ⊢
  obtain ⟨hrange, -, hsome⟩ := hs.device handle device h
  refine ⟨hrange, hnum, ?_⟩
  simp only
  rw [htable, hsome]
  rfl

/-- What an action adds to the log is as it should be exactly when the action is harmless. -/
def Adds (cameras : Int32) (s t : Wrapper) (harmless : Prop) : Prop :=
  Sound cameras t ∧ ∃ es, t.log = s.log ++ es ∧ ((∀ e ∈ es, e.Fine) ↔ harmless)

theorem fine_singleton {e : Event} : (∀ e' ∈ [e], e'.Fine) ↔ e.Fine := List.forall_mem_singleton

theorem adds_open (hs : Sound cameras s)
    (h : s.step qcomHardware abi cameras (.camera_device_open name o) = some t) :
    Adds cameras s t ((Action.camera_device_open name o).Harmless abi cameras s) := by
  simp only [Wrapper.step, Option.some.injEq] at h
  by_cases hfound : Found s o
  · rw [open_found hfound] at h
    have hsound := @sound_prepared cameras s o hs
    obtain ⟨num_cameras, table, heq, -⟩ := prepared_eq cameras s o
    have hlog : (prepared cameras s o).log = s.log := by rw [heq]
    have hvendor : (prepared cameras s o).vendorDevices = s.vendorDevices := by rw [heq]
    by_cases hopens : Opens (prepared cameras s o) (atoi abi name) o
    · rw [openCamera_of_opens hopens] at h
      have hvendorOpens := (opens_prepared hs).mp hopens
      cases hops : o.callocOps with
      | false =>
        -- the vendor's device stays open
        rw [hops, if_pos rfl] at h
        subst h
        refine ⟨⟨hsound.count, hsound.device⟩, _, congrArg (· ++ _) hlog, ?_⟩
        rw [fine_singleton]
        refine iff_of_false (fun hfine => ?_) fun hok => ?_
        · obtain ⟨-, -, hafter⟩ := hfine fun handle => DevicePtr.noConfusion
          rw [hvendor] at hafter
          exact Nat.succ_ne_self _ hafter
        · exact Bool.noConfusion (hops.symm.trans (hok.2 hvendorOpens))
      | true =>
        rw [hops, if_neg Bool.noConfusion] at h
        subst h
        refine ⟨⟨hsound.count, fun handle device hdevice => ?_⟩, _, congrArg (· ++ _) hlog, ?_⟩
        · simp only at hdevice ⊢
          by_cases hhandle : handle = (prepared cameras s o).next
          · rw [hhandle, Function.update_self] at hdevice
            cases hdevice
            exact ⟨hvendorOpens.2.1, num_cameras_prepared hs, hopens.1⟩
          · rw [Function.update_of_ne hhandle] at hdevice
            exact hsound.device handle device hdevice
        · rw [fine_singleton]
          exact iff_of_true (fun hno => absurd rfl (hno _)) ⟨hfound, fun _ => hops⟩
    · obtain ⟨rv, hrv, hfails⟩ := openCamera_fails hopens
      rw [hfails] at h
      subst h
      refine ⟨⟨hsound.count, hsound.device⟩, _, congrArg (· ++ _) hlog, ?_⟩
      rw [fine_singleton]
      refine iff_of_true (fun _ => ⟨hrv, rfl, hvendor⟩) ⟨hfound, fun hvendorOpens => ?_⟩
      exact absurd ((opens_prepared hs).mpr hvendorOpens) hopens
  · rw [open_missing hfound] at h
    subst h
    refine ⟨⟨hs.count, hs.device⟩, _, rfl, ?_⟩
    rw [fine_singleton]
    refine iff_of_false (fun hfine => ?_) fun hok => hfound hok.1
    exact DevicePtr.noConfusion (hfine fun handle => DevicePtr.noConfusion).2.1

/-- An id that the test has let through is in range unless it is the number of cameras. -/
theorem indexed_fine {device : Device} (hs : Sound cameras s) {handle : Nat}
    (hdevice : s.devices handle = some device) :
    (Event.indexed device.id s.num_cameras).Fine ↔
      ∀ device', s.devices handle = some device' → device'.id ≠ cameras := by
  obtain ⟨⟨hlo, hhi⟩, hnum, -⟩ := hs.device handle device hdevice
  rw [hnum]
  constructor
  · rintro ⟨-, hlt⟩ device' hdevice' rfl
    rw [hdevice] at hdevice'
    cases hdevice'
    exact Int32.lt_irrefl hlt
  · exact fun hne => ⟨hlo, Int32.lt_of_le_of_ne hhi (hne device hdevice)⟩

theorem adds_set {handle : Nat} {params : String8} (hs : Sound cameras s)
    (h : s.step qcomHardware abi cameras (.camera_set_parameters handle params) = some t) :
    Adds cameras s t ((Action.camera_set_parameters handle params).Harmless abi cameras s) := by
  obtain ⟨device, hdevice, rfl⟩ := Option.map_eq_some_iff.mp h
  refine ⟨⟨hs.count, fun handle' device' hdevice' => ?_⟩, _, rfl, ?_⟩
  · obtain ⟨hrange, hnum, htable⟩ := hs.device handle' device' hdevice'
    refine ⟨hrange, hnum, ?_⟩
    simp only [camera_set_parameters, Option.isSome_map]
    exact htable
  · rw [fine_singleton]
    exact indexed_fine hs hdevice

theorem adds_close {handle : Nat} (hs : Sound cameras s)
    (h : s.step qcomHardware abi cameras (.camera_device_close handle) = some t) :
    Adds cameras s t ((Action.camera_device_close handle).Harmless abi cameras s) := by
  obtain ⟨device, hdevice, rfl⟩ := Option.map_eq_some_iff.mp h
  have htable := (hs.device handle device hdevice).2.2
  refine ⟨⟨hs.count, fun handle' device' hdevice' => ?_⟩, _, rfl, ?_⟩
  · simp only [camera_device_close, Option.isSome_map] at hdevice' ⊢
    by_cases hhandle : handle' = handle
    · rw [hhandle, Function.update_self] at hdevice'
      cases hdevice'
    · rw [Function.update_of_ne hhandle] at hdevice'
      exact hs.device handle' device' hdevice'
  · rw [if_pos htable, fine_singleton]
    exact indexed_fine hs hdevice

theorem sound_counted (hs : Sound cameras s) (found : Bool) :
    Sound cameras { s with gVendorModule := found, num_cameras := cameras } where
  count := Or.inr rfl
  device handle device hdevice :=
    ⟨(hs.device handle device hdevice).1, rfl, (hs.device handle device hdevice).2.2⟩

theorem adds_get_number {rv : Int32} (hs : Sound cameras s) :
    Adds cameras s (camera_get_number_of_cameras cameras s rv) True := by
  have hnothing : ∀ u : Wrapper, Sound cameras u → u.log = s.log → Adds cameras s u True :=
    fun u hu hlog => ⟨hu, [], hlog.trans (List.append_nil _).symm,
      iff_of_true (List.forall_mem_nil _) trivial⟩
  unfold camera_get_number_of_cameras check_vendor_module
  split_ifs
  · exact hnothing _ (sound_counted hs s.gVendorModule) rfl
  · simp only
    split_ifs with hrv
    · exact hnothing _ (sound_counted hs _) rfl
    · exact hnothing _ ⟨hs.count, hs.device⟩ rfl
  · exact hnothing s hs rfl

theorem adds_step (hs : Sound cameras s) (h : s.step qcomHardware abi cameras a = some t) :
    Adds cameras s t (a.Harmless abi cameras s) := by
  cases a with
  | camera_device_open name o => exact adds_open hs h
  | camera_get_number_of_cameras rv =>
    cases h
    exact adds_get_number hs
  | camera_set_parameters handle params => exact adds_set hs h
  | camera_device_close handle => exact adds_close hs h

/-- In every state of a run all indices were in range and all failed opens clean exactly when the
run is harmless. -/
theorem devices_in_range
    (h : Machine.run (Wrapper.step qcomHardware abi cameras) Wrapper.initial as = some t) :
    Machine.Along (Wrapper.step qcomHardware abi cameras) (Action.Harmless abi cameras)
        Wrapper.initial as ↔
      ∀ bs u, bs <+: as →
        Machine.run (Wrapper.step qcomHardware abi cameras) Wrapper.initial bs = some u →
        ∀ e ∈ u.log, e.Fine := by
  have hp : ∀ s a t, (Sound cameras s ∧ ∀ e ∈ s.log, e.Fine) → Action.Harmless abi cameras s a →
      s.step qcomHardware abi cameras a = some t → Sound cameras t ∧ ∀ e ∈ t.log, e.Fine := by
    rintro s a t ⟨hs, hfine⟩ hok hstep
    obtain ⟨ht, es, hlog, hes⟩ := adds_step hs hstep
    refine ⟨ht, fun e he => ?_⟩
    rw [hlog] at he
    rcases List.mem_append.mp he with he | he
    · exact hfine e he
    · exact hes.mpr hok e he
  have hbad : ∀ s a t, (Sound cameras s ∧ ∀ e ∈ s.log, e.Fine) →
      ¬Action.Harmless abi cameras s a → s.step qcomHardware abi cameras a = some t →
      ¬∀ e ∈ t.log, e.Fine := by
    rintro s a t ⟨hs, -⟩ hno hstep hfine
    obtain ⟨-, es, hlog, hes⟩ := adds_step hs hstep
    refine hno (hes.mp fun e he => hfine e ?_)
    rw [hlog]
    exact List.mem_append_right s.log he
  exact Machine.along_iff_forall_prefix hp (fun _ hs => hs.2) hbad h
    ⟨sound_initial, List.forall_mem_nil _⟩

/-- Nothing fails. -/
def smooth : Outcome :=
  { hw_get_module_by_class := 0, callocTable := true, callocDevice := true, vendorOpen := 0
    callocOps := true }

def oneSession : List Action :=
  [.camera_device_open "0".toList smooth, .camera_set_parameters 0 "zsl=on".toList,
    .camera_device_close 0]

theorem devices_in_range_oneSession :
    ∃ t, Machine.run (Wrapper.step false .ilp32 2) Wrapper.initial oneSession = some t ∧
      ∀ bs u, bs <+: oneSession →
        Machine.run (Wrapper.step false .ilp32 2) Wrapper.initial bs = some u →
        ∀ e ∈ u.log, e.Fine := by
  refine ⟨_, rfl, (devices_in_range rfl).mp ?_⟩
  refine Machine.along_cons rfl ⟨Or.inr rfl, fun _ => rfl⟩ ?_
  refine Machine.along_cons rfl (fun device hdevice => ?_) ?_
  · cases hdevice
    decide
  · refine Machine.along_cons rfl (fun device hdevice => ?_) trivial
    cases hdevice
    decide

/-- The vendor's module is missing, then memory runs out behind the vendor's open, and then the
second of one camera is opened and closed. -/
def mishaps : List Action :=
  [.camera_device_open "0".toList { smooth with hw_get_module_by_class := -2 },
    .camera_device_open "0".toList { smooth with callocOps := false },
    .camera_device_open "1".toList smooth, .camera_device_close 0]

theorem mishaps_not_fine :
    ∃ t, Machine.run (Wrapper.step false .ilp32 1) Wrapper.initial mishaps = some t ∧
      t.log = [.returned (-EINVAL) .untouched 0 0, .returned (-ENOMEM) .null 0 1,
        .returned 0 (.opened 0) 1 2, .indexed 1 1] ∧
      ¬(Event.returned (-EINVAL) .untouched 0 0).Fine ∧
      ¬(Event.returned (-ENOMEM) .null 0 1).Fine ∧ ¬(Event.indexed 1 1).Fine := by
  refine ⟨_, rfl, rfl, fun hfine => ?_, fun hfine => ?_, fun hfine => ?_⟩
  · exact DevicePtr.noConfusion (hfine fun handle => DevicePtr.noConfusion).2.1
  · exact absurd (hfine fun handle => DevicePtr.noConfusion).2.2 (by decide)
  · exact Int32.lt_irrefl hfine.2

end CameraWrapper
