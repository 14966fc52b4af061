import Mathlib.Logic.Function.Basic
import Mathlib.Data.List.Nodup
import Mathlib.Tactic.Common

/-! Global and local sensor handles of the multi-HAL and the routing of calls to sub-HAL
devices (`sensors/multihal.cpp`). -/
namespace Apq8084.Sensors.MultiHal

def SENSOR_TYPE_META_DATA : Int := 0
def SENSOR_TYPE_PROXIMITY : Int := 8
def SENSOR_TYPE_TILT_DETECTOR : Int := 22
def SENSOR_FLAG_WAKE_UP : Nat := 1
def SENSOR_FLAG_ON_CHANGE_MODE : Nat := 2

/-- The fields of `sensor_t` that the multi-HAL reads or rewrites. -/
structure Sensor where
  handle : Int
  type : Int
  maxRange : Rat
  fifoReservedEventCount : Nat
  fifoMaxEventCount : Nat
  flags : Nat
deriving DecidableEq

/-- One entry of `sub_hw_modules`: what it lists, and whether its `open` returns 0. -/
structure SubModule where
  sensors : List Sensor
  opens : Bool

/-- The device pointer that `open` of the module at this index stored. -/
structure Device where
  openedFrom : Nat
deriving DecidableEq

structure FullHandle where
  moduleIndex : Int
  localHandle : Int
deriving DecidableEq

/-- The two maps and the counter behind `assign_global_handle`. -/
structure Handles where
  globalToFull : Int → Option FullHandle
  fullToGlobal : FullHandle → Option Int
  nextGlobalHandle : Int

def Handles.initial : Handles :=
  { globalToFull := fun _ => none, fullToGlobal := fun _ => none, nextGlobalHandle := 1 }

def assignGlobalHandle (hs : Handles) (f : FullHandle) : Int × Handles :=
  let globalHandle := hs.nextGlobalHandle
  (globalHandle,
    { globalToFull := Function.update hs.globalToFull globalHandle (some f)
      fullToGlobal := Function.update hs.fullToGlobal f (some globalHandle)
      nextGlobalHandle := hs.nextGlobalHandle + 1 })

/-- The local handle, or -1 if the global handle is unknown. -/
def getLocalHandle (hs : Handles) (globalHandle : Int) : Int :=
  match hs.globalToFull globalHandle with
  | none => -1
  | some f => f.localHandle

/-- The `sub_hw_modules` index, or -1 if the global handle is unknown. -/
def getModuleIndex (hs : Handles) (globalHandle : Int) : Int :=
  match hs.globalToFull globalHandle with
  | none => -1
  | some f => f.moduleIndex

/-- The global handle, or -1 if the full handle is unknown. -/
def getGlobalHandle (hs : Handles) (f : FullHandle) : Int :=
  match hs.fullToGlobal f with
  | none => -1
  | some globalHandle => globalHandle

def fixSensorFields (sensor : Sensor) : Sensor :=
  let sensor := { sensor with fifoReservedEventCount := 0, fifoMaxEventCount := 0 }
  if sensor.type = SENSOR_TYPE_TILT_DETECTOR then
    { sensor with flags := SENSOR_FLAG_WAKE_UP ||| SENSOR_FLAG_ON_CHANGE_MODE }
  else if sensor.type = SENSOR_TYPE_PROXIMITY then
    { sensor with flags := SENSOR_FLAG_WAKE_UP ||| SENSOR_FLAG_ON_CHANGE_MODE, maxRange := 5 }
  else sensor

/-- The inner loop of `lazy_init_sensors_list`: the sensors of one module. -/
def initSensors (moduleIndex : Nat) : List Sensor → Handles → List Sensor × Handles
  | [], hs => ([], hs)
  | localSensor :: rest, hs =>
    let (globalHandle, hs) := assignGlobalHandle hs ⟨moduleIndex, localSensor.handle⟩
    let (sensors, hs) := initSensors moduleIndex rest hs
    (fixSensorFields { localSensor with handle := globalHandle } :: sensors, hs)

/-- The outer loop, over the modules from `moduleIndex` on. -/
def initModules : Nat → List SubModule → Handles → List Sensor × Handles
  | _, [], hs => ([], hs)
  | moduleIndex, m :: rest, hs =>
    let (sensors, hs) := initSensors moduleIndex m.sensors hs
    let (others, hs) := initModules (moduleIndex + 1) rest hs
    (sensors ++ others, hs)

/-- `global_sensors_list`, `NULL` before the first call, and the handle maps. -/
structure Global where
  globalSensorsList : Option (List Sensor)
  handles : Handles

def Global.initial : Global := { globalSensorsList := none, handles := .initial }

def lazyInitSensorsList (modules : List SubModule) (g : Global) : Global :=
  match g.globalSensorsList with
  | some _ => g
  | none =>
    let (sensors, hs) := initModules 0 modules g.handles
    { globalSensorsList := some sensors, handles := hs }

/-- What `get_sensors_list` reports. -/
def getSensorsList (modules : List SubModule) (g : Global) : List Sensor :=
  ((lazyInitSensorsList modules g).globalSensorsList).getD []

/-- The loop of `open_sensors`: a device is appended only if its module opens. -/
def openModules : Nat → List SubModule → List Device
  | _, [] => []
  | moduleIndex, m :: rest =>
    if m.opens then ⟨moduleIndex⟩ :: openModules (moduleIndex + 1) rest
    else openModules (moduleIndex + 1) rest

structure PollContext where
  handles : Handles
  subHwDevices : List Device

/-- The device after the sensors have been listed and `open_sensors` has run. -/
def openSensors (modules : List SubModule) : PollContext :=
  { handles := (lazyInitSensorsList modules .initial).handles
    subHwDevices := openModules 0 modules }

/-- Returns the device pointer, or `NULL` if the index is out of range. -/
def getV0DeviceByHandle (ctx : PollContext) (globalHandle : Int) : Option Device :=
  let subIndex := getModuleIndex ctx.handles globalHandle
  if subIndex < 0 ∨ subIndex ≥ ctx.subHwDevices.length then none
  else ctx.subHwDevices[subIndex.toNat]?

/-- A call of a sub-HAL device, with a handle that is local to its module. -/
inductive Call where
  | activate (localHandle enabled : Int)
  | setDelay (localHandle ns : Int)
deriving DecidableEq

inductive Outcome where
  /-- The call is forwarded and its result is returned. -/
  | forwarded (device : Device) (call : Call)
  /-- A function pointer is read through a `NULL` device. -/
  | nullDereference
  /-- An error code is returned and no device is called. -/
  | error (retval : Int)
deriving DecidableEq

/-- Both entry points call through the looked-up pointer without a test. -/
def forward (ctx : PollContext) (handle : Int) (call : Int → Call) : Outcome :=
  match getV0DeviceByHandle ctx handle with
  | none => .nullDereference
  | some v0 => .forwarded v0 (call (getLocalHandle ctx.handles handle))

def activate (ctx : PollContext) (handle enabled : Int) : Outcome :=
  forward ctx handle fun localHandle => .activate localHandle enabled

def setDelay (ctx : PollContext) (handle ns : Int) : Outcome :=
  forward ctx handle fun localHandle => .setDelay localHandle ns

/-- The fields of `sensors_event_t` that handle remapping reads or writes. -/
structure SensorsEvent where
  sensor : Int
  type : Int
  metaDataSensor : Int
deriving DecidableEq

def copyEventRemapHandle (hs : Handles) (src : SensorsEvent) (subIndex : Nat) : SensorsEvent :=
  if src.type = SENSOR_TYPE_META_DATA then
    { src with metaDataSensor := getGlobalHandle hs ⟨subIndex, src.metaDataSensor⟩ }
  else
    { src with sensor := getGlobalHandle hs ⟨subIndex, src.sensor⟩ }

/-- The handle an event is about: a meta-data event carries it in its payload. -/
def SensorsEvent.handle (e : SensorsEvent) : Int :=
  if e.type = SENSOR_TYPE_META_DATA then e.metaDataSensor else e.sensor

/-- The sensors of all modules in listing order, with the full handle of each. -/
def fullHandles : Nat → List SubModule → List FullHandle
  | _, [] => []
  | moduleIndex, m :: rest =>
    (m.sensors.map fun s => FullHandle.mk moduleIndex s.handle) ++
      fullHandles (moduleIndex + 1) rest

/-- `get_sensors_list` reports global handle `h` for the sensor that module `k` lists under its
local handle `l`: both stand at the same place of the two listings. -/
def Reported (modules : List SubModule) (k : Nat) (l h : Int) : Prop :=
  ∃ n : Nat, (fullHandles 0 modules)[n]? = some (FullHandle.mk k l) ∧
    ((getSensorsList modules .initial)[n]?).map Sensor.handle = some h

def Opened (modules : List SubModule) (k : Nat) : Prop :=
  (modules[k]?).map SubModule.opens = some true

/-- Local handles are unique within each module. -/
def UniqueHandles (modules : List SubModule) : Prop :=
  ∀ m ∈ modules, (m.sensors.map Sensor.handle).Nodup

/-- Every module up to `k` opened, so that device and module indices agree up to `k`. -/
def OpenedUpTo (modules : List SubModule) (k : Nat) : Prop := ∀ j ≤ k, Opened modules j

/-- The call with global handle `h` reaches the device opened from the module that owns `h`,
under the local handle; a handle without an opened owner gets an error and no call. -/
def RoutesTo (modules : List SubModule) (h : Int) (call : Int → Call) (o : Outcome) : Prop :=
  (∀ k l, Reported modules k l h → Opened modules k → o = .forwarded ⟨k⟩ (call l)) ∧
  ((∀ k l, Reported modules k l h → ¬ Opened modules k) → ∃ retval, o = .error retval)

/-! Handle assignment. -/

variable {hs : Handles} {f : FullHandle} {fs : List FullHandle} {k n : Nat}

/-- The handle assignments of `lazy_init_sensors_list`, one after the other. -/
def assignAll (fs : List FullHandle) (hs : Handles) : Handles :=
  fs.foldl (fun hs f => (assignGlobalHandle hs f).2) hs

@[simp] theorem assignAll_nil : assignAll [] hs = hs := rfl

@[simp] theorem assignAll_cons :
    assignAll (f :: fs) hs = assignAll fs (assignGlobalHandle hs f).2 := rfl

theorem assignAll_append {gs : List FullHandle} :
    assignAll (fs ++ gs) hs = assignAll gs (assignAll fs hs) := List.foldl_append

theorem assignAll_next :
    (assignAll fs hs).nextGlobalHandle = hs.nextGlobalHandle + fs.length := by
  induction fs generalizing hs with
  | nil => simp
  | cons f fs ih =>
    rw [assignAll_cons, ih]
    simp only [assignGlobalHandle, List.length_cons]
    omega

/-- A global handle outside the assigned range keeps its entry. -/
theorem assignAll_globalToFull_outside {x : Int}
    (hx : x < hs.nextGlobalHandle ∨ hs.nextGlobalHandle + fs.length ≤ x) :
    (assignAll fs hs).globalToFull x = hs.globalToFull x := by
  induction fs generalizing hs with
  | nil => rfl
  | cons f fs ih =>
    simp only [List.length_cons] at hx
    rw [assignAll_cons, ih]
    · exact Function.update_of_ne (by omega) _ _
    · simp only [assignGlobalHandle]
      omega

/-- The `n`-th assignment is found under the `n`-th handle. -/
theorem assignAll_globalToFull (hf : fs[n]? = some f) :
    (assignAll fs hs).globalToFull (hs.nextGlobalHandle + n) = some f := by
  induction fs generalizing hs n with
  | nil => simp at hf
  | cons g fs ih =>
    cases n with
    | zero =>
      have hg : g = f := by simpa using hf
      rw [assignAll_cons, assignAll_globalToFull_outside]
      · simp [assignGlobalHandle, hg]
      · simp only [assignGlobalHandle]
        omega
    | succ n =>
      have h : (assignAll fs (assignGlobalHandle hs g).2).globalToFull
          ((assignGlobalHandle hs g).2.nextGlobalHandle + n) = some f := ih (by simpa using hf)
      have hnext : hs.nextGlobalHandle + ((n + 1 : Nat) : Int) =
          (assignGlobalHandle hs g).2.nextGlobalHandle + n := by
        simp only [assignGlobalHandle]
        omega
      rw [assignAll_cons, hnext, h]

/-- A full handle that is not assigned keeps its entry. -/
theorem assignAll_fullToGlobal_outside (hf : f ∉ fs) :
    (assignAll fs hs).fullToGlobal f = hs.fullToGlobal f := by
  induction fs generalizing hs with
  | nil => rfl
  | cons g fs ih =>
    rw [List.mem_cons, not_or] at hf
    rw [assignAll_cons, ih hf.2]
    exact Function.update_of_ne hf.1 _ _

/-- Without repetitions the two maps are inverse to each other on the assigned range. -/
theorem assignAll_fullToGlobal (hd : fs.Nodup) (hf : fs[n]? = some f) :
    (assignAll fs hs).fullToGlobal f = some (hs.nextGlobalHandle + n) := by
  induction fs generalizing hs n with
  | nil => simp at hf
  | cons g fs ih =>
    rw [List.nodup_cons] at hd
    cases n with
    | zero =>
      have hg : g = f := by simpa using hf
      rw [assignAll_cons, assignAll_fullToGlobal_outside (hg ▸ hd.1)]
      simp [assignGlobalHandle, hg]
    | succ n =>
      rw [assignAll_cons, ih hd.2 (by simpa using hf)]
      simp only [assignGlobalHandle, Option.some.injEq]
      omega

/-- Consecutive handles from `start` on. -/
def numbered (start : Int) (n : Nat) : List Int := (List.range n).map fun i : Nat => start + i

theorem numbered_succ (start : Int) (n : Nat) :
    numbered start (n + 1) = start :: numbered (start + 1) n := by
  rw [numbered, List.range_succ_eq_map, List.map_cons, List.map_map]
  congr 1
  · simp
  · apply List.map_congr_left
    intro i _
    simp only [Function.comp_apply, Nat.succ_eq_add_one]
    omega

theorem numbered_add (start : Int) (m n : Nat) :
    numbered start (m + n) = numbered start m ++ numbered (start + m) n := by
  induction m generalizing start with
  | zero => simp [numbered]
  | succ m ih =>
    have hsum : m + 1 + n = (m + n) + 1 := by omega
    have hstart : start + ((m + 1 : Nat) : Int) = start + 1 + m := by omega
    rw [hsum, numbered_succ, numbered_succ, ih, hstart, List.cons_append]

theorem mem_numbered {start g : Int} : g ∈ numbered start n ↔ start ≤ g ∧ g < start + n := by
  unfold numbered
  constructor
  · intro h
    obtain ⟨i, hi, rfl⟩ := List.mem_map.mp h
    have := List.mem_range.mp hi
    omega
  · intro h
    refine List.mem_map.mpr ⟨(g - start).toNat, List.mem_range.mpr ?_, ?_⟩
    · omega
    · omega

/-- A known full handle has a handle that was assigned. -/
theorem assignAll_fullToGlobal_range {g : Int} (h : (assignAll fs hs).fullToGlobal f = some g) :
    hs.fullToGlobal f = some g ∨
      (hs.nextGlobalHandle ≤ g ∧ g < hs.nextGlobalHandle + fs.length) := by
  induction fs generalizing hs with
  | nil => exact Or.inl h
  | cons f' fs ih =>
    rw [assignAll_cons] at h
    rw [List.length_cons]
    rcases ih h with h | h
    · by_cases hf : f = f'
      · subst f'
        have hg : hs.nextGlobalHandle = g := by simpa [assignGlobalHandle] using h
        right
        omega
      · left
        rw [← h]
        exact (Function.update_of_ne hf _ _).symm
    · right
      simp only [assignGlobalHandle] at h
      omega

theorem fixSensorFields_handle (s : Sensor) : (fixSensorFields s).handle = s.handle := by
  simp only [fixSensorFields]
  split
  · rfl
  · split <;> rfl

theorem initSensors_eq (k : Nat) (hs : Handles) (ss : List Sensor) :
    (initSensors k ss hs).2 = assignAll (ss.map fun s => FullHandle.mk k s.handle) hs ∧
    (initSensors k ss hs).1.map Sensor.handle = numbered hs.nextGlobalHandle ss.length := by
  induction ss generalizing hs with
  | nil => exact ⟨rfl, rfl⟩
  | cons s ss ih =>
    obtain ⟨hmaps, hlist⟩ := ih (assignGlobalHandle hs ⟨k, s.handle⟩).2
    refine ⟨hmaps, ?_⟩
    rw [List.length_cons, numbered_succ]
    exact congr (congrArg List.cons (fixSensorFields_handle _)) hlist

/-- The two loops number the sensors of all modules consecutively. -/
theorem initModules_eq (hs : Handles) (ms : List SubModule) (i : Nat) :
    (initModules i ms hs).2 = assignAll (fullHandles i ms) hs ∧
    (initModules i ms hs).1.map Sensor.handle =
      numbered hs.nextGlobalHandle (fullHandles i ms).length := by
  induction ms generalizing hs i with
  | nil => exact ⟨rfl, rfl⟩
  | cons m ms ih =>
    obtain ⟨hmaps, hlist⟩ := initSensors_eq i hs m.sensors
    obtain ⟨hrestMaps, hrestList⟩ := ih (initSensors i m.sensors hs).2 (i + 1)
    refine ⟨?_, ?_⟩
    · rw [fullHandles, assignAll_append, ← hmaps]
      exact hrestMaps
    · have hnext := congrArg Handles.nextGlobalHandle hmaps
      rw [assignAll_next, List.length_map] at hnext
      rw [fullHandles, List.length_append, List.length_map, numbered_add, ← hnext, ← hrestList,
        ← hlist, ← List.map_append]
      rfl

variable {modules : List SubModule} {l h : Int}

/-- The maps as `get_sensors_list` leaves them. -/
theorem handles_eq : (openSensors modules).handles = assignAll (fullHandles 0 modules) .initial :=
  (initModules_eq _ modules 0).1

/-- The reported handle is one more than the place in the listing. -/
theorem reported_iff : Reported modules k l h ↔
    ∃ n : Nat, (fullHandles 0 modules)[n]? = some ⟨k, l⟩ ∧ h = 1 + n := by
  have hlist : (getSensorsList modules .initial).map Sensor.handle =
      numbered 1 (fullHandles 0 modules).length := (initModules_eq _ modules 0).2
  unfold Reported
  refine exists_congr fun n => and_congr_right fun hn => ?_
  have hlt : n < (fullHandles 0 modules).length := (List.getElem?_eq_some_iff.mp hn).1
  rw [← List.getElem?_map, hlist, numbered, List.getElem?_map, List.getElem?_range hlt]
  simp only [Option.map_some, Option.some.injEq]
  exact eq_comm

theorem mem_sensorsList {g : Int} :
    g ∈ (getSensorsList modules .initial).map Sensor.handle ↔
      1 ≤ g ∧ g < 1 + (fullHandles 0 modules).length := by
  have hlist : (getSensorsList modules .initial).map Sensor.handle =
      numbered 1 (fullHandles 0 modules).length := (initModules_eq _ modules 0).2
  rw [hlist]
  exact mem_numbered

/-- Whatever a full handle is mapped to is the handle of a listed sensor. -/
theorem mem_sensorsList_of_fullToGlobal {g : Int}
    (h : (openSensors modules).handles.fullToGlobal f = some g) :
    g ∈ (getSensorsList modules .initial).map Sensor.handle := by
  rw [handles_eq] at h
  rcases assignAll_fullToGlobal_range h with h | h
  · cases h
  · exact mem_sensorsList.mpr h

/-- Every full handle of the listing names its module by a plain index. -/
theorem mem_fullHandles {ms : List SubModule} {i : Nat} (hf : f ∈ fullHandles i ms) :
    ∃ j : Nat, i ≤ j ∧ f.moduleIndex = j := by
  induction ms generalizing i with
  | nil => simp [fullHandles] at hf
  | cons m ms ih =>
    rw [fullHandles, List.mem_append] at hf
    rcases hf with hf | hf
    · obtain ⟨s, _, rfl⟩ := List.mem_map.mp hf
      exact ⟨i, Nat.le_refl i, rfl⟩
    · obtain ⟨j, hj, hfj⟩ := ih hf
      exact ⟨j, by omega, hfj⟩

theorem fullHandles_nodup {ms : List SubModule} {i : Nat} (hu : UniqueHandles ms) :
    (fullHandles i ms).Nodup := by
  induction ms generalizing i with
  | nil => simp [fullHandles]
  | cons m ms ih =>
    rw [fullHandles, List.nodup_append']
    refine ⟨?_, ih fun m' hm' => hu m' (List.mem_cons_of_mem m hm'), ?_⟩
    · have hm := hu m List.mem_cons_self
      have hmk : Function.Injective (FullHandle.mk i) := fun a b hab => (FullHandle.mk.inj hab).2
      have hmap := hm.map hmk
      rw [List.map_map] at hmap
      exact hmap
    · intro f hf hf'
      obtain ⟨s, _, rfl⟩ := List.mem_map.mp hf
      obtain ⟨j, hj, hfj⟩ := mem_fullHandles hf'
      simp only at hfj
      omega

theorem handles_initial (x : Int) : Handles.initial.globalToFull x = none := rfl

/-- A known global handle was reported. -/
theorem reported_of_globalToFull {x : Int}
    (hx : (openSensors modules).handles.globalToFull x = some f) :
    ∃ (k : Nat) (l : Int), f = ⟨k, l⟩ ∧ Reported modules k l x := by
  rw [handles_eq] at hx
  by_cases hin : x < 1 ∨ 1 + ((fullHandles 0 modules).length : Int) ≤ x
  · rw [assignAll_globalToFull_outside hin, handles_initial] at hx
    cases hx
  · obtain ⟨n, hn⟩ : ∃ n : Nat, x = 1 + n := ⟨(x - 1).toNat, by omega⟩
    have hlt : n < (fullHandles 0 modules).length := by omega
    have hget := List.getElem?_eq_getElem hlt
    have hassigned : (assignAll (fullHandles 0 modules) .initial).globalToFull (1 + n) = _ :=
      assignAll_globalToFull hget
    rw [hn, hassigned, Option.some.injEq] at hx
    obtain ⟨k, _, hk⟩ := mem_fullHandles (List.getElem_mem hlt)
    refine ⟨k, f.localHandle, ?_, reported_iff.mpr ⟨n, ?_, hn⟩⟩
    · rw [← hk, hx]
    · rw [hget, hx, ← hk, hx]

theorem globalToFull_of_reported (h' : Reported modules k l h) :
    (openSensors modules).handles.globalToFull h = some ⟨k, l⟩ := by
  obtain ⟨n, hn, rfl⟩ := reported_iff.mp h'
  rw [handles_eq]
  exact assignAll_globalToFull hn

theorem fullToGlobal_of_reported (hu : UniqueHandles modules) (h' : Reported modules k l h) :
    (openSensors modules).handles.fullToGlobal ⟨k, l⟩ = some h := by
  obtain ⟨n, hn, rfl⟩ := reported_iff.mp h'
  rw [handles_eq]
  exact assignAll_fullToGlobal (fullHandles_nodup hu) hn

/-- A global handle stands for one sensor of one module. -/
theorem reported_unique {k' : Nat} {l' : Int} (h₁ : Reported modules k l h)
    (h₂ : Reported modules k' l' h) : k' = k ∧ l' = l := by
  have he := (globalToFull_of_reported h₂).symm.trans (globalToFull_of_reported h₁)
  have hf := FullHandle.mk.inj (Option.some.inj he)
  exact ⟨Int.ofNat_inj.mp hf.1, hf.2⟩

/-- An unknown full handle maps to nothing; a known one to the handle reported for it. -/
theorem reported_of_fullToGlobal (hu : UniqueHandles modules)
    (hx : (openSensors modules).handles.fullToGlobal ⟨k, l⟩ = some h) :
    Reported modules k l h := by
  by_cases hmem : FullHandle.mk k l ∈ fullHandles 0 modules
  · obtain ⟨n, hn⟩ := List.mem_iff_getElem?.mp hmem
    have hr : Reported modules k l (1 + n) := reported_iff.mpr ⟨n, hn, rfl⟩
    have he := (fullToGlobal_of_reported hu hr).symm.trans hx
    rwa [Option.some.inj he] at hr
  · rw [handles_eq, assignAll_fullToGlobal_outside hmem] at hx
    cases hx

/-! Opened devices. -/

/-- The devices stand in the order of their modules. -/
theorem openModules_sorted (ms : List SubModule) (i : Nat) :
    (openModules i ms).Pairwise (fun c d => c.openedFrom < d.openedFrom) ∧
    ∀ d ∈ openModules i ms, i ≤ d.openedFrom := by
  induction ms generalizing i with
  | nil => simp [openModules]
  | cons m ms ih =>
    obtain ⟨hsorted, hle⟩ := ih (i + 1)
    rw [openModules]
    split
    · refine ⟨List.pairwise_cons.mpr ⟨fun d hd => hle d hd, hsorted⟩, ?_⟩
      intro d hd
      rcases List.mem_cons.mp hd with rfl | hd
      · exact Nat.le_refl i
      · exact Nat.le_of_succ_le (hle d hd)
    · exact ⟨hsorted, fun d hd => Nat.le_of_succ_le (hle d hd)⟩

/-- Device and module indices agree at `k` exactly if no module up to `k` failed to open. -/
theorem openModules_getElem? (ms : List SubModule) (i k : Nat) :
    (openModules i ms)[k]? = some ⟨i + k⟩ ↔ OpenedUpTo ms k := by
  induction ms generalizing i k with
  | nil =>
    simp only [openModules, List.getElem?_nil, reduceCtorEq, false_iff]
    intro h
    simpa [Opened] using h 0 (Nat.zero_le k)
  | cons m ms ih =>
    rw [openModules]
    split
    · rename_i hm
      cases k with
      | zero => simp [OpenedUpTo, Opened, hm]
      | succ k =>
        have hadd : i + (k + 1) = i + 1 + k := by omega
        rw [List.getElem?_cons_succ, hadd, ih]
        constructor
        · intro h j hj
          cases j with
          | zero => simp [Opened, hm]
          | succ j => simpa [Opened] using h j (by omega)
        · intro h j hj
          simpa [Opened] using h (j + 1) (by omega)
    · rename_i hm
      have hclosed : ¬ OpenedUpTo (m :: ms) k := by
        intro h
        simpa [Opened, hm] using h 0 (Nat.zero_le k)
      refine iff_of_false ?_ hclosed
      -- every device from here on comes from a later module than its index says
      intro h
      obtain ⟨hk, hd⟩ := List.getElem?_eq_some_iff.mp h
      obtain ⟨hsorted, hle⟩ := openModules_sorted ms (i + 1)
      have hgrow : ∀ n (hn : n < (openModules (i + 1) ms).length),
          i + 1 + n ≤ (openModules (i + 1) ms)[n].openedFrom := by
        intro n
        induction n with
        | zero => exact fun hn => hle _ (List.getElem_mem hn)
        | succ n ihn =>
          intro hn
          have hprev := ihn (by omega)
          have hlt := List.pairwise_iff_getElem.mp hsorted n (n + 1) (by omega) hn (by omega)
          omega
      have hge := hgrow k hk
      rw [hd] at hge
      simp only at hge
      omega

/-- The device of module `k` has index `k` exactly if no module up to `k` failed to open. -/
theorem device_index {j : Nat} (hj : (openSensors modules).subHwDevices[j]? = some ⟨k⟩) :
    j = k ↔ OpenedUpTo modules k := by
  have hiff := openModules_getElem? modules 0 k
  rw [Nat.zero_add] at hiff
  constructor
  · intro h
    rw [h] at hj
    exact hiff.mp hj
  · intro h
    obtain ⟨hjl, hjd⟩ := List.getElem?_eq_some_iff.mp hj
    obtain ⟨hkl, hkd⟩ := List.getElem?_eq_some_iff.mp (hiff.mpr h)
    have hsorted := List.pairwise_iff_getElem.mp (openModules_sorted modules 0).1
    change (openModules 0 modules)[j] = _ at hjd
    rcases Nat.lt_trichotomy j k with hlt | heq | hgt
    · have := hsorted j k hjl hkl hlt
      simp [hjd, hkd] at this
    · exact heq
    · have := hsorted k j hkl hjl hgt
      simp [hjd, hkd] at this

/-! Routing. -/

theorem forward_of_unreported {call : Int → Call}
    (h' : ∀ k l, ¬ Reported modules k l h) :
    forward (openSensors modules) h call = .nullDereference := by
  have hnone : (openSensors modules).handles.globalToFull h = none := by
    cases he : (openSensors modules).handles.globalToFull h with
    | none => rfl
    | some f =>
      obtain ⟨k, l, _, hr⟩ := reported_of_globalToFull he
      exact (h' k l hr).elim
  simp [forward, getV0DeviceByHandle, getModuleIndex, hnone]

/-- The module index is used as a device index. -/
theorem forward_of_reported {call : Int → Call} (h' : Reported modules k l h) :
    forward (openSensors modules) h call =
      match (openSensors modules).subHwDevices[k]? with
      | none => .nullDereference
      | some v0 => .forwarded v0 (call l) := by
  have hsome := globalToFull_of_reported h'
  simp only [forward, getV0DeviceByHandle, getModuleIndex, getLocalHandle, hsome]
  by_cases hk : k < (openSensors modules).subHwDevices.length
  · rw [if_neg (by omega), Int.toNat_natCast]
  · rw [if_pos (by omega), List.getElem?_eq_none (by omega)]

theorem forward_ne_error {ctx : PollContext} {call : Int → Call} {retval : Int} :
    forward ctx h call ≠ .error retval := by
  unfold forward
  split <;> simp

theorem forward_routesTo {call : Int → Call} :
    RoutesTo modules h call (forward (openSensors modules) h call) ↔
      ∃ k l, Reported modules k l h ∧ OpenedUpTo modules k := by
  constructor
  · rintro ⟨hopened, hother⟩
    by_cases hex : ∃ k l, Reported modules k l h ∧ Opened modules k
    · obtain ⟨k, l, hr, ho⟩ := hex
      refine ⟨k, l, hr, ?_⟩
      have hf := hopened k l hr ho
      rw [forward_of_reported hr] at hf
      cases hd : (openSensors modules).subHwDevices[k]? with
      | none => simp [hd] at hf
      | some d =>
        simp only [hd, Outcome.forwarded.injEq] at hf
        rw [hf.1] at hd
        exact (device_index hd).mp rfl
    · obtain ⟨retval, hr⟩ := hother fun k l hr ho => hex ⟨k, l, hr, ho⟩
      exact (forward_ne_error hr).elim
  · rintro ⟨k, l, hr, ho⟩
    have hd := (openModules_getElem? modules 0 k).mpr ho
    rw [Nat.zero_add] at hd
    refine ⟨fun k' l' hr' _ => ?_, fun hno => (hno k l hr (ho k (Nat.le_refl k))).elim⟩
    obtain ⟨rfl, rfl⟩ := reported_unique hr hr'
    rw [forward_of_reported hr]
    change (match (openModules 0 modules)[k']? with | none => _ | some v0 => _) = _
    rw [hd]

theorem copyEventRemapHandle_handle {hs : Handles} (e : SensorsEvent) (j : Nat) :
    (copyEventRemapHandle hs e j).handle = getGlobalHandle hs ⟨j, e.handle⟩ := by
  unfold copyEventRemapHandle SensorsEvent.handle
  split <;> simp_all

/-- A queue index that is not the module index remaps events to a foreign handle or to -1. -/
theorem event_delivered (hu : UniqueHandles modules) (hr : Reported modules k l h) {j : Nat}
    (hj : (openSensors modules).subHwDevices[j]? = some ⟨k⟩) {e : SensorsEvent}
    (he : e.handle = l) :
    (copyEventRemapHandle (openSensors modules).handles e j).handle = h ↔
      OpenedUpTo modules k := by
  rw [copyEventRemapHandle_handle, he, ← device_index hj]
  constructor
  · intro hg
    cases hx : (openSensors modules).handles.fullToGlobal ⟨j, l⟩ with
    | none =>
      obtain ⟨n, _, hn⟩ := reported_iff.mp hr
      simp only [getGlobalHandle, hx] at hg
      omega
    | some g =>
      have hrj := reported_of_fullToGlobal hu hx
      simp only [getGlobalHandle, hx] at hg
      rw [hg] at hrj
      exact (reported_unique hr hrj).1
  · intro hjk
    rw [hjk]
    simp only [getGlobalHandle, fullToGlobal_of_reported hu hr]

/-- Calls and events of a sensor are routed right exactly if its handle is known and no module
up to its own failed to open. -/
theorem routing_iff (modules : List SubModule) (hu : UniqueHandles modules) :
    (∀ h enabled ns,
      (RoutesTo modules h (.activate · enabled) (activate (openSensors modules) h enabled) ∧
        RoutesTo modules h (.setDelay · ns) (setDelay (openSensors modules) h ns)) ↔
      ∃ k l, Reported modules k l h ∧ OpenedUpTo modules k) ∧
    (∀ k l h j e, Reported modules k l h →
      (openSensors modules).subHwDevices[j]? = some ⟨k⟩ → SensorsEvent.handle e = l →
      ((copyEventRemapHandle (openSensors modules).handles e j).handle = h ↔
        OpenedUpTo modules k)) := by
  refine ⟨fun h enabled ns => ?_, fun k l h j e hr hj he => event_delivered hu hr hj he⟩
  exact (and_congr forward_routesTo forward_routesTo).trans and_self_iff

/-- A light-sensor module that fails to open in front of an accelerometer module that opens. -/
def failingFirst : List SubModule :=
  [⟨[⟨4, 5, 0, 0, 0, 0⟩], false⟩, ⟨[⟨9, 1, 0, 0, 0, 0⟩], true⟩]

theorem failingFirst_unique : UniqueHandles failingFirst := by
  simp [UniqueHandles, failingFirst]

/-- The unopened module's sensor is activated on the other module's device. -/
theorem failingFirst_misrouted :
    UniqueHandles failingFirst ∧
    activate (openSensors failingFirst) 1 1 = .forwarded ⟨1⟩ (.activate 4 1) ∧
    ¬ RoutesTo failingFirst 1 (.activate · 1) (activate (openSensors failingFirst) 1 1) := by
  refine ⟨failingFirst_unique, by decide, ?_⟩
  intro h
  obtain ⟨k, l, _, ho⟩ := forward_routesTo.mp h
  simpa [Opened, failingFirst] using ho 0 (Nat.zero_le k)

theorem failingFirst_routing :
    RoutesTo failingFirst 1 (.activate · 1) (activate (openSensors failingFirst) 1 1) ∧
      RoutesTo failingFirst 1 (.setDelay · 0) (setDelay (openSensors failingFirst) 1 0) ↔
    ∃ k l, Reported failingFirst k l 1 ∧ OpenedUpTo failingFirst k :=
  (routing_iff failingFirst failingFirst_unique).1 1 1 0

end Apq8084.Sensors.MultiHal
