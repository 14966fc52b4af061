import Apq8084.Lib.Guarded
import Apq8084.Lib.Machine
import Apq8084.Sensors.MultiHal

/-! `get_sensors_list` and `open_sensors` of `sensors/multihal.cpp` called by any number of threads
at once, with the two mutexes of the lazy initialisation. -/
namespace Apq8084.Sensors.LazyInit

open MultiHal Guarded

def MULTI_HAL_CONFIG_FILE_PATH : String := "/vendor/etc/sensors/_hals.conf"
def DEPRECATED_MULTI_HAL_CONFIG_FILE_PATH : String := "/system/etc/sensors/_hals.conf"

/-- The lines of the first configuration file that can be opened. -/
def getSoPaths (file : String → Option (List String)) : List String :=
  ([MULTI_HAL_CONFIG_FILE_PATH, DEPRECATED_MULTI_HAL_CONFIG_FILE_PATH].findSome? file).getD []

/-- Who called `lazy_init_modules`. -/
inductive Caller where
  | lazyInitSensorsList
  | openSensors
deriving DecidableEq

/-- Where a thread is. -/
inductive Pc where
  | idle
  /-- In `lazy_init_sensors_list`, before the test of `global_sensors_list`. -/
  | locked
  /-- Before the lock of `lazy_init_modules`. -/
  | needModules
  /-- In `lazy_init_modules`, before the test of `sub_hw_modules`. -/
  | modules (caller : Caller)
  /-- In its loop, with the paths that are left. -/
  | loading (caller : Caller) (soPaths : List String)
  | loaded (caller : Caller)
  /-- In the two loops of `lazy_init_sensors_list`, at this place of the modules. -/
  | counting (moduleIndex : Nat)
  | filling (capacity moduleIndex : Nat) (mutableSensorList : List Sensor)
  /-- Before `init_sensors_mutex` is unlocked. -/
  | filled
  /-- Behind `lazy_init_sensors_list`, before and after the list has been read. -/
  | reporting
  | listed (list : Option (List Sensor))
  /-- In the loop of `open_sensors`. -/
  | opening (moduleIndex : Nat) (subHwDevices : List Device)

/-- What `init_modules_mutex` protects. -/
structure Modules where
  /-- `NULL` before the first call. -/
  subHwModules : Option (List SubModule)
  /-- A thread is in the loop that appends to it. -/
  growing : Bool
  /-- How often the paths have been read. -/
  loads : Nat

/-- What `init_sensors_mutex` protects. -/
structure Listing where
  globalSensorsList : Option (List Sensor)
  globalSensorsCount : Nat
  handles : Handles

structure State where
  modules : Modules
  listing : Listing
  initModulesMutex : Option Nat
  initSensorsMutex : Option Nat
  threads : Nat → Pc
  /-- The list and the count of each call of `get_sensors_list`. -/
  reports : List (Option (List Sensor) × Nat)
  /-- The devices of each call of `open_sensors`. -/
  opened : List (List Device)
  /-- A null pointer was followed, something was stored behind the end of the array, or a vector was
  read while it grew. -/
  fault : Bool

def initial : State :=
  { modules := { subHwModules := none, growing := false, loads := 0 }
    listing := { globalSensorsList := none, globalSensorsCount := 0, handles := .initial }
    initModulesMutex := none, initSensorsMutex := none, threads := fun _ => .idle
    reports := [], opened := [], fault := false }

inductive Action where
  | getSensorsList (thread : Nat)
  | openSensors (thread : Nat)
  | proceed (thread : Nat)

/-- What an iterator over `sub_hw_modules` finds. -/
inductive Iterated where
  | fault
  | element (m : SubModule)
  | atEnd

def Modules.iterate (m : Modules) (i : Nat) : Iterated :=
  match m.subHwModules, m.growing with
  | some subHwModules, false =>
    match subHwModules[i]? with
    | some m => .element m
    | none => .atEnd
  | _, _ => .fault

def State.goto (s : State) (t : Nat) (pc : Pc) : State :=
  { s with threads := Function.update s.threads t pc }

/-- `load` is what `dlopen` and `dlsym` make of a path. -/
def step (file : String → Option (List String)) (load : String → Option SubModule) (s : State) :
    Action → Option State
  | .getSensorsList t =>
    match s.threads t, s.initSensorsMutex with
    | .idle, none => some { s.goto t .locked with initSensorsMutex := some t }
    | _, _ => none
  | .openSensors t =>
    match s.threads t, s.initModulesMutex with
    | .idle, none => some { s.goto t (.modules .openSensors) with initModulesMutex := some t }
    | _, _ => none
  | .proceed t =>
    match s.threads t with
    | .idle => none
    | .locked =>
      match s.listing.globalSensorsList with
      | some _ => some { s.goto t .reporting with initSensorsMutex := none }
      | none => some (s.goto t .needModules)
    | .needModules =>
      match s.initModulesMutex with
      | some _ => none
      | none =>
        some { s.goto t (.modules .lazyInitSensorsList) with initModulesMutex := some t }
    | .modules caller =>
      match s.modules.subHwModules with
      | some _ => some { s.goto t (.loaded caller) with initModulesMutex := none }
      | none =>
        some { s.goto t (.loading caller (getSoPaths file)) with
          modules := ⟨some [], true, s.modules.loads + 1⟩ }
    | .loading caller (path :: soPaths) =>
      match load path with
      | none => some (s.goto t (.loading caller soPaths))
      | some m =>
        some { s.goto t (.loading caller soPaths) with
          modules := { s.modules with
            subHwModules := s.modules.subHwModules.map (· ++ [m]) } }
    | .loading caller [] =>
      some { s.goto t (.loaded caller) with
        modules := { s.modules with growing := false }
        initModulesMutex := none }
    | .loaded .lazyInitSensorsList =>
      some { s.goto t (.counting 0) with listing := { s.listing with globalSensorsCount := 0 } }
    | .loaded .openSensors => some (s.goto t (.opening 0 []))
    | .counting i =>
      match s.modules.iterate i with
      | .fault => some { s with fault := true }
      | .element m =>
        some { s.goto t (.counting (i + 1)) with
          listing := { s.listing with
            globalSensorsCount := s.listing.globalSensorsCount + m.sensors.length } }
      | .atEnd => some (s.goto t (.filling s.listing.globalSensorsCount 0 []))
    | .filling capacity i mutableSensorList =>
      match s.modules.iterate i with
      | .fault => some { s with fault := true }
      | .element m =>
        -- all sensors of the module in one step: until the list is there, nobody reads the array
        let (sensors, handles) := initSensors i m.sensors s.listing.handles
        some { s.goto t (.filling capacity (i + 1) (mutableSensorList ++ sensors)) with
          listing := { s.listing with handles }
          fault := s.fault || decide (capacity < mutableSensorList.length + sensors.length) }
      | .atEnd =>
        some { s.goto t .filled with
          listing := { s.listing with globalSensorsList := some mutableSensorList } }
    | .filled => some { s.goto t .reporting with initSensorsMutex := none }
    | .reporting => some (s.goto t (.listed s.listing.globalSensorsList))
    | .listed list =>
      some { s.goto t .idle with reports := s.reports ++ [(list, s.listing.globalSensorsCount)] }
    | .opening i subHwDevices =>
      match s.modules.iterate i with
      | .fault => some { s with fault := true }
      | .element m =>
        some (s.goto t (.opening (i + 1) (if m.opens then subHwDevices ++ [⟨i⟩] else subHwDevices)))
      | .atEnd => some { s.goto t .idle with opened := s.opened ++ [subHwDevices] }

variable {file : String → Option (List String)} {load : String → Option SubModule}
  {modules : List SubModule} {s s' : State}

/-! The loops of `lazy_init_sensors_list` and `open_sensors`, one module at a time. -/

theorem length_initSensors (k : Nat) (hs : Handles) (ss : List Sensor) :
    (initSensors k ss hs).1.length = ss.length := by
  induction ss generalizing hs with
  | nil => rfl
  | cons sensor ss ih => exact congrArg (· + 1) (ih _)

theorem initModules_append (k : Nat) (hs : Handles) (ms : List SubModule) (m : SubModule) :
    initModules k (ms ++ [m]) hs =
      ((initModules k ms hs).1 ++
          (initSensors (k + ms.length) m.sensors (initModules k ms hs).2).1,
        (initSensors (k + ms.length) m.sensors (initModules k ms hs).2).2) := by
  induction ms generalizing k hs with
  | nil => simp [initModules]
  | cons m' ms ih =>
    have hindex : k + 1 + ms.length = k + (ms.length + 1) := by omega
    simp only [List.cons_append, initModules, ih, List.length_cons, hindex, List.append_assoc]

theorem openModules_append (k : Nat) (ms : List SubModule) (m : SubModule) :
    openModules k (ms ++ [m]) =
      if m.opens then openModules k ms ++ [⟨k + ms.length⟩] else openModules k ms := by
  induction ms generalizing k with
  | nil => simp [openModules]
  | cons m' ms ih =>
    have hindex : k + 1 + ms.length = k + (ms.length + 1) := by omega
    simp only [List.cons_append, openModules, ih, List.length_cons, hindex]
    split <;> split <;> rfl

/-- The sensors and handles of the first modules. -/
def firstModules (modules : List SubModule) (i : Nat) : List Sensor × Handles :=
  initModules 0 (modules.take i) .initial

theorem take_succ {i : Nat} {m : SubModule} (hm : modules[i]? = some m) :
    modules.take (i + 1) = modules.take i ++ [m] ∧ (modules.take i).length = i := by
  obtain ⟨hi, -⟩ := List.getElem?_eq_some_iff.mp hm
  refine ⟨?_, by rw [List.length_take]; omega⟩
  rw [List.take_add_one, hm]
  rfl

theorem take_end {i : Nat} (hi : modules[i]? = none) : modules.take i = modules :=
  List.take_of_length_le (List.getElem?_eq_none_iff.mp hi)

theorem firstModules_succ {i : Nat} {m : SubModule} (hm : modules[i]? = some m) :
    firstModules modules (i + 1) =
      ((firstModules modules i).1 ++ (initSensors i m.sensors (firstModules modules i).2).1,
        (initSensors i m.sensors (firstModules modules i).2).2) := by
  obtain ⟨htake, hlength⟩ := take_succ hm
  rw [firstModules, htake, initModules_append, hlength, Nat.zero_add]
  rfl

theorem length_firstModules_succ {i : Nat} {m : SubModule} (hm : modules[i]? = some m) :
    (firstModules modules (i + 1)).1.length =
      (firstModules modules i).1.length + m.sensors.length := by
  rw [firstModules_succ hm, List.length_append, length_initSensors]

theorem firstModules_end {i : Nat} (hi : modules[i]? = none) :
    firstModules modules i = firstModules modules modules.length := by
  rw [firstModules, firstModules, take_end hi, List.take_length]

/-- The sensors of all modules. -/
def allSensors (modules : List SubModule) : List Sensor := getSensorsList modules .initial

theorem firstModules_length :
    firstModules modules modules.length =
      (allSensors modules, (lazyInitSensorsList modules .initial).handles) := by
  rw [firstModules, List.take_length]
  rfl

theorem length_initModules (k : Nat) (hs : Handles) (ms : List SubModule) :
    (initModules k ms hs).1.length = (ms.flatMap SubModule.sensors).length := by
  induction ms generalizing k hs with
  | nil => rfl
  | cons m ms ih =>
    simp only [initModules, List.length_append, length_initSensors, ih, List.flatMap_cons]

theorem length_firstModules_le (i : Nat) :
    (firstModules modules i).1.length ≤ (allSensors modules).length := by
  have hsplit := congrArg (fun ms : List SubModule => (ms.flatMap SubModule.sensors).length)
    (List.take_append_drop i modules)
  have hall := congrArg (fun p : List Sensor × Handles => p.1.length)
    (@firstModules_length modules)
  simp only [List.flatMap_append, List.length_append] at hsplit
  simp only [firstModules, List.take_length, length_initModules] at hall ⊢
  omega

/-! What the threads rely on. -/

def Unloaded (m : Modules) : Prop := m.subHwModules = none ∧ m.growing = false ∧ m.loads = 0

def Ready (modules : List SubModule) (m : Modules) : Prop :=
  m.subHwModules = some modules ∧ m.growing = false ∧ m.loads = 1

def Blank (l : Listing) : Prop := l.globalSensorsList = none ∧ l.handles = .initial

def Listed (modules : List SubModule) (l : Listing) : Prop :=
  l.globalSensorsList = some (allSensors modules) ∧
    l.globalSensorsCount = (allSensors modules).length ∧
    l.handles = (lazyInitSensorsList modules .initial).handles

def Pc.holdsModules : Pc → Bool
  | .modules _ | .loading .. => true
  | _ => false

def Pc.holdsSensors : Pc → Bool
  | .locked | .needModules | .counting _ | .filling .. | .filled => true
  | .modules caller | .loading caller _ | .loaded caller => caller = .lazyInitSensorsList
  | _ => false

def ModulesOk (load : String → Option SubModule) (modules : List SubModule) (m : Modules) :
    Pc → Prop
  | .modules _ => Unloaded m ∨ Ready modules m
  | .loading _ soPaths => ∃ subHwModules, m.subHwModules = some subHwModules ∧
      subHwModules ++ soPaths.filterMap load = modules ∧ m.growing = true ∧ m.loads = 1
  | .loaded _ | .counting _ | .filling .. => Ready modules m
  | .opening i subHwDevices => Ready modules m ∧ subHwDevices = openModules 0 (modules.take i)
  | _ => True

def ListingOk (modules : List SubModule) (l : Listing) : Pc → Prop
  | .locked => Blank l ∨ Listed modules l
  | .needModules => Blank l
  | .modules caller | .loading caller _ | .loaded caller =>
    caller = .lazyInitSensorsList → Blank l
  | .counting i => Blank l ∧ l.globalSensorsCount = (firstModules modules i).1.length
  | .filling capacity i mutableSensorList =>
    l.globalSensorsList = none ∧ l.globalSensorsCount = (allSensors modules).length ∧
      capacity = (allSensors modules).length ∧
      (mutableSensorList, l.handles) = firstModules modules i
  | .filled | .reporting => Listed modules l
  | .listed list => Listed modules l ∧ list = some (allSensors modules)
  | _ => True

structure Inv (load : String → Option SubModule) (modules : List SubModule) (s : State) :
    Prop where
  modulesMutex : Protects Pc.holdsModules (ModulesOk load modules)
    (fun m => Unloaded m ∨ Ready modules m) s.initModulesMutex s.modules s.threads
  sensorsMutex : Protects Pc.holdsSensors (ListingOk modules)
    (fun l => Blank l ∨ Listed modules l) s.initSensorsMutex s.listing s.threads
  reports : ∀ r ∈ s.reports,
    r = (some (allSensors modules), (allSensors modules).length) ∧ Listed modules s.listing
  opened : ∀ d ∈ s.opened, d = openModules 0 modules
  fault : s.fault = false

theorem inv_initial : Inv load modules initial := by
  refine ⟨⟨fun t => ?_, fun t => trivial, fun _ => .inl ⟨rfl, rfl, rfl⟩⟩,
    ⟨fun t => ?_, fun t => trivial, fun _ => .inl ⟨rfl, rfl⟩⟩, fun r hr => ?_, fun d hd => ?_, rfl⟩
  · exact iff_of_false (fun h => by cases h) Bool.false_ne_true
  · exact iff_of_false (fun h => by cases h) Bool.false_ne_true
  · cases hr
  · cases hd

/-- Who does not hold the mutex relies on complete modules only. -/
theorem modulesOk_frame {m m' : Modules} (hready : Ready modules m → Ready modules m') (pc : Pc)
    (hpc : pc.holdsModules = false) (hok : ModulesOk load modules m pc) :
    ModulesOk load modules m' pc := by
  cases pc with
  | modules | loading => cases hpc
  | loaded | counting | filling => exact hready hok
  | opening => exact ⟨hready hok.1, hok.2⟩
  | _ => trivial

/-- Who does not hold the mutex relies on a complete list only. -/
theorem listingOk_frame {l l' : Listing} (hlisted : Listed modules l → Listed modules l')
    (pc : Pc) (hpc : pc.holdsSensors = false) (hok : ListingOk modules l pc) :
    ListingOk modules l' pc := by
  cases pc with
  | locked | needModules | counting | filling | filled => cases hpc
  | modules caller | loading caller | loaded caller =>
    intro hcaller
    exact absurd hcaller (of_decide_eq_false hpc)
  | reporting => exact hlisted hok
  | listed => exact ⟨hlisted hok.1, hok.2⟩
  | _ => trivial

theorem not_listed {l : Listing} (hnone : l.globalSensorsList = none) : ¬Listed modules l := by
  intro hlisted
  rw [hlisted.1] at hnone
  cases hnone

/-- While there is no list, there is no report. -/
theorem no_report (hinv : Inv load modules s) (hnone : s.listing.globalSensorsList = none)
    (r : Option (List Sensor) × Nat) : r ∉ s.reports :=
  fun hr => not_listed hnone (hinv.reports r hr).2

theorem iterate_ready {m : Modules} (hm : Ready modules m) (i : Nat) :
    (∃ e, modules[i]? = some e ∧ m.iterate i = .element e) ∨
      modules[i]? = none ∧ m.iterate i = .atEnd := by
  obtain ⟨hvector, hgrowing, -⟩ := hm
  unfold Modules.iterate
  rw [hvector, hgrowing]
  cases hi : modules[i]? with
  | none => exact .inr ⟨rfl, by simp [hi]⟩
  | some e => exact .inl ⟨e, rfl, by simp [hi]⟩

/-! What each step preserves. -/

variable {t : Nat} {pc pc' : Pc} {caller : Caller}

/-- A thread goes on with the mutexes it has, and changes nothing. -/
theorem inv_goto (hinv : Inv load modules s) (hpc : s.threads t = pc)
    (hholdsModules : pc'.holdsModules = pc.holdsModules)
    (hholdsSensors : pc'.holdsSensors = pc.holdsSensors)
    (hmodules : ModulesOk load modules s.modules pc')
    (hlisting : ListingOk modules s.listing pc') : Inv load modules (s.goto t pc') :=
  ⟨hinv.modulesMutex.keep hpc hholdsModules hmodules,
    hinv.sensorsMutex.keep hpc hholdsSensors hlisting, hinv.reports, hinv.opened, hinv.fault⟩

theorem inv_getSensorsList (hinv : Inv load modules s)
    (h : step file load s (.getSensorsList t) = some s') : Inv load modules s' := by
  simp only [step] at h
  split at h
  · rename_i hpc hfree
    cases h
    exact ⟨hinv.modulesMutex.keep hpc rfl trivial,
      hinv.sensorsMutex.lock hfree rfl fun hlisting => hlisting, hinv.reports, hinv.opened,
      hinv.fault⟩
  · cases h

/-- The lock of `lazy_init_modules`. -/
theorem inv_lockModules (hinv : Inv load modules s) (hpc : s.threads t = pc)
    (hfree : s.initModulesMutex = none)
    (hholds : (Pc.modules caller).holdsSensors = pc.holdsSensors)
    (hlisting : ListingOk modules s.listing (.modules caller)) :
    Inv load modules { s.goto t (.modules caller) with initModulesMutex := some t } :=
  ⟨hinv.modulesMutex.lock hfree rfl fun hmodules => hmodules,
    hinv.sensorsMutex.keep hpc hholds hlisting, hinv.reports, hinv.opened, hinv.fault⟩

theorem inv_openSensors (hinv : Inv load modules s)
    (h : step file load s (.openSensors t) = some s') : Inv load modules s' := by
  simp only [step] at h
  split at h
  · rename_i hpc hfree
    cases h
    exact inv_lockModules hinv hpc hfree rfl fun hcaller => by cases hcaller
  · cases h

theorem inv_locked (hinv : Inv load modules s) (hpc : s.threads t = .locked)
    (h : step file load s (.proceed t) = some s') : Inv load modules s' := by
  have hlisting : Blank s.listing ∨ Listed modules s.listing := hinv.sensorsMutex.ok_at hpc
  simp only [step, hpc] at h
  split at h
  · rename_i sensors hsome
    cases h
    have hlisted : Listed modules s.listing := by
      refine hlisting.resolve_left fun hblank => ?_
      rw [hblank.1] at hsome
      cases hsome
    exact ⟨hinv.modulesMutex.keep hpc rfl trivial,
      hinv.sensorsMutex.unlock hpc rfl rfl (fun _ _ hok => hok) hlisted (.inr hlisted),
      hinv.reports, hinv.opened, hinv.fault⟩
  · rename_i hnone
    cases h
    have hblank : Blank s.listing := hlisting.resolve_right (not_listed hnone)
    exact inv_goto hinv hpc rfl rfl trivial hblank

theorem inv_needModules (hinv : Inv load modules s) (hpc : s.threads t = .needModules)
    (h : step file load s (.proceed t) = some s') : Inv load modules s' := by
  have hblank : Blank s.listing := hinv.sensorsMutex.ok_at hpc
  simp only [step, hpc] at h
  split at h
  · cases h
  · rename_i hfree
    cases h
    exact inv_lockModules hinv hpc hfree rfl fun _ => hblank

/-- The unlock of `lazy_init_modules`. -/
theorem inv_unlockModules {m' : Modules} (hinv : Inv load modules s) (hpc : s.threads t = pc)
    (hholdsModules : pc.holdsModules = true)
    (hholdsSensors : (Pc.loaded caller).holdsSensors = pc.holdsSensors)
    (hready : Ready modules m') (hlisting : ListingOk modules s.listing (.loaded caller)) :
    Inv load modules
      { s.goto t (.loaded caller) with modules := m', initModulesMutex := none } :=
  ⟨hinv.modulesMutex.unlock hpc hholdsModules rfl (modulesOk_frame fun _ => hready) hready
      (.inr hready),
    hinv.sensorsMutex.keep hpc hholdsSensors hlisting, hinv.reports, hinv.opened, hinv.fault⟩

theorem inv_modules (hpaths : (getSoPaths file).filterMap load = modules)
    (hinv : Inv load modules s) (hpc : s.threads t = .modules caller)
    (h : step file load s (.proceed t) = some s') : Inv load modules s' := by
  have hmodules : Unloaded s.modules ∨ Ready modules s.modules := hinv.modulesMutex.ok_at hpc
  have hlisting : caller = .lazyInitSensorsList → Blank s.listing := hinv.sensorsMutex.ok_at hpc
  simp only [step, hpc] at h
  split at h
  · rename_i subHwModules hsome
    cases h
    have hready : Ready modules s.modules := by
      refine hmodules.resolve_left fun hunloaded => ?_
      rw [hunloaded.1] at hsome
      cases hsome
    exact inv_unlockModules hinv hpc rfl rfl hready hlisting
  · rename_i hnone
    cases h
    have hnot : ¬Ready modules s.modules := by
      intro hready
      rw [hready.1] at hnone
      cases hnone
    have hunloaded : Unloaded s.modules := hmodules.resolve_right hnot
    exact ⟨hinv.modulesMutex.write hpc rfl rfl
        (modulesOk_frame fun hready => absurd hready hnot)
        ⟨[], rfl, hpaths, rfl, congrArg (· + 1) hunloaded.2.2⟩,
      hinv.sensorsMutex.keep hpc rfl hlisting, hinv.reports, hinv.opened, hinv.fault⟩

theorem inv_loading {soPaths : List String} (hinv : Inv load modules s)
    (hpc : s.threads t = .loading caller soPaths)
    (h : step file load s (.proceed t) = some s') : Inv load modules s' := by
  obtain ⟨subHwModules, hvector, happended, hgrowing, hloads⟩ := hinv.modulesMutex.ok_at hpc
  have hlisting : caller = .lazyInitSensorsList → Blank s.listing := hinv.sensorsMutex.ok_at hpc
  cases soPaths with
  | nil =>
    simp only [step, hpc] at h
    cases h
    have hall : subHwModules = modules := (List.append_nil subHwModules).symm.trans happended
    exact inv_unlockModules hinv hpc rfl rfl ⟨hvector.trans (congrArg some hall), rfl, hloads⟩
      hlisting
  | cons path soPaths =>
    simp only [step, hpc] at h
    split at h
    · rename_i hload
      cases h
      rw [List.filterMap_cons_none hload] at happended
      exact inv_goto hinv hpc rfl rfl ⟨subHwModules, hvector, happended, hgrowing, hloads⟩
        hlisting
    · rename_i m hload
      cases h
      rw [List.filterMap_cons_some hload] at happended
      refine ⟨hinv.modulesMutex.write hpc rfl rfl (modulesOk_frame fun hready => ?_)
          ⟨subHwModules ++ [m], ?_, ?_, hgrowing, hloads⟩,
        hinv.sensorsMutex.keep hpc rfl hlisting, hinv.reports, hinv.opened, hinv.fault⟩
      · -- a complete vector is not growing
        rw [hready.2.1] at hgrowing
        cases hgrowing
      · rw [hvector]
        rfl
      · rw [List.append_assoc]
        exact happended

theorem inv_loaded (hinv : Inv load modules s) (hpc : s.threads t = .loaded caller)
    (h : step file load s (.proceed t) = some s') : Inv load modules s' := by
  have hready : Ready modules s.modules := hinv.modulesMutex.ok_at hpc
  have hlisting : caller = .lazyInitSensorsList → Blank s.listing := hinv.sensorsMutex.ok_at hpc
  cases caller with
  | lazyInitSensorsList =>
    simp only [step, hpc] at h
    cases h
    have hblank : Blank s.listing := hlisting rfl
    exact ⟨hinv.modulesMutex.keep hpc rfl hready,
      hinv.sensorsMutex.write hpc rfl rfl
        (listingOk_frame fun hlisted => absurd hlisted (not_listed hblank.1)) ⟨hblank, rfl⟩,
      fun r hr => absurd hr (no_report hinv hblank.1 r), hinv.opened, hinv.fault⟩
  | openSensors =>
    simp only [step, hpc] at h
    cases h
    exact inv_goto hinv hpc rfl rfl ⟨hready, rfl⟩ trivial

theorem inv_counting {i : Nat} (hinv : Inv load modules s) (hpc : s.threads t = .counting i)
    (h : step file load s (.proceed t) = some s') : Inv load modules s' := by
  have hready : Ready modules s.modules := hinv.modulesMutex.ok_at hpc
  obtain ⟨hblank, hcount⟩ := hinv.sensorsMutex.ok_at hpc
  obtain ⟨m, hm, hiterate⟩ | ⟨hend, hiterate⟩ := iterate_ready hready i
  · simp only [step, hpc, hiterate] at h
    cases h
    refine ⟨hinv.modulesMutex.keep hpc rfl hready,
      hinv.sensorsMutex.write hpc rfl rfl
        (listingOk_frame fun hlisted => absurd hlisted (not_listed hblank.1)) ⟨hblank, ?_⟩,
      fun r hr => absurd hr (no_report hinv hblank.1 r), hinv.opened, hinv.fault⟩
    rw [length_firstModules_succ hm, ← hcount]
  · simp only [step, hpc, hiterate] at h
    cases h
    have hall : s.listing.globalSensorsCount = (allSensors modules).length := by
      rw [hcount, firstModules_end hend, firstModules_length]
    refine inv_goto hinv hpc rfl rfl hready ⟨hblank.1, hall, hall, ?_⟩
    rw [hblank.2]
    rfl

theorem inv_filling {capacity i : Nat} {mutableSensorList : List Sensor}
    (hinv : Inv load modules s) (hpc : s.threads t = .filling capacity i mutableSensorList)
    (h : step file load s (.proceed t) = some s') : Inv load modules s' := by
  have hready : Ready modules s.modules := hinv.modulesMutex.ok_at hpc
  obtain ⟨hnone, hcount, hcapacity, hfilled⟩ := hinv.sensorsMutex.ok_at hpc
  have hsensors : mutableSensorList = (firstModules modules i).1 := congrArg Prod.fst hfilled
  have hhandles : s.listing.handles = (firstModules modules i).2 := congrArg Prod.snd hfilled
  obtain ⟨m, hm, hiterate⟩ | ⟨hend, hiterate⟩ := iterate_ready hready i
  · simp only [step, hpc, hiterate] at h
    cases h
    refine ⟨hinv.modulesMutex.keep hpc rfl hready,
      hinv.sensorsMutex.write hpc rfl rfl
        (listingOk_frame fun hlisted => absurd hlisted (not_listed hnone))
        ⟨hnone, hcount, hcapacity, ?_⟩,
      fun r hr => absurd hr (no_report hinv hnone r), hinv.opened, ?_⟩
    · rw [firstModules_succ hm, hsensors, hhandles]
    · -- the array has room for what this module and the later ones list
      have hroom : ¬capacity < mutableSensorList.length + m.sensors.length := by
        have hle : (firstModules modules (i + 1)).1.length ≤ (allSensors modules).length :=
          length_firstModules_le (i + 1)
        rw [length_firstModules_succ hm] at hle
        rw [hcapacity, hsensors]
        omega
      simp only [hinv.fault, length_initSensors, decide_eq_false hroom, Bool.or_false]
  · simp only [step, hpc, hiterate] at h
    cases h
    have hall : firstModules modules i =
        (allSensors modules, (lazyInitSensorsList modules .initial).handles) := by
      rw [firstModules_end hend, firstModules_length]
    have hlisted : Listed modules
        { s.listing with globalSensorsList := some mutableSensorList } :=
      ⟨congrArg some (hsensors.trans (congrArg Prod.fst hall)), hcount,
        hhandles.trans (congrArg Prod.snd hall)⟩
    exact ⟨hinv.modulesMutex.keep hpc rfl trivial,
      hinv.sensorsMutex.write hpc rfl rfl (listingOk_frame fun _ => hlisted) hlisted,
      fun r hr => absurd hr (no_report hinv hnone r), hinv.opened, hinv.fault⟩

theorem inv_filled (hinv : Inv load modules s) (hpc : s.threads t = .filled)
    (h : step file load s (.proceed t) = some s') : Inv load modules s' := by
  have hlisted : Listed modules s.listing := hinv.sensorsMutex.ok_at hpc
  simp only [step, hpc] at h
  cases h
  exact ⟨hinv.modulesMutex.keep hpc rfl trivial,
    hinv.sensorsMutex.unlock hpc rfl rfl (fun _ _ hok => hok) hlisted (.inr hlisted),
    hinv.reports, hinv.opened, hinv.fault⟩

theorem inv_reporting (hinv : Inv load modules s) (hpc : s.threads t = .reporting)
    (h : step file load s (.proceed t) = some s') : Inv load modules s' := by
  have hlisted : Listed modules s.listing := hinv.sensorsMutex.ok_at hpc
  simp only [step, hpc] at h
  cases h
  exact inv_goto hinv hpc rfl rfl trivial ⟨hlisted, hlisted.1⟩

theorem inv_listed {list : Option (List Sensor)} (hinv : Inv load modules s)
    (hpc : s.threads t = .listed list) (h : step file load s (.proceed t) = some s') :
    Inv load modules s' := by
  obtain ⟨hlisted, rfl⟩ := hinv.sensorsMutex.ok_at hpc
  simp only [step, hpc] at h
  cases h
  refine ⟨hinv.modulesMutex.keep hpc rfl trivial, hinv.sensorsMutex.keep hpc rfl trivial,
    fun r hr => ?_, hinv.opened, hinv.fault⟩
  rcases List.mem_append.mp hr with hr | hr
  · exact hinv.reports r hr
  · rw [List.mem_singleton.mp hr, hlisted.2.1]
    exact ⟨rfl, hlisted⟩

theorem inv_opening {i : Nat} {subHwDevices : List Device} (hinv : Inv load modules s)
    (hpc : s.threads t = .opening i subHwDevices)
    (h : step file load s (.proceed t) = some s') : Inv load modules s' := by
  obtain ⟨hready, rfl⟩ := hinv.modulesMutex.ok_at hpc
  obtain ⟨m, hm, hiterate⟩ | ⟨hend, hiterate⟩ := iterate_ready hready i
  · simp only [step, hpc, hiterate] at h
    cases h
    obtain ⟨htake, hlength⟩ := take_succ hm
    refine inv_goto hinv hpc rfl rfl ⟨hready, ?_⟩ trivial
    rw [htake, openModules_append, hlength, Nat.zero_add]
  · simp only [step, hpc, hiterate] at h
    cases h
    refine ⟨hinv.modulesMutex.keep hpc rfl trivial, hinv.sensorsMutex.keep hpc rfl trivial,
      hinv.reports, fun d hd => ?_, hinv.fault⟩
    rcases List.mem_append.mp hd with hd | hd
    · exact hinv.opened d hd
    · rw [List.mem_singleton.mp hd, take_end hend]

theorem inv_step (hpaths : (getSoPaths file).filterMap load = modules) {a : Action}
    (hinv : Inv load modules s) (h : step file load s a = some s') : Inv load modules s' := by
  cases a with
  | getSensorsList t => exact inv_getSensorsList hinv h
  | openSensors t => exact inv_openSensors hinv h
  | proceed t =>
    cases hpc : s.threads t with
    | idle =>
      simp only [step, hpc] at h
      cases h
    | locked => exact inv_locked hinv hpc h
    | needModules => exact inv_needModules hinv hpc h
    | modules caller => exact inv_modules hpaths hinv hpc h
    | loading caller soPaths => exact inv_loading hinv hpc h
    | loaded caller => exact inv_loaded hinv hpc h
    | counting i => exact inv_counting hinv hpc h
    | filling capacity i mutableSensorList => exact inv_filling hinv hpc h
    | filled => exact inv_filled hinv hpc h
    | reporting => exact inv_reporting hinv hpc h
    | listed list => exact inv_listed hinv hpc h
    | opening i subHwDevices => exact inv_opening hinv hpc h

/-- What `lazy_init_modules` makes of the configuration. -/
def loadedModules (file : String → Option (List String)) (load : String → Option SubModule) :
    List SubModule :=
  (getSoPaths file).filterMap load

theorem run_inv {as : List Action} (h : Machine.run (step file load) initial as = some s) :
    Inv load (loadedModules file load) s :=
  Machine.run_invariant (fun _ _ _ hinv hstep => inv_step rfl hinv hstep) h inv_initial

theorem loads_le_of_complete {m : Modules} (hm : Unloaded m ∨ Ready modules m) :
    m.loads ≤ 1 := by
  rcases hm with ⟨-, -, hloads⟩ | ⟨-, -, hloads⟩
  · omega
  · omega

theorem loads_le (hinv : Inv load modules s) : s.modules.loads ≤ 1 := by
  cases howner : s.initModulesMutex with
  | none => exact loads_le_of_complete (hinv.modulesMutex.free howner)
  | some t =>
    have hholds := (hinv.modulesMutex.owner_iff t).mp howner
    have hmodules := hinv.modulesMutex.ok t
    cases hpc : s.threads t with
    | modules caller =>
      rw [hpc] at hmodules
      exact loads_le_of_complete hmodules
    | loading caller soPaths =>
      rw [hpc] at hmodules
      obtain ⟨subHwModules, -, -, -, hloads⟩ := hmodules
      exact Nat.le_of_eq hloads
    | _ =>
      rw [hpc] at hholds
      cases hholds

/-- Only a mutex that is taken stops a thread within a call. -/
theorem proceeds (hpc : s.threads t ≠ .idle)
    (hfree : s.threads t = .needModules → s.initModulesMutex = none) :
    ∃ s', step file load s (.proceed t) = some s' := by
  cases hat : s.threads t with
  | idle => exact absurd hat hpc
  | needModules =>
    simp only [step, hat, hfree hat]
    exact ⟨_, rfl⟩
  | loaded caller =>
    cases caller with
    | lazyInitSensorsList =>
      simp only [step, hat]
      exact ⟨_, rfl⟩
    | openSensors =>
      simp only [step, hat]
      exact ⟨_, rfl⟩
  | loading caller soPaths =>
    cases soPaths with
    | nil =>
      simp only [step, hat]
      exact ⟨_, rfl⟩
    | cons path soPaths =>
      simp only [step, hat]
      split
      · exact ⟨_, rfl⟩
      · exact ⟨_, rfl⟩
  | locked | modules caller =>
    simp only [step, hat]
    split
    · exact ⟨_, rfl⟩
    · exact ⟨_, rfl⟩
  | counting i | filling capacity i mutableSensorList | opening i subHwDevices =>
    simp only [step, hat]
    split
    · exact ⟨_, rfl⟩
    · exact ⟨_, rfl⟩
    · exact ⟨_, rfl⟩
  | filled | reporting | listed list =>
    simp only [step, hat]
    exact ⟨_, rfl⟩

/-- Whoever holds `init_modules_mutex` need not wait. -/
theorem owner_proceeds (hinv : Inv load modules s) (howner : s.initModulesMutex = some t) :
    ∃ s', step file load s (.proceed t) = some s' := by
  have hholds := (hinv.modulesMutex.owner_iff t).mp howner
  refine proceeds (fun hidle => ?_) fun hneed => ?_
  · rw [hidle] at hholds
    cases hholds
  · rw [hneed] at hholds
    cases hholds

/-- One module with one sensor. -/
def proximityModule : SubModule := ⟨[⟨7, SENSOR_TYPE_PROXIMITY, 1, 0, 0, 0⟩], true⟩

end Apq8084.Sensors.LazyInit
