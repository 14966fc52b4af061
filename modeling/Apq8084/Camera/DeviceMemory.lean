import Apq8084.Camera.Devices
import Apq8084.Lib.Alloc
import Mathlib.Tactic.Abel

/-! The memory of `CameraWrapper.cpp`: the devices, the table of parameters and the strings, over
the calls on any number of open devices. Every allocation may fail. -/
namespace CameraWrapper.Memory

open Alloc

/-- The wrapper device at an address. -/
structure Device where
  address : Nat
  id : Int32
  /-- `vendor`, as the number of the vendor's device. -/
  vendor : Nat
  /-- `base.ops` -/
  ops : Ptr
deriving DecidableEq

structure Wrapper where
  heap : Heap
  /-- The vendor's devices. -/
  vendorHeap : Heap
  gVendorModule : Bool
  num_cameras : Int32
  fixed_set_params : Ptr
  /-- What stands in the table. -/
  table : List Ptr
  devices : List Device
  /-- The vendor's devices that the wrapper has forgotten. -/
  abandoned : List Ptr
  /-- The strings that the framework has to give back. -/
  taken : List Ptr
  /-- The strings of `camera_start_recording`. -/
  lost : List Ptr
  outOfBounds : Bool

def Wrapper.initial : Wrapper :=
  { heap := emptyHeap, vendorHeap := emptyHeap, gVendorModule := false, num_cameras := 0
    fixed_set_params := none, table := [], devices := [], abandoned := [], taken := [], lost := []
    outOfBounds := false }

variable (grants : Nat → Bool)

/-! ### The parameters -/

/-- `fixed_set_params[id]`, if there is such a place. -/
def Wrapper.slot (s : Wrapper) (id : Int32) : Option Ptr :=
  if id < 0 then none else s.table[id.toInt.toNat]?

/-- The end of `camera_fixup_setparams`, and the call of the vendor. -/
def setParameters (device : Device) (table old : Ptr) : Code Ptr := do
  use [some device.address, table, old]
  free old
  let fixed_params ← allocate grants
  use [some device.address, table, fixed_params]
  return fixed_params

def camera_set_parameters (s : Wrapper) (device : Device) : Wrapper :=
  match s.slot device.id with
  | none => { s with outOfBounds := true }
  | some old =>
    let (fixed_params, heap) := setParameters grants device s.fixed_set_params old s.heap
    { s with
      heap := heap
      vendorHeap := (use [some device.vendor] s.vendorHeap).2
      table := s.table.set device.id.toInt.toNat fixed_params }

/-- The vendor's string is given back at once. -/
def getParameters (device : Device) : Code Ptr := do
  use [some device.address]
  let fixed_params ← allocate grants
  use [some device.address]
  return fixed_params

def camera_get_parameters (s : Wrapper) (device : Device) : Ptr × Wrapper :=
  let (fixed_params, heap) := getParameters grants device s.heap
  (fixed_params, { s with
    heap := heap
    vendorHeap := (use [some device.vendor] s.vendorHeap).2 })

def camera_put_parameters (s : Wrapper) (params : Ptr) : Wrapper :=
  { s with heap := (free params s.heap).2 }

/-- The operations that do nothing but call the vendor. -/
def vendorCall (s : Wrapper) (device : Device) : Wrapper :=
  { s with
    heap := (use [some device.address] s.heap).2
    vendorHeap := (use [some device.vendor] s.vendorHeap).2 }

/-- The string is read, and nobody gives it back. -/
def camera_start_recording (s : Wrapper) (device : Device) : Wrapper :=
  let (params, s) := camera_get_parameters grants s device
  vendorCall { s with heap := (use [params] s.heap).2, lost := params :: s.lost } device

/-! ### The devices -/

/-- The check of the table in `camera_device_open`. -/
def prepareTable (s : Wrapper) : Wrapper :=
  match s.fixed_set_params with
  | some _ => s
  | none =>
    let (fixed_set_params, heap) := allocate grants s.heap
    { s with
      heap := heap
      fixed_set_params := fixed_set_params
      table := if fixed_set_params.isSome then List.replicate s.num_cameras.toInt.toNat none
        else [] }

/-- `camera_device_open` behind its test of the id. -/
def openDevice (s : Wrapper) (camera_id vendorOpen : Int32) : Wrapper × Int32 × Ptr :=
  match allocate grants s.heap with
  | (none, heap) => ({ s with heap := heap }, -ENOMEM, none)
  | (some address, heap) =>
    match allocate (fun _ => vendorOpen = 0) s.vendorHeap with
    | (none, vendorHeap) =>
      ({ s with heap := (free (some address) heap).2, vendorHeap := vendorHeap }, vendorOpen, none)
    | (some vendor, vendorHeap) =>
      match allocate grants heap with
      | (none, heap) =>
        ({ s with
          heap := (free (some address) heap).2
          vendorHeap := vendorHeap
          abandoned := some vendor :: s.abandoned }, -ENOMEM, none)
      | (some ops, heap) =>
        ({ s with
          heap := heap
          vendorHeap := vendorHeap
          devices := ⟨address, camera_id, vendor, some ops⟩ :: s.devices }, 0, some address)

def openCamera (s : Wrapper) (camera_id vendorOpen : Int32) : Wrapper × Int32 × Ptr :=
  if s.fixed_set_params.isNone then (s, -ENOMEM, none)
  else if camera_id < 0 ∨ s.num_cameras < camera_id then (s, -EINVAL, none)
  else openDevice grants s camera_id vendorOpen

/-- `hw` is what `hw_get_module_by_class` returns if it is called. -/
def check_vendor_module (s : Wrapper) (hw : Int32) : Wrapper :=
  { s with gVendorModule := s.gVendorModule || decide (hw = 0) }

def countCameras (cameras : Int32) (s : Wrapper) : Wrapper :=
  { s with num_cameras := if s.num_cameras = 0 then cameras else s.num_cameras }

def camera_device_open (abi : Decimal.Abi) (cameras : Int32) (s : Wrapper) (name : String8)
    (hw vendorOpen : Int32) : Wrapper × Int32 × Ptr :=
  let s := check_vendor_module s hw
  if s.gVendorModule = false then (s, -EINVAL, none)
  else
    openCamera grants (prepareTable grants (countCameras cameras s)) (atoi abi name) vendorOpen

def closeDevice (device : Device) (table old : Ptr) : Code Unit := do
  use [some device.address, table]
  free old
  use [some device.address]
  free device.ops
  free (some device.address)

def camera_device_close (s : Wrapper) (device : Device) : Wrapper :=
  match s.slot device.id with
  | none => { s with outOfBounds := true }
  | some old =>
    { s with
      heap := (closeDevice device s.fixed_set_params old s.heap).2
      vendorHeap := (free (some device.vendor) s.vendorHeap).2
      table := s.table.set device.id.toInt.toNat none
      devices := s.devices.erase device }

inductive Action where
  | camera_device_open (name : String8) (hw vendorOpen : Int32)
  | camera_set_parameters (device : Device)
  | camera_get_parameters (device : Device)
  | camera_put_parameters (params : Ptr)
  | camera_start_recording (device : Device)
  | vendorCall (device : Device)
  | camera_device_close (device : Device)

/-- The calls on a device are made while it is open, and a string is given back once. -/
def Wrapper.step (abi : Decimal.Abi) (cameras : Int32) (s : Wrapper) : Action → Option Wrapper
  | .camera_device_open name hw vendorOpen =>
    some (Memory.camera_device_open grants abi cameras s name hw vendorOpen).1
  | .camera_set_parameters device =>
    if device ∈ s.devices then some (Memory.camera_set_parameters grants s device) else none
  | .camera_get_parameters device =>
    if device ∈ s.devices then
      let (params, t) := Memory.camera_get_parameters grants s device
      some { t with taken := params :: t.taken }
    else none
  | .camera_put_parameters params =>
    if params = none ∨ params ∈ s.taken then
      some { Memory.camera_put_parameters s params with taken := s.taken.erase params }
    else none
  | .camera_start_recording device =>
    if device ∈ s.devices then some (Memory.camera_start_recording grants s device) else none
  | .vendorCall device =>
    if device ∈ s.devices then some (Memory.vendorCall s device) else none
  | .camera_device_close device =>
    if device ∈ s.devices then some (Memory.camera_device_close s device) else none

/-! ### What every run keeps -/

def deviceBlocks (devices : List Device) : Multiset Nat :=
  blocks (devices.flatMap fun d => [some d.address, d.ops])

def vendorBlocks (devices : List Device) : Multiset Nat :=
  blocks (devices.map fun d => some d.vendor)

/-- Every block has one place where it is held. -/
structure Accounted (cameras : Int32) (s : Wrapper) : Prop where
  heap : s.heap.Owns (block s.fixed_set_params + blocks s.table + deviceBlocks s.devices +
    blocks s.taken + blocks s.lost)
  vendorHeap : s.vendorHeap.Owns (vendorBlocks s.devices + blocks s.abandoned)
  count : s.num_cameras = 0 ∨ s.num_cameras = cameras
  size : s.fixed_set_params.isSome = true → s.table.length = cameras.toInt.toNat
  noTable : s.fixed_set_params = none → s.table = []
  device : ∀ d ∈ s.devices, 0 ≤ d.id ∧ d.id < cameras ∧ s.fixed_set_params.isSome = true
  slot : ∀ i p, s.table[i]? = some (some p) → ∃ d ∈ s.devices, d.id.toInt.toNat = i
  inBounds : s.outOfBounds = false

/-- The vendor has no camera with the number of cameras. -/
def HasCamera (abi : Decimal.Abi) (cameras : Int32) (_ : Wrapper) : Action → Prop
  | .camera_device_open name _ vendorOpen => vendorOpen = 0 → atoi abi name ≠ cameras
  | _ => True

variable {grants} {abi : Decimal.Abi} {cameras : Int32} {s t : Wrapper} {d : Device} {a : Action}
  {as : List Action}

theorem deviceBlocks_cons (devices : List Device) :
    deviceBlocks (d :: devices) = block (some d.address) + block d.ops + deviceBlocks devices := by
  rw [deviceBlocks, List.flatMap_cons, blocks_append, blocks_cons, blocks_cons, blocks_nil,
    add_zero, deviceBlocks]

theorem deviceBlocks_erase (hd : d ∈ s.devices) : deviceBlocks s.devices =
    block (some d.address) + block d.ops + deviceBlocks (s.devices.erase d) := by
  rw [← deviceBlocks_cons]
  exact blocks_perm ((List.perm_cons_erase hd).flatMap_right _)

theorem vendorBlocks_erase (hd : d ∈ s.devices) : vendorBlocks s.devices =
    block (some d.vendor) + vendorBlocks (s.devices.erase d) := by
  rw [vendorBlocks, blocks_perm ((List.perm_cons_erase hd).map _), List.map_cons, blocks_cons,
    vendorBlocks]

theorem mem_address (hd : d ∈ s.devices) : d.address ∈ deviceBlocks s.devices := by
  rw [deviceBlocks_erase hd, add_assoc]
  exact Multiset.mem_add.mpr (.inl (Multiset.mem_singleton_self _))

theorem mem_vendor (hd : d ∈ s.devices) : d.vendor ∈ vendorBlocks s.devices := by
  rw [vendorBlocks_erase hd]
  exact Multiset.mem_add.mpr (.inl (Multiset.mem_singleton_self _))

/-- An open device has a place in the table. -/
theorem slot_device (hs : Accounted cameras s) (hd : d ∈ s.devices) :
    ∃ old, s.slot d.id = some old ∧ s.table[d.id.toInt.toNat]? = some old := by
  obtain ⟨hlo, hhi, htable⟩ := hs.device d hd
  have hlen : d.id.toInt.toNat < s.table.length := by
    rw [hs.size htable]
    rw [Int32.le_iff_toInt_le] at hlo
    rw [Int32.lt_iff_toInt_lt] at hhi
    have hzero : (0 : Int32).toInt = 0 := rfl
    omega
  refine ⟨s.table[d.id.toInt.toNat], ?_, List.getElem?_eq_getElem hlen⟩
  rw [Wrapper.slot, if_neg (Int32.not_lt.mpr hlo), List.getElem?_eq_getElem hlen]

theorem use_vendor (hs : Accounted cameras s) (hd : d ∈ s.devices) :
    (use [some d.vendor] s.vendorHeap).2.Owns (vendorBlocks s.devices + blocks s.abandoned) := by
  refine triple_use_mem (fun a ha => ?_) s.vendorHeap hs.vendorHeap
  obtain rfl : a = d.vendor := by simpa using ha
  exact Multiset.mem_add.mpr (.inl (mem_vendor hd))

/-! ### The calls on a device -/

theorem triple_setParameters (grants : Nat → Bool) (table old : Ptr) (M : Multiset Nat)
    (hd : d.address ∈ M) (htable : ∀ a, table = some a → a ∈ M) :
    Triple (Heap.Owns · (block old + M)) (setParameters grants d table old)
      fun p h => h.Owns (block p + M) := by
  have hmem : ∀ (p : Ptr) a, some a ∈ [some d.address, table, p] → a ∈ block p + M := by
    intro p a ha
    rw [Multiset.mem_add]
    simp only [List.mem_cons, List.not_mem_nil, or_false, Option.some.injEq] at ha
    rcases ha with rfl | ha | ha
    · exact .inr hd
    · exact .inr (htable a ha.symm)
    · rw [← ha]
      exact .inl (Multiset.mem_singleton_self a)
  refine triple_bind (triple_use_mem (hmem old)) fun _ => ?_
  refine triple_bind (triple_free old) fun _ => ?_
  refine triple_bind (triple_allocate grants) fun p => ?_
  exact triple_bind (triple_use_mem (hmem p)) fun _ => triple_pure fun h hh => hh

theorem triple_getParameters (grants : Nat → Bool) {M : Multiset Nat} (hd : d.address ∈ M) :
    Triple (Heap.Owns · M) (getParameters grants d) fun p h => h.Owns (block p + M) := by
  have hmem : ∀ a, some a ∈ [some d.address] → a ∈ M := by
    intro a ha
    obtain rfl : a = d.address := by simpa using ha
    exact hd
  refine triple_bind (triple_use_mem hmem) fun _ => ?_
  refine triple_bind (triple_allocate grants) fun p => ?_
  refine triple_bind (triple_use_mem fun a ha => ?_) fun _ => triple_pure fun h hh => hh
  exact Multiset.mem_add.mpr (.inr (hmem a ha))

theorem triple_closeDevice (table old : Ptr) {M : Multiset Nat}
    (htable : ∀ a, table = some a → a ∈ M) :
    Triple (Heap.Owns · (block old + (block d.ops + (block (some d.address) + M))))
      (closeDevice d table old) fun _ h => h.Owns M := by
  have haddress : d.address ∈ block (some d.address) + M :=
    Multiset.mem_add.mpr (.inl (Multiset.mem_singleton_self _))
  refine triple_bind (triple_use_mem fun a ha => ?_) fun _ => ?_
  · simp only [List.mem_cons, List.not_mem_nil, or_false, Option.some.injEq] at ha
    simp only [Multiset.mem_add] at haddress ⊢
    rcases ha with rfl | ha
    · exact .inr (.inr haddress)
    · exact .inr (.inr (.inr (htable a ha.symm)))
  · refine triple_bind (triple_free old) fun _ => ?_
    refine triple_bind (triple_use_mem fun a ha => ?_) fun _ => ?_
    · obtain rfl : a = d.address := by simpa using ha
      exact Multiset.mem_add.mpr (.inr haddress)
    · exact triple_bind (triple_free d.ops) fun _ => triple_free (some d.address)

/-- The place of a device gets another string, or none. -/
theorem slots_set {devices : List Device} {i : Nat} {p : Ptr}
    (hs : ∀ i p, s.table[i]? = some (some p) → ∃ d ∈ s.devices, d.id.toInt.toNat = i)
    (hkeep : ∀ d ∈ s.devices, d.id.toInt.toNat ≠ i → d ∈ devices)
    (hnew : ∀ a, p = some a → ∃ d ∈ devices, d.id.toInt.toNat = i) :
    ∀ j q, (s.table.set i p)[j]? = some (some q) → ∃ d ∈ devices, d.id.toInt.toNat = j := by
  intro j q hq
  by_cases hij : i = j
  · subst hij
    rw [List.getElem?_set_self'] at hq
    obtain ⟨x, -, hp⟩ := Option.map_eq_some_iff.mp hq
    exact hnew q hp
  · rw [List.getElem?_set_ne hij] at hq
    obtain ⟨d, hd, rfl⟩ := hs j q hq
    exact ⟨d, hkeep d hd (Ne.symm hij), rfl⟩

theorem accounted_set (hs : Accounted cameras s) (hd : d ∈ s.devices) :
    Accounted cameras (camera_set_parameters grants s d) := by
  obtain ⟨old, hslot, hold⟩ := slot_device hs hd
  obtain ⟨N, hN, hset⟩ := blocks_set hold
  have hspec := triple_setParameters grants s.fixed_set_params old
    (block s.fixed_set_params + N + deviceBlocks s.devices + blocks s.taken + blocks s.lost)
    (d := d) (by simp [mem_address hd]) (by rintro a ha; simp [ha, block]) s.heap
    (by
      have hheap := hs.heap
      rw [hN] at hheap
      convert hheap using 1
      abel)
  simp only [camera_set_parameters, hslot]
  refine { hs with
    heap := ?_, vendorHeap := use_vendor hs hd, size := ?_, noTable := ?_, slot := ?_ }
  · simp only [hset]
    convert hspec using 1
    abel
  · intro htable
    rw [List.length_set]
    exact hs.size htable
  · intro htable
    rw [hs.noTable htable]
    rfl
  · exact slots_set hs.slot (fun d hd _ => hd) fun a _ => ⟨d, hd, rfl⟩

theorem accounted_call (hs : Accounted cameras s) (hd : d ∈ s.devices) :
    Accounted cameras (vendorCall s d) := by
  have hmem : d.address ∈ block s.fixed_set_params + blocks s.table + deviceBlocks s.devices +
      blocks s.taken + blocks s.lost := by simp [mem_address hd]
  refine { hs with
    heap := triple_use_mem (fun a ha => ?_) s.heap hs.heap, vendorHeap := use_vendor hs hd }
  obtain rfl : a = d.address := by simpa using ha
  exact hmem

/-- The string of `camera_get_parameters` is nobody's yet. -/
theorem accounted_get (grants : Nat → Bool) (hs : Accounted cameras s) (hd : d ∈ s.devices) :
    Accounted cameras { (camera_get_parameters grants s d).2 with
      taken := (camera_get_parameters grants s d).1 :: s.taken } := by
  have hspec := triple_getParameters grants (d := d) (by simp [mem_address hd])
    s.heap hs.heap
  refine { hs with heap := ?_, vendorHeap := use_vendor hs hd }
  simp only [camera_get_parameters, blocks_cons]
  convert hspec using 1
  abel

theorem accounted_put {p : Ptr} (hs : Accounted cameras s) (hp : p = none ∨ p ∈ s.taken) :
    Accounted cameras { camera_put_parameters s p with taken := s.taken.erase p } := by
  have hheap := hs.heap
  rw [blocks_erase hp] at hheap
  have hspec := triple_free p (M := block s.fixed_set_params + blocks s.table +
    deviceBlocks s.devices + blocks (s.taken.erase p) + blocks s.lost) s.heap
    (by
      convert hheap using 1
      abel)
  exact { hs with heap := hspec, vendorHeap := hs.vendorHeap }

theorem accounted_start (hs : Accounted cameras s) (hd : d ∈ s.devices) :
    Accounted cameras (camera_start_recording grants s d) := by
  have hget := accounted_get grants hs hd
  -- the string is lost where `camera_get_parameters` would have it taken
  have hlost : Accounted cameras { (camera_get_parameters grants s d).2 with
      lost := (camera_get_parameters grants s d).1 :: s.lost } := by
    refine { hget with heap := ?_ }
    have hheap := hget.heap
    simp only [blocks_cons] at hheap ⊢
    convert hheap using 1
    simp only [camera_get_parameters]
    abel
  have hread : Accounted cameras { (camera_get_parameters grants s d).2 with
      heap := (use [(camera_get_parameters grants s d).1]
        (camera_get_parameters grants s d).2.heap).2
      lost := (camera_get_parameters grants s d).1 :: s.lost } := by
    refine { hlost with heap := triple_use_mem (fun a ha => ?_) _ hlost.heap }
    rw [List.mem_singleton] at ha
    rw [blocks_cons, ← ha]
    simp [block]
  exact accounted_call hread hd

theorem accounted_close (hs : Accounted cameras s) (hd : d ∈ s.devices) :
    Accounted cameras (camera_device_close s d) := by
  obtain ⟨old, hslot, hold⟩ := slot_device hs hd
  obtain ⟨N, hN, hset⟩ := blocks_set hold
  have hspec := triple_closeDevice (d := d) s.fixed_set_params old
    (M := block s.fixed_set_params + N + deviceBlocks (s.devices.erase d) + blocks s.taken +
      blocks s.lost) (by rintro a ha; simp [ha, block]) s.heap
    (by
      have hheap := hs.heap
      rw [hN, deviceBlocks_erase hd] at hheap
      convert hheap using 1
      abel)
  have hvendor := triple_free (some d.vendor)
    (M := vendorBlocks (s.devices.erase d) + blocks s.abandoned) s.vendorHeap
    (by
      have hheap := hs.vendorHeap
      rw [vendorBlocks_erase hd] at hheap
      convert hheap using 1
      abel)
  simp only [camera_device_close, hslot]
  refine { hs with
    heap := ?_, vendorHeap := hvendor, size := ?_, noTable := ?_, device := ?_, slot := ?_ }
  · simp only [hset]
    convert hspec using 1
    simp only [block]
    abel
  · intro htable
    rw [List.length_set]
    exact hs.size htable
  · intro htable
    rw [hs.noTable htable]
    rfl
  · exact fun d' hd' => hs.device d' (List.mem_of_mem_erase hd')
  · refine slots_set hs.slot (fun d' hd' hne => ?_) fun a ha => by cases ha
    exact (List.mem_erase_of_ne fun heq => hne (congrArg (·.id.toInt.toNat) heq)).mpr hd'

/-! ### Opening a device -/

theorem accounted_prepare (grants : Nat → Bool) (hs : Accounted cameras s)
    (hcount : s.num_cameras = cameras) :
    Accounted cameras (prepareTable grants s) := by
  cases htable : s.fixed_set_params with
  | some table => simpa only [prepareTable, htable] using hs
  | none =>
    have hspec := triple_allocate grants s.heap hs.heap
    have hempty : s.table = [] := hs.noTable htable
    have hdevices : s.devices = [] := by
      rw [List.eq_nil_iff_forall_not_mem]
      intro d hd
      simpa [htable] using (hs.device d hd).2.2
    simp only [prepareTable, htable]
    refine { hs with heap := ?_, size := ?_, noTable := ?_, device := ?_, slot := ?_ }
    · simp only [hempty, htable, blocks_nil] at hspec ⊢
      have htable' : blocks (if (allocate grants s.heap).1.isSome then
          List.replicate s.num_cameras.toInt.toNat none else []) = 0 := by
        split
        · exact blocks_replicate_none _
        · rfl
      rw [htable']
      convert hspec using 1
      simp only [block]
      abel
    · intro hsome
      simp only at hsome ⊢
      rw [if_pos hsome, List.length_replicate, hcount]
    · intro hnull
      simp only at hnull ⊢
      rw [hnull]
      rfl
    · rw [hdevices]
      exact fun d hd => by cases hd
    · intro i p hp
      simp only at hp
      split at hp
      · rw [List.getElem?_replicate] at hp
        split at hp <;> cases hp
      · cases hp

theorem accounted_openDevice {camera_id vendorOpen : Int32} (hs : Accounted cameras s)
    (htable : s.fixed_set_params.isSome = true) (hlo : 0 ≤ camera_id)
    (hhi : vendorOpen = 0 → camera_id < cameras) :
    Accounted cameras (openDevice grants s camera_id vendorOpen).1 := by
  have haddress := triple_allocate grants s.heap hs.heap
  have hvendor := triple_allocate (fun _ => vendorOpen = 0) s.vendorHeap hs.vendorHeap
  simp only [openDevice]
  split
  · next heap heq =>
    rw [heq] at haddress
    exact { hs with heap := by convert haddress using 1; exact (zero_add _).symm }
  · next address heap heq =>
    rw [heq] at haddress
    have hfreed := triple_free (some address) heap haddress
    split
    · next vendorHeap hveq =>
      rw [hveq] at hvendor
      exact { hs with
        heap := hfreed
        vendorHeap := by convert hvendor using 1; exact (zero_add _).symm }
    · next vendor vendorHeap hveq =>
      rw [hveq] at hvendor
      have hops := triple_allocate grants heap haddress
      split
      · next heap' hoeq =>
        -- the vendor's device stays open
        rw [hoeq] at hops
        have hfreed := triple_free (some address) heap' (by
          convert hops using 1
          exact (zero_add _).symm)
        refine { hs with heap := hfreed, vendorHeap := ?_ }
        rw [blocks_cons]
        convert hvendor using 1
        abel
      · next ops heap' hoeq =>
        rw [hoeq] at hops
        have hopen : vendorOpen = 0 := by
          by_contra hno
          simp [allocate, hno] at hveq
        refine { hs with heap := ?_, vendorHeap := ?_, device := ?_, slot := ?_ }
        · rw [deviceBlocks_cons]
          convert hops using 1
          abel
        · rw [vendorBlocks, List.map_cons, blocks_cons, ← vendorBlocks]
          convert hvendor using 1
          abel
        · rw [List.forall_mem_cons]
          exact ⟨⟨hlo, hhi hopen, htable⟩, hs.device⟩
        · intro i p hp
          obtain ⟨d, hd, hi⟩ := hs.slot i p hp
          exact ⟨d, List.mem_cons_of_mem _ hd, hi⟩

theorem num_cameras_count (hs : Accounted cameras s) :
    (countCameras cameras s).num_cameras = cameras := by
  simp only [countCameras]
  split
  · rfl
  · next hne => exact hs.count.resolve_left hne

theorem num_cameras_prepare : (prepareTable grants s).num_cameras = s.num_cameras := by
  unfold prepareTable
  split <;> rfl

theorem accounted_open {name : String8} {hw vendorOpen : Int32} (hs : Accounted cameras s)
    (hcamera : vendorOpen = 0 → atoi abi name ≠ cameras) :
    Accounted cameras (camera_device_open grants abi cameras s name hw vendorOpen).1 := by
  have hchecked : Accounted cameras (check_vendor_module s hw) := { hs with }
  have hnum := num_cameras_count hchecked
  have hcounted : Accounted cameras (countCameras cameras (check_vendor_module s hw)) :=
    { hs with count := .inr hnum }
  have hprepared := accounted_prepare grants hcounted hnum
  rw [camera_device_open]
  split
  · exact hchecked
  · rw [openCamera]
    split
    · exact hprepared
    · next htable =>
      split
      · exact hprepared
      · next hrange =>
        rw [num_cameras_prepare, hnum, not_or, Int32.not_lt, Int32.not_lt] at hrange
        refine accounted_openDevice hprepared ?_ hrange.1 fun hopen =>
          Int32.lt_of_le_of_ne hrange.2 (hcamera hopen)
        rwa [Option.isNone_iff_eq_none, ← Ne, Option.ne_none_iff_isSome] at htable

theorem accounted_initial : Accounted cameras Wrapper.initial where
  heap := ⟨rfl, rfl⟩
  vendorHeap := ⟨rfl, rfl⟩
  count := .inl rfl
  size h := by cases h
  noTable _ := rfl
  device d hd := by cases hd
  slot i p hp := by cases hp
  inBounds := rfl

theorem accounted_step (hs : Accounted cameras s) (hok : HasCamera abi cameras s a)
    (h : s.step grants abi cameras a = some t) : Accounted cameras t := by
  cases a with
  | camera_device_open name hw vendorOpen =>
    cases h
    exact accounted_open hs hok
  | camera_set_parameters d =>
    obtain ⟨hd, ht⟩ := Option.ite_none_right_eq_some.mp h
    cases ht
    exact accounted_set hs hd
  | camera_get_parameters d =>
    obtain ⟨hd, ht⟩ := Option.ite_none_right_eq_some.mp h
    cases ht
    exact accounted_get grants hs hd
  | camera_put_parameters p =>
    obtain ⟨hp, ht⟩ := Option.ite_none_right_eq_some.mp h
    cases ht
    exact accounted_put hs hp
  | camera_start_recording d =>
    obtain ⟨hd, ht⟩ := Option.ite_none_right_eq_some.mp h
    cases ht
    exact accounted_start hs hd
  | vendorCall d =>
    obtain ⟨hd, ht⟩ := Option.ite_none_right_eq_some.mp h
    cases ht
    exact accounted_call hs hd
  | camera_device_close d =>
    obtain ⟨hd, ht⟩ := Option.ite_none_right_eq_some.mp h
    cases ht
    exact accounted_close hs hd

/-! ### What is left behind -/

def Action.startsRecording : Action → Bool
  | .camera_start_recording _ => true
  | _ => false

theorem lost_openCamera {camera_id vendorOpen : Int32} :
    (openCamera grants s camera_id vendorOpen).1.lost = s.lost := by
  unfold openCamera openDevice
  split
  · rfl
  · split
    · rfl
    · split
      · rfl
      · split
        · rfl
        · split <;> rfl

theorem lost_open {name : String8} {hw vendorOpen : Int32} :
    (camera_device_open grants abi cameras s name hw vendorOpen).1.lost = s.lost := by
  have hprepare : ∀ u : Wrapper, (prepareTable grants u).lost = u.lost := by
    intro u
    unfold prepareTable
    split <;> rfl
  rw [camera_device_open]
  split
  · rfl
  · rw [lost_openCamera, hprepare]
    rfl

/-- One string for every recording. -/
theorem lost_step (h : s.step grants abi cameras a = some t) :
    t.lost.length = s.lost.length + if a.startsRecording then 1 else 0 := by
  cases a with
  | camera_device_open name hw vendorOpen =>
    cases h
    exact congrArg List.length lost_open
  | camera_set_parameters d =>
    obtain ⟨-, ht⟩ := Option.ite_none_right_eq_some.mp h
    cases ht
    unfold camera_set_parameters
    split <;> rfl
  | camera_get_parameters d =>
    obtain ⟨-, ht⟩ := Option.ite_none_right_eq_some.mp h
    cases ht
    rfl
  | camera_put_parameters p =>
    obtain ⟨-, ht⟩ := Option.ite_none_right_eq_some.mp h
    cases ht
    rfl
  | camera_start_recording d =>
    obtain ⟨-, ht⟩ := Option.ite_none_right_eq_some.mp h
    cases ht
    rfl
  | vendorCall d =>
    obtain ⟨-, ht⟩ := Option.ite_none_right_eq_some.mp h
    cases ht
    rfl
  | camera_device_close d =>
    obtain ⟨-, ht⟩ := Option.ite_none_right_eq_some.mp h
    cases ht
    unfold camera_device_close
    split <;> rfl

theorem lost_run (h : Machine.run (Wrapper.step grants abi cameras) s as = some t) :
    t.lost.length = s.lost.length + as.countP Action.startsRecording := by
  induction as generalizing s with
  | nil =>
    cases h
    rfl
  | cons a as ih =>
    obtain ⟨u, hu, h⟩ := Option.bind_eq_some_iff.mp h
    rw [ih h, lost_step hu, List.countP_cons]
    omega

/-- Nothing is forgotten, and no null pointer read, while there is memory. -/
structure Kept (s : Wrapper) : Prop where
  abandoned : s.abandoned = []
  lost : none ∉ s.lost

theorem allocate_granted (hgrants : ∀ n, grants n = true) (h : Heap) :
    ∃ a, (allocate grants h).1 = some a := by
  unfold allocate
  rw [if_pos (hgrants _)]
  exact ⟨_, rfl⟩

theorem kept_open {name : String8} {hw vendorOpen : Int32} (hgrants : ∀ n, grants n = true)
    (hs : Kept s) : Kept (camera_device_open grants abi cameras s name hw vendorOpen).1 := by
  refine ⟨?_, by rw [lost_open]; exact hs.lost⟩
  have hprepare : ∀ u : Wrapper, (prepareTable grants u).abandoned = u.abandoned := by
    intro u
    unfold prepareTable
    split <;> rfl
  have hdevice : ∀ (u : Wrapper) (camera_id : Int32), u.abandoned = [] →
      (openCamera grants u camera_id vendorOpen).1.abandoned = [] := by
    intro u camera_id hu
    unfold openCamera openDevice
    split
    · exact hu
    · split
      · exact hu
      · split
        · exact hu
        · split
          · exact hu
          · next heap _ _ _ _ _ =>
            split
            · next heq =>
              obtain ⟨ops, hops⟩ := allocate_granted hgrants heap
              rw [heq] at hops
              cases hops
            · exact hu
  rw [camera_device_open]
  split
  · exact hs.abandoned
  · exact hdevice _ _ ((hprepare _).trans hs.abandoned)

theorem kept_step (hgrants : ∀ n, grants n = true) (hs : Kept s)
    (h : s.step grants abi cameras a = some t) : Kept t := by
  cases a with
  | camera_device_open name hw vendorOpen =>
    cases h
    exact kept_open hgrants hs
  | camera_set_parameters d =>
    obtain ⟨-, ht⟩ := Option.ite_none_right_eq_some.mp h
    cases ht
    unfold camera_set_parameters
    split <;> exact ⟨hs.abandoned, hs.lost⟩
  | camera_get_parameters d =>
    obtain ⟨-, ht⟩ := Option.ite_none_right_eq_some.mp h
    cases ht
    exact ⟨hs.abandoned, hs.lost⟩
  | camera_put_parameters p =>
    obtain ⟨-, ht⟩ := Option.ite_none_right_eq_some.mp h
    cases ht
    exact ⟨hs.abandoned, hs.lost⟩
  | camera_start_recording d =>
    obtain ⟨-, ht⟩ := Option.ite_none_right_eq_some.mp h
    cases ht
    refine ⟨hs.abandoned, fun hmem => ?_⟩
    obtain ⟨p, hp⟩ : ∃ p, (camera_get_parameters grants s d).1 = some p :=
      allocate_granted hgrants _
    have hmem : none ∈ (camera_get_parameters grants s d).1 :: s.lost := hmem
    rw [hp] at hmem
    exact hs.lost (List.mem_of_ne_of_mem (by simp) hmem)
  | vendorCall d =>
    obtain ⟨-, ht⟩ := Option.ite_none_right_eq_some.mp h
    cases ht
    exact ⟨hs.abandoned, hs.lost⟩
  | camera_device_close d =>
    obtain ⟨-, ht⟩ := Option.ite_none_right_eq_some.mp h
    cases ht
    unfold camera_device_close
    split <;> exact ⟨hs.abandoned, hs.lost⟩

/-- The device of the first open, behind the table. -/
def firstDevice : Device := { address := 1, id := 0, vendor := 0, ops := some 2 }

def oneRecording : List Action :=
  [.camera_device_open "0".toList 0 0, .camera_start_recording firstDevice,
    .camera_get_parameters firstDevice, .camera_put_parameters (some 4),
    .camera_device_close firstDevice]

end CameraWrapper.Memory
