import Apq8084.Lib.Fifo
import Apq8084.Lib.Ring

/-! The fixed-size circular queue between one sub-HAL writer and `poll`
(`sensors/SensorEventQueue.cpp`). Indices are C ints. No sum below overflows: the constructor
allocated `mCapacity` records, so `2 * mCapacity` is far below `INT_MAX`. -/
namespace Apq8084.Sensors

universe u
variable {ε : Type u}

structure SensorEventQueue (ε : Type u) where
  mCapacity : Int
  mStart : Int
  mSize : Int
  /-- The array; an index names a cell, also one outside `[0, mCapacity)`. -/
  mData : Int → ε

namespace SensorEventQueue

variable {q : SensorEventQueue ε}

def new (capacity : Int) (mData : Int → ε) : SensorEventQueue ε :=
  { mCapacity := capacity, mStart := 0, mSize := 0, mData }

/-- Returns the length of the region and the out-pointer, an index into `mData` or `NULL`. -/
def getWritableRegion (q : SensorEventQueue ε) (requestedLength : Int) : Int × Option Int :=
  if q.mSize = q.mCapacity ∨ requestedLength ≤ 0 then
    (0, none)
  else
    let firstWritable := (q.mStart + q.mSize).tmod q.mCapacity
    let lastWritable := firstWritable + requestedLength - 1
    -- Don't go past the end of the data array.
    let lastWritable := if lastWritable > q.mCapacity - 1 then q.mCapacity - 1 else lastWritable
    -- Don't go into the readable region.
    let lastWritable :=
      if firstWritable < q.mStart ∧ lastWritable ≥ q.mStart then q.mStart - 1 else lastWritable
    (lastWritable - firstWritable + 1, some firstWritable)

def markAsWritten (q : SensorEventQueue ε) (count : Int) : SensorEventQueue ε :=
  { q with mSize := q.mSize + count }

/-- A pointer to the first readable record, or `NULL`. -/
def peek (q : SensorEventQueue ε) : Option Int :=
  if q.mSize = 0 then none else some q.mStart

def dequeue (q : SensorEventQueue ε) : SensorEventQueue ε :=
  if q.mSize = 0 then q
  else { q with mSize := q.mSize - 1, mStart := (q.mStart + 1).tmod q.mCapacity }

/-- A record stored through a pointer into the array. -/
def store (q : SensorEventQueue ε) (p : Int) (e : ε) : SensorEventQueue ε :=
  { q with mData := Function.update q.mData p e }

/-- The slot of the `i`-th readable record. -/
def readableSlot (q : SensorEventQueue ε) (i : Int) : Int := Ring.slot q.mCapacity q.mStart i

/-- The readable records in the order in which `dequeue` frees them. -/
def readable (q : SensorEventQueue ε) : List ε :=
  Ring.contents q.mData q.mCapacity q.mStart q.mSize.toNat

/-- The class invariant of a queue of capacity `capacity`. -/
structure Valid (capacity : Int) (q : SensorEventQueue ε) : Prop where
  capacity_eq : q.mCapacity = capacity
  start_nonneg : 0 ≤ q.mStart
  start_lt : q.mStart < q.mCapacity
  size_nonneg : 0 ≤ q.mSize
  size_le : q.mSize ≤ q.mCapacity

/-- A region handed out earlier still starts right behind the readable records, has room for
all its records, and does not pass the end of the array. -/
structure Region (q : SensorEventQueue ε) (first len : Int) : Prop where
  first_eq : first = q.readableSlot q.mSize
  first_add_le : first + len ≤ q.mCapacity
  size_add_le : q.mSize + len ≤ q.mCapacity

theorem new_valid {capacity : Int} {mData : Int → ε} (h : 1 ≤ capacity) :
    (new capacity mData).Valid capacity where
  capacity_eq := rfl
  start_nonneg := Int.le_refl 0
  start_lt := by simp [new]; omega
  size_nonneg := Int.le_refl 0
  size_le := by simp [new]; omega

variable {capacity first len : Int}

theorem Region.nonneg (hv : q.Valid capacity) (hr : q.Region first len) : 0 ≤ first := by
  rw [hr.first_eq]
  exact Ring.slot_nonneg hv.start_nonneg hv.start_lt hv.size_nonneg hv.size_le

/-- The three clips of the last index never cut the region to nothing. -/
theorem getWritableRegion_spec (hv : q.Valid capacity) (requestedLength : Int)
    (hlen : (q.getWritableRegion requestedLength).1 = len) :
    (len = 0 ∧ (q.getWritableRegion requestedLength).2 = none ∧
      (q.mSize = q.mCapacity ∨ requestedLength ≤ 0)) ∨
    (1 ≤ len ∧ len ≤ requestedLength ∧
      ∃ first, (q.getWritableRegion requestedLength).2 = some first ∧ q.Region first len) := by
  obtain ⟨hc, hs, hsc, hz, hzc⟩ := hv
  have hslot := Ring.slot_eq hs hsc hz hzc
  by_cases hnone : q.mSize = q.mCapacity ∨ requestedLength ≤ 0
  · left
    simp only [getWritableRegion, if_pos hnone] at hlen ⊢
    exact ⟨hlen.symm, trivial, by omega⟩
  · right
    simp only [getWritableRegion, if_neg hnone, Option.some.injEq, exists_eq_left'] at hlen ⊢
    change (q.mStart + q.mSize).tmod q.mCapacity = _ at hslot
    generalize hf : (q.mStart + q.mSize).tmod q.mCapacity = f at hslot hlen ⊢
    have hbounds : 1 ≤ len ∧ len ≤ requestedLength ∧ f + len ≤ q.mCapacity ∧
        q.mSize + len ≤ q.mCapacity := by
      split at hslot <;> split at hlen <;> split at hlen <;> omega
    exact ⟨hbounds.1, hbounds.2.1, hf.symm, hbounds.2.2.1, hbounds.2.2.2⟩

/-- No readable record lies in a region that has been handed out. -/
theorem Region.disjoint (hv : q.Valid capacity) (hr : q.Region first len) {i : Int}
    (hi : 0 ≤ i) (him : i < q.mSize) :
    q.readableSlot i < first ∨ first + len ≤ q.readableSlot i := by
  obtain ⟨hc, hs, hsc, hz, hzc⟩ := hv
  obtain ⟨hf, hfl, hsl⟩ := hr
  have h0 := Ring.slot_eq hs hsc hi (by omega)
  have h1 := Ring.slot_eq hs hsc hz hzc
  simp only [readableSlot] at hf ⊢
  split at h0 <;> split at h1 <;> omega

theorem store_valid (hv : q.Valid capacity) {p : Int} {e : ε} : (q.store p e).Valid capacity :=
  ⟨hv.capacity_eq, hv.start_nonneg, hv.start_lt, hv.size_nonneg, hv.size_le⟩

theorem store_region (hr : q.Region first len) {p : Int} {e : ε} :
    (q.store p e).Region first len :=
  ⟨hr.first_eq, hr.first_add_le, hr.size_add_le⟩

/-- A store into the region is invisible until it is marked. -/
theorem store_readable (hv : q.Valid capacity) (hr : q.Region first len) {k : Nat}
    (hk : (k : Int) < len) {e : ε} : (q.store (first + k) e).readable = q.readable := by
  apply Ring.contents_update
  intro i hi
  change i < q.mSize.toNat at hi
  change q.readableSlot i ≠ first + k
  have hsize := hv.size_nonneg
  have hdisjoint := hr.disjoint hv (i := i) (by omega) (by omega)
  omega

theorem markAsWritten_valid (hv : q.Valid capacity) (hr : q.Region first len) {k : Nat}
    (hk : (k : Int) ≤ len) : (q.markAsWritten k).Valid capacity := by
  obtain ⟨hc, hs, hsc, hz, hzc⟩ := hv
  have hsl := hr.size_add_le
  exact ⟨hc, hs, hsc, by simp only [markAsWritten]; omega, by simp only [markAsWritten]; omega⟩

/-- A writer that stored nothing marks nothing. -/
@[simp] theorem markAsWritten_zero : q.markAsWritten 0 = q := by
  simp [markAsWritten]

/-- Marking makes the first `k` records of the region readable, behind the others. -/
theorem markAsWritten_readable (hv : q.Valid capacity) (hr : q.Region first len) {k : Nat}
    (hk : (k : Int) ≤ len) :
    (q.markAsWritten k).readable = q.readable ++ Ring.segment q.mData first k := by
  obtain ⟨hc, hs, hsc, hz, hzc⟩ := hv
  obtain ⟨hf, hfl, hsl⟩ := hr
  have hnat : (q.mSize + (k : Int)).toNat = q.mSize.toNat + k := by omega
  simp only [readable, markAsWritten, hnat]
  apply Ring.contents_add hs hsc
  · rw [Int.toNat_of_nonneg hz]
    exact hf
  · omega
  · omega

theorem dequeue_valid (hv : q.Valid capacity) : q.dequeue.Valid capacity := by
  obtain ⟨hc, hs, hsc, hz, hzc⟩ := hv
  unfold dequeue
  split
  · exact ⟨hc, hs, hsc, hz, hzc⟩
  · have hn := Ring.slot_nonneg (i := 1) hs hsc (by omega) (by omega)
    have hl := Ring.slot_lt (i := 1) hs hsc (by omega) (by omega)
    exact ⟨hc, hn, hl, by simp only; omega, by simp only; omega⟩

/-- Advancing `mStart` and shrinking `mSize` leave an outstanding region where it was. -/
theorem dequeue_region (hv : q.Valid capacity) (hr : q.Region first len) :
    q.dequeue.Region first len := by
  obtain ⟨hc, hs, hsc, hz, hzc⟩ := hv
  obtain ⟨hf, hfl, hsl⟩ := hr
  unfold dequeue
  split
  · exact ⟨hf, hfl, hsl⟩
  · refine ⟨?_, hfl, by simp only; omega⟩
    have hadv := Ring.slot_advance (i := q.mSize - 1) hs hsc (by omega) (by omega)
    rw [Int.sub_add_cancel] at hadv
    exact hf.trans hadv.symm

theorem dequeue_readable (hv : q.Valid capacity) (hne : q.mSize ≠ 0) :
    q.readable = q.mData q.mStart :: q.dequeue.readable := by
  obtain ⟨hc, hs, hsc, hz, hzc⟩ := hv
  have hnat : q.mSize.toNat = (q.mSize - 1).toNat + 1 := by omega
  simp only [readable, dequeue, if_neg hne]
  rw [hnat]
  exact Ring.contents_succ_cons hs hsc (by omega)

theorem readable_of_empty (h : q.mSize = 0) : q.readable = [] := by
  simp [readable, h]

/-- `peek` points at the record that the next `dequeue` frees. -/
theorem peek_readable (hv : q.Valid capacity) : q.peek.map q.mData = q.readable.head? := by
  by_cases h : q.mSize = 0
  · simp [peek, h, readable_of_empty h]
  · simp [peek, h, dequeue_readable hv h]

end SensorEventQueue

end Apq8084.Sensors
