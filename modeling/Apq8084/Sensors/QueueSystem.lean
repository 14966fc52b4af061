import Apq8084.Sensors.SensorEventQueue

/-! One writer and one reader of a `SensorEventQueue`. Every critical section of `queue_mutex`
is one step, and so is every record that the sub-HAL stores through the region's pointer while
it holds no lock. -/
namespace Apq8084.Sensors.QueueSystem

universe u
variable {ε : Type u}

/-- Where `writerTask` stands; `count` records of the region have been stored so far. -/
inductive Writer where
  | idle
  | filling (out : Option Int) (len : Int) (count : Nat)
deriving DecidableEq

structure State (ε : Type u) where
  queue : SensorEventQueue ε
  writer : Writer
  /-- Every record stored by the writer, oldest first. -/
  written : List ε
  /-- Every record freed by the reader, oldest first. -/
  dequeued : List ε

inductive Action (ε : Type u) where
  | getWritableRegion (requestedLength : Int)
  | write (e : ε)
  | markAsWritten
  | peek
  | dequeue

def initial (capacity : Int) (mData : Int → ε) : State ε :=
  { queue := .new capacity mData, writer := .idle, written := [], dequeued := [] }

def step (s : State ε) : Action ε → Option (State ε)
  | .getWritableRegion requestedLength =>
    match s.writer with
    | .idle =>
      if requestedLength ≤ s.queue.mCapacity then
        let (len, out) := s.queue.getWritableRegion requestedLength
        some { s with writer := .filling out len 0 }
      else none
    | .filling .. => none
  | .write e =>
    match s.writer with
    | .filling (some first) len count =>
      if count < len then
        some { s with
          queue := s.queue.store (first + count) e
          writer := .filling (some first) len (count + 1)
          written := s.written ++ [e] }
      else none
    | _ => none
  | .markAsWritten =>
    match s.writer with
    | .filling _ _ count =>
      some { s with queue := s.queue.markAsWritten count, writer := .idle }
    | .idle => none
  | .peek => some s
  | .dequeue =>
    some { s with
      queue := s.queue.dequeue
      dequeued := s.dequeued ++ (s.queue.peek.map s.queue.mData).toList }

/-- What the outstanding region, if there is one, looks like. -/
def WriterValid (q : SensorEventQueue ε) : Writer → Prop
  | .idle => True
  | .filling none len count => len = 0 ∧ count = 0
  | .filling (some first) len count => 1 ≤ len ∧ count ≤ len ∧ q.Region first len

/-- The records stored in the outstanding region and not yet marked. -/
def unmarked (s : State ε) : List ε :=
  match s.writer with
  | .filling (some first) _ count => Ring.segment s.queue.mData first count
  | _ => []

/-- The array and its indices represent an abstract queue with an open batch. -/
structure Represents (capacity : Int) (s : State ε) (x : Fifo ε) : Prop where
  valid : s.queue.Valid capacity
  writer : WriterValid s.queue s.writer
  popped : x.popped = s.dequeued
  queue : x.queue = s.queue.readable
  batch : x.batch = unmarked s
  received : x.received = s.written

variable {capacity : Int} {s t : State ε} {x : Fifo ε}

theorem represents_initial {mData : Int → ε} (h : 1 ≤ capacity) :
    Represents capacity (initial capacity mData) ⟨[], [], []⟩ where
  valid := SensorEventQueue.new_valid h
  writer := trivial
  popped := rfl
  queue := rfl
  batch := rfl
  received := rfl

theorem getWritableRegion_refines (hx : Represents capacity s x) {requestedLength : Int}
    (h : step s (.getWritableRegion requestedLength) = some t) : Represents capacity t x := by
  obtain ⟨hv, hw, hp, hq, hb, hr⟩ := hx
  cases hwr : s.writer with
  | filling => simp [step, hwr] at h
  | idle =>
    rcases hout : s.queue.getWritableRegion requestedLength with ⟨len, out⟩
    simp only [step, hwr, hout] at h
    split at h <;> cases h
    have hspec := SensorEventQueue.getWritableRegion_spec hv requestedLength rfl
    simp only [hout] at hspec
    have hbatch : x.batch = [] := by simpa [unmarked, hwr] using hb
    obtain ⟨rfl, rfl, _⟩ | ⟨hlen, _, first, rfl, hregion⟩ := hspec
    · exact ⟨hv, ⟨rfl, rfl⟩, hp, hq, hbatch, hr⟩
    · exact ⟨hv, ⟨hlen, by omega, hregion⟩, hp, hq, hbatch, hr⟩

theorem write_refines (hx : Represents capacity s x) {e : ε}
    (h : step s (.write e) = some t) :
    ∃ y, x.step (.put e) = some y ∧ Represents capacity t y := by
  obtain ⟨hv, hw, hp, hq, hb, hr⟩ := hx
  cases hwr : s.writer with
  | idle => simp [step, hwr] at h
  | filling out len count =>
    cases out with
    | none => simp [step, hwr] at h
    | some first =>
      simp only [step, hwr] at h
      split at h <;> cases h
      rename_i hcount
      simp only [hwr, WriterValid] at hw
      obtain ⟨hlen, _, hregion⟩ := hw
      have hput : x.step (.put e) = some { x with batch := x.batch ++ [e] } := rfl
      refine ⟨_, hput, SensorEventQueue.store_valid hv, ?_, hp, ?_, ?_, ?_⟩
      · exact ⟨hlen, by omega, SensorEventQueue.store_region hregion⟩
      · exact hq.trans (SensorEventQueue.store_readable hv hregion hcount).symm
      · simp only [unmarked, hwr] at hb
        rw [hb]
        exact Ring.segment_update.symm
      · rw [Fifo.step_received hput, hr]
        rfl

theorem markAsWritten_refines (hx : Represents capacity s x)
    (h : step s .markAsWritten = some t) :
    ∃ y, x.step .commit = some y ∧ Represents capacity t y := by
  obtain ⟨hv, hw, hp, hq, hb, hr⟩ := hx
  cases hwr : s.writer with
  | idle => simp [step, hwr] at h
  | filling out len count =>
    simp only [step, hwr, Option.some.injEq] at h
    subst h
    have hcommit : x.step .commit = some { x with queue := x.queue ++ x.batch, batch := [] } := rfl
    have hreceived := Fifo.step_received hcommit
    rw [hr, Fifo.puts, Fifo.puts, List.append_nil] at hreceived
    cases out with
    | none =>
      simp only [hwr, WriterValid] at hw
      obtain ⟨rfl, rfl⟩ := hw
      have hbatch : x.batch = [] := by simpa [unmarked, hwr] using hb
      refine ⟨_, hcommit, by simpa using hv, trivial, hp, ?_, rfl, hreceived⟩
      simpa [hbatch] using hq
    | some first =>
      simp only [hwr, WriterValid] at hw
      obtain ⟨hlen, hcount, hregion⟩ := hw
      have hread := SensorEventQueue.markAsWritten_readable hv hregion hcount
      simp only [unmarked, hwr] at hb
      refine ⟨_, hcommit, SensorEventQueue.markAsWritten_valid hv hregion hcount, trivial, hp, ?_,
        rfl, hreceived⟩
      simp only [hread, hq, hb]

theorem dequeue_refines (hx : Represents capacity s x) (h : step s .dequeue = some t) :
    ∃ y, x.step .pop = some y ∧ Represents capacity t y := by
  obtain ⟨hv, hw, hp, hq, hb, hr⟩ := hx
  simp only [step, Option.some.injEq] at h
  subst h
  have hwriter : WriterValid s.queue.dequeue s.writer := by
    cases hwr : s.writer with
    | idle => trivial
    | filling out len count =>
      rw [hwr] at hw
      cases out with
      | none => exact hw
      | some first => exact ⟨hw.1, hw.2.1, SensorEventQueue.dequeue_region hv hw.2.2⟩
  have hvd := SensorEventQueue.dequeue_valid hv
  have hdata : s.queue.dequeue.mData = s.queue.mData := by
    unfold SensorEventQueue.dequeue
    split <;> rfl
  have hbatch : x.batch = unmarked { s with queue := s.queue.dequeue } := by
    simpa only [unmarked, hdata] using hb
  by_cases hne : s.queue.mSize = 0
  · have hempty : x.queue = [] := hq.trans (SensorEventQueue.readable_of_empty hne)
    have hsame : s.queue.dequeue = s.queue := by simp [SensorEventQueue.dequeue, hne]
    refine ⟨x, by simp [Fifo.step, hempty], hvd, hwriter, ?_, ?_, hbatch, hr⟩
    · simpa [SensorEventQueue.peek, hne] using hp
    · rw [hsame]
      exact hq
  · have hread := SensorEventQueue.dequeue_readable hv hne
    have hcons : x.queue = s.queue.mData s.queue.mStart :: s.queue.dequeue.readable :=
      hq.trans hread
    have hpop : x.step .pop = some ⟨x.popped ++ [s.queue.mData s.queue.mStart],
        s.queue.dequeue.readable, x.batch⟩ := by
      simp only [Fifo.step, hcons]
    refine ⟨_, hpop, hvd, hwriter, ?_, rfl, hbatch, ?_⟩
    · simp [SensorEventQueue.peek, hne, hp]
    · rw [Fifo.step_received hpop, hr]
      exact List.append_nil _

/-- Every step of the two threads is at most one operation of the abstract queue. -/
theorem step_refines (s : State ε) (x : Fifo ε) (a : Action ε) (t : State ε)
    (hx : Represents capacity s x) (h : step s a = some t) :
    ∃ ops y, Machine.run Fifo.step x ops = some y ∧ Represents capacity t y := by
  cases a with
  | getWritableRegion requestedLength =>
    exact ⟨[], x, rfl, getWritableRegion_refines hx h⟩
  | write e =>
    obtain ⟨y, hy, ht⟩ := write_refines hx h
    exact ⟨[.put e], y, by simp [hy], ht⟩
  | markAsWritten =>
    obtain ⟨y, hy, ht⟩ := markAsWritten_refines hx h
    exact ⟨[.commit], y, by simp [hy], ht⟩
  | peek =>
    cases h
    exact ⟨[], x, rfl, hx⟩
  | dequeue =>
    obtain ⟨y, hy, ht⟩ := dequeue_refines hx h
    exact ⟨[.pop], y, by simp [hy], ht⟩

/-- Every reachable state represents an abstract queue. -/
theorem run_represents {mData : Int → ε} {as : List (Action ε)} (hcap : 1 ≤ capacity)
    (h : Machine.run step (initial capacity mData) as = some s) :
    ∃ x, Represents capacity s x := by
  obtain ⟨_, x, _, hx⟩ := Machine.run_refines step_refines h (represents_initial hcap)
  exact ⟨x, hx⟩

/-- The queue is a FIFO under a concurrent writer: its indices stay in range, an outstanding
region stays inside the array and apart from the readable slots, a request for at least one
record gets one while there is space, and records leave in the order in which they came. -/
theorem queue_fifo {mData : Int → ε} {as : List (Action ε)} (hcap : 1 ≤ capacity)
    (h : Machine.run step (initial capacity mData) as = some s) :
    s.queue.mCapacity = capacity ∧
    (0 ≤ s.queue.mStart ∧ s.queue.mStart < s.queue.mCapacity ∧
      0 ≤ s.queue.mSize ∧ s.queue.mSize ≤ s.queue.mCapacity) ∧
    (∀ out len count, s.writer = .filling out len count → 0 < len →
      ∃ first, out = some first ∧ 0 ≤ first ∧ first + len ≤ s.queue.mCapacity ∧
        ∀ i, 0 ≤ i → i < s.queue.mSize →
          s.queue.readableSlot i < first ∨ first + len ≤ s.queue.readableSlot i) ∧
    (∀ requestedLength, 1 ≤ requestedLength → requestedLength ≤ s.queue.mCapacity →
      s.queue.mSize < s.queue.mCapacity → 1 ≤ (s.queue.getWritableRegion requestedLength).1) ∧
    s.queue.peek.map s.queue.mData = s.queue.readable.head? ∧
    s.dequeued <+: s.written ∧
    s.written = s.dequeued ++ s.queue.readable ++ unmarked s := by
  obtain ⟨x, hv, hw, hp, hq, hb, hr⟩ := run_represents hcap h
  refine ⟨hv.capacity_eq, ⟨hv.start_nonneg, hv.start_lt, hv.size_nonneg, hv.size_le⟩, ?_, ?_,
    SensorEventQueue.peek_readable hv, ?_, ?_⟩
  · intro out len count hwr hlen
    rw [hwr] at hw
    cases out with
    | none =>
      have := hw.1
      omega
    | some first =>
      exact ⟨first, rfl, hw.2.2.nonneg hv, hw.2.2.first_add_le,
        fun i hi him => hw.2.2.disjoint hv hi him⟩
  · intro requestedLength hreq _ hsize
    obtain ⟨_, _, hfull | hzero⟩ | ⟨hlen, _⟩ :=
      SensorEventQueue.getWritableRegion_spec hv requestedLength rfl
    · omega
    · omega
    · exact hlen
  · rw [← hp, ← hr]
    exact x.popped_prefix
  · rw [← hr, Fifo.received, hp, hq, hb]

/-- A region is outstanding while the reader frees two slots and the start wraps round. -/
theorem queue_fifo_wrap :
    ∃ s : State Nat, s.dequeued = [7, 8, 9] ∧ s.dequeued <+: s.written := by
  have hrun : Machine.run step (initial 3 fun _ => 0)
      [.getWritableRegion 3, .write 7, .write 8, .write 9, .markAsWritten, .dequeue,
        .getWritableRegion 3, .dequeue, .write 10, .markAsWritten, .dequeue] = some _ := rfl
  exact ⟨_, rfl, (queue_fifo (by decide) hrun).2.2.2.2.2.1⟩

/-- A request for no record gets none, whatever space there is. -/
theorem getWritableRegion_empty_request :
    ¬ ∀ (capacity requestedLength : Int), 1 ≤ capacity → requestedLength ≤ capacity →
      ∀ (as : List (Action Nat)) (s : State Nat),
        Machine.run step (initial capacity fun _ => 0) as = some s →
        s.queue.mSize < s.queue.mCapacity →
        1 ≤ (s.queue.getWritableRegion requestedLength).1 := by
  intro h
  exact absurd (h 1 0 (by decide) (by decide) [] _ rfl (by decide)) (by decide)

end Apq8084.Sensors.QueueSystem
