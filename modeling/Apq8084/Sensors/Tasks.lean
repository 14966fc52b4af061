import Apq8084.Sensors.Poll

/-! The writer tasks of the multi-HAL (`sensors/multihal.cpp`) and the thread that polls it
through `Sensors::poll` (`sensors/Sensors.cpp`). What a thread does under `queue_mutex` is one
step, up to the point where it waits on a condition variable. -/
namespace Apq8084.Sensors.Tasks

open MultiHal Poll

def SENSOR_EVENT_QUEUE_CAPACITY : Int := 36
def kPollMaxBufferSize : Int := 128

/-- Where a `writerTask` stands. -/
inductive Writer where
  /-- It will lock `queue_mutex`, at the top of its loop or back from `waitForSpace`. -/
  | ready
  /-- It waits on `mSpaceAvailableCondition`. -/
  | asleep
  /-- Its sub-HAL stores events through `buffer`. -/
  | polling (buffer : Option Int) (bufferSize : Int) (stored : List SensorsEvent)

/-- Where the thread that polls stands, and how many events it asked for. -/
inductive Poller where
  | away
  /-- It waits on `data_available_cond`. -/
  | asleep (maxReads : Nat)
  /-- It will lock `queue_mutex` again. -/
  | woken (maxReads : Nat)

structure State where
  queues : List (SensorEventQueue SensorsEvent)
  writers : Nat → Writer
  poller : Poller
  waitingForData : Bool
  nextReadIndex : Nat
  /-- A call of `Sensors::poll` found another one in progress. -/
  exited : Bool
  /-- The events that each sub-HAL reported, oldest first. -/
  reported : Nat → List SensorsEvent
  /-- The events that calls of `poll` returned, oldest first. -/
  delivered : List SensorsEvent

inductive Action where
  /-- Task `k` locks `queue_mutex` and looks for space. -/
  | lock (k : Nat)
  /-- The sub-HAL of task `k` stores a record. -/
  | store (k : Nat) (e : SensorsEvent)
  /-- The sub-HAL's `poll` returns to task `k`. -/
  | polled (k : Nat) (eventsPolled : Int)
  /-- The framework calls `Sensors::poll`; `fuel` bounds the turns of the inner loop. -/
  | poll (maxCount : Int) (fuel : Nat)
  /-- The poller goes on behind `pthread_cond_wait`. -/
  | resume (fuel : Nat)
  /-- `pthread_cond_wait` returns without a broadcast. -/
  | spuriousWriter (k : Nat)
  | spuriousPoller

def initial (n : Nat) (mData : Nat → Int → SensorsEvent) : State :=
  { queues := (List.range n).map fun k => .new SENSOR_EVENT_QUEUE_CAPACITY (mData k)
    writers := fun _ => .ready, poller := .away, waitingForData := false, nextReadIndex := 0
    exited := false, reported := fun _ => [], delivered := [] }

/-- Whoever waits on `data_available_cond` will lock the mutex. -/
def Poller.broadcast : Poller → Poller
  | .asleep maxReads => .woken maxReads
  | p => p

/-- `dequeue` broadcasts `mSpaceAvailableCondition`. -/
def dequeueBroadcasts (q : SensorEventQueue SensorsEvent) : Bool :=
  q.mSize ≠ 0 ∧ q.mSize = q.mCapacity

/-- The queues whose writers the loop of `poll` wakes; the loop is that of `scan`. -/
def broadcasts (hs : Handles) (maxReads : Nat) : Nat → Poll.State → List Nat
  | 0, _ => []
  | fuel + 1, s =>
    if s.empties < s.queues.length ∧ s.data.length < maxReads then
      (if s.queues[s.nextReadIndex]?.any dequeueBroadcasts then [s.nextReadIndex] else []) ++
        (body hs s).elim [] (broadcasts hs maxReads fuel)
    else []

def wake (ks : List Nat) (writers : Nat → Writer) (k : Nat) : Writer :=
  match writers k with
  | .asleep => if k ∈ ks then .ready else .asleep
  | w => w

/-- A turn of the outer loop of `sensors_poll_context_t::poll`. -/
def turn (hs : Handles) (maxReads fuel : Nat) (s : State) : Option State :=
  (Poll.poll hs maxReads fuel s.queues s.nextReadIndex).map fun (outcome, p) =>
    let start : Poll.State :=
      { queues := s.queues, nextReadIndex := s.nextReadIndex, empties := 0, data := [] }
    let s := { s with
      queues := p.queues
      nextReadIndex := p.nextReadIndex
      writers := wake (broadcasts hs maxReads fuel start) s.writers
      delivered := s.delivered ++ outcome.data }
    match outcome with
    | .returned _ => { s with poller := .away }
    | .waiting => { s with poller := .asleep maxReads, waitingForData := true }

/-- `waitForSpace` and `getWritableRegion`. -/
def lock (s : State) (k : Nat) (q : SensorEventQueue SensorsEvent) : State :=
  if q.mSize = q.mCapacity then { s with writers := Function.update s.writers k .asleep }
  else
    let (bufferSize, buffer) := q.getWritableRegion SENSOR_EVENT_QUEUE_CAPACITY
    { s with writers := Function.update s.writers k (.polling buffer bufferSize []) }

/-- `markAsWritten` and the broadcast. -/
def mark (s : State) (k : Nat) (q : SensorEventQueue SensorsEvent) (eventsPolled : Int)
    (stored : List SensorsEvent) : State :=
  { s with
    queues := s.queues.set k (q.markAsWritten eventsPolled)
    writers := Function.update s.writers k .ready
    poller := if s.waitingForData then s.poller.broadcast else s.poller
    reported := Function.update s.reported k (s.reported k ++ stored) }

/-- A sub-HAL stores no more than it has room for, and reports what it stored or an error. -/
def step (hs : Handles) (s : State) (a : Action) : Option State :=
  if s.exited then none
  else match a with
    | .lock k =>
      match s.queues[k]?, s.writers k with
      | some q, .ready => some (lock s k q)
      | _, _ => none
    | .store k e =>
      match s.queues[k]?, s.writers k with
      | some q, .polling (some first) bufferSize stored =>
        if stored.length < bufferSize then
          some { s with
            queues := s.queues.set k (q.store (first + stored.length) e)
            writers := Function.update s.writers k
              (.polling (some first) bufferSize (stored ++ [e])) }
        else none
      | _, _ => none
    | .polled k eventsPolled =>
      match s.queues[k]?, s.writers k with
      | some q, .polling _ _ stored =>
        if eventsPolled ≤ 0 then some { s with writers := Function.update s.writers k .ready }
        else if eventsPolled = stored.length then some (mark s k q eventsPolled stored)
        else none
      | _, _ => none
    | .poll maxCount fuel =>
      match s.poller with
      | .away =>
        -- otherwise `Sensors::poll` returns `BAD_VALUE`
        if 0 < maxCount then
          turn hs (if maxCount ≤ kPollMaxBufferSize then maxCount else kPollMaxBufferSize).toNat
            fuel s
        else some s
      | _ => some { s with exited := true }
    | .resume fuel =>
      match s.poller with
      | .woken maxReads => turn hs maxReads fuel { s with waitingForData := false }
      | _ => none
    | .spuriousWriter k => some { s with writers := wake [k] s.writers }
    | .spuriousPoller => some { s with poller := s.poller.broadcast }

/-- A writer sleeps only in front of a full queue; the records behind an open region are those
that its sub-HAL stored. -/
def WriterOk (q : SensorEventQueue SensorsEvent) : Writer → Prop
  | .ready => True
  | .asleep => q.mSize = q.mCapacity
  | .polling buffer bufferSize stored => ∃ first, buffer = some first ∧ 1 ≤ bufferSize ∧
      stored.length ≤ bufferSize ∧ q.Region first bufferSize ∧
      Ring.segment q.mData first stored.length = stored

/-- The poller sleeps only while all queues are empty, and then the writers know. -/
def PollerOk (s : State) : Prop :=
  match s.poller with
  | .away => s.waitingForData = false
  | .asleep maxReads => 1 ≤ maxReads ∧ s.waitingForData = true ∧ ∀ q ∈ s.queues, q.mSize = 0
  | .woken maxReads => 1 ≤ maxReads

/-- What the sub-HALs reported was delivered, dropped or is still queued. -/
def Lossless (hs : Handles) (s : State) : Prop :=
  ∃ taken : List Queued, s.delivered = (taken.filter (passes hs)).map (remap hs) ∧
    ∀ k, s.reported k = takenFrom taken k ++ contents s.queues k

structure Inv (hs : Handles) (n : Nat) (s : State) : Prop where
  length : s.queues.length = n
  valid : ∀ q ∈ s.queues, q.Valid SENSOR_EVENT_QUEUE_CAPACITY
  inRange : s.queues ≠ [] → s.nextReadIndex < s.queues.length
  writers : ∀ k q, s.queues[k]? = some q → WriterOk q (s.writers k)
  poller : PollerOk s
  lossless : Lossless hs s

variable {hs : Handles} {n k maxReads fuel : Nat} {s t : State}
  {q : SensorEventQueue SensorsEvent} {w : Writer} {p p' : Poll.State}

theorem valid_pos (hv : q.Valid SENSOR_EVENT_QUEUE_CAPACITY) : 0 < q.mCapacity := by
  have hstart := hv.start_nonneg
  have hlt := hv.start_lt
  omega

theorem inv_initial (mData : Nat → Int → SensorsEvent) : Inv hs n (initial n mData) where
  length := by simp [initial]
  valid := by
    intro q hq
    obtain ⟨k, -, rfl⟩ := List.mem_map.mp hq
    exact SensorEventQueue.new_valid (by decide)
  inRange := by
    intro hne
    exact List.length_pos_iff.mpr hne
  writers := fun _ _ _ => trivial
  poller := rfl
  lossless := by
    refine ⟨[], rfl, fun k => ?_⟩
    unfold contents
    cases hq : (initial n mData).queues[k]? with
    | none => rfl
    | some q =>
      obtain ⟨j, -, rfl⟩ := List.mem_map.mp (List.mem_of_getElem? hq)
      exact (SensorEventQueue.readable_of_empty rfl).symm

/-! The loop of `poll`, seen from the writers. -/

/-- What one turn of the inner loop does to the queues. -/
theorem body_cases (h : body hs p = some p') :
    ∃ q, p.queues[p.nextReadIndex]? = some q ∧
      p'.nextReadIndex = (p.nextReadIndex + 1) % p.queues.length ∧
      ((q.mSize = 0 ∧ p'.queues = p.queues) ∨
        (q.mSize ≠ 0 ∧ p'.queues = p.queues.set p.nextReadIndex q.dequeue)) := by
  cases hq : p.queues[p.nextReadIndex]? with
  | none => simp [body, hq] at h
  | some q =>
    refine ⟨q, rfl, ?_⟩
    cases hpeek : q.peek with
    | none =>
      rw [body_empty hq hpeek] at h
      cases h
      refine ⟨rfl, .inl ⟨?_, rfl⟩⟩
      by_contra hne
      simp [SensorEventQueue.peek, hne] at hpeek
    | some x =>
      rw [body_event hq hpeek] at h
      cases h
      refine ⟨rfl, .inr ⟨?_, rfl⟩⟩
      intro hzero
      simp [SensorEventQueue.peek, hzero] at hpeek

theorem scan_succ (h : scan hs maxReads (fuel + 1) p = some p') :
    (¬(p.empties < p.queues.length ∧ p.data.length < maxReads) ∧ p' = p) ∨
    ((p.empties < p.queues.length ∧ p.data.length < maxReads) ∧
      ∃ p₁, body hs p = some p₁ ∧ scan hs maxReads fuel p₁ = some p') := by
  rw [scan] at h
  split at h
  · rename_i hguard
    exact .inr ⟨hguard, Option.bind_eq_some_iff.mp h⟩
  · rename_i hguard
    exact .inl ⟨hguard, (Option.some.inj h).symm⟩

/-- What the body of the loop keeps, the loop keeps. -/
theorem scan_induction {P : Poll.State → Prop} (hbody : ∀ p p', P p → body hs p = some p' → P p')
    (h : scan hs maxReads fuel p = some p') (hp : P p) : P p' := by
  induction fuel generalizing p with
  | zero => cases h
  | succ fuel ih =>
    obtain ⟨-, rfl⟩ | ⟨-, p₁, hp₁, h⟩ := scan_succ h
    · exact hp
    · exact ih h (hbody p p₁ hp hp₁)

/-- The queues keep their number and their capacity, and the index stays in range. -/
structure Readable (n : Nat) (p : Poll.State) : Prop where
  length : p.queues.length = n
  valid : ∀ q ∈ p.queues, q.Valid SENSOR_EVENT_QUEUE_CAPACITY
  inRange : p.queues ≠ [] → p.nextReadIndex < p.queues.length

theorem body_readable (p p' : Poll.State) (h : Readable n p) (hb : body hs p = some p') :
    Readable n p' := by
  obtain ⟨q, hq, hnext, hsame | hset⟩ := body_cases hb
  all_goals
    have hlt := (List.getElem?_eq_some_iff.mp hq).1
    have hpos : 0 < p.queues.length := Nat.lt_of_le_of_lt (Nat.zero_le _) hlt
  · refine ⟨?_, ?_, fun _ => ?_⟩
    · rw [hsame.2]
      exact h.length
    · rw [hsame.2]
      exact h.valid
    · rw [hsame.2, hnext]
      exact Nat.mod_lt _ hpos
  · refine ⟨?_, ?_, fun _ => ?_⟩
    · rw [hset.2, List.length_set]
      exact h.length
    · rw [hset.2]
      intro q' hq'
      rcases List.mem_or_eq_of_mem_set hq' with hq' | rfl
      · exact h.valid q' hq'
      · exact SensorEventQueue.dequeue_valid (h.valid q (List.mem_of_getElem? hq))
    · rw [hset.2, hnext, List.length_set]
      exact Nat.mod_lt _ hpos

theorem dequeue_mData : q.dequeue.mData = q.mData := by
  unfold SensorEventQueue.dequeue
  split <;> rfl

/-- A dequeued record wakes the writer of a full queue and leaves an open region alone. -/
theorem writerOk_dequeue (hv : q.Valid SENSOR_EVENT_QUEUE_CAPACITY) (hw : WriterOk q w)
    (hawake : w = .asleep → False) : WriterOk q.dequeue w := by
  cases w with
  | ready => trivial
  | asleep => exact (hawake rfl).elim
  | polling buffer bufferSize stored =>
    obtain ⟨first, hbuffer, hpos, hstored, hregion, hsegment⟩ := hw
    refine ⟨first, hbuffer, hpos, hstored, SensorEventQueue.dequeue_region hv hregion, ?_⟩
    rw [dequeue_mData]
    exact hsegment

theorem wake_append (ks ls : List Nat) (writers : Nat → Writer) :
    wake (ks ++ ls) writers = wake ls (wake ks writers) := by
  funext k
  unfold wake
  cases writers k with
  | asleep => by_cases hk : k ∈ ks <;> by_cases hl : k ∈ ls <;> simp [hk, hl]
  | ready => rfl
  | polling buffer bufferSize stored => rfl

theorem wake_nil (writers : Nat → Writer) : wake [] writers = writers := by
  funext k
  unfold wake
  cases writers k <;> rfl

theorem wake_asleep {ks : List Nat} {writers : Nat → Writer} (h : wake ks writers k = .asleep) :
    writers k = .asleep ∧ k ∉ ks := by
  unfold wake at h
  cases hw : writers k with
  | asleep =>
    rw [hw] at h
    refine ⟨rfl, fun hk => ?_⟩
    simp [hk] at h
  | ready => simp [hw] at h
  | polling buffer bufferSize stored => simp [hw] at h

theorem writerOk_wake {ks : List Nat} {writers : Nat → Writer} (h : WriterOk q (writers k)) :
    WriterOk q (wake ks writers k) := by
  unfold wake
  cases hw : writers k with
  | asleep =>
    rw [hw] at h
    by_cases hk : k ∈ ks
    · simp [hk, WriterOk]
    · simpa [hk] using h
  | ready => trivial
  | polling buffer bufferSize stored =>
    rw [hw] at h
    exact h

/-- No writer is left asleep in front of a queue that `poll` has made room in. -/
theorem scan_writers {writers : Nat → Writer} (h : scan hs maxReads fuel p = some p')
    (hp : Readable n p) (hw : ∀ k q, p.queues[k]? = some q → WriterOk q (writers k)) :
    ∀ k q, p'.queues[k]? = some q →
      WriterOk q (wake (broadcasts hs maxReads fuel p) writers k) := by
  induction fuel generalizing p writers with
  | zero => cases h
  | succ fuel ih =>
    rw [broadcasts]
    obtain ⟨hguard, rfl⟩ | ⟨hguard, p₁, hp₁, h⟩ := scan_succ h
    · rw [if_neg hguard, wake_nil]
      exact hw
    · rw [if_pos hguard, hp₁, Option.elim_some, wake_append]
      apply ih h (body_readable p p₁ hp hp₁)
      intro k q hk
      obtain ⟨q₀, hq₀, -, ⟨-, hsame⟩ | ⟨hne, hset⟩⟩ := body_cases hp₁
      · rw [hsame] at hk
        exact writerOk_wake (hw k q hk)
      · rw [hset] at hk
        by_cases hi : p.nextReadIndex = k
        · subst hi
          have hlt := (List.getElem?_eq_some_iff.mp hq₀).1
          rw [List.getElem?_set_self hlt] at hk
          cases hk
          have hok := hw _ q₀ hq₀
          refine writerOk_dequeue (hp.valid q₀ (List.mem_of_getElem? hq₀)) (writerOk_wake hok) ?_
          intro hasleep
          obtain ⟨hasleep, hnot⟩ := wake_asleep hasleep
          rw [hasleep] at hok
          have hfull : dequeueBroadcasts q₀ = true := by
            have hok : q₀.mSize = q₀.mCapacity := hok
            simp only [dequeueBroadcasts, decide_eq_true_eq]
            exact ⟨hne, hok⟩
          apply hnot
          rw [hq₀, Option.any_some, if_pos hfull]
          exact List.mem_singleton_self _
        · rw [List.getElem?_set_ne hi] at hk
          exact writerOk_wake (hw k q hk)

theorem takenFrom_append (xs ys : List Queued) (k : Nat) :
    takenFrom (xs ++ ys) k = takenFrom xs k ++ takenFrom ys k := by
  rw [takenFrom, List.filter_append, List.map_append, takenFrom, takenFrom]

theorem mSize_of_contents {queues : List (SensorEventQueue SensorsEvent)}
    (hv : q.Valid SENSOR_EVENT_QUEUE_CAPACITY) (hq : queues[k]? = some q)
    (h : contents queues k = []) : q.mSize = 0 := by
  have hlen : q.readable.length = 0 := by
    rw [contents, hq] at h
    exact congrArg List.length h
  rw [SensorEventQueue.readable, Ring.length_contents] at hlen
  have hsize := hv.size_nonneg
  omega

/-- A turn of the outer loop either returns events or goes to sleep behind empty queues. -/
theorem turn_inv (h : Inv hs n s) (hwait : s.waitingForData = false) (hmax : 1 ≤ maxReads)
    (ht : turn hs maxReads fuel s = some t) : Inv hs n t := by
  obtain ⟨⟨outcome, p⟩, hpoll, ht⟩ := Option.map_eq_some_iff.mp ht
  have hready : Ready s.queues s.nextReadIndex :=
    ⟨fun q hq => ⟨_, h.valid q hq⟩, h.inRange⟩
  obtain ⟨r, hpolls, houtcome, hdata, htaken, -, hempty⟩ :=
    @polls_spec hs s.queues maxReads s.nextReadIndex hready
  obtain rfl := polls_unique hpolls ⟨fuel, hpoll⟩
  obtain ⟨p₀, hscan, hp₀⟩ := Option.map_eq_some_iff.mp hpoll
  cases hp₀
  have hreadable := scan_induction body_readable hscan ⟨h.length, h.valid, h.inRange⟩
  have hwriters := scan_writers hscan ⟨h.length, h.valid, h.inRange⟩ h.writers
  have hlossless : ∀ t : State, t.queues = p.queues →
      t.delivered = s.delivered ++ p.data → t.reported = s.reported → Lossless hs t := by
    intro t hqueues hdelivered hreported
    obtain ⟨xs, hxs, hreports⟩ := h.lossless
    refine ⟨xs ++ Poll.taken hs maxReads s.queues s.nextReadIndex, ?_, fun k => ?_⟩
    · rw [hdelivered, hxs, hdata, List.filter_append, List.map_append]
    · rw [hreported, hreports k, ← htaken k, takenFrom_append, hqueues, List.append_assoc]
  replace houtcome : Outcome.data _ = p.data := houtcome
  by_cases hnil : p.data.length = 0
  · simp only [if_pos hnil] at houtcome ht
    subst ht
    refine ⟨hreadable.length, hreadable.valid, hreadable.inRange, hwriters, ⟨hmax, rfl, ?_⟩, ?_⟩
    · intro q hq
      obtain ⟨k, hk⟩ := List.getElem?_of_mem hq
      have hless : p.data.length < maxReads := by
        rw [hnil]
        exact hmax
      exact mSize_of_contents (hreadable.valid q hq) hk (hempty hless k)
    · refine hlossless _ rfl ?_ rfl
      rw [houtcome]
  · simp only [if_neg hnil] at houtcome ht
    subst ht
    refine ⟨hreadable.length, hreadable.valid, hreadable.inRange, hwriters, hwait, ?_⟩
    refine hlossless _ rfl ?_ rfl
    rw [houtcome]

theorem set_valid {q' : SensorEventQueue SensorsEvent} (h : Inv hs n s)
    (hq' : q'.Valid SENSOR_EVENT_QUEUE_CAPACITY) :
    ∀ q ∈ s.queues.set k q', q.Valid SENSOR_EVENT_QUEUE_CAPACITY := by
  intro q hq
  rcases List.mem_or_eq_of_mem_set hq with hq | rfl
  · exact h.valid q hq
  · exact hq'

/-- Only task `k` and its queue change. -/
theorem writers_update {q q' : SensorEventQueue SensorsEvent} (h : Inv hs n s)
    (hq : s.queues[k]? = some q) (hw : WriterOk q' w) :
    ∀ j q, (s.queues.set k q')[j]? = some q → WriterOk q (Function.update s.writers k w j) := by
  intro j qj hj
  have hlt := (List.getElem?_eq_some_iff.mp hq).1
  by_cases hjk : k = j
  · subst hjk
    rw [List.getElem?_set_self hlt] at hj
    cases hj
    rw [Function.update_self]
    exact hw
  · rw [List.getElem?_set_ne hjk] at hj
    rw [Function.update_of_ne (Ne.symm hjk)]
    exact h.writers j qj hj

theorem contents_set_same {q q' : SensorEventQueue SensorsEvent} {queues : List _}
    (hq : queues[k]? = some q) (hread : q'.readable = q.readable) (j : Nat) :
    contents (queues.set k q') j = contents queues j := by
  have hlt := (List.getElem?_eq_some_iff.mp hq).1
  by_cases hjk : k = j
  · subst hjk
    rw [contents, contents, List.getElem?_set_self hlt, hq]
    exact hread
  · rw [contents, contents, List.getElem?_set_ne hjk]

theorem set_self (hq : s.queues[k]? = some q) : s.queues.set k q = s.queues := by
  obtain ⟨hlt, rfl⟩ := List.getElem?_eq_some_iff.mp hq
  exact List.set_getElem_self hlt

/-- A task that changes nothing but where it stands. -/
theorem inv_writer (h : Inv hs n s) (hq : s.queues[k]? = some q) (hw : WriterOk q w) :
    Inv hs n { s with writers := Function.update s.writers k w } := by
  have hwriters := writers_update h hq hw
  rw [set_self hq] at hwriters
  exact ⟨h.length, h.valid, h.inRange, hwriters, h.poller, h.lossless⟩

theorem lock_inv (h : Inv hs n s) (hq : s.queues[k]? = some q) : Inv hs n (lock s k q) := by
  unfold lock
  split
  · rename_i hfull
    exact inv_writer h hq hfull
  · rename_i hspace
    refine inv_writer h hq ?_
    have hv := h.valid q (List.mem_of_getElem? hq)
    obtain ⟨-, -, hfull | hnone⟩ | ⟨hpos, -, first, hbuffer, hregion⟩ :=
      SensorEventQueue.getWritableRegion_spec hv SENSOR_EVENT_QUEUE_CAPACITY rfl
    · exact absurd hfull hspace
    · exact absurd hnone (by decide)
    · have hnil : ((([] : List SensorsEvent).length : Nat) : Int) ≤ 1 := by decide
      exact ⟨first, hbuffer, hpos, Int.le_trans hnil hpos, hregion, rfl⟩

theorem store_inv {first bufferSize : Int} {stored : List SensorsEvent} {e : SensorsEvent}
    (h : Inv hs n s) (hq : s.queues[k]? = some q)
    (hk : s.writers k = .polling (some first) bufferSize stored)
    (hroom : stored.length < bufferSize) :
    Inv hs n { s with
      queues := s.queues.set k (q.store (first + stored.length) e)
      writers := Function.update s.writers k
        (.polling (some first) bufferSize (stored ++ [e])) } := by
  have hv := h.valid q (List.mem_of_getElem? hq)
  have hok := h.writers k q hq
  rw [hk] at hok
  obtain ⟨first', hfirst, hpos, -, hregion, hsegment⟩ := hok
  cases hfirst
  have hread := SensorEventQueue.store_readable hv hregion hroom (e := e)
  refine ⟨by rw [List.length_set]; exact h.length, set_valid h (SensorEventQueue.store_valid hv),
    ?_, writers_update h hq ?_, ?_, ?_⟩
  · intro hne
    rw [List.length_set]
    exact h.inRange fun hnil => hne (by rw [hnil]; rfl)
  · refine ⟨first, rfl, hpos, ?_, SensorEventQueue.store_region hregion, ?_⟩
    · rw [List.length_append, List.length_singleton]
      omega
    · rw [List.length_append, List.length_singleton, SensorEventQueue.store, Ring.segment_update,
        hsegment]
  · have hpoller := h.poller
    unfold PollerOk at hpoller ⊢
    cases hp : s.poller with
    | away =>
      rw [hp] at hpoller
      exact hpoller
    | woken maxReads =>
      rw [hp] at hpoller
      exact hpoller
    | asleep maxReads =>
      rw [hp] at hpoller
      refine ⟨hpoller.1, hpoller.2.1, fun q' hq' => ?_⟩
      rcases List.mem_or_eq_of_mem_set hq' with hq' | rfl
      · exact hpoller.2.2 q' hq'
      · exact hpoller.2.2 q (List.mem_of_getElem? hq)
  · obtain ⟨xs, hxs, hreports⟩ := h.lossless
    refine ⟨xs, hxs, fun j => ?_⟩
    rw [contents_set_same hq hread]
    exact hreports j

theorem broadcast_pollerOk (h : PollerOk s) (hwait : s.waitingForData = true) :
    ∀ t : State, t.poller = s.poller.broadcast → PollerOk t := by
  intro t ht
  unfold PollerOk at h ⊢
  rw [ht]
  cases hp : s.poller with
  | away =>
    rw [hp] at h
    have h : s.waitingForData = false := h
    rw [h] at hwait
    cases hwait
  | asleep maxReads =>
    rw [hp] at h
    exact h.1
  | woken maxReads =>
    rw [hp] at h
    exact h

/-- What the sub-HAL stored becomes readable, behind what already was. -/
theorem mark_adds {buffer : Option Int} {bufferSize eventsPolled : Int}
    {stored : List SensorsEvent} (h : Inv hs n s) (hq : s.queues[k]? = some q)
    (hk : s.writers k = .polling buffer bufferSize stored)
    (hpolled : eventsPolled = stored.length) (j : Nat) :
    ∃ xs, (mark s k q eventsPolled stored).reported j = s.reported j ++ xs ∧
      contents (mark s k q eventsPolled stored).queues j = contents s.queues j ++ xs := by
  subst hpolled
  have hok := h.writers k q hq
  rw [hk] at hok
  obtain ⟨first, -, -, hstored, hregion, hsegment⟩ := hok
  have hread := SensorEventQueue.markAsWritten_readable (h.valid q (List.mem_of_getElem? hq))
    hregion hstored
  have hlt := (List.getElem?_eq_some_iff.mp hq).1
  by_cases hjk : k = j
  · subst hjk
    refine ⟨stored, Function.update_self .., ?_⟩
    have hold : contents s.queues k = q.readable := by rw [contents, hq]
    have hnew : contents (mark s k q stored.length stored).queues k =
        (q.markAsWritten stored.length).readable := by
      rw [mark, contents, List.getElem?_set_self hlt]
    rw [hnew, hold, hread, hsegment]
  · refine ⟨[], ?_, ?_⟩
    · rw [List.append_nil]
      exact Function.update_of_ne (Ne.symm hjk) ..
    · rw [List.append_nil, mark, contents, contents, List.getElem?_set_ne hjk]

/-- The records become readable, and a sleeping poller is woken. -/
theorem mark_inv {buffer : Option Int} {bufferSize eventsPolled : Int}
    {stored : List SensorsEvent} (h : Inv hs n s) (hq : s.queues[k]? = some q)
    (hk : s.writers k = .polling buffer bufferSize stored)
    (hpolled : eventsPolled = stored.length) : Inv hs n (mark s k q eventsPolled stored) := by
  subst hpolled
  have hv := h.valid q (List.mem_of_getElem? hq)
  have hok := h.writers k q hq
  rw [hk] at hok
  obtain ⟨first, -, -, hstored, hregion, -⟩ := hok
  refine ⟨by rw [mark, List.length_set]; exact h.length,
    set_valid h (SensorEventQueue.markAsWritten_valid hv hregion hstored), ?_,
    writers_update (w := .ready) h hq trivial, ?_, ?_⟩
  · intro hne
    rw [mark, List.length_set]
    exact h.inRange fun hnil => hne (by rw [mark, hnil]; rfl)
  · cases hwait : s.waitingForData with
    | true =>
      apply broadcast_pollerOk h.poller hwait
      rw [mark, hwait, if_pos rfl]
    | false =>
      have hpoller := h.poller
      have hsame : (mark s k q stored.length stored).poller = s.poller := by
        rw [mark, hwait, if_neg Bool.false_ne_true]
      unfold PollerOk at hpoller ⊢
      rw [hsame]
      cases hp : s.poller with
      | away => exact hwait
      | asleep maxReads =>
        rw [hp] at hpoller
        exact absurd (hwait.symm.trans hpoller.2.1) Bool.false_ne_true
      | woken maxReads =>
        rw [hp] at hpoller
        exact hpoller
  · obtain ⟨xs, hxs, hreports⟩ := h.lossless
    refine ⟨xs, hxs, fun j => ?_⟩
    obtain ⟨ys, hreported, hcontents⟩ := mark_adds h hq hk rfl j
    rw [hreported, hcontents, hreports j, List.append_assoc]

theorem step_inv (s : State) (a : Action) (t : State) (h : Inv hs n s) (ht : step hs s a = some t) :
    Inv hs n t := by
  unfold step at ht
  by_cases hexited : s.exited = true
  · rw [if_pos hexited] at ht
    cases ht
  rw [if_neg hexited] at ht
  cases a with
  | lock k =>
    simp only at ht
    split at ht
    · rename_i q hq hk
      cases ht
      exact lock_inv h hq
    · cases ht
  | store k e =>
    simp only at ht
    split at ht
    · rename_i q first bufferSize stored hq hk
      split at ht
      · rename_i hroom
        cases ht
        exact store_inv h hq hk hroom
      · cases ht
    · cases ht
  | polled k eventsPolled =>
    simp only at ht
    split at ht
    · rename_i q buffer bufferSize stored hq hk
      split at ht
      · cases ht
        exact inv_writer h hq trivial
      · split at ht
        · rename_i hpolled
          cases ht
          exact mark_inv h hq hk hpolled
        · cases ht
    · cases ht
  | poll maxCount fuel =>
    simp only at ht
    split at ht
    · rename_i hp
      split at ht
      · rename_i hcount
        have hwait : s.waitingForData = false := by
          have hpoller := h.poller
          rw [PollerOk, hp] at hpoller
          exact hpoller
        refine turn_inv h hwait ?_ ht
        have hsize : kPollMaxBufferSize = 128 := rfl
        split <;> omega
      · cases ht
        exact h
    · cases ht
      exact ⟨h.length, h.valid, h.inRange, h.writers, h.poller, h.lossless⟩
  | resume fuel =>
    simp only at ht
    split at ht
    · rename_i maxReads hp
      have hmax : 1 ≤ maxReads := by
        have hpoller := h.poller
        rw [PollerOk, hp] at hpoller
        exact hpoller
      have hinv : Inv hs n { s with waitingForData := false } := by
        refine ⟨h.length, h.valid, h.inRange, h.writers, ?_, h.lossless⟩
        rw [PollerOk, hp]
        exact hmax
      exact turn_inv hinv rfl hmax ht
    · cases ht
  | spuriousWriter k =>
    cases ht
    exact ⟨h.length, h.valid, h.inRange, fun j q hj => writerOk_wake (h.writers j q hj), h.poller,
      h.lossless⟩
  | spuriousPoller =>
    cases ht
    refine ⟨h.length, h.valid, h.inRange, h.writers, ?_, h.lossless⟩
    have hpoller := h.poller
    unfold PollerOk at hpoller ⊢
    cases hp : s.poller with
    | away =>
      rw [hp] at hpoller
      exact hpoller
    | asleep maxReads =>
      rw [hp] at hpoller
      exact hpoller.1
    | woken maxReads =>
      rw [hp] at hpoller
      exact hpoller

theorem run_inv {mData : Nat → Int → SensorsEvent} {as : List Action}
    (h : Machine.run (step hs) (initial n mData) as = some s) : Inv hs n s :=
  Machine.run_invariant step_inv h (inv_initial mData)

/-- `poll` finishes its turn whenever it has the mutex. -/
theorem turn_total (h : Inv hs n s) : ∃ fuel t, turn hs maxReads fuel s = some t := by
  have hready : Ready s.queues s.nextReadIndex := ⟨fun q hq => ⟨_, h.valid q hq⟩, h.inRange⟩
  obtain ⟨r, ⟨fuel, hpoll⟩, -⟩ := @polls_spec hs s.queues maxReads s.nextReadIndex hready
  exact ⟨fuel, _, by rw [turn, hpoll]; rfl⟩

/-- No wake-up is lost: the poller sleeps only while all queues are empty and the writers have
to wake it, a writer only in front of a full queue. So they never sleep at the same time, and a
poller that was woken finishes its turn. A sub-HAL always gets room for a record, inside its
array and apart from the records that wait to be read. -/
theorem no_lost_wakeup {mData : Nat → Int → SensorsEvent} {as : List Action}
    (h : Machine.run (step hs) (initial n mData) as = some s) :
    (∀ maxReads, s.poller = .asleep maxReads →
      s.waitingForData = true ∧ ∀ q ∈ s.queues, q.mSize = 0) ∧
    (∀ k q, s.queues[k]? = some q → s.writers k = .asleep →
      q.mSize = q.mCapacity ∧ ∀ maxReads, s.poller ≠ .asleep maxReads) ∧
    (∀ maxReads, s.exited = false → s.poller = .woken maxReads →
      ∃ fuel t, step hs s (.resume fuel) = some t) ∧
    (∀ k q buffer bufferSize stored, s.queues[k]? = some q →
      s.writers k = .polling buffer bufferSize stored →
      ∃ first, buffer = some first ∧ 1 ≤ bufferSize ∧ 0 ≤ first ∧
        first + bufferSize ≤ q.mCapacity ∧
        ∀ i, 0 ≤ i → i < q.mSize →
          q.readableSlot i < first ∨ first + bufferSize ≤ q.readableSlot i) := by
  have hinv := run_inv h
  have hpoller := hinv.poller
  have hasleep : ∀ maxReads, s.poller = .asleep maxReads →
      s.waitingForData = true ∧ ∀ q ∈ s.queues, q.mSize = 0 := by
    intro maxReads hp
    rw [PollerOk, hp] at hpoller
    exact hpoller.2
  refine ⟨hasleep, ?_, ?_, ?_⟩
  · intro k q hq hk
    have hok := hinv.writers k q hq
    rw [hk] at hok
    have hfull : q.mSize = q.mCapacity := hok
    refine ⟨hfull, fun maxReads hp => ?_⟩
    have hmem := List.mem_of_getElem? hq
    have hzero := (hasleep maxReads hp).2 q hmem
    have hpos := valid_pos (hinv.valid q hmem)
    omega
  · intro maxReads hexited hp
    have hinv' : Inv hs n { s with waitingForData := false } := by
      refine ⟨hinv.length, hinv.valid, hinv.inRange, hinv.writers, ?_, hinv.lossless⟩
      rw [PollerOk, hp] at hpoller ⊢
      exact hpoller
    obtain ⟨fuel, t, ht⟩ : ∃ fuel t, turn hs maxReads fuel { s with waitingForData := false } =
        some t := turn_total hinv'
    refine ⟨fuel, t, ?_⟩
    simp only [step, hexited, hp, Bool.false_eq_true, if_false]
    simpa only [hexited, hp] using ht
  · intro k q buffer bufferSize stored hq hk
    have hok := hinv.writers k q hq
    rw [hk] at hok
    obtain ⟨first, hbuffer, hpos, -, hregion, -⟩ := hok
    have hv := hinv.valid q (List.mem_of_getElem? hq)
    exact ⟨first, hbuffer, hpos, hregion.nonneg hv, hregion.first_add_le,
      fun i hi him => hregion.disjoint hv hi him⟩

/-- The poller goes to sleep, the sub-HAL reports one event, and the poller returns it. -/
theorem no_lost_wakeup_one_event :
    ∃ s : State, s.poller = .woken 1 ∧ ∃ fuel t,
      step (openSensors oneModule).handles s (.resume fuel) = some t := by
  have hrun : Machine.run (step (openSensors oneModule).handles) (initial 1 fun _ _ => ⟨0, 0, 0⟩)
      [.poll 1 2, .lock 0, .store 0 ⟨9, 1, 0⟩, .polled 0 1] = some _ := rfl
  exact ⟨_, rfl, (no_lost_wakeup hrun).2.2.1 1 rfl rfl⟩

/-- Nothing is lost, duplicated or reordered between the sub-HALs and the framework: what calls
of `poll` returned is what they took from the queues, without the records the filter drops, and
what a sub-HAL reported is what was taken from its queue and then what is still in it. -/
theorem delivery_lossless {mData : Nat → Int → SensorsEvent} {as : List Action}
    (h : Machine.run (step hs) (initial n mData) as = some s) :
    ∃ taken : List Queued, s.delivered = (taken.filter (passes hs)).map (remap hs) ∧
      ∀ k, s.reported k = takenFrom taken k ++ contents s.queues k :=
  (run_inv h).lossless

theorem delivery_lossless_one_event :
    ∃ s : State, s.delivered.length = 1 ∧ ∃ taken : List Queued,
      s.delivered = (taken.filter (passes (openSensors oneModule).handles)).map
        (remap (openSensors oneModule).handles) ∧
      ∀ k, s.reported k = takenFrom taken k ++ contents s.queues k := by
  have hrun : Machine.run (step (openSensors oneModule).handles) (initial 1 fun _ _ => ⟨0, 0, 0⟩)
      [.poll 1 2, .lock 0, .store 0 ⟨9, 1, 0⟩, .polled 0 1, .resume 3] = some _ := rfl
  exact ⟨_, rfl, delivery_lossless hrun⟩

end Apq8084.Sensors.Tasks
