import Apq8084.Lib.RoundRobin
import Apq8084.Sensors.MultiHal
import Apq8084.Sensors.SensorEventQueue

/-! `sensors_poll_context_t::poll` of `sensors/multihal.cpp`, from the moment it finds the data
until it returns or has to wait: it holds `queue_mutex`, and no event arrives. -/
namespace Apq8084.Sensors.Poll

open MultiHal RoundRobin

/-- The queues, the index, the variables of the loop, and `data[0]` up to
`data[eventsRead - 1]`. -/
structure State where
  queues : List (SensorEventQueue SensorsEvent)
  nextReadIndex : Nat
  empties : Nat
  data : List SensorsEvent

/-- The body of the inner loop; `at` throws an exception for an index out of range. -/
def body (hs : Handles) (s : State) : Option State :=
  match s.queues[s.nextReadIndex]? with
  | none => none
  | some queue =>
    let nextReadIndex := (s.nextReadIndex + 1) % s.queues.length
    match queue.peek with
    | none => some { s with nextReadIndex, empties := s.empties + 1 }
    | some event =>
      let event := copyEventRemapHandle hs (queue.mData event) s.nextReadIndex
      some {
        queues := s.queues.set s.nextReadIndex queue.dequeue
        nextReadIndex
        empties := 0
        data := if event.sensor = -1 then s.data else s.data ++ [event] }

/-- The inner loop; `none` if it does not end within `fuel` turns. -/
def scan (hs : Handles) (maxReads : Nat) : Nat → State → Option State
  | 0, _ => none
  | fuel + 1, s =>
    if s.empties < s.queues.length ∧ s.data.length < maxReads then
      (body hs s).bind (scan hs maxReads fuel)
    else some s

/-- How a turn of the outer loop ends. -/
inductive Outcome where
  | returned (data : List SensorsEvent)
  | waiting

def Outcome.data : Outcome → List SensorsEvent
  | .returned data => data
  | .waiting => []

/-- One turn of the outer loop, with the state in which it ends. -/
def poll (hs : Handles) (maxReads fuel : Nat) (queues : List (SensorEventQueue SensorsEvent))
    (nextReadIndex : Nat) : Option (Outcome × State) :=
  (scan hs maxReads fuel { queues, nextReadIndex, empties := 0, data := [] }).map fun s =>
    (if s.data.length = 0 then .waiting else .returned s.data, s)

/-- A queued event and the index of its queue. -/
abbrev Queued := Nat × SensorsEvent

def remap (hs : Handles) (x : Queued) : SensorsEvent := copyEventRemapHandle hs x.2 x.1

/-- What the filter of the loop looks at. -/
def passes (hs : Handles) (x : Queued) : Bool := (remap hs x).sensor ≠ -1

/-- The local handle of the event is known for its queue. -/
def registered (hs : Handles) (x : Queued) : Bool :=
  (hs.fullToGlobal ⟨x.1, x.2.handle⟩).isSome

/-- The events of queue `i`. -/
def contents (queues : List (SensorEventQueue SensorsEvent)) (i : Nat) : List SensorsEvent :=
  match queues[i]? with
  | none => []
  | some queue => queue.readable

def tagged (i : Nat) (queue : SensorEventQueue SensorsEvent) : List Queued :=
  queue.readable.map fun e => (i, e)

/-- The queued events of each queue, that at `nextReadIndex` first. -/
def line (queues : List (SensorEventQueue SensorsEvent)) (nextReadIndex : Nat) :
    List (List Queued) :=
  (queues.mapIdx tagged).rotate nextReadIndex

/-- All queued events in the order in which the queues are read. -/
def pending (queues : List (SensorEventQueue SensorsEvent)) (nextReadIndex : Nat) : List Queued :=
  order (line queues nextReadIndex)

/-- The part of the taken events that queue `i` held. -/
def takenFrom (taken : List Queued) (i : Nat) : List SensorsEvent :=
  (taken.filter fun x => x.1 = i).map Prod.snd

/-- The loop reads `queues` as an abstract reader reads the line of their contents. -/
structure Simulates (hs : Handles) (queues : List (SensorEventQueue SensorsEvent)) (s : State)
    (v : Reader Queued) : Prop where
  line : v.queues = line s.queues s.nextReadIndex
  empties : v.empties = s.empties
  data : s.data = (v.taken.filter (passes hs)).map (remap hs)
  taken : ∀ i, takenFrom v.taken i ++ contents s.queues i = contents queues i
  valid : ∀ q ∈ s.queues, ∃ capacity, q.Valid capacity
  inRange : s.nextReadIndex < s.queues.length

variable {hs : Handles} {queues : List (SensorEventQueue SensorsEvent)} {s s' : State}
  {v : Reader Queued} {maxReads fuel nextReadIndex : Nat}

theorem peek_none {q : SensorEventQueue SensorsEvent} (h : q.peek = none) : q.readable = [] := by
  apply SensorEventQueue.readable_of_empty
  by_contra hne
  simp [SensorEventQueue.peek, hne] at h

theorem peek_some {q : SensorEventQueue SensorsEvent} {p capacity : Int}
    (hv : q.Valid capacity) (h : q.peek = some p) :
    q.readable = q.mData p :: q.dequeue.readable := by
  unfold SensorEventQueue.peek at h
  split at h
  · cases h
  · rename_i hne
    cases h
    exact SensorEventQueue.dequeue_readable hv hne

theorem length_line : (line queues nextReadIndex).length = queues.length := by
  simp [line]

theorem simulates_wants (h : Simulates hs queues s v) :
    Reader.Wants (passes hs) maxReads v ↔
      s.empties < s.queues.length ∧ s.data.length < maxReads := by
  rw [Reader.Wants, h.line, length_line, h.empties, h.data, List.length_map,
    List.countP_eq_length_filter]

/-- What the queue at the index holds stands first in the line. -/
theorem line_read {i : Nat} {q : SensorEventQueue SensorsEvent} (h : queues[i]? = some q) :
    ∃ rest, line queues i = tagged i q :: rest ∧
      ∀ q', line (queues.set i q') ((i + 1) % queues.length) = rest ++ [tagged i q'] := by
  have hi : (queues.mapIdx tagged)[i]? = some (tagged i q) := by
    rw [List.getElem?_mapIdx, h]
    rfl
  obtain ⟨rest, hfirst, hrest⟩ := rotate_read hi
  refine ⟨rest, hfirst, ?_⟩
  intro q'
  rw [line, List.mapIdx_set, ← hrest (tagged i q'), List.length_mapIdx]

theorem body_empty {q : SensorEventQueue SensorsEvent}
    (hq : s.queues[s.nextReadIndex]? = some q) (hpeek : q.peek = none) :
    body hs s = some { s with
      nextReadIndex := (s.nextReadIndex + 1) % s.queues.length
      empties := s.empties + 1 } := by
  simp only [body, hq, hpeek]

theorem body_event {q : SensorEventQueue SensorsEvent} {p : Int}
    (hq : s.queues[s.nextReadIndex]? = some q) (hpeek : q.peek = some p) :
    body hs s = some {
      queues := s.queues.set s.nextReadIndex q.dequeue
      nextReadIndex := (s.nextReadIndex + 1) % s.queues.length
      empties := 0
      data := s.data ++
        ([(s.nextReadIndex, q.mData p)].filter (passes hs)).map (remap hs) } := by
  simp only [body, hq, hpeek, Option.some.injEq, State.mk.injEq, true_and]
  by_cases hdrop : (copyEventRemapHandle hs (q.mData p) s.nextReadIndex).sensor = -1
  · have hpass : passes hs (s.nextReadIndex, q.mData p) = false := by simp [passes, remap, hdrop]
    rw [if_pos hdrop, List.filter_singleton, hpass]
    exact (List.append_nil _).symm
  · have hpass : passes hs (s.nextReadIndex, q.mData p) = true := by simp [passes, remap, hdrop]
    rw [if_neg hdrop, List.filter_singleton, hpass]
    rfl

/-- One event of queue `i` was taken. -/
theorem contents_dequeue {q : SensorEventQueue SensorsEvent} {i : Nat} {e : SensorsEvent}
    (hq : queues[i]? = some q) (hread : q.readable = e :: q.dequeue.readable) (j : Nat) :
    takenFrom [(i, e)] j ++ contents (queues.set i q.dequeue) j = contents queues j := by
  by_cases hj : j = i
  · subst j
    have hi := (List.getElem?_eq_some_iff.mp hq).1
    have hcontents : contents queues i = q.readable := by simp only [contents, hq]
    rw [hcontents, hread]
    simp [takenFrom, contents, hi]
  · have hne : i ≠ j := fun h => hj h.symm
    simp [takenFrom, contents, hne]

theorem body_simulates (h : Simulates hs queues s v) :
    ∃ s', body hs s = some s' ∧ Simulates hs queues s' v.visit := by
  obtain ⟨q, hq⟩ : ∃ q, s.queues[s.nextReadIndex]? = some q :=
    ⟨_, List.getElem?_eq_getElem h.inRange⟩
  obtain ⟨capacity, hvalid⟩ := h.valid q (List.mem_of_getElem? hq)
  obtain ⟨rest, hfirst, hrest⟩ := line_read hq
  have hpos : 0 < s.queues.length := Nat.lt_of_le_of_lt (Nat.zero_le _) h.inRange
  have hline := h.line.trans hfirst
  cases hpeek : q.peek with
  | none =>
    have hnil : tagged s.nextReadIndex q = [] := by rw [tagged, peek_none hpeek, List.map_nil]
    have hset : s.queues.set s.nextReadIndex q = s.queues := by
      obtain ⟨hi, rfl⟩ := List.getElem?_eq_some_iff.mp hq
      exact List.set_getElem_self hi
    have hvisit : v.visit = { v with queues := rest ++ [[]], empties := v.empties + 1 } := by
      rw [Reader.visit, hline, hnil]
    refine ⟨_, body_empty hq hpeek, ?_⟩
    rw [hvisit]
    refine ⟨?_, congrArg _ h.empties, h.data, h.taken, h.valid, Nat.mod_lt _ hpos⟩
    have := hrest q
    rw [hset, hnil] at this
    exact this.symm
  | some p =>
    have hread := peek_some hvalid hpeek
    have hcons : tagged s.nextReadIndex q =
        (s.nextReadIndex, q.mData p) :: tagged s.nextReadIndex q.dequeue := by
      rw [tagged, hread, List.map_cons, tagged]
    have hvisit : v.visit =
        { queues := rest ++ [tagged s.nextReadIndex q.dequeue], empties := 0
          taken := v.taken ++ [(s.nextReadIndex, q.mData p)] } := by
      rw [Reader.visit, hline, hcons]
    refine ⟨_, body_event hq hpeek, ?_⟩
    rw [hvisit]
    refine ⟨(hrest q.dequeue).symm, rfl, ?_, ?_, ?_, ?_⟩
    · rw [h.data, List.filter_append, List.map_append]
    · intro j
      rw [takenFrom, List.filter_append, List.map_append, List.append_assoc, ← h.taken j,
        ← contents_dequeue hq hread j]
      rfl
    · intro q' hq'
      rcases List.mem_or_eq_of_mem_set hq' with hq' | rfl
      · exact h.valid q' hq'
      · exact ⟨capacity, SensorEventQueue.dequeue_valid hvalid⟩
    · rw [List.length_set]
      exact Nat.mod_lt _ hpos

/-- The loop ends, in the state that the reader ends in. -/
theorem scan_simulates (maxReads : Nat) (h : Simulates hs queues s v) :
    ∃ fuel s', scan hs maxReads fuel s = some s' ∧
      Simulates hs queues s' (Reader.finish (passes hs) maxReads v) := by
  fun_induction Reader.finish (passes hs) maxReads v generalizing s with
  | case1 v hw ih =>
    obtain ⟨s₁, hbody, hsim⟩ := body_simulates h
    obtain ⟨fuel, s', hscan, hsim'⟩ := ih hsim
    refine ⟨fuel + 1, s', ?_, hsim'⟩
    rw [scan, if_pos ((simulates_wants h).mp hw), hbody]
    exact hscan
  | case2 v hw =>
    refine ⟨1, s, ?_, h⟩
    rw [scan, if_neg fun hguard => hw ((simulates_wants h).mpr hguard)]

theorem scan_mono (h : scan hs maxReads fuel s = some s') (k : Nat) :
    scan hs maxReads (fuel + k) s = some s' := by
  induction fuel generalizing s with
  | zero => cases h
  | succ fuel ih =>
    rw [Nat.succ_add, scan]
    rw [scan] at h
    split
    · rename_i hguard
      rw [if_pos hguard] at h
      obtain ⟨t, ht, h⟩ := Option.bind_eq_some_iff.mp h
      rw [ht]
      exact ih h
    · rename_i hguard
      rwa [if_neg hguard] at h

/-- Some number of turns of the loop is enough, and `poll` ends in this way. -/
def Polls (hs : Handles) (maxReads : Nat) (queues : List (SensorEventQueue SensorsEvent))
    (nextReadIndex : Nat) (r : Outcome × State) : Prop :=
  ∃ fuel, poll hs maxReads fuel queues nextReadIndex = some r

theorem polls_unique {r r' : Outcome × State} (h : Polls hs maxReads queues nextReadIndex r)
    (h' : Polls hs maxReads queues nextReadIndex r') : r = r' := by
  obtain ⟨fuel, h⟩ := h
  obtain ⟨fuel', h'⟩ := h'
  obtain ⟨s, hs, rfl⟩ := Option.map_eq_some_iff.mp h
  obtain ⟨s', hs', rfl⟩ := Option.map_eq_some_iff.mp h'
  have := scan_mono hs fuel'
  rw [Nat.add_comm, scan_mono hs' fuel] at this
  cases this
  rfl

/-- Queues as the writers leave them, and an index in range, if there are queues. -/
structure Ready (queues : List (SensorEventQueue SensorsEvent)) (nextReadIndex : Nat) : Prop where
  valid : ∀ q ∈ queues, ∃ capacity, q.Valid capacity
  inRange : queues ≠ [] → nextReadIndex < queues.length

/-- The events that `poll` takes: the shortest beginning of the pending ones with `maxReads` that
pass the filter, or all. -/
def taken (hs : Handles) (maxReads : Nat) (queues : List (SensorEventQueue SensorsEvent))
    (nextReadIndex : Nat) : List Queued :=
  upTo (passes hs) maxReads (pending queues nextReadIndex)

theorem contents_of_allEmpty (h : AllEmpty (line queues nextReadIndex)) (i : Nat) :
    contents queues i = [] := by
  unfold contents
  cases hq : queues[i]? with
  | none => rfl
  | some q =>
    have hmem : tagged i q ∈ line queues nextReadIndex := by
      rw [line, List.mem_rotate]
      apply List.mem_of_getElem?
      rw [List.getElem?_mapIdx, hq]
      rfl
    exact List.map_eq_nil_iff.mp (h _ hmem)

/-- What one call does, whatever the queues hold. -/
theorem polls_spec (h : Ready queues nextReadIndex) :
    ∃ r, Polls hs maxReads queues nextReadIndex r ∧
      r.1.data = r.2.data ∧
      r.2.data = ((taken hs maxReads queues nextReadIndex).filter (passes hs)).map (remap hs) ∧
      (∀ i, takenFrom (taken hs maxReads queues nextReadIndex) i ++ contents r.2.queues i =
        contents queues i) ∧
      r.2.data.length ≤ maxReads ∧
      (r.2.data.length < maxReads → ∀ i, contents r.2.queues i = []) := by
  have houtcome : ∀ s : State,
      (if s.data.length = 0 then Outcome.waiting else .returned s.data).data = s.data := by
    intro s
    split
    · rename_i hnil
      exact (List.eq_nil_of_length_eq_zero hnil).symm
    · rfl
  by_cases hnil : queues = []
  · subst hnil
    have htaken : taken hs maxReads [] nextReadIndex = [] := by
      rw [taken, pending, line, List.mapIdx_nil, List.rotate_nil]
      exact Reader.upTo_nil
    refine ⟨_, ⟨1, rfl⟩, rfl, ?_, ?_, Nat.zero_le _, fun _ _ => rfl⟩
    · rw [htaken]
      rfl
    · intro i
      rw [htaken]
      rfl
  · let v : Reader Queued := { queues := line queues nextReadIndex, empties := 0, taken := [] }
    have hstart : Simulates hs queues { queues, nextReadIndex, empties := 0, data := [] } v :=
      ⟨rfl, rfl, rfl, fun _ => rfl, h.valid, h.inRange hnil⟩
    have hv : Reader.Valid maxReads (passes hs) v := Reader.valid_start
    obtain ⟨fuel, s, hscan, hsim⟩ := scan_simulates maxReads hstart
    obtain ⟨hvalid, hdone⟩ := Reader.finish_induction hv fun v hv hw => Reader.visit_valid hv hw
    have htaken : (Reader.finish (passes hs) maxReads v).taken =
        taken hs maxReads queues nextReadIndex := Reader.finish_taken hv
    have hlen :
        s.data.length = (Reader.finish (passes hs) maxReads v).taken.countP (passes hs) := by
      rw [hsim.data, List.length_map, List.countP_eq_length_filter]
    refine ⟨_, ⟨fuel, by rw [poll, hscan, Option.map_some]⟩, houtcome s, ?_, ?_, ?_, ?_⟩
    · rw [← htaken]
      exact hsim.data
    · rw [← htaken]
      exact hsim.taken
    · show s.data.length ≤ maxReads
      rw [hlen]
      exact hvalid.taken
    · intro hless
      have hless : s.data.length < maxReads := hless
      rw [hlen] at hless
      have hempties := Nat.le_of_not_lt fun hlt => hdone ⟨hlt, hless⟩
      have hall := Reader.allEmpty_of_valid hvalid hempties
      rw [hsim.line] at hall
      exact contents_of_allEmpty hall

/-! The handles of the events. -/

variable {modules : List SubModule} {x : Queued}

theorem remap_handle : (remap hs x).handle = getGlobalHandle hs ⟨x.1, x.2.handle⟩ :=
  copyEventRemapHandle_handle x.2 x.1

theorem remap_handle_registered (h : registered (openSensors modules).handles x = true) :
    (remap (openSensors modules).handles x).handle ∈
      (getSensorsList modules .initial).map Sensor.handle := by
  obtain ⟨g, hg⟩ := Option.isSome_iff_exists.mp h
  rw [remap_handle, getGlobalHandle, hg]
  exact mem_sensorsList_of_fullToGlobal hg

theorem remap_handle_unregistered (h : registered hs x = false) : (remap hs x).handle = -1 := by
  rw [remap_handle, getGlobalHandle]
  rw [registered, Option.isSome_eq_false_iff, Option.isNone_iff_eq_none] at h
  rw [h]

/-- No sensor is reported under the handle that stands for an unknown one. -/
theorem registered_iff_handle : registered (openSensors modules).handles x = true ↔
    (remap (openSensors modules).handles x).handle ≠ -1 := by
  constructor
  · intro h hneg
    have hpos := (mem_sensorsList.mp (remap_handle_registered h)).1
    omega
  · intro h
    by_contra hnone
    exact h (remap_handle_unregistered (Bool.eq_false_iff.mpr hnone))

/-- Normal events pass exactly if they are registered; of a meta-data event the filter looks at
a field that was not remapped. -/
theorem passes_iff :
    passes (openSensors modules).handles x = true ↔
      if x.2.type = SENSOR_TYPE_META_DATA then x.2.sensor ≠ -1
      else registered (openSensors modules).handles x = true := by
  rw [registered_iff_handle]
  by_cases hmeta : x.2.type = SENSOR_TYPE_META_DATA
  · simp [passes, remap, copyEventRemapHandle, hmeta]
  · simp [passes, remap, copyEventRemapHandle, hmeta, SensorsEvent.handle]

/-- `poll` ends; what it took from each queue is the beginning of what was queued there; it
delivers, remapped, what it took and was registered; if any such event is queued it returns between
one and `maxReads` of them; and with fewer than `maxReads` it leaves all queues empty. -/
def LosslessMerge (hs : Handles) (maxReads : Nat) (queues : List (SensorEventQueue SensorsEvent))
    (nextReadIndex : Nat) : Prop :=
  ∃ r, Polls hs maxReads queues nextReadIndex r ∧
    (∃ taken : List Queued,
      (∀ i, takenFrom taken i ++ contents r.2.queues i = contents queues i) ∧
      r.1.data = (taken.filter (registered hs)).map (remap hs)) ∧
    ((∃ i, ∃ e ∈ contents queues i, registered hs (i, e) = true) →
      ∃ data, r.1 = .returned data ∧ 1 ≤ data.length) ∧
    r.1.data.length ≤ maxReads ∧
    (r.1.data.length < maxReads → ∀ i, contents r.2.queues i = [])

/-- Every event that `poll` returns is about a sensor that `get_sensors_list` reports. -/
def DeliversReported (modules : List SubModule) (maxReads : Nat)
    (queues : List (SensorEventQueue SensorsEvent)) (nextReadIndex : Nat) : Prop :=
  ∀ r, Polls (openSensors modules).handles maxReads queues nextReadIndex r →
    ∀ e ∈ r.1.data, e.handle ∈ (getSensorsList modules .initial).map Sensor.handle

/-- A meta-data event that the filter takes for what it is not. -/
def Misjudged (hs : Handles) (x : Queued) : Prop :=
  x.2.type = SENSOR_TYPE_META_DATA ∧ (x.2.sensor = -1 ↔ registered hs x = true)

instance : Decidable (Misjudged hs x) := inferInstanceAs (Decidable (_ ∧ (_ ↔ _)))

theorem misjudged_iff : Misjudged (openSensors modules).handles x ↔
    registered (openSensors modules).handles x ≠ passes (openSensors modules).handles x := by
  have hpasses := @passes_iff modules x
  rw [Misjudged]
  generalize registered (openSensors modules).handles x = a at hpasses ⊢
  generalize passes (openSensors modules).handles x = b at hpasses ⊢
  by_cases hmeta : x.2.type = SENSOR_TYPE_META_DATA
  · by_cases hsensor : x.2.sensor = -1
    · cases a <;> cases b <;> simp_all
    · cases a <;> cases b <;> simp_all
  · cases a <;> cases b <;> simp_all

theorem mem_takenFrom {taken : List Queued} {i : Nat} {e : SensorsEvent} :
    e ∈ takenFrom taken i ↔ (i, e) ∈ taken := by
  unfold takenFrom
  constructor
  · intro h
    obtain ⟨⟨j, e'⟩, hmem, rfl⟩ := List.mem_map.mp h
    obtain ⟨hmem, hj⟩ := List.mem_filter.mp hmem
    have hj : j = i := by simpa using hj
    exact hj ▸ hmem
  · intro h
    exact List.mem_map.mpr ⟨(i, e), List.mem_filter.mpr ⟨h, by simp⟩, rfl⟩

/-- Without misjudged events among those that are read, nothing is lost. -/
theorem lossless_merge_of (hready : Ready queues nextReadIndex) (hmax : 1 ≤ maxReads)
    (h : ∀ x ∈ upTo (registered hs) maxReads (pending queues nextReadIndex),
      registered hs x = passes hs x) :
    LosslessMerge hs maxReads queues nextReadIndex := by
  obtain ⟨r, hpolls, houtcome, hdata, htaken, hle, hempty⟩ :=
    @polls_spec hs queues maxReads nextReadIndex hready
  have hsame : ∀ x ∈ taken hs maxReads queues nextReadIndex, passes hs x = registered hs x := by
    intro x hx
    rw [taken, ← upTo_congr h] at hx
    exact (h x hx).symm
  have hdelivered : r.2.data =
      ((taken hs maxReads queues nextReadIndex).filter (registered hs)).map (remap hs) := by
    rw [hdata, List.filter_congr hsame]
  have hreturned : r.2.data ≠ [] → r.1 = .returned r.2.data := by
    intro hne
    rw [← houtcome] at hne ⊢
    cases hr : r.1 with
    | returned data => rfl
    | waiting =>
      rw [hr] at hne
      exact absurd rfl hne
  refine ⟨r, hpolls, ⟨_, htaken, houtcome.trans hdelivered⟩, ?_, ?_, ?_⟩
  · rintro ⟨i, e, he, hreg⟩
    have hne : r.2.data ≠ [] := by
      intro hnil
      -- then the queues were read to their ends, and the event was one of those read
      have hless : r.2.data.length < maxReads := by
        rw [hnil]
        exact hmax
      have hi := htaken i
      rw [hempty hless i, List.append_nil] at hi
      rw [← hi, mem_takenFrom] at he
      rw [hdelivered, List.map_eq_nil_iff, List.filter_eq_nil_iff] at hnil
      exact hnil _ he hreg
    exact ⟨r.2.data, hreturned hne, List.length_pos_iff.mpr hne⟩
  · rw [houtcome]
    exact hle
  · rw [houtcome]
    exact hempty

/-- An event on which the filter errs shows in what is delivered. -/
theorem passes_eq_registered_of_lossless (hready : Ready queues nextReadIndex)
    (h : LosslessMerge (openSensors modules).handles maxReads queues nextReadIndex) :
    ∀ x ∈ taken (openSensors modules).handles maxReads queues nextReadIndex,
      passes (openSensors modules).handles x = registered (openSensors modules).handles x := by
  obtain ⟨r, hpolls, houtcome, hdata, htaken, -, -⟩ :=
    @polls_spec (openSensors modules).handles queues maxReads nextReadIndex hready
  obtain ⟨r', hpolls', ⟨taken', htaken', hdata'⟩, -⟩ := h
  obtain rfl := polls_unique hpolls hpolls'
  rw [houtcome, hdata] at hdata'
  intro x hx
  have hx' : x ∈ taken' := by
    rw [← mem_takenFrom, List.append_cancel_right ((htaken' x.1).trans (htaken x.1).symm),
      mem_takenFrom]
    exact hx
  by_contra hne
  cases hpass : passes (openSensors modules).handles x with
  | true =>
    have hreg : registered (openSensors modules).handles x = false := by
      rw [hpass] at hne
      exact Bool.eq_false_iff.mpr fun hreg => hne hreg.symm
    have hmem : remap (openSensors modules).handles x ∈
        ((taken (openSensors modules).handles maxReads queues nextReadIndex).filter
          (passes (openSensors modules).handles)).map (remap (openSensors modules).handles) :=
      List.mem_map.mpr ⟨x, List.mem_filter.mpr ⟨hx, hpass⟩, rfl⟩
    rw [hdata'] at hmem
    obtain ⟨y, hy, hyx⟩ := List.mem_map.mp hmem
    have hhandle := registered_iff_handle.mp (List.mem_filter.mp hy).2
    rw [hyx] at hhandle
    exact hhandle (remap_handle_unregistered hreg)
  | false =>
    have hreg : registered (openSensors modules).handles x = true := by
      by_contra hreg
      exact hne (hpass.trans (Bool.eq_false_iff.mpr hreg).symm)
    have hmem : remap (openSensors modules).handles x ∈
        (taken'.filter (registered (openSensors modules).handles)).map
          (remap (openSensors modules).handles) :=
      List.mem_map.mpr ⟨x, List.mem_filter.mpr ⟨hx', hreg⟩, rfl⟩
    rw [← hdata'] at hmem
    obtain ⟨y, hy, hyx⟩ := List.mem_map.mp hmem
    have hsensor := (List.mem_filter.mp hy).2
    rw [passes, hyx] at hsensor
    rw [passes] at hpass
    rw [hsensor] at hpass
    cases hpass

/-- The merge is lossless exactly if no event is misjudged among those up to the `maxReads`-th
registered one. -/
theorem lossless_merge_iff (hready : Ready queues nextReadIndex) (hmax : 1 ≤ maxReads) :
    LosslessMerge (openSensors modules).handles maxReads queues nextReadIndex ↔
      ∀ x ∈ upTo (registered (openSensors modules).handles) maxReads
          (pending queues nextReadIndex),
        ¬Misjudged (openSensors modules).handles x := by
  constructor
  · intro h
    have hsame := passes_eq_registered_of_lossless hready h
    intro x hx hmis
    rw [← upTo_congr hsame] at hx
    exact misjudged_iff.mp hmis (hsame x hx).symm
  · intro h
    apply lossless_merge_of hready hmax
    intro x hx
    by_contra hne
    exact h x hx (misjudged_iff.mpr hne)

/-- Only reported handles are delivered exactly if no meta-data event with an unknown one is among
the events up to the `maxReads`-th that passes the filter. -/
theorem delivers_reported_iff (hready : Ready queues nextReadIndex) :
    DeliversReported modules maxReads queues nextReadIndex ↔
      ∀ x ∈ upTo (passes (openSensors modules).handles) maxReads (pending queues nextReadIndex),
        x.2.type = SENSOR_TYPE_META_DATA → x.2.sensor ≠ -1 →
          registered (openSensors modules).handles x = true := by
  obtain ⟨r, hpolls, houtcome, hdata, -, -, -⟩ :=
    @polls_spec (openSensors modules).handles queues maxReads nextReadIndex hready
  constructor
  · intro h x hx hmeta hsensor
    have hpass : passes (openSensors modules).handles x = true := by
      rw [passes_iff, if_pos hmeta]
      exact hsensor
    have hmem : remap (openSensors modules).handles x ∈ r.1.data := by
      rw [houtcome, hdata]
      exact List.mem_map.mpr ⟨x, List.mem_filter.mpr ⟨hx, hpass⟩, rfl⟩
    apply registered_iff_handle.mpr
    intro hneg
    have hpos := (mem_sensorsList.mp (h r hpolls _ hmem)).1
    omega
  · intro h r' hpolls' e he
    obtain rfl := polls_unique hpolls hpolls'
    rw [houtcome, hdata] at he
    obtain ⟨x, hx, rfl⟩ := List.mem_map.mp he
    obtain ⟨hx, hpass⟩ := List.mem_filter.mp hx
    apply remap_handle_registered
    by_cases hmeta : x.2.type = SENSOR_TYPE_META_DATA
    · have hsensor := passes_iff.mp hpass
      rw [if_pos hmeta] at hsensor
      exact h x hx hmeta hsensor
    · have hreg := passes_iff.mp hpass
      rwa [if_neg hmeta] at hreg

/-- One opened module with one sensor. -/
def oneModule : List SubModule := [⟨[⟨9, 1, 0, 0, 0, 0⟩], true⟩]

/-- A queue that holds one event. -/
def holding (e : SensorsEvent) : SensorEventQueue SensorsEvent :=
  { mCapacity := 36, mStart := 0, mSize := 1, mData := fun _ => e }

theorem holding_ready (e : SensorsEvent) : Ready [holding e] 0 := by
  constructor
  · intro q hq
    rw [List.mem_singleton.mp hq]
    exact ⟨36, rfl, by simp [holding], by simp [holding], by simp [holding], by simp [holding]⟩
  · intro _
    exact Nat.zero_lt_one

theorem lossless_merge_iff_normal :
    LosslessMerge (openSensors oneModule).handles 1 [holding ⟨9, 1, 0⟩] 0 := by
  apply (lossless_merge_iff (holding_ready _) (Nat.le_refl 1)).mpr
  decide

theorem delivers_reported_iff_normal : DeliversReported oneModule 1 [holding ⟨9, 1, 0⟩] 0 := by
  apply (delivers_reported_iff (holding_ready _)).mpr
  decide

/-- The flush-complete event of an unknown sensor. -/
def unknownFlush : SensorsEvent := ⟨0, SENSOR_TYPE_META_DATA, 5⟩

/-- It is delivered, though it is not registered. -/
theorem not_lossless_merge_unknown_flush :
    Ready [holding unknownFlush] 0 ∧
      ¬LosslessMerge (openSensors oneModule).handles 1 [holding unknownFlush] 0 := by
  refine ⟨holding_ready _, ?_⟩
  intro h
  have := passes_eq_registered_of_lossless (holding_ready _) h (0, unknownFlush) (by decide)
  exact absurd this (by decide)

/-- It is delivered with -1 for its sensor. -/
theorem not_delivers_reported_unknown_flush :
    Ready [holding unknownFlush] 0 ∧ ¬DeliversReported oneModule 1 [holding unknownFlush] 0 := by
  refine ⟨holding_ready _, ?_⟩
  intro h
  have := h (.returned [⟨0, SENSOR_TYPE_META_DATA, -1⟩], _) ⟨2, rfl⟩
    ⟨0, SENSOR_TYPE_META_DATA, -1⟩ List.mem_cons_self
  exact absurd this (by decide)

end Apq8084.Sensors.Poll
