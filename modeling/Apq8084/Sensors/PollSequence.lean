import Mathlib.Algebra.Ring.Nat
import Apq8084.Sensors.Overtaking

/-! Calls of `poll` one after the other: how many events each of them asks for does not matter. -/
namespace Apq8084.Sensors.Poll

open MultiHal Tasks

variable {hs : Handles} {n m maxReads fuel fuel' : Nat} {s t s₁ s₂ : State}

def start (queues : List (SensorEventQueue SensorsEvent)) (nextReadIndex : Nat) : State :=
  { queues, nextReadIndex, empties := 0, data := [] }

/-- The calls ask for the listed numbers of events; `data` collects what they return. -/
inductive PollsInTurn (hs : Handles) : List Nat → State → State → Prop
  | nil (s : State) : PollsInTurn hs [] s s
  | cons {maxReads : Nat} {rest : List Nat} {s p t : State} {outcome : Outcome}
      (first : Polls hs maxReads s.queues s.nextReadIndex (outcome, p))
      (next : PollsInTurn hs rest { p with data := s.data ++ outcome.data } t) :
      PollsInTurn hs (maxReads :: rest) s t

/-- What was read before makes no difference. -/
def shift (d : List SensorsEvent) (s : State) : State := { s with data := d ++ s.data }

theorem body_shift (d : List SensorsEvent) :
    body hs (shift d s) = (body hs s).map (shift d) := by
  cases hq : s.queues[s.nextReadIndex]? with
  | none => simp [body, shift, hq]
  | some q =>
    cases hpeek : q.peek with
    | none =>
      rw [body_empty hq hpeek, body_empty (s := shift d s) hq hpeek]
      rfl
    | some x =>
      rw [body_event hq hpeek, body_event (s := shift d s) hq hpeek]
      simp [shift, List.append_assoc]

theorem scan_shift (d : List SensorsEvent) :
    scan hs (d.length + maxReads) fuel (shift d s) = (scan hs maxReads fuel s).map (shift d) := by
  induction fuel generalizing s with
  | zero => rfl
  | succ fuel ih =>
    have hlen : (shift d s).data.length = d.length + s.data.length := List.length_append
    rw [scan, scan, hlen]
    by_cases hguard : s.empties < s.queues.length ∧ s.data.length < maxReads
    · have hguard' : (shift d s).empties < (shift d s).queues.length ∧
          d.length + s.data.length < d.length + maxReads := ⟨hguard.1, by omega⟩
      rw [if_pos hguard, if_pos hguard', body_shift]
      cases body hs s with
      | none => rfl
      | some p => exact ih
    · have hguard' : ¬((shift d s).empties < (shift d s).queues.length ∧
          d.length + s.data.length < d.length + maxReads) := by
        intro h
        exact hguard ⟨h.1, by omega⟩
      rw [if_neg hguard, if_neg hguard']
      rfl

/-- A reader that wants more goes on where one that wants less stopped. -/
theorem scan_continue (h : scan hs m fuel s = some s₁) (hle : m ≤ maxReads)
    (ht : scan hs maxReads fuel' s₁ = some t) : scan hs maxReads (fuel + fuel') s = some t := by
  induction fuel generalizing s with
  | zero => cases h
  | succ fuel ih =>
    obtain ⟨-, rfl⟩ | ⟨hguard, p, hp, h⟩ := scan_succ h
    · rw [Nat.add_comm]
      exact scan_mono ht _
    · rw [Nat.succ_add, scan, if_pos ⟨hguard.1, Nat.lt_of_lt_of_le hguard.2 hle⟩, hp]
      exact ih h

/-- Enough was read, or the last queues were found empty. -/
theorem scan_stop (h : scan hs m fuel s = some t) :
    ¬(t.empties < t.queues.length ∧ t.data.length < m) := by
  induction fuel generalizing s with
  | zero => cases h
  | succ fuel ih =>
    obtain ⟨hguard, rfl⟩ | ⟨-, p, -, h⟩ := scan_succ h
    · exact hguard
    · exact ih h

/-- When the last event that was wanted was read, no queue was found empty after it. -/
theorem scan_enough (h : scan hs m fuel s = some t)
    (hstart : s.data.length < m ∨ s.empties = 0 ∧ s.data.length = m) :
    t.data.length < m ∨ t.empties = 0 ∧ t.data.length = m := by
  induction fuel generalizing s with
  | zero => cases h
  | succ fuel ih =>
    obtain ⟨-, rfl⟩ | ⟨hguard, p, hp, h⟩ := scan_succ h
    · exact hstart
    · apply ih h
      cases hq : s.queues[s.nextReadIndex]? with
      | none => simp [body, hq] at hp
      | some q =>
        cases hpeek : q.peek with
        | none =>
          rw [body_empty hq hpeek] at hp
          cases hp
          exact .inl hguard.2
        | some x =>
          have hdata := body_data hp
          rw [body_event hq hpeek] at hp
          cases hp
          have hle := Nat.lt_or_eq_of_le (Nat.le_trans hdata hguard.2)
          exact hle.imp_right fun heq => ⟨rfl, heq⟩

/-- Over empty queues the reader only counts. -/
theorem scan_empty (h : scan hs m fuel s = some t) (hempty : ∀ q ∈ s.queues, q.mSize = 0)
    (hle : s.empties ≤ s.queues.length) (hnext : s.nextReadIndex < s.queues.length) :
    ∃ j, t = { s with
        nextReadIndex := (s.nextReadIndex + j) % s.queues.length, empties := s.empties + j } ∧
      s.empties + j ≤ s.queues.length := by
  induction fuel generalizing s with
  | zero => cases h
  | succ fuel ih =>
    obtain ⟨-, rfl⟩ | ⟨hguard, p, hp, h⟩ := scan_succ h
    · refine ⟨0, ?_, hle⟩
      rw [Nat.add_zero, Nat.add_zero, Nat.mod_eq_of_lt hnext]
    · obtain ⟨q, hq⟩ : ∃ q, s.queues[s.nextReadIndex]? = some q :=
        ⟨_, List.getElem?_eq_getElem hnext⟩
      have hpeek : q.peek = none := by
        rw [SensorEventQueue.peek, if_pos (hempty q (List.mem_of_getElem? hq))]
      rw [body_empty hq hpeek] at hp
      cases hp
      have hpos : 0 < s.queues.length := Nat.lt_of_le_of_lt (Nat.zero_le _) hnext
      obtain ⟨j, rfl, hj⟩ := ih h hempty hguard.1 (Nat.mod_lt _ hpos)
      refine ⟨j + 1, ?_, ?_⟩
      · simp only [Nat.mod_add_mod, Nat.add_assoc, Nat.add_comm 1 j]
      · simp only at hj
        omega

/-- A call that finds nothing leaves the index where it was. -/
theorem scan_empty_start {queues : List (SensorEventQueue SensorsEvent)} {nextReadIndex : Nat}
    (h : scan hs m fuel (start queues nextReadIndex) = some t)
    (hempty : ∀ q ∈ queues, q.mSize = 0) (hnext : queues ≠ [] → nextReadIndex < queues.length) :
    t.queues = queues ∧ t.nextReadIndex = nextReadIndex ∧ t.data = [] := by
  by_cases hguard : 0 < queues.length ∧ 0 < m
  · have hnext := hnext (List.length_pos_iff.mp hguard.1)
    have hstop := scan_stop h
    obtain ⟨j, rfl, hj⟩ := scan_empty h hempty (Nat.zero_le _) hnext
    refine ⟨rfl, ?_, rfl⟩
    -- all queues were counted
    have hall : j = queues.length := by
      simp only [start, List.length_nil, Nat.zero_add] at hstop hj
      omega
    show (nextReadIndex + j) % queues.length = nextReadIndex
    rw [hall, Nat.add_mod_right, Nat.mod_eq_of_lt hnext]
  · cases fuel with
    | zero => cases h
    | succ fuel =>
      obtain ⟨-, rfl⟩ | ⟨hguard', -⟩ := scan_succ h
      · exact ⟨rfl, rfl, rfl⟩
      · exact absurd hguard' hguard

theorem scan_unique (h : scan hs m fuel s = some s₁) (h' : scan hs m fuel' s = some s₂) :
    s₁ = s₂ := by
  have hlong := scan_mono h fuel'
  rw [Nat.add_comm, scan_mono h' fuel] at hlong
  exact (Option.some.inj hlong).symm

theorem ready_of_readable (h : Readable n s) : Ready s.queues s.nextReadIndex :=
  ⟨fun q hq => ⟨_, h.valid q hq⟩, h.inRange⟩

theorem polls_scan {r : Outcome × State} (h : Polls hs m s.queues s.nextReadIndex r) :
    r.1.data = r.2.data ∧ ∃ fuel, scan hs m fuel (start s.queues s.nextReadIndex) = some r.2 := by
  obtain ⟨fuel, h⟩ := h
  refine ⟨poll_data h, fuel, ?_⟩
  obtain ⟨p, hscan, rfl⟩ := Option.map_eq_some_iff.mp h
  exact hscan

theorem scan_found_empty (hs' : Readable n s)
    (h : scan hs m fuel (start s.queues s.nextReadIndex) = some t) (hless : t.data.length < m) :
    ∀ q ∈ t.queues, q.mSize = 0 := by
  obtain ⟨r, hpolls, -, -, -, -, hempty⟩ := @polls_spec hs s.queues m s.nextReadIndex
    (ready_of_readable hs')
  obtain ⟨-, fuel', hscan⟩ := polls_scan hpolls
  obtain rfl := scan_unique h hscan
  have hvalid := (scan_induction body_readable h ⟨hs'.length, hs'.valid, hs'.inRange⟩).valid
  intro q hq
  obtain ⟨k, hk⟩ := List.getElem?_of_mem hq
  exact mSize_of_contents (hvalid q hq) hk (hempty hless k)

/-- Two calls read what one call for the sum of their sizes reads. -/
theorem scan_split {fuel₁ fuel₂ : Nat} {m₂ : Nat} (hs' : Readable n s)
    (h₁ : scan hs m fuel₁ (start s.queues s.nextReadIndex) = some s₁)
    (h₂ : scan hs m₂ fuel₂ (start s₁.queues s₁.nextReadIndex) = some s₂)
    (ht : scan hs (m + m₂) fuel (start s.queues s.nextReadIndex) = some t) :
    t.queues = s₂.queues ∧ t.nextReadIndex = s₂.nextReadIndex ∧ t.data = s₁.data ++ s₂.data := by
  have hstart : (start s.queues s.nextReadIndex).data.length < m ∨
      (start s.queues s.nextReadIndex).empties = 0 ∧
        (start s.queues s.nextReadIndex).data.length = m :=
    (Nat.eq_zero_or_pos m).symm.imp_right fun hm => ⟨rfl, hm.symm⟩
  obtain hless | ⟨hempties, hlen⟩ := scan_enough h₁ hstart
  · have hempty := scan_found_empty hs' h₁ hless
    have hinRange := (scan_induction body_readable h₁ ⟨hs'.length, hs'.valid, hs'.inRange⟩).inRange
    obtain ⟨hqueues, hnext, hdata⟩ := scan_empty_start h₂ hempty hinRange
    have hstop : ¬(s₁.empties < s₁.queues.length ∧ s₁.data.length < m + m₂) :=
      fun hguard => scan_stop h₁ ⟨hguard.1, hless⟩
    have hdone : scan hs (m + m₂) 1 s₁ = some s₁ := by rw [scan, if_neg hstop]
    obtain rfl := scan_unique ht (scan_continue h₁ (Nat.le_add_right m m₂) hdone)
    rw [hqueues, hnext, hdata, List.append_nil]
    exact ⟨rfl, rfl, rfl⟩
  · have hshift : shift s₁.data (start s₁.queues s₁.nextReadIndex) = s₁ := by
      simp only [shift, start, List.append_nil, ← hempties]
    have hrest : scan hs (m + m₂) fuel₂ s₁ = some (shift s₁.data s₂) := by
      have hscan : scan hs (s₁.data.length + m₂) fuel₂
          (shift s₁.data (start s₁.queues s₁.nextReadIndex)) =
            (scan hs m₂ fuel₂ (start s₁.queues s₁.nextReadIndex)).map (shift s₁.data) :=
        scan_shift s₁.data
      rw [h₂, hshift, hlen] at hscan
      exact hscan
    obtain rfl := scan_unique ht (scan_continue h₁ (Nat.le_add_right m m₂) hrest)
    exact ⟨rfl, rfl, rfl⟩

end Apq8084.Sensors.Poll
