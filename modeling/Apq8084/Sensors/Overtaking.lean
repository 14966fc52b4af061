import Apq8084.Sensors.Tasks

/-! How long a reported record waits in its queue: the loop of `poll` reads the queues in turn, and
the index of the next one is kept between its calls. -/
namespace Apq8084.Sensors.Tasks

open MultiHal Poll

/-- How many turns of the loop come before the one that reads queue `k` when `front` records are in
front of the one that waits. -/
def rank (n nextReadIndex k front : Nat) : Nat := (k + n - nextReadIndex) % n + front * n

/-- How many of the records that sub-HAL `k` reported have left its queue. -/
def readFrom (s : State) (k : Nat) : Nat :=
  (s.reported k).length - (contents s.queues k).length

variable {hs : Handles} {n k maxReads fuel behind : Nat} {s t : State} {a : Action}
  {p p' : Poll.State}

/-- Past another queue the reader comes one closer. -/
theorem rank_other {next front : Nat} (hnext : next < n) (hk : k < n) (hne : next ≠ k) :
    rank n ((next + 1) % n) k front + 1 = rank n next k front := by
  unfold rank
  have hdist : (k + n - (next + 1) % n) % n + 1 = (k + n - next) % n := by
    by_cases hlast : next + 1 = n
    · rw [hlast, Nat.mod_self, Nat.sub_zero, Nat.add_mod_right, Nat.mod_eq_of_lt hk,
        Nat.mod_eq_of_lt (by omega)]
      omega
    · rw [Nat.mod_eq_of_lt (by omega : next + 1 < n)]
      by_cases hlt : next < k
      · have h₁ : k + n - (next + 1) = (k - next - 1) + n := by omega
        have h₂ : k + n - next = (k - next) + n := by omega
        rw [h₁, h₂, Nat.add_mod_right, Nat.add_mod_right, Nat.mod_eq_of_lt (by omega),
          Nat.mod_eq_of_lt (by omega)]
        omega
      · rw [Nat.mod_eq_of_lt (by omega), Nat.mod_eq_of_lt (by omega)]
        omega
  omega

/-- Past queue `k` itself one record less is in front, and a whole round lies ahead. -/
theorem rank_self {front : Nat} (hk : k < n) :
    rank n ((k + 1) % n) k front + 1 = rank n k k (front + 1) := by
  unfold rank
  have hself : (k + n - k) % n = 0 := by rw [Nat.add_sub_cancel_left, Nat.mod_self]
  have hround : (k + n - (k + 1) % n) % n + 1 = n := by
    by_cases hlast : k + 1 = n
    · rw [hlast, Nat.mod_self, Nat.sub_zero, Nat.add_mod_right, Nat.mod_eq_of_lt hk, hlast]
    · rw [Nat.mod_eq_of_lt (by omega : k + 1 < n), Nat.mod_eq_of_lt (by omega)]
      omega
  rw [hself, Nat.succ_mul]
  omega

theorem rank_lt {next front : Nat} (hk : k < n) : rank n next k front < (front + 1) * n := by
  have hmod : (k + n - next) % n < n := Nat.mod_lt _ (Nat.lt_of_le_of_lt (Nat.zero_le k) hk)
  unfold rank
  rw [Nat.succ_mul]
  omega

/-! Inside a call of `poll`: `behind` records stand behind the one that waits. -/

def held (k : Nat) (p : Poll.State) : Nat := (contents p.queues k).length

theorem body_data (h : body hs p = some p') : p'.data.length ≤ p.data.length + 1 := by
  cases hq : p.queues[p.nextReadIndex]? with
  | none => simp [body, hq] at h
  | some q =>
    cases hpeek : q.peek with
    | none =>
      rw [body_empty hq hpeek] at h
      cases h
      exact Nat.le_succ _
    | some x =>
      rw [body_event hq hpeek] at h
      cases h
      have hle := List.length_filter_le (passes hs) [(p.nextReadIndex, q.mData x)]
      rw [List.length_singleton] at hle
      rw [List.length_append, List.length_map]
      omega

/-- The body reads at most one record, from the queue at the index. -/
theorem body_held (hp : Readable n p) (h : body hs p = some p') :
    (p.nextReadIndex ≠ k → held k p' = held k p) ∧
      (p.nextReadIndex = k → held k p = 0 ∧ held k p' = 0 ∨ held k p' + 1 = held k p) := by
  obtain ⟨q, hq, -, ⟨hzero, hsame⟩ | ⟨hne, hset⟩⟩ := body_cases h
  · refine ⟨fun _ => by rw [held, held, hsame], fun hk => .inl ?_⟩
    have hnil : contents p.queues k = [] := by
      rw [contents, ← hk, hq]
      exact SensorEventQueue.readable_of_empty hzero
    rw [held, held, hsame, hnil]
    exact ⟨rfl, rfl⟩
  · have hv := hp.valid q (List.mem_of_getElem? hq)
    have hlt := (List.getElem?_eq_some_iff.mp hq).1
    refine ⟨fun hk => ?_, fun hk => .inr ?_⟩
    · rw [held, held, hset, contents, contents, List.getElem?_set_ne hk]
    · subst hk
      have hread := SensorEventQueue.dequeue_readable hv hne
      have hold : contents p.queues p.nextReadIndex = q.readable := by rw [contents, hq]
      have hnew : contents p'.queues p.nextReadIndex = q.dequeue.readable := by
        rw [hset, contents, List.getElem?_set_self hlt]
      rw [held, held, hold, hnew, hread, List.length_cons]

/-- As long as the record waits, each event that is returned brings the reader one turn closer. -/
theorem body_rank (hp : Readable n p) (hk : k < n) (h : body hs p = some p')
    (hqueued : behind < held k p') :
    behind < held k p ∧
      p'.data.length + rank n p'.nextReadIndex k (held k p' - behind - 1) ≤
        p.data.length + rank n p.nextReadIndex k (held k p - behind - 1) := by
  obtain ⟨q, hq, hnext, -⟩ := body_cases h
  have hlt : p.nextReadIndex < n := by
    rw [← hp.length]
    exact (List.getElem?_eq_some_iff.mp hq).1
  rw [hp.length] at hnext
  have hdata := body_data h
  obtain ⟨hother, hself⟩ := body_held (k := k) hp h
  rw [hnext]
  by_cases hi : p.nextReadIndex = k
  · obtain ⟨-, hzero⟩ | hdec := hself hi
    · omega
    · have hfront : held k p - behind - 1 = held k p' - behind - 1 + 1 := by omega
      have hrank : rank n ((k + 1) % n) k (held k p' - behind - 1) + 1 =
          rank n k k (held k p' - behind - 1 + 1) := rank_self hk
      rw [hi, hfront]
      omega
  · have hrank : rank n ((p.nextReadIndex + 1) % n) k (held k p' - behind - 1) + 1 =
        rank n p.nextReadIndex k (held k p' - behind - 1) := rank_other hlt hk hi
    rw [hother hi] at hqueued hrank ⊢
    omega

theorem scan_rank (hp : Readable n p) (hk : k < n) (h : scan hs maxReads fuel p = some p')
    (hqueued : behind < held k p') :
    behind < held k p ∧
      p'.data.length + rank n p'.nextReadIndex k (held k p' - behind - 1) ≤
        p.data.length + rank n p.nextReadIndex k (held k p - behind - 1) := by
  induction fuel generalizing p with
  | zero => cases h
  | succ fuel ih =>
    obtain ⟨-, rfl⟩ | ⟨-, p₁, hp₁, h⟩ := scan_succ h
    · exact ⟨hqueued, Nat.le_refl _⟩
    · obtain ⟨hqueued₁, hle₁⟩ := ih (body_readable p p₁ hp hp₁) h
      obtain ⟨hqueued, hle⟩ := body_rank hp hk hp₁ hqueued₁
      exact ⟨hqueued, Nat.le_trans hle₁ hle⟩

/-! A step of the threads either reads from the queues or adds to them. -/

/-- The step is a turn of `poll`. -/
def Reads (hs : Handles) (s t : State) : Prop :=
  ∃ maxReads fuel outcome p,
    Poll.poll hs maxReads fuel s.queues s.nextReadIndex = some (outcome, p) ∧
    t.queues = p.queues ∧ t.nextReadIndex = p.nextReadIndex ∧
    t.delivered.length = s.delivered.length + p.data.length ∧ t.reported = s.reported

/-- What is new in a queue was reported. -/
def Adds (s t : State) : Prop :=
  t.nextReadIndex = s.nextReadIndex ∧ t.delivered = s.delivered ∧
    ∀ k, ∃ xs, t.reported k = s.reported k ++ xs ∧
      contents t.queues k = contents s.queues k ++ xs

theorem adds_same (hqueues : t.queues = s.queues) (hnext : t.nextReadIndex = s.nextReadIndex)
    (hdelivered : t.delivered = s.delivered) (hreported : t.reported = s.reported) : Adds s t := by
  refine ⟨hnext, hdelivered, fun k => ⟨[], ?_, ?_⟩⟩
  · rw [hreported, List.append_nil]
  · rw [hqueues, List.append_nil]

/-- What a call returns is what its loop collected. -/
theorem poll_data {queues : List (SensorEventQueue SensorsEvent)} {nextReadIndex : Nat}
    {outcome : Poll.Outcome}
    (h : Poll.poll hs maxReads fuel queues nextReadIndex = some (outcome, p)) :
    outcome.data = p.data := by
  obtain ⟨p', -, hp'⟩ := Option.map_eq_some_iff.mp h
  cases hp'
  by_cases hnil : p.data.length = 0
  · rw [if_pos hnil, List.eq_nil_of_length_eq_zero hnil]
    rfl
  · rw [if_neg hnil]
    rfl

theorem turn_reads (h : turn hs maxReads fuel s = some t) : Reads hs s t := by
  obtain ⟨⟨outcome, p⟩, hpoll, ht⟩ := Option.map_eq_some_iff.mp h
  have hdata := poll_data hpoll
  refine ⟨maxReads, fuel, outcome, p, hpoll, ?_⟩
  cases outcome with
  | returned data =>
    subst ht
    refine ⟨rfl, rfl, ?_, rfl⟩
    rw [← hdata]
    exact List.length_append
  | waiting =>
    subst ht
    refine ⟨rfl, rfl, ?_, rfl⟩
    rw [← hdata]
    exact List.length_append

theorem step_effect (h : Inv hs n s) (ht : step hs s a = some t) : Reads hs s t ∨ Adds s t := by
  unfold step at ht
  by_cases hexited : s.exited = true
  · rw [if_pos hexited] at ht
    cases ht
  rw [if_neg hexited] at ht
  cases a with
  | lock k =>
    simp only at ht
    split at ht
    · cases ht
      right
      unfold lock
      split
      · exact adds_same rfl rfl rfl rfl
      · exact adds_same rfl rfl rfl rfl
    · cases ht
  | store k e =>
    simp only at ht
    split at ht
    · rename_i q first bufferSize stored hq hk
      split at ht
      · rename_i hroom
        cases ht
        right
        have hok := h.writers k q hq
        rw [hk] at hok
        obtain ⟨first', hfirst, -, -, hregion, -⟩ := hok
        cases hfirst
        have hv := h.valid q (List.mem_of_getElem? hq)
        have hread := SensorEventQueue.store_readable hv hregion hroom (e := e)
        refine ⟨rfl, rfl, fun j => ⟨[], (List.append_nil _).symm, ?_⟩⟩
        rw [contents_set_same hq hread, List.append_nil]
      · cases ht
    · cases ht
  | polled k eventsPolled =>
    simp only at ht
    split at ht
    · rename_i q buffer bufferSize stored hq hk
      split at ht
      · cases ht
        exact .inr (adds_same rfl rfl rfl rfl)
      · split at ht
        · rename_i hpolled
          cases ht
          right
          exact ⟨rfl, rfl, fun j => mark_adds h hq hk hpolled j⟩
        · cases ht
    · cases ht
  | poll maxCount fuel =>
    simp only at ht
    split at ht
    · split at ht
      · exact .inl (turn_reads ht)
      · cases ht
        exact .inr (adds_same rfl rfl rfl rfl)
    · cases ht
      exact .inr (adds_same rfl rfl rfl rfl)
  | resume fuel =>
    simp only at ht
    split at ht
    · have hreads : Reads hs { s with waitingForData := false } t := turn_reads ht
      exact .inl hreads
    · cases ht
  | spuriousWriter k =>
    cases ht
    exact .inr (adds_same rfl rfl rfl rfl)
  | spuriousPoller =>
    cases ht
    exact .inr (adds_same rfl rfl rfl rfl)

theorem contents_le_reported (h : Inv hs n s) (k : Nat) :
    (contents s.queues k).length ≤ (s.reported k).length := by
  obtain ⟨xs, -, hreports⟩ := h.lossless
  rw [hreports k, List.length_append]
  exact Nat.le_add_left _ _

/-- While record `i` of those that sub-HAL `k` reported waits, what is delivered and the number of
turns in front of it do not grow together. -/
theorem step_rank {i : Nat} (h : Inv hs n s) (hk : k < n) (ht : step hs s a = some t)
    (hi : i < (s.reported k).length) (hqueued : readFrom t k ≤ i) :
    i < (t.reported k).length ∧ readFrom s k ≤ i ∧
      t.delivered.length + rank n t.nextReadIndex k (i - readFrom t k) ≤
        s.delivered.length + rank n s.nextReadIndex k (i - readFrom s k) := by
  have hle := contents_le_reported h k
  have hle' := contents_le_reported (step_inv s a t h ht) k
  obtain ⟨maxReads, fuel, outcome, p, hpoll, hqueues, hnext, hdelivered, hreported⟩ |
    ⟨hnext, hdelivered, hadds⟩ := step_effect h ht
  · obtain ⟨p', hscan, hp'⟩ := Option.map_eq_some_iff.mp hpoll
    cases hp'
    unfold readFrom at hqueued ⊢
    rw [hqueues, hreported] at hqueued hle' ⊢
    have hheld : (contents p.queues k).length = held k p := rfl
    have hbehind : (s.reported k).length - i - 1 < held k p := by omega
    obtain ⟨hold, hrank⟩ := scan_rank ⟨h.length, h.valid, h.inRange⟩ hk hscan hbehind
    replace hold : (s.reported k).length - i - 1 < (contents s.queues k).length := hold
    replace hrank : p.data.length + rank n p.nextReadIndex k
          ((contents p.queues k).length - ((s.reported k).length - i - 1) - 1) ≤
        0 + rank n s.nextReadIndex k
          ((contents s.queues k).length - ((s.reported k).length - i - 1) - 1) := hrank
    have hfront : i - ((s.reported k).length - (contents p.queues k).length) =
        (contents p.queues k).length - ((s.reported k).length - i - 1) - 1 := by omega
    have hfront' : i - ((s.reported k).length - (contents s.queues k).length) =
        (contents s.queues k).length - ((s.reported k).length - i - 1) - 1 := by omega
    refine ⟨hi, by omega, ?_⟩
    rw [hdelivered, hnext, hfront, hfront']
    omega
  · obtain ⟨xs, hreported, hcontents⟩ := hadds k
    have hsame : readFrom t k = readFrom s k := by
      rw [readFrom, readFrom, hreported, hcontents, List.length_append, List.length_append]
      omega
    rw [hsame] at hqueued
    rw [hsame, hnext, hdelivered, hreported, List.length_append]
    exact ⟨by omega, hqueued, Nat.le_refl _⟩

theorem step_reported (h : Inv hs n s) (ht : step hs s a = some t) (k : Nat) :
    (s.reported k).length ≤ (t.reported k).length := by
  obtain ⟨-, -, -, -, -, -, -, -, hreported⟩ | ⟨-, -, hadds⟩ := step_effect h ht
  · rw [hreported]
  · obtain ⟨xs, hreported, -⟩ := hadds k
    rw [hreported, List.length_append]
    exact Nat.le_add_right _ _

theorem run_rank {i : Nat} {as : List Action} (h : Inv hs n s) (hk : k < n)
    (ht : Machine.run (step hs) s as = some t) (hi : i < (s.reported k).length)
    (hqueued : readFrom t k ≤ i) :
    readFrom s k ≤ i ∧
      t.delivered.length + rank n t.nextReadIndex k (i - readFrom t k) ≤
        s.delivered.length + rank n s.nextReadIndex k (i - readFrom s k) := by
  induction as generalizing s with
  | nil =>
    cases ht
    exact ⟨hqueued, Nat.le_refl _⟩
  | cons a as ih =>
    obtain ⟨u, hu, ht⟩ := Option.bind_eq_some_iff.mp ht
    obtain ⟨hqueued', hrest⟩ :=
      ih (step_inv s a u h hu) ht (Nat.lt_of_lt_of_le hi (step_reported h hu k))
    obtain ⟨-, hqueued, hfirst⟩ := step_rank h hk hu hi hqueued'
    exact ⟨hqueued, Nat.le_trans hrest hfirst⟩

/-- Bounded waiting: as long as the record with `front` records in front of it waits in the queue
of a sub-HAL, the framework gets less than `(front + 1) * n` events of all sub-HALs, however they
are spread over calls of `poll` and whatever the sub-HALs report meanwhile. -/
theorem bounded_overtaking {mData : Nat → Int → SensorsEvent} {as b : List Action} {front : Nat}
    (hs' : Machine.run (step hs) (initial n mData) as = some s)
    (ht : Machine.run (step hs) s b = some t) (hfront : front < (contents s.queues k).length)
    (hqueued : readFrom t k ≤ readFrom s k + front) :
    t.delivered.length < s.delivered.length + (front + 1) * n := by
  have h := run_inv hs'
  have hk : k < n := by
    rw [← h.length]
    by_contra hge
    rw [contents, List.getElem?_eq_none (Nat.le_of_not_lt hge)] at hfront
    exact Nat.not_lt_zero _ hfront
  have hle := contents_le_reported h k
  have hi : readFrom s k + front < (s.reported k).length := by
    unfold readFrom
    omega
  obtain ⟨-, hrank⟩ := run_rank h hk ht hi hqueued
  have hlt := @rank_lt n k s.nextReadIndex front hk
  rw [Nat.add_sub_cancel_left] at hrank
  omega

/-- Two opened modules with one sensor each. -/
def twoModules : List SubModule := [⟨[⟨9, 1, 0, 0, 0, 0⟩], true⟩, ⟨[⟨5, 1, 0, 0, 0, 0⟩], true⟩]

/-- The first sub-HAL reports two events, the second one; the framework gets one of the first. -/
theorem bounded_overtaking_one_read :
    ∃ s t : State, t.delivered.length = 1 ∧ t.delivered.length < s.delivered.length + 1 * 2 := by
  have hs : Machine.run (step (openSensors twoModules).handles)
      (initial 2 fun _ _ => ⟨0, 0, 0⟩)
      [.lock 0, .lock 1, .store 0 ⟨9, 1, 0⟩, .store 1 ⟨5, 1, 0⟩, .store 0 ⟨9, 1, 0⟩, .polled 0 2,
        .polled 1 1] = some _ := rfl
  refine ⟨_, _, ?_, bounded_overtaking (k := 1) (b := [.poll 1 2]) hs rfl
    (by decide : 0 < _) (by decide)⟩
  rfl

end Apq8084.Sensors.Tasks
