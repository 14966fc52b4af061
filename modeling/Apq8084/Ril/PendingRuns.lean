import Apq8084.Ril.PendingRequests

/-! What holds of the pending-request lists and of the answers given, in every run of the
dispatching threads and the vendor. -/
namespace Apq8084.Ril.PendingRequests

variable {n simCount : Nat} {ρ : Type} {version : Int} {s s' : State n ρ}
  {l : Nat → List (Fin n)} {t : Fin n} {k : Nat} {reply : ρ}

/-- The memory cells and the lists fit together. -/
structure Lists (simCount : Nat) (s : State n ρ) (l : Nat → List (Fin n)) : Prop where
  pending : ∀ k, Pending s k (l k)
  nodup : ∀ k, (l k).Nodup
  slot : ∀ k, ∀ a ∈ l k, hook simCount (s.mem a).socketId = k
  allocated : ∀ k, ∀ a ∈ l k, s.allocated a = true
  takenNodup : (completing s).Nodup
  takenAllocated : ∀ a ∈ completing s, s.allocated a = true
  taken : ∀ a ∈ completing s, ∀ k, a ∉ l k

/-- The cell holds a request that was added and not yet answered. -/
def Owned (s : State n ρ) (l : Nat → List (Fin n)) (a : Fin n) : Prop :=
  (∃ k, a ∈ l k) ∨ a ∈ completing s

/-- Every request is in a cell of its own until it is answered. -/
structure Records (version : Int) (own : Fin n → Prop) (mem : Fin n → RequestInfo)
    (added : List Request) (acked : List Nat) (responses : List (Response ρ)) : Prop where
  request : ∀ a, own a →
    added[(mem a).id]? = some ⟨(mem a).token, (mem a).socketId, (mem a).requestNumber⟩
  flags : ∀ a, own a → (mem a).locallyIssued = 0 ∧ (mem a).cancelled = 0
  ack : ∀ a, own a → ((mem a).wasAckSent = 1 ↔ (mem a).id ∈ acked)
  inj : ∀ a b, own a → own b → (mem a).id = (mem b).id → a = b
  ackAdded : ∀ i ∈ acked, i < added.length
  responded : ∀ r ∈ responses, added[r.id]? = some ⟨r.token, r.slotId, r.requestNumber⟩
  expected : ∀ r ∈ responses, r.responseType =
    if 13 ≤ version ∧ r.id ∈ acked then RESPONSE_SOLICITED_ACK_EXP else RESPONSE_SOLICITED
  once : (responses.map Response.id).Nodup
  unanswered : ∀ r ∈ responses, ∀ a, own a → (mem a).id ≠ r.id
  covered : ∀ i < added.length, (∃ a, own a ∧ (mem a).id = i) ∨ i ∈ responses.map Response.id

/-! The lists. -/

theorem lists_initial (mem : Fin n → RequestInfo) (pNext : Fin n → Option (Fin n)) :
    Lists simCount (initial (ρ := ρ) mem pNext) fun _ => [] := by
  constructor <;> simp [initial, Pending, completing]

theorem slot_unique (h : Lists simCount s l) {j : Nat} (ht : t ∈ l k) (htj : t ∈ l j) :
    k = j := by
  rw [← h.slot k t ht, ← h.slot j t htj]

theorem chain_links (h : Lists simCount s l) (k : Nat) :
    Links.Chain (links s k).next ((links s k).load .head) (l k) :=
  h.pending k

/-- The loop of `checkAndDequeueRequestInfoIfAck` ends at a listed token. -/
theorem find_listed (h : Lists simCount s l) (ht : t ∈ l k) :
    ∃ ppCur l₁ l₂, (links s k).find (· = t) (n + 1) .head = some (ppCur, t) ∧
      l k = l₁ ++ t :: l₂ ∧ (ppCur = .head ∨ ∃ a ∈ l k, ppCur = .next a) ∧
      Links.Chain ((links s k).store ppCur (s.pNext t)).next
        ((links s k).store ppCur (s.pNext t)).head (l₁ ++ l₂) := by
  have hlen : (l k).length < n + 1 := by
    have := (h.nodup k).length_le_card
    simp only [Fintype.card_fin] at this
    omega
  cases hf : (links s k).find (· = t) (n + 1) .head with
  | none =>
    have := Links.find_none .head (chain_links h k) hlen hf t ht
    simp at this
  | some found =>
    obtain ⟨ppCur, cur⟩ := found
    obtain ⟨l₁, l₂, hl, hcur, -, hplace, hchain⟩ :=
      Links.chain_unlink_head (chain_links h k) (h.nodup k) hf
    have hcur : cur = t := by simpa using hcur
    subst hcur
    exact ⟨ppCur, l₁, l₂, rfl, hl, hplace, hchain⟩

/-- The loop finds no token that is not listed, whatever slot the cell names. -/
theorem find_unlisted (h : Lists simCount s l) (ht : t ∉ l k) :
    (links s k).find (· = t) (n + 1) .head = none := by
  cases hf : (links s k).find (· = t) (n + 1) .head with
  | none => rfl
  | some found =>
    obtain ⟨ppCur, cur⟩ := found
    obtain ⟨l₁, l₂, hl, hcur, -⟩ := Links.find_some .head (chain_links h k) hf
    have hcur : cur = t := by simpa using hcur
    subst hcur
    exact absurd (hl ▸ List.mem_append_right l₁ List.mem_cons_self) ht

/-- The list of all requests is not part of the search. -/
theorem check_added (s : State n ρ) (t : Option (Fin n)) (isAck : Bool) :
    (checkAndDequeueRequestInfoIfAck simCount s t isAck).2.added = s.added := by
  unfold checkAndDequeueRequestInfoIfAck
  split
  · rfl
  · simp only
    split
    · rfl
    · split
      · split <;> rfl
      · rename_i ppCur _ _ _
        cases ppCur <;> rfl

theorem check_unlisted (h : Lists simCount s l) (ht : ∀ k, t ∉ l k) (isAck : Bool) :
    checkAndDequeueRequestInfoIfAck simCount s (some t) isAck = (none, s) := by
  simp only [checkAndDequeueRequestInfoIfAck, find_unlisted h (ht _)]

theorem check_ack (h : Lists simCount s l) (ht : t ∈ l k) :
    checkAndDequeueRequestInfoIfAck simCount s (some t) true =
      (some t, { s with mem := Function.update s.mem t { s.mem t with wasAckSent := 1 } }) := by
  obtain ⟨ppCur, l₁, l₂, hf, -⟩ := find_listed h ht
  simp only [checkAndDequeueRequestInfoIfAck, h.slot k t ht, hf, if_true]
  split
  · rename_i hack
    have : ({ s.mem t with wasAckSent := 1 } : RequestInfo) = s.mem t := by
      rw [← hack]
    rw [this, Function.update_eq_self]
  · rfl

/-- A completion takes the token out of its list; the cell itself is not written. -/
theorem check_dequeue (h : Lists simCount s l) (ht : t ∈ l k) :
    ∃ s' l₁ l₂, checkAndDequeueRequestInfoIfAck simCount s (some t) false = (some t, s') ∧
      l k = l₁ ++ t :: l₂ ∧ Pending s' k (l₁ ++ l₂) ∧ (∀ j, j ≠ k → Pending s' j (l j)) ∧
      s' = { s with heads := s'.heads, pNext := s'.pNext } := by
  obtain ⟨ppCur, l₁, l₂, hf, hl, hplace, hchain⟩ := find_listed h ht
  refine ⟨storeLink s k ppCur (s.pNext t), l₁, l₂, ?_, hl, ?_, ?_, ?_⟩
  · simp [checkAndDequeueRequestInfoIfAck, h.slot k t ht, hf]
  · cases ppCur with
    | head => simpa [Pending, storeLink, Links.store, links] using hchain
    | next a => exact hchain
  · intro j hj
    rcases hplace with rfl | ⟨a, ha, rfl⟩
    · simpa [Pending, storeLink, Function.update_of_ne hj] using h.pending j
    · refine Links.chain_update ?_ (h.pending j)
      intro haj
      exact hj (slot_unique h haj ha)
  · cases ppCur <;> rfl

/-! The requests in the cells. -/

section Records

variable {own own' : Fin n → Prop} {mem : Fin n → RequestInfo} {added : List Request}
  {acked : List Nat} {responses : List (Response ρ)} {a : Fin n} {r : RequestInfo}

theorem Records.of_iff (h : Records version own mem added acked responses)
    (hown : ∀ a, own' a ↔ own a) : Records version own' mem added acked responses := by
  have : own' = own := funext fun a => propext (hown a)
  rw [this]
  exact h

theorem records_initial (mem : Fin n → RequestInfo) :
    Records (ρ := ρ) version (fun _ => False) mem [] [] [] := by
  constructor <;> simp

theorem Records.id_lt (h : Records version own mem added acked responses) (ha : own a) :
    (mem a).id < added.length := by
  obtain ⟨hlt, -⟩ := List.getElem?_eq_some_iff.mp (h.request a ha)
  exact hlt

theorem Records.response_id_lt (h : Records version own mem added acked responses)
    {r : Response ρ} (hr : r ∈ responses) : r.id < added.length := by
  obtain ⟨hlt, -⟩ := List.getElem?_eq_some_iff.mp (h.responded r hr)
  exact hlt

/-- A new request has a number that no cell and no answer has. -/
theorem Records.add (h : Records version own mem added acked responses) (ha : ¬own a)
    (hid : r.id = added.length) (hlocal : r.locallyIssued = 0) (hcancelled : r.cancelled = 0)
    (hack : r.wasAckSent = 0) :
    Records version (fun x => x = a ∨ own x) (Function.update mem a r)
      (added ++ [⟨r.token, r.socketId, r.requestNumber⟩]) acked responses := by
  have hother : ∀ x, own x → Function.update mem a r x = mem x := by
    intro x hx
    refine Function.update_of_ne ?_ r mem
    rintro rfl
    exact ha hx
  have hself : Function.update mem a r a = r := Function.update_self a r mem
  constructor
  · rintro x (rfl | hx)
    · rw [hself, hid]
      simp
    · rw [hother x hx, List.getElem?_append_left (h.id_lt hx)]
      exact h.request x hx
  · rintro x (rfl | hx)
    · rw [hself]
      exact ⟨hlocal, hcancelled⟩
    · rw [hother x hx]
      exact h.flags x hx
  · rintro x (rfl | hx)
    · rw [hself, hid, hack]
      constructor
      · intro h0
        cases h0
      · intro hmem
        exact absurd (h.ackAdded _ hmem) (Nat.lt_irrefl _)
    · rw [hother x hx]
      exact h.ack x hx
  · rintro x y (rfl | hx) (rfl | hy) hxy
    · rfl
    · rw [hself, hother y hy, hid] at hxy
      have := h.id_lt hy
      omega
    · rw [hself, hother x hx, hid] at hxy
      have := h.id_lt hx
      omega
    · rw [hother x hx, hother y hy] at hxy
      exact h.inj x y hx hy hxy
  · intro i hi
    have := h.ackAdded i hi
    simp only [List.length_append]
    omega
  · intro q hq
    rw [List.getElem?_append_left (h.response_id_lt hq)]
    exact h.responded q hq
  · exact h.expected
  · exact h.once
  · rintro q hq x (rfl | hx)
    · rw [hself, hid]
      have := h.response_id_lt hq
      omega
    · rw [hother x hx]
      exact h.unanswered q hq x hx
  · intro i hi
    rw [List.length_append, List.length_singleton] at hi
    rcases Nat.lt_succ_iff_lt_or_eq.mp hi with hi | rfl
    · rcases h.covered i hi with ⟨x, hx, rfl⟩ | hq
      · exact Or.inl ⟨x, Or.inr hx, by rw [hother x hx]⟩
      · exact Or.inr hq
    · exact Or.inl ⟨a, Or.inl rfl, by rw [hself, hid]⟩

/-- An acknowledgement is recorded in the one cell that holds the request. -/
theorem Records.acknowledge (h : Records version own mem added acked responses) (ha : own a) :
    Records version own (Function.update mem a { mem a with wasAckSent := 1 }) added
      (acked ++ [(mem a).id]) responses := by
  have hfields : ∀ x, (Function.update mem a { mem a with wasAckSent := 1 } x).id = (mem x).id ∧
      (Function.update mem a { mem a with wasAckSent := 1 } x).token = (mem x).token ∧
      (Function.update mem a { mem a with wasAckSent := 1 } x).socketId = (mem x).socketId ∧
      (Function.update mem a { mem a with wasAckSent := 1 } x).requestNumber =
        (mem x).requestNumber ∧
      (Function.update mem a { mem a with wasAckSent := 1 } x).locallyIssued =
        (mem x).locallyIssued ∧
      (Function.update mem a { mem a with wasAckSent := 1 } x).cancelled =
        (mem x).cancelled := by
    intro x
    by_cases hx : x = a
    · subst hx
      simp
    · simp [Function.update_of_ne hx]
  constructor
  · intro x hx
    obtain ⟨hid, htoken, hsocket, hnumber, -⟩ := hfields x
    rw [hid, htoken, hsocket, hnumber]
    exact h.request x hx
  · intro x hx
    obtain ⟨-, -, -, -, hlocal, hcancelled⟩ := hfields x
    rw [hlocal, hcancelled]
    exact h.flags x hx
  · intro x hx
    rw [(hfields x).1, List.mem_append, List.mem_singleton]
    by_cases hxa : x = a
    · subst hxa
      simp
    · rw [Function.update_of_ne hxa, h.ack x hx]
      constructor
      · exact Or.inl
      · rintro (hmem | heq)
        · exact hmem
        · exact absurd (h.inj x a hx ha heq) hxa
  · intro x y hx hy hxy
    rw [(hfields x).1, (hfields y).1] at hxy
    exact h.inj x y hx hy hxy
  · intro i hi
    rcases List.mem_append.mp hi with hi | hi
    · exact h.ackAdded i hi
    · rw [List.mem_singleton.mp hi]
      exact h.id_lt ha
  · exact h.responded
  · intro q hq
    have hne : q.id ≠ (mem a).id := Ne.symm (h.unanswered q hq a ha)
    simp only [List.mem_append, List.mem_singleton, hne, or_false]
    exact h.expected q hq
  · exact h.once
  · intro q hq x hx
    rw [(hfields x).1]
    exact h.unanswered q hq x hx
  · intro i hi
    rcases h.covered i hi with ⟨x, hx, rfl⟩ | hq
    · exact Or.inl ⟨x, hx, (hfields x).1⟩
    · exact Or.inr hq

/-- The answer to a request ends its hold on the cell. -/
theorem Records.respond (h : Records version own mem added acked responses) (ha : own a) :
    Records version (fun x => own x ∧ x ≠ a) mem added acked
      (responses ++ [⟨(mem a).id, (mem a).socketId, responseType version (mem a), (mem a).token,
        (mem a).requestNumber, reply⟩]) := by
  constructor
  · exact fun x hx => h.request x hx.1
  · exact fun x hx => h.flags x hx.1
  · exact fun x hx => h.ack x hx.1
  · exact fun x y hx hy => h.inj x y hx.1 hy.1
  · exact h.ackAdded
  · intro q hq
    rcases List.mem_append.mp hq with hq | hq
    · exact h.responded q hq
    · rw [List.mem_singleton.mp hq]
      exact h.request a ha
  · intro q hq
    rcases List.mem_append.mp hq with hq | hq
    · exact h.expected q hq
    · rw [List.mem_singleton.mp hq]
      simp only [responseType, h.ack a ha]
  · rw [List.map_append, List.map_singleton, List.nodup_append]
    refine ⟨h.once, by simp, ?_⟩
    rintro i hi j hj rfl
    obtain ⟨q, hq, rfl⟩ := List.mem_map.mp hi
    exact h.unanswered q hq a ha (List.mem_singleton.mp hj).symm
  · rintro q hq x ⟨hx, hxa⟩
    rcases List.mem_append.mp hq with hq | hq
    · exact h.unanswered q hq x hx
    · rw [List.mem_singleton.mp hq]
      exact fun heq => hxa (h.inj x a hx ha heq)
  · intro i hi
    rw [List.map_append, List.mem_append]
    rcases h.covered i hi with ⟨x, hx, rfl⟩ | hq
    · by_cases hxa : x = a
      · subst hxa
        exact Or.inr (Or.inr (by simp))
      · exact Or.inl ⟨x, ⟨hx, hxa⟩, rfl⟩
    · exact Or.inr (Or.inl hq)

end Records

/-! Steps. -/

/-- The invariant of all runs. -/
structure Inv (simCount : Nat) (version : Int) (s : State n ρ) (l : Nat → List (Fin n)) :
    Prop where
  lists : Lists simCount s l
  records : Records version (Owned s l) s.mem s.added s.acked s.responses

theorem inv_initial (mem : Fin n → RequestInfo) (pNext : Fin n → Option (Fin n)) :
    Inv simCount version (initial (ρ := ρ) mem pNext) fun _ => [] := by
  refine ⟨lists_initial mem pNext, (records_initial mem).of_iff ?_⟩
  simp [Owned, completing, initial]

theorem Lists.owned_allocated (h : Lists simCount s l) {a : Fin n} (ha : Owned s l a) :
    s.allocated a = true := by
  rcases ha with ⟨k, ha⟩ | ha
  · exact h.allocated k a ha
  · exact h.takenAllocated a ha

theorem completing_add (serial : Int) (slotId request : Nat) (a : Fin n) :
    completing (addRequestToList simCount s serial slotId request a) = completing s := rfl

theorem addRequestToList_inv {a : Fin n} (h : Inv simCount version s l)
    (ha : s.allocated a = false) (serial : Int) (slotId request : Nat) :
    Inv simCount version (addRequestToList simCount s serial slotId request a)
      (Function.update l (hook simCount slotId) (a :: l (hook simCount slotId))) := by
  have hfree : ¬Owned s l a := by
    intro hown
    simp [h.lists.owned_allocated hown] at ha
  have hunlisted : ∀ k, a ∉ l k := fun k hk => hfree (Or.inl ⟨k, hk⟩)
  have hne : ∀ x, Owned s l x → x ≠ a := by
    rintro x hx rfl
    exact hfree hx
  have hmem : ∀ k x,
      x ∈ Function.update l (hook simCount slotId) (a :: l (hook simCount slotId)) k ↔
        (x = a ∧ k = hook simCount slotId) ∨ x ∈ l k := by
    intro k x
    by_cases hk : k = hook simCount slotId
    · subst hk
      simp
    · simp [hk]
  refine ⟨⟨?_, ?_, ?_, ?_, h.lists.takenNodup, ?_, ?_⟩, ?_⟩
  · intro k
    by_cases hk : k = hook simCount slotId
    · subst hk
      simpa [Pending, addRequestToList] using
        Links.chain_push (hunlisted _) (h.lists.pending (hook simCount slotId))
    · simpa [Pending, addRequestToList, Function.update_of_ne hk] using
        Links.chain_update (hunlisted k) (h.lists.pending k)
  · intro k
    by_cases hk : k = hook simCount slotId
    · subst hk
      rw [Function.update_self, List.nodup_cons]
      exact ⟨hunlisted _, h.lists.nodup _⟩
    · rw [Function.update_of_ne hk]
      exact h.lists.nodup k
  · intro k x hx
    rcases (hmem k x).mp hx with ⟨rfl, rfl⟩ | hx
    · simp [addRequestToList]
    · simp only [addRequestToList, Function.update_of_ne (hne x (Or.inl ⟨k, hx⟩))]
      exact h.lists.slot k x hx
  · intro k x hx
    rcases (hmem k x).mp hx with ⟨rfl, rfl⟩ | hx
    · simp [addRequestToList]
    · simp only [addRequestToList, Function.update_of_ne (hne x (Or.inl ⟨k, hx⟩))]
      exact h.lists.allocated k x hx
  · intro x hx
    simp only [addRequestToList, Function.update_of_ne (hne x (Or.inr hx))]
    exact h.lists.takenAllocated x hx
  · intro x hx k hk
    rcases (hmem k x).mp hk with ⟨rfl, -⟩ | hk
    · exact hfree (Or.inr hx)
    · exact h.lists.taken x hx k hk
  · refine (h.records.add hfree rfl rfl rfl rfl).of_iff ?_
    intro x
    simp only [Owned, hmem, completing_add]
    constructor
    · rintro (⟨k, ⟨rfl, -⟩ | hx⟩ | hx)
      · exact Or.inl rfl
      · exact Or.inr (Or.inl ⟨k, hx⟩)
      · exact Or.inr (Or.inr hx)
    · rintro (rfl | ⟨k, hx⟩ | hx)
      · exact Or.inl ⟨_, Or.inl ⟨rfl, rfl⟩⟩
      · exact Or.inl ⟨k, Or.inr hx⟩
      · exact Or.inr hx

theorem onRequestAck_unlisted (h : Lists simCount s l) (ht : ∀ k, t ∉ l k) :
    onRequestAck simCount s (some t) = s := by
  simp only [onRequestAck, check_unlisted h ht]

theorem onRequestAck_listed (h : Lists simCount s l) (ht : t ∈ l k) :
    onRequestAck simCount s (some t) =
      { s with
        mem := Function.update s.mem t { s.mem t with wasAckSent := 1 }
        inFlight := s.inFlight ++ [.ack t]
        acked := s.acked ++ [(s.mem t).id] } := by
  simp only [onRequestAck, check_ack h ht]

theorem onRequestAck_inv (h : Inv simCount version s l) (t : Option (Fin n)) :
    Inv simCount version (onRequestAck simCount s t) l := by
  cases t with
  | none => exact h
  | some t =>
    by_cases ht : ∃ k, t ∈ l k
    · obtain ⟨k, ht⟩ := ht
      have hcompl : completing (onRequestAck simCount s (some t)) = completing s := by
        simp [onRequestAck_listed h.lists ht, completing]
      have hrecords := h.records.acknowledge (Or.inl ⟨k, ht⟩)
      have hslot : ∀ x, (Function.update s.mem t { s.mem t with wasAckSent := 1 } x).socketId =
          (s.mem x).socketId := by
        intro x
        by_cases hx : x = t
        · subst hx
          simp
        · rw [Function.update_of_ne hx]
      rw [onRequestAck_listed h.lists ht] at hcompl ⊢
      refine ⟨⟨h.lists.pending, h.lists.nodup, ?_, h.lists.allocated, ?_, ?_, ?_⟩, ?_⟩
      · intro j x hx
        simp only [hslot]
        exact h.lists.slot j x hx
      · rw [hcompl]
        exact h.lists.takenNodup
      · rw [hcompl]
        exact h.lists.takenAllocated
      · rw [hcompl]
        exact h.lists.taken
      · refine hrecords.of_iff fun x => ?_
        rw [Owned, hcompl, Owned]
    · rw [onRequestAck_unlisted h.lists (not_exists.mp ht)]
      exact h

theorem onRequestComplete_unlisted (h : Lists simCount s l) (ht : ∀ k, t ∉ l k) :
    onRequestComplete simCount s (some t) reply = s := by
  simp only [onRequestComplete, check_unlisted h ht]

theorem onRequestComplete_listed (reply : ρ) (h : Lists simCount s l) (ht : t ∈ l k) :
    ∃ s' l₁ l₂, onRequestComplete simCount s (some t) reply = s' ∧
      l k = l₁ ++ t :: l₂ ∧ Pending s' k (l₁ ++ l₂) ∧ (∀ j, j ≠ k → Pending s' j (l j)) ∧
      s' = { s with heads := s'.heads, pNext := s'.pNext
                    inFlight := s.inFlight ++ [.complete t reply] } := by
  obtain ⟨s', l₁, l₂, hc, hl, hk, hj, hs'⟩ := check_dequeue h ht
  refine ⟨{ s' with inFlight := s.inFlight ++ [.complete t reply] }, l₁, l₂, ?_, hl, hk, hj, ?_⟩
  · simp only [onRequestComplete, hc]
  · rw [hs']

theorem onRequestComplete_inv (h : Inv simCount version s l) (t : Option (Fin n)) (reply : ρ) :
    ∃ l', Inv simCount version (onRequestComplete simCount s t reply) l' := by
  cases t with
  | none => exact ⟨l, h⟩
  | some t =>
    by_cases ht : ∃ k, t ∈ l k
    · obtain ⟨k, ht⟩ := ht
      obtain ⟨s', l₁, l₂, hs, hl, hk, hj, hs'⟩ := onRequestComplete_listed reply
        h.lists ht
      obtain ⟨-, hnd, hrest⟩ := Links.mem_unlinked (h.lists.nodup k) hl
      have hmem : ∀ j x, x ∈ Function.update l k (l₁ ++ l₂) j ↔ x ∈ l j ∧ x ≠ t := by
        intro j x
        by_cases hjk : j = k
        · subst hjk
          rw [Function.update_self]
          exact hrest x
        · rw [Function.update_of_ne hjk]
          constructor
          · intro hx
            refine ⟨hx, ?_⟩
            rintro rfl
            exact hjk (slot_unique h.lists hx ht)
          · exact And.left
      have hcompl : completing s' = completing s ++ [t] := by
        rw [hs']
        simp [completing]
      have htaken : t ∉ completing s := fun hc => h.lists.taken t hc k ht
      refine ⟨Function.update l k (l₁ ++ l₂), ?_⟩
      rw [hs]
      refine ⟨⟨?_, ?_, ?_, ?_, ?_, ?_, ?_⟩, ?_⟩
      · intro j
        by_cases hjk : j = k
        · subst hjk
          rwa [Function.update_self]
        · rw [Function.update_of_ne hjk]
          exact hj j hjk
      · intro j
        by_cases hjk : j = k
        · subst hjk
          rw [Function.update_self]
          exact hnd
        · rw [Function.update_of_ne hjk]
          exact h.lists.nodup j
      · intro j x hx
        rw [hs']
        exact h.lists.slot j x ((hmem j x).mp hx).1
      · intro j x hx
        rw [hs']
        exact h.lists.allocated j x ((hmem j x).mp hx).1
      · rw [hcompl, List.nodup_append]
        refine ⟨h.lists.takenNodup, by simp, ?_⟩
        rintro x hx y hy rfl
        rw [List.mem_singleton.mp hy] at hx
        exact htaken hx
      · intro x hx
        rw [hcompl, List.mem_append, List.mem_singleton] at hx
        rw [hs']
        rcases hx with hx | rfl
        · exact h.lists.takenAllocated x hx
        · exact h.lists.allocated k x ht
      · intro x hx j hxj
        rw [hcompl, List.mem_append, List.mem_singleton] at hx
        obtain ⟨hxl, hxt⟩ := (hmem j x).mp hxj
        rcases hx with hx | rfl
        · exact h.lists.taken x hx j hxl
        · exact hxt rfl
      · have hown : ∀ x, Owned s' (Function.update l k (l₁ ++ l₂)) x ↔ Owned s l x := by
          intro x
          simp only [Owned, hmem, hcompl, List.mem_append, List.mem_singleton]
          constructor
          · rintro (⟨j, hx, -⟩ | hx | rfl)
            · exact Or.inl ⟨j, hx⟩
            · exact Or.inr hx
            · exact Or.inl ⟨k, ht⟩
          · rintro (⟨j, hx⟩ | hx)
            · by_cases hxt : x = t
              · exact Or.inr (Or.inr hxt)
              · exact Or.inl ⟨j, hx, hxt⟩
            · exact Or.inr (Or.inl hx)
        have := h.records.of_iff hown
        rw [hs'] at this ⊢
        exact this
    · rw [onRequestComplete_unlisted h.lists (not_exists.mp ht)]
      exact ⟨l, h⟩

/-! The rest of the vendor's calls. -/

theorem finish_ack (simCount : Nat) (version : Int) {i : Nat}
    (hi : s.inFlight[i]? = some (.ack t)) :
    ∃ acknowledged, step simCount version s (.finish i) =
      some { s with inFlight := s.inFlight.eraseIdx i, acknowledged } := by
  simp only [step, hi, finishAck]
  split
  · exact ⟨_, rfl⟩
  · exact ⟨_, rfl⟩

theorem mem_completing {i : Nat} (hi : s.inFlight[i]? = some (.complete t reply)) :
    t ∈ completing s :=
  List.mem_filterMap.mpr ⟨_, List.mem_of_getElem? hi, rfl⟩

/-- The answer carries the request's own slot, serial and number. -/
def answer (version : Int) (r : RequestInfo) (reply : ρ) : Response ρ :=
  ⟨r.id, r.socketId, responseType version r, r.token, r.requestNumber, reply⟩

theorem finish_complete (h : Inv simCount version s l) {i : Nat}
    (hi : s.inFlight[i]? = some (.complete t reply)) :
    step simCount version s (.finish i) =
      some { s with
        allocated := Function.update s.allocated t false
        responses := s.responses ++ [answer version (s.mem t) reply]
        inFlight := s.inFlight.eraseIdx i } := by
  obtain ⟨hlocal, hcancelled⟩ := h.records.flags t (Or.inr (mem_completing hi))
  simp [step, hi, finishComplete, hlocal, hcancelled, answer]

/-- A call that ends takes itself off the calls in flight, and no other. -/
theorem inFlight_eraseIdx {i : Nat} {c : InFlight n ρ} (hi : s.inFlight[i]? = some c) :
    ∃ c₁ c₂, s.inFlight = c₁ ++ c :: c₂ ∧ s.inFlight.eraseIdx i = c₁ ++ c₂ := by
  obtain ⟨hlt, hget⟩ := List.getElem?_eq_some_iff.mp hi
  refine ⟨s.inFlight.take i, s.inFlight.drop (i + 1), ?_, List.eraseIdx_eq_take_drop_succ _ i⟩
  rw [← hget, List.getElem_cons_drop, List.take_append_drop]

theorem completing_finish_ack {i : Nat} (hi : s.inFlight[i]? = some (.ack t)) :
    (s.inFlight.eraseIdx i).filterMap InFlight.taken = completing s := by
  obtain ⟨c₁, c₂, hc, herase⟩ := inFlight_eraseIdx hi
  rw [herase, completing, hc]
  simp [List.filterMap_cons]

theorem completing_finish_complete {i : Nat}
    (hi : s.inFlight[i]? = some (.complete t reply)) :
    (completing s).Perm (t :: (s.inFlight.eraseIdx i).filterMap InFlight.taken) := by
  obtain ⟨c₁, c₂, hc, herase⟩ := inFlight_eraseIdx hi
  rw [herase, completing, hc]
  simp [List.perm_middle]

theorem finish_inv (h : Inv simCount version s l) {i : Nat}
    (hs : step simCount version s (.finish i) = some s') : Inv simCount version s' l := by
  cases hi : s.inFlight[i]? with
  | none => simp [step, hi] at hs
  | some call =>
    cases call with
    | ack t =>
      obtain ⟨acknowledged, hstep⟩ := finish_ack simCount version hi
      rw [hstep] at hs
      cases hs
      have hcompl := completing_finish_ack hi
      refine ⟨⟨h.lists.pending, h.lists.nodup, h.lists.slot, h.lists.allocated, ?_, ?_, ?_⟩, ?_⟩
      · rw [completing, hcompl]
        exact h.lists.takenNodup
      · rw [completing, hcompl]
        exact h.lists.takenAllocated
      · rw [completing, hcompl]
        exact h.lists.taken
      · refine h.records.of_iff fun x => ?_
        rw [Owned, completing, hcompl, Owned]
    | complete t reply =>
      have ht := mem_completing hi
      rw [finish_complete h hi] at hs
      cases hs
      have hperm := completing_finish_complete hi
      have hnd := hperm.nodup_iff.mp h.lists.takenNodup
      rw [List.nodup_cons] at hnd
      have hmem : ∀ x, x ∈ (s.inFlight.eraseIdx i).filterMap InFlight.taken ↔
          x ∈ completing s ∧ x ≠ t := by
        intro x
        rw [hperm.mem_iff, List.mem_cons]
        constructor
        · intro hx
          refine ⟨Or.inr hx, ?_⟩
          rintro rfl
          exact hnd.1 hx
        · rintro ⟨rfl | hx, hxt⟩
          · exact absurd rfl hxt
          · exact hx
      have hunlisted := h.lists.taken t ht
      have hne : ∀ k x, x ∈ l k → x ≠ t := by
        rintro k x hx rfl
        exact hunlisted k hx
      refine ⟨⟨h.lists.pending, h.lists.nodup, h.lists.slot, ?_, hnd.2, ?_, ?_⟩, ?_⟩
      · intro k x hx
        simp only [Function.update_of_ne (hne k x hx)]
        exact h.lists.allocated k x hx
      · intro x hx
        obtain ⟨hx, hxt⟩ := (hmem x).mp hx
        simp only [Function.update_of_ne hxt]
        exact h.lists.takenAllocated x hx
      · intro x hx
        exact h.lists.taken x ((hmem x).mp hx).1
      · refine (h.records.respond (Or.inr ht)).of_iff fun x => ?_
        rw [Owned, completing, hmem, Owned]
        constructor
        · rintro (⟨k, hx⟩ | ⟨hx, hxt⟩)
          · exact ⟨Or.inl ⟨k, hx⟩, hne k x hx⟩
          · exact ⟨Or.inr hx, hxt⟩
        · rintro ⟨hx | hx, hxt⟩
          · exact Or.inl hx
          · exact Or.inr ⟨hx, hxt⟩

theorem step_inv {action : Action n ρ} (h : Inv simCount version s l)
    (hs : step simCount version s action = some s') : ∃ l', Inv simCount version s' l' := by
  cases action with
  | addRequestToList serial slotId request calloc =>
    cases calloc with
    | none =>
      cases hs
      exact ⟨l, h⟩
    | some a =>
      simp only [step] at hs
      split at hs
      · cases hs
      · rename_i ha
        cases hs
        exact ⟨_, addRequestToList_inv h (by simpa using ha) serial slotId request⟩
  | onRequestAck t =>
    cases hs
    exact ⟨l, onRequestAck_inv h t⟩
  | onRequestComplete t reply =>
    cases hs
    exact onRequestComplete_inv h t reply
  | finish i => exact ⟨l, finish_inv h hs⟩

theorem run_inv {mem : Fin n → RequestInfo} {pNext : Fin n → Option (Fin n)}
    {as : List (Action n ρ)}
    (hr : Machine.run (step simCount version) (initial mem pNext) as = some s) :
    ∃ l, Inv simCount version s l := by
  refine Machine.run_invariant (P := fun s => ∃ l, Inv simCount version s l) ?_ hr
    ⟨_, inv_initial mem pNext⟩
  rintro s a t ⟨l, h⟩ hs
  exact step_inv h hs

/-- What the vendor's calls do in a state with the lists `l`, and what was answered so far. -/
structure Correct (simCount : Nat) (version : Int) (s : State n ρ) (l : Nat → List (Fin n)) :
    Prop where
  pending : ∀ k, Pending s k (l k) ∧ (l k).Nodup
  complete : ∀ k t reply, t ∈ l k → ∃ s' l₁ l₂,
    step simCount version s (.onRequestComplete (some t) reply) = some s' ∧
    l k = l₁ ++ t :: l₂ ∧ Pending s' k (l₁ ++ l₂) ∧ (∀ j, j ≠ k → Pending s' j (l j)) ∧
    s' = { s with heads := s'.heads, pNext := s'.pNext
                  inFlight := s.inFlight ++ [.complete t reply] }
  respond : ∀ i t reply, s.inFlight[i]? = some (.complete t reply) →
    (s.mem t).locallyIssued = 0 ∧ (s.mem t).cancelled = 0 ∧
    step simCount version s (.finish i) = some { s with
      allocated := Function.update s.allocated t false
      responses := s.responses ++ [answer version (s.mem t) reply]
      inFlight := s.inFlight.eraseIdx i }
  ack : ∀ k t, t ∈ l k → step simCount version s (.onRequestAck (some t)) = some { s with
    mem := Function.update s.mem t { s.mem t with wasAckSent := 1 }
    inFlight := s.inFlight ++ [.ack t]
    acked := s.acked ++ [(s.mem t).id] }
  acknowledge : ∀ i t, s.inFlight[i]? = some (.ack t) → ∃ acknowledged,
    step simCount version s (.finish i) =
      some { s with inFlight := s.inFlight.eraseIdx i, acknowledged }
  invalid : ∀ t : Option (Fin n), (∀ a, t = some a → ∀ k, a ∉ l k) →
    step simCount version s (.onRequestAck t) = some s ∧
    ∀ reply, step simCount version s (.onRequestComplete t reply) = some s
  /-- Every request waits in its list, is being answered, or has exactly one answer. -/
  outstanding : ∀ i < s.added.length,
    (∃ a, Owned s l a ∧ (s.mem a).id = i ∧ i ∉ s.responses.map Response.id) ∨
      (s.responses.map Response.id).count i = 1
  answers : ∀ r ∈ s.responses, s.added[r.id]? = some ⟨r.token, r.slotId, r.requestNumber⟩ ∧
    (r.responseType = RESPONSE_SOLICITED_ACK_EXP ↔ 13 ≤ version ∧ r.id ∈ s.acked)
  once : (s.responses.map Response.id).Nodup

theorem Inv.outstanding (h : Inv simCount version s l) {i : Nat} (hi : i < s.added.length) :
    (∃ a, Owned s l a ∧ (s.mem a).id = i ∧ i ∉ s.responses.map Response.id) ∨
      (s.responses.map Response.id).count i = 1 := by
  rcases h.records.covered i hi with ⟨a, ha, rfl⟩ | hq
  · refine Or.inl ⟨a, ha, rfl, ?_⟩
    intro hmem
    obtain ⟨r, hr, heq⟩ := List.mem_map.mp hmem
    exact h.records.unanswered r hr a ha heq.symm
  · exact Or.inr (List.count_eq_one_of_mem h.records.once hq)

theorem Inv.answers (h : Inv simCount version s l) {r : Response ρ} (hr : r ∈ s.responses) :
    s.added[r.id]? = some ⟨r.token, r.slotId, r.requestNumber⟩ ∧
      (r.responseType = RESPONSE_SOLICITED_ACK_EXP ↔ 13 ≤ version ∧ r.id ∈ s.acked) := by
  refine ⟨h.records.responded r hr, ?_⟩
  rw [h.records.expected r hr]
  split
  · rename_i hexp
    exact ⟨fun _ => hexp, fun _ => rfl⟩
  · rename_i hexp
    refine ⟨fun hne => ?_, fun hmem => absurd hmem hexp⟩
    cases hne

theorem Inv.correct (h : Inv simCount version s l) : Correct simCount version s l where
  pending k := ⟨h.lists.pending k, h.lists.nodup k⟩
  complete k t reply ht := by
    obtain ⟨s', l₁, l₂, hs, hl, hk, hj, hs'⟩ :=
      onRequestComplete_listed reply h.lists ht
    exact ⟨s', l₁, l₂, congrArg some hs, hl, hk, hj, hs'⟩
  respond i t reply hi := by
    obtain ⟨hlocal, hcancelled⟩ := h.records.flags t (Or.inr (mem_completing hi))
    exact ⟨hlocal, hcancelled, finish_complete h hi⟩
  ack k t ht := congrArg some (onRequestAck_listed h.lists ht)
  acknowledge i t hi := finish_ack simCount version hi
  invalid t ht := by
    cases t with
    | none => exact ⟨rfl, fun _ => rfl⟩
    | some t =>
      have ht := ht t rfl
      exact ⟨congrArg some (onRequestAck_unlisted h.lists ht),
        fun reply => congrArg some (onRequestComplete_unlisted h.lists ht)⟩
  outstanding _ hi := h.outstanding hi
  answers _ hr := h.answers hr
  once := h.records.once

/-- In every run the lists hold each pending request once, the vendor's calls change what they
are meant to, and no request is answered twice. -/
theorem pending_requests {mem : Fin n → RequestInfo} {pNext : Fin n → Option (Fin n)}
    {as : List (Action n ρ)}
    (hr : Machine.run (step simCount version) (initial mem pNext) as = some s) :
    ∃ l, Correct simCount version s l := by
  obtain ⟨l, h⟩ := run_inv hr
  exact ⟨l, h.correct⟩

/-- Two requests, one of them acknowledged, with a token that is completed twice. -/
def staleRun : List (Action 2 Unit) :=
  let a : Fin 2 := ⟨0, Nat.zero_lt_two⟩
  let b : Fin 2 := ⟨1, Nat.one_lt_two⟩
  [.addRequestToList 7 0 3 (some a), .addRequestToList 8 0 4 (some b), .onRequestAck (some a),
    .onRequestComplete (some b) (), .onRequestComplete (some b) (), .finish 1,
    .onRequestComplete (some a) (), .onRequestAck (some a), .onRequestComplete none (),
    .finish 1, .finish 0]

theorem pending_requests_stale : ∃ (s : State 2 Unit) (l : Nat → List (Fin 2)),
    s.responses.map (fun r => (r.token, r.responseType)) = [(8, 0), (7, 3)] ∧
    Correct 1 13 s l := by
  have hrun : Machine.run (step 1 13)
      (initial (fun _ => ⟨0, 0, 0, 0, 0, 0, 0⟩) fun _ => none) staleRun = some _ := rfl
  obtain ⟨l, h⟩ := pending_requests hrun
  exact ⟨_, l, by decide, h⟩

end Apq8084.Ril.PendingRequests
