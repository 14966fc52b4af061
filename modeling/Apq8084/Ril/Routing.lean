import Apq8084.Ril.Commands
import Apq8084.Ril.PendingRuns

/-! Requests and answers of one slot whose client stays registered: methods of `IRadio` are
called in any number and order, the dispatch functions pass requests on to the vendor or refuse
them, and the vendor completes them in any order. -/
namespace Apq8084.Ril.Routing

structure Call where
  method : Method
  serial : Int
deriving DecidableEq

structure State (n : Nat) (ρ : Type) where
  pending : Ril.State n ρ
  /-- The call that each request comes from. -/
  calls : List Call
  /-- The requests that were not passed on. -/
  refused : List Nat
  /-- What `sendErrorResponse` reported. -/
  errors : List (Response ρ)

/-- What the vendor does. -/
inductive Vendor (n : Nat) (ρ : Type) where
  | onRequestAck (t : Option (Fin n))
  | onRequestComplete (t : Option (Fin n)) (reply : ρ)
  | finish (i : Nat)

def Vendor.action {n : Nat} {ρ : Type} : Vendor n ρ → Action n ρ
  | .onRequestAck t => .onRequestAck t
  | .onRequestComplete t reply => .onRequestComplete t reply
  | .finish i => .finish i

inductive Event (n : Nat) (ρ : Type) where
  | accept (call : Call) (lowDataExpected : Bool) (calloc : Option (Fin n))
  /-- `error` is what `sendErrorResponse` is called with, if it is called. -/
  | refuse (call : Call) (lowDataExpected : Bool) (calloc : Option (Fin n)) (error : Option ρ)
  | vendor (action : Vendor n ρ)

variable {n simCount slotId : Nat} {ρ : Type} {version : Int}

def initial (mem : Fin n → RequestInfo) (pNext : Fin n → Option (Fin n)) : State n ρ :=
  { pending := PendingRequests.initial mem pNext, calls := [], refused := [], errors := [] }

/-- The call of `addRequestToList` with which every request begins. -/
def addRequestToList (simCount slotId : Nat) (version : Int) (s : State n ρ) (call : Call)
    (lowDataExpected : Bool) (calloc : Option (Fin n)) : Option (State n ρ) :=
  (PendingRequests.step simCount version s.pending (.addRequestToList call.serial slotId
    (request version lowDataExpected call.method).number calloc)).map fun pending =>
      { s with pending, calls := s.calls ++ (calloc.map fun _ => call).toList }

def errorResponse (slotId : Nat) (version : Int) (id : Nat) (call : Call)
    (lowDataExpected : Bool) (error : ρ) : Response ρ :=
  ⟨id, slotId, RESPONSE_SOLICITED, call.serial,
    (request version lowDataExpected call.method).number, error⟩

/-- A request that finds no memory is neither listed nor answered. -/
def step (simCount slotId : Nat) (version : Int) (s : State n ρ) :
    Event n ρ → Option (State n ρ)
  | .accept call lowDataExpected calloc =>
    addRequestToList simCount slotId version s call lowDataExpected calloc
  | .refuse call lowDataExpected calloc error =>
    (addRequestToList simCount slotId version s call lowDataExpected calloc).map fun s' =>
      if calloc.isNone then s'
      else
        { s' with
          refused := s.refused ++ [s.calls.length]
          errors := s.errors ++ (error.map fun e =>
            errorResponse slotId version s.calls.length call lowDataExpected e).toList }
  | .vendor action =>
    (PendingRequests.step simCount version s.pending action.action).map fun pending =>
      { s with pending }

/-- A call of an `IRadioResponse` method; the answer has the serial and the payload. -/
structure Callback (ρ : Type) where
  name : Method
  response : Response ρ

def callback? (r : Response ρ) : Option (Callback ρ) :=
  (callback r.requestNumber).map fun name => ⟨name, r⟩

/-- The client callbacks made for one request. -/
def callbacksFor (s : State n ρ) (id : Nat) : List (Callback ρ) :=
  ((s.pending.responses ++ s.errors).filter fun r => r.id = id).filterMap callback?

/-- The request waits in a list, or its completion has begun. -/
def Outstanding (s : State n ρ) (id : Nat) : Prop :=
  ∃ a, (s.pending.mem a).id = id ∧ (a ∈ PendingRequests.completing s.pending ∨
    ∃ slot l, PendingRequests.Pending s.pending slot l ∧ a ∈ l)

/-- The requests of the lists are those of the calls. -/
structure Inv (simCount slotId : Nat) (version : Int) (s : State n ρ)
    (l : Nat → List (Fin n)) : Prop where
  pending : PendingRequests.Inv simCount version s.pending l
  length : s.pending.added.length = s.calls.length
  calls : ∀ (id : Nat) (call : Call), s.calls[id]? = some call → ∃ lowDataExpected : Bool,
    s.pending.added[id]? =
      some ⟨call.serial, slotId, (request version lowDataExpected call.method).number⟩
  errors : ∀ r ∈ s.errors, r.id ∈ s.refused
  refused : ∀ id ∈ s.refused, id < s.calls.length

variable {s s' : State n ρ} {l : Nat → List (Fin n)}

theorem inv_initial (mem : Fin n → RequestInfo) (pNext : Fin n → Option (Fin n)) :
    Inv simCount slotId version (initial (ρ := ρ) mem pNext) fun _ => [] := by
  refine ⟨PendingRequests.inv_initial mem pNext, rfl, ?_, ?_, ?_⟩ <;> simp [initial]

theorem added_addRequestToList {s s' : Ril.State n ρ} {serial : Int} {number : Nat}
    {calloc : Option (Fin n)}
    (hs : PendingRequests.step simCount version s
      (.addRequestToList serial slotId number calloc) = some s') :
    s'.added = s.added ++ (calloc.map fun _ => (⟨serial, slotId, number⟩ : Request)).toList := by
  cases calloc with
  | none =>
    cases hs
    simp
  | some a =>
    simp only [PendingRequests.step] at hs
    split at hs
    · cases hs
    · cases hs
      rfl

theorem added_vendor {s s' : Ril.State n ρ} {action : Vendor n ρ}
    (hs : PendingRequests.step simCount version s action.action = some s') :
    s'.added = s.added := by
  have hcheck := @PendingRequests.check_added n simCount ρ s
  cases action with
  | onRequestAck t =>
    cases hs
    have := hcheck t true
    unfold PendingRequests.onRequestAck
    split
    · rfl
    · rename_i heq
      rwa [heq] at this
  | onRequestComplete t reply =>
    cases hs
    have := hcheck t false
    unfold PendingRequests.onRequestComplete
    split
    · rfl
    · rename_i heq
      rwa [heq] at this
  | finish i =>
    simp only [Vendor.action, PendingRequests.step] at hs
    split at hs
    · cases hs
    · cases hs
      simp only [PendingRequests.finishAck]
      split <;> rfl
    · cases hs
      simp only [PendingRequests.finishComplete]
      split
      · rfl
      · split <;> rfl

/-! Steps. -/

theorem getElem?_snoc {α : Type} {l : List α} {i : Nat} {a b : α}
    (h : (l ++ [a])[i]? = some b) : l[i]? = some b ∨ i = l.length ∧ a = b := by
  rcases Nat.lt_trichotomy i l.length with hi | rfl | hi
  · left
    rwa [List.getElem?_append_left hi] at h
  · right
    simpa using h
  · rw [List.getElem?_eq_none (by simp; omega)] at h
    cases h

theorem addRequestToList_inv {call : Call} {lowDataExpected : Bool} {calloc : Option (Fin n)}
    (h : Inv simCount slotId version s l)
    (hs : addRequestToList simCount slotId version s call lowDataExpected calloc = some s') :
    ∃ l', Inv simCount slotId version s' l' := by
  obtain ⟨pending, hp, rfl⟩ := Option.map_eq_some_iff.mp hs
  obtain ⟨l', hl'⟩ := PendingRequests.step_inv h.pending hp
  have hadded := added_addRequestToList hp
  refine ⟨l', hl', ?_, ?_, h.errors, ?_⟩
  · rw [hadded]
    cases calloc <;> simp [h.length]
  · intro id c hc
    rw [hadded]
    cases calloc with
    | none =>
      rw [Option.map_none, Option.toList_none, List.append_nil] at hc ⊢
      exact h.calls id c hc
    | some a =>
      rcases getElem?_snoc hc with hc | ⟨rfl, rfl⟩
      · obtain ⟨low, hlow⟩ := h.calls id c hc
        refine ⟨low, ?_⟩
        rw [List.getElem?_append_left (List.getElem?_eq_some_iff.mp hlow).1]
        exact hlow
      · refine ⟨lowDataExpected, ?_⟩
        rw [← h.length]
        simp
  · intro id hid
    have := h.refused id hid
    simp only [List.length_append]
    omega

theorem step_inv {e : Event n ρ} (h : Inv simCount slotId version s l)
    (hs : step simCount slotId version s e = some s') :
    ∃ l', Inv simCount slotId version s' l' := by
  cases e with
  | accept call lowDataExpected calloc => exact addRequestToList_inv h hs
  | refuse call lowDataExpected calloc error =>
    obtain ⟨t, ht, rfl⟩ := Option.map_eq_some_iff.mp hs
    obtain ⟨l', hl'⟩ := addRequestToList_inv h ht
    obtain ⟨pending, -, rfl⟩ := Option.map_eq_some_iff.mp ht
    refine ⟨l', ?_⟩
    split
    · exact hl'
    · rename_i hcalloc
      refine ⟨hl'.pending, hl'.length, hl'.calls, ?_, ?_⟩
      · intro r hr
        rcases List.mem_append.mp hr with hr | hr
        · exact List.mem_append_left _ (h.errors r hr)
        · obtain ⟨e, -, rfl⟩ := Option.map_eq_some_iff.mp (Option.mem_toList.mp hr)
          exact List.mem_append_right _ (List.mem_singleton_self _)
      · intro id hid
        rcases List.mem_append.mp hid with hid | hid
        · exact hl'.refused id hid
        · rw [List.mem_singleton.mp hid]
          obtain ⟨a, rfl⟩ : ∃ a, calloc = some a := by
            cases calloc with
            | none => simp at hcalloc
            | some a => exact ⟨a, rfl⟩
          simp
  | vendor action =>
    obtain ⟨pending, hp, rfl⟩ := Option.map_eq_some_iff.mp hs
    obtain ⟨l', hl'⟩ := PendingRequests.step_inv h.pending hp
    have hadded := added_vendor hp
    exact ⟨l', hl', hadded ▸ h.length, hadded ▸ h.calls, h.errors, h.refused⟩

/-! Answers. -/

/-- The answers to an accepted request are the vendor's. -/
theorem callbacksFor_accepted (h : Inv simCount slotId version s l) {id : Nat}
    (hid : id ∉ s.refused) :
    callbacksFor s id = (s.pending.responses.filter fun r => r.id = id).filterMap callback? := by
  have hnone : s.errors.filter (fun r => r.id = id) = [] := by
    rw [List.filter_eq_nil_iff]
    intro r hr heq
    rw [decide_eq_true_eq] at heq
    exact hid (heq ▸ h.errors r hr)
  rw [callbacksFor, List.filter_append, hnone, List.append_nil]

theorem answered_filter {responses : List (Response ρ)} {id : Nat}
    (h : (responses.map Response.id).count id = 1) :
    ∃ r ∈ responses, r.id = id ∧ responses.filter (fun r => r.id = id) = [r] := by
  rw [List.count_eq_countP, List.countP_map, List.countP_eq_length_filter] at h
  obtain ⟨r, hr⟩ := List.length_eq_one_iff.mp h
  have hfilter : responses.filter (fun r => r.id = id) = [r] := by
    rw [← hr]
    refine List.filter_congr fun q _ => ?_
    simp only [Function.comp_apply]
    rfl
  have hmem : r ∈ responses.filter (fun r => r.id = id) := hfilter ▸ List.mem_singleton_self r
  rw [List.mem_filter, decide_eq_true_eq] at hmem
  exact ⟨r, hmem.1, hmem.2, hfilter⟩

/-- One method is called and its request completed. -/
def roundTrip (m : Method) : List (Event 1 Unit) :=
  let a : Fin 1 := ⟨0, Nat.zero_lt_one⟩
  [.accept ⟨m, 9⟩ false (some a), .vendor (.onRequestComplete (some a) ()), .vendor (.finish 0)]

end Apq8084.Ril.Routing
