import Apq8084.Lib.Chain
import Apq8084.Lib.Machine
import Mathlib.Data.Fintype.Card

/-! The pending requests of one `RilSapSocket` and its `Ril_queue`. Any number of vendor threads
complete requests; a step is a dispatch, the start of a completion, its critical section, or the
`free` at its end. -/
namespace Apq8084.Ril.SapQueue

structure MsgHeader where
  token : Int
  id : Nat
deriving DecidableEq

/-- `SapSocketRequest` without its link field; `curr` is the address of a header. -/
structure SapSocketRequest where
  token : Int
  curr : Nat
deriving DecidableEq

/-- What `sap::processResponse` is called with. -/
structure Response where
  token : Int
  id : Nat
  error : Int
  payload : List UInt8
deriving DecidableEq

/-- Where a thread stands in `onRequestComplete`. -/
inductive Completion (n : Nat) where
  | responded (request : Fin n) (hdr : Nat)
  | dequeued (hdr : Nat)

structure State (n : Nat) where
  front : Option (Fin n)
  pNext : Fin n → Option (Fin n)
  requests : Fin n → SapSocketRequest
  requestLive : Fin n → Bool
  headers : Nat → MsgHeader
  headerLive : Nat → Bool
  threads : Nat → Option (Completion n)
  responses : List Response
  /-- Dispatched, and `onRequestComplete` was not called. -/
  uncompleted : List (Fin n)
  /-- Dispatched and not yet taken out by its own completion, newest first. -/
  outstanding : List (Fin n)

inductive Action (n : Nat) where
  | dispatchRequest (req : Nat) (msg : MsgHeader) (malloc : Option (Fin n))
  | onRequestComplete (thread : Nat) (t : Option (Fin n)) (e : Int) (response : List UInt8)
    (calloc : Bool)
  | proceed (thread : Nat)

variable {n : Nat}

def initial (requests : Fin n → SapSocketRequest) (pNext : Fin n → Option (Fin n))
    (headers : Nat → MsgHeader) : State n :=
  { front := none, pNext, requests, requestLive := fun _ => false, headers
    headerLive := fun _ => false, threads := fun _ => none, responses := [], uncompleted := []
    outstanding := [] }

def links (s : State n) : Links (Fin n) :=
  { head := s.front, next := s.pNext }

/-- The key by which a completion looks for its request. -/
def key (s : State n) (a : Fin n) : Int × Nat :=
  ((s.requests a).token, (s.headers (s.requests a).curr).id)

/-- Both branches of `enqueue` store the old front in the new node. -/
def enqueue (s : State n) (request : Fin n) : State n :=
  { s with pNext := Function.update s.pNext request s.front, front := some request }

def checkAndDequeue (s : State n) (id : Nat) (token : Int) : State n :=
  match (links s).find (fun a => key s a = (token, id)) (n + 1) .head with
  | none => s
  | some (ppCur, temp) =>
    let l := (links s).store ppCur (s.pNext temp)
    { s with
      front := l.head, pNext := l.next
      requestLive := Function.update s.requestLive temp false }

def dispatchRequest (s : State n) (req : Nat) (msg : MsgHeader) (currRequest : Fin n) : State n :=
  enqueue
    { s with
      headers := Function.update s.headers req msg
      headerLive := Function.update s.headerLive req true
      requests := Function.update s.requests currRequest ⟨msg.token, req⟩
      requestLive := Function.update s.requestLive currRequest true
      uncompleted := currRequest :: s.uncompleted
      outstanding := currRequest :: s.outstanding }
    currRequest

/-- `onRequestComplete` up to its call of `checkAndDequeue`. -/
def respond (s : State n) (thread : Nat) (t : Fin n) (e : Int) (response : List UInt8)
    (calloc : Bool) : State n :=
  let hdr := (s.requests t).curr
  { s with
    responses :=
      if calloc then s.responses ++ [⟨(s.headers hdr).token, (s.headers hdr).id, e, response⟩]
      else s.responses
    threads := Function.update s.threads thread (some (.responded t hdr))
    uncompleted := s.uncompleted.erase t }

/-- A header arrives at a fresh address, and the vendor completes what it was given once. -/
def step (s : State n) : Action n → Option (State n)
  | .dispatchRequest req msg malloc =>
    if s.headerLive req then none
    else match malloc with
      | none => some s
      | some currRequest =>
        if s.requestLive currRequest then none
        else some (dispatchRequest s req msg currRequest)
  | .onRequestComplete thread t e response calloc =>
    match t, s.threads thread with
    | none, none => some s
    | some t, none =>
      if t ∈ s.uncompleted then some (respond s thread t e response calloc) else none
    | _, some _ => none
  | .proceed thread =>
    match s.threads thread with
    | none => none
    | some (.responded t hdr) =>
      some { checkAndDequeue s (s.headers hdr).id (s.headers hdr).token with
        threads := Function.update s.threads thread (some (.dequeued hdr))
        outstanding := s.outstanding.erase t }
    | some (.dequeued hdr) =>
      some { s with
        headerLive := Function.update s.headerLive hdr false
        threads := Function.update s.threads thread none }

/-- The queue is exactly what is outstanding, and none of its headers was freed. -/
def Exact (s : State n) : Prop :=
  Links.Chain s.pNext s.front s.outstanding ∧ s.outstanding.Nodup ∧
    ∀ a ∈ s.outstanding, s.requestLive a = true ∧ s.headerLive (s.requests a).curr = true

/-- The outstanding requests that were dispatched after `t`. -/
def newer (s : State n) (t : Fin n) : List (Fin n) :=
  s.outstanding.takeWhile (· ≠ t)

/-- No newer request has the message id and the token of `t`. -/
def Distinguishable (s : State n) (t : Fin n) : Prop :=
  ∀ a ∈ newer s t, key s a ≠ key s t

instance (s : State n) (t : Fin n) : Decidable (Distinguishable s t) :=
  inferInstanceAs (Decidable (∀ a ∈ newer s t, key s a ≠ key s t))

/-- The completions that take a request out find it distinguishable. -/
def Unambiguous (s : State n) : Action n → Prop
  | .proceed thread =>
    match s.threads thread with
    | some (.responded t _) => Distinguishable s t
    | _ => True
  | _ => True

structure Inv (s : State n) : Prop where
  chain : Links.Chain s.pNext s.front s.outstanding
  nodup : s.outstanding.Nodup
  requestLive : ∀ a ∈ s.outstanding, s.requestLive a = true
  headerLive : ∀ a ∈ s.outstanding, s.headerLive (s.requests a).curr = true
  token : ∀ a ∈ s.outstanding, (s.headers (s.requests a).curr).token = (s.requests a).token
  headerInj : ∀ a ∈ s.outstanding, ∀ b ∈ s.outstanding,
    (s.requests a).curr = (s.requests b).curr → a = b
  uncompleted : ∀ a ∈ s.uncompleted, a ∈ s.outstanding
  uncompletedNodup : s.uncompleted.Nodup
  responded : ∀ i t hdr, s.threads i = some (.responded t hdr) →
    t ∈ s.outstanding ∧ t ∉ s.uncompleted ∧ hdr = (s.requests t).curr
  respondedInj : ∀ i j t hdr hdr', s.threads i = some (.responded t hdr) →
    s.threads j = some (.responded t hdr') → i = j
  dequeued : ∀ i hdr, s.threads i = some (.dequeued hdr) →
    s.headerLive hdr = true ∧ ∀ a ∈ s.outstanding, (s.requests a).curr ≠ hdr
  dequeuedInj : ∀ i j hdr, s.threads i = some (.dequeued hdr) →
    s.threads j = some (.dequeued hdr) → i = j

variable {s s' : State n} {t : Fin n} {thread hdr : Nat}

theorem inv_initial (requests : Fin n → SapSocketRequest) (pNext : Fin n → Option (Fin n))
    (headers : Nat → MsgHeader) : Inv (initial requests pNext headers) := by
  constructor <;> simp [initial]

theorem Inv.exact (h : Inv s) : Exact s :=
  ⟨h.chain, h.nodup, fun a ha => ⟨h.requestLive a ha, h.headerLive a ha⟩⟩

/-- The completed request is in the queue under the key its header gives. -/
theorem Inv.headerKey (h : Inv s) (ht : s.threads thread = some (.responded t hdr)) :
    ((s.headers hdr).token, (s.headers hdr).id) = key s t := by
  obtain ⟨hmem, -, rfl⟩ := h.responded thread t hdr ht
  rw [key, h.token t hmem]

/-- The search stops at the newest request with the completed one's key. -/
theorem checkAndDequeue_spec (h : Inv s) (ht : s.threads thread = some (.responded t hdr)) :
    ∃ cur l₁ l₂ front pNext,
      checkAndDequeue s (s.headers hdr).id (s.headers hdr).token =
        { s with front, pNext, requestLive := Function.update s.requestLive cur false } ∧
      s.outstanding = l₁ ++ cur :: l₂ ∧ key s cur = key s t ∧ (∀ a ∈ l₁, key s a ≠ key s t) ∧
      Links.Chain pNext front (l₁ ++ l₂) := by
  have hkey := h.headerKey ht
  have hchain : Links.Chain (links s).next ((links s).load .head) s.outstanding := h.chain
  have hlen : s.outstanding.length < n + 1 := by
    have := h.nodup.length_le_card
    simp only [Fintype.card_fin] at this
    omega
  simp only [checkAndDequeue, hkey]
  cases hf : (links s).find (fun a => key s a = key s t) (n + 1) .head with
  | none =>
    have hno := Links.find_none .head hchain hlen hf t (h.responded thread t hdr ht).1
    simp at hno
  | some found =>
    obtain ⟨ppCur, cur⟩ := found
    obtain ⟨l₁, l₂, hl, hcur, hl₁, -, hafter⟩ := Links.chain_unlink_head hchain h.nodup hf
    exact ⟨cur, l₁, l₂, _, _, rfl, hl, by simpa using hcur, by simpa using hl₁, hafter⟩

theorem newer_eq (h : Inv s) {l₁ l₂ : List (Fin n)} (hl : s.outstanding = l₁ ++ t :: l₂) :
    newer s t = l₁ := by
  obtain ⟨hno, -⟩ := Links.mem_unlinked h.nodup hl
  have hne : ∀ a ∈ l₁, decide (a ≠ t) = true := by
    intro a ha
    rw [decide_eq_true_eq]
    rintro rfl
    exact hno (List.mem_append_left l₂ ha)
  rw [newer, hl, List.takeWhile_append_of_pos hne]
  simp

/-- A completion removes its own request exactly if no newer one has the same key. -/
theorem removed_eq_iff (h : Inv s) {cur : Fin n} {l₁ l₂ : List (Fin n)}
    (ht : t ∈ s.outstanding) (hl : s.outstanding = l₁ ++ cur :: l₂)
    (hcur : key s cur = key s t) (hl₁ : ∀ a ∈ l₁, key s a ≠ key s t) :
    Distinguishable s t ↔ cur = t := by
  constructor
  · intro hd
    by_contra hne
    rw [hl, List.mem_append, List.mem_cons] at ht
    rcases ht with ht | rfl | ht
    · exact hl₁ t ht rfl
    · exact hne rfl
    · obtain ⟨m₁, m₂, rfl⟩ := List.append_of_mem ht
      have hnewer : newer s t = l₁ ++ cur :: m₁ :=
        newer_eq h (show _ = _ ++ t :: m₂ by simp [hl])
      exact hd cur (hnewer ▸ List.mem_append_right l₁ List.mem_cons_self) hcur
  · rintro rfl
    rw [Distinguishable, newer_eq h hl]
    exact hl₁

/-! Steps. -/

/-- Where a thread stands after the step of one thread. -/
theorem threads_update {threads : Nat → Option (Completion n)} {v : Option (Completion n)}
    {c : Completion n} {j : Nat} (hj : Function.update threads thread v j = some c) :
    (j = thread ∧ v = some c) ∨ (j ≠ thread ∧ threads j = some c) := by
  by_cases hjt : j = thread
  · subst hjt
    rw [Function.update_self] at hj
    exact Or.inl ⟨rfl, hj⟩
  · rw [Function.update_of_ne hjt] at hj
    exact Or.inr ⟨hjt, hj⟩

theorem dispatchRequest_inv (h : Inv s) {req : Nat} {msg : MsgHeader} {a : Fin n}
    (hreq : s.headerLive req = false) (ha : s.requestLive a = false) :
    Inv (dispatchRequest s req msg a) := by
  have hnew : a ∉ s.outstanding := by
    intro hmem
    simp [h.requestLive a hmem] at ha
  have hne : ∀ x ∈ s.outstanding, x ≠ a := by
    rintro x hx rfl
    exact hnew hx
  have hcurr : ∀ x ∈ s.outstanding, (s.requests x).curr ≠ req := by
    intro x hx heq
    simp [← heq, h.headerLive x hx] at hreq
  have hrequests : ∀ x ∈ s.outstanding,
      Function.update s.requests a ⟨msg.token, req⟩ x = s.requests x :=
    fun x hx => Function.update_of_ne (hne x hx) _ _
  constructor
  · exact Links.chain_push hnew h.chain
  · exact List.nodup_cons.mpr ⟨hnew, h.nodup⟩
  · intro x hx
    rcases List.mem_cons.mp hx with rfl | hx
    · simp [dispatchRequest, enqueue]
    · simp only [dispatchRequest, enqueue, Function.update_of_ne (hne x hx)]
      exact h.requestLive x hx
  · intro x hx
    rcases List.mem_cons.mp hx with rfl | hx
    · simp [dispatchRequest, enqueue]
    · simp only [dispatchRequest, enqueue, hrequests x hx, Function.update_of_ne (hcurr x hx)]
      exact h.headerLive x hx
  · intro x hx
    rcases List.mem_cons.mp hx with rfl | hx
    · simp [dispatchRequest, enqueue]
    · simp only [dispatchRequest, enqueue, hrequests x hx, Function.update_of_ne (hcurr x hx)]
      exact h.token x hx
  · intro x hx y hy hxy
    simp only [dispatchRequest, enqueue] at hxy
    rcases List.mem_cons.mp hx with rfl | hx' <;> rcases List.mem_cons.mp hy with rfl | hy'
    · rfl
    · rw [Function.update_self, hrequests y hy'] at hxy
      exact absurd hxy.symm (hcurr y hy')
    · rw [Function.update_self, hrequests x hx'] at hxy
      exact absurd hxy (hcurr x hx')
    · rw [hrequests x hx', hrequests y hy'] at hxy
      exact h.headerInj x hx' y hy' hxy
  · intro x hx
    rcases List.mem_cons.mp hx with rfl | hx
    · exact List.mem_cons_self
    · exact List.mem_cons_of_mem a (h.uncompleted x hx)
  · exact List.nodup_cons.mpr ⟨fun hmem => hnew (h.uncompleted a hmem), h.uncompletedNodup⟩
  · intro i x hdr hi
    obtain ⟨hx, hxu, hhdr⟩ := h.responded i x hdr hi
    refine ⟨List.mem_cons_of_mem a hx, ?_, ?_⟩
    · intro hmem
      rcases List.mem_cons.mp hmem with rfl | hmem
      · exact hnew hx
      · exact hxu hmem
    · simp only [dispatchRequest, enqueue, hrequests x hx]
      exact hhdr
  · exact h.respondedInj
  · intro i hdr hi
    obtain ⟨hlive, hother⟩ := h.dequeued i hdr hi
    have hhdr : hdr ≠ req := by
      rintro rfl
      simp [hlive] at hreq
    refine ⟨?_, ?_⟩
    · simp only [dispatchRequest, enqueue, Function.update_of_ne hhdr]
      exact hlive
    · intro x hx
      rcases List.mem_cons.mp hx with rfl | hx
      · simpa [dispatchRequest, enqueue] using hhdr.symm
      · simp only [dispatchRequest, enqueue, hrequests x hx]
        exact hother x hx
  · exact h.dequeuedInj

theorem respond_inv (h : Inv s) (hi : s.threads thread = none) (ht : t ∈ s.uncompleted)
    (e : Int) (response : List UInt8) (calloc : Bool) :
    Inv (respond s thread t e response calloc) := by
  have hmem : ∀ x, x ∈ s.uncompleted.erase t ↔ x ≠ t ∧ x ∈ s.uncompleted :=
    fun x => h.uncompletedNodup.mem_erase_iff
  refine ⟨h.chain, h.nodup, h.requestLive, h.headerLive, h.token, h.headerInj, ?_,
    h.uncompletedNodup.erase t, ?_, ?_, ?_, ?_⟩
  · exact fun x hx => h.uncompleted x ((hmem x).mp hx).2
  · intro j x hdr hj
    rcases threads_update hj with ⟨-, hc⟩ | ⟨-, hj⟩
    · cases hc
      exact ⟨h.uncompleted t ht, fun hx => ((hmem t).mp hx).1 rfl, rfl⟩
    · obtain ⟨hx, hxu, hhdr⟩ := h.responded j x hdr hj
      exact ⟨hx, fun hxe => hxu ((hmem x).mp hxe).2, hhdr⟩
  · intro j k x hdr hdr' hj hk
    rcases threads_update hj with ⟨rfl, hc⟩ | ⟨-, hj'⟩ <;>
      rcases threads_update hk with ⟨rfl, hd⟩ | ⟨-, hk'⟩
    · rfl
    · cases hc
      exact absurd ht (h.responded k t hdr' hk').2.1
    · cases hd
      exact absurd ht (h.responded j t hdr hj').2.1
    · exact h.respondedInj j k x hdr hdr' hj' hk'
  · intro j hdr hj
    rcases threads_update hj with ⟨-, hc⟩ | ⟨-, hj⟩
    · cases hc
    · exact h.dequeued j hdr hj
  · intro j k hdr hj hk
    rcases threads_update hj with ⟨-, hc⟩ | ⟨-, hj⟩
    · cases hc
    · rcases threads_update hk with ⟨-, hd⟩ | ⟨-, hk⟩
      · cases hd
      · exact h.dequeuedInj j k hdr hj hk

/-- What the critical section does when no newer request has the same key. -/
theorem dequeue_step (h : Inv s) (ht : s.threads thread = some (.responded t hdr))
    (hd : Distinguishable s t) :
    ∃ l₁ l₂ front pNext, s.outstanding = l₁ ++ t :: l₂ ∧
      Links.Chain pNext front (l₁ ++ l₂) ∧
      step s (.proceed thread) = some { s with
        front, pNext
        requestLive := Function.update s.requestLive t false
        threads := Function.update s.threads thread (some (.dequeued hdr))
        outstanding := l₁ ++ l₂ } := by
  obtain ⟨cur, l₁, l₂, front, pNext, hcheck, hl, hkey, hl₁, hafter⟩ := checkAndDequeue_spec h ht
  obtain rfl := (removed_eq_iff h (h.responded thread t hdr ht).1 hl hkey hl₁).mp hd
  refine ⟨l₁, l₂, front, pNext, hl, hafter, ?_⟩
  have hcur : cur ∉ l₁ := fun hmem => hl₁ cur hmem rfl
  have herase : s.outstanding.erase cur = l₁ ++ l₂ := by
    rw [hl, List.erase_append_right _ hcur, List.erase_cons_head]
  simp only [step, ht, hcheck, herase]

theorem dequeue_inv (h : Inv s) (ht : s.threads thread = some (.responded t hdr))
    (hd : Distinguishable s t) (hs : step s (.proceed thread) = some s') : Inv s' := by
  obtain ⟨l₁, l₂, front, pNext, hl, hafter, hstep⟩ := dequeue_step h ht hd
  rw [hstep] at hs
  cases hs
  obtain ⟨htmem, htu, rfl⟩ := h.responded thread t hdr ht
  obtain ⟨-, hnd, hmem⟩ := Links.mem_unlinked h.nodup hl
  have hsub : ∀ x ∈ l₁ ++ l₂, x ∈ s.outstanding ∧ x ≠ t := fun x => (hmem x).mp
  have hin : ∀ x ∈ s.outstanding, x ≠ t → x ∈ l₁ ++ l₂ := fun x hx hxt => (hmem x).mpr ⟨hx, hxt⟩
  constructor
  · exact hafter
  · exact hnd
  · intro x hx
    simp only [Function.update_of_ne (hsub x hx).2]
    exact h.requestLive x (hsub x hx).1
  · exact fun x hx => h.headerLive x (hsub x hx).1
  · exact fun x hx => h.token x (hsub x hx).1
  · exact fun x hx y hy => h.headerInj x (hsub x hx).1 y (hsub y hy).1
  · intro x hx
    refine hin x (h.uncompleted x hx) ?_
    rintro rfl
    exact htu hx
  · exact h.uncompletedNodup
  · intro j x hdr hj
    rcases threads_update hj with ⟨-, hc⟩ | ⟨hjt, hj'⟩
    · cases hc
    · obtain ⟨hx, hxu, hhdr⟩ := h.responded j x hdr hj'
      refine ⟨hin x hx ?_, hxu, hhdr⟩
      rintro rfl
      exact hjt (h.respondedInj j thread x hdr _ hj' ht)
  · intro j k x hdr hdr' hj hk
    rcases threads_update hj with ⟨-, hc⟩ | ⟨-, hj⟩
    · cases hc
    · rcases threads_update hk with ⟨-, hd⟩ | ⟨-, hk⟩
      · cases hd
      · exact h.respondedInj j k x hdr hdr' hj hk
  · intro j hdr hj
    rcases threads_update hj with ⟨-, hc⟩ | ⟨-, hj⟩
    · cases hc
      refine ⟨h.headerLive t htmem, fun x hx heq => (hsub x hx).2 ?_⟩
      exact h.headerInj x (hsub x hx).1 t htmem heq
    · obtain ⟨hlive, hother⟩ := h.dequeued j hdr hj
      exact ⟨hlive, fun x hx => hother x (hsub x hx).1⟩
  · intro j k hdr hj hk
    rcases threads_update hj with ⟨rfl, hc⟩ | ⟨-, hj'⟩ <;>
      rcases threads_update hk with ⟨rfl, hd⟩ | ⟨-, hk'⟩
    · rfl
    · cases hc
      exact absurd rfl ((h.dequeued k _ hk').2 t htmem)
    · cases hd
      exact absurd rfl ((h.dequeued j _ hj').2 t htmem)
    · exact h.dequeuedInj j k hdr hj' hk'

theorem free_inv (h : Inv s) (ht : s.threads thread = some (.dequeued hdr))
    (hs : step s (.proceed thread) = some s') : Inv s' := by
  simp only [step, ht] at hs
  cases hs
  obtain ⟨-, hother⟩ := h.dequeued thread hdr ht
  have hthreads : ∀ j c, Function.update s.threads thread none j = some c →
      j ≠ thread ∧ s.threads j = some c := by
    intro j c hj
    rcases threads_update hj with ⟨-, hc⟩ | hother
    · cases hc
    · exact hother
  refine ⟨h.chain, h.nodup, h.requestLive, ?_, h.token, h.headerInj, h.uncompleted,
    h.uncompletedNodup, ?_, ?_, ?_, ?_⟩
  · intro x hx
    simp only [Function.update_of_ne (hother x hx)]
    exact h.headerLive x hx
  · intro j x hdr' hj
    exact h.responded j x hdr' (hthreads j _ hj).2
  · intro j k x hdr' hdr'' hj hk
    exact h.respondedInj j k x hdr' hdr'' (hthreads j _ hj).2 (hthreads k _ hk).2
  · intro j hdr' hj
    obtain ⟨hjt, hj'⟩ := hthreads j _ hj
    obtain ⟨hlive, hfree⟩ := h.dequeued j hdr' hj'
    have hne : hdr' ≠ hdr := by
      rintro rfl
      exact hjt (h.dequeuedInj j thread hdr' hj' ht)
    simp only [Function.update_of_ne hne]
    exact ⟨hlive, hfree⟩
  · intro j k hdr' hj hk
    exact h.dequeuedInj j k hdr' (hthreads j _ hj).2 (hthreads k _ hk).2

theorem step_inv {action : Action n} (h : Inv s) (hok : Unambiguous s action)
    (hs : step s action = some s') : Inv s' := by
  cases action with
  | dispatchRequest req msg malloc =>
    simp only [step] at hs
    split at hs
    · cases hs
    · rename_i hreq
      split at hs
      · cases hs
        exact h
      · split at hs
        · cases hs
        · rename_i ha
          cases hs
          exact dispatchRequest_inv h (by simpa using hreq) (by simpa using ha)
  | onRequestComplete thread t e response calloc =>
    simp only [step] at hs
    split at hs
    · cases hs
      exact h
    · rename_i t hi
      split at hs
      · rename_i ht
        cases hs
        exact respond_inv h hi ht e response calloc
      · cases hs
    · cases hs
  | proceed thread =>
    cases ht : s.threads thread with
    | none => simp [step, ht] at hs
    | some c =>
      cases c with
      | responded t hdr =>
        simp only [Unambiguous, ht] at hok
        exact dequeue_inv h ht hok hs
      | dequeued hdr => exact free_inv h ht hs

/-! Runs. -/

/-- The step takes `t` out of the queue and frees it, and leaves every other request alone. -/
def RemovesOnly (s s' : State n) (t : Fin n) : Prop :=
  ∃ l₁ l₂, s.outstanding = l₁ ++ t :: l₂ ∧ Links.Chain s'.pNext s'.front (l₁ ++ l₂) ∧
    s'.requestLive = Function.update s.requestLive t false

theorem removesOnly_iff (h : Inv s) (ht : s.threads thread = some (.responded t hdr))
    (hs : step s (.proceed thread) = some s') : RemovesOnly s s' t ↔ Distinguishable s t := by
  constructor
  · rintro ⟨-, -, -, -, hlive⟩
    obtain ⟨cur, l₁, l₂, front, pNext, hcheck, hl, hkey, hl₁, -⟩ := checkAndDequeue_spec h ht
    refine (removed_eq_iff h (h.responded thread t hdr ht).1 hl hkey hl₁).mpr ?_
    simp only [step, ht, hcheck] at hs
    cases hs
    -- the freed request is dead afterwards, and every other one was alive before
    by_contra hne
    have hcur := congrFun hlive cur
    simp only [Function.update_self, Function.update_of_ne hne] at hcur
    have hmem : cur ∈ s.outstanding := hl ▸ List.mem_append_right l₁ List.mem_cons_self
    rw [h.requestLive cur hmem] at hcur
    cases hcur
  · intro hd
    obtain ⟨l₁, l₂, front, pNext, hl, hafter, hstep⟩ := dequeue_step h ht hd
    rw [hstep] at hs
    cases hs
    exact ⟨l₁, l₂, hl, hafter, rfl⟩

theorem run_inv {requests : Fin n → SapSocketRequest} {pNext : Fin n → Option (Fin n)}
    {headers : Nat → MsgHeader} {as : List (Action n)}
    (hr : Machine.run step (initial requests pNext headers) as = some s)
    (hok : Machine.Along step Unambiguous (initial requests pNext headers) as) : Inv s :=
  Machine.run_invariant_along (fun _ _ _ h hok hs => step_inv h hok hs) hr hok
    (inv_initial requests pNext headers)

/-- As long as every completion finds its request distinguishable, the queue is exact, and the
next completion takes out its own request exactly if that one is distinguishable too. -/
theorem queue_exact {requests : Fin n → SapSocketRequest} {pNext : Fin n → Option (Fin n)}
    {headers : Nat → MsgHeader} {as : List (Action n)}
    (hr : Machine.run step (initial requests pNext headers) as = some s)
    (hok : Machine.Along step Unambiguous (initial requests pNext headers) as) :
    Exact s ∧ ∀ thread t hdr s', s.threads thread = some (.responded t hdr) →
      step s (.proceed thread) = some s' → (RemovesOnly s s' t ↔ Distinguishable s t) := by
  have h := run_inv hr hok
  exact ⟨h.exact, fun thread t hdr s' ht hs => removesOnly_iff h ht hs⟩

/-- A client reuses token 5, and the newer request is completed first. -/
def newerFirst : List (Action 2) :=
  let older : Fin 2 := ⟨0, Nat.zero_lt_two⟩
  let newer : Fin 2 := ⟨1, Nat.one_lt_two⟩
  [.dispatchRequest 0 ⟨5, 3⟩ (some older), .dispatchRequest 1 ⟨5, 3⟩ (some newer),
    .onRequestComplete 0 (some newer) 0 [] true, .proceed 0, .proceed 0]

theorem queue_exact_newerFirst : ∃ s : State 2, s.outstanding = [0] ∧ Exact s := by
  have hrun : Machine.run step (initial (fun _ => ⟨0, 0⟩) (fun _ => none) fun _ => ⟨0, 0⟩)
      newerFirst = some _ := rfl
  refine ⟨_, rfl, (queue_exact hrun ?_).1⟩
  refine Machine.along_cons rfl trivial (Machine.along_cons rfl trivial ?_)
  refine Machine.along_cons rfl trivial (Machine.along_cons rfl ?_ ?_)
  · change Distinguishable _ 1
    decide
  · exact Machine.along_cons rfl trivial trivial

/-- Completing the older request first frees the newer one, and the older one stays queued with
a header that is freed. -/
theorem older_stays_queued :
    ¬ ∀ (as : List (Action 2)) (s : State 2),
      Machine.run step (initial (fun _ => ⟨0, 0⟩) (fun _ => none) fun _ => ⟨0, 0⟩) as = some s →
      Exact s := by
  intro h
  obtain ⟨⟨hfront, -⟩, -⟩ := h [.dispatchRequest 0 ⟨5, 3⟩ (some 0),
    .dispatchRequest 1 ⟨5, 3⟩ (some 1), .onRequestComplete 0 (some 0) 0 [] true, .proceed 0,
    .proceed 0] _ rfl
  exact absurd hfront (by decide)

end Apq8084.Ril.SapQueue
