import Apq8084.Ril.PendingRequests
import Apq8084.Ril.SapQueue

/-! The `RilSapSocket`s of all slots with their services in `sap_service.cpp`. The sockets have a
queue each and share the memory of requests and headers. -/
namespace Apq8084.Ril.SapSockets

open SapQueue (MsgHeader SapSocketRequest Completion)

def RIL_SOCKET_1 : Nat := 0

def RIL1_SERVICE_NAME : String := "slot1"
def RIL2_SERVICE_NAME : String := "slot2"
def RIL3_SERVICE_NAME : String := "slot3"
def RIL4_SERVICE_NAME : String := "slot4"

structure RilSapSocket where
  name : String
  id : Nat

/-- What reaches the `SapImpl` of a slot. -/
inductive Message where
  | response (rsp : SapQueue.Response)
  /-- `sendFailedResponse`. -/
  | failed (msg : MsgHeader)
  | unsolicited (token : Int) (id : Nat) (payload : List UInt8)

/-- The request that a message answers. -/
def Message.answers : Message → Option MsgHeader
  | .response rsp => some ⟨rsp.token, rsp.id⟩
  | .failed msg => some msg
  | .unsolicited .. => none

structure State (n : Nat) where
  /-- The list from `head` on. -/
  sockets : List RilSapSocket
  front : Nat → Option (Fin n)
  pNext : Fin n → Option (Fin n)
  requests : Fin n → SapSocketRequest
  /-- The field `socketId` of a request. -/
  socketId : Fin n → Nat
  requestLive : Fin n → Bool
  headers : Nat → MsgHeader
  headerLive : Nat → Bool
  /-- The socket a thread completes a request of, and where it stands. -/
  threads : Nat → Option (Nat × Completion n)
  /-- What was handed on, each with the `SapImpl` that got it. -/
  handed : List (Option Nat × Message)
  /-- What was given up for want of memory, without an answer. -/
  dropped : List (Option Nat × MsgHeader)
  /-- Dispatched by this socket, and not completed. -/
  uncompleted : Nat → List (Fin n)
  outstanding : Nat → List (Fin n)
  /-- Every request that the client of a slot has made. -/
  asked : List (Nat × MsgHeader)

inductive Action (n : Nat) where
  | initSapSocket (socketName : String) (malloc : Bool)
  | addPayloadAndDispatchRequest (slot req : Nat) (msg : MsgHeader) (payload : Bool)
    (malloc : Option (Fin n))
  | sOnRequestComplete (thread : Nat) (t : Fin n) (e : Int) (response : List UInt8)
    (calloc : Bool)
  | proceed (thread : Nat)
  | sOnUnsolicitedResponse (unsolResponse : Nat) (data : List UInt8) (socketId : Nat)
    (token : Int) (calloc : Bool)

variable {n : Nat}

def initial (pNext : Fin n → Option (Fin n)) (requests : Fin n → SapSocketRequest)
    (socketId : Fin n → Nat) (headers : Nat → MsgHeader) : State n :=
  { sockets := [], front := fun _ => none, pNext, requests, socketId
    requestLive := fun _ => false, headers, headerLive := fun _ => false
    threads := fun _ => none, handed := [], dropped := [], uncompleted := fun _ => []
    outstanding := fun _ => [], asked := [] }

/-! The list of sockets and the services. -/

def SocketExists (head : List RilSapSocket) (socketName : String) : Bool :=
  head.any (·.name = socketName)

def addSocketToList (head : List RilSapSocket) (socketName : String) (socketid : Nat)
    (malloc : Bool) : List RilSapSocket :=
  if SocketExists head socketName then head
  else if malloc then head ++ [⟨socketName, socketid⟩]
  else head

/-- One of the blocks of `initSapSocket`. -/
def initSlot (serviceName : String) (socketid : Nat) (socketName : String) (malloc : Bool)
    (head : List RilSapSocket) : List RilSapSocket :=
  if socketName = serviceName then
    if SocketExists head socketName then head
    else addSocketToList head socketName socketid malloc
  else head

def initSapSocket (simCount : Nat) (head : List RilSapSocket) (socketName : String)
    (malloc : Bool) : List RilSapSocket :=
  let head := initSlot RIL1_SERVICE_NAME RIL_SOCKET_1 socketName malloc head
  let head :=
    if 2 ≤ simCount then initSlot RIL2_SERVICE_NAME RIL_SOCKET_2 socketName malloc head else head
  let head :=
    if 3 ≤ simCount then initSlot RIL3_SERVICE_NAME RIL_SOCKET_3 socketName malloc head else head
  if 4 ≤ simCount then initSlot RIL4_SERVICE_NAME RIL_SOCKET_4 socketName malloc head else head

def getSocketById (head : List RilSapSocket) (socketId : Nat) : Option RilSapSocket :=
  head.find? (·.id = socketId)

/-- The array of `registerService`: the `rilSocketId` of each slot. -/
def socketIds (simCount : Nat) : List Nat :=
  RIL_SOCKET_1 :: if 2 ≤ simCount then
    RIL_SOCKET_2 :: if 3 ≤ simCount then
      RIL_SOCKET_3 :: if 4 ≤ simCount then [RIL_SOCKET_4] else []
    else []
  else []

/-- The slot of `sapService` that `getSapImpl` returns for a socket with this id. -/
def getSapImpl (simCount socketId : Nat) : Option Nat :=
  if socketId = RIL_SOCKET_1 then some 0
  else if 2 ≤ simCount ∧ socketId = RIL_SOCKET_2 then some 1
  else if 3 ≤ simCount ∧ socketId = RIL_SOCKET_3 then some 2
  else if 4 ≤ simCount ∧ socketId = RIL_SOCKET_4 then some 3
  else none

/-! One socket. -/

/-- What the socket with this id sees. -/
def view (s : State n) (id : Nat) : SapQueue.State n :=
  { front := s.front id, pNext := s.pNext, requests := s.requests, requestLive := s.requestLive
    headers := s.headers, headerLive := s.headerLive
    threads := fun i => (s.threads i).bind fun p => if p.1 = id then some p.2 else none
    responses := [], uncompleted := s.uncompleted id, outstanding := s.outstanding id }

/-- What a step of the socket with this id leaves behind. -/
def restore (s : State n) (id : Nat) (q : SapQueue.State n) : State n :=
  { s with
    front := Function.update s.front id q.front
    pNext := q.pNext
    requests := q.requests
    requestLive := q.requestLive
    headers := q.headers
    headerLive := q.headerLive
    uncompleted := Function.update s.uncompleted id q.uncompleted
    outstanding := Function.update s.outstanding id q.outstanding }

def restoreThread (s : State n) (id thread : Nat) (q : SapQueue.State n) : State n :=
  { restore s id q with
    threads := Function.update s.threads thread ((q.threads thread).map fun c => (id, c)) }

def dispatchRequest (s : State n) (id req : Nat) (msg : MsgHeader) (currRequest : Fin n) :
    State n :=
  { restore s id (SapQueue.dispatchRequest (view s id) req msg currRequest) with
    socketId := Function.update s.socketId currRequest id }

/-- `onRequestComplete` of the socket with this id. -/
def respond (simCount : Nat) (s : State n) (id thread : Nat) (t : Fin n) (e : Int)
    (response : List UInt8) (calloc : Bool) : State n :=
  let q := SapQueue.respond (view s id) thread t e response calloc
  { restoreThread s id thread q with
    handed := s.handed ++ q.responses.map fun rsp => (getSapImpl simCount id, .response rsp)
    dropped :=
      if calloc then s.dropped
      else s.dropped ++ [(getSapImpl simCount id, s.headers (s.requests t).curr)] }

/-- The branch for an invalid socket id. -/
def discard (s : State n) (t : Fin n) : State n :=
  { s with
    headerLive := Function.update s.headerLive (s.requests t).curr false
    requestLive := Function.update s.requestLive t false
    uncompleted := fun id => (s.uncompleted id).erase t }

def step (simCount : Nat) (s : State n) : Action n → Option (State n)
  | .initSapSocket socketName malloc =>
    some { s with sockets := initSapSocket simCount s.sockets socketName malloc }
  | .addPayloadAndDispatchRequest slot req msg payload malloc =>
    match (socketIds simCount)[slot]? with
    | none => none
    | some rilSocketId =>
      if s.headerLive req then none
      else
        let s := { s with asked := s.asked ++ [(slot, msg)] }
        match payload, getSocketById s.sockets rilSocketId with
        | true, some socket =>
          match malloc with
          | none => some { s with dropped := s.dropped ++ [(some slot, msg)] }
          | some currRequest =>
            if s.requestLive currRequest then none
            else some (dispatchRequest s socket.id req msg currRequest)
        | _, _ => some { s with handed := s.handed ++ [(some slot, .failed msg)] }
  | .sOnRequestComplete thread t e response calloc =>
    match s.threads thread with
    | some _ => none
    | none =>
      if s.sockets.any fun socket => (s.uncompleted socket.id).contains t then
        match getSocketById s.sockets (s.socketId t) with
        | some socket => some (respond simCount s socket.id thread t e response calloc)
        | none => some (discard s t)
      else none
  | .proceed thread =>
    match s.threads thread with
    | none => none
    | some (id, _) =>
      (SapQueue.step (view s id) (.proceed thread)).map (restoreThread s id thread)
  | .sOnUnsolicitedResponse unsolResponse data socketId token calloc =>
    match getSocketById s.sockets socketId with
    | none => some s
    | some socket =>
      if data ≠ [] ∧ calloc then
        some { s with
          handed := s.handed ++
            [(getSapImpl simCount socket.id, .unsolicited token unsolResponse data)] }
      else some s

/-- The completions that take a request out find it distinguishable in their own queue. -/
def Unambiguous (s : State n) : Action n → Prop
  | .proceed thread => ∀ id t hdr, s.threads thread = some (id, .responded t hdr) →
      SapQueue.Distinguishable (view s id) t
  | _ => True

/-- The header that a request was dispatched with. -/
def headerOf (s : State n) (a : Fin n) : MsgHeader := s.headers (s.requests a).curr

/-- The requests of a slot that the vendor has not completed. -/
def waiting (s : State n) (id : Nat) : List MsgHeader := (s.uncompleted id).map (headerOf s)

/-- The requests that the client of a slot got an answer to, one by one. -/
def answered (handed : List (Option Nat × Message)) (slot : Nat) : List MsgHeader :=
  handed.filterMap fun p => if p.1 = some slot then p.2.answers else none

variable {simCount id j slot socketid thread : Nat} {s s' : State n} {q q' : SapQueue.State n}
  {owner : Nat → Nat} {head : List RilSapSocket} {socket : RilSapSocket} {t : Fin n}

/-! Which slot a socket belongs to. -/

theorem getSapImpl_eq_some :
    getSapImpl simCount id = some slot ↔ (socketIds simCount)[slot]? = some id := by
  unfold getSapImpl socketIds RIL_SOCKET_1 RIL_SOCKET_2 RIL_SOCKET_3 RIL_SOCKET_4
  rcases slot with _ | _ | _ | _ | slot <;> grind

theorem id_of_getSocketById (h : getSocketById head id = some socket) : socket.id = id := by
  have := List.find?_some h
  simpa using this

theorem getSocketById_of_mem (h : socket ∈ head) :
    ∃ found, getSocketById head socket.id = some found ∧ found.id = socket.id := by
  cases hf : getSocketById head socket.id with
  | none =>
    have := List.find?_eq_none.mp hf socket h
    simp at this
  | some found => exact ⟨found, rfl, id_of_getSocketById hf⟩

theorem mem_addSocketToList {socketName : String} {malloc : Bool}
    (h : socket ∈ addSocketToList head socketName socketid malloc) :
    socket ∈ head ∨ socket.id = socketid := by
  unfold addSocketToList at h
  split at h
  · exact .inl h
  · split at h
    · rcases List.mem_append.mp h with h | h
      · exact .inl h
      · rw [List.mem_singleton.mp h]
        exact .inr rfl
    · exact .inl h

theorem subset_addSocketToList {socketName : String} {malloc : Bool} :
    head ⊆ addSocketToList head socketName socketid malloc := by
  unfold addSocketToList
  split
  · exact List.Subset.refl head
  · split
    · exact List.subset_append_left head _
    · exact List.Subset.refl head

theorem mem_initSlot {serviceName socketName : String} {malloc : Bool}
    (h : socket ∈ initSlot serviceName socketid socketName malloc head) :
    socket ∈ head ∨ socket.id = socketid := by
  unfold initSlot at h
  split at h
  · split at h
    · exact .inl h
    · exact mem_addSocketToList h
  · exact .inl h

theorem subset_initSlot {serviceName socketName : String} {malloc : Bool} :
    head ⊆ initSlot serviceName socketid socketName malloc head := by
  unfold initSlot
  split
  · split
    · exact List.Subset.refl head
    · exact subset_addSocketToList
  · exact List.Subset.refl head

theorem subset_initSapSocket {socketName : String} {malloc : Bool} :
    head ⊆ initSapSocket simCount head socketName malloc := by
  have hkeep : ∀ {c : Prop} [Decidable c] {l : List RilSapSocket} {serviceName : String}
      {socketid : Nat}, l ⊆ if c then initSlot serviceName socketid socketName malloc l else l := by
    intro c _ l serviceName socketid
    split
    · exact subset_initSlot
    · exact List.Subset.refl l
  exact List.Subset.trans (List.Subset.trans (List.Subset.trans subset_initSlot hkeep) hkeep) hkeep

/-- Every socket has the id of a slot. -/
theorem slot_of_mem_initSapSocket {socketName : String} {malloc : Bool}
    (h : socket ∈ initSapSocket simCount head socketName malloc) :
    socket ∈ head ∨ ∃ slot, getSapImpl simCount socket.id = some slot := by
  have hsplit : ∀ {c : Prop} [Decidable c] {l : List RilSapSocket} {serviceName : String}
      {socketid : Nat}, socket ∈ (if c then initSlot serviceName socketid socketName malloc l
        else l) → socket ∈ l ∨ c ∧ socket.id = socketid := by
    intro c _ l serviceName socketid h
    split at h
    · rename_i hc
      exact (mem_initSlot h).imp_right fun hid => ⟨hc, hid⟩
    · exact .inl h
  rcases hsplit h with h | ⟨hc, hid⟩
  · rcases hsplit h with h | ⟨hc, hid⟩
    · rcases hsplit h with h | ⟨hc, hid⟩
      · rcases mem_initSlot h with h | hid
        · exact .inl h
        · exact .inr ⟨0, by simp [getSapImpl, hid]⟩
      · exact .inr ⟨1, by simp [getSapImpl, hid, hc, RIL_SOCKET_1, RIL_SOCKET_2]⟩
    · exact .inr ⟨2, by simp [getSapImpl, hid, hc, RIL_SOCKET_1, RIL_SOCKET_2, RIL_SOCKET_3]⟩
  · exact .inr ⟨3, by
      simp [getSapImpl, hid, hc, RIL_SOCKET_1, RIL_SOCKET_2, RIL_SOCKET_3, RIL_SOCKET_4]⟩

/-! What one socket does to the memory of the others. -/

/-- The memory that is in use and not in the queue stays as it is. -/
structure Frame (q q' : SapQueue.State n) : Prop where
  requests : ∀ a, q.requestLive a = true → q'.requests a = q.requests a
  links : ∀ a, q.requestLive a = true → a ∉ q.outstanding →
    q'.pNext a = q.pNext a ∧ q'.requestLive a = true
  headers : ∀ hdr, q.headerLive hdr = true → q'.headers hdr = q.headers hdr
  headerLive : ∀ hdr, q.headerLive hdr = true →
    (∀ i, q.threads i ≠ some (.dequeued hdr)) → q'.headerLive hdr = true

theorem frame_dispatchRequest {req : Nat} {msg : MsgHeader} {currRequest : Fin n}
    (hreq : q.headerLive req = false) (hcurr : q.requestLive currRequest = false) :
    Frame q (SapQueue.dispatchRequest q req msg currRequest) := by
  have hne : ∀ a, q.requestLive a = true → a ≠ currRequest := by
    rintro a ha rfl
    rw [hcurr] at ha
    cases ha
  have hhdr : ∀ hdr, q.headerLive hdr = true → hdr ≠ req := by
    rintro hdr hlive rfl
    rw [hreq] at hlive
    cases hlive
  constructor
  · exact fun a ha => Function.update_of_ne (hne a ha) _ _
  · intro a ha _
    refine ⟨Function.update_of_ne (hne a ha) _ _, ?_⟩
    simp only [SapQueue.dispatchRequest, SapQueue.enqueue, Function.update_of_ne (hne a ha)]
    exact ha
  · exact fun hdr hlive => Function.update_of_ne (hhdr hdr hlive) _ _
  · intro hdr hlive _
    simp only [SapQueue.dispatchRequest, SapQueue.enqueue, Function.update_of_ne (hhdr hdr hlive)]
    exact hlive

theorem frame_respond {e : Int} {response : List UInt8} {calloc : Bool} :
    Frame q (SapQueue.respond q thread t e response calloc) :=
  ⟨fun _ _ => rfl, fun _ ha _ => ⟨rfl, ha⟩, fun _ _ => rfl, fun _ ha _ => ha⟩

/-- The search writes to a link of its own queue and frees a request of its own queue. -/
theorem frame_checkAndDequeue (h : SapQueue.Inv q) (msgId : Nat) (token : Int) :
    Frame q (SapQueue.checkAndDequeue q msgId token) := by
  unfold SapQueue.checkAndDequeue
  split
  · exact ⟨fun _ _ => rfl, fun _ ha _ => ⟨rfl, ha⟩, fun _ _ => rfl, fun _ ha _ => ha⟩
  · rename_i ppCur temp hf
    obtain ⟨l₁, l₂, hl, -, -, hplace, -⟩ := Links.chain_unlink_head h.chain h.nodup hf
    have htemp : temp ∈ q.outstanding := hl ▸ List.mem_append_right l₁ List.mem_cons_self
    refine ⟨fun _ _ => rfl, fun a ha hout => ⟨?_, ?_⟩, fun _ _ => rfl, fun _ ha _ => ha⟩
    · rcases hplace with rfl | ⟨b, hb, rfl⟩
      · rfl
      · refine Function.update_of_ne ?_ _ _
        rintro rfl
        exact hout hb
    · have hne : a ≠ temp := by
        rintro rfl
        exact hout htemp
      simp only [Function.update_of_ne hne]
      exact ha

theorem checkAndDequeue_uncompleted {msgId : Nat} {token : Int} :
    (SapQueue.checkAndDequeue q msgId token).uncompleted = q.uncompleted := by
  unfold SapQueue.checkAndDequeue
  split <;> rfl

/-- What a completion does on its way, besides its edit of the queue. -/
theorem proceed_spec (hs : SapQueue.step q (.proceed thread) = some q') :
    q'.outstanding ⊆ q.outstanding ∧ q'.uncompleted = q.uncompleted ∧
      (∀ i, i ≠ thread → q'.threads i = q.threads i) ∧
      ∀ hdr, q'.threads thread = some (.dequeued hdr) →
        ∃ t, q.threads thread = some (.responded t hdr) := by
  cases ht : q.threads thread with
  | none => simp [SapQueue.step, ht] at hs
  | some c =>
    simp only [SapQueue.step, ht] at hs
    cases c with
    | responded t hdr =>
      cases hs
      refine ⟨List.erase_subset, checkAndDequeue_uncompleted,
        fun i hi => Function.update_of_ne hi _ _, fun hdr' hi => ⟨t, ?_⟩⟩
      simp only [Function.update_self] at hi
      cases hi
      rfl
    | dequeued hdr =>
      cases hs
      refine ⟨List.Subset.refl _, rfl, fun i hi => Function.update_of_ne hi _ _, fun hdr' hi => ?_⟩
      simp only [Function.update_self] at hi
      cases hi

theorem frame_proceed (h : SapQueue.Inv q) (hs : SapQueue.step q (.proceed thread) = some q') :
    Frame q q' := by
  cases ht : q.threads thread with
  | none => simp [SapQueue.step, ht] at hs
  | some c =>
    simp only [SapQueue.step, ht] at hs
    cases c with
    | responded t hdr =>
      cases hs
      obtain ⟨hrequests, hlinks, hheaders, hlive⟩ :=
        frame_checkAndDequeue h (q.headers hdr).id (q.headers hdr).token
      exact ⟨hrequests, hlinks, hheaders, hlive⟩
    | dequeued hdr =>
      cases hs
      refine ⟨fun _ _ => rfl, fun _ ha _ => ⟨rfl, ha⟩, fun _ _ => rfl, fun a ha hno => ?_⟩
      have hne : a ≠ hdr := by
        rintro rfl
        exact hno thread ht
      simp only [Function.update_of_ne hne]
      exact ha

/-- Memory that is framed keeps the invariant of a queue that nobody else touched. -/
theorem inv_of_frame (h : SapQueue.Inv q) (hfront : q'.front = q.front)
    (hthreads : q'.threads = q.threads) (hun : q'.uncompleted = q.uncompleted)
    (hout : q'.outstanding = q.outstanding)
    (hcells : ∀ a ∈ q.outstanding, q'.pNext a = q.pNext a ∧ q'.requests a = q.requests a ∧
      q'.requestLive a = true)
    (hheaders : ∀ a ∈ q.outstanding,
      q'.headers (q.requests a).curr = q.headers (q.requests a).curr ∧
      q'.headerLive (q.requests a).curr = true)
    (hdequeued : ∀ i hdr, q.threads i = some (.dequeued hdr) → q'.headerLive hdr = true) :
    SapQueue.Inv q' := by
  have hreq : ∀ a ∈ q.outstanding, q'.requests a = q.requests a := fun a ha => (hcells a ha).2.1
  constructor
  · rw [hfront, hout]
    exact Links.chain_congr (fun a ha => (hcells a ha).1) h.chain
  · rw [hout]
    exact h.nodup
  · rw [hout]
    exact fun a ha => (hcells a ha).2.2
  · rw [hout]
    intro a ha
    rw [hreq a ha]
    exact (hheaders a ha).2
  · rw [hout]
    intro a ha
    rw [hreq a ha, (hheaders a ha).1]
    exact h.token a ha
  · rw [hout]
    intro a ha b hb hab
    rw [hreq a ha, hreq b hb] at hab
    exact h.headerInj a ha b hb hab
  · rw [hun, hout]
    exact h.uncompleted
  · rw [hun]
    exact h.uncompletedNodup
  · rw [hthreads, hun, hout]
    intro i t hdr hi
    obtain ⟨ht, hno, hhdr⟩ := h.responded i t hdr hi
    rw [hreq t ht]
    exact ⟨ht, hno, hhdr⟩
  · rw [hthreads]
    exact h.respondedInj
  · rw [hthreads, hout]
    intro i hdr hi
    refine ⟨hdequeued i hdr hi, fun a ha => ?_⟩
    rw [hreq a ha]
    exact (h.dequeued i hdr hi).2 a ha
  · rw [hthreads]
    exact h.dequeuedInj

/-! The invariant of all sockets. -/

/-- `owner` says which socket a header was dispatched by. -/
structure Owned (simCount : Nat) (s : State n) (owner : Nat → Nat) : Prop where
  named : ∀ socket ∈ s.sockets, ∃ slot, getSapImpl simCount socket.id = some slot
  queue : ∀ id, SapQueue.Inv (view s id)
  socketId : ∀ id, ∀ a ∈ s.outstanding id, s.socketId a = id
  listed : ∀ id, ∀ a ∈ s.outstanding id, ∃ socket ∈ s.sockets, socket.id = id
  header : ∀ id, ∀ a ∈ s.outstanding id, owner (s.requests a).curr = id
  dequeued : ∀ i id hdr, s.threads i = some (id, .dequeued hdr) → owner hdr = id
  handed : ∀ p ∈ s.handed, p.1.isSome

theorem owned_initial (pNext : Fin n → Option (Fin n)) (requests : Fin n → SapSocketRequest)
    (socketId : Fin n → Nat) (headers : Nat → MsgHeader) :
    Owned simCount (initial pNext requests socketId headers) fun _ => 0 := by
  refine ⟨by simp [initial], fun id => ?_, by simp [initial], by simp [initial], by simp [initial],
    by simp [initial], by simp [initial]⟩
  exact SapQueue.inv_initial requests pNext headers

theorem view_threads {i : Nat} {c : Completion n} :
    (view s id).threads i = some c ↔ s.threads i = some (id, c) := by
  simp only [view]
  constructor
  · intro h
    obtain ⟨⟨k, d⟩, hi, hk⟩ := Option.bind_eq_some_iff.mp h
    obtain ⟨rfl, hd⟩ := Option.ite_none_right_eq_some.mp hk
    rw [hi]
    cases hd
    rfl
  · intro h
    simp [h]

theorem Owned.live (h : Owned simCount s owner) {a : Fin n} (ha : a ∈ s.outstanding id) :
    s.requestLive a = true := (h.queue id).requestLive a ha

theorem Owned.not_mem (h : Owned simCount s owner) {a : Fin n} (ha : a ∈ s.outstanding id)
    (hne : id ≠ j) : a ∉ s.outstanding j := by
  intro hj
  exact hne ((h.socketId id a ha).symm.trans (h.socketId j a hj))

/-- A header in a queue is not being freed by a completion of another socket. -/
theorem Owned.not_dequeued (h : Owned simCount s owner) {hdr : Nat} (howner : owner hdr = j)
    (hne : j ≠ id) : ∀ i, (view s id).threads i ≠ some (.dequeued hdr) := by
  intro i hi
  exact hne (howner.symm.trans (h.dequeued i id hdr (view_threads.mp hi)))

/-- The step of one socket keeps the queue of every other one. -/
theorem Owned.queue_of_ne (h : Owned simCount s owner) (hf : Frame (view s id) q) (hj : j ≠ id)
    {threads : Nat → Option (Nat × Completion n)}
    (hthreads : ∀ i c, threads i = some (j, c) ↔ s.threads i = some (j, c)) :
    SapQueue.Inv (view { restore s id q with threads } j) := by
  refine inv_of_frame (h.queue j) ?_ ?_ ?_ ?_ ?_ ?_ ?_
  · exact Function.update_of_ne hj _ _
  · funext i
    apply Option.ext
    intro c
    rw [view_threads, view_threads]
    exact hthreads i c
  · exact Function.update_of_ne hj _ _
  · exact Function.update_of_ne hj _ _
  · intro a ha
    obtain ⟨hnext, hlive⟩ := hf.links a (h.live ha) (h.not_mem ha hj)
    exact ⟨hnext, hf.requests a (h.live ha), hlive⟩
  · intro a ha
    have hlive := (h.queue j).headerLive a ha
    exact ⟨hf.headers _ hlive, hf.headerLive _ hlive (h.not_dequeued (h.header j a ha) hj)⟩
  · intro i hdr hi
    have howner := h.dequeued i j hdr (view_threads.mp hi)
    exact hf.headerLive hdr ((h.queue j).dequeued i hdr hi).1 (h.not_dequeued howner hj)

/-- The socket itself sees what its step left behind. -/
theorem queue_self (hq : SapQueue.Inv q) {threads : Nat → Option (Nat × Completion n)}
    (hthreads : ∀ i c, threads i = some (id, c) ↔ q.threads i = some c) :
    SapQueue.Inv (view { restore s id q with threads } id) := by
  refine inv_of_frame hq ?_ ?_ ?_ ?_ ?_ ?_ ?_
  · exact Function.update_self _ _ _
  · funext i
    apply Option.ext
    intro c
    rw [view_threads]
    exact hthreads i c
  · exact Function.update_self _ _ _
  · exact Function.update_self _ _ _
  · exact fun a ha => ⟨rfl, rfl, hq.requestLive a ha⟩
  · exact fun a ha => ⟨rfl, hq.headerLive a ha⟩
  · exact fun i hdr hi => (hq.dequeued i hdr hi).1

theorem owned_dispatchRequest (h : Owned simCount s owner) {req : Nat} {msg : MsgHeader}
    {currRequest : Fin n} (hsocket : socket ∈ s.sockets) (hreq : s.headerLive req = false)
    (hcurr : s.requestLive currRequest = false) :
    Owned simCount (dispatchRequest s socket.id req msg currRequest)
      (Function.update owner req socket.id) := by
  have hold : ∀ {id a}, a ∈ s.outstanding id → a ≠ currRequest := by
    rintro id a ha rfl
    rw [h.live ha] at hcurr
    cases hcurr
  have hhdr : ∀ {hdr}, s.headerLive hdr = true → hdr ≠ req := by
    rintro hdr hlive rfl
    rw [hlive] at hreq
    cases hreq
  -- a request in a queue is the new one, or it was there before
  have hcases : ∀ {id a}, a ∈ (dispatchRequest s socket.id req msg currRequest).outstanding id →
      (id = socket.id ∧ a = currRequest) ∨ (a ≠ currRequest ∧ a ∈ s.outstanding id) := by
    intro id a ha
    by_cases hid : id = socket.id
    · subst hid
      simp only [dispatchRequest, restore, Function.update_self] at ha
      rcases List.mem_cons.mp ha with rfl | ha
      · exact .inl ⟨rfl, rfl⟩
      · exact .inr ⟨hold ha, ha⟩
    · simp only [dispatchRequest, restore, Function.update_of_ne hid] at ha
      exact .inr ⟨hold ha, ha⟩
  have hframe : Frame (view s socket.id)
      (SapQueue.dispatchRequest (view s socket.id) req msg currRequest) :=
    frame_dispatchRequest hreq hcurr
  refine ⟨h.named, fun id => ?_, fun id a ha => ?_, fun id a ha => ?_, fun id a ha => ?_, ?_,
    h.handed⟩
  · by_cases hid : id = socket.id
    · subst hid
      exact queue_self (SapQueue.dispatchRequest_inv (h.queue socket.id) hreq hcurr)
        fun i c => view_threads.symm
    · exact h.queue_of_ne hframe hid fun i c => Iff.rfl
  · rcases hcases ha with ⟨rfl, rfl⟩ | ⟨hne, ha⟩
    · exact Function.update_self _ _ _
    · simp only [dispatchRequest, Function.update_of_ne hne]
      exact h.socketId id a ha
  · rcases hcases ha with ⟨rfl, -⟩ | ⟨-, ha⟩
    · exact ⟨socket, hsocket, rfl⟩
    · exact h.listed id a ha
  · rcases hcases ha with ⟨rfl, rfl⟩ | ⟨hne, ha⟩
    · simp [dispatchRequest, restore, SapQueue.dispatchRequest, SapQueue.enqueue]
    · have hrequests : (dispatchRequest s socket.id req msg currRequest).requests a =
          s.requests a := Function.update_of_ne hne _ _
      have hlive : s.headerLive (s.requests a).curr = true := (h.queue id).headerLive a ha
      rw [hrequests, Function.update_of_ne (hhdr hlive)]
      exact h.header id a ha
  · intro i id hdr hi
    have hlive := ((h.queue id).dequeued i hdr (view_threads.mpr hi)).1
    rw [Function.update_of_ne (hhdr hlive)]
    exact h.dequeued i id hdr hi

/-- A completion moves on at its own socket. -/
theorem owned_restoreThread (h : Owned simCount s owner) (hq : SapQueue.Inv q)
    (hframe : Frame (view s id) q) (hout : q.outstanding ⊆ s.outstanding id)
    (hfree : ∀ j c, s.threads thread = some (j, c) → j = id)
    (hthreads : ∀ i, i ≠ thread → q.threads i = (view s id).threads i)
    (howner : ∀ hdr, q.threads thread = some (.dequeued hdr) → owner hdr = id) :
    Owned simCount (restoreThread s id thread q) owner := by
  have hmem : ∀ {j a}, a ∈ (restoreThread s id thread q).outstanding j → a ∈ s.outstanding j := by
    intro j a ha
    by_cases hj : j = id
    · subst hj
      simp only [restoreThread, restore, Function.update_self] at ha
      exact hout ha
    · simpa only [restoreThread, restore, Function.update_of_ne hj] using ha
  have hthread : ∀ {i j c}, (restoreThread s id thread q).threads i = some (j, c) ↔
      (i = thread ∧ j = id ∧ q.threads i = some c) ∨ (i ≠ thread ∧ s.threads i = some (j, c)) := by
    intro i j c
    by_cases hi : i = thread
    · subst hi
      simp only [restoreThread, Function.update_self, Option.map_eq_some_iff, Prod.mk.injEq,
        true_and, ne_eq, not_true_eq_false, false_and, or_false]
      constructor
      · rintro ⟨d, hd, rfl, rfl⟩
        exact ⟨rfl, hd⟩
      · rintro ⟨rfl, hc⟩
        exact ⟨c, hc, rfl, rfl⟩
    · simp [restoreThread, hi]
  refine ⟨h.named, fun j => ?_, fun j a ha => h.socketId j a (hmem ha),
    fun j a ha => h.listed j a (hmem ha), fun j a ha => ?_, fun i j hdr hi => ?_, h.handed⟩
  · by_cases hj : j = id
    · subst hj
      refine queue_self hq fun i c => ?_
      refine hthread.trans ?_
      by_cases hi : i = thread
      · simp [hi]
      · simp [hi, hthreads i hi, view_threads]
    · refine h.queue_of_ne hframe hj fun i c => ?_
      refine hthread.trans ?_
      by_cases hi : i = thread
      · subst hi
        simp only [hj, false_and, and_false, ne_eq, not_true_eq_false, or_self, false_iff]
        exact fun hthr => hj (hfree j c hthr)
      · simp [hi]
  · have hlive := h.live (hmem ha)
    have hrequests : (restoreThread s id thread q).requests a = s.requests a :=
      hframe.requests a hlive
    rw [hrequests]
    exact h.header j a (hmem ha)
  · rcases hthread.mp hi with ⟨rfl, rfl, hthr⟩ | ⟨-, hthr⟩
    · exact howner hdr hthr
    · exact h.dequeued i j hdr hthr

/-- A request that is completed finds the socket that dispatched it. -/
theorem Owned.socket_of_uncompleted (h : Owned simCount s owner) (ht : t ∈ s.uncompleted id) :
    ∃ found, getSocketById s.sockets (s.socketId t) = some found ∧ found.id = id := by
  have hout : t ∈ s.outstanding id := (h.queue id).uncompleted t ht
  obtain ⟨socket, hmem, rfl⟩ := h.listed id t hout
  rw [h.socketId socket.id t hout]
  exact getSocketById_of_mem hmem

theorem owned_respond (h : Owned simCount s owner) (hthread : s.threads thread = none)
    (ht : t ∈ s.uncompleted id) (e : Int) (response : List UInt8) (calloc : Bool) :
    Owned simCount (respond simCount s id thread t e response calloc) owner := by
  have hnone : (view s id).threads thread = none := by simp [view, hthread]
  have hkept : Owned simCount (restoreThread s id thread
      (SapQueue.respond (view s id) thread t e response calloc)) owner := by
    refine owned_restoreThread h (SapQueue.respond_inv (h.queue id) hnone ht e response calloc)
      frame_respond (List.Subset.refl _) ?_ ?_ ?_
    · simp [hthread]
    · exact fun i hi => Function.update_of_ne hi _ _
    · intro hdr hi
      simp [SapQueue.respond] at hi
  refine ⟨hkept.named, hkept.queue, hkept.socketId, hkept.listed, hkept.header, hkept.dequeued,
    fun p hp => ?_⟩
  rcases List.mem_append.mp hp with hp | hp
  · exact h.handed p hp
  · obtain ⟨rsp, -, rfl⟩ := List.mem_map.mp hp
    obtain ⟨socket, hmem, rfl⟩ := h.listed id t ((h.queue id).uncompleted t ht)
    obtain ⟨slot, hslot⟩ := h.named socket hmem
    rw [hslot]
    rfl

theorem owned_proceed (h : Owned simCount s owner) {c : Completion n}
    (hthread : s.threads thread = some (id, c)) (hok : Unambiguous s (.proceed thread))
    (hs : SapQueue.step (view s id) (.proceed thread) = some q) :
    Owned simCount (restoreThread s id thread q) owner := by
  have hview : (view s id).threads thread = some c := view_threads.mpr hthread
  have hone : SapQueue.Unambiguous (view s id) (.proceed thread) := by
    simp only [SapQueue.Unambiguous, hview]
    cases c with
    | responded t hdr => exact hok id t hdr hthread
    | dequeued hdr => trivial
  obtain ⟨hout, -, hthreads, hdequeued⟩ := proceed_spec hs
  refine owned_restoreThread h (SapQueue.step_inv (h.queue id) hone hs)
    (frame_proceed (h.queue id) hs) hout ?_ hthreads ?_
  · intro j d hj
    rw [hthread] at hj
    cases hj
    rfl
  · intro hdr hdr'
    obtain ⟨t, ht⟩ := hdequeued hdr hdr'
    obtain ⟨hmem, -, rfl⟩ := (h.queue id).responded thread t hdr ht
    exact h.header id t hmem

theorem step_owned {action : Action n} (h : Owned simCount s owner) (hok : Unambiguous s action)
    (hs : step simCount s action = some s') : ∃ owner', Owned simCount s' owner' := by
  cases action with
  | initSapSocket socketName malloc =>
    cases hs
    refine ⟨owner, fun socket hmem => ?_, h.queue, h.socketId, fun id a ha => ?_, h.header,
      h.dequeued, h.handed⟩
    · exact (slot_of_mem_initSapSocket hmem).elim (h.named socket) id
    · obtain ⟨socket, hmem, hid⟩ := h.listed id a ha
      exact ⟨socket, subset_initSapSocket hmem, hid⟩
  | addPayloadAndDispatchRequest slot req msg payload malloc =>
    simp only [step] at hs
    split at hs
    · cases hs
    · split at hs
      · cases hs
      · rename_i hreq
        have hasked : Owned simCount { s with asked := s.asked ++ [(slot, msg)] } owner :=
          ⟨h.named, h.queue, h.socketId, h.listed, h.header, h.dequeued, h.handed⟩
        split at hs
        · rename_i socket hfound
          split at hs
          · cases hs
            exact ⟨owner, h.named, h.queue, h.socketId, h.listed, h.header, h.dequeued, h.handed⟩
          · split at hs
            · cases hs
            · rename_i currRequest hcurr
              cases hs
              exact ⟨_, owned_dispatchRequest hasked (List.mem_of_find?_eq_some hfound)
                (by simpa using hreq) (by simpa using hcurr)⟩
        · cases hs
          refine ⟨owner, h.named, h.queue, h.socketId, h.listed, h.header, h.dequeued, ?_⟩
          intro p hp
          rcases List.mem_append.mp hp with hp | hp
          · exact h.handed p hp
          · rw [List.mem_singleton.mp hp]
            rfl
  | sOnRequestComplete thread t e response calloc =>
    simp only [step] at hs
    split at hs
    · cases hs
    · rename_i hthread
      split at hs
      · rename_i hany
        obtain ⟨socket, -, ht⟩ := List.any_eq_true.mp hany
        rw [List.contains_iff_mem] at ht
        obtain ⟨found, hfound, hid⟩ := h.socket_of_uncompleted ht
        rw [hfound] at hs
        cases hs
        exact ⟨owner, owned_respond h hthread (hid ▸ ht) e response calloc⟩
      · cases hs
  | proceed thread =>
    simp only [step] at hs
    split at hs
    · cases hs
    · rename_i id c hthread
      obtain ⟨q, hq, rfl⟩ := Option.map_eq_some_iff.mp hs
      exact ⟨owner, owned_proceed h hthread hok hq⟩
  | sOnUnsolicitedResponse unsolResponse data socketId token calloc =>
    simp only [step] at hs
    split at hs
    · cases hs
      exact ⟨owner, h⟩
    · rename_i socket hfound
      split at hs
      · cases hs
        refine ⟨owner, h.named, h.queue, h.socketId, h.listed, h.header, h.dequeued, ?_⟩
        intro p hp
        rcases List.mem_append.mp hp with hp | hp
        · exact h.handed p hp
        · obtain ⟨slot, hslot⟩ := h.named socket (List.mem_of_find?_eq_some hfound)
          rw [List.mem_singleton.mp hp, hslot]
          rfl
      · cases hs
        exact ⟨owner, h⟩

/-! Every request has one answer. -/

/-- Each request of a slot has been answered to that slot, was given up, or waits for the vendor. -/
def Accounted (simCount : Nat) (s : State n) : Prop :=
  ∀ slot id, (socketIds simCount)[slot]? = some id → ∀ msg,
    s.asked.count (slot, msg) = (answered s.handed slot).count msg +
      s.dropped.count (some slot, msg) + (waiting s id).count msg

theorem answered_concat (handed : List (Option Nat × Message)) (o : Option Nat) (m : Message)
    (slot : Nat) : answered (handed ++ [(o, m)]) slot =
      answered handed slot ++ if o = some slot then m.answers.toList else [] := by
  simp only [answered, List.filterMap_append]
  split
  · cases hm : m.answers <;> simp [*]
  · simp [*]

theorem count_concat {α : Type} [BEq α] [LawfulBEq α] [DecidableEq α] (l : List α) (a b : α) :
    (l ++ [a]).count b = l.count b + if a = b then 1 else 0 := by
  simp [List.count_singleton, beq_eq_decide]

/-- A header stays as it was dispatched, whatever some socket does. -/
theorem Owned.headerOf_frame (h : Owned simCount s owner) (hf : Frame (view s id) q) {a : Fin n}
    (ha : a ∈ s.outstanding j) : q.headers (q.requests a).curr = headerOf s a := by
  have hrequests : q.requests a = s.requests a := hf.requests a (h.live ha)
  rw [hrequests]
  exact hf.headers _ ((h.queue j).headerLive a ha)

theorem Owned.waiting_frame (h : Owned simCount s owner) (hf : Frame (view s id) q)
    {l : List (Fin n)} (hl : l ⊆ s.uncompleted j) :
    l.map (fun a => q.headers (q.requests a).curr) = l.map (headerOf s) :=
  List.map_congr_left fun a ha => h.headerOf_frame hf ((h.queue j).uncompleted a (hl ha))

/-- One socket belongs to one slot. -/
theorem slot_unique {slot' : Nat} (h : (socketIds simCount)[slot]? = some id)
    (h' : (socketIds simCount)[slot']? = some id) : slot = slot' := by
  rw [← getSapImpl_eq_some] at h h'
  exact Option.some.inj (h.symm.trans h')

theorem waiting_dispatchRequest (h : Owned simCount s owner) {req : Nat} {msg : MsgHeader}
    {currRequest : Fin n} (hreq : s.headerLive req = false)
    (hcurr : s.requestLive currRequest = false) :
    waiting (dispatchRequest s id req msg currRequest) j =
      if j = id then msg :: waiting s j else waiting s j := by
  have hframe : Frame (view s id) (SapQueue.dispatchRequest (view s id) req msg currRequest) :=
    frame_dispatchRequest hreq hcurr
  have hold := h.waiting_frame hframe (List.Subset.refl (s.uncompleted j))
  split
  · rename_i heq
    subst heq
    simp only [waiting, dispatchRequest, restore, Function.update_self]
    refine List.cons_eq_cons.mpr ⟨?_, hold⟩
    simp [headerOf, SapQueue.dispatchRequest, SapQueue.enqueue]
  · rename_i hne
    simp only [waiting, dispatchRequest, restore, Function.update_of_ne hne]
    exact hold

theorem waiting_respond (ht : t ∈ s.uncompleted id) {e : Int}
    {response : List UInt8} {calloc : Bool} :
    (waiting s j).Perm ((if j = id then [headerOf s t] else []) ++
      waiting (respond simCount s id thread t e response calloc) j) := by
  split
  · rename_i heq
    subst heq
    have hwaiting : waiting (respond simCount s j thread t e response calloc) j =
        ((s.uncompleted j).erase t).map (headerOf s) := by
      simp only [waiting, respond, restoreThread, restore, Function.update_self]
      rfl
    rw [hwaiting]
    exact (List.perm_cons_erase ht).map (headerOf s)
  · rename_i hne
    simp only [waiting, respond, restoreThread, restore, Function.update_of_ne hne]
    rfl

theorem waiting_proceed (h : Owned simCount s owner)
    (hs : SapQueue.step (view s id) (.proceed thread) = some q) :
    waiting (restoreThread s id thread q) j = waiting s j := by
  have hold := h.waiting_frame (frame_proceed (h.queue id) hs) (List.Subset.refl (s.uncompleted j))
  by_cases hj : j = id
  · subst hj
    simp only [waiting, restoreThread, restore, Function.update_self, (proceed_spec hs).2.1]
    exact hold
  · simp only [waiting, restoreThread, restore, Function.update_of_ne hj]
    exact hold

theorem accounted_respond (ha : Accounted simCount s) (ht : t ∈ s.uncompleted id) (e : Int)
    (response : List UInt8) (calloc : Bool) :
    Accounted simCount (respond simCount s id thread t e response calloc) := by
  intro slot id' hid msg
  have hbefore := ha slot id' hid msg
  have hwaiting : (waiting s id').count msg = (if id' = id then [headerOf s t] else []).count msg +
      (waiting (respond simCount s id thread t e response calloc) id').count msg := by
    rw [← List.count_append]
    exact (waiting_respond ht).count_eq msg
  have hslot : getSapImpl simCount id = some slot ↔ id' = id := by
    rw [getSapImpl_eq_some, hid, Option.some.injEq]
  have hasked : (respond simCount s id thread t e response calloc).asked = s.asked := rfl
  rw [hasked, hbefore, hwaiting]
  cases calloc with
  | false =>
    have hdropped : (respond simCount s id thread t e response false).dropped =
        s.dropped ++ [(getSapImpl simCount id, headerOf s t)] := rfl
    have hhanded : (respond simCount s id thread t e response false).handed = s.handed := by
      simp [respond, restoreThread, restore, SapQueue.respond, view]
    rw [hhanded, hdropped, count_concat]
    simp only [Prod.mk.injEq, hslot]
    by_cases heq : id' = id
    · simp [heq, List.count_singleton]
      omega
    · simp [heq]
  | true =>
    have hdropped : (respond simCount s id thread t e response true).dropped = s.dropped := rfl
    have hhanded : (respond simCount s id thread t e response true).handed =
        s.handed ++ [(getSapImpl simCount id,
          .response ⟨(headerOf s t).token, (headerOf s t).id, e, response⟩)] := rfl
    have hanswer : Message.answers (.response ⟨(headerOf s t).token, (headerOf s t).id, e,
        response⟩) = some (headerOf s t) := rfl
    rw [hhanded, hdropped, answered_concat, hanswer]
    simp only [hslot]
    by_cases heq : id' = id
    · simp [heq, List.count_singleton]
      omega
    · simp [heq]

theorem accounted_failed (ha : Accounted simCount s) (slot : Nat) (msg : MsgHeader) :
    Accounted simCount { s with
      asked := s.asked ++ [(slot, msg)], handed := s.handed ++ [(some slot, .failed msg)] } := by
  intro slot' id hid msg'
  have hbefore := ha slot' id hid msg'
  have hwaiting : waiting { s with
      asked := s.asked ++ [(slot, msg)], handed := s.handed ++ [(some slot, .failed msg)] } id =
      waiting s id := rfl
  rw [hwaiting, count_concat, answered_concat, hbefore]
  by_cases heq : slot = slot'
  · simp [heq, Message.answers, List.count_singleton]
    omega
  · simp [heq]

theorem accounted_dropped (ha : Accounted simCount s) (slot : Nat) (msg : MsgHeader) :
    Accounted simCount { s with
      asked := s.asked ++ [(slot, msg)], dropped := s.dropped ++ [(some slot, msg)] } := by
  intro slot' id hid msg'
  have hbefore := ha slot' id hid msg'
  have hwaiting : waiting { s with
      asked := s.asked ++ [(slot, msg)], dropped := s.dropped ++ [(some slot, msg)] } id =
      waiting s id := rfl
  rw [hwaiting, count_concat, count_concat, hbefore]
  simp only [Prod.mk.injEq, Option.some.injEq]
  omega

theorem accounted_dispatchRequest (h : Owned simCount s owner) (ha : Accounted simCount s)
    {req : Nat} {msg : MsgHeader} {currRequest : Fin n}
    (hid : (socketIds simCount)[slot]? = some id) (hreq : s.headerLive req = false)
    (hcurr : s.requestLive currRequest = false) :
    Accounted simCount
      (dispatchRequest { s with asked := s.asked ++ [(slot, msg)] } id req msg currRequest) := by
  intro slot' id' hid' msg'
  have hbefore := ha slot' id' hid' msg'
  have hasked : Owned simCount { s with asked := s.asked ++ [(slot, msg)] } owner :=
    ⟨h.named, h.queue, h.socketId, h.listed, h.header, h.dequeued, h.handed⟩
  have hsame : waiting { s with asked := s.asked ++ [(slot, msg)] } id' = waiting s id' := rfl
  rw [waiting_dispatchRequest hasked hreq hcurr, hsame]
  have hslot : id' = id ↔ slot = slot' := by
    constructor
    · rintro rfl
      exact slot_unique hid hid'
    · rintro rfl
      exact Option.some.inj (hid'.symm.trans hid)
  change (s.asked ++ [(slot, msg)]).count (slot', msg') = (answered s.handed slot').count msg' +
    s.dropped.count (some slot', msg') + _
  rw [count_concat, hbefore]
  by_cases heq : slot = slot'
  · simp [hslot, heq, List.count_cons]
    omega
  · simp [hslot, heq]

theorem step_accounted {action : Action n} (h : Owned simCount s owner)
    (ha : Accounted simCount s) (hs : step simCount s action = some s') :
    Accounted simCount s' := by
  cases action with
  | initSapSocket socketName malloc =>
    cases hs
    exact ha
  | addPayloadAndDispatchRequest slot req msg payload malloc =>
    simp only [step] at hs
    split at hs
    · cases hs
    · rename_i rilSocketId hid
      split at hs
      · cases hs
      · rename_i hreq
        split at hs
        · rename_i socket hfound
          rw [← id_of_getSocketById hfound] at hid
          split at hs
          · cases hs
            exact accounted_dropped ha slot msg
          · split at hs
            · cases hs
            · rename_i currRequest hcurr
              cases hs
              exact accounted_dispatchRequest h ha hid (by simpa using hreq) (by simpa using hcurr)
        · cases hs
          exact accounted_failed ha slot msg
  | sOnRequestComplete thread t e response calloc =>
    simp only [step] at hs
    split at hs
    · cases hs
    · split at hs
      · rename_i hany
        obtain ⟨socket, -, ht⟩ := List.any_eq_true.mp hany
        rw [List.contains_iff_mem] at ht
        obtain ⟨found, hfound, hid⟩ := h.socket_of_uncompleted ht
        rw [hfound] at hs
        cases hs
        exact accounted_respond ha (hid ▸ ht) e response calloc
      · cases hs
  | proceed thread =>
    simp only [step] at hs
    split at hs
    · cases hs
    · rename_i id c hthread
      obtain ⟨q, hq, rfl⟩ := Option.map_eq_some_iff.mp hs
      intro slot id' hid msg
      rw [waiting_proceed h hq]
      exact ha slot id' hid msg
  | sOnUnsolicitedResponse unsolResponse data socketId token calloc =>
    simp only [step] at hs
    split at hs
    · cases hs
      exact ha
    · split at hs
      · cases hs
        intro slot id' hid msg
        rw [answered_concat]
        simp only [Message.answers, Option.toList_none, ite_self, List.append_nil]
        exact ha slot id' hid msg
      · cases hs
        exact ha

/-! Runs. -/

section Runs

variable {pNext : Fin n → Option (Fin n)} {requests : Fin n → SapSocketRequest}
  {socketId : Fin n → Nat} {headers : Nat → MsgHeader} {as : List (Action n)}

theorem run_owned
    (hr : Machine.run (step simCount) (initial pNext requests socketId headers) as = some s)
    (hok : Machine.Along (step simCount) Unambiguous (initial pNext requests socketId headers) as) :
    (∃ owner, Owned simCount s owner) ∧ Accounted simCount s := by
  refine Machine.run_invariant_along
    (P := fun s => (∃ owner, Owned simCount s owner) ∧ Accounted simCount s)
    (fun s action s' hp hone hs => ?_) hr hok ?_
  · obtain ⟨⟨owner, h⟩, ha⟩ := hp
    exact ⟨step_owned h hone hs, step_accounted h ha hs⟩
  · exact ⟨⟨_, owned_initial pNext requests socketId headers⟩,
      fun slot id hid msg => by simp [initial, answered, waiting]⟩

/-- The clients of two slots use the same token, and the vendor completes the older request. -/
def sameToken : List (Action 2) :=
  let older : Fin 2 := ⟨0, Nat.zero_lt_two⟩
  let newer : Fin 2 := ⟨1, Nat.one_lt_two⟩
  [.initSapSocket RIL1_SERVICE_NAME true, .initSapSocket RIL2_SERVICE_NAME true,
    .addPayloadAndDispatchRequest 0 0 ⟨5, 3⟩ true (some older),
    .addPayloadAndDispatchRequest 1 1 ⟨5, 3⟩ true (some newer),
    .sOnRequestComplete 0 older 0 [] true, .proceed 0]

theorem sameToken_unambiguous : Machine.Along (step 2) Unambiguous
    (initial (fun _ => none) (fun _ => ⟨0, 0⟩) (fun _ => 0) fun _ => ⟨0, 0⟩) sameToken := by
  open Machine in
  refine along_cons rfl trivial <| along_cons rfl trivial <| along_cons rfl trivial <|
    along_cons rfl trivial <| along_cons rfl trivial <|
    along_cons rfl (fun id t hdr h => ?_) trivial
  cases h
  exact fun a ha => by cases ha

/-- The queues of the slots are exact and share no memory, a completion finds the socket that
dispatched its request, and it leaves the queues of the other slots alone. -/
theorem slots_apart
    (hr : Machine.run (step simCount) (initial pNext requests socketId headers) as = some s)
    (hok : Machine.Along (step simCount) Unambiguous (initial pNext requests socketId headers) as) :
    (∀ id, SapQueue.Exact (view s id)) ∧
    (∀ i j, i ≠ j → ∀ a ∈ s.outstanding i, ∀ b ∈ s.outstanding j,
      a ≠ b ∧ (s.requests a).curr ≠ (s.requests b).curr) ∧
    (∀ id, ∀ t ∈ s.uncompleted id, ∃ socket,
      getSocketById s.sockets (s.socketId t) = some socket ∧ socket.id = id) ∧
    ∀ thread id t hdr s', s.threads thread = some (id, .responded t hdr) →
      step simCount s (.proceed thread) = some s' →
      (SapQueue.RemovesOnly (view s id) (view s' id) t ↔
        SapQueue.Distinguishable (view s id) t) ∧
      ∀ j, j ≠ id → SapQueue.Exact (view s' j) ∧ s'.outstanding j = s.outstanding j := by
  obtain ⟨⟨owner, h⟩, -⟩ := run_owned hr hok
  refine ⟨fun id => (h.queue id).exact, fun i j hij a ha b hb => ⟨?_, ?_⟩,
    fun id t ht => h.socket_of_uncompleted ht, fun thread id t hdr s' hthread hs => ?_⟩
  · rintro rfl
    exact h.not_mem ha hij hb
  · intro heq
    refine hij ((h.header i a ha).symm.trans ?_)
    rw [heq]
    exact h.header j b hb
  · simp only [step, hthread] at hs
    obtain ⟨q, hq, rfl⟩ := Option.map_eq_some_iff.mp hs
    have hview := view_threads.mpr hthread
    refine ⟨?_, fun j hj => ⟨?_, Function.update_of_ne hj _ _⟩⟩
    · rw [← SapQueue.removesOnly_iff (h.queue id) hview hq]
      have hfront : (view (restoreThread s id thread q) id).front = q.front :=
        Function.update_self _ _ _
      simp only [SapQueue.RemovesOnly, hfront]
      rfl
    · refine (h.queue_of_ne (frame_proceed (h.queue id) hq) hj fun i c => ?_).exact
      by_cases hi : i = thread
      · subst hi
        have hid : id ≠ j := fun heq => hj heq.symm
        simp [hthread, hid]
      · simp [hi]

theorem slots_apart_sameToken : ∃ s : State 2,
    (∀ id, SapQueue.Exact (view s id)) ∧ s.outstanding RIL_SOCKET_1 = [] ∧
      s.outstanding RIL_SOCKET_2 = [1] := by
  have hrun : Machine.run (step 2) (initial (fun _ => none) (fun _ => ⟨0, 0⟩) (fun _ => 0)
      fun _ => ⟨0, 0⟩) sameToken = some _ := rfl
  exact ⟨_, (slots_apart hrun sameToken_unambiguous).1, rfl, rfl⟩

end Runs

end Apq8084.Ril.SapSockets
