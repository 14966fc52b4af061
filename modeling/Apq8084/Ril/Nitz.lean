import Apq8084.Lib.Machine
import Mathlib.Data.List.Nodup
import Mathlib.Data.List.Perm.Subperm

/-! The last NITZ string: its delivery when it arrives, the copy kept while no client is
registered, and its delivery to the next client (`ril/libril/ril.cpp`,
`ril/libril/ril_service.cpp`), for one slot. A step is a section under the slot's lock, or an
access to the copy outside of it. -/
namespace Apq8084.Ril.Nitz

/-- A NITZ event: its payload and the value of `elapsedRealtime`. -/
structure Arrival where
  data : List UInt8
  time : Int

/-- The payload of the event with that number. -/
structure Copy where
  arrival : Nat
  data : List UInt8

/-- What the client got with a call of `nitzTimeReceived` that succeeded. -/
structure Received where
  arrival : Nat
  nitzTime : List UInt8
  receivedTime : Int
  /-- The event that recorded the time. -/
  recorded : Nat

/-- A failed client call between the two sections of `checkReturnStatus`. -/
structure Check where
  counter : BitVec 32
  /-- Whether `resendLastNITZTimeData` made the call. -/
  resend : Bool

structure State where
  /-- `mRadioIndication != NULL`. -/
  registered : Bool
  /-- `mCounterRadio`. -/
  counter : BitVec 32
  nitzTimeReceived : Int
  lastNITZTimeData : Option Copy
  /-- For the threads in `RIL_onUnsolicitedResponse` that will keep a copy. -/
  saving : List Copy
  /-- Threads in `onNewCommandConnect`, before its test of the copy. -/
  connecting : Nat
  /-- Threads before the test in `resendLastNITZTimeData`. -/
  entering : Nat
  /-- Threads behind that test. -/
  resending : Nat
  checks : List Check
  /-- Threads that will free the copy after a failed call. -/
  freeing : Nat
  arrivals : List Arrival
  received : List Received

inductive Action where
  /-- `RIL_onUnsolicitedResponse` for a NITZ string, up to the release of the lock. -/
  | event (data : List UInt8) (now : Int) (isOk : Bool)
  /-- The end of such a call; `allocated` is whether `calloc` succeeds. -/
  | save (i : Nat) (allocated : Bool)
  /-- Such a call ends without a copy, as the timer of the wake lock cannot be set. -/
  | abandon (i : Nat)
  | setResponseFunctions (indication : Bool)
  | onNewCommandConnect
  | resendLastNITZTimeData
  | resend (isOk : Bool)
  /-- Some other call to the client fails. -/
  | otherFails
  /-- The second section of `checkReturnStatus`. -/
  | clear (i : Nat)
  | free

def initial : State :=
  { registered := false, counter := 0, nitzTimeReceived := 0, lastNITZTimeData := none
    saving := [], connecting := 0, entering := 0, resending := 0, checks := [], freeing := 0
    arrivals := [], received := [] }

/-- The text in front of the `n`-th comma. -/
def beforeComma (n : Nat) : List UInt8 → List UInt8
  | [] => []
  | c :: s =>
    if c = 44 then
      if n ≤ 1 then [] else c :: beforeComma (n - 1) s
    else c :: beforeComma n s

/-- The third comma ends the string; the search leaves out the first character. -/
def nitzTime (response : List UInt8) : List UInt8 :=
  match response.takeWhile (· ≠ 0) with
  | [] => []
  | c :: s => c :: beforeComma 3 s

/-- How `nitzTimeReceivedInd` ends its first section. -/
inductive IndEnd where
  | returns (ret : Int)
  /-- The call failed; after `checkReturnStatus` the result is 0. -/
  | failed
deriving DecidableEq

namespace State

/-- The client takes the string with the time that is recorded now. -/
def deliver (s : State) (copy : Copy) : State :=
  { s with
    received := s.received ++
      [⟨copy.arrival, nitzTime copy.data, s.nitzTimeReceived, s.arrivals.length - 1⟩] }

def fail (s : State) (resend : Bool) : State :=
  { s with checks := s.checks ++ [⟨s.counter, resend⟩] }

def nitzTimeReceivedInd (s : State) (response : Option Copy) (resend isOk : Bool) :
    IndEnd × State :=
  if s.registered then
    match response with
    | none => (.returns 0, s)
    | some copy =>
      if copy.data = [] then (.returns 0, s)
      else if isOk then (.returns 0, s.deliver copy)
      else (.failed, s.fail resend)
  else (.returns (-1), s)

/-- The event becomes the last one, and its time the recorded one. -/
def arrive (s : State) (data : List UInt8) (now : Int) : State :=
  { s with nitzTimeReceived := now, arrivals := s.arrivals ++ [⟨data, now⟩] }

def event (s : State) (data : List UInt8) (now : Int) (isOk : Bool) : State :=
  let copy : Copy := ⟨s.arrivals.length, data⟩
  match (s.arrive data now).nitzTimeReceivedInd (some copy) false isOk with
  | (.returns ret, s) => if ret ≠ 0 then { s with saving := s.saving ++ [copy] } else s
  | (.failed, s) => s

def resendSection (s : State) (isOk : Bool) : State :=
  match s.nitzTimeReceivedInd s.lastNITZTimeData true isOk with
  | (.returns ret, s) => if ret = 0 then { s with lastNITZTimeData := none } else s
  | (.failed, s) => s

/-- The comparison and the resetting in `checkReturnStatus`. -/
def clear (s : State) (check : Check) : State :=
  let s :=
    if check.counter = s.counter then
      { s with registered := false, counter := s.counter + 1 }
    else s
  if check.resend then { s with freeing := s.freeing + 1 } else s

end State

open State

def step (s : State) : Action → Option State
  | .event data now isOk => some (s.event data now isOk)
  | .save i allocated =>
    s.saving[i]?.map fun copy =>
      { s with
        saving := s.saving.eraseIdx i
        lastNITZTimeData := if allocated then some copy else none }
  | .abandon i => s.saving[i]?.map fun _ => { s with saving := s.saving.eraseIdx i }
  | .setResponseFunctions indication =>
    some { s with
      registered := indication, counter := s.counter + 1, connecting := s.connecting + 1 }
  | .onNewCommandConnect =>
    if s.connecting = 0 then none
    else some { s with
      connecting := s.connecting - 1
      entering := if s.lastNITZTimeData.isSome then s.entering + 1 else s.entering }
  | .resendLastNITZTimeData =>
    if s.entering = 0 then none
    else some { s with
      entering := s.entering - 1
      resending := if s.lastNITZTimeData.isSome then s.resending + 1 else s.resending }
  | .resend isOk =>
    if s.resending = 0 then none
    else some ({ s with resending := s.resending - 1 }.resendSection isOk)
  | .otherFails => if s.registered then some (s.fail false) else none
  | .clear i =>
    s.checks[i]?.map fun check => { s with checks := s.checks.eraseIdx i }.clear check
  | .free =>
    if s.freeing = 0 then none
    else some { s with freeing := s.freeing - 1, lastNITZTimeData := none }

/-- The strings reach the client in the order of their events and once at most, and each with its
text and the time of its own event. -/
def Fresh (s : State) : Prop :=
  s.received.Pairwise (fun r r' => r.arrival < r'.arrival) ∧
    ∀ r ∈ s.received, r.recorded = r.arrival ∧
      ∃ a, s.arrivals[r.arrival]? = some a ∧
        r.nitzTime = nitzTime a.data ∧ r.receivedTime = a.time

/-- A resend that reaches the client finds the string of the last event. -/
def LastSaved (s : State) : Action → Prop
  | .resend isOk =>
    s.registered = true → isOk = true → ∀ copy, s.lastNITZTimeData = some copy → copy.data ≠ [] →
      copy.arrival + 1 = s.arrivals.length
  | _ => True

/-- The copies that are kept or will be. -/
def held (s : State) : List Copy := s.saving ++ s.lastNITZTimeData.toList

/-- A copy of what came with its event. -/
def Genuine (s : State) (copy : Copy) : Prop :=
  ∃ a, s.arrivals[copy.arrival]? = some a ∧ a.data = copy.data

structure Inv (s : State) : Prop where
  fresh : Fresh s
  time : ∀ a, s.arrivals.getLast? = some a → a.time = s.nitzTimeReceived
  nodup : ((held s).map Copy.arrival).Nodup
  genuine : ∀ copy ∈ held s, Genuine s copy
  unread : ∀ copy ∈ held s, ∀ r ∈ s.received, r.arrival ≠ copy.arrival

variable {s s' : State} {copy : Copy} {data : List UInt8} {now : Int} {isOk : Bool}
  {as : List Action}

theorem inv_initial : Inv initial := by
  constructor <;> simp [initial, Fresh, held]

/-- Dropping and moving copies keeps the invariant. -/
theorem Inv.of_held (h : Inv s) (hr : s'.received = s.received) (ha : s'.arrivals = s.arrivals)
    (ht : s'.nitzTimeReceived = s.nitzTimeReceived) (hh : (held s').Subperm (held s)) :
    Inv s' := by
  constructor
  · unfold Fresh
    rw [hr, ha]
    exact h.fresh
  · rw [ha, ht]
    exact h.time
  · obtain ⟨l, hperm, hsub⟩ := hh
    exact ((hperm.map Copy.arrival).nodup_iff).mp (h.nodup.sublist (hsub.map Copy.arrival))
  · unfold Genuine
    rw [ha]
    exact fun copy hc => h.genuine copy (hh.subset hc)
  · rw [hr]
    exact fun copy hc => h.unread copy (hh.subset hc)

/-- What was received came with an event of the past. -/
theorem Inv.received_lt (h : Inv s) : ∀ r ∈ s.received, r.arrival < s.arrivals.length := by
  intro r hr
  obtain ⟨-, a, ha, -⟩ := h.fresh.2 r hr
  exact (List.getElem?_eq_some_iff.mp ha).1

theorem Inv.held_lt (h : Inv s) : ∀ copy ∈ held s, copy.arrival < s.arrivals.length := by
  intro copy hc
  obtain ⟨a, ha, -⟩ := h.genuine copy hc
  exact (List.getElem?_eq_some_iff.mp ha).1

theorem getElem?_arrive {n : Nat} {a : Arrival} (h : s.arrivals[n]? = some a) :
    (s.arrive data now).arrivals[n]? = some a := by
  have hn := (List.getElem?_eq_some_iff.mp h).1
  exact (List.getElem?_append_left hn).trans h

theorem Inv.arrive (h : Inv s) : Inv (s.arrive data now) := by
  constructor
  · refine ⟨h.fresh.1, fun r hr => ?_⟩
    obtain ⟨hrec, a, ha, htext, htime⟩ := h.fresh.2 r hr
    exact ⟨hrec, a, getElem?_arrive ha, htext, htime⟩
  · intro a ha
    have hlast : a = ⟨data, now⟩ := by simpa [State.arrive] using ha.symm
    rw [hlast]
    rfl
  · exact h.nodup
  · intro copy hc
    obtain ⟨a, ha, hdata⟩ := h.genuine copy hc
    exact ⟨a, getElem?_arrive ha, hdata⟩
  · exact h.unread

/-- The copy of the event that has just arrived. -/
theorem genuine_arrive : Genuine (s.arrive data now) ⟨s.arrivals.length, data⟩ :=
  ⟨⟨data, now⟩, List.getElem?_concat_length, rfl⟩

/-- A string that came last, and of which no copy remains, may be delivered. -/
theorem Inv.deliver (h : Inv s) (hg : Genuine s copy) (hlast : copy.arrival + 1 = s.arrivals.length)
    (hread : ∀ r ∈ s.received, r.arrival ≠ copy.arrival)
    (hheld : ∀ copy' ∈ held s, copy'.arrival ≠ copy.arrival) : Inv (s.deliver copy) := by
  obtain ⟨a, ha, hdata⟩ := hg
  have hmem : ∀ r ∈ (s.deliver copy).received, r ∈ s.received ∨
      r = ⟨copy.arrival, nitzTime copy.data, s.nitzTimeReceived, s.arrivals.length - 1⟩ := by
    intro r hr
    rcases List.mem_append.mp hr with hr | hr
    · exact Or.inl hr
    · exact Or.inr (List.mem_singleton.mp hr)
  constructor
  · constructor
    · refine List.pairwise_append.mpr ⟨h.fresh.1, List.pairwise_singleton _ _, ?_⟩
      intro r hr r' hr'
      obtain rfl := List.mem_singleton.mp hr'
      have hlt := h.received_lt r hr
      have hne := hread r hr
      show r.arrival < copy.arrival
      omega
    · intro r hr
      rcases hmem r hr with hr | rfl
      · exact h.fresh.2 r hr
      · refine ⟨?_, a, ha, ?_, ?_⟩
        · show s.arrivals.length - 1 = copy.arrival
          omega
        · show nitzTime copy.data = nitzTime a.data
          rw [hdata]
        · refine (h.time a ?_).symm
          rw [List.getLast?_eq_getElem?, ← hlast]
          exact ha
  · exact h.time
  · exact h.nodup
  · exact h.genuine
  · intro copy' hc r hr
    rcases hmem r hr with hr | rfl
    · exact h.unread copy' hc r hr
    · exact (hheld copy' hc).symm

/-- The ways through `nitzTimeReceivedInd`. -/
theorem nitzTimeReceivedInd_cases (s : State) (response : Option Copy) (resend isOk : Bool) :
    (s.registered = false ∧ s.nitzTimeReceivedInd response resend isOk = (.returns (-1), s)) ∨
    s.nitzTimeReceivedInd response resend isOk = (.returns 0, s) ∨
    (∃ copy, s.registered = true ∧ isOk = true ∧ response = some copy ∧ copy.data ≠ [] ∧
      s.nitzTimeReceivedInd response resend isOk = (.returns 0, s.deliver copy)) ∨
    s.nitzTimeReceivedInd response resend isOk = (.failed, s.fail resend) := by
  unfold nitzTimeReceivedInd
  cases hreg : s.registered with
  | false => exact Or.inl ⟨rfl, rfl⟩
  | true =>
    right
    cases response with
    | none => exact Or.inl rfl
    | some copy =>
      by_cases hempty : copy.data = []
      · left
        simp [hempty]
      · cases isOk with
        | true =>
          right
          left
          exact ⟨copy, rfl, rfl, rfl, hempty, by simp [hempty]⟩
        | false =>
          right
          right
          simp [hempty]

theorem event_cases (s : State) (data : List UInt8) (now : Int) (isOk : Bool) :
    s.event data now isOk = { s.arrive data now with
      saving := s.saving ++ [⟨s.arrivals.length, data⟩] } ∨
    s.event data now isOk = s.arrive data now ∨
    s.event data now isOk = (s.arrive data now).deliver ⟨s.arrivals.length, data⟩ ∨
    s.event data now isOk = (s.arrive data now).fail false := by
  rcases nitzTimeReceivedInd_cases (s.arrive data now) (some ⟨s.arrivals.length, data⟩) false isOk
    with ⟨-, h⟩ | h | ⟨copy, -, -, hcopy, -, h⟩ | h
  · left
    simp only [State.event, h]
    rfl
  · right
    left
    simp only [State.event, h]
    rfl
  · right
    right
    left
    cases hcopy
    simp only [State.event, h]
    rfl
  · right
    right
    right
    simp only [State.event, h]

/-- A resend leaves the copy alone, drops it, or delivers it. -/
theorem resendSection_cases (s : State) (isOk : Bool) :
    s.resendSection isOk = s ∨
    s.resendSection isOk = { s with lastNITZTimeData := none } ∨
    (∃ copy, s.registered = true ∧ isOk = true ∧ s.lastNITZTimeData = some copy ∧
      copy.data ≠ [] ∧
      s.resendSection isOk = { s.deliver copy with lastNITZTimeData := none }) ∨
    s.resendSection isOk = s.fail true := by
  rcases nitzTimeReceivedInd_cases s s.lastNITZTimeData true isOk
    with ⟨-, h⟩ | h | ⟨copy, hreg, hok, hcopy, hdata, h⟩ | h
  · left
    simp only [State.resendSection, h]
    rfl
  · right
    left
    simp only [State.resendSection, h]
    rfl
  · right
    right
    left
    refine ⟨copy, hreg, hok, hcopy, hdata, ?_⟩
    simp only [State.resendSection, h]
    rfl
  · right
    right
    right
    simp only [State.resendSection, h]

theorem Inv.event (h : Inv s) : Inv (s.event data now isOk) := by
  have harrive : Inv (s.arrive data now) := h.arrive
  have hread : ∀ r ∈ s.received, r.arrival ≠ s.arrivals.length :=
    fun r hr => Nat.ne_of_lt (h.received_lt r hr)
  have hheld : ∀ copy ∈ held s, copy.arrival ≠ s.arrivals.length :=
    fun copy hc => Nat.ne_of_lt (h.held_lt copy hc)
  rcases event_cases s data now isOk with he | he | he | he <;> rw [he]
  · -- no client: the thread is going to keep a copy
    have hperm : (s.saving ++ [(⟨s.arrivals.length, data⟩ : Copy)] ++
        s.lastNITZTimeData.toList).Perm (⟨s.arrivals.length, data⟩ :: held s) := by
      rw [List.append_assoc]
      exact List.perm_middle
    constructor
    · exact harrive.fresh
    · exact harrive.time
    · have hnew : s.arrivals.length ∉ (held s).map Copy.arrival := by
        intro hmem
        obtain ⟨copy, hc, heq⟩ := List.mem_map.mp hmem
        exact hheld copy hc heq
      exact ((hperm.map Copy.arrival).nodup_iff).mpr (List.nodup_cons.mpr ⟨hnew, h.nodup⟩)
    · intro copy hc
      rcases List.mem_cons.mp (hperm.subset hc) with rfl | hc
      · exact genuine_arrive
      · exact harrive.genuine copy hc
    · intro copy hc r hr
      rcases List.mem_cons.mp (hperm.subset hc) with rfl | hc
      · exact hread r hr
      · exact harrive.unread copy hc r hr
  · exact harrive
  · have hlast : s.arrivals.length + 1 = (s.arrive data now).arrivals.length := by
      rw [State.arrive, List.length_append, List.length_singleton]
    exact harrive.deliver genuine_arrive hlast hread hheld
  · exact harrive.of_held rfl rfl rfl (List.Subperm.refl _)

/-- Leaving out the copy keeps the invariant. -/
theorem Inv.drop (h : Inv s) : Inv { s with lastNITZTimeData := none } := by
  refine h.of_held rfl rfl rfl ?_
  have hsub : List.Sublist (s.saving ++ []) (held s) :=
    (List.append_sublist_append_left s.saving).mpr (List.nil_sublist _)
  exact hsub.subperm

theorem Inv.resendSection (h : Inv s)
    (hok : ∀ copy, s.registered = true → isOk = true → s.lastNITZTimeData = some copy →
      copy.data ≠ [] → copy.arrival + 1 = s.arrivals.length) :
    Inv (s.resendSection isOk) := by
  rcases resendSection_cases s isOk with he | he | ⟨copy, hreg, ho, hcopy, hdata, he⟩ | he <;>
    rw [he]
  · exact h
  · exact h.drop
  · have hmem : copy ∈ held s := by
      rw [held, hcopy]
      exact List.mem_append_right _ List.mem_cons_self
    have hnodup := h.nodup
    rw [held, hcopy, List.map_append, List.nodup_append] at hnodup
    have hdrop : Inv { s with lastNITZTimeData := none } := h.drop
    apply hdrop.deliver (h.genuine copy hmem) (hok copy hreg ho hcopy hdata) (h.unread copy hmem)
    intro copy' hc'
    rw [held, Option.toList_none, List.append_nil] at hc'
    exact hnodup.2.2 _ (List.mem_map_of_mem hc') _ List.mem_cons_self
  · exact h.of_held rfl rfl rfl (List.Subperm.refl _)

theorem clear_cases (s : State) (check : Check) :
    (s.clear check).received = s.received ∧ (s.clear check).arrivals = s.arrivals ∧
      (s.clear check).nitzTimeReceived = s.nitzTimeReceived ∧
      held (s.clear check) = held s := by
  unfold State.clear
  split_ifs <;> exact ⟨rfl, rfl, rfl, rfl⟩

/-- The copy of a thread that has stored it takes the place of the former one. -/
theorem held_save {i : Nat} (hi : s.saving[i]? = some copy) (allocated : Bool) :
    List.Subperm (s.saving.eraseIdx i ++ (if allocated then some copy else none).toList)
      (held s) := by
  obtain ⟨hlt, hget⟩ := List.getElem?_eq_some_iff.mp hi
  have hperm : (s.saving.eraseIdx i ++ [copy]).Perm s.saving := by
    rw [← hget]
    exact (List.perm_append_singleton _ _).trans (List.getElem_cons_eraseIdx_perm hlt)
  have hsaving : s.saving.Subperm (held s) := (List.sublist_append_left _ _).subperm
  cases allocated with
  | true => exact hperm.subperm.trans hsaving
  | false =>
    have herase : (s.saving.eraseIdx i ++ []).Subperm s.saving := by
      rw [List.append_nil]
      exact (List.eraseIdx_sublist _ i).subperm
    exact herase.trans hsaving

theorem step_inv (s : State) (a : Action) (s' : State) (h : Inv s) (hok : LastSaved s a)
    (hs : step s a = some s') : Inv s' := by
  cases a with
  | event data now isOk =>
    cases hs
    exact h.event
  | save i allocated =>
    obtain ⟨copy, hi, rfl⟩ := Option.map_eq_some_iff.mp hs
    exact h.of_held rfl rfl rfl (held_save hi allocated)
  | abandon i =>
    obtain ⟨copy, -, rfl⟩ := Option.map_eq_some_iff.mp hs
    refine h.of_held rfl rfl rfl (List.Sublist.subperm ?_)
    exact (List.append_sublist_append_right _).mpr (List.eraseIdx_sublist _ i)
  | setResponseFunctions indication =>
    cases hs
    exact h.of_held rfl rfl rfl (List.Subperm.refl _)
  | onNewCommandConnect =>
    simp only [step] at hs
    split at hs
    · cases hs
    · cases hs
      exact h.of_held rfl rfl rfl (List.Subperm.refl _)
  | resendLastNITZTimeData =>
    simp only [step] at hs
    split at hs
    · cases hs
    · cases hs
      exact h.of_held rfl rfl rfl (List.Subperm.refl _)
  | resend isOk =>
    simp only [step] at hs
    split at hs
    · cases hs
    · cases hs
      refine Inv.resendSection ?_ fun copy hreg ho => hok hreg ho copy
      exact h.of_held rfl rfl rfl (List.Subperm.refl _)
  | otherFails =>
    simp only [step] at hs
    split at hs
    · cases hs
      exact h.of_held rfl rfl rfl (List.Subperm.refl _)
    · cases hs
  | clear i =>
    obtain ⟨check, -, rfl⟩ := Option.map_eq_some_iff.mp hs
    obtain ⟨hr, ha, ht, hh⟩ := clear_cases { s with checks := s.checks.eraseIdx i } check
    refine h.of_held hr ha ht ?_
    rw [hh]
    exact List.Subperm.refl _
  | free =>
    simp only [step] at hs
    split at hs
    · cases hs
    · cases hs
      exact h.drop.of_held rfl rfl rfl (List.Subperm.refl _)

/-- A resend of an older string combines it with the time of a later event. -/
theorem stale_step (s : State) (a : Action) (s' : State) (h : Inv s) (hno : ¬LastSaved s a)
    (hs : step s a = some s') : ¬Fresh s' := by
  cases a with
  | resend isOk =>
    simp only [LastSaved, Classical.not_imp, not_forall] at hno
    obtain ⟨hreg, hok, copy, hcopy, hdata, hlast⟩ := hno
    simp only [step] at hs
    split at hs
    · cases hs
    · cases hs
      rintro ⟨-, hrecorded⟩
      have hsection : ({ s with resending := s.resending - 1 }.resendSection isOk).received =
          s.received ++
            [⟨copy.arrival, nitzTime copy.data, s.nitzTimeReceived, s.arrivals.length - 1⟩] := by
        simp [State.resendSection, nitzTimeReceivedInd, hreg, hok, hcopy, hdata, State.deliver]
      rw [hsection] at hrecorded
      have heq : s.arrivals.length - 1 = copy.arrival :=
        (hrecorded _ (List.mem_append_right _ List.mem_cons_self)).1
      have hlt : copy.arrival < s.arrivals.length := by
        apply h.held_lt
        rw [held, hcopy]
        exact List.mem_append_right _ List.mem_cons_self
      omega
  | _ => exact absurd trivial hno

/-- In every state of a run the client has received fresh strings with their own times, exactly if
every resend that reaches it finds the string of the last event. -/
theorem nitz_fresh_iff (hr : Machine.run step initial as = some s) :
    (∀ bs t, bs <+: as → Machine.run step initial bs = some t → Fresh t) ↔
      Machine.Along step LastSaved initial as :=
  (Machine.along_iff_forall_prefix step_inv (fun _ h => h.fresh) stale_step hr inv_initial).symm

def ending (as : List Action) : State := (Machine.run step initial as).getD initial

/-- A string arrives before the client, which gets it when it registers. -/
def missedString : List Action :=
  [.event [49] 5 true, .save 0 true, .setResponseFunctions true, .onNewCommandConnect,
    .resendLastNITZTimeData, .resend true]

theorem nitz_fresh_missedString : Fresh (ending missedString) := by
  have hrun : Machine.run step initial missedString = some (ending missedString) := rfl
  refine (nitz_fresh_iff hrun).mpr ?_ missedString (ending missedString) List.prefix_rfl hrun
  refine Machine.along_cons rfl trivial (Machine.along_cons rfl trivial (Machine.along_cons rfl
    trivial (Machine.along_cons rfl trivial (Machine.along_cons rfl trivial (Machine.along_cons rfl
      (fun _ _ copy hcopy _ => ?_) trivial)))))
  cases hcopy
  rfl

/-- A second string arrives between the registration and the resend of the first. -/
def overtakenString : List Action :=
  [.event [49] 5 true, .save 0 true, .setResponseFunctions true, .event [50] 8 true,
    .onNewCommandConnect, .resendLastNITZTimeData, .resend true]

/-- The client gets the second string, then the first one with the time of the second. -/
theorem overtakenString_stale :
    Machine.run step initial overtakenString = some (ending overtakenString) ∧
      (ending overtakenString).received = [⟨1, [50], 8, 1⟩, ⟨0, [49], 8, 1⟩] ∧
      (ending overtakenString).arrivals = [⟨[49], 5⟩, ⟨[50], 8⟩] ∧
      ¬Fresh (ending overtakenString) := by
  refine ⟨rfl, rfl, rfl, fun h => ?_⟩
  exact absurd (h.2 ⟨0, [49], 8, 1⟩ (List.mem_cons_of_mem _ List.mem_cons_self)).1 (by decide)

end Apq8084.Ril.Nitz
