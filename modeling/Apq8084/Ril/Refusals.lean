import Apq8084.Ril.PendingRuns
import Apq8084.Ril.RadioCalls

/-! When a request method reaches the vendor, and what is left behind by one that does not. -/
namespace Apq8084.Ril.Dispatch

variable {n : Nat} {ρ α β : Type} {e : Setting n} {pRI : Fin n} {w w' : World n ρ}
  {p : Dispatch n ρ α} {f : α → Dispatch n ρ β}

/-- What some code needs to go on: successful allocations and good arguments. -/
structure Needs where
  allocations : Nat
  valid : Prop

namespace Needs

def add (a b : Needs) : Needs := ⟨a.allocations + b.allocations, a.valid ∧ b.valid⟩

def nothing : Needs := ⟨0, True⟩

def holds (c : Prop) : Needs := ⟨0, c⟩

def allocation : Needs := ⟨1, True⟩

def all : List Needs → Needs
  | [] => nothing
  | a :: l => add a (all l)

/-- A copy allocates unless it drops an empty string; the C string must fit in `size()`. -/
def copy (src : HidlString) (allowEmpty : Bool) : Needs :=
  if src.size = 0 ∧ allowEmpty = false then nothing else ⟨1, src.cStr.length ≤ src.size⟩

end Needs

/-- The arguments are good, and the next allocations succeed. -/
def Meets (e : Setting n) (needs : Needs) (w : World n ρ) : Prop :=
  needs.valid ∧ ∀ k < needs.allocations, e.calloc (w.tried + k) = true

def advance (k : Nat) (w : World n ρ) : World n ρ := { w with tried := w.tried + k }

/-- The method has returned early, with at most one answer, and that one an error. -/
def Refused (pRI : Fin n) (w w' : World n ρ) : Prop :=
  ∃ tried errors, w' = { w with tried, errors } ∧
    (errors = w.errors ∨ ∃ err, err ≠ RIL_E_SUCCESS ∧
      errors = w.errors ++ [errorResponse (w.requests.mem pRI) err])

/-- The code goes on exactly when its needs are met. -/
def Passes (e : Setting n) (pRI : Fin n) (p : Dispatch n ρ α) (needs : Needs) : Prop :=
  Stopping.Spec p (Meets e needs) (advance needs.allocations) (Refused pRI)

theorem Refused.advance {k : Nat} (h : Refused pRI (advance k w) w') : Refused pRI w w' := by
  obtain ⟨tried, errors, rfl, herr⟩ := h
  exact ⟨tried, errors, rfl, herr⟩

theorem meets_nothing : Meets e .nothing w := ⟨trivial, fun _ hk => absurd hk (Nat.not_lt_zero _)⟩

theorem meets_add {a b : Needs} :
    Meets e (.add a b) w ↔ Meets e a w ∧ Meets e b (advance a.allocations w) := by
  constructor
  · rintro ⟨⟨ha, hb⟩, hall⟩
    refine ⟨⟨ha, fun k hk => hall k (Nat.lt_add_right _ hk)⟩, hb, fun k hk => ?_⟩
    have := hall (a.allocations + k) (Nat.add_lt_add_left hk _)
    rwa [← Nat.add_assoc] at this
  · rintro ⟨⟨ha, hfst⟩, hb, hsnd⟩
    refine ⟨⟨ha, hb⟩, fun k hk => ?_⟩
    by_cases hka : k < a.allocations
    · exact hfst k hka
    · have := hsnd (k - a.allocations) (by change k < _ + _ at hk; omega)
      have heq : w.tried + a.allocations + (k - a.allocations) = w.tried + k := by omega
      rwa [← heq]

theorem passes_pure (a : α) : Passes e pRI (pure a : Dispatch n ρ α) .nothing :=
  (Stopping.spec_ret a).congr (fun _ => iff_true_intro meets_nothing) fun _ => rfl

theorem Passes.bind {a b : Needs} (hp : Passes e pRI p a) (hf : ∀ x, Passes e pRI (f x) b) :
    Passes e pRI (p >>= f) (.add a b) := by
  refine (Stopping.Spec.andThen hp hf fun _ _ => Refused.advance).congr ?_ ?_
  · exact fun _ => meets_add
  · intro w
    simp only [Dispatch.advance, Needs.add, Nat.add_assoc]

theorem refused_sendErrorResponse {err : Int} (herr : err ≠ RIL_E_SUCCESS) :
    Refused pRI w (sendErrorResponse pRI err w) :=
  ⟨w.tried, _, rfl, Or.inr ⟨err, herr, rfl⟩⟩

theorem passes_refuse {err : Int} (herr : err ≠ RIL_E_SUCCESS) :
    Passes e pRI (refuse pRI err : Dispatch n ρ α) (.holds False) := by
  refine (Stopping.spec_stop fun _ => refused_sendErrorResponse herr).congr ?_ fun _ => rfl
  exact fun _ => iff_false_intro And.left

theorem holds_true {c : Prop} (hc : c) : Needs.holds c = .nothing := by
  simp [Needs.holds, Needs.nothing, hc]

theorem holds_false {c : Prop} (hc : ¬c) : Needs.holds c = .holds False := by
  simp [Needs.holds, hc]

theorem passes_require (c : Prop) [Decidable c] :
    Passes e pRI (require c pRI : Dispatch n ρ Unit) (.holds c) := by
  unfold require
  by_cases hc : c
  · rw [if_pos hc, holds_true hc]
    exact passes_pure ()
  · rw [if_neg hc, holds_false hc]
    exact passes_refuse (by decide)

theorem passes_calloc : Passes e pRI (calloc e pRI : Dispatch n ρ Unit) .allocation := by
  have hmeets : ∀ w : World n ρ, Meets e .allocation w ↔ e.calloc w.tried = true := by
    intro w
    simp [Meets, Needs.allocation]
  constructor
  · intro w
    rw [hmeets]
    unfold calloc
    split <;> simp [*]
  · intro w
    unfold calloc
    split
    · exact fun _ => rfl
    · simp
  · intro w
    unfold calloc
    split
    · simp
    · intro _
      exact Refused.advance (k := 1) (refused_sendErrorResponse (by decide))

theorem passes_copy (src : HidlString) (allowEmpty : Bool) :
    Passes e pRI (copyHidlStringToRil e src pRI allowEmpty : Dispatch n ρ _)
      (.copy src allowEmpty) := by
  unfold copyHidlStringToRil Needs.copy
  split
  · exact passes_pure none
  · have hrest : Passes e pRI
        (if src.size + 1 ≤ src.cStr.length then Stopping.stop id else pure (some src.cStr) :
          Dispatch n ρ (Option CString)) (.holds (src.cStr.length ≤ src.size)) := by
      split
      · rename_i hlong
        refine (Stopping.spec_stop fun w => ⟨w.tried, w.errors, rfl, Or.inl rfl⟩).congr ?_
          fun _ => rfl
        exact fun _ => iff_false_intro fun h => Nat.not_le_of_lt hlong h.1
      · rename_i hfits
        rw [holds_true (Nat.lt_succ_iff.mp (Nat.lt_of_not_le hfits))]
        exact passes_pure _
    have := passes_calloc.bind fun _ => hrest
    simpa only [Needs.add, Needs.allocation, Needs.holds, true_and] using this

theorem passes_forEach {ι : Type} {f : ι → Dispatch n ρ β} {needs : ι → Needs}
    (hf : ∀ i, Passes e pRI (f i) (needs i)) (l : List ι) :
    Passes e pRI (Stopping.forEach f l) (.all (l.map needs)) := by
  induction l with
  | nil => exact passes_pure []
  | cons i l ih =>
    have hrest : ∀ b, Passes e pRI
        (Stopping.forEach f l >>= fun bs => pure (b :: bs)) (.all (l.map needs)) := by
      intro b
      have hpure : ∀ bs : List β, Passes e pRI (pure (b :: bs) : Dispatch n ρ _) .nothing :=
        fun bs => passes_pure _
      have := ih.bind hpure
      simpa only [Needs.add, Needs.nothing, Nat.add_zero, and_true] using this
    exact (hf i).bind hrest

theorem passes_mvnoTypeString (type : MvnoType) :
    Passes e pRI (mvnoTypeString type pRI : Dispatch n ρ CString)
      (.holds (convertMvnoTypeToString type).isSome) := by
  unfold mvnoTypeString
  cases convertMvnoTypeToString type with
  | none =>
    rw [holds_false (by simp)]
    exact passes_refuse (by decide)
  | some str =>
    rw [holds_true (c := (some str).isSome = true) rfl]
    exact passes_pure str

/-! Whole methods. -/

/-- Behind `addRequestToList` the code calls the vendor exactly when its needs are met. -/
structure Serves (e : Setting n) (pRI : Fin n) (p : Dispatch n ρ Unit) (needs : Needs) : Prop where
  served : ∀ w, Meets e needs w → ∃ request data, (p w).2 =
    { advance needs.allocations w with
      onRequests := w.onRequests ++ [⟨request, data, pRI, e.mSlotId⟩] }
  refused : ∀ w, ¬Meets e needs w → Refused pRI w (p w).2

theorem serves_callOnRequest (request : RilRequest) (data : Payload) :
    Serves e pRI (callOnRequest e request data pRI : Dispatch n ρ Unit) .nothing where
  served _ _ := ⟨request.number, data, rfl⟩
  refused _ h := absurd meets_nothing h

theorem serves_refuse {err : Int} (herr : err ≠ RIL_E_SUCCESS) :
    Serves e pRI (refuse pRI err : Dispatch n ρ Unit) (.holds False) where
  served _ h := h.1.elim
  refused _ _ := refused_sendErrorResponse herr

/-- Checks and copies in front of the rest of a method. -/
theorem Passes.serves {f : α → Dispatch n ρ Unit} {a b : Needs} (hp : Passes e pRI p a)
    (hf : ∀ x, Serves e pRI (f x) b) : Serves e pRI (p >>= f) (.add a b) := by
  have key : ∀ w, (Meets e a w ∧ ∃ x, (p >>= f) w = f x (advance a.allocations w)) ∨
      (¬Meets e a w ∧ Refused pRI w ((p >>= f) w).2) := by
    intro w
    have hpass := hp.passes w
    have hgo := hp.passed w
    have hexit := hp.exits w
    change (_ ∧ ∃ x, Stopping.andThen p f w = _) ∨ (_ ∧ Refused pRI w (Stopping.andThen p f w).2)
    unfold Stopping.andThen
    cases hpw : p w with
    | mk r t =>
      rw [hpw] at hpass hgo hexit
      cases r with
      | none =>
        refine Or.inr ⟨fun hok => ?_, hexit rfl⟩
        simpa using hpass.mpr hok
      | some x =>
        have ht : t = advance a.allocations w := hgo rfl
        exact Or.inl ⟨hpass.mp rfl, x, by rw [ht]⟩
  constructor
  · intro w hw
    obtain ⟨ha, hb⟩ := meets_add.mp hw
    rcases key w with ⟨-, x, hx⟩ | ⟨hno, -⟩
    · obtain ⟨request, data, hs⟩ := (hf x).served _ hb
      refine ⟨request, data, ?_⟩
      rw [hx, hs]
      simp only [Dispatch.advance, Needs.add, Nat.add_assoc]
    · exact absurd ha hno
  · intro w hw
    rcases key w with ⟨ha, x, hx⟩ | ⟨-, href⟩
    · rw [hx]
      refine Refused.advance ((hf x).refused _ fun hb => ?_)
      exact hw (meets_add.mpr ⟨ha, hb⟩)
    · exact href

namespace Needs

def specifier (ras : RadioAccessSpecifier) : Needs :=
  all [holds (ras.geranBands.length ≤ MAX_BANDS ∧ ras.utranBands.length ≤ MAX_BANDS ∧
      ras.eutranBands.length ≤ MAX_BANDS ∧ ras.channels.length ≤ MAX_CHANNELS),
    holds (RadioAccessSpecifier.bands ras).isSome]

def mvno (type : MvnoType) : Needs := holds (convertMvnoTypeToString type).isSome

def initialAttachApn (version : Int) (info : DataProfileInfo) (isRoaming : Bool) : Needs :=
  if version ≤ 14 then
    all [copy info.apn true,
      copy (if isRoaming then info.roamingProtocol else info.protocol) false,
      copy info.user false, copy info.password false]
  else
    all [copy info.apn true, copy info.protocol false, copy info.roamingProtocol false,
      copy info.user false, copy info.password false, mvno info.mvnoType,
      copy info.mvnoMatchData false]

def profile (isRoaming : Bool) (info : DataProfileInfo) : Needs :=
  all [copy info.apn true, copy (if isRoaming then info.roamingProtocol else info.protocol) true,
    copy info.user true, copy info.password true]

def profile_v15 (info : DataProfileInfo) : Needs :=
  all [copy info.apn true, copy info.protocol false, copy info.roamingProtocol true,
    copy info.user true, copy info.password true, copy info.mvnoMatchData true,
    mvno info.mvnoType]

def dataProfile (version : Int) (profiles : List DataProfileInfo) (isRoaming : Bool) : Needs :=
  all [allocation, allocation,
    if version ≤ 14 then all (profiles.map (profile isRoaming)) else all (profiles.map profile_v15)]

def imsGsmSms (message : ImsSmsMessage) : Needs :=
  match message.gsmMessage with
  | [gsmMessage] => all [allocation, copy gsmMessage.smscPdu false, copy gsmMessage.pdu false]
  | _ => holds False

def imsSms (message : ImsSmsMessage) : Needs :=
  if message.tech = RADIO_TECH_3GPP then imsGsmSms message
  else if message.tech = RADIO_TECH_3GPP2 then holds (message.cdmaMessage.length = 1)
  else holds False

def keepalive (request : KeepaliveRequest) : Needs :=
  all [holds (addressSize request.type = some request.sourceAddress.length ∧
    addressSize request.type = some request.destinationAddress.length)]

end Needs

theorem passes_convertSpecifier (ras : RadioAccessSpecifier) :
    Passes e pRI (convertSpecifier pRI ras : Dispatch n ρ RIL_RadioAccessSpecifier)
      (.specifier ras) := by
  refine (passes_require _).bind fun _ => ?_
  have hadd : ∀ c : Prop, Needs.all [.holds c] = .holds c := by
    intro c
    simp [Needs.all, Needs.add, Needs.holds, Needs.nothing]
  rw [hadd]
  cases RadioAccessSpecifier.bands ras with
  | none =>
    rw [holds_false (by simp)]
    exact passes_refuse (by decide)
  | some bands =>
    rw [holds_true (c := (some bands).isSome = true) rfl]
    exact passes_pure _

theorem passes_convertDataProfile (isRoaming : Bool) (info : DataProfileInfo) :
    Passes e pRI (convertDataProfile e isRoaming pRI info : Dispatch n ρ _)
      (.profile isRoaming info) :=
  (passes_copy _ _).bind fun _ => (passes_copy _ _).bind fun _ => (passes_copy _ _).bind fun _ =>
    (passes_copy _ _).bind fun _ => passes_pure _

theorem passes_convertDataProfile_v15 (info : DataProfileInfo) :
    Passes e pRI (convertDataProfile_v15 e pRI info : Dispatch n ρ _) (.profile_v15 info) :=
  (passes_copy _ _).bind fun _ => (passes_copy _ _).bind fun _ => (passes_copy _ _).bind fun _ =>
    (passes_copy _ _).bind fun _ => (passes_copy _ _).bind fun _ =>
      (passes_copy _ _).bind fun _ => (passes_mvnoTypeString _).bind fun _ => passes_pure _

theorem serves_dispatchImsGsmSms (message : ImsSmsMessage) :
    Serves e pRI (dispatchImsGsmSms e message pRI : Dispatch n ρ Unit) (.imsGsmSms message) := by
  unfold dispatchImsGsmSms Needs.imsGsmSms
  rcases message.gsmMessage with _ | ⟨gsmMessage, _ | ⟨gsmMessage', l⟩⟩
  · exact serves_refuse (by decide)
  · exact passes_calloc.serves fun _ => (passes_copy _ _).serves fun _ =>
      (passes_copy _ _).serves fun _ => serves_callOnRequest _ _
  · exact serves_refuse (by decide)

theorem serves_dispatchImsCdmaSms (message : ImsSmsMessage) :
    Serves e pRI (dispatchImsCdmaSms e message pRI : Dispatch n ρ Unit)
      (.holds (message.cdmaMessage.length = 1)) := by
  unfold dispatchImsCdmaSms
  split
  · rename_i hone
    rw [holds_true (by rw [hone]; rfl)]
    exact serves_callOnRequest _ _
  · rename_i hother
    rw [holds_false]
    · exact serves_refuse (by decide)
    · intro hlen
      obtain ⟨m, hm⟩ := List.length_eq_one_iff.mp hlen
      exact hother m hm

end Dispatch

open Dispatch

/-- What each dispatch function needs to call the vendor. -/
def Dispatched.needs (version : Int) : Dispatched → Needs
  | .string _ str => .all [.copy (.ofCStr str) false]
  | .strings _ allowEmpty strs =>
    .all [.allocation, .all (strs.map fun str => .copy (.ofCStr str) allowEmpty)]
  | .stringVec _ data => .all [.allocation, .all (data.map fun str => .copy str false)]
  | .ints _ _ => .all [.allocation]
  | .callForwardStatus _ callInfo => .all [.copy callInfo.number false]
  | .iccApdu _ message => .all [.copy message.data false]
  | .refused _ _ => .holds False
  | .networkScan request =>
    .all [.holds (request.specifiers.length ≤ MAX_RADIO_ACCESS_NETWORKS),
      .all (request.specifiers.map .specifier)]
  | .initialAttachApn info _ isRoaming => .initialAttachApn version info isRoaming
  | .imsSms message => .imsSms message
  | .openLogicalChannel aid _ => .all [.copy aid false]
  | .dataProfile profiles isRoaming => .dataProfile version profiles isRoaming
  | .keepalive request => .keepalive request

def RadioCall.needs (version : Int) (c : RadioCall) : Needs :=
  (c.dispatched version).needs version

namespace Dispatched

variable {n : Nat} {ρ : Type} {e : Setting n}

/-- An error code that a refusing method was written with. -/
def ErrorCode : Dispatched → Prop
  | .refused _ err => err ≠ RIL_E_SUCCESS
  | _ => True

theorem perform_serves (serial : Int) (d : Dispatched) (hd : d.ErrorCode) :
    ∃ request body, d.perform e serial = (addRequestToList e serial request >>= body) ∧
      ∀ pRI, Serves e pRI (body pRI : Dispatch n ρ Unit) (d.needs e.version) := by
  cases d with
  | string request str =>
    exact ⟨_, _, rfl, fun pRI => (passes_copy _ _).serves fun _ => serves_callOnRequest _ _⟩
  | strings request allowEmpty strs =>
    exact ⟨_, _, rfl, fun pRI => passes_calloc.serves fun _ =>
      (passes_forEach (fun _ => passes_copy _ _) _).serves fun _ => serves_callOnRequest _ _⟩
  | stringVec request data =>
    exact ⟨_, _, rfl, fun pRI => passes_calloc.serves fun _ =>
      (passes_forEach (fun _ => passes_copy _ _) _).serves fun _ => serves_callOnRequest _ _⟩
  | ints request values =>
    exact ⟨_, _, rfl, fun pRI => passes_calloc.serves fun _ => serves_callOnRequest _ _⟩
  | callForwardStatus request callInfo =>
    exact ⟨_, _, rfl, fun pRI => (passes_copy _ _).serves fun _ => serves_callOnRequest _ _⟩
  | iccApdu request message =>
    exact ⟨_, _, rfl, fun pRI => (passes_copy _ _).serves fun _ => serves_callOnRequest _ _⟩
  | refused request err => exact ⟨_, _, rfl, fun pRI => serves_refuse hd⟩
  | networkScan request =>
    exact ⟨_, _, rfl, fun pRI => (passes_require _).serves fun _ =>
      (passes_forEach passes_convertSpecifier _).serves fun _ => serves_callOnRequest _ _⟩
  | initialAttachApn info modemCognitive isRoaming =>
    refine ⟨_, _, rfl, fun pRI => ?_⟩
    simp only [needs, Needs.initialAttachApn]
    split
    · exact (passes_copy _ _).serves fun _ => (passes_copy _ _).serves fun _ =>
        (passes_copy _ _).serves fun _ => (passes_copy _ _).serves fun _ =>
          serves_callOnRequest _ _
    · exact (passes_copy _ _).serves fun _ => (passes_copy _ _).serves fun _ =>
        (passes_copy _ _).serves fun _ => (passes_copy _ _).serves fun _ =>
          (passes_copy _ _).serves fun _ => (passes_mvnoTypeString _).serves fun _ =>
            (passes_copy _ _).serves fun _ => serves_callOnRequest _ _
  | imsSms message =>
    refine ⟨_, _, rfl, fun pRI => ?_⟩
    simp only [needs, Needs.imsSms]
    split
    · exact serves_dispatchImsGsmSms message
    · split
      · exact serves_dispatchImsCdmaSms message
      · exact serves_refuse (by decide)
  | openLogicalChannel aid p2 =>
    exact ⟨_, _, rfl, fun pRI => (passes_copy _ _).serves fun _ => serves_callOnRequest _ _⟩
  | dataProfile profiles isRoaming =>
    refine ⟨_, _, rfl, fun pRI => passes_calloc.serves fun _ => passes_calloc.serves fun _ => ?_⟩
    split
    · exact (passes_forEach (passes_convertDataProfile isRoaming) _).serves fun _ =>
        serves_callOnRequest _ _
    · exact (passes_forEach passes_convertDataProfile_v15 _).serves fun _ =>
        serves_callOnRequest _ _
  | keepalive request =>
    exact ⟨_, _, rfl, fun pRI => (passes_require _).serves fun _ => serves_callOnRequest _ _⟩

end Dispatched

namespace RadioCall

variable {n : Nat} {ρ : Type} {e : Setting n} {w : World n ρ} {serial : Int} {c : RadioCall}
  {a : Fin n} {l : Nat → List (Fin n)}

theorem invalidArguments_ne : RIL_E_INVALID_ARGUMENTS ≠ RIL_E_SUCCESS := by decide

theorem requestNotSupported_ne : RIL_E_REQUEST_NOT_SUPPORTED ≠ RIL_E_SUCCESS := by decide

theorem dispatched_errorCode (version : Int) (c : RadioCall) :
    (c.dispatched version).ErrorCode := by
  cases c with
  | setupDataCall radioTechnology info modemCognitive roamingAllowed isRoaming =>
    simp only [dispatched, setupDataCallRequest]
    split
    · trivial
    · split
      · split
        · exact invalidArguments_ne
        · trivial
      · exact requestNotSupported_ne
  | iccOpenLogicalChannel aid p2 =>
    simp only [dispatched]
    split <;> trivial
  | sendDeviceState deviceStateType state =>
    simp only [dispatched, sendDeviceStateRequest]
    split
    · split
      · trivial
      · exact requestNotSupported_ne
    · trivial
  | setIndicationFilter indicationFilter =>
    simp only [dispatched]
    split
    · exact requestNotSupported_ne
    · trivial
  | _ => trivial

/-- The world behind `addRequestToList`. -/
def added (e : Setting n) (serial : Int) (request : RilRequest) (a : Fin n) (w : World n ρ) :
    World n ρ :=
  { w with
    requests := PendingRequests.addRequestToList e.simCount w.requests serial e.mSlotId
      request.number a }

/-- A request whose memory was allocated reaches the vendor, or is left in the list with at most
one answer. -/
theorem perform_cases (hplace : e.place = some a) (serial : Int) (c : RadioCall) :
    ∃ request,
      (Meets e (c.needs e.version) w ∧ ∃ number data, ((c.perform e serial) w).2.onRequests =
        w.onRequests ++ [⟨number, data, a, e.mSlotId⟩]) ∨
      (¬Meets e (c.needs e.version) w ∧
        Refused a (added e serial request a w) ((c.perform e serial) w).2) := by
  obtain ⟨request, body, hperform, hserves⟩ :=
    Dispatched.perform_serves (ρ := ρ) (e := e) serial _ (dispatched_errorCode e.version c)
  have hrun : (c.perform e serial) w = body a (added e serial request a w) := by
    unfold RadioCall.perform
    rw [hperform]
    change Stopping.andThen _ _ w = _
    simp only [Stopping.andThen, addRequestToList, hplace, added]
  refine ⟨request, ?_⟩
  rw [hrun]
  by_cases hmeets : Meets e (c.needs e.version) w
  · obtain ⟨number, data, hs⟩ := (hserves a).served (added e serial request a w) hmeets
    refine Or.inl ⟨hmeets, number, data, ?_⟩
    rw [hs]
    rfl
  · exact Or.inr ⟨hmeets, (hserves a).refused (added e serial request a w) hmeets⟩

/-- What is promised of a request that the vendor does not get: one error answers it, and the
list of its slot is as before. -/
def RefusedCleanly (e : Setting n) (serial : Int) (w w' : World n ρ) : Prop :=
  w'.onRequests = w.onRequests →
    (∃ r, w'.errors = w.errors ++ [r] ∧ r.serial = serial ∧ r.error ≠ RIL_E_SUCCESS) ∧
    ∀ l, PendingRequests.Pending w.requests (PendingRequests.hook e.simCount e.mSlotId) l →
      PendingRequests.Pending w'.requests (PendingRequests.hook e.simCount e.mSlotId) l

/-- A method that does not reach the vendor leaves its request in the list. -/
theorem refused_stays_pending (h : PendingRequests.Inv e.simCount e.version w.requests l)
    (ha : w.requests.allocated a = false) {request : RilRequest} {w' : World n ρ}
    (hr : Refused a (added e serial request a w) w') :
    PendingRequests.Pending w'.requests (PendingRequests.hook e.simCount e.mSlotId)
      (a :: l (PendingRequests.hook e.simCount e.mSlotId)) := by
  obtain ⟨tried, errors, rfl, -⟩ := hr
  have := (PendingRequests.addRequestToList_inv h ha serial e.mSlotId
    request.number).lists.pending (PendingRequests.hook e.simCount e.mSlotId)
  rw [Function.update_self] at this
  exact this

/-- After any run of the requests' life cycle, a method keeps the promise exactly when its
arguments are good and its allocations succeed. -/
theorem refused_cleanly_iff {mem : Fin n → RequestInfo} {pNext : Fin n → Option (Fin n)}
    {as : List (Action n ρ)} (hr : Machine.run (PendingRequests.step e.simCount e.version)
      (PendingRequests.initial mem pNext) as = some w.requests)
    (hplace : e.place = some a) (ha : w.requests.allocated a = false) :
    RefusedCleanly e serial w ((c.perform e serial) w).2 ↔ Meets e (c.needs e.version) w := by
  obtain ⟨l, h⟩ := PendingRequests.run_inv hr
  obtain ⟨request, hcases⟩ := perform_cases (w := w) hplace serial c
  rcases hcases with ⟨hmeets, number, data, hcalls⟩ | ⟨hmeets, href⟩
  · refine iff_of_true (fun hsame => ?_) hmeets
    rw [hcalls] at hsame
    simp at hsame
  · refine iff_of_false (fun hclean => ?_) hmeets
    have hsame : ((c.perform e serial) w).2.onRequests = w.onRequests := by
      obtain ⟨tried, errors, hw, -⟩ := href
      rw [hw]
      rfl
    have hkept := (hclean hsame).2 _ (h.lists.pending _)
    have hleft := refused_stays_pending h ha href
    simpa using Links.chain_unique hkept hleft

/-- A service of one slot with an empty list and enough memory. -/
def freshSetting : Setting 1 :=
  { simCount := 1, version := 15, mSlotId := 0, place := some ⟨0, Nat.zero_lt_one⟩
    calloc := fun _ => true }

def fresh : World 1 Unit :=
  { requests := PendingRequests.initial (fun _ => ⟨0, 0, 0, 0, 0, 0, 0⟩) fun _ => none
    tried := 0, errors := [], onRequests := [] }

theorem refused_cleanly_hangup : RefusedCleanly freshSetting 7 fresh
    (((RadioCall.hangup 3).perform freshSetting 7) fresh).2 :=
  have hrun : Machine.run (PendingRequests.step 1 15) fresh.requests [] = some fresh.requests := rfl
  (refused_cleanly_iff hrun rfl rfl).mpr ⟨⟨trivial, trivial⟩, fun _ _ => rfl⟩

/-- One specifier more than `MAX_RADIO_ACCESS_NETWORKS`. -/
def tooManySpecifiers : NetworkScanRequest :=
  { type := 0, interval := 10, specifiers := List.replicate 9 ⟨.GERAN, [], [], [], []⟩ }

/-- The scan is answered with an error, and its request stays in the list. -/
theorem startNetworkScan_not_refused_cleanly :
    ((((RadioCall.startNetworkScan tooManySpecifiers).perform freshSetting 7) fresh).2.errors =
      [⟨0, RESPONSE_SOLICITED, 7, RilRequest.number .START_NETWORK_SCAN,
        RIL_E_INVALID_ARGUMENTS⟩]) ∧
    ¬RefusedCleanly freshSetting 7 fresh
      (((RadioCall.startNetworkScan tooManySpecifiers).perform freshSetting 7) fresh).2 := by
  refine ⟨rfl, fun h => ?_⟩
  have hlist : PendingRequests.Pending fresh.requests 0 [] := rfl
  have hkept := (h rfl).2 [] hlist
  cases hkept

end RadioCall

end Apq8084.Ril
