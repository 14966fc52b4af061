import Apq8084.Lib.WordBlocks
import Apq8084.Ril.Dispatch

/-! What the vendor returns, null or a block of `responseLen` bytes that holds records with words of
32 bits, and the values that `ril_service.cpp` makes of it. -/
namespace Apq8084.Ril.Payloads

open WordBlock WordBlock.Layout

/-- As `RadioError::INVALID_RESPONSE`. -/
def INVALID_RESPONSE : Int := 66

def RESPONSE_UNSOLICITED : Nat := 1

def RIL_CARD_MAX_APPS : Nat := 8
def SS_INFO_MAX : Nat := 4
def NUM_SERVICE_CLASSES : Nat := 7

def SS_CFU : Int := 0
def SS_CF_BUSY : Int := 1
def SS_CF_NO_REPLY : Int := 2
def SS_CF_NOT_REACHABLE : Int := 3
def SS_CF_ALL : Int := 4
def SS_CF_ALL_CONDITIONAL : Int := 5
def SS_INTERROGATION : Int := 2

/-! ### Payloads and their records -/

inductive Payload where
  | null (responseLen : Nat)
  | block (b : Block)

namespace Payload

def isNull : Payload → Bool
  | null _ => true
  | block _ => false

def responseLen : Payload → Nat
  | null n => n
  | block b => b.length

/-- The `i`th word from the pointer on. -/
def word (i : Nat) : Payload → Except Fault Word
  | null _ => .error .outOfBounds
  | block b => WordBlock.word b i

def int (response : Payload) (i : Nat) : Except Fault Int :=
  return (← response.word i).toInt

section

variable {w : Word} {ws : List Word} {response : Payload} {i : Nat}

theorem word_ok (h : ws[i]? = some w) : word i (.block (bytesOf ws)) = .ok w :=
  WordBlock.word_ok h

theorem int_ok (h : response.word i = .ok w) : response.int i = .ok w.toInt := by
  simp only [int, h]
  rfl

/-- Read a field of a record that has other words behind it. -/
theorem int_head {rest : List Word} (h : ws[i]? = some w) :
    int (.block (bytesOf (ws ++ rest))) i = .ok w.toInt := by
  obtain ⟨hi, -⟩ := List.getElem?_eq_some_iff.mp h
  exact int_ok (word_ok ((List.getElem?_append_left hi).trans h))

variable {S : Type} [Layout S] {b : Block}

theorem record_cases (S : Type) [Layout S] (response : Payload) :
    (∃ n, response = null n) ∨ (∃ b, b.length ≠ sizeof S ∧ response = block b) ∨
      ∃ s : S, response = block (bytes s) := by
  rcases response with n | b
  · exact .inl ⟨n, rfl⟩
  · by_cases hlen : b.length = sizeof S
    · obtain ⟨s, rfl⟩ := exists_bytes hlen
      exact .inr (.inr ⟨s, rfl⟩)
    · exact .inr (.inl ⟨b, hlen, rfl⟩)

theorem not_record (hlen : b.length ≠ sizeof S) (s : S) : block b ≠ block (bytes s) := by
  rintro ⟨⟩
  exact hlen length_bytes

theorem record_injective {s t : S} (h : block (bytes s) = block (bytes t)) : s = t :=
  bytes_injective (Payload.block.inj h)

end

end Payload

structure RIL_AppStatus where
  app_type : Word
  app_state : Word
  perso_substate : Word
  aid_ptr : Word
  app_label_ptr : Word
  pin1_replaced : Word
  pin1 : Word
  pin2 : Word
  pin1_num_retries : Word
  puk1_num_retries : Word
  pin2_num_retries : Word
  puk2_num_retries : Word
  perso_unblock_retries : Word

instance : Layout RIL_AppStatus where
  size := 13
  words s := [s.app_type, s.app_state, s.perso_substate, s.aid_ptr, s.app_label_ptr,
    s.pin1_replaced, s.pin1, s.pin2, s.pin1_num_retries, s.puk1_num_retries,
    s.pin2_num_retries, s.puk2_num_retries, s.perso_unblock_retries]
  length_words _ := rfl
  words_injective := by
    rintro ⟨⟩ ⟨⟩ h
    simpa using h
  exists_words
    | [a, b, c, d, e, f, g, h, i, j, k, l, m], _ => ⟨⟨a, b, c, d, e, f, g, h, i, j, k, l, m⟩, rfl⟩

structure RIL_CardStatus_v6 where
  card_state : Word
  universal_pin_state : Word
  gsm_umts_subscription_app_index : Word
  cdma_subscription_app_index : Word
  ims_subscription_app_index : Word
  num_applications : Word
  applications : List RIL_AppStatus
  length_applications : applications.length = RIL_CARD_MAX_APPS

/-- The words in front of `applications`. -/
def RIL_CardStatus_v6.head (s : RIL_CardStatus_v6) : List Word :=
  [s.card_state, s.universal_pin_state, s.gsm_umts_subscription_app_index,
    s.cdma_subscription_app_index, s.ims_subscription_app_index, s.num_applications]

instance : Layout RIL_CardStatus_v6 where
  size := 6 + 13 * RIL_CARD_MAX_APPS
  words s := s.head ++ array s.applications
  length_words s := by
    rw [List.length_append, length_array, s.length_applications]
    rfl
  words_injective := by
    rintro ⟨a, b, c, d, e, f, l, hl⟩ ⟨a', b', c', d', e', f', l', hl'⟩ h
    simp only [RIL_CardStatus_v6.head, List.cons_append, List.nil_append, List.cons.injEq] at h
    obtain ⟨rfl, rfl, rfl, rfl, rfl, rfl, hwords⟩ := h
    cases array_injective (hl.trans hl'.symm) hwords
    rfl
  exists_words
    | a :: b :: c :: d :: e :: f :: ws, h => by
      have hlen : ws.length = size RIL_AppStatus * RIL_CARD_MAX_APPS := by
        simp only [List.length_cons] at h
        exact (by omega : ws.length = 13 * RIL_CARD_MAX_APPS)
      obtain ⟨l, hl, rfl⟩ := exists_array hlen
      exact ⟨⟨a, b, c, d, e, f, l, hl⟩, rfl⟩

structure RIL_LastCallFailCauseInfo where
  cause_code : Word
  vendor_cause : Word

instance : Layout RIL_LastCallFailCauseInfo where
  size := 2
  words s := [s.cause_code, s.vendor_cause]
  length_words _ := rfl
  words_injective := by
    rintro ⟨⟩ ⟨⟩ h
    simpa using h
  exists_words
    | [a, b], _ => ⟨⟨a, b⟩, rfl⟩

structure RIL_Carrier where
  mcc : Word
  mnc : Word
  match_type : Word
  match_data : Word

structure RIL_CarrierRestrictions where
  len_allowed_carriers : Word
  len_excluded_carriers : Word
  allowed_carriers : Word
  excluded_carriers : Word

instance : Layout RIL_CarrierRestrictions where
  size := 4
  words s := [s.len_allowed_carriers, s.len_excluded_carriers, s.allowed_carriers,
    s.excluded_carriers]
  length_words _ := rfl
  words_injective := by
    rintro ⟨⟩ ⟨⟩ h
    simpa using h
  exists_words
    | [a, b, c, d], _ => ⟨⟨a, b, c, d⟩, rfl⟩

structure RIL_CallForwardInfo where
  status : Word
  reason : Word
  serviceClass : Word
  toa : Word
  number : Word
  timeSeconds : Word
  startTime : Word
  endTime : Word

instance : Layout RIL_CallForwardInfo where
  size := 8
  words s := [s.status, s.reason, s.serviceClass, s.toa, s.number, s.timeSeconds, s.startTime,
    s.endTime]
  length_words _ := rfl
  words_injective := by
    rintro ⟨⟩ ⟨⟩ h
    simpa using h
  exists_words
    | [a, b, c, d, e, f, g, h], _ => ⟨⟨a, b, c, d, e, f, g, h⟩, rfl⟩

/-- The union is stored as its larger member, `cfData`. -/
structure RIL_StkCcUnsolSsResponse where
  serviceType : Word
  requestType : Word
  teleserviceType : Word
  serviceClass : Word
  result : Word
  numValidIndexes : Word
  cfInfo : List RIL_CallForwardInfo
  length_cfInfo : cfInfo.length = NUM_SERVICE_CLASSES

/-- The words in front of `cfInfo`. -/
def RIL_StkCcUnsolSsResponse.head (s : RIL_StkCcUnsolSsResponse) : List Word :=
  [s.serviceType, s.requestType, s.teleserviceType, s.serviceClass, s.result, s.numValidIndexes]

instance : Layout RIL_StkCcUnsolSsResponse where
  size := 6 + 8 * NUM_SERVICE_CLASSES
  words s := s.head ++ array s.cfInfo
  length_words s := by
    rw [List.length_append, length_array, s.length_cfInfo]
    rfl
  words_injective := by
    rintro ⟨a, b, c, d, e, f, l, hl⟩ ⟨a', b', c', d', e', f', l', hl'⟩ h
    simp only [RIL_StkCcUnsolSsResponse.head, List.cons_append, List.nil_append,
      List.cons.injEq] at h
    obtain ⟨rfl, rfl, rfl, rfl, rfl, rfl, hwords⟩ := h
    cases array_injective (hl.trans hl'.symm) hwords
    rfl
  exists_words
    | a :: b :: c :: d :: e :: f :: ws, h => by
      have hlen : ws.length = size RIL_CallForwardInfo * NUM_SERVICE_CLASSES := by
        simp only [List.length_cons] at h
        exact (by omega : ws.length = 8 * NUM_SERVICE_CLASSES)
      obtain ⟨l, hl, rfl⟩ := exists_array hlen
      exact ⟨⟨a, b, c, d, e, f, l, hl⟩, rfl⟩

/-- The other member of the union. -/
def RIL_StkCcUnsolSsResponse.ssInfo (s : RIL_StkCcUnsolSsResponse) : List Word :=
  (s.numValidIndexes :: array s.cfInfo).take SS_INFO_MAX

/-- What the pointers of a record lead to. -/
structure Memory where
  cString : Word → CString
  carriers : Word → List RIL_Carrier
  carriers_null : carriers 0 = []

/-! ### The values that are passed on -/

inductive RadioResponseType where
  | SOLICITED | SOLICITED_ACK_EXP

structure RadioResponseInfo where
  serial : Int := 0
  type : RadioResponseType := .SOLICITED
  error : Int := RIL_E_SUCCESS

structure AppStatus where
  appType : Int
  appState : Int
  persoSubstate : Int
  aidPtr : HidlString
  appLabelPtr : HidlString
  pin1Replaced : Int
  pin1 : Int
  pin2 : Int

structure CardStatus where
  cardState : Int := 0
  universalPinState : Int := 0
  gsmUmtsSubscriptionAppIndex : Int := 0
  cdmaSubscriptionAppIndex : Int := 0
  imsSubscriptionAppIndex : Int := 0
  applications : List AppStatus := []

structure LastCallFailCauseInfo where
  causeCode : Int := 0
  vendorCause : HidlString := ⟨0, []⟩

structure Carrier where
  mcc : HidlString
  mnc : HidlString
  matchType : Int
  matchData : HidlString

structure CarrierRestrictions where
  allowedCarriers : List Carrier := []
  excludedCarriers : List Carrier := []

/-- `ssInfo` and `cfData` are vectors of at most one element. -/
structure StkCcUnsolSsResult where
  serviceType : Int
  requestType : Int
  teleserviceType : Int
  serviceClass : Int
  result : Int
  ssInfo : List (List Int) := []
  cfData : List (List CallForwardInfo) := []

inductive RadioIndicationType where
  | UNSOLICITED | UNSOLICITED_ACK_EXP

/-- A call of `mRadioIndication` with its argument. -/
inductive Indication where
  | newSmsOnSim (recordNumber : Int)
  | stkCallSetup (timeout : Int)
  | restrictedStateChanged (state : Int)
  | cdmaOtaProvisionStatus (status : Int)
  | indicateRingbackTone (start : Bool)
  | cdmaSubscriptionSourceChanged (cdmaSource : Int)
  | cdmaPrlChanged (version : Int)
  | voiceRadioTechChanged (rat : Int)
  | subscriptionStatusChanged (activate : Bool)
  | srvccStateNotify (state : Int)
  | onSupplementaryServiceIndication (ss : StkCcUnsolSsResult)

/-- What a response function passes to `mRadioResponse`. -/
abbrev Answer (α : Type) := RadioResponseInfo × α

/-- The call that an indication makes, if it makes one. -/
abbrev Notice := Option (RadioIndicationType × Indication)

end Apq8084.Ril.Payloads
