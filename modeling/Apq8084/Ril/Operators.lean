import Apq8084.Lib.CStrings
import Apq8084.Ril.Decoders

/-! The list of available networks that `getAvailableNetworksResponse` of `ril_service.cpp` makes of
an array of strings, in groups of `ro.ril.telephony.qan_resp_strings`. Pointers have 4 bytes. -/
namespace Apq8084.Ril.Payloads.Operators

open CStrings

inductive Fault where
  | divideByZero
  /-- A pointer is read outside of the array, or a network written behind the vector. -/
  | outOfBounds
  | nullString
  /-- A vector gets a negative size. -/
  | badSize
deriving DecidableEq

/-- What the vendor returns: null, or an array of pointers to strings that may be null. -/
structure Response where
  resp : Option (List (Option CString))
  responseLen : Nat
  responseLen_lt : responseLen < 4294967296
  length_resp : ∀ l, resp = some l → l.length = responseLen / 4

def UNKNOWN : Int := 0
def AVAILABLE : Int := 1
def CURRENT : Int := 2
def FORBIDDEN : Int := 3

/-- Nothing says what `status` is before it is set. -/
structure OperatorInfo where
  alphaLong : HidlString := ⟨0, []⟩
  alphaShort : HidlString := ⟨0, []⟩
  operatorNumeric : HidlString := ⟨0, []⟩
  status : Option Int := none
deriving DecidableEq

def convertCharPtrToHidlString : Option CString → HidlString
  | none => ⟨0, []⟩
  | some s => .ofCStr s

/-- Comparison of at most nine characters. -/
def strncmp9 (word str : CString) : Int := strncmp (fun a b => a < b) 9 word str

def convertOperatorStatusToInt : Option CString → Except Fault Int
  | none => .error .nullString
  | some str =>
    if strncmp9 (ascii "unknown") str = 0 then .ok UNKNOWN
    else if strncmp9 (ascii "available") str = 0 then .ok AVAILABLE
    else if strncmp9 (ascii "current") str = 0 then .ok CURRENT
    else if strncmp9 (ascii "forbidden") str = 0 then .ok FORBIDDEN
    else .ok (-1)

/-- `resp[i]` -/
def pointer (l : List (Option CString)) (i : Int) : Except Fault (Option CString) :=
  if 0 ≤ i then
    match l[i.toNat]? with
    | some p => .ok p
    | none => .error .outOfBounds
  else .error .outOfBounds

/-- The group that begins at `i`. -/
def network (l : List (Option CString)) (i : Int) : Except Fault OperatorInfo := do
  let alphaLong ← pointer l i
  let alphaShort ← pointer l (i + 1)
  let operatorNumeric ← pointer l (i + 2)
  let status ← convertOperatorStatusToInt (← pointer l (i + 3))
  return {
    alphaLong := convertCharPtrToHidlString alphaLong
    alphaShort := convertCharPtrToHidlString alphaShort
    operatorNumeric := convertCharPtrToHidlString operatorNumeric
    status := if status = -1 then none else some status }

/-- The loop, with the networks that are left from `networks[j]` on. -/
def loop (l : List (Option CString)) (qanRespStrings numStrings e : Int) :
    Nat → Int → RadioResponseInfo → Except Fault (RadioResponseInfo × List OperatorInfo)
  | 0, i, responseInfo => if i < numStrings then .error .outOfBounds else .ok (responseInfo, [])
  | left + 1, i, responseInfo =>
    if i < numStrings then do
      let first ← network l i
      let responseInfo := if first.status.isNone then responseInfo.invalid e else responseInfo
      let (responseInfo, rest) ←
        loop l qanRespStrings numStrings e left (i + qanRespStrings) responseInfo
      return (responseInfo, first :: rest)
    else .ok (responseInfo, List.replicate (left + 1) {})

/-- `qanRespStrings * sizeof(char *)`, a `size_t`. -/
def groupBytes (qanRespStrings : Int32) : Nat := (qanRespStrings.toInt * 4 % 4294967296).toNat

def getAvailableNetworksResponse (qanRespStrings : Int32) (serial : Int) (responseType : Nat)
    (e : Int) (response : Response) : Except Fault (Answer (List OperatorInfo)) :=
  let responseInfo := populateResponseInfo {} serial responseType e
  if response.resp = none ∧ response.responseLen ≠ 0 then .ok (responseInfo.invalid e, [])
  else if groupBytes qanRespStrings = 0 then .error .divideByZero
  else if response.responseLen % groupBytes qanRespStrings ≠ 0 then
    .ok (responseInfo.invalid e, [])
  else
    let numStrings : Int := (response.responseLen / 4 : Nat)
    let num := numStrings.tdiv qanRespStrings.toInt
    if num < 0 then .error .badSize
    else loop (response.resp.getD []) qanRespStrings.toInt numStrings e num.toNat 0 responseInfo

/-! ### What is promised -/

/-- The status of an operator by the word for it. -/
def statusOf (s : Option CString) : Option Int :=
  if s = some (ascii "unknown") then some UNKNOWN
  else if s = some (ascii "available") then some AVAILABLE
  else if s = some (ascii "current") then some CURRENT
  else if s = some (ascii "forbidden") then some FORBIDDEN
  else none

/-- The list consists of `n` groups of `k` pointers. -/
def Groups (r : Response) (k : Int) (n : Nat) : Prop := (r.responseLen : Int) = n * (k * 4)

def Invalid (k : Int) (r : Response) : Prop :=
  (r.resp = none ∧ r.responseLen ≠ 0) ∨ (¬∃ n, Groups r k n) ∨
    ∃ l n j, r.resp = some l ∧ Groups r k n ∧ j < n ∧
      statusOf (l[j * k.toNat + 3]?.getD none) = none

/-- The network that the `j`th group is for. -/
def networkOf (l : List (Option CString)) (k j : Nat) : OperatorInfo where
  alphaLong := convertCharPtrToHidlString (l[j * k]?.getD none)
  alphaShort := convertCharPtrToHidlString (l[j * k + 1]?.getD none)
  operatorNumeric := convertCharPtrToHidlString (l[j * k + 2]?.getD none)
  status := statusOf (l[j * k + 3]?.getD none)

/-- There is no fault, the error is the right one, and each group of four or more pointers gives
its network. -/
def Decodes (qanRespStrings : Int32) (serial : Int) (responseType : Nat) (e : Int)
    (r : Response) : Prop :=
  ∃ info networks,
    getAvailableNetworksResponse qanRespStrings serial responseType e r = .ok (info, networks) ∧
    (e = RIL_E_SUCCESS ∧ Invalid qanRespStrings.toInt r → info.error = INVALID_RESPONSE) ∧
    (¬(e = RIL_E_SUCCESS ∧ Invalid qanRespStrings.toInt r) → info.error = e) ∧
    ∀ l n, r.resp = some l → 4 ≤ qanRespStrings.toInt → Groups r qanRespStrings.toInt n →
      networks = (List.range n).map (networkOf l qanRespStrings.toInt.toNat)

/-- One of the two words of nine letters, and more. -/
def Extended (s : CString) : Prop :=
  ∃ t ≠ [], s = ascii "available" ++ t ∨ s = ascii "forbidden" ++ t

/-- Each group has a string for the status that is not such a word with something behind it. -/
def StatusesOk (l : List (Option CString)) (k : Nat) : Prop :=
  ∀ j, j * k + 3 < l.length → ∃ s, l[j * k + 3]? = some (some s) ∧ ¬Extended s

/-- When the list is decoded: a length without a pointer, no length, a length that is refused, or
groups of at least four pointers with such strings. -/
def Decodable (qanRespStrings : Int32) (r : Response) : Prop :=
  (r.resp = none ∧ r.responseLen ≠ 0) ∨
    (groupBytes qanRespStrings ≠ 0 ∧
      (r.responseLen = 0 ∨ r.responseLen % groupBytes qanRespStrings ≠ 0 ∨
        (4 ≤ qanRespStrings.toInt ∧ qanRespStrings.toInt < 1073741824 ∧
          StatusesOk (r.resp.getD []) qanRespStrings.toInt.toNat)))

variable {s : CString} {l : List (Option CString)} {p : Option CString} {k n m i j : Nat}
  {numStrings e : Int} {info : RadioResponseInfo} {r : Response} {K : Int32}

/-! ### The words -/

theorem strncmp9_unknown : strncmp9 (ascii "unknown") s = 0 ↔ s = ascii "unknown" :=
  strncmp_eq_zero_of_length_lt (by decide)

theorem strncmp9_current : strncmp9 (ascii "current") s = 0 ↔ s = ascii "current" :=
  strncmp_eq_zero_of_length_lt (by decide)

theorem strncmp9_available :
    strncmp9 (ascii "available") s = 0 ↔ ∃ t, s = ascii "available" ++ t :=
  strncmp_eq_zero_of_length_eq (by decide)

theorem strncmp9_forbidden :
    strncmp9 (ascii "forbidden") s = 0 ↔ ∃ t, s = ascii "forbidden" ++ t :=
  strncmp_eq_zero_of_length_eq (by decide)

/-- Beginning with a word is being the word, unless something stands behind it. -/
theorem exists_append_iff {w : CString} (h : ∀ t, t ≠ [] → s ≠ w ++ t) :
    (∃ t, s = w ++ t) ↔ s = w := by
  constructor
  · rintro ⟨t, rfl⟩
    by_contra hne
    refine h t ?_ rfl
    rintro rfl
    exact hne (List.append_nil _)
  · rintro rfl
    exact ⟨[], (List.append_nil _).symm⟩

/-- What is set for a string, against what stands for it. -/
theorem convertOperatorStatusToInt_eq (h : ¬Extended s) :
    convertOperatorStatusToInt (some s) = .ok ((statusOf (some s)).getD (-1)) := by
  have havailable : strncmp9 (ascii "available") s = 0 ↔ s = ascii "available" := by
    rw [strncmp9_available]
    exact exists_append_iff fun t ht hs => h ⟨t, ht, Or.inl hs⟩
  have hforbidden : strncmp9 (ascii "forbidden") s = 0 ↔ s = ascii "forbidden" := by
    rw [strncmp9_forbidden]
    exact exists_append_iff fun t ht hs => h ⟨t, ht, Or.inr hs⟩
  simp only [convertOperatorStatusToInt, statusOf, strncmp9_unknown, strncmp9_current,
    havailable, hforbidden, Option.some.injEq]
  split_ifs <;> rfl

/-- A word with something behind it is taken for the word. -/
theorem convertOperatorStatusToInt_extended (h : Extended s) :
    statusOf (some s) = none ∧
      ∃ status, convertOperatorStatusToInt (some s) = .ok status ∧ status ≠ -1 := by
  obtain ⟨t, ht, hs⟩ := h
  have hlen : 9 < s.length := by
    have hpos : 0 < t.length := List.length_pos_iff.mpr ht
    have ha : (ascii "available").length = 9 := by decide
    have hf : (ascii "forbidden").length = 9 := by decide
    rcases hs with rfl | rfl <;> rw [List.length_append] <;> omega
  have hne : ∀ w : CString, w.length ≤ 9 → s ≠ w := by
    rintro w hw rfl
    omega
  have hu : s ≠ ascii "unknown" := hne _ (by decide)
  have hc : s ≠ ascii "current" := hne _ (by decide)
  refine ⟨?_, ?_⟩
  · have ha : s ≠ ascii "available" := hne _ (by decide)
    have hf : s ≠ ascii "forbidden" := hne _ (by decide)
    simp only [statusOf, Option.some.injEq, hu, ha, hc, hf, if_false]
  · rcases hs with rfl | rfl
    · refine ⟨AVAILABLE, ?_, by decide⟩
      have hav := strncmp9_available.mpr ⟨t, rfl⟩
      simp only [convertOperatorStatusToInt, strncmp9_unknown, hu, hav, if_false, if_true]
    · refine ⟨FORBIDDEN, ?_, by decide⟩
      have hfo := strncmp9_forbidden.mpr ⟨t, rfl⟩
      have hav : strncmp9 (ascii "available") (ascii "forbidden" ++ t) ≠ 0 := by
        intro h
        obtain ⟨u, hu⟩ := strncmp9_available.mp h
        have hword := congrArg (List.take 9) hu
        rw [List.take_left' (by decide), List.take_left' (by decide)] at hword
        exact absurd hword (by decide)
      simp only [convertOperatorStatusToInt, strncmp9_unknown, strncmp9_current, hu, hav, hc, hfo,
        if_false, if_true]

/-! ### One group -/

theorem pointer_eq {a : Int} (ha : a = i) (h : i < l.length) :
    pointer l a = .ok (l[i]?.getD none) := by
  have hnonneg : 0 ≤ a := by omega
  have hi : a.toNat = i := by omega
  rw [pointer, if_pos hnonneg, hi, List.getElem?_eq_getElem h]
  rfl

theorem pointer_fails {a : Int} (ha : a = i) (h : l.length ≤ i) :
    pointer l a = .error .outOfBounds := by
  have hnonneg : 0 ≤ a := by omega
  have hi : a.toNat = i := by omega
  rw [pointer, if_pos hnonneg, hi, List.getElem?_eq_none h]

/-- A group within the array, with what its status string is converted to. -/
theorem network_eq (h : j * k + 3 < l.length) :
    network l ((j * k : Nat) : Int) =
      (convertOperatorStatusToInt (l[j * k + 3]?.getD none)).map fun status =>
        { networkOf l k j with status := if status = -1 then none else some status } := by
  have h₀ := @pointer_eq l (j * k) _ rfl (by omega)
  have h₁ := @pointer_eq l (j * k + 1) (((j * k : Nat) : Int) + 1) rfl (by omega)
  have h₂ := @pointer_eq l (j * k + 2) (((j * k : Nat) : Int) + 2) rfl (by omega)
  have h₃ := @pointer_eq l (j * k + 3) (((j * k : Nat) : Int) + 3) rfl h
  simp only [network, h₀, h₁, h₂, h₃, bind, Except.bind]
  cases convertOperatorStatusToInt (l[j * k + 3]?.getD none) <;> rfl

/-- A group is decoded as it should be exactly where its status string is what it should be. -/
theorem network_eq_networkOf_iff (h : j * k + 3 < l.length) :
    network l ((j * k : Nat) : Int) = .ok (networkOf l k j) ↔
      ∃ s, l[j * k + 3]? = some (some s) ∧ ¬Extended s := by
  rw [network_eq h]
  have hget : l[j * k + 3]? = some (l[j * k + 3]) := List.getElem?_eq_getElem h
  have hstatus : (networkOf l k j).status = statusOf (l[j * k + 3]) := by
    simp only [networkOf, hget, Option.getD_some]
  rw [hget, Option.getD_some]
  cases hs : l[j * k + 3] with
  | none => simp [convertOperatorStatusToInt, Except.map]
  | some s =>
    rw [hs] at hstatus
    constructor
    · intro heq
      refine ⟨s, rfl, ?_⟩
      intro hext
      obtain ⟨hnone, status, hconv, hne⟩ := convertOperatorStatusToInt_extended hext
      rw [hconv] at heq
      have hst := congrArg OperatorInfo.status (Except.ok.inj heq)
      rw [hstatus, hnone] at hst
      simp only [if_neg hne] at hst
      cases hst
    · rintro ⟨s', hs', hext⟩
      cases hs'
      rw [convertOperatorStatusToInt_eq hext]
      have hback : (if (statusOf (some s)).getD (-1) = -1 then none
          else some ((statusOf (some s)).getD (-1))) = statusOf (some s) := by
        unfold statusOf
        split_ifs with h₁ h₂ h₃ h₄ <;> first | rfl | exact absurd ‹_› (by decide)
      simp only [Except.map, hback]
      rw [← hstatus]

/-! ### All groups -/

theorem invalid_invalid : (info.invalid e).invalid e = info.invalid e := by
  unfold RadioResponseInfo.invalid
  split <;> rfl

/-- What is reported after these networks. -/
def reported (e : Int) (info : RadioResponseInfo) (networks : List OperatorInfo) :
    RadioResponseInfo :=
  if networks.any (·.status.isNone) then info.invalid e else info

theorem reported_cons {first : OperatorInfo} {rest : List OperatorInfo} :
    reported e (if first.status.isNone then info.invalid e else info) rest =
      reported e info (first :: rest) := by
  unfold reported
  rw [List.any_cons]
  cases hfirst : first.status.isNone with
  | true =>
    simp only [if_true, Bool.true_or, invalid_invalid, ite_self]
  | false => simp only [Bool.false_or, Bool.false_eq_true, if_false]

/-- The loop, from the `j`th of `m` groups more, decodes one after the other. -/
theorem loop_eq (hk : 0 < k) :
    loop l k (((j + m) * k : Nat) : Int) e m ((j * k : Nat) : Int) info =
      ((List.range' j m).mapM fun j => network l ((j * k : Nat) : Int)).map
        fun networks => (reported e info networks, networks) := by
  induction m generalizing j info with
  | zero =>
    have hend : ¬((j * k : Nat) : Int) < (((j + 0) * k : Nat) : Int) := by simp
    rw [loop, if_neg hend]
    rfl
  | succ m ih =>
    have hlt : ((j * k : Nat) : Int) < (((j + (m + 1)) * k : Nat) : Int) := by
      have : j * k < (j + (m + 1)) * k := Nat.mul_lt_mul_of_pos_right (by omega) hk
      omega
    have hnext : ((j * k : Nat) : Int) + k = (((j + 1) * k : Nat) : Int) := by
      rw [Nat.succ_mul]
      rfl
    have htotal : j + (m + 1) = j + 1 + m := by omega
    rw [loop, if_pos hlt, List.range'_succ, List.mapM_cons]
    cases hfirst : network l ((j * k : Nat) : Int) with
    | error x => rfl
    | ok first =>
      simp only [hnext, htotal, ih, bind, Except.bind]
      cases (List.range' (j + 1) m).mapM fun j => network l ((j * k : Nat) : Int) with
      | error x => rfl
      | ok rest => simp only [Except.map, pure, Except.pure, reported_cons]

/-! ### The lengths -/

variable {serial : Int} {responseType : Nat}

theorem groupBytes_eq (hpos : 0 < K.toInt) (hlt : K.toInt < 1073741824) :
    groupBytes K = 4 * K.toInt.toNat := by
  unfold groupBytes
  omega

theorem groupBytes_mod_four : groupBytes K % 4 = 0 := by
  unfold groupBytes
  omega

/-- A list of groups that is not empty has groups of as many bytes as the code says. -/
theorem groups_dvd (h : Groups r K.toInt n) (hlen : r.responseLen ≠ 0) :
    r.responseLen % groupBytes K = 0 := by
  unfold Groups at h
  have hlt := r.responseLen_lt
  have hn : 0 < (n : Int) := by
    rcases Nat.eq_zero_or_pos n with rfl | hn
    · omega
    · exact Int.natCast_pos.mpr hn
  have hk : 0 < K.toInt * 4 := by
    by_contra hneg
    have := Int.mul_nonpos_of_nonneg_of_nonpos (Int.le_of_lt hn) (Int.not_lt.mp hneg)
    omega
  have hle : K.toInt * 4 ≤ r.responseLen := by
    have := Int.mul_le_mul_of_nonneg_right (show (1 : Int) ≤ n from hn) (Int.le_of_lt hk)
    rw [Int.one_mul] at this
    rwa [h]
  rw [groupBytes_eq (by omega) (by omega)]
  apply Nat.mod_eq_zero_of_dvd
  refine ⟨n, ?_⟩
  have hcast : ((4 * K.toInt.toNat * n : Nat) : Int) = r.responseLen := by
    rw [h]
    push_cast
    rw [Int.toNat_of_nonneg (by omega), Int.mul_comm (n : Int), Int.mul_comm 4]
  omega

theorem groups_unique (h : Groups r K.toInt n) (h' : Groups r K.toInt m) (hk : K.toInt ≠ 0) :
    n = m := by
  have hmul : (n : Int) * (K.toInt * 4) = m * (K.toInt * 4) := h.symm.trans h'
  have := Int.eq_of_mul_eq_mul_right (by omega) hmul
  omega

theorem start_error : (populateResponseInfo {} serial responseType e).error = e := rfl

theorem invalid_error (h : info.error = e) :
    (info.invalid e).error = if e = RIL_E_SUCCESS then INVALID_RESPONSE else e := by
  unfold RadioResponseInfo.invalid
  split
  · rfl
  · exact h

/-- A list that is refused was refused rightly. -/
theorem decodes_refused (hlen : r.responseLen ≠ 0)
    (hrefused : r.resp = none ∨ (groupBytes K ≠ 0 ∧ r.responseLen % groupBytes K ≠ 0)) :
    Decodes K serial responseType e r := by
  have hget : getAvailableNetworksResponse K serial responseType e r =
      .ok ((populateResponseInfo {} serial responseType e).invalid e, []) := by
    unfold getAvailableNetworksResponse
    by_cases hnull : r.resp = none
    · exact if_pos ⟨hnull, hlen⟩
    · obtain ⟨hgb, hmod⟩ := hrefused.resolve_left hnull
      simp only [hnull, hgb, hmod, false_and, if_false, ne_eq, not_false_eq_true, if_true]
  have hinvalid : Invalid K.toInt r := by
    rcases hrefused with hnull | ⟨-, hmod⟩
    · exact Or.inl ⟨hnull, hlen⟩
    · exact Or.inr (Or.inl fun ⟨n, hn⟩ => hmod (groups_dvd hn hlen))
  refine ⟨_, _, hget, ?_, ?_, ?_⟩
  · rintro ⟨he, -⟩
    rw [invalid_error start_error, if_pos he]
  · intro h
    rw [invalid_error start_error, if_neg fun he => h ⟨he, hinvalid⟩]
  · intro l n hl _ hn
    rcases hrefused with hnull | ⟨-, hmod⟩
    · rw [hnull] at hl
      cases hl
    · exact absurd (groups_dvd hn hlen) hmod

theorem decodes_empty (hlen : r.responseLen = 0) (hgb : groupBytes K ≠ 0) :
    Decodes K serial responseType e r := by
  have hk : K.toInt ≠ 0 := by
    intro h
    rw [groupBytes, h] at hgb
    exact hgb rfl
  have hgroups : Groups r K.toInt 0 := by
    simp [Groups, hlen]
  have hget : getAvailableNetworksResponse K serial responseType e r =
      .ok (populateResponseInfo {} serial responseType e, []) := by
    simp [getAvailableNetworksResponse, hlen, hgb, loop]
  have hvalid : ¬Invalid K.toInt r := by
    rintro (⟨-, h⟩ | h | ⟨l, n, j, -, hn, hj, -⟩)
    · exact h hlen
    · exact h ⟨0, hgroups⟩
    · rw [groups_unique hn hgroups hk] at hj
      exact Nat.not_lt_zero j hj
  refine ⟨_, _, hget, ?_, ?_, ?_⟩
  · rintro ⟨-, h⟩
    exact absurd h hvalid
  · intro _
    rfl
  · intro l n _ _ hn
    rw [groups_unique hn hgroups hk]
    rfl

/-! ### Lists that are not empty -/

/-- The groups of a list are decoded one by one. -/
theorem getAvailableNetworksResponse_groups (hl : r.resp = some l) (hpos : 0 < K.toInt)
    (hlt : K.toInt < 1073741824) (hn : r.responseLen = 4 * K.toInt.toNat * n) :
    getAvailableNetworksResponse K serial responseType e r =
      ((List.range n).mapM fun j => network l ((j * K.toInt.toNat : Nat) : Int)).map
        fun networks =>
          (reported e (populateResponseInfo {} serial responseType e) networks, networks) := by
  have hgb := groupBytes_eq hpos hlt
  have hgb0 : groupBytes K ≠ 0 := by omega
  have hmod : r.responseLen % groupBytes K = 0 := by
    rw [hn, hgb]
    exact Nat.mul_mod_right _ _
  have hstrings : r.responseLen / 4 = n * K.toInt.toNat := by
    rw [hn, Nat.mul_assoc, Nat.mul_div_cancel_left _ (by decide), Nat.mul_comm]
  have hk : ((K.toInt.toNat : Nat) : Int) = K.toInt := Int.toNat_of_nonneg (Int.le_of_lt hpos)
  have hnum : (((n * K.toInt.toNat : Nat) : Int)).tdiv K.toInt = n := by
    rw [Int.natCast_mul, hk]
    exact Int.mul_tdiv_cancel _ (by omega)
  have hloop := @loop_eq l K.toInt.toNat n 0 e (populateResponseInfo {} serial responseType e)
    (by omega)
  rw [Nat.zero_add, Nat.zero_mul, hk, ← List.range_eq_range'] at hloop
  unfold getAvailableNetworksResponse
  rw [if_neg (by simp [hl]), if_neg hgb0, if_neg (not_not_intro hmod)]
  simp only [hstrings, hnum, hl, Option.getD_some, Int.toNat_natCast]
  rw [if_neg (by omega)]
  exact hloop

/-- Where the groups are not as many, something is out of bounds or of a negative size. -/
theorem getAvailableNetworksResponse_fails (hlen : r.responseLen ≠ 0) (hl : r.resp = some l)
    (hgb : groupBytes K ≠ 0) (hmod : r.responseLen % groupBytes K = 0)
    (hk : K.toInt ≤ 0 ∨ 1073741824 ≤ K.toInt) :
    ∃ x, getAvailableNetworksResponse K serial responseType e r = .error x := by
  have hfour : r.responseLen % 4 = 0 := by
    have hdvd : 4 ∣ groupBytes K := Nat.dvd_of_mod_eq_zero groupBytes_mod_four
    exact Nat.mod_eq_zero_of_dvd (Nat.dvd_trans hdvd (Nat.dvd_of_mod_eq_zero hmod))
  have hlt := r.responseLen_lt
  have hnum : ((r.responseLen / 4 : Nat) : Int).tdiv K.toInt ≤ 0 := by
    rcases hk with hk | hk
    · exact Int.tdiv_nonpos_of_nonneg_of_nonpos (Int.natCast_nonneg _) hk
    · have hsmall : ((r.responseLen / 4 : Nat) : Int) < K.toInt := by omega
      exact Int.le_of_eq (Int.tdiv_eq_zero_of_lt (Int.natCast_nonneg _) hsmall)
  unfold getAvailableNetworksResponse
  rw [if_neg (by simp [hl]), if_neg hgb, if_neg (not_not_intro hmod)]
  simp only
  by_cases hneg : ((r.responseLen / 4 : Nat) : Int).tdiv K.toInt < 0
  · exact ⟨.badSize, if_pos hneg⟩
  · have hzero : ((r.responseLen / 4 : Nat) : Int).tdiv K.toInt = 0 := by omega
    refine ⟨.outOfBounds, ?_⟩
    rw [if_neg hneg, hzero]
    exact if_pos (by omega)

/-- The groups have the status strings of the list. -/
theorem statusesOk_iff (hk : 4 ≤ k) (hlen : l.length = n * k) :
    StatusesOk l k ↔ ∀ j < n, ∃ s, l[j * k + 3]? = some (some s) ∧ ¬Extended s := by
  constructor
  · intro h j hj
    apply h
    have hle := Nat.mul_le_mul_right k (Nat.succ_le_of_lt hj)
    rw [Nat.succ_mul] at hle
    omega
  · intro h j hj
    apply h
    exact Nat.lt_of_mul_lt_mul_right (show j * k < n * k by omega)

theorem mapM_network_iff (hk : 4 ≤ k) (hlen : l.length = n * k) :
    ((List.range n).mapM fun j => network l ((j * k : Nat) : Int)) =
        .ok ((List.range n).map (networkOf l k)) ↔ StatusesOk l k := by
  rw [WordBlock.mapM_eq_ok_iff, List.forall₂_map_right_iff, List.forall₂_same,
    statusesOk_iff hk hlen]
  have hgroup : ∀ j ∈ List.range n, j * k + 3 < l.length := by
    intro j hj
    have hle := Nat.mul_le_mul_right k (Nat.succ_le_of_lt (List.mem_range.mp hj))
    rw [Nat.succ_mul] at hle
    omega
  constructor
  · intro h j hj
    have hj := List.mem_range.mpr hj
    exact (network_eq_networkOf_iff (hgroup j hj)).mp (h j hj)
  · intro h j hj
    exact (network_eq_networkOf_iff (hgroup j hj)).mpr (h j (List.mem_range.mp hj))

/-- Fewer than four pointers a group are not enough for the last one. -/
theorem mapM_network_fails (hk : k < 4) (hn : 0 < n) (hlen : l.length = n * k) :
    ∃ x, ((List.range n).mapM fun j => network l ((j * k : Nat) : Int)) = .error x := by
  have hlast : (n - 1) * k + k = l.length := by
    rw [hlen, ← Nat.succ_mul]
    congr 1
    omega
  have hpointer : pointer l ((((n - 1) * k : Nat) : Int) + 3) = .error .outOfBounds :=
    @pointer_fails l ((n - 1) * k + 3) _ rfl (by omega)
  apply WordBlock.mapM_fails (List.mem_range.mpr (Nat.sub_lt hn Nat.one_pos))
  unfold network
  simp only [hpointer, bind, Except.bind]
  cases pointer l (((n - 1) * k : Nat) : Int) with
  | error x => exact ⟨x, rfl⟩
  | ok alphaLong =>
    cases pointer l ((((n - 1) * k : Nat) : Int) + 1) with
    | error x => exact ⟨x, rfl⟩
    | ok alphaShort =>
      cases pointer l ((((n - 1) * k : Nat) : Int) + 2) with
      | error x => exact ⟨x, rfl⟩
      | ok operatorNumeric => exact ⟨_, rfl⟩

/-- What is reported for networks that are what they should be. -/
theorem reported_networkOf (hl : r.resp = some l) (hn : Groups r K.toInt n) (hk : K.toInt ≠ 0)
    (hinfo : info.error = e) {networks : List OperatorInfo}
    (hnetworks : networks = (List.range n).map (networkOf l K.toInt.toNat)) :
    (e = RIL_E_SUCCESS ∧ Invalid K.toInt r → (reported e info networks).error = INVALID_RESPONSE) ∧
      (¬(e = RIL_E_SUCCESS ∧ Invalid K.toInt r) → (reported e info networks).error = e) := by
  have hiff : Invalid K.toInt r ↔ networks.any (·.status.isNone) = true := by
    simp only [hnetworks, List.any_map, List.any_eq_true, List.mem_range, Function.comp_apply,
      Option.isNone_iff_eq_none]
    constructor
    · rintro (⟨h, -⟩ | h | ⟨l', n', j, hl', hn', hj, hstatus⟩)
      · rw [hl] at h
        cases h
      · exact absurd ⟨n, hn⟩ h
      · rw [hl] at hl'
        cases hl'
        rw [groups_unique hn' hn hk] at hj
        exact ⟨j, hj, hstatus⟩
    · rintro ⟨j, hj, hstatus⟩
      exact Or.inr (Or.inr ⟨l, n, j, hl, hn, hj, hstatus⟩)
  unfold reported
  by_cases hinvalid : Invalid K.toInt r
  · rw [if_pos (hiff.mp hinvalid), invalid_error hinfo]
    constructor
    · rintro ⟨he, -⟩
      exact if_pos he
    · intro h
      exact if_neg fun he => h ⟨he, hinvalid⟩
  · rw [if_neg fun h => hinvalid (hiff.mpr h)]
    constructor
    · rintro ⟨-, h⟩
      exact absurd h hinvalid
    · intro _
      exact hinfo

theorem decodes_groups_iff (hl : r.resp = some l) (hk : 4 ≤ K.toInt) (hlt : K.toInt < 1073741824)
    (hn : r.responseLen = 4 * K.toInt.toNat * n) :
    Decodes K serial responseType e r ↔ StatusesOk l K.toInt.toNat := by
  have hget : getAvailableNetworksResponse K serial responseType e r = _ :=
    getAvailableNetworksResponse_groups hl (by omega) hlt hn
  have hlen : l.length = n * K.toInt.toNat := by
    rw [r.length_resp l hl, hn, Nat.mul_assoc, Nat.mul_div_cancel_left _ (by decide),
      Nat.mul_comm]
  have hgroups : Groups r K.toInt n := by
    unfold Groups
    rw [hn]
    push_cast
    rw [Int.toNat_of_nonneg (by omega), Int.mul_comm (n : Int), Int.mul_comm 4]
  rw [← mapM_network_iff (by omega) hlen]
  constructor
  · rintro ⟨info, networks, hok, -, -, hnetworks⟩
    rw [hget] at hok
    rw [hnetworks l n hl hk hgroups] at hok
    cases hm : (List.range n).mapM fun j => network l ((j * K.toInt.toNat : Nat) : Int) with
    | error x =>
      rw [hm] at hok
      cases hok
    | ok ys =>
      rw [hm] at hok
      exact congrArg Except.ok (congrArg Prod.snd (Except.ok.inj hok))
  · intro hm
    rw [hm] at hget
    have hstart : (populateResponseInfo {} serial responseType e).error = e := start_error
    obtain ⟨hinvalid, hvalid⟩ := reported_networkOf hl hgroups (by omega) hstart rfl
    refine ⟨_, _, hget, hinvalid, hvalid, ?_⟩
    intro l' n' hl' _ hn'
    rw [hl] at hl'
    cases hl'
    rw [groups_unique hn' hgroups (by omega)]

/-! ### Every list -/

theorem not_decodes_of_error
    (h : ∃ x, getAvailableNetworksResponse K serial responseType e r = .error x) :
    ¬Decodes K serial responseType e r := by
  rintro ⟨info, networks, hok, -⟩
  obtain ⟨x, hx⟩ := h
  rw [hx] at hok
  cases hok

/-- A list that is not empty and not refused. -/
theorem decodes_list_iff (hlen : r.responseLen ≠ 0) (hl : r.resp = some l)
    (hgb : groupBytes K ≠ 0) (hmod : r.responseLen % groupBytes K = 0) :
    Decodes K serial responseType e r ↔
      4 ≤ K.toInt ∧ K.toInt < 1073741824 ∧ StatusesOk l K.toInt.toNat := by
  by_cases hk : 0 < K.toInt ∧ K.toInt < 1073741824
  · obtain ⟨hpos, hlt⟩ := hk
    obtain ⟨n, hn⟩ := Nat.dvd_of_mod_eq_zero hmod
    rw [groupBytes_eq hpos hlt] at hn
    by_cases hfour : 4 ≤ K.toInt
    · rw [decodes_groups_iff hl hfour hlt hn]
      exact ⟨fun h => ⟨hfour, hlt, h⟩, fun h => h.2.2⟩
    · apply iff_of_false
      · apply not_decodes_of_error
        have hpos' : 0 < n := by
          rcases Nat.eq_zero_or_pos n with rfl | h
          · exact absurd hn hlen
          · exact h
        have hstrings : l.length = n * K.toInt.toNat := by
          rw [r.length_resp l hl, hn, Nat.mul_assoc, Nat.mul_div_cancel_left _ (by decide),
            Nat.mul_comm]
        obtain ⟨x, hx⟩ := mapM_network_fails (by omega) hpos' hstrings
        refine ⟨x, ?_⟩
        rw [getAvailableNetworksResponse_groups hl hpos hlt hn, hx]
        rfl
      · exact fun h => hfour h.1
  · apply iff_of_false
    · exact not_decodes_of_error
        (getAvailableNetworksResponse_fails hlen hl hgb hmod (by omega))
    · intro h
      exact hk ⟨by omega, h.2.1⟩

/-- For any stride, error and payload, the list is decoded as it should be if and only if it is
decodable. -/
theorem decodes_operators_iff (K : Int32) (serial : Int) (responseType : Nat) (e : Int)
    (r : Response) : Decodes K serial responseType e r ↔ Decodable K r := by
  by_cases hnull : r.resp = none ∧ r.responseLen ≠ 0
  · exact iff_of_true (decodes_refused hnull.2 (Or.inl hnull.1)) (Or.inl hnull)
  by_cases hgb : groupBytes K = 0
  · apply iff_of_false
    · apply not_decodes_of_error
      refine ⟨.divideByZero, ?_⟩
      unfold getAvailableNetworksResponse
      rw [if_neg hnull, if_pos hgb]
    · rintro (h | ⟨h, -⟩)
      · exact hnull h
      · exact h hgb
  by_cases hlen : r.responseLen = 0
  · exact iff_of_true (decodes_empty hlen hgb) (Or.inr ⟨hgb, Or.inl hlen⟩)
  by_cases hmod : r.responseLen % groupBytes K = 0
  · cases hl : r.resp with
    | none => exact absurd ⟨hl, hlen⟩ hnull
    | some l =>
      rw [decodes_list_iff hlen hl hgb hmod]
      unfold Decodable
      simp only [hl, hgb, hlen, hmod, Option.getD_some, reduceCtorEq, false_and, false_or, ne_eq,
        not_false_eq_true, not_true_eq_false, true_and]
  · exact iff_of_true (decodes_refused hlen (Or.inr ⟨hgb, hmod⟩))
      (Or.inr ⟨hgb, Or.inr (Or.inl hmod)⟩)

/-- A group of four whose pointers are all null. -/
def nullGroup : Response where
  resp := some [none, none, none, none]
  responseLen := 16
  responseLen_lt := by decide
  length_resp := by
    rintro l ⟨⟩
    rfl

theorem not_decodes_nullGroup :
    ¬∀ (K : Int32) (serial : Int) (responseType : Nat) (e : Int) (r : Response),
      Decodes K serial responseType e r := by
  intro h
  exact not_decodes_of_error ⟨.nullString, rfl⟩ (h 4 0 0 0 nullGroup)

end Apq8084.Ril.Payloads.Operators
