import Apq8084.Lib.CStrings
import Apq8084.Ril.PointerLists

/-! Settings that the framework can ask for again: what `ril_service.cpp` passes to the vendor, and
what comes back from a vendor that reports the setting. -/
namespace Apq8084.Ril.Payloads

open CStrings WordBlock WordBlock.Layout

/-! ### Broadcast configurations -/

/-- The first byte of a word with nothing but padding in the others. -/
def selectedWord (selected : Bool) : Word := if selected then 1 else 0

/-- `gsmBci[i]` of `setGsmBroadcastConfig`. -/
def gsmBci (configInfo : GsmBroadcastSmsConfigInfo) : RIL_GSM_BroadcastSmsConfigInfo where
  fromServiceId := configInfo.fromServiceId.toBitVec
  toServiceId := configInfo.toServiceId.toBitVec
  fromCodeScheme := configInfo.fromCodeScheme.toBitVec
  toCodeScheme := configInfo.toCodeScheme.toBitVec
  selected := selectedWord configInfo.selected

/-- `cdmaBci[i]` of `setCdmaBroadcastConfig`. -/
def cdmaBci (configInfo : CdmaBroadcastSmsConfigInfo) : RIL_CDMA_BroadcastSmsConfigInfo where
  service_category := configInfo.serviceCategory.toBitVec
  language := configInfo.language.toBitVec
  selected := selectedWord configInfo.selected

section

variable {S : Type} [Layout S]

/-- The array of pointers to the elements of an array that starts at `base`. -/
def elementPointers (S : Type) [Layout S] (base : Word) (num : Nat) : List Word :=
  (List.range num).map fun i => base + .ofNat 32 (sizeof S * i)

/-- The memory of a request that has the array `l` at `base`. -/
def withArray (mem : VendorMemory) (base : Word) (l : List S) : VendorMemory :=
  { mem with block := fun pointer => (bytesOf (array l)).drop (pointer - base).toNat }

end

/-- What the vendor is called with by `setGsmBroadcastConfig`. -/
def setGsmBroadcastConfig (mem : VendorMemory) (base : Word)
    (configInfo : List GsmBroadcastSmsConfigInfo) : VendorMemory × Payload :=
  (withArray mem base (configInfo.map gsmBci),
    .block (bytesOf (elementPointers RIL_GSM_BroadcastSmsConfigInfo base configInfo.length)))

def setCdmaBroadcastConfig (mem : VendorMemory) (base : Word)
    (configInfo : List CdmaBroadcastSmsConfigInfo) : VendorMemory × Payload :=
  (withArray mem base (configInfo.map cdmaBci),
    .block (bytesOf (elementPointers RIL_CDMA_BroadcastSmsConfigInfo base configInfo.length)))

/-! ### Allowed carriers -/

/-- A carrier of the request, with the places of its strings. -/
structure StoredCarrier where
  carrier : Carrier
  mcc : Word
  mnc : Word
  matchData : Word

/-- The body of the loops of `setAllowedCarriers`. -/
def rilCarrier (s : StoredCarrier) : RIL_Carrier where
  mcc := s.mcc
  mnc := s.mnc
  match_type := .ofInt 32 s.carrier.matchType
  match_data := s.matchData

/-- `setAllowedCarriers` with the arrays that it allocates: the record, and what is in the arrays.
Without memory the request fails. `allAllowed` is not used. -/
def setAllowedCarriers (allowedCarriers excludedCarriers : Word) (_allAllowed : Bool)
    (allowed excluded : List StoredCarrier) :
    Option (RIL_CarrierRestrictions × List RIL_Carrier × List RIL_Carrier) :=
  if allowedCarriers = 0 ∨ excludedCarriers = 0 then none
  else some (⟨.ofNat 32 allowed.length, .ofNat 32 excluded.length, allowedCarriers,
    excludedCarriers⟩, allowed.map rilCarrier, excluded.map rilCarrier)

/-- The pointer leads to the string. -/
def IsString (mem : Memory) (pointer : Word) (s : HidlString) : Prop :=
  pointer ≠ 0 ∧ mem.cString pointer = s.cStr

structure IsCarrier (mem : Memory) (c : RIL_Carrier) (carrier : Carrier) : Prop where
  mcc : IsString mem c.mcc carrier.mcc
  mnc : IsString mem c.mnc carrier.mnc
  match_type : c.match_type = .ofInt 32 carrier.matchType
  match_data : IsString mem c.match_data carrier.matchData

/-- The payload tells of these carriers, wherever the vendor keeps them. -/
def TellsCarriers (mem : Memory) (response : Payload) (carriers : CarrierRestrictions) : Prop :=
  ∃ cr : RIL_CarrierRestrictions, response = .block (Layout.bytes cr) ∧
    cr.len_allowed_carriers.toInt = carriers.allowedCarriers.length ∧
    cr.len_excluded_carriers.toInt = carriers.excludedCarriers.length ∧
    List.Forall₂ (IsCarrier mem) (mem.carriers cr.allowed_carriers) carriers.allowedCarriers ∧
    List.Forall₂ (IsCarrier mem) (mem.carriers cr.excluded_carriers) carriers.excludedCarriers

/-! ### Radio capability -/

def MAX_UUID_LENGTH : Nat := 64

structure RadioCapability where
  session : Int32
  phase : Int32
  raf : Int32
  logicalModemUuid : HidlString
  status : Int32

/-- The record that `setRadioCapability` passes; its version stays 0. -/
def setRadioCapability (rc : RadioCapability) : Block :=
  bytesOf [0, rc.session.toBitVec, rc.phase.toBitVec, rc.raf.toBitVec] ++
    strlcpy 0 rc.logicalModemUuid.cStr MAX_UUID_LENGTH ++ bytesOf [rc.status.toBitVec]

/-- Read up to the next terminator, wherever it is. -/
def Payload.cString (response : Payload) (i : Nat) : Except Fault CString :=
  match response with
  | .null _ => .error .outOfBounds
  | .block b =>
    match stringAt 0 (b.drop i) with
    | some s => .ok s
    | none => .error .outOfBounds

def convertRilRadioCapabilityToHal (response : Payload) : Except Fault RadioCapability := do
  let session ← response.word 1
  let phase ← response.word 2
  let rat ← response.word 3
  let logicalModemUuid ← response.cString 16
  let status ← response.word 20
  return ⟨.ofBitVec session, .ofBitVec phase, .ofBitVec rat, .ofCStr logicalModemUuid,
    .ofBitVec status⟩

def responseRadioCapability (serial : Int) (responseType : Nat) (e : Int)
    (response : Payload) : Except Fault (Answer RadioCapability) :=
  let responseInfo := populateResponseInfo {} serial responseType e
  if response.isNull ∨ response.responseLen ≠ 84 then
    .ok (responseInfo.invalid e, ⟨0, 0, 0, ⟨0, []⟩, 0⟩)
  else do
    let result ← convertRilRadioCapabilityToHal response
    return (responseInfo, result)

def getRadioCapabilityResponse := responseRadioCapability

def setRadioCapabilityResponse := responseRadioCapability

/-! ### What the vendor is called with -/

section

variable {S : Type} [Layout S] {l : List S} {i : Nat} {mem : VendorMemory} {base : Word}

theorem drop_array (hi : i < l.length) :
    (bytesOf (array l)).drop (sizeof S * i) =
      Layout.bytes l[i] ++ bytesOf (array (l.drop (i + 1))) := by
  have hsplit : array l = array (l.take i) ++ (words l[i] ++ array (l.drop (i + 1))) := by
    calc array l = array (l.take i ++ l.drop i) := by rw [List.take_append_drop]
      _ = array (l.take i) ++ array (l.drop i) := List.flatMap_append
      _ = _ := by rw [List.drop_eq_getElem_cons hi]; rfl
  have hlen : (bytesOf (array (l.take i))).length = sizeof S * i := by
    rw [length_bytesOf, length_array, List.length_take_of_le (Nat.le_of_lt hi), sizeof,
      Nat.mul_assoc]
  have happend : ∀ ws vs : List Word, bytesOf (ws ++ vs) = bytesOf ws ++ bytesOf vs :=
    fun ws vs => List.flatMap_append
  rw [hsplit, happend, happend, List.drop_append_of_le_length (Nat.le_of_eq hlen.symm),
    List.drop_eq_nil_of_le (Nat.le_of_eq hlen)]
  rfl

/-- The vendor can read the elements of the array through their pointers. -/
theorem points_elements (hsize : sizeof S * l.length < 4294967296) :
    Points (withArray mem base l) (.block (bytesOf (elementPointers S base l.length))) l := by
  refine .inr ⟨_, rfl, List.forall₂_iff_get.mpr ⟨?_, fun i hi hil =>
    ⟨bytesOf (array (l.drop (i + 1))), ?_⟩⟩⟩
  · simp [elementPointers]
  · have hoffset : (base + .ofNat 32 (sizeof S * i) - base).toNat = sizeof S * i := by
      have hle : sizeof S * i ≤ sizeof S * l.length := Nat.mul_le_mul_left _ (Nat.le_of_lt hil)
      rw [BitVec.add_comm, BitVec.add_sub_cancel, BitVec.toNat_ofNat]
      exact Nat.mod_eq_of_lt (by omega)
    simp only [List.get_eq_getElem, elementPointers, List.getElem_map, List.getElem_range,
      withArray, hoffset]
    exact drop_array hil

end

/-! ### What comes back -/

theorem toConfig_gsmBci (configInfo : GsmBroadcastSmsConfigInfo) :
    (gsmBci configInfo).toConfig = configInfo := by
  obtain ⟨fromServiceId, toServiceId, fromCodeScheme, toCodeScheme, selected⟩ := configInfo
  cases selected <;> rfl

theorem toConfig_cdmaBci (configInfo : CdmaBroadcastSmsConfigInfo) :
    (cdmaBci configInfo).toConfig = configInfo := by
  obtain ⟨serviceCategory, language, selected⟩ := configInfo
  cases selected <;> rfl

/-- What is left of a carrier whose strings and match type went through the vendor. -/
def Carrier.cut (carrier : Carrier) : Carrier where
  mcc := .ofCStr carrier.mcc.cStr
  mnc := .ofCStr carrier.mnc.cStr
  matchType := (BitVec.ofInt 32 carrier.matchType).toInt
  matchData := .ofCStr carrier.matchData.cStr

/-- The string has no terminator inside. -/
def IsWhole (s : HidlString) : Prop := s.size = s.cStr.length

theorem ofCStr_eq_iff {s : HidlString} : HidlString.ofCStr s.cStr = s ↔ IsWhole s := by
  obtain ⟨size, cStr⟩ := s
  simp only [HidlString.ofCStr, IsWhole, HidlString.mk.injEq, and_true]
  exact eq_comm

structure Carrier.Kept (carrier : Carrier) : Prop where
  mcc : IsWhole carrier.mcc
  mnc : IsWhole carrier.mnc
  matchType : -2147483648 ≤ carrier.matchType ∧ carrier.matchType < 2147483648
  matchData : IsWhole carrier.matchData

theorem toInt_ofInt_eq_iff {i : Int} :
    (BitVec.ofInt 32 i).toInt = i ↔ -2147483648 ≤ i ∧ i < 2147483648 := by
  rw [BitVec.toInt_ofInt, Int.bmod_def]
  omega

theorem cut_eq_iff {carrier : Carrier} : carrier.cut = carrier ↔ carrier.Kept := by
  obtain ⟨mcc, mnc, matchType, matchData⟩ := carrier
  simp only [Carrier.cut, Carrier.mk.injEq, ofCStr_eq_iff, toInt_ofInt_eq_iff]
  exact ⟨fun ⟨h₁, h₂, h₃, h₄⟩ => ⟨h₁, h₂, h₃, h₄⟩, fun ⟨h₁, h₂, h₃, h₄⟩ => ⟨h₁, h₂, h₃, h₄⟩⟩

section

variable {mem : Memory} {response : Payload} {carriers : CarrierRestrictions}

theorem toCarrier_of_isCarrier {c : RIL_Carrier} {carrier : Carrier}
    (h : IsCarrier mem c carrier) : c.toCarrier mem = carrier.cut := by
  have hstring : ∀ {pointer s}, IsString mem pointer s →
      convertCharPtrToHidlString mem pointer = .ofCStr s.cStr := by
    intro pointer s hs
    rw [convertCharPtrToHidlString, if_neg hs.1, hs.2]
  simp only [RIL_Carrier.toCarrier, Carrier.cut, hstring h.mcc, hstring h.mnc, h.match_type,
    hstring h.match_data]

theorem firstCarriers_eq {pointer n : Word} {l : List Carrier} (hn : n.toInt = l.length)
    (h : List.Forall₂ (IsCarrier mem) (mem.carriers pointer) l) :
    RIL_CarrierRestrictions.firstCarriers mem pointer n = l.map Carrier.cut := by
  have hlen := h.length_eq
  have hmap : (mem.carriers pointer).map (·.toCarrier mem) = l.map Carrier.cut := by
    rw [← List.forall₂_eq_eq_eq, List.forall₂_map_left_iff, List.forall₂_map_right_iff]
    exact h.imp fun c carrier hc => toCarrier_of_isCarrier hc
  rw [RIL_CarrierRestrictions.firstCarriers, hn, Int.toNat_natCast, ← hlen, List.take_length, hmap]

/-- Everything but the flag comes from the lists, cut at terminators. -/
theorem getAllowedCarriersResponse_tells (serial : Int) (responseType : Nat) (e : Int)
    (h : TellsCarriers mem response carriers) :
    getAllowedCarriersResponse mem serial responseType e response =
      .ok (populateResponseInfo {} serial responseType e,
        carriers.allowedCarriers.isEmpty && carriers.excludedCarriers.isEmpty,
        ⟨carriers.allowedCarriers.map Carrier.cut, carriers.excludedCarriers.map Carrier.cut⟩) := by
  obtain ⟨cr, rfl, hallowed, hexcluded, hfirst, hsecond⟩ := h
  refine getAllowedCarriersResponse_held (.inr ⟨cr, rfl, ⟨⟨?_, ?_⟩, ?_, ?_⟩, ?_⟩)
  · omega
  · rw [hallowed, hfirst.length_eq]
  · omega
  · rw [hexcluded, hsecond.length_eq]
  · rw [RIL_CarrierRestrictions.toCarriers, firstCarriers_eq hallowed hfirst,
      firstCarriers_eq hexcluded hsecond, hallowed, hexcluded]
    cases carriers.allowedCarriers <;> cases carriers.excludedCarriers <;> simp

end

/-- The strings of the carrier are where the request says. -/
structure IsStored (mem : Memory) (s : StoredCarrier) : Prop where
  mcc : IsString mem s.mcc s.carrier.mcc
  mnc : IsString mem s.mnc s.carrier.mnc
  matchData : IsString mem s.matchData s.carrier.matchData

theorem forall₂_isCarrier {mem : Memory} {l : List StoredCarrier}
    (h : ∀ s ∈ l, IsStored mem s) :
    List.Forall₂ (IsCarrier mem) (l.map rilCarrier) (l.map (·.carrier)) := by
  rw [List.forall₂_map_left_iff, List.forall₂_map_right_iff, List.forall₂_same]
  intro s hs
  exact ⟨(h s hs).mcc, (h s hs).mnc, rfl, (h s hs).matchData⟩

theorem ofNat_toInt {n : Nat} (h : n < 2147483648) : (BitVec.ofNat 32 n).toInt = n := by
  rw [BitVec.toInt_ofNat', Int.bmod_def]
  omega

/-! ### The capability -/

/-- What is left of a name whose copy has 64 places. -/
def cutUuid (s : HidlString) : HidlString :=
  .ofCStr ((s.cStr.take (MAX_UUID_LENGTH - 1)).takeWhile (· ≠ 0))

theorem convertRilRadioCapabilityToHal_set (rc : RadioCapability) :
    convertRilRadioCapabilityToHal (.block (setRadioCapability rc)) =
      .ok { rc with logicalModemUuid := cutUuid rc.logicalModemUuid } := by
  obtain ⟨session, phase, raf, uuid, status⟩ := rc
  have hhead : ∀ k w, [0, session.toBitVec, phase.toBitVec, raf.toBitVec][k]? = some w →
      (Payload.block (setRadioCapability ⟨session, phase, raf, uuid, status⟩)).word k = .ok w := by
    intro k w hw
    exact word_append (word_append (WordBlock.word_ok hw))
  have hfield : (Payload.block (setRadioCapability ⟨session, phase, raf, uuid, status⟩)).cString 16
      = .ok ((uuid.cStr.take (MAX_UUID_LENGTH - 1)).takeWhile (· ≠ 0)) := by
    have hdrop : (setRadioCapability ⟨session, phase, raf, uuid, status⟩).drop 16 =
        strlcpy 0 uuid.cStr MAX_UUID_LENGTH ++ bytesOf [status.toBitVec] := by
      rw [setRadioCapability, List.append_assoc]
      rfl
    simp only [Payload.cString, hdrop, stringAt_strlcpy (show 0 < MAX_UUID_LENGTH by decide)]
  have hstatus : (Payload.block (setRadioCapability ⟨session, phase, raf, uuid, status⟩)).word 20
      = .ok status.toBitVec := by
    have hlen : (bytesOf [0, session.toBitVec, phase.toBitVec, raf.toBitVec] ++
        strlcpy 0 uuid.cStr MAX_UUID_LENGTH).length = 80 := by
      rw [List.length_append, length_strlcpy (by decide), length_bytesOf]
      rfl
    have hlast : WordBlock.word (bytesOf [status.toBitVec]) 0 = .ok status.toBitVec :=
      WordBlock.word_ok rfl
    change WordBlock.word _ 20 = _
    rw [WordBlock.word, setRadioCapability, List.drop_append_of_le_length (Nat.le_of_eq hlen.symm),
      List.drop_eq_nil_of_le (Nat.le_of_eq hlen)]
    exact hlast
  simp only [convertRilRadioCapabilityToHal, hhead 1 _ rfl, hhead 2 _ rfl, hhead 3 _ rfl, hfield,
    hstatus]
  rfl

/-- The name fits with its terminator. -/
structure FitsUuid (s : HidlString) : Prop where
  whole : IsWhole s
  length : s.cStr.length < MAX_UUID_LENGTH
  terminator : 0 ∉ s.cStr

theorem cutUuid_eq_iff {s : HidlString} : cutUuid s = s ↔ FitsUuid s := by
  obtain ⟨size, cStr⟩ := s
  have hcut : cutUuid ⟨size, cStr⟩ = ⟨size, cStr⟩ ↔
      (cStr.take (MAX_UUID_LENGTH - 1)).takeWhile (· ≠ 0) = cStr ∧ size = cStr.length := by
    simp only [cutUuid, HidlString.ofCStr, HidlString.mk.injEq]
    constructor
    · rintro ⟨hsize, hcStr⟩
      exact ⟨hcStr, by rw [← hsize, hcStr]⟩
    · rintro ⟨hcStr, hsize⟩
      exact ⟨by rw [hcStr, hsize], hcStr⟩
  rw [hcut, takeWhile_take_eq_iff]
  constructor
  · rintro ⟨⟨hlen, hterminator⟩, hsize⟩
    exact ⟨hsize, Nat.lt_succ_of_le hlen, hterminator⟩
  · rintro ⟨hsize, hlen, hterminator⟩
    exact ⟨⟨Nat.le_of_lt_succ hlen, hterminator⟩, hsize⟩

theorem responseRadioCapability_set (serial : Int) (responseType : Nat) (e : Int)
    (rc : RadioCapability) :
    responseRadioCapability serial responseType e (.block (setRadioCapability rc)) =
      .ok (populateResponseInfo {} serial responseType e,
        { rc with logicalModemUuid := cutUuid rc.logicalModemUuid }) := by
  have hlen : (setRadioCapability rc).length = 84 := by
    rw [setRadioCapability, List.length_append, List.length_append, length_strlcpy (by decide),
      length_bytesOf, length_bytesOf]
    rfl
  rw [responseRadioCapability, if_neg (by simp [Payload.isNull, Payload.responseLen, hlen]),
    convertRilRadioCapabilityToHal_set]
  rfl

/-! ### The settings -/

/-- The arrays of the request are in memory, with the strings of the carriers. -/
structure HoldsRequest (mem : Memory) (cr : RIL_CarrierRestrictions)
    (allowedCarriers excludedCarriers : List RIL_Carrier) (allowed excluded : List StoredCarrier) :
    Prop where
  allowed_carriers : mem.carriers cr.allowed_carriers = allowedCarriers
  excluded_carriers : mem.carriers cr.excluded_carriers = excludedCarriers
  stored : ∀ s ∈ allowed ++ excluded, IsStored mem s
  allowed_length : allowed.length < 2147483648
  excluded_length : excluded.length < 2147483648

theorem setAllowedCarriers_tells {mem : Memory} {a b : Word} {allAllowed : Bool}
    {allowed excluded : List StoredCarrier} {cr : RIL_CarrierRestrictions}
    {allowedCarriers excludedCarriers : List RIL_Carrier}
    (hset : setAllowedCarriers a b allAllowed allowed excluded =
      some (cr, allowedCarriers, excludedCarriers))
    (h : HoldsRequest mem cr allowedCarriers excludedCarriers allowed excluded) :
    TellsCarriers mem (.block (Layout.bytes cr))
      ⟨allowed.map (·.carrier), excluded.map (·.carrier)⟩ := by
  obtain ⟨hallowed, hexcluded, hstored, hlenallowed, hlenexcluded⟩ := h
  rw [setAllowedCarriers] at hset
  split at hset
  · cases hset
  · obtain ⟨rfl, rfl, rfl⟩ : _ ∧ _ ∧ _ := by simpa using hset
    rw [List.forall_mem_append] at hstored
    refine ⟨_, rfl, ?_, ?_, ?_, ?_⟩
    · rw [ofNat_toInt hlenallowed, List.length_map]
    · rw [ofNat_toInt hlenexcluded, List.length_map]
    · rw [hallowed]
      exact forall₂_isCarrier hstored.1
    · rw [hexcluded]
      exact forall₂_isCarrier hstored.2

theorem map_cut_eq_iff {l : List Carrier} : l.map Carrier.cut = l ↔ ∀ c ∈ l, c.Kept := by
  simp only [← cut_eq_iff]
  conv_lhs => rhs; rw [← List.map_id l]
  exact List.map_inj_left

theorem tells_eq_iff {mem : Memory} {response : Payload} {carriers : CarrierRestrictions}
    (serial : Int) (responseType : Nat) (e : Int) (allAllowed : Bool)
    (h : TellsCarriers mem response carriers) :
    getAllowedCarriersResponse mem serial responseType e response =
      .ok (populateResponseInfo {} serial responseType e, allAllowed, carriers) ↔
    allAllowed = (carriers.allowedCarriers.isEmpty && carriers.excludedCarriers.isEmpty) ∧
      ∀ c ∈ carriers.allowedCarriers ++ carriers.excludedCarriers, c.Kept := by
  obtain ⟨allowed, excluded⟩ := carriers
  rw [getAllowedCarriersResponse_tells serial responseType e h, List.forall_mem_append,
    ← map_cut_eq_iff, ← map_cut_eq_iff]
  simp only [Except.ok.injEq, Prod.mk.injEq, true_and, CarrierRestrictions.mk.injEq]
  rw [eq_comm]

/-- A setting that the vendor reports as it was passed comes back as it was set: the broadcast
configurations always, the carriers up to terminators and with a flag of their own, and the radio
capability when the copy of its name is complete. -/
theorem settings_read_back (mem : VendorMemory) :
    ((∀ base configInfo, sizeof RIL_GSM_BroadcastSmsConfigInfo * configInfo.length < 4294967296 →
        Points (setGsmBroadcastConfig mem base configInfo).1
          (setGsmBroadcastConfig mem base configInfo).2 (configInfo.map gsmBci)) ∧
      ∀ serial responseType e response configInfo, Points mem response (configInfo.map gsmBci) →
        getGsmBroadcastConfigResponse mem serial responseType e response =
          .ok (populateResponseInfo {} serial responseType e, configInfo)) ∧
    ((∀ base configInfo, sizeof RIL_CDMA_BroadcastSmsConfigInfo * configInfo.length < 4294967296 →
        Points (setCdmaBroadcastConfig mem base configInfo).1
          (setCdmaBroadcastConfig mem base configInfo).2 (configInfo.map cdmaBci)) ∧
      ∀ serial responseType e response configInfo, Points mem response (configInfo.map cdmaBci) →
        getCdmaBroadcastConfigResponse mem serial responseType e response =
          .ok (populateResponseInfo {} serial responseType e, configInfo)) ∧
    ((∀ a b allAllowed allowed excluded cr allowedCarriers excludedCarriers,
        setAllowedCarriers a b allAllowed allowed excluded =
          some (cr, allowedCarriers, excludedCarriers) →
        HoldsRequest mem.toMemory cr allowedCarriers excludedCarriers allowed excluded →
        TellsCarriers mem.toMemory (.block (Layout.bytes cr))
          ⟨allowed.map (·.carrier), excluded.map (·.carrier)⟩) ∧
      ∀ serial responseType e response allAllowed carriers,
        TellsCarriers mem.toMemory response carriers →
        (getAllowedCarriersResponse mem.toMemory serial responseType e response =
            .ok (populateResponseInfo {} serial responseType e, allAllowed, carriers) ↔
          allAllowed = (carriers.allowedCarriers.isEmpty && carriers.excludedCarriers.isEmpty) ∧
            ∀ c ∈ carriers.allowedCarriers ++ carriers.excludedCarriers, c.Kept)) ∧
    ∀ serial responseType e rc,
      getRadioCapabilityResponse serial responseType e (.block (setRadioCapability rc)) =
        .ok (populateResponseInfo {} serial responseType e, rc) ↔ FitsUuid rc.logicalModemUuid := by
  refine ⟨⟨?_, ?_⟩, ⟨?_, ?_⟩, ⟨?_, ?_⟩, ?_⟩
  · intro base configInfo hsize
    have hlen : sizeof RIL_GSM_BroadcastSmsConfigInfo * (configInfo.map gsmBci).length <
        4294967296 := by rwa [List.length_map]
    have h : Points (withArray mem base (configInfo.map gsmBci)) _ (configInfo.map gsmBci) :=
      points_elements hlen
    rwa [List.length_map] at h
  · intro serial responseType e response configInfo h
    rw [getGsmBroadcastConfigResponse,
      listResponse_points serial responseType e (fun s _ => gsmConfigAt_ok s) h, List.map_map,
      show RIL_GSM_BroadcastSmsConfigInfo.toConfig ∘ gsmBci = id from funext toConfig_gsmBci,
      List.map_id]
  · intro base configInfo hsize
    have hlen : sizeof RIL_CDMA_BroadcastSmsConfigInfo * (configInfo.map cdmaBci).length <
        4294967296 := by rwa [List.length_map]
    have h : Points (withArray mem base (configInfo.map cdmaBci)) _ (configInfo.map cdmaBci) :=
      points_elements hlen
    rwa [List.length_map] at h
  · intro serial responseType e response configInfo h
    rw [getCdmaBroadcastConfigResponse,
      listResponse_points serial responseType e (fun s _ => cdmaConfigAt_ok s) h, List.map_map,
      show RIL_CDMA_BroadcastSmsConfigInfo.toConfig ∘ cdmaBci = id from funext toConfig_cdmaBci,
      List.map_id]
  · intro a b allAllowed allowed excluded cr allowedCarriers excludedCarriers
    exact setAllowedCarriers_tells
  · intro serial responseType e response allAllowed carriers
    exact tells_eq_iff serial responseType e allAllowed
  · intro serial responseType e rc
    obtain ⟨session, phase, raf, uuid, status⟩ := rc
    rw [getRadioCapabilityResponse, responseRadioCapability_set, ← cutUuid_eq_iff]
    simp

end Apq8084.Ril.Payloads
