import Apq8084.Ril.Payloads

/-! The responses of `ril_service.cpp` that are lists of pointers to records. A `char` has no
sign. -/
namespace Apq8084.Ril.Payloads

open WordBlock WordBlock.Layout

/-! ### The records -/

/-- `index` is the first byte of its word, with Samsung's `call_id` and padding behind it, and
`flags` holds `isMpty`, `isMT`, `als` and `isVoice`. -/
structure RIL_Call where
  state : Word
  index : Word
  toa : Word
  flags : Word
  isVoicePrivacy : Word
  number : Word
  numberPresentation : Word
  name : Word
  namePresentation : Word
  call_details1 : Word
  call_details2 : Word
  uusInfo : Word

instance : Layout RIL_Call where
  size := 12
  words s := [s.state, s.index, s.toa, s.flags, s.isVoicePrivacy, s.number, s.numberPresentation,
    s.name, s.namePresentation, s.call_details1, s.call_details2, s.uusInfo]
  length_words _ := rfl
  words_injective := by
    rintro ⟨⟩ ⟨⟩ h
    simpa using h
  exists_words
    | [a, b, c, d, e, f, g, h, i, j, k, l], _ => ⟨⟨a, b, c, d, e, f, g, h, i, j, k, l⟩, rfl⟩

structure RIL_UUS_Info where
  uusType : Word
  uusDcs : Word
  uusLength : Word
  uusData : Word

structure RIL_NeighboringCell where
  cid : Word
  rssi : Word

instance : Layout RIL_NeighboringCell where
  size := 2
  words s := [s.cid, s.rssi]
  length_words _ := rfl
  words_injective := by
    rintro ⟨⟩ ⟨⟩ h
    simpa using h
  exists_words
    | [a, b], _ => ⟨⟨a, b⟩, rfl⟩

/-- `selected` is the first byte of its word. -/
structure RIL_GSM_BroadcastSmsConfigInfo where
  fromServiceId : Word
  toServiceId : Word
  fromCodeScheme : Word
  toCodeScheme : Word
  selected : Word

instance : Layout RIL_GSM_BroadcastSmsConfigInfo where
  size := 5
  words s := [s.fromServiceId, s.toServiceId, s.fromCodeScheme, s.toCodeScheme, s.selected]
  length_words _ := rfl
  words_injective := by
    rintro ⟨⟩ ⟨⟩ h
    simpa using h
  exists_words
    | [a, b, c, d, e], _ => ⟨⟨a, b, c, d, e⟩, rfl⟩

structure RIL_CDMA_BroadcastSmsConfigInfo where
  service_category : Word
  language : Word
  selected : Word

instance : Layout RIL_CDMA_BroadcastSmsConfigInfo where
  size := 3
  words s := [s.service_category, s.language, s.selected]
  length_words _ := rfl
  words_injective := by
    rintro ⟨⟩ ⟨⟩ h
    simpa using h
  exists_words
    | [a, b, c], _ => ⟨⟨a, b, c⟩, rfl⟩

/-- What the pointers lead to; a block reaches to the end of its allocation. -/
structure VendorMemory extends Memory where
  block : Word → Block
  uusInfo : Word → RIL_UUS_Info

/-! ### The values that are passed on -/

structure UusInfo where
  uusType : Int
  uusDcs : Int
  uusData : HidlString

structure Call where
  state : Int
  index : Int
  toa : Int
  isMpty : Bool
  isMT : Bool
  als : BitVec 8
  isVoice : Bool
  isVoicePrivacy : Bool
  number : HidlString
  numberPresentation : Int
  name : HidlString
  namePresentation : Int
  uusInfo : List UusInfo

structure NeighboringCell where
  cid : HidlString
  rssi : Int

structure GsmBroadcastSmsConfigInfo where
  fromServiceId : Int32
  toServiceId : Int32
  fromCodeScheme : Int32
  toCodeScheme : Int32
  selected : Bool

structure CdmaBroadcastSmsConfigInfo where
  serviceCategory : Int32
  language : Int32
  selected : Bool

/-! ### The responses -/

/-- The byte at this place of a word. -/
def byteAt (w : Word) (i : Nat) : BitVec 8 := w.extractLsb' (8 * i) 8

/-- Read the byte at this place. -/
def Payload.byte (response : Payload) (i : Nat) : Except Fault (BitVec 8) :=
  match response with
  | .null _ => .error .outOfBounds
  | .block b =>
    match b[i]? with
    | some x => .ok x.toBitVec
    | none => .error .outOfBounds

/-- The vector of a call; the data may have no terminator. -/
def uusInfos (mem : VendorMemory) (uusInfo : Word) : List UusInfo :=
  if uusInfo ≠ 0 ∧ (mem.uusInfo uusInfo).uusData ≠ 0 then
    let info := mem.uusInfo uusInfo
    [⟨info.uusType.toInt, info.uusDcs.toInt,
      .ofCStr ((mem.cString info.uusData).take info.uusLength.toNat)⟩]
  else []

def callAt (mem : VendorMemory) (p_cur : Payload) : Except Fault Call := do
  let state ← p_cur.int 0
  let index ← p_cur.word 1
  let toa ← p_cur.int 2
  let flags ← p_cur.word 3
  let isVoicePrivacy ← p_cur.word 4
  let number ← p_cur.word 5
  let numberPresentation ← p_cur.int 6
  let name ← p_cur.word 7
  let namePresentation ← p_cur.int 8
  let uusInfo ← p_cur.word 11
  return {
    state := state
    index := (byteAt index 0).toNat
    toa := toa
    isMpty := byteAt flags 0 ≠ 0
    isMT := byteAt flags 1 ≠ 0
    als := byteAt flags 2
    isVoice := byteAt flags 3 ≠ 0
    isVoicePrivacy := byteAt isVoicePrivacy 0 ≠ 0
    number := convertCharPtrToHidlString mem.toMemory number
    numberPresentation := numberPresentation
    name := convertCharPtrToHidlString mem.toMemory name
    namePresentation := namePresentation
    uusInfo := uusInfos mem uusInfo }

def callForwardInfoAt (mem : VendorMemory) (resp : Payload) : Except Fault CallForwardInfo := do
  let status ← resp.int 0
  let reason ← resp.int 1
  let serviceClass ← resp.int 2
  let toa ← resp.int 3
  let number ← resp.word 4
  let timeSeconds ← resp.int 5
  return ⟨status, reason, serviceClass, toa, convertCharPtrToHidlString mem.toMemory number,
    timeSeconds⟩

def neighboringCellAt (mem : VendorMemory) (resp : Payload) : Except Fault NeighboringCell := do
  let cid ← resp.word 0
  let rssi ← resp.int 1
  return ⟨convertCharPtrToHidlString mem.toMemory cid, rssi⟩

def gsmConfigAt (resp : Payload) : Except Fault GsmBroadcastSmsConfigInfo := do
  let fromServiceId ← resp.word 0
  let toServiceId ← resp.word 1
  let fromCodeScheme ← resp.word 2
  let toCodeScheme ← resp.word 3
  let selected ← resp.byte 16
  return ⟨.ofBitVec fromServiceId, .ofBitVec toServiceId, .ofBitVec fromCodeScheme,
    .ofBitVec toCodeScheme, selected = 1⟩

def cdmaConfigAt (resp : Payload) : Except Fault CdmaBroadcastSmsConfigInfo := do
  let service_category ← resp.word 0
  let language ← resp.word 1
  let selected ← resp.byte 8
  return ⟨.ofBitVec service_category, .ofBitVec language, selected = 1⟩

section

variable {α : Type}

/-- The loop over the pointers. -/
def pointerList (mem : VendorMemory) (read : Payload → Except Fault α) (response : Payload) :
    Except Fault (List α) :=
  fill ((response.responseLen / 4 : Nat) : Int) fun i => do
    let pointer ← response.word i
    read (.block (mem.block pointer))

/-- The five responses differ in what they read behind a pointer. -/
def listResponse (mem : VendorMemory) (read : Payload → Except Fault α) (serial : Int)
    (responseType : Nat) (e : Int) (response : Payload) : Except Fault (Answer (List α)) :=
  let responseInfo := populateResponseInfo {} serial responseType e
  if (response.isNull ∧ response.responseLen ≠ 0) ∨ response.responseLen % 4 ≠ 0 then
    .ok (responseInfo.invalid e, [])
  else do
    let l ← pointerList mem read response
    return (responseInfo, l)

end

def getCurrentCallsResponse (mem : VendorMemory) := listResponse mem (callAt mem)

def getCallForwardStatusResponse (mem : VendorMemory) := listResponse mem (callForwardInfoAt mem)

def getNeighboringCidsResponse (mem : VendorMemory) := listResponse mem (neighboringCellAt mem)

def getGsmBroadcastConfigResponse (mem : VendorMemory) := listResponse mem gsmConfigAt

def getCdmaBroadcastConfigResponse (mem : VendorMemory) := listResponse mem cdmaConfigAt

/-! ### What a record stands for -/

def RIL_Call.toCall (mem : VendorMemory) (s : RIL_Call) : Call where
  state := s.state.toInt
  index := (byteAt s.index 0).toNat
  toa := s.toa.toInt
  isMpty := byteAt s.flags 0 ≠ 0
  isMT := byteAt s.flags 1 ≠ 0
  als := byteAt s.flags 2
  isVoice := byteAt s.flags 3 ≠ 0
  isVoicePrivacy := byteAt s.isVoicePrivacy 0 ≠ 0
  number := convertCharPtrToHidlString mem.toMemory s.number
  numberPresentation := s.numberPresentation.toInt
  name := convertCharPtrToHidlString mem.toMemory s.name
  namePresentation := s.namePresentation.toInt
  uusInfo := uusInfos mem s.uusInfo

def RIL_NeighboringCell.toNeighboringCell (mem : VendorMemory) (s : RIL_NeighboringCell) :
    NeighboringCell := ⟨convertCharPtrToHidlString mem.toMemory s.cid, s.rssi.toInt⟩

def RIL_GSM_BroadcastSmsConfigInfo.toConfig (s : RIL_GSM_BroadcastSmsConfigInfo) :
    GsmBroadcastSmsConfigInfo :=
  ⟨.ofBitVec s.fromServiceId, .ofBitVec s.toServiceId, .ofBitVec s.fromCodeScheme,
    .ofBitVec s.toCodeScheme, byteAt s.selected 0 = 1⟩

def RIL_CDMA_BroadcastSmsConfigInfo.toConfig (s : RIL_CDMA_BroadcastSmsConfigInfo) :
    CdmaBroadcastSmsConfigInfo :=
  ⟨.ofBitVec s.service_category, .ofBitVec s.language, byteAt s.selected 0 = 1⟩

/-- The payload points to these records one after the other; more may be allocated behind each. -/
def Points {S : Type} [Layout S] (mem : VendorMemory) (response : Payload) (l : List S) : Prop :=
  (response = .null 0 ∧ l = []) ∨ ∃ ptrs, response = .block (bytesOf ptrs) ∧
    List.Forall₂ (fun pointer s => ∃ rest, mem.block pointer = Layout.bytes s ++ rest) ptrs l

/-- The test that the responses make first. -/
def Refused (response : Payload) : Prop :=
  (response.isNull ∧ response.responseLen ≠ 0) ∨ response.responseLen % 4 ≠ 0

/-- A payload that is not a number of pointers is refused; otherwise the records behind the pointers
are passed on in their order, and nothing but `need` bytes behind each pointer is required. -/
structure PassesOn {S α : Type} [Layout S] (mem : VendorMemory)
    (f : Int → Nat → Int → Payload → Except Fault (Answer (List α))) (conv : S → α)
    (need : Nat) : Prop where
  refused : ∀ serial responseType e response, Refused response →
    f serial responseType e response =
      .ok ((populateResponseInfo {} serial responseType e).invalid e, [])
  passed : ∀ serial responseType e response l, Points mem response l →
    f serial responseType e response =
      .ok (populateResponseInfo {} serial responseType e, l.map conv)
  answered : ∀ serial responseType e response,
    (∃ answer, f serial responseType e response = .ok answer) ↔
      Refused response ∨ response = .null 0 ∨ ∃ ptrs, response = .block (bytesOf ptrs) ∧
        ∀ pointer ∈ ptrs, need ≤ (mem.block pointer).length

section

variable {S : Type} [Layout S] {s : S} {α : Type} {k : Nat} {w : Word} {rest : Block}
  {mem : VendorMemory} {read : Payload → Except Fault α} {conv : S → α} {l : List S}
  {response : Payload}

/-- A word of a record, whatever is behind the record. -/
theorem word_record (hw : (words s)[k]? = some w) :
    (Payload.block (Layout.bytes s ++ rest)).word k = .ok w :=
  word_append (WordBlock.word_ok hw)

/-- The first byte of a word of a record. -/
theorem byte_record (hw : (words s)[k]? = some w) :
    (Payload.block (Layout.bytes s ++ rest)).byte (4 * k) = .ok (byteAt w 0) := by
  have hword : WordBlock.word (Layout.bytes s ++ rest) k = .ok w := word_record hw
  simp only [WordBlock.word] at hword
  split at hword
  · next b₀ b₁ b₂ b₃ rest' heq =>
    cases hword
    have hget : (Layout.bytes s ++ rest)[4 * k]? = some b₀ := by
      rw [← List.head?_drop, heq]
      rfl
    simp only [Payload.byte, hget]
    congr 1
    apply BitVec.eq_of_toNat_eq
    have h₀ := b₀.toNat_lt
    simp only [byteAt, ofBytes, BitVec.extractLsb'_toNat, BitVec.toNat_ofNat, Nat.mul_zero,
      Nat.shiftRight_zero, UInt8.toNat_toBitVec]
    omega
  · cases hword

theorem callAt_ok (s : RIL_Call) :
    callAt mem (.block (Layout.bytes s ++ rest)) = .ok (s.toCall mem) := by
  have h : ∀ k w, (words s)[k]? = some w →
      (Payload.block (Layout.bytes s ++ rest)).word k = .ok w := fun k w => word_record
  simp only [callAt, Payload.int, h 0 _ rfl, h 1 _ rfl, h 2 _ rfl, h 3 _ rfl, h 4 _ rfl,
    h 5 _ rfl, h 6 _ rfl, h 7 _ rfl, h 8 _ rfl, h 11 _ rfl]
  rfl

theorem callForwardInfoAt_ok (s : RIL_CallForwardInfo) :
    callForwardInfoAt mem (.block (Layout.bytes s ++ rest)) =
      .ok (s.toCallForwardInfo mem.toMemory) := by
  have h : ∀ k w, (words s)[k]? = some w →
      (Payload.block (Layout.bytes s ++ rest)).word k = .ok w := fun k w => word_record
  simp only [callForwardInfoAt, Payload.int, h 0 _ rfl, h 1 _ rfl, h 2 _ rfl, h 3 _ rfl,
    h 4 _ rfl, h 5 _ rfl]
  rfl

theorem neighboringCellAt_ok (s : RIL_NeighboringCell) :
    neighboringCellAt mem (.block (Layout.bytes s ++ rest)) = .ok (s.toNeighboringCell mem) := by
  have h : ∀ k w, (words s)[k]? = some w →
      (Payload.block (Layout.bytes s ++ rest)).word k = .ok w := fun k w => word_record
  simp only [neighboringCellAt, Payload.int, h 0 _ rfl, h 1 _ rfl]
  rfl

theorem gsmConfigAt_ok (s : RIL_GSM_BroadcastSmsConfigInfo) :
    gsmConfigAt (.block (Layout.bytes s ++ rest)) = .ok s.toConfig := by
  have h : ∀ k w, (words s)[k]? = some w →
      (Payload.block (Layout.bytes s ++ rest)).word k = .ok w := fun k w => word_record
  have hselected : (Payload.block (Layout.bytes s ++ rest)).byte 16 = .ok (byteAt s.selected 0) :=
    byte_record (k := 4) rfl
  simp only [gsmConfigAt, h 0 _ rfl, h 1 _ rfl, h 2 _ rfl, h 3 _ rfl, hselected]
  rfl

theorem cdmaConfigAt_ok (s : RIL_CDMA_BroadcastSmsConfigInfo) :
    cdmaConfigAt (.block (Layout.bytes s ++ rest)) = .ok s.toConfig := by
  have h : ∀ k w, (words s)[k]? = some w →
      (Payload.block (Layout.bytes s ++ rest)).word k = .ok w := fun k w => word_record
  have hselected : (Payload.block (Layout.bytes s ++ rest)).byte 8 = .ok (byteAt s.selected 0) :=
    byte_record (k := 2) rfl
  simp only [cdmaConfigAt, h 0 _ rfl, h 1 _ rfl, hselected]
  rfl

/-! ### Lists -/

theorem pointerList_ok {ptrs : List Word}
    (hread : ∀ s rest, read (.block (Layout.bytes s ++ rest)) = .ok (conv s))
    (h : List.Forall₂ (fun pointer s => ∃ rest, mem.block pointer = Layout.bytes s ++ rest)
      ptrs l) : pointerList mem read (.block (bytesOf ptrs)) = .ok (l.map conv) := by
  have hlen : ptrs.length = l.length := h.length_eq
  have hnum : (Payload.block (bytesOf ptrs)).responseLen / 4 = l.length := by
    rw [Payload.responseLen, length_bytesOf, hlen]
    omega
  rw [pointerList, hnum]
  have hround : ∀ i s, l[i]? = some s → (do
      let pointer ← (Payload.block (bytesOf ptrs)).word i
      read (.block (mem.block pointer))) = Except.ok (ε := Fault) (conv s) := by
    intro i s hs
    obtain ⟨hi, rfl⟩ := List.getElem?_eq_some_iff.mp hs
    obtain ⟨rest, hrest⟩ := h.get (hlen ▸ hi) hi
    have hword : (Payload.block (bytesOf ptrs)).word i = .ok ptrs[i] :=
      Payload.word_ok (List.getElem?_eq_getElem (hlen ▸ hi))
    simp only [List.get_eq_getElem] at hrest
    rw [hword]
    change read (.block (mem.block ptrs[i])) = _
    rw [hrest]
    exact hread l[i] rest
  have hfill := fill_ok hround (m := (l.length : Int)) (by omega) (by omega)
  simpa using hfill

/-- Every payload is refused, or a number of pointers. -/
theorem listResponse_cases (response : Payload) :
    Refused response ∨ response = .null 0 ∨ ∃ ptrs, response = .block (bytesOf ptrs) := by
  rcases response with n | b
  · by_cases hn : n = 0
    · exact .inr (.inl (by rw [hn]))
    · exact .inl (.inl ⟨rfl, hn⟩)
  · by_cases hdvd : b.length % 4 = 0
    · obtain ⟨m, hm⟩ := Nat.dvd_of_mod_eq_zero hdvd
      obtain ⟨ptrs, -, rfl⟩ := exists_bytesOf hm
      exact .inr (.inr ⟨ptrs, rfl⟩)
    · exact .inl (.inr hdvd)

theorem not_refused (ptrs : List Word) : ¬Refused (.block (bytesOf ptrs)) := by
  simp [Refused, Payload.isNull, Payload.responseLen]

theorem listResponse_block (serial : Int) (responseType : Nat) (e : Int) (ptrs : List Word) :
    listResponse mem read serial responseType e (.block (bytesOf ptrs)) = (do
      let l ← pointerList mem read (.block (bytesOf ptrs))
      return (populateResponseInfo {} serial responseType e, l)) :=
  if_neg (not_refused ptrs)

/-- The records behind the pointers are passed on, in their order. -/
theorem listResponse_points (serial : Int) (responseType : Nat) (e : Int)
    (hread : ∀ s rest, read (.block (Layout.bytes s ++ rest)) = .ok (conv s))
    (h : Points mem response l) : listResponse mem read serial responseType e response =
      .ok (populateResponseInfo {} serial responseType e, l.map conv) := by
  rcases h with ⟨rfl, rfl⟩ | ⟨ptrs, rfl, h⟩
  · rfl
  · rw [listResponse_block, pointerList_ok hread h]
    rfl

/-! ### What has to be in memory -/

theorem bind_isOk {β : Type} {x : Except Fault α} {f : α → Except Fault β} :
    (∃ b, (x >>= f) = .ok b) ↔ ∃ a, x = .ok a ∧ ∃ b, f a = .ok b := by
  cases x with
  | error fault => simp [bind, Except.bind]
  | ok a => simp [bind, Except.bind]

theorem mapM_isOk {ι : Type} {f : ι → Except Fault α} {is : List ι} :
    (∃ as, is.mapM f = .ok as) ↔ ∀ i ∈ is, ∃ a, f i = .ok a := by
  induction is with
  | nil => simp [pure, Except.pure]
  | cons i is ih =>
    rw [List.mapM_cons, bind_isOk, List.forall_mem_cons, ← ih]
    simp only [bind_isOk, pure, Except.pure, Except.ok.injEq, exists_eq', and_true,
      exists_and_right]

theorem word_block_isOk {b : Block} {k : Nat} :
    (∃ w, (Payload.block b).word k = .ok w) ↔ 4 * (k + 1) ≤ b.length := word_isOk

theorem int_block_isOk {b : Block} {k : Nat} :
    (∃ i, (Payload.block b).int k = .ok i) ↔ 4 * (k + 1) ≤ b.length := by
  rw [← word_block_isOk, Payload.int, bind_isOk]
  simp [pure, Except.pure]

theorem byte_block_isOk {b : Block} {i : Nat} :
    (∃ x, (Payload.block b).byte i = .ok x) ↔ i < b.length := by
  simp only [Payload.byte]
  cases hx : b[i]? with
  | none => simpa using List.getElem?_eq_none_iff.mp hx
  | some x => simpa using (List.getElem?_eq_some_iff.mp hx).1

theorem callAt_isOk {b : Block} : (∃ a, callAt mem (.block b) = .ok a) ↔ 48 ≤ b.length := by
  simp only [callAt, bind_isOk, pure, Except.pure, Except.ok.injEq, exists_eq', and_true,
    exists_and_right, int_block_isOk, word_block_isOk]
  omega

theorem callForwardInfoAt_isOk {b : Block} :
    (∃ a, callForwardInfoAt mem (.block b) = .ok a) ↔ 24 ≤ b.length := by
  simp only [callForwardInfoAt, bind_isOk, pure, Except.pure, Except.ok.injEq, exists_eq',
    and_true, exists_and_right, int_block_isOk, word_block_isOk]
  omega

theorem neighboringCellAt_isOk {b : Block} :
    (∃ a, neighboringCellAt mem (.block b) = .ok a) ↔ 8 ≤ b.length := by
  simp only [neighboringCellAt, bind_isOk, pure, Except.pure, Except.ok.injEq, exists_eq',
    and_true, exists_and_right, int_block_isOk, word_block_isOk]
  omega

theorem gsmConfigAt_isOk {b : Block} :
    (∃ a, gsmConfigAt (.block b) = .ok a) ↔ 17 ≤ b.length := by
  simp only [gsmConfigAt, bind_isOk, pure, Except.pure, Except.ok.injEq, exists_eq', and_true,
    exists_and_right, word_block_isOk, byte_block_isOk]
  omega

theorem cdmaConfigAt_isOk {b : Block} :
    (∃ a, cdmaConfigAt (.block b) = .ok a) ↔ 9 ≤ b.length := by
  simp only [cdmaConfigAt, bind_isOk, pure, Except.pure, Except.ok.injEq, exists_eq', and_true,
    exists_and_right, word_block_isOk, byte_block_isOk]
  omega

theorem pointerList_isOk {need : Nat} {ptrs : List Word}
    (hneed : ∀ b, (∃ a, read (.block b) = .ok a) ↔ need ≤ b.length) :
    (∃ as, pointerList mem read (.block (bytesOf ptrs)) = .ok as) ↔
      ∀ pointer ∈ ptrs, need ≤ (mem.block pointer).length := by
  have hnum : (Payload.block (bytesOf ptrs)).responseLen / 4 = ptrs.length := by
    rw [Payload.responseLen, length_bytesOf]
    omega
  rw [pointerList, hnum, fill, if_neg (by omega), Int.toNat_natCast, mapM_isOk]
  have hround : ∀ i (hi : i < ptrs.length), (∃ a, (do
      let pointer ← (Payload.block (bytesOf ptrs)).word i
      read (.block (mem.block pointer))) = Except.ok (ε := Fault) a) ↔
      need ≤ (mem.block ptrs[i]).length := by
    intro i hi
    have hword : (Payload.block (bytesOf ptrs)).word i = .ok ptrs[i] :=
      Payload.word_ok (List.getElem?_eq_getElem hi)
    rw [hword]
    exact hneed _
  constructor
  · intro h pointer hmem
    obtain ⟨i, hi, rfl⟩ := List.getElem_of_mem hmem
    exact (hround i hi).mp (h i (List.mem_range.mpr hi))
  · intro h i hi
    rw [List.mem_range] at hi
    exact (hround i hi).mpr (h ptrs[i] (List.getElem_mem hi))

theorem listResponse_passesOn {need : Nat}
    (hread : ∀ s rest, read (.block (Layout.bytes s ++ rest)) = .ok (conv s))
    (hneed : ∀ b, (∃ a, read (.block b) = .ok a) ↔ need ≤ b.length) :
    PassesOn mem (listResponse mem read) conv need := by
  refine ⟨fun serial responseType e response h => if_pos h,
    fun serial responseType e response l h => listResponse_points serial responseType e hread h,
    fun serial responseType e response => ?_⟩
  rcases listResponse_cases response with hbad | rfl | ⟨ptrs, rfl⟩
  · exact iff_of_true ⟨_, if_pos hbad⟩ (.inl hbad)
  · exact iff_of_true ⟨_, rfl⟩ (.inr (.inl rfl))
  · rw [listResponse_block]
    have hlist : (∃ answer, (do
        let l ← pointerList mem read (.block (bytesOf ptrs))
        return (populateResponseInfo {} serial responseType e, l)) =
        Except.ok (ε := Fault) answer) ↔
        ∃ l, pointerList mem read (.block (bytesOf ptrs)) = .ok l := by
      simp [bind_isOk, pure, Except.pure]
    refine hlist.trans ((pointerList_isOk hneed).trans ?_)
    constructor
    · exact fun h => .inr (.inr ⟨ptrs, rfl, h⟩)
    · rintro (h | h | ⟨ptrs', heq, h⟩)
      · exact absurd h (not_refused ptrs)
      · cases h
      · rwa [bytesOf_injective (Payload.block.inj heq)]

end

end Apq8084.Ril.Payloads
