import Apq8084.Lib.Decimal
import Apq8084.Ril.Decoders

/-! The lists of data calls of `ril_service.cpp`. A record has one of three layouts, and which one
is guessed from the length of the whole list. -/
namespace Apq8084.Ril.Payloads.DataCalls

open WordBlock WordBlock.Layout

abbrev Abi := Decimal.Abi

def pointerWords : Abi → Nat
  | .ilp32 => 1
  | .lp64 => 2

/-- A pointer in words, the low one first. -/
abbrev Pointer (abi : Abi) := Vector Word (pointerWords abi)

def isNull {abi : Abi} (ptr : Pointer abi) : Bool := ptr.toList.all (· == 0)

/-- What an `int` at the end of a record is padded with. -/
abbrev Padding (abi : Abi) := Vector Word (pointerWords abi - 1)

structure RIL_Data_Call_Response_v6 (abi : Abi) where
  status : Word
  suggestedRetryTime : Word
  cid : Word
  active : Word
  type : Pointer abi
  ifname : Pointer abi
  addresses : Pointer abi
  dnses : Pointer abi
  gateways : Pointer abi

structure RIL_Data_Call_Response_v9 (abi : Abi) extends RIL_Data_Call_Response_v6 abi where
  pcscf : Pointer abi

structure RIL_Data_Call_Response_v11 (abi : Abi) extends RIL_Data_Call_Response_v9 abi where
  mtu : Word
  padding : Padding abi

inductive Version where
  | v6 | v9 | v11
deriving DecidableEq

inductive Field where
  | status | suggestedRetryTime | cid | active
  | type | ifname | addresses | dnses | gateways | pcscf
  | mtu
deriving DecidableEq

/-- Where the field is in a record that has it, in words. -/
def Field.offset (abi : Abi) : Field → Nat
  | .status => 0
  | .suggestedRetryTime => 1
  | .cid => 2
  | .active => 3
  | .type => 4
  | .ifname => 4 + pointerWords abi
  | .addresses => 4 + 2 * pointerWords abi
  | .dnses => 4 + 3 * pointerWords abi
  | .gateways => 4 + 4 * pointerWords abi
  | .pcscf => 4 + 5 * pointerWords abi
  | .mtu => 4 + 6 * pointerWords abi

namespace Version

/-- The size of a record in words. -/
def size (abi : Abi) : Version → Nat
  | v6 => 4 + 5 * pointerWords abi
  | v9 => 4 + 6 * pointerWords abi
  | v11 => 4 + 7 * pointerWords abi

def sizeof (abi : Abi) (v : Version) : Nat := 4 * v.size abi

def pointers : Version → List Field
  | v6 => [.type, .ifname, .addresses, .dnses, .gateways]
  | _ => [.type, .ifname, .addresses, .dnses, .gateways, .pcscf]

def fields (v : Version) : List Field :=
  [.status, .suggestedRetryTime, .cid, .active] ++ v.pointers ++
    (if v = v11 then [.mtu] else [])

/-- The field of an array of records that begins at the `o`th word. -/
def fieldAt (abi : Abi) (v : Version) (o : Nat) : Option Field :=
  v.fields.find? fun f => f.offset abi = o % v.size abi

end Version

example : (Version.v6.sizeof .ilp32, Version.v9.sizeof .ilp32, Version.v11.sizeof .ilp32) =
    (36, 40, 44) := rfl

example : (Version.v6.sizeof .lp64, Version.v9.sizeof .lp64, Version.v11.sizeof .lp64) =
    (56, 64, 72) := rfl

structure SetupDataCallResult where
  status : Int
  suggestedRetryTime : Int
  cid : Int
  active : Int
  type : HidlString
  ifname : HidlString
  addresses : HidlString
  dnses : HidlString
  gateways : HidlString
  pcscf : HidlString
  mtu : Int

variable {abi : Abi}

/-- What pointers lead to. -/
abbrev Strings (abi : Abi) := Pointer abi → CString

def convertCharPtrToHidlString (mem : Strings abi) (ptr : Pointer abi) : HidlString :=
  if isNull ptr then ⟨0, []⟩ else .ofCStr (mem ptr)

def readPointer (response : Payload) (i : Nat) : {abi : Abi} → Except Fault (Pointer abi)
  | .ilp32 => return #v[← response.word i]
  | .lp64 => return #v[← response.word i, ← response.word (i + 1)]

def readString (mem : Strings abi) (response : Payload) (i : Nat) : Except Fault HidlString :=
  return convertCharPtrToHidlString mem (← readPointer response i)

/-- `convertRilDataCallToHal` for the record of the given version whose first word is `base`. -/
def convertRilDataCallToHal (mem : Strings abi) (response : Payload) (v : Version) (base : Nat) :
    Except Fault SetupDataCallResult := do
  let status ← response.int (base + Field.offset abi .status)
  let suggestedRetryTime ← response.int (base + Field.offset abi .suggestedRetryTime)
  let cid ← response.int (base + Field.offset abi .cid)
  let active ← response.int (base + Field.offset abi .active)
  let type ← readString mem response (base + Field.offset abi .type)
  let ifname ← readString mem response (base + Field.offset abi .ifname)
  let addresses ← readString mem response (base + Field.offset abi .addresses)
  let dnses ← readString mem response (base + Field.offset abi .dnses)
  let gateways ← readString mem response (base + Field.offset abi .gateways)
  let pcscf ←
    match v with
    | .v6 => pure ⟨0, []⟩
    | .v9 | .v11 => readString mem response (base + Field.offset abi .pcscf)
  let mtu ←
    match v with
    | .v6 | .v9 => pure 0
    | .v11 => response.int (base + Field.offset abi .mtu)
  return { status, suggestedRetryTime, cid, active, type, ifname, addresses, dnses, gateways,
           pcscf, mtu }

/-- The layout that is taken for a list of `responseLen` bytes. -/
def layoutOf (abi : Abi) (responseLen : Nat) : Option Version :=
  if responseLen % Version.sizeof abi .v11 = 0 then some .v11
  else if responseLen % Version.sizeof abi .v9 = 0 then some .v9
  else if responseLen % Version.sizeof abi .v6 = 0 then some .v6
  else none

/-- The quotient of two `size_t` in an `int`. -/
def numCalls (abi : Abi) (v : Version) (responseLen : Nat) : Int :=
  ((responseLen / v.sizeof abi : Nat) : Int).bmod 4294967296

def convertRilDataCallListToHal (mem : Strings abi) (response : Payload) :
    Except Fault (List SetupDataCallResult) :=
  match layoutOf abi response.responseLen with
  | some v =>
    fill (numCalls abi v response.responseLen) fun i =>
      convertRilDataCallToHal mem response v (v.size abi * i)
  | none => .ok []

/-- The pointers that it takes, and where it takes them. -/
def pointerReads (abi : Abi) (responseLen : Nat) : List (Field × Nat) :=
  match layoutOf abi responseLen with
  | some v =>
    (List.range (numCalls abi v responseLen).toNat).flatMap fun i =>
      v.pointers.map fun f => (f, v.size abi * i + f.offset abi)
  | none => []

/-- The condition under which both callers refuse the list. -/
def invalidList (abi : Abi) (response : Payload) : Prop :=
  (response.isNull ∧ response.responseLen ≠ 0) ∨
    (response.responseLen % Version.sizeof abi .v11 ≠ 0 ∧
      response.responseLen % Version.sizeof abi .v9 ≠ 0 ∧
      response.responseLen % Version.sizeof abi .v6 ≠ 0)

instance (response : Payload) : Decidable (invalidList abi response) :=
  inferInstanceAs (Decidable (_ ∨ _))

def getDataCallListResponse (mem : Strings abi) (serial : Int) (responseType : Nat) (e : Int)
    (response : Payload) : Except Fault (Answer (List SetupDataCallResult)) :=
  let responseInfo := populateResponseInfo {} serial responseType e
  if invalidList abi response then .ok (responseInfo.invalid e, [])
  else do
    let ret ← convertRilDataCallListToHal mem response
    return (responseInfo, ret)

/-- The list that the client is told of, if it is told of one. -/
def dataCallListChangedInd (mem : Strings abi) (response : Payload) :
    Except Fault (Option (List SetupDataCallResult)) :=
  if invalidList abi response then .ok none
  else do
    let dcList ← convertRilDataCallListToHal mem response
    return some dcList

/-! ### Lists as they are sent -/

section

variable {m n : Nat} {p q : Vector Word n} {ws vs : List Word}

theorem toList_append_inj : p.toList ++ ws = q.toList ++ vs ↔ p = q ∧ ws = vs := by
  constructor
  · intro h
    have hlen : p.toList.length = q.toList.length := by simp
    obtain ⟨hp, hws⟩ := List.append_inj h hlen
    exact ⟨Vector.toList_inj.mp hp, hws⟩
  · rintro ⟨rfl, rfl⟩
    rfl

/-- Enough words begin with a vector. -/
theorem exists_vector (h : ws.length = n + m) :
    ∃ (p : Vector Word n) (vs : List Word), ws = p.toList ++ vs ∧ vs.length = m := by
  have hlen : (ws.take n).length = n := by
    rw [List.length_take]
    omega
  refine ⟨⟨(ws.take n).toArray, by simpa using hlen⟩, ws.drop n, ?_, ?_⟩
  · simp [Vector.toList]
  · rw [List.length_drop]
    omega

end

def RIL_Data_Call_Response_v6.words (s : RIL_Data_Call_Response_v6 abi) (rest : List Word) :
    List Word :=
  s.status :: s.suggestedRetryTime :: s.cid :: s.active ::
    (s.type.toList ++ (s.ifname.toList ++ (s.addresses.toList ++ (s.dnses.toList ++
      (s.gateways.toList ++ rest)))))

theorem words_v6_inj {s t : RIL_Data_Call_Response_v6 abi} {ws vs : List Word} :
    s.words ws = t.words vs ↔ s = t ∧ ws = vs := by
  obtain ⟨⟩ := s
  obtain ⟨⟩ := t
  simp only [RIL_Data_Call_Response_v6.words, List.cons.injEq, toList_append_inj,
    RIL_Data_Call_Response_v6.mk.injEq, and_assoc]

theorem exists_words_v6 {ws : List Word} {n : Nat}
    (h : ws.length = Version.size abi .v6 + n) :
    ∃ (s : RIL_Data_Call_Response_v6 abi) (vs : List Word), ws = s.words vs ∧ vs.length = n := by
  rcases ws with _ | ⟨status, _ | ⟨suggestedRetryTime, _ | ⟨cid, _ | ⟨active, ws⟩⟩⟩⟩ <;>
    simp only [List.length_cons, List.length_nil, Version.size] at h <;> try omega
  obtain ⟨type, ws₁, rfl, h₁⟩ := @exists_vector (4 * pointerWords abi + n) (pointerWords abi) ws
    (by omega)
  obtain ⟨ifname, ws₂, rfl, h₂⟩ := @exists_vector (3 * pointerWords abi + n) (pointerWords abi) ws₁
    (by omega)
  obtain ⟨addresses, ws₃, rfl, h₃⟩ := @exists_vector (2 * pointerWords abi + n) (pointerWords abi)
    ws₂ (by omega)
  obtain ⟨dnses, ws₄, rfl, h₄⟩ := @exists_vector (pointerWords abi + n) (pointerWords abi) ws₃
    (by omega)
  obtain ⟨gateways, vs, rfl, h₅⟩ := exists_vector h₄
  exact ⟨{ status, suggestedRetryTime, cid, active, type, ifname, addresses, dnses, gateways }, vs,
    rfl, h₅⟩

instance : Layout (RIL_Data_Call_Response_v6 abi) where
  size := Version.size abi .v6
  words s := s.words []
  length_words s := by
    simp only [RIL_Data_Call_Response_v6.words, List.length_cons, List.length_append,
      Vector.length_toList, Version.size, List.length_nil]
    omega
  words_injective s t h := (words_v6_inj.mp h).1
  exists_words ws h := by
    obtain ⟨s, vs, rfl, hvs⟩ := @exists_words_v6 abi ws 0 h
    rw [List.length_eq_zero_iff] at hvs
    exact ⟨s, by rw [hvs]⟩

def RIL_Data_Call_Response_v9.words (s : RIL_Data_Call_Response_v9 abi) (rest : List Word) :
    List Word :=
  s.toRIL_Data_Call_Response_v6.words (s.pcscf.toList ++ rest)

instance : Layout (RIL_Data_Call_Response_v9 abi) where
  size := Version.size abi .v9
  words s := s.words []
  length_words s := by
    simp only [RIL_Data_Call_Response_v9.words, RIL_Data_Call_Response_v6.words, List.length_cons,
      List.length_append, Vector.length_toList, Version.size, List.length_nil]
    omega
  words_injective s t h := by
    obtain ⟨h₆, h₉⟩ := words_v6_inj.mp h
    obtain ⟨hp, -⟩ := toList_append_inj.mp h₉
    obtain ⟨⟩ := s
    obtain ⟨⟩ := t
    simp only at h₆ hp
    rw [h₆, hp]
  exists_words ws h := by
    obtain ⟨s, vs, rfl, hvs⟩ := @exists_words_v6 abi ws (pointerWords abi) (by
      simp only [Version.size] at h ⊢
      omega)
    obtain ⟨pcscf, us, rfl, hus⟩ := @exists_vector 0 (pointerWords abi) vs hvs
    rw [List.length_eq_zero_iff] at hus
    exact ⟨{ s with pcscf }, by rw [hus]; rfl⟩

def RIL_Data_Call_Response_v11.words (s : RIL_Data_Call_Response_v11 abi) : List Word :=
  s.toRIL_Data_Call_Response_v9.words (s.mtu :: s.padding.toList)

theorem pointerWords_pos (abi : Abi) : 0 < pointerWords abi := by
  cases abi <;> decide

instance : Layout (RIL_Data_Call_Response_v11 abi) where
  size := Version.size abi .v11
  words s := s.words
  length_words s := by
    have hpos := pointerWords_pos abi
    simp only [RIL_Data_Call_Response_v11.words, RIL_Data_Call_Response_v9.words,
      RIL_Data_Call_Response_v6.words, List.length_cons, List.length_append,
      Vector.length_toList, Version.size]
    omega
  words_injective s t h := by
    obtain ⟨h₆, h₉⟩ := words_v6_inj.mp h
    obtain ⟨hp, h₁₁⟩ := toList_append_inj.mp h₉
    obtain ⟨hmtu, hpad⟩ := List.cons.inj h₁₁
    obtain ⟨⟨⟩⟩ := s
    obtain ⟨⟨⟩⟩ := t
    simp only at h₆ hp hmtu hpad
    rw [h₆, hp, hmtu, Vector.toList_inj.mp hpad]
  exists_words ws h := by
    have hpos := pointerWords_pos abi
    obtain ⟨s, vs, rfl, hvs⟩ := @exists_words_v6 abi ws (2 * pointerWords abi) (by
      simp only [Version.size] at h ⊢
      omega)
    obtain ⟨pcscf, us, rfl, hus⟩ := @exists_vector (pointerWords abi) (pointerWords abi) vs
      (by omega)
    cases us with
    | nil =>
      rw [List.length_nil] at hus
      omega
    | cons mtu ts =>
      rw [List.length_cons] at hus
      obtain ⟨padding, rs, rfl, hrs⟩ := @exists_vector 0 (pointerWords abi - 1) ts (by omega)
      rw [List.length_eq_zero_iff] at hrs
      refine ⟨{ s with pcscf, mtu, padding }, ?_⟩
      rw [hrs, List.append_nil]
      rfl

def Record (abi : Abi) : Version → Type
  | .v6 => RIL_Data_Call_Response_v6 abi
  | .v9 => RIL_Data_Call_Response_v9 abi
  | .v11 => RIL_Data_Call_Response_v11 abi

instance (v : Version) : Layout (Record abi v) :=
  match v with
  | .v6 => inferInstanceAs (Layout (RIL_Data_Call_Response_v6 abi))
  | .v9 => inferInstanceAs (Layout (RIL_Data_Call_Response_v9 abi))
  | .v11 => inferInstanceAs (Layout (RIL_Data_Call_Response_v11 abi))

theorem size_record (v : Version) : size (Record abi v) = v.size abi := by
  cases v <;> rfl

/-- The data call of a record; what its layout does not have is empty or 0. -/
def Record.call (mem : Strings abi) : {v : Version} → Record abi v → SetupDataCallResult
  | .v6, (s : RIL_Data_Call_Response_v6 abi) => common s ⟨0, []⟩ 0
  | .v9, (s : RIL_Data_Call_Response_v9 abi) =>
    common s.toRIL_Data_Call_Response_v6 (convertCharPtrToHidlString mem s.pcscf) 0
  | .v11, (s : RIL_Data_Call_Response_v11 abi) =>
    common s.toRIL_Data_Call_Response_v6 (convertCharPtrToHidlString mem s.pcscf) s.mtu.toInt
where
  common (s : RIL_Data_Call_Response_v6 abi) (pcscf : HidlString) (mtu : Int) :
      SetupDataCallResult :=
    { status := s.status.toInt
      suggestedRetryTime := s.suggestedRetryTime.toInt
      cid := s.cid.toInt
      active := s.active.toInt
      type := convertCharPtrToHidlString mem s.type
      ifname := convertCharPtrToHidlString mem s.ifname
      addresses := convertCharPtrToHidlString mem s.addresses
      dnses := convertCharPtrToHidlString mem s.dnses
      gateways := convertCharPtrToHidlString mem s.gateways
      pcscf
      mtu }

/-! ### Reading a record -/

/-- The words `ws` can be read from the `i`th word on. -/
def At (response : Payload) (i : Nat) (ws : List Word) : Prop :=
  ∀ k w, ws[k]? = some w → response.word (i + k) = .ok w

section

variable {response : Payload} {mem : Strings abi} {i j base : Nat} {w : Word} {ws : List Word}
  {p : Pointer abi}

theorem int_at (h : At response i (w :: ws)) : response.int i = .ok w.toInt :=
  Payload.int_ok (h 0 w rfl)

theorem at_tail (h : At response i (w :: ws)) (hj : j = i + 1) : At response j ws := by
  intro k v hk
  rw [hj, Nat.add_assoc, Nat.add_comm 1 k]
  exact h (k + 1) v hk

theorem readPointer_at (h : At response i (p.toList ++ ws)) :
    readPointer response i = .ok p := by
  have hword : ∀ k (hk : k < pointerWords abi), response.word (i + k) = .ok p[k] := by
    intro k hk
    apply h
    rw [List.getElem?_append_left (by simpa using hk)]
    simp [hk]
  cases abi with
  | ilp32 =>
    have h₀ : response.word i = .ok p[0] := hword 0 Nat.one_pos
    have hp : #v[p[0]] = p := by
      apply Vector.ext
      rintro (_ | k) hk
      · rfl
      · exact absurd hk (by omega)
    simp only [readPointer, h₀]
    exact congrArg Except.ok hp
  | lp64 =>
    have h₀ : response.word i = .ok p[0] := hword 0 Nat.two_pos
    have h₁ : response.word (i + 1) = .ok p[1] := hword 1 Nat.one_lt_two
    have hp : #v[p[0], p[1]] = p := by
      apply Vector.ext
      rintro (_ | _ | k) hk
      · rfl
      · rfl
      · exact absurd hk (by omega)
    simp only [readPointer, h₀, h₁]
    exact congrArg Except.ok hp

theorem readString_at (h : At response i (p.toList ++ ws)) :
    readString mem response i = .ok (convertCharPtrToHidlString mem p) := by
  rw [readString, readPointer_at h]
  rfl

theorem at_drop (h : At response i (p.toList ++ ws)) (hj : j = i + pointerWords abi) :
    At response j ws := by
  intro k w hk
  rw [hj, Nat.add_assoc]
  apply h
  rw [List.getElem?_append_right (by simp)]
  simpa using hk

/-- A read of each field that all layouts have, and what stands behind these fields. -/
structure Reads (mem : Strings abi) (response : Payload) (base : Nat)
    (s : RIL_Data_Call_Response_v6 abi) (rest : List Word) : Prop where
  status : response.int (base + Field.offset abi .status) = .ok s.status.toInt
  suggestedRetryTime :
    response.int (base + Field.offset abi .suggestedRetryTime) = .ok s.suggestedRetryTime.toInt
  cid : response.int (base + Field.offset abi .cid) = .ok s.cid.toInt
  active : response.int (base + Field.offset abi .active) = .ok s.active.toInt
  type : readString mem response (base + Field.offset abi .type) =
    .ok (convertCharPtrToHidlString mem s.type)
  ifname : readString mem response (base + Field.offset abi .ifname) =
    .ok (convertCharPtrToHidlString mem s.ifname)
  addresses : readString mem response (base + Field.offset abi .addresses) =
    .ok (convertCharPtrToHidlString mem s.addresses)
  dnses : readString mem response (base + Field.offset abi .dnses) =
    .ok (convertCharPtrToHidlString mem s.dnses)
  gateways : readString mem response (base + Field.offset abi .gateways) =
    .ok (convertCharPtrToHidlString mem s.gateways)
  rest : At response (base + Field.offset abi .pcscf) rest

theorem reads_of_at {s : RIL_Data_Call_Response_v6 abi} (h : At response base (s.words ws)) :
    Reads mem response base s ws := by
  have h₁ : At response (base + Field.offset abi .suggestedRetryTime) _ := at_tail h rfl
  have h₂ : At response (base + Field.offset abi .cid) _ := at_tail h₁ rfl
  have h₃ : At response (base + Field.offset abi .active) _ := at_tail h₂ rfl
  have h₄ : At response (base + Field.offset abi .type) _ := at_tail h₃ rfl
  have h₅ : At response (base + Field.offset abi .ifname) _ :=
    at_drop h₄ (by simp only [Field.offset]; omega)
  have h₆ : At response (base + Field.offset abi .addresses) _ :=
    at_drop h₅ (by simp only [Field.offset]; omega)
  have h₇ : At response (base + Field.offset abi .dnses) _ :=
    at_drop h₆ (by simp only [Field.offset]; omega)
  have h₈ : At response (base + Field.offset abi .gateways) _ :=
    at_drop h₇ (by simp only [Field.offset]; omega)
  have h₉ : At response (base + Field.offset abi .pcscf) ws :=
    at_drop h₈ (by simp only [Field.offset]; omega)
  exact ⟨int_at h, int_at h₁, int_at h₂, int_at h₃, readString_at h₄, readString_at h₅,
    readString_at h₆, readString_at h₇, readString_at h₈, h₉⟩

/-- A record is read as the data call that it is, in its own layout. -/
theorem convertRilDataCallToHal_at {v : Version} {s : Record abi v}
    (h : At response base (Layout.words s)) :
    convertRilDataCallToHal mem response v base = .ok (s.call mem) := by
  cases v with
  | v6 =>
    have r : Reads mem response base s [] := reads_of_at h
    simp only [convertRilDataCallToHal, r.status, r.suggestedRetryTime, r.cid, r.active, r.type,
      r.ifname, r.addresses, r.dnses, r.gateways]
    rfl
  | v9 =>
    have r : Reads mem response base s.toRIL_Data_Call_Response_v6 (s.pcscf.toList ++ []) :=
      reads_of_at h
    simp only [convertRilDataCallToHal, r.status, r.suggestedRetryTime, r.cid, r.active, r.type,
      r.ifname, r.addresses, r.dnses, r.gateways, readString_at r.rest]
    rfl
  | v11 =>
    have r : Reads mem response base s.toRIL_Data_Call_Response_v6
        (s.pcscf.toList ++ s.mtu :: s.padding.toList) := reads_of_at h
    have hmtu : At response (base + Field.offset abi .mtu) _ :=
      at_drop r.rest (by simp only [Field.offset]; omega)
    simp only [convertRilDataCallToHal, r.status, r.suggestedRetryTime, r.cid, r.active, r.type,
      r.ifname, r.addresses, r.dnses, r.gateways, readString_at r.rest, int_at hmtu]
    rfl

end

/-! ### Lists in the layout that is taken for them -/

/-- The list is decoded as it was sent, and pointers are taken from where pointers are. -/
structure Decodes (mem : Strings abi) {v : Version} (l : List (Record abi v)) : Prop where
  list : convertRilDataCallListToHal mem (.block (bytesOf (array l))) =
    .ok (l.map (Record.call mem))
  aligned : ∀ r ∈ pointerReads abi (bytesOf (array l)).length, v.fieldAt abi r.2 = some r.1

/-- A list whose number of data calls one of these divides has the length of a list in a longer
layout. -/
def misread : Abi → Version → List Nat
  | .ilp32, .v6 => [10, 11]
  | .ilp32, .v9 => [11]
  | .lp64, .v6 => [8, 9]
  | .lp64, .v9 => [9]
  | _, .v11 => []

/-- The layout of such a list is recognised, and its number of data calls is an `int`. -/
def Recognised (abi : Abi) (v : Version) (n : Nat) : Prop :=
  n = 0 ∨ (n < 2147483648 ∧ ∀ d ∈ misread abi v, ¬d ∣ n)

variable {mem : Strings abi} {v v' : Version} {l : List (Record abi v)} {n : Nat}

theorem layoutOf_eq_some_self_iff :
    layoutOf abi (v.sizeof abi * n) = some v ↔ ∀ d ∈ misread abi v, ¬d ∣ n := by
  unfold layoutOf
  cases abi <;> cases v <;>
    simp only [Version.sizeof, Version.size, pointerWords, misread, List.forall_mem_cons,
      List.not_mem_nil, false_imp_iff, implies_true, and_true, Nat.reduceMul, Nat.reduceAdd,
      Nat.mul_mod_right, if_true] <;>
    split_ifs <;> simp only [Option.some.injEq, reduceCtorEq, false_iff, true_iff] <;> omega

/-- The layout that is taken is not shorter than that of the list. -/
theorem exists_layoutOf (abi : Abi) (v : Version) (n : Nat) :
    ∃ v', layoutOf abi (v.sizeof abi * n) = some v' ∧ v'.sizeof abi ∣ v.sizeof abi * n ∧
      v.sizeof abi ≤ v'.sizeof abi := by
  unfold layoutOf
  split_ifs with h₁₁ h₉ h₆
  · refine ⟨.v11, rfl, Nat.dvd_of_mod_eq_zero h₁₁, ?_⟩
    cases abi <;> cases v <;> decide
  · refine ⟨.v9, rfl, Nat.dvd_of_mod_eq_zero h₉, ?_⟩
    cases v with
    | v11 => exact absurd (Nat.mul_mod_right _ _) h₁₁
    | v6 | v9 => cases abi <;> decide
  · refine ⟨.v6, rfl, Nat.dvd_of_mod_eq_zero h₆, ?_⟩
    cases v with
    | v11 => exact absurd (Nat.mul_mod_right _ _) h₁₁
    | v9 => exact absurd (Nat.mul_mod_right _ _) h₉
    | v6 => exact Nat.le_refl _
  · cases v with
    | v11 => exact absurd (Nat.mul_mod_right _ _) h₁₁
    | v9 => exact absurd (Nat.mul_mod_right _ _) h₉
    | v6 => exact absurd (Nat.mul_mod_right _ _) h₆

theorem sizeof_inj (h : v.sizeof abi = v'.sizeof abi) : v = v' := by
  cases abi <;> cases v <;> cases v' <;> first | rfl | exact absurd h (by decide)

theorem sizeof_pos (abi : Abi) (v : Version) : 0 < v.sizeof abi := by
  cases abi <;> cases v <;> decide

theorem fieldAt_offset {f : Field} {i : Nat} (hf : f ∈ v.pointers) :
    v.fieldAt abi (v.size abi * i + f.offset abi) = some f := by
  have hlt : f.offset abi < v.size abi := by
    cases abi <;> cases v <;> cases f <;> revert hf <;> decide
  rw [Version.fieldAt, Nat.mul_add_mod, Nat.mod_eq_of_lt hlt]
  cases abi <;> cases v <;> cases f <;> revert hf <;> decide

theorem length_list : (bytesOf (array l)).length = v.sizeof abi * l.length := by
  rw [length_bytesOf, length_array, size_record, ← Nat.mul_assoc]
  rfl

theorem numCalls_self (h : n < 2147483648) : numCalls abi v (v.sizeof abi * n) = n := by
  have hquotient := Nat.mul_div_cancel_left n (sizeof_pos abi v)
  unfold numCalls
  simp only [hquotient]
  apply Int.bmod_eq_of_le <;> omega

/-- The `int` holds less than 2^31, so that it counts a list right only if it was not cut. -/
theorem numCalls_eq (h : numCalls abi v' (v.sizeof abi * n) = n)
    (hle : v.sizeof abi ≤ v'.sizeof abi) :
    n < 2147483648 ∧ v.sizeof abi * n / v'.sizeof abi = n := by
  have hq : v.sizeof abi * n / v'.sizeof abi ≤ n := by
    apply Nat.div_le_of_le_mul
    exact Nat.mul_le_mul_right n hle
  unfold numCalls at h
  generalize v.sizeof abi * n / v'.sizeof abi = q at h hq ⊢
  have hlt := Int.bmod_lt (x := (q : Int)) (m := 4294967296) (by omega)
  have hsmall : (q : Int).bmod 4294967296 = q := by
    apply Int.bmod_eq_of_le <;> omega
  omega

theorem fill_array (mem : Strings abi) (l : List (Record abi v)) :
    fill (l.length : Int) (fun i =>
        convertRilDataCallToHal mem (.block (bytesOf (array l))) v (v.size abi * i)) =
      .ok (l.map (Record.call mem)) := by
  have hread : ∀ i s, l[i]? = some s →
      convertRilDataCallToHal mem (.block (bytesOf (array l))) v (v.size abi * i) =
        .ok (Record.call mem s) := by
    intro i s hs
    apply convertRilDataCallToHal_at
    intro k w hw
    have h : word (bytesOf ([] ++ array l)) (0 + (size (Record abi v) * i + k)) = .ok w :=
      word_array hs hw
    rw [List.nil_append, Nat.zero_add, size_record] at h
    exact h
  have h := fill_ok hread (Int.natCast_nonneg l.length) (Int.le_refl _)
  rwa [Int.toNat_natCast, List.take_length] at h

theorem convertRilDataCallListToHal_eq (h : layoutOf abi (v.sizeof abi * l.length) = some v') :
    convertRilDataCallListToHal mem (.block (bytesOf (array l))) =
      fill (numCalls abi v' (v.sizeof abi * l.length)) fun i =>
        convertRilDataCallToHal mem (.block (bytesOf (array l))) v' (v'.size abi * i) := by
  simp only [convertRilDataCallListToHal, Payload.responseLen, length_list, h]

/-- A list of no bytes is one of no records in the longest layout. -/
theorem convertRilDataCallListToHal_nil :
    convertRilDataCallListToHal mem (.block []) = .ok [] := by
  cases abi <;> rfl

theorem pointerReads_zero : pointerReads abi 0 = [] := by
  cases abi <;> rfl

theorem recognised_of_list (h : convertRilDataCallListToHal mem (.block (bytesOf (array l))) =
    .ok (l.map (Record.call mem))) : Recognised abi v l.length := by
  obtain ⟨v', hlayout, hdvd, hle⟩ := exists_layoutOf abi v l.length
  rw [convertRilDataCallListToHal_eq hlayout] at h
  have hlen := length_fill_ok h
  rw [List.length_map] at hlen
  obtain ⟨hlt, hdiv⟩ := numCalls_eq hlen.symm hle
  by_cases hzero : l.length = 0
  · exact Or.inl hzero
  · refine Or.inr ⟨hlt, ?_⟩
    have hmul : v'.sizeof abi * l.length = v.sizeof abi * l.length := by
      have h := Nat.mul_div_cancel' hdvd
      rwa [hdiv] at h
    have hv : v' = v := sizeof_inj (Nat.eq_of_mul_eq_mul_right (Nat.pos_of_ne_zero hzero) hmul)
    rw [hv] at hlayout
    exact layoutOf_eq_some_self_iff.mp hlayout

theorem decodes_of_recognised (h : Recognised abi v l.length) : Decodes mem l := by
  rcases h with hzero | ⟨hlt, hmisread⟩
  · have hnil : l = [] := List.length_eq_zero_iff.mp hzero
    subst hnil
    refine ⟨convertRilDataCallListToHal_nil, ?_⟩
    intro r hr
    rw [show (bytesOf (array ([] : List (Record abi v)))).length = 0 from rfl,
      pointerReads_zero] at hr
    cases hr
  · have hself := layoutOf_eq_some_self_iff.mpr hmisread
    have hnum : numCalls abi v (v.sizeof abi * l.length) = l.length := numCalls_self hlt
    refine ⟨?_, ?_⟩
    · rw [convertRilDataCallListToHal_eq hself, hnum]
      exact fill_array mem l
    · intro r hr
      rw [length_list] at hr
      simp only [pointerReads, hself, hnum, List.mem_flatMap, List.mem_map] at hr
      obtain ⟨i, -, f, hf, rfl⟩ := hr
      exact fieldAt_offset hf

/-- A list is decoded as it was sent if and only if its layout is recognised. -/
theorem decodes_dataCalls_iff (mem : Strings abi) {v : Version} (l : List (Record abi v)) :
    Decodes mem l ↔ Recognised abi v l.length := by
  constructor
  · intro h
    exact recognised_of_list h.list
  · exact decodes_of_recognised

/-- Eleven data calls of 36 bytes are taken for nine of 44. -/
theorem not_decodes_eleven :
    ¬∀ (abi : Abi) (mem : Strings abi) (v : Version) (l : List (Record abi v)), Decodes mem l := by
  intro h
  let null : Pointer .ilp32 := #v[0]
  let s : RIL_Data_Call_Response_v6 .ilp32 :=
    { status := 0, suggestedRetryTime := 0, cid := 0, active := 0, type := null, ifname := null
      addresses := null, dnses := null, gateways := null }
  let l : List (Record .ilp32 .v6) := List.replicate 11 s
  have hlayout : layoutOf .ilp32 (Version.sizeof .ilp32 .v6 * l.length) = some .v11 := by decide
  have hlist := (h .ilp32 (fun _ => []) .v6 l).list
  rw [convertRilDataCallListToHal_eq hlayout] at hlist
  have hlen := length_fill_ok hlist
  rw [List.length_map] at hlen
  exact absurd hlen (by decide)

/-- Any list of the three sizes is passed on as it was decoded. -/
theorem not_invalidList : ¬invalidList abi (.block (bytesOf (array l))) := by
  obtain ⟨v', -, hdvd, -⟩ := exists_layoutOf abi v l.length
  have hmod := Nat.mod_eq_zero_of_dvd hdvd
  rintro (⟨hnull, -⟩ | ⟨h₁₁, h₉, h₆⟩)
  · cases hnull
  · simp only [Payload.responseLen, length_list] at h₁₁ h₉ h₆
    cases v' <;> contradiction

/-- What the client is told of a list whose layout is recognised. -/
theorem dataCallListChangedInd_recognised (h : Recognised abi v l.length) :
    dataCallListChangedInd mem (.block (bytesOf (array l))) =
      .ok (some (l.map (Record.call mem))) := by
  rw [dataCallListChangedInd, if_neg not_invalidList, (decodes_of_recognised h).list]
  rfl

end Apq8084.Ril.Payloads.DataCalls
