import Apq8084.Lib.CStrings
import Apq8084.Lib.HexNumbers
import Apq8084.Ril.Dispatch
import Mathlib.Order.Lattice

/-! Cell identities from the strings of a registration state: `getCellInfoTypeRadioTechnology`,
`fillCellIdentityResponse` and the two functions that read voice and data registration states
(`ril/libril/ril_service.cpp`), where `int` and `long` have 32 bits. -/
namespace Apq8084.Ril.RegistrationState

open HexNumber (Denotes)

def RADIO_TECH_GPRS : Int := 1
def RADIO_TECH_EDGE : Int := 2
def RADIO_TECH_UMTS : Int := 3
def RADIO_TECH_IS95A : Int := 4
def RADIO_TECH_IS95B : Int := 5
def RADIO_TECH_1xRTT : Int := 6
def RADIO_TECH_EVDO_0 : Int := 7
def RADIO_TECH_EVDO_A : Int := 8
def RADIO_TECH_HSDPA : Int := 9
def RADIO_TECH_HSUPA : Int := 10
def RADIO_TECH_HSPA : Int := 11
def RADIO_TECH_EVDO_B : Int := 12
def RADIO_TECH_EHRPD : Int := 13
def RADIO_TECH_LTE : Int := 14
def RADIO_TECH_HSPAP : Int := 15
def RADIO_TECH_GSM : Int := 16
def RADIO_TECH_TD_SCDMA : Int := 17
def RADIO_TECH_LTE_CA : Int := 19

inductive RIL_CellInfoType where
  | NONE | GSM | CDMA | LTE | WCDMA | TD_SCDMA
deriving DecidableEq

/-- The strings that a `char **` points to; null pointers may be among them. -/
abbrev Strings := Nat → Option CString

/-- The characters with the codes of the bytes. -/
def chars (s : CString) : List Char := s.map fun b => Char.ofNat b.toNat

def atoi (s : CString) : Int := (Decimal.strtol .ilp32 (chars s)).1

def getCellInfoTypeRadioTechnology (rat : Option CString) : RIL_CellInfoType :=
  match rat with
  | none => .NONE
  | some rat =>
    let radioTech := atoi rat
    if radioTech ∈ [RADIO_TECH_GPRS, RADIO_TECH_EDGE, RADIO_TECH_GSM] then .GSM
    else if radioTech ∈ [RADIO_TECH_UMTS, RADIO_TECH_HSDPA, RADIO_TECH_HSUPA, RADIO_TECH_HSPA,
        RADIO_TECH_HSPAP] then .WCDMA
    else if radioTech ∈ [RADIO_TECH_IS95A, RADIO_TECH_IS95B, RADIO_TECH_1xRTT, RADIO_TECH_EVDO_0,
        RADIO_TECH_EVDO_A, RADIO_TECH_EVDO_B, RADIO_TECH_EHRPD] then .CDMA
    else if radioTech ∈ [RADIO_TECH_LTE, RADIO_TECH_LTE_CA] then .LTE
    else if radioTech = RADIO_TECH_TD_SCDMA then .TD_SCDMA
    else .NONE

-- `memset` gives every byte of `RIL_CellIdentity_v16` the value 0xff

structure RIL_CellIdentityGsm_v12 where
  mcc : Int := -1
  mnc : Int := -1
  lac : Int := -1
  cid : Int := -1
  arfcn : Int := -1
  bsic : UInt8 := 255

structure RIL_CellIdentityWcdma_v12 where
  mcc : Int := -1
  mnc : Int := -1
  lac : Int := -1
  cid : Int := -1
  psc : Int := -1
  uarfcn : Int := -1

structure RIL_CellIdentityCdma where
  networkId : Int := -1
  systemId : Int := -1
  basestationId : Int := -1
  longitude : Int := -1
  latitude : Int := -1

structure RIL_CellIdentityLte_v12 where
  mcc : Int := -1
  mnc : Int := -1
  ci : Int := -1
  pci : Int := -1
  tac : Int := -1
  earfcn : Int := -1

structure RIL_CellIdentityTdscdma where
  mcc : Int := -1
  mnc : Int := -1
  lac : Int := -1
  cid : Int := -1
  cpid : Int := -1

/-- `cellInfoType` with the member of the union that it selects. -/
inductive RIL_CellIdentity_v16 where
  | NONE
  | GSM (cellIdentityGsm : RIL_CellIdentityGsm_v12)
  | CDMA (cellIdentityCdma : RIL_CellIdentityCdma)
  | LTE (cellIdentityLte : RIL_CellIdentityLte_v12)
  | WCDMA (cellIdentityWcdma : RIL_CellIdentityWcdma_v12)
  | TD_SCDMA (cellIdentityTdscdma : RIL_CellIdentityTdscdma)

structure CellIdentityGsm where
  mcc : String
  mnc : String
  lac : Int
  cid : Int
  arfcn : Int
  bsic : UInt8

structure CellIdentityWcdma where
  mcc : String
  mnc : String
  lac : Int
  cid : Int
  psc : Int
  uarfcn : Int

structure CellIdentityCdma where
  networkId : Int
  systemId : Int
  baseStationId : Int
  longitude : Int
  latitude : Int

structure CellIdentityLte where
  mcc : String
  mnc : String
  ci : Int
  pci : Int
  tac : Int
  earfcn : Int

structure CellIdentityTdscdma where
  mcc : String
  mnc : String
  lac : Int
  cid : Int
  cpid : Int

/-- What the client gets; the vectors are empty at first. -/
structure CellIdentity where
  cellInfoType : RIL_CellInfoType
  cellIdentityGsm : List CellIdentityGsm := []
  cellIdentityWcdma : List CellIdentityWcdma := []
  cellIdentityCdma : List CellIdentityCdma := []
  cellIdentityLte : List CellIdentityLte := []
  cellIdentityTdscdma : List CellIdentityTdscdma := []

def fillCellIdentityResponse (rilCellIdentity : RIL_CellIdentity_v16) : CellIdentity :=
  match rilCellIdentity with
  | .GSM c =>
    { cellInfoType := .GSM
      cellIdentityGsm := [{ mcc := toString c.mcc, mnc := toString c.mnc, lac := c.lac,
                            cid := c.cid, arfcn := c.arfcn, bsic := c.bsic }] }
  | .WCDMA c =>
    { cellInfoType := .WCDMA
      cellIdentityWcdma := [{ mcc := toString c.mcc, mnc := toString c.mnc, lac := c.lac,
                              cid := c.cid, psc := c.psc, uarfcn := c.uarfcn }] }
  | .CDMA c =>
    { cellInfoType := .CDMA
      cellIdentityCdma := [{ networkId := c.networkId, systemId := c.systemId,
                             baseStationId := c.basestationId, longitude := c.longitude,
                             latitude := c.latitude }] }
  | .LTE c =>
    { cellInfoType := .LTE
      cellIdentityLte := [{ mcc := toString c.mcc, mnc := toString c.mnc, ci := c.ci,
                            pci := c.pci, tac := c.tac, earfcn := c.earfcn }] }
  | .TD_SCDMA c =>
    { cellInfoType := .TD_SCDMA
      cellIdentityTdscdma := [{ mcc := toString c.mcc, mnc := toString c.mnc, lac := c.lac,
                                cid := c.cid, cpid := c.cpid }] }
  | .NONE => { cellInfoType := .NONE }

def convertResponseStringEntryToInt (response : Option Strings) (index : Nat) (numStrings : Int) :
    Int :=
  match response with
  | none => -1
  | some response =>
    if numStrings > index then
      match response index with
      | some s => atoi s
      | none => -1
    else -1

def convertResponseHexStringEntryToInt (response : Option Strings) (index : Nat)
    (numStrings : Int) : Int :=
  match response with
  | none => -1
  | some response =>
    if numStrings > index then
      match response index with
      | some s => HexNumber.strtol .ilp32 (chars s)
      | none => -1
    else -1

def fillCellIdentityFromVoiceRegStateResponseString (numStrings : Int) (response : Strings) :
    CellIdentity :=
  let hexEntry index := convertResponseHexStringEntryToInt (some response) index numStrings
  let entry index := convertResponseStringEntryToInt (some response) index numStrings
  fillCellIdentityResponse <|
    match getCellInfoTypeRadioTechnology (response 3) with
    | .GSM => .GSM { lac := hexEntry 1, cid := hexEntry 2 }
    | .WCDMA => .WCDMA { lac := hexEntry 1, cid := hexEntry 2, psc := entry 14 }
    | .TD_SCDMA => .TD_SCDMA { lac := hexEntry 1, cid := hexEntry 2 }
    | .CDMA => .CDMA { basestationId := entry 4, latitude := entry 5, longitude := entry 6,
                       systemId := entry 8, networkId := entry 9 }
    | .LTE => .LTE { tac := hexEntry 1, ci := hexEntry 2 }
    | .NONE => .NONE

def fillCellIdentityFromDataRegStateResponseString (numStrings : Int) (response : Strings) :
    CellIdentity :=
  let hexEntry index := convertResponseHexStringEntryToInt (some response) index numStrings
  let entry index := convertResponseStringEntryToInt (some response) index numStrings
  fillCellIdentityResponse <|
    match getCellInfoTypeRadioTechnology (response 3) with
    | .GSM => .GSM { lac := hexEntry 1, cid := hexEntry 2 }
    | .WCDMA => .WCDMA { lac := hexEntry 1, cid := hexEntry 2 }
    | .TD_SCDMA => .TD_SCDMA { lac := hexEntry 1, cid := hexEntry 2 }
    | .LTE => .LTE { tac := entry 6, pci := entry 7, ci := entry 8 }
    -- nothing is read for CDMA, whose member keeps what `memset` left
    | .CDMA => .CDMA {}
    | .NONE => .NONE

/-! ### The values of the CID strings -/

/-- The two kinds of registration states. -/
inductive Kind where
  | voice
  | data

def Kind.fill : Kind → Int → Strings → CellIdentity
  | .voice => fillCellIdentityFromVoiceRegStateResponseString
  | .data => fillCellIdentityFromDataRegStateResponseString

/-- The technologies with a LAC and a CID. -/
def HasLac (t : RIL_CellInfoType) : Prop := t = .GSM ∨ t = .WCDMA ∨ t = .TD_SCDMA

/-- The technologies whose CID is in hexadecimal notation. -/
def Kind.HasCid : Kind → RIL_CellInfoType → Prop
  | .voice, t => HasLac t ∨ t = .LTE
  | .data, t => HasLac t

/-- The cell identities that the client gets, with `ci` for LTE. -/
def CellIdentity.cids (c : CellIdentity) : List Int :=
  c.cellIdentityGsm.map (·.cid) ++ c.cellIdentityWcdma.map (·.cid) ++
    c.cellIdentityTdscdma.map (·.cid) ++ c.cellIdentityLte.map (·.ci)

def CellIdentity.lacs (c : CellIdentity) : List Int :=
  c.cellIdentityGsm.map (·.lac) ++ c.cellIdentityWcdma.map (·.lac) ++
    c.cellIdentityTdscdma.map (·.lac)

/-- One cell identity is delivered, and it is `v` as far as 32 bits go. -/
def CellIdentity.Keeps (c : CellIdentity) (v : Nat) : Prop :=
  ∃ cid : Int, c.cids = [cid] ∧ cid % 4294967296 = (v : Int) % 4294967296

/-- The strings have the CID `v`, which is in the documented range. -/
structure Reports (k : Kind) (numStrings : Int) (response : Strings) (v : Nat) : Prop where
  technology : k.HasCid (getCellInfoTypeRadioTechnology (response 3))
  count : 3 < numStrings
  entry : ∃ s, response 2 = some s ∧ Denotes (chars s) v
  range : v ≤ 0xffffffff

variable {k k' : Kind} {numStrings numStrings' : Int} {response response' : Strings} {v v' : Nat}

theorem hexEntry_eq {index : Nat} {s : CString} (hcount : (index : Int) < numStrings)
    (hs : response index = some s) (hv : Denotes (chars s) v) :
    convertResponseHexStringEntryToInt (some response) index numStrings =
      Decimal.saturate .ilp32 v := by
  simp only [convertResponseHexStringEntryToInt]
  rw [if_pos hcount, hs]
  exact HexNumber.strtol_denotes hv

/-- The hexadecimal entries depend on their strings alone. -/
theorem hexEntry_congr {index : Nat} (hcount : (index : Int) < numStrings)
    (hcount' : (index : Int) < numStrings') (h : response index = response' index) :
    convertResponseHexStringEntryToInt (some response) index numStrings =
      convertResponseHexStringEntryToInt (some response') index numStrings' := by
  simp only [convertResponseHexStringEntryToInt]
  rw [if_pos hcount, if_pos hcount', h]

/-- Both functions read the CID in the same place. -/
theorem cids_fill (h : k.HasCid (getCellInfoTypeRadioTechnology (response 3))) :
    (k.fill numStrings response).cids =
      [convertResponseHexStringEntryToInt (some response) 2 numStrings] := by
  cases k with
  | voice =>
    rcases h with (h | h | h) | h <;>
      simp [Kind.fill, fillCellIdentityFromVoiceRegStateResponseString, fillCellIdentityResponse,
        CellIdentity.cids, h]
  | data =>
    rcases h with h | h | h <;>
      simp [Kind.fill, fillCellIdentityFromDataRegStateResponseString, fillCellIdentityResponse,
        CellIdentity.cids, h]

theorem lacs_fill (h : HasLac (getCellInfoTypeRadioTechnology (response 3))) :
    (k.fill numStrings response).lacs =
      [convertResponseHexStringEntryToInt (some response) 1 numStrings] := by
  cases k <;> rcases h with h | h | h <;>
    simp [Kind.fill, fillCellIdentityFromVoiceRegStateResponseString,
      fillCellIdentityFromDataRegStateResponseString, fillCellIdentityResponse,
      CellIdentity.lacs, h]

theorem hasCid_of_hasLac {t : RIL_CellInfoType} (h : HasLac t) : k.HasCid t := by
  cases k with
  | voice => exact Or.inl h
  | data => exact h

theorem Reports.cids_eq (h : Reports k numStrings response v) :
    (k.fill numStrings response).cids = [Decimal.saturate .ilp32 v] := by
  obtain ⟨s, hs, hv⟩ := h.entry
  have hcount := h.count
  rw [cids_fill h.technology, hexEntry_eq (by omega) hs hv]

/-- `strtol` stops at the largest `long`. -/
theorem saturate_eq_min : Decimal.saturate .ilp32 v = min (v : Int) 0x7fffffff := by
  simp only [Decimal.saturate, Decimal.Abi.longMax, Decimal.Abi.longMin]
  split_ifs <;> omega

theorem Reports.keeps_iff (h : Reports k numStrings response v) :
    (k.fill numStrings response).Keeps v ↔ v ≤ 0x7fffffff := by
  have hrange := h.range
  unfold CellIdentity.Keeps
  rw [h.cids_eq, saturate_eq_min]
  constructor
  · rintro ⟨cid, hcid, hmod⟩
    have : cid = min (v : Int) 0x7fffffff := (List.singleton_inj.mp hcid).symm
    omega
  · intro hv
    exact ⟨v, by rw [min_eq_left (by omega)], rfl⟩

theorem Reports.cids_eq_iff (h : Reports k numStrings response v)
    (h' : Reports k' numStrings' response' v') :
    (k.fill numStrings response).cids = (k'.fill numStrings' response').cids ↔
      v = v' ∨ (0x7fffffff ≤ v ∧ 0x7fffffff ≤ v') := by
  rw [h.cids_eq, h'.cids_eq, saturate_eq_min, saturate_eq_min, List.singleton_inj]
  omega

/-- Where a LAC and a CID are read, they depend on their strings alone, for both functions. -/
theorem fill_agree (hcount : 3 < numStrings) (hcount' : 3 < numStrings')
    (hlac : response 1 = response' 1) (hcid : response 2 = response' 2)
    (h : HasLac (getCellInfoTypeRadioTechnology (response 3)))
    (h' : HasLac (getCellInfoTypeRadioTechnology (response' 3))) :
    (k.fill numStrings response).lacs = (k'.fill numStrings' response').lacs ∧
      (k.fill numStrings response).cids = (k'.fill numStrings' response').cids := by
  have hlacs := @hexEntry_congr numStrings numStrings' response response' 1 (by omega) (by omega)
    hlac
  have hcids := @hexEntry_congr numStrings numStrings' response response' 2 (by omega) (by omega)
    hcid
  rw [lacs_fill h, lacs_fill h', cids_fill (hasCid_of_hasLac h), cids_fill (hasCid_of_hasLac h'),
    hlacs, hcids]
  exact ⟨rfl, rfl⟩

/-- Cell identities keep their values as far as an `int` goes and are distinct unless both reach
its largest value; the two functions agree on all strings. -/
theorem registrationStates_keep_cids (h : Reports k numStrings response v) :
    ((k.fill numStrings response).Keeps v ↔ v ≤ 0x7fffffff) ∧
    (∀ k' numStrings' response' v', Reports k' numStrings' response' v' →
      ((k.fill numStrings response).cids = (k'.fill numStrings' response').cids ↔
        v = v' ∨ (0x7fffffff ≤ v ∧ 0x7fffffff ≤ v'))) ∧
    ∀ (numStrings numStrings' : Int) (voice data : Strings), 3 < numStrings → 3 < numStrings' →
      voice 1 = data 1 → voice 2 = data 2 → voice 3 = data 3 →
      HasLac (getCellInfoTypeRadioTechnology (voice 3)) →
      (fillCellIdentityFromVoiceRegStateResponseString numStrings voice).lacs =
        (fillCellIdentityFromDataRegStateResponseString numStrings' data).lacs ∧
      (fillCellIdentityFromVoiceRegStateResponseString numStrings voice).cids =
        (fillCellIdentityFromDataRegStateResponseString numStrings' data).cids := by
  refine ⟨h.keeps_iff, fun _ _ _ _ h' => h.cids_eq_iff h', ?_⟩
  intro numStrings numStrings' voice data hcount hcount' hlac hcid htech h
  have h' : HasLac (getCellInfoTypeRadioTechnology (data 3)) := htech ▸ h
  exact @fill_agree .voice .data _ _ _ _ hcount hcount' hlac hcid h h'

/-- A voice registration state of GSM with this CID. -/
def gsmStrings (cid : String) : Strings := fun i =>
  [some (CStrings.ascii "1"), some (CStrings.ascii "00FF"), some (CStrings.ascii cid),
    some (CStrings.ascii "16")][i]?.join

theorem technology_gsmStrings (cid : String) :
    getCellInfoTypeRadioTechnology (gsmStrings cid 3) = .GSM := by
  rfl

theorem registrationStates_keep_cids_sample :
    Reports .voice 15 (gsmStrings "1a2B") 0x1a2b ∧
      (fillCellIdentityFromVoiceRegStateResponseString 15 (gsmStrings "1a2B")).Keeps 0x1a2b := by
  have h : Reports .voice 15 (gsmStrings "1a2B") 0x1a2b :=
    { technology := Or.inl (Or.inl (technology_gsmStrings _))
      count := by decide
      entry := ⟨_, rfl, _, [1, 10, 2, 11], Or.inl rfl, by decide, by decide, by decide⟩
      range := by decide }
  exact ⟨h, (registrationStates_keep_cids h).1.mpr (by decide)⟩

/-- Two CIDs with the highest bit set are delivered as the largest `int`. -/
theorem not_keeps_high :
    Reports .voice 15 (gsmStrings "80000000") 0x80000000 ∧
    Reports .voice 15 (gsmStrings "FFFFFFFF") 0xffffffff ∧
    ¬(fillCellIdentityFromVoiceRegStateResponseString 15 (gsmStrings "80000000")).Keeps
      0x80000000 ∧
    (fillCellIdentityFromVoiceRegStateResponseString 15 (gsmStrings "80000000")).cids =
      (fillCellIdentityFromVoiceRegStateResponseString 15 (gsmStrings "FFFFFFFF")).cids := by
  have hlow : Reports .voice 15 (gsmStrings "80000000") 0x80000000 :=
    { technology := Or.inl (Or.inl (technology_gsmStrings _))
      count := by decide
      entry := ⟨_, rfl, _, [8, 0, 0, 0, 0, 0, 0, 0], Or.inl rfl, by decide, by decide, by decide⟩
      range := by decide }
  have hhigh : Reports .voice 15 (gsmStrings "FFFFFFFF") 0xffffffff :=
    { technology := Or.inl (Or.inl (technology_gsmStrings _))
      count := by decide
      entry := ⟨_, rfl, _, [15, 15, 15, 15, 15, 15, 15, 15], Or.inl rfl, by decide, by decide,
        by decide⟩
      range := by decide }
  exact ⟨hlow, hhigh, fun hkeeps => absurd (hlow.keeps_iff.mp hkeeps) (by decide),
    (hlow.cids_eq_iff hhigh).mpr (Or.inr ⟨by decide, by decide⟩)⟩

end Apq8084.Ril.RegistrationState
