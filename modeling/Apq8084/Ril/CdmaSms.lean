import Apq8084.Ril.Dispatch

/-! The CDMA messages of `ril_service.cpp`: the record that `constructCdmaSms` makes of a message,
and the message that `cdmaNewSmsInd` makes of a record. -/
namespace Apq8084.Ril.CdmaSms

def RIL_CDMA_SMS_ADDRESS_MAX : Nat := 36
def RIL_CDMA_SMS_SUBADDRESS_MAX : Nat := 36
def RIL_CDMA_SMS_BEARER_DATA_MAX : Nat := 255

/-- A `hidl_vec<uint8_t>`, which counts its elements in 32 bits. -/
structure HidlVec where
  data : List UInt8
  size_lt : data.length < 4294967296

def HidlVec.size (v : HidlVec) : Nat := v.data.length

structure CdmaSmsAddress where
  digitMode : Int32
  numberMode : Int32
  numberType : Int32
  numberPlan : Int32
  digits : HidlVec

structure CdmaSmsSubaddress where
  subaddressType : Int32
  odd : Bool
  digits : HidlVec

structure CdmaSmsMessage where
  teleserviceId : Int32
  isServicePresent : Bool
  serviceCategory : Int32
  address : CdmaSmsAddress
  subAddress : CdmaSmsSubaddress
  bearerData : HidlVec

structure RIL_CDMA_SMS_Address where
  digit_mode : UInt32
  number_mode : UInt32
  number_type : UInt32
  number_plan : UInt32
  number_of_digits : UInt8
  digits : Vector UInt8 RIL_CDMA_SMS_ADDRESS_MAX

structure RIL_CDMA_SMS_Subaddress where
  subaddressType : UInt32
  odd : UInt8
  number_of_digits : UInt8
  digits : Vector UInt8 RIL_CDMA_SMS_SUBADDRESS_MAX

structure RIL_CDMA_SMS_Message where
  uTeleserviceID : Int32
  bIsServicePresent : UInt8
  uServicecategory : Int32
  sAddress : RIL_CDMA_SMS_Address
  sSubAddress : RIL_CDMA_SMS_Subaddress
  uBearerDataLen : Int32
  aBearerData : Vector UInt8 RIL_CDMA_SMS_BEARER_DATA_MAX

/-- `BOOL_TO_INT` in an `unsigned char`. -/
def byteOfBool (b : Bool) : UInt8 := if b then 1 else 0

def boolOfByte (c : UInt8) : Bool := c != 0

/-- `for (int i = 0; i < digitLimit; i++) dst[i] = src[i];` into an array of zeros. -/
def copyDigits (n : Nat) (src : List UInt8) (digitLimit : Int) : Vector UInt8 n :=
  (List.range digitLimit.toNat).foldl (fun dst i => dst.setIfInBounds i (src.getD i 0))
    (Vector.replicate n 0)

def constructCdmaSms (sms : CdmaSmsMessage) : RIL_CDMA_SMS_Message :=
  let addressDigits := UInt8.ofNat sms.address.digits.size
  let subaddressDigits := UInt8.ofNat sms.subAddress.digits.size
  let bearerDataLen := Int32.ofNat sms.bearerData.size
  { uTeleserviceID := sms.teleserviceId
    bIsServicePresent := byteOfBool sms.isServicePresent
    uServicecategory := sms.serviceCategory
    sAddress :=
      { digit_mode := sms.address.digitMode.toUInt32
        number_mode := sms.address.numberMode.toUInt32
        number_type := sms.address.numberType.toUInt32
        number_plan := sms.address.numberPlan.toUInt32
        number_of_digits := addressDigits
        digits := copyDigits _ sms.address.digits.data
          (min addressDigits.toNat RIL_CDMA_SMS_ADDRESS_MAX) }
    sSubAddress :=
      { subaddressType := sms.subAddress.subaddressType.toUInt32
        odd := byteOfBool sms.subAddress.odd
        number_of_digits := subaddressDigits
        digits := copyDigits _ sms.subAddress.digits.data
          (min subaddressDigits.toNat RIL_CDMA_SMS_SUBADDRESS_MAX) }
    uBearerDataLen := bearerDataLen
    aBearerData := copyDigits _ sms.bearerData.data
      (min bearerDataLen.toInt RIL_CDMA_SMS_BEARER_DATA_MAX) }

/-- `setToExternal` on an array; `none` where the vector would reach behind it, or where its size,
negative and then taken as `size_t`, is not one. -/
def setToExternal {n : Nat} (hn : n < 4294967296) (array : Vector UInt8 n) (size : Int) :
    Option HidlVec :=
  if 0 ≤ size ∧ size ≤ n then
    some
      { data := array.toList.take size.toNat
        size_lt := by
          have hlen := List.length_take_le' size.toNat array.toList
          rw [Vector.length_toList] at hlen
          omega }
  else none

/-- The conversion in `cdmaNewSmsInd`. -/
def newCdmaSms (rilMsg : RIL_CDMA_SMS_Message) : Option CdmaSmsMessage := do
  let addressDigits ← setToExternal (by decide) rilMsg.sAddress.digits
    (min rilMsg.sAddress.number_of_digits.toNat RIL_CDMA_SMS_ADDRESS_MAX)
  let subaddressDigits ← setToExternal (by decide) rilMsg.sSubAddress.digits
    (min rilMsg.sSubAddress.number_of_digits.toNat RIL_CDMA_SMS_SUBADDRESS_MAX)
  let bearerData ← setToExternal (by decide) rilMsg.aBearerData
    (min rilMsg.uBearerDataLen.toInt RIL_CDMA_SMS_BEARER_DATA_MAX)
  return {
    teleserviceId := rilMsg.uTeleserviceID
    isServicePresent := boolOfByte rilMsg.bIsServicePresent
    serviceCategory := rilMsg.uServicecategory
    address :=
      { digitMode := rilMsg.sAddress.digit_mode.toInt32
        numberMode := rilMsg.sAddress.number_mode.toInt32
        numberType := rilMsg.sAddress.number_type.toInt32
        numberPlan := rilMsg.sAddress.number_plan.toInt32
        digits := addressDigits }
    subAddress :=
      { subaddressType := rilMsg.sSubAddress.subaddressType.toInt32
        odd := boolOfByte rilMsg.sSubAddress.odd
        digits := subaddressDigits }
    bearerData := bearerData }

/-! ### What is promised -/

def HidlVec.take (n : Nat) (v : HidlVec) : HidlVec where
  data := v.data.take n
  size_lt := Nat.lt_of_le_of_lt (List.length_take_le' n v.data) v.size_lt

/-- The message with each list cut to the capacity of its array. -/
def CdmaSmsMessage.cut (m : CdmaSmsMessage) : CdmaSmsMessage :=
  { m with
    address := { m.address with digits := m.address.digits.take RIL_CDMA_SMS_ADDRESS_MAX }
    subAddress :=
      { m.subAddress with digits := m.subAddress.digits.take RIL_CDMA_SMS_SUBADDRESS_MAX }
    bearerData := m.bearerData.take RIL_CDMA_SMS_BEARER_DATA_MAX }

/-- All lists are within the capacities. -/
def CdmaSmsMessage.Short (m : CdmaSmsMessage) : Prop :=
  m.address.digits.size ≤ RIL_CDMA_SMS_ADDRESS_MAX ∧
    m.subAddress.digits.size ≤ RIL_CDMA_SMS_SUBADDRESS_MAX ∧
    m.bearerData.size ≤ RIL_CDMA_SMS_BEARER_DATA_MAX

/-- The record states counts within the capacities. -/
def RIL_CDMA_SMS_Message.CountsFit (rcsm : RIL_CDMA_SMS_Message) : Prop :=
  rcsm.sAddress.number_of_digits.toNat ≤ RIL_CDMA_SMS_ADDRESS_MAX ∧
    rcsm.sSubAddress.number_of_digits.toNat ≤ RIL_CDMA_SMS_SUBADDRESS_MAX ∧
    rcsm.uBearerDataLen.toInt ≤ RIL_CDMA_SMS_BEARER_DATA_MAX

/-- The counts fit, and the message comes back cut, or whole where it is short. -/
structure RoundTrips (m : CdmaSmsMessage) : Prop where
  counts : (constructCdmaSms m).CountsFit
  cut : newCdmaSms (constructCdmaSms m) = some m.cut
  whole : m.Short → newCdmaSms (constructCdmaSms m) = some m

/-- The count of digits, kept in eight bits, is the size of the list or the capacity `n`. -/
def Counted (n : Nat) (v : HidlVec) : Prop := v.size ≤ n ∨ v.size % 256 = n

variable {m : CdmaSmsMessage} {v : HidlVec} {src : List UInt8} {n k : Nat}

/-! ### The arrays -/

theorem getElem_copyDigits {i : Nat} (hi : i < n) :
    (copyDigits n src k)[i] = if i < k then src.getD i 0 else 0 := by
  unfold copyDigits
  rw [Int.toNat_natCast]
  induction k with
  | zero => simp
  | succ k ih =>
    simp only [List.range_succ, List.foldl_append, List.foldl_cons, List.foldl_nil]
    rw [Vector.getElem_setIfInBounds, ih]
    by_cases hik : k = i
    · subst hik
      simp
    · rw [if_neg hik]
      have hlt : i < k ↔ i < k + 1 := by omega
      simp only [hlt]

/-- The first elements come back out of the array. -/
theorem setToExternal_copyDigits (hn : n < 4294967296) (hkn : k ≤ n) (hk : k ≤ v.size) :
    setToExternal hn (copyDigits n v.data k) k = some (v.take k) := by
  have hdata : (copyDigits n v.data k).toList.take k = v.data.take k := by
    apply List.ext_getElem
    · have : k ≤ v.data.length := hk
      simp only [List.length_take, Vector.length_toList]
      omega
    · intro i hi hi'
      rw [List.length_take] at hi'
      have hik : i < k := by omega
      have hlen : i < v.data.length := by omega
      simp only [List.getElem_take, Vector.getElem_toList, getElem_copyDigits, if_pos hik,
        List.getD_eq_getElem?_getD, List.getElem?_eq_getElem hlen, Option.getD_some]
  have hbound : 0 ≤ (k : Int) ∧ (k : Int) ≤ n := by omega
  unfold setToExternal
  rw [if_pos hbound]
  simp only [Int.toNat_natCast, hdata, HidlVec.take]

theorem take_size_inj {i j : Nat} (h : v.take i = v.take j) : min i v.size = min j v.size := by
  have hlen := congrArg HidlVec.size h
  simpa only [HidlVec.size, HidlVec.take, List.length_take] using hlen

theorem take_of_size_le (h : v.size ≤ n) : v.take n = v := by
  have : v.data.take n = v.data := List.take_of_length_le h
  simp only [HidlVec.take, this]

/-! ### The three lists -/

/-- What becomes of a list whose count is kept in eight bits. -/
def digitsBack (n : Nat) (hn : n < 4294967296) (v : HidlVec) : Option HidlVec :=
  setToExternal hn (copyDigits n v.data (min (UInt8.ofNat v.size).toNat n))
    (min (UInt8.ofNat v.size).toNat n)

theorem digitsBack_eq (hn : n < 4294967296) :
    digitsBack n hn v = some (v.take (min (v.size % 256) n)) := by
  have hmod : v.size % 256 ≤ v.size := Nat.mod_le _ _
  have hcast : min ((UInt8.ofNat v.size).toNat : Int) n =
      ((min (v.size % 256) n : Nat) : Int) := by
    rw [UInt8.toNat_ofNat']
    omega
  unfold digitsBack
  rw [hcast]
  exact setToExternal_copyDigits hn (Nat.min_le_right _ _) (by omega)

/-- The count fits and the list comes back cut exactly if it is counted. -/
theorem digitsBack_iff (hn : n < 256) :
    (UInt8.ofNat v.size).toNat ≤ n ∧ digitsBack n (by omega) v = some (v.take n) ↔
      Counted n v := by
  rw [digitsBack_eq, UInt8.toNat_ofNat', Option.some.injEq]
  constructor
  · rintro ⟨hcount, htake⟩
    have hmin := take_size_inj htake
    unfold Counted
    omega
  · rintro (hle | hmod)
    · have hsmall : v.size % 256 = v.size := Nat.mod_eq_of_lt (by omega)
      rw [hsmall, Nat.min_eq_left hle, take_of_size_le hle, take_of_size_le (Nat.le_refl _)]
      exact ⟨hle, rfl⟩
    · simp only [Nat.reducePow, hmod, Nat.min_self, Nat.le_refl, true_and]

def bearerBack (v : HidlVec) : Option HidlVec :=
  setToExternal (by decide)
    (copyDigits RIL_CDMA_SMS_BEARER_DATA_MAX v.data
      (min (Int32.ofNat v.size).toInt RIL_CDMA_SMS_BEARER_DATA_MAX))
    (min (Int32.ofNat v.size).toInt RIL_CDMA_SMS_BEARER_DATA_MAX)

/-- The bearer data have to be short: their count is not cut, and from 2^31 on it is negative. -/
theorem bearerBack_iff :
    (Int32.ofNat v.size).toInt ≤ RIL_CDMA_SMS_BEARER_DATA_MAX ∧
        bearerBack v = some (v.take RIL_CDMA_SMS_BEARER_DATA_MAX) ↔
      v.size ≤ RIL_CDMA_SMS_BEARER_DATA_MAX := by
  have hlt : v.size < 4294967296 := v.size_lt
  have hcount : (Int32.ofNat v.size).toInt = (v.size : Int).bmod 4294967296 :=
    Int32.toInt_ofNat'
  have hcases : (v.size : Int).bmod 4294967296 =
      if v.size < 2147483648 then (v.size : Int) else v.size - 4294967296 := by
    rw [Int.bmod_def]
    split <;> split <;> omega
  unfold bearerBack
  rw [hcount, hcases]
  by_cases hsmall : v.size < 2147483648
  · rw [if_pos hsmall]
    constructor
    · rintro ⟨hle, -⟩
      omega
    · intro hle
      have hmin : min (v.size : Int) RIL_CDMA_SMS_BEARER_DATA_MAX = (v.size : Int) := by omega
      rw [hmin, setToExternal_copyDigits _ hle (Nat.le_refl _), take_of_size_le hle,
        take_of_size_le (Nat.le_refl _)]
      exact ⟨by omega, rfl⟩
  · rw [if_neg hsmall]
    apply iff_of_false
    · rintro ⟨-, hback⟩
      have hneg : ¬(0 ≤ min ((v.size : Int) - 4294967296) RIL_CDMA_SMS_BEARER_DATA_MAX ∧
          min ((v.size : Int) - 4294967296) RIL_CDMA_SMS_BEARER_DATA_MAX ≤
            RIL_CDMA_SMS_BEARER_DATA_MAX) := by omega
      rw [setToExternal, if_neg hneg] at hback
      cases hback
    · simp only [RIL_CDMA_SMS_BEARER_DATA_MAX]
      omega

/-! ### The message -/

def CdmaSmsMessage.withLists (m : CdmaSmsMessage) (a b c : HidlVec) : CdmaSmsMessage :=
  { m with
    address := { m.address with digits := a }
    subAddress := { m.subAddress with digits := b }
    bearerData := c }

theorem withLists_inj {a b c a' b' c' : HidlVec} :
    m.withLists a b c = m.withLists a' b' c' ↔ a = a' ∧ b = b' ∧ c = c' := by
  simp [CdmaSmsMessage.withLists]

@[simp] theorem boolOfByte_byteOfBool (b : Bool) : boolOfByte (byteOfBool b) = b := by
  cases b <;> rfl

/-- The fields other than the lists come back as they are. -/
theorem newCdmaSms_constructCdmaSms :
    newCdmaSms (constructCdmaSms m) = do
      let a ← digitsBack RIL_CDMA_SMS_ADDRESS_MAX (by decide) m.address.digits
      let b ← digitsBack RIL_CDMA_SMS_SUBADDRESS_MAX (by decide) m.subAddress.digits
      let c ← bearerBack m.bearerData
      return m.withLists a b c := by
  simp only [newCdmaSms, constructCdmaSms, boolOfByte_byteOfBool, Int32.toInt32_toUInt32]
  rfl

theorem newCdmaSms_eq_some_iff {a b c : HidlVec} :
    newCdmaSms (constructCdmaSms m) = some (m.withLists a b c) ↔
      digitsBack RIL_CDMA_SMS_ADDRESS_MAX (by decide) m.address.digits = some a ∧
        digitsBack RIL_CDMA_SMS_SUBADDRESS_MAX (by decide) m.subAddress.digits = some b ∧
        bearerBack m.bearerData = some c := by
  rw [newCdmaSms_constructCdmaSms]
  simp only [Option.bind_eq_bind, Option.pure_def, Option.bind_eq_some_iff, Option.some.injEq,
    withLists_inj]
  constructor
  · rintro ⟨a', ha, b', hb, c', hc, rfl, rfl, rfl⟩
    exact ⟨ha, hb, hc⟩
  · rintro ⟨ha, hb, hc⟩
    exact ⟨a, ha, b, hb, c, hc, rfl, rfl, rfl⟩

theorem cut_eq_of_short (h : m.Short) : m.cut = m := by
  obtain ⟨ha, hb, hc⟩ := h
  simp only [CdmaSmsMessage.cut, take_of_size_le ha, take_of_size_le hb, take_of_size_le hc]

/-- Counts that fit and lists that come back cut, for any sizes. -/
theorem roundTrips_iff (m : CdmaSmsMessage) :
    RoundTrips m ↔
      Counted RIL_CDMA_SMS_ADDRESS_MAX m.address.digits ∧
        Counted RIL_CDMA_SMS_SUBADDRESS_MAX m.subAddress.digits ∧
        m.bearerData.size ≤ RIL_CDMA_SMS_BEARER_DATA_MAX := by
  have haddress := @digitsBack_iff m.address.digits RIL_CDMA_SMS_ADDRESS_MAX (by decide)
  have hsubaddress := @digitsBack_iff m.subAddress.digits RIL_CDMA_SMS_SUBADDRESS_MAX (by decide)
  have hbearer := @bearerBack_iff m.bearerData
  constructor
  · rintro ⟨⟨ha, hb, hc⟩, hcut, -⟩
    obtain ⟨ha', hb', hc'⟩ := newCdmaSms_eq_some_iff.mp hcut
    exact ⟨haddress.mp ⟨ha, ha'⟩, hsubaddress.mp ⟨hb, hb'⟩, hbearer.mp ⟨hc, hc'⟩⟩
  · rintro ⟨ha, hb, hc⟩
    obtain ⟨ha, ha'⟩ := haddress.mpr ha
    obtain ⟨hb, hb'⟩ := hsubaddress.mpr hb
    obtain ⟨hc, hc'⟩ := hbearer.mpr hc
    have hcut : newCdmaSms (constructCdmaSms m) = some m.cut :=
      newCdmaSms_eq_some_iff.mpr ⟨ha', hb', hc'⟩
    refine ⟨⟨ha, hb, hc⟩, hcut, ?_⟩
    intro hshort
    rw [hcut, cut_eq_of_short hshort]

/-- A message to an address of 40 digits. -/
def fortyDigits : CdmaSmsMessage :=
  let none : HidlVec := { data := [], size_lt := by decide }
  { teleserviceId := 0, isServicePresent := true, serviceCategory := 0
    address :=
      { digitMode := 1, numberMode := 0, numberType := 0, numberPlan := 0
        digits := { data := List.replicate 40 1, size_lt := by decide } }
    subAddress := { subaddressType := 0, odd := false, digits := none }
    bearerData := none }

theorem not_roundTrips_fortyDigits : ¬∀ m, RoundTrips m := by
  intro h
  have hcount : (40 : Nat) ≤ 36 := (h fortyDigits).counts.1
  exact absurd hcount (by decide)

end Apq8084.Ril.CdmaSms
