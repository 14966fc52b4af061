import Apq8084.Lib.Alloc
import Apq8084.Ril.RadioCalls

/-! The memory of the request methods of `ril_service.cpp`: the blocks that they allocate for the
vendor, on every path behind `addRequestToList`. Every allocation may fail. -/
namespace Apq8084.Ril.RequestHeap

open Alloc

/-- How a method ends. -/
inductive Outcome where
  /-- The vendor was called. -/
  | called
  | refused
  /-- `strlcpy` has cut a string off, and the copy was left behind. -/
  | truncated
deriving DecidableEq

variable (e : Nat → Bool)

/-- The result, and what is in `*dest` then. -/
def copyHidlStringToRil (src : HidlString) (allowEmpty : Bool) : Code (Bool × Ptr) :=
  if src.size = 0 ∧ allowEmpty = false then pure (true, none)
  else do
    match ← allocate e with
    | none => pure (false, none)
    | some dest => pure (decide (src.cStr.length < src.size + 1), some dest)

/-- `if (!copyHidlStringToRil(..)) { memsetAndFreeStrings(fails); return; }`. -/
def copied (src : HidlString) (allowEmpty : Bool) (fails : List Ptr) (next : Ptr → Code Outcome) :
    Code Outcome := do
  let (ok, dest) ← copyHidlStringToRil e src allowEmpty
  if ok then next dest
  else do
    freeAll fails
    pure (if dest.isSome then .truncated else .refused)

/-- `CALL_ONREQUEST` with what the vendor can reach, and what is freed behind it. -/
def callOnRequest (data frees : List Ptr) : Code Outcome := do
  use data
  freeAll frees
  pure .called

def dispatchString (str : CString) : Code Outcome :=
  copied e (.ofCStr str) false [] fun pString => callOnRequest [pString] [pString]

/-- The loop of `dispatchStrings` behind the strings already copied. -/
def copyStrings (allowEmpty : Bool) (pStrings : Ptr) : List HidlString → List Ptr → Code Outcome
  | [], copies => callOnRequest (pStrings :: copies) (copies ++ [pStrings])
  | str :: strs, copies =>
    copied e str allowEmpty (copies ++ [pStrings]) fun p =>
      copyStrings allowEmpty pStrings strs (copies ++ [p])

def dispatchStringVec (allowEmpty : Bool) (strs : List HidlString) : Code Outcome := do
  match ← allocate e with
  | none => pure .refused
  | some pStrings => copyStrings e allowEmpty (some pStrings) strs []

def dispatchStrings (allowEmpty : Bool) (strs : List CString) : Code Outcome :=
  dispatchStringVec e allowEmpty (strs.map .ofCStr)

def dispatchInts : Code Outcome := do
  match ← allocate e with
  | none => pure .refused
  | some pInts => callOnRequest [some pInts] [some pInts]

def dispatchCallForwardStatus (callInfo : CallForwardInfo) : Code Outcome :=
  copied e callInfo.number false [] fun number => callOnRequest [number] [number]

def dispatchIccApdu (message : SimApdu) : Code Outcome :=
  copied e message.data false [] fun data => callOnRequest [data] [data]

def iccOpenLogicalChannel (aid : HidlString) : Code Outcome :=
  copied e aid false [] fun aidPtr => callOnRequest [aidPtr] [aidPtr]

def nvWriteItem (value : HidlString) : Code Outcome :=
  copied e value false [] fun value => callOnRequest [value] [value]

def writeSmsToSim (pdu smsc : HidlString) : Code Outcome :=
  copied e pdu false [] fun pdu =>
  copied e smsc false [pdu] fun smsc =>
  callOnRequest [pdu, smsc] [smsc, pdu]

def requestIccSimAuthentication (authData aid : HidlString) : Code Outcome :=
  copied e authData false [] fun authData =>
  copied e aid false [authData] fun aid =>
  callOnRequest [authData, aid] [authData, aid]

/-- The user-to-user data, if there is a record of them. -/
def dial (address : HidlString) (uusData : Option HidlString) : Code Outcome :=
  copied e address false [] fun address =>
    match uusData with
    | none => callOnRequest [address] [address, none]
    | some uusData =>
      if uusData.size = 0 then callOnRequest [address, none] [address, none]
      else
        copied e uusData false [address] fun uusData =>
        callOnRequest [address, uusData] [address, uusData]

def iccIOForApp (path data pin2 aid : HidlString) : Code Outcome :=
  copied e path false [] fun path =>
  copied e data false [path] fun data =>
  copied e pin2 false [path, data] fun pin2 =>
  copied e aid false [path, data, pin2] fun aidPtr =>
  callOnRequest [path, data, pin2, aidPtr] [path, data, pin2, aidPtr]

def setInitialAttachApn (version : Int) (info : DataProfileInfo) (isRoaming : Bool) :
    Code Outcome :=
  if version ≤ 14 then
    copied e info.apn true [] fun apn =>
    copied e (if isRoaming then info.roamingProtocol else info.protocol) false [apn] fun protocol =>
    copied e info.user false [apn, protocol] fun username =>
    copied e info.password false [apn, protocol, username] fun password =>
    callOnRequest [apn, protocol, username, password] [apn, protocol, username, password]
  else
    copied e info.apn true [] fun apn =>
    copied e info.protocol false [apn] fun protocol =>
    copied e info.roamingProtocol false [apn, protocol] fun roamingProtocol =>
    copied e info.user false [apn, protocol, roamingProtocol] fun username =>
    copied e info.password false [apn, protocol, roamingProtocol, username] fun password =>
    if (Dispatch.convertMvnoTypeToString info.mvnoType).isNone then do
      freeAll [apn, protocol, roamingProtocol, username, password]
      pure .refused
    else
      copied e info.mvnoMatchData false [apn, protocol, roamingProtocol, username, password]
        fun mvnoMatchData =>
      callOnRequest [apn, protocol, roamingProtocol, username, password, mvnoMatchData]
        [apn, protocol, roamingProtocol, username, password, mvnoMatchData]

def dispatchImsGsmSms (message : ImsSmsMessage) : Code Outcome :=
  match message.gsmMessage with
  | [gsmMessage] => do
    match ← allocate e with
    | none => pure .refused
    | some pStrings =>
      copied e gsmMessage.smscPdu false [some pStrings] fun smscPdu =>
      copied e gsmMessage.pdu false [smscPdu, some pStrings] fun pdu =>
      callOnRequest [some pStrings, smscPdu, pdu] [smscPdu, pdu, some pStrings]
  | _ => pure .refused

/-- The CDMA message is on the stack. -/
def dispatchImsCdmaSms (message : ImsSmsMessage) : Code Outcome :=
  match message.cdmaMessage with
  | [_] => callOnRequest [] []
  | _ => pure .refused

def sendImsSms (message : ImsSmsMessage) : Code Outcome :=
  if message.tech = RADIO_TECH_3GPP then dispatchImsGsmSms e message
  else if message.tech = RADIO_TECH_3GPP2 then dispatchImsCdmaSms message
  else pure .refused

/-- The strings point into the argument. -/
def setAllowedCarriers : Code Outcome := do
  match ← allocate e with
  | none => pure .refused
  | some allowedCarriers =>
    match ← allocate e with
    | none => do
      freeAll [some allowedCarriers]
      pure .refused
    | some excludedCarriers =>
      callOnRequest [some allowedCarriers, some excludedCarriers]
        [some allowedCarriers, some excludedCarriers]

/-- The strings of one data profile, in the order in which they are copied. -/
abbrev Fields := List (HidlString × Bool)

/-- The pointers of one profile as far as `success` lets them be set, the others are null. -/
def copyRow : Fields → Code (Bool × List Ptr)
  | [] => pure (true, [])
  | (src, allowEmpty) :: fields => do
    let (success, p) ← copyHidlStringToRil e src allowEmpty
    if success then do
      let (success, row) ← copyRow fields
      pure (success, p :: row)
    else pure (false, [p])

/-- The loop over the profiles; `known` stands for the conversion of the MVNO type. -/
def copyRows : List (Fields × Bool) → Code (Bool × List (List Ptr))
  | [] => pure (true, [])
  | (fields, known) :: profiles => do
    let (success, row) ← copyRow e fields
    if success = true ∧ known = true then do
      let (success, rows) ← copyRows profiles
      pure (success, row :: rows)
    else pure (false, [row])

/-- Field `i` of profile `j`. -/
def pointer (rows : List (List Ptr)) (i j : Nat) : Ptr := ((rows[j]?.getD [])[i]?).getD none

def freeSetDataProfileData (num numfields : Nat) (dataProfiles dataProfilePtrs : Ptr)
    (rows : List (List Ptr)) : Code Unit := do
  freeAll ((List.range numfields).flatMap fun i => (List.range num).map fun j => pointer rows i j)
  free dataProfiles
  free dataProfilePtrs

def fields (isRoaming : Bool) (info : DataProfileInfo) : Fields :=
  [(info.apn, true), (if isRoaming then info.roamingProtocol else info.protocol, true),
    (info.user, true), (info.password, true)]

def fields_v15 (info : DataProfileInfo) : Fields :=
  [(info.apn, true), (info.protocol, false), (info.roamingProtocol, true), (info.user, true),
    (info.password, true), (info.mvnoMatchData, true)]

def setDataProfile (version : Int) (profiles : List DataProfileInfo) (isRoaming : Bool) :
    Code Outcome := do
  match ← allocate e with
  | none => pure .refused
  | some dataProfiles =>
    match ← allocate e with
    | none => do
      freeAll [some dataProfiles]
      pure .refused
    | some dataProfilePtrs =>
      let numfields := if version ≤ 14 then 4 else 6
      let (success, rows) ← copyRows e (profiles.map fun info =>
        if version ≤ 14 then (fields isRoaming info, true)
        else (fields_v15 info, (Dispatch.convertMvnoTypeToString info.mvnoType).isSome))
      if success then do
        use (some dataProfilePtrs :: some dataProfiles :: rows.flatten)
        freeSetDataProfileData profiles.length numfields (some dataProfiles) (some dataProfilePtrs)
          rows
        pure .called
      else do
        freeSetDataProfileData profiles.length numfields (some dataProfiles) (some dataProfilePtrs)
          rows
        pure .refused

/-- `new` does not return without a block; only the key is deleted. -/
def setCarrierInfoForImsiEncryption (mnc mcc keyIdentifier : HidlString) : Code Outcome :=
  copied e mnc false [] fun mnc =>
  copied e mcc false [mnc] fun mcc =>
  copied e keyIdentifier false [mnc, mcc] fun keyIdentifier => do
    let carrierKey ← allocate fun _ => true
    callOnRequest [mnc, mcc, keyIdentifier, carrierKey] [carrierKey]

/-! Every path gives back what it took. -/

/-- The one block that nobody frees, behind a string that was cut off. -/
def Outcome.leaks : Outcome → Nat
  | .truncated => 1
  | _ => 0

/-- Code that has the blocks of `ps` in its hands, and in the end has freed all but `leaks`; a copy
is cut off only under the condition `C`. -/
def Leaves (C : Prop) (leaks : Outcome → Nat) (ps : List Ptr) (p : Code Outcome) : Prop :=
  ∀ M, Triple (Heap.Owns · (blocks ps + M)) p fun r h =>
    ∃ L : Multiset Nat, h.Owns (L + M) ∧ L.card = leaks r ∧ (r = .truncated → C)

/-- Nothing is left but the copy that was cut off. -/
def Returns (C : Prop) (ps : List Ptr) (p : Code Outcome) : Prop := Leaves C Outcome.leaks ps p

/-- `strlcpy` finds more than `size()` has promised. -/
def Overlong (src : HidlString) : Prop := src.size < src.cStr.length

variable {e} {C : Prop} {ps qs frees : List Ptr} {src : HidlString} {allowEmpty : Bool}

/-- The block behind `*dest` is the caller's, also when the copy was cut off. -/
theorem triple_copyHidlStringToRil {M : Multiset Nat} :
    Triple (Heap.Owns · M) (copyHidlStringToRil e src allowEmpty) fun r h =>
      h.Owns (block r.2 + M) ∧ (r.1 = false → r.2 = none ∨ Overlong src) ∧
        (r.1 = true → allowEmpty = false → (r.2.isSome ↔ src.size ≠ 0)) := by
  unfold copyHidlStringToRil
  split
  · rename_i hempty
    refine triple_pure fun h hh => ⟨by rwa [block, zero_add], (fun hok => by cases hok), ?_⟩
    intro _ _
    simp [hempty.1]
  · rename_i hne
    refine triple_bind (triple_allocate e) fun p => ?_
    cases p with
    | none => exact triple_pure fun h hh => ⟨hh, fun _ => .inl rfl, (fun hok => by cases hok)⟩
    | some dest =>
      refine triple_pure fun h hh => ⟨hh, fun hok => .inr ?_, fun _ hempty => ?_⟩
      · have hlong := of_decide_eq_false hok
        unfold Overlong
        omega
      · exact ⟨fun _ hzero => hne ⟨hzero, hempty⟩, fun _ => rfl⟩

theorem leaves_copied {leaks : Outcome → Nat} {fails : List Ptr} {next : Ptr → Code Outcome}
    (hleaks : leaks .refused = 0 ∧ leaks .truncated = 1)
    (hsrc : Overlong src → C) (hfails : blocks fails = blocks ps)
    (hnext : ∀ p, (allowEmpty = false → (p.isSome ↔ src.size ≠ 0)) →
      Leaves C leaks (ps ++ [p]) (next p)) :
    Leaves C leaks ps (copied e src allowEmpty fails next) := by
  intro M
  refine triple_bind triple_copyHidlStringToRil fun r => ?_
  obtain ⟨ok, dest⟩ := r
  cases ok with
  | true =>
    intro h hh
    apply hnext dest (hh.2.2 rfl) M
    show h.Owns (blocks (ps ++ [dest]) + M)
    rw [blocks_append, blocks_cons, blocks_nil, add_zero, add_comm (blocks ps), add_assoc]
    exact hh.1
  | false =>
    intro h hh
    have hfree : Triple (Heap.Owns · (blocks fails + (block dest + M))) (freeAll fails)
        fun _ h => h.Owns (block dest + M) := triple_freeAll fails
    have hpre : h.Owns (blocks fails + (block dest + M)) := by
      rw [hfails, add_left_comm]
      exact hh.1
    refine ⟨block dest, hfree h hpre, ?_, fun hr => ?_⟩
    · cases dest with
      | none => exact hleaks.1.symm
      | some a => exact hleaks.2.symm
    · cases dest with
      | none => cases hr
      | some a => exact hsrc ((hh.2.1 rfl).resolve_left (Option.some_ne_none a))

theorem returns_copied {fails : List Ptr} {next : Ptr → Code Outcome}
    (hsrc : Overlong src → C) (hfails : blocks fails = blocks ps)
    (hnext : ∀ p, Returns C (ps ++ [p]) (next p)) :
    Returns C ps (copied e src allowEmpty fails next) :=
  leaves_copied ⟨rfl, rfl⟩ hsrc hfails fun p _ => hnext p

theorem returns_callOnRequest (hqs : ∀ a, some a ∈ qs → some a ∈ ps)
    (hfrees : blocks frees = blocks ps) : Returns C ps (callOnRequest qs frees) := by
  intro M
  refine triple_bind (triple_use hqs) fun _ => ?_
  have hfree : Triple (Heap.Owns · (blocks frees + M)) (freeAll frees) fun _ h => h.Owns M :=
    triple_freeAll frees
  rw [← hfrees]
  refine triple_bind hfree fun _ => ?_
  exact triple_pure fun h hh => ⟨0, by rwa [zero_add], rfl, fun hr => by cases hr⟩

theorem returns_refused (hfrees : blocks frees = blocks ps) :
    Returns C ps (do freeAll frees; pure .refused) := by
  intro M
  have hfree : Triple (Heap.Owns · (blocks frees + M)) (freeAll frees) fun _ h => h.Owns M :=
    triple_freeAll frees
  rw [← hfrees]
  refine triple_bind hfree fun _ => ?_
  exact triple_pure fun h hh => ⟨0, by rwa [zero_add], rfl, fun hr => by cases hr⟩

theorem returns_pure_refused : Returns C [] (pure .refused) := by
  intro M
  exact triple_pure fun h hh => ⟨0, hh, rfl, fun hr => by cases hr⟩

theorem returns_allocate {next : Ptr → Code Outcome} (hnone : Returns C ps (next none))
    (hsome : ∀ a, Returns C (ps ++ [some a]) (next (some a))) :
    Returns C ps (do let p ← allocate e; next p) := by
  intro M
  refine triple_bind (triple_allocate e) fun p => ?_
  cases p with
  | none =>
    apply triple_pre (hnone M)
    intro h hh
    rwa [block, zero_add] at hh
  | some a =>
    apply triple_pre (hsome a M)
    intro h hh
    rw [blocks_append, blocks_cons, blocks_nil, add_zero, add_comm (blocks ps), add_assoc]
    exact hh

theorem not_overlong_ofCStr {str : CString} : ¬Overlong (.ofCStr str) :=
  Nat.lt_irrefl str.length

theorem returns_copyStrings {pStrings : Ptr} {strs : List HidlString} {copies : List Ptr}
    (hstrs : ∀ str ∈ strs, Overlong str → C) :
    Returns C (pStrings :: copies) (copyStrings e allowEmpty pStrings strs copies) := by
  have hswap : ∀ copies : List Ptr,
      blocks (copies ++ [pStrings]) = blocks (pStrings :: copies) := by
    intro copies
    rw [blocks_append, blocks_cons, blocks_cons, blocks_nil, add_zero, add_comm]
  induction strs generalizing copies with
  | nil => exact returns_callOnRequest (fun a ha => ha) (hswap copies)
  | cons str strs ih =>
    refine returns_copied (hstrs str List.mem_cons_self) (hswap copies) fun p => ?_
    exact ih fun str hstr => hstrs str (List.mem_cons_of_mem _ hstr)

theorem returns_dispatchStringVec {strs : List HidlString}
    (hstrs : ∀ str ∈ strs, Overlong str → C) :
    Returns C [] (dispatchStringVec e allowEmpty strs) :=
  returns_allocate returns_pure_refused fun _ => returns_copyStrings hstrs

theorem returns_dispatchStrings (strs : List CString) :
    Returns C [] (dispatchStrings e allowEmpty strs) := by
  apply returns_dispatchStringVec
  intro str hstr hlong
  obtain ⟨s, -, rfl⟩ := List.mem_map.mp hstr
  exact absurd hlong not_overlong_ofCStr

theorem returns_setInitialAttachApn {version : Int} {info : DataProfileInfo} {isRoaming : Bool}
    (hC : ∀ str ∈ [info.apn, info.protocol, info.roamingProtocol, info.user, info.password,
      info.mvnoMatchData], Overlong str → C) :
    Returns C [] (setInitialAttachApn e version info isRoaming) := by
  have hprotocol : Overlong (if isRoaming then info.roamingProtocol else info.protocol) → C := by
    split
    · exact hC info.roamingProtocol (by simp)
    · exact hC info.protocol (by simp)
  unfold setInitialAttachApn
  split
  · refine returns_copied (hC info.apn (by simp)) rfl fun apn =>
      returns_copied hprotocol rfl fun protocol =>
      returns_copied (hC info.user (by simp)) rfl fun username =>
      returns_copied (hC info.password (by simp)) rfl fun password => ?_
    exact returns_callOnRequest (fun a ha => ha) rfl
  · refine returns_copied (hC info.apn (by simp)) rfl fun apn =>
      returns_copied (hC info.protocol (by simp)) rfl fun protocol =>
      returns_copied (hC info.roamingProtocol (by simp)) rfl fun roamingProtocol =>
      returns_copied (hC info.user (by simp)) rfl fun username =>
      returns_copied (hC info.password (by simp)) rfl fun password => ?_
    split
    · exact returns_refused rfl
    · exact returns_copied (hC info.mvnoMatchData (by simp)) rfl fun mvnoMatchData =>
        returns_callOnRequest (fun a ha => ha) rfl

theorem returns_dial {address : HidlString} {uusData : Option HidlString}
    (hC : ∀ str ∈ address :: uusData.toList, Overlong str → C) :
    Returns C [] (dial e address uusData) := by
  refine returns_copied (hC address (by simp)) rfl fun address => ?_
  have hnone : blocks [address, none] = blocks [address] := by
    simp [block]
  cases uusData with
  | none => exact returns_callOnRequest (fun a ha => ha) hnone
  | some uusData =>
    by_cases hsize : uusData.size = 0
    · simp only [if_pos hsize]
      exact returns_callOnRequest (fun a ha => by simpa using ha) hnone
    · simp only [if_neg hsize]
      exact returns_copied (hC uusData (by simp)) rfl fun uusData =>
        returns_callOnRequest (fun a ha => ha) rfl

theorem returns_sendImsSms {message : ImsSmsMessage}
    (hC : ∀ gsm ∈ message.gsmMessage, ∀ str ∈ [gsm.smscPdu, gsm.pdu], Overlong str → C) :
    Returns C [] (sendImsSms e message) := by
  unfold sendImsSms
  split
  · unfold dispatchImsGsmSms
    split
    · rename_i gsmMessage hgsm
      have hmem : gsmMessage ∈ message.gsmMessage := by
        rw [hgsm]
        exact List.mem_singleton_self _
      refine returns_allocate returns_pure_refused fun pStrings =>
        returns_copied (hC gsmMessage hmem _ (by simp)) rfl fun smscPdu =>
        returns_copied (hC gsmMessage hmem _ (by simp)) ?_ fun pdu =>
        returns_callOnRequest (fun a ha => ha) ?_
      · simp only [List.nil_append, List.cons_append, blocks_cons, blocks_nil, add_zero]
        rw [add_comm]
      · simp only [List.nil_append, List.cons_append, blocks_cons, blocks_nil, add_zero]
        rw [add_comm (block (some pStrings)), add_assoc]
    · exact returns_pure_refused
  · split
    · unfold dispatchImsCdmaSms
      split
      · exact returns_callOnRequest (fun a ha => ha) rfl
      · exact returns_pure_refused
    · exact returns_pure_refused

/-! `setDataProfile` frees the fields of all profiles, whether they were set or not. -/

theorem triple_copyRow {M : Multiset Nat} {fields : Fields} :
    Triple (Heap.Owns · M) (copyRow e fields) fun r h =>
      h.Owns (blocks r.2 + M) ∧ r.2.length ≤ fields.length := by
  induction fields generalizing M with
  | nil => exact triple_pure fun h hh => ⟨by rwa [blocks_nil, zero_add], Nat.le_refl _⟩
  | cons field fields ih =>
    obtain ⟨src, allowEmpty⟩ := field
    refine triple_bind triple_copyHidlStringToRil fun r => ?_
    obtain ⟨success, p⟩ := r
    cases success with
    | true =>
      have hrow : Triple (Heap.Owns · (block p + M)) (copyRow e fields) _ := ih
      refine triple_bind (triple_pre hrow fun h hh => hh.1) fun r => ?_
      refine triple_pure fun h hh => ⟨?_, Nat.succ_le_succ hh.2⟩
      rw [blocks_cons, add_assoc, add_left_comm]
      exact hh.1
    | false =>
      refine triple_pure fun h hh => ⟨?_, Nat.succ_le_succ (Nat.zero_le _)⟩
      rw [blocks_cons, blocks_nil, add_zero]
      exact hh.1

theorem triple_copyRows {M : Multiset Nat} {numfields : Nat} {profiles : List (Fields × Bool)}
    (hfields : ∀ x ∈ profiles, x.1.length ≤ numfields) :
    Triple (Heap.Owns · M) (copyRows e profiles) fun r h =>
      h.Owns (blocks r.2.flatten + M) ∧ r.2.length ≤ profiles.length ∧
        ∀ row ∈ r.2, row.length ≤ numfields := by
  induction profiles generalizing M with
  | nil =>
    refine triple_pure fun h hh => ⟨by rwa [List.flatten_nil, blocks_nil, zero_add], ?_⟩
    exact ⟨Nat.le_refl _, fun row hrow => absurd hrow List.not_mem_nil⟩
  | cons profile profiles ih =>
    obtain ⟨fields, known⟩ := profile
    have hrest := fun M => @ih M fun x hx => hfields x (List.mem_cons_of_mem _ hx)
    have hfirst := hfields (fields, known) List.mem_cons_self
    refine triple_bind triple_copyRow fun r => ?_
    obtain ⟨success, row⟩ := r
    by_cases hgo : success = true ∧ known = true
    · simp only [if_pos hgo]
      refine triple_given fun hrow => triple_bind (hrest (blocks row + M)) fun r => ?_
      refine triple_pure fun h hh => ⟨?_, Nat.succ_le_succ hh.2.1, ?_⟩
      · rw [List.flatten_cons, blocks_append, add_assoc, add_left_comm]
        exact hh.1
      · intro row' hrow'
        rcases List.mem_cons.mp hrow' with rfl | hrow'
        · exact Nat.le_trans hrow hfirst
        · exact hh.2.2 row' hrow'
    · simp only [if_neg hgo]
      refine triple_pure fun h hh => ⟨?_, Nat.succ_le_succ (Nat.zero_le _), ?_⟩
      · rw [List.flatten_cons, List.flatten_nil, List.append_nil]
        exact hh.1
      · intro row' hrow'
        rw [List.mem_singleton.mp hrow']
        exact Nat.le_trans hh.2 hfirst

theorem blocks_row {row : List Ptr} {numfields : Nat} (hrow : row.length ≤ numfields) :
    ((List.range numfields).map fun i => block ((row[i]?).getD none)).sum = blocks row := by
  induction row generalizing numfields with
  | nil =>
    apply List.sum_eq_zero
    intro M hM
    obtain ⟨i, -, rfl⟩ := List.mem_map.mp hM
    rfl
  | cons p row ih =>
    cases numfields with
    | zero => exact absurd hrow (Nat.not_succ_le_zero _)
    | succ numfields =>
      rw [List.range_succ_eq_map, List.map_cons, List.sum_cons, List.map_map, blocks_cons,
        ← ih (Nat.le_of_succ_le_succ hrow)]
      rfl

/-- Freed field by field, the rows are freed as a whole. -/
theorem blocks_pointers {rows : List (List Ptr)} {num numfields : Nat}
    (hnum : rows.length ≤ num) (hrows : ∀ row ∈ rows, row.length ≤ numfields) :
    blocks ((List.range numfields).flatMap fun i =>
      (List.range num).map fun j => pointer rows i j) = blocks rows.flatten := by
  rw [blocks_flatMap]
  induction rows generalizing num with
  | nil =>
    apply List.sum_eq_zero
    intro M hM
    obtain ⟨i, -, rfl⟩ := List.mem_map.mp hM
    apply List.sum_eq_zero
    intro M hM
    obtain ⟨p, hp, rfl⟩ := List.mem_map.mp hM
    obtain ⟨j, -, rfl⟩ := List.mem_map.mp hp
    rfl
  | cons row rows ih =>
    cases num with
    | zero => exact absurd hnum (Nat.not_succ_le_zero _)
    | succ num =>
      have hsplit : ∀ i, blocks ((List.range (num + 1)).map fun j => pointer (row :: rows) i j) =
          block ((row[i]?).getD none) +
            blocks ((List.range num).map fun j => pointer rows i j) := by
        intro i
        rw [List.range_succ_eq_map, List.map_cons, List.map_map, blocks_cons]
        rfl
      simp only [hsplit]
      rw [List.sum_map_add, blocks_row (hrows row List.mem_cons_self), List.flatten_cons,
        blocks_append,
        ih (Nat.le_of_succ_le_succ hnum) fun row' h => hrows row' (List.mem_cons_of_mem _ h)]

theorem triple_freeSetDataProfileData {M : Multiset Nat} {num numfields : Nat}
    {dataProfiles dataProfilePtrs : Ptr} {rows : List (List Ptr)} (hnum : rows.length ≤ num)
    (hrows : ∀ row ∈ rows, row.length ≤ numfields) :
    Triple (Heap.Owns · (blocks rows.flatten + (block dataProfiles + (block dataProfilePtrs + M))))
      (freeSetDataProfileData num numfields dataProfiles dataProfilePtrs rows)
      fun _ h => h.Owns M := by
  rw [← blocks_pointers hnum hrows]
  refine triple_bind (triple_freeAll _) fun _ => ?_
  refine triple_bind (triple_free dataProfiles) fun _ => ?_
  exact triple_free dataProfilePtrs

theorem returns_setDataProfile {version : Int} {profiles : List DataProfileInfo}
    {isRoaming : Bool} : Returns C [] (setDataProfile e version profiles isRoaming) := by
  refine returns_allocate returns_pure_refused fun dataProfiles =>
    returns_allocate (returns_refused rfl) fun dataProfilePtrs => ?_
  intro M
  have hfields : ∀ x ∈ profiles.map fun info =>
      if version ≤ 14 then (fields isRoaming info, true)
      else (fields_v15 info, (Dispatch.convertMvnoTypeToString info.mvnoType).isSome),
      x.1.length ≤ if version ≤ 14 then 4 else 6 := by
    intro x hx
    obtain ⟨info, -, rfl⟩ := List.mem_map.mp hx
    split <;> exact Nat.le_refl _
  have hblocks : ∀ rows : List Ptr,
      blocks rows + (blocks ([] ++ [some dataProfiles] ++ [some dataProfilePtrs]) + M) =
        blocks rows + (block (some dataProfiles) + (block (some dataProfilePtrs) + M)) := by
    intro rows
    simp only [List.nil_append, List.cons_append, blocks_cons, blocks_nil, add_zero, add_assoc]
  refine triple_bind (triple_copyRows hfields) fun r => ?_
  obtain ⟨success, rows⟩ := r
  simp only [List.length_map, hblocks]
  refine triple_given fun hrows => ?_
  have hfree : Triple _ (freeSetDataProfileData profiles.length (if version ≤ 14 then 4 else 6)
      (some dataProfiles) (some dataProfilePtrs) rows) fun _ h => h.Owns M :=
    triple_freeSetDataProfileData hrows.1 hrows.2
  cases success with
  | true =>
    have huse : Triple (Heap.Owns · (blocks rows.flatten +
          (block (some dataProfiles) + (block (some dataProfilePtrs) + M))))
        (use (some dataProfilePtrs :: some dataProfiles :: rows.flatten)) fun _ h =>
          h.Owns (blocks rows.flatten +
            (block (some dataProfiles) + (block (some dataProfilePtrs) + M))) := by
      have hall : Triple
          (Heap.Owns · (blocks (rows.flatten ++ [some dataProfiles, some dataProfilePtrs]) + M))
          (use (some dataProfilePtrs :: some dataProfiles :: rows.flatten)) fun _ h =>
            h.Owns (blocks (rows.flatten ++ [some dataProfiles, some dataProfilePtrs]) + M) := by
        refine triple_use fun a ha => ?_
        simp only [List.mem_append, List.mem_cons] at ha ⊢
        tauto
      rw [blocks_append, blocks_cons, blocks_cons, blocks_nil, add_zero, add_assoc,
        add_assoc] at hall
      exact hall
    refine triple_bind huse fun _ => triple_bind hfree fun _ => ?_
    exact triple_pure fun h hh => ⟨0, by rwa [zero_add], rfl, fun hr => by cases hr⟩
  | false =>
    refine triple_bind hfree fun _ => ?_
    exact triple_pure fun h hh => ⟨0, by rwa [zero_add], rfl, fun hr => by cases hr⟩

theorem returns_setAllowedCarriers : Returns C [] (setAllowedCarriers e) :=
  returns_allocate returns_pure_refused fun _ => returns_allocate (returns_refused rfl) fun _ =>
    returns_callOnRequest (fun _ ha => ha) rfl

/-! All request methods that allocate. -/

/-- A call of a method, with the strings and lengths that its memory depends on. -/
inductive Request where
  | dispatched (d : Dispatched)
  | nvWriteItem (value : HidlString)
  | writeSmsToSim (pdu smsc : HidlString)
  | requestIccSimAuthentication (authData aid : HidlString)
  | dial (address : HidlString) (uusData : Option HidlString)
  | iccIOForApp (path data pin2 aid : HidlString)
  | setAllowedCarriers
  | setCarrierInfoForImsiEncryption (mnc mcc keyIdentifier : HidlString)

/-- The data are on the stack. -/
def startNetworkScan (request : NetworkScanRequest) : Code Outcome :=
  if request.specifiers.length ≤ MAX_RADIO_ACCESS_NETWORKS ∧
      ∀ ras ∈ request.specifiers,
        (ras.geranBands.length ≤ MAX_BANDS ∧ ras.utranBands.length ≤ MAX_BANDS ∧
          ras.eutranBands.length ≤ MAX_BANDS ∧ ras.channels.length ≤ MAX_CHANNELS) ∧
        (Dispatch.RadioAccessSpecifier.bands ras).isSome then callOnRequest [] []
  else pure .refused

def startKeepalive (keepalive : KeepaliveRequest) : Code Outcome :=
  if Dispatch.addressSize keepalive.type = some keepalive.sourceAddress.length ∧
      Dispatch.addressSize keepalive.type = some keepalive.destinationAddress.length then
    callOnRequest [] []
  else pure .refused

def dispatched (e : Nat → Bool) (version : Int) : Dispatched → Code Outcome
  | .string _ str => dispatchString e str
  | .strings _ allowEmpty strs => dispatchStrings e allowEmpty strs
  | .stringVec _ data => dispatchStringVec e false data
  | .ints _ _ => dispatchInts e
  | .callForwardStatus _ callInfo => dispatchCallForwardStatus e callInfo
  | .iccApdu _ message => dispatchIccApdu e message
  | .refused _ _ => pure .refused
  | .networkScan request => startNetworkScan request
  | .initialAttachApn info _ isRoaming => setInitialAttachApn e version info isRoaming
  | .imsSms message => sendImsSms e message
  | .openLogicalChannel aid _ => iccOpenLogicalChannel e aid
  | .dataProfile profiles isRoaming => setDataProfile e version profiles isRoaming
  | .keepalive request => startKeepalive request

def Request.run (e : Nat → Bool) (version : Int) : Request → Code Outcome
  | .dispatched d => RequestHeap.dispatched e version d
  | .nvWriteItem value => RequestHeap.nvWriteItem e value
  | .writeSmsToSim pdu smsc => RequestHeap.writeSmsToSim e pdu smsc
  | .requestIccSimAuthentication authData aid =>
    RequestHeap.requestIccSimAuthentication e authData aid
  | .dial address uusData => RequestHeap.dial e address uusData
  | .iccIOForApp path data pin2 aid => RequestHeap.iccIOForApp e path data pin2 aid
  | .setAllowedCarriers => RequestHeap.setAllowedCarriers e
  | .setCarrierInfoForImsiEncryption mnc mcc keyIdentifier =>
    RequestHeap.setCarrierInfoForImsiEncryption e mnc mcc keyIdentifier

def DataProfileInfo.strings (info : DataProfileInfo) : List HidlString :=
  [info.apn, info.protocol, info.roamingProtocol, info.user, info.password, info.mvnoMatchData]

/-- The strings that may be cut off; a string made of a `const char *` is none of them. -/
def Request.strings : Request → List HidlString
  | .dispatched (.stringVec _ data) => data
  | .dispatched (.callForwardStatus _ callInfo) => [callInfo.number]
  | .dispatched (.iccApdu _ message) => [message.data]
  | .dispatched (.initialAttachApn info _ _) => DataProfileInfo.strings info
  | .dispatched (.imsSms message) => message.gsmMessage.flatMap fun gsm => [gsm.smscPdu, gsm.pdu]
  | .dispatched (.openLogicalChannel aid _) => [aid]
  | .dispatched _ => []
  | .nvWriteItem value => [value]
  | .writeSmsToSim pdu smsc => [pdu, smsc]
  | .requestIccSimAuthentication authData aid => [authData, aid]
  | .dial address uusData => address :: uusData.toList
  | .iccIOForApp path data pin2 aid => [path, data, pin2, aid]
  | .setAllowedCarriers => []
  | .setCarrierInfoForImsiEncryption mnc mcc keyIdentifier => [mnc, mcc, keyIdentifier]

/-- The blocks that nobody frees. -/
def Request.leaks : Request → Outcome → Nat
  | .setCarrierInfoForImsiEncryption mnc mcc keyIdentifier, .called =>
    ([mnc, mcc, keyIdentifier].filter fun str => str.size ≠ 0).length
  | _, r => r.leaks

theorem returns_dispatched {version : Int} {d : Dispatched}
    (hC : ∀ str ∈ (Request.dispatched d).strings, Overlong str → C) :
    Returns C [] (dispatched e version d) := by
  cases d with
  | string request str =>
    exact returns_copied (fun hlong => absurd hlong not_overlong_ofCStr) rfl fun p =>
      returns_callOnRequest (fun a ha => ha) rfl
  | strings request allowEmpty strs => exact returns_dispatchStrings strs
  | stringVec request data => exact returns_dispatchStringVec hC
  | ints request values =>
    exact returns_allocate returns_pure_refused fun p =>
      returns_callOnRequest (fun a ha => ha) rfl
  | callForwardStatus request callInfo =>
    exact returns_copied (hC _ (List.mem_singleton_self _)) rfl fun p =>
      returns_callOnRequest (fun a ha => ha) rfl
  | iccApdu request message =>
    exact returns_copied (hC _ (List.mem_singleton_self _)) rfl fun p =>
      returns_callOnRequest (fun a ha => ha) rfl
  | refused request err => exact returns_pure_refused
  | networkScan request =>
    simp only [dispatched, startNetworkScan]
    split
    · exact returns_callOnRequest (fun a ha => ha) rfl
    · exact returns_pure_refused
  | initialAttachApn info modemCognitive isRoaming => exact returns_setInitialAttachApn hC
  | imsSms message =>
    apply returns_sendImsSms
    intro gsm hgsm str hstr
    exact hC str (List.mem_flatMap.mpr ⟨gsm, hgsm, hstr⟩)
  | openLogicalChannel aid p2 =>
    exact returns_copied (hC _ (List.mem_singleton_self _)) rfl fun p =>
      returns_callOnRequest (fun a ha => ha) rfl
  | dataProfile profiles isRoaming => exact returns_setDataProfile
  | keepalive request =>
    simp only [dispatched, startKeepalive]
    split
    · exact returns_callOnRequest (fun a ha => ha) rfl
    · exact returns_pure_refused

/-- The three strings that are handed over are lost with every call of the vendor. -/
theorem leaves_setCarrierInfoForImsiEncryption {mnc mcc keyIdentifier : HidlString}
    (hC : ∀ str ∈ [mnc, mcc, keyIdentifier], Overlong str → C) :
    Leaves C (Request.setCarrierInfoForImsiEncryption mnc mcc keyIdentifier).leaks []
      (setCarrierInfoForImsiEncryption e mnc mcc keyIdentifier) := by
  refine leaves_copied ⟨rfl, rfl⟩ (hC mnc (by simp)) rfl fun p₁ h₁ =>
    leaves_copied ⟨rfl, rfl⟩ (hC mcc (by simp)) rfl fun p₂ h₂ =>
    leaves_copied ⟨rfl, rfl⟩ (hC keyIdentifier (by simp)) rfl fun p₃ h₃ => ?_
  intro M
  refine triple_bind (triple_allocate _) fun carrierKey => ?_
  have huse : Triple (Heap.Owns · (blocks [carrierKey, p₁, p₂, p₃] + M))
      (use [p₁, p₂, p₃, carrierKey]) fun _ h => h.Owns (blocks [carrierKey, p₁, p₂, p₃] + M) := by
    refine triple_use fun a ha => ?_
    simp only [List.mem_cons] at ha ⊢
    tauto
  have hfree : Triple (Heap.Owns · (blocks [carrierKey] + (blocks [p₁, p₂, p₃] + M)))
      (freeAll [carrierKey]) fun _ h => h.Owns (blocks [p₁, p₂, p₃] + M) := triple_freeAll _
  have hsplit : blocks [carrierKey, p₁, p₂, p₃] + M =
      blocks [carrierKey] + (blocks [p₁, p₂, p₃] + M) := by
    simp only [blocks_cons, blocks_nil, add_zero, add_assoc]
  have hcard : ∀ (p : Ptr) (str : HidlString), (false = false → (p.isSome ↔ str.size ≠ 0)) →
      (block p).card = ([str].filter fun str => str.size ≠ 0).length := by
    intro p str hp
    have hp := hp rfl
    cases p with
    | none => simp_all [block]
    | some a => simp_all [block]
  rw [hsplit] at huse
  refine triple_bind (triple_pre huse fun h hh => ?_) fun _ => triple_bind hfree fun _ => ?_
  · simp only [List.nil_append, List.cons_append, blocks_cons, blocks_nil, add_zero] at hh ⊢
    exact hh
  · refine triple_pure fun h hh => ⟨blocks [p₁, p₂, p₃], hh, ?_, fun hr => by cases hr⟩
    rw [blocks_cons, blocks_cons, blocks_cons, blocks_nil, add_zero, Multiset.card_add,
      Multiset.card_add, hcard p₁ mnc h₁, hcard p₂ mcc h₂, hcard p₃ keyIdentifier h₃]
    have hfilter : [mnc, mcc, keyIdentifier].filter (fun str => str.size ≠ 0) =
        [mnc].filter (fun str => str.size ≠ 0) ++ ([mcc].filter (fun str => str.size ≠ 0) ++
          [keyIdentifier].filter fun str => str.size ≠ 0) := by
      rw [← List.filter_append, ← List.filter_append]
      rfl
    show _ = ([mnc, mcc, keyIdentifier].filter fun str => str.size ≠ 0).length
    rw [hfilter, List.length_append, List.length_append]

theorem leaves_run {version : Int} (r : Request)
    (hC : ∀ str ∈ r.strings, Overlong str → C) : Leaves C r.leaks [] (r.run e version) := by
  cases r with
  | dispatched d =>
    have hd : Returns C [] (dispatched e version d) := returns_dispatched hC
    exact hd
  | nvWriteItem value =>
    exact returns_copied (hC _ (by simp [Request.strings])) rfl fun p =>
      returns_callOnRequest (fun a ha => ha) rfl
  | writeSmsToSim pdu smsc =>
    refine returns_copied (hC pdu (by simp [Request.strings])) rfl fun pdu =>
      returns_copied (hC smsc (by simp [Request.strings])) rfl fun smsc =>
      returns_callOnRequest (fun a ha => ha) ?_
    simp [add_comm]
  | requestIccSimAuthentication authData aid =>
    exact returns_copied (hC authData (by simp [Request.strings])) rfl fun authData =>
      returns_copied (hC aid (by simp [Request.strings])) rfl fun aid =>
      returns_callOnRequest (fun a ha => ha) rfl
  | dial address uusData => exact returns_dial hC
  | iccIOForApp path data pin2 aid =>
    exact returns_copied (hC path (by simp [Request.strings])) rfl fun path =>
      returns_copied (hC data (by simp [Request.strings])) rfl fun data =>
      returns_copied (hC pin2 (by simp [Request.strings])) rfl fun pin2 =>
      returns_copied (hC aid (by simp [Request.strings])) rfl fun aid =>
      returns_callOnRequest (fun a ha => ha) rfl
  | setAllowedCarriers => exact returns_setAllowedCarriers
  | setCarrierInfoForImsiEncryption mnc mcc keyIdentifier =>
    exact leaves_setCarrierInfoForImsiEncryption hC

/-- Whatever allocations fail, no request method frees a block twice or passes the vendor one that
was freed. It leaves no block behind but a copy that was cut off, which takes a string longer than
its size, and what `setCarrierInfoForImsiEncryption` leaves behind with every call of the vendor:
its strings. -/
theorem requests_memory_safe (e : Nat → Bool) (version : Int) (r : Request) (h : Heap)
    (hfault : h.fault = false) :
    (r.run e version h).2.fault = false ∧
    (∃ L : Multiset Nat, (r.run e version h).2.live = L + h.live ∧
      L.card = r.leaks (r.run e version h).1) ∧
    ((r.run e version h).1 = .truncated → ∃ str ∈ r.strings, Overlong str) := by
  have hleaves : Leaves (∃ str ∈ r.strings, Overlong str) r.leaks [] (r.run e version) :=
    leaves_run r fun str hstr hlong => ⟨str, hstr, hlong⟩
  have hrun := hleaves h.live h ⟨hfault, (zero_add _).symm⟩
  obtain ⟨L, ⟨hfault', hlive⟩, hcard, htruncated⟩ := hrun
  exact ⟨hfault', ⟨L, hlive, hcard⟩, htruncated⟩

/-- Three short strings, and no allocation fails. -/
theorem requests_memory_safe_carrier_info :
    ∃ L : Multiset Nat, ((Request.setCarrierInfoForImsiEncryption ⟨1, [48]⟩ ⟨1, [49]⟩ ⟨1, [50]⟩).run
      (fun _ => true) 15 emptyHeap).2.live = L + 0 ∧ L.card = 3 :=
  (requests_memory_safe (fun _ => true) 15
    (.setCarrierInfoForImsiEncryption ⟨1, [48]⟩ ⟨1, [49]⟩ ⟨1, [50]⟩) emptyHeap rfl).2.1

end Apq8084.Ril.RequestHeap
