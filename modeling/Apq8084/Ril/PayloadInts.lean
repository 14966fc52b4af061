import Apq8084.Ril.Decoders

/-! What is asked of a function that decodes a payload, and where those that expect integers meet
it. -/
namespace Apq8084.Ril.Payloads

open WordBlock WordBlock.Layout

/-! ### What is asked of a decoder -/

section

variable {α : Type} {info : RadioResponseInfo} {holds : α → Prop} {out : Except Fault (Answer α)}
  {v : α}

/-- The payload is read within its bounds, the value that it holds is passed on with the error of
the response, and a payload that holds none is reported if the vendor reported a success. -/
def Answers (info : RadioResponseInfo) (holds : α → Prop) (out : Except Fault (Answer α)) : Prop :=
  (∃ a, out = .ok a) ∧
  (∀ v, holds v → out = .ok (info, v)) ∧
  (info.error = RIL_E_SUCCESS → (∀ v, ¬ holds v) →
    ∀ a, out = .ok a → a.1.error = INVALID_RESPONSE)

theorem answers_held (hv : holds v) (hout : ∀ v, holds v → out = .ok (info, v)) :
    Answers info holds out :=
  ⟨⟨_, hout v hv⟩, hout, fun _ hnone => absurd hv (hnone v)⟩

theorem answers_invalid (hnone : ∀ v, ¬ holds v)
    (hout : out = .ok (info.invalid info.error, v)) : Answers info holds out := by
  refine ⟨⟨_, hout⟩, fun v hv => absurd hv (hnone v), ?_⟩
  intro herr _ a ha
  rw [hout] at ha
  cases ha
  simp only [RadioResponseInfo.invalid, if_pos herr]

theorem not_answers (hout : ∃ x, out = .error x) : ¬ Answers info holds out := by
  rintro ⟨⟨a, ha⟩, -⟩
  obtain ⟨x, hx⟩ := hout
  rw [hx] at ha
  cases ha

/-- A payload that holds nothing and is passed on as it is. -/
theorem answers_passed (hnone : ∀ v, ¬ holds v) (hout : out = .ok (info, v)) :
    Answers info holds out ↔ info.error ≠ RIL_E_SUCCESS := by
  constructor
  · rintro ⟨-, -, hreport⟩ herr
    have h := hreport herr hnone _ hout
    rw [herr] at h
    cases h
  · intro herr
    exact ⟨⟨_, hout⟩, fun v hv => absurd hv (hnone v), fun h => absurd h herr⟩

end

section

variable {type : RadioIndicationType} {holds : Indication → Prop} {out : Except Fault Notice}
  {v : Indication}

/-- The payload is read within its bounds, the value that it holds is passed on, and nothing is
passed on for a payload that holds none. -/
def Notifies (type : RadioIndicationType) (holds : Indication → Prop)
    (out : Except Fault Notice) : Prop :=
  (∃ a, out = .ok a) ∧
  (∀ v, holds v → out = .ok (some (type, v))) ∧
  ((∀ v, ¬ holds v) → ∀ a, out = .ok a → a = none)

theorem notifies_held (hv : holds v) (hout : ∀ v, holds v → out = .ok (some (type, v))) :
    Notifies type holds out :=
  ⟨⟨_, hout v hv⟩, hout, fun hnone => absurd hv (hnone v)⟩

theorem notifies_none (hnone : ∀ v, ¬ holds v) (hout : out = .ok none) :
    Notifies type holds out := by
  refine ⟨⟨_, hout⟩, fun v hv => absurd hv (hnone v), ?_⟩
  intro _ a ha
  rw [hout] at ha
  cases ha
  rfl

theorem not_notifies (hout : ∃ x, out = .error x) : ¬ Notifies type holds out := by
  rintro ⟨⟨a, ha⟩, -⟩
  obtain ⟨x, hx⟩ := hout
  rw [hx] at ha
  cases ha

end

/-! ### What a payload holds -/

variable {mem : Memory} {serial : Int} {responseType : Nat} {e : Int} {response : Payload}

/-- The payload is a block of integers, with `w` the first of them. -/
def HoldsInts (response : Payload) (w : Word) (ws : List Word) : Prop :=
  response = .block (bytesOf (w :: ws))

def HoldsInt (response : Payload) (v : Int) : Prop :=
  ∃ w ws, HoldsInts response w ws ∧ v = w.toInt

/-- Earlier versions of the vendor's code send nothing in place of an integer. -/
def HoldsIntOrEmpty (response : Payload) (v : Int) : Prop :=
  HoldsInt response v ∨ response = .null 0 ∧ v = -1

section

variable {w : Word} {ws : List Word} {b : Block}

theorem payload_cases (response : Payload) :
    (∃ n, response = .null n) ∨ (∃ b, b.length % 4 ≠ 0 ∧ response = .block b) ∨
      response = .block [] ∨ ∃ w ws, HoldsInts response w ws := by
  rcases response with n | b
  · exact .inl ⟨n, rfl⟩
  · by_cases hlen : b.length % 4 = 0
    · obtain ⟨ws, -, rfl⟩ := @exists_bytesOf b (b.length / 4) (by omega)
      rcases ws with _ | ⟨w, ws⟩
      · exact .inr (.inr (.inl rfl))
      · exact .inr (.inr (.inr ⟨w, ws, rfl⟩))
    · exact .inr (.inl ⟨b, hlen, rfl⟩)

theorem length_ints : (bytesOf ws).length % 4 = 0 := by
  rw [length_bytesOf, Nat.mul_mod_right]

theorem int_ints : (Payload.block (bytesOf (w :: ws))).int 0 = .ok w.toInt :=
  Payload.int_ok (Payload.word_ok rfl)

theorem not_holdsInts_null {n : Nat} : ¬ HoldsInts (.null n) w ws := by
  intro h
  cases h

theorem not_holdsInts_ragged (hlen : b.length % 4 ≠ 0) : ¬ HoldsInts (.block b) w ws := by
  intro h
  cases h
  exact hlen length_ints

theorem not_holdsInts_empty : ¬ HoldsInts (.block []) w ws := by
  intro h
  cases h

end

/-! ### Responses with one integer -/

section

variable {responseInfo : RadioResponseInfo} {v : Int} {b : Block}

theorem responseInt_held (hv : HoldsInt response v) :
    responseInt responseInfo serial responseType e response =
      .ok (populateResponseInfo responseInfo serial responseType e, v) := by
  obtain ⟨w, ws, rfl, rfl⟩ := hv
  simp only [responseInt, Payload.isNull, Payload.responseLen, length_ints, int_ints]
  rfl

theorem responseInt_null {n : Nat} :
    responseInt responseInfo serial responseType e (.null n) =
      .ok ((populateResponseInfo responseInfo serial responseType e).invalid e, -1) := by
  simp [responseInt, Payload.isNull]

theorem responseInt_ragged (hlen : b.length % 4 ≠ 0) :
    responseInt responseInfo serial responseType e (.block b) =
      .ok ((populateResponseInfo responseInfo serial responseType e).invalid e, -1) := by
  simp [responseInt, Payload.responseLen, hlen]

theorem responseInt_empty :
    responseInt responseInfo serial responseType e (.block []) = .error .outOfBounds := rfl

/-- An integer is answered as it should be unless the block is empty. -/
theorem responseInt_iff :
    Answers (populateResponseInfo responseInfo serial responseType e) (HoldsInt response)
      (responseInt responseInfo serial responseType e response) ↔ response ≠ .block [] := by
  rcases payload_cases response with ⟨n, rfl⟩ | ⟨b, hlen, rfl⟩ | rfl | ⟨w, ws, hw⟩
  · refine iff_of_true (answers_invalid ?_ responseInt_null) (by simp)
    rintro v ⟨w, ws, hw, -⟩
    exact not_holdsInts_null hw
  · refine iff_of_true (answers_invalid ?_ (responseInt_ragged hlen)) ?_
    · rintro v ⟨w, ws, hw, -⟩
      exact not_holdsInts_ragged hlen hw
    · rintro ⟨⟩
      exact hlen rfl
  · exact iff_of_false (not_answers ⟨_, responseInt_empty⟩) fun h => h rfl
  · refine iff_of_true (answers_held ⟨w, ws, hw, rfl⟩ fun v hv => responseInt_held hv) ?_
    rintro rfl
    exact not_holdsInts_empty hw

theorem responseIntOrEmpty_nothing :
    responseIntOrEmpty responseInfo serial responseType e (.null 0) =
      .ok (populateResponseInfo responseInfo serial responseType e, -1) := rfl

/-- The two differ on nothing but an absent payload of no length. -/
theorem responseIntOrEmpty_eq (h : response ≠ .null 0) :
    responseIntOrEmpty responseInfo serial responseType e response =
      responseInt responseInfo serial responseType e response := by
  have hsome : ¬ (response.isNull = true ∧ response.responseLen = 0) := by
    rintro ⟨hnull, hlen⟩
    cases response with
    | null n =>
      cases hlen
      exact h rfl
    | block b => cases hnull
  simp only [responseIntOrEmpty, if_neg hsome]
  rfl

theorem responseIntOrEmpty_iff :
    Answers (populateResponseInfo responseInfo serial responseType e) (HoldsIntOrEmpty response)
      (responseIntOrEmpty responseInfo serial responseType e response) ↔
      response ≠ .block [] := by
  by_cases hnothing : response = .null 0
  · subst hnothing
    refine iff_of_true (answers_held (.inr ⟨rfl, rfl⟩) ?_) (by simp)
    rintro v (⟨w, ws, hw, -⟩ | ⟨-, rfl⟩)
    · exact absurd hw not_holdsInts_null
    · exact responseIntOrEmpty_nothing
  · have hholds : HoldsIntOrEmpty response = HoldsInt response := by
      funext v
      simp [HoldsIntOrEmpty, hnothing]
    rw [responseIntOrEmpty_eq hnothing, hholds]
    exact responseInt_iff

end

/-! ### Indications with one integer -/

section

variable {indicationType : Nat} {call : Int → Indication} {b : Block}

/-- The payload holds the integer that `call` is made with. -/
def HoldsCall (call : Int → Indication) (response : Payload) (v : Indication) : Prop :=
  ∃ value, HoldsInt response value ∧ v = call value

theorem intInd_held {v : Indication} (hv : HoldsCall call response v) :
    intInd call indicationType response =
      .ok (some (convertIntToRadioIndicationType indicationType, v)) := by
  obtain ⟨-, ⟨w, ws, rfl, rfl⟩, rfl⟩ := hv
  simp only [intInd, Payload.isNull, Payload.responseLen, length_ints, int_ints]
  rfl

theorem intInd_iff :
    Notifies (convertIntToRadioIndicationType indicationType) (HoldsCall call response)
      (intInd call indicationType response) ↔ response ≠ .block [] := by
  rcases payload_cases response with ⟨n, rfl⟩ | ⟨b, hlen, rfl⟩ | rfl | ⟨w, ws, hw⟩
  · refine iff_of_true (notifies_none ?_ (by simp [intInd, Payload.isNull])) (by simp)
    rintro v ⟨-, ⟨w, ws, hw, -⟩, -⟩
    exact not_holdsInts_null hw
  · refine iff_of_true (notifies_none ?_ (by simp [intInd, Payload.responseLen, hlen])) ?_
    · rintro v ⟨-, ⟨w, ws, hw, -⟩, -⟩
      exact not_holdsInts_ragged hlen hw
    · rintro ⟨⟩
      exact hlen rfl
  · exact iff_of_false (not_notifies ⟨.outOfBounds, rfl⟩) fun h => h rfl
  · refine iff_of_true (notifies_held ⟨_, ⟨w, ws, hw, rfl⟩, rfl⟩ fun v hv => intInd_held hv) ?_
    rintro rfl
    exact not_holdsInts_empty hw

theorem intInd_of_mem {d : (Int → Indication) × (Nat → Payload → Except Fault Notice)}
    (hd : d ∈ intIndications) : d.2 = intInd d.1 := by
  simp only [intIndications, List.mem_cons, List.not_mem_nil, or_false] at hd
  rcases hd with rfl | rfl | rfl | rfl | rfl | rfl | rfl | rfl | rfl | rfl <;> rfl

end

/-! ### The logical channel -/

/-- The payload is the channel's number, with a byte of the select response in each further
integer. -/
def HoldsChannel (response : Payload) (v : Int × List Int) : Prop :=
  ∃ w ws, HoldsInts response w ws ∧ v = (w.toInt, ws.map int8)

theorem selectResponse_ok {w : Word} {ws : List Word} :
    fill ws.length (fun i => do
      let pInt ← Payload.word (i + 1) (.block (bytesOf (w :: ws)))
      return int8 pInt) = .ok (ws.map int8) := by
  rw [fill_ok (g := int8) (l := ws) _ (Int.natCast_nonneg _) (Int.le_refl _), Int.toNat_natCast,
    List.take_length]
  intro i a ha
  have hword : Payload.word (i + 1) (.block (bytesOf (w :: ws))) = .ok a := Payload.word_ok ha
  simp only [hword]
  rfl

theorem iccOpenLogicalChannelResponse_held {v : Int × List Int} (hv : HoldsChannel response v) :
    iccOpenLogicalChannelResponse serial responseType e response =
      .ok (populateResponseInfo {} serial responseType e, v) := by
  obtain ⟨w, ws, rfl, rfl⟩ := hv
  have hnum : (((bytesOf (w :: ws)).length / 4 : Nat) : Int) - 1 = ws.length := by
    rw [length_bytesOf, List.length_cons]
    omega
  simp only [iccOpenLogicalChannelResponse, Payload.isNull, Payload.responseLen, length_ints,
    int_ints, hnum, selectResponse_ok]
  rfl

/-- An absent payload goes unreported, and an empty block is read past its end. -/
theorem iccOpenLogicalChannelResponse_iff :
    Answers (populateResponseInfo {} serial responseType e) (HoldsChannel response)
      (iccOpenLogicalChannelResponse serial responseType e response) ↔
      response ≠ .block [] ∧ (response.isNull → e ≠ RIL_E_SUCCESS) := by
  rcases payload_cases response with ⟨n, rfl⟩ | ⟨b, hlen, rfl⟩ | rfl | ⟨w, ws, hw⟩
  · rw [answers_passed (v := (-1, [])) ?_ (by simp [iccOpenLogicalChannelResponse, Payload.isNull])]
    · simp [populateResponseInfo, Payload.isNull]
    · rintro v ⟨w, ws, hw, -⟩
      exact not_holdsInts_null hw
  · refine iff_of_true (answers_invalid (v := (-1, [])) ?_ ?_) ⟨?_, fun h => nomatch h⟩
    · rintro v ⟨w, ws, hw, -⟩
      exact not_holdsInts_ragged hlen hw
    · simp [iccOpenLogicalChannelResponse, Payload.isNull, Payload.responseLen, hlen,
        populateResponseInfo]
    · rintro ⟨⟩
      exact hlen rfl
  · exact iff_of_false (not_answers ⟨.outOfBounds, rfl⟩) fun h => h.1 rfl
  · obtain rfl := hw
    refine iff_of_true
      (answers_held ⟨w, ws, rfl, rfl⟩ fun v hv => iccOpenLogicalChannelResponse_held hv)
      ⟨fun h => not_holdsInts_empty h.symm, fun h => nomatch h⟩

/-! ### The cause of a failed call -/

section

variable {b : Block} {v : LastCallFailCauseInfo}

def RIL_LastCallFailCauseInfo.toInfo (mem : Memory) (s : RIL_LastCallFailCauseInfo) :
    LastCallFailCauseInfo where
  causeCode := s.cause_code.toInt
  vendorCause := convertCharPtrToHidlString mem s.vendor_cause

/-- The payload is the record that `ril.h` documents, or else starts with the cause alone. -/
def HoldsLastCallFailCause (mem : Memory) (response : Payload) (v : LastCallFailCauseInfo) : Prop :=
  (∃ s : RIL_LastCallFailCauseInfo, response = .block (bytes s) ∧ v = s.toInfo mem) ∨
  ∃ w ws, HoldsInts response w ws ∧ ws.length ≠ 1 ∧ v = { causeCode := w.toInt }

/-- Where the cause of a failed call is answered as it should be: without a payload, with the
documented record or nothing in it, and with an error of the vendor next to a payload that is long
enough, if that is no integer or a zero. -/
def LastCallFailCauseFits (e : Int) : Payload → Prop
  | .null _ => True
  | .block b => b.length = 0 ∨ b.length = sizeof RIL_LastCallFailCauseInfo ∨
      e ≠ RIL_E_SUCCESS ∧ 4 ≤ b.length ∧ (b.length % 4 = 0 → WordBlock.word b 0 = .ok 0)

theorem getLastCallFailCauseResponse_record (s : RIL_LastCallFailCauseInfo) :
    getLastCallFailCauseResponse mem serial responseType e (.block (bytes s)) =
      .ok (populateResponseInfo {} serial responseType e, s.toInfo mem) := by
  have hcause : (Payload.block (bytes s)).int 0 = .ok s.cause_code.toInt :=
    Payload.int_ok (Payload.word_ok rfl)
  have hvendor : Payload.word 1 (.block (bytes s)) = .ok s.vendor_cause := Payload.word_ok rfl
  simp only [getLastCallFailCauseResponse, Payload.isNull, Payload.responseLen, length_bytes,
    hcause, hvendor]
  rfl

theorem getLastCallFailCauseResponse_whole (hlen : b.length ≠ sizeof RIL_LastCallFailCauseInfo)
    (hint : b.length % 4 = 0) :
    getLastCallFailCauseResponse mem serial responseType e (.block b) =
      .ok ((populateResponseInfo {} serial responseType e).invalid e, {}) := by
  simp [getLastCallFailCauseResponse, Payload.isNull, Payload.responseLen, hlen, hint]

theorem getLastCallFailCauseResponse_ragged (hint : b.length % 4 ≠ 0) :
    getLastCallFailCauseResponse mem serial responseType e (.block b) = (do
      let pInt₀ ← (Payload.block b).int 0
      return (populateResponseInfo {} serial responseType e, { causeCode := pInt₀ })) := by
  have hlen : b.length ≠ sizeof RIL_LastCallFailCauseInfo := by
    intro h
    exact hint (h ▸ rfl)
  simp [getLastCallFailCauseResponse, Payload.isNull, Payload.responseLen, hlen, hint]

/-- A plain integer is not decoded: it is answered as it should be only where the answer to an
error happens to say the same. -/
theorem getLastCallFailCauseResponse_int {w : Word} {ws : List Word} (hws : ws.length ≠ 1) :
    Answers (populateResponseInfo {} serial responseType e)
      (HoldsLastCallFailCause mem (.block (bytesOf (w :: ws))))
      (getLastCallFailCauseResponse mem serial responseType e (.block (bytesOf (w :: ws)))) ↔
      e ≠ RIL_E_SUCCESS ∧ w = 0 := by
  have hlen : (bytesOf (w :: ws)).length ≠ sizeof RIL_LastCallFailCauseInfo := by
    rw [length_bytesOf, List.length_cons]
    exact fun h => hws (by have : sizeof RIL_LastCallFailCauseInfo = 8 := rfl; omega)
  have hout := @getLastCallFailCauseResponse_whole mem serial responseType e _ hlen length_ints
  have hheld : HoldsLastCallFailCause mem (.block (bytesOf (w :: ws)))
      { causeCode := w.toInt } := .inr ⟨w, ws, rfl, hws, rfl⟩
  constructor
  · rintro ⟨-, hdecodes, -⟩
    have h := hdecodes _ hheld
    rw [hout, Except.ok.injEq, Prod.mk.injEq] at h
    obtain ⟨hinfo, hcause⟩ := h
    constructor
    · rintro rfl
      have herr : INVALID_RESPONSE = RIL_E_SUCCESS := congrArg RadioResponseInfo.error hinfo
      cases herr
    · have hzero : (0 : Int) = w.toInt := congrArg LastCallFailCauseInfo.causeCode hcause
      exact BitVec.toInt_inj.mp hzero.symm
  · rintro ⟨he, rfl⟩
    apply answers_held hheld
    rintro v (⟨s, hs, -⟩ | ⟨w', ws', hw', -, rfl⟩)
    · exact absurd hs (Payload.not_record hlen s)
    · have hinj : (0 : Word) :: ws = w' :: ws' := bytesOf_injective (Payload.block.inj hw')
      obtain ⟨rfl, -⟩ := List.cons.inj hinj
      rw [hout, RadioResponseInfo.invalid, if_neg he]
      rfl

/-- A block that is no whole number of integers is taken for one, if it is long enough. -/
theorem getLastCallFailCauseResponse_ragged_iff (hlen : b.length % 4 ≠ 0) :
    Answers (populateResponseInfo {} serial responseType e)
      (HoldsLastCallFailCause mem (.block b))
      (getLastCallFailCauseResponse mem serial responseType e (.block b)) ↔
      LastCallFailCauseFits e (.block b) := by
  have hrecord : b.length ≠ sizeof RIL_LastCallFailCauseInfo := by
    intro h
    exact hlen (h ▸ rfl)
  have hnone : ∀ v, ¬ HoldsLastCallFailCause mem (.block b) v := by
    rintro v (⟨s, hs, -⟩ | ⟨w, ws, hw, -, -⟩)
    · exact Payload.not_record hrecord s hs
    · exact not_holdsInts_ragged hlen hw
  have hout := @getLastCallFailCauseResponse_ragged mem serial responseType e _ hlen
  by_cases hshort : b.length < 4
  · have hfault : ∃ x, (Payload.block b).int 0 = .error x := by
      cases hword : WordBlock.word b 0 with
      | error x => exact ⟨x, by simp only [Payload.int, Payload.word, hword]; rfl⟩
      | ok w =>
        have hlong := word_isOk.mp ⟨w, hword⟩
        omega
    obtain ⟨x, hx⟩ := hfault
    rw [hx] at hout
    refine iff_of_false (not_answers ⟨x, hout⟩) ?_
    rintro (hnil | hrec | ⟨-, hlong, -⟩)
    · omega
    · exact hrecord hrec
    · omega
  · obtain ⟨c, hc⟩ := (@word_isOk b 0).mpr (by omega)
    rw [Payload.int_ok (show Payload.word 0 (.block b) = .ok c from hc)] at hout
    rw [answers_passed hnone hout]
    constructor
    · exact fun he => .inr (.inr ⟨he, by omega, fun h => absurd h hlen⟩)
    · rintro (hnil | hrec | ⟨he, -, -⟩)
      · omega
      · exact absurd hrec hrecord
      · exact he

theorem getLastCallFailCauseResponse_iff :
    Answers (populateResponseInfo {} serial responseType e) (HoldsLastCallFailCause mem response)
      (getLastCallFailCauseResponse mem serial responseType e response) ↔
      LastCallFailCauseFits e response := by
  rcases payload_cases response with ⟨n, rfl⟩ | ⟨b, hlen, rfl⟩ | rfl | ⟨w, ws, hw⟩
  · refine iff_of_true (answers_invalid (v := {}) ?_ rfl) trivial
    rintro v (⟨s, hs, -⟩ | ⟨w, ws, hw, -, -⟩)
    · cases hs
    · exact not_holdsInts_null hw
  · exact getLastCallFailCauseResponse_ragged_iff hlen
  · refine iff_of_true (answers_invalid (v := {}) ?_ rfl) (.inl rfl)
    rintro v (⟨s, hs, -⟩ | ⟨w, ws, hw, -, -⟩)
    · exact Payload.not_record (by decide) s hs
    · exact not_holdsInts_empty hw
  · obtain rfl := hw
    by_cases hws : ws.length = 1
    · obtain ⟨w', rfl⟩ := List.length_eq_one_iff.mp hws
      have hrecord : bytesOf [w, w'] = bytes (⟨w, w'⟩ : RIL_LastCallFailCauseInfo) := rfl
      refine iff_of_true (answers_held (.inl ⟨⟨w, w'⟩, rfl, rfl⟩) ?_) (.inr (.inl ?_))
      · rintro v (⟨s, hs, rfl⟩ | ⟨u, us, hu, hne, -⟩)
        · rw [hs]
          exact getLastCallFailCauseResponse_record s
        · have hinj := List.cons.inj (bytesOf_injective (Payload.block.inj hu))
          exact absurd (hinj.2 ▸ rfl) hne
      · rw [hrecord, length_bytes]
    · rw [getLastCallFailCauseResponse_int hws]
      have hword : WordBlock.word (bytesOf (w :: ws)) 0 = .ok w := WordBlock.word_ok rfl
      have hlen : (bytesOf (w :: ws)).length = 4 * (ws.length + 1) := length_bytesOf
      have hsize : sizeof RIL_LastCallFailCauseInfo = 8 := rfl
      constructor
      · rintro ⟨he, rfl⟩
        exact .inr (.inr ⟨he, by omega, fun _ => hword⟩)
      · rintro (hnil | hrec | ⟨he, -, hzero⟩)
        · omega
        · omega
        · have h := hzero length_ints
          rw [hword] at h
          cases h
          exact ⟨he, rfl⟩

end

end Apq8084.Ril.Payloads
