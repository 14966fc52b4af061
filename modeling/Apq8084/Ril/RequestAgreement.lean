import Apq8084.Ril.RequestHeap

/-! The request methods with their pointers against those that carry the values: both try the same
allocations, and the one calls the vendor exactly when the other does. -/
namespace Apq8084.Ril.RequestHeap

open Alloc

variable {n : Nat} {ρ α β γ δ : Type} {c : Setting n} {pRI : Fin n} {h : Heap} {w : World n ρ}
  {src : HidlString} {allowEmpty : Bool} {fails data frees ps : List Ptr}

/-- Code with pointers whose result tells whether to go on, and code that stops early if not. -/
def Succeeds (ok : γ → Bool) (p : Code γ) (q : Dispatch n ρ α) : Prop :=
  ∀ h w, h.tried = w.tried → (p h).2.tried = (q w).2.tried ∧ ok (p h).1 = (q w).1.isSome ∧
    (q w).2.onRequests = w.onRequests

/-- Whole methods, from the same number of tried allocations on. -/
def Agrees (p : Code Outcome) (q : Dispatch n ρ Unit) : Prop :=
  ∀ h w, h.tried = w.tried → (p h).2.tried = (q w).2.tried ∧
    ((p h).1 = .called → ∃ x, (q w).2.onRequests = w.onRequests ++ [x]) ∧
    ((p h).1 ≠ .called → (q w).2.onRequests = w.onRequests)

/-- Code that cleans up without another allocation. -/
def Stops (ok : γ → Bool) (p : Code γ) : Prop :=
  ∀ h, ok (p h).1 = false ∧ (p h).2.tried = h.tried

def Outcome.isCalled : Outcome → Bool
  | .called => true
  | _ => false

theorem ne_called {r : Outcome} (hr : r.isCalled = false) : r ≠ .called := by
  rintro rfl
  cases hr

theorem free_tried (p : Ptr) : (free p h).2.tried = h.tried := by
  cases p with
  | none => rfl
  | some a =>
    simp only [free]
    split <;> rfl

theorem freeAll_tried : (freeAll ps h).2.tried = h.tried := by
  induction ps generalizing h with
  | nil => rfl
  | cons p ps ih => exact ih.trans (free_tried p)

theorem use_tried : (use ps h).2.tried = h.tried := by
  simp only [use]
  split <;> rfl

theorem bind_some {q : Dispatch n ρ α} {g : α → Dispatch n ρ β} {a : α}
    (hq : (q w).1 = some a) : (q >>= g) w = g a (q w).2 := by
  show Stopping.andThen q g w = _
  unfold Stopping.andThen
  cases hw : q w with
  | mk r w' =>
    rw [hw] at hq
    cases hq
    rfl

theorem bind_none {q : Dispatch n ρ α} {g : α → Dispatch n ρ β}
    (hq : (q w).1 = none) : (q >>= g) w = (none, (q w).2) := by
  show Stopping.andThen q g w = _
  unfold Stopping.andThen
  cases hw : q w with
  | mk r w' =>
    rw [hw] at hq
    cases hq
    rfl

theorem bind_bind (q : Dispatch n ρ α) (f : α → Dispatch n ρ β) (g : β → Dispatch n ρ γ) :
    (q >>= f) >>= g = q >>= fun a => f a >>= g :=
  Stopping.andThen_assoc q f g

theorem Succeeds.agrees {ok : γ → Bool} {p : Code γ} {q : Dispatch n ρ α} {f : γ → Code Outcome}
    {g : α → Dispatch n ρ Unit} (hp : Succeeds ok p q)
    (hgo : ∀ x a, ok x = true → Agrees (f x) (g a))
    (hstop : ∀ x, ok x = false → Stops Outcome.isCalled (f x)) : Agrees (p >>= f) (q >>= g) := by
  intro h w htried
  obtain ⟨htried', hok, hcalls⟩ := hp h w htried
  cases hq : (q w).1 with
  | some a =>
    rw [hq] at hok
    rw [bind_some hq, ← hcalls]
    exact hgo (p h).1 a hok (p h).2 (q w).2 htried'
  | none =>
    rw [hq] at hok
    rw [bind_none hq]
    obtain ⟨hcalled, hsame⟩ := hstop (p h).1 hok (p h).2
    exact ⟨hsame.trans htried', fun hr => absurd hr (ne_called hcalled), fun _ => hcalls⟩

theorem Succeeds.bind {ok : γ → Bool} {ok' : δ → Bool} {p : Code γ} {q : Dispatch n ρ α}
    {f : γ → Code δ} {g : α → Dispatch n ρ β} (hp : Succeeds ok p q)
    (hgo : ∀ x a, ok x = true → Succeeds ok' (f x) (g a))
    (hstop : ∀ x, ok x = false → Stops ok' (f x)) : Succeeds ok' (p >>= f) (q >>= g) := by
  intro h w htried
  obtain ⟨htried', hok, hcalls⟩ := hp h w htried
  cases hq : (q w).1 with
  | some a =>
    rw [hq] at hok
    rw [bind_some hq, ← hcalls]
    exact hgo (p h).1 a hok (p h).2 (q w).2 htried'
  | none =>
    rw [hq] at hok
    rw [bind_none hq]
    obtain ⟨hfalse, hsame⟩ := hstop (p h).1 hok (p h).2
    exact ⟨hsame.trans htried', hfalse, hcalls⟩

theorem succeeds_pure {ok : γ → Bool} {x : γ} {a : α} (hx : ok x = true) :
    Succeeds ok (pure x) (pure a : Dispatch n ρ α) :=
  fun _ _ htried => ⟨htried, hx, rfl⟩

theorem stops_pure {ok : γ → Bool} {x : γ} (hx : ok x = false) : Stops ok (pure x) :=
  fun _ => ⟨hx, rfl⟩

theorem succeeds_allocate :
    Succeeds Option.isSome (allocate c.calloc) (Dispatch.calloc c pRI : Dispatch n ρ Unit) := by
  intro h w htried
  unfold allocate Dispatch.calloc
  rw [htried]
  split
  · exact ⟨rfl, rfl, rfl⟩
  · exact ⟨rfl, rfl, rfl⟩

theorem succeeds_copyHidlStringToRil :
    Succeeds Prod.fst (copyHidlStringToRil c.calloc src allowEmpty)
      (Dispatch.copyHidlStringToRil c src pRI allowEmpty : Dispatch n ρ _) := by
  unfold copyHidlStringToRil Dispatch.copyHidlStringToRil
  split
  · exact succeeds_pure rfl
  · refine succeeds_allocate.bind (fun x _ hx => ?_) fun x hx => ?_
    · obtain ⟨dest, rfl⟩ := Option.isSome_iff_exists.mp hx
      intro h w htried
      by_cases hlong : src.size + 1 ≤ src.cStr.length
      · rw [if_pos hlong]
        exact ⟨htried, decide_eq_false (Nat.not_lt.mpr hlong), rfl⟩
      · rw [if_neg hlong]
        exact ⟨htried, decide_eq_true (Nat.lt_of_not_le hlong), rfl⟩
    · rw [Option.isSome_eq_false_iff, Option.isNone_iff_eq_none] at hx
      subst hx
      exact stops_pure rfl

theorem agrees_copied {next : Ptr → Code Outcome} {next' : Option CString → Dispatch n ρ Unit}
    (hnext : ∀ p x, Agrees (next p) (next' x)) :
    Agrees (copied c.calloc src allowEmpty fails next)
      (Dispatch.copyHidlStringToRil c src pRI allowEmpty >>= next') := by
  refine succeeds_copyHidlStringToRil.agrees (fun r x hr => ?_) fun r hr => ?_
  · obtain ⟨ok, dest⟩ := r
    cases hr
    exact hnext dest x
  · obtain ⟨ok, dest⟩ := r
    cases hr
    intro h
    refine ⟨?_, freeAll_tried⟩
    cases dest <;> rfl

theorem agrees_callOnRequest {request : RilRequest} {body : Payload} :
    Agrees (callOnRequest data frees)
      (Dispatch.callOnRequest c request body pRI : Dispatch n ρ Unit) := by
  intro h w htried
  refine ⟨freeAll_tried.trans (use_tried.trans htried), fun _ => ⟨_, rfl⟩, fun hr => ?_⟩
  exact absurd rfl hr

theorem agrees_refuse {err : Int} :
    Agrees (pure .refused) (Dispatch.refuse pRI err : Dispatch n ρ Unit) := by
  intro h w htried
  exact ⟨htried, (fun hr => by cases hr), fun _ => rfl⟩

/-- `addRequestToList` allocates only the entry of the list. -/
theorem agrees_addRequestToList {p : Code Outcome} {q : Fin n → Dispatch n ρ Unit} {a : Fin n}
    {serial : Int} {request : RilRequest} (hplace : c.place = some a) (hq : Agrees p (q a)) :
    Agrees p (Dispatch.addRequestToList c serial request >>= q) := by
  intro h w htried
  have hsome : (Dispatch.addRequestToList c serial request w).1 = some a := by
    unfold Dispatch.addRequestToList
    rw [hplace]
  rw [bind_some hsome]
  have hq := hq h (Dispatch.addRequestToList c serial request w).2
  unfold Dispatch.addRequestToList at hq ⊢
  rw [hplace] at hq ⊢
  exact hq htried

/-- A block that is allocated behind others, which are freed if it is refused. -/
theorem agrees_allocate {next : Ptr → Code Outcome} {q : Unit → Dispatch n ρ Unit}
    (hnone : Stops Outcome.isCalled (next none)) (hsome : ∀ a, Agrees (next (some a)) (q ())) :
    Agrees (allocate c.calloc >>= next) (Dispatch.calloc c pRI >>= q) := by
  refine succeeds_allocate.agrees (fun p x hp => ?_) fun p hp => ?_
  · obtain ⟨a, rfl⟩ := Option.isSome_iff_exists.mp hp
    exact hsome a
  · rw [Option.isSome_eq_false_iff, Option.isNone_iff_eq_none] at hp
    rw [hp]
    exact hnone

theorem agrees_copyStrings {strs : List HidlString} {pStrings : Ptr} {copies : List Ptr}
    {next : List (Option CString) → Dispatch n ρ Unit}
    (hnext : ∀ data frees x, Agrees (callOnRequest data frees) (next x)) :
    Agrees (copyStrings c.calloc allowEmpty pStrings strs copies)
      (Stopping.forEach (fun str => Dispatch.copyHidlStringToRil c str pRI allowEmpty) strs >>=
        next) := by
  induction strs generalizing copies next with
  | nil => exact hnext _ _ []
  | cons str strs ih =>
    have hloop : (Stopping.forEach (fun str => Dispatch.copyHidlStringToRil c str pRI allowEmpty)
          (str :: strs) >>= next) =
        (Dispatch.copyHidlStringToRil c str pRI allowEmpty >>= fun x =>
          Stopping.forEach (fun str => Dispatch.copyHidlStringToRil c str pRI allowEmpty) strs >>=
            fun xs => next (x :: xs)) := by
      refine (bind_bind _ _ next).trans (congrArg _ (funext fun x => ?_))
      exact bind_bind _ _ next
    rw [hloop]
    exact agrees_copied fun p x => ih fun data frees xs => hnext data frees (x :: xs)

theorem agrees_dispatchStringVec {strs : List HidlString} {request : RilRequest}
    {body : List (Option CString) → Payload} :
    Agrees (dispatchStringVec c.calloc allowEmpty strs)
      (Dispatch.calloc c pRI >>= fun _ => Stopping.forEach
        (fun str => Dispatch.copyHidlStringToRil c str pRI allowEmpty) strs >>= fun xs =>
        (Dispatch.callOnRequest c request (body xs) pRI : Dispatch n ρ Unit)) :=
  agrees_allocate (stops_pure rfl) fun _ => agrees_copyStrings fun _ _ _ => agrees_callOnRequest

/-! The rows of `setDataProfile`. -/

theorem stops_bind {ok : δ → Bool} {p : Code γ} {f : γ → Code δ}
    (hp : ∀ h, (p h).2.tried = h.tried) (hf : ∀ x, Stops ok (f x)) : Stops ok (p >>= f) :=
  fun h => ⟨(hf _ _).1, (hf _ _).2.trans (hp h)⟩

theorem succeeds_copyRow_cons {fields : Fields} {known : Bool} {q : Option CString →
      Dispatch n ρ α}
    (hq : ∀ x, Succeeds (fun r => r.1 && known) (copyRow c.calloc fields) (q x)) :
    Succeeds (fun r => r.1 && known) (copyRow c.calloc ((src, allowEmpty) :: fields))
      (Dispatch.copyHidlStringToRil c src pRI allowEmpty >>= q) := by
  refine succeeds_copyHidlStringToRil.bind (fun r x hr => ?_) fun r hr => ?_
  · obtain ⟨success, p⟩ := r
    cases hr
    exact fun h w htried => hq x h w htried
  · obtain ⟨success, p⟩ := r
    cases hr
    exact stops_pure rfl

theorem succeeds_copyRows {ι : Type} {row : ι → Fields × Bool} {convert : ι → Dispatch n ρ α}
    (hrow : ∀ i, Succeeds (fun r => r.1 && (row i).2) (copyRow c.calloc (row i).1) (convert i))
    (l : List ι) : Succeeds Prod.fst (copyRows c.calloc (l.map row)) (Stopping.forEach convert l)
    := by
  induction l with
  | nil => exact succeeds_pure rfl
  | cons i l ih =>
    refine (hrow i).bind (fun r x hr => ?_) fun r hr => ?_
    · obtain ⟨success, ptrs⟩ := r
      simp only [Bool.and_eq_true] at hr
      simp only [if_pos hr]
      refine ih.bind (fun r' xs hr' => ?_) fun r' hr' => ?_
      · exact succeeds_pure hr'
      · exact stops_pure hr'
    · obtain ⟨success, ptrs⟩ := r
      have hne : ¬(success = true ∧ (row i).2 = true) := by
        rw [← Bool.and_eq_true]
        exact Bool.eq_false_iff.mp hr
      simp only [if_neg hne]
      exact stops_pure rfl

theorem freeSetDataProfileData_tried {num numfields : Nat} {dataProfiles dataProfilePtrs : Ptr}
    {rows : List (List Ptr)} :
    (freeSetDataProfileData num numfields dataProfiles dataProfilePtrs rows h).2.tried =
      h.tried :=
  (free_tried _).trans ((free_tried _).trans freeAll_tried)

/-- The second half of `setDataProfile`. -/
theorem agrees_freeSetDataProfileData {ι : Type} {row : ι → Fields × Bool}
    {convert : ι → Dispatch n ρ α} {profiles : List ι} {num numfields : Nat}
    {dataProfiles dataProfilePtrs : Ptr} {request : RilRequest} {body : List α → Payload}
    (hrow : ∀ i, Succeeds (fun r => r.1 && (row i).2) (copyRow c.calloc (row i).1) (convert i)) :
    Agrees
      (do
        let (success, rows) ← copyRows c.calloc (profiles.map row)
        if success then do
          use (dataProfilePtrs :: dataProfiles :: rows.flatten)
          freeSetDataProfileData num numfields dataProfiles dataProfilePtrs rows
          pure .called
        else do
          freeSetDataProfileData num numfields dataProfiles dataProfilePtrs rows
          pure .refused)
      (Stopping.forEach convert profiles >>= fun xs =>
        (Dispatch.callOnRequest c request (body xs) pRI : Dispatch n ρ Unit)) := by
  refine (succeeds_copyRows hrow profiles).agrees (fun r xs hr => ?_) fun r hr => ?_
  · obtain ⟨success, rows⟩ := r
    cases hr
    intro h w htried
    refine ⟨?_, fun _ => ⟨_, rfl⟩, fun hr => absurd rfl hr⟩
    exact freeSetDataProfileData_tried.trans (use_tried.trans htried)
  · obtain ⟨success, rows⟩ := r
    cases hr
    exact stops_bind (fun _ => freeSetDataProfileData_tried) fun _ => stops_pure rfl

theorem succeeds_fields {isRoaming : Bool} {info : DataProfileInfo} :
    Succeeds (fun r => r.1 && true) (copyRow c.calloc (fields isRoaming info))
      (Dispatch.convertDataProfile c isRoaming pRI info : Dispatch n ρ _) :=
  succeeds_copyRow_cons fun _ => succeeds_copyRow_cons fun _ => succeeds_copyRow_cons fun _ =>
    succeeds_copyRow_cons fun _ => succeeds_pure rfl

theorem succeeds_fields_v15 {info : DataProfileInfo} :
    Succeeds (fun r => r.1 && (Dispatch.convertMvnoTypeToString info.mvnoType).isSome)
      (copyRow c.calloc (fields_v15 info))
      (Dispatch.convertDataProfile_v15 c pRI info : Dispatch n ρ _) := by
  refine succeeds_copyRow_cons fun _ => succeeds_copyRow_cons fun _ =>
    succeeds_copyRow_cons fun _ => succeeds_copyRow_cons fun _ => succeeds_copyRow_cons fun _ =>
    succeeds_copyRow_cons fun _ => ?_
  cases htype : Dispatch.convertMvnoTypeToString info.mvnoType with
  | some str =>
    intro h w htried
    unfold Dispatch.mvnoTypeString
    rw [htype]
    exact ⟨htried, rfl, rfl⟩
  | none =>
    intro h w htried
    unfold Dispatch.mvnoTypeString
    rw [htype]
    exact ⟨htried, rfl, rfl⟩

theorem agrees_setDataProfile {version : Int} {profiles : List DataProfileInfo} {isRoaming : Bool}
    (hversion : c.version = version) :
    Agrees (setDataProfile c.calloc version profiles isRoaming)
      (Dispatch.calloc c pRI >>= fun _ => Dispatch.calloc c pRI >>= fun _ =>
        if c.version ≤ 14 then
          Stopping.forEach (Dispatch.convertDataProfile c isRoaming pRI) profiles >>= fun ptrs =>
            (Dispatch.callOnRequest c .SET_DATA_PROFILE (.dataProfiles ptrs) pRI :
              Dispatch n ρ Unit)
        else
          Stopping.forEach (Dispatch.convertDataProfile_v15 c pRI) profiles >>= fun ptrs =>
            (Dispatch.callOnRequest c .SET_DATA_PROFILE (.dataProfiles_v15 ptrs) pRI :
              Dispatch n ρ Unit)) := by
  refine agrees_allocate (stops_pure rfl) fun dataProfiles => ?_
  refine agrees_allocate ?_ fun dataProfilePtrs => ?_
  · exact stops_bind (fun _ => freeAll_tried) fun _ => stops_pure rfl
  · rw [hversion]
    by_cases hold : version ≤ 14
    · simp only [if_pos hold]
      exact agrees_freeSetDataProfileData fun _ => succeeds_fields
    · simp only [if_neg hold]
      exact agrees_freeSetDataProfileData fun _ => succeeds_fields_v15

/-! The methods that check their argument. -/

theorem agrees_setInitialAttachApn {version : Int} {info : DataProfileInfo}
    {modemCognitive isRoaming : Bool} {serial : Int} {a : Fin n} (hplace : c.place = some a)
    (hversion : c.version = version) :
    Agrees (setInitialAttachApn c.calloc version info isRoaming)
      (Dispatch.setInitialAttachApn c serial info modemCognitive isRoaming :
        Dispatch n ρ Unit) := by
  refine agrees_addRequestToList hplace ?_
  rw [hversion]
  unfold setInitialAttachApn
  by_cases hold : version ≤ 14
  · rw [if_pos hold, if_pos hold]
    exact agrees_copied fun _ _ => agrees_copied fun _ _ => agrees_copied fun _ _ =>
      agrees_copied fun _ _ => agrees_callOnRequest
  · rw [if_neg hold, if_neg hold]
    refine agrees_copied fun _ _ => agrees_copied fun _ _ => agrees_copied fun _ _ =>
      agrees_copied fun _ _ => agrees_copied fun _ _ => ?_
    unfold Dispatch.mvnoTypeString
    cases Dispatch.convertMvnoTypeToString info.mvnoType with
    | some str =>
      simp only [Option.isNone_some, Bool.false_eq_true, if_false]
      exact agrees_copied fun _ _ => agrees_callOnRequest
    | none =>
      intro h w htried
      exact ⟨freeAll_tried.trans htried, (fun hr => by cases hr), fun _ => rfl⟩

theorem agrees_sendImsSms {message : ImsSmsMessage} {serial : Int} {a : Fin n}
    (hplace : c.place = some a) :
    Agrees (sendImsSms c.calloc message)
      (Dispatch.sendImsSms c serial message : Dispatch n ρ Unit) := by
  refine agrees_addRequestToList hplace ?_
  unfold sendImsSms
  split
  · unfold dispatchImsGsmSms Dispatch.dispatchImsGsmSms
    rcases message.gsmMessage with _ | ⟨gsmMessage, _ | ⟨second, rest⟩⟩
    · exact agrees_refuse
    · dsimp only
      refine agrees_allocate (stops_pure rfl) fun _ => ?_
      exact agrees_copied fun _ _ => agrees_copied fun _ _ => agrees_callOnRequest
    · exact agrees_refuse
  · split
    · unfold dispatchImsCdmaSms Dispatch.dispatchImsCdmaSms
      rcases message.cdmaMessage with _ | ⟨cdmaMessage, _ | ⟨second, rest⟩⟩
      · exact agrees_refuse
      · exact agrees_callOnRequest
      · exact agrees_refuse
    · exact agrees_refuse

/-- The checks of `startNetworkScan` and of `startKeepalive` send errors, and nothing else. -/
def Checks (ok : Prop) (q : Dispatch n ρ α) : Prop :=
  ∀ w, (q w).2.tried = w.tried ∧ (q w).2.onRequests = w.onRequests ∧ ((q w).1.isSome ↔ ok)

theorem checks_require {ok : Prop} [Decidable ok] :
    Checks ok (Dispatch.require ok pRI : Dispatch n ρ Unit) := by
  intro w
  unfold Dispatch.require
  split
  · rename_i hok
    exact ⟨rfl, rfl, ⟨fun _ => hok, fun _ => rfl⟩⟩
  · rename_i hno
    exact ⟨rfl, rfl, ⟨(fun hr => by cases hr), fun hok => absurd hok hno⟩⟩

theorem Checks.bind {ok ok' : Prop} {q : Dispatch n ρ α} {g : α → Dispatch n ρ β}
    (hq : Checks ok q) (hg : ∀ x, Checks ok' (g x)) : Checks (ok ∧ ok') (q >>= g) := by
  intro w
  obtain ⟨htried, hcalls, hok⟩ := hq w
  cases hr : (q w).1 with
  | some x =>
    obtain ⟨htried', hcalls', hok'⟩ := hg x (q w).2
    rw [bind_some hr]
    refine ⟨htried'.trans htried, hcalls'.trans hcalls, hok'.trans ?_⟩
    exact ⟨fun hyes => ⟨hok.mp (by rw [hr]; rfl), hyes⟩, fun hyes => hyes.2⟩
  | none =>
    rw [bind_none hr]
    refine ⟨htried, hcalls, ⟨(fun hsome => by cases hsome), fun hyes => ?_⟩⟩
    have hsome := hok.mpr hyes.1
    rw [hr] at hsome
    cases hsome

theorem checks_pure {x : α} : Checks True (pure x : Dispatch n ρ α) :=
  fun _ => ⟨rfl, rfl, ⟨fun _ => trivial, fun _ => rfl⟩⟩

theorem Checks.congr {ok ok' : Prop} {q : Dispatch n ρ α} (hq : Checks ok q) (hiff : ok ↔ ok') :
    Checks ok' q := by
  rwa [propext hiff] at hq

theorem checks_forEach {ι : Type} {ok : ι → Prop} {convert : ι → Dispatch n ρ α}
    (hconvert : ∀ i, Checks (ok i) (convert i)) (l : List ι) :
    Checks (∀ i ∈ l, ok i) (Stopping.forEach convert l) := by
  induction l with
  | nil => exact checks_pure.congr (by simp)
  | cons i l ih =>
    refine ((hconvert i).bind fun x => ih.bind fun xs => checks_pure).congr ?_
    simp

theorem checks_convertSpecifier {ras : RadioAccessSpecifier} :
    Checks ((ras.geranBands.length ≤ MAX_BANDS ∧ ras.utranBands.length ≤ MAX_BANDS ∧
        ras.eutranBands.length ≤ MAX_BANDS ∧ ras.channels.length ≤ MAX_CHANNELS) ∧
        (Dispatch.RadioAccessSpecifier.bands ras).isSome)
      (Dispatch.convertSpecifier pRI ras : Dispatch n ρ _) := by
  refine checks_require.bind fun _ => ?_
  cases Dispatch.RadioAccessSpecifier.bands ras with
  | none => exact fun w => ⟨rfl, rfl, ⟨(fun hr => by cases hr), fun hr => by cases hr⟩⟩
  | some bands => exact checks_pure.congr ⟨fun _ => rfl, fun _ => trivial⟩

/-- Code that does not touch the heap before it has checked something. -/
theorem agrees_of_checks {q : Dispatch n ρ α} {g : α → Dispatch n ρ Unit} {ok : Prop} [Decidable ok]
    {p : Code Outcome} (hq : Checks ok q) (hg : ∀ x, Agrees p (g x)) :
    Agrees (if ok then p else pure .refused) (q >>= g) := by
  intro h w htried
  obtain ⟨hsame, hcalls, hok⟩ := hq w
  cases hr : (q w).1 with
  | some x =>
    rw [bind_some hr, if_pos (hok.mp (by rw [hr]; rfl)), ← hcalls]
    exact hg x h (q w).2 (htried.trans hsame.symm)
  | none =>
    have hno : ¬ok := fun hyes => by
      have hsome := hok.mpr hyes
      rw [hr] at hsome
      cases hsome
    rw [bind_none hr, if_neg hno]
    exact ⟨htried.trans hsame.symm, (fun hcalled => by cases hcalled), fun _ => hcalls⟩

theorem agrees_startNetworkScan {request : NetworkScanRequest} {serial : Int} {a : Fin n}
    (hplace : c.place = some a) :
    Agrees (startNetworkScan request)
      (Dispatch.startNetworkScan c serial request : Dispatch n ρ Unit) := by
  refine agrees_addRequestToList hplace ?_
  have hchecks : Checks _ (Dispatch.require (request.specifiers.length ≤ MAX_RADIO_ACCESS_NETWORKS)
      a >>= fun _ => (Stopping.forEach (Dispatch.convertSpecifier a) request.specifiers :
        Dispatch n ρ _)) :=
    checks_require.bind fun _ => checks_forEach (fun _ => checks_convertSpecifier) _
  have hcall : ∀ specifiers, Agrees (callOnRequest [] [])
      (Dispatch.callOnRequest c .START_NETWORK_SCAN
        (.networkScan ⟨request.type, request.interval, specifiers⟩) a : Dispatch n ρ Unit) :=
    fun _ => agrees_callOnRequest
  have hall := agrees_of_checks hchecks hcall
  rw [bind_bind] at hall
  exact hall

theorem agrees_startKeepalive {keepalive : KeepaliveRequest} {serial : Int} {a : Fin n}
    (hplace : c.place = some a) :
    Agrees (startKeepalive keepalive)
      (Dispatch.startKeepalive c serial keepalive : Dispatch n ρ Unit) :=
  agrees_addRequestToList hplace (agrees_of_checks checks_require fun _ => agrees_callOnRequest)

/-- `addAndRefuse` needs no memory, as the method that returns at once. -/
theorem agrees_dispatched (d : Dispatched) {serial : Int} {a : Fin n} (hplace : c.place = some a) :
    Agrees (dispatched c.calloc c.version d) (d.perform c serial : Dispatch n ρ Unit) := by
  cases d with
  | string request str =>
    exact agrees_addRequestToList hplace (agrees_copied fun _ _ => agrees_callOnRequest)
  | strings request allowEmpty strs =>
    refine agrees_addRequestToList hplace ?_
    have hstrs : ∀ strs : List CString, (Stopping.forEach (fun str =>
        Dispatch.copyHidlStringToRil c (.ofCStr str) a allowEmpty) strs : Dispatch n ρ _) =
        Stopping.forEach (fun str => Dispatch.copyHidlStringToRil c str a allowEmpty)
          (strs.map .ofCStr) := by
      intro strs
      induction strs with
      | nil => rfl
      | cons str strs ih => rw [List.map_cons, Stopping.forEach, Stopping.forEach, ih]
    rw [hstrs]
    exact agrees_dispatchStringVec
  | stringVec request data =>
    exact agrees_addRequestToList hplace agrees_dispatchStringVec
  | ints request values =>
    exact agrees_addRequestToList hplace
      (agrees_allocate (stops_pure rfl) fun _ => agrees_callOnRequest)
  | callForwardStatus request callInfo =>
    exact agrees_addRequestToList hplace (agrees_copied fun _ _ => agrees_callOnRequest)
  | iccApdu request message =>
    exact agrees_addRequestToList hplace (agrees_copied fun _ _ => agrees_callOnRequest)
  | refused request err => exact agrees_addRequestToList hplace agrees_refuse
  | networkScan request => exact agrees_startNetworkScan hplace
  | initialAttachApn info modemCognitive isRoaming =>
    exact agrees_setInitialAttachApn hplace rfl
  | imsSms message => exact agrees_sendImsSms hplace
  | openLogicalChannel aid p2 =>
    exact agrees_addRequestToList hplace (agrees_copied fun _ _ => agrees_callOnRequest)
  | dataProfile profiles isRoaming =>
    exact agrees_addRequestToList hplace (agrees_setDataProfile rfl)
  | keepalive request => exact agrees_startKeepalive hplace

/-- A service of one slot in which the second allocation fails. -/
def secondRefused : Setting 1 :=
  { simCount := 1, version := 15, mSlotId := 0, place := some ⟨0, Nat.zero_lt_one⟩
    calloc := fun tried => tried ≠ 1 }

def noRequests : World 1 Unit :=
  { requests := PendingRequests.initial (fun _ => ⟨0, 0, 0, 0, 0, 0, 0⟩) fun _ => none
    tried := 0, errors := [], onRequests := [] }

end Apq8084.Ril.RequestHeap
