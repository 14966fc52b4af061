import Apq8084.Lib.KeyedVector
import Apq8084.Lib.KeyValueText
import Mathlib.Data.Char
import Mathlib.Data.List.Lex

/-! The parameter map of the camera and its text form (camera/CameraParameters.cpp). -/

open KeyValueText

/-- A string of bytes, each given by the character of its code; none is NUL. -/
abbrev String8 := List Char

structure CameraParameters where
  mMap : KeyedVector String8 String8

namespace CameraParameters

variable {qcomHardware : Bool} {m : CameraParameters} {l : List (String8 × String8)}

def empty : CameraParameters := ⟨KeyedVector.empty⟩

/-- One round of the loop: the entry at index `i`, and a `;` unless it is the last. -/
def flattenEntry (size : Nat) (flattened : String8) (e : (String8 × String8) × Nat) : String8 :=
  flattened ++ e.1.1 ++ ['='] ++ e.1.2 ++ (if e.2 ≠ size - 1 then [';'] else [])

def flatten (m : CameraParameters) : String8 :=
  m.mMap.entries.zipIdx.foldl (flattenEntry m.mMap.size) []

/-- The loop from the position `a` on: a key up to `=`, then its value up to `;` or the end. -/
def unflattenFrom (mMap : KeyedVector String8 String8) (a : String8) :
    KeyedVector String8 String8 :=
  match _hk : cut '=' a with
  | none => mMap
  | some (k, a) =>
    match _hv : cut ';' a with
    | none => mMap.add k a
    | some (v, a) => unflattenFrom (mMap.add k v) a
termination_by a.length
decreasing_by
  have h := length_cut _hk
  have h' := length_cut _hv
  omega

/-- The map of the object itself is cleared first. -/
def unflatten (_m : CameraParameters) (params : String8) : CameraParameters :=
  ⟨unflattenFrom KeyedVector.empty params⟩

/-- An empty value counts as a missing one. -/
def get (m : CameraParameters) (key : String8) : Option String8 :=
  let v := m.mMap.valueFor key []
  if v.length = 0 then none else some v

def replaceValueFor (m : CameraParameters) (key value : String8) : CameraParameters :=
  ⟨m.mMap.replaceValueFor key value⟩

/-- `set(key, value)`, where `none` is a null pointer. With `QCOM_HARDWARE` the first accepted
call also turns the additional frame of HDR pictures off. -/
def set (qcomHardware : Bool) (m : CameraParameters) : Option String8 → Option String8 →
    CameraParameters
  | some key, some value =>
    if '=' ∈ key ∨ ';' ∈ key then m
    else if '=' ∈ value ∨ ';' ∈ value then m
    else
      let m :=
        if qcomHardware ∧ (m.get "hdr-need-1x".toList).isNone then
          m.replaceValueFor "hdr-need-1x".toList "false".toList
        else m
      m.replaceValueFor key value
  | _, _ => m

/-- `set(key, int)` prints the number with `%d`. -/
def setInt (qcomHardware : Bool) (m : CameraParameters) (key : Option String8) (value : Int32) :
    CameraParameters :=
  m.set qcomHardware key (some (toString value.toInt).toList)

def remove (m : CameraParameters) (key : String8) : CameraParameters :=
  ⟨m.mMap.removeItem key⟩

inductive Call where
  | set (key value : Option String8)
  | setInt (key : Option String8) (value : Int32)
  | remove (key : String8)
  | unflatten (params : String8)

def call (qcomHardware : Bool) (m : CameraParameters) : Call → CameraParameters
  | .set key value => m.set qcomHardware key value
  | .setInt key value => m.setInt qcomHardware key value
  | .remove key => m.remove key
  | .unflatten params => m.unflatten params

def calls (qcomHardware : Bool) (m : CameraParameters) (cs : List Call) : CameraParameters :=
  cs.foldl (call qcomHardware) m

/-! ### The text form -/

/-- The loop appends the remaining entries to what it has written. -/
theorem foldl_flattenEntry {size n : Nat} {flattened : String8} (h : n + l.length = size) :
    (l.zipIdx n).foldl (flattenEntry size) flattened = flattened ++ joinPairs '=' ';' l := by
  induction l generalizing n flattened with
  | nil => exact (List.append_nil flattened).symm
  | cons e l ih =>
    rw [List.length_cons] at h
    rw [List.zipIdx_cons, List.foldl_cons, ih (by omega)]
    cases l with
    | nil =>
      have hn : n = size - 1 := by
        rw [List.length_nil] at h
        omega
      simp [flattenEntry, joinPairs, hn]
    | cons f l =>
      have hn : n ≠ size - 1 := by
        rw [List.length_cons] at h
        omega
      simp [flattenEntry, joinPairs, hn]

theorem flatten_eq (m : CameraParameters) : m.flatten = joinPairs '=' ';' m.mMap.entries :=
  foldl_flattenEntry (Nat.zero_add _)

theorem unflattenFrom_eq (mMap : KeyedVector String8 String8) (a : String8) :
    unflattenFrom mMap a = mMap.addAll (splitPairs '=' ';' a) := by
  fun_induction unflattenFrom mMap a with
  | case1 mMap a hk => rw [splitPairs_none hk, KeyedVector.addAll_nil]
  | case2 mMap a k t hk hv =>
    rw [splitPairs_last hk hv, KeyedVector.addAll_cons, KeyedVector.addAll_nil]
  | case3 mMap a k t hk v t' hv ih => rw [splitPairs_cons hk hv, KeyedVector.addAll_cons, ih]

/-! ### What every operation keeps -/

/-- No key holds a `=` and no value a `;`. A text that is read back may leave a `;` in a key
and a `=` in a value. -/
def Separable (m : CameraParameters) : Prop :=
  ∀ e ∈ m.mMap.entries, KeyValueText.Separable '=' ';' e

theorem separable_empty : Separable empty := fun _ he => absurd he List.not_mem_nil

theorem separable_unflatten (m : CameraParameters) (params : String8) :
    (m.unflatten params).Separable := by
  intro e he
  rw [unflatten, unflattenFrom_eq] at he
  refine KeyedVector.forall_addAll ?_ (splitPairs_separable params) e he
  exact fun f hf => absurd hf List.not_mem_nil

theorem separable_replaceValueFor {key value : String8} (h : m.Separable) (hk : '=' ∉ key)
    (hv : ';' ∉ value) : (m.replaceValueFor key value).Separable :=
  KeyedVector.forall_add h ⟨hk, hv⟩

theorem separable_set {key value : Option String8} (h : m.Separable) :
    (m.set qcomHardware key value).Separable := by
  cases key with
  | none => exact h
  | some key =>
    cases value with
    | none => exact h
    | some value =>
      simp only [set]
      split_ifs with hk hv hq
      · exact h
      · exact h
      · rw [not_or] at hk hv
        apply separable_replaceValueFor _ hk.1 hv.2
        exact separable_replaceValueFor h (by decide) (by decide)
      · rw [not_or] at hk hv
        exact separable_replaceValueFor h hk.1 hv.2

theorem separable_remove {key : String8} (h : m.Separable) : (m.remove key).Separable :=
  KeyedVector.forall_removeItem h

theorem separable_call (h : m.Separable) (c : Call) : (m.call qcomHardware c).Separable := by
  cases c with
  | set key value => exact separable_set h
  | setInt key value => exact separable_set h
  | remove key => exact separable_remove h
  | unflatten params => exact separable_unflatten m params

theorem separable_calls (h : m.Separable) (cs : List Call) :
    (m.calls qcomHardware cs).Separable := by
  induction cs generalizing m with
  | nil => exact h
  | cons c cs ih => exact ih (separable_call h c)

/-! ### Round trips -/

theorem unflatten_flatten_of_separable (h : m.Separable) (m' : CameraParameters) :
    m'.unflatten m.flatten = m := by
  have hl : splitPairs '=' ';' m.flatten = m.mMap.entries := by
    rw [flatten_eq]
    exact splitPairs_joinPairs h
  rw [unflatten, unflattenFrom_eq, hl, KeyedVector.addAll_empty_entries]

/-- Every object that the operations can build is read back from its text as it was, into any
object; and the text of a map read from any string stays the same from then on. -/
theorem unflatten_flatten (qcomHardware : Bool) :
    (∀ cs m', unflatten m' (empty.calls qcomHardware cs).flatten = empty.calls qcomHardware cs) ∧
    ∀ m m' params,
      (unflatten m' (unflatten m params).flatten).flatten = (unflatten m params).flatten := by
  constructor
  · intro cs m'
    exact unflatten_flatten_of_separable (separable_calls separable_empty cs) m'
  · intro m m' params
    rw [unflatten_flatten_of_separable (separable_unflatten m params)]

/-! ### What is found under a key -/

variable {key key' value : String8}

def KEY_HDR_NEED_1X : String8 := "hdr-need-1x".toList
def FLASH_MODE_TORCH : String8 := "torch".toList

/-- The value of a key, which may be empty. -/
def lookup (m : CameraParameters) (key : String8) : Option String8 := m.mMap.lookup key

/-- No separator is in the key or the value. -/
def Accepted (key value : String8) : Prop := ¬('=' ∈ key ∨ ';' ∈ key) ∧ ¬('=' ∈ value ∨ ';' ∈ value)

instance : Decidable (Accepted key value) := inferInstanceAs (Decidable (_ ∧ _))

theorem get_eq (m : CameraParameters) (key : String8) :
    m.get key = (m.lookup key).filter fun v => v ≠ [] := by
  unfold get lookup
  rw [KeyedVector.valueFor_eq]
  cases m.mMap.lookup key with
  | none => rfl
  | some v => cases v <;> rfl

/-- The line that `QCOM_HARDWARE` adds to `set`. -/
def withHdrNeed (qcomHardware : Bool) (m : CameraParameters) : CameraParameters :=
  if qcomHardware ∧ (m.get KEY_HDR_NEED_1X).isNone then
    m.replaceValueFor KEY_HDR_NEED_1X "false".toList
  else m

theorem set_refused (h : ¬Accepted key value) :
    m.set qcomHardware (some key) (some value) = m := by
  unfold Accepted at h
  simp only [set]
  split_ifs with hk hv
  · rfl
  · rfl
  all_goals exact absurd ⟨hk, hv⟩ h

theorem set_accepted (h : Accepted key value) :
    m.set qcomHardware (some key) (some value) =
      (m.withHdrNeed qcomHardware).replaceValueFor key value := by
  simp only [set]
  rw [if_neg h.1, if_neg h.2]
  rfl

theorem lookup_replaceValueFor_self : (m.replaceValueFor key value).lookup key = some value :=
  KeyedVector.lookup_add_self

theorem lookup_replaceValueFor_of_ne (h : key' ≠ key) :
    (m.replaceValueFor key value).lookup key' = m.lookup key' :=
  KeyedVector.lookup_add_of_ne h

theorem lookup_withHdrNeed (h : qcomHardware = true → key ≠ KEY_HDR_NEED_1X) :
    (m.withHdrNeed qcomHardware).lookup key = m.lookup key := by
  unfold withHdrNeed
  split_ifs with hq
  · exact lookup_replaceValueFor_of_ne (h hq.1)
  · rfl

theorem withHdrNeed_isSome (h : qcomHardware = true) :
    ((m.withHdrNeed qcomHardware).get KEY_HDR_NEED_1X).isSome = true := by
  unfold withHdrNeed
  split_ifs with hq
  · rw [get_eq, lookup_replaceValueFor_self]
    rfl
  · rw [← Option.not_isNone, Bool.not_eq_true']
    exact (Bool.not_eq_true _).mp fun hnone => hq ⟨h, hnone⟩

theorem withHdrNeed_eq_self (h : qcomHardware = true → (m.get KEY_HDR_NEED_1X).isSome = true) :
    m.withHdrNeed qcomHardware = m := by
  unfold withHdrNeed
  rw [if_neg]
  rintro ⟨hq, hnone⟩
  rw [Option.isNone_iff_eq_none] at hnone
  rw [hnone] at h
  cases h hq

theorem lookup_set_self (h : Accepted key value) :
    (m.set qcomHardware (some key) (some value)).lookup key = some value := by
  rw [set_accepted h]
  exact lookup_replaceValueFor_self

/-- `set` changes its own key only, and the one that `QCOM_HARDWARE` adds. -/
theorem lookup_set_of_ne (h : key' ≠ key) (hq : qcomHardware = true → key' ≠ KEY_HDR_NEED_1X) :
    (m.set qcomHardware (some key) (some value)).lookup key' = m.lookup key' := by
  by_cases hacc : Accepted key value
  · rw [set_accepted hacc, lookup_replaceValueFor_of_ne h, lookup_withHdrNeed hq]
  · rw [set_refused hacc]

theorem get_set_self (h : Accepted key value) (hne : value ≠ []) :
    (m.set qcomHardware (some key) (some value)).get key = some value := by
  rw [get_eq, lookup_set_self h]
  simp [hne]

/-- The value is in place, or it is refused. -/
def Settled (qcomHardware : Bool) (m : CameraParameters) (key value : String8) : Prop :=
  m.set qcomHardware (some key) (some value) = m

theorem settled_iff (hkey : key ≠ KEY_HDR_NEED_1X) : Settled qcomHardware m key value ↔
    (Accepted key value → m.lookup key = some value ∧
      (qcomHardware = true → (m.get KEY_HDR_NEED_1X).isSome = true)) := by
  unfold Settled
  constructor
  · intro h hacc
    rw [set_accepted hacc] at h
    constructor
    · rw [← h]
      exact lookup_replaceValueFor_self
    · intro hq
      rw [← h, get_eq, lookup_replaceValueFor_of_ne hkey.symm, ← get_eq]
      exact withHdrNeed_isSome hq
  · intro h
    by_cases hacc : Accepted key value
    · obtain ⟨hlookup, hhdr⟩ := h hacc
      rw [set_accepted hacc, withHdrNeed_eq_self hhdr]
      exact congrArg CameraParameters.mk (KeyedVector.add_of_lookup hlookup)
    · exact set_refused hacc

/-- Once set, a value stays settled while other keys are set. -/
theorem settled_set (hkey : key ≠ KEY_HDR_NEED_1X) :
    Settled qcomHardware (m.set qcomHardware (some key) (some value)) key value := by
  rw [settled_iff hkey]
  intro hacc
  refine ⟨lookup_set_self hacc, fun hq => ?_⟩
  rw [set_accepted hacc, get_eq, lookup_replaceValueFor_of_ne hkey.symm, ← get_eq]
  exact withHdrNeed_isSome hq

theorem Settled.set_of_ne {value' : String8} (h : Settled qcomHardware m key value)
    (hkey : key ≠ KEY_HDR_NEED_1X) (hne : key ≠ key') (hkey' : key' ≠ KEY_HDR_NEED_1X) :
    Settled qcomHardware (m.set qcomHardware (some key') (some value')) key value := by
  rw [settled_iff hkey] at h ⊢
  intro hacc
  obtain ⟨hlookup, hhdr⟩ := h hacc
  refine ⟨(lookup_set_of_ne hne fun _ => hkey).trans hlookup, fun hq => ?_⟩
  by_cases hacc' : Accepted key' value'
  · rw [set_accepted hacc', get_eq, lookup_replaceValueFor_of_ne hkey'.symm, ← get_eq]
    exact withHdrNeed_isSome hq
  · rw [set_refused hacc']
    exact hhdr hq

/-! ### A series of calls of `set` -/

/-- The second map comes from the first one by setting some of the keys. -/
inductive Edited (qcomHardware : Bool) (keys : List String8) :
    CameraParameters → CameraParameters → Prop
  | refl (m : CameraParameters) : Edited qcomHardware keys m m
  | set {m m' : CameraParameters} {key : String8} (value : String8)
      (h : Edited qcomHardware keys m m') (hkey : key ∈ keys) :
      Edited qcomHardware keys m (m'.set qcomHardware (some key) (some value))

namespace Edited

variable {keys keys' : List String8} {m' m'' : CameraParameters}

theorem single (hkey : key ∈ keys) :
    Edited qcomHardware keys m (m.set qcomHardware (some key) (some value)) :=
  .set value (.refl m) hkey

theorem mono (h : Edited qcomHardware keys m m') (hsub : keys ⊆ keys') :
    Edited qcomHardware keys' m m' := by
  induction h with
  | refl => exact .refl _
  | set value _ hkey ih => exact .set value ih (hsub hkey)

theorem trans (h : Edited qcomHardware keys m m') (h' : Edited qcomHardware keys' m' m'') :
    Edited qcomHardware (keys ++ keys') m m'' := by
  induction h' with
  | refl => exact h.mono (List.subset_append_left keys keys')
  | set value _ hkey ih => exact .set value ih (List.mem_append_right keys hkey)

/-- All other keys are as they were. -/
theorem lookup_eq (h : Edited qcomHardware keys m m') (hkey : key ∉ keys)
    (hq : qcomHardware = true → key ≠ KEY_HDR_NEED_1X) : m'.lookup key = m.lookup key := by
  induction h with
  | refl => rfl
  | set value _ hkey' ih =>
    rw [lookup_set_of_ne _ hq, ih]
    rintro rfl
    exact hkey hkey'

theorem get_eq (h : Edited qcomHardware keys m m') (hkey : key ∉ keys)
    (hq : key ≠ KEY_HDR_NEED_1X) : m'.get key = m.get key := by
  rw [CameraParameters.get_eq, CameraParameters.get_eq, h.lookup_eq hkey fun _ => hq]

theorem separable (h : Edited qcomHardware keys m m') (hm : m.Separable) : m'.Separable := by
  induction h with
  | refl => exact hm
  | set _ _ _ ih => exact separable_set ih

/-- A value that is settled stays so while other keys are set. -/
theorem settled (h : Edited qcomHardware keys m m') (hs : Settled qcomHardware m key value)
    (hkey : key ∉ keys) (hq : key ≠ KEY_HDR_NEED_1X) (hkeys : KEY_HDR_NEED_1X ∉ keys) :
    Settled qcomHardware m' key value := by
  induction h with
  | refl => exact hs
  | set value' _ hkey' ih =>
    apply ih.set_of_ne hq
    · rintro rfl
      exact hkey hkey'
    · rintro rfl
      exact hkeys hkey'

end Edited

end CameraParameters
