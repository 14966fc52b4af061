import Apq8084.Camera.CameraParameters
import Apq8084.Lib.Decimal

/-! The sizes that `CameraParameters.cpp` prints into the parameters and reads out of them. -/

open Decimal

structure Size where
  width : Int32
  height : Int32

namespace CameraParameters

def KEY_PREVIEW_SIZE : String8 := "preview-size".toList
def KEY_SUPPORTED_PREVIEW_SIZES : String8 := "preview-size-values".toList
def KEY_PICTURE_SIZE : String8 := "picture-size".toList
def KEY_SUPPORTED_PICTURE_SIZES : String8 := "picture-size-values".toList
def KEY_VIDEO_SIZE : String8 := "video-size".toList
def KEY_SUPPORTED_VIDEO_SIZES : String8 := "video-size-values".toList
def KEY_PREFERRED_PREVIEW_SIZE_FOR_VIDEO : String8 := "preferred-preview-size-for-video".toList

variable {abi : Abi} {qcomHardware : Bool} {m : CameraParameters} {s t item : String8}
  {items : List String8} {sizes : List Size} {size : Size} {delim c : Char}

/-- The two numbers and `*endptr`; `none` is the failure. The casts to `int` wrap around. -/
def parse_pair (abi : Abi) (str : String8) (delim : Char) : Option (Size × String8) :=
  let w := strtol abi str
  match w.2 with
  | [] => none
  | c :: s =>
    if c = delim then
      let h := strtol abi s
      some (⟨Int32.ofInt w.1, Int32.ofInt h.1⟩, h.2)
    else none

theorem parse_pair_suffix (h : parse_pair abi s delim = some (size, t)) :
    t <:+ s ∧ t.length < s.length := by
  simp only [parse_pair] at h
  split at h
  · cases h
  · rename_i c s' hs
    split_ifs at h
    cases h
    have hs' : c :: s' <:+ s := by
      rw [← hs]
      exact strtol_suffix s
    have ht : (strtol abi s').2 <:+ s' := strtol_suffix s'
    refine ⟨ht.trans ((List.suffix_cons c s').trans hs'), ?_⟩
    have hlen := hs'.length_le
    have hlen' := ht.length_le
    rw [List.length_cons] at hlen
    omega

/-- The loop of `parseSizesList`, with the cursor in front of `sizeStartPtr`. -/
def parseSizesFrom (abi : Abi) (sizeStartPtr : String8) (sizes : List Size) : List Size :=
  match _h : parse_pair abi sizeStartPtr 'x' with
  | none => sizes
  | some (size, []) => sizes ++ [size]
  | some (size, c :: s) => if c = ',' then parseSizesFrom abi s (sizes ++ [size]) else sizes
termination_by sizeStartPtr.length
decreasing_by
  have hlen := (parse_pair_suffix _h).2
  rw [List.length_cons] at hlen
  omega

/-- Appends to the vector that it is given. -/
def parseSizesList (abi : Abi) (sizesStr : Option String8) (sizes : List Size) : List Size :=
  match sizesStr with
  | none => sizes
  | some sizesStr => parseSizesFrom abi sizesStr sizes

/-- What `%dx%d` prints. -/
def sizeText (width height : Int32) : String8 :=
  (toString width.toInt).toList ++ 'x' :: (toString height.toInt).toList

def setSize (key : String8) (qcomHardware : Bool) (m : CameraParameters) (width height : Int32) :
    CameraParameters :=
  m.set qcomHardware (some key) (some (sizeText width height))

def getSize (key : String8) (abi : Abi) (m : CameraParameters) : Int32 × Int32 :=
  match m.get key with
  | none => (-1, -1)
  | some p =>
    match parse_pair abi p 'x' with
    | none => (-1, -1)
    | some (size, _) => (size.width, size.height)

def setPreviewSize := setSize KEY_PREVIEW_SIZE
def getPreviewSize := getSize KEY_PREVIEW_SIZE
def getPreferredPreviewSizeForVideo := getSize KEY_PREFERRED_PREVIEW_SIZE_FOR_VIDEO
def setVideoSize := setSize KEY_VIDEO_SIZE
def getVideoSize := getSize KEY_VIDEO_SIZE
def setPictureSize := setSize KEY_PICTURE_SIZE
def getPictureSize := getSize KEY_PICTURE_SIZE

def getSupportedPreviewSizes (abi : Abi) (m : CameraParameters) (sizes : List Size) : List Size :=
  parseSizesList abi (m.get KEY_SUPPORTED_PREVIEW_SIZES) sizes

def getSupportedVideoSizes (abi : Abi) (m : CameraParameters) (sizes : List Size) : List Size :=
  parseSizesList abi (m.get KEY_SUPPORTED_VIDEO_SIZES) sizes

def getSupportedPictureSizes (abi : Abi) (m : CameraParameters) (sizes : List Size) : List Size :=
  parseSizesList abi (m.get KEY_SUPPORTED_PICTURE_SIZES) sizes

/-! ### One item -/

/-- The size that an item is read as, if it is a size and nothing else. -/
def itemSize (abi : Abi) (item : String8) : Option Size :=
  match parse_pair abi item 'x' with
  | some (size, []) => some size
  | _ => none

/-- The item is read up to its end. -/
def Whole (abi : Abi) (item : String8) : Bool := (itemSize abi item).isSome

/-- The sizes of the longest series of items at the front that are all sizes. -/
def leadingSizes (abi : Abi) (items : List String8) : List Size :=
  (items.takeWhile (Whole abi)).filterMap (itemSize abi)

theorem leadingSizes_none (h : itemSize abi item = none) :
    leadingSizes abi (item :: items) = [] := by
  have hno : ¬Whole abi item = true := by
    rw [Whole, h]
    exact Bool.false_ne_true
  rw [leadingSizes, List.takeWhile_cons_of_neg hno]
  rfl

theorem leadingSizes_some (h : itemSize abi item = some size) :
    leadingSizes abi (item :: items) = size :: leadingSizes abi items := by
  have hyes : Whole abi item = true := by
    rw [Whole, h]
    rfl
  rw [leadingSizes, List.takeWhile_cons_of_pos hyes, List.filterMap_cons_some h]
  rfl

/-- What follows the comma behind an item makes no difference. -/
theorem parse_pair_append (s t : String8) : parse_pair abi (s ++ ',' :: t) 'x' =
    (parse_pair abi s 'x').map fun p => (p.1, p.2 ++ ',' :: t) := by
  have hcomma : Stops ',' := by decide
  simp only [parse_pair]
  rw [strtol_append hcomma]
  cases (strtol abi s).2 with
  | nil => rfl
  | cons c s' =>
    simp only [List.cons_append]
    split_ifs
    · rw [strtol_append hcomma]
      rfl
    · rfl

theorem parse_pair_sizeText (width height : Int32) :
    parse_pair abi (sizeText width height) 'x' = some (⟨width, height⟩, []) := by
  have hx : Stops 'x' := by decide
  simp only [parse_pair, sizeText]
  rw [strtol_append hx, strtol_toString]
  simp only [List.nil_append, if_true, strtol_toString, Int32.ofInt_toInt]

theorem itemSize_sizeText (size : Size) :
    itemSize abi (sizeText size.width size.height) = some size := by
  rw [itemSize, parse_pair_sizeText]

/-- The printed text consists of digits, signs and the `x`. -/
theorem not_mem_sizeText {width height : Int32} (hminus : c ≠ '-') (hx : c ≠ 'x')
    (hdigit : c.isDigit = false) : c ∉ sizeText width height := by
  have hnumber : ∀ i : Int, c ∉ (toString i).toList := by
    intro i hc
    rcases mem_toString hc with hc | hc
    · exact hminus hc
    · exact Bool.noConfusion (hdigit.symm.trans hc)
  intro hc
  rcases List.mem_append.mp hc with hc | hc
  · exact hnumber _ hc
  · rcases List.mem_cons.mp hc with hc | hc
    · exact hx hc
    · exact hnumber _ hc

/-! ### A list of items -/

theorem parseSizesFrom_single (hitem : ',' ∉ item) :
    parseSizesFrom abi item sizes = sizes ++ (itemSize abi item).toList := by
  unfold parseSizesFrom itemSize
  split
  · rename_i h
    rw [h]
    exact (List.append_nil sizes).symm
  · rename_i h
    rw [h]
    rfl
  · rename_i size c s h
    have hc : c ≠ ',' := by
      rintro rfl
      exact hitem ((parse_pair_suffix h).1.subset List.mem_cons_self)
    rw [h, if_neg hc]
    exact (List.append_nil sizes).symm

theorem parseSizesFrom_cons (hitem : ',' ∉ item) : parseSizesFrom abi (item ++ ',' :: t) sizes =
    match itemSize abi item with
    | none => sizes
    | some size => parseSizesFrom abi t (sizes ++ [size]) := by
  rw [parseSizesFrom]
  unfold itemSize
  split
  · rename_i h
    rw [parse_pair_append, Option.map_eq_none_iff] at h
    rw [h]
  · rename_i size h
    rw [parse_pair_append] at h
    obtain ⟨p, -, h⟩ := Option.map_eq_some_iff.mp h
    have hnil := congrArg Prod.snd h
    exact absurd hnil (List.append_ne_nil_of_right_ne_nil _ (List.cons_ne_nil _ _))
  · rename_i size c s h
    rw [parse_pair_append] at h
    obtain ⟨⟨size', rest⟩, hp, h⟩ := Option.map_eq_some_iff.mp h
    rw [hp]
    cases rest with
    | nil =>
      cases h
      exact if_pos rfl
    | cons b rest =>
      cases h
      have hc : c ≠ ',' := by
        rintro rfl
        exact hitem ((parse_pair_suffix hp).1.subset List.mem_cons_self)
      exact if_neg hc

/-- The loop takes the items one after the other and stops in front of the first that is not a
size. -/
theorem parseSizesFrom_intercalate (hitems : ∀ item ∈ items, ',' ∉ item) (hne : items ≠ []) :
    parseSizesFrom abi ([','].intercalate items) sizes = sizes ++ leadingSizes abi items := by
  induction items generalizing sizes with
  | nil => exact absurd rfl hne
  | cons item items ih =>
    have hitem := hitems item List.mem_cons_self
    cases items with
    | nil =>
      rw [List.intercalate_singleton, parseSizesFrom_single hitem]
      cases hsize : itemSize abi item with
      | none =>
        rw [leadingSizes_none hsize]
        rfl
      | some size =>
        rw [leadingSizes_some hsize]
        rfl
    | cons item' items =>
      have hcons : [','].intercalate (item :: item' :: items) =
          item ++ ',' :: [','].intercalate (item' :: items) := by
        rw [List.intercalate_cons_cons, List.append_assoc]
        rfl
      rw [hcons, parseSizesFrom_cons hitem]
      cases hsize : itemSize abi item with
      | none =>
        rw [leadingSizes_none hsize]
        exact (List.append_nil sizes).symm
      | some size =>
        have hitems' := fun i hi => hitems i (List.mem_cons_of_mem item hi)
        simp only
        rw [ih hitems' (List.cons_ne_nil _ _), leadingSizes_some hsize, List.append_assoc]
        rfl

theorem not_mem_splitOn (s : String8) : ∀ item ∈ s.splitOn c, c ∉ item := by
  induction s with
  | nil =>
    intro item hitem
    rw [List.splitOn_nil, List.mem_singleton] at hitem
    rw [hitem]
    exact List.not_mem_nil
  | cons b s ih =>
    intro item hitem
    rw [List.splitOn_cons_eq_if_modifyHead] at hitem
    split_ifs at hitem with hb
    · rcases List.mem_cons.mp hitem with rfl | hitem
      · exact List.not_mem_nil
      · exact ih item hitem
    · have hb : c ≠ b := fun h => hb (beq_iff_eq.mpr h.symm)
      cases hs : s.splitOn c with
      | nil => exact absurd hs (List.splitOn_ne_nil c s)
      | cons first items =>
        rw [hs] at ih hitem
        rcases List.mem_cons.mp hitem with rfl | hitem
        · rw [List.mem_cons, not_or]
          exact ⟨hb, ih first List.mem_cons_self⟩
        · exact ih item (List.mem_cons_of_mem first hitem)

/-- The list of the sizes. -/
def sizesText (sizes : List Size) : String8 :=
  [','].intercalate (sizes.map fun size => sizeText size.width size.height)

theorem parseSizesFrom_eq (abi : Abi) (s : String8) (sizes : List Size) :
    parseSizesFrom abi s sizes = sizes ++ leadingSizes abi (s.splitOn ',') := by
  rw [← parseSizesFrom_intercalate (not_mem_splitOn s) (List.splitOn_ne_nil _ _),
    List.intercalate_splitOn]

theorem leadingSizes_map (sizes : List Size) :
    leadingSizes abi (sizes.map fun size => sizeText size.width size.height) = sizes := by
  induction sizes with
  | nil => rfl
  | cons size sizes ih => rw [List.map_cons, leadingSizes_some (itemSize_sizeText size), ih]

theorem parseSizesFrom_sizesText (sizes : List Size) :
    parseSizesFrom abi (sizesText sizes) [] = sizes := by
  cases sizes with
  | nil =>
    have hempty : itemSize abi [] = none := rfl
    rw [sizesText, List.map_nil, List.intercalate_nil, parseSizesFrom_single List.not_mem_nil,
      hempty]
    rfl
  | cons size sizes =>
    have hitems : ∀ item ∈ (size :: sizes).map fun size => sizeText size.width size.height,
        ',' ∉ item := by
      intro item hitem
      obtain ⟨size, -, rfl⟩ := List.mem_map.mp hitem
      exact not_mem_sizeText (by decide) (by decide) rfl
    rw [sizesText, parseSizesFrom_intercalate hitems (List.cons_ne_nil _ _), leadingSizes_map]
    rfl

/-! ### Setting and getting one size -/

variable {key key' : String8} {width height : Int32}

theorem accepted_sizeText (hkey : '=' ∉ key ∧ ';' ∉ key) :
    Accepted key (sizeText width height) := by
  refine ⟨not_or.mpr hkey, not_or.mpr ⟨?_, ?_⟩⟩
  · exact not_mem_sizeText (by decide) (by decide) rfl
  · exact not_mem_sizeText (by decide) (by decide) rfl

theorem getSize_setSize (hkey : '=' ∉ key ∧ ';' ∉ key) :
    getSize key abi (setSize key qcomHardware m width height) = (width, height) := by
  have hne : sizeText width height ≠ [] :=
    List.append_ne_nil_of_right_ne_nil _ (List.cons_ne_nil _ _)
  unfold getSize setSize
  rw [get_set_self (accepted_sizeText hkey) hne]
  simp only [parse_pair_sizeText]

/-- A size that is set is read back, and the other keys keep their values; `QCOM_HARDWARE` adds one
more. -/
def SetsSize (key : String8) (abi : Abi) (qcomHardware : Bool)
    (setter : Bool → CameraParameters → Int32 → Int32 → CameraParameters)
    (getter : Abi → CameraParameters → Int32 × Int32) : Prop :=
  ∀ m width height, getter abi (setter qcomHardware m width height) = (width, height) ∧
    ∀ key', key' ≠ key → (qcomHardware = true → key' ≠ KEY_HDR_NEED_1X) →
      (setter qcomHardware m width height).lookup key' = m.lookup key'

theorem setsSize (hkey : '=' ∉ key ∧ ';' ∉ key) :
    SetsSize key abi qcomHardware (setSize key) (getSize key) :=
  fun _ _ _ => ⟨getSize_setSize hkey, fun _ hne hq => lookup_set_of_ne hne hq⟩

/-- What was printed is parsed back; of any other string, the sizes are those of the items up to
the first that is not one; and a size that is set is the size that is found. -/
theorem sizes_exact (abi : Abi) (qcomHardware : Bool) :
    (∀ sizes, parseSizesList abi (some (sizesText sizes)) [] = sizes) ∧
      (∀ s sizes,
        parseSizesList abi (some s) sizes = sizes ++ leadingSizes abi (s.splitOn ',')) ∧
      SetsSize KEY_PREVIEW_SIZE abi qcomHardware setPreviewSize getPreviewSize ∧
      SetsSize KEY_VIDEO_SIZE abi qcomHardware setVideoSize getVideoSize ∧
      SetsSize KEY_PICTURE_SIZE abi qcomHardware setPictureSize getPictureSize := by
  refine ⟨parseSizesFrom_sizesText, parseSizesFrom_eq abi, ?_, ?_, ?_⟩
  · exact setsSize (by decide)
  · exact setsSize (by decide)
  · exact setsSize (by decide)

end CameraParameters
