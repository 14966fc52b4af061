import Mathlib.Algebra.Group.Nat.Defs
import Apq8084.Lib.Planes

/-! The buffers of `msm_media_info.h`: strides, scanlines and sizes in 32-bit arithmetic, against
the planes of an image. -/
namespace Apq8084.Media

inductive ColorFmts where
  | NV12
  | NV21
  | NV12_MVTB
  | other (value : Int)
deriving DecidableEq

def MSM_MEDIA_ALIGN (sz align : UInt32) : UInt32 := (sz + (align - 1)) &&& ~~~(align - 1)

def VENUS_Y_STRIDE (color_fmt : ColorFmts) (width : Int32) : UInt32 :=
  if width = 0 then 0
  else
    match color_fmt with
    | .NV21 | .NV12 | .NV12_MVTB => MSM_MEDIA_ALIGN width.toUInt32 128
    | .other _ => 0

def VENUS_UV_STRIDE (color_fmt : ColorFmts) (width : Int32) : UInt32 :=
  if width = 0 then 0
  else
    match color_fmt with
    | .NV21 | .NV12 | .NV12_MVTB => MSM_MEDIA_ALIGN width.toUInt32 128
    | .other _ => 0

def VENUS_Y_SCANLINES (color_fmt : ColorFmts) (height : Int32) : UInt32 :=
  if height = 0 then 0
  else
    match color_fmt with
    | .NV21 | .NV12 | .NV12_MVTB => MSM_MEDIA_ALIGN height.toUInt32 32
    | .other _ => 0

def VENUS_UV_SCANLINES (color_fmt : ColorFmts) (height : Int32) : UInt32 :=
  if height = 0 then 0
  else
    match color_fmt with
    | .NV21 | .NV12 | .NV12_MVTB => MSM_MEDIA_ALIGN ((height + 1) >>> 1).toUInt32 16
    | .other _ => 0

def VENUS_BUFFER_SIZE (color_fmt : ColorFmts) (width height : Int32) : UInt32 :=
  let extra_size : UInt32 := 8 * 1024
  let uv_alignment : UInt32 := 4096
  if width = 0 ∨ height = 0 then 0
  else
    let y_stride := VENUS_Y_STRIDE color_fmt width
    let uv_stride := VENUS_UV_STRIDE color_fmt width
    let y_sclines := VENUS_Y_SCANLINES color_fmt height
    let uv_sclines := VENUS_UV_SCANLINES color_fmt height
    match color_fmt with
    | .NV21 | .NV12 =>
      let y_plane := y_stride * y_sclines
      let uv_plane := uv_stride * uv_sclines + uv_alignment
      let size := y_plane + uv_plane + extra_size
      MSM_MEDIA_ALIGN size 4096
    | .NV12_MVTB =>
      let y_plane := y_stride * y_sclines
      let uv_plane := uv_stride * uv_sclines + uv_alignment
      let size := y_plane + uv_plane
      let size := 2 * size + extra_size
      MSM_MEDIA_ALIGN size 4096
    | .other _ => 0

def VENUS_VIEW2_OFFSET (color_fmt : ColorFmts) (width height : Int32) : UInt32 :=
  if width = 0 ∨ height = 0 then 0
  else
    let y_stride := VENUS_Y_STRIDE color_fmt width
    let uv_stride := VENUS_UV_STRIDE color_fmt width
    let y_sclines := VENUS_Y_SCANLINES color_fmt height
    let uv_sclines := VENUS_UV_SCANLINES color_fmt height
    match color_fmt with
    | .NV12_MVTB => y_stride * y_sclines + uv_stride * uv_sclines
    | _ => 0

/-! ### The image -/

open Planes

/-- The next multiple of `a`. -/
def roundUp (n a : Nat) : Nat := (n + (a - 1)) / a * a

def yPlane (w h : Nat) : Plane := ⟨roundUp w 128, roundUp h 32⟩

def uvPlane (w h : Nat) : Plane := ⟨roundUp w 128, roundUp ((h + 1) / 2) 16⟩

def ColorFmts.views : ColorFmts → Nat
  | .NV12 | .NV21 => 1
  | .NV12_MVTB => 2
  | .other _ => 0

/-- The planes as the pictures of the header show them. -/
def planes (w h : Nat) : Nat → List Plane
  | 0 => []
  | views + 1 => yPlane w h :: uvPlane w h :: planes w h views

/-- The bytes behind the planes. -/
def ColorFmts.padding (color_fmt : ColorFmts) : Nat := color_fmt.views * 4096 + 8 * 1024

def paddedSize (color_fmt : ColorFmts) (w h : Nat) : Nat :=
  roundUp (total (planes w h color_fmt.views) + color_fmt.padding) 4096

/-- A sample of a view; the two colour samples of a 2x2 block lie side by side. -/
inductive Sample where
  | luma (view x y : Nat)
  | chroma (view x y : Nat) (second : Bool)

def Sample.InImage (views w h : Nat) : Sample → Prop
  | .luma view x y => view < views ∧ x < w ∧ y < h
  | .chroma view x y _ => view < views ∧ x < (w + 1) / 2 ∧ y < (h + 1) / 2

def Sample.offset (ps : List Plane) : Sample → Option Nat
  | .luma view x y => Planes.offset ps (2 * view) y x
  | .chroma view x y second => Planes.offset ps (2 * view + 1) y (2 * x + second.toNat)

variable {color_fmt : ColorFmts} {width height : Int32} {n k w h view views : Nat}

/-! ### Arithmetic -/

theorem and_not_mask (x m : UInt32) (hm : m.toNat = 2 ^ k - 1) :
    (x &&& ~~~m).toNat = x.toNat / 2 ^ k * 2 ^ k := by
  have hpos : 0 < 2 ^ k := Nat.two_pow_pos k
  have hsub : UInt32.size - 1 - m.toNat = 2 ^ 32 - (m.toNat + 1) := by
    rw [UInt32.size]
    omega
  apply Nat.eq_of_testBit_eq
  intro i
  rw [UInt32.toNat_and, UInt32.toNat_not, hsub, Nat.testBit_and,
    Nat.testBit_two_pow_sub_succ m.toNat_lt, hm, Nat.testBit_two_pow_sub_one,
    Nat.testBit_mul_two_pow, Nat.testBit_div_two_pow]
  by_cases hk : k ≤ i
  · have hlt : ¬i < k := Nat.not_lt.mpr hk
    by_cases hi : i < 32
    · simp [hk, hlt, hi, Nat.sub_add_cancel hk]
    · have hbit : x.toNat.testBit i = false := by
        apply Nat.testBit_lt_two_pow
        exact Nat.lt_of_lt_of_le x.toNat_lt (Nat.pow_le_pow_right Nat.two_pos (by omega))
      simp [hbit, Nat.sub_add_cancel hk]
  · have hlt : i < k := by omega
    simp [hk, hlt]

/-- The alignment wraps around where the sum does. -/
theorem toNat_align (sz align : UInt32) (k : Nat) (halign : align.toNat = 2 ^ k) :
    (MSM_MEDIA_ALIGN sz align).toNat =
      (sz.toNat + (2 ^ k - 1)) % 2 ^ 32 / 2 ^ k * 2 ^ k := by
  have hpos : 0 < 2 ^ k := Nat.two_pow_pos k
  have hmask : (align - 1).toNat = 2 ^ k - 1 := by
    rw [UInt32.toNat_sub_of_le, halign]
    · rfl
    · rw [UInt32.le_iff_toNat_le, halign]
      exact hpos
  rw [MSM_MEDIA_ALIGN, and_not_mask _ _ hmask, UInt32.toNat_add, hmask]

theorem roundUp_bounds (ha : 0 < k) : n ≤ roundUp n k ∧ roundUp n k < n + k := by
  unfold roundUp
  have hdiv := Nat.div_add_mod (n + (k - 1)) k
  have hmod := Nat.mod_lt (n + (k - 1)) ha
  rw [Nat.mul_comm] at hdiv
  omega

/-- Behind a positive number, the conversions to `unsigned int` lose nothing. -/
theorem toNat_half (x : Int32) (hx : 0 ≤ x) :
    (x >>> 1).toUInt32.toNat = x.toNatClampNeg / 2 := by
  have hmsb : x.toBitVec.msb = false := by
    have hint : 0 ≤ x.toBitVec.toInt := Int32.le_iff_toInt_le.mp hx
    rw [BitVec.msb_eq_toInt]
    exact decide_eq_false (by omega)
  have hshift : (x >>> 1).toBitVec = x.toBitVec.sshiftRight 1 := rfl
  rw [← Int32.toNat_toUInt32_of_le hx]
  show (x >>> 1).toBitVec.toNat = x.toBitVec.toNat / 2
  rw [hshift, BitVec.sshiftRight_eq_of_msb_false hmsb, BitVec.toNat_ushiftRight]
  rfl

theorem toNat_succ (x : Int32) (hx : 0 < x) (hmax : x.toNatClampNeg + 1 < 2 ^ 31) :
    0 ≤ x + 1 ∧ (x + 1).toNatClampNeg = x.toNatClampNeg + 1 := by
  have hint : 0 < x.toInt := Int32.lt_iff_toInt_lt.mp hx
  have hnat : (x.toNatClampNeg : Int) = x.toInt := by
    rw [← Int32.toNat_toInt]
    omega
  have hadd : (x + 1).toInt = x.toInt + 1 := by
    rw [Int32.toInt_add]
    show (x.toInt + 1).bmod (2 ^ 32) = _
    rw [Int.bmod_eq_of_le] <;> omega
  constructor
  · rw [Int32.le_iff_toInt_le, hadd]
    show (0 : Int) ≤ _
    omega
  · rw [← Int32.toNat_toInt, hadd]
    omega

theorem ne_zero_of_pos (hwidth : 0 < width) : width ≠ 0 := by
  rintro rfl
  exact absurd hwidth (by decide)

theorem toNat_lt (hwidth : 0 < width) : width.toUInt32.toNat = width.toNatClampNeg ∧
    width.toNatClampNeg < 2 ^ 31 :=
  ⟨Int32.toNat_toUInt32_of_le (Int32.le_of_lt hwidth), width.toNatClampNeg_lt⟩

/-- No alignment of a number below `2 ^ 31` wraps around. -/
theorem toNat_align_small (sz align : UInt32) (k : Nat) (halign : align.toNat = 2 ^ k)
    (hk : k ≤ 31) (hsz : sz.toNat < 2 ^ 31) :
    (MSM_MEDIA_ALIGN sz align).toNat = roundUp sz.toNat (2 ^ k) := by
  have hpow : 2 ^ k ≤ 2 ^ 31 := Nat.pow_le_pow_right Nat.two_pos hk
  rw [toNat_align sz align k halign, Nat.mod_eq_of_lt (by omega), roundUp]

theorem toNat_stride (hfmt : color_fmt.views ≠ 0) (hwidth : 0 < width) :
    (VENUS_Y_STRIDE color_fmt width).toNat = roundUp width.toNatClampNeg 128 ∧
      VENUS_UV_STRIDE color_fmt width = VENUS_Y_STRIDE color_fmt width := by
  have hne := ne_zero_of_pos hwidth
  obtain ⟨hnat, hlt⟩ := toNat_lt hwidth
  have halign := toNat_align_small width.toUInt32 128 7 rfl (by omega) (by omega)
  rw [hnat] at halign
  unfold VENUS_Y_STRIDE VENUS_UV_STRIDE
  rw [if_neg hne]
  cases color_fmt with
  | other value => exact absurd rfl hfmt
  | _ => exact ⟨halign, rfl⟩

theorem toNat_y_sclines (hfmt : color_fmt.views ≠ 0) (hheight : 0 < height) :
    (VENUS_Y_SCANLINES color_fmt height).toNat = roundUp height.toNatClampNeg 32 := by
  obtain ⟨hnat, hlt⟩ := toNat_lt hheight
  have halign := toNat_align_small height.toUInt32 32 5 rfl (by omega) (by omega)
  rw [hnat] at halign
  unfold VENUS_Y_SCANLINES
  rw [if_neg (ne_zero_of_pos hheight)]
  cases color_fmt with
  | other value => exact absurd rfl hfmt
  | _ => exact halign

theorem toNat_uv_sclines (hfmt : color_fmt.views ≠ 0) (hheight : 0 < height)
    (hmax : height.toNatClampNeg + 1 < 2 ^ 31) :
    (VENUS_UV_SCANLINES color_fmt height).toNat =
      roundUp ((height.toNatClampNeg + 1) / 2) 16 := by
  obtain ⟨hle, hsucc⟩ := toNat_succ height hheight hmax
  have hhalf := toNat_half (height + 1) hle
  rw [hsucc] at hhalf
  have halign := toNat_align_small ((height + 1) >>> 1).toUInt32 16 4 rfl (by omega) (by omega)
  rw [hhalf] at halign
  unfold VENUS_UV_SCANLINES
  rw [if_neg (ne_zero_of_pos hheight)]
  cases color_fmt with
  | other value => exact absurd rfl hfmt
  | _ => exact halign

/-! ### Sizes -/

theorem align_page (sz : UInt32) : (MSM_MEDIA_ALIGN sz 4096).toNat =
    roundUp sz.toNat 4096 % 2 ^ 32 := by
  rw [toNat_align sz 4096 12 rfl, roundUp]
  omega

theorem roundUp_page_mod (n : Nat) : roundUp (n % 2 ^ 32) 4096 % 2 ^ 32 =
    roundUp n 4096 % 2 ^ 32 := by
  unfold roundUp
  omega

theorem toNat_single (y uv : UInt32) {m : Nat} (hy : y.toNat = n % 2 ^ 32)
    (huv : uv.toNat = m % 2 ^ 32) :
    (y + (uv + 4096) + 8 * 1024).toNat = (n + m + (4096 + 8 * 1024)) % 2 ^ 32 := by
  have hextra : (8 * 1024 : UInt32).toNat = 8 * 1024 := by decide
  have halign : (4096 : UInt32).toNat = 4096 := rfl
  rw [UInt32.toNat_add, UInt32.toNat_add, UInt32.toNat_add, hextra, halign, hy, huv]
  omega

theorem toNat_double (y uv : UInt32) {m : Nat} (hy : y.toNat = n % 2 ^ 32)
    (huv : uv.toNat = m % 2 ^ 32) :
    (2 * (y + (uv + 4096)) + 8 * 1024).toNat =
      (n + m + (n + m) + (2 * 4096 + 8 * 1024)) % 2 ^ 32 := by
  have hextra : (8 * 1024 : UInt32).toNat = 8 * 1024 := by decide
  have halign : (4096 : UInt32).toNat = 4096 := rfl
  have htwo : (2 : UInt32).toNat = 2 := rfl
  rw [UInt32.toNat_add, UInt32.toNat_mul, UInt32.toNat_add, UInt32.toNat_add, hextra, halign, htwo,
    hy, huv]
  omega

theorem toNat_planes (hfmt : color_fmt.views ≠ 0) (hwidth : 0 < width) (hheight : 0 < height)
    (hmax : height.toNatClampNeg + 1 < 2 ^ 31) :
    (VENUS_Y_STRIDE color_fmt width * VENUS_Y_SCANLINES color_fmt height).toNat =
      (yPlane width.toNatClampNeg height.toNatClampNeg).size % 2 ^ 32 ∧
    (VENUS_Y_STRIDE color_fmt width * VENUS_UV_SCANLINES color_fmt height).toNat =
      (uvPlane width.toNatClampNeg height.toNatClampNeg).size % 2 ^ 32 := by
  have hstride := (toNat_stride hfmt hwidth).1
  constructor
  · rw [UInt32.toNat_mul, hstride, toNat_y_sclines hfmt hheight]
    rfl
  · rw [UInt32.toNat_mul, hstride, toNat_uv_sclines hfmt hheight hmax]
    rfl

/-- The size is what the planes and the padding take, cut off at 32 bits. -/
theorem toNat_buffer_size (hfmt : color_fmt.views ≠ 0) (hwidth : 0 < width) (hheight : 0 < height)
    (hmax : height.toNatClampNeg + 1 < 2 ^ 31) :
    (VENUS_BUFFER_SIZE color_fmt width height).toNat =
      paddedSize color_fmt width.toNatClampNeg height.toNatClampNeg % 2 ^ 32 := by
  obtain ⟨hy, huv⟩ := toNat_planes hfmt hwidth hheight hmax
  unfold VENUS_BUFFER_SIZE
  rw [if_neg (by simp [ne_zero_of_pos hwidth, ne_zero_of_pos hheight]),
    (toNat_stride hfmt hwidth).2]
  cases color_fmt with
  | other value => exact absurd rfl hfmt
  | NV12_MVTB =>
    simp only [align_page, toNat_double _ _ hy huv, roundUp_page_mod]
    congr 2
    simp only [ColorFmts.views, planes, total, ColorFmts.padding]
    omega
  | _ =>
    simp only [align_page, toNat_single _ _ hy huv, roundUp_page_mod]
    rfl

theorem toNat_view2_offset (hwidth : 0 < width) (hheight : 0 < height)
    (hmax : height.toNatClampNeg + 1 < 2 ^ 31) :
    (VENUS_VIEW2_OFFSET .NV12_MVTB width height).toNat =
      total (planes width.toNatClampNeg height.toNatClampNeg 1) % 2 ^ 32 := by
  have hfmt : ColorFmts.NV12_MVTB.views ≠ 0 := (by decide : 2 ≠ 0)
  obtain ⟨hy, huv⟩ := toNat_planes hfmt hwidth hheight hmax
  unfold VENUS_VIEW2_OFFSET
  rw [if_neg (by simp [ne_zero_of_pos hwidth, ne_zero_of_pos hheight]),
    (toNat_stride hfmt hwidth).2]
  simp only [UInt32.toNat_add, hy, huv, planes, total]
  omega

/-! ### Samples -/

theorem planes_luma (hview : view < views) : (planes w h views)[2 * view]? = some (yPlane w h) := by
  induction views generalizing view with
  | zero => omega
  | succ views ih =>
    cases view with
    | zero => rfl
    | succ view => exact ih (by omega)

theorem planes_chroma (hview : view < views) :
    (planes w h views)[2 * view + 1]? = some (uvPlane w h) := by
  induction views generalizing view with
  | zero => omega
  | succ views ih =>
    cases view with
    | zero => rfl
    | succ view => exact ih (by omega)

/-- Every sample lies in a plane. -/
theorem exists_sample_offset {sample : Sample} (hs : sample.InImage views w h) :
    ∃ a, sample.offset (planes w h views) = some a := by
  have hw := (roundUp_bounds (n := w) (k := 128) (by omega)).1
  have hh := (roundUp_bounds (n := h) (k := 32) (by omega)).1
  have huv := (roundUp_bounds (n := (h + 1) / 2) (k := 16) (by omega)).1
  cases sample with
  | luma view x y =>
    obtain ⟨hview, hx, hy⟩ := hs
    exact exists_offset (planes_luma hview) (Nat.lt_of_lt_of_le hy hh) (Nat.lt_of_lt_of_le hx hw)
  | chroma view x y second =>
    obtain ⟨hview, hx, hy⟩ := hs
    refine exists_offset (planes_chroma hview) (Nat.lt_of_lt_of_le hy huv) ?_
    have heven : roundUp w 128 % 2 = 0 := by
      unfold roundUp
      omega
    have hsecond : second.toNat ≤ 1 := Bool.toNat_le second
    show 2 * x + second.toNat < roundUp w 128
    omega

/-- Two samples of an image never share a place. -/
theorem sample_offset_injective {sample sample' : Sample} {a : Nat} {ps : List Plane}
    (h : sample.offset ps = some a) (h' : sample'.offset ps = some a) : sample = sample' := by
  cases sample with
  | luma view x y =>
    cases sample' with
    | luma view' x' y' =>
      obtain ⟨hk, rfl, rfl⟩ := offset_injective h h'
      obtain rfl : view = view' := by omega
      rfl
    | chroma view' x' y' second' =>
      have hk := (offset_injective h h').1
      omega
  | chroma view x y second =>
    cases sample' with
    | luma view' x' y' =>
      have hk := (offset_injective h h').1
      omega
    | chroma view' x' y' second' =>
      obtain ⟨hk, rfl, hcol⟩ := offset_injective h h'
      obtain rfl : view = view' := by omega
      cases second <;> cases second' <;> simp only [Bool.toNat_true, Bool.toNat_false] at hcol
      · obtain rfl : x = x' := by omega
        rfl
      · omega
      · omega
      · obtain rfl : x = x' := by omega
        rfl

/-- The samples of an image have places of their own, and the buffer has room for all of them as
long as the size fits into 32 bits; from there on it is too small even for the planes. -/
theorem buffer_holds_image (hfmt : color_fmt.views ≠ 0) (hwidth : 0 < width) (hheight : 0 < height)
    (hmax : height.toNatClampNeg + 1 < 2 ^ 31) :
    let w := width.toNatClampNeg
    let h := height.toNatClampNeg
    let ps := planes w h color_fmt.views
    (∀ sample : Sample, sample.InImage color_fmt.views w h →
      ∃ a, sample.offset ps = some a ∧ a < total ps ∧
        ∀ sample' : Sample, sample'.offset ps = some a → sample' = sample) ∧
    (total ps ≤ (VENUS_BUFFER_SIZE color_fmt width height).toNat ↔
      paddedSize color_fmt w h < 2 ^ 32) := by
  intro w h ps
  refine ⟨fun sample hs => ?_, ?_⟩
  · obtain ⟨a, ha⟩ := exists_sample_offset hs
    refine ⟨a, ha, ?_, fun sample' h' => sample_offset_injective h' ha⟩
    cases sample <;> exact offset_lt_total ha
  · rw [toNat_buffer_size hfmt hwidth hheight hmax]
    show total ps ≤ paddedSize color_fmt w h % 2 ^ 32 ↔ _
    have hpadding : color_fmt.padding ≤ 2 * 4096 + 8 * 1024 := by
      unfold ColorFmts.padding
      cases color_fmt <;> simp [ColorFmts.views]
    obtain ⟨hle, hlt⟩ := roundUp_bounds (n := total ps + color_fmt.padding) (k := 4096) (by omega)
    have hpadded : paddedSize color_fmt w h =
      roundUp (total ps + color_fmt.padding) 4096 := rfl
    constructor
    · intro htotal
      -- what is left behind the wrap is less than the padding
      omega
    · intro hfits
      rw [Nat.mod_eq_of_lt hfits]
      omega

/-- A frame of 1920 x 1080 fits. -/
theorem buffer_holds_image_1080 :
    total (planes 1920 1080 1) ≤ (VENUS_BUFFER_SIZE .NV12 1920 1080).toNat := by
  have hfmt : ColorFmts.NV12.views ≠ 0 := by decide
  have hwidth : (0 : Int32) < 1920 := by decide
  have hheight : (0 : Int32) < 1080 := by decide
  exact (buffer_holds_image hfmt hwidth hheight (by decide)).2.mpr (by decide)

/-- The second view is the first one, `VENUS_VIEW2_OFFSET` bytes further. -/
theorem view2_offset (hwidth : 0 < width) (hheight : 0 < height)
    (hmax : height.toNatClampNeg + 1 < 2 ^ 31)
    (hfits : paddedSize .NV12_MVTB width.toNatClampNeg height.toNatClampNeg < 2 ^ 32)
    {row col : Nat} :
    Planes.offset (planes width.toNatClampNeg height.toNatClampNeg 2) (2 + n) row col =
      (Planes.offset (planes width.toNatClampNeg height.toNatClampNeg 1) n row col).map
        ((VENUS_VIEW2_OFFSET .NV12_MVTB width height).toNat + ·) := by
  have htwice : planes width.toNatClampNeg height.toNatClampNeg 2 =
      planes width.toNatClampNeg height.toNatClampNeg 1 ++
        planes width.toNatClampNeg height.toNatClampNeg 1 := rfl
  have hsmall : total (planes width.toNatClampNeg height.toNatClampNeg 1) < 2 ^ 32 := by
    have hle := (roundUp_bounds (n := total (planes width.toNatClampNeg height.toNatClampNeg 2) +
      ColorFmts.NV12_MVTB.padding) (k := 4096) (by omega)).1
    have hpadded : roundUp (total (planes width.toNatClampNeg height.toNatClampNeg 2) +
      ColorFmts.NV12_MVTB.padding) 4096 < 2 ^ 32 := hfits
    rw [htwice, total_append] at hle hpadded
    omega
  rw [toNat_view2_offset hwidth hheight hmax, Nat.mod_eq_of_lt hsmall, htwice]
  exact offset_append

end Apq8084.Media
