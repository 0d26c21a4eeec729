import UuAmfBridge.Lib.NearestSampling
import UuAmfBridge.Dxva.Upload

/-!
# Scaling a frame down to the texture

A frame that is larger than the texture is scaled down by `upload_nv12` of
`src/dxva_bridge.c`.  The size of the result comes from two comparisons, one after the
other, and is made even; the rows of the frame are chosen by a division for each row, and
the columns by adding a step of 32 fractional bits for each column.

* `fittedSize_le`: the size fits into the frame and into the texture.
* `scaledCopies_eq`: the bytes that the two loops copy, from which row and which column.
* `scaling_tracks_nearest`: the rows are the nearest ones, and the columns are behind the
  nearest ones by at most one.
-/

namespace UuAmfBridge

/-! ## The size -/

/-- The division of `upload_nv12` that fits a length to a smaller one is exact. -/
theorem fittedLength_toNat {length part whole : UInt32} (h : part < whole) :
    (length.toUInt64 * part.toUInt64 / whole.toUInt64).toUInt32.toNat =
      length.toNat * part.toNat / whole.toNat := by
  have hpart : part.toNat < whole.toNat := h
  have hlength := length.toNat_lt
  have hproduct : length.toNat * part.toNat < 2 ^ 64 :=
    calc length.toNat * part.toNat
        ≤ length.toNat * 2 ^ 32 := Nat.mul_le_mul_left _ part.toNat_lt.le
      _ < 2 ^ 32 * 2 ^ 32 := Nat.mul_lt_mul_of_pos_right hlength (by decide)
  have hquotient : length.toNat * part.toNat / whole.toNat ≤ length.toNat := by
    apply Nat.div_le_of_le_mul
    rw [Nat.mul_comm]
    exact Nat.mul_le_mul_right _ hpart.le
  rw [UInt64.toNat_toUInt32, UInt64.toNat_div, UInt64.toNat_mul, UInt32.toNat_toUInt64,
    UInt32.toNat_toUInt64, UInt32.toNat_toUInt64, Nat.mod_eq_of_lt hproduct]
  exact Nat.mod_eq_of_lt (by omega)

/-- A size that is no larger than another one. -/
def SizeLe (size : UInt32 × UInt32) (width height : UInt32) : Prop :=
  size.1.toNat ≤ width.toNat ∧ size.2.toNat ≤ height.toNat

/-- The size before it is made even fits into the frame and into the texture. -/
theorem fittedSize_le (width height : UInt32) (desc : TextureDesc) :
    SizeLe (fittedSize width height desc) width height ∧
      SizeLe (fittedSize width height desc) desc.width desc.height := by
  have hshrinks : ∀ {a b c : Nat}, b < c → a * b / c ≤ a := by
    intro a b c hbc
    apply Nat.div_le_of_le_mul
    rw [Nat.mul_comm]
    exact Nat.mul_le_mul_right _ hbc.le
  unfold fittedSize SizeLe
  by_cases hwide : width > desc.width
  · have hwide' : desc.width.toNat < width.toNat := hwide
    have hnarrow : (height.toUInt64 * desc.width.toUInt64 / width.toUInt64).toUInt32.toNat =
        height.toNat * desc.width.toNat / width.toNat := fittedLength_toNat hwide
    have hlower : height.toNat * desc.width.toNat / width.toNat ≤ height.toNat := hshrinks hwide'
    simp only [if_pos hwide]
    generalize (height.toUInt64 * desc.width.toUInt64 / width.toUInt64).toUInt32 = lower
      at hnarrow ⊢
    by_cases hhigh : lower > desc.height
    · have hhigh' : desc.height.toNat < lower.toNat := hhigh
      have hsmaller : desc.height.toNat < height.toNat := by omega
      rw [if_pos hhigh, fittedLength_toNat hsmaller]
      have hfits : width.toNat * desc.height.toNat / height.toNat ≤ desc.width.toNat := by
        -- the narrowed height is above the height of the texture
        apply Nat.div_le_of_le_mul
        rw [hnarrow, Nat.lt_div_iff_mul_lt (by omega)] at hhigh'
        rw [Nat.mul_comm]
        omega
      exact ⟨⟨hshrinks hsmaller, hsmaller.le⟩, hfits, le_rfl⟩
    · have hhigh' : lower.toNat ≤ desc.height.toNat := UInt32.not_lt.mp hhigh
      rw [if_neg hhigh]
      refine ⟨⟨hwide'.le, ?_⟩, le_rfl, hhigh'⟩
      show lower.toNat ≤ height.toNat
      omega
  · have hwide' : width.toNat ≤ desc.width.toNat := UInt32.not_lt.mp hwide
    simp only [if_neg hwide]
    by_cases hhigh : height > desc.height
    · have hhigh' : desc.height.toNat < height.toNat := hhigh
      rw [if_pos hhigh, fittedLength_toNat hhigh]
      have hnarrow : width.toNat * desc.height.toNat / height.toNat ≤ width.toNat :=
        hshrinks hhigh'
      exact ⟨⟨hnarrow, hhigh'.le⟩, hnarrow.trans hwide', le_rfl⟩
    · rw [if_neg hhigh]
      exact ⟨⟨le_rfl, le_rfl⟩, hwide', UInt32.not_lt.mp hhigh⟩

/-- The output size is even. -/
theorem outputSize_even (width height : UInt32) (desc : TextureDesc) :
    (outputSize width height desc).1.toNat % 2 = 0 ∧
      (outputSize width height desc).2.toNat % 2 = 0 := by
  unfold outputSize
  simp only [and_not_one_toNat, Nat.mul_mod_right, and_self]

/-- The output size fits into the frame and into the texture. -/
theorem outputSize_le (width height : UInt32) (desc : TextureDesc) :
    SizeLe (outputSize width height desc) width height ∧
      SizeLe (outputSize width height desc) desc.width desc.height := by
  obtain ⟨⟨hwidth, hheight⟩, htargetWidth, htargetHeight⟩ := fittedSize_le width height desc
  unfold outputSize SizeLe
  simp only [and_not_one_toNat]
  omega

/-! ## Rows and columns -/

/-- `luma_step`. -/
def lumaStep (width outputWidth : UInt32) : UInt64 :=
  (width.toUInt64 <<< 32) / outputWidth.toUInt64

/-- `chroma_step`. -/
def chromaStep (width outputWidth : UInt32) : UInt64 :=
  ((width / 2).toUInt64 <<< 32) / (outputWidth / 2).toUInt64

/-- `source_x` in column `x` of a row. -/
def sourceX (step : UInt64) : Nat → UInt64
  | 0 => 0
  | x + 1 => sourceX step x + step

theorem sourceX_eq (step : UInt64) (x : Nat) : sourceX step x = UInt64.ofNat x * step := by
  induction x with
  | zero =>
    show (0 : UInt64) = 0 * step
    rw [UInt64.zero_mul]
  | succ x ih =>
    have hsucc : UInt64.ofNat (x + 1) = UInt64.ofNat x + 1 := UInt64.ofNat_add x 1
    rw [sourceX, ih, hsucc, UInt64.add_mul, UInt64.one_mul]

theorem scaledColumn_eq_sourceX (step : UInt64) (x : Nat) :
    scaledColumn step x = (sourceX step x >>> 32).toNat := by
  rw [sourceX_eq]
  rfl

/-- A step of `upload_nv12` in exact arithmetic. -/
theorem step_toNat (source target : UInt32) :
    ((source.toUInt64 <<< 32) / target.toUInt64).toNat =
      columnStep (2 ^ 32) source.toNat target.toNat := by
  have hsource := source.toNat_lt
  have hshift : (source.toUInt64 <<< 32).toNat = source.toNat * 2 ^ 32 := by
    rw [UInt64.toNat_shiftLeft, UInt32.toNat_toUInt64]
    show source.toNat <<< 32 % 2 ^ 64 = _
    rw [Nat.shiftLeft_eq, Nat.mod_eq_of_lt (by omega)]
  rw [UInt64.toNat_div, hshift, UInt32.toNat_toUInt64]
  rfl

/-- The column that the loops take is the one of exact fixed-point steps. -/
theorem scaledColumn_toNat {source target : UInt32} {x : Nat} (hx : x < target.toNat) :
    scaledColumn ((source.toUInt64 <<< 32) / target.toUInt64) x =
      steppedColumn (2 ^ 32) source.toNat target.toNat x := by
  have htarget := target.toNat_lt
  have hsource := source.toNat_lt
  have hposition : x * columnStep (2 ^ 32) source.toNat target.toNat ≤ source.toNat * 2 ^ 32 :=
    position_le hx.le
  unfold scaledColumn steppedColumn
  rw [UInt64.toNat_shiftRight, UInt64.toNat_mul, step_toNat,
    UInt64.toNat_ofNat_of_lt' (by show x < 2 ^ 64; omega), Nat.mod_eq_of_lt (by omega)]
  exact Nat.shiftRight_eq_div_pow _ _

/-- The row that the loops take is the exact one. -/
theorem scaledRow_toNat {source target : UInt32} {y : Nat} (hy : y < target.toNat) :
    (UInt64.ofNat y * source.toUInt64 / target.toUInt64).toNat =
      y * source.toNat / target.toNat := by
  have hsource := source.toNat_lt
  have htarget := target.toNat_lt
  have hproduct : y * source.toNat < 2 ^ 64 :=
    calc y * source.toNat
        ≤ 2 ^ 32 * source.toNat := Nat.mul_le_mul_right _ (by omega)
      _ < 2 ^ 32 * 2 ^ 32 := Nat.mul_lt_mul_of_pos_left hsource (by decide)
  rw [UInt64.toNat_div, UInt64.toNat_mul, UInt64.toNat_ofNat_of_lt' (by show y < 2 ^ 64; omega),
    UInt32.toNat_toUInt64, UInt32.toNat_toUInt64, Nat.mod_eq_of_lt hproduct]

/-- The column of the luma byte that a row of the loops takes for column `x`. -/
def lumaColumn (width outputWidth : UInt32) (x : Nat) : Nat :=
  (sourceX (lumaStep width outputWidth) x >>> 32).toNat

/-- `source_pair`. -/
def chromaPair (width outputWidth : UInt32) (x : Nat) : Nat :=
  (sourceX (chromaStep width outputWidth) x >>> 32).toNat

/-- The row of luma bytes that the loop takes for row `y`. -/
def lumaRow (height outputHeight : UInt32) (y : Nat) : Nat :=
  (UInt64.ofNat y * height.toUInt64 / outputHeight.toUInt64).toNat

/-- The row of chroma bytes that the loop takes for row `y`. -/
def chromaRow (height outputHeight : UInt32) (y : Nat) : Nat :=
  (UInt64.ofNat y * (height / 2).toUInt64 / (outputHeight / 2).toUInt64).toNat

/-! ## The copies -/

/-- Where the bytes of a scaled frame come from: a row and a column of the luma plane, and
a row and a pair of the chroma plane. -/
structure Sampling where
  lumaRow : Nat → Nat
  lumaColumn : Nat → Nat
  chromaRow : Nat → Nat
  chromaPair : Nat → Nat

/-- The sampling of `upload_nv12`. -/
def uploadSampling (width height : UInt32) (output : UInt32 × UInt32) : Sampling where
  lumaRow := lumaRow height output.2
  lumaColumn := lumaColumn width output.1
  chromaRow := chromaRow height output.2
  chromaPair := chromaPair width output.1

/-- The single bytes that are copied for a sampling. -/
def Sampling.copies (sampling : Sampling) (output : UInt32 × UInt32) (width height : UInt32)
    (desc : TextureDesc) : List MemCopy :=
  ((List.range output.2.toNat).flatMap fun y =>
    (List.range output.1.toNat).map fun x =>
      ⟨y * desc.width.toNat + x,
        sampling.lumaRow y * width.toNat + sampling.lumaColumn x, 1⟩) ++
  (List.range (output.2 / 2).toNat).flatMap fun y =>
    (List.range (output.1 / 2).toNat).flatMap fun x =>
      let target := (desc.height + UInt32.ofNat y).toNat * desc.width.toNat
      let source := width.toNat * height.toNat + sampling.chromaRow y * width.toNat
      [⟨target + x * 2, source + sampling.chromaPair x * 2, 1⟩,
        ⟨target + x * 2 + 1, source + sampling.chromaPair x * 2 + 1, 1⟩]

theorem scaledCopies_eq (width height : UInt32) (desc : TextureDesc) :
    scaledCopies width height desc =
      (uploadSampling width height (outputSize width height desc)).copies
        (outputSize width height desc) width height desc := by
  unfold scaledCopies
  simp only [scaledColumn_eq_sourceX]
  rfl

/-- A byte of a luma row, or one of the two bytes of a chroma pair. -/
theorem Sampling.mem_copies {sampling : Sampling} {output : UInt32 × UInt32}
    {width height : UInt32} {desc : TextureDesc} {copy : MemCopy} :
    copy ∈ sampling.copies output width height desc ↔
      (∃ y < output.2.toNat, ∃ x < output.1.toNat,
        copy = ⟨y * desc.width.toNat + x,
          sampling.lumaRow y * width.toNat + sampling.lumaColumn x, 1⟩) ∨
      ∃ y < output.2.toNat / 2, ∃ x < output.1.toNat / 2, ∃ low < 2,
        copy = ⟨(desc.height + UInt32.ofNat y).toNat * desc.width.toNat + x * 2 + low,
          width.toNat * height.toNat + sampling.chromaRow y * width.toNat +
            sampling.chromaPair x * 2 + low, 1⟩ := by
  have hhalf : ∀ value : UInt32, (value / 2).toNat = value.toNat / 2 :=
    fun value => UInt32.toNat_div value 2
  have hlow : ∀ P : Nat → Prop, (∃ low < 2, P low) ↔ P 0 ∨ P 1 := by
    intro P
    constructor
    · rintro ⟨low, hlt, h⟩
      obtain rfl | rfl : low = 0 ∨ low = 1 := by omega
      · exact Or.inl h
      · exact Or.inr h
    · rintro (h | h)
      · exact ⟨0, by decide, h⟩
      · exact ⟨1, by decide, h⟩
  unfold Sampling.copies
  simp only [List.mem_append, List.mem_flatMap, List.mem_map, List.mem_range, List.mem_cons,
    List.not_mem_nil, or_false, hhalf, hlow, Nat.add_zero, eq_comm]

section Texture

variable {sampling : Sampling} {output : UInt32 × UInt32} {width height : UInt32}
  {desc : TextureDesc}

/-- A row of chroma bytes behind the luma bytes does not wrap. -/
theorem chromaRow_toNat (hrows : desc.height.toNat + desc.height.toNat / 2 < 2 ^ 32) {y : Nat}
    (hy : y < desc.height.toNat / 2) :
    (desc.height + UInt32.ofNat y).toNat = desc.height.toNat + y := by
  rw [UInt32.toNat_add, toNat_ofNat_eq (by omega)]
  exact Nat.mod_eq_of_lt (by omega)

end Texture

/-! ## The nearest samples -/

/-- The samples of a row or a column of `source` for one of `target`: never ahead of the
exact position, and behind it by at most one. -/
structure NearestColumns (source target : Nat) (column : Nat → Nat) : Prop where
  le_exact : ∀ x < target, column x ≤ x * source / target
  exact_le : ∀ x < target, x * source / target - 1 ≤ column x

/-- The sampling of a scaled frame of the size `output`. -/
structure Sampling.Nearest (sampling : Sampling) (width height : Nat)
    (output : UInt32 × UInt32) : Prop where
  lumaColumn : NearestColumns width output.1.toNat sampling.lumaColumn
  lumaColumn_zero : sampling.lumaColumn 0 = 0
  lumaColumn_mono : ∀ x y, x ≤ y → y < output.1.toNat →
    sampling.lumaColumn x ≤ sampling.lumaColumn y
  lumaColumn_le : ∀ x < output.1.toNat, sampling.lumaColumn x ≤ width - 1
  chromaPair : NearestColumns (width / 2) (output.1.toNat / 2) sampling.chromaPair
  lumaRow : ∀ y < output.2.toNat, sampling.lumaRow y = y * height / output.2.toNat
  chromaRow : ∀ y < output.2.toNat / 2,
    sampling.chromaRow y = y * (height / 2) / (output.2.toNat / 2)

theorem lumaColumn_toNat {width outputWidth : UInt32} {x : Nat} (hx : x < outputWidth.toNat) :
    lumaColumn width outputWidth x = steppedColumn (2 ^ 32) width.toNat outputWidth.toNat x := by
  unfold lumaColumn lumaStep
  rw [← scaledColumn_eq_sourceX, scaledColumn_toNat hx]

theorem chromaPair_toNat {width outputWidth : UInt32} {x : Nat}
    (hx : x < outputWidth.toNat / 2) :
    chromaPair width outputWidth x =
      steppedColumn (2 ^ 32) (width.toNat / 2) (outputWidth.toNat / 2) x := by
  have hhalf : ∀ value : UInt32, (value / 2).toNat = value.toNat / 2 :=
    fun value => UInt32.toNat_div value 2
  unfold chromaPair chromaStep
  rw [← scaledColumn_eq_sourceX, scaledColumn_toNat (by rw [hhalf]; exact hx), hhalf, hhalf]

theorem nearestColumns_stepped {source target : Nat} (htarget : target < 2 ^ 32) :
    NearestColumns source target (steppedColumn (2 ^ 32) source target) where
  le_exact x hx := steppedColumn_le (by decide) (by omega)
  exact_le x hx := by
    have hbehind := @le_steppedColumn_succ (2 ^ 32) source target x (by omega) (by omega)
    omega

theorem NearestColumns.congr {source target : Nat} {column other : Nat → Nat}
    (h : NearestColumns source target other) (hsame : ∀ x < target, column x = other x) :
    NearestColumns source target column where
  le_exact x hx := by
    rw [hsame x hx]
    exact h.le_exact x hx
  exact_le x hx := by
    rw [hsame x hx]
    exact h.exact_le x hx

/-- The sampling of `upload_nv12` takes the nearest samples. -/
theorem uploadSampling_nearest (width height : UInt32) (desc : TextureDesc) :
    (uploadSampling width height (outputSize width height desc)).Nearest width.toNat
      height.toNat (outputSize width height desc) := by
  obtain ⟨⟨hwidth, -⟩, -⟩ := outputSize_le width height desc
  generalize outputSize width height desc = output at hwidth ⊢
  have hbound := output.1.toNat_lt
  have hhalf : ∀ value : UInt32, (value / 2).toNat = value.toNat / 2 :=
    fun value => UInt32.toNat_div value 2
  have hcolumn : ∀ x < output.1.toNat, lumaColumn width output.1 x =
      steppedColumn (2 ^ 32) width.toNat output.1.toNat x := fun x hx => lumaColumn_toNat hx
  constructor
  · exact (nearestColumns_stepped hbound).congr hcolumn
  · show ((0 : UInt64) >>> 32).toNat = 0
    decide
  · intro x y hxy hy
    show lumaColumn width output.1 x ≤ lumaColumn width output.1 y
    rw [hcolumn x (by omega), hcolumn y hy]
    exact steppedColumn_mono hxy
  · intro x hx
    show lumaColumn width output.1 x ≤ _
    rw [hcolumn x hx]
    have hlt := @steppedColumn_lt (2 ^ 32) width.toNat output.1.toNat x (by decide) (by omega) hx
    omega
  · exact (nearestColumns_stepped (by omega)).congr fun x hx => chromaPair_toNat hx
  · intro y hy
    exact scaledRow_toNat hy
  · intro y hy
    show (UInt64.ofNat y * (height / 2).toUInt64 / (output.2 / 2).toUInt64).toNat = _
    rw [scaledRow_toNat (by rw [hhalf]; exact hy), hhalf, hhalf]

/-- A frame is scaled down to the size that `upload_nv12` chooses by nearest samples. -/
theorem scaling_tracks_nearest (width height : UInt32) (desc : TextureDesc) :
    scaledCopies width height desc =
        (uploadSampling width height (outputSize width height desc)).copies
          (outputSize width height desc) width height desc ∧
      (uploadSampling width height (outputSize width height desc)).Nearest width.toNat
        height.toNat (outputSize width height desc) :=
  ⟨scaledCopies_eq width height desc, uploadSampling_nearest width height desc⟩

end UuAmfBridge
