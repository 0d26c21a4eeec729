import UuAmfBridge.Dxva.ParameterSets

/-!
# The frame that the parameter sets describe

What a decoder makes of the sequence parameter set that `build_h264_parameter_sets` of
`src/dxva_bridge.c` writes: the size of the coded frame, and the window of it that is
shown.

The height is where two standards meet.  `pic_height_in_map_units_minus1` counts map
units, and a map unit of an interlaced stream is as high as two macroblocks of the frame.
`wFrameHeightInMbsMinus1` of DXVA counts macroblocks of the frame, and is written as it
is.  The crop is computed from the height that the parameter set then describes.

* `parseSps_build`: the parameter set that is read back.
* `display_size_cropped`: the window is the one of the decoder.
* `coded_frame_described_iff`: the coded frame is the one of the picture if and only if
  the stream is progressive.
-/

namespace UuAmfBridge

variable {readPic : List UInt8 → DxvaPicParams} {parameters : DecoderBuffer}
  {pic : DxvaPicParams}

/-- The sequence parameter set of a picture is read back with its cropping flag. -/
theorem parseSps_build (desc : VideoDecoderDesc) (hpic : parameters.picParams readPic = some pic) :
    parseSps (buildH264ParameterSets readPic parameters desc) =
      some (spsOf pic desc, decide ((spsOf pic desc).frameCrop ≠ ⟨0, 0, 0, 0⟩)) := by
  obtain ⟨zeros, hzeros, hbits⟩ := bytesBits_bwTrailing (writes_writeSps pic desc)
  obtain ⟨ppsBits, hppsWrites, -⟩ := writes_ppsBits pic
  obtain ⟨ppsZeros, hppsZeros, hppsBits⟩ := bytesBits_bwTrailing hppsWrites
  unfold buildH264ParameterSets
  rw [hpic]
  exact parseSps_eq (spsOf_wellFormed pic desc) hzeros hbits (getLast?_ne_zero hppsBits hppsZeros)

/-! ## The size in samples -/

/-- A number of macroblocks does not wrap. -/
theorem macroblocks_toNat (minus1 : UInt16) : (minus1.toUInt32 + 1).toNat = minus1.toNat + 1 := by
  have hbound := minus1.toNat_lt
  rw [UInt32.toNat_add, UInt16.toNat_toUInt32]
  show (minus1.toNat + 1) % 2 ^ 32 = _
  exact Nat.mod_eq_of_lt (by omega)

theorem codedWidth_toNat (pic : DxvaPicParams) (desc : VideoDecoderDesc) :
    (codedWidth pic).toNat = (spsOf pic desc).frameWidth := by
  have hbound := pic.wFrameWidthInMbsMinus1.toNat_lt
  have hmbs := macroblocks_toNat pic.wFrameWidthInMbsMinus1
  show ((pic.wFrameWidthInMbsMinus1.toUInt32 + 1) * 16).toNat =
    16 * (pic.wFrameWidthInMbsMinus1.toNat + 1)
  rw [toNat_mul_eq hmbs rfl (by show _ * 16 < _; omega), Nat.mul_comm]
  rfl

theorem codedHeight_toNat (pic : DxvaPicParams) (desc : VideoDecoderDesc) :
    (codedHeight pic).toNat = (spsOf pic desc).frameHeight := by
  have hbound := pic.wFrameHeightInMbsMinus1.toNat_lt
  have hmbs := macroblocks_toNat pic.wFrameHeightInMbsMinus1
  have hsamples : ((pic.wFrameHeightInMbsMinus1.toUInt32 + 1) * 16).toNat =
      (pic.wFrameHeightInMbsMinus1.toNat + 1) * 16 :=
    toNat_mul_eq hmbs rfl (by omega)
  show ((pic.wFrameHeightInMbsMinus1.toUInt32 + 1) * 16 *
      (if pic.frameMbsOnlyFlag then 1 else 2)).toNat =
    16 * ((if pic.frameMbsOnlyFlag then 1 else 2) * (pic.wFrameHeightInMbsMinus1.toNat + 1))
  cases pic.frameMbsOnlyFlag with
  | true =>
    rw [if_pos rfl, if_pos rfl, toNat_mul_eq hsamples rfl (by show _ * 1 < _; omega)]
    show (pic.wFrameHeightInMbsMinus1.toNat + 1) * 16 * 1 = _
    omega
  | false =>
    rw [if_neg Bool.false_ne_true, if_neg Bool.false_ne_true,
      toNat_mul_eq hsamples rfl (by show _ * 2 < _; omega)]
    show (pic.wFrameHeightInMbsMinus1.toNat + 1) * 16 * 2 = _
    omega

/-! ## The window -/

/-- The size of the decoder is no larger than the frame, and what is cropped is a whole
number of crop units of a stream in 4:2:0. -/
structure SampleSizeFits (sps : SeqParameterSet) (desc : VideoDecoderDesc) : Prop where
  width_le : desc.sampleWidth.toNat ≤ sps.frameWidth
  height_le : desc.sampleHeight.toNat ≤ sps.frameHeight
  width_unit : 2 ∣ sps.frameWidth - desc.sampleWidth.toNat
  height_unit : 2 * sps.fieldsPerMapUnit ∣ sps.frameHeight - desc.sampleHeight.toNat

/-- A crop offset is the number of units between two lengths. -/
theorem cropOffset_toNat {coded sample unit : UInt32} (hle : sample.toNat ≤ coded.toNat) :
    (if coded > sample then (coded - sample) / unit else 0).toNat =
      (coded.toNat - sample.toNat) / unit.toNat := by
  by_cases hlarger : coded > sample
  · rw [if_pos hlarger, UInt32.toNat_div, UInt32.toNat_sub_of_le _ _ hle]
  · have hequal : coded.toNat ≤ sample.toNat := UInt32.not_lt.mp hlarger
    rw [if_neg hlarger, Nat.sub_eq_zero_of_le hequal, Nat.zero_div]
    rfl

/-- The parameter set is one of a picture in 4:2:0, also for a monochrome one. -/
theorem spsOf_chromaArrayType (desc : VideoDecoderDesc)
    (hchroma : pic.chromaFormatIdc = 0 ∨ pic.chromaFormatIdc = 1) :
    (spsOf pic desc).chromaArrayType = 1 := by
  have hthree : decide (pic.chromaFormatIdc = 3) = false := by
    rcases hchroma with hzero | hone
    · rw [hzero]
      decide
    · rw [hone]
      decide
  show (if (decide (pic.chromaFormatIdc = 3) && pic.residualColourTransformFlag) = true then 0
    else if pic.chromaFormatIdc = 0 then 1 else pic.chromaFormatIdc.val) = 1
  rw [hthree, Bool.false_and, if_neg Bool.false_ne_true]
  rcases hchroma with hzero | hone
  · rw [if_pos hzero]
  · rw [if_neg (by rw [hone]; decide), hone]
    rfl

/-- The window of the parameter set is the size of the decoder. -/
theorem spsOf_displayWindow {desc : VideoDecoderDesc}
    (hchroma : pic.chromaFormatIdc = 0 ∨ pic.chromaFormatIdc = 1)
    (hfits : SampleSizeFits (spsOf pic desc) desc) :
    (spsOf pic desc).displayWindow =
      ⟨0, 0, desc.sampleWidth.toNat, desc.sampleHeight.toNat⟩ := by
  have hwidth := codedWidth_toNat pic desc
  have hheight := codedHeight_toNat pic desc
  have hformat := spsOf_chromaArrayType desc hchroma
  have hunitX : (spsOf pic desc).cropUnitX = 2 := if_pos (Or.inl hformat)
  have hunitY : (spsOf pic desc).cropUnitY = 2 * (spsOf pic desc).fieldsPerMapUnit := by
    unfold SeqParameterSet.cropUnitY
    rw [if_pos hformat]
  have hright : (cropRight pic desc).toNat =
      ((spsOf pic desc).frameWidth - desc.sampleWidth.toNat) / 2 := by
    rw [← hwidth]
    exact cropOffset_toNat (by rw [hwidth]; exact hfits.width_le)
  have hdivisor : ((2 : UInt32) * (if pic.frameMbsOnlyFlag then 1 else 2)).toNat =
      2 * (spsOf pic desc).fieldsPerMapUnit := by
    show _ = 2 * (if pic.frameMbsOnlyFlag then 1 else 2)
    cases pic.frameMbsOnlyFlag with
    | true => rfl
    | false => rfl
  have hbottom : (cropBottom pic desc).toNat =
      ((spsOf pic desc).frameHeight - desc.sampleHeight.toNat) /
        (2 * (spsOf pic desc).fieldsPerMapUnit) := by
    rw [← hheight, ← hdivisor]
    exact cropOffset_toNat (by rw [hheight]; exact hfits.height_le)
  have hcrop : (spsOf pic desc).frameCrop =
      ⟨0, (cropRight pic desc).toNat, 0, (cropBottom pic desc).toNat⟩ := rfl
  unfold SeqParameterSet.displayWindow
  rw [hunitX, hunitY, hcrop, hright, hbottom]
  simp only [Nat.mul_zero, Nat.zero_add]
  rw [Nat.mul_div_cancel' hfits.width_unit, Nat.mul_div_cancel' hfits.height_unit,
    Nat.sub_sub_self hfits.width_le, Nat.sub_sub_self hfits.height_le]

/-- The window that a decoder shows is the size that the application asked for, and there
is a crop only if there is something to crop. -/
theorem display_size_cropped (desc : VideoDecoderDesc)
    (hpic : parameters.picParams readPic = some pic)
    (hchroma : pic.chromaFormatIdc = 0 ∨ pic.chromaFormatIdc = 1) :
    ∃ sps cropping, parseSps (buildH264ParameterSets readPic parameters desc) =
        some (sps, cropping) ∧
      (cropping = true ↔ sps.frameCrop ≠ ⟨0, 0, 0, 0⟩) ∧
      (SampleSizeFits sps desc →
        sps.displayWindow = ⟨0, 0, desc.sampleWidth.toNat, desc.sampleHeight.toNat⟩) :=
  ⟨_, _, parseSps_build desc hpic, decide_eq_true_iff, spsOf_displayWindow hchroma⟩

/-- The frame of the progressive picture has eight rows more than 1080. -/
theorem sampleSizeFits_progressive :
    SampleSizeFits (spsOf progressivePicture ⟨1920, 1080⟩) ⟨1920, 1080⟩ :=
  ⟨by decide, by decide, by decide, by decide⟩

theorem progressive_picture_cropped :
    ∃ sps cropping, parseSps (buildH264ParameterSets readDxvaPicParams
        (pictureBuffer 0x50 0x3D) ⟨1920, 1080⟩) = some (sps, cropping) ∧
      (cropping = true ↔ sps.frameCrop ≠ ⟨0, 0, 0, 0⟩) ∧
      sps.displayWindow = ⟨0, 0, 1920, 1080⟩ := by
  obtain ⟨sps, cropping, hparsed, hcrop, hwindow⟩ :=
    display_size_cropped ⟨1920, 1080⟩ progressivePicture_read (Or.inr rfl)
  obtain ⟨rfl, -⟩ := Prod.mk.inj
    (Option.some.inj ((parseSps_build _ progressivePicture_read).symm.trans hparsed))
  exact ⟨_, _, hparsed, hcrop, hwindow sampleSizeFits_progressive⟩

/-! ## The coded frame -/

/-- The stream begins with a parameter set for a frame of the width and the height that
DXVA gives in macroblocks, and the crop is computed from that frame. -/
structure DescribesCodedFrame (stream : List UInt8) (pic : DxvaPicParams) : Prop where
  sps : ∃ sps cropping, parseSps stream = some (sps, cropping) ∧
    sps.picWidthInMbs = pic.wFrameWidthInMbsMinus1.toNat + 1 ∧
    sps.frameHeightInMbs = pic.wFrameHeightInMbsMinus1.toNat + 1
  codedWidth_eq : (codedWidth pic).toNat = 16 * (pic.wFrameWidthInMbsMinus1.toNat + 1)
  codedHeight_eq : (codedHeight pic).toNat = 16 * (pic.wFrameHeightInMbsMinus1.toNat + 1)

/-- The parameter sets describe the frame of the picture if and only if the picture is
from a progressive stream. -/
theorem coded_frame_described_iff (desc : VideoDecoderDesc)
    (hpic : parameters.picParams readPic = some pic) :
    DescribesCodedFrame (buildH264ParameterSets readPic parameters desc) pic ↔
      pic.frameMbsOnlyFlag = true := by
  have hparsed := parseSps_build desc hpic
  have hheight : (spsOf pic desc).frameHeightInMbs =
      (if pic.frameMbsOnlyFlag then 1 else 2) * (pic.wFrameHeightInMbsMinus1.toNat + 1) := rfl
  constructor
  · rintro ⟨⟨sps, cropping, hsps, -, hmbs⟩, -, -⟩
    obtain ⟨rfl, -⟩ := Prod.mk.inj (Option.some.inj (hparsed.symm.trans hsps))
    rw [hheight] at hmbs
    cases hframe : pic.frameMbsOnlyFlag with
    | true => rfl
    | false =>
      rw [hframe, if_neg Bool.false_ne_true] at hmbs
      omega
  · intro hframe
    rw [hframe, if_pos rfl, Nat.one_mul] at hheight
    refine ⟨⟨_, _, hparsed, rfl, hheight⟩, codedWidth_toNat pic desc, ?_⟩
    rw [codedHeight_toNat pic desc]
    show 16 * (spsOf pic desc).frameHeightInMbs = _
    rw [hheight]

theorem progressive_picture_described :
    DescribesCodedFrame
        (buildH264ParameterSets readDxvaPicParams (pictureBuffer 0x50 0x3D) ⟨1920, 1080⟩)
        progressivePicture ↔
      progressivePicture.frameMbsOnlyFlag = true :=
  coded_frame_described_iff ⟨1920, 1080⟩ progressivePicture_read

/-- A picture of an interlaced stream: the frame has 68 rows of macroblocks, and
`frame_mbs_only_flag` is not set. -/
def interlacedPicture : DxvaPicParams :=
  { progressivePicture with mbaffFrameFlag := true, frameMbsOnlyFlag := false }

theorem interlacedPicture_read :
    (pictureBuffer 0x52 0x2D).picParams readDxvaPicParams = some interlacedPicture := by
  decide +kernel

/-- It is described as one that is 136 macroblocks high. -/
theorem interlaced_picture_not_described :
    ∃ pic, (pictureBuffer 0x52 0x2D).picParams readDxvaPicParams = some pic ∧
      ¬DescribesCodedFrame
        (buildH264ParameterSets readDxvaPicParams (pictureBuffer 0x52 0x2D) ⟨1920, 1080⟩) pic := by
  refine ⟨interlacedPicture, interlacedPicture_read, ?_⟩
  rintro ⟨-, -, hheight⟩
  exact absurd hheight (by decide)

end UuAmfBridge
