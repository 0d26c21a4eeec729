import UuAmfBridge.Lib.H264Syntax
import UuAmfBridge.Dxva.BitWriter

/-!
# The parameter sets of the decoder bridge

`build_h264_parameter_sets` and `append_nal` of `src/dxva_bridge.c`: the picture
parameters of DXVA have no parameter sets of their own, so the bridge writes a sequence
parameter set and a picture parameter set in front of the slices.

The functions are split where the syntax has a group of fields.  For each of them a
`writes_` lemma gives the bits of the group, and `parameter_sets_parsed` puts them
together: the syntax of H.264 recovers `spsOf` and `ppsOf`, the parameter sets that the
picture parameters describe.

The layout of `DXVA_PicParams_H264` comes from the Windows headers and is not modelled:
`readPic` takes the fields out of the bytes.
-/

namespace UuAmfBridge

/-- The fields of `DXVA_PicParams_H264` that the bridge reads. -/
structure DxvaPicParams where
  wFrameWidthInMbsMinus1 : UInt16
  wFrameHeightInMbsMinus1 : UInt16
  numRefFrames : UInt8
  mbaffFrameFlag : Bool
  residualColourTransformFlag : Bool
  chromaFormatIdc : Fin 4
  constrainedIntraPredFlag : Bool
  weightedPredFlag : Bool
  weightedBipredIdc : Fin 4
  frameMbsOnlyFlag : Bool
  transform8x8ModeFlag : Bool
  bitDepthLumaMinus8 : UInt8
  bitDepthChromaMinus8 : UInt8
  picInitQsMinus26 : Int8
  chromaQpIndexOffset : Int8
  secondChromaQpIndexOffset : Int8
  picInitQpMinus26 : Int8
  numRefIdxL0ActiveMinus1 : UInt8
  numRefIdxL1ActiveMinus1 : UInt8
  log2MaxFrameNumMinus4 : UInt8
  picOrderCntType : UInt8
  log2MaxPicOrderCntLsbMinus4 : UInt8
  deltaPicOrderAlwaysZeroFlag : UInt8
  direct8x8InferenceFlag : UInt8
  entropyCodingModeFlag : UInt8
  picOrderPresentFlag : UInt8
  numSliceGroupsMinus1 : UInt8
  deblockingFilterControlPresentFlag : UInt8
  redundantPicCntPresentFlag : UInt8
  deriving Repr, DecidableEq, Inhabited

/-- `sizeof(DXVA_PicParams_H264)`. -/
def sizeofDxvaPicParams : Nat := 1040

/-- The fields of `D3D11_VIDEO_DECODER_DESC` that the bridge reads. -/
structure VideoDecoderDesc where
  sampleWidth : UInt32
  sampleHeight : UInt32
  deriving Repr, DecidableEq

/-- `DecoderBuffer`; `data` has `capacity` bytes. -/
structure DecoderBuffer where
  data : Option (List UInt8) := none
  capacity : UInt32 := 0
  offset : UInt32 := 0
  size : UInt32 := 0
  deriving Repr, DecidableEq

/-! ## The sequence parameter set -/

def codedWidth (pic : DxvaPicParams) : UInt32 := (pic.wFrameWidthInMbsMinus1.toUInt32 + 1) * 16

def codedHeight (pic : DxvaPicParams) : UInt32 :=
  (pic.wFrameHeightInMbsMinus1.toUInt32 + 1) * 16 * (if pic.frameMbsOnlyFlag then 1 else 2)

def cropRight (pic : DxvaPicParams) (desc : VideoDecoderDesc) : UInt32 :=
  if codedWidth pic > desc.sampleWidth then (codedWidth pic - desc.sampleWidth) / 2 else 0

def cropBottom (pic : DxvaPicParams) (desc : VideoDecoderDesc) : UInt32 :=
  if codedHeight pic > desc.sampleHeight then
    (codedHeight pic - desc.sampleHeight) / (2 * (if pic.frameMbsOnlyFlag then 1 else 2))
  else 0

/-- `profile_idc`, the constraint flags, `level_idc` and `seq_parameter_set_id`. -/
def writeProfile (sps : BitWriter) : BitWriter :=
  let sps := bwBits sps 100 8
  let sps := bwBits sps 0 8
  let sps := bwBits sps 51 8
  bwUe sps 0

/-- `chroma_format_idc`, or 4:2:0 where it is zero. -/
def chromaFormatIdc (pic : DxvaPicParams) : UInt32 :=
  if pic.chromaFormatIdc ≠ 0 then UInt32.ofNat pic.chromaFormatIdc else 1

def writeChromaFormat (pic : DxvaPicParams) (sps : BitWriter) : BitWriter :=
  let sps := bwUe sps (chromaFormatIdc pic)
  let sps := if pic.chromaFormatIdc = 3 then bwBit sps pic.residualColourTransformFlag.toUInt32
    else sps
  let sps := bwUe sps pic.bitDepthLumaMinus8.toUInt32
  let sps := bwUe sps pic.bitDepthChromaMinus8.toUInt32
  let sps := bwBit sps 0
  bwBit sps 0

def writePicOrderCnt (pic : DxvaPicParams) (sps : BitWriter) : BitWriter :=
  if pic.picOrderCntType = 0 then bwUe sps pic.log2MaxPicOrderCntLsbMinus4.toUInt32
  else if pic.picOrderCntType = 1 then
    let sps := bwBit sps pic.deltaPicOrderAlwaysZeroFlag.toUInt32
    let sps := bwSe sps 0
    let sps := bwSe sps 0
    bwUe sps 0
  else sps

/-- The size of the frame and the flags behind it. -/
def writeFrameSize (pic : DxvaPicParams) (sps : BitWriter) : BitWriter :=
  let sps := bwUe sps pic.numRefFrames.toUInt32
  let sps := bwBit sps 0
  let sps := bwUe sps pic.wFrameWidthInMbsMinus1.toUInt32
  let sps := bwUe sps pic.wFrameHeightInMbsMinus1.toUInt32
  let sps := bwBit sps pic.frameMbsOnlyFlag.toUInt32
  let sps := if !pic.frameMbsOnlyFlag then bwBit sps pic.mbaffFrameFlag.toUInt32 else sps
  bwBit sps pic.direct8x8InferenceFlag.toUInt32

def writeFrameCrop (pic : DxvaPicParams) (desc : VideoDecoderDesc) (sps : BitWriter) :
    BitWriter :=
  let cropped : Bool := cropRight pic desc ≠ 0 || cropBottom pic desc ≠ 0
  let sps := bwBit sps cropped.toUInt32
  if cropped then
    let sps := bwUe sps 0
    let sps := bwUe sps (cropRight pic desc)
    let sps := bwUe sps 0
    bwUe sps (cropBottom pic desc)
  else sps

/-- The sequence parameter set of `build_h264_parameter_sets`, up to the trailing
bits. -/
def writeSps (pic : DxvaPicParams) (desc : VideoDecoderDesc) (sps : BitWriter) : BitWriter :=
  let sps := writeProfile sps
  let sps := writeChromaFormat pic sps
  let sps := bwUe sps pic.log2MaxFrameNumMinus4.toUInt32
  let sps := bwUe sps pic.picOrderCntType.toUInt32
  let sps := writePicOrderCnt pic sps
  let sps := writeFrameSize pic sps
  let sps := writeFrameCrop pic desc sps
  bwBit sps 0

/-! ## The picture parameter set -/

/-- The picture parameter set of `build_h264_parameter_sets`, up to the trailing bits. -/
def writePps (pic : DxvaPicParams) (pps : BitWriter) : BitWriter :=
  let pps := bwUe pps 0
  let pps := bwUe pps 0
  let pps := bwBit pps pic.entropyCodingModeFlag.toUInt32
  let pps := bwBit pps pic.picOrderPresentFlag.toUInt32
  let pps := bwUe pps pic.numSliceGroupsMinus1.toUInt32
  let pps := bwUe pps pic.numRefIdxL0ActiveMinus1.toUInt32
  let pps := bwUe pps pic.numRefIdxL1ActiveMinus1.toUInt32
  let pps := bwBit pps pic.weightedPredFlag.toUInt32
  let pps := bwBits pps (UInt32.ofNat pic.weightedBipredIdc) 2
  let pps := bwSe pps pic.picInitQpMinus26.toInt32
  let pps := bwSe pps pic.picInitQsMinus26.toInt32
  let pps := bwSe pps pic.chromaQpIndexOffset.toInt32
  let pps := bwBit pps pic.deblockingFilterControlPresentFlag.toUInt32
  let pps := bwBit pps pic.constrainedIntraPredFlag.toUInt32
  let pps := bwBit pps pic.redundantPicCntPresentFlag.toUInt32
  let pps := bwBit pps pic.transform8x8ModeFlag.toUInt32
  let pps := bwBit pps 0
  bwSe pps pic.secondChromaQpIndexOffset.toInt32

/-! ## Both in front of the slices -/

/-- `append_nal`; `escape` is its loop. -/
def appendNal (output : List UInt8) (header : UInt8) (writer : BitWriter) : List UInt8 :=
  output ++ (startCode ++ header :: escape 0 writer.bytes)

/-- The guard of `build_h264_parameter_sets`; the source compares in `size_t`. -/
def DecoderBuffer.picParams (readPic : List UInt8 → DxvaPicParams) (parameters : DecoderBuffer) :
    Option DxvaPicParams :=
  match parameters.data with
  | none => none
  | some data =>
      if parameters.size.toUInt64 < UInt64.ofNat sizeofDxvaPicParams ∨
          parameters.offset.toUInt64 >
            parameters.capacity.toUInt64 - UInt64.ofNat sizeofDxvaPicParams then none
      else some (readPic (data.drop parameters.offset.toNat))

/-- `build_h264_parameter_sets`, the bytes of `output` up to the offset it returns. -/
def buildH264ParameterSets (readPic : List UInt8 → DxvaPicParams) (parameters : DecoderBuffer)
    (desc : VideoDecoderDesc) : List UInt8 :=
  match parameters.picParams readPic with
  | none => []
  | some pic =>
      let sps := bwTrailing (writeSps pic desc {})
      let pps := bwTrailing (writePps pic {})
      let output := appendNal [] 0x67 sps
      appendNal output 0x68 pps

/-! ## What the picture parameters describe -/

/-- The bit of a flag that DXVA keeps in a byte. -/
def flagOf (byte : UInt8) : Bool := byte.toNat.testBit 0

/-- The sequence parameter set of a picture: the fields the bridge has no input for are
those of a stream without field order cycles, and a field that the syntax leaves out has
its inferred value. -/
def spsOf (pic : DxvaPicParams) (desc : VideoDecoderDesc) : SeqParameterSet where
  profileIdc := 100
  constraintFlags := 0
  levelIdc := 51
  seqParameterSetId := 0
  chromaFormat := {
    chromaFormatIdc := if pic.chromaFormatIdc = 0 then 1 else pic.chromaFormatIdc
    separateColourPlaneFlag := pic.chromaFormatIdc = 3 && pic.residualColourTransformFlag
    bitDepthLumaMinus8 := pic.bitDepthLumaMinus8.toNat
    bitDepthChromaMinus8 := pic.bitDepthChromaMinus8.toNat
    qpprimeYZeroTransformBypassFlag := false }
  log2MaxFrameNumMinus4 := pic.log2MaxFrameNumMinus4.toNat
  picOrderCntType := pic.picOrderCntType.toNat
  picOrderCnt :=
    if pic.picOrderCntType = 0 then .lsb pic.log2MaxPicOrderCntLsbMinus4.toNat
    else if pic.picOrderCntType = 1 then .cycle (flagOf pic.deltaPicOrderAlwaysZeroFlag) 0 0 []
    else .absent
  maxNumRefFrames := pic.numRefFrames.toNat
  gapsInFrameNumValueAllowedFlag := false
  picWidthInMbsMinus1 := pic.wFrameWidthInMbsMinus1.toNat
  picHeightInMapUnitsMinus1 := pic.wFrameHeightInMbsMinus1.toNat
  frameMbsOnlyFlag := pic.frameMbsOnlyFlag
  mbAdaptiveFrameFieldFlag := !pic.frameMbsOnlyFlag && pic.mbaffFrameFlag
  direct8x8InferenceFlag := flagOf pic.direct8x8InferenceFlag
  frameCrop := ⟨0, (cropRight pic desc).toNat, 0, (cropBottom pic desc).toNat⟩

/-- The picture parameter set of a picture without slice groups. -/
def ppsOf (pic : DxvaPicParams) : PicParameterSet where
  picParameterSetId := 0
  seqParameterSetId := 0
  entropyCodingModeFlag := flagOf pic.entropyCodingModeFlag
  bottomFieldPicOrderInFramePresentFlag := flagOf pic.picOrderPresentFlag
  numRefIdxL0DefaultActiveMinus1 := pic.numRefIdxL0ActiveMinus1.toNat
  numRefIdxL1DefaultActiveMinus1 := pic.numRefIdxL1ActiveMinus1.toNat
  weightedPredFlag := pic.weightedPredFlag
  weightedBipredIdc := pic.weightedBipredIdc
  picInitQpMinus26 := pic.picInitQpMinus26.toInt
  picInitQsMinus26 := pic.picInitQsMinus26.toInt
  chromaQpIndexOffset := pic.chromaQpIndexOffset.toInt
  deblockingFilterControlPresentFlag := flagOf pic.deblockingFilterControlPresentFlag
  constrainedIntraPredFlag := pic.constrainedIntraPredFlag
  redundantPicCntPresentFlag := flagOf pic.redundantPicCntPresentFlag
  transform8x8ModeFlag := pic.transform8x8ModeFlag
  secondChromaQpIndexOffset := pic.secondChromaQpIndexOffset.toInt

/-- The sequence parameter set of a picture has a value in every field the syntax has, and
in no other. -/
theorem spsOf_wellFormed (pic : DxvaPicParams) (desc : VideoDecoderDesc) :
    (spsOf pic desc).WellFormed where
  profile := by
    show 100 ∈ highProfiles
    decide
  constraints := by
    show 0 < 2 ^ 8
    decide
  level := by
    show 51 < 2 ^ 8
    decide
  separateColourPlane := by
    intro hformat
    show (decide (pic.chromaFormatIdc = 3) && pic.residualColourTransformFlag) = false
    have hthree : pic.chromaFormatIdc ≠ 3 := by
      intro hthree
      apply hformat
      show (if pic.chromaFormatIdc = 0 then 1 else pic.chromaFormatIdc.val) = 3
      rw [hthree]
      rfl
    rw [decide_eq_false hthree, Bool.false_and]
  picOrderCnt := by
    show PicOrderCnt.Matches pic.picOrderCntType.toNat
      (if pic.picOrderCntType = 0 then _ else if pic.picOrderCntType = 1 then _ else _)
    by_cases hzero : pic.picOrderCntType = 0
    · rw [if_pos hzero, hzero]
      rfl
    · rw [if_neg hzero]
      by_cases hone : pic.picOrderCntType = 1
      · rw [if_pos hone, hone]
        rfl
      · rw [if_neg hone]
        have hzero' : pic.picOrderCntType.toNat ≠ 0 := fun h => hzero (UInt8.toNat_inj.mp h)
        have hone' : pic.picOrderCntType.toNat ≠ 1 := fun h => hone (UInt8.toNat_inj.mp h)
        show 2 ≤ pic.picOrderCntType.toNat
        omega
  mbAdaptive := by
    intro hframe
    show (!pic.frameMbsOnlyFlag && pic.mbaffFrameFlag) = false
    have hframe' : pic.frameMbsOnlyFlag = true := hframe
    rw [hframe']
    rfl

/-! ## The bits of each group -/

theorem writes_byte (value : UInt8) :
    Writes (fun writer => bwUe writer value.toUInt32) (ueBits value.toNat) := by
  have hvalue : value.toUInt32.toNat = value.toNat := UInt8.toNat_toUInt32 value
  have hbound := value.toNat_lt
  rw [← hvalue]
  exact writes_bwUe (by omega)

theorem writes_short (value : UInt16) :
    Writes (fun writer => bwUe writer value.toUInt32) (ueBits value.toNat) := by
  have hvalue : value.toUInt32.toNat = value.toNat := UInt16.toNat_toUInt32 value
  have hbound := value.toNat_lt
  rw [← hvalue]
  exact writes_bwUe (by omega)

theorem writes_char (value : Int8) :
    Writes (fun writer => bwSe writer value.toInt32) (seBits value.toInt) := by
  have hvalue : value.toInt32.toInt = value.toInt := Int8.toInt_toInt32 value
  have hlow := value.le_toInt
  have hhigh := value.toInt_lt
  rw [← hvalue]
  exact writes_bwSe (by omega) (by omega)

theorem writes_flag (flag : Bool) :
    Writes (fun writer => bwBit writer flag.toUInt32) [flag] := by
  apply writes_bwBit_flag
  cases flag with
  | true => rfl
  | false => rfl

theorem writes_flagByte (byte : UInt8) :
    Writes (fun writer => bwBit writer byte.toUInt32) [flagOf byte] := by
  apply writes_bwBit_flag
  rw [UInt8.toNat_toUInt32]
  rfl

theorem writes_zeroBit : Writes (fun writer => bwBit writer 0) [false] := writes_flag false

theorem writes_zero : Writes (fun writer => bwUe writer 0) (ueBits 0) := writes_byte 0

/-- A flag that is only written under a condition. -/
theorem writes_flagIf (condition flag : Bool) :
    Writes (fun writer => if condition then bwBit writer flag.toUInt32 else writer)
      (flagIf condition flag) :=
  Writes.ite (fun _ => writes_flag flag) fun _ => writes_nothing

/-- A crop offset is a fraction of a difference, so its code does not wrap. -/
theorem div_lt (value : UInt32) {divisor : UInt32} (h : 2 ≤ divisor) :
    (value / divisor).toNat + 1 < 2 ^ 32 := by
  have hbound := value.toNat_lt
  have hdivisor : 2 ≤ divisor.toNat := h
  have hhalf : value.toNat / divisor.toNat ≤ value.toNat / 2 :=
    Nat.div_le_div_left hdivisor (by decide)
  rw [UInt32.toNat_div]
  omega

theorem cropRight_lt (pic : DxvaPicParams) (desc : VideoDecoderDesc) :
    (cropRight pic desc).toNat + 1 < 2 ^ 32 := by
  unfold cropRight
  by_cases hlarger : codedWidth pic > desc.sampleWidth
  · rw [if_pos hlarger]
    exact div_lt _ (by decide)
  · rw [if_neg hlarger]
    decide

theorem cropBottom_lt (pic : DxvaPicParams) (desc : VideoDecoderDesc) :
    (cropBottom pic desc).toNat + 1 < 2 ^ 32 := by
  have hdivisor : ∀ flag : Bool, (2 : UInt32) ≤ 2 * (if flag then 1 else 2) := by decide
  unfold cropBottom
  by_cases hlarger : codedHeight pic > desc.sampleHeight
  · rw [if_pos hlarger]
    exact div_lt _ (hdivisor _)
  · rw [if_neg hlarger]
    decide

theorem writes_writeProfile :
    Writes writeProfile (bitsOf 8 100 ++ (bitsOf 8 0 ++ (bitsOf 8 51 ++ ueBits 0))) :=
  (writes_bwBits 100 (by decide)).comp ((writes_bwBits 0 (by decide)).comp
    ((writes_bwBits 51 (by decide)).comp writes_zero))

theorem chromaFormatIdc_toNat (pic : DxvaPicParams) :
    (chromaFormatIdc pic).toNat =
      if pic.chromaFormatIdc = 0 then 1 else pic.chromaFormatIdc.val := by
  unfold chromaFormatIdc
  generalize pic.chromaFormatIdc = format
  revert format
  decide

theorem writes_writeChromaFormat (pic : DxvaPicParams) (desc : VideoDecoderDesc) :
    Writes (writeChromaFormat pic) (spsOf pic desc).chromaFormat.encode := by
  have hformat : Writes (fun writer => bwUe writer (chromaFormatIdc pic))
      (ueBits (spsOf pic desc).chromaFormat.chromaFormatIdc) := by
    have hvalue := chromaFormatIdc_toNat pic
    have hsmall := pic.chromaFormatIdc.isLt
    show Writes _ (ueBits (if pic.chromaFormatIdc = 0 then 1 else pic.chromaFormatIdc.val))
    rw [← hvalue]
    apply writes_bwUe
    rw [hvalue]
    split_ifs <;> omega
  have hthree : decide ((spsOf pic desc).chromaFormat.chromaFormatIdc = 3) =
      decide (pic.chromaFormatIdc = 3) := by
    show decide ((if pic.chromaFormatIdc = 0 then 1 else pic.chromaFormatIdc.val) = 3) = _
    generalize pic.chromaFormatIdc = format
    revert format
    decide
  have hseparate : Writes (fun writer =>
      if pic.chromaFormatIdc = 3 then bwBit writer pic.residualColourTransformFlag.toUInt32
      else writer)
      (flagIf (decide ((spsOf pic desc).chromaFormat.chromaFormatIdc = 3))
        (spsOf pic desc).chromaFormat.separateColourPlaneFlag) := by
    rw [hthree]
    show Writes _ (flagIf _ (decide (pic.chromaFormatIdc = 3) && pic.residualColourTransformFlag))
    by_cases hformat : pic.chromaFormatIdc = 3
    · simp only [if_pos hformat, decide_eq_true hformat, Bool.true_and]
      exact writes_flag _
    · simp only [if_neg hformat, decide_eq_false hformat, Bool.false_and]
      exact writes_nothing
  exact hformat.comp (hseparate.comp ((writes_byte _).comp ((writes_byte _).comp
    (writes_zeroBit.comp writes_zeroBit))))

theorem writes_writePicOrderCnt (pic : DxvaPicParams) (desc : VideoDecoderDesc) :
    Writes (writePicOrderCnt pic) (spsOf pic desc).picOrderCnt.encode := by
  show Writes _ (PicOrderCnt.encode (if pic.picOrderCntType = 0 then _
    else if pic.picOrderCntType = 1 then _ else _))
  unfold writePicOrderCnt
  by_cases hzero : pic.picOrderCntType = 0
  · simp only [if_pos hzero]
    exact writes_byte _
  · simp only [if_neg hzero]
    by_cases hone : pic.picOrderCntType = 1
    · simp only [if_pos hone]
      exact (writes_flagByte _).comp ((writes_char 0).comp ((writes_char 0).comp
        writes_zero))
    · simp only [if_neg hone]
      exact writes_nothing

theorem writes_writeFrameSize (pic : DxvaPicParams) :
    Writes (writeFrameSize pic)
      (ueBits pic.numRefFrames.toNat ++ ([false] ++ (ueBits pic.wFrameWidthInMbsMinus1.toNat ++
        (ueBits pic.wFrameHeightInMbsMinus1.toNat ++ ([pic.frameMbsOnlyFlag] ++
          (flagIf (!pic.frameMbsOnlyFlag) pic.mbaffFrameFlag ++
            [flagOf pic.direct8x8InferenceFlag])))))) :=
  (writes_byte _).comp (writes_zeroBit.comp ((writes_short _).comp ((writes_short _).comp
    ((writes_flag _).comp ((writes_flagIf _ _).comp (writes_flagByte _))))))

theorem writes_writeFrameCrop (pic : DxvaPicParams) (desc : VideoDecoderDesc) :
    Writes (writeFrameCrop pic desc) (spsOf pic desc).frameCrop.encode := by
  have hright := cropRight_lt pic desc
  have hbottom := cropBottom_lt pic desc
  show Writes _ (FrameCrop.encode ⟨0, (cropRight pic desc).toNat, 0, (cropBottom pic desc).toNat⟩)
  unfold writeFrameCrop FrameCrop.encode
  generalize cropRight pic desc = right at hright ⊢
  generalize cropBottom pic desc = bottom at hbottom ⊢
  have hcropped : (right ≠ 0 || bottom ≠ 0) =
      !decide ((⟨0, right.toNat, 0, bottom.toNat⟩ : FrameCrop) = ⟨0, 0, 0, 0⟩) := by
    simp [← UInt32.toNat_inj]
  simp only [hcropped]
  by_cases hnone : (⟨0, right.toNat, 0, bottom.toNat⟩ : FrameCrop) = ⟨0, 0, 0, 0⟩
  · simp only [hnone]
    exact writes_zeroBit
  · simp only [hnone]
    exact (writes_flag true).comp (writes_zero.comp ((writes_bwUe hright).comp
      (writes_zero.comp (writes_bwUe hbottom))))

/-- The sequence parameter set is written field by field. -/
theorem writes_writeSps (pic : DxvaPicParams) (desc : VideoDecoderDesc) :
    Writes (writeSps pic desc) (spsOf pic desc).encode := by
  have hsize : flagIf (!pic.frameMbsOnlyFlag) (!pic.frameMbsOnlyFlag && pic.mbaffFrameFlag) =
      flagIf (!pic.frameMbsOnlyFlag) pic.mbaffFrameFlag := by
    cases pic.frameMbsOnlyFlag with
    | true => rfl
    | false => rfl
  have hall := writes_writeProfile.comp ((writes_writeChromaFormat pic desc).comp
    ((writes_byte pic.log2MaxFrameNumMinus4).comp ((writes_byte pic.picOrderCntType).comp
      ((writes_writePicOrderCnt pic desc).comp ((writes_writeFrameSize pic).comp
        ((writes_writeFrameCrop pic desc).comp writes_zeroBit))))))
  rw [← hsize] at hall
  simp only [List.append_assoc] at hall
  exact hall

/-- The picture parameter set is written field by field. -/
theorem writes_ppsBits (pic : DxvaPicParams) :
    ∃ bits, Writes (writePps pic) bits ∧
      (pic.numSliceGroupsMinus1 = 0 → bits = (ppsOf pic).encode) := by
  have hbipred : Writes (fun writer => bwBits writer (UInt32.ofNat pic.weightedBipredIdc) 2)
      (bitsOf 2 pic.weightedBipredIdc) := by
    have hvalue : (UInt32.ofNat pic.weightedBipredIdc).toNat = pic.weightedBipredIdc :=
      toNat_ofNat_eq (by omega)
    have hwrites := @writes_bwBits (UInt32.ofNat pic.weightedBipredIdc) 2 (by decide)
    rwa [hvalue] at hwrites
  have hall := writes_zero.comp (writes_zero.comp ((writes_flagByte pic.entropyCodingModeFlag).comp
    ((writes_flagByte pic.picOrderPresentFlag).comp ((writes_byte pic.numSliceGroupsMinus1).comp
      ((writes_byte pic.numRefIdxL0ActiveMinus1).comp
        ((writes_byte pic.numRefIdxL1ActiveMinus1).comp ((writes_flag pic.weightedPredFlag).comp
          (hbipred.comp ((writes_char pic.picInitQpMinus26).comp
            ((writes_char pic.picInitQsMinus26).comp ((writes_char pic.chromaQpIndexOffset).comp
              ((writes_flagByte pic.deblockingFilterControlPresentFlag).comp
                ((writes_flag pic.constrainedIntraPredFlag).comp
                  ((writes_flagByte pic.redundantPicCntPresentFlag).comp
                    ((writes_flag pic.transform8x8ModeFlag).comp
                      (writes_zeroBit.comp
                        (writes_char pic.secondChromaQpIndexOffset)))))))))))))))))
  refine ⟨_, hall, ?_⟩
  intro hgroups
  rw [hgroups]
  rfl

theorem writes_writePps {pic : DxvaPicParams} (hgroups : pic.numSliceGroupsMinus1 = 0) :
    Writes (writePps pic) (ppsOf pic).encode := by
  obtain ⟨bits, hwrites, hbits⟩ := writes_ppsBits pic
  rw [← hbits hgroups]
  exact hwrites

/-! ## How much is written -/

theorem grows_writeProfile : Grows writeProfile 87 :=
  (grows_bwBits 100 8).comp ((grows_bwBits 0 8).comp ((grows_bwBits 51 8).comp (grows_bwUe 0)))

theorem grows_writeChromaFormat (pic : DxvaPicParams) : Grows (writeChromaFormat pic) 192 :=
  (grows_bwUe _).comp (((grows_bwBit _).ite (grows_nothing.mono (by decide))).comp
    ((grows_bwUe _).comp ((grows_bwUe _).comp ((grows_bwBit 0).comp (grows_bwBit 0)))))

theorem grows_writePicOrderCnt (pic : DxvaPicParams) : Grows (writePicOrderCnt pic) 190 := by
  have hcycle := (grows_bwBit pic.deltaPicOrderAlwaysZeroFlag.toUInt32).comp
    ((grows_bwSe 0).comp ((grows_bwSe 0).comp (grows_bwUe 0)))
  exact ((grows_bwUe _).mono (by decide)).ite (hcycle.ite (grows_nothing.mono (by decide)))

theorem grows_writeFrameSize (pic : DxvaPicParams) : Grows (writeFrameSize pic) 193 :=
  (grows_bwUe _).comp ((grows_bwBit 0).comp ((grows_bwUe _).comp ((grows_bwUe _).comp
    ((grows_bwBit _).comp (((grows_bwBit _).ite (grows_nothing.mono (by decide))).comp
      (grows_bwBit _))))))

theorem grows_writeFrameCrop (pic : DxvaPicParams) (desc : VideoDecoderDesc) :
    Grows (writeFrameCrop pic desc) 253 := by
  have hcrop := (grows_bwUe 0).comp ((grows_bwUe (cropRight pic desc)).comp
    ((grows_bwUe 0).comp (grows_bwUe (cropBottom pic desc))))
  exact (grows_bwBit _).comp (hcrop.ite (grows_nothing.mono (by decide)))

theorem grows_writeSps (pic : DxvaPicParams) (desc : VideoDecoderDesc) :
    Grows (writeSps pic desc) 1042 :=
  grows_writeProfile.comp ((grows_writeChromaFormat pic).comp ((grows_bwUe _).comp
    ((grows_bwUe _).comp ((grows_writePicOrderCnt pic).comp ((grows_writeFrameSize pic).comp
      ((grows_writeFrameCrop pic desc).comp (grows_bwBit 0)))))))

theorem grows_writePps (pic : DxvaPicParams) : Grows (writePps pic) 577 :=
  (grows_bwUe 0).comp ((grows_bwUe 0).comp ((grows_bwBit _).comp ((grows_bwBit _).comp
    ((grows_bwUe _).comp ((grows_bwUe _).comp ((grows_bwUe _).comp ((grows_bwBit _).comp
      ((grows_bwBits _ 2).comp ((grows_bwSe _).comp ((grows_bwSe _).comp ((grows_bwSe _).comp
        ((grows_bwBit _).comp ((grows_bwBit _).comp ((grows_bwBit _).comp ((grows_bwBit _).comp
          ((grows_bwBit 0).comp (grows_bwSe _)))))))))))))))))

/-- A unit of a small parameter set. -/
theorem length_appendNal_le {step : BitWriter → BitWriter} {count : Nat} (hstep : Grows step count)
    (output : List UInt8) (header : UInt8) :
    (appendNal output header (bwTrailing (step {}))).length ≤
      output.length + 5 + (count + 15) / 8 * 3 / 2 := by
  have hbits : (bwTrailing (step {})).bits ≤ 0 + (count + 8) := (hstep.comp grows_bwTrailing) {}
  have hescape := length_escape_le 0 (bwTrailing (step {})).bytes
  rw [length_bytes] at hescape
  unfold appendNal
  rw [List.length_append, List.length_append, List.length_cons]
  have hstart : startCode.length = 4 := rfl
  omega

/-- The array `parameter_sets` of `context_end_frame` has 600 bytes. -/
theorem length_buildH264ParameterSets_le (readPic : List UInt8 → DxvaPicParams)
    (parameters : DecoderBuffer) (desc : VideoDecoderDesc) :
    (buildH264ParameterSets readPic parameters desc).length ≤ 600 := by
  unfold buildH264ParameterSets
  cases parameters.picParams readPic with
  | none => exact Nat.zero_le 600
  | some pic =>
    have hsps := length_appendNal_le (grows_writeSps pic desc) [] 0x67
    have hpps := length_appendNal_le (grows_writePps pic)
      (appendNal [] 0x67 (bwTrailing (writeSps pic desc {}))) 0x68
    have hempty : ([] : List UInt8).length = 0 := rfl
    simp only
    omega

/-! ## The whole output -/

/-- The trailing bits end a unit at a byte. -/
theorem bytesBits_bwTrailing {write : BitWriter → BitWriter} {bits : List Bool}
    (hwrites : Writes write bits) :
    ∃ zeros < 8, bytesBits (bwTrailing (write {})).bytes =
      bits ++ true :: List.replicate zeros false := by
  obtain ⟨hclean, hcontents⟩ := hwrites {} clean_empty
  obtain ⟨haligned, zeros, hzeros, htrailing⟩ := bwTrailing_spec hclean
  refine ⟨zeros, hzeros, ?_⟩
  rw [bytesBits_bytes haligned, htrailing, hcontents]
  rfl

/-- The trailing bits end a unit whose bits the syntax reads back. -/
theorem parseNal_bwTrailing {α : Type} {header : UInt8} {read : BitReader α}
    {write : BitWriter → BitWriter} {bits : List Bool} {value : α} (hheader : header ≠ 0)
    (hwrites : Writes write bits)
    (hread : ∀ rest, read.run (bits ++ rest) = some (value, rest)) :
    (bwTrailing (write {})).bytes.getLast? ≠ some 0 ∧
      parseNal header read (header :: escape 0 (bwTrailing (write {})).bytes) = some value := by
  obtain ⟨zeros, hzeros, hbytes⟩ := bytesBits_bwTrailing hwrites
  exact ⟨getLast?_ne_zero hbytes hzeros, parseNal_escape hheader hbytes hzeros hread⟩

/-- The parameter sets in front of the slices are parsed to those that the picture
parameters describe. -/
theorem parameter_sets_parsed {readPic : List UInt8 → DxvaPicParams}
    {parameters : DecoderBuffer} {pic : DxvaPicParams} (desc : VideoDecoderDesc)
    (hpic : parameters.picParams readPic = some pic) (hgroups : pic.numSliceGroupsMinus1 = 0) :
    parseParameterSets (buildH264ParameterSets readPic parameters desc) =
      some (spsOf pic desc, ppsOf pic) := by
  have hbipred : (ppsOf pic).weightedBipredIdc < 2 ^ 2 := pic.weightedBipredIdc.isLt
  obtain ⟨hspsLast, hsps⟩ := @parseNal_bwTrailing _ 0x67 _ _ _ _ (by decide)
    (writes_writeSps pic desc) (SeqParameterSet.read_encode (spsOf_wellFormed pic desc))
  obtain ⟨hppsLast, hpps⟩ := @parseNal_bwTrailing _ 0x68 _ _ _ _ (by decide)
    (writes_writePps hgroups) (PicParameterSet.read_encode hbipred)
  unfold buildH264ParameterSets
  rw [hpic]
  exact parseParameterSets_eq hspsLast hppsLast hsps hpps

/-- The fields of a `DXVA_PicParams_H264` at their offsets: `wBitFields` is at 6, and the
picture entries, the orders of the fields and the frame numbers are in between. -/
def readDxvaPicParams (bytes : List UInt8) : DxvaPicParams :=
  let byte (i : Nat) : UInt8 := bytes.getD i 0
  let word (i : Nat) : UInt16 := (byte i).toUInt16 ||| (byte (i + 1)).toUInt16 <<< 8
  let flag (bit : Nat) : Bool := (word 6).toNat.testBit bit
  let pair (bit : Nat) : Fin 4 := Fin.ofNat 4 ((word 6).toNat >>> bit)
  { wFrameWidthInMbsMinus1 := word 0
    wFrameHeightInMbsMinus1 := word 2
    numRefFrames := byte 5
    mbaffFrameFlag := flag 1
    residualColourTransformFlag := flag 2
    chromaFormatIdc := pair 4
    constrainedIntraPredFlag := flag 7
    weightedPredFlag := flag 8
    weightedBipredIdc := pair 9
    frameMbsOnlyFlag := flag 12
    transform8x8ModeFlag := flag 13
    bitDepthLumaMinus8 := byte 8
    bitDepthChromaMinus8 := byte 9
    picInitQsMinus26 := (byte 168).toInt8
    chromaQpIndexOffset := (byte 169).toInt8
    secondChromaQpIndexOffset := (byte 170).toInt8
    picInitQpMinus26 := (byte 172).toInt8
    numRefIdxL0ActiveMinus1 := byte 173
    numRefIdxL1ActiveMinus1 := byte 174
    log2MaxFrameNumMinus4 := byte 216
    picOrderCntType := byte 217
    log2MaxPicOrderCntLsbMinus4 := byte 218
    deltaPicOrderAlwaysZeroFlag := byte 219
    direct8x8InferenceFlag := byte 220
    entropyCodingModeFlag := byte 221
    picOrderPresentFlag := byte 222
    numSliceGroupsMinus1 := byte 223
    deblockingFilterControlPresentFlag := byte 225
    redundantPicCntPresentFlag := byte 226 }

/-- The picture parameters of a stream of 120 by 68 macroblocks whose `wBitFields` has the
two given bytes. -/
def pictureBytes (low high : UInt8) : List UInt8 :=
  [119, 0, 67, 0, 0, 4, low, high] ++ List.replicate 160 0 ++
    [0, 254, 253, 1, 252, 2, 1] ++ List.replicate 41 0 ++
    [4, 0, 2, 0, 1, 1, 0, 0, 0, 1, 0] ++ List.replicate 813 0

/-- A picture parameter buffer that holds nothing else. -/
def pictureBuffer (low high : UInt8) : DecoderBuffer where
  data := some (pictureBytes low high)
  capacity := 1040
  size := 1040

/-- A picture of a progressive stream, with weighted prediction and the large transform. -/
def progressivePicture : DxvaPicParams where
  wFrameWidthInMbsMinus1 := 119
  wFrameHeightInMbsMinus1 := 67
  numRefFrames := 4
  mbaffFrameFlag := false
  residualColourTransformFlag := false
  chromaFormatIdc := 1
  constrainedIntraPredFlag := false
  weightedPredFlag := true
  weightedBipredIdc := 2
  frameMbsOnlyFlag := true
  transform8x8ModeFlag := true
  bitDepthLumaMinus8 := 0
  bitDepthChromaMinus8 := 0
  picInitQsMinus26 := 0
  chromaQpIndexOffset := -2
  secondChromaQpIndexOffset := -3
  picInitQpMinus26 := -4
  numRefIdxL0ActiveMinus1 := 2
  numRefIdxL1ActiveMinus1 := 1
  log2MaxFrameNumMinus4 := 4
  picOrderCntType := 0
  log2MaxPicOrderCntLsbMinus4 := 2
  deltaPicOrderAlwaysZeroFlag := 0
  direct8x8InferenceFlag := 1
  entropyCodingModeFlag := 1
  picOrderPresentFlag := 0
  numSliceGroupsMinus1 := 0
  deblockingFilterControlPresentFlag := 1
  redundantPicCntPresentFlag := 0

theorem progressivePicture_read :
    (pictureBuffer 0x50 0x3D).picParams readDxvaPicParams = some progressivePicture := by
  decide +kernel

/-- The progressive picture in a decoder of 1920 by 1080 samples. -/
theorem progressive_picture_parsed :
    parseParameterSets
        (buildH264ParameterSets readDxvaPicParams (pictureBuffer 0x50 0x3D) ⟨1920, 1080⟩) =
      some (spsOf progressivePicture ⟨1920, 1080⟩, ppsOf progressivePicture) :=
  parameter_sets_parsed ⟨1920, 1080⟩ progressivePicture_read rfl

end UuAmfBridge
