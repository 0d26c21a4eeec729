import UuAmfBridge.Lib.BitString
import UuAmfBridge.Lib.StartCode

/-!
# The H.264 parameter sets

The syntax of `seq_parameter_set_rbsp` (7.3.2.1.1) and of `pic_parameter_set_rbsp`
(7.3.2.2) as readers of bit strings, up to the trailing bits.  A field that is not
there has the value that the semantics infer for it.

Scaling lists, VUI parameters and slice groups are not modelled: a reader fails at
a flag that announces one.

`encode` writes a parameter set field by field.  `SeqParameterSet.read_encode` and
`PicParameterSet.read_encode` say that the syntax undoes it, for every parameter set
whose fields fit into their bits and that has no value where the syntax has no
field.  `parseParameterSets` finds the two of them in a byte stream.
-/

namespace UuAmfBridge

/-! ## The sequence parameter set -/

/-- The fields that only the high profiles have. -/
structure ChromaFormat where
  chromaFormatIdc : Nat
  separateColourPlaneFlag : Bool
  bitDepthLumaMinus8 : Nat
  bitDepthChromaMinus8 : Nat
  qpprimeYZeroTransformBypassFlag : Bool
  deriving Repr, DecidableEq

/-- The fields that depend on `pic_order_cnt_type`. -/
inductive PicOrderCnt where
  | lsb (log2MaxPicOrderCntLsbMinus4 : Nat)
  | cycle (deltaPicOrderAlwaysZeroFlag : Bool) (offsetForNonRefPic : Int)
      (offsetForTopToBottomField : Int) (offsetForRefFrame : List Int)
  | absent
  deriving Repr, DecidableEq

/-- The frame cropping offsets. -/
structure FrameCrop where
  left : Nat
  right : Nat
  top : Nat
  bottom : Nat
  deriving Repr, DecidableEq

structure SeqParameterSet where
  profileIdc : Nat
  /-- The six constraint flags and the two reserved bits. -/
  constraintFlags : Nat
  levelIdc : Nat
  seqParameterSetId : Nat
  chromaFormat : ChromaFormat
  log2MaxFrameNumMinus4 : Nat
  picOrderCntType : Nat
  picOrderCnt : PicOrderCnt
  maxNumRefFrames : Nat
  gapsInFrameNumValueAllowedFlag : Bool
  picWidthInMbsMinus1 : Nat
  picHeightInMapUnitsMinus1 : Nat
  frameMbsOnlyFlag : Bool
  mbAdaptiveFrameFieldFlag : Bool
  direct8x8InferenceFlag : Bool
  frameCrop : FrameCrop
  deriving Repr, DecidableEq

/-- The values of `profile_idc` with the fields of `ChromaFormat`. -/
def highProfiles : List Nat := [100, 110, 122, 244, 44, 83, 86, 118, 128, 138, 139, 134, 135]

/-- A flag that is only there under a condition, and zero otherwise. -/
def readFlagIf (condition : Bool) : BitReader Bool := if condition then readFlag else pure false

def readChromaFormat (profileIdc : Nat) : BitReader ChromaFormat :=
  if profileIdc ∈ highProfiles then do
    let chromaFormatIdc ← readUe
    let separateColourPlaneFlag ← readFlagIf (chromaFormatIdc = 3)
    let bitDepthLumaMinus8 ← readUe
    let bitDepthChromaMinus8 ← readUe
    let qpprimeYZeroTransformBypassFlag ← readFlag
    let seqScalingMatrixPresentFlag ← readFlag
    if seqScalingMatrixPresentFlag then failure
    else return {
      chromaFormatIdc, separateColourPlaneFlag, bitDepthLumaMinus8, bitDepthChromaMinus8,
      qpprimeYZeroTransformBypassFlag }
  else return ⟨1, false, 0, 0, false⟩

/-- As many values as a count says. -/
def readMany {α : Type} (read : BitReader α) : Nat → BitReader (List α)
  | 0 => return []
  | count + 1 => do
      let value ← read
      let values ← readMany read count
      return value :: values

def readPicOrderCnt (picOrderCntType : Nat) : BitReader PicOrderCnt :=
  if picOrderCntType = 0 then do
    let log2MaxPicOrderCntLsbMinus4 ← readUe
    return .lsb log2MaxPicOrderCntLsbMinus4
  else if picOrderCntType = 1 then do
    let deltaPicOrderAlwaysZeroFlag ← readFlag
    let offsetForNonRefPic ← readSe
    let offsetForTopToBottomField ← readSe
    let numRefFramesInPicOrderCntCycle ← readUe
    let offsetForRefFrame ← readMany readSe numRefFramesInPicOrderCntCycle
    return .cycle deltaPicOrderAlwaysZeroFlag offsetForNonRefPic offsetForTopToBottomField
      offsetForRefFrame
  else return .absent

def readFrameCrop : BitReader FrameCrop := do
  let frameCroppingFlag ← readFlag
  if frameCroppingFlag then
    let left ← readUe
    let right ← readUe
    let top ← readUe
    let bottom ← readUe
    return ⟨left, right, top, bottom⟩
  else return ⟨0, 0, 0, 0⟩

/-- `seq_parameter_set_rbsp`, up to the trailing bits. -/
def readSeqParameterSet : BitReader SeqParameterSet := do
  let profileIdc ← readBits 8
  let constraintFlags ← readBits 8
  let levelIdc ← readBits 8
  let seqParameterSetId ← readUe
  let chromaFormat ← readChromaFormat profileIdc
  let log2MaxFrameNumMinus4 ← readUe
  let picOrderCntType ← readUe
  let picOrderCnt ← readPicOrderCnt picOrderCntType
  let maxNumRefFrames ← readUe
  let gapsInFrameNumValueAllowedFlag ← readFlag
  let picWidthInMbsMinus1 ← readUe
  let picHeightInMapUnitsMinus1 ← readUe
  let frameMbsOnlyFlag ← readFlag
  let mbAdaptiveFrameFieldFlag ← readFlagIf (!frameMbsOnlyFlag)
  let direct8x8InferenceFlag ← readFlag
  let frameCrop ← readFrameCrop
  let vuiParametersPresentFlag ← readFlag
  if vuiParametersPresentFlag then failure
  else return {
    profileIdc, constraintFlags, levelIdc, seqParameterSetId, chromaFormat,
    log2MaxFrameNumMinus4, picOrderCntType, picOrderCnt, maxNumRefFrames,
    gapsInFrameNumValueAllowedFlag, picWidthInMbsMinus1, picHeightInMapUnitsMinus1,
    frameMbsOnlyFlag, mbAdaptiveFrameFieldFlag, direct8x8InferenceFlag, frameCrop }

/-! ## Writing it -/

/-- A flag that is only there under a condition. -/
def flagIf (condition flag : Bool) : List Bool := if condition then [flag] else []

def ChromaFormat.encode (format : ChromaFormat) : List Bool :=
  ueBits format.chromaFormatIdc ++
    (flagIf (format.chromaFormatIdc = 3) format.separateColourPlaneFlag ++
      (ueBits format.bitDepthLumaMinus8 ++ (ueBits format.bitDepthChromaMinus8 ++
        [format.qpprimeYZeroTransformBypassFlag, false])))

def PicOrderCnt.encode : PicOrderCnt → List Bool
  | .lsb log2MaxPicOrderCntLsbMinus4 => ueBits log2MaxPicOrderCntLsbMinus4
  | .cycle deltaPicOrderAlwaysZeroFlag offsetForNonRefPic offsetForTopToBottomField
      offsetForRefFrame =>
      [deltaPicOrderAlwaysZeroFlag] ++ (seBits offsetForNonRefPic ++
        (seBits offsetForTopToBottomField ++ (ueBits offsetForRefFrame.length ++
          offsetForRefFrame.flatMap seBits)))
  | .absent => []

def FrameCrop.encode (crop : FrameCrop) : List Bool :=
  if crop = ⟨0, 0, 0, 0⟩ then [false]
  else [true] ++
    (ueBits crop.left ++ (ueBits crop.right ++ (ueBits crop.top ++ ueBits crop.bottom)))

/-- The bits of a sequence parameter set of a high profile. -/
def SeqParameterSet.encode (sps : SeqParameterSet) : List Bool :=
  bitsOf 8 sps.profileIdc ++ (bitsOf 8 sps.constraintFlags ++ (bitsOf 8 sps.levelIdc ++
    (ueBits sps.seqParameterSetId ++ (sps.chromaFormat.encode ++
      (ueBits sps.log2MaxFrameNumMinus4 ++ (ueBits sps.picOrderCntType ++
        (sps.picOrderCnt.encode ++ (ueBits sps.maxNumRefFrames ++
          ([sps.gapsInFrameNumValueAllowedFlag] ++ (ueBits sps.picWidthInMbsMinus1 ++
            (ueBits sps.picHeightInMapUnitsMinus1 ++ ([sps.frameMbsOnlyFlag] ++
              (flagIf (!sps.frameMbsOnlyFlag) sps.mbAdaptiveFrameFieldFlag ++
                ([sps.direct8x8InferenceFlag] ++ (sps.frameCrop.encode ++ [false])))))))))))))))

/-- The fields that are there for a value of `pic_order_cnt_type`. -/
def PicOrderCnt.Matches (picOrderCntType : Nat) : PicOrderCnt → Prop
  | .lsb _ => picOrderCntType = 0
  | .cycle _ _ _ _ => picOrderCntType = 1
  | .absent => 2 ≤ picOrderCntType

/-- A sequence parameter set of a high profile whose fields fit into their bits, and
that has no value where the syntax has no field. -/
structure SeqParameterSet.WellFormed (sps : SeqParameterSet) : Prop where
  profile : sps.profileIdc ∈ highProfiles
  constraints : sps.constraintFlags < 2 ^ 8
  level : sps.levelIdc < 2 ^ 8
  separateColourPlane : sps.chromaFormat.chromaFormatIdc ≠ 3 →
    sps.chromaFormat.separateColourPlaneFlag = false
  picOrderCnt : sps.picOrderCnt.Matches sps.picOrderCntType
  mbAdaptive : sps.frameMbsOnlyFlag = true → sps.mbAdaptiveFrameFieldFlag = false

/-! ## Reading it back -/

theorem readMany_run (values : List Int) (rest : List Bool) :
    (readMany readSe values.length).run (values.flatMap seBits ++ rest) = some (values, rest) := by
  induction values with
  | nil => rfl
  | cons value values ih =>
    simp only [List.length_cons, readMany, List.flatMap_cons, List.append_assoc, StateT.run_bind,
      readSe_run, Option.bind_eq_bind, Option.bind_some, ih, StateT.run_pure]
    rfl

/-- A flag is read back. -/
theorem readFlag_append (flag : Bool) (rest : List Bool) :
    readFlag.run ([flag] ++ rest) = some (flag, rest) := rfl

/-- A flag that is not there is zero. -/
theorem readFlagIf_run {condition flag : Bool} (h : condition = false → flag = false)
    (rest : List Bool) :
    (readFlagIf condition).run (flagIf condition flag ++ rest) = some (flag, rest) := by
  unfold readFlagIf flagIf
  cases condition with
  | true => rfl
  | false =>
    rw [h rfl]
    rfl

theorem readChromaFormat_run {profileIdc : Nat} (hprofile : profileIdc ∈ highProfiles)
    {format : ChromaFormat}
    (hseparate : format.chromaFormatIdc ≠ 3 → format.separateColourPlaneFlag = false)
    (rest : List Bool) :
    (readChromaFormat profileIdc).run (format.encode ++ rest) = some (format, rest) := by
  have hflag : decide (format.chromaFormatIdc = 3) = false →
      format.separateColourPlaneFlag = false :=
    fun h => hseparate (of_decide_eq_false h)
  unfold readChromaFormat ChromaFormat.encode
  simp only [List.append_assoc]
  rw [if_pos hprofile, bind_run (readUe_run _ _), bind_run (readFlagIf_run hflag _),
    bind_run (readUe_run _ _), bind_run (readUe_run _ _)]
  rfl

theorem readPicOrderCnt_run {picOrderCntType : Nat} {order : PicOrderCnt}
    (hmatches : order.Matches picOrderCntType) (rest : List Bool) :
    (readPicOrderCnt picOrderCntType).run (order.encode ++ rest) = some (order, rest) := by
  unfold readPicOrderCnt
  cases order with
  | lsb log2MaxPicOrderCntLsbMinus4 =>
    have htype : picOrderCntType = 0 := hmatches
    simp [htype, PicOrderCnt.encode]
  | cycle always nonRef topToBottom refFrames =>
    have htype : picOrderCntType = 1 := hmatches
    simp [htype, PicOrderCnt.encode, StateT.run_bind, readMany_run]
  | absent =>
    have htype : 2 ≤ picOrderCntType := hmatches
    rw [if_neg (by omega), if_neg (by omega)]
    rfl

theorem readFrameCrop_run (crop : FrameCrop) (rest : List Bool) :
    readFrameCrop.run (crop.encode ++ rest) = some (crop, rest) := by
  unfold readFrameCrop FrameCrop.encode
  by_cases hnone : crop = ⟨0, 0, 0, 0⟩
  · simp [hnone, StateT.run_bind]
  · simp [hnone, StateT.run_bind]

theorem SeqParameterSet.WellFormed.profile_lt {sps : SeqParameterSet} (h : sps.WellFormed) :
    sps.profileIdc < 2 ^ 8 := by
  have hall : ∀ profile ∈ highProfiles, profile < 2 ^ 8 := by decide
  exact hall _ h.profile

theorem SeqParameterSet.WellFormed.mbAdaptive_flag {sps : SeqParameterSet} (h : sps.WellFormed) :
    (!sps.frameMbsOnlyFlag) = false → sps.mbAdaptiveFrameFieldFlag = false := by
  intro hframe
  exact h.mbAdaptive (by rwa [Bool.not_eq_false'] at hframe)

/-- The syntax undoes the encoding of a sequence parameter set. -/
theorem SeqParameterSet.read_encode {sps : SeqParameterSet} (h : sps.WellFormed)
    (rest : List Bool) :
    readSeqParameterSet.run (sps.encode ++ rest) = some (sps, rest) := by
  unfold readSeqParameterSet SeqParameterSet.encode
  simp only [List.append_assoc]
  rw [bind_run (readBits_run h.profile_lt _), bind_run (readBits_run h.constraints _),
    bind_run (readBits_run h.level _), bind_run (readUe_run _ _),
    bind_run (readChromaFormat_run h.profile h.separateColourPlane _),
    bind_run (readUe_run _ _), bind_run (readUe_run _ _),
    bind_run (readPicOrderCnt_run h.picOrderCnt _), bind_run (readUe_run _ _),
    bind_run (readFlag_append _ _), bind_run (readUe_run _ _), bind_run (readUe_run _ _),
    bind_run (readFlag_append _ _), bind_run (readFlagIf_run h.mbAdaptive_flag _),
    bind_run (readFlag_append _ _), bind_run (readFrameCrop_run _ _),
    bind_run (readFlag_append _ _)]
  rfl

/-! ## The cropping flag -/

/-- `frame_cropping_flag`, and the fields in front of it. -/
def readFrameCroppingFlag : BitReader Bool := do
  let profileIdc ← readBits 8
  let _constraintFlags ← readBits 8
  let _levelIdc ← readBits 8
  let _seqParameterSetId ← readUe
  let _chromaFormat ← readChromaFormat profileIdc
  let _log2MaxFrameNumMinus4 ← readUe
  let picOrderCntType ← readUe
  let _picOrderCnt ← readPicOrderCnt picOrderCntType
  let _maxNumRefFrames ← readUe
  let _gapsInFrameNumValueAllowedFlag ← readFlag
  let _picWidthInMbsMinus1 ← readUe
  let _picHeightInMapUnitsMinus1 ← readUe
  let frameMbsOnlyFlag ← readFlag
  let _mbAdaptiveFrameFieldFlag ← readFlagIf (!frameMbsOnlyFlag)
  let _direct8x8InferenceFlag ← readFlag
  readFlag

/-- The first bit of the cropping says whether there are offsets. -/
theorem FrameCrop.encode_eq_cons (crop : FrameCrop) :
    ∃ offsets, crop.encode = [decide (crop ≠ ⟨0, 0, 0, 0⟩)] ++ offsets := by
  unfold FrameCrop.encode
  by_cases hnone : crop = ⟨0, 0, 0, 0⟩
  · rw [if_pos hnone, decide_eq_false (not_not_intro hnone)]
    exact ⟨[], rfl⟩
  · rw [if_neg hnone, decide_eq_true hnone]
    exact ⟨_, rfl⟩

/-- The flag of an encoded sequence parameter set. -/
theorem SeqParameterSet.read_croppingFlag {sps : SeqParameterSet} (h : sps.WellFormed)
    (rest : List Bool) :
    ∃ left, readFrameCroppingFlag.run (sps.encode ++ rest) =
      some (decide (sps.frameCrop ≠ ⟨0, 0, 0, 0⟩), left) := by
  obtain ⟨offsets, hcrop⟩ := FrameCrop.encode_eq_cons sps.frameCrop
  unfold readFrameCroppingFlag SeqParameterSet.encode
  simp only [List.append_assoc]
  rw [bind_run (readBits_run h.profile_lt _), bind_run (readBits_run h.constraints _),
    bind_run (readBits_run h.level _), bind_run (readUe_run _ _),
    bind_run (readChromaFormat_run h.profile h.separateColourPlane _),
    bind_run (readUe_run _ _), bind_run (readUe_run _ _),
    bind_run (readPicOrderCnt_run h.picOrderCnt _), bind_run (readUe_run _ _),
    bind_run (readFlag_append _ _), bind_run (readUe_run _ _), bind_run (readUe_run _ _),
    bind_run (readFlag_append _ _), bind_run (readFlagIf_run h.mbAdaptive_flag _),
    bind_run (readFlag_append _ _), hcrop, List.append_assoc]
  exact ⟨_, readFlag_append _ _⟩

/-! ## The frame -/

namespace SeqParameterSet

variable (sps : SeqParameterSet)

/-- `ChromaArrayType`. -/
def chromaArrayType : Nat :=
  if sps.chromaFormat.separateColourPlaneFlag then 0 else sps.chromaFormat.chromaFormatIdc

/-- `2 - frame_mbs_only_flag`. -/
def fieldsPerMapUnit : Nat := if sps.frameMbsOnlyFlag then 1 else 2

/-- `PicWidthInMbs`. -/
def picWidthInMbs : Nat := sps.picWidthInMbsMinus1 + 1

/-- `FrameHeightInMbs`. -/
def frameHeightInMbs : Nat := sps.fieldsPerMapUnit * (sps.picHeightInMapUnitsMinus1 + 1)

/-- The width of the coded frame in luma samples. -/
def frameWidth : Nat := 16 * sps.picWidthInMbs

/-- The height of the coded frame in luma samples. -/
def frameHeight : Nat := 16 * sps.frameHeightInMbs

/-- `CropUnitX`: the luma samples for one chroma sample in a row. -/
def cropUnitX : Nat := if sps.chromaArrayType = 1 ∨ sps.chromaArrayType = 2 then 2 else 1

/-- `CropUnitY`: the luma samples for one chroma sample in a column, in each field. -/
def cropUnitY : Nat := (if sps.chromaArrayType = 1 then 2 else 1) * sps.fieldsPerMapUnit

end SeqParameterSet

/-- The part of a frame that is shown. -/
structure DisplayWindow where
  left : Nat
  top : Nat
  width : Nat
  height : Nat
  deriving Repr, DecidableEq

/-- The window that the cropping offsets leave. -/
def SeqParameterSet.displayWindow (sps : SeqParameterSet) : DisplayWindow where
  left := sps.cropUnitX * sps.frameCrop.left
  top := sps.cropUnitY * sps.frameCrop.top
  width := sps.frameWidth - sps.cropUnitX * (sps.frameCrop.left + sps.frameCrop.right)
  height := sps.frameHeight - sps.cropUnitY * (sps.frameCrop.top + sps.frameCrop.bottom)

/-! ## The picture parameter set -/

structure PicParameterSet where
  picParameterSetId : Nat
  seqParameterSetId : Nat
  entropyCodingModeFlag : Bool
  bottomFieldPicOrderInFramePresentFlag : Bool
  numRefIdxL0DefaultActiveMinus1 : Nat
  numRefIdxL1DefaultActiveMinus1 : Nat
  weightedPredFlag : Bool
  weightedBipredIdc : Nat
  picInitQpMinus26 : Int
  picInitQsMinus26 : Int
  chromaQpIndexOffset : Int
  deblockingFilterControlPresentFlag : Bool
  constrainedIntraPredFlag : Bool
  redundantPicCntPresentFlag : Bool
  transform8x8ModeFlag : Bool
  secondChromaQpIndexOffset : Int
  deriving Repr, DecidableEq

/-- `more_rbsp_data()`: there is a one behind the next bit, so the next bit is not the
first of the trailing bits. -/
def moreRbspData : BitReader Bool := fun bits => some ((bits.drop 1).any id, bits)

/-- The fields at the end that an encoder may leave out. -/
def readTransform8x8 (chromaQpIndexOffset : Int) : BitReader (Bool × Int) := do
  let more ← moreRbspData
  if more then
    let transform8x8ModeFlag ← readFlag
    let picScalingMatrixPresentFlag ← readFlag
    if picScalingMatrixPresentFlag then failure
    else
      let secondChromaQpIndexOffset ← readSe
      return (transform8x8ModeFlag, secondChromaQpIndexOffset)
  else return (false, chromaQpIndexOffset)

/-- `pic_parameter_set_rbsp`, up to the trailing bits. -/
def readPicParameterSet : BitReader PicParameterSet := do
  let picParameterSetId ← readUe
  let seqParameterSetId ← readUe
  let entropyCodingModeFlag ← readFlag
  let bottomFieldPicOrderInFramePresentFlag ← readFlag
  let numSliceGroupsMinus1 ← readUe
  if numSliceGroupsMinus1 ≠ 0 then failure
  else
    let numRefIdxL0DefaultActiveMinus1 ← readUe
    let numRefIdxL1DefaultActiveMinus1 ← readUe
    let weightedPredFlag ← readFlag
    let weightedBipredIdc ← readBits 2
    let picInitQpMinus26 ← readSe
    let picInitQsMinus26 ← readSe
    let chromaQpIndexOffset ← readSe
    let deblockingFilterControlPresentFlag ← readFlag
    let constrainedIntraPredFlag ← readFlag
    let redundantPicCntPresentFlag ← readFlag
    let (transform8x8ModeFlag, secondChromaQpIndexOffset) ← readTransform8x8 chromaQpIndexOffset
    return {
      picParameterSetId, seqParameterSetId, entropyCodingModeFlag,
      bottomFieldPicOrderInFramePresentFlag, numRefIdxL0DefaultActiveMinus1,
      numRefIdxL1DefaultActiveMinus1, weightedPredFlag, weightedBipredIdc, picInitQpMinus26,
      picInitQsMinus26, chromaQpIndexOffset, deblockingFilterControlPresentFlag,
      constrainedIntraPredFlag, redundantPicCntPresentFlag, transform8x8ModeFlag,
      secondChromaQpIndexOffset }

/-- The bits of a picture parameter set without slice groups, with the fields at its
end. -/
def PicParameterSet.encode (pps : PicParameterSet) : List Bool :=
  ueBits pps.picParameterSetId ++ (ueBits pps.seqParameterSetId ++
    ([pps.entropyCodingModeFlag] ++ ([pps.bottomFieldPicOrderInFramePresentFlag] ++ (ueBits 0 ++
      (ueBits pps.numRefIdxL0DefaultActiveMinus1 ++ (ueBits pps.numRefIdxL1DefaultActiveMinus1 ++
        ([pps.weightedPredFlag] ++ (bitsOf 2 pps.weightedBipredIdc ++
          (seBits pps.picInitQpMinus26 ++ (seBits pps.picInitQsMinus26 ++
            (seBits pps.chromaQpIndexOffset ++ ([pps.deblockingFilterControlPresentFlag] ++
              ([pps.constrainedIntraPredFlag] ++ ([pps.redundantPicCntPresentFlag] ++
                ([pps.transform8x8ModeFlag] ++ ([false] ++
                  seBits pps.secondChromaQpIndexOffset))))))))))))))))

/-- There is a one in every signed code. -/
theorem true_mem_seBits (value : Int) : true ∈ seBits value := by
  unfold seBits
  rw [ueBits_eq]
  exact List.mem_append_right _ (List.mem_cons_self)

theorem readTransform8x8_run (offset : Int) (transform : Bool) (second : Int) (rest : List Bool) :
    (readTransform8x8 offset).run ([transform] ++ ([false] ++ (seBits second ++ rest))) =
      some ((transform, second), rest) := by
  have hmore : moreRbspData.run ([transform] ++ ([false] ++ (seBits second ++ rest))) =
      some (true, [transform] ++ ([false] ++ (seBits second ++ rest))) := by
    have hone : ([false] ++ (seBits second ++ rest)).any id = true := by
      rw [List.any_eq_true]
      exact ⟨true, by simp [true_mem_seBits], rfl⟩
    show some (([false] ++ (seBits second ++ rest)).any id, _) = _
    rw [hone]
  unfold readTransform8x8
  rw [bind_run hmore, if_pos rfl]
  show (readSe >>= fun second => pure (transform, second) : BitReader (Bool × Int)).run
    (seBits second ++ rest) = _
  rw [bind_run (readSe_run _ _)]
  rfl

/-- The syntax undoes the encoding of a picture parameter set. -/
theorem PicParameterSet.read_encode {pps : PicParameterSet} (h : pps.weightedBipredIdc < 2 ^ 2)
    (rest : List Bool) :
    readPicParameterSet.run (pps.encode ++ rest) = some (pps, rest) := by
  unfold readPicParameterSet PicParameterSet.encode
  simp only [List.append_assoc]
  rw [bind_run (readUe_run _ _), bind_run (readUe_run _ _), bind_run (readFlag_append _ _),
    bind_run (readFlag_append _ _), bind_run (readUe_run _ _), if_neg (not_not_intro rfl),
    bind_run (readUe_run _ _), bind_run (readUe_run _ _), bind_run (readFlag_append _ _),
    bind_run (readBits_run h _), bind_run (readSe_run _ _), bind_run (readSe_run _ _),
    bind_run (readSe_run _ _), bind_run (readFlag_append _ _), bind_run (readFlag_append _ _),
    bind_run (readFlag_append _ _), bind_run (readTransform8x8_run _ _ _ _)]
  rfl

/-! ## NAL units -/

/-- `rbsp_trailing_bits`: a one and the zeros up to the end of its byte. -/
def trailingBits : List Bool → Bool
  | [] => false
  | stop :: zeros => stop && zeros.all (!·) && decide (zeros.length < 8)

/-- The value in a NAL unit with the given header byte, if the syntax reads the unit up
to its trailing bits. -/
def parseNal {α : Type} (header : UInt8) (read : BitReader α) (unit : List UInt8) : Option α :=
  match unescape 0 unit with
  | [] => none
  | first :: rbsp =>
      if first = header then
        match read.run (bytesBits rbsp) with
        | none => none
        | some (value, rest) => if trailingBits rest then some value else none
      else none

theorem trailingBits_zeros {zeros : Nat} (h : zeros < 8) :
    trailingBits (true :: List.replicate zeros false) = true := by
  unfold trailingBits
  simp [h]

/-- A unit is parsed if its syntax undoes the encoding of its bits. -/
theorem parseNal_escape {α : Type} {header : UInt8} {read : BitReader α} {rbsp : List UInt8}
    {bits : List Bool} {zeros : Nat} {value : α} (hheader : header ≠ 0)
    (hbits : bytesBits rbsp = bits ++ true :: List.replicate zeros false) (hzeros : zeros < 8)
    (hread : ∀ rest, read.run (bits ++ rest) = some (value, rest)) :
    parseNal header read (header :: escape 0 rbsp) = some value := by
  have hunit : unescape 0 (header :: escape 0 rbsp) = header :: rbsp := by
    have hrun : zeroRun 0 header = 0 := if_neg hheader
    rw [unescape, if_neg fun h => absurd h.1 (by decide), hrun, unescape_escape]
  unfold parseNal
  rw [hunit]
  show (if header = header then _ else _) = _
  rw [if_pos rfl, hbits, hread]
  exact if_pos (trailingBits_zeros hzeros)

/-- A sequence parameter set and a picture parameter set in one byte stream: exactly two
units, each behind a start code. -/
def parseParameterSets (stream : List UInt8) : Option (SeqParameterSet × PicParameterSet) :=
  match splitStartCodes stream with
  | [[], spsUnit, ppsUnit] =>
      match parseNal 0x67 readSeqParameterSet spsUnit,
        parseNal 0x68 readPicParameterSet ppsUnit with
      | some sps, some pps => some (sps, pps)
      | _, _ => none
  | _ => none

/-- Trailing bits do not leave a zero byte at the end of a unit. -/
theorem getLast?_ne_zero {rbsp : List UInt8} {bits : List Bool} {zeros : Nat}
    (hbits : bytesBits rbsp = bits ++ true :: List.replicate zeros false) (hzeros : zeros < 8) :
    rbsp.getLast? ≠ some 0 := by
  intro hlast
  obtain ⟨bytes, rfl⟩ := List.getLast?_eq_some_iff.mp hlast
  have hsplit : bytesBits (bytes ++ [0]) = bytesBits bytes ++ List.replicate 8 false :=
    List.flatMap_append
  rw [hsplit] at hbits
  -- the one is among the last eight bits
  have hreverse := congrArg List.reverse hbits
  simp only [List.reverse_append, List.reverse_cons, List.reverse_replicate,
    List.append_assoc] at hreverse
  have hzero : (List.replicate 8 false ++ (bytesBits bytes).reverse)[zeros]? = some false := by
    rw [List.getElem?_append_left (by simpa using hzeros), List.getElem?_replicate,
      if_pos hzeros]
  have hone : (List.replicate zeros false ++ ([true] ++ bits.reverse))[zeros]? = some true := by
    rw [List.getElem?_append_right (by simp)]
    simp
  rw [hreverse, hone] at hzero
  cases hzero

/-- Two escaped units behind start codes are split off whole. -/
theorem splitStartCodes_units {spsRbsp ppsRbsp : List UInt8} (hspsLast : spsRbsp.getLast? ≠ some 0)
    (hppsLast : ppsRbsp.getLast? ≠ some 0) :
    splitStartCodes ((startCode ++ 0x67 :: escape 0 spsRbsp) ++
      (startCode ++ 0x68 :: escape 0 ppsRbsp)) =
        [[], 0x67 :: escape 0 spsRbsp, 0x68 :: escape 0 ppsRbsp] := by
  have hlast : ∀ {header : UInt8} {rbsp : List UInt8}, header ≠ 0 → rbsp.getLast? ≠ some 0 →
      (header :: escape 0 rbsp).getLast? ≠ some 0 := by
    intro header rbsp hheader hrbsp
    rw [List.getLast?_cons, getLast?_escape]
    cases hcase : rbsp.getLast? with
    | none => exact fun h => hheader (Option.some.inj h)
    | some byte => rwa [hcase] at hrbsp
  have hescaped : ∀ {header : UInt8} {rbsp : List UInt8}, header ≠ 0 →
      Escaped 0 (header :: escape 0 rbsp) := by
    intro header rbsp hheader
    have hrun : zeroRun 0 header = 0 := if_neg hheader
    refine ⟨fun h => absurd h (by decide), ?_⟩
    rw [hrun]
    exact escaped_escape 0 rbsp
  rw [List.append_assoc, splitStartCodes_startCode,
    splitStartCodes_append (hescaped (by decide)) (hlast (by decide) hspsLast),
    splitStartCodes_of_escaped (hescaped (by decide)) (hlast (by decide) hppsLast)]

/-- Two escaped units behind start codes are parsed one by one. -/
theorem parseParameterSets_eq {spsRbsp ppsRbsp : List UInt8} {sps : SeqParameterSet}
    {pps : PicParameterSet} (hspsLast : spsRbsp.getLast? ≠ some 0)
    (hppsLast : ppsRbsp.getLast? ≠ some 0)
    (hsps : parseNal 0x67 readSeqParameterSet (0x67 :: escape 0 spsRbsp) = some sps)
    (hpps : parseNal 0x68 readPicParameterSet (0x68 :: escape 0 ppsRbsp) = some pps) :
    parseParameterSets ((startCode ++ 0x67 :: escape 0 spsRbsp) ++
      (startCode ++ 0x68 :: escape 0 ppsRbsp)) = some (sps, pps) := by
  unfold parseParameterSets
  rw [splitStartCodes_units hspsLast hppsLast]
  show (match parseNal 0x67 readSeqParameterSet _, parseNal 0x68 readPicParameterSet _ with
    | some sps, some pps => some (sps, pps)
    | _, _ => none) = _
  rw [hsps, hpps]

/-- The sequence parameter set of a byte stream of two units, and its
`frame_cropping_flag`. -/
def parseSps (stream : List UInt8) : Option (SeqParameterSet × Bool) :=
  match splitStartCodes stream with
  | [[], spsUnit, _] =>
      match parseNal 0x67 readSeqParameterSet spsUnit,
          readFrameCroppingFlag.run (bytesBits ((unescape 0 spsUnit).drop 1)) with
      | some sps, some (flag, _) => some (sps, flag)
      | _, _ => none
  | _ => none

/-- An escaped sequence parameter set behind a start code is parsed, whatever the second
unit is. -/
theorem parseSps_eq {spsRbsp ppsRbsp : List UInt8} {sps : SeqParameterSet} {zeros : Nat}
    (hsps : sps.WellFormed) (hzeros : zeros < 8)
    (hbits : bytesBits spsRbsp = sps.encode ++ true :: List.replicate zeros false)
    (hppsLast : ppsRbsp.getLast? ≠ some 0) :
    parseSps ((startCode ++ 0x67 :: escape 0 spsRbsp) ++
      (startCode ++ 0x68 :: escape 0 ppsRbsp)) =
        some (sps, decide (sps.frameCrop ≠ ⟨0, 0, 0, 0⟩)) := by
  have hparsed : parseNal 0x67 readSeqParameterSet (0x67 :: escape 0 spsRbsp) = some sps :=
    parseNal_escape (by decide) hbits hzeros (SeqParameterSet.read_encode hsps)
  obtain ⟨left, hflag⟩ := SeqParameterSet.read_croppingFlag hsps
    (true :: List.replicate zeros false)
  have hunit : (unescape 0 (0x67 :: escape 0 spsRbsp)).drop 1 = spsRbsp := by
    show unescape 0 (escape 0 spsRbsp) = spsRbsp
    exact unescape_escape 0 spsRbsp
  unfold parseSps
  rw [splitStartCodes_units (getLast?_ne_zero hbits hzeros) hppsLast]
  simp only
  rw [hunit, hparsed, hbits, hflag]

end UuAmfBridge
