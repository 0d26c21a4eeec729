import UuAmfBridge.Dxva.ExpGolomb
import UuAmfBridge.Dxva.ParameterSets

/-!
# The bytes of the parameter sets

`append_nal` writes into the array `parameter_sets` of `context_end_frame`, and the bit
writers before it into arrays of their own.  No function on the way looks at the size of
its array.

* `append_nal_escaped`: the unit behind the start code holds no start code, `00 00 03`
  only where the loop has put the `03`, and the reader of escaped bytes gets header and
  bytes back.
* `parameter_sets_fit`: whatever the picture parameters and the sample size are, every
  bit goes into the array of its writer, no Exp-Golomb argument wraps, and both units fit
  into `parameter_sets`.

A parameter set is the list of its writer calls (`spsCalls`, `ppsCalls`), so a statement
about every call is one about the members of a list.
-/

namespace UuAmfBridge

/-! ## The escaped unit -/

/-- What `append_nal` writes behind the start code, with a mark on the bytes that its
escape branch writes. -/
def nalUnit (header : UInt8) (writer : BitWriter) : List (UInt8 × Bool) :=
  (header, false) :: escapeMarked 0 writer.bytes

theorem nalUnit_bytes (header : UInt8) (writer : BitWriter) :
    (nalUnit header writer).map Prod.fst = header :: escape 0 writer.bytes := by
  unfold nalUnit
  rw [List.map_cons, map_escapeMarked]

/-- A header that is not zero does not begin a run of zeros. -/
theorem escapedMarked_nalUnit {header : UInt8} (hheader : header ≠ 0) (writer : BitWriter) :
    EscapedMarked 0 (nalUnit header writer) := by
  refine ⟨fun h => absurd (show 2 ≤ 0 from h) (by decide), ?_⟩
  have hrun : zeroRun 0 header = 0 := if_neg hheader
  rw [hrun]
  exact escapedMarked_escapeMarked 0 writer.bytes

/-- The unit that `append_nal` writes, for any bytes in the writer: it prevents start
codes, and it is reversible. -/
theorem append_nal_escaped {header : UInt8} (hheader : header ≠ 0) (output : List UInt8)
    (writer : BitWriter) :
    let unit := (nalUnit header writer).map Prod.fst
    appendNal output header writer = output ++ startCode ++ unit ∧
      ((nalUnit header writer).filter fun marked => !marked.2).map Prod.fst =
        header :: writer.bytes ∧
      (∀ byte ≤ 2, ¬[0, 0, byte] <:+: unit) ∧
      (∀ before after first second inserted,
        nalUnit header writer =
          before ++ (0, first) :: (0, second) :: (3, inserted) :: after → inserted = true) ∧
      unescape 0 unit = header :: writer.bytes ∧
      (appendNal output header writer).length ≤
        output.length + 5 + writer.bytes.length + writer.bytes.length / 2 := by
  have hmarked := escapedMarked_nalUnit hheader writer
  refine ⟨?_, ?_, fun byte hbyte => hmarked.no_start hbyte, ?_, ?_, ?_⟩
  · rw [nalUnit_bytes, List.append_assoc]
    rfl
  · unfold nalUnit
    rw [List.filter_cons_of_pos rfl, List.map_cons, filter_escapeMarked]
  · intro before after first second inserted hunit
    rw [hunit] at hmarked
    exact (hmarked.behind_zeros (UInt8.le_refl 3)).2
  · rw [nalUnit_bytes, unescape, if_neg fun h => absurd h.1 (by decide)]
    have hrun : zeroRun 0 header = 0 := if_neg hheader
    rw [hrun, unescape_escape]
  · have hescape := length_escape_le 0 writer.bytes
    have hstart : startCode.length = 4 := rfl
    unfold appendNal
    rw [List.length_append, List.length_append, List.length_cons]
    omega

/-- A unit of three zero bytes and a one. -/
theorem zero_bytes_escaped :
    unescape 0 ((nalUnit 0x67 { data := fun i => if i = 3 then 1 else 0, bits := 32 }).map
      Prod.fst) = [0x67, 0, 0, 0, 1] :=
  (append_nal_escaped (by decide) []
    { data := fun i => if i = 3 then 1 else 0, bits := 32 }).2.2.2.2.1

/-! ## The calls of the writer -/

/-- A call of one of the functions of the bit writer. -/
inductive WriterCall where
  | bit (value : UInt32)
  | bits (value : UInt32) (count : Nat)
  | ue (value : UInt32)
  | se (value : Int32)

/-- The writer after the call. -/
def WriterCall.write (writer : BitWriter) : WriterCall → BitWriter
  | .bit value => bwBit writer value
  | .bits value count => bwBits writer value count
  | .ue value => bwUe writer value
  | .se value => bwSe writer value

/-- Neither the code of `bw_ue` wraps in `UINT`, nor the product of `bw_se` in `int`. -/
def WriterCall.Exact : WriterCall → Prop
  | .bit _ => True
  | .bits _ count => count ≤ 32
  | .ue value => value.toNat + 1 < 2 ^ 32
  | .se value => 2 * |value.toInt| < 2 ^ 31 ∧ seCode value.toInt + 1 < 2 ^ 32

/-- The calls that write a sequence parameter set. -/
def spsCalls (pic : DxvaPicParams) (desc : VideoDecoderDesc) : List WriterCall :=
  [.bits 100 8, .bits 0 8, .bits 51 8, .ue 0, .ue (chromaFormatIdc pic)] ++
  (if pic.chromaFormatIdc.val = 3 then [.bit pic.residualColourTransformFlag.toUInt32] else []) ++
  [.ue pic.bitDepthLumaMinus8.toUInt32, .ue pic.bitDepthChromaMinus8.toUInt32, .bit 0, .bit 0,
    .ue pic.log2MaxFrameNumMinus4.toUInt32, .ue pic.picOrderCntType.toUInt32] ++
  (if pic.picOrderCntType = 0 then [.ue pic.log2MaxPicOrderCntLsbMinus4.toUInt32]
    else if pic.picOrderCntType = 1 then
      [.bit pic.deltaPicOrderAlwaysZeroFlag.toUInt32, .se 0, .se 0, .ue 0]
    else []) ++
  [.ue pic.numRefFrames.toUInt32, .bit 0, .ue pic.wFrameWidthInMbsMinus1.toUInt32,
    .ue pic.wFrameHeightInMbsMinus1.toUInt32, .bit pic.frameMbsOnlyFlag.toUInt32] ++
  (if !pic.frameMbsOnlyFlag then [.bit pic.mbaffFrameFlag.toUInt32] else []) ++
  [.bit pic.direct8x8InferenceFlag.toUInt32,
    .bit (cropRight pic desc ≠ 0 || cropBottom pic desc ≠ 0).toUInt32] ++
  (if cropRight pic desc ≠ 0 || cropBottom pic desc ≠ 0 then
      [.ue 0, .ue (cropRight pic desc), .ue 0, .ue (cropBottom pic desc)]
    else []) ++
  [.bit 0]

/-- The calls that write a picture parameter set. -/
def ppsCalls (pic : DxvaPicParams) : List WriterCall :=
  [.ue 0, .ue 0, .bit pic.entropyCodingModeFlag.toUInt32, .bit pic.picOrderPresentFlag.toUInt32,
    .ue pic.numSliceGroupsMinus1.toUInt32, .ue pic.numRefIdxL0ActiveMinus1.toUInt32,
    .ue pic.numRefIdxL1ActiveMinus1.toUInt32, .bit pic.weightedPredFlag.toUInt32,
    .bits (UInt32.ofNat pic.weightedBipredIdc) 2, .se pic.picInitQpMinus26.toInt32,
    .se pic.picInitQsMinus26.toInt32, .se pic.chromaQpIndexOffset.toInt32,
    .bit pic.deblockingFilterControlPresentFlag.toUInt32,
    .bit pic.constrainedIntraPredFlag.toUInt32, .bit pic.redundantPicCntPresentFlag.toUInt32,
    .bit pic.transform8x8ModeFlag.toUInt32, .bit 0, .se pic.secondChromaQpIndexOffset.toInt32]

/-- A group of calls that is only made sometimes. -/
theorem foldl_write_ite {condition : Prop} [Decidable condition] (writer : BitWriter)
    (calls other : List WriterCall) :
    (if condition then calls else other).foldl WriterCall.write writer =
      if condition then calls.foldl WriterCall.write writer
      else other.foldl WriterCall.write writer := by
  split_ifs <;> rfl

theorem writeSps_eq (pic : DxvaPicParams) (desc : VideoDecoderDesc) (writer : BitWriter) :
    writeSps pic desc writer = (spsCalls pic desc).foldl WriterCall.write writer := by
  have hthree : ∀ set clear : BitWriter, (if pic.chromaFormatIdc.val = 3 then set else clear) =
      if pic.chromaFormatIdc = 3 then set else clear :=
    fun _ _ => if_congr (Fin.ext_iff (b := (3 : Fin 4))).symm rfl rfl
  unfold spsCalls
  simp only [List.foldl_append, foldl_write_ite, hthree]
  rfl

theorem writePps_eq (pic : DxvaPicParams) (writer : BitWriter) :
    writePps pic writer = (ppsCalls pic).foldl WriterCall.write writer := rfl

theorem calls_write (call : WriterCall) : Calls fun writer => call.write writer := by
  cases call with
  | bit value => exact calls_bwBit value
  | bits value count => exact calls_bwBits value count
  | ue value => exact calls_bwUe value
  | se value => exact calls_bwSe value

theorem calls_foldl (calls : List WriterCall) :
    Calls fun writer => calls.foldl WriterCall.write writer := by
  induction calls with
  | nil => exact calls_nothing
  | cons call calls ih => exact (calls_write call).comp ih

/-! ## No argument wraps -/

theorem exact_byte (value : UInt8) : (WriterCall.ue value.toUInt32).Exact := by
  have hvalue : value.toUInt32.toNat = value.toNat := UInt8.toNat_toUInt32 value
  have hbound := value.toNat_lt
  show value.toUInt32.toNat + 1 < 2 ^ 32
  omega

theorem exact_short (value : UInt16) : (WriterCall.ue value.toUInt32).Exact := by
  have hvalue : value.toUInt32.toNat = value.toNat := UInt16.toNat_toUInt32 value
  have hbound := value.toNat_lt
  show value.toUInt32.toNat + 1 < 2 ^ 32
  omega

theorem exact_char (value : Int8) : (WriterCall.se value.toInt32).Exact := by
  have hvalue : value.toInt32.toInt = value.toInt := Int8.toInt_toInt32 value
  have hlow := value.le_toInt
  have hhigh := value.toInt_lt
  have habs : |value.toInt32.toInt| < 129 := by
    rw [hvalue, abs_lt]
    omega
  have hcode : seCode value.toInt32.toInt ≤ 256 := by
    rw [hvalue]
    unfold seCode
    split_ifs <;> omega
  exact ⟨by omega, by omega⟩

theorem exact_zero : (WriterCall.ue 0).Exact := exact_byte 0

/-- The calls of a group that is only made sometimes. -/
theorem forall_mem_ite {condition : Prop} [Decidable condition] {calls other : List WriterCall}
    (hcalls : ∀ call ∈ calls, call.Exact) (hother : ∀ call ∈ other, call.Exact) :
    ∀ call ∈ (if condition then calls else other), call.Exact := by
  split_ifs
  · exact hcalls
  · exact hother

theorem exact_spsCalls (pic : DxvaPicParams) (desc : VideoDecoderDesc) :
    ∀ call ∈ spsCalls pic desc, call.Exact := by
  have hformat : (WriterCall.ue (chromaFormatIdc pic)).Exact := by
    have hvalue := chromaFormatIdc_toNat pic
    have hsmall := pic.chromaFormatIdc.isLt
    show (chromaFormatIdc pic).toNat + 1 < 2 ^ 32
    rw [hvalue]
    split_ifs <;> omega
  have hbit : ∀ value, (WriterCall.bit value).Exact := fun _ => trivial
  have hbits : ∀ value, (WriterCall.bits value 8).Exact := fun _ => by
    show 8 ≤ 32
    decide
  have hright : (WriterCall.ue (cropRight pic desc)).Exact := cropRight_lt pic desc
  have hbottom : (WriterCall.ue (cropBottom pic desc)).Exact := cropBottom_lt pic desc
  have hzero : (WriterCall.se 0).Exact := exact_char 0
  unfold spsCalls
  simp only [List.forall_mem_append]
  refine ⟨⟨⟨⟨⟨⟨⟨⟨?_, forall_mem_ite ?_ ?_⟩, ?_⟩, forall_mem_ite ?_ (forall_mem_ite ?_ ?_)⟩, ?_⟩,
    forall_mem_ite ?_ ?_⟩, ?_⟩, forall_mem_ite ?_ ?_⟩, ?_⟩ <;>
  simp [hformat, hbit, hbits, hright, hbottom, hzero, exact_byte, exact_short, exact_zero]

theorem exact_ppsCalls (pic : DxvaPicParams) : ∀ call ∈ ppsCalls pic, call.Exact := by
  have hbit : ∀ value, (WriterCall.bit value).Exact := fun _ => trivial
  have hbits : ∀ value, (WriterCall.bits value 2).Exact := fun _ => by
    show 2 ≤ 32
    decide
  unfold ppsCalls
  simp [hbit, hbits, exact_byte, exact_char, exact_zero]

/-! ## Both units -/

/-- A parameter set with its trailing bits stays in the array of its writer. -/
theorem within_bwTrailing {step : BitWriter → BitWriter} {count : Nat} (hcalls : Calls step)
    (hgrows : Grows step count) (hcount : count + 8 ≤ 8 * bitWriterBytes) :
    BitWriter.Within bitWriterBytes {} (bwTrailing (step {})) := by
  have hbits : (bwTrailing (step {})).bits ≤ 0 + (count + 8) := (hgrows.comp grows_bwTrailing) {}
  exact (hcalls.comp calls_bwTrailing).within (by omega)

/-- The parameter sets fit, for all picture parameters and all sample sizes. -/
theorem parameter_sets_fit (pic : DxvaPicParams) (desc : VideoDecoderDesc) :
    BitWriter.Within bitWriterBytes {} (bwTrailing (writeSps pic desc {})) ∧
      BitWriter.Within bitWriterBytes {} (bwTrailing (writePps pic {})) ∧
      (∀ writer, writeSps pic desc writer = (spsCalls pic desc).foldl WriterCall.write writer) ∧
      (∀ writer, writePps pic writer = (ppsCalls pic).foldl WriterCall.write writer) ∧
      (∀ call ∈ spsCalls pic desc ++ ppsCalls pic, call.Exact) ∧
      ∀ readPic parameters, (buildH264ParameterSets readPic parameters desc).length ≤ 600 := by
  refine ⟨?_, ?_, writeSps_eq pic desc, writePps_eq pic, ?_, ?_⟩
  · have hcalls : Calls (writeSps pic desc) := by
      intro writer
      rw [writeSps_eq]
      exact calls_foldl _ writer
    exact within_bwTrailing hcalls (grows_writeSps pic desc) (by decide)
  · exact within_bwTrailing (calls_foldl (ppsCalls pic)) (grows_writePps pic) (by decide)
  · rw [List.forall_mem_append]
    exact ⟨exact_spsCalls pic desc, exact_ppsCalls pic⟩
  · intro readPic parameters
    exact length_buildH264ParameterSets_le readPic parameters desc

end UuAmfBridge
