import UuAmfBridge.Dxva.FrameSize
import UuAmfBridge.Dxva.Scaling

/-!
# The bounds of an upload

`upload_nv12` of `src/dxva_bridge.c` reads a frame of any size, odd sizes included, and
hands a texture of any size to Direct3D: as it is, or by way of a buffer with the size of
the texture into which the frame is copied or scaled.

* `paddedCopies_inside` and `scaledCopies_inside`: the copies read bytes of the frame and
  write bytes of the image of the texture.
* `uploadNv12_cases`: how a call ends, and that only a call that succeeds updates the
  texture.
* `upload_stays_inside`: every call.
-/

namespace UuAmfBridge

/-- Every copy reads below `sourceSize` and writes below `targetSize`. -/
def CopiesInside (copies : List MemCopy) (sourceSize targetSize : Nat) : Prop :=
  ∀ copy ∈ copies, copy.src + copy.count ≤ sourceSize ∧ copy.dst + copy.count ≤ targetSize

/-- The bytes of an NV12 image. -/
def nv12Size (width height : UInt32) : Nat := 3 * width.toNat * height.toNat / 2

/-- The sizes of a frame of at most 128 MiB and of a texture whose image has a size that
is a `UINT`. -/
structure UploadSizes (width height : UInt32) (desc : TextureDesc) : Prop where
  width_ne : width ≠ 0
  height_ne : height ≠ 0
  source_le : nv12Size width height ≤ 128 * 1024 * 1024
  targetWidth_ne : desc.width ≠ 0
  targetHeight_ne : desc.height ≠ 0
  target_lt : nv12Size desc.width desc.height < 2 ^ 32

/-! ## Rows of an image -/

section Rows

variable {width height : UInt32} {x y count : Nat}

/-- Bytes of a luma row. -/
theorem lumaBytes_le (hx : x + count ≤ width.toNat) (hy : y < height.toNat) :
    y * width.toNat + x + count ≤ nv12Size width height := by
  have hrow : (y + 1) * width.toNat ≤ height.toNat * width.toNat := Nat.mul_le_mul_right _ hy
  rw [Nat.add_mul, Nat.one_mul, Nat.mul_comm height.toNat] at hrow
  unfold nv12Size
  rw [Nat.mul_assoc]
  omega

/-- Bytes of a chroma row. -/
theorem chromaBytes_le (hx : x + count ≤ width.toNat) (hy : y < height.toNat / 2) :
    width.toNat * height.toNat + y * width.toNat + x + count ≤ nv12Size width height := by
  have hrow : (y + 1) * width.toNat ≤ height.toNat / 2 * width.toNat :=
    Nat.mul_le_mul_right _ hy
  have hhalf : height.toNat / 2 * 2 * width.toNat ≤ height.toNat * width.toNat :=
    Nat.mul_le_mul_right _ (Nat.div_mul_le_self _ _)
  rw [Nat.add_mul, Nat.one_mul] at hrow
  rw [Nat.mul_right_comm, Nat.mul_comm height.toNat] at hhalf
  unfold nv12Size
  rw [Nat.mul_assoc]
  omega

end Rows

section Copies

variable {width height : UInt32} {desc : TextureDesc}

/-- Bytes of a chroma row of the texture: its number does not wrap. -/
theorem UploadSizes.targetChroma (h : UploadSizes width height desc) {x y count : Nat}
    (hx : x + count ≤ desc.width.toNat) (hy : y < desc.height.toNat / 2) :
    (desc.height + UInt32.ofNat y).toNat * desc.width.toNat + x + count ≤
      nv12Size desc.width desc.height := by
  have hwidth := UuAmfBridge.pos_of_ne_zero h.targetWidth_ne
  have hrows : desc.height.toNat + desc.height.toNat / 2 < 2 ^ 32 := by
    have hsize := h.target_lt
    have hone : desc.height.toNat ≤ desc.width.toNat * desc.height.toNat :=
      Nat.le_mul_of_pos_left _ hwidth
    unfold nv12Size at hsize
    rw [Nat.mul_assoc] at hsize
    omega
  rw [chromaRow_toNat hrows hy, Nat.add_mul, Nat.mul_comm desc.height.toNat]
  exact chromaBytes_le hx hy

/-- The copies of a frame that fits. -/
theorem paddedCopies_inside (h : UploadSizes width height desc)
    (hfits : SizeLe (width, height) desc.width desc.height) :
    CopiesInside (paddedCopies width height desc) (nv12Size width height)
      (nv12Size desc.width desc.height) := by
  obtain ⟨hwidth, hheight⟩ := hfits
  have hwidth' : width.toNat ≤ desc.width.toNat := hwidth
  have hheight' : height.toNat ≤ desc.height.toNat := hheight
  intro copy hcopy
  rcases List.mem_append.mp hcopy with hluma | hchroma
  · obtain ⟨y, hy, rfl⟩ := mem_stridedCopies.mp hluma
    have hread := @lumaBytes_le width height 0 y width.toNat (by omega) hy
    have hwrite := @lumaBytes_le desc.width desc.height 0 y width.toNat (by omega) (by omega)
    simp only
    omega
  · obtain ⟨y, hy, rfl⟩ := List.mem_map.mp hchroma
    rw [List.mem_range, show (height / 2).toNat = height.toNat / 2 from UInt32.toNat_div height 2]
      at hy
    have hread := @chromaBytes_le width height 0 y width.toNat (by omega) hy
    have hwrite := @UploadSizes.targetChroma width height desc h 0 y width.toNat (by omega)
      (by omega)
    simp only
    omega

/-- The copies of a frame that is scaled. -/
theorem scaledCopies_inside (h : UploadSizes width height desc) :
    CopiesInside (scaledCopies width height desc) (nv12Size width height)
      (nv12Size desc.width desc.height) := by
  obtain ⟨⟨hwidth, hheight⟩, htargetWidth, htargetHeight⟩ := outputSize_le width height desc
  have heven := (outputSize_even width height desc).1
  obtain ⟨hcopies, hnearest⟩ :=
    And.intro (scaledCopies_eq width height desc) (uploadSampling_nearest width height desc)
  rw [hcopies]
  generalize outputSize width height desc = output at *
  intro copy hcopy
  rcases Sampling.mem_copies.mp hcopy with ⟨y, hy, x, hx, rfl⟩ | ⟨y, hy, x, hx, low, hlow, rfl⟩
  · have hcolumn := hnearest.lumaColumn_le x hx
    have hrow : (uploadSampling width height output).lumaRow y < height.toNat := by
      rw [hnearest.lumaRow y hy]
      exact exactColumn_lt (by omega) hy
    exact ⟨@lumaBytes_le width height ((uploadSampling width height output).lumaColumn x) _ 1
      (by omega) hrow, @lumaBytes_le desc.width desc.height x y 1 (by omega) (by omega)⟩
  · have hpair : (uploadSampling width height output).chromaPair x < width.toNat / 2 :=
      lt_of_le_of_lt (hnearest.chromaPair.le_exact x hx) (exactColumn_lt (by omega) hx)
    have hrow : (uploadSampling width height output).chromaRow y < height.toNat / 2 := by
      rw [hnearest.chromaRow y hy]
      exact exactColumn_lt (by omega) hy
    constructor
    · have hread := @chromaBytes_le width height
        ((uploadSampling width height output).chromaPair x * 2 + low) _ 1 (by omega) hrow
      simp only
      omega
    · have hwrite := @UploadSizes.targetChroma width height desc h (x * 2 + low) y 1 (by omega)
        (by omega)
      simp only
      omega

end Copies

/-! ## The whole call -/

/-- The copies of a call that does not hand the frame over as it is. -/
def uploadCopies (width height : UInt32) (desc : TextureDesc) : List MemCopy :=
  if outputSize width height desc = (width, height) then paddedCopies width height desc
  else scaledCopies width height desc

/-- What a call divides by, whichever branches it takes: the size of the frame, and behind
the check of the output size those of the scaled copy. -/
def uploadDivisors (width height : UInt32) (desc : TextureDesc) : List UInt32 :=
  let output := outputSize width height desc
  [width, height] ++
    if output.1 = 0 ∨ output.2 = 0 then []
    else [output.1, output.1 / 2, output.2, output.2 / 2]

/-- What the image that is handed to Direct3D is made of. -/
inductive HandedImage (env : UploadEnv) (decoder : BridgeDecoder) (data : Nat → UInt8)
    (width height : UInt32) (image : Nat → UInt8) : Prop where
  /-- The frame, which has the size of the texture. -/
  | frame (image_eq : image = data) (width_eq : width = env.desc.width)
      (height_eq : height = env.desc.height)
  /-- The upload buffer behind the copies; it has room for the image of the texture. -/
  | copied (cleared : BridgeDecoder) (cleared_eq : clearedUpload env decoder = some cleared)
      (room : (uploadSize env.desc).toNat ≤ cleared.uploadCapacity.toNat)
      (image_eq : image = copyAll (uploadCopies width height env.desc) data cleared.upload)

/-- The upload buffer has room for what is cleared. -/
theorem clearedUpload_room {env : UploadEnv} {decoder cleared : BridgeDecoder}
    (h : clearedUpload env decoder = some cleared) :
    (uploadSize env.desc).toNat ≤ cleared.uploadCapacity.toNat := by
  unfold clearedUpload at h
  simp only at h
  split_ifs at h with hlarge hrealloc hgrow
  · obtain rfl := Option.some.inj h
    have hsmall : (uploadSize env.desc).toNat ≤ 4294967295 := UInt64.not_lt.mp hlarge
    simp only
    rw [UInt64.toNat_toUInt32, Nat.mod_eq_of_lt (by omega)]
  · obtain rfl := Option.some.inj h
    have hfits : (uploadSize env.desc).toNat ≤ decoder.uploadCapacity.toUInt64.toNat :=
      UInt64.not_lt.mp hgrow
    simp only
    rwa [UInt32.toNat_toUInt64] at hfits

/-- A call fails and leaves the texture alone, or it hands an image over. -/
theorem uploadNv12_cases (env : UploadEnv) (decoder : BridgeDecoder) (data : Nat → UInt8)
    (width height : UInt32) :
    ((uploadNv12 env decoder data width height).update = none ∧
        hrFailed (uploadNv12 env decoder data width height).result = true) ∨
      ∃ update, (uploadNv12 env decoder data width height).update = some update ∧
        (uploadNv12 env decoder data width height).result = sOk ∧
          HandedImage env decoder data width height update.data := by
  have hfail : hrFailed eFail = true := by decide
  have hinvalid : hrFailed eInvalidarg = true := by decide
  have hmemory : hrFailed eOutofmemory = true := by decide
  have hcopies : uploadCopies width height env.desc =
      if outputSize width height env.desc = (width, height) then
        paddedCopies width height env.desc
      else scaledCopies width height env.desc := rfl
  unfold uploadNv12
  cases decoder.output with
  | none => exact Or.inl ⟨rfl, hfail⟩
  | some view =>
    simp only [← hcopies]
    by_cases hours : (!view.ours) = true
    · rw [if_pos hours]
      exact Or.inl ⟨rfl, hfail⟩
    rw [if_neg hours]
    by_cases hquery : hrFailed env.queryInterface = true
    · rw [if_pos hquery]
      exact Or.inl ⟨rfl, hquery⟩
    rw [if_neg hquery]
    split_ifs with hargument hempty hsame
    · exact Or.inl ⟨rfl, hinvalid⟩
    · exact Or.inl ⟨rfl, hinvalid⟩
    · exact Or.inr ⟨_, rfl, rfl, .frame rfl hsame.2.1 hsame.2.2⟩
    · cases hcleared : clearedUpload env decoder with
      | none => exact Or.inl ⟨rfl, hmemory⟩
      | some cleared =>
        exact Or.inr ⟨_, rfl, rfl, .copied cleared hcleared (clearedUpload_room hcleared) rfl⟩

/-- A call with these sizes does not leave its buffers. -/
structure StaysInside (env : UploadEnv) (decoder : BridgeDecoder) (data : Nat → UInt8)
    (width height : UInt32) : Prop where
  divisors_ne : ∀ divisor ∈ uploadDivisors width height env.desc, divisor ≠ 0
  output_even : (outputSize width height env.desc).1.toNat % 2 = 0 ∧
    (outputSize width height env.desc).2.toNat % 2 = 0
  output_le_source : SizeLe (outputSize width height env.desc) width height
  output_le_target : SizeLe (outputSize width height env.desc) env.desc.width env.desc.height
  copies : CopiesInside (uploadCopies width height env.desc) (nv12Size width height)
    (nv12Size env.desc.width env.desc.height)
  /-- Direct3D reads the image of the texture from the frame or from the upload buffer. -/
  image : ∀ update, (uploadNv12 env decoder data width height).update = some update →
    ∀ k, ImageByte env.desc.width.toNat env.desc.height.toNat k →
      (update.data = data ∧ k < nv12Size width height) ∨
        ∃ cleared, clearedUpload env decoder = some cleared ∧
          update.data = copyAll (uploadCopies width height env.desc) data cleared.upload ∧
            nv12Size env.desc.width env.desc.height ≤ cleared.uploadCapacity.toNat ∧
              k < nv12Size env.desc.width env.desc.height
  errors_first : hrFailed (uploadNv12 env decoder data width height).result = true →
    (uploadNv12 env decoder data width height).update = none

theorem uploadDivisors_ne {width height : UInt32} {desc : TextureDesc}
    (h : UploadSizes width height desc) :
    ∀ divisor ∈ uploadDivisors width height desc, divisor ≠ 0 := by
  obtain ⟨hevenWidth, hevenHeight⟩ := outputSize_even width height desc
  have hhalf : ∀ {value : UInt32}, value ≠ 0 → value.toNat % 2 = 0 → value / 2 ≠ 0 := by
    intro value hvalue heven hzero
    have hpos := pos_of_ne_zero hvalue
    have hnat : value.toNat / 2 = 0 := (UInt32.toNat_div value 2).symm.trans
      (congrArg UInt32.toNat hzero)
    omega
  intro divisor hdivisor
  unfold uploadDivisors at hdivisor
  simp only at hdivisor
  rcases List.mem_append.mp hdivisor with hsize | hscaled
  · simp only [List.mem_cons, List.not_mem_nil, or_false] at hsize
    rcases hsize with rfl | rfl
    · exact h.width_ne
    · exact h.height_ne
  · split_ifs at hscaled with hempty
    · cases hscaled
    · obtain ⟨hwidth, hheight⟩ := not_or.mp hempty
      simp only [List.mem_cons, List.not_mem_nil, or_false] at hscaled
      rcases hscaled with rfl | rfl | rfl | rfl
      · exact hwidth
      · exact hhalf hwidth hevenWidth
      · exact hheight
      · exact hhalf hheight hevenHeight

/-- `upload_nv12` never leaves its buffers. -/
theorem upload_stays_inside {env : UploadEnv} {width height : UInt32}
    (h : UploadSizes width height env.desc) (decoder : BridgeDecoder) (data : Nat → UInt8) :
    StaysInside env decoder data width height := by
  obtain ⟨hsource, htarget⟩ := outputSize_le width height env.desc
  have hcopies : CopiesInside (uploadCopies width height env.desc) (nv12Size width height)
      (nv12Size env.desc.width env.desc.height) := by
    unfold uploadCopies
    split_ifs with hsame
    · rw [hsame] at htarget
      exact paddedCopies_inside h htarget
    · exact scaledCopies_inside h
  have hsize : (uploadSize env.desc).toNat = nv12Size env.desc.width env.desc.height := by
    have hlt := h.target_lt
    have hproduct : env.desc.width.toNat * env.desc.height.toNat * 3 =
        3 * env.desc.width.toNat * env.desc.height.toNat := by ring
    unfold nv12Size at hlt ⊢
    rw [← hproduct] at hlt ⊢
    exact nv12Size_toNat (by omega)
  refine ⟨uploadDivisors_ne h, outputSize_even width height env.desc, hsource, htarget, hcopies,
    ?_, ?_⟩
  · intro update hupdate k hk
    rcases uploadNv12_cases env decoder data width height with
      ⟨hnone, -⟩ | ⟨other, hsome, -, himage⟩
    · rw [hnone] at hupdate
      cases hupdate
    · obtain rfl := Option.some.inj (hsome.symm.trans hupdate)
      cases himage with
      | frame image_eq width_eq height_eq =>
        left
        rw [width_eq, height_eq]
        exact ⟨image_eq, hk.lt⟩
      | copied cleared cleared_eq room image_eq =>
        right
        rw [hsize] at room
        exact ⟨cleared, cleared_eq, image_eq, room, hk.lt⟩
  · intro hfailed
    rcases uploadNv12_cases env decoder data width height with ⟨hnone, -⟩ | ⟨-, -, hok, -⟩
    · exact hnone
    · rw [hok] at hfailed
      exact absurd hfailed (by decide)

/-- A frame of five by three pixels in a texture of four by four. -/
theorem odd_frame_stays_inside :
    StaysInside { desc := ⟨true, 4, 4⟩ } { desc := ⟨5, 3⟩, output := some {} } (fun _ => 128) 5 3 :=
  upload_stays_inside ⟨by decide, by decide, by decide, by decide, by decide, by decide⟩ _ _

end UuAmfBridge
