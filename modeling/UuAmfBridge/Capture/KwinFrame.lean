import UuAmfBridge.Capture.FrameState
import UuAmfBridge.Lib.ByteStream

/-!
# The bytes of a KWin capture

`capture_kwin_workspace` of `src/wayland_capture_helper.cpp`, down to its
buffers.  KWin names the sizes of the image in its reply and writes the image to
a pipe.  `captureKwin` follows the function from the pipe to `frame_state`, and
has no outcome where a `memcpy` or a byte of the exchange lies outside a buffer.

The guard compares a 32-bit product with the stride and two 64-bit products with
256 MiB.  `kwinAccepted_sizes` says that the products are exact whenever the
guard accepts, but for one image: of 2^31 rows and columns with stride zero, the
only one where both products of the width wrap to zero.

`kwin_converts_exactly_iff` is the result for every call, and `captureKwin_eq`
says that the outcome is the one of `captureKwinWorkspace`, which the frame
server publishes.
-/

namespace UuAmfBridge

/-! ## The call -/

/-- The results of `CaptureWorkspace` that are read. -/
structure KwinResults where
  width : UInt32
  height : UInt32
  stride : UInt32
  format : UInt32
  deriving Repr, DecidableEq

/-- What the call meets: whether there is a pipe, the results unless the D-Bus
call fails, and what can be read from the pipe. -/
structure KwinCall where
  pipe : Bool := true
  results : Option KwinResults
  reads : List RecvResult := []
  stream : List UInt8

namespace KwinResults

def rawSize (results : KwinResults) : UInt64 :=
  results.stride.toUInt64 * results.height.toUInt64

def outputSize (results : KwinResults) : UInt64 :=
  results.width.toUInt64 * results.height.toUInt64 * 4

/-- The guard, where it does not return. -/
def Accepted (results : KwinResults) : Prop :=
  results.width ≠ 0 ∧ results.height ≠ 0 ∧ results.width * 4 ≤ results.stride ∧
    results.rawSize ≤ maxFrameSize ∧ results.outputSize ≤ maxFrameSize

instance (results : KwinResults) : Decidable results.Accepted := by
  unfold Accepted
  infer_instance

end KwinResults

theorem ssizeMax_pos : 0 < 2 ^ 63 - 1 := by decide

/-- `read_exact_fd`. -/
def readExactFd : RecvStyle := ⟨2 ^ 63 - 1, true, ssizeMax_pos⟩

/-- The memory after the bytes at two addresses have changed places. -/
def exchangeBytes (first third : Nat) (memory : Nat → UInt8) : Nat → UInt8 :=
  Function.update (Function.update memory first (memory third)) third (memory first)

/-- The exchange of bytes 0 and 2 of pixel `x` in the row at `base`, unless one of
them is outside the buffer.  The index of a byte is a 32-bit product. -/
def exchangePixel (size base : Nat) (memory : Nat → UInt8) (x : Nat) : Option (Nat → UInt8) :=
  let first := base + x * 4 % 2 ^ 32
  let third := base + (x * 4 + 2) % 2 ^ 32
  if first < size ∧ third < size then some (exchangeBytes first third memory) else none

/-- How the loop over the rows goes on. -/
inductive RowOutcome where
  /-- An access lies outside its buffer. -/
  | fault
  | unsupportedFormat
  | copied (memory : Nat → UInt8)

/-- One row: the `memcpy`, then the format. -/
def copyKwinRow (results : KwinResults) (raw memory : Nat → UInt8) (y : Nat) : RowOutcome :=
  let copy : MemCopy :=
    { dst := y * results.width.toNat * 4 % 2 ^ 64
      src := y * results.stride.toNat % 2 ^ 64
      count := results.width.toNat * 4 }
  if results.rawSize.toNat < copy.src + copy.count ∨
      results.outputSize.toNat < copy.dst + copy.count then .fault
  else
    let destination := copy.apply raw memory
    if kwinSwapped results.format then
      match (List.range results.width.toNat).foldlM
          (exchangePixel results.outputSize.toNat copy.dst) destination with
      | none => .fault
      | some exchanged => .copied exchanged
    else if kwinCopied results.format then .copied destination
    else .unsupportedFormat

/-- The loop over the rows from `y` on, with `rows` of them left. -/
def copyKwinRows (results : KwinResults) (raw : Nat → UInt8) :
    Nat → Nat → (Nat → UInt8) → RowOutcome
  | 0, _, memory => .copied memory
  | rows + 1, y, memory =>
      match copyKwinRow results raw memory y with
      | .copied next => copyKwinRows results raw rows (y + 1) next
      | stopped => stopped

/-- `capture_kwin_workspace`: its value and `frame_state` afterwards, unless an
access lies outside its buffer.  `pixels` is the buffer before it is written. -/
def captureKwin (call : KwinCall) (pixels : Nat → UInt8) (state : FrameState) :
    Option (Bool × FrameState) :=
  if call.pipe = false then some (false, state)
  else
    match call.results with
    | none => some (false, state)
    | some results =>
      if ¬results.Accepted then some (false, state)
      else
        let read := recvLoop readExactFd call.reads results.rawSize.toNat call.stream
        if read.status ≠ .complete then some (false, state)
        else
          match copyKwinRows results (fun i => read.data.getD i 0) results.height.toNat 0
              pixels with
          | .fault => none
          | .unsupportedFormat => some (false, state)
          | .copied memory =>
              some (true, state.publish
                { width := results.width
                  height := results.height
                  pixels := (List.range results.outputSize.toNat).map memory })

/-! ## The guard -/

namespace KwinResults

/-- The image whose two products of the width wrap to zero. -/
def Wraps (results : KwinResults) : Prop :=
  results.width = 0x80000000 ∧ results.height = 0x80000000 ∧ results.stride = 0

instance (results : KwinResults) : Decidable results.Wraps := by
  unfold Wraps
  infer_instance

/-- The sizes of the image and its buffers, in exact arithmetic. -/
structure ExactSizes (results : KwinResults) : Prop where
  width_pos : 0 < results.width.toNat
  height_pos : 0 < results.height.toNat
  row_fits : 4 * results.width.toNat ≤ results.stride.toNat
  raw_le : results.stride.toNat * results.height.toNat ≤ 256 * 1024 * 1024
  output_le : 4 * results.width.toNat * results.height.toNat ≤ 256 * 1024 * 1024
  rawSize_eq : results.rawSize.toNat = results.stride.toNat * results.height.toNat
  outputSize_eq : results.outputSize.toNat = 4 * results.width.toNat * results.height.toNat
  /-- The products that the function computes in 32 bits do not wrap. -/
  row_exact : (results.width * 4).toNat = 4 * results.width.toNat
  index_exact : ∀ x < results.width.toNat, 4 * x + 2 < 2 ^ 32

theorem rawSize_toNat (results : KwinResults) :
    results.rawSize.toNat = results.stride.toNat * results.height.toNat := by
  have hstride := results.stride.toNat_lt
  have hheight := results.height.toNat_lt
  have hlt : results.stride.toNat * results.height.toNat < 2 ^ 32 * 2 ^ 32 :=
    Nat.mul_lt_mul'' hstride hheight
  unfold rawSize
  rw [UInt64.toNat_mul, UInt32.toNat_toUInt64, UInt32.toNat_toUInt64]
  exact Nat.mod_eq_of_lt (by omega)

theorem outputSize_toNat (results : KwinResults) :
    results.outputSize.toNat = 4 * results.width.toNat * results.height.toNat % 2 ^ 64 := by
  have hcommute : results.width.toNat * results.height.toNat * 4 =
      4 * results.width.toNat * results.height.toNat := by ring
  have hfour : (4 : UInt64).toNat = 4 := rfl
  unfold outputSize
  rw [UInt64.toNat_mul, UInt64.toNat_mul, UInt32.toNat_toUInt64, UInt32.toNat_toUInt64, hfour,
    Nat.mod_mul_mod, hcommute]

/-- Where the 64-bit product of the output wraps and the guard accepts all the
same, the image is the one that wraps to zero. -/
theorem wraps_of_wide {w h s : Nat} (hw : w < 2 ^ 32) (hh : h < 2 ^ 32)
    (hrow : w * 4 % 2 ^ 32 ≤ s) (hraw : s * h ≤ 2 ^ 28)
    (hout : 4 * w * h % 2 ^ 64 ≤ 2 ^ 28) (hwide : 2 ^ 64 ≤ 4 * w * h) :
    w = 2 ^ 31 ∧ h = 2 ^ 31 ∧ s = 0 := by
  have htall : 2 ^ 30 < h := by
    by_contra hle
    have hproduct : 4 * w * h ≤ 4 * w * 2 ^ 30 := Nat.mul_le_mul_left _ (by omega)
    clear hout hraw hrow
    omega
  have hs : s = 0 := by
    by_contra hne
    have hproduct : 1 * h ≤ s * h := Nat.mul_le_mul_right h (by omega)
    clear hout hrow hwide
    omega
  clear hraw
  -- Four times the width is a multiple of 2^32, so there are four widths left.
  have hwidths : w = 0 ∨ w = 2 ^ 30 ∨ w = 2 ^ 31 ∨ w = 3 * 2 ^ 30 := by
    clear hout hwide
    omega
  obtain hw | hw | hw | hw := hwidths
  all_goals
    rw [hw] at hout hwide ⊢
    clear hw hrow
  · omega
  · clear hout
    omega
  · omega
  · -- The height would be a multiple of 2^32.
    exfalso
    have hscale : 4 * (3 * 2 ^ 30) * h % 2 ^ 64 = 3 * h % 2 ^ 32 * 2 ^ 32 := by
      rw [← Nat.mul_mod_mul_right]
      ring_nf
    rw [hscale] at hout
    have hzero : 3 * h % 2 ^ 32 = 0 := by
      generalize 3 * h % 2 ^ 32 = r at hout ⊢
      omega
    have hcoprime : Nat.Coprime (2 ^ 32) 3 := Nat.Coprime.pow_left 32 (by decide)
    have hdvd : 2 ^ 32 ∣ h := hcoprime.dvd_of_dvd_mul_left (Nat.dvd_of_mod_eq_zero hzero)
    exact absurd (Nat.le_of_dvd (Nat.zero_lt_of_lt htall) hdvd) (Nat.not_le.mpr hh)

theorem accepted_toNat {results : KwinResults} (h : results.Accepted) :
    0 < results.width.toNat ∧ 0 < results.height.toNat ∧
      results.width.toNat * 4 % 2 ^ 32 ≤ results.stride.toNat ∧
      results.stride.toNat * results.height.toNat ≤ 2 ^ 28 ∧
      4 * results.width.toNat * results.height.toNat % 2 ^ 64 ≤ 2 ^ 28 := by
  obtain ⟨hwidth, hheight, hrow, hraw, hout⟩ := h
  rw [UInt32.le_iff_toNat_le, UInt32.toNat_mul] at hrow
  rw [UInt64.le_iff_toNat_le, rawSize_toNat] at hraw
  rw [UInt64.le_iff_toNat_le, outputSize_toNat] at hout
  exact ⟨pos_of_ne_zero hwidth, pos_of_ne_zero hheight, hrow, hraw, hout⟩

/-- But for one image, everything the guard computes for an image that it accepts
is exact. -/
theorem exactSizes_of_accepted {results : KwinResults} (h : results.Accepted)
    (hwraps : ¬results.Wraps) : results.ExactSizes := by
  obtain ⟨hwidth, hheight, hrow, hraw, hout⟩ := accepted_toNat h
  have hnarrow : 4 * results.width.toNat * results.height.toNat < 2 ^ 64 := by
    by_contra hwide
    obtain ⟨hw, hh, hs⟩ := wraps_of_wide results.width.toNat_lt results.height.toNat_lt hrow hraw
      hout (by omega)
    exact hwraps ⟨UInt32.toNat_inj.mp hw, UInt32.toNat_inj.mp hh, UInt32.toNat_inj.mp hs⟩
  rw [Nat.mod_eq_of_lt hnarrow] at hout
  have hsmall : 4 * results.width.toNat * 1 ≤ 4 * results.width.toNat * results.height.toNat :=
    Nat.mul_le_mul_left _ hheight
  have hexact : results.width.toNat * 4 % 2 ^ 32 = 4 * results.width.toNat := by omega
  constructor
  · exact hwidth
  · exact hheight
  · omega
  · exact hraw
  · exact hout
  · exact rawSize_toNat results
  · rw [outputSize_toNat]
    exact Nat.mod_eq_of_lt hnarrow
  · rw [UInt32.toNat_mul]
    exact hexact
  · intro x hx
    omega

end KwinResults

/-! ## The rows -/

/-- Where byte `i` of a row of the output comes from in the row of the source. -/
def kwinByte (format : UInt32) (i : Nat) : Nat :=
  if kwinSwapped format then swapRedBlue i else i

theorem swapRedBlue_lt {n k : Nat} (hk : k < 4 * n) : swapRedBlue k < 4 * n := by
  unfold swapRedBlue
  split_ifs <;> omega

theorem kwinByte_lt (format : UInt32) {n k : Nat} (hk : k < 4 * n) :
    kwinByte format k < 4 * n := by
  unfold kwinByte
  split_ifs
  · exact swapRedBlue_lt hk
  · exact hk

theorem exchangeBytes_first {first third : Nat} (hne : first ≠ third) (memory : Nat → UInt8) :
    exchangeBytes first third memory first = memory third := by
  unfold exchangeBytes
  rw [Function.update_of_ne hne, Function.update_self]

theorem exchangeBytes_third (first third : Nat) (memory : Nat → UInt8) :
    exchangeBytes first third memory third = memory first := by
  unfold exchangeBytes
  rw [Function.update_self]

theorem exchangeBytes_other {first third i : Nat} (hfirst : i ≠ first) (hthird : i ≠ third)
    (memory : Nat → UInt8) : exchangeBytes first third memory i = memory i := by
  unfold exchangeBytes
  rw [Function.update_of_ne hthird, Function.update_of_ne hfirst]

/-- Inside the buffer, the exchange of a pixel moves its two bytes. -/
theorem exchangePixel_eq {size base x : Nat} (memory : Nat → UInt8) (hindex : 4 * x + 2 < 2 ^ 32)
    (hsize : base + 4 * x + 2 < size) :
    exchangePixel size base memory x =
      some (exchangeBytes (base + 4 * x) (base + (4 * x + 2)) memory) := by
  have hfirst : x * 4 % 2 ^ 32 = 4 * x := by omega
  have hthird : (x * 4 + 2) % 2 ^ 32 = 4 * x + 2 := by omega
  simp only [exchangePixel, hfirst, hthird]
  apply if_pos
  omega

/-- The exchange of the first `n` pixels of a row. -/
theorem exchangeRow_spec {size base n : Nat} (memory : Nat → UInt8)
    (hindex : ∀ x < n, 4 * x + 2 < 2 ^ 32) (hsize : base + 4 * n ≤ size) :
    ∃ exchanged, (List.range n).foldlM (exchangePixel size base) memory = some exchanged ∧
      (∀ k < 4 * n, exchanged (base + k) = memory (base + swapRedBlue k)) ∧
      ∀ i, ¬(base ≤ i ∧ i < base + 4 * n) → exchanged i = memory i := by
  induction n with
  | zero => exact ⟨memory, rfl, fun k hk => absurd hk (by omega), fun _ _ => rfl⟩
  | succ n ih =>
    obtain ⟨earlier, hearlier, hinside, houtside⟩ :=
      ih (fun x hx => hindex x (Nat.lt_succ_of_lt hx)) (by omega)
    refine ⟨exchangeBytes (base + 4 * n) (base + (4 * n + 2)) earlier, ?_, ?_, ?_⟩
    · rw [List.range_succ, List.foldlM_append, hearlier]
      show exchangePixel size base earlier n >>= pure = _
      rw [exchangePixel_eq earlier (hindex n (Nat.lt_succ_self n)) (by omega)]
      rfl
    · intro k hk
      by_cases hbefore : k < 4 * n
      · rw [exchangeBytes_other (by omega) (by omega), hinside k hbefore]
      · -- One of the four bytes of the new pixel, which is as it was until now.
        by_cases hfirst : k = 4 * n
        · have hswap : swapRedBlue k = 4 * n + 2 := by
            unfold swapRedBlue
            rw [if_pos (by omega), hfirst]
          rw [hswap, hfirst, exchangeBytes_first (by omega)]
          exact houtside _ (by omega)
        · by_cases hthird : k = 4 * n + 2
          · have hswap : swapRedBlue k = 4 * n := by
              unfold swapRedBlue
              rw [if_neg (by omega), if_pos (by omega), hthird]
              omega
            rw [hswap, hthird, exchangeBytes_third]
            exact houtside _ (by omega)
          · have hswap : swapRedBlue k = k := by
              unfold swapRedBlue
              rw [if_neg (by omega), if_neg (by omega)]
            rw [hswap, exchangeBytes_other (by omega) (by omega)]
            exact houtside _ (by omega)
    · intro i hi
      rw [exchangeBytes_other (by omega) (by omega)]
      exact houtside i (by omega)

/-- A row of the image lies inside both buffers, at the offsets that the function
computes. -/
theorem KwinResults.ExactSizes.row_inside {results : KwinResults}
    (hsizes : results.ExactSizes) {y : Nat} (hy : y < results.height.toNat) :
    y * results.width.toNat * 4 % 2 ^ 64 = y * (4 * results.width.toNat) ∧
      y * results.stride.toNat % 2 ^ 64 = y * results.stride.toNat ∧
      y * results.stride.toNat + 4 * results.width.toNat ≤ results.rawSize.toNat ∧
      y * (4 * results.width.toNat) + 4 * results.width.toNat ≤ results.outputSize.toNat := by
  have hraw : (y + 1) * results.stride.toNat ≤ results.height.toNat * results.stride.toNat :=
    Nat.mul_le_mul_right _ hy
  have hout : (y + 1) * (4 * results.width.toNat) ≤
      results.height.toNat * (4 * results.width.toNat) := Nat.mul_le_mul_right _ hy
  have hcommute : y * results.width.toNat * 4 = y * (4 * results.width.toNat) := by ring
  have hrawLe := hsizes.raw_le
  have houtLe := hsizes.output_le
  have hrow := hsizes.row_fits
  rw [hsizes.rawSize_eq, hsizes.outputSize_eq, hcommute]
  rw [Nat.add_mul, Nat.one_mul, Nat.mul_comm results.height.toNat] at hraw hout
  refine ⟨?_, ?_, ?_, ?_⟩ <;> omega

/-- One row of an image in a known format: every byte of the row arrives, and no
other byte of the output is touched. -/
theorem copyKwinRow_spec {results : KwinResults} (hsizes : results.ExactSizes)
    (hformat : (kwinSwapped results.format || kwinCopied results.format) = true)
    (raw memory : Nat → UInt8) {y : Nat} (hy : y < results.height.toNat) :
    ∃ next, copyKwinRow results raw memory y = .copied next ∧
      (∀ k < 4 * results.width.toNat, next (y * (4 * results.width.toNat) + k) =
        raw (y * results.stride.toNat + kwinByte results.format k)) ∧
      ∀ i, ¬(y * (4 * results.width.toNat) ≤ i ∧
        i < y * (4 * results.width.toNat) + 4 * results.width.toNat) → next i = memory i := by
  obtain ⟨hdst, hsrc, hraw, hout⟩ := hsizes.row_inside hy
  have hcount : results.width.toNat * 4 = 4 * results.width.toNat := Nat.mul_comm _ _
  have hinside : ¬(results.rawSize.toNat <
        y * results.stride.toNat + 4 * results.width.toNat ∨
      results.outputSize.toNat <
        y * (4 * results.width.toNat) + 4 * results.width.toNat) := by omega
  let copy : MemCopy :=
    ⟨y * (4 * results.width.toNat), y * results.stride.toNat, 4 * results.width.toNat⟩
  have hcopied : ∀ k < 4 * results.width.toNat, copy.apply raw memory
      (y * (4 * results.width.toNat) + k) = raw (y * results.stride.toNat + k) := fun k hk =>
    MemCopy.apply_inside copy raw memory hk
  have hother : ∀ i, ¬(y * (4 * results.width.toNat) ≤ i ∧
      i < y * (4 * results.width.toNat) + 4 * results.width.toNat) →
      copy.apply raw memory i = memory i := fun i hi => MemCopy.apply_outside copy raw memory hi
  simp only [copyKwinRow, hdst, hsrc, hcount, if_neg hinside]
  by_cases hswap : kwinSwapped results.format = true
  · obtain ⟨exchanged, hrun, hbytes, houtside⟩ := exchangeRow_spec (copy.apply raw memory)
      hsizes.index_exact hout
    refine ⟨exchanged, ?_, ?_, ?_⟩
    · rw [if_pos hswap, hrun]
    · intro k hk
      rw [hbytes k hk, hcopied _ (swapRedBlue_lt hk), kwinByte, if_pos hswap]
    · intro i hi
      rw [houtside i hi, hother i hi]
  · have hplain : kwinCopied results.format = true := by
      simpa [hswap] using hformat
    refine ⟨copy.apply raw memory, ?_, ?_, hother⟩
    · rw [if_neg hswap, if_pos hplain]
    · intro k hk
      rw [hcopied k hk, kwinByte, if_neg hswap]

/-- The rows from `y` on: every byte of them arrives, and the rows before stay as
they are. -/
theorem copyKwinRows_spec {results : KwinResults} (hsizes : results.ExactSizes)
    (hformat : (kwinSwapped results.format || kwinCopied results.format) = true)
    (raw : Nat → UInt8) {rows y : Nat} (memory : Nat → UInt8)
    (hrows : y + rows ≤ results.height.toNat) :
    ∃ copied, copyKwinRows results raw rows y memory = .copied copied ∧
      (∀ row, y ≤ row → row < y + rows → ∀ k < 4 * results.width.toNat,
        copied (row * (4 * results.width.toNat) + k) =
          raw (row * results.stride.toNat + kwinByte results.format k)) ∧
      ∀ i < y * (4 * results.width.toNat), copied i = memory i := by
  induction rows generalizing y memory with
  | zero => exact ⟨memory, rfl, fun row hlo hhi => absurd hhi (by omega), fun _ _ => rfl⟩
  | succ rows ih =>
    obtain ⟨next, hnext, hrow, hkept⟩ :=
      copyKwinRow_spec hsizes hformat raw memory (y := y) (by omega)
    obtain ⟨copied, hcopied, hlater, hbefore⟩ := ih (y := y + 1) next (by omega)
    have hend : (y + 1) * (4 * results.width.toNat) =
        y * (4 * results.width.toNat) + 4 * results.width.toNat := by ring
    refine ⟨copied, ?_, ?_, ?_⟩
    · unfold copyKwinRows
      rw [hnext]
      exact hcopied
    · intro row hlo hhi k hk
      by_cases hfirst : row = y
      · rw [hfirst, hbefore _ (by omega)]
        exact hrow k hk
      · exact hlater row (by omega) (by omega) k hk
    · intro i hi
      rw [hbefore i (by omega)]
      exact hkept i (by omega)

/-- An unknown format stops the loop at the first row, which is inside. -/
theorem copyKwinRows_unsupported {results : KwinResults} (hsizes : results.ExactSizes)
    (hformat : ¬(kwinSwapped results.format || kwinCopied results.format) = true)
    (raw memory : Nat → UInt8) :
    copyKwinRows results raw results.height.toNat 0 memory = .unsupportedFormat := by
  obtain ⟨hdst, hsrc, hraw, hout⟩ := hsizes.row_inside hsizes.height_pos
  obtain ⟨hswap, hplain⟩ : ¬kwinSwapped results.format = true ∧
      ¬kwinCopied results.format = true := by simpa using hformat
  have hcount : results.width.toNat * 4 = 4 * results.width.toNat := Nat.mul_comm _ _
  have hrow : copyKwinRow results raw memory 0 = .unsupportedFormat := by
    simp only [copyKwinRow, hdst, hsrc, hcount]
    rw [if_neg (by omega), if_neg hswap, if_neg hplain]
  obtain ⟨rows, hrows⟩ := Nat.exists_eq_succ_of_ne_zero (Nat.ne_of_gt hsizes.height_pos)
  rw [hrows]
  unfold copyKwinRows
  rw [hrow]

/-- A row that faults is the end of the loop. -/
theorem copyKwinRows_of_fault {results : KwinResults} {raw memory : Nat → UInt8} {rows y : Nat}
    (hrows : 0 < rows) (h : copyKwinRow results raw memory y = .fault) :
    copyKwinRows results raw rows y memory = .fault := by
  obtain ⟨rows, rfl⟩ := Nat.exists_eq_add_of_lt hrows
  rw [Nat.zero_add, copyKwinRows, h]

/-- A row that does not fit into the buffers faults. -/
theorem copyKwinRow_of_short {results : KwinResults} (raw memory : Nat → UInt8)
    (h : results.rawSize.toNat < results.width.toNat * 4) :
    copyKwinRow results raw memory 0 = .fault := by
  unfold copyKwinRow
  apply if_pos
  left
  dsimp only
  omega

/-! ## The call as a whole -/

/-- What the frame server knows of the call. -/
def KwinCall.capture (call : KwinCall) (results : KwinResults) : KwinCapture :=
  let read := recvLoop readExactFd call.reads results.rawSize.toNat call.stream
  { pipe := call.pipe
    width := results.width
    height := results.height
    stride := results.stride
    format := results.format
    readExact := read.status = .complete
    raw := fun i => read.data.getD i 0 }

/-- A pixel of the frame has the bytes that KWin has written for it, with bytes 0
and 2 exchanged where the format says so. -/
structure PixelExact (results : KwinResults) (stream : List UInt8) (frame : FrameData) : Prop where
  width : frame.width = results.width
  height : frame.height = results.height
  length : frame.pixels.length = 4 * results.width.toNat * results.height.toNat
  known : results.format ∈ [4, 5, 6, 16, 17, 18]
  copied : results.format ∈ [4, 5, 6] → ∀ x < results.width.toNat, ∀ y < results.height.toNat,
    ∀ c < 4, frame.pixels[y * (4 * results.width.toNat) + (4 * x + c)]? =
      stream[y * results.stride.toNat + (4 * x + c)]?
  exchanged : results.format ∈ [16, 17, 18] → ∀ x < results.width.toNat,
    ∀ y < results.height.toNat, ∀ c < 4,
      frame.pixels[y * (4 * results.width.toNat) + (4 * x + c)]? =
        stream[y * results.stride.toNat + (4 * x + (if c = 0 then 2 else if c = 2 then 0 else c))]?
  present : ∀ x < results.width.toNat, ∀ y < results.height.toNat, ∀ c < 4,
    y * results.stride.toNat + (4 * x + c) < stream.length

/-- The call is safe, publishes the image exactly if it succeeds, and changes
nothing if it fails. -/
structure ConvertsExactly (call : KwinCall) : Prop where
  sizes : call.pipe = true → ∀ results, call.results = some results → results.Accepted →
    results.ExactSizes
  outcome : ∀ pixels state, ∃ succeeded next, captureKwin call pixels state =
      some (succeeded, next) ∧
    (succeeded = false → next = state) ∧
    (succeeded = true → ∃ results frame, call.results = some results ∧ results.Accepted ∧
      next = state.publish frame ∧ PixelExact results call.stream frame)

theorem kwinSwapped_iff (format : UInt32) :
    kwinSwapped format = true ↔ format ∈ [16, 17, 18] := by
  simp [kwinSwapped, or_assoc]

theorem kwinCopied_iff (format : UInt32) :
    kwinCopied format = true ↔ format ∈ [4, 5, 6] := by
  simp [kwinCopied, or_assoc]

/-- The exchange stays inside a pixel. -/
theorem swapRedBlue_pixel {x c : Nat} (hc : c < 4) :
    swapRedBlue (4 * x + c) = 4 * x + (if c = 0 then 2 else if c = 2 then 0 else c) := by
  unfold swapRedBlue
  split_ifs <;> omega

theorem swapRedBlue_row (y n k : Nat) :
    swapRedBlue (y * (4 * n) + k) = y * (4 * n) + swapRedBlue k := by
  have hpixels : y * (4 * n) = 4 * (y * n) := by ring
  rw [hpixels]
  unfold swapRedBlue
  split_ifs <;> omega

/-- Every byte of the output is in a row. -/
theorem exists_row {n h i : Nat} (hi : i < 4 * n * h) :
    ∃ y < h, ∃ k < 4 * n, i = y * (4 * n) + k := by
  have hn : 0 < 4 * n := by
    by_contra hzero
    rw [Nat.eq_zero_of_not_pos hzero, Nat.zero_mul] at hi
    omega
  refine ⟨i / (4 * n), Nat.div_lt_of_lt_mul hi, i % (4 * n), Nat.mod_lt i hn, ?_⟩
  rw [Nat.mul_comm]
  exact (Nat.div_add_mod i (4 * n)).symm

/-- A byte of the buffer that has been read is that byte of the pipe. -/
theorem readExact_byte {reads : List RecvResult} {size : Nat} {stream : List UInt8}
    (h : (recvLoop readExactFd reads size stream).status = .complete) {i : Nat} (hi : i < size) :
    stream[i]? = some ((recvLoop readExactFd reads size stream).data.getD i 0) := by
  have hlength := le_length_of_recvLoop_complete h
  rw [recvLoop_eq_of_complete h]
  show stream[i]? = some ((stream.take size).getD i 0)
  rw [List.getD_eq_getElem?_getD, List.getElem?_take_of_lt hi,
    List.getElem?_eq_getElem (by omega)]
  rfl

/-- The frame of a loop that has moved every byte is exact. -/
theorem pixelExact_of_copied {call : KwinCall} {results : KwinResults}
    (hsizes : results.ExactSizes)
    (hread : (recvLoop readExactFd call.reads results.rawSize.toNat call.stream).status =
      .complete)
    (hformat : (kwinSwapped results.format || kwinCopied results.format) = true)
    {memory : Nat → UInt8}
    (hmemory : ∀ y < results.height.toNat, ∀ k < 4 * results.width.toNat,
      memory (y * (4 * results.width.toNat) + k) =
        (call.capture results).raw (y * results.stride.toNat + kwinByte results.format k)) :
    PixelExact results call.stream
      { width := results.width
        height := results.height
        pixels := (List.range results.outputSize.toNat).map memory } := by
  -- A byte of the row of the source lies in the buffer that has been read.
  have hbyte : ∀ x < results.width.toNat, ∀ y < results.height.toNat, ∀ c < 4,
      ((List.range results.outputSize.toNat).map memory)[
          y * (4 * results.width.toNat) + (4 * x + c)]? =
        call.stream[y * results.stride.toNat + kwinByte results.format (4 * x + c)]? := by
    intro x hx y hy c hc
    obtain ⟨-, -, hraw, hout⟩ := hsizes.row_inside hy
    have hk : 4 * x + c < 4 * results.width.toNat := by omega
    have hsource := kwinByte_lt results.format hk
    rw [readExact_byte hread (by omega), List.getElem?_map, List.getElem?_range (by omega),
      Option.map_some, hmemory y hy _ hk]
    rfl
  constructor
  · rfl
  · rfl
  · rw [List.length_map, List.length_range, hsizes.outputSize_eq]
  · rw [Bool.or_eq_true, kwinSwapped_iff, kwinCopied_iff] at hformat
    simp only [List.mem_cons, List.not_mem_nil, or_false] at hformat ⊢
    tauto
  · intro hplain x hx y hy c hc
    have hswap : ¬kwinSwapped results.format = true := by
      rw [kwinSwapped_iff]
      simp only [List.mem_cons, List.not_mem_nil, or_false] at hplain ⊢
      obtain h | h | h := hplain <;> rw [h] <;> decide
    rw [hbyte x hx y hy c hc, kwinByte, if_neg hswap]
  · intro hswap x hx y hy c hc
    rw [hbyte x hx y hy c hc, kwinByte, if_pos ((kwinSwapped_iff _).mpr hswap),
      swapRedBlue_pixel hc]
  · intro x hx y hy c hc
    obtain ⟨-, -, hraw, -⟩ := hsizes.row_inside hy
    have hlength := le_length_of_recvLoop_complete hread
    omega

/-- The pixels of a loop that has moved every byte are those of
`captureKwinWorkspace`. -/
theorem copied_pixels_eq {results : KwinResults} (hsizes : results.ExactSizes)
    {raw memory : Nat → UInt8}
    (hmemory : ∀ y < results.height.toNat, ∀ k < 4 * results.width.toNat,
      memory (y * (4 * results.width.toNat) + k) =
        raw (y * results.stride.toNat + kwinByte results.format k)) :
    (List.range results.outputSize.toNat).map memory =
      if kwinSwapped results.format then
        (List.range results.outputSize.toNat).map fun i =>
          (packRows results.outputSize.toNat (results.width.toNat * 4) results.stride.toNat
            results.height.toNat raw).getD (swapRedBlue i) 0
      else packRows results.outputSize.toNat (results.width.toNat * 4) results.stride.toNat
        results.height.toNat raw := by
  have hpacked : ∀ y < results.height.toNat, ∀ k < 4 * results.width.toNat,
      copyAll (stridedCopies 0 (4 * results.width.toNat) 0 results.stride.toNat
        (4 * results.width.toNat) results.height.toNat) raw (fun _ => 0)
        (y * (4 * results.width.toNat) + k) = raw (y * results.stride.toNat + k) := by
    intro y hy k hk
    rw [copyAll_stridedCopies_zero raw _ (Nat.le_refl _) hk hy, Nat.zero_add]
  unfold packRows
  rw [Nat.mul_comm results.width.toNat 4]
  split_ifs with hswap
  · apply List.map_congr_left
    intro i hi
    rw [List.mem_range, hsizes.outputSize_eq] at hi
    obtain ⟨y, hy, k, hk, rfl⟩ := exists_row hi
    obtain ⟨-, -, -, hout⟩ := hsizes.row_inside hy
    have hlt := swapRedBlue_lt hk
    rw [hmemory y hy k hk, kwinByte, if_pos hswap, swapRedBlue_row,
      List.getD_eq_getElem?_getD, List.getElem?_map, List.getElem?_range (by omega),
      Option.map_some, hpacked y hy _ hlt]
    rfl
  · apply List.map_congr_left
    intro i hi
    rw [List.mem_range, hsizes.outputSize_eq] at hi
    obtain ⟨y, hy, k, hk, rfl⟩ := exists_row hi
    rw [hmemory y hy k hk, kwinByte, if_neg hswap, hpacked y hy k hk]

/-- `captureKwinWorkspace` goes through the same guard, read and formats. -/
theorem captureKwinWorkspace_eq (call : KwinCall) (results : KwinResults) :
    captureKwinWorkspace (call.capture results) =
      if call.pipe = false then none
      else if ¬results.Accepted then none
      else if (recvLoop readExactFd call.reads results.rawSize.toNat call.stream).status ≠
          .complete then none
      else if ¬(kwinSwapped results.format || kwinCopied results.format) = true then none
      else some
        { width := results.width
          height := results.height
          pixels := if kwinSwapped results.format then
              (List.range results.outputSize.toNat).map fun i =>
                (packRows results.outputSize.toNat (results.width.toNat * 4)
                  results.stride.toNat results.height.toNat (call.capture results).raw).getD
                    (swapRedBlue i) 0
            else packRows results.outputSize.toNat (results.width.toNat * 4)
              results.stride.toNat results.height.toNat (call.capture results).raw } := by
  have hguard : (decide (results.width = 0) || decide (results.height = 0) ||
      decide (results.stride < results.width * 4) || decide (maxFrameSize < results.rawSize) ||
      decide (maxFrameSize < results.outputSize)) = true ↔ ¬results.Accepted := by
    unfold KwinResults.Accepted
    simp only [Bool.or_eq_true, decide_eq_true_eq, ← UInt32.not_le, ← UInt64.not_le]
    tauto
  have hpipe : (!call.pipe || !true) = true ↔ call.pipe = false := by simp
  have hread : ∀ status : RecvStatus, (!decide (status = RecvStatus.complete)) = true ↔
      status ≠ .complete := by simp
  have hformat : (!(kwinSwapped results.format || kwinCopied results.format)) = true ↔
      ¬(kwinSwapped results.format || kwinCopied results.format) = true := by simp
  exact if_congr hpipe rfl (if_congr hguard rfl (if_congr (hread _) rfl (if_congr hformat rfl rfl)))

section Call

variable {call : KwinCall} {results : KwinResults} (hresults : call.results = some results)
  (hpipe : call.pipe = true)

include hresults hpipe

/-- An image that is refused or cut short is not published. -/
theorem captureKwin_refused
    (h : ¬results.Accepted ∨ (recvLoop readExactFd call.reads results.rawSize.toNat
      call.stream).status ≠ .complete) (pixels : Nat → UInt8) (state : FrameState) :
    captureKwin call pixels state = some (false, state) ∧
      captureKwinWorkspace (call.capture results) = none := by
  have hopen : ¬call.pipe = false := by
    rw [hpipe]
    exact Bool.noConfusion
  rw [captureKwinWorkspace_eq, if_neg hopen]
  unfold captureKwin
  simp only [hresults]
  rw [if_neg hopen]
  by_cases haccepted : results.Accepted
  · have hread := h.resolve_left (not_not.mpr haccepted)
    rw [if_neg (not_not.mpr haccepted), if_neg (not_not.mpr haccepted), if_pos hread, if_pos hread]
    exact ⟨rfl, rfl⟩
  · rw [if_pos haccepted, if_pos haccepted]
    exact ⟨rfl, rfl⟩

/-- Past the guard and the read, the call is the loop over the rows. -/
theorem captureKwin_loop (haccepted : results.Accepted)
    (hread : (recvLoop readExactFd call.reads results.rawSize.toNat call.stream).status =
      .complete) (pixels : Nat → UInt8) (state : FrameState) :
    captureKwin call pixels state =
      match copyKwinRows results (call.capture results).raw results.height.toNat 0 pixels with
      | .fault => none
      | .unsupportedFormat => some (false, state)
      | .copied memory =>
          some (true, state.publish
            { width := results.width
              height := results.height
              pixels := (List.range results.outputSize.toNat).map memory }) := by
  have hopen : ¬call.pipe = false := by
    rw [hpipe]
    exact Bool.noConfusion
  unfold captureKwin
  simp only [hresults]
  rw [if_neg hopen, if_neg (not_not.mpr haccepted), if_neg (not_not.mpr hread)]
  exact rfl

end Call

/-- A call whose image does not wrap does what `captureKwinWorkspace` says, and
publishes an exact frame. -/
theorem captureKwin_cases (call : KwinCall)
    (hwraps : ∀ results, call.pipe = true → call.results = some results → ¬results.Wraps)
    (pixels : Nat → UInt8) (state : FrameState) :
    (captureKwin call pixels state = some (false, state) ∧
      ∀ results, call.results = some results →
        captureKwinWorkspace (call.capture results) = none) ∨
    ∃ results frame, call.results = some results ∧ results.Accepted ∧
      captureKwin call pixels state = some (true, state.publish frame) ∧
      PixelExact results call.stream frame ∧
      captureKwinWorkspace (call.capture results) = some frame := by
  cases hresults : call.results with
  | none =>
    left
    refine ⟨?_, fun results h => by cases h⟩
    unfold captureKwin
    rw [hresults]
    split_ifs <;> rfl
  | some results =>
    cases hpipe : call.pipe with
    | false =>
      left
      refine ⟨?_, fun other _ => ?_⟩
      · rw [captureKwin, if_pos hpipe]
      · rw [captureKwinWorkspace_eq, if_pos hpipe]
    | true =>
      have hopen : ¬call.pipe = false := by
        rw [hpipe]
        exact Bool.noConfusion
      by_cases h : results.Accepted ∧ (recvLoop readExactFd call.reads results.rawSize.toNat
          call.stream).status = .complete
      · obtain ⟨haccepted, hread⟩ := h
        have hsizes := KwinResults.exactSizes_of_accepted haccepted (hwraps results hpipe hresults)
        have hloop := captureKwin_loop hresults hpipe haccepted hread pixels state
        have hworkspace := captureKwinWorkspace_eq call results
        rw [if_neg hopen, if_neg (not_not.mpr haccepted), if_neg (not_not.mpr hread)] at hworkspace
        by_cases hformat : (kwinSwapped results.format || kwinCopied results.format) = true
        · right
          obtain ⟨memory, hcopied, hmemory, -⟩ := copyKwinRows_spec hsizes hformat
            (call.capture results).raw (y := 0) pixels (Nat.le_of_eq (Nat.zero_add _))
          have hbytes : ∀ y < results.height.toNat, ∀ k < 4 * results.width.toNat,
              memory (y * (4 * results.width.toNat) + k) =
                (call.capture results).raw
                  (y * results.stride.toNat + kwinByte results.format k) := fun y hy k hk =>
            hmemory y (Nat.zero_le y) (by omega) k hk
          rw [hcopied] at hloop
          rw [if_neg (not_not.mpr hformat), ← copied_pixels_eq hsizes hbytes] at hworkspace
          exact ⟨results, _, rfl, haccepted, hloop,
            pixelExact_of_copied hsizes hread hformat hbytes, hworkspace⟩
        · left
          rw [copyKwinRows_unsupported hsizes hformat] at hloop
          rw [if_pos hformat] at hworkspace
          refine ⟨hloop, fun other hother => ?_⟩
          cases hother
          exact hworkspace
      · left
        obtain ⟨hrun, hworkspace⟩ := captureKwin_refused hresults hpipe
          (not_and_or.mp h) pixels state
        refine ⟨hrun, fun other hother => ?_⟩
        cases hother
        exact hworkspace

/-- But for the image that wraps, the call is what the frame server publishes. -/
theorem captureKwin_eq (call : KwinCall) (results : KwinResults)
    (hresults : call.results = some results) (hwraps : ¬results.Wraps)
    (pixels : Nat → UInt8) (state : FrameState) :
    captureKwin call pixels state =
      some (match captureKwinWorkspace (call.capture results) with
        | none => (false, state)
        | some frame => (true, state.publish frame)) := by
  have hnone : ∀ other, call.pipe = true → call.results = some other → ¬other.Wraps := by
    intro other _ hother
    rw [hresults] at hother
    cases hother
    exact hwraps
  obtain ⟨hrun, hworkspace⟩ | ⟨other, frame, hother, -, hrun, -, hworkspace⟩ :=
    captureKwin_cases call hnone pixels state
  · rw [hrun, hworkspace results hresults]
  · rw [hresults] at hother
    cases hother
    rw [hrun, hworkspace]

/-- A call is safe and exact if and only if it gets no image of 2^31 rows and
columns with stride zero. -/
theorem kwin_converts_exactly_iff (call : KwinCall) :
    ConvertsExactly call ↔
      ∀ results, call.pipe = true → call.results = some results → ¬results.Wraps := by
  constructor
  · rintro h results hpipe hresults ⟨hwidth, hheight, hstride⟩
    have haccepted : results.Accepted := by
      unfold KwinResults.Accepted KwinResults.rawSize KwinResults.outputSize
      rw [hwidth, hheight, hstride]
      decide
    have hrow := (h.sizes hpipe results hresults haccepted).row_fits
    rw [hwidth, hstride] at hrow
    exact absurd hrow (by decide)
  · intro hwraps
    constructor
    · intro hpipe results hresults haccepted
      exact KwinResults.exactSizes_of_accepted haccepted (hwraps results hpipe hresults)
    · intro pixels state
      obtain ⟨hrun, -⟩ | ⟨results, frame, hresults, haccepted, hrun, hexact, -⟩ :=
        captureKwin_cases call hwraps pixels state
      · exact ⟨false, state, hrun, fun _ => rfl, Bool.noConfusion⟩
      · exact ⟨true, state.publish frame, hrun, Bool.noConfusion,
          fun _ => ⟨results, frame, hresults, haccepted, rfl, hexact⟩⟩

/-- An image of 2^31 rows and columns with stride zero is accepted.  Both its buffers
are empty, and the first `memcpy` is of 2^33 bytes. -/
theorem wrapped_image_faults :
    captureKwin { results := some ⟨0x80000000, 0x80000000, 0, 4⟩, stream := [] } (fun _ => 0) {} =
        none ∧
      ¬ConvertsExactly { results := some ⟨0x80000000, 0x80000000, 0, 4⟩, stream := [] } := by
  have haccepted : KwinResults.Accepted ⟨0x80000000, 0x80000000, 0, 4⟩ := by decide
  have hempty : KwinResults.rawSize ⟨0x80000000, 0x80000000, 0, 4⟩ = 0 := by decide
  constructor
  · unfold captureKwin
    rw [if_neg (by decide)]
    dsimp only
    rw [if_neg (not_not.mpr haccepted), hempty, UInt64.toNat_zero, recvLoop_zero,
      if_neg (by decide), copyKwinRows_of_fault (by decide) (copyKwinRow_of_short _ _ (by decide))]
  · intro h
    have hrowFits := (h.sizes rfl _ rfl haccepted).row_fits
    exact absurd hrowFits (by decide)

end UuAmfBridge
