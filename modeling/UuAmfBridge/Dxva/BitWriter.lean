import Mathlib.Data.Fintype.Basic
import UuAmfBridge.Lib.BitString
import UuAmfBridge.Lib.FixedWidth

/-!
# The bit writer of the decoder bridge

`BitWriter` of `src/dxva_bridge.c` with `bw_bit`, `bw_bits`, `bw_ue`, `bw_se` and
`bw_trailing`.  A writer stands for the bits it has written (`contents`), and `Writes`
says that a step of the writer appends a bit string to them, whatever has been written
before.  It composes along `++`, so the layers above never look at a byte.

The rest of the byte in progress has to be zero (`Clean`): `bw_bit` only sets bits.
-/

namespace UuAmfBridge

/-- `BitWriter`. -/
structure BitWriter where
  data : Nat → UInt8 := fun _ => 0
  bits : Nat := 0

/-- `bw_bit`. -/
def bwBit (writer : BitWriter) (value : UInt32) : BitWriter :=
  let byte := writer.bits / 8
  let shift := 7 - writer.bits % 8
  let old := if writer.bits % 8 = 0 then 0 else writer.data byte
  { data := Function.update writer.data byte
      (old ||| ((value &&& 1) <<< UInt32.ofNat shift).toUInt8)
    bits := writer.bits + 1 }

/-- `bw_bits`. -/
def bwBits (writer : BitWriter) (value : UInt32) : Nat → BitWriter
  | 0 => writer
  | count + 1 => bwBits (bwBit writer (value >>> UInt32.ofNat count)) value count

/-- The loop of `bw_ue` that counts the bits of a code. -/
def codeLength (scan : Nat) : Nat := if scan = 0 then 0 else codeLength (scan / 2) + 1

/-- `bw_ue`. -/
def bwUe (writer : BitWriter) (value : UInt32) : BitWriter :=
  let code := value + 1
  let bits := codeLength code.toNat
  let writer := if 1 < bits then bwBits writer 0 (bits - 1) else writer
  bwBits writer code bits

/-- `bw_se`. -/
def bwSe (writer : BitWriter) (value : Int32) : BitWriter :=
  bwUe writer (if value ≤ 0 then (-value * 2).toUInt32 else (value * 2 - 1).toUInt32)

/-- The loop of `bw_trailing`. -/
def bwAlign (writer : BitWriter) : BitWriter :=
  if writer.bits % 8 = 0 then writer else bwAlign (bwBit writer 0)
termination_by (8 - writer.bits % 8) % 8
decreasing_by
  show (8 - (writer.bits + 1) % 8) % 8 < (8 - writer.bits % 8) % 8
  omega

/-- `bw_trailing`. -/
def bwTrailing (writer : BitWriter) : BitWriter := bwAlign (bwBit writer 1)

/-! ## What a writer stands for -/

/-- Bit `i` of the array, from the most significant one of the first byte on. -/
def BitWriter.bitAt (writer : BitWriter) (i : Nat) : Bool :=
  (writer.data (i / 8)).toNat.testBit (7 - i % 8)

/-- The bits written so far. -/
def BitWriter.contents (writer : BitWriter) : List Bool :=
  (List.range writer.bits).map writer.bitAt

/-- The rest of the byte in progress is zero. -/
def BitWriter.Clean (writer : BitWriter) : Prop :=
  ∀ i, writer.bits ≤ i → i / 8 = writer.bits / 8 → writer.bits % 8 ≠ 0 → writer.bitAt i = false

/-- The step appends the bits, whatever has been written before. -/
def Writes (step : BitWriter → BitWriter) (bits : List Bool) : Prop :=
  ∀ writer, writer.Clean → (step writer).Clean ∧ (step writer).contents = writer.contents ++ bits

theorem Writes.comp {first later : BitWriter → BitWriter} {bits rest : List Bool}
    (hfirst : Writes first bits) (hlater : Writes later rest) :
    Writes (fun writer => later (first writer)) (bits ++ rest) := by
  intro writer hclean
  obtain ⟨hclean', hbits⟩ := hfirst writer hclean
  obtain ⟨hclean'', hrest⟩ := hlater _ hclean'
  refine ⟨hclean'', ?_⟩
  rw [hrest, hbits, List.append_assoc]

theorem writes_nothing : Writes (fun writer => writer) [] :=
  fun _ hclean => ⟨hclean, (List.append_nil _).symm⟩

/-- A step that is only made sometimes. -/
theorem Writes.ite {condition : Prop} [Decidable condition] {step other : BitWriter → BitWriter}
    {bits rest : List Bool} (hstep : condition → Writes step bits)
    (hother : ¬condition → Writes other rest) :
    Writes (fun writer => if condition then step writer else other writer)
      (if condition then bits else rest) := by
  by_cases hcondition : condition
  · simp only [if_pos hcondition]
    exact hstep hcondition
  · simp only [if_neg hcondition]
    exact hother hcondition

/-! ## One bit -/

/-- The bit that `bw_bit` puts into the byte. -/
theorem testBit_shifted (value : UInt32) {shift : Nat} (hshift : shift ≤ 7) (j : Nat) :
    ((value &&& 1) <<< UInt32.ofNat shift).toUInt8.toNat.testBit j =
      (decide (j = shift) && value.toNat.testBit 0) := by
  have hone : (value &&& 1).toNat = value.toNat % 2 := by
    rw [UInt32.toNat_and]
    exact Nat.and_one_is_mod _
  have hcount : (UInt32.ofNat shift).toNat % 32 = shift := by
    rw [UInt32.toNat_ofNat']
    omega
  have hpow : 2 ^ shift ≤ 2 ^ 7 := Nat.pow_le_pow_right (by decide) hshift
  have hvalue : ((value &&& 1) <<< UInt32.ofNat shift).toUInt8.toNat =
      value.toNat % 2 * 2 ^ shift := by
    have hle : value.toNat % 2 * 2 ^ shift ≤ 1 * 2 ^ 7 := Nat.mul_le_mul (by omega) hpow
    rw [UInt32.toNat_toUInt8, UInt32.toNat_shiftLeft, hone, hcount, Nat.shiftLeft_eq]
    omega
  rw [hvalue, Nat.testBit_mul_two_pow]
  by_cases hj : j = shift
  · subst hj
    rw [Nat.sub_self, Nat.testBit_zero, Nat.testBit_zero, Nat.mod_mod]
    simp
  · rw [decide_eq_false hj, Bool.false_and, Bool.and_eq_false_iff]
    by_cases hle : shift ≤ j
    · right
      apply Nat.testBit_lt_two_pow
      have hpos : 2 ^ 1 ≤ 2 ^ (j - shift) := Nat.pow_le_pow_right (by decide) (by omega)
      omega
    · left
      exact decide_eq_false hle

/-- The bits after one more of them. -/
theorem bitAt_bwBit (writer : BitWriter) (value : UInt32) (i : Nat) :
    (bwBit writer value).bitAt i =
      if i / 8 = writer.bits / 8 then
        (decide (writer.bits % 8 ≠ 0) && writer.bitAt i) ||
          (decide (i = writer.bits) && value.toNat.testBit 0)
      else writer.bitAt i := by
  unfold bwBit BitWriter.bitAt
  simp only
  by_cases hbyte : i / 8 = writer.bits / 8
  · rw [if_pos hbyte, hbyte, Function.update_self, UInt8.toNat_or, Nat.testBit_or,
      testBit_shifted value (by omega)]
    have hposition : decide (7 - i % 8 = 7 - writer.bits % 8) = decide (i = writer.bits) :=
      decide_eq_decide.mpr (by omega)
    rw [hposition]
    by_cases hstart : writer.bits % 8 = 0
    · simp [hstart]
    · simp [hstart]
  · rw [if_neg hbyte, Function.update_of_ne hbyte]

/-- `bw_bit` appends its bit. -/
theorem writes_bwBit (value : UInt32) :
    Writes (fun writer => bwBit writer value) [value.toNat.testBit 0] := by
  intro writer hclean
  have hbits : (bwBit writer value).bits = writer.bits + 1 := rfl
  constructor
  · intro i hlt hbyte hinside
    rw [hbits] at hlt hbyte hinside
    have hsame : i / 8 = writer.bits / 8 := by omega
    rw [bitAt_bwBit, if_pos hsame, decide_eq_false (show ¬i = writer.bits by omega),
      Bool.false_and, Bool.or_false]
    by_cases hstart : writer.bits % 8 = 0
    · simp [hstart]
    · rw [hclean i (by omega) hsame hstart, Bool.and_false]
  · unfold BitWriter.contents
    rw [hbits, List.range_succ, List.map_append, List.map_singleton]
    refine congrArg₂ (· ++ ·) (List.map_congr_left fun i hi => ?_) (congrArg (fun b => [b]) ?_)
    · rw [List.mem_range] at hi
      rw [bitAt_bwBit]
      by_cases hbyte : i / 8 = writer.bits / 8
      · rw [if_pos hbyte, decide_eq_true (show writer.bits % 8 ≠ 0 by omega),
          decide_eq_false (show ¬i = writer.bits by omega), Bool.false_and, Bool.or_false,
          Bool.true_and]
      · rw [if_neg hbyte]
    · have hfree : (decide (writer.bits % 8 ≠ 0) && writer.bitAt writer.bits) = false := by
        by_cases hstart : writer.bits % 8 = 0
        · simp [hstart]
        · rw [hclean writer.bits (Nat.le_refl _) rfl hstart, Bool.and_false]
      rw [bitAt_bwBit, if_pos rfl, hfree, decide_eq_true (rfl : writer.bits = writer.bits),
        Bool.true_and, Bool.false_or]

/-- A flag of the source, by its low bit. -/
theorem writes_bwBit_flag (value : UInt32) {flag : Bool} (h : value.toNat.testBit 0 = flag) :
    Writes (fun writer => bwBit writer value) [flag] := h ▸ writes_bwBit value

/-! ## Numbers -/

/-- `bw_bits` appends the low bits of a number. -/
theorem writes_bwBits (value : UInt32) {count : Nat} (hcount : count ≤ 32) :
    Writes (fun writer => bwBits writer value count) (bitsOf count value.toNat) := by
  induction count with
  | zero => exact writes_nothing
  | succ count ih =>
    have hbit : (value >>> UInt32.ofNat count).toNat.testBit 0 = value.toNat.testBit count := by
      have hshift : (UInt32.ofNat count).toNat % 32 = count := by
        rw [UInt32.toNat_ofNat']
        omega
      rw [UInt32.toNat_shiftRight, hshift, Nat.testBit_shiftRight, Nat.add_zero]
    exact (writes_bwBit_flag _ hbit).comp (ih (by omega))

/-- The loop of `bw_ue` counts the bits of a code. -/
theorem codeLength_eq {code : Nat} (h : 0 < code) : codeLength code = code.log2 + 1 := by
  induction code using Nat.strongRecOn with
  | ind code ih =>
    rw [codeLength, if_neg (by omega)]
    by_cases hone : code = 1
    · subst hone
      rw [codeLength, if_pos rfl]
      rfl
    · rw [ih (code / 2) (by omega) (by omega), Nat.log2_def code, if_pos (by omega)]

/-- `bw_ue` appends the Exp-Golomb code. -/
theorem writes_bwUe {value : UInt32} (h : value.toNat + 1 < 2 ^ 32) :
    Writes (fun writer => bwUe writer value) (ueBits value.toNat) := by
  have hcode : (value + 1).toNat = value.toNat + 1 := by
    rw [UInt32.toNat_add, UInt32.toNat_one]
    exact Nat.mod_eq_of_lt h
  have hlength : codeLength (value.toNat + 1) = (value.toNat + 1).log2 + 1 :=
    codeLength_eq (Nat.succ_pos _)
  have hlog : (value.toNat + 1).log2 < 32 := (Nat.log2_lt (Nat.succ_ne_zero _)).mpr h
  have hzeros : Writes (fun writer =>
      if 1 < codeLength (value.toNat + 1) then
        bwBits writer 0 (codeLength (value.toNat + 1) - 1) else writer)
      (List.replicate (value.toNat + 1).log2 false) := by
    rw [hlength, Nat.add_sub_cancel]
    by_cases hpos : 1 < (value.toNat + 1).log2 + 1
    · simp only [if_pos hpos]
      rw [← bitsOf_zero]
      exact writes_bwBits 0 (by omega)
    · simp only [if_neg hpos]
      rw [show (value.toNat + 1).log2 = 0 by omega]
      exact writes_nothing
  have hbits : Writes (fun writer => bwBits writer (value + 1) (codeLength (value.toNat + 1)))
      (bitsOf ((value.toNat + 1).log2 + 1) (value.toNat + 1)) := by
    have hwrites := @writes_bwBits (value + 1) ((value.toNat + 1).log2 + 1) (by omega)
    rw [hcode] at hwrites
    rw [hlength]
    exact hwrites
  unfold bwUe
  simp only [hcode]
  exact hzeros.comp hbits

/-- `bw_se` appends the signed Exp-Golomb code. -/
theorem writes_bwSe {value : Int32} (hlow : -2 ^ 30 < value.toInt) (hhigh : value.toInt < 2 ^ 30) :
    Writes (fun writer => bwSe writer value) (seBits value.toInt) := by
  have hzero : (0 : Int32).toInt = 0 := rfl
  have htwo : (2 : Int32).toInt = 2 := rfl
  have hone : (1 : Int32).toInt = 1 := rfl
  have hcode : (if value ≤ 0 then (-value * 2).toUInt32 else (value * 2 - 1).toUInt32).toNat =
      seCode value.toInt := by
    unfold seCode
    by_cases hvalue : value ≤ 0
    · have hle : value.toInt ≤ 0 := by
        rw [← hzero]
        exact Int32.le_iff_toInt_le.mp hvalue
      rw [if_pos hvalue, if_pos hle]
      have hneg : (-value).toInt = -value.toInt := by
        rw [Int32.toInt_neg, Int.bmod_eq_of_le (by omega) (by omega)]
      apply toNat_toUInt32_eq
      rw [Int32.toInt_mul, hneg, htwo, Int.toNat_of_nonneg (by omega),
        Int.bmod_eq_of_le (by omega) (by omega)]
    · have hlt : ¬value.toInt ≤ 0 := by
        rw [← hzero]
        exact fun hle => hvalue (Int32.le_iff_toInt_le.mpr hle)
      rw [if_neg hvalue, if_neg hlt]
      have hdouble : (value * 2).toInt = value.toInt * 2 := by
        rw [Int32.toInt_mul, htwo, Int.bmod_eq_of_le (by omega) (by omega)]
      apply toNat_toUInt32_eq
      rw [Int32.toInt_sub, hdouble, hone, Int.toNat_of_nonneg (by omega),
        Int.bmod_eq_of_le (by omega) (by omega)]
  have hsmall : seCode value.toInt + 1 < 2 ^ 32 := by
    unfold seCode
    split_ifs <;> omega
  unfold bwSe seBits
  rw [← hcode] at hsmall ⊢
  exact writes_bwUe hsmall

/-! ## The end of a unit -/

/-- `bw_trailing` appends a one and zeros up to the end of the byte. -/
theorem bwTrailing_spec {writer : BitWriter} (hclean : writer.Clean) :
    (bwTrailing writer).bits % 8 = 0 ∧ ∃ zeros, zeros < 8 ∧
      (bwTrailing writer).contents =
        writer.contents ++ true :: List.replicate zeros false := by
  have halign : ∀ (zeros : Nat) (writer : BitWriter), zeros < 8 →
      (writer.bits + zeros) % 8 = 0 → writer.Clean →
      (bwAlign writer).bits % 8 = 0 ∧
        (bwAlign writer).contents = writer.contents ++ List.replicate zeros false := by
    intro zeros
    induction zeros with
    | zero =>
      intro writer _ hbits _
      rw [Nat.add_zero] at hbits
      rw [bwAlign, if_pos hbits]
      exact ⟨hbits, (List.append_nil _).symm⟩
    | succ zeros ih =>
      intro writer hlt hbits hclean
      obtain ⟨hclean', hcontents⟩ := writes_bwBit 0 writer hclean
      have hnext : (bwBit writer 0).bits = writer.bits + 1 := rfl
      obtain ⟨haligned, hzeros⟩ := ih (bwBit writer 0) (by omega) (by omega) hclean'
      rw [bwAlign, if_neg (by omega)]
      refine ⟨haligned, ?_⟩
      rw [hzeros, hcontents, List.append_assoc]
      rfl
  obtain ⟨hclean', hcontents⟩ := writes_bwBit 1 writer hclean
  have hnext : (bwBit writer 1).bits = writer.bits + 1 := rfl
  obtain ⟨haligned, hzeros⟩ := halign ((8 - (bwBit writer 1).bits % 8) % 8) (bwBit writer 1)
    (by omega) (by omega) hclean'
  refine ⟨haligned, (8 - (bwBit writer 1).bits % 8) % 8, Nat.mod_lt _ (by decide), ?_⟩
  unfold bwTrailing
  rw [hzeros, hcontents, List.append_assoc]
  rfl

/-! ## Bytes -/

/-- The bytes of a writer. -/
def BitWriter.bytes (writer : BitWriter) : List UInt8 :=
  (List.range ((writer.bits + 7) / 8)).map writer.data

/-- The bytes of an aligned writer have the bits it has written. -/
theorem bytesBits_bytes {writer : BitWriter} (h : writer.bits % 8 = 0) :
    bytesBits writer.bytes = writer.contents := by
  have hbyte : ∀ k, byteBits (writer.data k) =
      (List.range 8).map fun i => writer.bitAt (8 * k + i) := by
    intro k
    unfold byteBits
    rw [bitsOf_eq_map]
    refine List.map_congr_left fun i hi => ?_
    rw [List.mem_range] at hi
    unfold BitWriter.bitAt
    rw [show (8 * k + i) / 8 = k by omega, show (8 * k + i) % 8 = i by omega]
  unfold BitWriter.bytes BitWriter.contents
  rw [bytesBits_map_range hbyte, show 8 * ((writer.bits + 7) / 8) = writer.bits by omega]

/-! ## How much is written -/

/-- The step appends at most `count` bits. -/
def Grows (step : BitWriter → BitWriter) (count : Nat) : Prop :=
  ∀ writer, (step writer).bits ≤ writer.bits + count

theorem Grows.comp {first later : BitWriter → BitWriter} {count more : Nat}
    (hfirst : Grows first count) (hlater : Grows later more) :
    Grows (fun writer => later (first writer)) (count + more) := by
  intro writer
  have hmore := hlater (first writer)
  have hcount := hfirst writer
  show (later (first writer)).bits ≤ _
  omega

theorem Grows.mono {step : BitWriter → BitWriter} {count more : Nat} (hstep : Grows step count)
    (hle : count ≤ more) : Grows step more := by
  intro writer
  have hcount := hstep writer
  omega

/-- A step that is only made sometimes. -/
theorem Grows.ite {condition : Prop} [Decidable condition] {step other : BitWriter → BitWriter}
    {count : Nat} (hstep : Grows step count) (hother : Grows other count) :
    Grows (fun writer => if condition then step writer else other writer) count := by
  by_cases hcondition : condition
  · simp only [if_pos hcondition]
    exact hstep
  · simp only [if_neg hcondition]
    exact hother

theorem grows_nothing : Grows (fun writer => writer) 0 := fun _ => Nat.le_refl _

theorem grows_bwBit (value : UInt32) : Grows (fun writer => bwBit writer value) 1 :=
  fun _ => Nat.le_refl _

theorem grows_bwBits (value : UInt32) (count : Nat) :
    Grows (fun writer => bwBits writer value count) count := by
  induction count with
  | zero => exact grows_nothing
  | succ count ih =>
    have hbits := (grows_bwBit (value >>> UInt32.ofNat count)).comp ih
    rwa [Nat.add_comm] at hbits

/-- The code of a number has at most 32 bits. -/
theorem codeLength_le {code : Nat} (h : code < 2 ^ 32) : codeLength code ≤ 32 := by
  by_cases hzero : code = 0
  · subst hzero
    rw [codeLength, if_pos rfl]
    exact Nat.zero_le 32
  · rw [codeLength_eq (by omega)]
    exact (Nat.log2_lt hzero).mpr h

/-- An Exp-Golomb code has at most 63 bits. -/
theorem grows_bwUe (value : UInt32) : Grows (fun writer => bwUe writer value) 63 := by
  have hlength : codeLength (value + 1).toNat ≤ 32 := codeLength_le (value + 1).toNat_lt
  have hzeros : Grows (fun writer => if 1 < codeLength (value + 1).toNat then
      bwBits writer 0 (codeLength (value + 1).toNat - 1) else writer) 31 :=
    Grows.ite ((grows_bwBits 0 _).mono (by omega)) (grows_nothing.mono (by omega))
  exact (hzeros.comp ((grows_bwBits (value + 1) _).mono hlength)).mono (by omega)

theorem grows_bwSe (value : Int32) : Grows (fun writer => bwSe writer value) 63 := grows_bwUe _

/-- The trailing bits are at most one byte. -/
theorem grows_bwTrailing : Grows bwTrailing 8 := by
  have halign : ∀ (zeros : Nat) (writer : BitWriter), (writer.bits + zeros) % 8 = 0 →
      (bwAlign writer).bits ≤ writer.bits + zeros := by
    intro zeros
    induction zeros with
    | zero =>
      intro writer hbits
      rw [Nat.add_zero] at hbits
      rw [bwAlign, if_pos hbits]
      exact Nat.le_refl _
    | succ zeros ih =>
      intro writer hbits
      rw [bwAlign]
      split_ifs
      · omega
      · have hnext : (bwBit writer 0).bits = writer.bits + 1 := rfl
        have hrest := ih (bwBit writer 0) (by omega)
        omega
  intro writer
  have hnext : (bwBit writer 1).bits = writer.bits + 1 := rfl
  have hrest := halign ((8 - (bwBit writer 1).bits % 8) % 8) (bwBit writer 1) (by omega)
  unfold bwTrailing
  omega

theorem length_bytes (writer : BitWriter) : writer.bytes.length = (writer.bits + 7) / 8 := by
  unfold BitWriter.bytes
  rw [List.length_map, List.length_range]

/-- A writer that has written nothing. -/
theorem clean_empty : BitWriter.Clean {} := fun _ _ _ hinside => absurd rfl hinside

end UuAmfBridge
