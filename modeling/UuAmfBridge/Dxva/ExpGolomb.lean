import UuAmfBridge.Dxva.BitWriter

/-!
# What the bit writer appends

`bw_bit` is the only function of the bit writer that stores anything.  `Within` is the
relation of a writer to the one it came from by calls of `bw_bit` whose bytes are all in
the array, and `Calls` says of a step that it is made of such calls.  A writer that came
from an empty one is `Reachable`, and a reachable writer is clean.

`writer_appends_codes` is the law of the whole writer: the unsigned and the signed
Exp-Golomb code are appended bit for bit, nothing in front of them is touched, the
decoder of `UuAmfBridge.Lib.BitString` takes exactly them off again, and the trailing
bits end at the next byte.
-/

namespace UuAmfBridge

/-- The bytes of `data` of `BitWriter`. -/
def bitWriterBytes : Nat := 256

/-- The writer comes from `start` by calls of `bw_bit`, each of which stores into a byte
below `limit`. -/
inductive BitWriter.Within (limit : Nat) (start : BitWriter) : BitWriter → Prop where
  | start : Within limit start start
  | bit {writer : BitWriter} (value : UInt32) (hwithin : Within limit start writer)
      (hbyte : writer.bits / 8 < limit) : Within limit start (bwBit writer value)

/-- A writer that began without bits, whatever its array held, and never left it. -/
def BitWriter.Reachable (writer : BitWriter) : Prop :=
  ∃ data, BitWriter.Within bitWriterBytes { data := data, bits := 0 } writer

theorem BitWriter.Within.clean {limit : Nat} {start writer : BitWriter}
    (hwithin : BitWriter.Within limit start writer) (hstart : start.Clean) : writer.Clean := by
  induction hwithin with
  | start => exact hstart
  | bit value _ _ ih => exact (writes_bwBit value _ ih).1

theorem BitWriter.Reachable.clean {writer : BitWriter} (hreachable : writer.Reachable) :
    writer.Clean := by
  obtain ⟨data, hwithin⟩ := hreachable
  exact hwithin.clean fun _ _ _ hinside => absurd rfl hinside

theorem BitWriter.Within.trans {limit : Nat} {start middle writer : BitWriter}
    (hfirst : BitWriter.Within limit start middle)
    (hlater : BitWriter.Within limit middle writer) : BitWriter.Within limit start writer := by
  induction hlater with
  | start => exact hfirst
  | bit value _ hbyte ih => exact .bit value ih hbyte

/-! ## Steps made of calls of `bw_bit` -/

/-- The step calls `bw_bit` with some values. -/
def Calls (step : BitWriter → BitWriter) : Prop :=
  ∀ writer, ∃ values : List UInt32, step writer = values.foldl bwBit writer

theorem calls_nothing : Calls fun writer => writer := fun _ => ⟨[], rfl⟩

theorem calls_bwBit (value : UInt32) : Calls fun writer => bwBit writer value :=
  fun _ => ⟨[value], rfl⟩

theorem Calls.comp {first later : BitWriter → BitWriter} (hfirst : Calls first)
    (hlater : Calls later) : Calls fun writer => later (first writer) := by
  intro writer
  obtain ⟨values, hvalues⟩ := hfirst writer
  obtain ⟨more, hmore⟩ := hlater (first writer)
  refine ⟨values ++ more, ?_⟩
  show later (first writer) = _
  rw [hmore, hvalues, List.foldl_append]

/-- A step that is only made sometimes. -/
theorem Calls.ite {condition : Prop} [Decidable condition] {step other : BitWriter → BitWriter}
    (hstep : Calls step) (hother : Calls other) :
    Calls fun writer => if condition then step writer else other writer := by
  by_cases hcondition : condition
  · simp only [if_pos hcondition]
    exact hstep
  · simp only [if_neg hcondition]
    exact hother

theorem calls_bwBits (value : UInt32) (count : Nat) :
    Calls fun writer => bwBits writer value count := by
  induction count with
  | zero => exact calls_nothing
  | succ count ih => exact (calls_bwBit (value >>> UInt32.ofNat count)).comp ih

theorem calls_bwUe (value : UInt32) : Calls fun writer => bwUe writer value :=
  ((calls_bwBits 0 _).ite calls_nothing).comp (calls_bwBits (value + 1) _)

theorem calls_bwSe (value : Int32) : Calls fun writer => bwSe writer value := calls_bwUe _

theorem calls_bwTrailing : Calls bwTrailing := by
  have halign : ∀ (zeros : Nat) (writer : BitWriter), (writer.bits + zeros) % 8 = 0 →
      ∃ values : List UInt32, bwAlign writer = values.foldl bwBit writer := by
    intro zeros
    induction zeros with
    | zero =>
      intro writer hbits
      rw [Nat.add_zero] at hbits
      rw [bwAlign, if_pos hbits]
      exact ⟨[], rfl⟩
    | succ zeros ih =>
      intro writer hbits
      rw [bwAlign]
      split_ifs
      · exact ⟨[], rfl⟩
      · have hnext : (bwBit writer 0).bits = writer.bits + 1 := rfl
        obtain ⟨values, hvalues⟩ := ih (bwBit writer 0) (by omega)
        exact ⟨0 :: values, hvalues⟩
  intro writer
  obtain ⟨values, hvalues⟩ :=
    halign ((8 - (bwBit writer 1).bits % 8) % 8) (bwBit writer 1) (by omega)
  exact ⟨1 :: values, hvalues⟩

/-- Every call stores into the byte of the bit it appends, so the number of bits at the
end bounds the bytes of all calls. -/
theorem Calls.within {step : BitWriter → BitWriter} (hstep : Calls step) {limit : Nat}
    {writer : BitWriter} (hroom : (step writer).bits ≤ 8 * limit) :
    BitWriter.Within limit writer (step writer) := by
  obtain ⟨values, hvalues⟩ := hstep writer
  rw [hvalues] at hroom ⊢
  clear hvalues
  induction values using List.reverseRecOn with
  | nil => exact .start
  | append_singleton values value ih =>
    rw [List.foldl_append] at hroom ⊢
    have hbits : (bwBit (values.foldl bwBit writer) value).bits =
      (values.foldl bwBit writer).bits + 1 := rfl
    have hroom' : (bwBit (values.foldl bwBit writer) value).bits ≤ 8 * limit := hroom
    exact .bit value (ih (by omega)) (by omega)

/-! ## What is appended -/

@[simp] theorem BitWriter.contents_length (writer : BitWriter) :
    writer.contents.length = writer.bits := by
  unfold BitWriter.contents
  rw [List.length_map, List.length_range]

/-- The bits are appended to the writer, inside its array, and the bits in front of them
are those of before. -/
structure BitWriter.Appends (writer after : BitWriter) (bits : List Bool) : Prop where
  within : BitWriter.Within bitWriterBytes writer after
  contents : after.contents = writer.contents ++ bits
  earlier : ∀ i < writer.bits, after.bitAt i = writer.bitAt i

/-- The bits of a writer behind those of another one. -/
def BitWriter.appended (writer after : BitWriter) : List Bool :=
  after.contents.drop writer.bits

theorem BitWriter.Appends.appended_eq {writer after : BitWriter} {bits : List Bool}
    (happends : writer.Appends after bits) : writer.appended after = bits := by
  unfold BitWriter.appended
  rw [happends.contents]
  exact List.drop_left' writer.contents_length

/-- Behind an append the writer is again one that can be appended to. -/
theorem BitWriter.Appends.reachable {writer after : BitWriter} {bits : List Bool}
    (happends : writer.Appends after bits) (hreachable : writer.Reachable) : after.Reachable := by
  obtain ⟨data, hwithin⟩ := hreachable
  exact ⟨data, hwithin.trans happends.within⟩

theorem bits_eq_of_contents {writer after : BitWriter} {bits : List Bool}
    (hcontents : after.contents = writer.contents ++ bits) :
    after.bits = writer.bits + bits.length := by
  rw [← after.contents_length, hcontents, List.length_append, BitWriter.contents_length]

/-- A step whose bits are known appends them where there is room. -/
theorem Calls.appends {step : BitWriter → BitWriter} (hstep : Calls step) {writer : BitWriter}
    {bits : List Bool} (hcontents : (step writer).contents = writer.contents ++ bits)
    (hroom : writer.bits + bits.length ≤ 8 * bitWriterBytes) :
    writer.Appends (step writer) bits where
  within := by
    apply hstep.within
    rw [bits_eq_of_contents hcontents]
    exact hroom
  contents := hcontents
  earlier := by
    intro i hi
    have hbits := bits_eq_of_contents hcontents
    have hget : (step writer).contents[i]? = (writer.contents ++ bits)[i]? := by rw [hcontents]
    rw [List.getElem?_append_left (by rwa [BitWriter.contents_length])] at hget
    unfold BitWriter.contents at hget
    rw [List.getElem?_map, List.getElem?_map, List.getElem?_range hi,
      List.getElem?_range (by omega)] at hget
    exact Option.some.inj hget

/-! ## The codes -/

theorem appends_bwUe {writer : BitWriter} (hclean : writer.Clean) {value : UInt32}
    (hvalue : value.toNat < 2 ^ 32 - 1)
    (hroom : writer.bits + (ueBits value.toNat).length ≤ 8 * bitWriterBytes) :
    writer.Appends (bwUe writer value) (ueBits value.toNat) :=
  (calls_bwUe value).appends (writes_bwUe (by omega) writer hclean).2 hroom

theorem appends_bwSe {writer : BitWriter} (hclean : writer.Clean) {value : Int32}
    (hvalue : |value.toInt| < 2 ^ 30)
    (hroom : writer.bits + (seBits value.toInt).length ≤ 8 * bitWriterBytes) :
    writer.Appends (bwSe writer value) (seBits value.toInt) := by
  obtain ⟨hlow, hhigh⟩ := abs_lt.mp hvalue
  exact (calls_bwSe value).appends (writes_bwSe hlow hhigh writer hclean).2 hroom

/-- The zeros that `bw_trailing` appends behind its one. -/
def trailingZeros (bits : Nat) : Nat := (8 - (bits + 1) % 8) % 8

/-- No smaller number of zeros reaches a byte boundary. -/
theorem trailingZeros_least (bits : Nat) :
    (bits + 1 + trailingZeros bits) % 8 = 0 ∧
      ∀ zeros < trailingZeros bits, (bits + 1 + zeros) % 8 ≠ 0 := by
  unfold trailingZeros
  constructor
  · omega
  · intro zeros hzeros
    omega

theorem contents_bwTrailing {writer : BitWriter} (hclean : writer.Clean) :
    (bwTrailing writer).contents =
      writer.contents ++ true :: List.replicate (trailingZeros writer.bits) false := by
  obtain ⟨haligned, zeros, hzeros, hcontents⟩ := bwTrailing_spec hclean
  have hbits := bits_eq_of_contents hcontents
  rw [List.length_cons, List.length_replicate] at hbits
  have heq : zeros = trailingZeros writer.bits := by
    unfold trailingZeros
    omega
  rw [hcontents, heq]

/-- The writer appends the codes of H.264: from any state it can be in, with room for the
code, the bits in front stay, and the decoder takes off the value and no bit more. -/
theorem writer_appends_codes {writer : BitWriter} (hreachable : writer.Reachable) :
    (∀ value : UInt32, value.toNat < 2 ^ 32 - 1 →
      writer.bits + (ueBits value.toNat).length ≤ 8 * bitWriterBytes →
        writer.Appends (bwUe writer value) (ueBits value.toNat) ∧
          ∀ rest, readUe.run (writer.appended (bwUe writer value) ++ rest) =
            some (value.toNat, rest)) ∧
    (∀ value : Int32, |value.toInt| < 2 ^ 30 →
      writer.bits + (seBits value.toInt).length ≤ 8 * bitWriterBytes →
        writer.Appends (bwSe writer value) (seBits value.toInt) ∧
          ∀ rest, readSe.run (writer.appended (bwSe writer value) ++ rest) =
            some (value.toInt, rest)) ∧
    (writer.bits + 1 + trailingZeros writer.bits ≤ 8 * bitWriterBytes →
      writer.Appends (bwTrailing writer)
        (true :: List.replicate (trailingZeros writer.bits) false) ∧
      (bwTrailing writer).bits % 8 = 0 ∧
      ∀ zeros < trailingZeros writer.bits, (writer.bits + 1 + zeros) % 8 ≠ 0) := by
  have hclean := hreachable.clean
  refine ⟨?_, ?_, ?_⟩
  · intro value hvalue hroom
    have happends := appends_bwUe hclean hvalue hroom
    refine ⟨happends, fun rest => ?_⟩
    rw [happends.appended_eq]
    exact readUe_run value.toNat rest
  · intro value hvalue hroom
    have happends := appends_bwSe hclean hvalue hroom
    refine ⟨happends, fun rest => ?_⟩
    rw [happends.appended_eq]
    exact readSe_run value.toInt rest
  · intro hroom
    obtain ⟨haligned, hleast⟩ := trailingZeros_least writer.bits
    have hcontents := contents_bwTrailing hclean
    refine ⟨calls_bwTrailing.appends hcontents ?_, ?_, hleast⟩
    · rw [List.length_cons, List.length_replicate]
      omega
    · rw [bits_eq_of_contents hcontents, List.length_cons, List.length_replicate]
      omega

/-- A writer that has written one bit and the code of one into an array of ones. -/
def unalignedWriter : BitWriter :=
  bwUe (bwBit { data := fun _ => 255, bits := 0 } 1) 1

theorem unalignedWriter_reachable : unalignedWriter.Reachable ∧ unalignedWriter.bits = 4 := by
  have hbit : (bwBit { data := fun _ => 255, bits := 0 } 1).Reachable :=
    ⟨fun _ => 255, .bit 1 .start (by decide)⟩
  have happends : BitWriter.Appends _ unalignedWriter (ueBits (1 : UInt32).toNat) :=
    appends_bwUe hbit.clean (by decide) (by decide)
  exact ⟨happends.reachable hbit, bits_eq_of_contents happends.contents⟩

/-- The code of four behind it, from the middle of the first byte into the second. -/
theorem unaligned_writer_appends :
    unalignedWriter.Appends (bwUe unalignedWriter 4) [false, false, true, false, true] ∧
      ∀ rest, readUe.run (unalignedWriter.appended (bwUe unalignedWriter 4) ++ rest) =
        some (4, rest) :=
  (writer_appends_codes unalignedWriter_reachable.1).1 4 (by decide)
    (by rw [unalignedWriter_reachable.2]; decide)

end UuAmfBridge
