import Mathlib.Data.Nat.Bitwise
import Mathlib.Tactic.Ring

/-!
# Bit strings and Exp-Golomb codes

A bit string is a list of bits in the order in which they are sent.  A number in
`count` bits is sent with its most significant bit first (`bitsOf`), and a byte is a
number in eight bits.

A `BitReader` takes a value off the front.  `readBits_run` and its companions say
that a reader undoes its writer and leaves what follows; they are simp lemmas, so a
syntax that is read field by field is undone by simp.

The Exp-Golomb code of a number is the number plus one, without leading zeros,
behind as many zeros as it has bits after the first.  The signed code counts
`0, 1, -1, 2, -2` and so on.
-/

namespace UuAmfBridge

/-! ## Numbers -/

/-- The `count` low bits of a number, most significant first. -/
def bitsOf : Nat → Nat → List Bool
  | 0, _ => []
  | count + 1, value => value.testBit count :: bitsOf count value

/-- The number a bit string stands for. -/
def bitsValue : List Bool → Nat
  | [] => 0
  | bit :: bits => bit.toNat * 2 ^ bits.length + bitsValue bits

@[simp] theorem bitsOf_length (count value : Nat) : (bitsOf count value).length = count := by
  induction count with
  | zero => rfl
  | succ count ih => rw [bitsOf, List.length_cons, ih]

theorem bitsValue_bitsOf (count value : Nat) :
    bitsValue (bitsOf count value) = value % 2 ^ count := by
  induction count with
  | zero => rw [bitsOf, bitsValue, pow_zero, Nat.mod_one]
  | succ count ih =>
    rw [bitsOf, bitsValue, ih, bitsOf_length, Nat.mod_pow_succ, Nat.toNat_testBit]
    ring

/-- Bits that are all zero. -/
theorem bitsOf_zero (count : Nat) : bitsOf count 0 = List.replicate count false := by
  induction count with
  | zero => rfl
  | succ count ih => rw [bitsOf, ih, Nat.zero_testBit, List.replicate_succ]

/-- The bits by their positions. -/
theorem bitsOf_eq_map (count value : Nat) :
    bitsOf count value = (List.range count).map fun i => value.testBit (count - 1 - i) := by
  induction count with
  | zero => rfl
  | succ count ih =>
    rw [bitsOf, ih, List.range_succ_eq_map, List.map_cons, List.map_map]
    refine congrArg₂ List.cons rfl (List.map_congr_left fun i hi => ?_)
    rw [List.mem_range] at hi
    show value.testBit (count - 1 - i) = value.testBit (count + 1 - 1 - (i + 1))
    congr 1
    omega

/-- The bits of a byte. -/
def byteBits (byte : UInt8) : List Bool := bitsOf 8 byte.toNat

/-- The bits of a byte string. -/
def bytesBits (bytes : List UInt8) : List Bool := bytes.flatMap byteBits

/-- Bytes whose bits are given by their positions. -/
theorem bytesBits_map_range {data : Nat → UInt8} {bit : Nat → Bool}
    (h : ∀ k, byteBits (data k) = (List.range 8).map fun i => bit (8 * k + i)) (count : Nat) :
    bytesBits ((List.range count).map data) = (List.range (8 * count)).map bit := by
  induction count with
  | zero => rfl
  | succ count ih =>
    have hlast : bytesBits [data count] = (List.range 8).map fun i => bit (8 * count + i) := by
      rw [← h count]
      exact List.append_nil _
    have hsplit : bytesBits ((List.range count).map data ++ [data count]) =
        bytesBits ((List.range count).map data) ++ bytesBits [data count] :=
      List.flatMap_append
    rw [List.range_succ, List.map_append, List.map_singleton, hsplit, ih, hlast, Nat.mul_add,
      Nat.mul_one, List.range_add, List.map_append, List.map_map]
    rfl

/-! ## Readers -/

/-- A reader takes a value off the front of a bit string, or fails. -/
abbrev BitReader := StateT (List Bool) Option

/-- One bit. -/
def readFlag : BitReader Bool
  | [] => none
  | bit :: bits => some (bit, bits)

/-- A reader that takes its value off the front leaves the rest to the next one. -/
theorem bind_run {α β : Type} {reader : BitReader α} {next : α → BitReader β}
    {bits rest : List Bool} {value : α} (h : reader.run bits = some (value, rest)) :
    (reader >>= next).run bits = (next value).run rest := by
  rw [StateT.run_bind, h]
  rfl

/-- A number in `count` bits. -/
def readBits (count : Nat) : BitReader Nat := fun bits =>
  if bits.length < count then none
  else some (bitsValue (bits.take count), bits.drop count)

@[simp] theorem readFlag_run (bit : Bool) (rest : List Bool) :
    readFlag.run (bit :: rest) = some (bit, rest) := rfl

theorem readBits_append (count value : Nat) (rest : List Bool) :
    (readBits count).run (bitsOf count value ++ rest) = some (value % 2 ^ count, rest) := by
  have hlength := bitsOf_length count value
  show (if _ < count then none else _) = _
  rw [if_neg (by rw [List.length_append]; omega), List.take_left' hlength,
    List.drop_left' hlength, bitsValue_bitsOf]

/-- A number that fits is read back. -/
@[simp] theorem readBits_run {count value : Nat} (h : value < 2 ^ count) (rest : List Bool) :
    (readBits count).run (bitsOf count value ++ rest) = some (value, rest) := by
  rw [readBits_append, Nat.mod_eq_of_lt h]

/-! ## Exp-Golomb codes -/

/-- The code of a number. -/
def ueBits (value : Nat) : List Bool :=
  List.replicate (value + 1).log2 false ++ bitsOf ((value + 1).log2 + 1) (value + 1)

/-- Count the zeros before the first one, skip the one, and read as many bits. -/
def readUe : BitReader Nat := fun bits =>
  let zeros := (bits.takeWhile fun bit => !bit).length
  if bits.length ≤ zeros then none
  else
    match (readBits zeros).run (bits.drop (zeros + 1)) with
    | none => none
    | some (suffix, rest) => some (2 ^ zeros - 1 + suffix, rest)

/-- The number of a signed value. -/
def seCode (value : Int) : Nat := if value ≤ 0 then (-value * 2).toNat else (value * 2 - 1).toNat

/-- The signed value of a number. -/
def seValue (code : Nat) : Int := if code % 2 = 1 then (code / 2 : Nat) + 1 else -(code / 2 : Nat)

/-- The code of a signed value. -/
def seBits (value : Int) : List Bool := ueBits (seCode value)

def readSe : BitReader Int := do return seValue (← readUe)

theorem seValue_seCode (value : Int) : seValue (seCode value) = value := by
  unfold seValue seCode
  by_cases hvalue : value ≤ 0
  · rw [if_pos hvalue, if_neg (by omega)]
    omega
  · rw [if_neg hvalue, if_pos (by omega)]
    omega

/-- The code starts with its zeros and a one. -/
theorem ueBits_eq (value : Nat) :
    ueBits value = List.replicate (value + 1).log2 false ++
      true :: bitsOf (value + 1).log2 (value + 1) := by
  have hone : (value + 1).testBit (value + 1).log2 = true :=
    Nat.testBit_log2 (Nat.succ_ne_zero value)
  unfold ueBits
  rw [bitsOf, hone]

/-- A code is read back. -/
@[simp] theorem readUe_run (value : Nat) (rest : List Bool) :
    readUe.run (ueBits value ++ rest) = some (value, rest) := by
  rw [ueBits_eq, List.append_assoc, List.cons_append]
  generalize hzeros : (value + 1).log2 = zeros
  have hlow : 2 ^ zeros ≤ value + 1 := by
    rw [← hzeros]
    exact Nat.log2_self_le (Nat.succ_ne_zero value)
  have hhigh : value + 1 < 2 ^ (zeros + 1) := by
    rw [← hzeros]
    exact Nat.lt_log2_self
  have hmod : (value + 1) % 2 ^ zeros = value + 1 - 2 ^ zeros := by
    rw [Nat.mod_eq_sub_mod hlow]
    apply Nat.mod_eq_of_lt
    rw [pow_succ] at hhigh
    omega
  have htake : (List.replicate zeros false ++ true :: (bitsOf zeros (value + 1) ++ rest)).takeWhile
      (fun bit => !bit) = List.replicate zeros false := by
    rw [List.takeWhile_append_of_pos fun bit hbit => by rw [List.eq_of_mem_replicate hbit]; rfl]
    simp
  have hdrop : (List.replicate zeros false ++ true :: (bitsOf zeros (value + 1) ++ rest)).drop
      (zeros + 1) = bitsOf zeros (value + 1) ++ rest := by
    rw [← List.drop_drop, List.drop_left' List.length_replicate]
    rfl
  show (if _ ≤ _ then none else _) = _
  rw [htake, List.length_replicate, hdrop, readBits_append, if_neg]
  · simp only [hmod]
    congr 2
    omega
  · rw [List.length_append, List.length_replicate, List.length_cons]
    omega

/-- A signed code is read back. -/
@[simp] theorem readSe_run (value : Int) (rest : List Bool) :
    readSe.run (seBits value ++ rest) = some (value, rest) := by
  unfold readSe seBits
  rw [StateT.run_bind, readUe_run]
  show some (seValue (seCode value), rest) = some (value, rest)
  rw [seValue_seCode]

end UuAmfBridge
