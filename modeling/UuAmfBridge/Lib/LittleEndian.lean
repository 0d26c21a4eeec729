import Mathlib.Tactic.Ring

/-!
# Little-endian words

The packed structures of the program are sequences of little-endian words.
`leBytes` writes a natural number in a given width and `leValue` reads one
back; the two are inverse below the bound of the width.

A reader takes a word off the front of a byte list and returns the rest, so a
structure is decoded field by field.  `takeU32_append` and its companions are
the simp lemmas that make a decoder undo its encoder, and
`eq_append_of_takeU32` reads the encoded bytes off a decoded field.
-/

namespace UuAmfBridge

/-! ## Natural numbers -/

/-- The `width` low bytes of a number, least significant first. -/
def leBytes : Nat → Nat → List UInt8
  | 0, _ => []
  | width + 1, value => UInt8.ofNat value :: leBytes width (value / 256)

/-- The number a little-endian byte list stands for. -/
def leValue : List UInt8 → Nat
  | [] => 0
  | byte :: bytes => byte.toNat + 256 * leValue bytes

@[simp] theorem leBytes_length (width value : Nat) :
    (leBytes width value).length = width := by
  induction width generalizing value with
  | zero => rfl
  | succ width ih => simp [leBytes, ih]

theorem leValue_lt (bytes : List UInt8) : leValue bytes < 256 ^ bytes.length := by
  induction bytes with
  | nil => simp [leValue]
  | cons byte bytes ih =>
    have hbyte : byte.toNat < 256 := byte.toNat_lt
    simp only [leValue, List.length_cons, pow_succ]
    omega

/-- A number below the bound of the width is read back. -/
theorem leValue_leBytes {width value : Nat} (h : value < 256 ^ width) :
    leValue (leBytes width value) = value := by
  induction width generalizing value with
  | zero =>
    simp only [pow_zero] at h
    simp only [leBytes, leValue]
    omega
  | succ width ih =>
    have hquot : value / 256 < 256 ^ width := by
      rw [pow_succ] at h
      exact Nat.div_lt_of_lt_mul (by rw [mul_comm]; exact h)
    simp only [leBytes, leValue, ih hquot, UInt8.toNat_ofNat']
    omega

/-- Every byte list is the encoding of the number it stands for. -/
theorem leBytes_leValue (bytes : List UInt8) :
    leBytes bytes.length (leValue bytes) = bytes := by
  induction bytes with
  | nil => rfl
  | cons byte bytes ih =>
    have hbyte : byte.toNat < 256 := byte.toNat_lt
    have hquot : (byte.toNat + 256 * leValue bytes) / 256 = leValue bytes := by omega
    simp only [List.length_cons, leBytes, leValue, hquot, ih, List.cons.injEq, and_true]
    apply UInt8.toNat_inj.mp
    simp only [UInt8.toNat_ofNat']
    omega

/-! ## Fixed-width fields -/

/-- The four bytes of a `uint32_t`. -/
def u32Bytes (value : UInt32) : List UInt8 := leBytes 4 value.toNat

/-- Take a `uint32_t` off the front. -/
def takeU32 (bytes : List UInt8) : UInt32 × List UInt8 :=
  (UInt32.ofNat (leValue (bytes.take 4)), bytes.drop 4)

/-- The eight bytes of a `uint64_t`. -/
def u64Bytes (value : UInt64) : List UInt8 := leBytes 8 value.toNat

/-- Take a `uint64_t` off the front. -/
def takeU64 (bytes : List UInt8) : UInt64 × List UInt8 :=
  (UInt64.ofNat (leValue (bytes.take 8)), bytes.drop 8)

/-- The two bytes of a `uint16_t`. -/
def u16Bytes (value : UInt16) : List UInt8 := leBytes 2 value.toNat

/-- Take a `uint16_t` off the front. -/
def takeU16 (bytes : List UInt8) : UInt16 × List UInt8 :=
  (UInt16.ofNat (leValue (bytes.take 2)), bytes.drop 2)

/-- The four bytes of an `int32_t`. -/
def i32Bytes (value : Int32) : List UInt8 := u32Bytes value.toUInt32

/-- Take an `int32_t` off the front. -/
def takeI32 (bytes : List UInt8) : Int32 × List UInt8 :=
  (Int32.ofUInt32 (takeU32 bytes).1, (takeU32 bytes).2)

/-- The eight bytes of an `int64_t`. -/
def i64Bytes (value : Int64) : List UInt8 := u64Bytes value.toUInt64

/-- Take an `int64_t` off the front. -/
def takeI64 (bytes : List UInt8) : Int64 × List UInt8 :=
  (Int64.ofUInt64 (takeU64 bytes).1, (takeU64 bytes).2)

@[simp] theorem u32Bytes_length (value : UInt32) : (u32Bytes value).length = 4 :=
  leBytes_length _ _

@[simp] theorem u64Bytes_length (value : UInt64) : (u64Bytes value).length = 8 :=
  leBytes_length _ _

@[simp] theorem u16Bytes_length (value : UInt16) : (u16Bytes value).length = 2 :=
  leBytes_length _ _

@[simp] theorem i32Bytes_length (value : Int32) : (i32Bytes value).length = 4 :=
  leBytes_length _ _

@[simp] theorem i64Bytes_length (value : Int64) : (i64Bytes value).length = 8 :=
  leBytes_length _ _

@[simp] theorem takeU32_append (value : UInt32) (rest : List UInt8) :
    takeU32 (u32Bytes value ++ rest) = (value, rest) := by
  have hvalue : leValue (leBytes 4 value.toNat) = value.toNat :=
    leValue_leBytes value.toNat_lt
  simp [takeU32, u32Bytes, hvalue]

@[simp] theorem takeU64_append (value : UInt64) (rest : List UInt8) :
    takeU64 (u64Bytes value ++ rest) = (value, rest) := by
  have hvalue : leValue (leBytes 8 value.toNat) = value.toNat :=
    leValue_leBytes value.toNat_lt
  simp [takeU64, u64Bytes, hvalue]

@[simp] theorem takeU16_append (value : UInt16) (rest : List UInt8) :
    takeU16 (u16Bytes value ++ rest) = (value, rest) := by
  have hvalue : leValue (leBytes 2 value.toNat) = value.toNat :=
    leValue_leBytes value.toNat_lt
  simp [takeU16, u16Bytes, hvalue]

@[simp] theorem takeI32_append (value : Int32) (rest : List UInt8) :
    takeI32 (i32Bytes value ++ rest) = (value, rest) := by
  simp [takeI32, i32Bytes]

@[simp] theorem takeI64_append (value : Int64) (rest : List UInt8) :
    takeI64 (i64Bytes value ++ rest) = (value, rest) := by
  simp [takeI64, i64Bytes]

/-- The last field of a structure is read back from its bytes alone. -/
@[simp] theorem takeU32_u32Bytes (value : UInt32) :
    takeU32 (u32Bytes value) = (value, []) := by
  simpa using takeU32_append value []

/-- A decoded field and the rest give back the bytes they were decoded from. -/
theorem eq_append_of_takeU32 {bytes : List UInt8} (h : 4 ≤ bytes.length) :
    bytes = u32Bytes (takeU32 bytes).1 ++ (takeU32 bytes).2 := by
  have hlen : (bytes.take 4).length = 4 := by simp [h]
  have hlt : leValue (bytes.take 4) < 2 ^ 32 := by
    have := leValue_lt (bytes.take 4)
    rw [hlen] at this
    exact this
  have hbytes : leBytes 4 (leValue (bytes.take 4)) = bytes.take 4 := by
    have := leBytes_leValue (bytes.take 4)
    rwa [hlen] at this
  have hword : (UInt32.ofNat (leValue (bytes.take 4))).toNat = leValue (bytes.take 4) :=
    UInt32.toNat_ofNat_of_lt' hlt
  simp only [takeU32, u32Bytes, hword, hbytes, List.take_append_drop]

end UuAmfBridge
