import Mathlib.Data.List.Basic

/-!
# Start codes and emulation prevention

A byte stream of units separated by the start code `00 00 00 01`.  So that a start
code does not occur inside a unit, a byte `03` is put before every byte up to `03`
that follows two zero bytes (`escape`), and a reader drops it again (`unescape`).

* `unescape_escape`: the reader gets the bytes back.
* `escaped_escape`: behind two zero bytes there is no byte below `03`.
* `splitStartCodes_append`: a unit of that kind that does not end in a zero byte is
  split off whole.
-/

namespace UuAmfBridge

/-- The run of zero bytes after one more byte. -/
def zeroRun (zeros : Nat) (byte : UInt8) : Nat := if byte = 0 then zeros + 1 else 0

/-- Put a byte `03` before every byte up to `03` behind two zero bytes; `zeros`
zero bytes have gone before. -/
def escape : Nat → List UInt8 → List UInt8
  | _, [] => []
  | zeros, byte :: bytes =>
      if 2 ≤ zeros ∧ byte ≤ 3 then 3 :: byte :: escape (zeroRun 0 byte) bytes
      else byte :: escape (zeroRun zeros byte) bytes

/-- Drop every byte `03` behind two zero bytes. -/
def unescape : Nat → List UInt8 → List UInt8
  | _, [] => []
  | zeros, byte :: bytes =>
      if 2 ≤ zeros ∧ byte = 3 then unescape 0 bytes
      else byte :: unescape (zeroRun zeros byte) bytes

theorem unescape_escape (zeros : Nat) (bytes : List UInt8) :
    unescape zeros (escape zeros bytes) = bytes := by
  induction bytes generalizing zeros with
  | nil => rfl
  | cons byte bytes ih =>
    unfold escape
    by_cases hescape : 2 ≤ zeros ∧ byte ≤ 3
    · rw [if_pos hescape, unescape, if_pos ⟨hescape.1, rfl⟩, unescape,
        if_neg fun h => absurd h.1 (by omega), ih]
    · have hkeep : ¬(2 ≤ zeros ∧ byte = 3) := by
        rintro ⟨hzeros, rfl⟩
        exact hescape ⟨hzeros, UInt8.le_refl 3⟩
      rw [if_neg hescape, unescape, if_neg hkeep, ih]

/-- Behind two zero bytes there is no byte below `03`. -/
def Escaped : Nat → List UInt8 → Prop
  | _, [] => True
  | zeros, byte :: bytes => (2 ≤ zeros → 2 < byte) ∧ Escaped (zeroRun zeros byte) bytes

theorem escaped_escape (zeros : Nat) (bytes : List UInt8) : Escaped zeros (escape zeros bytes) := by
  induction bytes generalizing zeros with
  | nil => trivial
  | cons byte bytes ih =>
    unfold escape
    by_cases hescape : 2 ≤ zeros ∧ byte ≤ 3
    · rw [if_pos hescape]
      exact ⟨fun _ => by decide, fun h => absurd (show 2 ≤ 0 from h) (by decide), ih _⟩
    · rw [if_neg hescape]
      refine ⟨fun hzeros => ?_, ih _⟩
      have hlarge : 3 < byte := UInt8.not_le.mp fun hle => hescape ⟨hzeros, hle⟩
      exact UInt8.lt_trans (by decide) hlarge

/-- There is one byte more for at most every second byte; the zero bytes that have gone
before count for at most two. -/
theorem length_escape_le (zeros : Nat) (bytes : List UInt8) :
    (escape zeros bytes).length ≤ bytes.length + (bytes.length + min zeros 2) / 2 := by
  induction bytes generalizing zeros with
  | nil => exact Nat.zero_le _
  | cons byte bytes ih =>
    have hrun : ∀ zeros, zeroRun zeros byte ≤ zeros + 1 := by
      intro zeros
      unfold zeroRun
      split_ifs <;> omega
    unfold escape
    by_cases hescape : 2 ≤ zeros ∧ byte ≤ 3
    · rw [if_pos hescape]
      have hrest := ih (zeroRun 0 byte)
      have hone := hrun 0
      simp only [List.length_cons]
      omega
    · rw [if_neg hescape]
      have hrest := ih (zeroRun zeros byte)
      have hmore : min (zeroRun zeros byte) 2 ≤ min zeros 2 + 1 := by
        have hone := hrun zeros
        omega
      simp only [List.length_cons]
      omega

/-- The last byte is kept. -/
theorem getLast?_escape (zeros : Nat) (bytes : List UInt8) :
    (escape zeros bytes).getLast? = bytes.getLast? := by
  induction bytes generalizing zeros with
  | nil => rfl
  | cons byte bytes ih =>
    unfold escape
    split_ifs
    · rw [List.getLast?_cons_cons, List.getLast?_cons, List.getLast?_cons, ih]
    · rw [List.getLast?_cons, List.getLast?_cons, ih]

/-! ## The inserted bytes -/

/-- `escape` with a mark on every byte it inserts. -/
def escapeMarked : Nat → List UInt8 → List (UInt8 × Bool)
  | _, [] => []
  | zeros, byte :: bytes =>
      if 2 ≤ zeros ∧ byte ≤ 3 then
        (3, true) :: (byte, false) :: escapeMarked (zeroRun 0 byte) bytes
      else (byte, false) :: escapeMarked (zeroRun zeros byte) bytes

theorem map_escapeMarked (zeros : Nat) (bytes : List UInt8) :
    (escapeMarked zeros bytes).map Prod.fst = escape zeros bytes := by
  induction bytes generalizing zeros with
  | nil => rfl
  | cons byte bytes ih =>
    unfold escapeMarked escape
    split_ifs
    · rw [List.map_cons, List.map_cons, ih]
    · rw [List.map_cons, ih]

/-- Without the inserted bytes the bytes are those of before. -/
theorem filter_escapeMarked (zeros : Nat) (bytes : List UInt8) :
    ((escapeMarked zeros bytes).filter fun marked => !marked.2).map Prod.fst = bytes := by
  induction bytes generalizing zeros with
  | nil => rfl
  | cons byte bytes ih =>
    unfold escapeMarked
    split_ifs
    · rw [List.filter_cons_of_neg (by decide), List.filter_cons_of_pos rfl, List.map_cons, ih]
    · rw [List.filter_cons_of_pos rfl, List.map_cons, ih]

/-- Behind two zero bytes the only byte up to `03` is an inserted one. -/
def EscapedMarked : Nat → List (UInt8 × Bool) → Prop
  | _, [] => True
  | zeros, (byte, inserted) :: rest =>
      (2 ≤ zeros → byte ≤ 3 → byte = 3 ∧ inserted = true) ∧
        EscapedMarked (zeroRun zeros byte) rest

theorem escapedMarked_escapeMarked (zeros : Nat) (bytes : List UInt8) :
    EscapedMarked zeros (escapeMarked zeros bytes) := by
  induction bytes generalizing zeros with
  | nil => trivial
  | cons byte bytes ih =>
    unfold escapeMarked
    by_cases hescape : 2 ≤ zeros ∧ byte ≤ 3
    · rw [if_pos hescape]
      exact ⟨fun _ _ => ⟨rfl, rfl⟩, fun h => absurd (show 2 ≤ 0 from h) (by decide), ih _⟩
    · rw [if_neg hescape]
      exact ⟨fun hzeros hbyte => absurd ⟨hzeros, hbyte⟩ hescape, ih _⟩

/-- Wherever two zero bytes stand in the marked bytes. -/
theorem EscapedMarked.behind_zeros {zeros : Nat} {before after : List (UInt8 × Bool)}
    {first second inserted : Bool} {byte : UInt8}
    (hescaped : EscapedMarked zeros
      (before ++ (0, first) :: (0, second) :: (byte, inserted) :: after)) (hbyte : byte ≤ 3) :
    byte = 3 ∧ inserted = true := by
  induction before generalizing zeros with
  | nil =>
    have hrun : 2 ≤ zeroRun (zeroRun zeros 0) 0 := by
      show 2 ≤ zeros + 1 + 1
      omega
    exact hescaped.2.2.1 hrun hbyte
  | cons marked before ih => exact ih hescaped.2

/-- Wherever two zero bytes stand in the bytes. -/
theorem EscapedMarked.no_start {zeros : Nat} {marked : List (UInt8 × Bool)}
    (hescaped : EscapedMarked zeros marked) {byte : UInt8} (hbyte : byte ≤ 2) :
    ¬[0, 0, byte] <:+: marked.map Prod.fst := by
  rintro ⟨before, after, hbytes⟩
  have hsplit : marked.map Prod.fst = before ++ 0 :: 0 :: byte :: after := by
    rw [← hbytes, List.append_assoc]
    rfl
  obtain ⟨front, back, rfl, -, hback⟩ := List.map_eq_append_iff.mp hsplit
  obtain ⟨⟨_, first⟩, back, rfl, rfl, hrest⟩ := List.map_eq_cons_iff.mp hback
  obtain ⟨⟨_, second⟩, back, rfl, rfl, hlast⟩ := List.map_eq_cons_iff.mp hrest
  obtain ⟨⟨_, inserted⟩, back, rfl, rfl, -⟩ := List.map_eq_cons_iff.mp hlast
  have hthree := (hescaped.behind_zeros (UInt8.le_trans hbyte (by decide))).1
  have htwo : (3 : UInt8) ≤ 2 := hthree ▸ hbyte
  exact absurd htwo (by decide)

/-! ## Splitting -/

/-- One more byte at the front of the first unit. -/
def consFirst (byte : UInt8) : List (List UInt8) → List (List UInt8)
  | [] => [[byte]]
  | unit :: units => (byte :: unit) :: units

/-- The parts of a byte stream between its start codes, from the bytes before the
first one on. -/
def splitStartCodes : List UInt8 → List (List UInt8)
  | [] => [[]]
  | byte :: bytes =>
      if byte = 0 ∧ bytes.take 3 = [0, 0, 1] then [] :: splitStartCodes (bytes.drop 3)
      else consFirst byte (splitStartCodes bytes)
termination_by bytes => bytes.length
decreasing_by
  · rw [List.length_drop, List.length_cons]
    omega
  · exact Nat.lt_succ_self _

/-- A start code. -/
def startCode : List UInt8 := [0, 0, 0, 1]

theorem splitStartCodes_startCode (bytes : List UInt8) :
    splitStartCodes (startCode ++ bytes) = [] :: splitStartCodes bytes := by
  show splitStartCodes (0 :: ([0, 0, 1] ++ bytes)) = _
  rw [splitStartCodes, if_pos ⟨rfl, rfl⟩]
  rfl

/-- No start code begins in an escaped unit that does not end in a zero byte. -/
theorem not_startCode_of_escaped {zeros : Nat} {byte : UInt8} {unit rest : List UInt8}
    (hescaped : Escaped zeros (byte :: unit)) (hlast : (byte :: unit).getLast? ≠ some 0) :
    ¬(byte = 0 ∧ (unit ++ rest).take 3 = [0, 0, 1]) := by
  rintro ⟨rfl, hcode⟩
  cases unit with
  | nil => exact hlast rfl
  | cons second unit =>
    obtain ⟨rfl, hcode⟩ : second = 0 ∧ (unit ++ rest).take 2 = [0, 1] := by
      simpa using hcode
    cases unit with
    | nil => exact hlast rfl
    | cons third unit =>
      obtain ⟨rfl, -⟩ : third = 0 ∧ (unit ++ rest).take 1 = [1] := by simpa using hcode
      have hrun : 2 ≤ zeroRun (zeroRun zeros 0) 0 := by
        show 2 ≤ zeros + 1 + 1
        omega
      exact absurd (hescaped.2.2.1 hrun) (by decide)

/-- An escaped unit that does not end in a zero byte is split off whole. -/
theorem splitStartCodes_append {zeros : Nat} {unit rest : List UInt8}
    (hescaped : Escaped zeros unit) (hlast : unit.getLast? ≠ some 0) :
    splitStartCodes (unit ++ (startCode ++ rest)) = unit :: splitStartCodes rest := by
  induction unit generalizing zeros with
  | nil => exact splitStartCodes_startCode rest
  | cons byte unit ih =>
    have hnext : unit.getLast? ≠ some 0 ∨ unit = [] := by
      cases unit with
      | nil => exact Or.inr rfl
      | cons second unit => exact Or.inl (by rwa [List.getLast?_cons_cons] at hlast)
    rw [List.cons_append, splitStartCodes, if_neg (not_startCode_of_escaped hescaped hlast)]
    rcases hnext with hnext | rfl
    · rw [ih hescaped.2 hnext]
      rfl
    · rw [List.nil_append, splitStartCodes_startCode]
      rfl

/-- An escaped unit alone. -/
theorem splitStartCodes_of_escaped {zeros : Nat} {unit : List UInt8}
    (hescaped : Escaped zeros unit) (hlast : unit.getLast? ≠ some 0) :
    splitStartCodes unit = [unit] := by
  induction unit generalizing zeros with
  | nil => rw [splitStartCodes]
  | cons byte unit ih =>
    have hno := @not_startCode_of_escaped zeros byte unit [] hescaped hlast
    rw [List.append_nil] at hno
    rw [splitStartCodes, if_neg hno]
    cases unit with
    | nil =>
      rw [splitStartCodes]
      rfl
    | cons second unit =>
      rw [List.getLast?_cons_cons] at hlast
      rw [ih hescaped.2 hlast]
      rfl

end UuAmfBridge
