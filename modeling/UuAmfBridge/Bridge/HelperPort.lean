import Mathlib.Algebra.Order.Group.Nat
import Mathlib.Data.List.Basic

/-!
# The port of the helper

`parse_port` of `src/amfrt_bridge.c`, `helper_port` of `src/dxva_bridge.c` and
`configured_capture_port` of `src/wayland_capture_hook.c`: three loops over the digits of
an environment variable.  They leave it at different places, so each has its own
definition.

`restPort` is what all three compute from the digits read so far and the text behind them.
A digit adds to them, any other character ends in the default, and so does a number that
has become too large, since a digit never makes it smaller.  `ports_agree` is the result.
An `unsigned long` has 32 bits on Windows; `addDigit` has no value where the arithmetic of
the source would wrap.
-/

namespace UuAmfBridge

/-- The value of an environment variable: a C string without its terminator. -/
structure EnvironmentString where
  text : List UInt8
  noTerminator : 0 ∉ text

/-- `HELPER_DEFAULT_PORT`. -/
def helperDefaultPort : UInt32 := 47890

/-- `CAPTURE_DEFAULT_PORT`. -/
def captureDefaultPort : UInt32 := 47892

/-! ## The three loops -/

/-- A character from `'0'` to `'9'`. -/
def isDigit (c : UInt8) : Bool := 48 ≤ c && c ≤ 57

/-- `value * 10 + (c - '0')`, unless that wraps. -/
def addDigit (value : UInt32) (c : UInt8) : Option UInt32 :=
  if value.toNat * 10 + (c.toNat - 48) < 2 ^ 32 then some (value * 10 + (c.toUInt32 - 48))
  else none

/-- The loop of `parse_port` with the return behind it. -/
def parsePortLoop (fallback value : UInt32) : List UInt8 → Option UInt32
  | [] => some (if value ≠ 0 then value else fallback)
  | c :: text =>
      if isDigit c then do
        let value ← addDigit value c
        if value > 65535 then some fallback else parsePortLoop fallback value text
      else
        -- the text does not end here
        some fallback

/-- `parse_port`. -/
def parsePort (text : Option EnvironmentString) (fallback : UInt32) : Option UInt32 :=
  match text with
  | none => some fallback
  | some text => if text.text = [] then some fallback else parsePortLoop fallback 0 text.text

/-- The loop of `helper_port`: the number and the cursor it stops at.  A number that is too
large stops it in front of its last digit. -/
def helperPortLoop (parsed : UInt32) : List UInt8 → Option (UInt32 × List UInt8)
  | [] => some (parsed, [])
  | c :: cursor =>
      if isDigit c then do
        let parsed ← addDigit parsed c
        if parsed > 65535 then some (parsed, c :: cursor) else helperPortLoop parsed cursor
      else some (parsed, c :: cursor)

/-- `helper_port`. -/
def helperPort (text : Option EnvironmentString) : Option UInt16 := do
  let value := helperDefaultPort
  match text with
  | none => some value.toUInt16
  | some text =>
      if text.text = [] then some value.toUInt16
      else
        let (parsed, cursor) ← helperPortLoop 0 text.text
        let value := if cursor = [] ∧ parsed ≠ 0 ∧ parsed ≤ 65535 then parsed else value
        some value.toUInt16

/-- The loop of `configured_capture_port` with the return behind it. -/
def configuredCapturePortLoop (value : UInt32) : List UInt8 → Option UInt32
  | [] => some (if value ≠ 0 then value else captureDefaultPort)
  | c :: text =>
      if c < 48 ∨ c > 57 then some captureDefaultPort
      else do
        let value ← addDigit value c
        if value > 65535 then some captureDefaultPort else configuredCapturePortLoop value text

/-- `sizeof(text)` of `configured_capture_port`. -/
def captureTextSize : Nat := 16

/-- `GetEnvironmentVariableA`: the length of a value that fits with its terminator, the
size that it needs otherwise, and zero where there is no variable. -/
def getEnvironmentVariable (text : Option EnvironmentString) (size : Nat) : Nat :=
  match text with
  | none => 0
  | some text => if text.text.length < size then text.text.length else text.text.length + 1

/-- `configured_capture_port`. -/
def configuredCapturePort (text : Option EnvironmentString) : Option UInt32 :=
  let length := getEnvironmentVariable text captureTextSize
  if length = 0 ∨ length ≥ captureTextSize then some captureDefaultPort
  else configuredCapturePortLoop 0 ((text.elim [] EnvironmentString.text).take length)

/-! ## The number of a text -/

/-- The number of a digit string behind the digits of `value`. -/
def decimalFrom (value : Nat) : List UInt8 → Nat
  | [] => value
  | c :: text => decimalFrom (value * 10 + (c.toNat - 48)) text

/-- The decimal value of a digit string. -/
def decimalValue (text : List UInt8) : Nat := decimalFrom 0 text

/-- The port that a variable names: its decimal value if it is a non-empty string of digits
from 1 to 65535, the default otherwise. -/
def portOf (fallback : Nat) : Option EnvironmentString → Nat
  | none => fallback
  | some text =>
      if text.text ≠ [] ∧ text.text.all isDigit ∧ 1 ≤ decimalValue text.text ∧
          decimalValue text.text ≤ 65535 then decimalValue text.text
      else fallback

theorem le_decimalFrom (value : Nat) (text : List UInt8) : value ≤ decimalFrom value text := by
  induction text generalizing value with
  | nil => exact Nat.le_refl value
  | cons c text ih =>
    have hrest := ih (value * 10 + (c.toNat - 48))
    show value ≤ decimalFrom (value * 10 + (c.toNat - 48)) text
    omega

/-- The port, once the digits of `value` have been read. -/
def restPort (fallback value : Nat) (text : List UInt8) : Nat :=
  if text.all isDigit ∧ 1 ≤ decimalFrom value text ∧ decimalFrom value text ≤ 65535 then
    decimalFrom value text
  else fallback

/-- At the end of the text only zero is no port. -/
theorem restPort_nil {value : UInt32} (hvalue : value.toNat ≤ 65535) (fallback : UInt32) :
    (if value ≠ 0 then value else fallback).toNat = restPort fallback.toNat value.toNat [] := by
  have hnone : ([] : List UInt8).all isDigit = true := rfl
  unfold restPort decimalFrom
  by_cases hzero : value = 0
  · have hzero' : value.toNat = 0 := by
      rw [hzero]
      rfl
    rw [if_neg (not_not.mpr hzero), if_neg fun h => by omega]
  · have hzero' : value.toNat ≠ 0 := fun h => hzero (UInt32.toNat_inj.mp h)
    rw [if_pos hzero, if_pos ⟨hnone, by omega, hvalue⟩]

theorem restPort_digit {c : UInt8} (hdigit : isDigit c = true) (fallback value : Nat)
    (text : List UInt8) :
    restPort fallback value (c :: text) = restPort fallback (value * 10 + (c.toNat - 48)) text := by
  have hfirst : (c :: text).all isDigit = true ↔ text.all isDigit = true := by
    rw [List.all_cons, hdigit, Bool.true_and]
  exact if_congr (and_congr_left fun _ => hfirst) rfl rfl

theorem restPort_other {c : UInt8} (hother : ¬isDigit c = true) (fallback value : Nat)
    (text : List UInt8) : restPort fallback value (c :: text) = fallback := by
  unfold restPort
  rw [if_neg fun h => hother (List.all_eq_true.mp h.1 c List.mem_cons_self)]

/-- A number that is too large stays too large. -/
theorem restPort_large {value : UInt32} (hlarge : value > 65535) (fallback : Nat)
    (text : List UInt8) : restPort fallback value.toNat text = fallback := by
  have hlarge' : 65535 < value.toNat := hlarge
  have hle := le_decimalFrom value.toNat text
  exact if_neg fun h => absurd h.2.2 (by omega)

theorem portOf_some (fallback : Nat) (text : EnvironmentString) :
    portOf fallback (some text) =
      if text.text = [] then fallback else restPort fallback 0 text.text := by
  by_cases hempty : text.text = []
  · rw [if_pos hempty]
    exact if_neg fun h => h.1 hempty
  · rw [if_neg hempty]
    show (if _ ≠ _ ∧ _ then _ else _) = restPort fallback 0 text.text
    simp only [ne_eq, hempty, not_false_eq_true, true_and]
    rfl

/-! ## The loops compute it -/

/-- Below the largest port no digit makes the arithmetic wrap. -/
theorem addDigit_eq {value : UInt32} (hvalue : value.toNat ≤ 65535) {c : UInt8}
    (hdigit : isDigit c = true) :
    ∃ next, addDigit value c = some next ∧ next.toNat = value.toNat * 10 + (c.toNat - 48) := by
  unfold isDigit at hdigit
  rw [Bool.and_eq_true, decide_eq_true_eq, decide_eq_true_eq] at hdigit
  have hlow : 48 ≤ c.toNat := hdigit.1
  have hhigh : c.toNat ≤ 57 := hdigit.2
  refine ⟨value * 10 + (c.toUInt32 - 48), ?_, ?_⟩
  · unfold addDigit
    rw [if_pos (by omega)]
  · have hc : (c.toUInt32 - 48).toNat = c.toNat - 48 := by
      have hle : (48 : UInt32) ≤ c.toUInt32 := by
        rw [UInt32.le_iff_toNat_le, UInt8.toNat_toUInt32]
        exact hlow
      rw [UInt32.toNat_sub_of_le _ _ hle, UInt8.toNat_toUInt32]
      rfl
    have hten : (10 : UInt32).toNat = 10 := rfl
    rw [UInt32.toNat_add, UInt32.toNat_mul, hc, hten]
    omega

/-- One digit in any of the loops: `stop` is what a loop ends with on a number that is too
large, `next` is the rest of the loop, and `port` the port of an end. -/
theorem digit_eq {α : Type} {stop : UInt32 → α} {next : UInt32 → Option α} {port : α → Nat}
    {fallback : Nat} {value : UInt32} {c : UInt8} {text : List UInt8}
    (hvalue : value.toNat ≤ 65535) (hdigit : isDigit c = true)
    (hstop : ∀ large > 65535, port (stop large) = fallback)
    (hnext : ∀ {small : UInt32}, small.toNat ≤ 65535 →
      (next small).map port = some (restPort fallback small.toNat text)) :
    ((addDigit value c).bind fun value =>
      if value > 65535 then some (stop value) else next value).map port =
        some (restPort fallback value.toNat (c :: text)) := by
  obtain ⟨sum, hadd, hsum⟩ := addDigit_eq hvalue hdigit
  rw [restPort_digit hdigit, ← hsum, hadd]
  show Option.map _ (if sum > 65535 then _ else _) = _
  by_cases hlarge : sum > 65535
  · rw [if_pos hlarge, restPort_large hlarge]
    exact congrArg some (hstop sum hlarge)
  · rw [if_neg hlarge]
    exact hnext (Nat.not_lt.mp hlarge)

theorem parsePortLoop_eq (fallback : UInt32) {value : UInt32} (hvalue : value.toNat ≤ 65535)
    (text : List UInt8) :
    (parsePortLoop fallback value text).map UInt32.toNat =
      some (restPort fallback.toNat value.toNat text) := by
  induction text generalizing value with
  | nil =>
    rw [← restPort_nil hvalue]
    rfl
  | cons c text ih =>
    rw [parsePortLoop]
    by_cases hdigit : isDigit c = true
    · rw [if_pos hdigit]
      exact digit_eq hvalue hdigit (fun _ _ => rfl) ih
    · rw [if_neg hdigit, restPort_other hdigit]
      rfl

/-- The choice of `helper_port` behind its loop. -/
def helperPortValue (stop : UInt32 × List UInt8) : UInt32 :=
  if stop.2 = [] ∧ stop.1 ≠ 0 ∧ stop.1 ≤ 65535 then stop.1 else helperDefaultPort

theorem helperPortLoop_eq {parsed : UInt32} (hparsed : parsed.toNat ≤ 65535)
    (text : List UInt8) :
    (helperPortLoop parsed text).map (fun stop => (helperPortValue stop).toNat) =
      some (restPort helperDefaultPort.toNat parsed.toNat text) := by
  induction text generalizing parsed with
  | nil =>
    have hsmall : parsed ≤ 65535 := hparsed
    rw [← restPort_nil hparsed]
    show some (helperPortValue (parsed, [])).toNat = _
    unfold helperPortValue
    simp only [true_and, hsmall, and_true]
  | cons c text ih =>
    rw [helperPortLoop]
    by_cases hdigit : isDigit c = true
    · rw [if_pos hdigit]
      -- A number that is too large stops the loop in front of a digit, so the text is not used up.
      exact digit_eq hparsed hdigit (fun _ _ => rfl) ih
    · rw [if_neg hdigit, restPort_other hdigit]
      rfl

theorem configuredCapturePortLoop_eq {value : UInt32} (hvalue : value.toNat ≤ 65535)
    (text : List UInt8) :
    (configuredCapturePortLoop value text).map UInt32.toNat =
      some (restPort captureDefaultPort.toNat value.toNat text) := by
  induction text generalizing value with
  | nil =>
    rw [← restPort_nil hvalue]
    rfl
  | cons c text ih =>
    rw [configuredCapturePortLoop]
    have hrange : (c < 48 ∨ c > 57) ↔ ¬isDigit c = true := by
      unfold isDigit
      rw [Bool.and_eq_true, decide_eq_true_eq, decide_eq_true_eq, not_and_or, UInt8.not_le,
        UInt8.not_le]
    by_cases hdigit : isDigit c = true
    · rw [if_neg (by rw [hrange, not_not]; exact hdigit)]
      exact digit_eq hvalue hdigit (fun _ _ => rfl) ih
    · rw [if_pos (hrange.mpr hdigit), restPort_other hdigit]
      rfl

/-! ## The three functions agree -/

theorem parsePort_eq (text : Option EnvironmentString) (fallback : UInt32) :
    (parsePort text fallback).map UInt32.toNat = some (portOf fallback.toNat text) := by
  cases text with
  | none => rfl
  | some text =>
    rw [portOf_some]
    show Option.map _ (if _ then _ else _) = _
    by_cases hempty : text.text = []
    · rw [if_pos hempty, if_pos hempty]
      rfl
    · rw [if_neg hempty, if_neg hempty]
      exact @parsePortLoop_eq fallback 0 (Nat.zero_le 65535) text.text

/-- The choice of `helper_port` is a port, so `unsigned short` holds it. -/
theorem helperPortValue_toUInt16 (stop : UInt32 × List UInt8) :
    (helperPortValue stop).toUInt16.toNat = (helperPortValue stop).toNat := by
  have hsmall : (helperPortValue stop).toNat ≤ 65535 := by
    unfold helperPortValue
    split_ifs with hstop
    · exact hstop.2.2
    · decide
  rw [UInt32.toNat_toUInt16]
  omega

theorem helperPort_eq (text : Option EnvironmentString) :
    (helperPort text).map UInt16.toNat = some (portOf helperDefaultPort.toNat text) := by
  cases text with
  | none => rfl
  | some text =>
    rw [portOf_some]
    show Option.map _ (if _ then _ else (helperPortLoop 0 text.text).bind fun stop =>
      some (helperPortValue stop).toUInt16) = _
    by_cases hempty : text.text = []
    · rw [if_pos hempty, if_pos hempty]
      rfl
    · rw [if_neg hempty, if_neg hempty]
      have hloop := @helperPortLoop_eq 0 (Nat.zero_le 65535) text.text
      obtain ⟨stop, hstop, hvalue⟩ := Option.map_eq_some_iff.mp hloop
      rw [hstop]
      show some (helperPortValue stop).toUInt16.toNat = _
      rw [helperPortValue_toUInt16, hvalue]
      rfl

theorem configuredCapturePort_eq {text : Option EnvironmentString}
    (hshort : ∀ value ∈ text, value.text.length < captureTextSize) :
    (configuredCapturePort text).map UInt32.toNat =
      some (portOf captureDefaultPort.toNat text) := by
  cases text with
  | none => rfl
  | some text =>
    have hlength := hshort text rfl
    have hreturn : getEnvironmentVariable (some text) captureTextSize = text.text.length :=
      if_pos hlength
    rw [portOf_some]
    unfold configuredCapturePort
    simp only [hreturn]
    by_cases hempty : text.text = []
    · rw [if_pos hempty, if_pos (Or.inl (by rw [hempty]; rfl))]
      rfl
    · have hpos : 0 < text.text.length := List.length_pos_iff.mpr hempty
      rw [if_neg hempty, if_neg (by omega)]
      show (configuredCapturePortLoop 0 (text.text.take text.text.length)).map _ = _
      rw [List.take_length]
      exact @configuredCapturePortLoop_eq 0 (Nat.zero_le 65535) text.text

/-- Both sides of the encoder and of the decoder take the same port out of the environment,
and the capture hook uses the same rule wherever its buffer holds the value.  No number on
the way wraps. -/
theorem ports_agree (text : Option EnvironmentString) :
    (parsePort text helperDefaultPort).map UInt32.toNat = some (portOf 47890 text) ∧
      (helperPort text).map UInt16.toNat = some (portOf 47890 text) ∧
      ((∀ value ∈ text, value.text.length < 16) →
        (configuredCapturePort text).map UInt32.toNat = some (portOf 47892 text)) :=
  ⟨parsePort_eq text helperDefaultPort, helperPort_eq text, configuredCapturePort_eq⟩

/-- The text `0080`. -/
def leadingZerosText : List UInt8 := [48, 48, 56, 48]

theorem leadingZerosText_noTerminator : 0 ∉ leadingZerosText := by decide

/-- Leading zeros in front of a port. -/
theorem ports_agree_leading_zeros :
    (configuredCapturePort (some ⟨leadingZerosText, leadingZerosText_noTerminator⟩)).map
      UInt32.toNat = some 80 := by
  have hshort : ∀ value ∈ some (⟨leadingZerosText, leadingZerosText_noTerminator⟩ :
      EnvironmentString), value.text.length < 16 := by
    intro value hvalue
    obtain rfl := Option.some.inj hvalue
    show leadingZerosText.length < 16
    decide
  have hport : portOf 47892 (some ⟨leadingZerosText, leadingZerosText_noTerminator⟩) = 80 := by
    decide +kernel
  rw [(ports_agree (some ⟨leadingZerosText, leadingZerosText_noTerminator⟩)).2.2 hshort, hport]

end UuAmfBridge
