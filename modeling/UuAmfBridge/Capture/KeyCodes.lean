import UuAmfBridge.Capture.Protocol

/-!
# Key codes and mouse flags

The tables of `src/wayland_capture_helper.cpp` that turn the virtual keys and
scan codes of Windows into the codes of `linux/input-event-codes.h`, and the bits
of the flags of an event.
-/

namespace UuAmfBridge

/-! ## Codes of Linux -/

def btnMisc : Nat := 0x100
def btnLeft : Nat := 0x110
def btnRight : Nat := 0x111
def btnMiddle : Nat := 0x112
def btnSide : Nat := 0x113
def btnExtra : Nat := 0x114

/-- `KEY_A` to `KEY_Z`. -/
def letters : List Nat :=
  [30, 48, 46, 32, 18, 33, 34, 35, 23, 36, 37, 38, 50, 49, 24, 25, 16, 19, 31, 20, 22, 47, 17, 45,
    21, 44]

/-- `KEY_0` to `KEY_9`. -/
def digits : List Nat := [11, 2, 3, 4, 5, 6, 7, 8, 9, 10]

/-- `KEY_KP0` to `KEY_KP9`. -/
def keypad : List Nat := [82, 79, 80, 81, 75, 76, 77, 71, 72, 73]

/-! ## Tables -/

/-- `extended_scan_code`; a code that is not in the table is zero. -/
def extendedScanCode (scan : UInt16) : Nat :=
  match (scan &&& 0xff).toNat with
  | 0x1c => 96
  | 0x1d => 97
  | 0x35 => 98
  | 0x37 => 99
  | 0x38 => 100
  | 0x47 => 102
  | 0x48 => 103
  | 0x49 => 104
  | 0x4b => 105
  | 0x4d => 106
  | 0x4f => 107
  | 0x50 => 108
  | 0x51 => 109
  | 0x52 => 110
  | 0x53 => 111
  | 0x5b => 125
  | 0x5c => 126
  | 0x5d => 127
  | _ => 0

/-- The last table of `virtual_key_code`. -/
def otherKeyCode : Nat → Nat
  | 0x08 => 14
  | 0x09 => 15
  | 0x0d => 28
  | 0x10 | 0xa0 => 42
  | 0xa1 => 54
  | 0x11 | 0xa2 => 29
  | 0xa3 => 97
  | 0x12 | 0xa4 => 56
  | 0xa5 => 100
  | 0x13 => 119
  | 0x14 => 58
  | 0x1b => 1
  | 0x20 => 57
  | 0x21 => 104
  | 0x22 => 109
  | 0x23 => 107
  | 0x24 => 102
  | 0x25 => 105
  | 0x26 => 103
  | 0x27 => 106
  | 0x28 => 108
  | 0x2c => 99
  | 0x2d => 110
  | 0x2e => 111
  | 0x5b => 125
  | 0x5c => 126
  | 0x5d => 127
  | 0x6a => 55
  | 0x6b => 78
  | 0x6d => 74
  | 0x6e => 83
  | 0x6f => 98
  | 0x90 => 69
  | 0x91 => 70
  | 0xba => 39
  | 0xbb => 13
  | 0xbc => 51
  | 0xbd => 12
  | 0xbe => 52
  | 0xbf => 53
  | 0xc0 => 41
  | 0xdb => 26
  | 0xdc => 43
  | 0xdd => 27
  | 0xde => 40
  | _ => 0

/-- `virtual_key_code`; a key that is in no table is zero. -/
def virtualKeyCode (key : UInt16) : Nat :=
  let key := key.toNat
  if 0x41 ≤ key ∧ key ≤ 0x5a then letters.getD (key - 0x41) 0
  else if 0x30 ≤ key ∧ key ≤ 0x39 then digits.getD (key - 0x30) 0
  else if 0x60 ≤ key ∧ key ≤ 0x69 then keypad.getD (key - 0x60) 0
  else if 0x70 ≤ key ∧ key ≤ 0x79 then 59 + (key - 0x70)
  else if key = 0x7a then 87
  else if key = 0x7b then 88
  else otherKeyCode key

/-- `wheel_value`: the notches of a wheel, at least one for any turn. -/
def wheelValue (data : UInt32) : Int32 :=
  let signed := data.toInt32
  let result := signed / 120
  if result = 0 ∧ signed ≠ 0 then if 0 < signed then 1 else -1 else result

/-! ## Flags -/

/-- A bit of the flags of an event is set. -/
def CaptureInputEvent.has (event : CaptureInputEvent) (flag : UInt32) : Bool :=
  event.flags &&& flag != 0

/-- The code a keyboard event asks for, when it asks for one that exists. -/
def keyboardCode (event : CaptureInputEvent) : Option Nat :=
  if event.has 0x0004 then none
  else
    let code :=
      if event.has 0x0008 then
        if event.has 0x0001 then extendedScanCode event.scanCode
        else (event.scanCode &&& 0xff).toNat
      else virtualKeyCode event.virtualKey
    if code = 0 ∨ btnMisc ≤ code then none else some code

end UuAmfBridge
