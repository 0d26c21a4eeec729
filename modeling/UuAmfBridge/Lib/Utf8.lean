import Mathlib.Data.List.DropRight
import Mathlib.Data.List.TakeWhile

/-!
# Trimming and cutting UTF-8

The UTF-8 form of a text is the concatenation of the codes of its characters, those of
`String.utf8EncodeChar`.  A program that trims or cuts the bytes and not the characters
still leaves whole characters, but for the last one.

* `takeUtf8_cases`: a cut leaves a prefix of the text, and behind it nothing or the
  beginning of one character.
* `dropWhile_encodeUtf8`, `rdropWhile_encodeUtf8`: trimming ASCII bytes trims the
  characters.
* `decodeUtf8`: a decoder that stops at what is not a character.
-/

namespace UuAmfBridge

/-- The UTF-8 form of a text. -/
def encodeUtf8 (text : List Char) : List UInt8 := text.flatMap String.utf8EncodeChar

@[simp] theorem encodeUtf8_nil : encodeUtf8 [] = [] := rfl

theorem encodeUtf8_cons (c : Char) (text : List Char) :
    encodeUtf8 (c :: text) = String.utf8EncodeChar c ++ encodeUtf8 text := rfl

theorem encodeUtf8_append (text rest : List Char) :
    encodeUtf8 (text ++ rest) = encodeUtf8 text ++ encodeUtf8 rest := List.flatMap_append

theorem encodeUtf8_eq_nil_iff {text : List Char} : encodeUtf8 text = [] ↔ text = [] := by
  cases text with
  | nil => simp
  | cons c text =>
    rw [encodeUtf8_cons, List.append_eq_nil_iff]
    simp

/-! ## ASCII bytes -/

/-- The code of an ASCII character is one byte, and no other code has an ASCII byte. -/
theorem utf8EncodeChar_ascii (c : Char) :
    (∃ byte, String.utf8EncodeChar c = [byte]) ∨
      ∀ byte ∈ String.utf8EncodeChar c, 128 ≤ byte.toNat := by
  unfold String.utf8EncodeChar
  simp only
  split_ifs
  · exact Or.inl ⟨_, rfl⟩
  · right
    intro byte hbyte
    simp only [List.mem_cons, List.not_mem_nil, or_false] at hbyte
    rcases hbyte with rfl | rfl
    · rw [UInt8.toNat_ofNat']
      omega
    · rw [UInt8.toNat_ofNat']
      omega
  · right
    intro byte hbyte
    simp only [List.mem_cons, List.not_mem_nil, or_false] at hbyte
    rcases hbyte with rfl | rfl | rfl
    · rw [UInt8.toNat_ofNat']
      omega
    · rw [UInt8.toNat_ofNat']
      omega
    · rw [UInt8.toNat_ofNat']
      omega
  · right
    intro byte hbyte
    simp only [List.mem_cons, List.not_mem_nil, or_false] at hbyte
    rcases hbyte with rfl | rfl | rfl | rfl
    · rw [UInt8.toNat_ofNat']
      omega
    · rw [UInt8.toNat_ofNat']
      omega
    · rw [UInt8.toNat_ofNat']
      omega
    · rw [UInt8.toNat_ofNat']
      omega

section Trim

variable {p : UInt8 → Bool}

/-- The character is one of the ASCII bytes. -/
def onChar (p : UInt8 → Bool) (c : Char) : Bool := (String.utf8EncodeChar c).any p

/-- The predicate only holds of ASCII bytes. -/
def OnAscii (p : UInt8 → Bool) : Prop := ∀ byte, p byte = true → byte.toNat < 128

theorem onChar_cases (hp : OnAscii p) (c : Char) :
    (onChar p c = true ∧ ∃ byte, p byte = true ∧ String.utf8EncodeChar c = [byte]) ∨
      onChar p c = false ∧ ∀ byte ∈ String.utf8EncodeChar c, p byte = false := by
  by_cases hchar : onChar p c = true
  · left
    obtain ⟨byte, hmem, hbyte⟩ := List.any_eq_true.mp hchar
    refine ⟨hchar, byte, hbyte, ?_⟩
    rcases utf8EncodeChar_ascii c with ⟨only, honly⟩ | hlarge
    · rw [honly] at hmem
      rw [honly, List.mem_singleton.mp hmem]
    · have hsmall := hp byte hbyte
      have hlarge' := hlarge byte hmem
      omega
  · right
    refine ⟨by simpa using hchar, ?_⟩
    intro byte hmem
    by_contra hbyte
    exact hchar (List.any_eq_true.mpr ⟨byte, hmem, by simpa using hbyte⟩)

/-- Trimming the front of the bytes trims the front of the characters. -/
theorem dropWhile_encodeUtf8 (hp : OnAscii p) (text : List Char) {tail : List UInt8}
    (htail : ∀ byte ∈ tail.head?, p byte = false) :
    (encodeUtf8 text ++ tail).dropWhile p = encodeUtf8 (text.dropWhile (onChar p)) ++ tail := by
  induction text with
  | nil =>
    cases tail with
    | nil => rfl
    | cons byte tail => exact List.dropWhile_cons_of_neg (by simpa using htail byte rfl)
  | cons c text ih =>
    rw [encodeUtf8_cons]
    rcases onChar_cases hp c with ⟨hchar, byte, hbyte, hcode⟩ | ⟨hchar, hcode⟩
    · rw [hcode, List.dropWhile_cons_of_pos hchar, ← ih]
      exact List.dropWhile_cons_of_pos hbyte
    · rw [List.dropWhile_cons_of_neg (by simp [hchar]), encodeUtf8_cons]
      cases hbytes : String.utf8EncodeChar c with
      | nil => exact absurd hbytes String.utf8EncodeChar_ne_nil
      | cons byte rest =>
        rw [hbytes] at hcode
        exact List.dropWhile_cons_of_neg (by simp [hcode byte List.mem_cons_self])

/-- Trimming the end of the bytes trims the end of the characters. -/
theorem rdropWhile_encodeUtf8 (hp : OnAscii p) (text : List Char) :
    (encodeUtf8 text).rdropWhile p = encodeUtf8 (text.rdropWhile (onChar p)) := by
  induction text using List.reverseRecOn with
  | nil => rfl
  | append_singleton text c ih =>
    have hone : encodeUtf8 [c] = String.utf8EncodeChar c := List.append_nil _
    rw [encodeUtf8_append, hone]
    rcases onChar_cases hp c with ⟨hchar, byte, hbyte, hcode⟩ | ⟨hchar, hcode⟩
    · rw [hcode, List.rdropWhile_concat_pos _ _ _ hbyte, List.rdropWhile_concat_pos _ _ _ hchar, ih]
    · rw [List.rdropWhile_concat_neg _ _ _ (by simp [hchar]), encodeUtf8_append, hone]
      obtain ⟨front, last, hbytes⟩ :=
        (List.eq_nil_or_concat (String.utf8EncodeChar c)).resolve_left String.utf8EncodeChar_ne_nil
      rw [hbytes] at hcode ⊢
      have hlast : p last = false := hcode last (by simp)
      rw [List.concat_eq_append, ← List.append_assoc,
        List.rdropWhile_concat_neg _ _ _ (by simp [hlast])]

/-- Bytes whose last one is not trimmed. -/
theorem rdropWhile_append {bytes tail : List UInt8} (htail : tail ≠ [])
    (hkept : ∀ byte ∈ tail, p byte = false) : (bytes ++ tail).rdropWhile p = bytes ++ tail := by
  obtain ⟨front, last, rfl⟩ := (List.eq_nil_or_concat tail).resolve_left htail
  have hlast : p last = false := hkept last (by simp)
  rw [List.concat_eq_append, ← List.append_assoc,
    List.rdropWhile_concat_neg _ _ _ (by simp [hlast])]

end Trim

/-! ## Cutting -/

/-- The beginning of a character: some of its bytes, but not all of them. -/
def CutChar (c : Char) (bytes : List UInt8) : Prop :=
  bytes ≠ [] ∧ bytes ≠ String.utf8EncodeChar c ∧ bytes <+: String.utf8EncodeChar c

/-- A cut through the bytes leaves whole characters and the beginning of the next one. -/
theorem takeUtf8_cases (text : List Char) (count : Nat) :
    (∃ front, front <+: text ∧ (encodeUtf8 text).take count = encodeUtf8 front) ∨
      ∃ front c rest bytes, text = front ++ c :: rest ∧ CutChar c bytes ∧
        (encodeUtf8 text).take count = encodeUtf8 front ++ bytes := by
  induction text generalizing count with
  | nil => exact Or.inl ⟨[], List.prefix_rfl, List.take_nil⟩
  | cons c text ih =>
    rw [encodeUtf8_cons]
    by_cases hwhole : (String.utf8EncodeChar c).length ≤ count
    · rw [List.take_append, List.take_of_length_le hwhole]
      rcases ih (count - (String.utf8EncodeChar c).length) with
        ⟨front, hfront, htake⟩ | ⟨front, cut, rest, bytes, rfl, hcut, htake⟩
      · left
        refine ⟨c :: front, List.cons_prefix_cons.mpr ⟨rfl, hfront⟩, ?_⟩
        rw [htake, encodeUtf8_cons]
      · right
        refine ⟨c :: front, cut, rest, bytes, rfl, hcut, ?_⟩
        rw [htake, encodeUtf8_cons, List.append_assoc]
    · rw [List.take_append_of_le_length (by omega)]
      by_cases hzero : count = 0
      · subst hzero
        exact Or.inl ⟨[], List.nil_prefix, rfl⟩
      · right
        refine ⟨[], c, text, (String.utf8EncodeChar c).take count, rfl, ⟨?_, ?_, ?_⟩, rfl⟩
        · intro hempty
          have hlength := congrArg List.length hempty
          rw [List.length_take, List.length_nil] at hlength
          omega
        · intro hall
          have hlength := congrArg List.length hall
          rw [List.length_take] at hlength
          omega
        · exact List.take_prefix _ _

/-- The bytes of a character that is cut are not ASCII. -/
theorem CutChar.not_ascii {c : Char} {bytes : List UInt8} (hcut : CutChar c bytes) :
    ∀ byte ∈ bytes, 128 ≤ byte.toNat := by
  obtain ⟨hnonempty, hproper, hfront⟩ := hcut
  rcases utf8EncodeChar_ascii c with ⟨only, honly⟩ | hlarge
  · rw [honly] at hproper hfront
    rcases List.prefix_cons_iff.mp hfront with hempty | ⟨rest, rfl, hrest⟩
    · exact absurd hempty hnonempty
    · rw [List.prefix_nil.mp hrest] at hproper
      exact absurd rfl hproper
  · intro byte hbyte
    exact hlarge byte (hfront.subset hbyte)

/-! ## Decoding -/

/-- U+FFFD, which stands for bytes that are no character. -/
def replacementChar : Char := '\uFFFD'

/-- The characters of a text up to the first byte that does not begin one, and the
replacement character for the rest. -/
def decodeUtf8 (bytes : List UInt8) : List Char :=
  match bytes with
  | [] => []
  | byte :: rest =>
      match (byte :: rest).toByteArray.utf8DecodeChar? 0 with
      | some c => c :: decodeUtf8 (rest.drop (c.utf8Size - 1))
      | none => [replacementChar]
termination_by bytes.length
decreasing_by
  rw [List.length_drop, List.length_cons]
  omega

theorem decodeUtf8_append (c : Char) (rest : List UInt8) :
    decodeUtf8 (String.utf8EncodeChar c ++ rest) = c :: decodeUtf8 rest := by
  have hchar : (String.utf8EncodeChar c ++ rest).toByteArray.utf8DecodeChar? 0 = some c := by
    rw [List.toByteArray_append]
    exact ByteArray.utf8DecodeChar?_utf8EncodeChar_append
  have hlength := String.length_utf8EncodeChar c
  have hpos := c.utf8Size_pos
  cases hbytes : String.utf8EncodeChar c with
  | nil => exact absurd hbytes String.utf8EncodeChar_ne_nil
  | cons byte tail =>
    rw [hbytes] at hchar hlength
    have hsize : c.utf8Size - 1 = tail.length := by
      rw [← hlength, List.length_cons, Nat.add_sub_cancel]
    rw [List.cons_append] at hchar ⊢
    rw [decodeUtf8]
    simp only [hchar]
    rw [hsize, List.drop_left]

theorem decodeUtf8_encodeUtf8_append (text : List Char) (rest : List UInt8) :
    decodeUtf8 (encodeUtf8 text ++ rest) = text ++ decodeUtf8 rest := by
  induction text with
  | nil => rfl
  | cons c text ih =>
    rw [encodeUtf8_cons, List.append_assoc, decodeUtf8_append, ih, List.cons_append]

/-- The beginning of a character is not a character. -/
theorem decodeUtf8_cut {c : Char} {bytes : List UInt8} (hcut : CutChar c bytes) :
    decodeUtf8 bytes = [replacementChar] := by
  obtain ⟨hnonempty, hproper, tail, htail⟩ := hcut
  cases hbytes : bytes with
  | nil => exact absurd hbytes hnonempty
  | cons byte rest =>
    rw [decodeUtf8, ← hbytes]
    cases hdecode : bytes.toByteArray.utf8DecodeChar? 0 with
    | none => rfl
    | some other =>
      -- the bytes would begin with the code of another character
      exfalso
      obtain ⟨more, hmore⟩ := ByteArray.exists_of_utf8DecodeChar?_eq_some hdecode
      have hother : (String.utf8EncodeChar c).toByteArray.utf8DecodeChar? 0 = some other := by
        rw [← htail, List.toByteArray_append, hmore, ByteArray.append_assoc]
        exact ByteArray.utf8DecodeChar?_utf8EncodeChar_append
      have hsame : (String.utf8EncodeChar c).toByteArray.utf8DecodeChar? 0 = some c := by
        rw [← List.append_nil (String.utf8EncodeChar c), List.toByteArray_append]
        exact ByteArray.utf8DecodeChar?_utf8EncodeChar_append
      obtain rfl := Option.some.inj (hsame.symm.trans hother)
      have hsize := congrArg ByteArray.size hmore
      rw [ByteArray.size_append, List.size_toByteArray, List.size_toByteArray] at hsize
      have hlength := congrArg List.length htail
      rw [List.length_append] at hlength
      have hnone : tail = [] := List.length_eq_zero_iff.mp (by omega)
      rw [hnone, List.append_nil] at htail
      exact hproper htail

end UuAmfBridge
