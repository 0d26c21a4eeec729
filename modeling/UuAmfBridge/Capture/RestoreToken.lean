import UuAmfBridge.Lib.Utf8

/-!
# The restore token of the portal

`save_restore_token` and `load_restore_token` of `src/wayland_capture_helper.cpp`: the token
is written with a newline behind it, and read back trimmed, from at most 8193 bytes.

A token is a list of Unicode characters, so it is well formed, and its UTF-8 form is
`encodeUtf8`.  `FromUtf8` is what is assumed of `QString::fromUtf8`: it decodes what has
been encoded, it takes a byte order mark at the front for one and drops it, and a character
that has been cut off at the end becomes replacement characters.

`restore_token_survives` says which tokens come back.  A token that is too long may still be
cut down to 8192 bytes where trimming drops some of them; what is decoded then has fewer
characters than the token, not counting replacement characters.
-/

namespace UuAmfBridge

/-- U+FEFF. -/
def byteOrderMark : Char := '\uFEFF'

/-- `QString::fromUtf8`. -/
structure FromUtf8 where
  decode : List UInt8 → List Char
  decode_encode : ∀ text : List Char, text.head? ≠ some byteOrderMark →
    decode (encodeUtf8 text) = text
  decode_mark : ∀ text, decode (encodeUtf8 (byteOrderMark :: text)) = text
  decode_cut : ∀ text c bytes, CutChar c bytes →
    ∃ count, decode (encodeUtf8 text ++ bytes) =
      decode (encodeUtf8 text) ++ List.replicate count replacementChar

/-! ## The file -/

/-- What is at a path. -/
inductive TokenPath where
  | missing
  | symlink
  | special
  | regular (bytes : List UInt8)
  deriving DecidableEq

/-- Whether the calls of `save_restore_token` succeed. -/
structure SaveEnv where
  mkpath : Bool
  openFile : Bool
  write : Bool
  commit : Bool
  setPermissions : Bool

/-- The bytes that `save_restore_token` writes. -/
def savedBytes (token : List Char) : List UInt8 := encodeUtf8 token ++ [10]

/-- What `QSaveFile::commit` leaves at the path: a regular file or nothing is replaced, a
link stays a link. -/
def TokenPath.replaced (path : TokenPath) (bytes : List UInt8) : TokenPath :=
  match path with
  | .missing | .regular _ => .regular bytes
  | .symlink => .symlink
  | .special => .special

/-- `save_restore_token`. -/
def saveRestoreToken (env : SaveEnv) (path : TokenPath) (token : List Char) : TokenPath × Bool :=
  if !env.mkpath then (path, false)
  else if !env.openFile then (path, false)
  else if !env.write ∨ !env.commit then (path, false)
  else (path.replaced (savedBytes token), env.setPermissions)

/-- `isspace` of the C locale. -/
def isSpaceByte (byte : UInt8) : Bool := byte == 32 || (9 ≤ byte && byte ≤ 13)

/-- `QByteArray::trimmed`. -/
def trimmed (bytes : List UInt8) : List UInt8 :=
  (bytes.dropWhile isSpaceByte).rdropWhile isSpaceByte

/-- `load_restore_token`; `opened` says whether the file can be opened. -/
def loadRestoreToken (fromUtf8 : FromUtf8) (opened : Bool) (path : TokenPath) : List Char :=
  match path with
  | .missing | .symlink | .special => []
  | .regular bytes =>
      if !opened then []
      else
        let value := trimmed (bytes.take 8193)
        if value = [] ∨ value.length > 8192 then [] else fromUtf8.decode value

/-! ## Trimming what has been read -/

theorem onAscii_isSpaceByte : OnAscii isSpaceByte := by
  intro byte hbyte
  unfold isSpaceByte at hbyte
  simp only [Bool.or_eq_true, beq_iff_eq, Bool.and_eq_true, decide_eq_true_eq] at hbyte
  rcases hbyte with rfl | ⟨-, hle⟩
  · decide
  · have hle' : byte.toNat ≤ 13 := hle
    omega

/-- The characters that `trimmed` removes. -/
abbrev isSpaceChar (c : Char) : Bool := onChar isSpaceByte c

theorem newline_isSpaceChar : isSpaceChar '\n' = true := by decide

theorem savedBytes_eq (token : List Char) : savedBytes token = encodeUtf8 (token ++ ['\n']) := by
  rw [encodeUtf8_append]
  rfl

/-- Neither end of the text is trimmed. -/
structure Untrimmed (text : List Char) : Prop where
  head : ∀ byte ∈ (encodeUtf8 text).head?, isSpaceByte byte = false
  last : ∀ byte ∈ (encodeUtf8 text).getLast?, isSpaceByte byte = false

theorem trimmed_encodeUtf8 (text : List Char) :
    trimmed (encodeUtf8 text) =
      encodeUtf8 ((text.dropWhile isSpaceChar).rdropWhile isSpaceChar) := by
  have hdrop := @dropWhile_encodeUtf8 isSpaceByte onAscii_isSpaceByte text []
    fun byte hbyte => absurd hbyte (by simp)
  rw [List.append_nil, List.append_nil] at hdrop
  unfold trimmed
  rw [hdrop, rdropWhile_encodeUtf8 onAscii_isSpaceByte]

/-- Behind a cut nothing is trimmed at the end. -/
theorem trimmed_cut (text : List Char) {c : Char} {bytes : List UInt8} (hcut : CutChar c bytes) :
    trimmed (encodeUtf8 text ++ bytes) = encodeUtf8 (text.dropWhile isSpaceChar) ++ bytes := by
  have hkept : ∀ byte ∈ bytes, isSpaceByte byte = false := by
    intro byte hbyte
    by_contra hspace
    have hsmall := onAscii_isSpaceByte byte (by simpa using hspace)
    have hlarge := hcut.not_ascii byte hbyte
    omega
  unfold trimmed
  rw [dropWhile_encodeUtf8 onAscii_isSpaceByte text
    fun byte hbyte => hkept byte (List.mem_of_mem_head? hbyte), rdropWhile_append hcut.1 hkept]

/-- What has been trimmed neither begins nor ends with whitespace. -/
theorem trimmed_untrimmed {text : List Char} {bytes : List UInt8}
    (htrimmed : trimmed bytes = encodeUtf8 text) : Untrimmed text := by
  unfold trimmed at htrimmed
  constructor
  · intro byte hbyte
    rw [← htrimmed] at hbyte
    have hfirst := List.head?_dropWhile_not isSpaceByte bytes
    obtain ⟨tail, htail⟩ := List.rdropWhile_prefix isSpaceByte (bytes.dropWhile isSpaceByte)
    rw [← htail, List.head?_append, hbyte] at hfirst
    exact hfirst
  · intro byte hbyte
    rw [← htrimmed] at hbyte
    obtain ⟨hnonempty, rfl⟩ := List.mem_getLast?_eq_getLast hbyte
    simpa using List.rdropWhile_last_not isSpaceByte _ hnonempty

/-- Without whitespace at its ends, the token alone is left of what is written. -/
theorem trimmed_savedBytes {token : List Char} (huntrimmed : Untrimmed token) :
    trimmed (savedBytes token) = encodeUtf8 token := by
  obtain ⟨hhead, hlast⟩ := huntrimmed
  unfold trimmed savedBytes
  generalize encodeUtf8 token = bytes at hhead hlast ⊢
  have hfront : (bytes ++ [10]).dropWhile isSpaceByte =
      if bytes = [] then [] else bytes ++ [10] := by
    cases bytes with
    | nil => rfl
    | cons byte bytes =>
      rw [if_neg (by simp)]
      exact List.dropWhile_cons_of_neg (by simp [hhead byte rfl])
  rw [hfront]
  by_cases hempty : bytes = []
  · rw [if_pos hempty, hempty]
    rfl
  · rw [if_neg hempty, List.rdropWhile_concat_pos _ _ _ (by decide),
      List.rdropWhile_eq_self_iff]
    intro hnonempty
    rw [hlast _ (List.getLast?_eq_some_getLast hnonempty)]
    simp

/-! ## What comes back -/

variable {fromUtf8 : FromUtf8}

/-- The token that fits comes back. -/
theorem load_eq {token : List Char} (hlength : (encodeUtf8 token).length ≤ 8192)
    (huntrimmed : Untrimmed token) (hmark : token.head? ≠ some byteOrderMark) :
    loadRestoreToken fromUtf8 true (.regular (savedBytes token)) = token := by
  have htake : (savedBytes token).take 8193 = savedBytes token := by
    apply List.take_of_length_le
    unfold savedBytes
    rw [List.length_append, List.length_singleton]
    omega
  show (if trimmed ((savedBytes token).take 8193) = [] ∨ _ then _ else _) = token
  rw [htake, trimmed_savedBytes huntrimmed]
  by_cases hempty : encodeUtf8 token = []
  · rw [if_pos (Or.inl hempty), encodeUtf8_eq_nil_iff.mp hempty]
  · rw [if_neg (by rw [not_or]; exact ⟨hempty, by omega⟩), fromUtf8.decode_encode token hmark]

/-- Behind the byte order mark the decoder gives back what has been encoded. -/
theorem decode_encodeUtf8 (fromUtf8 : FromUtf8) (text : List Char) :
    text.head? ≠ some byteOrderMark ∧ fromUtf8.decode (encodeUtf8 text) = text ∨
      ∃ rest, text = byteOrderMark :: rest ∧ fromUtf8.decode (encodeUtf8 text) = rest := by
  by_cases hmark : text.head? = some byteOrderMark
  · obtain ⟨rest, rfl⟩ := List.head?_eq_some_iff.mp hmark
    exact Or.inr ⟨rest, rfl, fromUtf8.decode_mark rest⟩
  · exact Or.inl ⟨hmark, fromUtf8.decode_encode text hmark⟩

/-- The characters that are not replacement characters. -/
def countKept (text : List Char) : Nat := text.countP fun c => c ≠ replacementChar

/-- A decoded text has no character that was not encoded, but for replacement characters. -/
theorem countKept_decode_le (fromUtf8 : FromUtf8) (text : List Char) {c : Char}
    {bytes : List UInt8} (hcut : CutChar c bytes) :
    countKept (fromUtf8.decode (encodeUtf8 text ++ bytes)) ≤ countKept text := by
  obtain ⟨count, hdecode⟩ := fromUtf8.decode_cut text c bytes hcut
  have hreplaced : countKept (List.replicate count replacementChar) = 0 := by
    unfold countKept
    rw [List.countP_replicate, if_neg (by simp)]
  unfold countKept at hreplaced ⊢
  rw [hdecode, List.countP_append, hreplaced, Nat.add_zero]
  rcases decode_encodeUtf8 fromUtf8 text with ⟨-, hsame⟩ | ⟨rest, htext, hrest⟩
  · rw [hsame]
  · rw [hrest, htext]
    exact (List.sublist_cons_self _ _).countP_le

/-- A character that is trimmed counts. -/
theorem countKept_dropWhile_lt {text : List Char} (hdropped : text.dropWhile isSpaceChar ≠ text) :
    countKept (text.dropWhile isSpaceChar) < countKept text := by
  have hspace : isSpaceChar replacementChar = false := by decide
  cases text with
  | nil => exact absurd rfl hdropped
  | cons c text =>
    by_cases hc : isSpaceChar c = true
    · have hkept : c ≠ replacementChar := by
        rintro rfl
        rw [hspace] at hc
        cases hc
      have hle : countKept (text.dropWhile isSpaceChar) ≤ countKept text :=
        (List.dropWhile_sublist _).countP_le
      unfold countKept at hle ⊢
      rw [List.dropWhile_cons_of_pos hc, List.countP_cons_of_pos (by simpa using hkept)]
      omega
    · exact absurd (List.dropWhile_cons_of_neg hc) hdropped

/-- What is left of a cut that ends between two characters is not longer than the token. -/
theorem length_trimmed_le {token front : List Char} (hfront : front <+: token ++ ['\n']) :
    ((front.dropWhile isSpaceChar).rdropWhile isSpaceChar).length ≤ token.length := by
  have hsub : ((front.dropWhile isSpaceChar).rdropWhile isSpaceChar).Sublist front :=
    (List.rdropWhile_prefix _ _).sublist.trans (List.dropWhile_sublist _)
  rcases List.prefix_concat_iff.mp hfront with rfl | hshort
  · by_contra hlong
    have hle := hsub.length_le
    rw [List.length_append, List.length_singleton] at hle
    have hall := hsub.eq_of_length_le (by
      rw [List.length_append, List.length_singleton]
      omega)
    -- the newline itself would not have been trimmed
    have hnonempty : ((token ++ ['\n']).dropWhile isSpaceChar).rdropWhile isSpaceChar ≠ [] := by
      rw [hall]
      simp
    have hlast := List.rdropWhile_last_not isSpaceChar _ hnonempty
    simp only [hall, List.getLast_append_singleton] at hlast
    exact hlast newline_isSpaceChar
  · exact hsub.length_le.trans hshort.length_le

/-- A token that comes back has been read whole. -/
theorem trimmed_of_load {token : List Char} (htoken : token ≠ [])
    (hload : loadRestoreToken fromUtf8 true (.regular (savedBytes token)) = token) :
    trimmed ((savedBytes token).take 8193) = encodeUtf8 token ∧
      (encodeUtf8 token).length ≤ 8192 ∧ token.head? ≠ some byteOrderMark := by
  have hvalue : (if trimmed ((savedBytes token).take 8193) = [] ∨
      (trimmed ((savedBytes token).take 8193)).length > 8192 then []
      else fromUtf8.decode (trimmed ((savedBytes token).take 8193))) = token := hload
  by_cases hguard : trimmed ((savedBytes token).take 8193) = [] ∨
      (trimmed ((savedBytes token).take 8193)).length > 8192
  · rw [if_pos hguard] at hvalue
    exact absurd hvalue.symm htoken
  · rw [if_neg hguard] at hvalue
    rw [not_or, Nat.not_lt] at hguard
    rw [savedBytes_eq] at hvalue hguard ⊢
    rcases takeUtf8_cases (token ++ ['\n']) 8193 with
      ⟨front, hfront, htake⟩ | ⟨front, c, rest, bytes, htext, hcut, htake⟩
    · -- whole characters have been read
      rw [htake, trimmed_encodeUtf8] at hvalue hguard ⊢
      have hlength := length_trimmed_le hfront
      generalize (front.dropWhile isSpaceChar).rdropWhile isSpaceChar = middle at *
      rcases decode_encodeUtf8 fromUtf8 middle with ⟨hmark, hsame⟩ | ⟨tail, rfl, htail⟩
      · obtain rfl := hsame.symm.trans hvalue
        exact ⟨rfl, hguard.2, hmark⟩
      · obtain rfl := htail.symm.trans hvalue
        rw [List.length_cons] at hlength
        omega
    · -- a character has been cut, so something else has been trimmed
      exfalso
      have htaken := congrArg List.length htake
      rw [htake, trimmed_cut front hcut] at hvalue hguard
      by_cases hkept : front.dropWhile isSpaceChar = front
      · rw [hkept, ← htake, List.length_take] at hguard
        have hwhole : bytes.length < (String.utf8EncodeChar c).length := by
          obtain ⟨-, hproper, hbegins⟩ := hcut
          exact lt_of_le_of_ne hbegins.length_le fun heq => hproper (hbegins.eq_of_length heq)
        have htotal : (encodeUtf8 (token ++ ['\n'])).length = (encodeUtf8 front).length +
            ((String.utf8EncodeChar c).length + (encodeUtf8 rest).length) := by
          rw [htext, encodeUtf8_append front, encodeUtf8_cons, List.length_append,
            List.length_append]
        rw [List.length_take, List.length_append] at htaken
        omega
      · have hlt := countKept_dropWhile_lt hkept
        have hle := countKept_decode_le fromUtf8 (front.dropWhile isSpaceChar) hcut
        rw [hvalue] at hle
        have hfront : front <+: token ++ ['\n'] := ⟨c :: rest, htext.symm⟩
        have hcount : countKept front ≤ countKept token := by
          rcases List.prefix_concat_iff.mp hfront with hall | hshort
          · rw [hall, List.self_eq_append_right] at htext
            cases htext
          · exact hshort.sublist.countP_le
        omega

/-! ## From one start to the next -/

theorem saved_regular {env : SaveEnv} {path : TokenPath} {token : List Char} {bytes : List UInt8}
    (hsaved : saveRestoreToken env path token = (.regular bytes, true)) :
    bytes = savedBytes token := by
  unfold saveRestoreToken at hsaved
  split_ifs at hsaved
  · cases congrArg Prod.snd hsaved
  · cases congrArg Prod.snd hsaved
  · cases congrArg Prod.snd hsaved
  · have hpath : path.replaced (savedBytes token) = .regular bytes := congrArg Prod.fst hsaved
    cases path with
    | missing => exact (TokenPath.regular.inj hpath).symm
    | symlink => cases hpath
    | special => cases hpath
    | regular before => exact (TokenPath.regular.inj hpath).symm

/-- A token that has been written to a regular file comes back exactly if its UTF-8 form has
at most 8192 bytes, has no whitespace at its ends, and does not begin with a byte order
mark. -/
theorem restore_token_survives (fromUtf8 : FromUtf8) {env : SaveEnv} {path : TokenPath}
    {token : List Char} {bytes : List UInt8}
    (hsaved : saveRestoreToken env path token = (.regular bytes, true)) :
    loadRestoreToken fromUtf8 true (.regular bytes) = token ↔
      (encodeUtf8 token).length ≤ 8192 ∧ Untrimmed token ∧
        token.head? ≠ some byteOrderMark := by
  obtain rfl := saved_regular hsaved
  constructor
  · intro hload
    by_cases hempty : token = []
    · subst hempty
      refine ⟨by decide, ⟨?_, ?_⟩, by decide⟩
      · exact fun byte hbyte => absurd hbyte (by simp)
      · exact fun byte hbyte => absurd hbyte (by simp)
    · obtain ⟨hvalue, hlength, hmark⟩ := trimmed_of_load hempty hload
      exact ⟨hlength, trimmed_untrimmed hvalue, hmark⟩
  · rintro ⟨hlength, huntrimmed, hmark⟩
    exact load_eq hlength huntrimmed hmark

/-! ## A decoder -/

/-- The text without a byte order mark at its front. -/
def dropMark : List Char → List Char
  | [] => []
  | c :: text => if c = byteOrderMark then text else c :: text

theorem dropMark_append (text : List Char) :
    dropMark (text ++ [replacementChar]) = dropMark text ++ [replacementChar] := by
  cases text with
  | nil => rfl
  | cons c text =>
    show (if c = byteOrderMark then _ else _) = (if c = byteOrderMark then _ else _) ++ _
    split_ifs <;> rfl

theorem dropMark_of_head {text : List Char} (hmark : text.head? ≠ some byteOrderMark) :
    dropMark text = text := by
  cases text with
  | nil => rfl
  | cons c text => exact if_neg fun h => hmark (congrArg some h)

theorem decodeUtf8_encodeUtf8 (text : List Char) : decodeUtf8 (encodeUtf8 text) = text := by
  have hnone : decodeUtf8 [] = [] := by rw [decodeUtf8]
  rw [← List.append_nil (encodeUtf8 text), decodeUtf8_encodeUtf8_append, hnone, List.append_nil]

theorem dropMark_decode_encode (text : List Char) (hmark : text.head? ≠ some byteOrderMark) :
    dropMark (decodeUtf8 (encodeUtf8 text)) = text := by
  rw [decodeUtf8_encodeUtf8, dropMark_of_head hmark]

theorem dropMark_decode_mark (text : List Char) :
    dropMark (decodeUtf8 (encodeUtf8 (byteOrderMark :: text))) = text := by
  rw [decodeUtf8_encodeUtf8, dropMark, if_pos rfl]

theorem dropMark_decode_cut (text : List Char) (c : Char) (bytes : List UInt8)
    (hcut : CutChar c bytes) :
    ∃ count, dropMark (decodeUtf8 (encodeUtf8 text ++ bytes)) =
      dropMark (decodeUtf8 (encodeUtf8 text)) ++ List.replicate count replacementChar := by
  refine ⟨1, ?_⟩
  rw [decodeUtf8_encodeUtf8_append, decodeUtf8_cut hcut, decodeUtf8_encodeUtf8, dropMark_append]
  rfl

/-- A decoder that stops at the first invalid byte. -/
def stoppingFromUtf8 : FromUtf8 where
  decode bytes := dropMark (decodeUtf8 bytes)
  decode_encode := dropMark_decode_encode
  decode_mark := dropMark_decode_mark
  decode_cut := dropMark_decode_cut

/-- A token of one letter comes back. -/
theorem letter_survives :
    loadRestoreToken stoppingFromUtf8 true (.regular [97, 10]) = ['a'] :=
  (restore_token_survives stoppingFromUtf8
    (rfl : saveRestoreToken ⟨true, true, true, true, true⟩ .missing ['a'] =
      (.regular [97, 10], true))).mpr
    ⟨by decide, ⟨fun _ hbyte => by obtain rfl := Option.some.inj hbyte; rfl,
      fun _ hbyte => by obtain rfl := Option.some.inj hbyte; rfl⟩, by decide⟩

/-- A token that begins with a byte order mark comes back without it. -/
theorem marked_token_lost :
    ¬∃ fromUtf8 : FromUtf8, ∀ env path token bytes,
      saveRestoreToken env path token = (.regular bytes, true) →
        (loadRestoreToken fromUtf8 true (.regular bytes) = token ↔
          1 ≤ (encodeUtf8 token).length ∧ (encodeUtf8 token).length ≤ 8192 ∧
            Untrimmed token) := by
  rintro ⟨fromUtf8, hclaim⟩
  have hload := (hclaim ⟨true, true, true, true, true⟩ .missing [byteOrderMark, 'a']
    (savedBytes [byteOrderMark, 'a']) rfl).mpr ⟨by decide, by decide,
      ⟨fun _ hbyte => by obtain rfl := Option.some.inj hbyte; rfl,
        fun _ hbyte => by obtain rfl := Option.some.inj hbyte; rfl⟩⟩
  have hdecode : loadRestoreToken fromUtf8 true (.regular (savedBytes [byteOrderMark, 'a'])) =
      fromUtf8.decode (encodeUtf8 (byteOrderMark :: ['a'])) := rfl
  rw [hdecode, fromUtf8.decode_mark] at hload
  exact absurd hload (by decide)

end UuAmfBridge
