import Mathlib.Algebra.Order.Group.Nat
import Mathlib.Data.List.DropRight
import Mathlib.Data.List.TakeWhile

/-!
# The command line of the server launcher

`src/server_launcher.c` stands in for the real server: it builds the path of the real
server from its own, puts the path in quotes in front of its own arguments, and starts the
result.  The parts of `run` up to `CreateProcessW` are modelled; what comes after it does
not see the command line.

`launcher_forwards_arguments` reads the new command line by the rule of the old one: behind
the closing quote the rest of the old command line begins with a character that is not a
blank, and one blank separates the two.
-/

namespace UuAmfBridge

/-- A `WCHAR` string without its terminator, of a length that `lstrlenW` returns. -/
structure WideString where
  text : List UInt16
  noTerminator : 0 ∉ text
  length_lt : text.length < 2 ^ 31

/-- `L'"'`. -/
def wideQuote : UInt16 := 34

/-- `L' '`. -/
def wideSpace : UInt16 := 32

/-- `L' '` or `L'\t'`. -/
def isWideBlank (c : UInt16) : Bool := c == wideSpace || c == 9

/-- A wide string literal of ASCII characters. -/
def wideLiteral (text : String) : List UInt16 := text.toList.map fun c => UInt16.ofNat c.toNat

/-- `skip_program_name`. -/
def skipProgramName (commandLine : List UInt16) : List UInt16 :=
  let behind :=
    match commandLine with
    | [] => []
    | c :: rest =>
        if c = wideQuote then
          match rest.dropWhile (· ≠ wideQuote) with
          | [] => []
          | _ :: behind => behind
        else (c :: rest).dropWhile (!isWideBlank ·)
  behind.dropWhile isWideBlank

/-- `MAX_PATH`. -/
def maxPath : Nat := 260

/-- `replace_filename`. -/
def replaceFilename (path : List UInt16) (capacity : Nat) (name : List UInt16) :
    Option (List UInt16) :=
  let cursor := path.rdropWhile fun c => c ≠ 92 && c ≠ 47
  if cursor.length + name.length + 1 > capacity then none else some (cursor ++ name)

/-- `ARRAYSIZE(command)`. -/
def commandCapacity : UInt32 := 32768

/-- `lstrlenW`. -/
def lstrlenW (text : List UInt16) : UInt32 := UInt32.ofNat text.length

/-- The part of `run` that fills `command`. -/
def serverCommand (executable commandLine : List UInt16) : Except String (List UInt16) :=
  let arguments := skipProgramName commandLine
  if lstrlenW executable + lstrlenW arguments + 4 ≥ commandCapacity then
    .error "UU server launcher command line is too long."
  else
    let command := wideQuote :: executable ++ [wideQuote]
    .ok (if arguments ≠ [] then command ++ [wideSpace] ++ arguments else command)

/-- What `run` hands to `CreateProcessW`, and the path of the hook it injects. -/
structure Launch where
  executable : List UInt16
  hook : List UInt16
  directory : List UInt16
  command : List UInt16

/-- `run` up to `CreateProcessW`; `directory` is the path that `GetModuleFileNameW` gives. -/
def runLauncher (directory : Option (List UInt16)) (commandLine : List UInt16) :
    Except String Launch :=
  match directory with
  | none => .error "UU server launcher could not resolve its path."
  | some directory =>
      if directory.length ≥ maxPath - 1 then
        .error "UU server launcher could not resolve its path."
      else
        match replaceFilename directory maxPath (wideLiteral "GameViewerServer.real.exe"),
            replaceFilename directory maxPath (wideLiteral "uu-server-compat.dll"),
            replaceFilename directory maxPath [] with
        | some executable, some hook, some directory => do
            let command ← serverCommand executable commandLine
            .ok ⟨executable, hook, directory, command⟩
        | _, _, _ => .error "UU server launcher path is too long."

/-- A path that can stand between quotes, in an array of `MAX_PATH` characters. -/
structure ServerPath where
  path : List UInt16
  noTerminator : 0 ∉ path
  noQuote : wideQuote ∉ path
  length_lt : path.length < maxPath

/-! ## Reading the new command line -/

/-- A quoted name without quotes in it is skipped up to its closing quote. -/
theorem skipProgramName_quoted {name : List UInt16} (hname : wideQuote ∉ name)
    (rest : List UInt16) :
    skipProgramName (wideQuote :: (name ++ wideQuote :: rest)) = rest.dropWhile isWideBlank := by
  have hskip : (name ++ wideQuote :: rest).dropWhile (· ≠ wideQuote) = wideQuote :: rest := by
    rw [List.dropWhile_append_of_pos]
    · exact List.dropWhile_cons_of_neg (by simp)
    · intro c hc
      exact decide_eq_true fun heq => hname (heq ▸ hc)
  show List.dropWhile isWideBlank (if wideQuote = wideQuote then _ else _) = _
  rw [if_pos rfl, hskip]

/-- The arguments do not begin with a blank. -/
theorem skipProgramName_blanks (commandLine : List UInt16) :
    (skipProgramName commandLine).dropWhile isWideBlank = skipProgramName commandLine :=
  List.dropWhile_idempotent _ _

theorem length_skipProgramName_le (commandLine : List UInt16) :
    (skipProgramName commandLine).length ≤ commandLine.length := by
  refine (List.length_dropWhile_le _ _).trans ?_
  cases commandLine with
  | nil => exact Nat.le_refl 0
  | cons c rest =>
    show (if c = wideQuote then _ else _ : List UInt16).length ≤ _
    by_cases hquote : c = wideQuote
    · have hrest := List.length_dropWhile_le (fun c => decide (c ≠ wideQuote)) rest
      rw [if_pos hquote]
      cases hbehind : rest.dropWhile (fun c => decide (c ≠ wideQuote)) with
      | nil => exact Nat.zero_le _
      | cons quote behind =>
        rw [hbehind, List.length_cons] at hrest
        show behind.length ≤ rest.length + 1
        omega
    · rw [if_neg hquote]
      exact List.length_dropWhile_le _ _

/-- The guard of `run`, in numbers. -/
theorem command_length_lt {executable arguments : List UInt16}
    (hexecutable : executable.length < maxPath) (harguments : arguments.length < 2 ^ 31)
    (hguard : ¬lstrlenW executable + lstrlenW arguments + 4 ≥ commandCapacity) :
    executable.length + arguments.length + 4 < commandCapacity.toNat := by
  have hpath : maxPath = 260 := rfl
  have hfour : (4 : UInt32).toNat = 4 := rfl
  have hlt := UInt32.lt_iff_toNat_lt.mp (UInt32.not_le.mp hguard)
  unfold lstrlenW at hlt
  rw [UInt32.toNat_add, UInt32.toNat_add, UInt32.toNat_ofNat', UInt32.toNat_ofNat', hfour] at hlt
  omega

/-- The array holds the command with its terminator, and the command has the arguments of
the command line. -/
def Forwards (commandLine command : List UInt16) : Prop :=
  command.length + 1 ≤ commandCapacity.toNat ∧
    skipProgramName command = skipProgramName commandLine

theorem serverCommand_forwards (server : ServerPath) (commandLine : WideString)
    {command : List UInt16} (hrun : serverCommand server.path commandLine.text = .ok command) :
    Forwards commandLine.text command := by
  unfold Forwards
  have hblanks := skipProgramName_blanks commandLine.text
  have hlength : (skipProgramName commandLine.text).length < 2 ^ 31 :=
    lt_of_le_of_lt (length_skipProgramName_le _) commandLine.length_lt
  unfold serverCommand at hrun
  generalize skipProgramName commandLine.text = arguments at hrun hblanks hlength ⊢
  by_cases hguard : lstrlenW server.path + lstrlenW arguments + 4 ≥ commandCapacity
  · rw [if_pos hguard] at hrun
    cases hrun
  · have hfits := command_length_lt server.length_lt hlength hguard
    rw [if_neg hguard] at hrun
    have hcommand := Except.ok.inj hrun
    by_cases hnone : arguments = []
    · -- the command ends with the quote
      have hquoted : wideQuote :: (server.path ++ wideQuote :: []) = command := by
        rw [← hcommand, if_neg (not_not.mpr hnone)]
        rfl
      rw [← hquoted, skipProgramName_quoted server.noQuote, hnone]
      refine ⟨?_, rfl⟩
      rw [List.length_cons, List.length_append, List.length_singleton]
      omega
    · -- one blank is left in front of the arguments
      have hquoted : wideQuote :: (server.path ++ wideQuote :: wideSpace :: arguments) =
          command := by
        rw [← hcommand, if_pos hnone]
        simp
      rw [← hquoted, skipProgramName_quoted server.noQuote]
      refine ⟨?_, ?_⟩
      · rw [List.length_cons, List.length_append, List.length_cons, List.length_cons]
        omega
      · rw [List.dropWhile_cons_of_pos rfl, hblanks]

/-! ## The whole launcher -/

/-- What `replace_filename` gives is part of the path with the new name behind it. -/
theorem replaceFilename_eq {path name result : List UInt16} {capacity : Nat}
    (hreplace : replaceFilename path capacity name = some result) :
    result.length < capacity ∧ ∃ directory, directory <+: path ∧ result = directory ++ name := by
  unfold replaceFilename at hreplace
  simp only at hreplace
  split_ifs at hreplace with hlong
  obtain rfl := Option.some.inj hreplace
  refine ⟨?_, _, List.rdropWhile_prefix _ path, rfl⟩
  rw [List.length_append]
  omega

theorem serverName_text :
    0 ∉ wideLiteral "GameViewerServer.real.exe" ∧
      wideQuote ∉ wideLiteral "GameViewerServer.real.exe" := by decide

/-- The path of the real server beside a launcher whose path has no quote. -/
theorem exists_serverPath {directory : WideString} (hquote : wideQuote ∉ directory.text)
    {executable : List UInt16}
    (hreplace : replaceFilename directory.text maxPath
      (wideLiteral "GameViewerServer.real.exe") = some executable) :
    ∃ server : ServerPath, server.path = executable := by
  obtain ⟨hlength, front, hfront, rfl⟩ := replaceFilename_eq hreplace
  obtain ⟨hzero, hname⟩ := serverName_text
  refine ⟨⟨_, ?_, ?_, hlength⟩, rfl⟩
  · intro hmem
    rcases List.mem_append.mp hmem with hmem | hmem
    · exact directory.noTerminator (hfront.subset hmem)
    · exact hzero hmem
  · intro hmem
    rcases List.mem_append.mp hmem with hmem | hmem
    · exact hquote (hfront.subset hmem)
    · exact hname hmem

/-- A launcher that gets as far as `CreateProcessW` hands on its arguments. -/
theorem runLauncher_forwards {directory : WideString} (hquote : wideQuote ∉ directory.text)
    (commandLine : WideString) {launch : Launch}
    (hrun : runLauncher (some directory.text) commandLine.text = .ok launch) :
    Forwards commandLine.text launch.command := by
  unfold runLauncher at hrun
  simp only at hrun
  split_ifs at hrun
  split at hrun
  · next executable hook front hexecutable _ _ =>
    obtain ⟨server, rfl⟩ := exists_serverPath hquote hexecutable
    cases hcommand : serverCommand server.path commandLine.text with
    | error message =>
      rw [hcommand] at hrun
      cases hrun
    | ok command =>
      rw [hcommand] at hrun
      obtain rfl := Except.ok.inj hrun
      exact serverCommand_forwards server commandLine hcommand
  · cases hrun

/-- The launcher forwards the arguments of its command line, for every path of the real
server that can stand between quotes, and so for every launcher whose own path has no
quote. -/
theorem launcher_forwards_arguments (commandLine : WideString) :
    (∀ (server : ServerPath) command,
      serverCommand server.path commandLine.text = .ok command →
        Forwards commandLine.text command) ∧
    (∀ (directory : WideString) launch, wideQuote ∉ directory.text →
      runLauncher (some directory.text) commandLine.text = .ok launch →
        Forwards commandLine.text launch.command) :=
  ⟨fun server _ hrun => serverCommand_forwards server commandLine hrun,
    fun _ _ hquote hrun => runLauncher_forwards hquote commandLine hrun⟩

/-- The command line `x  -s` for the server `C:`: two blanks become one. -/
theorem two_blanks_forwarded :
    serverCommand [67, 58] [120, 32, 32, 45, 115] = .ok [34, 67, 58, 34, 32, 45, 115] ∧
      Forwards [120, 32, 32, 45, 115] [34, 67, 58, 34, 32, 45, 115] :=
  ⟨rfl, (launcher_forwards_arguments ⟨[120, 32, 32, 45, 115], by decide, by decide⟩).1
    ⟨[67, 58], by decide, by decide, by decide⟩ _ rfl⟩

end UuAmfBridge
