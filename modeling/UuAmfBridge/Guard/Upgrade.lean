import Mathlib.Data.List.Forall2
import UuAmfBridge.Install.Host

/-!
# The circuit breaker for upgrades

`disable_failed_upgrade` of `scripts/uu-session-guard.sh`: where `upgrade.ini` says
that an upgrade is ready to install, the executables of the upgrade are put aside
and the file is rewritten, so that the client finds nothing to install.

Two programs read the file line by line.  The test deletes every carriage return
(`tr`) and looks for the line `status=3` (`grep`); the rewriting (`awk`) takes one
carriage return off the end of a line.  `disabledIni` is the file that the second
one writes, and `upgradeReady_disabledIni` says which files the first one still
takes for ready afterwards.  `grep -q` ends at the line it looks for; under
`pipefail` the test fails if `tr`, which still writes then, is killed.

The state is the files that the function touches, by the directory entries that the
paths name; a command succeeds on the files it finds.
-/

namespace UuAmfBridge

/-! ## Files -/

/-- The contents of a file. -/
abbrev Text := List Char

/-- The two directories in which an `Upgrade.exe` is put aside. -/
inductive UpgradePlace where
  | bak
  | root
  deriving Repr, DecidableEq

inductive GuardFile where
  /-- `upgrade.ini`, at the path of `find_upgrade_ini`. -/
  | upgradeIni
  /-- The new file of `mktemp`. -/
  | temporary
  | upgradeExe (place : UpgradePlace)
  /-- `Upgrade.exe.uu-backup`. -/
  | upgradeBackup (place : UpgradePlace)
  /-- `Upgrade.exe.disabled`. -/
  | upgradeDisabled (place : UpgradePlace)
  /-- `$disabled_dir/$name.disabled`. -/
  | disabled (name : Line)
  | other (path : Line)
  deriving Repr, DecidableEq

abbrev GuardFiles := Files GuardFile Text

structure GuardEnv where
  /-- `UU_ALLOW_WINE_UPGRADE` is `1`. -/
  allowWineUpgrade : Bool
  /-- The file that a path below the directory `setup` names. -/
  resolve : Line → GuardFile
  /-- `tr` is killed by `SIGPIPE` when `grep` ends before the end of this text. -/
  trKilled : Text → Bool

/-! ## Lines -/

def statusReady : Line := "status=3".toList

def statusDisabled : Line := "status=0".toList

def installKey : Line := "installfilepath=".toList

def sourceKey : Line := "changesource=".toList

/-- The directory `setup`, as the values of `installfilepath=` spell it. -/
def setupDir : Line := "C:/Program Files/Netease/GameViewer/setup/".toList

/-- What `tr -d '\r' | grep -Fqx 'status=3'` looks for. -/
def upgradeReady (text : Text) : Bool :=
  (linesOf '\n' (deleteMark '\r' text)).any (· == statusReady)

/-- The status of the pipeline, under `pipefail`. -/
def upgradeFound (env : GuardEnv) (text : Text) : Bool :=
  upgradeReady text && !env.trKilled text

/-- What `sed` prints and `read` takes: the installers, as paths below `setup`. -/
def setupFiles (text : Text) : List Line :=
  ((endedLines '\n' text).filter ((installKey ++ setupDir).isPrefixOf ·)).map fun line =>
    stripMark '\r' (line.drop (installKey ++ setupDir).length)

/-- `basename`. -/
def baseName (path : Line) : Line :=
  ((path.reverse.dropWhile (· == '/')).takeWhile (· ≠ '/')).reverse

/-- The rules of `awk`, on one line. -/
def disableLine (record : Line) : Line :=
  let line := stripMark '\r' record
  if line = statusReady then statusDisabled
  else if installKey.isPrefixOf line then installKey
  else if sourceKey.isPrefixOf line then sourceKey ++ "disabled_by_uu_bridge".toList
  else line

/-- What `awk` writes. -/
def disabledIni (text : Text) : Text := joinLines '\n' ((linesOf '\n' text).map disableLine)

/-! ## The function -/

/-- One pass of the loop over the executables. -/
def disableUpgradeExe (place : UpgradePlace) : Script GuardFiles :=
  .whenever (fun files => (files (.upgradeExe place)).isSome) <|
    .seq
      (.whenever (fun files => (files (.upgradeBackup place)).isNone)
        (.command fun files => files.cp (.upgradeExe place) (.upgradeBackup place)))
      (.command fun files => files.mv (.upgradeExe place) (.upgradeDisabled place))

/-- One pass of the loop over the installers: a path that names no file is left. -/
def disableSetupFile (env : GuardEnv) (files : GuardFiles) (setupFile : Line) : GuardFiles :=
  (files.mv (env.resolve setupFile) (.disabled (baseName ("setup/".toList ++ setupFile)))).getD
    files

/-- `mktemp`, `awk` and `mv`. -/
def rewriteIni : Script GuardFiles :=
  .seq (.command fun files => some (files.put .temporary [])) <|
  .seq (.command fun files =>
    (files .upgradeIni).map fun text => files.put .temporary (disabledIni text)) <|
  .command fun files => files.mv .temporary .upgradeIni

/-- `disable_failed_upgrade` where the upgrade is ready. -/
def disableUpgrade (env : GuardEnv) : Script GuardFiles :=
  .seq (.forEach [.bak, .root] disableUpgradeExe) <|
  .seq (.command fun files =>
    some ((setupFiles ((files .upgradeIni).getD [])).foldl (disableSetupFile env) files))
  rewriteIni

/-- `disable_failed_upgrade`. -/
def disableFailedUpgrade (env : GuardEnv) : Script GuardFiles :=
  .whenever (fun _ => !env.allowWineUpgrade) <|
  .whenever (fun files => (files .upgradeIni).isSome) <|
  .whenever (fun files => upgradeFound env ((files .upgradeIni).getD [])) <|
  disableUpgrade env

/-! ## The rewritten file -/

/-- A line that begins with a key is not the line `status=3`, with any carriage returns. -/
theorem deleteMark_ne_statusReady {key line : Line} (hkey : deleteMark '\r' key = key)
    (hne : ¬ key <+: statusReady) (hbegins : key <+: line) :
    deleteMark '\r' line ≠ statusReady := by
  obtain ⟨rest, rfl⟩ := hbegins
  intro hready
  apply hne
  rw [← hready, deleteMark_append, hkey]
  exact List.prefix_append ..

/-- What the rules make of a line: one of three lines, or the line stripped. -/
theorem disableLine_cases (line : Line) :
    (stripMark '\r' line = statusReady ∧ disableLine line = statusDisabled) ∨
      (installKey <+: stripMark '\r' line ∧ disableLine line = installKey) ∨
      (sourceKey <+: stripMark '\r' line ∧
        disableLine line = sourceKey ++ "disabled_by_uu_bridge".toList) ∨
      (stripMark '\r' line ≠ statusReady ∧ ¬ installKey <+: stripMark '\r' line ∧
        ¬ sourceKey <+: stripMark '\r' line ∧ disableLine line = stripMark '\r' line) := by
  unfold disableLine
  simp only [← List.isPrefixOf_iff_prefix]
  split
  · exact .inl ⟨‹_›, rfl⟩
  · split
    · exact .inr (.inl ⟨‹_›, rfl⟩)
    · split
      · exact .inr (.inr (.inl ⟨‹_›, rfl⟩))
      · exact .inr (.inr (.inr ⟨‹_›, ‹_›, ‹_›, rfl⟩))

/-- The rules leave a line `status=3` with carriage returns, unless it had at most one, at
its end. -/
theorem deleteMark_disableLine (line : Line) :
    deleteMark '\r' (disableLine line) = statusReady ↔
      deleteMark '\r' line = statusReady ∧ stripMark '\r' line ≠ statusReady := by
  have hline : deleteMark '\r' (stripMark '\r' line) = deleteMark '\r' line :=
    deleteMark_stripMark '\r' line
  obtain ⟨hstrip, heq⟩ | ⟨hkey, heq⟩ | ⟨hkey, heq⟩ | ⟨hstrip, -, -, heq⟩ := disableLine_cases line
  · have hdisabled : deleteMark '\r' statusDisabled ≠ statusReady := by decide
    rw [heq]
    exact iff_of_false hdisabled fun h => h.2 hstrip
  · have hdisabled : deleteMark '\r' installKey ≠ statusReady := by decide
    have hother := deleteMark_ne_statusReady (by decide) (by decide) hkey
    rw [heq]
    exact iff_of_false hdisabled fun h => hother (hline.trans h.1)
  · have hdisabled : deleteMark '\r' (sourceKey ++ "disabled_by_uu_bridge".toList) ≠
        statusReady := by decide
    have hother := deleteMark_ne_statusReady (by decide) (by decide) hkey
    rw [heq]
    exact iff_of_false hdisabled fun h => hother (hline.trans h.1)
  · rw [heq, hline]
    exact (and_iff_left hstrip).symm

theorem linesOf_disabledIni (text : Text) :
    linesOf '\n' (disabledIni text) = (linesOf '\n' text).map disableLine := by
  apply linesOf_joinLines
  intro line hline
  obtain ⟨record, hrecord, rfl⟩ := List.mem_map.mp hline
  obtain ⟨-, heq⟩ | ⟨-, heq⟩ | ⟨-, heq⟩ | ⟨-, -, -, heq⟩ := disableLine_cases record
  · rw [heq]
    decide
  · rw [heq]
    decide
  · rw [heq]
    decide
  · rw [heq]
    intro hmem
    exact not_mem_of_mem_linesOf '\n' hrecord (stripMark_subset '\r' record hmem)

/-- The test, on the lines of the file. -/
theorem upgradeReady_iff (text : Text) :
    upgradeReady text = true ↔ ∃ line ∈ linesOf '\n' text, deleteMark '\r' line = statusReady := by
  have hready : statusReady ≠ [] := by decide
  have hmarks : '\r' ≠ '\n' := by decide
  have hlines : upgradeReady text = true ↔
      ∃ line ∈ text.splitOn '\n', deleteMark '\r' line = statusReady := by
    unfold upgradeReady
    rw [List.any_beq', List.contains_iff_mem, mem_linesOf_iff '\n' hready,
      splitOn_deleteMark '\r' hmarks, List.mem_map]
  rw [hlines]
  have hmem : ∀ line, deleteMark '\r' line = statusReady →
      (line ∈ linesOf '\n' text ↔ line ∈ text.splitOn '\n') := by
    intro line hline
    apply mem_linesOf_iff
    intro hnil
    rw [hnil] at hline
    exact hready hline.symm
  constructor
  · intro ⟨line, hline, heq⟩
    exact ⟨line, (hmem line heq).mpr hline, heq⟩
  · intro ⟨line, hline, heq⟩
    exact ⟨line, (hmem line heq).mp hline, heq⟩

/-- The file that is written is still one of a ready upgrade, exactly when a line of the old
one was `status=3` up to carriage returns that the rules do not take off. -/
theorem upgradeReady_disabledIni (text : Text) :
    upgradeReady (disabledIni text) = true ↔
      ∃ line ∈ linesOf '\n' text,
        deleteMark '\r' line = statusReady ∧ stripMark '\r' line ≠ statusReady := by
  rw [upgradeReady_iff, linesOf_disabledIni]
  constructor
  · intro ⟨line, hline, hready⟩
    obtain ⟨record, hrecord, rfl⟩ := List.mem_map.mp hline
    exact ⟨record, hrecord, (deleteMark_disableLine record).mp hready⟩
  · intro ⟨record, hrecord, hready⟩
    exact ⟨disableLine record, List.mem_map_of_mem hrecord,
      (deleteMark_disableLine record).mpr hready⟩

/-- No path of an installer is left. -/
theorem eq_installKey_of_mem_disabledIni {text : Text} {line : Line}
    (hline : line ∈ linesOf '\n' (disabledIni text)) (hkey : installKey <+: line) :
    line = installKey := by
  rw [linesOf_disabledIni] at hline
  obtain ⟨record, -, rfl⟩ := List.mem_map.mp hline
  obtain ⟨-, heq⟩ | ⟨-, heq⟩ | ⟨-, heq⟩ | ⟨-, hother, -, heq⟩ := disableLine_cases record
  · rw [heq] at hkey
    exact absurd hkey (by decide)
  · exact heq
  · rw [heq] at hkey
    exact absurd hkey (by decide)
  · rw [heq] at hkey
    exact absurd hkey hother

/-- A line that the circuit breaker is not about. -/
def OtherLine (line : Line) : Prop :=
  deleteMark '\r' line ≠ statusReady ∧ ¬ installKey <+: line ∧ ¬ sourceKey <+: line

/-- The lines of two files are the same in order, but for the lines the circuit breaker is
about and for a carriage return at the end of a line. -/
def KeepsOtherLines (text rewritten : Text) : Prop :=
  List.Forall₂ (fun line kept => OtherLine line → line = kept ∨ line = kept ++ ['\r'])
    (linesOf '\n' text) (linesOf '\n' rewritten)

theorem disableLine_of_otherLine {line : Line} (h : OtherLine line) :
    disableLine line = stripMark '\r' line := by
  have hbegins : stripMark '\r' line <+: line := by
    obtain hline | hline := stripMark_cases '\r' line
    · exact ⟨['\r'], hline.symm⟩
    · exact ⟨[], by rw [List.append_nil, ← hline]⟩
  obtain ⟨hstrip, -⟩ | ⟨hkey, -⟩ | ⟨hkey, -⟩ | ⟨-, -, -, heq⟩ := disableLine_cases line
  · have hready : deleteMark '\r' line = statusReady := by
      rw [← deleteMark_stripMark, hstrip]
      decide
    exact absurd hready h.1
  · exact absurd (hkey.trans hbegins) h.2.1
  · exact absurd (hkey.trans hbegins) h.2.2
  · exact heq

theorem keepsOtherLines_disabledIni (text : Text) : KeepsOtherLines text (disabledIni text) := by
  unfold KeepsOtherLines
  rw [linesOf_disabledIni, List.forall₂_map_right_iff, List.forall₂_same]
  intro line hline hother
  rw [disableLine_of_otherLine hother]
  exact (stripMark_cases '\r' line).symm

/-! ## A run -/

theorem disableUpgradeExe_leaves (place : UpgradePlace) :
    (disableUpgradeExe place).Leaves fun files => files .upgradeIni := by
  refine ⟨⟨⟨?_, trivial⟩, ?_⟩, trivial⟩
  · intro files files' hrun
    obtain ⟨contents, -, rfl⟩ := Files.cp_eq_some_iff.mp hrun
    simp
  · intro files files' hrun
    obtain ⟨contents, -, rfl⟩ := Files.mv_eq_some_iff.mp hrun
    simp

theorem forEach_disableUpgradeExe_leaves :
    (Script.forEach [.bak, .root] disableUpgradeExe).Leaves fun files => files .upgradeIni :=
  .forEach fun place _ => disableUpgradeExe_leaves place

theorem disableUpgradeExe_completes (place : UpgradePlace) (files : GuardFiles) :
    Script.Completes files (disableUpgradeExe place) := by
  refine .branch (fun hexe => ?_) fun _ => .skip
  obtain ⟨contents, hexe⟩ := Option.isSome_iff_exists.mp hexe
  have hcp : files.cp (.upgradeExe place) (.upgradeBackup place) =
      some (files.put (.upgradeBackup place) contents) :=
    Files.cp_eq_some_iff.mpr ⟨contents, hexe, rfl⟩
  refine .seq (.branch (fun _ => .command hcp) fun _ => .skip) ?_
  intro files' hexec
  have hexe' : files' (.upgradeExe place) = some contents := by
    obtain ⟨-, hexec⟩ | ⟨-, hexec⟩ := Script.exec_branch_ok.mp hexec
    · rw [Script.exec_command_ok, hcp] at hexec
      rw [← Option.some.inj hexec, Files.put_other _ (by simp), hexe]
    · rw [← Except.ok.inj hexec, hexe]
  exact .command (Files.mv_eq_some_iff.mpr ⟨contents, hexe', rfl⟩)

theorem forEach_disableUpgradeExe_completes (files : GuardFiles) :
    Script.Completes files (.forEach [.bak, .root] disableUpgradeExe) := by
  refine .block (fun script hscript => ?_) files
  obtain ⟨place, -, rfl⟩ := List.mem_map.mp hscript
  exact disableUpgradeExe_completes place

variable (env : GuardEnv)

/-- An installer that is put aside: only the file it names is gone. -/
theorem disableSetupFile_ini (files : GuardFiles) (name : Line) :
    disableSetupFile env files name .upgradeIni =
      if env.resolve name = .upgradeIni then none else files .upgradeIni := by
  unfold disableSetupFile Files.mv
  cases hfile : files (env.resolve name) with
  | none =>
    split
    · rename_i hini
      rw [← hini]
      exact hfile
    · rfl
  | some contents =>
    split
    · rename_i hini
      rw [hini]
      exact Files.rm_same ..
    · rename_i hini
      exact (Files.rm_other _ (Ne.symm hini)).trans (Files.put_other _ (by simp) _)

/-- `upgrade.ini` is there after the loop, unless an installer named it. -/
theorem foldl_disableSetupFile_ini (names : List Line) (files : GuardFiles) :
    names.foldl (disableSetupFile env) files .upgradeIni =
      if ∃ name ∈ names, env.resolve name = .upgradeIni then none else files .upgradeIni := by
  induction names generalizing files with
  | nil => simp
  | cons name names ih =>
    rw [List.foldl_cons, ih, disableSetupFile_ini]
    simp only [List.exists_mem_cons_iff]
    split
    · rename_i hlater
      rw [if_pos (Or.inr hlater)]
    · rename_i hlater
      simp only [or_iff_left hlater]

variable {env} {files final : GuardFiles} {text : Text}

theorem rewriteIni_of_some (hini : files .upgradeIni = some text) :
    ∃ final, rewriteIni.exec files = .ok final ∧ final .upgradeIni = some (disabledIni text) := by
  let written := (files.put .temporary []).put .temporary (disabledIni text)
  have hawk : ((files.put .temporary []) .upgradeIni).map
      (fun text => (files.put .temporary []).put .temporary (disabledIni text)) = some written := by
    rw [Files.put_other _ (by simp), hini, Option.map_some]
  have hmv : written.mv .temporary .upgradeIni =
      some ((written.put .upgradeIni (disabledIni text)).rm .temporary) :=
    Files.mv_eq_some_iff.mpr ⟨disabledIni text, Files.put_same .., rfl⟩
  refine ⟨(written.put .upgradeIni (disabledIni text)).rm .temporary, ?_, ?_⟩
  · unfold rewriteIni
    rw [Script.exec_seq_of_ok (t := files.put .temporary []) rfl,
      Script.exec_seq_of_ok (Script.exec_command_ok.mpr hawk)]
    exact Script.exec_command_ok.mpr hmv
  · rw [Files.rm_other _ (by simp), Files.put_same]

/-- `awk` fails without its file. -/
theorem rewriteIni_of_none (hini : files .upgradeIni = none) :
    ¬ Script.Completes files rewriteIni := by
  intro ⟨final, hexec⟩
  obtain ⟨created, hmktemp, hexec⟩ := Script.exec_seq_ok.mp hexec
  obtain ⟨written, hawk, -⟩ := Script.exec_seq_ok.mp hexec
  rw [Script.exec_command_ok, Option.some.injEq] at hmktemp
  rw [Script.exec_command_ok, ← hmktemp, Files.put_other _ (by simp), hini] at hawk
  cases hawk

/-- The loops end with the file as it was, or without it if an installer is `upgrade.ini`;
then it is rewritten. -/
theorem disableUpgrade_exec (env : GuardEnv) (hini : files .upgradeIni = some text) :
    ∃ moved : GuardFiles,
      moved .upgradeIni =
        (if ∃ name ∈ setupFiles text, env.resolve name = .upgradeIni then none else some text) ∧
      (disableUpgrade env).exec files = rewriteIni.exec moved := by
  obtain ⟨files₁, hexes⟩ := forEach_disableUpgradeExe_completes files
  have hini₁ : files₁ .upgradeIni = some text :=
    (forEach_disableUpgradeExe_leaves.eq_of_mem_states (Script.exec_mem_states hexes)).trans hini
  refine ⟨(setupFiles ((files₁ .upgradeIni).getD [])).foldl (disableSetupFile env) files₁, ?_, ?_⟩
  · rw [foldl_disableSetupFile_ini, hini₁, Option.getD_some]
  · rw [disableUpgrade, Script.exec_seq_of_ok hexes]
    exact Script.exec_seq_of_ok rfl

/-- The upgrade is ready, and upgrades are not allowed. -/
def Triggers (env : GuardEnv) (text : Text) : Prop :=
  env.allowWineUpgrade = false ∧ upgradeReady text = true

theorem exec_of_triggers (hini : files .upgradeIni = some text) (h : Triggers env text)
    (hpipe : env.trKilled text = false) :
    (disableFailedUpgrade env).exec files = (disableUpgrade env).exec files := by
  have hfound : upgradeFound env text = true := by
    unfold upgradeFound
    rw [h.2, hpipe]
    rfl
  unfold disableFailedUpgrade
  rw [Script.exec_whenever_of_true (by simp [h.1]), Script.exec_whenever_of_true (by simp [hini]),
    Script.exec_whenever_of_true (by simp [hini, hfound])]

/-- Where the pipeline fails, nothing changes. -/
theorem exec_of_not_found (hini : files .upgradeIni = some text)
    (hfound : upgradeFound env text = false) :
    (disableFailedUpgrade env).exec files = .ok files := by
  unfold disableFailedUpgrade
  cases hallow : env.allowWineUpgrade with
  | true => exact Script.exec_whenever_of_false (by simp)
  | false =>
    rw [Script.exec_whenever_of_true (by simp), Script.exec_whenever_of_true (by simp [hini])]
    exact Script.exec_whenever_of_false (by simp [hini, hfound])

/-- A run that completes, and the file that it leaves. -/
theorem exec_rewrites (hini : files .upgradeIni = some text) (htriggers : Triggers env text)
    (hpipe : env.trKilled text = false)
    (hnames : ∀ name ∈ setupFiles text, env.resolve name ≠ .upgradeIni) :
    ∃ final, (disableFailedUpgrade env).exec files = .ok final ∧
      final .upgradeIni = some (disabledIni text) := by
  obtain ⟨moved, hmoved, hrewrite⟩ := disableUpgrade_exec env hini
  have hkept : ¬ ∃ name ∈ setupFiles text, env.resolve name = .upgradeIni := by
    intro ⟨name, hname, heq⟩
    exact hnames name hname heq
  rw [if_neg hkept] at hmoved
  rw [exec_of_triggers hini htriggers hpipe, hrewrite]
  exact rewriteIni_of_some hmoved

/-- A run that has moved `upgrade.ini` as an installer fails. -/
theorem exec_fails (hini : files .upgradeIni = some text) (htriggers : Triggers env text)
    (hpipe : env.trKilled text = false)
    (hmoves : ∃ name ∈ setupFiles text, env.resolve name = .upgradeIni) :
    ¬ Script.Completes files (disableFailedUpgrade env) := by
  obtain ⟨moved, hmoved, hrewrite⟩ := disableUpgrade_exec env hini
  rw [if_pos hmoves] at hmoved
  unfold Script.Completes
  rw [exec_of_triggers hini htriggers hpipe, hrewrite]
  exact rewriteIni_of_none hmoved

/-! ## The circuit is broken -/

/-- What the circuit breaker is for: one run ends with a file on which it does not trigger, a
second run changes nothing, no path of an installer is left, and the other lines are. -/
def BreaksCircuit (env : GuardEnv) (files : GuardFiles) (text : Text) : Prop :=
  ∃ final rewritten,
    (disableFailedUpgrade env).exec (files.put .upgradeIni text) = .ok final ∧
    final .upgradeIni = some rewritten ∧
    upgradeReady rewritten = false ∧
    (disableFailedUpgrade env).exec final = .ok final ∧
    (∀ line ∈ linesOf '\n' rewritten, installKey <+: line → line = installKey) ∧
    KeepsOtherLines text rewritten

/-- The rewritten file is not one of a ready upgrade. -/
theorem not_upgradeReady_disabledIni
    (h : ∀ line ∈ linesOf '\n' text, deleteMark '\r' line = statusReady →
      line = statusReady ∨ line = statusReady ++ ['\r']) :
    upgradeReady (disabledIni text) = false := by
  rw [Bool.eq_false_iff, ne_eq, upgradeReady_disabledIni]
  intro ⟨line, hline, hready, hstrip⟩
  exact hstrip ((stripMark_eq_iff '\r' (by decide)).mpr (h line hline hready))

/-- The file of the smoke test. -/
def smokeIni : Text := joinLines '\n'
  ["[4.35.0.9113]\r".toList,
    "status=3\r".toList,
    ("installfilepath=C:/Program Files/Netease/GameViewer/setup/" ++
      "UURemote_Setup_4.35.exe\r").toList,
    "changesource=manual_start_ready_version\r".toList]

/-- No variable is set, no path below `setup` leaves it, and a file that fits into a pipe is
written whole. -/
def smokeEnv : GuardEnv where
  allowWineUpgrade := false
  resolve := .other
  trKilled text := decide (65536 < text.length)

end UuAmfBridge
