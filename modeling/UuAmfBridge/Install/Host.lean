import UuAmfBridge.Lib.Shell

/-!
# The installer and the uninstaller

`scripts/install.sh` and `scripts/uninstall.sh`, as scripts over the state of the
host that they change: the `bin` directory of UU, the backups, the state files
with the records, and three values of the Wine registry.  A state file is the
list of its lines.

The commands are the ones of the source, in order, up to the systemd units and
the programs under `libexec`, which no command of the scripts reads back.  The
programs that the scripts only call (`systemctl`, `pgrep`, `curl`, `wine reg add`)
succeed: a run in which one of them fails is one that has ended there.  What
`wine reg query` prints and what the locale counts as white space belong to a run
(`RegistryQuery`).
-/

namespace UuAmfBridge

/-! ## Names -/

/-- The bridged DLLs. -/
inductive Dll where
  | amfrt64
  | d3d11
  | d3d11Dxvk
  | dxgi
  deriving Repr, DecidableEq

/-- The names in the loops of both scripts. -/
def Dll.all : List Dll := [.amfrt64, .d3d11, .d3d11Dxvk, .dxgi]

/-- The files of the `bin` directory that the scripts touch. -/
inductive BinFile where
  | dll (name : Dll)
  /-- `GameViewerServer.exe`. -/
  | server
  /-- `GameViewerServer.real.exe`. -/
  | serverReal
  /-- `uu-server-compat.dll`. -/
  | serverCompat
  /-- `drivers/devcon.exe`. -/
  | devcon
  /-- `drivers/devcon.exe.uu-disabled`. -/
  | devconDisabled
  deriving Repr, DecidableEq

/-- The files of the backup directory. -/
inductive BackupFile where
  | dll (name : Dll)
  /-- `GameViewerServer.exe`. -/
  | server
  /-- `GameViewerServer.exe.upgrade`. -/
  | serverUpgrade
  deriving Repr, DecidableEq

inductive HostFile where
  | bin (file : BinFile)
  | backup (file : BackupFile)
  deriving Repr, DecidableEq

/-- The values of the Wine registry that the scripts set. -/
inductive RegistryValue where
  | graphics
  | mouseWarp
  | webviewPolicy
  deriving Repr, DecidableEq

/-- The state files with a record: `$name.state` of a DLL, and the three files of
the registry. -/
inductive StateFile where
  | dll (name : Dll)
  | registry (value : RegistryValue)
  deriving Repr, DecidableEq

/-- A line of text. -/
abbrev Line := List Char

/-- What the scripts change; `C` is the type of the contents of a binary. -/
structure Host (C : Type*) where
  files : Files HostFile C
  states : Files StateFile (List Line)
  registry : Files RegistryValue Line

/-- The two words of a state file. -/
def present : Line := "present".toList

def absent : Line := "absent".toList

/-! ## The values of the registry -/

/-- The name of a value under its key. -/
def RegistryValue.valueName : RegistryValue → Line
  | .graphics => "Graphics".toList
  | .mouseWarp => "MouseWarpOverride".toList
  | .webviewPolicy => "*".toList

/-- How a run reads the registry. -/
structure RegistryQuery where
  /-- `[[:space:]]` of `sed`, in the locale of the run. -/
  isSpace : Char → Bool
  /-- The lines that `wine reg query` prints for a value that is there; for one that is not
  it prints none and fails. -/
  output : RegistryValue → Line → List Line

/-- What is relied on of the locale and of `wine reg query`: the blank is white space and
the other printing characters of ASCII are not; name, type and contents stand in one line
with blanks between them, and any other line is empty or begins with the name of a key. -/
structure RegistryQuery.Documented (query : RegistryQuery) : Prop where
  blank : query.isSpace ' ' = true
  graphic : ∀ c, 33 ≤ c.toNat → c.toNat ≤ 126 → query.isSpace c = false
  prints : ∀ value text, '\n' ∉ text → ∃ before after indent gap column ending,
    query.output value text = before ++ (List.replicate indent ' ' ++ value.valueName ++
      List.replicate gap ' ' ++ "REG_SZ".toList ++ List.replicate column ' ' ++ text ++
        ending) :: after ∧ (ending = [] ∨ ending = ['\r']) ∧
    ∀ line ∈ before ++ after, line = [] ∨ line = ['\r'] ∨ "HKEY_".toList <+: line

namespace RegistryQuery

variable (query : RegistryQuery)

/-- The substitution of the `sed` command that finds a value: what is left of a
line that begins with `name` and `REG_SZ`. -/
def sedValue (name line : Line) : Option Line :=
  let line := line.dropWhile query.isSpace
  if name.isPrefixOf line then
    let line := (line.drop name.length).dropWhile query.isSpace
    if "REG_SZ".toList.isPrefixOf line then some ((line.drop 6).dropWhile query.isSpace) else none
  else none

/-- `tr -d '\r' | sed -n ... | tail -n1`. -/
def queriedValue (value : RegistryValue) (output : List Line) : Line :=
  ((output.map fun line => line.filter (· ≠ '\r')).filterMap
    (query.sedValue value.valueName)).getLast?.getD []

/-- What `install.sh` takes for the contents of a value.  For two of the values
an empty text counts as absent; for the third the exit status of the query
decides. -/
def capturedValue (value : RegistryValue) (contents : Option Line) : Option Line :=
  match value with
  | .webviewPolicy => contents.map fun text => query.queriedValue value (query.output value text)
  | _ =>
      let text := query.queriedValue value ((contents.map (query.output value)).getD [])
      if text ≠ [] then some text else none

end RegistryQuery

/-! ## Commands -/

namespace Host

variable {C : Type*}

/-- A command on files. -/
def onFiles (run : Files HostFile C → Option (Files HostFile C)) : Script (Host C) :=
  .command fun host => (run host.files).map fun files => { host with files }

/-- `cp`. -/
def cp (source target : HostFile) : Script (Host C) := onFiles fun files => files.cp source target

/-- `mv -f`. -/
def mv (source target : HostFile) : Script (Host C) := onFiles fun files => files.mv source target

/-- `rm -f`. -/
def rm (name : HostFile) : Script (Host C) := onFiles fun files => some (files.rm name)

/-- `install` of an artifact. -/
def installFile (contents : C) (name : HostFile) : Script (Host C) :=
  onFiles fun files => some (files.put name contents)

/-- `printf ... >file` into a state file. -/
def writeState (file : StateFile) (lines : List Line) : Script (Host C) :=
  .command fun host => some { host with states := host.states.put file lines }

/-- `wine reg add`. -/
def regAdd (value : RegistryValue) (contents : Line) : Script (Host C) :=
  .command fun host => some { host with registry := host.registry.put value contents }

/-- `wine reg delete ... || true`. -/
def regDelete (value : RegistryValue) : Script (Host C) :=
  .command fun host => some { host with registry := host.registry.rm value }

/-- `test -f`. -/
def hasFile (name : HostFile) (host : Host C) : Bool := (host.files name).isSome

/-- `test -e` and `test -f` of a state file. -/
def hasState (file : StateFile) (host : Host C) : Bool := (host.states file).isSome

end Host

/-! ## install.sh -/

/-- What `install.sh` installs under the `bin` directory, and how it reads the registry.
The two DLLs of DXVK come from the artifacts when both are there, and else from the
download. -/
structure Artifacts (C : Type*) where
  amfrt64 : C
  d3d11 : C
  dxvk : Option (C × C) := none
  download : C × C
  launcher : C
  compat : C
  query : RegistryQuery

section Install

variable {C : Type*}

/-- The contents a DLL gets. -/
def Artifacts.dll (artifacts : Artifacts C) : Dll → C
  | .amfrt64 => artifacts.amfrt64
  | .d3d11 => artifacts.d3d11
  | .d3d11Dxvk => (artifacts.dxvk.getD artifacts.download).1
  | .dxgi => (artifacts.dxvk.getD artifacts.download).2

open Host

/-- `backup_target`. -/
def backupTarget (name : Dll) : Script (Host C) :=
  .branch (hasState (.dll name)) .skip
    (.branch (hasFile (.bin (.dll name)))
      (.block [cp (.bin (.dll name)) (.backup (.dll name)), writeState (.dll name) [present]])
      (writeState (.dll name) [absent]))

/-- The part of `install.sh` that puts the launcher in the place of the server. -/
def installServer [DecidableEq C] (artifacts : Artifacts C) : Script (Host C) :=
  .block [
    .branch (fun host => !hasFile (.bin .serverReal) host)
      (.block [cp (.bin .server) (.backup .server), mv (.bin .server) (.bin .serverReal)])
      (.whenever (fun host => host.files (.bin .server) ≠ some artifacts.launcher)
        (.block [cp (.bin .server) (.backup .serverUpgrade),
          mv (.bin .server) (.bin .serverReal)])),
    installFile artifacts.launcher (.bin .server),
    installFile artifacts.compat (.bin .serverCompat)]

/-- The record of a value of the registry. -/
def registryRecord (query : RegistryQuery) (value : RegistryValue) (contents : Option Line) :
    List Line :=
  match query.capturedValue value contents with
  | some text => [present, text]
  | none => [absent]

/-- The part of `install.sh` that records a value of the registry and sets it. -/
def setRegistry (query : RegistryQuery) (value : RegistryValue) (contents : Line) :
    Script (Host C) :=
  .block [
    .whenever (fun host => !hasState (.registry value) host)
      (.command fun host => some { host with
        states := host.states.put (.registry value)
          (registryRecord query value (host.registry value)) }),
    regAdd value contents]

/-- The values `install.sh` sets. -/
def bridgeValue : RegistryValue → Line
  | .graphics => "x11".toList
  | .mouseWarp => "disable".toList
  | .webviewPolicy => "--single-process --in-process-gpu".toList

/-- The part of `install.sh` that installs the DLLs. -/
def installDlls (artifacts : Artifacts C) : Script (Host C) :=
  .block [
    installFile artifacts.amfrt64 (.bin (.dll .amfrt64)),
    installFile artifacts.d3d11 (.bin (.dll .d3d11)),
    .branch (fun _ => artifacts.dxvk.isSome)
      (.block [installFile (artifacts.dll .d3d11Dxvk) (.bin (.dll .d3d11Dxvk)),
        installFile (artifacts.dll .dxgi) (.bin (.dll .dxgi))])
      (.block [installFile artifacts.download.1 (.bin (.dll .d3d11Dxvk)),
        installFile artifacts.download.2 (.bin (.dll .dxgi))])]

/-- `install.sh`. -/
def install [DecidableEq C] (artifacts : Artifacts C) : Script (Host C) :=
  .block [
    .forEach Dll.all backupTarget,
    installServer artifacts,
    setRegistry artifacts.query .graphics (bridgeValue .graphics),
    setRegistry artifacts.query .mouseWarp (bridgeValue .mouseWarp),
    setRegistry artifacts.query .webviewPolicy (bridgeValue .webviewPolicy),
    installDlls artifacts]

/-! ## uninstall.sh -/

/-- One pass of the loop of `uninstall.sh` over the DLLs. -/
def restoreTarget (name : Dll) : Script (Host C) :=
  .whenever (hasState (.dll name))
    (.branch (fun host => host.states (.dll name) = some [present])
      (cp (.backup (.dll name)) (.bin (.dll name)))
      (.whenever (fun host => host.states (.dll name) = some [absent])
        (rm (.bin (.dll name)))))

/-- Line `n` of a state file, or nothing. -/
def stateLine (file : StateFile) (n : Nat) (host : Host C) : Line :=
  ((host.states file).getD []).getD n []

/-- The part of `uninstall.sh` that restores a value of the registry. -/
def restoreRegistry (value : RegistryValue) : Script (Host C) :=
  .whenever (hasState (.registry value))
    (.branch (fun host => stateLine (.registry value) 0 host = present)
      (.command fun host => some { host with
        registry := host.registry.put value (stateLine (.registry value) 1 host) })
      (.whenever (fun host => stateLine (.registry value) 0 host = absent)
        (regDelete value)))

/-- `uninstall.sh`. -/
def uninstall : Script (Host C) :=
  .block [
    .forEach Dll.all restoreTarget,
    .whenever (hasFile (.bin .serverReal)) (mv (.bin .serverReal) (.bin .server)),
    rm (.bin .serverCompat),
    .whenever (hasFile (.bin .devconDisabled)) (mv (.bin .devconDisabled) (.bin .devcon)),
    restoreRegistry .graphics,
    restoreRegistry .mouseWarp,
    restoreRegistry .webviewPolicy]

end Install

/-- The host after a completed run.  A run that does not complete is no part of
a history. -/
def Host.completed {C : Type*} (host : Host C) (script : Script (Host C)) : Host C :=
  match script.exec host with
  | .ok next => next
  | .error _ => host

/-! ## What the commands leave alone -/

namespace Host

variable {C τ : Type*} {f : Host C → τ} {g : τ → τ}

theorem acts_onFiles {run : Files HostFile C → Option (Files HostFile C)}
    (hrun : ∀ host files, run host.files = some files → f { host with files } = g (f host)) :
    Script.Acts f g (onFiles run) := by
  refine .command fun host next hnext => ?_
  obtain ⟨files, hfiles, rfl⟩ := Option.map_eq_some_iff.mp hnext
  exact hrun host files hfiles

theorem leaves_onFiles {run : Files HostFile C → Option (Files HostFile C)}
    (hrun : ∀ host files, run host.files = some files → f { host with files } = f host) :
    Script.Leaves f (onFiles run) := by
  intro host next hnext
  obtain ⟨files, hfiles, rfl⟩ := Option.map_eq_some_iff.mp hnext
  exact hrun host files hfiles

/-- A command that does not fail and changes the rest of the state. -/
theorem leaves_update {run : Host C → Host C} (hrun : ∀ host, f (run host) = f host) :
    Script.Leaves f (.command fun host => some (run host)) := by
  intro host next hnext
  obtain rfl := Option.some.inj hnext
  exact hrun host

variable {name source target : HostFile}

/-- `cp` changes its target only. -/
theorem cp_leaves (h : name ≠ target) :
    Script.Leaves (fun host : Host C => host.files name) (cp source target) := by
  refine leaves_onFiles fun host files hfiles => ?_
  obtain ⟨contents, -, rfl⟩ := Files.cp_eq_some_iff.mp hfiles
  exact Files.put_other _ h contents

/-- `mv` changes its source and its target only. -/
theorem mv_leaves (hsource : name ≠ source) (htarget : name ≠ target) :
    Script.Leaves (fun host : Host C => host.files name) (mv source target) := by
  refine leaves_onFiles fun host files hfiles => ?_
  obtain ⟨contents, -, rfl⟩ := Files.mv_eq_some_iff.mp hfiles
  exact (Files.rm_other _ hsource).trans (Files.put_other _ htarget contents)

/-- `install` changes its target only. -/
theorem installFile_leaves (h : name ≠ target) (contents : C) :
    Script.Leaves (fun host => host.files name) (installFile contents target) := by
  refine leaves_onFiles fun host files hfiles => ?_
  obtain rfl := Option.some.inj hfiles
  exact Files.put_other _ h contents

/-- `rm` changes its target only. -/
theorem rm_leaves (h : name ≠ target) :
    Script.Leaves (fun host : Host C => host.files name) (rm target) := by
  refine leaves_onFiles fun host files hfiles => ?_
  obtain rfl := Option.some.inj hfiles
  exact Files.rm_other _ h

end Host

section Frames

variable {C : Type*} {name : HostFile}

/-- `backup_target` changes one backup only. -/
theorem backupTarget_leaves_file {dll : Dll} (h : name ≠ .backup (.dll dll)) :
    Script.Leaves (fun host : Host C => host.files name) (backupTarget dll) := by
  have hstate : ∀ lines, Script.Leaves (fun host : Host C => host.files name)
      (Host.writeState (.dll dll) lines) := fun lines => Host.leaves_update fun _ => rfl
  exact ⟨trivial, ⟨Host.cp_leaves h, hstate _, trivial⟩, hstate _⟩

/-- The installation of the server changes five files only. -/
theorem installServer_leaves_file [DecidableEq C] {artifacts : Artifacts C}
    (hserver : name ≠ .bin .server) (hreal : name ≠ .bin .serverReal)
    (hcompat : name ≠ .bin .serverCompat) (hbackup : name ≠ .backup .server)
    (hupgrade : name ≠ .backup .serverUpgrade) :
    Script.Leaves (fun host : Host C => host.files name) (installServer artifacts) := by
  have hmove : Script.Leaves (fun host : Host C => host.files name)
      (Host.mv (.bin .server) (.bin .serverReal)) := Host.mv_leaves hserver hreal
  exact ⟨⟨⟨Host.cp_leaves hbackup, hmove, trivial⟩,
      ⟨Host.cp_leaves hupgrade, hmove, trivial⟩, trivial⟩,
    Host.installFile_leaves hserver _, Host.installFile_leaves hcompat _, trivial⟩

/-- The installation of the DLLs changes the DLLs only. -/
theorem installDlls_leaves_file {artifacts : Artifacts C} (h : ∀ dll, name ≠ .bin (.dll dll)) :
    Script.Leaves (fun host : Host C => host.files name) (installDlls artifacts) := by
  have hput : ∀ contents dll, Script.Leaves (fun host : Host C => host.files name)
      (Host.installFile contents (.bin (.dll dll))) :=
    fun contents dll => Host.installFile_leaves (h dll) contents
  exact ⟨hput _ _, hput _ _, ⟨⟨hput _ _, hput _ _, trivial⟩, hput _ _, hput _ _, trivial⟩, trivial⟩

/-- A setting of the registry leaves the files alone. -/
theorem setRegistry_leaves_file (query : RegistryQuery) (value : RegistryValue)
    (contents : Line) :
    Script.Leaves (fun host : Host C => host.files name) (setRegistry query value contents) :=
  ⟨⟨Host.leaves_update fun _ => rfl, trivial⟩, Host.leaves_update fun _ => rfl, trivial⟩

/-- One pass of the restoring loop changes one DLL only. -/
theorem restoreTarget_leaves_file {dll : Dll} (h : name ≠ .bin (.dll dll)) :
    Script.Leaves (fun host : Host C => host.files name) (restoreTarget dll) :=
  ⟨⟨Host.cp_leaves h, Host.rm_leaves h, trivial⟩, trivial⟩

/-- The restoring of a value of the registry leaves the files alone. -/
theorem restoreRegistry_leaves_file (value : RegistryValue) :
    Script.Leaves (fun host : Host C => host.files name) (restoreRegistry value) :=
  ⟨⟨Host.leaves_update fun _ => rfl, Host.leaves_update fun _ => rfl, trivial⟩, trivial⟩

end Frames

end UuAmfBridge
