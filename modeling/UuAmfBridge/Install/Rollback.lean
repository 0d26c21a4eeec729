import UuAmfBridge.Install.ServerBinary
import UuAmfBridge.Lib.SavedSlot

/-!
# The rollback of an installation

`uninstall.sh` puts the DLLs and the values of the registry back as `install.sh`
has recorded them.  The records stay: a later `install.sh` finds them and does
not look again, and a later `uninstall.sh` applies them once more.

Each DLL and each value of the registry is a `SavedSlot`, whose operations the
two scripts are (`install_acts_dll`, `uninstall_acts_dll`, `install_acts_value`
and `uninstall_acts_value`).  `rollback_restores` follows over every history: an
uninstall restores what was there, as long as every install that begins a period
finds each name as it is recorded, and no uninstall outside a period finds a name
that differs from its record.
-/

namespace UuAmfBridge

variable {C : Type*}

/-! ## One DLL -/

/-- A DLL, its marker and its backup. -/
structure DllPart (C : Type*) where
  bin : Option C
  marker : Option (List Line)
  backup : Option C

/-- The part of the host that belongs to one DLL. -/
def Host.dllPart (name : Dll) (host : Host C) : DllPart C where
  bin := host.files (.bin (.dll name))
  marker := host.states (.dll name)
  backup := host.files (.backup (.dll name))

namespace DllPart

/-- The part after `backup_target`. -/
def backedUp (part : DllPart C) : DllPart C :=
  match part.marker, part.bin with
  | some _, _ => part
  | none, some contents => { part with marker := some [present], backup := some contents }
  | none, none => { part with marker := some [absent] }

/-- The part after the DLL is overwritten. -/
def put (contents : C) (part : DllPart C) : DllPart C := { part with bin := some contents }

/-- The part after one pass of the restoring loop. -/
def restored (part : DllPart C) : DllPart C :=
  if part.marker = some [present] then { part with bin := part.backup }
  else if part.marker = some [absent] then { part with bin := none } else part

/-- The markers that the scripts write. -/
def Valid (part : DllPart C) : Prop :=
  part.marker = none ∨ part.marker = some [present] ∧ part.backup ≠ none ∨
    part.marker = some [absent]

/-- The record that a marker stands for. -/
def slot (part : DllPart C) : SavedSlot C where
  current := part.bin
  saved := part.marker.map fun lines => if lines = [present] then part.backup else none

theorem present_ne_absent : present ≠ absent := by decide

variable {part : DllPart C}

/-- Backup and overwriting are one overwrite of the slot. -/
theorem slot_put_backedUp (h : part.Valid) (contents : C) :
    (part.backedUp.put contents).slot = part.slot.overwrite id contents ∧
      (part.backedUp.put contents).Valid := by
  obtain ⟨bin, marker, backup⟩ := part
  cases marker with
  | some lines => exact ⟨rfl, h⟩
  | none =>
    cases bin with
    | some found => exact ⟨rfl, Or.inr (Or.inl ⟨rfl, nofun⟩)⟩
    | none => exact ⟨rfl, Or.inr (Or.inr rfl)⟩

theorem slot_restored (h : part.Valid) :
    part.restored.slot = part.slot.restore ∧ part.restored.Valid := by
  obtain ⟨bin, marker, backup⟩ := part
  rcases h with hnone | ⟨hpresent, hbackup⟩ | habsent
  · obtain rfl : marker = none := hnone
    exact ⟨rfl, Or.inl rfl⟩
  · obtain rfl : marker = some [present] := hpresent
    exact ⟨rfl, Or.inr (Or.inl ⟨rfl, hbackup⟩)⟩
  · obtain rfl : marker = some [absent] := habsent
    exact ⟨rfl, Or.inr (Or.inr rfl)⟩

end DllPart

section Dll

variable {name : Dll} {script : Script (Host C)}

/-- A script that leaves the files and the marker of a DLL alone. -/
theorem leaves_dllPart
    (hbin : Script.Leaves (fun host : Host C => host.files (.bin (.dll name))) script)
    (hmarker : Script.Leaves (fun host : Host C => host.states (.dll name)) script)
    (hbackup : Script.Leaves (fun host : Host C => host.files (.backup (.dll name))) script) :
    Script.Leaves (Host.dllPart name) script :=
  (hbin.prod (hmarker.prod hbackup)).comp fun parts => DllPart.mk parts.1 parts.2.1 parts.2.2

/-- `install` of a DLL overwrites it. -/
theorem installFile_acts_dll (contents : C) :
    Script.Acts (Host.dllPart name) (DllPart.put contents)
      (Host.installFile contents (.bin (.dll name))) := by
  refine Host.acts_onFiles fun host files hfiles => ?_
  obtain rfl := Option.some.inj hfiles
  simp [Host.dllPart, DllPart.put]

theorem installFile_leaves_dll {file : BinFile} (h : file ≠ .dll name) (contents : C) :
    Script.Leaves (Host.dllPart name)
      (Host.installFile contents (.bin file)) := by
  have hbin : HostFile.bin (.dll name) ≠ .bin file := fun heq => h (HostFile.bin.inj heq).symm
  have hbackup : HostFile.backup (.dll name) ≠ .bin file := nofun
  exact leaves_dllPart (Host.installFile_leaves hbin _) (Host.leaves_onFiles fun _ _ _ => rfl)
    (Host.installFile_leaves hbackup _)

/-- Writing a marker. -/
theorem writeState_acts_dll (lines : List Line) :
    Script.Acts (Host.dllPart name)
      (fun part => { part with marker := some lines })
      (Host.writeState (.dll name) lines : Script (Host C)) := by
  refine .command fun host next hnext => ?_
  obtain rfl := Option.some.inj hnext
  simp [Host.dllPart]

/-- The copy into the backup directory. -/
theorem cp_acts_dll_backup :
    Script.Acts (Host.dllPart name)
      (fun part => { part with backup := part.bin })
      (Host.cp (.bin (.dll name)) (.backup (.dll name)) : Script (Host C)) := by
  refine Host.acts_onFiles fun host files hfiles => ?_
  obtain ⟨contents, hcontents, rfl⟩ := Files.cp_eq_some_iff.mp hfiles
  simp [Host.dllPart, hcontents]

theorem backupTarget_acts_dll :
    Script.Acts (Host.dllPart name) DllPart.backedUp
      (backupTarget name : Script (Host C)) := by
  intro host next hexec
  unfold DllPart.backedUp
  rcases Script.exec_branch_ok.mp hexec with ⟨hmarker, hexec⟩ | ⟨hmarker, hexec⟩
  · obtain rfl := Except.ok.inj hexec
    obtain ⟨lines, hlines⟩ := Option.isSome_iff_exists.mp hmarker
    have hmarker : (host.dllPart name).marker = some lines := hlines
    rw [hmarker]
  · have hmarker : (host.dllPart name).marker = none := by
      simpa [Host.hasState, Host.dllPart] using hmarker
    rw [hmarker]
    rcases Script.exec_branch_ok.mp hexec with ⟨hfile, hexec⟩ | ⟨hfile, hexec⟩
    · obtain ⟨contents, hcontents⟩ := Option.isSome_iff_exists.mp hfile
      have hbin : (host.dllPart name).bin = some contents := hcontents
      have hskip : Script.Leaves (Host.dllPart name) (.block [] : Script (Host C)) := trivial
      have hboth := cp_acts_dll_backup.seq ((writeState_acts_dll [present]).before hskip)
      rw [hboth host next hexec, hbin]
      simp [hbin]
    · have hbin : (host.dllPart name).bin = none := by
        simpa [Host.hasFile, Host.dllPart] using hfile
      rw [writeState_acts_dll [absent] host next hexec, hbin]
      simp [hbin]

theorem backupTarget_leaves_dll {other : Dll} (h : other ≠ name) :
    Script.Leaves (Host.dllPart name) (backupTarget other : Script (Host C)) := by
  have hbackup : HostFile.backup (.dll name) ≠ .backup (.dll other) := by
    intro heq
    cases heq
    exact h rfl
  have hmarker : StateFile.dll name ≠ .dll other := by
    intro heq
    cases heq
    exact h rfl
  have hwrite : ∀ lines, Script.Leaves (fun host : Host C => host.states (.dll name))
      (Host.writeState (.dll other) lines) :=
    fun lines => Host.leaves_update fun _ => Files.put_other _ hmarker lines
  exact leaves_dllPart (backupTarget_leaves_file nofun)
    ⟨trivial, ⟨Host.leaves_onFiles fun _ _ _ => rfl, hwrite _, trivial⟩, hwrite _⟩
    (backupTarget_leaves_file hbackup)

theorem restoreTarget_leaves_dll {other : Dll} (h : other ≠ name) :
    Script.Leaves (Host.dllPart name) (restoreTarget other : Script (Host C)) := by
  have hbin : HostFile.bin (.dll name) ≠ .bin (.dll other) := by
    intro heq
    cases heq
    exact h rfl
  exact leaves_dllPart (restoreTarget_leaves_file hbin)
    ⟨⟨Host.leaves_onFiles fun _ _ _ => rfl, Host.leaves_onFiles fun _ _ _ => rfl, trivial⟩,
      trivial⟩
    (restoreTarget_leaves_file nofun)

theorem restoreTarget_acts_dll :
    Script.Acts (Host.dllPart name) DllPart.restored (restoreTarget name : Script (Host C)) := by
  have hcp : Script.Acts (Host.dllPart name) (fun part => { part with bin := part.backup })
      (Host.cp (.backup (.dll name)) (.bin (.dll name)) : Script (Host C)) := by
    refine Host.acts_onFiles fun host files hfiles => ?_
    obtain ⟨contents, hcontents, rfl⟩ := Files.cp_eq_some_iff.mp hfiles
    simp [Host.dllPart, hcontents]
  have hrm : Script.Acts (Host.dllPart name) (fun part => { part with bin := none })
      (Host.rm (.bin (.dll name)) : Script (Host C)) := by
    refine Host.acts_onFiles fun host files hfiles => ?_
    obtain rfl := Option.some.inj hfiles
    simp [Host.dllPart]
  intro host next hexec
  have hmarker : (host.dllPart name).marker = host.states (.dll name) := rfl
  unfold DllPart.restored
  rw [hmarker]
  rcases Script.exec_branch_ok.mp hexec with ⟨-, hexec⟩ | ⟨hnone, hexec⟩
  · rcases Script.exec_branch_ok.mp hexec with ⟨hpresent, hexec⟩ | ⟨hnot, hexec⟩
    · rw [if_pos (of_decide_eq_true hpresent)]
      exact hcp host next hexec
    · rw [if_neg (of_decide_eq_false hnot)]
      rcases Script.exec_branch_ok.mp hexec with ⟨habsent, hexec⟩ | ⟨hneither, hexec⟩
      · rw [if_pos (of_decide_eq_true habsent)]
        exact hrm host next hexec
      · rw [if_neg (of_decide_eq_false hneither)]
        exact congrArg _ (Except.ok.inj hexec).symm
  · obtain rfl := Except.ok.inj hexec
    have hnone : host.states (.dll name) = none := by
      simpa [Host.hasState] using hnone
    rw [hnone]
    rfl

theorem setRegistry_leaves_dll (query : RegistryQuery) (value : RegistryValue)
    (contents : Line) :
    Script.Leaves (Host.dllPart name) (setRegistry query value contents : Script (Host C)) := by
  have hmarker : StateFile.dll name ≠ .registry value := nofun
  have hrecord : Script.Leaves (fun host : Host C => host.states (.dll name))
      (.command fun host => some { host with
        states := host.states.put (.registry value)
          (registryRecord query value (host.registry value)) }) :=
    Host.leaves_update fun host =>
      Files.put_other _ hmarker (registryRecord query value (host.registry value))
  exact leaves_dllPart (setRegistry_leaves_file query value contents)
    ⟨⟨hrecord, trivial⟩, Host.leaves_update fun _ => rfl, trivial⟩
    (setRegistry_leaves_file query value contents)

theorem restoreRegistry_leaves_dll (value : RegistryValue) :
    Script.Leaves (Host.dllPart name) (restoreRegistry value : Script (Host C)) :=
  leaves_dllPart (restoreRegistry_leaves_file value)
    ⟨⟨Host.leaves_update fun _ => rfl, Host.leaves_update fun _ => rfl, trivial⟩, trivial⟩
    (restoreRegistry_leaves_file value)

/-- A completed `uninstall.sh` restores the DLL. -/
theorem uninstall_acts_dll :
    Script.Acts (Host.dllPart name) DllPart.restored (uninstall : Script (Host C)) := by
  have htargets : Script.Acts (Host.dllPart name) DllPart.restored
      (Script.forEach Dll.all restoreTarget : Script (Host C)) :=
    .forEach (by decide) (by cases name <;> decide) restoreTarget_acts_dll
      fun other hother => restoreTarget_leaves_dll hother
  have hmv : ∀ source target : BinFile, source ≠ .dll name → target ≠ .dll name →
      Script.Leaves (Host.dllPart name)
        (Host.mv (.bin source) (.bin target) : Script (Host C)) := by
    intro source target hsource htarget
    exact leaves_dllPart
      (Host.mv_leaves (fun heq => hsource (HostFile.bin.inj heq).symm)
        fun heq => htarget (HostFile.bin.inj heq).symm)
      (Host.leaves_onFiles fun _ _ _ => rfl) (Host.mv_leaves nofun nofun)
  have hrm : Script.Leaves (Host.dllPart name) (Host.rm (.bin .serverCompat) : Script (Host C)) :=
    leaves_dllPart (Host.rm_leaves nofun) (Host.leaves_onFiles fun _ _ _ => rfl)
      (Host.rm_leaves nofun)
  exact .before htargets ⟨⟨hmv _ _ nofun nofun, trivial⟩, hrm, ⟨hmv _ _ nofun nofun, trivial⟩,
    restoreRegistry_leaves_dll _, restoreRegistry_leaves_dll _, restoreRegistry_leaves_dll _,
    trivial⟩

/-- With either source of the DLLs of DXVK the same two commands run. -/
theorem installDlls_acts_of_block {g : DllPart C → DllPart C} {artifacts : Artifacts C}
    (h : Script.Acts (Host.dllPart name) g (.block [
      Host.installFile artifacts.amfrt64 (.bin (.dll .amfrt64)),
      Host.installFile artifacts.d3d11 (.bin (.dll .d3d11)),
      Host.installFile (artifacts.dll .d3d11Dxvk) (.bin (.dll .d3d11Dxvk)),
      Host.installFile (artifacts.dll .dxgi) (.bin (.dll .dxgi))])) :
    Script.Acts (Host.dllPart name) g (installDlls artifacts) := by
  intro host next hexec
  obtain ⟨first, hfirst, hexec⟩ := Script.exec_seq_ok.mp hexec
  obtain ⟨second, hsecond, hexec⟩ := Script.exec_seq_ok.mp hexec
  obtain ⟨third, hthird, hexec⟩ := Script.exec_seq_ok.mp hexec
  obtain rfl := Except.ok.inj hexec
  refine h host third (Script.exec_seq_ok.mpr ⟨first, hfirst,
    Script.exec_seq_ok.mpr ⟨second, hsecond, ?_⟩⟩)
  rcases Script.exec_branch_ok.mp hthird with ⟨-, hthird⟩ | ⟨hnone, hthird⟩
  · exact hthird
  · have hnone : artifacts.dxvk = none := Option.not_isSome_iff_eq_none.mp (by simp [hnone])
    unfold Artifacts.dll
    rw [hnone]
    exact hthird

theorem installDlls_acts_dll (artifacts : Artifacts C) :
    Script.Acts (Host.dllPart name) (DllPart.put (artifacts.dll name))
      (installDlls artifacts) := by
  have hother : ∀ (contents : C) (other : Dll), other ≠ name → Script.Leaves (Host.dllPart name)
      (Host.installFile contents (.bin (.dll other))) :=
    fun contents other h => installFile_leaves_dll (fun heq => h (BinFile.dll.inj heq)) contents
  refine installDlls_acts_of_block ?_
  cases name with
  | amfrt64 =>
    exact .before (installFile_acts_dll _)
      ⟨hother _ _ nofun, hother _ _ nofun, hother _ _ nofun, trivial⟩
  | d3d11 =>
    exact .after (hother _ _ nofun) (.before (installFile_acts_dll _)
      ⟨hother _ _ nofun, hother _ _ nofun, trivial⟩)
  | d3d11Dxvk =>
    exact .after (hother _ _ nofun) (.after (hother _ _ nofun)
      (.before (installFile_acts_dll _) ⟨hother _ _ nofun, trivial⟩))
  | dxgi =>
    exact .after (hother _ _ nofun) (.after (hother _ _ nofun)
      (.after (hother _ _ nofun) (.before (installFile_acts_dll _) trivial)))

theorem installServer_leaves_dll [DecidableEq C] (artifacts : Artifacts C) :
    Script.Leaves (Host.dllPart name) (installServer artifacts) := by
  refine leaves_dllPart (installServer_leaves_file nofun nofun nofun nofun nofun) ?_
    (installServer_leaves_file nofun nofun nofun nofun nofun)
  have hfiles : ∀ run, Script.Leaves (fun host : Host C => host.states (.dll name))
      (Host.onFiles run) := fun run => Host.leaves_onFiles fun _ _ _ => rfl
  exact ⟨⟨⟨hfiles _, hfiles _, trivial⟩, ⟨hfiles _, hfiles _, trivial⟩, trivial⟩,
    hfiles _, hfiles _, trivial⟩

/-- A completed `install.sh` backs the DLL up and overwrites it. -/
theorem install_acts_dll [DecidableEq C] (artifacts : Artifacts C) :
    Script.Acts (Host.dllPart name) (fun part => part.backedUp.put (artifacts.dll name))
      (install artifacts) := by
  have htargets : Script.Acts (Host.dllPart name) DllPart.backedUp
      (Script.forEach Dll.all backupTarget : Script (Host C)) :=
    .forEach (by decide) (by cases name <;> decide) backupTarget_acts_dll
      fun other hother => backupTarget_leaves_dll hother
  have hdlls : Script.Acts (Host.dllPart name) (DllPart.put (artifacts.dll name))
      (.block [installDlls artifacts]) := (installDlls_acts_dll artifacts).before trivial
  have hrest := Script.Acts.after (installServer_leaves_dll artifacts)
    (.after (setRegistry_leaves_dll artifacts.query .graphics (bridgeValue .graphics))
      (.after (setRegistry_leaves_dll artifacts.query .mouseWarp (bridgeValue .mouseWarp))
        (.after (setRegistry_leaves_dll artifacts.query .webviewPolicy (bridgeValue .webviewPolicy))
          hdlls)))
  exact htargets.seq hrest

end Dll

/-! ## One value of the registry -/

/-- A value of the registry and its state file. -/
structure ValuePart where
  current : Option Line
  marker : Option (List Line)

/-- The part of the host that belongs to one value. -/
def Host.valuePart (value : RegistryValue) (host : Host C) : ValuePart where
  current := host.registry value
  marker := host.states (.registry value)

namespace ValuePart

/-- The part after the value is recorded and set. -/
def set (query : RegistryQuery) (value : RegistryValue) (contents : Line) (part : ValuePart) :
    ValuePart where
  current := some contents
  marker := some (part.marker.getD (registryRecord query value part.current))

/-- The first and the second line of the state file. -/
def line (n : Nat) (part : ValuePart) : Line := (part.marker.getD []).getD n []

/-- The part after `uninstall.sh`. -/
def restored (part : ValuePart) : ValuePart :=
  if part.line 0 = present then { part with current := some (part.line 1) }
  else if part.line 0 = absent then { part with current := none } else part

/-- The state files that `install.sh` writes. -/
def Valid (part : ValuePart) : Prop :=
  part.marker = none ∨ (∃ text, part.marker = some [present, text]) ∨ part.marker = some [absent]

/-- The record that a state file stands for. -/
def slot (part : ValuePart) : SavedSlot Line where
  current := part.current
  saved := part.marker.map fun _ => if part.line 0 = present then some (part.line 1) else none

variable {part : ValuePart}

theorem registryRecord_valid (query : RegistryQuery) (value : RegistryValue)
    (current found : Option Line) :
    (ValuePart.mk current (some (registryRecord query value found))).Valid ∧
      (ValuePart.mk current (some (registryRecord query value found))).slot =
        ⟨current, some (query.capturedValue value found)⟩ := by
  unfold registryRecord
  cases query.capturedValue value found with
  | some text => exact ⟨Or.inr (Or.inl ⟨text, rfl⟩), rfl⟩
  | none => exact ⟨Or.inr (Or.inr rfl), rfl⟩

/-- Recording and setting are one overwrite of the slot. -/
theorem slot_set (h : part.Valid) (query : RegistryQuery) (value : RegistryValue)
    (contents : Line) :
    (part.set query value contents).slot =
        part.slot.overwrite (query.capturedValue value) contents ∧
      (part.set query value contents).Valid := by
  obtain ⟨current, marker⟩ := part
  cases marker with
  | some lines => exact ⟨rfl, h⟩
  | none =>
    have hrecord := registryRecord_valid query value (some contents) current
    exact ⟨hrecord.2, hrecord.1⟩

theorem slot_restored (h : part.Valid) :
    part.restored.slot = part.slot.restore ∧ part.restored.Valid := by
  obtain ⟨current, marker⟩ := part
  rcases h with hnone | ⟨text, hpresent⟩ | habsent
  · obtain rfl : marker = none := hnone
    exact ⟨rfl, Or.inl rfl⟩
  · obtain rfl : marker = some [present, text] := hpresent
    exact ⟨rfl, Or.inr (Or.inl ⟨text, rfl⟩)⟩
  · obtain rfl : marker = some [absent] := habsent
    exact ⟨rfl, Or.inr (Or.inr rfl)⟩

end ValuePart

section Value

variable {value : RegistryValue} {script : Script (Host C)}

/-- A script that leaves a value and its state file alone. -/
theorem leaves_valuePart
    (hcurrent : Script.Leaves (fun host : Host C => host.registry value) script)
    (hmarker : Script.Leaves (fun host : Host C => host.states (.registry value)) script) :
    Script.Leaves (Host.valuePart value) script :=
  (hcurrent.prod hmarker).comp fun parts => ValuePart.mk parts.1 parts.2

/-- The commands on files leave the registry alone. -/
theorem onFiles_leaves_value (run : Files HostFile C → Option (Files HostFile C)) :
    Script.Leaves (Host.valuePart value) (Host.onFiles run) := Host.leaves_onFiles fun _ _ _ => rfl

theorem writeState_leaves_value (dll : Dll) (lines : List Line) :
    Script.Leaves (Host.valuePart value) (Host.writeState (.dll dll) lines : Script (Host C)) := by
  have hmarker : StateFile.registry value ≠ .dll dll := nofun
  exact leaves_valuePart (Host.leaves_update fun _ => rfl)
    (Host.leaves_update fun host => Files.put_other host.states hmarker lines)

theorem backupTarget_leaves_value (dll : Dll) :
    Script.Leaves (Host.valuePart value) (backupTarget dll : Script (Host C)) :=
  ⟨trivial, ⟨onFiles_leaves_value _, writeState_leaves_value _ _, trivial⟩,
    writeState_leaves_value _ _⟩

theorem restoreTarget_leaves_value (dll : Dll) :
    Script.Leaves (Host.valuePart value) (restoreTarget dll : Script (Host C)) :=
  ⟨⟨onFiles_leaves_value _, onFiles_leaves_value _, trivial⟩, trivial⟩

theorem setRegistry_acts_value (query : RegistryQuery) (contents : Line) :
    Script.Acts (Host.valuePart value) (ValuePart.set query value contents)
      (setRegistry query value contents : Script (Host C)) := by
  intro host next hexec
  obtain ⟨recorded, hrecorded, hexec⟩ := Script.exec_seq_ok.mp hexec
  obtain ⟨added, hadded, hexec⟩ := Script.exec_seq_ok.mp hexec
  obtain rfl := Except.ok.inj hexec
  obtain rfl := Option.some.inj (Script.exec_command_ok.mp hadded)
  unfold ValuePart.set
  rcases Script.exec_branch_ok.mp hrecorded with ⟨hnone, hrun⟩ | ⟨hsome, hrun⟩
  · obtain rfl := Option.some.inj (Script.exec_command_ok.mp hrun)
    have hmarker : host.states (.registry value) = none := by
      simpa [Host.hasState] using hnone
    simp [Host.valuePart, hmarker]
  · obtain rfl := Except.ok.inj hrun
    obtain ⟨lines, hlines⟩ : ∃ lines, host.states (.registry value) = some lines := by
      simpa [Host.hasState, Option.isSome_iff_exists] using hsome
    simp [Host.valuePart, hlines]

theorem setRegistry_leaves_value {other : RegistryValue} (h : other ≠ value)
    (query : RegistryQuery) (contents : Line) :
    Script.Leaves (Host.valuePart value) (setRegistry query other contents : Script (Host C)) := by
  have hmarker : StateFile.registry value ≠ .registry other := by
    intro heq
    cases heq
    exact h rfl
  have hrecord : Script.Leaves (fun host : Host C => host.states (.registry value))
      (.command fun host => some { host with
        states := host.states.put (.registry other)
          (registryRecord query other (host.registry other)) }) :=
    Host.leaves_update fun host =>
      Files.put_other _ hmarker (registryRecord query other (host.registry other))
  exact leaves_valuePart
    ⟨⟨Host.leaves_update fun _ => rfl, trivial⟩,
      Host.leaves_update fun host => Files.put_other host.registry h.symm contents, trivial⟩
    ⟨⟨hrecord, trivial⟩, Host.leaves_update fun _ => rfl, trivial⟩

theorem restoreRegistry_acts_value :
    Script.Acts (Host.valuePart value) ValuePart.restored
      (restoreRegistry value : Script (Host C)) := by
  intro host next hexec
  have hline : ∀ n, (host.valuePart value).line n = stateLine (.registry value) n host :=
    fun _ => rfl
  unfold ValuePart.restored
  rw [hline, hline]
  rcases Script.exec_branch_ok.mp hexec with ⟨-, hexec⟩ | ⟨hnone, hexec⟩
  · rcases Script.exec_branch_ok.mp hexec with ⟨hpresent, hexec⟩ | ⟨hnot, hexec⟩
    · rw [if_pos (of_decide_eq_true hpresent)]
      obtain rfl := Option.some.inj (Script.exec_command_ok.mp hexec)
      simp [Host.valuePart]
    · rw [if_neg (of_decide_eq_false hnot)]
      rcases Script.exec_branch_ok.mp hexec with ⟨habsent, hexec⟩ | ⟨hneither, hexec⟩
      · rw [if_pos (of_decide_eq_true habsent)]
        obtain rfl := Option.some.inj (Script.exec_command_ok.mp hexec)
        simp [Host.valuePart]
      · rw [if_neg (of_decide_eq_false hneither)]
        exact congrArg _ (Except.ok.inj hexec).symm
  · obtain rfl := Except.ok.inj hexec
    have hnone : host.states (.registry value) = none := by
      simpa [Host.hasState] using hnone
    have hempty : stateLine (.registry value) 0 host = [] := by
      unfold stateLine
      rw [hnone]
      rfl
    rw [hempty, if_neg (by decide), if_neg (by decide)]

theorem restoreRegistry_leaves_value {other : RegistryValue} (h : other ≠ value) :
    Script.Leaves (Host.valuePart value) (restoreRegistry other : Script (Host C)) :=
  leaves_valuePart
    ⟨⟨Host.leaves_update fun host => Files.put_other host.registry h.symm _,
      Host.leaves_update fun host => Files.rm_other host.registry h.symm, trivial⟩, trivial⟩
    ⟨⟨Host.leaves_update fun _ => rfl, Host.leaves_update fun _ => rfl, trivial⟩, trivial⟩

/-- A completed `uninstall.sh` restores the value. -/
theorem uninstall_acts_value :
    Script.Acts (Host.valuePart value) ValuePart.restored (uninstall : Script (Host C)) := by
  have htargets : Script.Leaves (Host.valuePart value)
      (Script.forEach Dll.all restoreTarget : Script (Host C)) :=
    .forEach fun dll _ => restoreTarget_leaves_value dll
  have hother : ∀ other, other ≠ value →
      Script.Leaves (Host.valuePart value) (restoreRegistry other : Script (Host C)) :=
    fun _ hother => restoreRegistry_leaves_value hother
  refine .after htargets (.after ⟨onFiles_leaves_value _, trivial⟩
    (.after (onFiles_leaves_value _) (.after ⟨onFiles_leaves_value _, trivial⟩ ?_)))
  cases value with
  | graphics =>
    exact .before restoreRegistry_acts_value ⟨hother _ nofun, hother _ nofun, trivial⟩
  | mouseWarp =>
    exact .after (hother _ nofun) (.before restoreRegistry_acts_value ⟨hother _ nofun, trivial⟩)
  | webviewPolicy =>
    exact .after (hother _ nofun) (.after (hother _ nofun)
      (.before restoreRegistry_acts_value trivial))

/-- A completed `install.sh` records the value and sets it. -/
theorem install_acts_value [DecidableEq C] (artifacts : Artifacts C) :
    Script.Acts (Host.valuePart value) (ValuePart.set artifacts.query value (bridgeValue value))
      (install artifacts) := by
  have htargets : Script.Leaves (Host.valuePart value)
      (Script.forEach Dll.all backupTarget : Script (Host C)) :=
    .forEach fun dll _ => backupTarget_leaves_value dll
  have hfiles : ∀ run, Script.Leaves (Host.valuePart value) (Host.onFiles run : Script (Host C)) :=
    onFiles_leaves_value
  have hserver : Script.Leaves (Host.valuePart value) (installServer artifacts) :=
    ⟨⟨⟨hfiles _, hfiles _, trivial⟩, ⟨hfiles _, hfiles _, trivial⟩, trivial⟩,
      hfiles _, hfiles _, trivial⟩
  have hdlls : Script.Leaves (Host.valuePart value) (.block [installDlls artifacts]) :=
    ⟨⟨hfiles _, hfiles _, ⟨⟨hfiles _, hfiles _, trivial⟩, hfiles _, hfiles _, trivial⟩, trivial⟩,
      trivial⟩
  have hother : ∀ other, other ≠ value → Script.Leaves (Host.valuePart value)
      (setRegistry artifacts.query other (bridgeValue other) : Script (Host C)) :=
    fun _ hother => setRegistry_leaves_value hother _ _
  refine .after htargets (.after hserver ?_)
  cases value with
  | graphics =>
    exact .before (setRegistry_acts_value _ _) ⟨hother _ nofun, hother _ nofun, hdlls⟩
  | mouseWarp =>
    exact .after (hother _ nofun) (.before (setRegistry_acts_value _ _) ⟨hother _ nofun, hdlls⟩)
  | webviewPolicy =>
    exact .after (hother _ nofun) (.after (hother _ nofun)
      (.before (setRegistry_acts_value _ _) hdlls))

end Value

/-! ## What the query of a value keeps -/

namespace RegistryQuery

variable {query : RegistryQuery}

theorem Documented.dropWhile_blanks (h : query.Documented) (n : Nat) (line : Line) :
    (List.replicate n ' ' ++ line).dropWhile query.isSpace = line.dropWhile query.isSpace := by
  induction n with
  | zero => rfl
  | succ n ih =>
    rw [List.replicate_succ, List.cons_append, List.dropWhile_cons_of_pos h.blank, ih]

/-- The name of a value begins with a printing character, as `REG_SZ` does. -/
theorem Documented.dropWhile_graphic (h : query.Documented) {word : Line}
    (hword : ∃ c rest, word = c :: rest ∧ 33 ≤ c.toNat ∧ c.toNat ≤ 126) (line : Line) :
    (word ++ line).dropWhile query.isSpace = word ++ line := by
  obtain ⟨c, rest, rfl, hlow, hhigh⟩ := hword
  rw [List.cons_append, List.dropWhile_cons_of_neg]
  rw [h.graphic c hlow hhigh]
  exact Bool.false_ne_true

theorem valueName_graphic (value : RegistryValue) :
    ∃ c rest, value.valueName = c :: rest ∧ 33 ≤ c.toNat ∧ c.toNat ≤ 126 := by
  cases value with
  | graphics => exact ⟨'G', "raphics".toList, rfl, by decide, by decide⟩
  | mouseWarp => exact ⟨'M', "ouseWarpOverride".toList, rfl, by decide, by decide⟩
  | webviewPolicy => exact ⟨'*', [], rfl, by decide, by decide⟩

/-- The line of a value, without carriage returns. -/
theorem Documented.sedValue_line (h : query.Documented) (value : RegistryValue)
    (indent gap column : Nat) (text : Line) :
    query.sedValue value.valueName (List.replicate indent ' ' ++ (value.valueName ++
      (List.replicate gap ' ' ++ ("REG_SZ".toList ++ (List.replicate column ' ' ++ text))))) =
        some (text.dropWhile query.isSpace) := by
  have htype : ∃ c rest, "REG_SZ".toList = c :: rest ∧ 33 ≤ c.toNat ∧ c.toNat ≤ 126 :=
    ⟨'R', "EG_SZ".toList, rfl, by decide, by decide⟩
  unfold sedValue
  simp only
  rw [h.dropWhile_blanks, h.dropWhile_graphic (valueName_graphic value),
    if_pos (List.isPrefixOf_iff_prefix.mpr (List.prefix_append _ _)), List.drop_left,
    h.dropWhile_blanks, h.dropWhile_graphic htype,
    if_pos (List.isPrefixOf_iff_prefix.mpr (List.prefix_append _ _)),
    List.drop_left' (by rfl), h.dropWhile_blanks]

/-- Any other line has no value. -/
theorem Documented.sedValue_other (h : query.Documented) (value : RegistryValue) {line : Line}
    (hline : line = [] ∨ line = ['\r'] ∨ "HKEY_".toList <+: line) :
    query.sedValue value.valueName (line.filter (· ≠ '\r')) = none := by
  have hempty : query.sedValue value.valueName [] = none := by cases value <;> rfl
  rcases hline with rfl | rfl | ⟨rest, rfl⟩
  · exact hempty
  · exact hempty
  · have hkey : ("HKEY_".toList ++ rest).filter (· ≠ '\r') =
        "HKEY_".toList ++ rest.filter (· ≠ '\r') := by
      rw [List.filter_append]
      congr 1
    have hbegins : ∃ c rest, "HKEY_".toList = c :: rest ∧ 33 ≤ c.toNat ∧ c.toNat ≤ 126 :=
      ⟨'H', "KEY_".toList, rfl, by decide, by decide⟩
    unfold sedValue
    simp only
    rw [hkey, h.dropWhile_graphic hbegins]
    cases value <;> rfl

/-- The query keeps a value up to its carriage returns and leading white space. -/
theorem Documented.queriedValue_output (h : query.Documented) (value : RegistryValue)
    {text : Line} (hline : '\n' ∉ text) :
    query.queriedValue value (query.output value text) =
      (text.filter (· ≠ '\r')).dropWhile query.isSpace := by
  obtain ⟨before, after, indent, gap, column, ending, hprints, hending, hothers⟩ :=
    h.prints value text hline
  have hblanks : ∀ n, (List.replicate n ' ').filter (· ≠ '\r') = List.replicate n ' ' :=
    fun n => List.filter_eq_self.mpr fun c hc => by rw [List.eq_of_mem_replicate hc]; rfl
  have hname : value.valueName.filter (· ≠ '\r') = value.valueName := by cases value <;> decide
  have htype : "REG_SZ".toList.filter (· ≠ '\r') = "REG_SZ".toList := by decide
  have hend : ending.filter (· ≠ '\r') = [] := by
    rcases hending with rfl | rfl <;> rfl
  have hnone : ∀ lines : List Line, (∀ line ∈ lines, line ∈ before ++ after) →
      (lines.map fun line => line.filter (· ≠ '\r')).filterMap
        (query.sedValue value.valueName) = [] := by
    intro lines hlines
    rw [List.filterMap_eq_nil_iff]
    intro line hmem
    obtain ⟨raw, hraw, rfl⟩ := List.mem_map.mp hmem
    exact h.sedValue_other value (hothers raw (hlines raw hraw))
  unfold queriedValue
  rw [hprints, List.map_append, List.map_cons, List.filterMap_append, List.filterMap_cons,
    hnone before fun line hline => List.mem_append_left _ hline,
    hnone after fun line hline => List.mem_append_right _ hline]
  simp only [List.filter_append, hblanks, hname, htype, hend, List.append_nil, List.append_assoc,
    h.sedValue_line, List.nil_append, List.getLast?_singleton, Option.getD_some]

/-- What the query of a value keeps: a text without a carriage return that does not begin
with white space and is not empty, except for the third value. -/
def Keeps (query : RegistryQuery) (value : RegistryValue) (contents : Option Line) : Prop :=
  ∀ text, contents = some text → '\r' ∉ text ∧
    (∀ c, text.head? = some c → query.isSpace c = false) ∧ (text = [] → value = .webviewPolicy)

theorem filter_dropWhile_eq_self_iff (isSpace : Char → Bool) (text : Line) :
    (text.filter (· ≠ '\r')).dropWhile isSpace = text ↔
      '\r' ∉ text ∧ ∀ c, text.head? = some c → isSpace c = false := by
  constructor
  · intro heq
    have hlength : text.length ≤ (text.filter (· ≠ '\r')).length := by
      conv_lhs => rw [← heq]
      exact (List.dropWhile_suffix _).length_le
    have hfilter : text.filter (· ≠ '\r') = text :=
      (List.filter_sublist).eq_of_length_le hlength
    rw [hfilter] at heq
    refine ⟨fun hmem => ?_, fun c hc => ?_⟩
    · exact absurd (List.filter_eq_self.mp hfilter _ hmem) (by decide)
    · obtain ⟨rest, rfl⟩ := List.head?_eq_some_iff.mp hc
      by_contra hspace
      rw [List.dropWhile_cons_of_pos (by simpa using hspace)] at heq
      have hle := (List.dropWhile_suffix isSpace (l := rest)).length_le
      rw [heq, List.length_cons] at hle
      omega
  · rintro ⟨hreturn, hspace⟩
    have hfilter : text.filter (· ≠ '\r') = text := by
      rw [List.filter_eq_self]
      intro c hc
      exact decide_eq_true fun heq => hreturn (heq ▸ hc)
    rw [hfilter]
    cases text with
    | nil => rfl
    | cons c rest =>
      have hgraphic : ¬isSpace c = true := by
        rw [hspace c rfl]
        exact Bool.false_ne_true
      rw [List.dropWhile_cons_of_neg hgraphic]

/-- A value of one line is recorded as it is exactly when the query keeps it. -/
theorem Documented.capturedValue_eq_self_iff (h : query.Documented) (value : RegistryValue)
    {contents : Option Line} (hline : ∀ text, contents = some text → '\n' ∉ text) :
    query.capturedValue value contents = contents ↔ query.Keeps value contents := by
  cases contents with
  | none =>
    have hnone : query.capturedValue value none = none := by cases value <;> rfl
    exact iff_of_true hnone nofun
  | some text =>
    have hquery := h.queriedValue_output value (hline text rfl)
    have hcases : query.capturedValue value (some text) =
        if value = .webviewPolicy ∨ query.queriedValue value (query.output value text) ≠ [] then
          some (query.queriedValue value (query.output value text)) else none := by
      cases value with
      | webviewPolicy => rfl
      | graphics => simp [capturedValue]
      | mouseWarp => simp [capturedValue]
    have hkeeps : query.Keeps value (some text) ↔
        (text.filter (· ≠ '\r')).dropWhile query.isSpace = text ∧
          (text = [] → value = .webviewPolicy) := by
      rw [filter_dropWhile_eq_self_iff, and_assoc]
      exact ⟨fun hkept => hkept text rfl, fun hkept other hother => Option.some.inj hother ▸ hkept⟩
    rw [hcases, hquery, hkeeps]
    by_cases hsame : (text.filter (· ≠ '\r')).dropWhile query.isSpace = text
    · rw [hsame]
      by_cases hkept : value = .webviewPolicy ∨ text ≠ []
      · rw [if_pos hkept]
        refine iff_of_true rfl ⟨rfl, fun hempty => ?_⟩
        rcases hkept with hpolicy | htext
        · exact hpolicy
        · exact absurd hempty htext
      · rw [if_neg hkept]
        obtain ⟨hpolicy, htext⟩ := not_or.mp hkept
        exact iff_of_false nofun fun hall => hpolicy (hall.2 (not_not.mp htext))
    · refine iff_of_false (fun heq => ?_) fun hall => hsame hall.1
      split_ifs at heq
      exact hsame (Option.some.inj heq)

end RegistryQuery

/-! ## Histories -/

/-- The names that the bridge takes over. -/
structure Bridged (C : Type*) where
  dlls : Dll → Option C
  values : RegistryValue → Option Line

/-- What is there under the bridged names. -/
def Host.bridged (host : Host C) : Bridged C where
  dlls name := host.files (.bin (.dll name))
  values value := host.registry value

/-- The host after a change of the bridged names from outside. -/
def Host.withBridged (host : Host C) (names : Bridged C) : Host C where
  files
    | .bin (.dll name) => names.dlls name
    | other => host.files other
  states := host.states
  registry := names.values

/-- What happens to the bridged names. -/
inductive RollbackOp (C : Type*) where
  | install (artifacts : Artifacts C)
  | uninstall
  | change (names : Bridged C)

/-- The host and, while the bridge is installed, the bridged names as they were
before the first install since the previous uninstall. -/
structure RollbackHistory (C : Type*) where
  host : Host C
  before : Option (Bridged C)

section History

variable [DecidableEq C]

/-- The completed runs of the scripts, and the changes from outside while the
bridge is not installed. -/
def rollbackHistory : Machine (RollbackHistory C) (RollbackOp C) Unit where
  step history op :=
    match op with
    | .install artifacts =>
        match (UuAmfBridge.install artifacts).exec history.host with
        | .ok next => (⟨next, some (history.before.getD history.host.bridged)⟩, ())
        | .error _ => (history, ())
    | .uninstall =>
        match UuAmfBridge.uninstall.exec history.host with
        | .ok next => (⟨next, none⟩, ())
        | .error _ => (history, ())
    | .change names =>
        match history.before with
        | none => (⟨history.host.withBridged names, none⟩, ())
        | some _ => (history, ())

/-- A completed uninstall leaves every name as it was before the bridge was
installed, or as it is when the bridge is not installed. -/
def Restores (history : RollbackHistory C) : RollbackOp C → Prop
  | .uninstall => ∀ next, UuAmfBridge.uninstall.exec history.host = .ok next →
      next.bridged = history.before.getD history.host.bridged
  | _ => True

/-- The slots of a host. -/
def Host.dllSlot (host : Host C) (name : Dll) : SavedSlot C := (host.dllPart name).slot

def Host.valueSlot (host : Host C) (value : RegistryValue) : SavedSlot Line :=
  (host.valuePart value).slot

/-- What a completed run meets while the bridge is not installed: an install finds every
name as its record has it, or without a record and, if it is a value, as one line that the
query keeps; an uninstall finds every name as its record has it. -/
def MeetsRecords (history : RollbackHistory C) (op : RollbackOp C) : Prop :=
  history.before = none →
    match op with
    | .install artifacts => ∀ next, (UuAmfBridge.install artifacts).exec history.host = .ok next →
        (∀ name, (history.host.dllSlot name).Stays) ∧
          ∀ value, (history.host.valueSlot value).Stays ∧
            ((history.host.valueSlot value).saved = none →
              artifacts.query.Keeps value (history.host.registry value) ∧
                ∀ text, history.host.registry value = some text → '\n' ∉ text)
    | .uninstall => ∀ next, UuAmfBridge.uninstall.exec history.host = .ok next →
        (∀ name, (history.host.dllSlot name).Stays) ∧
          ∀ value, (history.host.valueSlot value).Stays
    | .change _ => True

/-- The markers are ones that the scripts write, and while the bridge is
installed the records are what was there before. -/
structure RecordsHold (history : RollbackHistory C) : Prop where
  dlls : ∀ name, (history.host.dllPart name).Valid
  values : ∀ value, (history.host.valuePart value).Valid
  before : ∀ names, history.before = some names →
    (∀ name, (history.host.dllSlot name).saved = some (names.dlls name)) ∧
      ∀ value, (history.host.valueSlot value).saved = some (names.values value)

/-- A completed install overwrites every slot. -/
theorem slots_install {host next : Host C} {artifacts : Artifacts C}
    (hdlls : ∀ name, (host.dllPart name).Valid) (hvalues : ∀ value, (host.valuePart value).Valid)
    (hexec : (UuAmfBridge.install artifacts).exec host = .ok next) :
    (∀ name, next.dllSlot name = (host.dllSlot name).overwrite id (artifacts.dll name) ∧
        (next.dllPart name).Valid) ∧
      ∀ value, next.valueSlot value =
          (host.valueSlot value).overwrite (artifacts.query.capturedValue value)
            (bridgeValue value) ∧
        (next.valuePart value).Valid := by
  constructor
  · intro name
    unfold Host.dllSlot
    rw [install_acts_dll artifacts host next hexec]
    exact DllPart.slot_put_backedUp (hdlls name) _
  · intro value
    unfold Host.valueSlot
    rw [install_acts_value artifacts host next hexec]
    exact ValuePart.slot_set (hvalues value) _ value _

omit [DecidableEq C] in
/-- A completed uninstall restores every slot. -/
theorem slots_uninstall {host next : Host C}
    (hdlls : ∀ name, (host.dllPart name).Valid) (hvalues : ∀ value, (host.valuePart value).Valid)
    (hexec : UuAmfBridge.uninstall.exec host = .ok next) :
    (∀ name, next.dllSlot name = (host.dllSlot name).restore ∧ (next.dllPart name).Valid) ∧
      ∀ value, next.valueSlot value = (host.valueSlot value).restore ∧
        (next.valuePart value).Valid := by
  constructor
  · intro name
    unfold Host.dllSlot
    rw [uninstall_acts_dll host next hexec]
    exact DllPart.slot_restored (hdlls name)
  · intro value
    unfold Host.valueSlot
    rw [uninstall_acts_value host next hexec]
    exact ValuePart.slot_restored (hvalues value)

/-- A completed install leaves the records of what was there before it. -/
theorem recordsHold_install {history : RollbackHistory C} (h : RecordsHold history)
    {artifacts : Artifacts C} (hquery : artifacts.query.Documented)
    (hmeets : MeetsRecords history (.install artifacts)) {next : Host C}
    (hexec : (UuAmfBridge.install artifacts).exec history.host = .ok next) :
    RecordsHold ⟨next, some (history.before.getD history.host.bridged)⟩ := by
  obtain ⟨hdlls, hvalues⟩ := slots_install h.dlls h.values hexec
  refine ⟨fun name => (hdlls name).2, fun value => (hvalues value).2, fun names hnames => ?_⟩
  obtain rfl := Option.some.inj hnames
  constructor
  · intro name
    have hsaved : ∀ found, history.before.map (fun names => names.dlls name) = some found →
        (history.host.dllSlot name).saved = some found := by
      intro found hfound
      obtain ⟨names, hbefore, rfl⟩ := Option.map_eq_some_iff.mp hfound
      exact (h.before names hbefore).1 name
    have hkept : history.before.map (fun names => names.dlls name) = none →
        (history.host.dllSlot name).Kept id :=
      fun hnone => (hmeets (Option.map_eq_none_iff.mp hnone) next hexec).1 name
    show (next.dllSlot name).saved = _
    rw [(hdlls name).1, SavedSlot.saved_overwrite_eq_before hsaved hkept]
    cases history.before <;> rfl
  · intro value
    have hsaved : ∀ found, history.before.map (fun names => names.values value) = some found →
        (history.host.valueSlot value).saved = some found := by
      intro found hfound
      obtain ⟨names, hbefore, rfl⟩ := Option.map_eq_some_iff.mp hfound
      exact (h.before names hbefore).2 value
    have hkept : history.before.map (fun names => names.values value) = none →
        (history.host.valueSlot value).Kept (artifacts.query.capturedValue value) := by
      intro hnone
      obtain ⟨hstays, hkeeps⟩ := (hmeets (Option.map_eq_none_iff.mp hnone) next hexec).2 value
      unfold SavedSlot.Kept
      unfold SavedSlot.Stays at hstays
      cases hrecord : (history.host.valueSlot value).saved with
      | some record =>
        rw [hrecord] at hstays
        exact hstays
      | none =>
        obtain ⟨hkept, hline⟩ := hkeeps hrecord
        exact (hquery.capturedValue_eq_self_iff value hline).mpr hkept
    show (next.valueSlot value).saved = _
    rw [(hvalues value).1, SavedSlot.saved_overwrite_eq_before hsaved hkept]
    cases history.before <;> rfl

/-- An install reads the registry as it is documented. -/
def RollbackOp.Documented : RollbackOp C → Prop
  | .install artifacts => artifacts.query.Documented
  | _ => True

/-- Every step that meets the records keeps them. -/
theorem recordsHold_step {history : RollbackHistory C} (h : RecordsHold history)
    {op : RollbackOp C} (hquery : op.Documented) (hmeets : MeetsRecords history op) :
    RecordsHold (rollbackHistory.step history op).1 := by
  cases op with
  | install artifacts =>
    unfold rollbackHistory
    cases hexec : (UuAmfBridge.install artifacts).exec history.host with
    | error _ => simpa only [hexec] using h
    | ok next => simpa only [hexec] using recordsHold_install h hquery hmeets hexec
  | uninstall =>
    unfold rollbackHistory
    cases hexec : UuAmfBridge.uninstall.exec history.host with
    | error _ => simpa only [hexec] using h
    | ok next =>
      obtain ⟨hdlls, hvalues⟩ := slots_uninstall h.dlls h.values hexec
      have hnext : RecordsHold ⟨next, none⟩ :=
        ⟨fun name => (hdlls name).2, fun value => (hvalues value).2, nofun⟩
      simpa only [hexec] using hnext
  | change names =>
    unfold rollbackHistory
    cases hbefore : history.before with
    | none =>
      have hnext : RecordsHold ⟨history.host.withBridged names, none⟩ :=
        ⟨h.dlls, h.values, nofun⟩
      simpa only [hbefore] using hnext
    | some _ => simpa only [hbefore] using h

/-- A completed uninstall that meets the records restores every name. -/
theorem restores_of_meetsRecords {history : RollbackHistory C} (h : RecordsHold history)
    {op : RollbackOp C} (hmeets : MeetsRecords history op) : Restores history op := by
  cases op with
  | install _ => trivial
  | change _ => trivial
  | uninstall =>
    intro next hexec
    obtain ⟨hdlls, hvalues⟩ := slots_uninstall h.dlls h.values hexec
    have hdll : ∀ name, next.bridged.dlls name =
        (history.before.map fun names => names.dlls name).getD
          (history.host.bridged.dlls name) := by
      intro name
      have hcurrent : next.bridged.dlls name = (history.host.dllSlot name).restore.current :=
        congrArg SavedSlot.current (hdlls name).1
      rw [hcurrent]
      refine SavedSlot.current_restore_eq_before (fun found hfound => ?_) fun hnone => ?_
      · obtain ⟨names, hbefore, rfl⟩ := Option.map_eq_some_iff.mp hfound
        exact (h.before names hbefore).1 name
      · exact (hmeets (Option.map_eq_none_iff.mp hnone) next hexec).1 name
    have hvalue : ∀ value, next.bridged.values value =
        (history.before.map fun names => names.values value).getD
          (history.host.bridged.values value) := by
      intro value
      have hcurrent : next.bridged.values value = (history.host.valueSlot value).restore.current :=
        congrArg SavedSlot.current (hvalues value).1
      rw [hcurrent]
      refine SavedSlot.current_restore_eq_before (fun found hfound => ?_) fun hnone => ?_
      · obtain ⟨names, hbefore, rfl⟩ := Option.map_eq_some_iff.mp hfound
        exact (h.before names hbefore).2 value
      · exact (hmeets (Option.map_eq_none_iff.mp hnone) next hexec).2 value
    have hall : next.bridged = ⟨_, _⟩ := congrArg₂ Bridged.mk (funext hdll) (funext hvalue)
    rw [hall]
    cases history.before <;> rfl

/-- Over every history from a host without records, every completed uninstall
restores what was there, as long as the runs outside the periods of an
installation meet the records. -/
theorem rollback_restores {host : Host C} (hstates : host.states = fun _ => none)
    (ops : List (RollbackOp C)) (hquery : ∀ op ∈ ops, op.Documented)
    (hmeets : rollbackHistory.Along (fun _ => MeetsRecords) [] ⟨host, none⟩ ops) :
    rollbackHistory.Along (fun _ => Restores) [] ⟨host, none⟩ ops := by
  have hstart : RecordsHold ⟨host, none⟩ :=
    ⟨fun name => Or.inl (congrFun hstates _), fun value => Or.inl (congrFun hstates _), nofun⟩
  have hboth := rollbackHistory.along_and.mpr
    ⟨rollbackHistory.along_of_forall_mem [] ⟨host, none⟩ hquery, hmeets⟩
  exact Machine.along_of_invariant (fun _ => RecordsHold)
    (fun _ _ _ h hop => recordsHold_step h hop.1 hop.2)
    (fun _ _ _ h hop => restores_of_meetsRecords h hop.2) hstart hboth

end History

theorem wineQuery_documented : wineQuery.Documented where
  blank := rfl
  graphic c hlow hhigh := by
    unfold wineQuery
    simp only [Bool.or_eq_false_iff, Bool.and_eq_false_iff, decide_eq_false_iff_not,
      beq_eq_false_iff_ne]
    omega
  prints value text _ := by
    cases value with
    | graphics => exact ⟨[_, _], [_], 4, 4, 4, ['\r'], rfl, Or.inr rfl, by decide⟩
    | mouseWarp => exact ⟨[_, _], [_], 4, 4, 4, ['\r'], rfl, Or.inr rfl, by decide⟩
    | webviewPolicy => exact ⟨[_, _], [_], 4, 4, 4, ['\r'], rfl, Or.inr rfl, by decide⟩

/-- UU with a DLL of its own, and a registry in which the three values are set. -/
def settledHost : Host Binary where
  files := Files.put vendorHost.files (.bin (.dll .d3d11)) (.vendor 1)
  states := fun _ => none
  registry
    | .graphics => some "wayland".toList
    | .mouseWarp => some "force".toList
    | .webviewPolicy => some "--disable-gpu --lang=zh".toList

/-- One installation and its removal. -/
theorem rollback_restores_once :
    rollbackHistory.Along (fun _ => Restores) [] ⟨settledHost, none⟩
      [.install (buildArtifacts 1), .uninstall] := by
  refine rollback_restores rfl _ ?_
    ⟨fun _ _ _ => ⟨fun _ => rfl, fun value => ⟨rfl, fun _ => ⟨?_, ?_⟩⟩⟩, ?_, trivial⟩
  · intro op hop
    rcases List.mem_pair.mp hop with rfl | rfl
    · exact wineQuery_documented
    · trivial
  · have hfirst : ∀ text : Line, ∀ first, text.head? = some first →
        wineQuery.isSpace first = false → ∀ c, text.head? = some c → wineQuery.isSpace c = false := by
      intro text first hhead hgraphic c hc
      rw [← Option.some.inj (hhead.symm.trans hc)]
      exact hgraphic
    intro text htext
    cases value with
    | graphics =>
      obtain rfl := Option.some.inj htext
      exact ⟨by decide, hfirst _ 'w' (by decide) (by decide), nofun⟩
    | mouseWarp =>
      obtain rfl := Option.some.inj htext
      exact ⟨by decide, hfirst _ 'f' (by decide) (by decide), nofun⟩
    | webviewPolicy =>
      obtain rfl := Option.some.inj htext
      exact ⟨by decide, hfirst _ '-' (by decide) (by decide), nofun⟩
  · intro text htext
    cases value <;> obtain rfl := Option.some.inj htext <;> decide
  · intro hnone
    cases hnone

/-! ## Two installations -/

/-- What UU has under the bridged names once it ships a DLL of its own. -/
def shippedNames : Bridged Binary where
  dlls
    | .amfrt64 => some (.vendor 2)
    | _ => none
  values _ := none

/-- The bridge is installed and removed, UU is upgraded and brings an
`amfrt64.dll`, and the bridge is installed and removed once more. -/
def reinstallation : List (RollbackOp Binary) :=
  [.install (buildArtifacts 1), .uninstall, .change shippedNames, .install (buildArtifacts 1),
    .uninstall]

/-- The second removal deletes the DLL that the upgrade has brought. -/
theorem reinstallation_loses_dll :
    ¬rollbackHistory.Along (fun _ => Restores) [] ⟨vendorHost, none⟩ reinstallation := by
  rintro ⟨-, -, -, -, hrestores, -⟩
  have hbridged := hrestores _ rfl
  have hdll := congrArg (fun names : Bridged Binary => names.dlls .amfrt64) hbridged
  cases hdll

end UuAmfBridge
