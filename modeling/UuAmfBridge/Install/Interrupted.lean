import UuAmfBridge.Install.Rollback

/-!
# An installation that is interrupted

A run of `install.sh` that is killed leaves the host in one of the states between
its commands.  `interrupted_recovers_iff` says from which of them a second run and
an `uninstall.sh` bring back the DLLs and the server: all of them in which there
is a server in place, when the bridge was installed with the same launcher or not
at all.  Between the command that moves the server away and the one that puts the
launcher there, there is none, and the second run fails at its first copy.

* `install_passes_dll`: between any two commands a DLL is as it was, or its record
  is what it was.
* `install_passes_server`: the three pairs the two files of the server pass
  through.
* `install_completes_iff`: a run completes exactly when it finds a server in
  place.
-/

namespace UuAmfBridge

variable {C : Type*}

/-! ## The DLLs -/

/-- The record of the DLL is `original`. -/
def DllPart.Recorded (original : Option C) (part : DllPart C) : Prop :=
  part.Valid ∧ part.slot.saved = some original

/-- The DLL is `original` and has no marker, or that is its record. -/
def DllPart.Keeps (original : Option C) (part : DllPart C) : Prop :=
  part.marker = none ∧ part.bin = original ∨ part.Recorded original

/-- The DLL is `original` and backed up, and its marker is not written yet. -/
def DllPart.Copied (original : Option C) (part : DllPart C) : Prop :=
  part.marker = none ∧ part.bin = original ∧ part.backup = original ∧ original ≠ none

section Dll

variable {name : Dll} {original : Option C}

theorem DllPart.Recorded.put {part : DllPart C} (h : part.Recorded original) (contents : C) :
    (part.put contents).Recorded original := h

/-- A marker is written last, when the backup is there. -/
theorem backupTarget_passes_dll :
    Script.Passes (fun host => (host.dllPart name).Keeps original)
      (fun host => (host.dllPart name).Keeps original) (backupTarget name : Script (Host C))
      fun host => (host.dllPart name).Recorded original := by
  have hunmarked : ∀ host : Host C, (host.dllPart name).Keeps original →
      Host.hasState (.dll name) host = false →
        (host.dllPart name).marker = none ∧ (host.dllPart name).bin = original := by
    intro host hkeeps htest
    rcases hkeeps with hnone | ⟨-, hsaved⟩
    · exact hnone
    · have hmarker : (host.dllPart name).marker = none := by
        simpa [Host.hasState, Host.dllPart] using htest
      simp [DllPart.slot, hmarker] at hsaved
  have hwrite : ∀ lines (host next : Host C), (host.dllPart name).bin = original →
      (Host.writeState (.dll name) lines).exec host = .ok next →
      (lines = [present] ∧ (host.dllPart name).backup = original ∧ original ≠ none ∨
        lines = [absent] ∧ original = none) →
      (next.dllPart name).Recorded original := by
    intro lines host next hbin hexec hlines
    rw [writeState_acts_dll lines host next hexec]
    rcases hlines with ⟨rfl, hbackup, hsome⟩ | ⟨rfl, hnone⟩
    · exact ⟨Or.inr (Or.inl ⟨rfl, hbackup ▸ hsome⟩), congrArg some hbackup⟩
    · exact ⟨Or.inr (Or.inr rfl), congrArg some hnone.symm⟩
  have hmarked : Script.Passes (fun host : Host C => (host.dllPart name).Keeps original)
      (fun host => (host.dllPart name).Recorded original) .skip
      fun host => (host.dllPart name).Recorded original := .skip fun _ => Or.inr
  refine .branch ?_ (.branch (.seq (Q := fun host => (host.dllPart name).Copied original) ?_
    (.seq ?_ hmarked)) ?_)
  · refine hmarked.mono ?_ fun _ => id
    rintro host ⟨hkeeps, htest⟩
    rcases hkeeps with ⟨hnone, -⟩ | hrecorded
    · have hmarker : host.states (.dll name) = none := hnone
      simp [Host.hasState, hmarker] at htest
    · exact hrecorded
  · refine .command (fun host h => h.1.1) ?_
    rintro host next ⟨⟨hkeeps, htest⟩, hfile⟩ hnext
    obtain ⟨hmarker, hbin⟩ := hunmarked host hkeeps htest
    have hpart := cp_acts_dll_backup host next (Script.exec_command_ok.mpr hnext)
    have hsome : original ≠ none := by
      rw [← hbin]
      exact Option.isSome_iff_ne_none.mp hfile
    rw [hpart]
    exact ⟨Or.inl ⟨hmarker, hbin⟩, hmarker, hbin, hbin, hsome⟩
  · refine .command (fun host h => Or.inl ⟨h.1, h.2.1⟩) fun host next h hnext => ?_
    have hrecorded := hwrite [present] host next h.2.1 (Script.exec_command_ok.mpr hnext)
      (Or.inl ⟨rfl, h.2.2⟩)
    exact ⟨Or.inr hrecorded, hrecorded⟩
  · refine .command (fun host h => h.1.1) ?_
    rintro host next ⟨⟨hkeeps, htest⟩, hfile⟩ hnext
    obtain ⟨-, hbin⟩ := hunmarked host hkeeps htest
    have hnone : original = none := by
      rw [← hbin]
      simpa [Host.hasFile, Host.dllPart] using hfile
    have hrecorded := hwrite [absent] host next hbin (Script.exec_command_ok.mpr hnext)
      (Or.inr ⟨rfl, hnone⟩)
    exact ⟨Or.inr hrecorded, hrecorded⟩

/-- Once there is a record, the DLL may be overwritten. -/
theorem installFile_passes_dll (contents : C) (file : BinFile) :
    Script.Passes (fun host => (host.dllPart name).Keeps original)
      (fun host => (host.dllPart name).Recorded original) (Host.installFile contents (.bin file))
      fun host => (host.dllPart name).Recorded original := by
  by_cases hfile : file = .dll name
  · subst hfile
    refine .command (fun host => Or.inr) fun host next h hnext => ?_
    rw [installFile_acts_dll contents host next (Script.exec_command_ok.mpr hnext)]
    exact ⟨Or.inr (h.put contents), h.put contents⟩
  · exact (installFile_leaves_dll hfile contents).passes fun _ => Or.inr

/-- Between any two commands of `install.sh` a DLL is what it was, or recorded. -/
theorem install_passes_dll [DecidableEq C] (artifacts : Artifacts C) :
    Script.Passes (fun host => (host.dllPart name).Keeps original)
      (fun host => (host.dllPart name).Keeps original) (install artifacts)
      fun host => (host.dllPart name).Recorded original := by
  have hrecorded : ∀ {script : Script (Host C)}, Script.Leaves (Host.dllPart name) script →
      Script.Passes (fun host => (host.dllPart name).Keeps original)
        (fun host => (host.dllPart name).Recorded original) script
        fun host => (host.dllPart name).Recorded original :=
    fun hleaves => hleaves.passes fun _ => Or.inr
  have hskip : Script.Passes (fun host : Host C => (host.dllPart name).Keeps original)
      (fun host => (host.dllPart name).Recorded original) .skip
      fun host => (host.dllPart name).Recorded original := hrecorded trivial
  have hput := @installFile_passes_dll C name original
  have htargets : Script.Passes (fun host => (host.dllPart name).Keeps original)
      (fun host => (host.dllPart name).Keeps original)
      (Script.forEach Dll.all backupTarget : Script (Host C))
      fun host => (host.dllPart name).Recorded original :=
    .forEach (by decide) (by cases name <;> decide) (fun _ => id) (fun _ => Or.inr)
      backupTarget_passes_dll fun other hother => backupTarget_leaves_dll hother
  have hdxvk : ∀ first second, Script.Passes (fun host => (host.dllPart name).Keeps original)
      (fun host => (host.dllPart name).Recorded original) (.block [
        Host.installFile first (.bin (.dll .d3d11Dxvk)),
        Host.installFile second (.bin (.dll .dxgi))])
      fun host => (host.dllPart name).Recorded original :=
    fun first second => (hput first _).seq ((hput second _).seq hskip)
  have hdlls : Script.Passes (fun host => (host.dllPart name).Keeps original)
      (fun host => (host.dllPart name).Recorded original) (installDlls artifacts)
      fun host => (host.dllPart name).Recorded original := by
    refine (hput _ _).seq ((hput _ _).seq (.seq (.branch ?_ ?_) hskip))
    · exact (hdxvk _ _).mono (fun _ h => h.1) fun _ => id
    · exact (hdxvk _ _).mono (fun _ h => h.1) fun _ => id
  exact htargets.seq ((hrecorded (installServer_leaves_dll artifacts)).seq
    ((hrecorded (setRegistry_leaves_dll _ _ _)).seq ((hrecorded (setRegistry_leaves_dll _ _ _)).seq
      ((hrecorded (setRegistry_leaves_dll _ _ _)).seq (hdlls.seq hskip)))))

/-- After an uninstall a recorded DLL is what was recorded. -/
theorem bin_of_recorded {host next : Host C} (h : (host.dllPart name).Recorded original)
    (hexec : uninstall.exec host = .ok next) : next.files (.bin (.dll name)) = original := by
  have hpart : next.dllPart name = (host.dllPart name).restored :=
    uninstall_acts_dll host next hexec
  have hslot := (DllPart.slot_restored h.1).1
  calc next.files (.bin (.dll name)) = (next.dllPart name).slot.current := rfl
    _ = (host.dllPart name).slot.restore.current := by rw [hpart, hslot]
    _ = original := SavedSlot.current_restore_of_saved h.2

end Dll

/-! ## The server -/

section Server

variable [DecidableEq C]

/-- The two files of the server between the commands of `install.sh`: there is no
server in place, or nothing is done yet, or everything is. -/
def ServerMidway (launcher : C) (start files : Option C × Option C) : Prop :=
  files.1 = none ∨ files = start ∨
    files = serverInstalled launcher start ∧ files.2 ≠ none

/-- A second run that finds a server in place ends as the first one would have. -/
theorem serverInstalled_midway {launcher : C} {start files : Option C × Option C}
    (h : ServerMidway launcher start files) (hserver : files.1 ≠ none) :
    serverInstalled launcher files = serverInstalled launcher start := by
  rcases h with hnone | rfl | ⟨heq, hreal⟩
  · exact absurd hnone hserver
  · rfl
  · have hfirst : files.1 = some launcher := by
      rw [heq]
      rfl
    calc serverInstalled launcher files = (some launcher, files.2) := by
          unfold serverInstalled
          rw [if_neg]
          intro hcase
          rcases hcase with hnone | hne
          · exact hreal hnone
          · exact hne hfirst
      _ = files := Prod.ext hfirst.symm rfl
      _ = serverInstalled launcher start := heq

/-- The server is moved away, or the launcher is in its place already. -/
def ServerReady (launcher : C) (start files : Option C × Option C) : Prop :=
  start.1 ≠ none ∧
    if start.2 = none ∨ start.1 ≠ some launcher then files = (none, start.1) else files = start

variable {artifacts : Artifacts C} {start : Option C × Option C}

/-- The copy and the move of the server. -/
theorem moveServer_passes (backup : BackupFile)
    (hmoves : start.2 = none ∨ start.1 ≠ some artifacts.launcher) :
    Script.Passes (fun host => ServerMidway artifacts.launcher start (serverFiles host))
      (fun host => serverFiles host = start)
      (.block [Host.cp (.bin .server) (.backup backup), Host.mv (.bin .server) (.bin .serverReal)])
      fun host => ServerReady artifacts.launcher start (serverFiles host) := by
  have hcp : Script.Leaves serverFiles
      (Host.cp (.bin .server) (.backup backup) : Script (Host C)) := by
    refine leaves_serverFiles fun name hname => Host.cp_leaves ?_
    rcases hname with rfl | rfl
    · exact nofun
    · exact nofun
  have hskip : Script.Passes (fun host => ServerMidway artifacts.launcher start (serverFiles host))
      (fun host : Host C => serverFiles host = (none, start.1) ∧ start.1 ≠ none) .skip
      fun host => serverFiles host = (none, start.1) ∧ start.1 ≠ none :=
    .skip fun host h => Or.inl (congrArg Prod.fst h.1)
  refine (Script.Leaves.passes (J := fun files => files = start) hcp
    fun host h => Or.inr (Or.inl h)).seq (.seq (.command (fun host h => Or.inr (Or.inl h))
      fun host next h hnext => ?_) (hskip.mono (fun _ => id) fun host h => ?_))
  · have hmoved := mv_acts_server host next (Script.exec_command_ok.mpr hnext)
    rw [h] at hmoved
    obtain ⟨files, hfiles, -⟩ := Option.map_eq_some_iff.mp hnext
    obtain ⟨contents, hcontents, -⟩ := Files.mv_eq_some_iff.mp hfiles
    have hfirst : start.1 ≠ none := by
      rw [← h]
      exact fun hnone => nomatch hcontents.symm.trans hnone
    exact ⟨Or.inl (congrArg Prod.fst hmoved), hmoved, hfirst⟩
  · refine ⟨h.2, ?_⟩
    rw [if_pos hmoves]
    exact h.1

/-- A script after the launcher is in its place. -/
theorem serverDone_passes {script : Script (Host C)} (hleaves : Script.Leaves serverFiles script) :
    Script.Passes (fun host => ServerMidway artifacts.launcher start (serverFiles host))
      (fun host => serverFiles host = serverInstalled artifacts.launcher start ∧
        (serverFiles host).2 ≠ none) script
      fun host => serverFiles host = serverInstalled artifacts.launcher start ∧
        (serverFiles host).2 ≠ none :=
  hleaves.passes (J := fun files =>
    files = serverInstalled artifacts.launcher start ∧ files.2 ≠ none) fun _ h => Or.inr (Or.inr h)

/-- The part of `install.sh` about the server, between its commands. -/
theorem installServer_passes (hserver : start.1 ≠ none) :
    Script.Passes (fun host => ServerMidway artifacts.launcher start (serverFiles host))
      (fun host => serverFiles host = start) (installServer artifacts)
      fun host => serverFiles host = serverInstalled artifacts.launcher start ∧
        (serverFiles host).2 ≠ none := by
  have hready : ∀ host : Host C, ServerReady artifacts.launcher start (serverFiles host) →
      ServerMidway artifacts.launcher start (serverFiles host) := by
    rintro host ⟨-, h⟩
    split_ifs at h with hmoves
    · exact Or.inl (congrArg Prod.fst h)
    · exact Or.inr (Or.inl h)
  refine .seq (Q := fun host => ServerReady artifacts.launcher start (serverFiles host))
    (.branch ?_ (.branch ?_ ?_)) (.seq (.command hready fun host next h hnext => ?_)
      ((serverDone_passes (installCompat_leaves_server artifacts.compat)).seq
        (serverDone_passes trivial)))
  · rintro host ⟨h, hreal⟩
    have hmoves : start.2 = none ∨ start.1 ≠ some artifacts.launcher := by
      refine Or.inl ?_
      rw [← h]
      simpa [Host.hasFile, serverFiles] using hreal
    exact moveServer_passes _ hmoves host h
  · rintro host ⟨⟨h, -⟩, hdiffers⟩
    have hmoves : start.2 = none ∨ start.1 ≠ some artifacts.launcher := by
      refine Or.inr ?_
      rw [← h]
      exact of_decide_eq_true hdiffers
    exact moveServer_passes _ hmoves host h
  · have hskip : Script.Passes
        (fun host => ServerMidway artifacts.launcher start (serverFiles host))
        (fun host : Host C => ServerReady artifacts.launcher start (serverFiles host)) .skip
        fun host => ServerReady artifacts.launcher start (serverFiles host) := .skip hready
    refine hskip.mono ?_ fun _ => id
    rintro host ⟨⟨h, hreal⟩, hdiffers⟩
    refine ⟨hserver, ?_⟩
    rw [if_neg]
    · exact h
    · intro hmoves
      rcases hmoves with hnone | hne
      · have hnone' : host.files (.bin .serverReal) = none := (congrArg Prod.snd h).trans hnone
        simp [Host.hasFile, hnone'] at hreal
      · rw [← h] at hne
        exact of_decide_eq_false hdiffers hne
  · have hinstalled : serverFiles next = (some artifacts.launcher, (serverFiles host).2) := by
      obtain ⟨files, hfiles, rfl⟩ := Option.map_eq_some_iff.mp hnext
      obtain rfl := Option.some.inj hfiles
      simp [serverFiles]
    have hfiles : serverFiles next = serverInstalled artifacts.launcher start ∧
        (serverFiles next).2 ≠ none := by
      obtain ⟨hfirst, hcase⟩ := h
      rw [hinstalled]
      unfold serverInstalled
      split_ifs at hcase ⊢ with hmoves
      · rw [hcase]
        exact ⟨rfl, hfirst⟩
      · rw [hcase]
        exact ⟨rfl, fun hnone => hmoves (Or.inl hnone)⟩
    exact ⟨Or.inr (Or.inr hfiles), hfiles⟩

/-- What the two files of the server pass through in `install.sh`. -/
theorem install_passes_server (hserver : start.1 ≠ none) :
    Script.Passes (fun host => ServerMidway artifacts.launcher start (serverFiles host))
      (fun host => serverFiles host = start) (install artifacts)
      fun host => serverFiles host = serverInstalled artifacts.launcher start ∧
        (serverFiles host).2 ≠ none := by
  have htargets : Script.Passes
      (fun host => ServerMidway artifacts.launcher start (serverFiles host))
      (fun host => serverFiles host = start)
      (Script.forEach Dll.all backupTarget : Script (Host C))
      fun host => serverFiles host = start :=
    Script.Leaves.passes (J := fun files => files = start) backupTargets_leave_server
      fun _ h => Or.inr (Or.inl h)
  have hset : ∀ query value contents, Script.Leaves serverFiles
      (setRegistry query value contents : Script (Host C)) := setRegistry_leaves_server
  exact htargets.seq ((installServer_passes hserver).seq (serverDone_passes
    ⟨hset _ _ _, hset _ _ _, hset _ _ _, installDlls_leaves_server artifacts, trivial⟩))

end Server

/-! ## Which runs complete -/

section Completes

open Script

variable {host : Host C}

/-- A copy of a file that is there completes. -/
theorem cp_completes {source target : HostFile} (h : host.files source ≠ none) :
    Completes host (Host.cp source target) := by
  obtain ⟨contents, hcontents⟩ := Option.ne_none_iff_exists'.mp h
  exact .command (congrArg (Option.map _) (congrArg (Option.map _) hcontents))

/-- A move of a file that is there completes. -/
theorem mv_completes {source target : HostFile} (h : host.files source ≠ none) :
    Completes host (Host.mv source target) := by
  obtain ⟨contents, hcontents⟩ := Option.ne_none_iff_exists'.mp h
  exact .command (congrArg (Option.map _) (congrArg (Option.map _) hcontents))

theorem backupTarget_completes (name : Dll) (host : Host C) :
    Completes host (backupTarget name) := by
  refine .branch (fun _ => .skip) fun _ => .branch (fun hfile => ?_) fun _ => .command rfl
  exact .seq (cp_completes (Option.isSome_iff_ne_none.mp hfile))
    fun _ _ => .seq (.command rfl) fun _ _ => .skip

theorem setRegistry_completes (query : RegistryQuery) (value : RegistryValue) (contents : Line)
    (host : Host C) : Completes host (setRegistry query value contents) := by
  refine .seq (.branch (fun _ => .command rfl) fun _ => .skip) fun _ _ => ?_
  exact .seq (.command rfl) fun _ _ => .skip

theorem installDlls_completes (artifacts : Artifacts C) (host : Host C) :
    Completes host (installDlls artifacts) := by
  have hput : ∀ contents file (host : Host C),
      Completes host (Host.installFile contents file) := fun _ _ _ => .command rfl
  have hdxvk : ∀ first second (host : Host C), Completes host (.block [
      Host.installFile first (.bin (.dll .d3d11Dxvk)),
      Host.installFile second (.bin (.dll .dxgi))]) :=
    fun _ _ host => .seq (hput _ _ host) fun host _ => .seq (hput _ _ host) fun _ _ => .skip
  refine .seq (hput _ _ host) fun host _ => .seq (hput _ _ host) fun host _ => ?_
  exact .seq (.branch (fun _ => hdxvk _ _ host) fun _ => hdxvk _ _ host) fun _ _ => .skip

/-- The part about the server completes when there is a server in place. -/
theorem installServer_completes [DecidableEq C] (artifacts : Artifacts C)
    (h : host.files (.bin .server) ≠ none) : Completes host (installServer artifacts) := by
  have hmove : ∀ backup, Completes host (.block [
      Host.cp (.bin .server) (.backup backup), Host.mv (.bin .server) (.bin .serverReal)]) := by
    intro backup
    refine .seq (cp_completes h) fun next hnext => .seq (mv_completes ?_) fun _ _ => .skip
    have hleaves : Leaves (fun host : Host C => host.files (.bin .server))
        (Host.cp (.bin .server) (.backup backup)) := Host.cp_leaves nofun
    rw [hleaves.eq_of_mem_states (exec_mem_states hnext)]
    exact h
  refine .seq (.branch (fun _ => hmove _) fun _ => .branch (fun _ => hmove _) fun _ => .skip)
    fun _ _ => ?_
  exact .seq (.command rfl) fun _ _ => .seq (.command rfl) fun _ _ => .skip

/-- `install.sh` completes exactly when it finds a server in place. -/
theorem install_completes_iff [DecidableEq C] (artifacts : Artifacts C) :
    Completes host (install artifacts) ↔ host.files (.bin .server) ≠ none := by
  have hserver : ∀ next, (Script.forEach Dll.all backupTarget).exec host = .ok next →
      next.files (.bin .server) = host.files (.bin .server) :=
    fun next hnext => congrArg Prod.fst
      (backupTargets_leave_server.eq_of_mem_states (exec_mem_states hnext))
  constructor
  · rintro ⟨last, hlast⟩ hnone
    obtain ⟨next, hnext, hexec⟩ := exec_seq_ok.mp hlast
    obtain ⟨installed, hinstalled, -⟩ := exec_seq_ok.mp hexec
    obtain ⟨moved, hmoved, -⟩ := exec_seq_ok.mp hinstalled
    have hnone : next.files (.bin .server) = none := (hserver next hnext).trans hnone
    -- Both tests lead to a copy of the server.
    have hcopy : ∀ backup, (Script.block [
        Host.cp (.bin .server) (.backup backup), Host.mv (.bin .server) (.bin .serverReal)]).exec
          next ≠ .ok moved := by
      intro backup hexec
      obtain ⟨copied, hcopied, -⟩ := exec_seq_ok.mp hexec
      have hrun := exec_command_ok.mp hcopied
      obtain ⟨files, hfiles, -⟩ := Option.map_eq_some_iff.mp hrun
      obtain ⟨contents, hcontents, -⟩ := Files.cp_eq_some_iff.mp hfiles
      cases hnone.symm.trans hcontents
    rcases exec_branch_ok.mp hmoved with ⟨-, hmoved⟩ | ⟨-, hmoved⟩
    · exact hcopy _ hmoved
    · rcases exec_branch_ok.mp hmoved with ⟨-, hmoved⟩ | ⟨hsame, -⟩
      · exact hcopy _ hmoved
      · have hlauncher := not_not.mp (of_decide_eq_false hsame)
        cases hnone.symm.trans hlauncher
  · intro h
    have htargets : Completes host (Script.forEach Dll.all backupTarget) := by
      refine .block (fun script hscript => ?_) host
      obtain ⟨name, -, rfl⟩ := List.mem_map.mp hscript
      exact backupTarget_completes name
    refine .seq htargets fun next hnext => .seq (installServer_completes artifacts ?_)
      fun next _ => ?_
    · rw [hserver next hnext]
      exact h
    · exact .seq (setRegistry_completes _ _ _ _) fun _ _ => .seq (setRegistry_completes _ _ _ _)
        fun _ _ => .seq (setRegistry_completes _ _ _ _) fun _ _ =>
          .seq (installDlls_completes artifacts _) fun _ _ => .skip

theorem restoreRegistry_completes (value : RegistryValue) (host : Host C) :
    Completes host (restoreRegistry value) :=
  .branch (fun _ => .branch (fun _ => .command rfl)
    fun _ => .branch (fun _ => .command rfl) fun _ => .skip) fun _ => .skip

theorem restoreTarget_completes {name : Dll} (h : (host.dllPart name).Valid) :
    Completes host (restoreTarget name) := by
  refine .branch (fun _ => .branch (fun hpresent => cp_completes ?_)
    fun _ => .branch (fun _ => .command rfl) fun _ => .skip) fun _ => .skip
  have hmarker : (host.dllPart name).marker = some [present] := of_decide_eq_true hpresent
  rcases h with hnone | ⟨-, hbackup⟩ | habsent
  · cases hnone.symm.trans hmarker
  · exact hbackup
  · have hsame := Option.some.inj (habsent.symm.trans hmarker)
    exact absurd (List.cons.inj hsame).1.symm DllPart.present_ne_absent

/-- `uninstall.sh` completes when every marker `present` has its backup. -/
theorem uninstall_completes (h : ∀ name, (host.dllPart name).Valid) :
    Completes host uninstall := by
  have htargets : ∀ names : List Dll, ∀ host : Host C, (∀ name, (host.dllPart name).Valid) →
      Completes host (Script.forEach names restoreTarget) := by
    intro names
    induction names with
    | nil => exact fun _ _ => .skip
    | cons first names ih =>
      intro host h
      refine .seq (restoreTarget_completes (h first)) fun next hnext => ih next fun name => ?_
      by_cases hname : first = name
      · subst hname
        have hpart : next.dllPart first = (host.dllPart first).restored :=
          restoreTarget_acts_dll host next hnext
        rw [hpart]
        exact (DllPart.slot_restored (h first)).2
      · rw [(restoreTarget_leaves_dll hname).eq_of_mem_states (exec_mem_states hnext)]
        exact h name
  have hmv : ∀ source target (host : Host C), Completes host
      (.whenever (Host.hasFile source) (Host.mv source target)) := fun _ _ _ =>
    .branch (fun hfile => mv_completes (Option.isSome_iff_ne_none.mp hfile)) fun _ => .skip
  exact .seq (htargets Dll.all host h) fun _ _ => .seq (hmv _ _ _) fun _ _ =>
    .seq (.command rfl) fun _ _ => .seq (hmv _ _ _) fun _ _ =>
    .seq (restoreRegistry_completes _ _) fun _ _ => .seq (restoreRegistry_completes _ _)
      fun _ _ => .seq (restoreRegistry_completes _ _) fun _ _ => .skip

end Completes

/-! ## The second run -/

section Recovery

variable [DecidableEq C]

/-- The installations before the interrupted one. -/
def installs (earlier : List (Artifacts C)) : Script (Host C) := .block (earlier.map install)

/-- A directory that the bridge has never touched, with the server of the vendor
in its place. -/
structure Pristine (host : Host C) (vendor : C) : Prop where
  states : host.states = fun _ => none
  server : host.files (.bin .server) = some vendor
  real : host.files (.bin .serverReal) = none

/-- A second run with the same artifacts completes, and the `uninstall.sh` after it
completes and leaves the DLLs and the server as they were. -/
def Recovers (original : Host C) (artifacts : Artifacts C) (killed : Host C) : Prop :=
  ∃ installed, (install artifacts).exec killed = .ok installed ∧
    ∃ last, uninstall.exec installed = .ok last ∧
      (∀ name, last.files (.bin (.dll name)) = original.files (.bin (.dll name))) ∧
        last.files (.bin .server) = original.files (.bin .server)

/-- The files of the server after installations with these launchers. -/
def serverAfter (launchers : List C) (files : Option C × Option C) : Option C × Option C :=
  launchers.foldl (fun files launcher => serverInstalled launcher files) files

/-- Completed installations, one after the other. -/
theorem installs_acts_server (earlier : List (Artifacts C)) :
    Script.Acts serverFiles (serverAfter (earlier.map Artifacts.launcher)) (installs earlier) := by
  induction earlier with
  | nil =>
    intro host next hexec
    obtain rfl := Except.ok.inj hexec
    rfl
  | cons artifacts earlier ih =>
    intro host last hexec
    obtain ⟨next, hnext, hlast⟩ := Script.exec_seq_ok.mp hexec
    rw [ih next last hlast, install_acts_server artifacts host next hnext]
    rfl

omit [DecidableEq C] in
/-- A pristine DLL is what it is. -/
theorem Pristine.keeps {host : Host C} {vendor : C} (h : Pristine host vendor) (name : Dll) :
    (host.dllPart name).Keeps (host.files (.bin (.dll name))) :=
  Or.inl ⟨congrFun h.states _, rfl⟩

theorem installs_keep_dll {name : Dll} {original : Option C} (earlier : List (Artifacts C))
    {host start : Host C} (h : (host.dllPart name).Keeps original)
    (hexec : (installs earlier).exec host = .ok start) :
    (start.dllPart name).Keeps original := by
  induction earlier generalizing host with
  | nil =>
    obtain rfl := Except.ok.inj hexec
    exact h
  | cons artifacts earlier ih =>
    obtain ⟨next, hnext, hstart⟩ := Script.exec_seq_ok.mp hexec
    exact ih (Or.inr ((install_passes_dll artifacts host h).2 next hnext)) hstart

/-- Once the real server is a launcher it stays one. -/
theorem serverAfter_real_ne {vendor : C} {launchers : List C} (hvendor : vendor ∉ launchers)
    {exe real : C} (hexe : exe ≠ vendor) (hreal : real ≠ vendor) :
    ∃ exe' real', serverAfter launchers (some exe, some real) = (some exe', some real') ∧
      real' ≠ vendor := by
  induction launchers generalizing exe real with
  | nil => exact ⟨exe, real, rfl, hreal⟩
  | cons launcher launchers ih =>
    obtain ⟨hlauncher, hrest⟩ := not_or.mp (mt List.mem_cons.mpr hvendor)
    have hstep : serverAfter (launcher :: launchers) (some exe, some real) =
        serverAfter launchers (some launcher, some (if exe = launcher then real else exe)) := by
      show serverAfter launchers (serverInstalled launcher (some exe, some real)) = _
      unfold serverInstalled
      by_cases hsame : exe = launcher
      · simp [hsame]
      · simp [hsame]
    rw [hstep]
    refine ih hrest (Ne.symm hlauncher) ?_
    by_cases hsame : exe = launcher
    · rwa [if_pos hsame]
    · rwa [if_neg hsame]

/-- The real server stays the one of the vendor as long as the launcher stays the
same. -/
theorem serverAfter_real_iff {vendor launcher : C} {launchers : List C}
    (hvendor : vendor ∉ launchers) (hlauncher : launcher ≠ vendor) :
    (serverAfter launchers (some launcher, some vendor)).2 = some vendor ↔
      ∀ other ∈ launchers, other = launcher := by
  induction launchers with
  | nil => exact iff_of_true rfl nofun
  | cons first launchers ih =>
    obtain ⟨hfirst, hrest⟩ := not_or.mp (mt List.mem_cons.mpr hvendor)
    rw [List.forall_mem_cons]
    by_cases hsame : first = launcher
    · subst hsame
      have hstep : serverAfter (first :: launchers) (some first, some vendor) =
          serverAfter launchers (some first, some vendor) := by
        show serverAfter launchers (serverInstalled first (some first, some vendor)) = _
        unfold serverInstalled
        simp
      rw [hstep, ih hrest]
      exact (and_iff_right rfl).symm
    · have hstep : serverAfter (first :: launchers) (some launcher, some vendor) =
          serverAfter launchers (some first, some launcher) := by
        show serverAfter launchers (serverInstalled first (some launcher, some vendor)) = _
        unfold serverInstalled
        simp [Ne.symm hsame]
      obtain ⟨exe, real, hfiles, hreal⟩ :=
        serverAfter_real_ne hrest (Ne.symm hfirst) hlauncher
      rw [hstep, hfiles]
      exact iff_of_false (fun heq => hreal (Option.some.inj heq)) fun hall => hsame hall.1

/-- From the server of the vendor alone. -/
theorem serverAfter_vendor_iff {vendor launcher : C} {launchers : List C}
    (hvendor : vendor ∉ launcher :: launchers) :
    (serverAfter (launchers ++ [launcher]) (some vendor, none)).2 = some vendor ↔
      ∀ other ∈ launchers, other = launcher := by
  obtain ⟨hlauncher, hrest⟩ := not_or.mp (mt List.mem_cons.mpr hvendor)
  cases launchers with
  | nil => exact iff_of_true rfl nofun
  | cons first launchers =>
    obtain ⟨hfirst, hrest⟩ := not_or.mp (mt List.mem_cons.mpr hrest)
    have hmem : vendor ∉ launchers ++ [launcher] := by
      intro hmem
      rcases List.mem_append.mp hmem with hin | hlast
      · exact hrest hin
      · exact hlauncher (List.mem_singleton.mp hlast)
    show (serverAfter (launchers ++ [launcher]) (some first, some vendor)).2 = some vendor ↔ _
    rw [serverAfter_real_iff hmem (Ne.symm hfirst)]
    constructor
    · intro hall other hother
      have hsame : launcher = first :=
        hall launcher (List.mem_append_right _ (List.mem_singleton_self _))
      rcases List.mem_cons.mp hother with rfl | hin
      · exact hsame.symm
      · exact (hall other (List.mem_append_left _ hin)).trans hsame.symm
    · intro hall other hother
      have hsame : first = launcher := hall first List.mem_cons_self
      rcases List.mem_append.mp hother with hin | hlast
      · exact (hall other (List.mem_cons_of_mem _ hin)).trans hsame.symm
      · exact (List.mem_singleton.mp hlast).trans hsame.symm

/-- There is a server in place after every installation. -/
theorem serverAfter_fst_ne_none (launchers : List C) {files : Option C × Option C}
    (h : files.1 ≠ none) : (serverAfter launchers files).1 ≠ none := by
  induction launchers generalizing files with
  | nil => exact h
  | cons launcher launchers ih => exact ih nofun

/-- What a second run and an uninstall make of the server. -/
theorem server_recovered {killed installed last : Host C} {artifacts : Artifacts C}
    {start : Option C × Option C}
    (hmidway : ServerMidway artifacts.launcher start (serverFiles killed))
    (hinstalled : (install artifacts).exec killed = .ok installed)
    (hlast : uninstall.exec installed = .ok last) :
    last.files (.bin .server) =
      (serverInstalled artifacts.launcher start).2.or (some artifacts.launcher) := by
  have hserver : (serverFiles killed).1 ≠ none :=
    (install_completes_iff artifacts).mp ⟨installed, hinstalled⟩
  have hfiles : serverFiles installed = serverInstalled artifacts.launcher start :=
    (install_acts_server artifacts killed installed hinstalled).trans
      (serverInstalled_midway hmidway hserver)
  have hrestored := uninstall_acts_server installed last hlast
  rw [hfiles] at hrestored
  exact congrArg Prod.fst hrestored

/-- From a state between the commands of an interrupted `install.sh`, over any
installations before it on a pristine directory, a second run and an uninstall
bring everything back exactly when all of them had the launcher of this run and
there is a server in place. -/
theorem interrupted_recovers_iff {original start killed : Host C} {vendor : C}
    {earlier : List (Artifacts C)} {artifacts : Artifacts C} (hpristine : Pristine original vendor)
    (hvendor : ∀ other ∈ artifacts :: earlier, vendor ≠ other.launcher)
    (hstart : (installs earlier).exec original = .ok start)
    (hkilled : killed ∈ (install artifacts).states start) :
    Recovers original artifacts killed ↔
      (∀ other ∈ earlier, other.launcher = artifacts.launcher) ∧
        killed.files (.bin .server) ≠ none := by
  have hlaunchers : vendor ∉ artifacts.launcher :: earlier.map Artifacts.launcher := by
    intro hmem
    rw [← List.map_cons] at hmem
    obtain ⟨other, hother, heq⟩ := List.mem_map.mp hmem
    exact hvendor other hother heq.symm
  have hfiles : serverFiles original = (some vendor, none) :=
    Prod.ext hpristine.server hpristine.real
  have hbefore : serverFiles start =
      serverAfter (earlier.map Artifacts.launcher) (some vendor, none) := by
    rw [installs_acts_server earlier original start hstart, hfiles]
  have hserver : (serverFiles start).1 ≠ none := by
    rw [hbefore]
    exact serverAfter_fst_ne_none _ nofun
  have hmidway : ServerMidway artifacts.launcher (serverFiles start) (serverFiles killed) :=
    (install_passes_server hserver start rfl).1 killed hkilled
  have hreal : (serverInstalled artifacts.launcher (serverFiles start)).2 = some vendor ↔
      ∀ other ∈ earlier, other.launcher = artifacts.launcher := by
    have hfold := serverAfter_vendor_iff hlaunchers
    unfold serverAfter at hfold hbefore
    rw [List.foldl_append, ← hbefore, List.forall_mem_map] at hfold
    exact hfold
  constructor
  · rintro ⟨installed, hinstalled, last, hlast, -, hrecovered⟩
    refine ⟨hreal.mp ?_, (install_completes_iff artifacts).mp ⟨installed, hinstalled⟩⟩
    rw [server_recovered hmidway hinstalled hlast, hpristine.server] at hrecovered
    cases hsecond : (serverInstalled artifacts.launcher (serverFiles start)).2 with
    | none =>
      rw [hsecond] at hrecovered
      exact absurd (Option.some.inj hrecovered).symm (hvendor artifacts List.mem_cons_self)
    | some real =>
      rw [hsecond] at hrecovered
      exact hrecovered
  · rintro ⟨hsame, hplace⟩
    obtain ⟨installed, hinstalled⟩ := (install_completes_iff artifacts).mpr hplace
    have hrecorded : ∀ name,
        (installed.dllPart name).Recorded (original.files (.bin (.dll name))) := by
      intro name
      have hkeeps := installs_keep_dll earlier (hpristine.keeps name) hstart
      have hkilledKeeps := (install_passes_dll artifacts start hkeeps).1 killed hkilled
      exact (install_passes_dll artifacts killed hkilledKeeps).2 installed hinstalled
    obtain ⟨last, hlast⟩ := uninstall_completes fun name => (hrecorded name).1
    refine ⟨installed, hinstalled, last, hlast, fun name => bin_of_recorded (hrecorded name) hlast,
      ?_⟩
    rw [server_recovered hmidway hinstalled hlast, hreal.mpr hsame, hpristine.server]
    rfl

end Recovery

/-! ## Two points of the first installation -/

/-- The host when the first installation is killed at its state number `n`. -/
def killedAt (n : Nat) : Host Binary :=
  ((install (buildArtifacts 1)).states vendorHost).getD n vendorHost

theorem killedAt_mem {n : Nat} (h : n < ((install (buildArtifacts 1)).states vendorHost).length) :
    killedAt n ∈ (install (buildArtifacts 1)).states vendorHost := by
  unfold killedAt
  rw [List.getD_eq_getElem?_getD, List.getElem?_eq_getElem h]
  exact List.getElem_mem h

theorem vendorHost_pristine : Pristine vendorHost (.vendor 1) := ⟨rfl, rfl, rfl⟩

/-- Killed when the launcher is in its place. -/
theorem killed_after_launcher_recovers : Recovers vendorHost (buildArtifacts 1) (killedAt 15) := by
  have hvendor : ∀ other ∈ [buildArtifacts 1], Binary.vendor 1 ≠ other.launcher := by
    intro other hother
    obtain rfl := List.mem_singleton.mp hother
    exact nofun
  have hstart : (installs []).exec vendorHost = .ok vendorHost := rfl
  have hserver : (killedAt 15).files (.bin .server) ≠ none := by decide
  have hkilled : killedAt 15 ∈ (install (buildArtifacts 1)).states vendorHost :=
    killedAt_mem (by decide)
  have hearlier : ∀ other ∈ ([] : List (Artifacts Binary)),
      other.launcher = (buildArtifacts 1).launcher := List.forall_mem_nil _
  exact (interrupted_recovers_iff vendorHost_pristine hvendor hstart hkilled).mpr
    ⟨hearlier, hserver⟩

/-- Killed when the server is moved away and the launcher is not in its place. -/
theorem killed_before_launcher_stuck :
    ¬∀ killed ∈ (install (buildArtifacts 1)).states vendorHost,
      Recovers vendorHost (buildArtifacts 1) killed := by
  intro hall
  obtain ⟨installed, hinstalled, -⟩ := hall (killedAt 12) (killedAt_mem (by decide))
  have hnone : (killedAt 12).files (.bin .server) = none := by decide
  exact (install_completes_iff (buildArtifacts 1)).mp ⟨installed, hinstalled⟩ hnone

end UuAmfBridge
