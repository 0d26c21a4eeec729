import UuAmfBridge.Install.Host
import UuAmfBridge.Lib.Machine

/-!
# The server binary of the vendor

`install.sh` moves `GameViewerServer.exe` of the vendor to
`GameViewerServer.real.exe` and puts its launcher in the place.  A later run
takes the server for a new binary of the vendor whenever it differs from the
launcher of this run, and `uninstall.sh` moves the real server back without a
look at the one in place.

`vendor_binary_kept_iff` says when that is right, over any history: no run of
`install.sh` meets a launcher other than its own, and no run of `uninstall.sh`
meets a newer binary of the vendor beside the real server.

* `install_acts_server`, `uninstall_acts_server`: what a completed run does to
  the two files.
* `keepsVendor_step`: one run keeps the binary of the vendor exactly under that
  condition.
-/

namespace UuAmfBridge

variable {C : Type*}

/-- The server in place and the real server. -/
def serverFiles (host : Host C) : Option C × Option C :=
  (host.files (.bin .server), host.files (.bin .serverReal))

/-- A script that leaves both files alone. -/
theorem leaves_serverFiles {script : Script (Host C)}
    (h : ∀ name : HostFile, name = .bin .server ∨ name = .bin .serverReal →
      Script.Leaves (fun host : Host C => host.files name) script) :
    Script.Leaves serverFiles script := (h _ (Or.inl rfl)).prod (h _ (Or.inr rfl))

/-! ## What a completed run does -/

/-- The two files after `install.sh`. -/
def serverInstalled [DecidableEq C] (launcher : C) (files : Option C × Option C) :
    Option C × Option C :=
  (some launcher, if files.2 = none ∨ files.1 ≠ some launcher then files.1 else files.2)

/-- The two files after `uninstall.sh`. -/
def serverUninstalled (files : Option C × Option C) : Option C × Option C :=
  (files.2.or files.1, none)

/-- Moving the server away makes it the real one. -/
theorem mv_acts_server :
    Script.Acts serverFiles (fun files : Option C × Option C => (none, files.1))
      (Host.mv (.bin .server) (.bin .serverReal)) := by
  refine Host.acts_onFiles fun host files hfiles => ?_
  obtain ⟨contents, hcontents, rfl⟩ := Files.mv_eq_some_iff.mp hfiles
  simp [serverFiles, hcontents]

theorem uninstall_acts_server :
    Script.Acts serverFiles serverUninstalled (uninstall : Script (Host C)) := by
  have htargets : Script.Leaves serverFiles
      (Script.forEach Dll.all restoreTarget : Script (Host C)) := by
    refine .forEach fun dll _ => leaves_serverFiles fun name hname => ?_
    refine restoreTarget_leaves_file ?_
    rcases hname with rfl | rfl
    · exact nofun
    · exact nofun
  have hregistry : ∀ value, Script.Leaves serverFiles
      (restoreRegistry value : Script (Host C)) :=
    fun value => leaves_serverFiles fun name _ => restoreRegistry_leaves_file value
  have hcompat : Script.Leaves serverFiles (Host.rm (.bin .serverCompat) : Script (Host C)) := by
    refine leaves_serverFiles fun name hname => Host.rm_leaves ?_
    rcases hname with rfl | rfl
    · exact nofun
    · exact nofun
  have hdevcon : Script.Leaves serverFiles (Script.whenever
      (Host.hasFile (.bin .devconDisabled)) (Host.mv (.bin .devconDisabled) (.bin .devcon)) :
        Script (Host C)) := by
    refine leaves_serverFiles fun name hname => ⟨Host.mv_leaves ?_ ?_, trivial⟩
    all_goals
      rcases hname with rfl | rfl
      · exact nofun
      · exact nofun
  have hrestore : Script.Acts serverFiles serverUninstalled (Script.whenever
      (Host.hasFile (.bin .serverReal)) (Host.mv (.bin .serverReal) (.bin .server)) :
        Script (Host C)) := by
    refine .branch (fun host next htest hexec => ?_) (fun host next htest hexec => ?_)
    · have hmoved : Script.Acts serverFiles (fun files : Option C × Option C => (files.2, none))
          (Host.mv (.bin .serverReal) (.bin .server)) := by
        refine Host.acts_onFiles fun host files hfiles => ?_
        obtain ⟨contents, hcontents, rfl⟩ := Files.mv_eq_some_iff.mp hfiles
        simp [serverFiles, hcontents]
      obtain ⟨contents, hcontents⟩ := Option.isSome_iff_exists.mp htest
      rw [hmoved host next hexec]
      unfold serverUninstalled serverFiles
      simp only [hcontents, Option.some_or]
    · obtain rfl := Except.ok.inj hexec
      have hnone : host.files (.bin .serverReal) = none := by
        simpa [Host.hasFile] using htest
      unfold serverUninstalled serverFiles
      simp only [hnone, Option.none_or]
  exact .after htargets (.before hrestore
    ⟨hcompat, hdevcon, hregistry _, hregistry _, hregistry _, trivial⟩)

section Install

variable [DecidableEq C]

omit [DecidableEq C] in
/-- The compatibility library is not one of the two files of the server. -/
theorem installCompat_leaves_server (contents : C) :
    Script.Leaves serverFiles (Host.installFile contents (.bin .serverCompat)) := by
  refine leaves_serverFiles fun name hname => Host.installFile_leaves ?_ _
  rcases hname with rfl | rfl
  · decide
  · decide

/-- What the part of `install.sh` about the server does. -/
theorem installServer_acts_server (artifacts : Artifacts C) :
    Script.Acts serverFiles (serverInstalled artifacts.launcher) (installServer artifacts) := by
  have hcp : ∀ backup, Script.Leaves serverFiles
      (Host.cp (.bin .server) (.backup backup) : Script (Host C)) := by
    intro backup
    refine leaves_serverFiles fun name hname => Host.cp_leaves ?_
    rcases hname with rfl | rfl
    · exact nofun
    · exact nofun
  have hmove : ∀ backup, Script.Acts serverFiles
      (fun files : Option C × Option C => (none, files.1))
      (.block [Host.cp (.bin .server) (.backup backup),
        Host.mv (.bin .server) (.bin .serverReal)]) :=
    fun backup => .after (hcp backup) (.before mv_acts_server trivial)
  -- The first command makes the server in place the real one, or keeps both.
  have hfirst : Script.Acts serverFiles (fun files : Option C × Option C =>
      if files.2 = none ∨ files.1 ≠ some artifacts.launcher then (none, files.1) else files)
      (.branch (fun host => !Host.hasFile (.bin .serverReal) host)
        (.block [Host.cp (.bin .server) (.backup .server),
          Host.mv (.bin .server) (.bin .serverReal)])
        (.whenever (fun host => host.files (.bin .server) ≠ some artifacts.launcher)
          (.block [Host.cp (.bin .server) (.backup .serverUpgrade),
            Host.mv (.bin .server) (.bin .serverReal)]))) := by
    refine .branch (fun host next htest hexec => ?_) (fun host next htest hexec => ?_)
    · have hnone : (serverFiles host).2 = none := by
        simpa [Host.hasFile, serverFiles] using htest
      rw [hmove _ _ _ hexec, if_pos (Or.inl hnone)]
    · have hsome : (serverFiles host).2 ≠ none := by
        simpa [Host.hasFile, serverFiles, Option.isSome_iff_ne_none] using htest
      rw [Script.whenever, Script.exec] at hexec
      split_ifs at hexec with hdiffers
      · rw [hmove _ _ _ hexec, if_pos (Or.inr (by simpa [serverFiles] using hdiffers))]
      · obtain rfl := Except.ok.inj hexec
        rw [if_neg]
        intro hcase
        rcases hcase with hnone | hne
        · exact hsome hnone
        · exact hdiffers (by simpa [serverFiles] using hne)
  have hlauncher : Script.Acts serverFiles (fun files : Option C × Option C =>
      (some artifacts.launcher, files.2))
      (Host.installFile artifacts.launcher (.bin .server)) := by
    refine Host.acts_onFiles fun host files hfiles => ?_
    obtain rfl := Option.some.inj hfiles
    simp [serverFiles]
  have hrest : Script.Leaves serverFiles
      (.block [Host.installFile artifacts.compat (.bin .serverCompat)]) :=
    ⟨installCompat_leaves_server artifacts.compat, trivial⟩
  have hall := hfirst.seq (hlauncher.before hrest)
  intro host next hexec
  rw [hall host next hexec]
  unfold serverInstalled
  simp only [Function.comp_apply]
  split_ifs <;> rfl

omit [DecidableEq C] in
theorem backupTargets_leave_server :
    Script.Leaves serverFiles (Script.forEach Dll.all backupTarget : Script (Host C)) := by
  refine .forEach fun dll _ => leaves_serverFiles fun name hname => ?_
  refine backupTarget_leaves_file ?_
  rcases hname with rfl | rfl
  · exact nofun
  · exact nofun

omit [DecidableEq C] in
theorem setRegistry_leaves_server (query : RegistryQuery) (value : RegistryValue)
    (contents : Line) :
    Script.Leaves serverFiles (setRegistry query value contents : Script (Host C)) :=
  leaves_serverFiles fun _ _ => setRegistry_leaves_file query value contents

omit [DecidableEq C] in
theorem installDlls_leaves_server (artifacts : Artifacts C) :
    Script.Leaves serverFiles (installDlls artifacts) := by
  refine leaves_serverFiles fun name hname => installDlls_leaves_file fun dll => ?_
  rcases hname with rfl | rfl
  · exact nofun
  · exact nofun

theorem install_acts_server (artifacts : Artifacts C) :
    Script.Acts serverFiles (serverInstalled artifacts.launcher) (install artifacts) :=
  .after backupTargets_leave_server (.before (installServer_acts_server artifacts)
    ⟨setRegistry_leaves_server .., setRegistry_leaves_server .., setRegistry_leaves_server ..,
      installDlls_leaves_server artifacts, trivial⟩)

end Install

/-! ## Histories -/

section History

variable [DecidableEq C] (isLauncher : C → Prop)

/-- What happens to the server: a run of a script, or an upgrade by the vendor. -/
inductive ServerOp where
  | install (artifacts : Artifacts C) (hlauncher : isLauncher artifacts.launcher)
  | uninstall
  | vendorUpgrade (binary : C) (hvendor : ¬isLauncher binary)

/-- The host, and the most recent binary of the vendor. -/
structure ServerHistory (C : Type*) where
  host : Host C
  latest : C

/-- The vendor overwrites the server in place; the scripts run. -/
def serverHistory : Machine (ServerHistory C) (ServerOp isLauncher) Unit where
  step history op :=
    match op with
    | .install artifacts _ =>
        ({ history with host := history.host.completed (UuAmfBridge.install artifacts) }, ())
    | .uninstall => ({ history with host := history.host.completed UuAmfBridge.uninstall }, ())
    | .vendorUpgrade binary _ =>
        ({ host := { history.host with files := history.host.files.put (.bin .server) binary }
           latest := binary }, ())

/-- After a completed install the real server is the most recent binary of the
vendor and no launcher; after a completed uninstall the server in place is that
binary. -/
def KeepsVendor (history : ServerHistory C) : ServerOp isLauncher → Prop
  | .install artifacts _ => ∀ next, (UuAmfBridge.install artifacts).exec history.host = .ok next →
      next.files (.bin .serverReal) = some history.latest ∧
        ∀ binary, next.files (.bin .serverReal) = some binary → ¬isLauncher binary
  | .uninstall => ∀ next, UuAmfBridge.uninstall.exec history.host = .ok next →
      next.files (.bin .server) = some history.latest
  | .vendorUpgrade _ _ => True

/-- While there is a real server, `install.sh` meets no launcher but its own, and
`uninstall.sh` meets a launcher or the real server itself. -/
def MeetsOwn (history : ServerHistory C) : ServerOp isLauncher → Prop
  | .install artifacts _ => ∀ next, (UuAmfBridge.install artifacts).exec history.host = .ok next →
      ∀ exe, history.host.files (.bin .server) = some exe →
        history.host.files (.bin .serverReal) ≠ none → isLauncher exe → exe = artifacts.launcher
  | .uninstall => ∀ next, UuAmfBridge.uninstall.exec history.host = .ok next →
      ∀ exe, history.host.files (.bin .server) = some exe →
        ∀ real, history.host.files (.bin .serverReal) = some real → isLauncher exe ∨ real = exe
  | .vendorUpgrade _ _ => True

/-- What a history in which the binary is kept keeps: the server in place is the
most recent binary, or a launcher beside it. -/
structure VendorInvariant (history : ServerHistory C) : Prop where
  vendor : ¬isLauncher history.latest
  server : ∃ exe, history.host.files (.bin .server) = some exe ∧
    (exe = history.latest ∨
      isLauncher exe ∧ history.host.files (.bin .serverReal) = some history.latest)

variable {isLauncher}

omit [DecidableEq C] in
/-- Without a real server the one in place is the most recent binary. -/
theorem VendorInvariant.server_eq {history : ServerHistory C}
    (h : VendorInvariant isLauncher history)
    (hreal : history.host.files (.bin .serverReal) = none) :
    history.host.files (.bin .server) = some history.latest := by
  obtain ⟨exe, hexe, rfl | ⟨-, hlatest⟩⟩ := h.server
  · exact hexe
  · rw [hreal] at hlatest
    cases hlatest

/-- A completed install keeps the binary of the vendor exactly when it does not
meet a launcher of another build. -/
theorem keepsVendor_install {history : ServerHistory C} (h : VendorInvariant isLauncher history)
    {artifacts : Artifacts C} (hlauncher : isLauncher artifacts.launcher) :
    KeepsVendor isLauncher history (.install artifacts hlauncher) ↔
      MeetsOwn isLauncher history (.install artifacts hlauncher) := by
  refine forall_congr' fun next => forall_congr' fun hexec => ?_
  have hfiles : serverFiles next = serverInstalled artifacts.launcher (serverFiles history.host) :=
    install_acts_server artifacts history.host next hexec
  have hreal : next.files (.bin .serverReal) =
      if history.host.files (.bin .serverReal) = none ∨
          history.host.files (.bin .server) ≠ some artifacts.launcher then
        history.host.files (.bin .server)
      else history.host.files (.bin .serverReal) := congrArg Prod.snd hfiles
  have hvendor := h.vendor
  obtain ⟨exe, hexe, hcase⟩ := h.server
  -- The binary of the vendor is no launcher, so the first half says it all.
  have hhalf : next.files (.bin .serverReal) = some history.latest →
      ∀ binary, next.files (.bin .serverReal) = some binary → ¬isLauncher binary := by
    intro hlatest binary hbinary
    rw [hlatest] at hbinary
    exact Option.some.inj hbinary ▸ hvendor
  refine (and_iff_left_of_imp hhalf).trans ?_
  rw [hreal, hexe]
  rcases hcase with hexeLatest | ⟨hisLauncher, hlatest⟩
  · subst hexeLatest
    have hdiffers : some history.latest ≠ some artifacts.launcher := by
      intro heq
      exact hvendor (Option.some.inj heq ▸ hlauncher)
    rw [if_pos (Or.inr hdiffers)]
    refine iff_of_true rfl fun other hother _ hisLauncher => ?_
    exact absurd hisLauncher (Option.some.inj hother ▸ hvendor)
  · rw [hlatest]
    by_cases hown : exe = artifacts.launcher
    · rw [if_neg (by simp [hown])]
      refine iff_of_true rfl fun other hother _ _ => ?_
      rw [← Option.some.inj hother, hown]
    · rw [if_pos (Or.inr (by simpa using hown))]
      refine iff_of_false (fun heq => ?_) fun hmeets => ?_
      · exact hvendor (Option.some.inj heq ▸ hisLauncher)
      · exact hown (hmeets exe rfl nofun hisLauncher)

/-- A completed uninstall keeps the binary of the vendor exactly when it meets a
launcher, or the real server in its place. -/
theorem keepsVendor_uninstall {history : ServerHistory C}
    (h : VendorInvariant isLauncher history) :
    KeepsVendor isLauncher history .uninstall ↔ MeetsOwn isLauncher history .uninstall := by
  refine forall_congr' fun next => forall_congr' fun hexec => ?_
  have hfiles : serverFiles next = serverUninstalled (serverFiles history.host) :=
    uninstall_acts_server history.host next hexec
  have hserver : next.files (.bin .server) =
      (history.host.files (.bin .serverReal)).or (history.host.files (.bin .server)) :=
    congrArg Prod.fst hfiles
  have hvendor := h.vendor
  obtain ⟨exe, hexe, hcase⟩ := h.server
  rw [hserver, hexe]
  cases hreal : history.host.files (.bin .serverReal) with
  | none =>
    have hlatest := h.server_eq hreal
    rw [hexe] at hlatest
    refine iff_of_true hlatest fun _ _ real hnone => ?_
    cases hnone
  | some real =>
    rcases hcase with rfl | ⟨hisLauncher, hlatest⟩
    · constructor
      · intro heq other hother real' hreal'
        rw [← Option.some.inj hother, ← Option.some.inj hreal']
        exact Or.inr (Option.some.inj heq)
      · intro hmeets
        rcases hmeets _ rfl real rfl with hisLauncher | heq
        · exact absurd hisLauncher hvendor
        · exact congrArg some heq
    · rw [hreal] at hlatest
      refine iff_of_true hlatest fun other hother _ _ => Or.inl ?_
      exact Option.some.inj hother ▸ hisLauncher

/-- One run keeps the binary of the vendor exactly when it meets its own files. -/
theorem keepsVendor_step {history : ServerHistory C} (h : VendorInvariant isLauncher history)
    (op : ServerOp isLauncher) :
    KeepsVendor isLauncher history op ↔ MeetsOwn isLauncher history op := by
  cases op with
  | install artifacts hlauncher => exact keepsVendor_install h hlauncher
  | uninstall => exact keepsVendor_uninstall h
  | vendorUpgrade => exact Iff.rfl

/-- A run that keeps the binary of the vendor keeps the invariant. -/
theorem vendorInvariant_step {history : ServerHistory C} (h : VendorInvariant isLauncher history)
    {op : ServerOp isLauncher} (hkeeps : KeepsVendor isLauncher history op) :
    VendorInvariant isLauncher ((serverHistory isLauncher).step history op).1 := by
  cases op with
  | install artifacts hlauncher =>
    show VendorInvariant isLauncher { history with
      host := history.host.completed (UuAmfBridge.install artifacts) }
    unfold Host.completed
    cases hexec : (UuAmfBridge.install artifacts).exec history.host with
    | error _ => exact h
    | ok next =>
      have hfiles : serverFiles next =
          serverInstalled artifacts.launcher (serverFiles history.host) :=
        install_acts_server artifacts history.host next hexec
      exact ⟨h.vendor, artifacts.launcher, congrArg Prod.fst hfiles,
        Or.inr ⟨hlauncher, (hkeeps next hexec).1⟩⟩
  | uninstall =>
    show VendorInvariant isLauncher { history with
      host := history.host.completed UuAmfBridge.uninstall }
    unfold Host.completed
    cases hexec : UuAmfBridge.uninstall.exec history.host with
    | error _ => exact h
    | ok next => exact ⟨h.vendor, history.latest, hkeeps next hexec, Or.inl rfl⟩
  | vendorUpgrade binary hvendor =>
    have hput : (history.host.files.put (.bin .server) binary) (.bin .server) = some binary :=
      Files.put_same _ _ _
    exact ⟨hvendor, binary, hput, Or.inl rfl⟩

/-- Over every history that starts with the server of the vendor in its place,
every completed run keeps the binary of the vendor exactly when no completed
install meets a launcher of another build, and no completed uninstall meets a
newer binary of the vendor. -/
theorem vendor_binary_kept_iff {host : Host C} {binary : C} (hvendor : ¬isLauncher binary)
    (hserver : host.files (.bin .server) = some binary) (ops : List (ServerOp isLauncher)) :
    (serverHistory isLauncher).Along (fun _ => KeepsVendor isLauncher) [] ⟨host, binary⟩ ops ↔
      (serverHistory isLauncher).Along (fun _ => MeetsOwn isLauncher) [] ⟨host, binary⟩ ops :=
  Machine.along_iff (fun _ => VendorInvariant isLauncher)
    (fun _ _ _ h hkeeps => vendorInvariant_step h hkeeps)
    (fun _ _ op h => keepsVendor_step h op) ⟨hvendor, binary, hserver, Or.inl rfl⟩

end History

/-! ## An upgrade of the bridge -/

/-- Binaries of the vendor, launchers of the bridge, and other files. -/
inductive Binary where
  | vendor (version : Nat)
  | launcher (build : Nat)
  | other
  deriving Repr, DecidableEq

/-- A launcher of the bridge. -/
def Binary.IsLauncher (binary : Binary) : Prop := ∃ build, binary = .launcher build

/-- The registry as Wine prints it, in a locale of Unicode. -/
def wineQuery : RegistryQuery where
  isSpace c :=
    let n := c.toNat
    (9 ≤ n && n ≤ 13) || n == 0x20 || n == 0x1680 || (0x2000 ≤ n && n ≤ 0x2006) ||
      (0x2008 ≤ n && n ≤ 0x200a) || n == 0x2028 || n == 0x2029 || n == 0x205f || n == 0x3000
  output value text :=
    let key : Line :=
      match value with
      | .graphics => "HKEY_CURRENT_USER\\Software\\Wine\\Drivers\r".toList
      | .mouseWarp => "HKEY_CURRENT_USER\\Software\\Wine\\DirectInput\r".toList
      | .webviewPolicy => ("HKEY_LOCAL_MACHINE\\Software\\Policies\\Microsoft\\Edge\\" ++
          "WebView2\\AdditionalBrowserArguments\r").toList
    [['\r'], key, List.replicate 4 ' ' ++ value.valueName ++ List.replicate 4 ' ' ++
      "REG_SZ".toList ++ List.replicate 4 ' ' ++ text ++ ['\r'], ['\r']]

/-- The artifacts of a build of the bridge. -/
def buildArtifacts (build : Nat) : Artifacts Binary where
  amfrt64 := .other
  d3d11 := .other
  download := (.other, .other)
  launcher := .launcher build
  compat := .other
  query := wineQuery

/-- UU as the vendor has installed it. -/
def vendorHost : Host Binary where
  files := Files.put (fun _ => none) (.bin .server) (.vendor 1)
  states := fun _ => none
  registry := fun _ => none

/-- Two builds of the bridge, one after the other. -/
def bridgeUpgrade : List (ServerOp Binary.IsLauncher) :=
  [.install (buildArtifacts 1) ⟨1, rfl⟩, .install (buildArtifacts 2) ⟨2, rfl⟩]

/-- An install, an upgrade by the vendor, the same install again, an uninstall. -/
def vendorUpgraded : List (ServerOp Binary.IsLauncher) :=
  [.install (buildArtifacts 1) ⟨1, rfl⟩, .vendorUpgrade (.vendor 2) (fun ⟨_, h⟩ => nomatch h),
    .install (buildArtifacts 1) ⟨1, rfl⟩, .uninstall]

theorem vendor_upgrade_kept_iff :
    (serverHistory Binary.IsLauncher).Along (fun _ => KeepsVendor Binary.IsLauncher) []
        ⟨vendorHost, .vendor 1⟩ vendorUpgraded ↔
      (serverHistory Binary.IsLauncher).Along (fun _ => MeetsOwn Binary.IsLauncher) []
        ⟨vendorHost, .vendor 1⟩ vendorUpgraded :=
  vendor_binary_kept_iff (fun ⟨_, h⟩ => nomatch h) rfl vendorUpgraded

/-- The second install moves the launcher of the first build over the server of
the vendor. -/
theorem bridge_upgrade_loses_vendor_binary :
    ¬(serverHistory Binary.IsLauncher).Along (fun _ => KeepsVendor Binary.IsLauncher) []
      ⟨vendorHost, .vendor 1⟩ bridgeUpgrade := by
  obtain ⟨first, hfirst⟩ : ∃ next,
    (UuAmfBridge.install (buildArtifacts 1)).exec vendorHost = .ok next := ⟨_, rfl⟩
  have hnext : vendorHost.completed (UuAmfBridge.install (buildArtifacts 1)) = first := by
    unfold Host.completed
    rw [hfirst]
  have hfiles : serverFiles first = (some (.launcher 1), some (.vendor 1)) :=
    install_acts_server (buildArtifacts 1) vendorHost first hfirst
  obtain ⟨second, hsecond⟩ : ∃ next,
      (UuAmfBridge.install (buildArtifacts 2)).exec first = .ok next := by
    rw [← hnext]
    exact ⟨_, rfl⟩
  have hreal : serverFiles second = (some (.launcher 2), some (.launcher 1)) := by
    rw [install_acts_server (buildArtifacts 2) first second hsecond, hfiles]
    rfl
  refine Machine.not_along_cons_cons _ fun hkeeps => ?_
  have hlost := (hkeeps second (by rw [← hsecond, ← hnext]; rfl)).2
  exact hlost (.launcher 1) (congrArg Prod.snd hreal) ⟨1, rfl⟩

end UuAmfBridge
