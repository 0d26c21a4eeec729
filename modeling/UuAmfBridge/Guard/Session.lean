import Mathlib.Data.List.Basic
import UuAmfBridge.Guard.Upgrade

/-!
# The session guard

The loop of `scripts/uu-session-guard.sh`.  Each iteration looks through `/proc` for the
processes of the Wine prefix, stops upgraders that hang, stops the prefix when only a
WebView is left of the client, and starts the background programs of a client that runs.

The script runs beside everything else on the machine.  A `GuardHost` gives the state of the
machine at each moment, and each thing the script looks at is one moment: the machine may be
another one when the script acts on what it has seen.  What it does is written down with the
moment, and with the moment at which the iteration began.

The script runs under `set -euo pipefail`.  A `ps` that finds no process ends the guard, and
so does a directory that `cd` does not find; `kill` and `wineserver` may fail.
-/

namespace UuAmfBridge

/-! ## The machine -/

/-- A process, as `/proc` shows it to the guard. -/
structure ProcessInfo where
  /-- The entries of `environ`, each of which ends in a null character. -/
  environ : Option (List Text) := none
  cmdline : Option Text := none
  /-- The lines of `maps`. -/
  maps : Option (List Text) := none

inductive DriverFile where
  | devcon
  /-- `devcon.exe.uu-disabled`. -/
  | disabled
  deriving Repr, DecidableEq

/-- The machine at one moment. -/
structure World where
  /-- What `/proc/[0-9]*` expands to. -/
  pids : List Nat := []
  process : Nat → Option ProcessInfo := fun _ => none
  readlink : Text → Option Text := fun _ => none
  /-- What `ps -o etimes=` finds: no process, or a text that may be a number. -/
  elapsed : Nat → Option (Option Nat) := fun _ => none
  /-- `$bin_dir` is a directory. -/
  binDirExists : Bool := true
  drivers : Files DriverFile Text := fun _ => none
  upgrade : GuardFiles := fun _ => none

/-- The settings of the guard, and the machine as time goes on. -/
structure GuardHost where
  winePrefix : Text
  upgradeTimeout : Nat := 120
  /-- `UU_REMOTE_ROLE` is `host`. -/
  isHost : Bool := false
  /-- `UU_REMOTE_BACKEND` is `wayland`. -/
  isWayland : Bool := false
  upgradeEnv : GuardEnv
  worlds : Nat → World

/-- `$bin_dir`. -/
def binDir (winePrefix : Text) : Text :=
  winePrefix ++ "/drive_c/Program Files/Netease/GameViewer/bin".toList

/-! ## Processes -/

/-- A text that holds another one. -/
def holdsText (pattern text : Text) : Bool := text.tails.any (pattern.isPrefixOf ·)

/-- The line breaks at the end of a text, which a command substitution takes off. -/
def substituted (text : Text) : Text := (text.reverse.dropWhile (· == '\n')).reverse

def winePrefixKey : Text := "WINEPREFIX=".toList

/-- `process_has_prefix`: the first entry for `WINEPREFIX` decides. -/
def processHasPrefix (winePrefix : Text) (world : World) (pid : Nat) : Bool :=
  match (world.process pid).bind ProcessInfo.environ with
  | none => false
  | some entries =>
      match entries.find? (winePrefixKey.isPrefixOf ·) with
      | none => false
      | some entry =>
          let processPrefix := entry.drop winePrefixKey.length
          processPrefix == winePrefix || (world.readlink processPrefix).getD [] == winePrefix

/-- `image_loaded`. -/
def imageLoaded (world : World) (pid : Nat) (image : Text) : Bool :=
  match (world.process pid).bind ProcessInfo.maps with
  | none => false
  | some lines => lines.any (holdsText image ·)

/-- `cmdline` in `scan_prefix_processes` and `stop_prefix`. -/
def commandLine (world : World) (pid : Nat) : Text :=
  match (world.process pid).bind ProcessInfo.cmdline with
  | none => []
  | some text => substituted (text.map fun c => if c = '\x00' then ' ' else c)

/-- The programs that the guard tells apart. -/
inductive GuardImage where
  | client
  | webview
  | health
  | server
  deriving Repr, DecidableEq

/-- The name of a program. -/
def GuardImage.file : GuardImage → Text
  | .client => "GameViewer.exe".toList
  | .webview => "msedgewebview2.exe".toList
  | .health => "GameViewerHealthd.exe".toList
  | .server => "GameViewerServer.exe".toList

/-- A command line that is one of the program.  The name of the client may stand in the
command line of its WebView. -/
def GuardImage.named (image : GuardImage) (cmdline : Text) : Bool :=
  match image with
  | .client => holdsText image.file cmdline && !holdsText GuardImage.webview.file cmdline
  | _ => holdsText image.file cmdline

def upgradeArgument : Text := "source=upgrade ".toList

def crashpadHandler : Text := "crashpad_handler.exe".toList

/-! ## The guard -/

inductive GuardAction where
  | kill (pid : Nat)
  /-- `wineserver -k`. -/
  | stopWine
  /-- `start_background_process`, with `WAYLAND_DISPLAY` or without. -/
  | start (image : GuardImage) (wayland : Bool)
  deriving Repr, DecidableEq

/-- What the guard did, when, and when the iteration began. -/
structure GuardEvent where
  started : Nat
  time : Nat
  action : GuardAction
  deriving Repr, DecidableEq

/-- The variables of the script, the moment it is at, and what it has done. -/
structure Guard where
  snapshotReady : Bool := false
  clientRunning : Bool := false
  webviewRunning : Bool := false
  healthRunning : Bool := false
  serverRunning : Bool := false
  upgradePids : List Nat := []
  started : Nat := 0
  time : Nat := 0
  log : List GuardEvent := []

namespace Guard

/-- The guard has looked at something. -/
def tick (g : Guard) : Guard := { g with time := g.time + 1 }

def act (action : GuardAction) (g : Guard) : Guard :=
  { g with time := g.time + 1, log := g.log ++ [⟨g.started, g.time, action⟩] }

def running (g : Guard) : GuardImage → Bool
  | .client => g.clientRunning
  | .webview => g.webviewRunning
  | .health => g.healthRunning
  | .server => g.serverRunning

/-- The part of the loop of `scan_prefix_processes` behind `process_has_prefix`. -/
def scanProcess (host : GuardHost) (pid : Nat) (g : Guard) : Guard :=
  let cmdline := commandLine (host.worlds g.time) pid
  let loaded := imageLoaded (host.worlds (g.time + 1)) pid
    (binDir host.winePrefix ++ '/' :: GuardImage.client.file)
  { g with
    clientRunning := g.clientRunning || (loaded || GuardImage.client.named cmdline)
    webviewRunning := g.webviewRunning || GuardImage.webview.named cmdline
    healthRunning := g.healthRunning || GuardImage.health.named cmdline
    serverRunning := g.serverRunning || GuardImage.server.named cmdline
    upgradePids :=
      if upgradeArgument.isPrefixOf cmdline then g.upgradePids ++ [pid] else g.upgradePids
    time := g.time + 2 }

/-- One pass of that loop. -/
def scanPid (host : GuardHost) (g : Guard) (pid : Nat) : Guard :=
  if processHasPrefix host.winePrefix (host.worlds g.time) pid then scanProcess host pid g.tick
  else g.tick

/-- `scan_prefix_processes`. -/
def scanPrefixProcesses (host : GuardHost) (g : Guard) : Guard :=
  let cleared : Guard :=
    { g with
      clientRunning := false
      webviewRunning := false
      healthRunning := false
      serverRunning := false
      upgradePids := [] }
  let scanned := (host.worlds g.time).pids.foldl (scanPid host) cleared.tick
  { scanned with snapshotReady := true }

/-- `[[ $snapshot_ready == true ]] || scan_prefix_processes`. -/
def ensureSnapshot (host : GuardHost) (g : Guard) : Guard :=
  if g.snapshotReady then g else scanPrefixProcesses host g

/-- One pass of the loop of `cleanup_stale_upgrades`. -/
def stopOldUpgrader (host : GuardHost) (g : Guard) (pid : Nat) : Except Guard Guard :=
  match (host.worlds g.time).elapsed pid with
  | none => .error g
  | some none => .ok g.tick
  | some (some elapsed) =>
      if elapsed ≥ host.upgradeTimeout then .ok (g.tick.act (.kill pid)) else .ok g.tick

/-- `cleanup_stale_upgrades`. -/
def cleanupStaleUpgrades (host : GuardHost) (g : Guard) : Except Guard Guard :=
  let g := g.ensureSnapshot host
  g.upgradePids.foldlM (stopOldUpgrader host) g

/-- One pass of the loop of `stop_prefix`. -/
def stopProcess (host : GuardHost) (g : Guard) (pid : Nat) : Guard :=
  if processHasPrefix host.winePrefix (host.worlds g.time) pid then
    let cmdline := commandLine (host.worlds (g.time + 1)) pid
    if holdsText GuardImage.webview.file cmdline || holdsText crashpadHandler cmdline then
      g.tick.tick.act (.kill pid)
    else g.tick.tick
  else g.tick

/-- `stop_prefix`. -/
def stopPrefix (host : GuardHost) (g : Guard) : Guard :=
  let stopped := g.act .stopWine
  (host.worlds stopped.time).pids.foldl (stopProcess host) stopped.tick

/-- `cleanup_once`. -/
def cleanupOnce (host : GuardHost) (g : Guard) : Guard :=
  let g := g.ensureSnapshot host
  if !g.clientRunning && g.webviewRunning then g.stopPrefix host else g

/-- `start_background_process`. -/
def startBackgroundProcess (host : GuardHost) (image : GuardImage) (g : Guard) :
    Except Guard Guard :=
  let g := g.ensureSnapshot host
  if g.running image then .ok g
  else if (host.worlds g.time).binDirExists then .ok (g.tick.act (.start image host.isWayland))
  else .error g

/-- `maintain_background_processes`. -/
def maintainBackgroundProcesses (host : GuardHost) (g : Guard) : Except Guard Guard :=
  let g := g.ensureSnapshot host
  if g.clientRunning then
    (g.startBackgroundProcess host .health).bind fun g =>
      if host.isHost then g.startBackgroundProcess host .server else .ok g
  else .ok g

end Guard

/-- `disable_wine_driver_installers`. -/
def disableWineDriverInstallers : Script (Files DriverFile Text) :=
  .whenever (fun files => (files .devcon).isSome) <|
  .seq
    (.whenever (fun files => (files .disabled).isNone)
      (.command fun files => files.cp .devcon .disabled))
  (.command fun files => some (files.rm .devcon))

namespace Guard

/-- A function of the script that works on files, at one moment. -/
def runFiles {σ : Type} (script : Script σ) (files : σ) (g : Guard) : Except Guard Guard :=
  match script.exec files with
  | .ok _ => .ok g.tick
  | .error _ => .error g

/-- One pass of the loop of `main`. -/
def iteration (host : GuardHost) (g : Guard) : Except Guard Guard :=
  let g := { g with snapshotReady := false, started := g.time }
  (runFiles disableWineDriverInstallers (host.worlds g.time).drivers g).bind fun g =>
    (runFiles (disableFailedUpgrade host.upgradeEnv) (host.worlds g.time).upgrade g).bind fun g =>
      (g.cleanupStaleUpgrades host).bind fun g =>
        (g.cleanupOnce host).maintainBackgroundProcesses host

/-- `main`, for a number of passes.  Some time goes by in `sleep`. -/
def main (host : GuardHost) (sleep : Nat → Nat) : Nat → Guard → Except Guard Guard
  | 0, g => .ok g
  | n + 1, g =>
      (g.iteration host).bind fun g => main host sleep n { g with time := g.time + sleep n }

end Guard

/-! ## What the guard has seen -/

section Sightings

variable (host : GuardHost)

/-- In a span of time the guard has found a process in the prefix, and then its command
line. -/
def SeenNamed (start finish : Nat) (pid : Nat) (p : Text → Bool) : Prop :=
  ∃ t, start ≤ t ∧ t + 1 < finish ∧
    processHasPrefix host.winePrefix (host.worlds t) pid = true ∧
    p (commandLine (host.worlds (t + 1)) pid) = true

/-- The image of the client. -/
def clientImage : Text := binDir host.winePrefix ++ '/' :: GuardImage.client.file

/-- In a span of time the guard has found a process in the prefix, and then that it has
loaded the client. -/
def SeenLoaded (start finish : Nat) (pid : Nat) : Prop :=
  ∃ t, start ≤ t ∧ t + 2 < finish ∧
    processHasPrefix host.winePrefix (host.worlds t) pid = true ∧
    imageLoaded (host.worlds (t + 2)) pid (clientImage host) = true

/-- The guard has seen the program. -/
def Seen (start finish : Nat) (image : GuardImage) : Prop :=
  ∃ pid, SeenNamed host start finish pid image.named ∨
    image = .client ∧ SeenLoaded host start finish pid

/-- At a moment, a process of the prefix has the command line of the program. -/
def ShowsNamed (world : World) (image : GuardImage) (pid : Nat) : Prop :=
  pid ∈ world.pids ∧ processHasPrefix host.winePrefix world pid = true ∧
    image.named (commandLine world pid) = true

/-- At a moment, a process of the prefix has loaded the client. -/
def ShowsLoaded (world : World) (pid : Nat) : Prop :=
  pid ∈ world.pids ∧ processHasPrefix host.winePrefix world pid = true ∧
    imageLoaded world pid (clientImage host) = true

/-- No process has been the program for a whole span of time. -/
def NotThroughout (start finish : Nat) (image : GuardImage) : Prop :=
  ∀ pid, (∃ t, start ≤ t ∧ t < finish ∧ ¬ShowsNamed host (host.worlds t) image pid) ∧
    (image = .client → ∃ t, start ≤ t ∧ t < finish ∧ ¬ShowsLoaded host (host.worlds t) pid)

/-- The client has gone, and a WebView is left of it. -/
def StaleSeen (start finish : Nat) : Prop :=
  NotThroughout host start finish .client ∧ Seen host start finish .webview

/-- An upgrader has been running for too long. -/
def OldUpgraderSeen (start finish : Nat) (pid : Nat) : Prop :=
  SeenNamed host start finish pid (upgradeArgument.isPrefixOf ·) ∧
    ∃ t elapsed, start ≤ t ∧ t < finish ∧ (host.worlds t).elapsed pid = some (some elapsed) ∧
      host.upgradeTimeout ≤ elapsed

/-- What the guard has seen in an iteration before it acted gives it the right to. -/
def Justified (event : GuardEvent) : Prop :=
  match event.action with
  | .kill pid =>
      OldUpgraderSeen host event.started event.time pid ∨
      StaleSeen host event.started event.time ∧
        SeenNamed host event.started event.time pid fun cmdline =>
          holdsText GuardImage.webview.file cmdline || holdsText crashpadHandler cmdline
  | .stopWine => StaleSeen host event.started event.time
  | .start image wayland =>
      wayland = host.isWayland ∧ (image = .health ∨ image = .server ∧ host.isHost = true) ∧
      Seen host event.started event.time .client ∧
      NotThroughout host event.started event.time image

variable {host} {start finish later : Nat} {image : GuardImage} {pid : Nat} {p : Text → Bool}

theorem SeenNamed.mono (h : SeenNamed host start finish pid p) (hle : finish ≤ later) :
    SeenNamed host start later pid p := by
  obtain ⟨t, hstart, hlt, hbefore, hp⟩ := h
  exact ⟨t, hstart, by omega, hbefore, hp⟩

theorem SeenLoaded.mono (h : SeenLoaded host start finish pid) (hle : finish ≤ later) :
    SeenLoaded host start later pid := by
  obtain ⟨t, hstart, hlt, hbefore, hloaded⟩ := h
  exact ⟨t, hstart, by omega, hbefore, hloaded⟩

theorem Seen.mono (h : Seen host start finish image) (hle : finish ≤ later) :
    Seen host start later image := by
  obtain ⟨pid, hnamed | ⟨himage, hloaded⟩⟩ := h
  · exact ⟨pid, Or.inl (hnamed.mono hle)⟩
  · exact ⟨pid, Or.inr ⟨himage, hloaded.mono hle⟩⟩

theorem NotThroughout.mono (h : NotThroughout host start finish image) (hle : finish ≤ later) :
    NotThroughout host start later image := by
  intro pid
  obtain ⟨⟨t, hstart, hlt, hnamed⟩, hclient⟩ := h pid
  refine ⟨⟨t, hstart, by omega, hnamed⟩, fun himage => ?_⟩
  obtain ⟨t, hstart, hlt, hloaded⟩ := hclient himage
  exact ⟨t, hstart, by omega, hloaded⟩

theorem StaleSeen.mono (h : StaleSeen host start finish) (hle : finish ≤ later) :
    StaleSeen host start later :=
  ⟨h.1.mono hle, h.2.mono hle⟩

end Sightings

/-! ## The scan -/

namespace Guard

section Scan

variable {host : GuardHost} {g : Guard} {pid : Nat}

/-- The scan has looked at some processes: what it has found it has seen, and what it has
not found was not there when it looked. -/
structure Scans (host : GuardHost) (done : List Nat) (g : Guard) : Prop where
  started_le : g.started ≤ g.time
  seen : ∀ image, g.running image = true → Seen host g.started g.time image
  upgraders : ∀ pid ∈ g.upgradePids,
    SeenNamed host g.started g.time pid (upgradeArgument.isPrefixOf ·)
  unnamed : ∀ image, g.running image = false → ∀ pid ∈ done,
    ∃ t, g.started ≤ t ∧ t < g.time ∧ ¬ShowsNamed host (host.worlds t) image pid
  unloaded : g.running .client = false → ∀ pid ∈ done,
    ∃ t, g.started ≤ t ∧ t < g.time ∧ ¬ShowsLoaded host (host.worlds t) pid

/-- What the scan knows stays true. -/
theorem Scans.later {done : List Nat} {g' : Guard} (hs : Scans host done g)
    (hstarted : g'.started = g.started) (htime : g.time ≤ g'.time)
    (hrunning : g'.running = g.running) (hpids : g'.upgradePids = g.upgradePids) :
    Scans host done g' where
  started_le := hstarted ▸ Nat.le_trans hs.started_le htime
  seen image himage := by
    rw [hstarted]
    exact (hs.seen image (hrunning ▸ himage)).mono htime
  upgraders pid hpid := by
    rw [hstarted]
    exact (hs.upgraders pid (hpids ▸ hpid)).mono htime
  unnamed image himage pid hpid := by
    obtain ⟨t, hstart, hlt, ht⟩ := hs.unnamed image (hrunning ▸ himage) pid hpid
    exact ⟨t, hstarted ▸ hstart, Nat.lt_of_lt_of_le hlt htime, ht⟩
  unloaded hclient pid hpid := by
    obtain ⟨t, hstart, hlt, ht⟩ := hs.unloaded (hrunning ▸ hclient) pid hpid
    exact ⟨t, hstarted ▸ hstart, Nat.lt_of_lt_of_le hlt htime, ht⟩

/-- What one process adds to the flags. -/
theorem running_scanProcess (image : GuardImage) :
    (g.scanProcess host pid).running image =
      (g.running image || (image == .client && imageLoaded (host.worlds (g.time + 1)) pid
        (clientImage host) || image.named (commandLine (host.worlds g.time) pid))) := by
  cases image <;> rfl

theorem Scans.scanPid {done : List Nat} (hs : Scans host done g) (pid : Nat) :
    Scans host (pid :: done) (g.scanPid host pid) := by
  unfold Guard.scanPid
  cases hbefore : processHasPrefix host.winePrefix (host.worlds g.time) pid with
  | false =>
    have hlater : Scans host done g.tick := hs.later rfl (Nat.le_succ _) rfl rfl
    refine ⟨hlater.started_le, hlater.seen, hlater.upgraders, fun image himage q hq => ?_,
      fun hclient q hq => ?_⟩
    · rcases List.mem_cons.mp hq with rfl | hq
      · refine ⟨g.time, hs.started_le, Nat.lt_succ_self _, fun hshows => ?_⟩
        exact absurd hshows.2.1 (by rw [hbefore]; decide)
      · exact hlater.unnamed image himage q hq
    · rcases List.mem_cons.mp hq with rfl | hq
      · refine ⟨g.time, hs.started_le, Nat.lt_succ_self _, fun hshows => ?_⟩
        exact absurd hshows.2.1 (by rw [hbefore]; decide)
      · exact hlater.unloaded hclient q hq
  | true =>
    obtain ⟨next, hnext⟩ : ∃ next, next = g.tick.scanProcess host pid := ⟨_, rfl⟩
    have htime : next.time = g.time + 3 := hnext ▸ rfl
    have hstarted : next.started = g.started := hnext ▸ rfl
    have hrunning : ∀ image, next.running image = (g.running image || (image == .client &&
        imageLoaded (host.worlds (g.time + 2)) pid (clientImage host) ||
          image.named (commandLine (host.worlds (g.time + 1)) pid))) :=
      fun image => hnext ▸ running_scanProcess image
    have hpids : next.upgradePids =
        if upgradeArgument.isPrefixOf (commandLine (host.worlds (g.time + 1)) pid) then
          g.upgradePids ++ [pid] else g.upgradePids := hnext ▸ rfl
    have hle := hs.started_le
    rw [if_pos rfl, ← hnext]
    refine ⟨by omega, fun image himage => ?_, fun q hq => ?_, fun image himage q hq => ?_,
      fun hclient q hq => ?_⟩
    · rw [hrunning, Bool.or_eq_true, Bool.or_eq_true, Bool.and_eq_true] at himage
      rw [hstarted, htime]
      rcases himage with hold | ⟨hclient, hloaded⟩ | hnamed
      · exact (hs.seen image hold).mono (by omega)
      · exact ⟨pid, Or.inr ⟨by simpa using hclient, g.time, hle, by omega, hbefore, hloaded⟩⟩
      · exact ⟨pid, Or.inl ⟨g.time, hle, by omega, hbefore, hnamed⟩⟩
    · rw [hstarted, htime]
      have hcases : q ∈ g.upgradePids ∨ q = pid ∧
          upgradeArgument.isPrefixOf (commandLine (host.worlds (g.time + 1)) pid) = true := by
        rw [hpids] at hq
        split at hq
        next hupgrade =>
          rcases List.mem_append.mp hq with hold | hnew
          · exact Or.inl hold
          · exact Or.inr ⟨List.mem_singleton.mp hnew, hupgrade⟩
        next => exact Or.inl hq
      rcases hcases with hold | ⟨rfl, hupgrade⟩
      · exact (hs.upgraders q hold).mono (by omega)
      · exact ⟨g.time, hle, by omega, hbefore, hupgrade⟩
    · rw [hrunning, Bool.or_eq_false_iff, Bool.or_eq_false_iff] at himage
      rw [hstarted, htime]
      rcases List.mem_cons.mp hq with rfl | hq
      · refine ⟨g.time + 1, by omega, by omega, fun hshows => ?_⟩
        exact absurd hshows.2.2 (by rw [himage.2.2]; decide)
      · obtain ⟨t, hstart, hlt, ht⟩ := hs.unnamed image himage.1 q hq
        exact ⟨t, hstart, by omega, ht⟩
    · rw [hrunning, Bool.or_eq_false_iff, Bool.or_eq_false_iff] at hclient
      rw [hstarted, htime]
      rcases List.mem_cons.mp hq with rfl | hq
      · refine ⟨g.time + 2, by omega, by omega, fun hshows => ?_⟩
        exact absurd hshows.2.2 (by
          have hloaded := hclient.2.1
          simp only [beq_self_eq_true, Bool.true_and] at hloaded
          rw [hloaded]
          decide)
      · obtain ⟨t, hstart, hlt, ht⟩ := hs.unloaded hclient.1 q hq
        exact ⟨t, hstart, by omega, ht⟩

theorem Scans.foldl {done : List Nat} (hs : Scans host done g) (pids : List Nat) :
    Scans host (pids.reverse ++ done) (pids.foldl (Guard.scanPid host) g) := by
  induction pids generalizing done g with
  | nil => exact hs
  | cons pid pids ih =>
    rw [List.reverse_cons, List.append_assoc]
    exact ih (hs.scanPid pid)

/-- The snapshot: what is running was seen, and what is not was not there throughout. -/
structure Scanned (host : GuardHost) (g : Guard) : Prop where
  started_le : g.started ≤ g.time
  seen : ∀ image, g.running image = true → Seen host g.started g.time image
  upgraders : ∀ pid ∈ g.upgradePids,
    SeenNamed host g.started g.time pid (upgradeArgument.isPrefixOf ·)
  missing : ∀ image, g.running image = false → NotThroughout host g.started g.time image

theorem Scanned.later {g' : Guard} (hs : Scanned host g) (hstarted : g'.started = g.started)
    (htime : g.time ≤ g'.time) (hrunning : g'.running = g.running)
    (hpids : g'.upgradePids = g.upgradePids) : Scanned host g' where
  started_le := hstarted ▸ Nat.le_trans hs.started_le htime
  seen image himage := by
    rw [hstarted]
    exact (hs.seen image (hrunning ▸ himage)).mono htime
  upgraders pid hpid := by
    rw [hstarted]
    exact (hs.upgraders pid (hpids ▸ hpid)).mono htime
  missing image himage := by
    rw [hstarted]
    exact (hs.missing image (hrunning ▸ himage)).mono htime

/-- What the loop of the scan leaves alone. -/
theorem foldl_scanPid_span (host : GuardHost) (pids : List Nat) (g : Guard) :
    (pids.foldl (Guard.scanPid host) g).started = g.started ∧
      g.time ≤ (pids.foldl (Guard.scanPid host) g).time ∧
      (pids.foldl (Guard.scanPid host) g).log = g.log := by
  induction pids generalizing g with
  | nil => exact ⟨rfl, Nat.le_refl _, rfl⟩
  | cons pid pids ih =>
    have hpass : (g.scanPid host pid).started = g.started ∧
        g.time ≤ (g.scanPid host pid).time ∧ (g.scanPid host pid).log = g.log := by
      unfold Guard.scanPid
      split
      · exact ⟨rfl, by show g.time ≤ g.time + 1 + 2; omega, rfl⟩
      · exact ⟨rfl, Nat.le_succ _, rfl⟩
    obtain ⟨hstarted, htime, hlog⟩ := ih (g.scanPid host pid)
    exact ⟨hstarted.trans hpass.1, Nat.le_trans hpass.2.1 htime, hlog.trans hpass.2.2⟩

theorem scanned_scanPrefixProcesses (hle : g.started ≤ g.time) :
    Scanned host (g.scanPrefixProcesses host) := by
  obtain ⟨cleared, hcleared⟩ : ∃ cleared : Guard, cleared =
      { g with
        clientRunning := false
        webviewRunning := false
        healthRunning := false
        serverRunning := false
        upgradePids := [] } := ⟨_, rfl⟩
  have hfalse : ∀ image, cleared.running image = false := by
    intro image
    rw [hcleared]
    cases image <;> rfl
  have hstarted : cleared.started = g.started := hcleared ▸ rfl
  have htime : cleared.time = g.time := hcleared ▸ rfl
  have hpids : cleared.upgradePids = [] := hcleared ▸ rfl
  have hnone : Scans host [] cleared.tick := by
    refine ⟨?_, fun image himage => ?_, fun pid hpid => ?_, fun _ _ pid hpid => ?_,
      fun _ pid hpid => ?_⟩
    · show cleared.started ≤ cleared.time + 1
      omega
    · exact absurd himage (by
        show ¬cleared.running image = true
        rw [hfalse]
        decide)
    · exact absurd (show pid ∈ cleared.upgradePids from hpid) (by simp [hpids])
    · cases hpid
    · cases hpid
  have hall := hnone.foldl (host.worlds g.time).pids
  rw [List.append_nil] at hall
  have hscan : g.scanPrefixProcesses host =
      { (host.worlds g.time).pids.foldl (Guard.scanPid host) cleared.tick with
        snapshotReady := true } := by
    rw [hcleared]
    rfl
  obtain ⟨hfrom, hlater, -⟩ := foldl_scanPid_span host (host.worlds g.time).pids
    cleared.tick
  obtain ⟨last, hlast⟩ : ∃ last, last =
    (host.worlds g.time).pids.foldl (Guard.scanPid host) cleared.tick := ⟨_, rfl⟩
  rw [← hlast] at hall hfrom hlater hscan
  have hsame : (g.scanPrefixProcesses host).running = last.running := by
    rw [hscan]
    funext image
    cases image <;> rfl
  have hfirst : last.started ≤ g.time ∧ g.time < last.time := by
    have h₁ : last.started = cleared.started := hfrom
    have h₂ : cleared.time + 1 ≤ last.time := hlater
    omega
  rw [hscan] at hsame ⊢
  refine ⟨hall.started_le, fun image himage => ?_, hall.upgraders, fun image himage pid => ?_⟩
  · exact hall.seen image (hsame ▸ himage)
  · have hnot : last.running image = false := hsame ▸ himage
    by_cases hpid : pid ∈ (host.worlds g.time).pids
    · have hdone : pid ∈ (host.worlds g.time).pids.reverse := List.mem_reverse.mpr hpid
      refine ⟨hall.unnamed image hnot pid hdone, fun hclient => ?_⟩
      exact hall.unloaded (hclient ▸ hnot) pid hdone
    · refine ⟨⟨g.time, hfirst.1, hfirst.2, fun hshows => hpid hshows.1⟩, fun _ => ?_⟩
      exact ⟨g.time, hfirst.1, hfirst.2, fun hshows => hpid hshows.1⟩

theorem scanPrefixProcesses_log : (g.scanPrefixProcesses host).log = g.log :=
  (foldl_scanPid_span host (host.worlds g.time).pids _).2.2

end Scan

/-! ## What an iteration does -/

section Actions

open Script

variable {host : GuardHost} {g : Guard} {action : GuardAction}

/-- Everything the guard has done was justified. -/
structure Watches (host : GuardHost) (g : Guard) : Prop where
  started_le : g.started ≤ g.time
  justified : ∀ event ∈ g.log, Justified host event

/-- The same, behind a scan. -/
structure Ready (host : GuardHost) (g : Guard) : Prop extends Watches host g where
  snapshot : g.snapshotReady = true
  scanned : Scanned host g

theorem ready_ensureSnapshot (hw : Watches host g)
    (hscanned : g.snapshotReady = true → Scanned host g) : Ready host (g.ensureSnapshot host) := by
  unfold ensureSnapshot
  split
  next hready => exact ⟨hw, hready, hscanned hready⟩
  next =>
    have hscan : Scanned host (g.scanPrefixProcesses host) :=
      scanned_scanPrefixProcesses hw.started_le
    refine ⟨⟨hscan.started_le, fun event hevent => ?_⟩, rfl, hscan⟩
    rw [scanPrefixProcesses_log] at hevent
    exact hw.justified event hevent

theorem Ready.ensureSnapshot_eq (hr : Ready host g) : g.ensureSnapshot host = g :=
  if_pos hr.snapshot

theorem Ready.tick (hr : Ready host g) : Ready host g.tick where
  started_le := Nat.le_succ_of_le hr.started_le
  justified := hr.justified
  snapshot := hr.snapshot
  scanned := hr.scanned.later rfl (Nat.le_succ _) rfl rfl

theorem Ready.act (hr : Ready host g) (hjust : Justified host ⟨g.started, g.time, action⟩) :
    Ready host (g.act action) where
  started_le := Nat.le_succ_of_le hr.started_le
  justified := by
    intro event hevent
    rcases List.mem_append.mp hevent with hold | hnew
    · exact hr.justified event hold
    · rw [List.mem_singleton.mp hnew]
      exact hjust
  snapshot := hr.snapshot
  scanned := hr.scanned.later rfl (Nat.le_succ _) rfl rfl

/-- `cleanup_stale_upgrades`. -/
theorem cleanupStaleUpgrades_ends (hw : Watches host g)
    (hscanned : g.snapshotReady = true → Scanned host g) :
    Ends (Watches host) (Ready host) (g.cleanupStaleUpgrades host) := by
  have hr := ready_ensureSnapshot hw hscanned
  obtain ⟨next, hnext⟩ : ∃ next, next = g.ensureSnapshot host := ⟨_, rfl⟩
  rw [← hnext] at hr
  unfold cleanupStaleUpgrades
  rw [← hnext]
  refine Ends.mono (Ends.foldlM (P := fun s => Ready host s ∧ s.upgradePids = next.upgradePids)
    ?_ ⟨hr, rfl⟩) fun _ hs => hs.1
  intro pid hpid s hs
  obtain ⟨hs, hpids⟩ := hs
  unfold stopOldUpgrader
  split
  next => exact hs.toWatches
  next => exact ⟨hs.tick, hpids⟩
  next elapsed helapsed =>
    split
    next hold =>
      refine ⟨hs.tick.act (Or.inl ⟨?_, s.time, elapsed, hs.started_le, Nat.lt_succ_self _,
        helapsed, hold⟩), hpids⟩
      exact (hs.scanned.upgraders pid (hpids ▸ hpid)).mono (Nat.le_succ _)
    next => exact ⟨hs.tick, hpids⟩

/-- `stop_prefix`. -/
theorem Ready.stopPrefix (hr : Ready host g) (hstale : StaleSeen host g.started g.time) :
    Ready host (g.stopPrefix host) := by
  have hfold : ∀ (pids : List Nat) (s : Guard), Ready host s → StaleSeen host s.started s.time →
      Ready host (pids.foldl (stopProcess host) s) := by
    intro pids
    induction pids with
    | nil => exact fun s hs _ => hs
    | cons pid pids ih =>
      intro s hs hstale
      refine ih _ ?_ ?_
      · unfold stopProcess
        split
        next hbefore =>
          simp only
          split
          next hkill =>
            refine hs.tick.tick.act (Or.inr ⟨hstale.mono (by show s.time ≤ s.time + 1 + 1; omega),
              s.time, hs.started_le, ?_, hbefore, hkill⟩)
            exact Nat.lt_succ_self _
          next => exact hs.tick.tick
        next => exact hs.tick
      · unfold stopProcess
        split
        · simp only
          split
          · exact hstale.mono (by show s.time ≤ s.time + 1 + 1 + 1; omega)
          · exact hstale.mono (by show s.time ≤ s.time + 1 + 1; omega)
        · exact hstale.mono (Nat.le_succ _)
  have hstopped : Ready host (g.act .stopWine) := hr.act hstale
  refine hfold _ _ hstopped.tick (hstale.mono ?_)
  show g.time ≤ g.time + 1 + 1
  omega

/-- `cleanup_once`. -/
theorem Ready.cleanupOnce (hr : Ready host g) : Ready host (g.cleanupOnce host) := by
  unfold Guard.cleanupOnce
  rw [hr.ensureSnapshot_eq]
  simp only
  split
  next hstale =>
    rw [Bool.and_eq_true, Bool.not_eq_true'] at hstale
    exact hr.stopPrefix ⟨hr.scanned.missing .client hstale.1, hr.scanned.seen .webview hstale.2⟩
  next => exact hr

/-- `start_background_process`, for a client that has been seen. -/
theorem startBackgroundProcess_ends (hr : Ready host g)
    (hclient : Seen host g.started g.time .client) {image : GuardImage}
    (himage : image = .health ∨ image = .server ∧ host.isHost = true) :
    Ends (Watches host) (fun s => Ready host s ∧ Seen host s.started s.time .client)
      (g.startBackgroundProcess host image) := by
  unfold startBackgroundProcess
  rw [hr.ensureSnapshot_eq]
  simp only
  split
  next => exact ⟨hr, hclient⟩
  next hmissing =>
    split
    next =>
      refine ⟨hr.tick.act ⟨rfl, himage, hclient.mono (Nat.le_succ _), ?_⟩, hclient.mono ?_⟩
      · exact (hr.scanned.missing image (Bool.eq_false_iff.mpr hmissing)).mono (Nat.le_succ _)
      · show g.time ≤ g.time + 1 + 1
        omega
    next => exact hr.toWatches

/-- `maintain_background_processes`. -/
theorem maintainBackgroundProcesses_ends (hr : Ready host g) :
    Ends (Watches host) (Watches host) (g.maintainBackgroundProcesses host) := by
  unfold maintainBackgroundProcesses
  rw [hr.ensureSnapshot_eq]
  simp only
  split
  next hclient =>
    refine Ends.bind (startBackgroundProcess_ends hr (hr.scanned.seen .client hclient)
      (Or.inl rfl)) fun s hs => ?_
    split
    next hhost =>
      refine (startBackgroundProcess_ends hs.1 hs.2 (Or.inr ⟨rfl, hhost⟩)).mono ?_
      exact fun _ ht => ht.1.toWatches
    next => exact hs.1.toWatches
  next => exact hr.toWatches

/-- One pass of the loop. -/
theorem iteration_ends (hw : Watches host g) :
    Ends (Watches host) (Watches host) (g.iteration host) := by
  have hfiles : ∀ {σ : Type} (script : Script σ) (files : σ) (s : Guard),
      Watches host s ∧ s.snapshotReady = false →
      Ends (Watches host) (fun t => Watches host t ∧ t.snapshotReady = false)
        (runFiles script files s) := by
    intro σ script files s hs
    unfold runFiles
    split
    · exact ⟨⟨Nat.le_succ_of_le hs.1.started_le, hs.1.justified⟩, hs.2⟩
    · exact hs.1
  unfold iteration
  refine Ends.bind (hfiles _ _ _ ⟨⟨Nat.le_refl _, hw.justified⟩, rfl⟩) fun s hs => ?_
  refine Ends.bind (hfiles _ _ _ hs) fun s hs => ?_
  refine Ends.bind (cleanupStaleUpgrades_ends hs.1 fun hready => ?_) fun s hs => ?_
  · rw [hs.2] at hready
    cases hready
  · exact maintainBackgroundProcesses_ends hs.cleanupOnce

theorem main_ends (sleep : Nat → Nat) (n : Nat) (hw : Watches host g) :
    Ends (Watches host) (Watches host) (Guard.main host sleep n g) := by
  induction n generalizing g with
  | zero => exact hw
  | succ n ih =>
    refine Ends.bind (iteration_ends hw) fun s hs => ih ⟨?_, hs.justified⟩
    exact Nat.le_trans hs.started_le (Nat.le_add_right _ _)

end Actions

end Guard

/-- Whatever happens on the machine while the guard runs, and wherever its run has come to,
everything it has done was justified. -/
theorem guard_actions_justified (host : GuardHost) (sleep : Nat → Nat) (n : Nat) :
    Script.Ends (fun g => ∀ event ∈ g.log, Justified host event)
      (fun g => ∀ event ∈ g.log, Justified host event) (Guard.main host sleep n {}) := by
  have hmain : Script.Ends (Guard.Watches host) (Guard.Watches host) (Guard.main host sleep n {}) :=
    Guard.main_ends sleep n ⟨Nat.le_refl _, fun event hevent => by cases hevent⟩
  cases hrun : Guard.main host sleep n {} with
  | ok g =>
    rw [hrun] at hmain
    exact hmain.justified
  | error g =>
    rw [hrun] at hmain
    exact hmain.justified

/-! ## An iteration while the machine stands still -/

section Still

variable (host : GuardHost) (world : World)

def prefixPids : List Nat := world.pids.filter (processHasPrefix host.winePrefix world)

/-- The process is one of the program. -/
def isImage (image : GuardImage) (pid : Nat) : Bool :=
  image == .client && imageLoaded world pid (clientImage host) ||
    image.named (commandLine world pid)

def isRunning (image : GuardImage) : Bool := (prefixPids host world).any (isImage host world image)

def isUpgrader (pid : Nat) : Bool := upgradeArgument.isPrefixOf (commandLine world pid)

def isOld (pid : Nat) : Bool :=
  match world.elapsed pid with
  | some (some elapsed) => elapsed ≥ host.upgradeTimeout
  | _ => false

/-- What `stop_prefix` kills behind `wineserver -k`. -/
def isLeftover (pid : Nat) : Bool :=
  holdsText GuardImage.webview.file (commandLine world pid) ||
    holdsText crashpadHandler (commandLine world pid)

def upgraders : List Nat := (prefixPids host world).filter (isUpgrader world)

/-- The background programs that a client needs and does not have. -/
def missingImages : List GuardImage :=
  (if host.isHost then [.health, .server] else [.health]).filter (!isRunning host world ·)

/-- What an iteration does: old upgraders are killed; a client gets its programs; and a
prefix with a WebView but no client is stopped. -/
def expectedActions : List GuardAction :=
  ((upgraders host world).filter (isOld host world)).map .kill ++
    if isRunning host world .client then
      (missingImages host world).map (.start · host.isWayland)
    else if isRunning host world .webview then
      .stopWine :: ((prefixPids host world).filter (isLeftover world)).map .kill
    else []

/-- The iteration does not end the guard. -/
structure IterationCompletes : Prop where
  upgrade : (disableFailedUpgrade host.upgradeEnv).Completes world.upgrade
  /-- `ps` finds every upgrader. -/
  elapsed : ∀ pid ∈ upgraders host world, world.elapsed pid ≠ none
  binDir : isRunning host world .client = true → missingImages host world ≠ [] →
    world.binDirExists = true

end Still

namespace Guard

def actions (g : Guard) : List GuardAction := g.log.map GuardEvent.action

/-- From now on the machine stands still. -/
def Still (host : GuardHost) (world : World) (g : Guard) : Prop :=
  ∀ t, g.time ≤ t → host.worlds t = world

/-- What the guard has found does not change, and time goes on. -/
structure Continues (g g' : Guard) : Prop where
  running : g'.running = g.running
  snapshot : g'.snapshotReady = g.snapshotReady
  upgradePids : g'.upgradePids = g.upgradePids
  time : g.time ≤ g'.time

section StillRuns

variable {host : GuardHost} {world : World} {g g' : Guard}

theorem Still.later (h : g.Still host world) (hle : g.time ≤ g'.time) : g'.Still host world :=
  fun t ht => h t (Nat.le_trans hle ht)

theorem Continues.refl (g : Guard) : Continues g g := ⟨rfl, rfl, rfl, Nat.le_refl _⟩

theorem Continues.trans {g'' : Guard} (hfirst : Continues g g') (hsecond : Continues g' g'') :
    Continues g g'' where
  running := hsecond.running.trans hfirst.running
  snapshot := hsecond.snapshot.trans hfirst.snapshot
  upgradePids := hsecond.upgradePids.trans hfirst.upgradePids
  time := Nat.le_trans hfirst.time hsecond.time

theorem continues_tick (g : Guard) : Continues g g.tick := ⟨rfl, rfl, rfl, Nat.le_succ _⟩

theorem continues_act (g : Guard) (action : GuardAction) : Continues g (g.act action) :=
  ⟨rfl, rfl, rfl, Nat.le_succ _⟩

theorem actions_act (g : Guard) (action : GuardAction) :
    (g.act action).actions = g.actions ++ [action] := by
  simp [actions, act]

/-- The loop of the scan finds what is there. -/
theorem foldl_scanPid_still (pids : List Nat) (g : Guard) (hstill : g.Still host world) :
    (∀ image, (pids.foldl (scanPid host) g).running image = (g.running image ||
      (pids.filter (processHasPrefix host.winePrefix world)).any (isImage host world image))) ∧
    (pids.foldl (scanPid host) g).upgradePids = g.upgradePids ++
      (pids.filter (processHasPrefix host.winePrefix world)).filter (isUpgrader world) := by
  induction pids generalizing g with
  | nil => exact ⟨fun image => (Bool.or_false _).symm, (List.append_nil _).symm⟩
  | cons pid pids ih =>
    have hnow := hstill g.time (Nat.le_refl _)
    rw [List.foldl_cons]
    cases hbefore : processHasPrefix host.winePrefix world pid with
    | false =>
      have hpass : g.scanPid host pid = g.tick := by
        unfold scanPid
        rw [hnow, hbefore]
        rfl
      rw [hpass, List.filter_cons_of_neg (by rw [hbefore]; decide)]
      exact ih g.tick (hstill.later (Nat.le_succ _))
    | true =>
      have hpass : g.scanPid host pid = g.tick.scanProcess host pid := by
        unfold scanPid
        rw [hnow, hbefore]
        rfl
      have hnext : (g.tick.scanProcess host pid).Still host world :=
        hstill.later (by show g.time ≤ g.time + 1 + 2; omega)
      obtain ⟨hrunning, hpids⟩ := ih _ hnext
      have hcmd : host.worlds g.tick.time = world := hstill _ (Nat.le_succ _)
      have hmaps : host.worlds (g.tick.time + 1) = world :=
        hstill _ (by show g.time ≤ g.time + 1 + 1; omega)
      rw [hpass, List.filter_cons_of_pos hbefore]
      refine ⟨fun image => ?_, ?_⟩
      · rw [hrunning, running_scanProcess, hcmd, hmaps, List.any_cons, Bool.or_assoc]
        rfl
      · rw [hpids, List.filter_cons]
        show (if upgradeArgument.isPrefixOf (commandLine (host.worlds g.tick.time) pid) then
          g.upgradePids ++ [pid] else g.upgradePids) ++ _ = _
        rw [hcmd]
        unfold isUpgrader
        split
        next => rw [List.append_assoc]; rfl
        next => rfl

theorem scanPrefixProcesses_still (hstill : g.Still host world) :
    (∀ image, (g.scanPrefixProcesses host).running image = isRunning host world image) ∧
      (g.scanPrefixProcesses host).upgradePids = upgraders host world ∧
      g.time ≤ (g.scanPrefixProcesses host).time := by
  obtain ⟨cleared, hcleared⟩ : ∃ cleared : Guard, cleared =
      { g with
        clientRunning := false
        webviewRunning := false
        healthRunning := false
        serverRunning := false
        upgradePids := [] } := ⟨_, rfl⟩
  have htime : cleared.time = g.time := hcleared ▸ rfl
  have hfalse : ∀ image, cleared.tick.running image = false := by
    intro image
    rw [hcleared]
    cases image <;> rfl
  have hscan : g.scanPrefixProcesses host =
      { (host.worlds g.time).pids.foldl (scanPid host) cleared.tick with
        snapshotReady := true } := by
    rw [hcleared]
    rfl
  have hstart : cleared.tick.Still host world :=
    hstill.later (by show g.time ≤ cleared.time + 1; omega)
  obtain ⟨hrunning, hpids⟩ := foldl_scanPid_still (host.worlds g.time).pids cleared.tick hstart
  obtain ⟨-, hlater, -⟩ := foldl_scanPid_span host (host.worlds g.time).pids cleared.tick
  have hnow := hstill g.time (Nat.le_refl _)
  rw [hscan]
  refine ⟨fun image => ?_, ?_, ?_⟩
  · have himage := hrunning image
    rw [hfalse, Bool.false_or] at himage
    refine Eq.trans ?_ (himage.trans ?_)
    · cases image <;> rfl
    · rw [hnow]
      rfl
  · refine hpids.trans ?_
    rw [hnow]
    show cleared.upgradePids ++ _ = _
    rw [hcleared]
    rfl
  · have hle : cleared.time + 1 ≤
      ((host.worlds g.time).pids.foldl (scanPid host) cleared.tick).time := hlater
    show g.time ≤ ((host.worlds g.time).pids.foldl (scanPid host) cleared.tick).time
    omega

/-- The loop of `cleanup_stale_upgrades`, where `ps` finds every process. -/
theorem foldlM_stopOldUpgrader_ok (pids : List Nat) (g : Guard) (hstill : g.Still host world)
    (helapsed : ∀ pid ∈ pids, world.elapsed pid ≠ none) :
    ∃ g', pids.foldlM (stopOldUpgrader host) g = .ok g' ∧ Continues g g' ∧
      g'.actions = g.actions ++ (pids.filter (isOld host world)).map .kill := by
  induction pids generalizing g with
  | nil => exact ⟨g, rfl, .refl g, (List.append_nil _).symm⟩
  | cons pid pids ih =>
    have hnow := hstill g.time (Nat.le_refl _)
    have hpass : ∃ t, g.stopOldUpgrader host pid = .ok t ∧ Continues g t ∧
        t.actions = g.actions ++ ([pid].filter (isOld host world)).map .kill := by
      unfold stopOldUpgrader
      rw [hnow]
      cases hps : world.elapsed pid with
      | none => exact absurd hps (helapsed pid List.mem_cons_self)
      | some answer =>
        cases answer with
        | none => exact ⟨_, rfl, continues_tick g, by simp [isOld, hps, actions, tick]⟩
        | some elapsed =>
          simp only
          split
          next hold =>
            refine ⟨_, rfl, (continues_tick g).trans (continues_act _ _), ?_⟩
            rw [actions_act]
            have hkeep : [pid].filter (isOld host world) = [pid] := by simp [isOld, hps, hold]
            rw [hkeep]
            rfl
          next hnew => exact ⟨_, rfl, continues_tick g, by simp [isOld, hps, hnew, actions, tick]⟩
    obtain ⟨t, hok, hcontinues, hactions⟩ := hpass
    obtain ⟨g', hrest, hcontinues', hactions'⟩ := ih t (hstill.later hcontinues.time)
      fun later hlater => helapsed later (List.mem_cons_of_mem _ hlater)
    refine ⟨g', ?_, hcontinues.trans hcontinues', ?_⟩
    · rw [List.foldlM_cons, hok]
      exact hrest
    · rw [hactions', hactions, List.append_assoc, ← List.map_append, ← List.filter_append]
      rfl

/-- And where it does not. -/
theorem foldlM_stopOldUpgrader_error (pids : List Nat) (g : Guard) (hstill : g.Still host world)
    {pid : Nat} (hpid : pid ∈ pids) (helapsed : world.elapsed pid = none) :
    ∃ g', pids.foldlM (stopOldUpgrader host) g = .error g' := by
  induction pids generalizing g with
  | nil => cases hpid
  | cons first pids ih =>
    have hnow := hstill g.time (Nat.le_refl _)
    rw [List.foldlM_cons]
    cases hpass : g.stopOldUpgrader host first with
    | error t => exact ⟨t, rfl⟩
    | ok t =>
      have htime : g.time ≤ t.time := by
        unfold stopOldUpgrader at hpass
        split at hpass
        · cases hpass
        · cases hpass
          exact Nat.le_succ _
        · split at hpass
          · cases hpass
            show g.time ≤ g.time + 1 + 1
            omega
          · cases hpass
            exact Nat.le_succ _
      have hrest : pid ∈ pids := by
        rcases List.mem_cons.mp hpid with rfl | hrest
        · unfold stopOldUpgrader at hpass
          rw [hnow, helapsed] at hpass
          cases hpass
        · exact hrest
      exact ih t (hstill.later htime) hrest

/-- `stop_prefix`. -/
theorem stopPrefix_still (hstill : g.Still host world) :
    Continues g (g.stopPrefix host) ∧ (g.stopPrefix host).actions = g.actions ++
      .stopWine :: ((prefixPids host world).filter (isLeftover world)).map .kill := by
  have hfold : ∀ (pids : List Nat) (s : Guard), s.Still host world →
      Continues s (pids.foldl (stopProcess host) s) ∧
      (pids.foldl (stopProcess host) s).actions = s.actions ++
        ((pids.filter (processHasPrefix host.winePrefix world)).filter (isLeftover world)).map
          .kill := by
    intro pids
    induction pids with
    | nil => exact fun s _ => ⟨.refl s, (List.append_nil _).symm⟩
    | cons pid pids ih =>
      intro s hs
      have hnow := hs s.time (Nat.le_refl _)
      have hnext := hs (s.time + 1) (Nat.le_succ _)
      have hpass : Continues s (s.stopProcess host pid) ∧ (s.stopProcess host pid).actions =
          s.actions ++ (([pid].filter (processHasPrefix host.winePrefix world)).filter
            (isLeftover world)).map .kill := by
        unfold stopProcess
        rw [hnow, hnext]
        cases hbefore : processHasPrefix host.winePrefix world pid with
        | false => exact ⟨continues_tick s, by simp [hbefore, actions, tick]⟩
        | true =>
          have htick : Continues s s.tick.tick := (continues_tick s).trans (continues_tick _)
          simp only [if_true]
          cases hleft : isLeftover world pid with
          | false =>
            have hnot := hleft
            unfold isLeftover at hnot
            rw [hnot]
            exact ⟨htick, by simp [hbefore, hleft, actions, tick]⟩
          | true =>
            have hkill := hleft
            unfold isLeftover at hkill
            rw [hkill]
            refine ⟨htick.trans (continues_act _ _), ?_⟩
            simp [hbefore, hleft, actions, tick, act]
      obtain ⟨hcontinues, hactions⟩ := ih _ (hs.later hpass.1.time)
      refine ⟨hpass.1.trans hcontinues, ?_⟩
      rw [List.foldl_cons, hactions, hpass.2, List.append_assoc, ← List.map_append,
        ← List.filter_append, ← List.filter_append]
      rfl
  have hpids : host.worlds (g.act .stopWine).time = world := hstill _ (Nat.le_succ _)
  obtain ⟨hcontinues, hactions⟩ := hfold world.pids (g.act .stopWine).tick
    (hstill.later (by show g.time ≤ g.time + 1 + 1; omega))
  unfold stopPrefix
  simp only
  rw [hpids]
  refine ⟨((continues_act g _).trans (continues_tick _)).trans hcontinues, ?_⟩
  rw [hactions]
  show (g.act .stopWine).actions ++ _ = _
  rw [actions_act, List.append_assoc]
  rfl

/-- The guard has found what there is. -/
structure Informed (host : GuardHost) (world : World) (g : Guard) : Prop where
  still : g.Still host world
  snapshot : g.snapshotReady = true
  running : ∀ image, g.running image = isRunning host world image

theorem Informed.later (hg : Informed host world g) (h : Continues g g') :
    Informed host world g' where
  still := hg.still.later h.time
  snapshot := h.snapshot.trans hg.snapshot
  running image := (congrFun h.running image).trans (hg.running image)

theorem Informed.ensureSnapshot_eq (hg : Informed host world g) : g.ensureSnapshot host = g :=
  if_pos hg.snapshot

/-- `start_background_process`: the program is started if it is not there. -/
theorem startBackgroundProcess_still (hg : Informed host world g) (image : GuardImage)
    (hdir : isRunning host world image = false → world.binDirExists = true) :
    ∃ g', g.startBackgroundProcess host image = .ok g' ∧ Continues g g' ∧
      g'.actions = g.actions ++
        ([image].filter (!isRunning host world ·)).map (.start · host.isWayland) := by
  have hnow := hg.still g.time (Nat.le_refl _)
  unfold startBackgroundProcess
  rw [hg.ensureSnapshot_eq]
  simp only
  rw [hg.running, hnow]
  cases hrunning : isRunning host world image with
  | true => exact ⟨g, rfl, .refl g, by simp [hrunning]⟩
  | false =>
    refine ⟨g.tick.act (.start image host.isWayland), by rw [hdir hrunning]; rfl,
      (continues_tick g).trans (continues_act _ _), ?_⟩
    rw [actions_act]
    simp [hrunning, actions, tick]

theorem startBackgroundProcess_fails (hg : Informed host world g) {image : GuardImage}
    (hmissing : isRunning host world image = false) (hdir : world.binDirExists = false) :
    g.startBackgroundProcess host image = .error g := by
  have hnow := hg.still g.time (Nat.le_refl _)
  unfold startBackgroundProcess
  rw [hg.ensureSnapshot_eq]
  simp only
  rw [hg.running, hnow, hmissing, hdir]
  rfl

/-- `maintain_background_processes`. -/
theorem maintainBackgroundProcesses_still (hg : Informed host world g)
    (hdir : isRunning host world .client = true → missingImages host world ≠ [] →
      world.binDirExists = true) :
    ∃ g', g.maintainBackgroundProcesses host = .ok g' ∧ g'.actions = g.actions ++
      if isRunning host world .client then
        (missingImages host world).map (.start · host.isWayland) else [] := by
  have hclient : g.clientRunning = isRunning host world .client := hg.running .client
  unfold maintainBackgroundProcesses
  rw [hg.ensureSnapshot_eq]
  simp only
  rw [hclient]
  cases hrunning : isRunning host world .client with
  | false => exact ⟨g, rfl, (List.append_nil _).symm⟩
  | true =>
    have hneeded : ∀ image ∈ (if host.isHost then [GuardImage.health, .server] else [.health]),
        isRunning host world image = false → world.binDirExists = true := by
      intro image himage hmissing
      refine hdir hrunning fun hnone => ?_
      have hmem : image ∈ missingImages host world := by
        refine List.mem_filter.mpr ⟨himage, ?_⟩
        rw [hmissing]
        rfl
      rw [hnone] at hmem
      cases hmem
    obtain ⟨g₁, hhealth, hcontinues, hactions⟩ := startBackgroundProcess_still hg .health
      (hneeded .health (by split <;> exact List.mem_cons_self))
    rw [if_pos rfl, hhealth]
    cases hhost : host.isHost with
    | false =>
      refine ⟨g₁, rfl, ?_⟩
      rw [hactions]
      unfold missingImages
      rw [hhost]
      rfl
    | true =>
      obtain ⟨g₂, hserver, -, hactions'⟩ := startBackgroundProcess_still (hg.later hcontinues)
        .server (hneeded .server (by rw [hhost]; exact List.mem_cons_of_mem _ List.mem_cons_self))
      refine ⟨g₂, hserver, ?_⟩
      rw [hactions', hactions, List.append_assoc, ← List.map_append, ← List.filter_append]
      unfold missingImages
      rw [hhost]
      rfl

theorem maintainBackgroundProcesses_fails (hg : Informed host world g)
    (hrunning : isRunning host world .client = true) (hmissing : missingImages host world ≠ [])
    (hdir : world.binDirExists = false) :
    ∃ g', g.maintainBackgroundProcesses host = .error g' := by
  have hclient : g.clientRunning = true := (hg.running .client).trans hrunning
  unfold maintainBackgroundProcesses
  rw [hg.ensureSnapshot_eq]
  simp only
  rw [if_pos hclient]
  cases hhealth : isRunning host world .health with
  | false => exact ⟨g, by rw [startBackgroundProcess_fails hg hhealth hdir]; rfl⟩
  | true =>
    obtain ⟨g₁, hok, hcontinues, -⟩ := startBackgroundProcess_still hg .health
      (fun hfalse => absurd (hhealth.symm.trans hfalse) (by decide))
    have hserver : host.isHost = true ∧ isRunning host world .server = false := by
      unfold missingImages at hmissing
      cases hhost : host.isHost with
      | false => simp [hhost, hhealth] at hmissing
      | true =>
        refine ⟨rfl, ?_⟩
        simpa [hhost, hhealth] using hmissing
    refine ⟨g₁, ?_⟩
    rw [hok]
    show (if host.isHost = true then g₁.startBackgroundProcess host .server else _) = _
    rw [if_pos hserver.1]
    exact startBackgroundProcess_fails (hg.later hcontinues) hserver.2 hdir

/-- `cleanup_once`. -/
theorem cleanupOnce_still (hg : Informed host world g) :
    Continues g (g.cleanupOnce host) ∧ (g.cleanupOnce host).actions = g.actions ++
      if isRunning host world .client then []
      else if isRunning host world .webview then
        .stopWine :: ((prefixPids host world).filter (isLeftover world)).map .kill
      else [] := by
  have hclient : g.clientRunning = isRunning host world .client := hg.running .client
  have hwebview : g.webviewRunning = isRunning host world .webview := hg.running .webview
  unfold cleanupOnce
  rw [hg.ensureSnapshot_eq]
  simp only
  rw [hclient, hwebview]
  cases isRunning host world .client with
  | true => exact ⟨.refl g, (List.append_nil _).symm⟩
  | false =>
    cases isRunning host world .webview with
    | true => exact stopPrefix_still hg.still
    | false => exact ⟨.refl g, (List.append_nil _).symm⟩

/-- `disable_wine_driver_installers` completes. -/
theorem disableWineDriverInstallers_exec (files : Files DriverFile Text) :
    ∃ files', disableWineDriverInstallers.exec files = .ok files' := by
  unfold disableWineDriverInstallers
  cases hdevcon : files .devcon with
  | none => exact ⟨files, Script.exec_whenever_of_false (by rw [hdevcon]; rfl)⟩
  | some devcon =>
    have hcopy : ∃ t, (Script.whenever (fun files : Files DriverFile Text =>
        (files .disabled).isNone) (.command fun files => files.cp .devcon .disabled)).exec files =
          .ok t := by
      cases hdisabled : files .disabled with
      | none =>
        rw [Script.exec_whenever_of_true (by rw [hdisabled]; rfl)]
        exact ⟨_, Script.exec_command_ok.mpr (by rw [Files.cp, hdevcon]; rfl)⟩
      | some _ => exact ⟨files, Script.exec_whenever_of_false (by rw [hdisabled]; rfl)⟩
    obtain ⟨t, ht⟩ := hcopy
    refine ⟨t.rm .devcon, ?_⟩
    rw [Script.exec_whenever_of_true (by rw [hdevcon]; rfl), Script.exec_seq_of_ok ht]
    exact Script.exec_command_ok.mpr rfl

/-- The scan of an iteration, and the upgraders. -/
theorem cleanupStaleUpgrades_still (hstill : g.Still host world)
    (hsnapshot : g.snapshotReady = false)
    (helapsed : ∀ pid ∈ upgraders host world, world.elapsed pid ≠ none) :
    ∃ g', g.cleanupStaleUpgrades host = .ok g' ∧ Informed host world g' ∧
      g'.actions = g.actions ++
        ((upgraders host world).filter (isOld host world)).map .kill := by
  obtain ⟨hrunning, hpids, htime⟩ := scanPrefixProcesses_still hstill
  have hensure : g.ensureSnapshot host = g.scanPrefixProcesses host := by
    unfold ensureSnapshot
    rw [hsnapshot]
    rfl
  have hinformed : Informed host world (g.scanPrefixProcesses host) :=
    ⟨hstill.later htime, rfl, hrunning⟩
  obtain ⟨g', hok, hcontinues, hactions⟩ := foldlM_stopOldUpgrader_ok (upgraders host world)
    (g.scanPrefixProcesses host) hinformed.still helapsed
  refine ⟨g', ?_, hinformed.later hcontinues, ?_⟩
  · unfold cleanupStaleUpgrades
    rw [hensure]
    simp only
    rw [hpids]
    exact hok
  · rw [hactions]
    unfold actions
    rw [scanPrefixProcesses_log]

theorem cleanupStaleUpgrades_fails (hstill : g.Still host world)
    (hsnapshot : g.snapshotReady = false) {pid : Nat} (hpid : pid ∈ upgraders host world)
    (helapsed : world.elapsed pid = none) :
    ∃ g', g.cleanupStaleUpgrades host = .error g' := by
  obtain ⟨-, hpids, htime⟩ := scanPrefixProcesses_still hstill
  have hensure : g.ensureSnapshot host = g.scanPrefixProcesses host := by
    unfold ensureSnapshot
    rw [hsnapshot]
    rfl
  unfold cleanupStaleUpgrades
  rw [hensure]
  simp only
  rw [hpids]
  exact foldlM_stopOldUpgrader_error _ _ (hstill.later htime) hpid helapsed

/-- Where an iteration has come to behind the functions on files. -/
theorem iteration_eq (hstill : g.Still host world) :
    (¬(disableFailedUpgrade host.upgradeEnv).Completes world.upgrade →
      ∃ g', g.iteration host = .error g') ∧
    ((disableFailedUpgrade host.upgradeEnv).Completes world.upgrade →
      ∃ g₁ : Guard, g₁.Still host world ∧ g₁.snapshotReady = false ∧ g₁.actions = g.actions ∧
        g.iteration host = (g₁.cleanupStaleUpgrades host).bind fun g =>
          (g.cleanupOnce host).maintainBackgroundProcesses host) := by
  obtain ⟨start, hstart⟩ : ∃ start : Guard,
    start = { g with snapshotReady := false, started := g.time } := ⟨_, rfl⟩
  have htime : start.time = g.time := hstart ▸ rfl
  have hready : start.snapshotReady = false := hstart ▸ rfl
  have hlog : start.log = g.log := hstart ▸ rfl
  obtain ⟨files, hdrivers⟩ := disableWineDriverInstallers_exec (host.worlds start.time).drivers
  have hnow : host.worlds start.tick.time = world :=
    hstill _ (by show g.time ≤ start.time + 1; omega)
  have hiteration : g.iteration host =
      (runFiles (disableFailedUpgrade host.upgradeEnv) world.upgrade start.tick).bind fun g =>
        (g.cleanupStaleUpgrades host).bind fun g =>
          (g.cleanupOnce host).maintainBackgroundProcesses host := by
    have hfirst : runFiles disableWineDriverInstallers (host.worlds start.time).drivers start =
        .ok start.tick := by
      unfold runFiles
      rw [hdrivers]
    unfold iteration
    rw [← hstart]
    simp only
    rw [hfirst, ← hnow]
    rfl
  rw [hiteration]
  constructor
  · intro hfails
    refine ⟨start.tick, ?_⟩
    cases hexec : (disableFailedUpgrade host.upgradeEnv).exec world.upgrade with
    | ok files => exact absurd ⟨files, hexec⟩ hfails
    | error files =>
      unfold runFiles
      rw [hexec]
      rfl
  · rintro ⟨files, hexec⟩
    refine ⟨start.tick.tick, hstill.later ?_, hready, ?_, ?_⟩
    · show g.time ≤ start.time + 1 + 1
      omega
    · show start.log.map _ = g.log.map _
      rw [hlog]
    · unfold runFiles
      rw [hexec]
      rfl

end StillRuns

end Guard

/-- On a machine that stands still, an iteration completes exactly when its commands find
what they need, and then it does exactly what is expected. -/
theorem guard_iteration_exact (host : GuardHost) (world : World) (g : Guard)
    (hstill : ∀ t, g.time ≤ t → host.worlds t = world) :
    ((∃ g', g.iteration host = .ok g') ↔ IterationCompletes host world) ∧
      ∀ g', g.iteration host = .ok g' →
        g'.actions = g.actions ++ expectedActions host world := by
  obtain ⟨hstops, hgoes⟩ := Guard.iteration_eq hstill
  have hcompletes : IterationCompletes host world → ∃ g', g.iteration host = .ok g' ∧
      g'.actions = g.actions ++ expectedActions host world := by
    intro hall
    obtain ⟨g₁, hstill₁, hsnapshot, hactions₁, heq⟩ := hgoes hall.upgrade
    obtain ⟨g₂, hok₂, hinformed, hactions₂⟩ :=
      Guard.cleanupStaleUpgrades_still hstill₁ hsnapshot hall.elapsed
    obtain ⟨hcontinues, hactions₃⟩ := Guard.cleanupOnce_still hinformed
    obtain ⟨g₄, hok₄, hactions₄⟩ :=
      Guard.maintainBackgroundProcesses_still (hinformed.later hcontinues) hall.binDir
    refine ⟨g₄, ?_, ?_⟩
    · rw [heq, hok₂]
      exact hok₄
    · rw [hactions₄, hactions₃, hactions₂, hactions₁]
      unfold expectedActions
      cases isRunning host world .client <;> simp
  have hfails : (∃ g', g.iteration host = .ok g') → IterationCompletes host world := by
    rintro ⟨g', hok⟩
    have hupgrade : (disableFailedUpgrade host.upgradeEnv).Completes world.upgrade := by
      by_contra hnot
      obtain ⟨e, herror⟩ := hstops hnot
      rw [hok] at herror
      cases herror
    obtain ⟨g₁, hstill₁, hsnapshot, -, heq⟩ := hgoes hupgrade
    have helapsed : ∀ pid ∈ upgraders host world, world.elapsed pid ≠ none := by
      intro pid hpid hnone
      obtain ⟨e, herror⟩ := Guard.cleanupStaleUpgrades_fails hstill₁ hsnapshot hpid hnone
      rw [heq, herror] at hok
      cases hok
    refine ⟨hupgrade, helapsed, fun hclient hmissing => ?_⟩
    cases hdir : world.binDirExists with
    | true => rfl
    | false =>
      obtain ⟨g₂, hok₂, hinformed, -⟩ :=
        Guard.cleanupStaleUpgrades_still hstill₁ hsnapshot helapsed
      obtain ⟨hcontinues, -⟩ := Guard.cleanupOnce_still hinformed
      obtain ⟨e, herror⟩ := Guard.maintainBackgroundProcesses_fails (hinformed.later hcontinues)
        hclient hmissing hdir
      rw [heq, hok₂] at hok
      exact absurd (hok.symm.trans herror) (by simp)
  refine ⟨⟨hfails, fun hall => ?_⟩, fun g' hok => ?_⟩
  · obtain ⟨g', hok, -⟩ := hcompletes hall
    exact ⟨g', hok⟩
  · obtain ⟨g'', hok'', hactions⟩ := hcompletes (hfails ⟨g', hok⟩)
    have hsame := Except.ok.inj (hok.symm.trans hok'')
    rw [hsame]
    exact hactions

/-- A client without its programs, beside an upgrader that hangs. -/
def hangingUpgrade : World where
  pids := [7, 9]
  process
    | 7 => some
        { environ := some ["WINEPREFIX=/wine".toList]
          cmdline := some "GameViewer.exe".toList }
    | 9 => some
        { environ := some ["LANG=C".toList, "WINEPREFIX=/wine".toList]
          cmdline := some "source=upgrade quiet".toList }
    | _ => none
  elapsed _ := some (some 130)

def hangingUpgradeHost : GuardHost where
  winePrefix := "/wine".toList
  isHost := true
  upgradeEnv := { allowWineUpgrade := false, resolve := .other, trKilled := fun _ => false }
  worlds _ := hangingUpgrade

theorem guard_iteration_exact_hangingUpgrade :
    expectedActions hangingUpgradeHost hangingUpgrade =
        [.kill 9, .start .health false, .start .server false] ∧
      ((∃ g', Guard.iteration hangingUpgradeHost {} = .ok g') ↔
        IterationCompletes hangingUpgradeHost hangingUpgrade) ∧
      ∀ g', Guard.iteration hangingUpgradeHost {} = .ok g' →
        g'.actions = Guard.actions {} ++ expectedActions hangingUpgradeHost hangingUpgrade :=
  ⟨by decide, guard_iteration_exact hangingUpgradeHost hangingUpgrade {} fun _ _ => rfl⟩

end UuAmfBridge
