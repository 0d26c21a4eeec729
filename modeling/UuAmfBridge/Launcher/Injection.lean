import UuAmfBridge.Launcher.CommandLine
import UuAmfBridge.Launcher.CompatHook
import UuAmfBridge.Lib.Ownership

/-!
# The start of the real server

`run` of `src/server_launcher.c` from `CreateProcessW` to its end, as a program over the handles
it opens and the memory it has in the new process.  It creates the server suspended, has a thread
of the server load `src/server_compat_hook.c`, and then resumes the server and waits for it, or
ends it.

`ServerEvent` says what `run` does to the server.  `DllMain` installs the hooks in
`LoadLibraryW`, whatever comes of it.  `run` does not wait longer than ten seconds for the thread
of the loader; the thread may have loaded the library by then or not.  The handle of a process
that is open can be waited for, and its first thread resumed.

* `install_hooks`: in an image that imports both functions, an installation hooks both, unless a
  page stays protected.
* `launched_server_shielded`: the server runs only with the library in it, which is beside the
  launcher, and every call through its imports is shielded.  When the launcher ends, the server
  is at its end too, and the launcher has given back each handle once.
-/

namespace UuAmfBridge

open Thread

/-! ## The server -/

/-- How far the process of the server is. -/
inductive ServerPhase where
  | absent
  | suspended
  | running
  | exited
  | terminated (code : UInt32)
  deriving Repr, DecidableEq

/-- The process of the server: its image, the text that the launcher has written into its
memory, and the library that it has loaded from there. -/
structure LaunchedServer where
  process : ServerProcess
  phase : ServerPhase := .absent
  text : Option (List UInt16) := none
  library : Option (List UInt16) := none

/-- What `run` does to the server. -/
inductive ServerEvent where
  /-- `CreateProcessW` with `CREATE_SUSPENDED`. -/
  | created (launch : Launch)
  /-- `WriteProcessMemory`. -/
  | written (text : List UInt16)
  /-- `CreateRemoteThread` with `LoadLibraryW`, which returns `module`. -/
  | loading (module : UInt64) (protect : CompatProtect)
  /-- `ResumeThread`. -/
  | resumed
  /-- `WaitForSingleObject` without a timeout. -/
  | exited
  /-- `TerminateProcess`. -/
  | terminated (code : UInt32)

section Server

variable (sameLibrary : List UInt8 → List UInt8 → Bool) (hooks : CompatHooks)

/-- The server behind an event. -/
def LaunchedServer.apply (server : LaunchedServer) : ServerEvent → LaunchedServer
  | .created _ => { server with phase := .suspended }
  | .written text => { server with text := some text }
  | .loading module protect =>
      if module = 0 then server
      else
        { server with
            process := (uuInstallServerCompatHook sameLibrary hooks server.process protect).1
            library := server.text }
  | .resumed => { server with phase := .running }
  | .exited => { server with phase := .exited }
  | .terminated code => { server with phase := .terminated code }

/-- The server answers an event with the state behind it. -/
def serverMachine : Machine LaunchedServer ServerEvent LaunchedServer where
  step server event := (server.apply sameLibrary hooks event, server.apply sameLibrary hooks event)

end Server

/-! ## The launcher -/

/-- The kinds of what the launcher acquires. -/
inductive LauncherKind where
  | process
  | thread
  | loader
  | memory
  deriving Repr, DecidableEq

/-- The programs of the launcher.  It has one thread and no monitor. -/
abbrev LauncherProgram := Program LauncherKind Unit Empty

/-- The results of the calls in `run`; `exitCode` is that of `GetExitCodeProcess`. -/
structure InjectEnv where
  createProcess : Bool := true
  virtualAlloc : Bool := true
  writeMemory : Bool := true
  getProcAddress : Bool := true
  createRemoteThread : Bool := true
  module : UInt64
  protect : CompatProtect := {}
  loaderEnded : Bool := true
  getExitCodeThread : Bool := true
  exitCode : Option UInt32 := some 0

/-- `loader_result`, the exit code of the thread that returns from `LoadLibraryW`. -/
def InjectEnv.loaderResult (env : InjectEnv) : UInt32 := env.module.toUInt32

/-- The process and its first thread. -/
structure ServerHandles where
  process : Nat
  thread : Nat

/-- What `run` has done to the server, its result, and what it has written to the console. -/
structure LauncherEnd where
  events : List ServerEvent := []
  code : UInt32
  message : Option String := none

/-- `fail`. -/
def launcherFail (events : List ServerEvent) (message : String) : LauncherProgram LauncherEnd :=
  pure { events, code := 1, message := some message }

/-- `VirtualFreeEx`, where there is memory. -/
def freeRemotePath (process : Nat) : Option Nat → LauncherProgram Unit
  | none => pure ()
  | some memory => do
      touch (.process, process)
      release (.memory, memory)

/-- `ERROR_DLL_INIT_FAILED`. -/
def errorDllInitFailed : UInt32 := 1114

/-- The message behind `CreateProcessW`. -/
def cannotStart : String := "UU server launcher could not start the real server."

/-- The message of `injection_failed`. -/
def cannotInject : String :=
  "UU server launcher could not inject the Wine compatibility hook."

/-- The label `injection_failed`. -/
def injectionFailed (server : ServerHandles) (memory loader : Option Nat)
    (events : List ServerEvent) : LauncherProgram LauncherEnd := do
  giveBack .loader loader
  freeRemotePath server.process memory
  touch (.process, server.process)
  release (.thread, server.thread)
  release (.process, server.process)
  launcherFail (events ++ [.terminated errorDllInitFailed]) cannotInject

/-- `run` behind the end of the loader. -/
def resumeServer (env : InjectEnv) (server : ServerHandles) (memory loader : Nat)
    (events : List ServerEvent) : LauncherProgram LauncherEnd := do
  release (.loader, loader)
  touch (.process, server.process)
  release (.memory, memory)
  touch (.thread, server.thread)
  release (.thread, server.thread)
  touch (.process, server.process)
  release (.process, server.process)
  pure { events := events ++ [.resumed, .exited], code := env.exitCode.getD 1 }

/-- `run` behind `CreateRemoteThread`. -/
def awaitLoader (env : InjectEnv) (server : ServerHandles) (memory : Nat)
    (events : List ServerEvent) : Option Nat → LauncherProgram LauncherEnd
  | none => injectionFailed server (some memory) none events
  | some loader => do
      touch (.loader, loader)
      let events := events ++ [.loading env.module env.protect]
      if env.loaderEnded && env.getExitCodeThread && env.loaderResult != 0 then
        resumeServer env server memory loader events
      else injectionFailed server (some memory) (some loader) events

/-- `run` behind `WriteProcessMemory`. -/
def loadHook (env : InjectEnv) (server : ServerHandles) (memory : Nat)
    (events : List ServerEvent) : LauncherProgram LauncherEnd :=
  if !env.getProcAddress then injectionFailed server (some memory) none events
  else do
    touch (.process, server.process)
    touch (.memory, memory)
    let loader ← allocate .loader env.createRemoteThread
    awaitLoader env server memory events loader

/-- `run` behind `VirtualAllocEx`. -/
def writeHookPath (env : InjectEnv) (launch : Launch) (server : ServerHandles)
    (events : List ServerEvent) : Option Nat → LauncherProgram LauncherEnd
  | none => injectionFailed server none none events
  | some memory => do
      touch (.process, server.process)
      touch (.memory, memory)
      if !env.writeMemory then injectionFailed server (some memory) none events
      else loadHook env server memory (events ++ [.written launch.hook])

/-- `run` from `CreateProcessW` on. -/
def startServer (env : InjectEnv) (launch : Launch) : LauncherProgram LauncherEnd :=
  if !env.createProcess then
    launcherFail [] cannotStart
  else do
    let process ← take .process
    let thread ← take .thread
    touch (.process, process)
    let memory ← allocate .memory env.virtualAlloc
    writeHookPath env launch ⟨process, thread⟩ [.created launch] memory

/-- `run`. -/
def launcherProgram (env : InjectEnv) (directory : Option (List UInt16))
    (commandLine : List UInt16) : LauncherProgram LauncherEnd :=
  match runLauncher directory commandLine with
  | .error message => launcherFail [] message
  | .ok launch => startServer env launch

/-! ## What becomes of the server -/

section Outcome

variable (sameLibrary : List UInt8 → List UInt8 → Bool) (hooks : CompatHooks)
  (start : ServerProcess)

/-- The states of the server, one behind each event. -/
def serverStates (events : List ServerEvent) : List LaunchedServer :=
  (serverMachine sameLibrary hooks).outputs { process := start } events

/-- The state of the server behind all events. -/
def serverBehind (events : List ServerEvent) : LaunchedServer :=
  (serverMachine sameLibrary hooks).run { process := start } events

/-- Every call of `run` for the loader succeeds, and the exit code of its thread is not zero. -/
def InjectEnv.injects (env : InjectEnv) : Bool :=
  env.virtualAlloc && env.writeMemory && env.getProcAddress && env.createRemoteThread &&
    env.loaderEnded && env.getExitCodeThread && env.loaderResult != 0

/-- The image imports both functions by name. -/
structure ServerProcess.Hookable : Prop where
  dosSignature : start.image.dosSignature = true
  ntSignature : start.image.ntSignature = true
  imports : ∀ hook ∈ hooks.all, (firstImport sameLibrary hook start.image.imports).isSome = true

/-- The server has loaded the library beside the launcher, and its imports lead to the hooks,
where it has them and their pages do not stay protected. -/
structure LaunchedServer.Ready (env : InjectEnv) (launch : Launch) (server : LaunchedServer) :
    Prop where
  library : server.library = some launch.hook
  hooked : start.Hookable sameLibrary hooks → env.protect.getChild = true →
    env.protect.remove = true →
      ∀ hook ∈ hooks.all, FirstHooked sameLibrary hook server.process.image

/-- What `run` makes of a server that it tries to create. -/
structure ServerOutcome (env : InjectEnv) (launch : Launch) (last : LauncherEnd) : Prop where
  shielded : ∀ server ∈ serverStates sameLibrary hooks start last.events,
    ImageShielded sameLibrary hooks start server.process
  ready : ∀ server ∈ serverStates sameLibrary hooks start last.events,
    server.phase = .running → server.Ready sameLibrary hooks start env launch
  runs : (∃ server ∈ serverStates sameLibrary hooks start last.events, server.phase = .running) ↔
    (env.createProcess && env.injects) = true
  ended : (serverBehind sameLibrary hooks start last.events).phase =
    if !env.createProcess then .absent
    else if env.injects then .exited
    else .terminated errorDllInitFailed
  code : last.code = if env.createProcess && env.injects then env.exitCode.getD 1 else 1
  message : last.message =
    if !env.createProcess then some cannotStart
    else if env.injects then none
    else some cannotInject

variable {sameLibrary} {hooks} {start}

/-! ### The library in the server -/

/-- A search finds something in a list if it does in another one, where it finds something in
every element of the one if it does in that of the other. -/
theorem isSome_findSome {α β γ : Type*} {f : α → Option γ} {g : β → Option γ} {left : List α}
    {right : List β} (h : List.Forall₂ (fun a b => (g b).isSome = (f a).isSome) left right) :
    (right.findSome? g).isSome = (left.findSome? f).isSome := by
  induction h with
  | nil => rfl
  | @cons a b _ _ hhead _ ih =>
    rw [List.findSome?_cons, List.findSome?_cons]
    cases ha : f a with
    | none =>
      rw [ha] at hhead
      rw [Option.isNone_iff_eq_none.mp (Option.isSome_eq_false_iff.mp hhead)]
      exact ih
    | some value =>
      rw [ha] at hhead
      obtain ⟨other, hother⟩ := Option.isSome_iff_exists.mp hhead
      rw [hother]
      rfl

theorem find_changed {changing : List ImportHook} {library : List UInt8} (name : ImportName)
    {before after : List ImportSlot}
    (hchange : List.Forall₂ (SlotChange sameLibrary changing library) before after) :
    (after.find? fun slot => decide (slot.name = name)).isSome =
      (before.find? fun slot => decide (slot.name = name)).isSome := by
  rw [List.isSome_find?, List.isSome_find?]
  induction hchange with
  | nil => rfl
  | @cons old new _ _ hslot _ ih =>
    have hname : new.name = old.name := by
      rcases hslot with rfl | ⟨_, _, _, _, rfl⟩
      · rfl
      · rfl
    rw [List.any_cons, List.any_cons, hname, ih]

/-- A walk does not change which functions the image imports. -/
theorem firstImport_changed {hook : ImportHook} {changing : List ImportHook}
    {before after : List ImportDescriptor}
    (hchange : List.Forall₂ (DescriptorChange sameLibrary changing) before after) :
    (firstImport sameLibrary hook after).isSome = (firstImport sameLibrary hook before).isSome := by
  refine isSome_findSome (hchange.imp ?_)
  rintro old new ⟨hlibrary, hslots⟩
  rw [hlibrary]
  cases sameLibrary old.library hook.library with
  | false => rfl
  | true => exact find_changed _ hslots

/-- In an image that imports both functions, an installation hooks both, unless a page stays
protected. -/
theorem install_hooks (hhookable : start.Hookable sameLibrary hooks) {protect : CompatProtect}
    (hchild : protect.getChild = true) (hremove : protect.remove = true) {hook : ImportHook}
    (hhook : hook ∈ hooks.all) :
    FirstHooked sameLibrary hook
      (uuInstallServerCompatHook sameLibrary hooks start protect).1.image := by
  have hchange := @changes_patchImport sameLibrary hooks.all hooks.getChild (getChild_mem hooks)
    protect.getChild start.image start.originalCmGetChild
  have hsignatures : (patchImport sameLibrary hooks.getChild protect.getChild start.image
      start.originalCmGetChild).1.dosSignature = true ∧
      (patchImport sameLibrary hooks.getChild protect.getChild start.image
        start.originalCmGetChild).1.ntSignature = true := by
    unfold patchImport
    rw [if_neg (by simp [hhookable.dosSignature]), if_neg (by simp [hhookable.ntSignature])]
    exact ⟨hhookable.dosSignature, hhookable.ntSignature⟩
  have himports := hhookable.imports _ (remove_mem hooks)
  rw [← firstImport_changed hchange] at himports
  have hfound : (uuInstallServerCompatHook sameLibrary hooks start protect).2 = true := by
    refine Bool.and_eq_true_iff.mpr ⟨?_, ?_⟩
    · exact patchImport_found hhookable.dosSignature hhookable.ntSignature hchild
        (hhookable.imports _ (getChild_mem hooks)) _
    · exact patchImport_found hsignatures.1 hsignatures.2 hremove himports _
  exact (hooked_of_install hfound hhook).firstHooked

theorem imageShielded_install (hfresh : start.Fresh hooks) (protect : CompatProtect) :
    ImageShielded sameLibrary hooks start
      (uuInstallServerCompatHook sameLibrary hooks start protect).1 :=
  (compatSafe_run hfresh [protect]).imageShielded hfresh

theorem imageShielded_start (hfresh : start.Fresh hooks) :
    ImageShielded sameLibrary hooks start start :=
  (CompatSafe.initial hfresh).imageShielded hfresh

/-! ### The events of a run -/

/-- The server with the path of the library in it, before a thread loads it. -/
def suspendedServer (start : ServerProcess) (text : Option (List UInt16)) : LaunchedServer where
  process := start
  phase := .suspended
  text := text

/-- A server that has been created and does not run. -/
structure HeldBack (sameLibrary : List UInt8 → List UInt8 → Bool) (hooks : CompatHooks)
    (start : ServerProcess) (events : List ServerEvent) : Prop where
  shielded : ∀ server ∈ serverStates sameLibrary hooks start events,
    ImageShielded sameLibrary hooks start server.process
  suspended : ∀ server ∈ serverStates sameLibrary hooks start events, server.phase = .suspended
  behind : serverBehind sameLibrary hooks start events ∈
    serverStates sameLibrary hooks start events

theorem outputs_snoc (server : LaunchedServer) (events : List ServerEvent) (event : ServerEvent) :
    (serverMachine sameLibrary hooks).outputs server (events ++ [event]) =
      (serverMachine sameLibrary hooks).outputs server events ++
        [((serverMachine sameLibrary hooks).run server events).apply sameLibrary hooks event] ∧
      (serverMachine sameLibrary hooks).run server (events ++ [event]) =
        ((serverMachine sameLibrary hooks).run server events).apply sameLibrary hooks event := by
  induction events generalizing server with
  | nil => exact ⟨rfl, rfl⟩
  | cons first events ih =>
    obtain ⟨houtputs, hrun⟩ := ih ((serverMachine sameLibrary hooks).step server first).1
    rw [List.cons_append, Machine.outputs_cons, Machine.run_cons, Machine.outputs_cons,
      Machine.run_cons, houtputs, hrun]
    exact ⟨rfl, rfl⟩

theorem serverBehind_snoc (events : List ServerEvent) (event : ServerEvent) :
    serverBehind sameLibrary hooks start (events ++ [event]) =
      (serverBehind sameLibrary hooks start events).apply sameLibrary hooks event :=
  (outputs_snoc _ events event).2

theorem mem_serverStates_snoc {server : LaunchedServer} {events : List ServerEvent}
    {event : ServerEvent} :
    server ∈ serverStates sameLibrary hooks start (events ++ [event]) ↔
      server ∈ serverStates sameLibrary hooks start events ∨
        server = (serverBehind sameLibrary hooks start events).apply sameLibrary hooks event := by
  unfold serverStates
  rw [(outputs_snoc _ events event).1, List.mem_append, List.mem_singleton]
  exact Iff.rfl

/-- One event more keeps a server back if the server behind it is shielded and suspended. -/
theorem HeldBack.snoc {events : List ServerEvent} {event : ServerEvent}
    (hheld : HeldBack sameLibrary hooks start events)
    (hshielded : ImageShielded sameLibrary hooks start
      ((serverBehind sameLibrary hooks start events).apply sameLibrary hooks event).process)
    (hphase : ((serverBehind sameLibrary hooks start events).apply
      sameLibrary hooks event).phase = .suspended) :
    HeldBack sameLibrary hooks start (events ++ [event]) where
  shielded server hserver := by
    rcases mem_serverStates_snoc.mp hserver with hbefore | rfl
    · exact hheld.shielded server hbefore
    · exact hshielded
  suspended server hserver := by
    rcases mem_serverStates_snoc.mp hserver with hbefore | rfl
    · exact hheld.suspended server hbefore
    · exact hphase
  behind := mem_serverStates_snoc.mpr (Or.inr (serverBehind_snoc events event))

theorem heldBack_created (hfresh : start.Fresh hooks) (launch : Launch) :
    HeldBack sameLibrary hooks start [.created launch] where
  shielded server hserver := by
    rw [List.mem_singleton.mp hserver]
    exact imageShielded_start hfresh
  suspended server hserver := by
    rw [List.mem_singleton.mp hserver]
    rfl
  behind := List.mem_singleton.mpr rfl

theorem heldBack_written (hfresh : start.Fresh hooks) (launch : Launch) :
    HeldBack sameLibrary hooks start [.created launch, .written launch.hook] :=
  (heldBack_created hfresh launch).snoc (imageShielded_start hfresh) rfl

theorem heldBack_loading (hfresh : start.Fresh hooks) (launch : Launch) (module : UInt64)
    (protect : CompatProtect) :
    HeldBack sameLibrary hooks start
      [.created launch, .written launch.hook, .loading module protect] := by
  refine (heldBack_written hfresh launch).snoc ?_ ?_
  · show ImageShielded sameLibrary hooks start
      (if module = 0 then suspendedServer start (some launch.hook) else _ : LaunchedServer).process
    by_cases hmodule : module = 0
    · rw [if_pos hmodule]
      exact imageShielded_start hfresh
    · rw [if_neg hmodule]
      exact imageShielded_install hfresh protect
  · show (if module = 0 then suspendedServer start (some launch.hook) else _ :
      LaunchedServer).phase = .suspended
    by_cases hmodule : module = 0
    · rw [if_pos hmodule]
      rfl
    · rw [if_neg hmodule]
      rfl

/-- `TerminateProcess` ends a server that has been held back. -/
theorem HeldBack.terminated {events : List ServerEvent} {env : InjectEnv} {launch : Launch}
    (hheld : HeldBack sameLibrary hooks start events) (hcreated : env.createProcess = true)
    (hfails : env.injects = false) :
    ServerOutcome sameLibrary hooks start env launch
      { events := events ++ [.terminated errorDllInitFailed]
        code := 1
        message := some cannotInject } := by
  have hphase : ∀ server ∈ serverStates sameLibrary hooks start
      (events ++ [.terminated errorDllInitFailed]), server.phase ≠ .running := by
    intro server hserver
    rcases mem_serverStates_snoc.mp hserver with hbefore | rfl
    · rw [hheld.suspended server hbefore]
      exact ServerPhase.noConfusion
    · exact ServerPhase.noConfusion
  refine ⟨?_, ?_, ?_, ?_, ?_, ?_⟩
  · intro server hserver
    rcases mem_serverStates_snoc.mp hserver with hbefore | rfl
    · exact hheld.shielded server hbefore
    · have hshielded := hheld.shielded _ hheld.behind
      exact hshielded
  · exact fun server hserver hrunning => absurd hrunning (hphase server hserver)
  · rw [hcreated, hfails]
    constructor
    · rintro ⟨server, hserver, hrunning⟩
      exact absurd hrunning (hphase server hserver)
    · exact fun h => absurd h Bool.false_ne_true
  · rw [serverBehind_snoc, hcreated, hfails]
    rfl
  · rw [hcreated, hfails]
    rfl
  · rw [hcreated, hfails]
    rfl

/-- The server behind the loader, with a module that is not null. -/
def loadedServer (sameLibrary : List UInt8 → List UInt8 → Bool) (hooks : CompatHooks)
    (start : ServerProcess) (launch : Launch) (protect : CompatProtect) : LaunchedServer where
  process := (uuInstallServerCompatHook sameLibrary hooks start protect).1
  phase := .suspended
  text := some launch.hook
  library := some launch.hook

theorem serverStates_resumed {module : UInt64} (hmodule : module ≠ 0) (launch : Launch)
    (protect : CompatProtect) :
    serverStates sameLibrary hooks start
        [.created launch, .written launch.hook, .loading module protect, .resumed, .exited] =
      serverStates sameLibrary hooks start
          [.created launch, .written launch.hook, .loading module protect] ++
        [{ loadedServer sameLibrary hooks start launch protect with phase := .running },
          { loadedServer sameLibrary hooks start launch protect with phase := .exited }] := by
  simp [serverStates, Machine.outputs, Machine.exec, serverMachine,
    LaunchedServer.apply, loadedServer, hmodule]

/-- Before it runs the server is held back, and then it has the library. -/
theorem mem_serverStates_resumed (hfresh : start.Fresh hooks) {module : UInt64}
    (hmodule : module ≠ 0) {launch : Launch} {protect : CompatProtect} {server : LaunchedServer}
    (hserver : server ∈ serverStates sameLibrary hooks start
      [.created launch, .written launch.hook, .loading module protect, .resumed, .exited]) :
    server.phase = .suspended ∧ ImageShielded sameLibrary hooks start server.process ∨
      server.process = (uuInstallServerCompatHook sameLibrary hooks start protect).1 ∧
        server.library = some launch.hook := by
  have hheld := @heldBack_loading sameLibrary hooks start hfresh launch module protect
  rw [serverStates_resumed hmodule, List.mem_append, List.mem_pair] at hserver
  rcases hserver with hbefore | rfl | rfl
  · exact Or.inl ⟨hheld.suspended server hbefore, hheld.shielded server hbefore⟩
  · exact Or.inr ⟨rfl, rfl⟩
  · exact Or.inr ⟨rfl, rfl⟩

/-- A server whose loader has ended with a module runs, and `run` waits for its end. -/
theorem resumed_outcome (hfresh : start.Fresh hooks) {env : InjectEnv} {launch : Launch}
    (hcreated : env.createProcess = true) (hinjects : env.injects = true) :
    ServerOutcome sameLibrary hooks start env launch
      { events := [.created launch, .written launch.hook, .loading env.module env.protect,
          .resumed, .exited]
        code := env.exitCode.getD 1 } := by
  have hmodule : env.module ≠ 0 := by
    intro hzero
    simp [InjectEnv.injects, InjectEnv.loaderResult, hzero] at hinjects
  refine ⟨?_, ?_, ?_, ?_, ?_, ?_⟩
  · intro server hserver
    rcases mem_serverStates_resumed hfresh hmodule hserver with ⟨-, hshielded⟩ | ⟨hprocess, -⟩
    · exact hshielded
    · rw [hprocess]
      exact imageShielded_install hfresh env.protect
  · intro server hserver hrunning
    rcases mem_serverStates_resumed hfresh hmodule hserver with
      ⟨hsuspended, -⟩ | ⟨hprocess, hlibrary⟩
    · rw [hsuspended] at hrunning
      cases hrunning
    · refine ⟨hlibrary, fun hhookable hchild hremove hook hhook => ?_⟩
      rw [hprocess]
      exact install_hooks hhookable hchild hremove hhook
  · rw [hcreated, hinjects]
    refine ⟨fun _ => rfl, fun _ => ?_⟩
    refine ⟨{ loadedServer sameLibrary hooks start launch env.protect with phase := .running },
      ?_, rfl⟩
    rw [serverStates_resumed hmodule]
    exact List.mem_append_right _ List.mem_cons_self
  · rw [hcreated, hinjects]
    rfl
  · rw [hcreated, hinjects]
    rfl
  · rw [hcreated, hinjects]
    rfl

/-- Where the server cannot be created, nothing is done. -/
theorem absent_outcome {env : InjectEnv} {launch : Launch}
    (hcreated : env.createProcess = false) :
    ServerOutcome sameLibrary hooks start env launch
      { code := 1, message := some cannotStart } where
  shielded server hserver := absurd hserver List.not_mem_nil
  ready server hserver := absurd hserver List.not_mem_nil
  runs := by
    rw [hcreated, Bool.false_and]
    constructor
    · rintro ⟨server, hserver, -⟩
      exact absurd hserver List.not_mem_nil
    · exact fun h => absurd h Bool.false_ne_true
  ended := by
    rw [hcreated]
    rfl
  code := by
    rw [hcreated]
    rfl
  message := by
    rw [hcreated]
    rfl

/-! ### The handles -/

/-- The launcher has one thread. -/
def launcherSystem : ThreadSystem LauncherKind Unit Empty where
  body argument := argument.elim
  given argument := argument.elim
  guards _ := 0

/-- The process and its first thread. -/
def ServerHandles.resources (server : ServerHandles) : Multiset (Resource LauncherKind) :=
  {(.thread, server.thread)} + {(.process, server.process)}

open ThreadSystem

theorem freeRemotePath_spec (process : Nat) (memory : Option Nat)
    (rest : Multiset (Resource LauncherKind)) (hprocess : (.process, process) ∈ rest) :
    launcherSystem.Spec False false (target .memory memory + rest) (freeRemotePath process memory)
      (fun _ => True) fun _ => rest := by
  cases memory with
  | none => exact Spec.ret trivial (zero_add rest).symm
  | some memory =>
    refine Spec.touch_then (Multiset.mem_add.mpr (Or.inr hprocess)) ?_
    exact (Spec.release _).beside rfl fun _ _ => (zero_add rest).symm

/-- The label `injection_failed` ends a server that has been held back, and gives back all that
`run` has got. -/
theorem injectionFailed_spec {events : List ServerEvent} {env : InjectEnv} {launch : Launch}
    (hheld : HeldBack sameLibrary hooks start events) (hcreated : env.createProcess = true)
    (hfails : env.injects = false) (server : ServerHandles) (memory loader : Option Nat) :
    launcherSystem.Spec False false
      (target .loader loader + (target .memory memory + server.resources))
      (injectionFailed server memory loader events)
      (ServerOutcome sameLibrary hooks start env launch) fun _ => 0 := by
  have hprocess : (LauncherKind.process, server.process) ∈ server.resources := by
    simp [ServerHandles.resources]
  refine Spec.giveBack_then rfl ?_
  refine Spec.bind (freeRemotePath_spec server.process memory server.resources hprocess)
    (add_zero _).symm fun _ _ => ?_
  rw [add_zero]
  refine Spec.touch_then hprocess (Spec.release_then rfl ?_)
  refine Spec.release_then (add_zero _).symm ?_
  exact Spec.ret (hheld.terminated hcreated hfails) rfl

theorem resumeServer_spec (hfresh : start.Fresh hooks) {env : InjectEnv} {launch : Launch}
    (hcreated : env.createProcess = true) (hinjects : env.injects = true) (server : ServerHandles)
    (memory loader : Nat) :
    launcherSystem.Spec False false
      ({(.loader, loader)} + ({(.memory, memory)} + server.resources))
      (resumeServer env server memory loader
        [.created launch, .written launch.hook, .loading env.module env.protect])
      (ServerOutcome sameLibrary hooks start env launch) fun _ => 0 := by
  have hprocess : (LauncherKind.process, server.process) ∈ server.resources := by
    simp [ServerHandles.resources]
  have hthread : (LauncherKind.thread, server.thread) ∈ server.resources := by
    simp [ServerHandles.resources]
  refine Spec.release_then rfl ?_
  refine Spec.touch_then (Multiset.mem_add.mpr (Or.inr hprocess)) (Spec.release_then rfl ?_)
  refine Spec.touch_then hthread (Spec.release_then rfl ?_)
  refine Spec.touch_then (Multiset.mem_singleton_self _) ?_
  refine Spec.release_then (add_zero _).symm ?_
  exact Spec.ret (resumed_outcome hfresh hcreated hinjects) rfl

/-- The calls up to `CreateRemoteThread` that succeed where `awaitLoader` is reached. -/
theorem injects_eq {env : InjectEnv} (halloc : env.virtualAlloc = true)
    (hwrite : env.writeMemory = true) (haddress : env.getProcAddress = true)
    (hthread : env.createRemoteThread = true) :
    env.injects = (env.loaderEnded && env.getExitCodeThread && env.loaderResult != 0) := by
  unfold InjectEnv.injects
  rw [halloc, hwrite, haddress, hthread]
  rfl

theorem awaitLoader_spec (hfresh : start.Fresh hooks) {env : InjectEnv} {launch : Launch}
    (hcreated : env.createProcess = true) (halloc : env.virtualAlloc = true)
    (hwrite : env.writeMemory = true) (haddress : env.getProcAddress = true)
    (server : ServerHandles) (memory : Nat) (loader : Option Nat)
    (hloader : loader.isSome = env.createRemoteThread) :
    launcherSystem.Spec False false
      (target .loader loader + ({(.memory, memory)} + server.resources))
      (awaitLoader env server memory [.created launch, .written launch.hook] loader)
      (ServerOutcome sameLibrary hooks start env launch) fun _ => 0 := by
  cases loader with
  | none =>
    have hfails : env.injects = false := by
      unfold InjectEnv.injects
      rw [← hloader]
      simp
    exact injectionFailed_spec (heldBack_written hfresh launch) hcreated hfails server
      (some memory) none
  | some loader =>
    have hinjects := injects_eq halloc hwrite haddress hloader.symm
    refine Spec.touch_then (by simp) ?_
    by_cases hresult : (env.loaderEnded && env.getExitCodeThread && env.loaderResult != 0) = true
    · simp only [if_pos hresult]
      exact resumeServer_spec hfresh hcreated (hinjects.trans hresult) server memory loader
    · have hfails : env.injects = false := hinjects.trans (Bool.eq_false_iff.mpr hresult)
      simp only [if_neg hresult]
      exact injectionFailed_spec (heldBack_loading hfresh launch env.module env.protect) hcreated
        hfails server (some memory) (some loader)

theorem loadHook_spec (hfresh : start.Fresh hooks) {env : InjectEnv} {launch : Launch}
    (hcreated : env.createProcess = true) (halloc : env.virtualAlloc = true)
    (hwrite : env.writeMemory = true) (server : ServerHandles) (memory : Nat) :
    launcherSystem.Spec False false ({(.memory, memory)} + server.resources)
      (loadHook env server memory [.created launch, .written launch.hook])
      (ServerOutcome sameLibrary hooks start env launch) fun _ => 0 := by
  unfold loadHook
  cases haddress : env.getProcAddress with
  | false =>
    have hfails : env.injects = false := by
      unfold InjectEnv.injects
      simp [haddress]
    rw [Bool.not_false, if_pos rfl, ← zero_add ({(.memory, memory)} + server.resources)]
    exact injectionFailed_spec (heldBack_written hfresh launch) hcreated hfails server
      (some memory) none
  | true =>
    rw [Bool.not_true, if_neg Bool.false_ne_true]
    refine Spec.touch_then (by simp [ServerHandles.resources]) (Spec.touch_then (by simp) ?_)
    refine Spec.allocate_then fun loader hloader => ?_
    exact awaitLoader_spec hfresh hcreated halloc hwrite haddress server memory loader hloader

theorem writeHookPath_spec (hfresh : start.Fresh hooks) {env : InjectEnv} {launch : Launch}
    (hcreated : env.createProcess = true) (server : ServerHandles) (memory : Option Nat)
    (hmemory : memory.isSome = env.virtualAlloc) :
    launcherSystem.Spec False false (target .memory memory + server.resources)
      (writeHookPath env launch server [.created launch] memory)
      (ServerOutcome sameLibrary hooks start env launch) fun _ => 0 := by
  cases memory with
  | none =>
    have hfails : env.injects = false := by
      unfold InjectEnv.injects
      rw [← hmemory]
      rfl
    rw [← zero_add (target LauncherKind.memory none + server.resources)]
    exact injectionFailed_spec (heldBack_created hfresh launch) hcreated hfails server none none
  | some memory =>
    refine Spec.touch_then (by simp [ServerHandles.resources]) (Spec.touch_then (by simp) ?_)
    cases hwrite : env.writeMemory with
    | false =>
      have hfails : env.injects = false := by
        unfold InjectEnv.injects
        simp [hwrite]
      rw [← zero_add (target LauncherKind.memory (some memory) + server.resources)]
      exact injectionFailed_spec (heldBack_created hfresh launch) hcreated hfails server
        (some memory) none
    | true => exact loadHook_spec hfresh hcreated hmemory.symm hwrite server memory

theorem startServer_spec (hfresh : start.Fresh hooks) (env : InjectEnv) (launch : Launch) :
    launcherSystem.Spec False false 0 (startServer env launch)
      (ServerOutcome sameLibrary hooks start env launch) fun _ => 0 := by
  unfold startServer
  cases hcreated : env.createProcess with
  | false =>
    rw [Bool.not_false, if_pos rfl]
    exact Spec.ret (absent_outcome hcreated) rfl
  | true =>
    rw [Bool.not_true, if_neg Bool.false_ne_true]
    refine Spec.take_then fun process => Spec.take_then fun thread => ?_
    refine Spec.touch_then (by simp) (Spec.allocate_then fun memory hmemory => ?_)
    rw [add_zero]
    exact writeHookPath_spec hfresh hcreated ⟨process, thread⟩ memory hmemory

/-- Whatever names the system gives to the handles and the memory, `run` uses and gives back only
what it has got, and has given back everything at its end.  Before `CreateProcessW` it ends with
a message and nothing done.  Behind it, every call through the imports of the server is shielded
at any time, the server runs if and only if all calls for the loader have succeeded with an exit
code that is not zero, it runs only with the library beside the launcher in it and with the
imports hooked that can be, and at the end of `run` it is at its own end, with its exit code
handed on, or has been terminated. -/
theorem launched_server_shielded (hfresh : start.Fresh hooks) (env : InjectEnv)
    (directory : Option (List UInt16)) (commandLine : List UInt16) :
    launcherSystem.Spec False false 0 (launcherProgram env directory commandLine)
      (fun last =>
        (∀ message, runLauncher directory commandLine = .error message →
          last = { code := 1, message := some message }) ∧
        ∀ launch, runLauncher directory commandLine = .ok launch →
          ServerOutcome sameLibrary hooks start env launch last)
      fun _ => 0 := by
  unfold launcherProgram
  cases runLauncher directory commandLine with
  | error message =>
    refine Spec.ret ⟨fun other hother => ?_, fun launch hlaunch => by cases hlaunch⟩ rfl
    rw [Except.error.inj hother]
  | ok launch =>
    have hstart := @startServer_spec sameLibrary hooks start hfresh env launch
    refine hstart.consequence fun last hlast => ⟨?_, rfl⟩
    refine ⟨fun message hmessage => (by cases hmessage), fun other hother => ?_⟩
    rw [← Except.ok.inj hother]
    exact hlast

end Outcome

/-! ## A launch -/

theorem removingServer_hookable : removingServer.Hookable sameLetters lowCompatHooks where
  dosSignature := rfl
  ntSignature := rfl
  imports := by
    intro hook hhook
    unfold CompatHooks.all at hhook
    simp only [List.mem_cons, List.not_mem_nil, or_false] at hhook
    rcases hhook with rfl | rfl
    · decide
    · decide

/-- A loader that returns a module. -/
def loadedEnv : InjectEnv := { module := 65536, exitCode := some 7 }

/-- The server runs with its first import of `CM_Get_Child` hooked, and the launcher hands its
exit code on. -/
theorem removingServer_launched :
    launcherSystem.Spec False false 0
      (launcherProgram loadedEnv (some (wideLiteral "C:/uu/GameViewerServer.exe"))
        (wideLiteral "GameViewerServer.exe -x"))
      (fun last => last.code = 7 ∧
        ∃ server ∈ serverStates sameLetters lowCompatHooks removingServer last.events,
          server.phase = .running ∧
            FirstHooked sameLetters lowCompatHooks.getChild server.process.image)
      fun _ => 0 := by
  have hspec := @launched_server_shielded sameLetters lowCompatHooks removingServer
    removingServer_fresh loadedEnv (some (wideLiteral "C:/uu/GameViewerServer.exe"))
    (wideLiteral "GameViewerServer.exe -x")
  have hok : (runLauncher (some (wideLiteral "C:/uu/GameViewerServer.exe"))
      (wideLiteral "GameViewerServer.exe -x")).isOk = true := by decide
  refine hspec.consequence fun last hlast => ⟨?_, rfl⟩
  cases hlaunch : runLauncher (some (wideLiteral "C:/uu/GameViewerServer.exe"))
      (wideLiteral "GameViewerServer.exe -x") with
  | error message =>
    rw [hlaunch] at hok
    cases hok
  | ok launch =>
    have houtcome := hlast.2 launch hlaunch
    obtain ⟨server, hserver, hrunning⟩ := houtcome.runs.mpr (by decide)
    have hready := houtcome.ready server hserver hrunning
    refine ⟨houtcome.code, server, hserver, hrunning, ?_⟩
    exact hready.hooked removingServer_hookable rfl rfl _ (getChild_mem lowCompatHooks)

end UuAmfBridge
