import UuAmfBridge.Capture.ImportTable
import UuAmfBridge.Lib.Machine

/-!
# The import hooks of the capture library

`uu_install_wayland_capture_hook` of `src/wayland_capture_hook.c` with the three functions
it patches by.  The library hooks `BitBlt` in one module and `SendInput` in the same module
and in the process, and keeps one original pointer for each of the two hooks, whatever the
number of modules.

A call is a sequence of patches (`PatchSteps`), so an invariant is shown for one patch.
`HookSafe` is the invariant of one hook: the original pointer is not the hook, it has been
read from an import of the function, and it is there once any slot holds the hook.

The critical sections and `transport_state` are left out: they are set up by the first call
and have no part in the patches.
-/

namespace UuAmfBridge

/-- The bytes of an ASCII string literal. -/
def importText (text : String) : List UInt8 := text.toList.map fun c => UInt8.ofNat c.toNat

/-- The addresses of the two hooks. -/
structure CaptureHooks where
  captureBitblt : UInt64
  captureSendInput : UInt64
  bitblt_ne_zero : captureBitblt ≠ 0
  sendInput_ne_zero : captureSendInput ≠ 0
  bitblt_ne_sendInput : captureBitblt ≠ captureSendInput

def CaptureHooks.bitblt (hooks : CaptureHooks) : ImportHook where
  library := importText "gdi32.dll"
  function := importText "BitBlt"
  address := hooks.captureBitblt
  address_ne_zero := hooks.bitblt_ne_zero

def CaptureHooks.sendInput (hooks : CaptureHooks) : ImportHook where
  library := importText "user32.dll"
  function := importText "SendInput"
  address := hooks.captureSendInput
  address_ne_zero := hooks.sendInput_ne_zero

/-- The modules of the process by their handles, `original_bitblt` and
`original_send_input`. -/
structure CaptureProcess where
  modules : Nat → HostModule
  originalBitblt : UInt64 := 0
  originalSendInput : UInt64 := 0

/-- The process with another module behind a handle. -/
def CaptureProcess.setModule (process : CaptureProcess) (handle : Nat) (module : HostModule) :
    CaptureProcess :=
  { process with modules := Function.update process.modules handle module }

/-! ## The patches -/

section Install

variable (sameLibrary : List UInt8 → List UInt8 → Bool) (hooks : CaptureHooks)

/-- `patch_bitblt_import`. -/
def patchBitbltImport (protect : Bool) (process : CaptureProcess) (module : Option Nat) :
    CaptureProcess × Bool :=
  match module with
  | none => (process, false)
  | some handle =>
      let walk := patchImport sameLibrary hooks.bitblt protect (process.modules handle)
        process.originalBitblt
      ({ process.setModule handle walk.1 with originalBitblt := walk.2.1 }, walk.2.2)

/-- `patch_send_input_import`. -/
def patchSendInputImport (protect : Bool) (process : CaptureProcess) (module : Option Nat) :
    CaptureProcess × Bool :=
  match module with
  | none => (process, false)
  | some handle =>
      let walk := patchImport sameLibrary hooks.sendInput protect (process.modules handle)
        process.originalSendInput
      ({ process.setModule handle walk.1 with originalSendInput := walk.2.1 }, walk.2.2)

/-- `GVINPUT_IMAGE_SIZE`. -/
def gvinputImageSize : UInt32 := 0x1ea4000

/-- `expected` of `patch_gvinput_send`. -/
def gvinputExpected : List UInt8 := [0x48, 0x89, 0x5c, 0x24, 0x08, 0x48]

/-- `replacement` of `patch_gvinput_send`. -/
def gvinputReplacement : List UInt8 := [0xff, 0x25, 0xfa, 0xf7, 0x6c, 0x01]

/-- `patch_gvinput_send`. -/
def patchGvinputSend (protect : Bool) (process : CaptureProcess) (module : Option Nat) :
    CaptureProcess × Bool :=
  match module with
  | none => (process, false)
  | some handle =>
      let image := process.modules handle
      if !image.dosSignature then (process, false)
      else if !image.ntSignature ∨ image.sizeOfImage ≠ gvinputImageSize then (process, false)
      else if image.sendCode = gvinputReplacement then (process, true)
      else if image.sendCode ≠ gvinputExpected then (process, false)
      else if !protect then (process, false)
      else (process.setModule handle { image with sendCode := gvinputReplacement }, true)

/-- What happens during one call; `processModule` is the answer of `GetModuleHandleW`. -/
structure InstallEnv where
  wsaStartup : Bool
  processModule : Option Nat
  protectModule : Bool
  protectProcess : Bool
  protectGvinput : Bool
  protectBitblt : Bool

/-- A call of `uu_install_wayland_capture_hook`. -/
structure InstallCall where
  module : Option Nat
  env : InstallEnv

/-- The patches of the call in the module of the process. -/
def patchProcess (env : InstallEnv) (patched : CaptureProcess × Bool) : CaptureProcess × Bool :=
  match env.processModule with
  | none => patched
  | some handle =>
      let process := patchSendInputImport sameLibrary hooks env.protectProcess patched.1
        (some handle)
      let inputPatched := process.2 || patched.2
      (if inputPatched then (patchGvinputSend env.protectGvinput process.1 (some handle)).1
        else process.1, inputPatched)

/-- `uu_install_wayland_capture_hook`. -/
def uuInstallWaylandCaptureHook (process : CaptureProcess) (call : InstallCall) :
    CaptureProcess × Bool :=
  if !call.env.wsaStartup then (process, false)
  else
    let input := patchProcess sameLibrary hooks call.env
      (patchSendInputImport sameLibrary hooks call.env.protectModule process call.module)
    let bitblt := patchBitbltImport sameLibrary hooks call.env.protectBitblt input.1 call.module
    (bitblt.1, bitblt.2 && input.2)

/-- The process answers one call at a time. -/
def captureHookCalls : Machine CaptureProcess InstallCall Bool where
  step := uuInstallWaylandCaptureHook sameLibrary hooks

/-! ## A call is a sequence of patches -/

/-- The process comes from `start` by patches. -/
inductive PatchSteps (start : CaptureProcess) : CaptureProcess → Prop where
  | start : PatchSteps start start
  | bitblt {process : CaptureProcess} (protect : Bool) (module : Option Nat)
      (hsteps : PatchSteps start process) :
      PatchSteps start (patchBitbltImport sameLibrary hooks protect process module).1
  | sendInput {process : CaptureProcess} (protect : Bool) (module : Option Nat)
      (hsteps : PatchSteps start process) :
      PatchSteps start (patchSendInputImport sameLibrary hooks protect process module).1
  | gvinput {process : CaptureProcess} (protect : Bool) (module : Option Nat)
      (hsteps : PatchSteps start process) :
      PatchSteps start (patchGvinputSend protect process module).1

variable {sameLibrary} {hooks} {start : CaptureProcess}

theorem patchSteps_install {process : CaptureProcess}
    (hsteps : PatchSteps sameLibrary hooks start process) (call : InstallCall) :
    PatchSteps sameLibrary hooks start
      (uuInstallWaylandCaptureHook sameLibrary hooks process call).1 := by
  unfold uuInstallWaylandCaptureHook patchProcess
  by_cases hstartup : call.env.wsaStartup = true
  · rw [if_neg (by simp [hstartup])]
    refine .bitblt _ _ ?_
    cases call.env.processModule with
    | none => exact .sendInput _ _ hsteps
    | some handle =>
      have hprocess := PatchSteps.sendInput call.env.protectProcess (some handle)
        (.sendInput call.env.protectModule call.module hsteps)
      simp only
      split_ifs
      · exact .gvinput _ _ hprocess
      · exact hprocess
  · rw [if_pos (by simpa using hstartup)]
    exact hsteps

theorem patchSteps_run (start : CaptureProcess) (calls : List InstallCall) :
    PatchSteps sameLibrary hooks start
      ((captureHookCalls sameLibrary hooks).run start calls) := by
  refine Machine.exec_invariant (fun _ process => PatchSteps sameLibrary hooks start process)
    (P := fun _ _ _ => True) ?_ .start (Machine.along_of_forall (fun _ _ _ => trivial) _ _ _)
  intro _ process call hsteps _
  exact patchSteps_install hsteps call

/-! ## The invariant of one hook -/

/-- The hooks of the library. -/
def CaptureHooks.all (hooks : CaptureHooks) : List ImportHook := [hooks.bitblt, hooks.sendInput]

theorem bitblt_function_ne (hooks : CaptureHooks) :
    hooks.bitblt.function ≠ hooks.sendInput.function := by
  show importText "BitBlt" ≠ importText "SendInput"
  decide

/-- Hooks of the library for the same function are the same. -/
theorem all_function {hook other : ImportHook} (hhook : hook ∈ hooks.all)
    (hother : other ∈ hooks.all) (hfunction : other.function = hook.function) : other = hook := by
  have hne := bitblt_function_ne hooks
  unfold CaptureHooks.all at hhook hother
  simp only [List.mem_cons, List.not_mem_nil, or_false] at hhook hother
  rcases hhook with rfl | rfl
  · rcases hother with rfl | rfl
    · rfl
    · exact absurd hfunction.symm hne
  · rcases hother with rfl | rfl
    · exact absurd hfunction hne
    · rfl

/-- The import tables have changed by the rule since the start. -/
def TablesChanged (sameLibrary : List UInt8 → List UInt8 → Bool) (hooks : CaptureHooks)
    (start modules : Nat → HostModule) : Prop :=
  ∀ handle, ImportChange sameLibrary hooks.all (start handle) (modules handle)

/-- What holds of a hook and its original pointer. -/
structure HookSafe (sameLibrary : List UInt8 → List UInt8 → Bool) (hook : ImportHook)
    (start modules : Nat → HostModule) (original : UInt64) : Prop where
  not_self : original ≠ hook.address
  held : ∀ handle, (modules handle).Holds hook.address → original ≠ 0
  read : original ≠ 0 →
    ∃ handle, ImportsFrom sameLibrary hook (start handle).imports original

variable {hook : ImportHook} {modules : Nat → HostModule} {original : UInt64}

/-- A walk for a hook of the library changes the tables by the rule. -/
theorem TablesChanged.update (hchanged : TablesChanged sameLibrary hooks start.modules modules)
    (hhook : hook ∈ hooks.all) (protect : Bool) (handle : Nat) (original : UInt64) :
    TablesChanged sameLibrary hooks start.modules (Function.update modules handle
      (patchImport sameLibrary hook protect (modules handle) original).1) := by
  intro handle'
  by_cases hsame : handle' = handle
  · subst hsame
    rw [Function.update_self]
    exact (hchanged handle').trans (changes_patchImport hhook protect _ original)
  · rw [Function.update_of_ne hsame]
    exact hchanged handle'

/-- The walk for the hook itself keeps the invariant. -/
theorem HookSafe.update (hsafe : HookSafe sameLibrary hook start.modules modules original)
    (hchanged : TablesChanged sameLibrary hooks start.modules modules) (hhook : hook ∈ hooks.all)
    (protect : Bool) (handle : Nat) :
    let walk := patchImport sameLibrary hook protect (modules handle) original
    HookSafe sameLibrary hook start.modules (Function.update modules handle walk.1) walk.2.1 := by
  intro walk
  rcases patchImport_patched sameLibrary hook protect (modules handle) original with
    ⟨htables, hkept⟩ | ⟨hne, hread⟩
  · -- the walk has changed nothing
    have horiginal : walk.2.1 = original := hkept
    rw [horiginal]
    refine ⟨hsafe.not_self, ?_, hsafe.read⟩
    intro handle' hholds
    by_cases hsame : handle' = handle
    · subst hsame
      rw [Function.update_self] at hholds
      obtain ⟨descriptor, hdescriptor, hslot⟩ := hholds
      have hmem : descriptor ∈ (modules handle').imports := htables ▸ hdescriptor
      exact hsafe.held handle' ⟨descriptor, hmem, hslot⟩
    · rw [Function.update_of_ne hsame] at hholds
      exact hsafe.held handle' hholds
  · -- the walk has read the address and put the hook in its place
    have hfrom : ImportsFrom sameLibrary hook (start.modules handle).imports walk.2.1 := by
      refine (hchanged handle).importsFrom hread hne ?_
      intro other hother hfunction
      rw [all_function hhook hother hfunction]
    have hnonzero : walk.2.1 ≠ 0 := by
      obtain ⟨_, _, _, slot, _, _, haddress⟩ := hfrom
      rw [← haddress]
      exact slot.bound
    exact ⟨hne, fun _ _ => hnonzero, fun _ => ⟨handle, hfrom⟩⟩

/-- The walk for another hook keeps the invariant. -/
theorem HookSafe.update_other
    (hsafe : HookSafe sameLibrary hook start.modules modules original) {other : ImportHook}
    (haddress : hook.address ≠ other.address) (protect : Bool) (handle : Nat)
    (original' : UInt64) :
    HookSafe sameLibrary hook start.modules (Function.update modules handle
      (patchImport sameLibrary other protect (modules handle) original').1) original := by
  refine ⟨hsafe.not_self, ?_, hsafe.read⟩
  intro handle' hholds
  by_cases hsame : handle' = handle
  · subst hsame
    rw [Function.update_self] at hholds
    have hchange := @changes_patchImport sameLibrary [other] other List.mem_cons_self protect
      (modules handle') original'
    rcases hchange.holds hholds with hbefore | ⟨found, hmem, hfound⟩
    · exact hsafe.held handle' hbefore
    · rw [List.mem_singleton.mp hmem] at hfound
      exact absurd hfound haddress
  · rw [Function.update_of_ne hsame] at hholds
    exact hsafe.held handle' hholds

/-! ## Every run -/

/-- The process before the first call: no original pointer, and no hook in any slot. -/
structure CaptureProcess.Fresh (hooks : CaptureHooks) (process : CaptureProcess) : Prop where
  originalBitblt : process.originalBitblt = 0
  originalSendInput : process.originalSendInput = 0
  unhooked : ∀ hook ∈ hooks.all, ∀ handle, ¬(process.modules handle).Holds hook.address

/-- What holds of the process after any patches. -/
structure HooksSafe (sameLibrary : List UInt8 → List UInt8 → Bool) (hooks : CaptureHooks)
    (start process : CaptureProcess) : Prop where
  changed : TablesChanged sameLibrary hooks start.modules process.modules
  bitblt : HookSafe sameLibrary hooks.bitblt start.modules process.modules
    process.originalBitblt
  sendInput : HookSafe sameLibrary hooks.sendInput start.modules process.modules
    process.originalSendInput

theorem bitblt_mem (hooks : CaptureHooks) : hooks.bitblt ∈ hooks.all := List.mem_cons_self

theorem sendInput_mem (hooks : CaptureHooks) : hooks.sendInput ∈ hooks.all :=
  List.mem_cons_of_mem _ List.mem_cons_self

theorem HookSafe.initial {hook : ImportHook} (hhook : hook ∈ hooks.all)
    (hfresh : start.Fresh hooks) : HookSafe sameLibrary hook start.modules start.modules 0 where
  not_self := hook.address_ne_zero.symm
  held handle hholds := absurd hholds (hfresh.unhooked hook hhook handle)
  read hzero := absurd rfl hzero

/-- `patch_gvinput_send` leaves the import tables. -/
theorem patchGvinputSend_imports (protect : Bool) (process : CaptureProcess)
    (module : Option Nat) :
    (patchGvinputSend protect process module).1.originalBitblt = process.originalBitblt ∧
      (patchGvinputSend protect process module).1.originalSendInput =
        process.originalSendInput ∧
      ∀ handle, ∃ sendCode, (patchGvinputSend protect process module).1.modules handle =
        { process.modules handle with sendCode } := by
  cases module with
  | none => exact ⟨rfl, rfl, fun handle => ⟨_, rfl⟩⟩
  | some patched =>
    unfold patchGvinputSend
    simp only
    split_ifs
    · exact ⟨rfl, rfl, fun handle => ⟨_, rfl⟩⟩
    · exact ⟨rfl, rfl, fun handle => ⟨_, rfl⟩⟩
    · exact ⟨rfl, rfl, fun handle => ⟨_, rfl⟩⟩
    · exact ⟨rfl, rfl, fun handle => ⟨_, rfl⟩⟩
    · exact ⟨rfl, rfl, fun handle => ⟨_, rfl⟩⟩
    · refine ⟨rfl, rfl, fun handle => ?_⟩
      show ∃ sendCode, Function.update process.modules patched _ handle = _
      by_cases hsame : handle = patched
      · subst hsame
        rw [Function.update_self]
        exact ⟨_, rfl⟩
      · rw [Function.update_of_ne hsame]
        exact ⟨_, rfl⟩

theorem hooksSafe_of_patchSteps (hfresh : start.Fresh hooks) {process : CaptureProcess}
    (hsteps : PatchSteps sameLibrary hooks start process) :
    HooksSafe sameLibrary hooks start process := by
  have hne : hooks.bitblt.address ≠ hooks.sendInput.address := hooks.bitblt_ne_sendInput
  induction hsteps with
  | start =>
    refine ⟨fun handle => ImportChange.refl _, ?_, ?_⟩
    · rw [hfresh.originalBitblt]
      exact HookSafe.initial (bitblt_mem hooks) hfresh
    · rw [hfresh.originalSendInput]
      exact HookSafe.initial (sendInput_mem hooks) hfresh
  | bitblt protect module _ ih =>
    cases module with
    | none => exact ih
    | some handle =>
      exact ⟨ih.changed.update (bitblt_mem hooks) protect handle _,
        ih.bitblt.update ih.changed (bitblt_mem hooks) protect handle,
        ih.sendInput.update_other hne.symm protect handle _⟩
  | sendInput protect module _ ih =>
    cases module with
    | none => exact ih
    | some handle =>
      exact ⟨ih.changed.update (sendInput_mem hooks) protect handle _,
        ih.bitblt.update_other hne protect handle _,
        ih.sendInput.update ih.changed (sendInput_mem hooks) protect handle⟩
  | @gvinput process protect module _ ih =>
    obtain ⟨hbitblt, hsendInput, hmodules⟩ := patchGvinputSend_imports protect process module
    have hholds : ∀ handle address,
        ((patchGvinputSend protect process module).1.modules handle).Holds address →
          (process.modules handle).Holds address := by
      intro handle address hholds
      obtain ⟨sendCode, hmodule⟩ := hmodules handle
      rw [hmodule] at hholds
      exact hholds
    refine ⟨?_, ?_, ?_⟩
    · intro handle
      obtain ⟨sendCode, hmodule⟩ := hmodules handle
      rw [hmodule]
      exact ih.changed handle
    · rw [hbitblt]
      exact ⟨ih.bitblt.not_self, fun handle h => ih.bitblt.held handle (hholds _ _ h),
        ih.bitblt.read⟩
    · rw [hsendInput]
      exact ⟨ih.sendInput.not_self, fun handle h => ih.sendInput.held handle (hholds _ _ h),
        ih.sendInput.read⟩

/-- A walk of the library leaves the patched modules patched. -/
theorem Hooked.update {hook other : ImportHook} (hhook : hook ∈ hooks.all)
    (hother : other ∈ hooks.all) {modules : Nat → HostModule} {handle : Nat}
    (hhooked : Hooked sameLibrary hook (modules handle)) (protect : Bool) (patched : Nat)
    (original : UInt64) :
    Hooked sameLibrary hook (Function.update modules patched
      (patchImport sameLibrary other protect (modules patched) original).1 handle) := by
  by_cases hsame : handle = patched
  · subst hsame
    rw [Function.update_self]
    by_cases hfunction : other.function = hook.function
    · obtain rfl := all_function hhook hother hfunction
      rw [hhooked.patchImport_eq]
      exact hhooked
    · exact hhooked.patchImport_other (fun h => hfunction h.symm) protect original
  · rw [Function.update_of_ne hsame]
    exact hhooked

theorem hooked_of_patchSteps {hook : ImportHook} (hhook : hook ∈ hooks.all) {handle : Nat}
    (hhooked : Hooked sameLibrary hook (start.modules handle)) {process : CaptureProcess}
    (hsteps : PatchSteps sameLibrary hooks start process) :
    Hooked sameLibrary hook (process.modules handle) := by
  induction hsteps with
  | start => exact hhooked
  | bitblt protect module _ ih =>
    cases module with
    | none => exact ih
    | some patched => exact ih.update hhook (bitblt_mem hooks) protect patched _
  | sendInput protect module _ ih =>
    cases module with
    | none => exact ih
    | some patched => exact ih.update hhook (sendInput_mem hooks) protect patched _
  | @gvinput process protect module _ ih =>
    obtain ⟨-, -, hmodules⟩ := patchGvinputSend_imports protect process module
    obtain ⟨sendCode, hmodule⟩ := hmodules handle
    rw [hmodule]
    exact ih

/-- The hooks never call themselves: after any calls, an original pointer is not the hook, a
hook in any slot has an original pointer that has been read from an import of its function,
no slot has changed that is not such an import, and a module that is patched is left as it
is by every later walk for the hook. -/
theorem import_hooks_safe (hfresh : start.Fresh hooks) (calls : List InstallCall) :
    let process := (captureHookCalls sameLibrary hooks).run start calls
    process.originalBitblt ≠ hooks.captureBitblt ∧
      process.originalSendInput ≠ hooks.captureSendInput ∧
      (∀ handle, (process.modules handle).Holds hooks.captureBitblt →
        process.originalBitblt ≠ 0 ∧ ∃ source, ImportsFrom sameLibrary hooks.bitblt
          (start.modules source).imports process.originalBitblt) ∧
      (∀ handle, (process.modules handle).Holds hooks.captureSendInput →
        process.originalSendInput ≠ 0 ∧ ∃ source, ImportsFrom sameLibrary hooks.sendInput
          (start.modules source).imports process.originalSendInput) ∧
      (∀ handle, ImportChange sameLibrary [hooks.bitblt, hooks.sendInput]
        (start.modules handle) (process.modules handle)) ∧
      (∀ hook ∈ [hooks.bitblt, hooks.sendInput], ∀ protect handle original,
        let walk := patchImport sameLibrary hook protect (process.modules handle) original
        walk.2.2 = true → Hooked sameLibrary hook walk.1) ∧
      ∀ hook ∈ [hooks.bitblt, hooks.sendInput], ∀ handle,
        Hooked sameLibrary hook (process.modules handle) → ∀ later protect original,
          let module := ((captureHookCalls sameLibrary hooks).run process later).modules handle
          patchImport sameLibrary hook protect module original = (module, original, true) := by
  intro process
  have hsafe : HooksSafe sameLibrary hooks start process :=
    hooksSafe_of_patchSteps hfresh (patchSteps_run start calls)
  refine ⟨hsafe.bitblt.not_self, hsafe.sendInput.not_self, ?_, ?_, hsafe.changed, ?_, ?_⟩
  · intro handle hholds
    have hnonzero := hsafe.bitblt.held handle hholds
    exact ⟨hnonzero, hsafe.bitblt.read hnonzero⟩
  · intro handle hholds
    have hnonzero := hsafe.sendInput.held handle hholds
    exact ⟨hnonzero, hsafe.sendInput.read hnonzero⟩
  · intro hook _ protect handle original walk hfound
    exact hooked_of_patchImport hfound
  · intro hook hhook handle hhooked later protect original module
    exact (hooked_of_patchSteps hhook hhooked (patchSteps_run process later)).patchImport_eq
      protect original

end Install

/-! ## One module -/

theorem pageAddress_ne_zero : (4096 : UInt64) ≠ 0 := by decide

/-- A module that imports both functions from one page. -/
def importingModule : HostModule where
  dosSignature := true
  ntSignature := true
  sizeOfImage := 0
  imports :=
    [⟨importText "gdi32.dll", [⟨.ordinal 1, 4096, pageAddress_ne_zero⟩,
      ⟨.name (importText "BitBlt"), 4096, pageAddress_ne_zero⟩]⟩,
     ⟨importText "user32.dll", [⟨.name (importText "SendInput"), 4096, pageAddress_ne_zero⟩]⟩]
  sendCode := []

theorem importingModule_fresh {hooks : CaptureHooks} (hbitblt : hooks.captureBitblt ≠ 4096)
    (hsendInput : hooks.captureSendInput ≠ 4096) :
    CaptureProcess.Fresh hooks { modules := fun _ => importingModule } where
  originalBitblt := rfl
  originalSendInput := rfl
  unhooked := by
    rintro hook hhook handle ⟨descriptor, hdescriptor, slot, hslot, haddress⟩
    have hpage : slot.address = 4096 := by
      simp only [importingModule, List.mem_cons, List.not_mem_nil, or_false] at hdescriptor
      rcases hdescriptor with rfl | rfl
      · simp only [List.mem_cons, List.not_mem_nil, or_false] at hslot
        rcases hslot with rfl | rfl
        · rfl
        · rfl
      · obtain rfl := List.mem_singleton.mp hslot
        rfl
    rw [hpage] at haddress
    simp only [CaptureHooks.all, List.mem_cons, List.not_mem_nil, or_false] at hhook
    rcases hhook with rfl | rfl
    · exact hbitblt haddress.symm
    · exact hsendInput haddress.symm

theorem hookAddresses_ne : (1 : UInt64) ≠ 0 ∧ (2 : UInt64) ≠ 0 ∧ (1 : UInt64) ≠ 2 := by decide

/-- Hooks that are not on the page. -/
def lowHooks : CaptureHooks :=
  ⟨1, 2, hookAddresses_ne.1, hookAddresses_ne.2.1, hookAddresses_ne.2.2⟩

/-- The module is hooked in one call, and the original pointer leads to the page. -/
theorem importingModule_hooked :
    let start : CaptureProcess := { modules := fun _ => importingModule }
    let call : InstallCall := ⟨some 0, ⟨true, none, true, true, true, true⟩⟩
    let process := (captureHookCalls (· == ·) lowHooks).run start [call]
    process.originalBitblt = 4096 ∧ process.originalBitblt ≠ 1 := by
  intro start call process
  exact ⟨rfl, (import_hooks_safe (importingModule_fresh (by decide) (by decide)) [call]).1⟩

end UuAmfBridge
