import UuAmfBridge.Dxva.Decoder
import UuAmfBridge.Lib.Machine
import Mathlib.Data.List.Nodup

/-!
# The patched tables of Direct3D

`dxva_bridge_install` of `src/dxva_bridge.c` and the two hooks of `QueryInterface`.  An
interface of Direct3D is called through the table its `lpVtbl` points to.  The bridge
copies the tables of a device and of its immediate context, replaces `QueryInterface` in
the copies, and makes the two interfaces point there.  Behind these hooks it does the same
to the video interfaces that the driver hands out.

The tables of a runtime are found again by comparing `lpVtbl` with their addresses, so a
hook only works on an interface that its own runtime has patched, and the function it has
saved must not be a hook.  `RuntimesWired` is the invariant that says so for every
interface.

* `callQuery` is a call of `QueryInterface` through a function; its fuel is the depth of
  the stack, and a hook that called itself would use it up.
* `callQuery_wired` and `dxvaBridgeInstall_wired` are the two steps.
* `dxva_patches_safe`: along every run each call reaches the driver exactly once, and every
  entry of every table is the function of the driver or the hook that is meant for it.

The D3D11 video interfaces are numbered for each device, since a driver may hand out more
than one.
-/

namespace UuAmfBridge

/-! ## Interfaces and tables -/

/-- An interface pointer of Direct3D.  `immediate` is the immediate context of a device,
and a video interface belongs to a device. -/
inductive D3dInterface where
  | device (device : Nat)
  | immediate (device : Nat)
  | videoDevice (device number : Nat)
  | videoContext (device number : Nat)
  deriving Repr, DecidableEq

/-- The methods that the bridge replaces, and the others by their place in the table. -/
inductive D3dMethod where
  | queryInterface
  | createVideoDecoder
  | createVideoDecoderOutputView
  | getVideoDecoderProfileCount
  | getVideoDecoderProfile
  | checkVideoDecoderFormat
  | getVideoDecoderConfigCount
  | getVideoDecoderConfig
  | getDecoderBuffer
  | releaseDecoderBuffer
  | decoderBeginFrame
  | decoderEndFrame
  | submitDecoderBuffers
  | decoderExtension
  | other (slot : Nat)
  deriving Repr, DecidableEq

/-- What an entry of a table points to: nothing, a function of a table of the driver, or
a function of the bridge. -/
inductive D3dFunction where
  | null
  | driver (table : Nat) (method : D3dMethod)
  | deviceQueryHook
  | contextQueryHook
  | videoCreateDecoder
  | videoCreateOutput
  | videoProfileCount
  | videoProfile
  | videoCheckFormat
  | videoConfigCount
  | videoConfig
  | contextGetBuffer
  | contextReleaseBuffer
  | contextBeginFrame
  | contextEndFrame
  | contextSubmit
  | contextExtension
  deriving Repr, DecidableEq

abbrev D3dVtbl := D3dMethod → D3dFunction

/-- A table of the driver. -/
def driverVtbl (table : Nat) : D3dVtbl := .driver table

/-- A table with some of its entries replaced. -/
def replaceMethods (hook : D3dMethod → Option D3dFunction) (vtbl : D3dVtbl) : D3dVtbl :=
  fun method => (hook method).getD (vtbl method)

def deviceHooks : D3dMethod → Option D3dFunction
  | .queryInterface => some .deviceQueryHook
  | _ => none

def contextHooks : D3dMethod → Option D3dFunction
  | .queryInterface => some .contextQueryHook
  | _ => none

/-- The entries that `patch_video_device` replaces. -/
def videoDeviceHooks : D3dMethod → Option D3dFunction
  | .createVideoDecoder => some .videoCreateDecoder
  | .createVideoDecoderOutputView => some .videoCreateOutput
  | .getVideoDecoderProfileCount => some .videoProfileCount
  | .getVideoDecoderProfile => some .videoProfile
  | .checkVideoDecoderFormat => some .videoCheckFormat
  | .getVideoDecoderConfigCount => some .videoConfigCount
  | .getVideoDecoderConfig => some .videoConfig
  | _ => none

/-- The entries that `patch_video_context` replaces. -/
def videoContextHooks : D3dMethod → Option D3dFunction
  | .getDecoderBuffer => some .contextGetBuffer
  | .releaseDecoderBuffer => some .contextReleaseBuffer
  | .decoderBeginFrame => some .contextBeginFrame
  | .decoderEndFrame => some .contextEndFrame
  | .submitDecoderBuffers => some .contextSubmit
  | .decoderExtension => some .contextExtension
  | _ => none

/-- `DxvaRuntime`.  A table that is not set yet is zero. -/
structure DxvaRuntime where
  device : Nat
  /-- The device whose immediate context it is. -/
  context : Nat
  deviceVtbl : D3dVtbl
  contextVtbl : D3dVtbl
  deviceQuery : D3dFunction
  contextQuery : D3dFunction
  videoDeviceVtbl : D3dVtbl := fun _ => .null
  videoContextVtbl : D3dVtbl := fun _ => .null

/-- Where `lpVtbl` of an interface points: to a table of the driver, or to a table in an
entry of `runtimes`. -/
inductive VtblPointer where
  | driver (table : Nat)
  | runtimeDevice (runtime : Nat)
  | runtimeContext (runtime : Nat)
  | runtimeVideoDevice (runtime : Nat)
  | runtimeVideoContext (runtime : Nat)
  deriving Repr, DecidableEq

/-- The two classes of video interfaces: those of a device and those of its context. -/
inductive VideoClass where
  | device
  | context
  deriving Repr, DecidableEq

namespace VideoClass

/-- The interface that answers queries for the class. -/
def parent : VideoClass → Nat → D3dInterface
  | device => .device
  | context => .immediate

def interface : VideoClass → Nat → Nat → D3dInterface
  | device => .videoDevice
  | context => .videoContext

/-- The address of the table that a runtime keeps for the class. -/
def address : VideoClass → Nat → VtblPointer
  | device => .runtimeVideoDevice
  | context => .runtimeVideoContext

def hooks : VideoClass → D3dMethod → Option D3dFunction
  | device => videoDeviceHooks
  | context => videoContextHooks

/-- The original `QueryInterface` that a runtime keeps for the class. -/
def savedQuery : VideoClass → DxvaRuntime → D3dFunction
  | device => DxvaRuntime.deviceQuery
  | context => DxvaRuntime.contextQuery

def store : VideoClass → D3dVtbl → DxvaRuntime → DxvaRuntime
  | device, vtbl, runtime => { runtime with videoDeviceVtbl := vtbl }
  | context, vtbl, runtime => { runtime with videoContextVtbl := vtbl }

end VideoClass

/-- `DXVA_RUNTIME_COUNT`. -/
def dxvaRuntimeCount : Nat := 64

/-- `runtimes` up to `runtime_count`, `module_pinned`, and the table pointers of the
interfaces. -/
structure DxvaRuntimes where
  runtimes : List DxvaRuntime := []
  modulePinned : Bool := false
  lpVtbl : D3dInterface → VtblPointer

namespace DxvaRuntimes

/-- The table behind a pointer. -/
def vtblAt (state : DxvaRuntimes) : VtblPointer → D3dVtbl
  | .driver table => driverVtbl table
  | .runtimeDevice i => (state.runtimes[i]?.map (·.deviceVtbl)).getD fun _ => .null
  | .runtimeContext i => (state.runtimes[i]?.map (·.contextVtbl)).getD fun _ => .null
  | .runtimeVideoDevice i => (state.runtimes[i]?.map (·.videoDeviceVtbl)).getD fun _ => .null
  | .runtimeVideoContext i => (state.runtimes[i]?.map (·.videoContextVtbl)).getD fun _ => .null

/-- The table of an interface. -/
def vtbl (state : DxvaRuntimes) (iface : D3dInterface) : D3dVtbl :=
  state.vtblAt (state.lpVtbl iface)

/-- The first runtime whose table, by its address, is the one of the interface. -/
def runtimeFrom (address : Nat → VtblPointer) (state : DxvaRuntimes) (iface : D3dInterface) :
    Option Nat :=
  (List.range state.runtimes.length).find? fun i => state.lpVtbl iface = address i

/-- `runtime_from_device`. -/
def runtimeFromDevice : DxvaRuntimes → D3dInterface → Option Nat := runtimeFrom .runtimeDevice

/-- `runtime_from_context`. -/
def runtimeFromContext : DxvaRuntimes → D3dInterface → Option Nat := runtimeFrom .runtimeContext

/-- `runtime_from_video_device`. -/
def runtimeFromVideoDevice : DxvaRuntimes → D3dInterface → Option Nat :=
  runtimeFrom .runtimeVideoDevice

/-- `patch_video_device` and `patch_video_context`, on an interface that is not null. -/
def patchVideo (video : VideoClass) (i device number : Nat) (state : DxvaRuntimes) :
    DxvaRuntimes :=
  let iface := video.interface device number
  if state.lpVtbl iface = video.address i then state
  else
    let vtbl := replaceMethods video.hooks (state.vtbl iface)
    { state with
      runtimes := state.runtimes.modify i (video.store vtbl)
      lpVtbl := Function.update state.lpVtbl iface (video.address i) }

/-- `patch_video_device`. -/
def patchVideoDevice : Nat → Nat → Nat → DxvaRuntimes → DxvaRuntimes := patchVideo .device

/-- `patch_video_context`. -/
def patchVideoContext : Nat → Nat → Nat → DxvaRuntimes → DxvaRuntimes := patchVideo .context

end DxvaRuntimes

/-! ## Calls of `QueryInterface` -/

/-- The interface identifiers the hooks look for, and any other. -/
inductive QueryIid where
  | video (video : VideoClass)
  | other
  deriving Repr, DecidableEq

/-- What the driver answers to a query: its result, and which of its video interfaces it
stores in `*out`. -/
structure QueryEnv where
  hr : Int32 := sOk
  number : Nat := 0

/-- What a call has done: the state behind it, its result, and the tables of the driver
whose `QueryInterface` has been called. -/
structure QueryOutcome where
  state : DxvaRuntimes
  result : Int32
  driverCalls : List Nat

/-- `E_NOINTERFACE`. -/
def eNointerface : Int32 := -2147467262

/-- The hook an interface of a device is called through, if the function is one. -/
def queryHook : D3dFunction → D3dInterface → Option (VideoClass × Nat)
  | .deviceQueryHook, .device device => some (.device, device)
  | .contextQueryHook, .immediate device => some (.context, device)
  | _, _ => none

/-- The lookup at the start of a hook. -/
def hookRuntime : VideoClass → DxvaRuntimes → D3dInterface → Option Nat
  | .device => DxvaRuntimes.runtimeFromDevice
  | .context => DxvaRuntimes.runtimeFromContext

/-- The end of `device_query_hook` and of `context_query_hook`, behind the call of the
saved function. -/
def queryBehind (env : QueryEnv) (out : Bool) (iid : QueryIid) (video : VideoClass)
    (device i : Nat) (called : QueryOutcome) : QueryOutcome :=
  if hrFailed called.result = false ∧ out = true ∧ iid = .video video then
    { called with state := called.state.patchVideo video i device env.number }
  else called

/-- A call of `QueryInterface` on an interface through a function, with the depth of the
stack that is left.  There is no outcome when the stack runs out, or when the function is
not one that answers queries. -/
def callQuery (env : QueryEnv) (out : Bool) (iid : QueryIid) :
    Nat → D3dFunction → D3dInterface → DxvaRuntimes → Option QueryOutcome
  | 0, _, _, _ => none
  | depth + 1, function, iface, state =>
      match function with
      | .driver table .queryInterface => some { state, result := env.hr, driverCalls := [table] }
      | function =>
          match queryHook function iface with
          | none => none
          | some (video, device) =>
              match hookRuntime video state iface with
              | none => some { state, result := eNointerface, driverCalls := [] }
              | some i =>
                  match state.runtimes[i]? with
                  | none => none
                  | some runtime =>
                      (callQuery env out iid depth (video.savedQuery runtime) iface state).map
                        (queryBehind env out iid video device i)

/-! ## `dxva_bridge_install` -/

/-- What happens during one installation. -/
structure DxvaInstallEnv where
  wsaStartup : Bool := true
  /-- The result of `GetModuleHandleExA`. -/
  pin : Int32 := sOk
  videoDevice : QueryEnv := {}
  videoContext : QueryEnv := {}

/-- The new entry of `runtimes`. -/
def newRuntime (device context : Nat) (state : DxvaRuntimes) : DxvaRuntime where
  device := device
  context := context
  deviceVtbl := replaceMethods deviceHooks (state.vtbl (.device device))
  contextVtbl := replaceMethods contextHooks (state.vtbl (.immediate context))
  deviceQuery := state.vtbl (.device device) .queryInterface
  contextQuery := state.vtbl (.immediate context) .queryInterface

/-- The state when the two interfaces point to the tables of the new entry. -/
def appendRuntime (device context : Nat) (state : DxvaRuntimes) : DxvaRuntimes where
  runtimes := state.runtimes ++ [newRuntime device context state]
  modulePinned := true
  lpVtbl := Function.update
    (Function.update state.lpVtbl (.device device) (.runtimeDevice state.runtimes.length))
    (.immediate context) (.runtimeContext state.runtimes.length)

/-- One of the two calls of `QueryInterface` at the end of `dxva_bridge_install`. -/
def installVideo (video : VideoClass) (env : QueryEnv) (depth device i : Nat)
    (function : D3dFunction) (state : DxvaRuntimes) : Option QueryOutcome :=
  (callQuery env true (.video video) depth function (video.parent device) state).map fun called =>
    if hrFailed called.result then called
    else { called with state := called.state.patchVideo video i device env.number }

/-- The part of `dxva_bridge_install` behind the new entry: both interfaces are asked for
their video interface. -/
def installVideos (env : DxvaInstallEnv) (depth device context i : Nat) (runtime : DxvaRuntime)
    (state : DxvaRuntimes) : Option QueryOutcome :=
  match installVideo .device env.videoDevice depth device i runtime.deviceQuery state with
  | none => none
  | some first =>
      (installVideo .context env.videoContext depth context i runtime.contextQuery
        first.state).map fun second =>
          { second with result := sOk, driverCalls := first.driverCalls ++ second.driverCalls }

/-- `dxva_bridge_install` on interfaces that are not null. -/
def dxvaBridgeInstall (env : DxvaInstallEnv) (depth device context : Nat)
    (state : DxvaRuntimes) : Option QueryOutcome :=
  if !env.wsaStartup then some { state, result := eFail, driverCalls := [] }
  else if state.runtimes.any fun runtime => runtime.device = device then
    some { state, result := sOk, driverCalls := [] }
  else if state.runtimes.length = dxvaRuntimeCount then
    some { state, result := eOutofmemory, driverCalls := [] }
  else if !state.modulePinned ∧ hrFailed env.pin then
    some { state, result := env.pin, driverCalls := [] }
  else
    installVideos env depth device context state.runtimes.length
      (newRuntime device context state) (appendRuntime device context state)

/-! ## The entries of `runtimes` -/

section Entries

variable {state : DxvaRuntimes} {outcome : QueryOutcome} {env : QueryEnv}

/-- The device and the context that an entry is for. -/
def DxvaRuntime.interfaces (runtime : DxvaRuntime) : Nat × Nat :=
  (runtime.device, runtime.context)

theorem patchVideo_interfaces (video : VideoClass) (i device number : Nat) :
    (state.patchVideo video i device number).runtimes.map DxvaRuntime.interfaces =
      state.runtimes.map DxvaRuntime.interfaces := by
  unfold DxvaRuntimes.patchVideo
  simp only
  split
  · rfl
  · refine List.ext_getElem? fun j => ?_
    rw [List.getElem?_map, List.getElem?_map, List.getElem?_modify]
    cases state.runtimes[j]? with
    | none => rfl
    | some runtime =>
      by_cases hij : i = j
      · cases video <;> simp [hij, VideoClass.store, DxvaRuntime.interfaces]
      · simp [hij]

theorem callQuery_interfaces {out : Bool} {iid : QueryIid} {depth : Nat} {function : D3dFunction}
    {iface : D3dInterface}
    (hcall : callQuery env out iid depth function iface state = some outcome) :
    outcome.state.runtimes.map DxvaRuntime.interfaces =
      state.runtimes.map DxvaRuntime.interfaces := by
  induction depth generalizing function outcome with
  | zero => cases hcall
  | succ depth ih =>
    unfold callQuery at hcall
    split at hcall
    · cases hcall
      rfl
    · split at hcall
      · cases hcall
      · split at hcall
        · cases hcall
          rfl
        · split at hcall
          · cases hcall
          · obtain ⟨called, hcalled, rfl⟩ := Option.map_eq_some_iff.mp hcall
            have hsame := ih hcalled
            unfold queryBehind
            split
            · exact (patchVideo_interfaces _ _ _ _).trans hsame
            · exact hsame

theorem installVideo_interfaces {video : VideoClass} {depth device i : Nat}
    {function : D3dFunction}
    (hinstall : installVideo video env depth device i function state = some outcome) :
    outcome.state.runtimes.map DxvaRuntime.interfaces =
      state.runtimes.map DxvaRuntime.interfaces := by
  obtain ⟨called, hcalled, rfl⟩ := Option.map_eq_some_iff.mp hinstall
  have hsame := callQuery_interfaces hcalled
  split
  · exact hsame
  · exact (patchVideo_interfaces _ _ _ _).trans hsame

/-- An installation leaves the entries that are there, and may add one. -/
theorem dxvaBridgeInstall_interfaces {env : DxvaInstallEnv} {depth device context : Nat}
    (hinstall : dxvaBridgeInstall env depth device context state = some outcome) :
    ∃ added, outcome.state.runtimes.map DxvaRuntime.interfaces =
      state.runtimes.map DxvaRuntime.interfaces ++ added := by
  have hstays : ∀ result, some (QueryOutcome.mk state result []) = some outcome →
      ∃ added, outcome.state.runtimes.map DxvaRuntime.interfaces =
        state.runtimes.map DxvaRuntime.interfaces ++ added := by
    intro result heq
    cases heq
    exact ⟨[], (List.append_nil _).symm⟩
  unfold dxvaBridgeInstall at hinstall
  split_ifs at hinstall
  · exact hstays _ hinstall
  · exact hstays _ hinstall
  · exact hstays _ hinstall
  · exact hstays _ hinstall
  · unfold installVideos at hinstall
    split at hinstall
    · cases hinstall
    next first hfirst =>
      obtain ⟨second, hsecond, rfl⟩ := Option.map_eq_some_iff.mp hinstall
      refine ⟨[(device, context)], ?_⟩
      have hboth := (installVideo_interfaces hsecond).trans (installVideo_interfaces hfirst)
      refine hboth.trans ?_
      simp [appendRuntime, newRuntime, DxvaRuntime.interfaces]

end Entries

/-! ## What an interface is for -/

namespace D3dInterface

/-- The device an interface belongs to. -/
def owner : D3dInterface → Nat
  | device d => d
  | immediate d => d
  | videoDevice d _ => d
  | videoContext d _ => d

/-- The entries that the bridge replaces in a table of the interface. -/
def hooks : D3dInterface → D3dMethod → Option D3dFunction
  | device _ => deviceHooks
  | immediate _ => contextHooks
  | videoDevice _ _ => videoDeviceHooks
  | videoContext _ _ => videoContextHooks

/-- The address of the table that a runtime keeps for the interface. -/
def address : D3dInterface → Nat → VtblPointer
  | device _ => .runtimeDevice
  | immediate _ => .runtimeContext
  | videoDevice _ _ => .runtimeVideoDevice
  | videoContext _ _ => .runtimeVideoContext

/-- The table that a runtime keeps for the interface. -/
def table : D3dInterface → DxvaRuntime → D3dVtbl
  | device _ => DxvaRuntime.deviceVtbl
  | immediate _ => DxvaRuntime.contextVtbl
  | videoDevice _ _ => DxvaRuntime.videoDeviceVtbl
  | videoContext _ _ => DxvaRuntime.videoContextVtbl

theorem address_inj (iface : D3dInterface) {i j : Nat} (h : iface.address i = iface.address j) :
    i = j := by
  cases iface <;> exact VtblPointer.noConfusion h id

end D3dInterface

/-- A table of the driver for an interface, with the hooks the bridge has for it. -/
def hookedVtbl (table : D3dInterface → Nat) (iface : D3dInterface) : D3dVtbl :=
  replaceMethods iface.hooks (driverVtbl (table iface))

/-- The video interfaces of one class share a table, as the objects of a class do. -/
def SharedTables (table : D3dInterface → Nat) : Prop :=
  ∀ (video : VideoClass) device m n,
    table (video.interface device m) = table (video.interface device n)

/-- What a runtime has saved of its device and of the context is the driver's. -/
structure DxvaRuntime.Wired (table : D3dInterface → Nat) (runtime : DxvaRuntime) : Prop where
  context_eq : runtime.context = runtime.device
  savedQuery_eq : ∀ video : VideoClass, video.savedQuery runtime =
    .driver (table (video.parent runtime.device)) .queryInterface
  parent_eq : ∀ video : VideoClass, (video.parent runtime.device).table runtime =
    hookedVtbl table (video.parent runtime.device)

/-- An interface points to the table that the driver has given it, or to one that the
runtime of its device keeps for it. -/
def PointsWell (table : D3dInterface → Nat) (state : DxvaRuntimes) (iface : D3dInterface) : Prop :=
  state.lpVtbl iface = .driver (table iface) ∨
    ∃ i runtime, state.runtimes[i]? = some runtime ∧ runtime.device = iface.owner ∧
      state.lpVtbl iface = iface.address i ∧ iface.table runtime = hookedVtbl table iface

/-- The tables of the runtimes are set up for the interfaces that point to them. -/
structure RuntimesWired (table : D3dInterface → Nat) (state : DxvaRuntimes) : Prop where
  length_le : state.runtimes.length ≤ dxvaRuntimeCount
  distinct : ∀ (i j : Nat) (r s : DxvaRuntime), state.runtimes[i]? = some r →
    state.runtimes[j]? = some s → r.device = s.device → i = j
  runtime : ∀ (i : Nat) (r : DxvaRuntime), state.runtimes[i]? = some r → r.Wired table
  points : ∀ iface, PointsWell table state iface
  installed : ∀ (i : Nat) (r : DxvaRuntime), state.runtimes[i]? = some r → ∀ video : VideoClass,
    state.lpVtbl (video.parent r.device) = (video.parent r.device).address i

section Wired

variable {table : D3dInterface → Nat} {state : DxvaRuntimes} {iface : D3dInterface}
  {video : VideoClass} {i device : Nat} {runtime : DxvaRuntime}

theorem vtbl_of_driver (h : state.lpVtbl iface = .driver (table iface)) :
    state.vtbl iface = driverVtbl (table iface) := by
  unfold DxvaRuntimes.vtbl
  rw [h]
  rfl

theorem vtbl_of_address (hpointer : state.lpVtbl iface = iface.address i)
    (hi : state.runtimes[i]? = some runtime) : state.vtbl iface = iface.table runtime := by
  unfold DxvaRuntimes.vtbl
  rw [hpointer]
  cases iface <;> simp [D3dInterface.address, DxvaRuntimes.vtblAt, hi, D3dInterface.table]

/-- A runtime is found by the address of its table. -/
theorem runtimeFrom_of_address (hpointer : state.lpVtbl iface = iface.address i)
    (hi : state.runtimes[i]? = some runtime) :
    state.runtimeFrom iface.address iface = some i := by
  have hlt : i < state.runtimes.length := (List.getElem?_eq_some_iff.mp hi).1
  unfold DxvaRuntimes.runtimeFrom
  rw [List.find?_range_eq_some]
  refine ⟨by simpa using hpointer, List.mem_range.mpr hlt, ?_⟩
  intro j hj
  have hne : ¬state.lpVtbl iface = iface.address j := by
    rw [hpointer]
    intro heq
    have hij := iface.address_inj heq
    omega
  simpa using hne

theorem hookRuntime_parent (hpointer :
    state.lpVtbl (video.parent device) = (video.parent device).address i)
    (hi : state.runtimes[i]? = some runtime) :
    hookRuntime video state (video.parent device) = some i := by
  have hfrom := runtimeFrom_of_address hpointer hi
  cases video <;> exact hfrom

/-- An interface that does not point to the table of the driver is patched. -/
theorem RuntimesWired.vtbl_eq (hw : RuntimesWired table state) (iface : D3dInterface) :
    state.lpVtbl iface = .driver (table iface) ∧ state.vtbl iface = driverVtbl (table iface) ∨
      state.vtbl iface = hookedVtbl table iface := by
  cases hw.points iface with
  | inl hdriver => exact Or.inl ⟨hdriver, vtbl_of_driver hdriver⟩
  | inr hpatched =>
    obtain ⟨i, runtime, hi, -, hpointer, htable⟩ := hpatched
    exact Or.inr ((vtbl_of_address hpointer hi).trans htable)

/-! ## One patch -/

theorem table_store_interface (vtbl : D3dVtbl) (number : Nat) :
    (video.interface device number).table (video.store vtbl runtime) = vtbl := by
  cases video <;> rfl

/-- A store for one class keeps the tables for the other interfaces. -/
theorem table_store_of_ne (vtbl : D3dVtbl)
    (hne : ∀ number, iface ≠ video.interface iface.owner number) :
    iface.table (video.store vtbl runtime) = iface.table runtime := by
  cases video <;> cases iface <;> first | rfl | exact absurd rfl (hne _)

theorem wired_store (vtbl : D3dVtbl) (h : runtime.Wired table) :
    (video.store vtbl runtime).Wired table where
  context_eq := by
    cases video <;> exact h.context_eq
  savedQuery_eq saved := by
    have hsaved := h.savedQuery_eq saved
    cases video <;> cases saved <;> exact hsaved
  parent_eq parent := by
    have hparent := h.parent_eq parent
    cases video <;> cases parent <;> exact hparent

theorem device_store (vtbl : D3dVtbl) : (video.store vtbl runtime).device = runtime.device := by
  cases video <;> rfl

/-- The entries of `runtimes` when one table of an entry has been stored. -/
theorem getElem?_modify_store {runtimes : List DxvaRuntime} {j : Nat} {r : DxvaRuntime}
    (vtbl : D3dVtbl) (hr : (runtimes.modify i (video.store vtbl))[j]? = some r) :
    ∃ s, runtimes[j]? = some s ∧ r = if i = j then video.store vtbl s else s := by
  rw [List.getElem?_modify] at hr
  cases hs : runtimes[j]? with
  | none =>
    rw [hs] at hr
    cases hr
  | some s =>
    rw [hs] at hr
    exact ⟨s, rfl, (Option.some.inj hr).symm⟩

theorem interface_facts (video : VideoClass) (device number : Nat) :
    (video.interface device number).owner = device ∧
      (video.interface device number).address = video.address ∧
      (video.interface device number).hooks = video.hooks := by
  cases video <;> exact ⟨rfl, rfl, rfl⟩

/-- `patch_video_device` and `patch_video_context`, on an interface of the device of the
runtime. -/
theorem RuntimesWired.patchVideo (hw : RuntimesWired table state) (hshared : SharedTables table)
    (video : VideoClass) (hi : state.runtimes[i]? = some runtime)
    (hdevice : runtime.device = device) (number : Nat) :
    RuntimesWired table (state.patchVideo video i device number) ∧
      (state.patchVideo video i device number).lpVtbl (video.interface device number) =
        (video.interface device number).address i := by
  obtain ⟨howner, haddress, hhooks⟩ :=
    interface_facts video device number
  unfold DxvaRuntimes.patchVideo
  by_cases hdone : state.lpVtbl (video.interface device number) = video.address i
  · simp only [hdone, if_true]
    exact ⟨hw, by rw [haddress]⟩
  -- The interface still has the table of the driver: no other runtime is of this device.
  have hdriver : state.lpVtbl (video.interface device number) =
      .driver (table (video.interface device number)) := by
    refine (hw.points _).resolve_right ?_
    rintro ⟨j, r, hj, hr, hpointer, -⟩
    have hij := hw.distinct i j runtime r hi hj (by rw [hdevice, hr, howner])
    subst hij
    exact hdone (hpointer.trans (by rw [haddress]))
  have hvtbl : replaceMethods video.hooks (state.vtbl (video.interface device number)) =
      hookedVtbl table (video.interface device number) := by
    rw [vtbl_of_driver hdriver, hookedVtbl, hhooks]
  simp only [hdone, if_false, hvtbl]
  refine ⟨⟨?_, ?_, ?_, ?_, ?_⟩, by simp [haddress]⟩
  · simpa using hw.length_le
  · intro j k r s hr hs hsame
    obtain ⟨r', hr', rfl⟩ := getElem?_modify_store _ hr
    obtain ⟨s', hs', rfl⟩ := getElem?_modify_store _ hs
    refine hw.distinct j k r' s' hr' hs' ?_
    split at hsame <;> split at hsame <;> simpa only [device_store] using hsame
  · intro j r hr
    obtain ⟨r', hr', rfl⟩ := getElem?_modify_store _ hr
    have hwired := hw.runtime j r' hr'
    split
    · exact wired_store _ hwired
    · exact hwired
  · intro iface
    by_cases hiface : iface = video.interface device number
    · subst hiface
      refine Or.inr ⟨i, video.store (hookedVtbl table (video.interface device number)) runtime,
        ?_, ?_, ?_, ?_⟩
      · simp [hi]
      · rw [device_store, howner, hdevice]
      · simp [haddress]
      · exact table_store_interface _ number
    · have hsame : Function.update state.lpVtbl (video.interface device number)
          (video.address i) iface = state.lpVtbl iface := Function.update_of_ne hiface _ _
      refine (hw.points iface).imp (fun hdriver => hsame.trans hdriver) ?_
      rintro ⟨j, r, hj, hr, hpointer, htable⟩
      refine ⟨j, if i = j then video.store
        (hookedVtbl table (video.interface device number)) r else r, ?_, ?_,
        hsame.trans hpointer, ?_⟩
      · rw [List.getElem?_modify, hj]
        rfl
      · split
        · rw [device_store, hr]
        · exact hr
      · split
        next hij =>
          subst hij
          obtain rfl : runtime = r := Option.some.inj (hi.symm.trans hj)
          by_cases hclass : ∃ n, iface = video.interface iface.owner n
          · obtain ⟨n, hn⟩ := hclass
            rw [← hr, hdevice] at hn
            subst hn
            rw [table_store_interface]
            unfold hookedVtbl
            obtain ⟨-, -, hhooks'⟩ := interface_facts video device n
            rw [hhooks, hhooks', hshared video device n number]
          · rw [table_store_of_ne _ fun n hn => hclass ⟨n, hn⟩]
            exact htable
        next => exact htable
  · intro j r hr parent
    obtain ⟨r', hr', rfl⟩ := getElem?_modify_store _ hr
    have hinstalled := hw.installed j r' hr' parent
    have hdev : (if i = j then video.store (hookedVtbl table (video.interface device number)) r'
        else r').device = r'.device := by
      split
      · exact device_store _
      · rfl
    rw [hdev]
    refine (Function.update_of_ne ?_ _ _).trans hinstalled
    cases video <;> cases parent <;> exact fun heq => D3dInterface.noConfusion heq

/-! ## One call -/

/-- What a call of `QueryInterface` does: it reaches the driver once. -/
structure QueryReaches (table : D3dInterface → Nat) (env : QueryEnv) (iface : D3dInterface)
    (outcome : QueryOutcome) : Prop where
  wired : RuntimesWired table outcome.state
  result_eq : outcome.result = env.hr
  driverCalls_eq : outcome.driverCalls = [table iface]

/-- A call through the function of the driver. -/
theorem callQuery_driver (iface : D3dInterface) (env : QueryEnv) (out : Bool) (iid : QueryIid)
    (depth : Nat) (hw : RuntimesWired table state) :
    ∃ outcome, callQuery env out iid (depth + 1) (.driver (table iface) .queryInterface) iface
      state = some outcome ∧ QueryReaches table env iface outcome ∧ outcome.state = state :=
  ⟨_, rfl, ⟨hw, rfl, rfl⟩, rfl⟩

/-- A call through a hook: the runtime of the device has saved the function of the driver. -/
theorem callQuery_parent (hw : RuntimesWired table state)
    (hi : state.runtimes[i]? = some runtime) (hdevice : runtime.device = device)
    (hpointer : state.lpVtbl (video.parent device) = (video.parent device).address i)
    (env : QueryEnv) (out : Bool) (iid : QueryIid) (depth : Nat) :
    callQuery env out iid (depth + 2)
      (hookedVtbl table (video.parent device) .queryInterface) (video.parent device) state =
      some (queryBehind env out iid video device i
        { state, result := env.hr, driverCalls := [table (video.parent device)] }) := by
  have hsaved := (hw.runtime i runtime hi).savedQuery_eq video
  rw [hdevice] at hsaved
  have hfound := hookRuntime_parent hpointer hi
  have hinner : callQuery env out iid (depth + 1) (video.savedQuery runtime)
      (video.parent device) state =
        some { state, result := env.hr, driverCalls := [table (video.parent device)] } := by
    rw [hsaved]
    rfl
  have hfunction : hookedVtbl table (video.parent device) .queryInterface =
      (match video with
        | .device => .deviceQueryHook
        | .context => .contextQueryHook) := by
    cases video <;> rfl
  rw [hfunction]
  cases video <;>
    simp only [VideoClass.parent] at hfound hinner ⊢ <;>
    simp only [callQuery.eq_def _ _ _ (depth + 2), queryHook, hfound, hi, hinner, Option.map_some]

/-- A call of `QueryInterface` through the table of the interface. -/
theorem callQuery_wired (hw : RuntimesWired table state) (hshared : SharedTables table)
    (env : QueryEnv) (out : Bool) (iid : QueryIid) (depth : Nat) (iface : D3dInterface) :
    ∃ outcome, callQuery env out iid (depth + 2) (state.vtbl iface .queryInterface) iface state =
      some outcome ∧ QueryReaches table env iface outcome := by
  have hdirect : ∃ outcome, callQuery env out iid (depth + 2)
      (.driver (table iface) .queryInterface) iface state = some outcome ∧
        QueryReaches table env iface outcome := by
    obtain ⟨outcome, hcall, hreaches, -⟩ := callQuery_driver iface env out iid (depth + 1) hw
    exact ⟨outcome, hcall, hreaches⟩
  have hparent : ∀ (video : VideoClass) (i : Nat) (runtime : DxvaRuntime) (device : Nat),
      iface = video.parent device → state.runtimes[i]? = some runtime →
      runtime.device = device → state.lpVtbl iface = iface.address i →
      ∃ outcome, callQuery env out iid (depth + 2) (hookedVtbl table iface .queryInterface) iface
        state = some outcome ∧ QueryReaches table env iface outcome := by
    rintro video i runtime device rfl hi hdevice hpointer
    refine ⟨_, callQuery_parent hw hi hdevice hpointer env out iid depth, ?_⟩
    unfold queryBehind
    split
    · exact ⟨(hw.patchVideo hshared video hi hdevice env.number).1, rfl, rfl⟩
    · exact ⟨hw, rfl, rfl⟩
  cases hw.points iface with
  | inl hdriver =>
    rw [vtbl_of_driver hdriver]
    exact hdirect
  | inr hpatched =>
    obtain ⟨i, runtime, hi, howner, hpointer, htable⟩ := hpatched
    rw [vtbl_of_address hpointer hi, htable]
    cases iface with
    | device d => exact hparent .device i runtime d rfl hi howner hpointer
    | immediate d => exact hparent .context i runtime d rfl hi howner hpointer
    -- A video interface keeps the `QueryInterface` of the driver.
    | videoDevice d n => exact hdirect
    | videoContext d n => exact hdirect

/-! ## One installation -/

/-- An interface of a device without a runtime is not patched. -/
theorem RuntimesWired.lpVtbl_of_new (hw : RuntimesWired table state) (iface : D3dInterface)
    (hnew : ∀ (i : Nat) (r : DxvaRuntime), state.runtimes[i]? = some r → r.device ≠ iface.owner) :
    state.lpVtbl iface = .driver (table iface) := by
  refine (hw.points iface).resolve_right ?_
  rintro ⟨i, r, hi, howner, -⟩
  exact hnew i r hi howner

theorem newRuntime_wired (hw : RuntimesWired table state)
    (hnew : ∀ (i : Nat) (r : DxvaRuntime), state.runtimes[i]? = some r → r.device ≠ device) :
    (newRuntime device device state).Wired table := by
  have hdevice := vtbl_of_driver (hw.lpVtbl_of_new (.device device) hnew)
  have hcontext := vtbl_of_driver (hw.lpVtbl_of_new (.immediate device) hnew)
  refine ⟨rfl, ?_, ?_⟩
  · intro video
    cases video
    · exact congrFun hdevice .queryInterface
    · exact congrFun hcontext .queryInterface
  · intro video
    cases video
    · exact congrArg (replaceMethods deviceHooks) hdevice
    · exact congrArg (replaceMethods contextHooks) hcontext

theorem appendRuntime_lpVtbl (hne : ∀ video : VideoClass, iface ≠ video.parent device) :
    (appendRuntime device device state).lpVtbl iface = state.lpVtbl iface := by
  have hcontext : iface ≠ .immediate device := hne .context
  have hdevice : iface ≠ .device device := hne .device
  unfold appendRuntime
  simp only
  rw [Function.update_of_ne hcontext, Function.update_of_ne hdevice]

theorem appendRuntime_parent : (appendRuntime device device state).lpVtbl (video.parent device) =
    (video.parent device).address state.runtimes.length := by
  unfold appendRuntime
  cases video <;> simp [VideoClass.parent, D3dInterface.address]

/-- The entries of `runtimes` behind an installation. -/
theorem getElem?_appendRuntime {j : Nat} {r : DxvaRuntime}
    (hr : (appendRuntime device device state).runtimes[j]? = some r) :
    state.runtimes[j]? = some r ∨
      j = state.runtimes.length ∧ r = newRuntime device device state := by
  change (state.runtimes ++ [newRuntime device device state])[j]? = some r at hr
  rw [List.getElem?_append] at hr
  split at hr
  · exact Or.inl hr
  next hge =>
    right
    rw [List.getElem?_singleton] at hr
    split at hr
    next hzero => exact ⟨by omega, (Option.some.inj hr).symm⟩
    next => cases hr

/-- The step of an installation that adds a runtime. -/
theorem RuntimesWired.append (hw : RuntimesWired table state)
    (hnew : ∀ (i : Nat) (r : DxvaRuntime), state.runtimes[i]? = some r → r.device ≠ device)
    (hroom : state.runtimes.length < dxvaRuntimeCount) :
    RuntimesWired table (appendRuntime device device state) := by
  have hwired := newRuntime_wired hw hnew
  have hlast : (appendRuntime device device state).runtimes[state.runtimes.length]? =
      some (newRuntime device device state) := by
    show (state.runtimes ++ [newRuntime device device state])[state.runtimes.length]? = _
    simp
  refine ⟨?_, ?_, ?_, ?_, ?_⟩
  · show (state.runtimes ++ [newRuntime device device state]).length ≤ dxvaRuntimeCount
    rw [List.length_append, List.length_singleton]
    omega
  · intro j k r s hr hs hsame
    rcases getElem?_appendRuntime hr with hr | ⟨rfl, rfl⟩
    · rcases getElem?_appendRuntime hs with hs | ⟨rfl, rfl⟩
      · exact hw.distinct j k r s hr hs hsame
      · exact absurd hsame (hnew j r hr)
    · rcases getElem?_appendRuntime hs with hs | ⟨rfl, rfl⟩
      · exact absurd hsame.symm (hnew k s hs)
      · rfl
  · intro j r hr
    rcases getElem?_appendRuntime hr with hr | ⟨rfl, rfl⟩
    · exact hw.runtime j r hr
    · exact hwired
  · intro iface
    by_cases hparent : ∃ video : VideoClass, iface = video.parent device
    · obtain ⟨video, rfl⟩ := hparent
      refine Or.inr ⟨_, _, hlast, ?_, appendRuntime_parent, hwired.parent_eq video⟩
      cases video <;> rfl
    · have hsame : (appendRuntime device device state).lpVtbl iface = state.lpVtbl iface :=
        appendRuntime_lpVtbl fun video hvideo => hparent ⟨video, hvideo⟩
      refine (hw.points iface).imp (fun hdriver => hsame.trans hdriver) ?_
      rintro ⟨j, r, hj, howner, hpointer, htable⟩
      refine ⟨j, r, ?_, howner, hsame.trans hpointer, htable⟩
      show (state.runtimes ++ [newRuntime device device state])[j]? = _
      rw [List.getElem?_append_left (List.getElem?_eq_some_iff.mp hj).1]
      exact hj
  · intro j r hr video
    rcases getElem?_appendRuntime hr with hr | ⟨rfl, rfl⟩
    · rw [appendRuntime_lpVtbl]
      · exact hw.installed j r hr video
      · intro other heq
        refine hnew j r hr ?_
        cases video <;> cases other <;> cases heq <;> rfl
    · exact appendRuntime_parent

/-- One of the two queries at the end of an installation. -/
theorem installVideo_wired (hw : RuntimesWired table state) (hshared : SharedTables table)
    (hi : state.runtimes[i]? = some runtime) (hdevice : runtime.device = device)
    (env : QueryEnv) (depth : Nat) {function : D3dFunction}
    (hfunction : function = .driver (table (video.parent device)) .queryInterface) :
    ∃ outcome, installVideo video env (depth + 1) device i function state = some outcome ∧
      QueryReaches table env (video.parent device) outcome ∧
      ∃ r, outcome.state.runtimes[i]? = some r ∧ r.device = device := by
  subst hfunction
  obtain ⟨called, hcall, hreaches, hstate⟩ :=
    callQuery_driver (video.parent device) env true (.video video) depth hw
  unfold installVideo
  rw [hcall]
  refine ⟨_, rfl, ?_⟩
  simp only
  split
  · exact ⟨hreaches, runtime, hstate ▸ hi, hdevice⟩
  · rw [hstate]
    refine ⟨⟨(hw.patchVideo hshared video hi hdevice env.number).1, hreaches.result_eq,
      hreaches.driverCalls_eq⟩, ?_⟩
    simp only [DxvaRuntimes.patchVideo]
    split
    · exact ⟨runtime, hi, hdevice⟩
    · refine ⟨video.store (replaceMethods video.hooks
        (state.vtbl (video.interface device env.number))) runtime, by simp [hi], ?_⟩
      exact (device_store _).trans hdevice

/-- What an installation does.  When it fails it changes nothing. -/
structure InstallReaches (table : D3dInterface → Nat) (device : Nat) (state : DxvaRuntimes)
    (outcome : QueryOutcome) : Prop where
  wired : RuntimesWired table outcome.state
  failed : hrFailed outcome.result = true → outcome.state = state ∧ outcome.driverCalls = []
  installed : hrFailed outcome.result = false →
    ∃ (i : Nat) (r : DxvaRuntime), outcome.state.runtimes[i]? = some r ∧ r.device = device
  driverCalls : outcome.driverCalls = [] ∨
    outcome.driverCalls = [table (.device device), table (.immediate device)]

/-- The step of an installation. -/
theorem dxvaBridgeInstall_wired (hw : RuntimesWired table state) (hshared : SharedTables table)
    (env : DxvaInstallEnv) (depth device : Nat) :
    ∃ outcome, dxvaBridgeInstall env (depth + 1) device device state = some outcome ∧
      InstallReaches table device state outcome := by
  unfold dxvaBridgeInstall
  cases hstartup : env.wsaStartup with
  | false =>
    exact ⟨_, rfl, hw, fun _ => ⟨rfl, rfl⟩, fun h => Bool.noConfusion h, Or.inl rfl⟩
  | true =>
    simp only [Bool.not_true, Bool.false_eq_true, if_false]
    by_cases hknown : (state.runtimes.any fun runtime => runtime.device = device) = true
    · rw [if_pos hknown]
      obtain ⟨r, hmem, hr⟩ := List.any_eq_true.mp hknown
      obtain ⟨i, hi⟩ := List.mem_iff_getElem?.mp hmem
      exact ⟨_, rfl, hw, fun h => Bool.noConfusion h, fun _ => ⟨i, r, hi, by simpa using hr⟩,
        Or.inl rfl⟩
    rw [if_neg hknown]
    by_cases hfull : state.runtimes.length = dxvaRuntimeCount
    · rw [if_pos hfull]
      exact ⟨_, rfl, hw, fun _ => ⟨rfl, rfl⟩, fun h => Bool.noConfusion h, Or.inl rfl⟩
    rw [if_neg hfull]
    by_cases hpin : (!state.modulePinned) = true ∧ hrFailed env.pin = true
    · rw [if_pos hpin]
      refine ⟨_, rfl, hw, fun _ => ⟨rfl, rfl⟩, fun h => ?_, Or.inl rfl⟩
      rw [hpin.2] at h
      cases h
    rw [if_neg hpin]
    have hnew : ∀ (i : Nat) (r : DxvaRuntime), state.runtimes[i]? = some r → r.device ≠ device := by
      intro i r hi heq
      exact hknown (List.any_eq_true.mpr ⟨r, List.mem_of_getElem? hi, by simpa using heq⟩)
    have hroom := Nat.lt_of_le_of_ne hw.length_le hfull
    have hwired := newRuntime_wired hw hnew
    have happend := hw.append hnew hroom
    have hlast : (appendRuntime device device state).runtimes[state.runtimes.length]? =
        some (newRuntime device device state) := by
      show (state.runtimes ++ [newRuntime device device state])[state.runtimes.length]? = _
      simp
    obtain ⟨first, hfirst, hreaches₁, r₁, hr₁, hdevice₁⟩ := installVideo_wired happend hshared
      hlast rfl env.videoDevice depth (hwired.savedQuery_eq .device)
    obtain ⟨second, hsecond, hreaches₂, r₂, hr₂, hdevice₂⟩ := installVideo_wired hreaches₁.wired
      hshared hr₁ hdevice₁ env.videoContext depth (hwired.savedQuery_eq .context)
    have hfirst' : installVideo .device env.videoDevice (depth + 1) device state.runtimes.length
        (newRuntime device device state).deviceQuery (appendRuntime device device state) =
          some first := hfirst
    have hsecond' : installVideo .context env.videoContext (depth + 1) device
        state.runtimes.length (newRuntime device device state).contextQuery first.state =
          some second := hsecond
    unfold installVideos
    rw [hfirst']
    simp only [hsecond', Option.map_some]
    refine ⟨_, rfl, hreaches₂.wired, fun h => Bool.noConfusion h,
      fun _ => ⟨_, r₂, hr₂, hdevice₂⟩, Or.inr ?_⟩
    simp only [hreaches₁.driverCalls_eq, hreaches₂.driverCalls_eq]
    rfl

end Wired

/-! ## Runs -/

/-- A call of the bridge or of the application. -/
inductive D3dCall where
  /-- The call of `dxva_bridge_install` in `context_init_dx11`, with the immediate context
  of the device. -/
  | install (env : DxvaInstallEnv) (device : Nat)
  /-- A call of `QueryInterface` through the table of an interface. -/
  | query (env : QueryEnv) (out : Bool) (iid : QueryIid) (iface : D3dInterface)

/-- The calls, on a stack of some depth. -/
def d3dCalls (depth : Nat) : Machine DxvaRuntimes D3dCall (Option QueryOutcome) where
  step state call :=
    let outcome := match call with
      | .install env device => dxvaBridgeInstall env depth device device state
      | .query env out iid iface =>
          callQuery env out iid depth (state.vtbl iface .queryInterface) iface state
    ((outcome.map QueryOutcome.state).getD state, outcome)

/-- Before the first call every interface has the table of the driver. -/
def driverTables (table : D3dInterface → Nat) : DxvaRuntimes where
  lpVtbl iface := .driver (table iface)

theorem driverTables_wired (table : D3dInterface → Nat) :
    RuntimesWired table (driverTables table) where
  length_le := Nat.zero_le _
  distinct i j r s hr := by cases hr
  runtime i r hr := by cases hr
  points iface := Or.inl rfl
  installed i r hr := by cases hr

/-- The interface is one that the bridge has put its hooks on. -/
def DxvaRuntimes.Hooked (state : DxvaRuntimes) (table : D3dInterface → Nat)
    (iface : D3dInterface) : Prop :=
  state.vtbl iface = hookedVtbl table iface

/-- What holds of one call of a run. -/
structure PatchSafe (table : D3dInterface → Nat) (state : DxvaRuntimes) (call : D3dCall)
    (next : DxvaRuntimes) (answer : Option QueryOutcome) : Prop where
  /-- A query returns what the driver answers, and reaches it once. -/
  reaches : ∀ env out iid iface, call = .query env out iid iface →
    ∃ outcome, answer = some outcome ∧ outcome.result = env.hr ∧
      outcome.driverCalls = [table iface]
  /-- An installation returns.  If it fails nothing has changed, and else the device and its
  context are hooked. -/
  installs : ∀ env device, call = .install env device → ∃ outcome, answer = some outcome ∧
    (hrFailed outcome.result = true → next = state) ∧
    (hrFailed outcome.result = false →
      next.Hooked table (.device device) ∧ next.Hooked table (.immediate device))
  /-- A video interface that a hooked interface hands out is hooked. -/
  videos : ∀ env (video : VideoClass) device,
    call = .query env true (.video video) (video.parent device) →
    (∃ r ∈ state.runtimes, r.device = device) → hrFailed env.hr = false →
    next.Hooked table (video.interface device env.number)
  /-- An entry of a table is the function of the driver, or the hook that is meant for it. -/
  entries : ∀ iface method, next.vtbl iface method = .driver (table iface) method ∨
    iface.hooks method = some (next.vtbl iface method)
  /-- The runtime that is found by the table of an interface is that of its device. -/
  lookup : ∀ iface i, next.runtimeFrom iface.address iface = some i →
    ∃ r, next.runtimes[i]? = some r ∧ r.device = iface.owner
  /-- There are at most 64 runtimes, of different devices. -/
  bounded : next.runtimes.length ≤ dxvaRuntimeCount ∧ (next.runtimes.map (·.device)).Nodup

section Safe

variable {table : D3dInterface → Nat} {state : DxvaRuntimes}

theorem RuntimesWired.entries (hw : RuntimesWired table state) (iface : D3dInterface)
    (method : D3dMethod) : state.vtbl iface method = .driver (table iface) method ∨
      iface.hooks method = some (state.vtbl iface method) := by
  cases hw.vtbl_eq iface with
  | inl hdriver => exact Or.inl (congrFun hdriver.2 method)
  | inr hhooked =>
    rw [hhooked]
    unfold hookedVtbl replaceMethods
    cases hhook : iface.hooks method with
    | none => exact Or.inl rfl
    | some function => exact Or.inr rfl

theorem RuntimesWired.lookup (hw : RuntimesWired table state) {iface : D3dInterface} {i : Nat}
    (hfound : state.runtimeFrom iface.address iface = some i) :
    ∃ r, state.runtimes[i]? = some r ∧ r.device = iface.owner := by
  unfold DxvaRuntimes.runtimeFrom at hfound
  have hpointer : state.lpVtbl iface = iface.address i := by
    simpa using List.find?_some hfound
  cases hw.points iface with
  | inl hdriver =>
    rw [hdriver] at hpointer
    cases iface <;> cases hpointer
  | inr hpatched =>
    obtain ⟨j, r, hj, howner, hpointer', -⟩ := hpatched
    have hij := iface.address_inj (hpointer'.symm.trans hpointer)
    subst hij
    exact ⟨r, hj, howner⟩

theorem RuntimesWired.devices_nodup (hw : RuntimesWired table state) :
    (state.runtimes.map (·.device)).Nodup := by
  rw [List.nodup_iff_injective_get]
  intro i j hij
  have hi : i.val < state.runtimes.length := by simpa using i.isLt
  have hj : j.val < state.runtimes.length := by simpa using j.isLt
  refine Fin.ext (hw.distinct i.val j.val _ _ (List.getElem?_eq_getElem hi)
    (List.getElem?_eq_getElem hj) ?_)
  simpa using hij

/-- The interfaces of a device with a runtime that answer queries are hooked. -/
theorem RuntimesWired.hooked (hw : RuntimesWired table state) {i : Nat} {r : DxvaRuntime}
    (hr : state.runtimes[i]? = some r) (video : VideoClass) :
    state.Hooked table (video.parent r.device) :=
  (vtbl_of_address (hw.installed i r hr video) hr).trans ((hw.runtime i r hr).parent_eq video)

/-- A query for a video interface leaves the interface hooked. -/
theorem callQuery_hooked (hw : RuntimesWired table state) (hshared : SharedTables table)
    {i : Nat} {r : DxvaRuntime} (hr : state.runtimes[i]? = some r) (video : VideoClass)
    (env : QueryEnv) (depth : Nat) (hsuccess : hrFailed env.hr = false) :
    ∃ outcome, callQuery env true (.video video) (depth + 2)
      (state.vtbl (video.parent r.device) .queryInterface) (video.parent r.device) state =
        some outcome ∧ outcome.state.Hooked table (video.interface r.device env.number) := by
  have hcall := callQuery_parent hw hr rfl (hw.installed i r hr video) env true (.video video)
    depth
  have hhooked : state.vtbl (video.parent r.device) = hookedVtbl table (video.parent r.device) :=
    hw.hooked hr video
  rw [hhooked]
  refine ⟨_, hcall, ?_⟩
  unfold queryBehind
  rw [if_pos ⟨hsuccess, rfl, rfl⟩]
  obtain ⟨hpatched, hpointer⟩ := hw.patchVideo hshared video hr rfl env.number
  cases hpatched.points (video.interface r.device env.number) with
  | inl hdriver =>
    rw [hdriver] at hpointer
    cases video <;> cases hpointer
  | inr hpoints =>
    obtain ⟨j, s, hs, -, hpointer', htable⟩ := hpoints
    exact (vtbl_of_address hpointer' hs).trans htable

/-- What holds of every call whose state behind it is wired. -/
theorem patchSafe_of_wired {call : D3dCall} {next : DxvaRuntimes} {answer : Option QueryOutcome}
    (hnext : RuntimesWired table next)
    (hreaches : ∀ env out iid iface, call = .query env out iid iface →
      ∃ outcome, answer = some outcome ∧ outcome.result = env.hr ∧
        outcome.driverCalls = [table iface])
    (hinstalls : ∀ env device, call = .install env device → ∃ outcome, answer = some outcome ∧
      (hrFailed outcome.result = true → next = state) ∧
      (hrFailed outcome.result = false →
        next.Hooked table (.device device) ∧ next.Hooked table (.immediate device)))
    (hvideos : ∀ env (video : VideoClass) device,
      call = .query env true (.video video) (video.parent device) →
      (∃ r ∈ state.runtimes, r.device = device) → hrFailed env.hr = false →
      next.Hooked table (video.interface device env.number)) :
    PatchSafe table state call next answer where
  reaches := hreaches
  installs := hinstalls
  videos := hvideos
  entries := hnext.entries
  lookup _ _ hfound := hnext.lookup hfound
  bounded := ⟨hnext.length_le, hnext.devices_nodup⟩

/-- One call of a run. -/
theorem patchSafe_step (hw : RuntimesWired table state) (hshared : SharedTables table)
    (depth : Nat) (call : D3dCall) :
    RuntimesWired table ((d3dCalls (depth + 2)).step state call).1 ∧
      PatchSafe table state call ((d3dCalls (depth + 2)).step state call).1
        ((d3dCalls (depth + 2)).step state call).2 := by
  cases call with
  | install env device =>
    obtain ⟨outcome, hinstall, hreaches⟩ :=
      dxvaBridgeInstall_wired hw hshared env (depth + 1) device
    have hstep : (d3dCalls (depth + 2)).step state (.install env device) =
        (outcome.state, some outcome) := by
      simp [d3dCalls, hinstall]
    rw [hstep]
    refine ⟨hreaches.wired, patchSafe_of_wired hreaches.wired ?_ ?_ ?_⟩
    · intro env out iid iface heq
      cases heq
    · intro env device heq
      cases heq
      refine ⟨outcome, rfl, fun hfailed => (hreaches.failed hfailed).1, fun hsuccess => ?_⟩
      obtain ⟨i, r, hr, rfl⟩ := hreaches.installed hsuccess
      exact ⟨hreaches.wired.hooked hr .device, hreaches.wired.hooked hr .context⟩
    · intro env video device heq
      cases heq
  | query env out iid iface =>
    obtain ⟨outcome, hcall, hreaches⟩ := callQuery_wired hw hshared env out iid depth iface
    have hstep : (d3dCalls (depth + 2)).step state (.query env out iid iface) =
        (outcome.state, some outcome) := by
      simp [d3dCalls, hcall]
    rw [hstep]
    refine ⟨hreaches.wired, patchSafe_of_wired hreaches.wired ?_ ?_ ?_⟩
    · intro env out iid iface heq
      cases heq
      exact ⟨outcome, rfl, hreaches.result_eq, hreaches.driverCalls_eq⟩
    · intro env device heq
      cases heq
    · intro env video device heq hruntime hsuccess
      cases heq
      obtain ⟨r, hmem, rfl⟩ := hruntime
      obtain ⟨i, hr⟩ := List.mem_iff_getElem?.mp hmem
      obtain ⟨outcome', hcall', hhooked⟩ := callQuery_hooked hw hshared hr video env depth hsuccess
      obtain rfl := Option.some.inj (hcall.symm.trans hcall')
      exact hhooked

end Safe

/-- Along every run of installations and queries, on a stack that takes a hook and the
function behind it, every call is safe. -/
theorem dxva_patches_safe (table : D3dInterface → Nat) (hshared : SharedTables table)
    (depth : Nat) (calls : List D3dCall) :
    (d3dCalls (depth + 2)).Along
      (fun _ state call => PatchSafe table state call ((d3dCalls (depth + 2)).step state call).1
        ((d3dCalls (depth + 2)).step state call).2)
      [] (driverTables table) calls := by
  refine Machine.along_of_invariant (fun _ state => RuntimesWired table state)
    (P := fun _ _ _ => True) ?_ ?_ (driverTables_wired table)
    (Machine.along_of_forall (fun _ _ _ => trivial) _ _ _)
  · intro _ state call hw _
    exact (patchSafe_step hw hshared depth call).1
  · intro _ state call hw _
    exact (patchSafe_step hw hshared depth call).2

/-- The tables of a driver with one class for each kind of interface. -/
def oneClassEach : D3dInterface → Nat
  | .device _ => 0
  | .immediate _ => 1
  | .videoDevice _ _ => 2
  | .videoContext _ _ => 3

theorem oneClassEach_shared : SharedTables oneClassEach := by
  intro video device m n
  cases video <;> rfl

theorem dxva_patches_safe_two_devices :
    (d3dCalls 2).Along
      (fun _ state call => PatchSafe oneClassEach state call ((d3dCalls 2).step state call).1
        ((d3dCalls 2).step state call).2)
      [] (driverTables oneClassEach)
      [.install {} 0, .install {} 1, .query { number := 3 } true (.video .device) (.device 1)] :=
  dxva_patches_safe oneClassEach oneClassEach_shared 0
    [.install {} 0, .install {} 1, .query { number := 3 } true (.video .device) (.device 1)]

end UuAmfBridge
