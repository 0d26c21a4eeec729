import UuAmfBridge.Bridge.OutputRing
import UuAmfBridge.Dxva.Runtimes
import UuAmfBridge.Lib.RefCount

/-!
# The objects of the library

The COM objects of `src/amfrt_bridge.c` and `src/dxva_bridge.c` in one heap: contexts,
components, surfaces and buffers of AMF, and the decoders and output views of Direct3D.
Each has its count, and the references it holds are those of its pointer fields.  The
devices, immediate contexts and resources of Direct3D count for themselves.

The calls of the two interfaces are functions on the heap.  There is no result when a call
touches memory that has been freed, or takes an object for one of another kind.

A component is that of either build (`ComponentBuild`), with the addresses of its queued
packets in the array of outputs.  What a call does to that array is `ComponentBuild.ringOps`:
a packet is a new buffer when it is offered, goes to the client when it is taken, and is
released when the array is cleared.  An `ObjectBuild` says whether `component_close_codec`
clears the array; the shipped build leaves it.

The results of the calls are left out, but for the references that come with them, and so
are the calls on property stores: no store keeps an object as an interface variant.
-/

namespace UuAmfBridge

namespace Objects

open CountedHeap

/-! ## Objects -/

/-- The kinds of objects, one for each table of functions. -/
inductive ObjectKind where
  | context
  | component
  | surface
  | buffer
  | decoder
  | view
  deriving Repr, DecidableEq

/-- The objects of Direct3D that the library counts references on. -/
inductive D3dObject where
  | device (n : Nat)
  /-- The immediate context of a device. -/
  | immediate (device : Nat)
  | resource (n : Nat)
  deriving Repr, DecidableEq

/-- A pointer that comes with a reference. -/
abbrev Reference := Referent ObjectKind D3dObject

/-- `BridgeContext`. -/
structure Context where
  refs : Nat := 1
  device : Option Nat := none
  immediate : Option Nat := none

/-- `BridgeComponent`: the component of a build, and the addresses of its outputs. -/
structure Component (σ : Type) where
  refs : Nat := 1
  context : Nat
  component : σ
  outputs : Ring Nat bridgeMaxOutputs := Ring.empty
  valid : outputs.Valid

/-- `BridgeSurface`. -/
structure Surface where
  refs : Nat := 1
  texture : Nat

/-- `BridgeBuffer`. -/
structure Buffer where
  refs : Nat := 1
  contents : BridgeBuffer

/-- `BridgeDecoder`. -/
structure Decoder where
  refs : Nat := 1
  device : Nat
  output : Option Nat := none

/-- `BridgeOutputView`. -/
structure OutputView where
  refs : Nat := 1
  device : Nat
  resource : Nat

inductive Object (σ : Type) where
  | context (context : Context)
  | component (component : Component σ)
  | surface (surface : Surface)
  | buffer (buffer : Buffer)
  | decoder (decoder : Decoder)
  | view (view : OutputView)

namespace Object

variable {σ : Type}

def kind : Object σ → ObjectKind
  | context _ => .context
  | component _ => .component
  | surface _ => .surface
  | buffer _ => .buffer
  | decoder _ => .decoder
  | view _ => .view

def refs : Object σ → Nat
  | context c => c.refs
  | component c => c.refs
  | surface s => s.refs
  | buffer b => b.refs
  | decoder d => d.refs
  | view v => v.refs

def setRefs (n : Nat) : Object σ → Object σ
  | context c => context { c with refs := n }
  | component c => component { c with refs := n }
  | surface s => surface { s with refs := n }
  | buffer b => buffer { b with refs := n }
  | decoder d => decoder { d with refs := n }
  | view v => view { v with refs := n }

/-- The pointer fields that hold a reference. -/
def holds : Object σ → List Reference
  | context c => (c.immediate.toList.map D3dObject.immediate ++
      c.device.toList.map D3dObject.device).map .foreign
  | component c => c.outputs.contents.map (.object .buffer) ++ [.object .context c.context]
  | surface s => [.foreign (.resource s.texture)]
  | buffer _ => []
  | decoder d => d.output.toList.map (.object .view) ++ [.foreign (.device d.device)]
  | view v => [.foreign (.resource v.resource), .foreign (.device v.device)]

instance : Counted (Object σ) ObjectKind D3dObject where
  kind := kind
  refs := refs
  setRefs := setRefs
  holds := holds
  kind_setRefs n w := by cases w <;> rfl
  refs_setRefs n w := by cases w <;> rfl
  holds_setRefs n w := by cases w <;> rfl

end Object

abbrev ObjectHeap (σ : Type) := CountedHeap (Object σ) D3dObject

/-- A build, and whether its `component_close_codec` clears the array of outputs. -/
structure ObjectBuild (σ κ β : Type) extends ComponentBuild σ κ β where
  clears : Bool
  closeOps_eq : closeOps = if clears then [.clear] else []
  /-- The component of `component_create`. -/
  fresh : σ

theorem closeCodec_plays (process : BridgeProcess) :
    process.outputs.Plays [] process.closeCodec.outputs [] :=
  Ring.plays_nil process.outputs

theorem outputs_setProperties (update : BridgePropertyStore → BridgePropertyStore)
    (process : BridgeProcess) : (process.setProperties update).outputs = process.outputs :=
  rfl

/-- The shipped build.  The components of a process share the time of the last failed
connection, so each call comes with the time it finds. -/
def helperObjects (version : UInt32) (properties : BridgePropertyStore) :
    ObjectBuild BridgeProcess (UInt64 × ComponentCall) CallRecord where
  calls :=
    { step := fun process call => (componentCalls version).step
        { process with helperConnectFailureTime := call.1 } call.2 }
  outputs := BridgeProcess.outputs
  ringOps process call :=
    BridgeProcess.ringOps { process with helperConnectFailureTime := call.1 } call.2
  returned call := ComponentCall.returned call.2
  closeCodec := BridgeProcess.closeCodec
  closeOps := []
  setProperties := BridgeProcess.setProperties
  calls_plays process call :=
    componentCalls_plays version { process with helperConnectFailureTime := call.1 } call.2
  close_plays := closeCodec_plays
  outputs_setProperties := outputs_setProperties
  clears := false
  closeOps_eq := rfl
  fresh := { component := { properties } }

/-- The build with its own encoder. -/
def vulkanObjects (properties : BridgePropertyStore) :
    ObjectBuild Vulkan.Component Vulkan.ComponentCall Vulkan.VulkanRecord :=
  { vulkanBuild with
    clears := true
    closeOps_eq := rfl
    fresh := { properties } }

section Functions

variable {σ κ β : Type}

/-! ## Fields -/

def readContext (h : ObjectHeap σ) (a : Nat) : Option Context :=
  match h.cell a with
  | some (.context c) => some c
  | _ => none

def readComponent (h : ObjectHeap σ) (a : Nat) : Option (Component σ) :=
  match h.cell a with
  | some (.component c) => some c
  | _ => none

def readDecoder (h : ObjectHeap σ) (a : Nat) : Option Decoder :=
  match h.cell a with
  | some (.decoder d) => some d
  | _ => none

def readView (h : ObjectHeap σ) (a : Nat) : Option OutputView :=
  match h.cell a with
  | some (.view v) => some v
  | _ => none

/-- The table behind a pointer can be read; a null pointer is not. -/
def pointerLive (pointer : Option (ObjectKind × Nat)) (h : ObjectHeap σ) : Bool :=
  pointer.all fun object => (h.read object.1 object.2).isSome

/-! ## Releases -/

/-- `buffer_release`. -/
def bufferRelease : Nat → ObjectHeap σ → Option (ObjectHeap σ) :=
  releaseWith (fun _ => giveBackAll []) .buffer

def destroySurface : Object σ → List D3dObject
  | .surface s => [.resource s.texture]
  | _ => []

/-- `surface_release`. -/
def surfaceRelease : Nat → ObjectHeap σ → Option (ObjectHeap σ) :=
  releaseWith (fun w => giveBackAll (destroySurface w)) .surface

def destroyContext : Object σ → List D3dObject
  | .context c => c.immediate.toList.map .immediate ++ c.device.toList.map .device
  | _ => []

/-- `context_release`. -/
def contextRelease : Nat → ObjectHeap σ → Option (ObjectHeap σ) :=
  releaseWith (fun w => giveBackAll (destroyContext w)) .context

def destroyView : Object σ → List D3dObject
  | .view v => [.resource v.resource, .device v.device]
  | _ => []

/-- `view_release`. -/
def viewRelease : Nat → ObjectHeap σ → Option (ObjectHeap σ) :=
  releaseWith (fun w => giveBackAll (destroyView w)) .view

/-- The release of the output of a decoder, if there is one. -/
def releaseOutput (output : Option Nat) (h : ObjectHeap σ) : Option (ObjectHeap σ) :=
  match output with
  | none => some h
  | some view => viewRelease view h

/-- The end of `decoder_release`. -/
def destroyDecoder : Object σ → ObjectHeap σ → Option (ObjectHeap σ)
  | .decoder d, h => (releaseOutput d.output h).bind (giveBackAll [.device d.device])
  | _, _ => none

/-- `decoder_release`. -/
def decoderRelease : Nat → ObjectHeap σ → Option (ObjectHeap σ) :=
  releaseWith destroyDecoder .decoder

/-- The loop of `component_close_codec`. -/
def releaseBuffers : List Nat → ObjectHeap σ → Option (ObjectHeap σ)
  | [], h => some h
  | a :: as, h => (bufferRelease a h).bind (releaseBuffers as)

/-- The end of `component_release`. -/
def destroyComponent (clears : Bool) : Object σ → ObjectHeap σ → Option (ObjectHeap σ)
  | .component c, h =>
      (if clears then releaseBuffers c.outputs.contents h else some h).bind
        (contextRelease c.context)
  | _, _ => none

/-- `component_release`. -/
def componentRelease (clears : Bool) : Nat → ObjectHeap σ → Option (ObjectHeap σ) :=
  releaseWith (destroyComponent clears) .component

/-- The `Release` in the table of an object. -/
def releaseOf (clears : Bool) : ObjectKind → Nat → ObjectHeap σ → Option (ObjectHeap σ)
  | .context => contextRelease
  | .component => componentRelease clears
  | .surface => surfaceRelease
  | .buffer => bufferRelease
  | .decoder => decoderRelease
  | .view => viewRelease

/-! ## Interface queries -/

/-- The interface identifiers of AMF and Direct3D that an object of the library knows. -/
inductive Iid where
  | amfInterface
  | amfPropertyStorage
  | amfPropertyStorageEx
  | amfData
  | amfBuffer
  | amfSurface
  | amfPlane
  | amfContext
  | amfComponent
  | unknown
  | d3d11DeviceChild
  | d3d11View
  | d3d11VideoDecoder
  | d3d11VideoDecoderOutputView
  | other
  deriving Repr, DecidableEq

/-- The identifiers that the `QueryInterface` of an object answers. -/
def answeredIids : ObjectKind → List Iid
  | .context => [.amfContext, .amfPropertyStorage, .amfInterface]
  | .component => [.amfComponent, .amfPropertyStorage, .amfPropertyStorageEx, .amfInterface]
  | .surface => [.amfSurface, .amfData, .amfPropertyStorage, .amfInterface]
  | .buffer => [.amfBuffer, .amfData, .amfPropertyStorage, .amfInterface]
  | .decoder => [.unknown, .d3d11DeviceChild, .d3d11VideoDecoder]
  | .view => [.unknown, .d3d11DeviceChild, .d3d11View, .d3d11VideoDecoderOutputView]

/-- The identifiers that `plane_query_interface` answers. -/
def planeIids : List Iid := [.amfPlane, .amfInterface]

/-- What a call hands to the client: references, and those that nobody holds from now on. -/
structure Handed where
  given : List Reference := []
  lost : List Reference := []

/-- The `QueryInterface` of an object: a known identifier adds a reference. -/
def queryInterface (iids : List Iid) (k : ObjectKind) (a : Nat) (iid : Iid) (out : Bool)
    (h : ObjectHeap σ) : Option (Handed × ObjectHeap σ) :=
  if out = true ∧ iid ∈ iids then
    (h.addRef k a).map fun h => ({ given := [.object k a] }, h)
  else some ({}, h)

/-! ## AMF -/

/-- `context_create`. -/
def contextCreate (alloc : Bool) (h : ObjectHeap σ) : Handed × ObjectHeap σ :=
  if alloc then ({ given := [.object .context h.next] }, h.extend (.context {})) else ({}, h)

/-- `buffer_create`; `alloc` says that both its allocations succeed. -/
def bufferCreate (alloc : Bool) (contents : BridgeBuffer) (h : ObjectHeap σ) :
    Handed × ObjectHeap σ :=
  if alloc then ({ given := [.object .buffer h.next] }, h.extend (.buffer { contents }))
  else ({}, h)

/-- `surface_wrap` on a texture that is not null. -/
def surfaceWrap (alloc : Bool) (texture : Nat) (h : ObjectHeap σ) : Handed × ObjectHeap σ :=
  if alloc then
    ({ given := [.object .surface h.next] },
      (h.extend (.surface { texture })).take (.resource texture))
  else ({}, h)

/-- `context_alloc_surface`, when `CreateTexture2D` has made a texture: the surface keeps its
own reference to it. -/
def contextAllocSurface (alloc : Bool) (texture : Nat) (h : ObjectHeap σ) :
    Option (Handed × ObjectHeap σ) :=
  let wrapped := surfaceWrap alloc texture (h.take (.resource texture))
  (wrapped.2.giveBack (.resource texture)).map fun h => (wrapped.1, h)

/-- `component_create`. -/
def componentCreate (fresh : σ) (alloc : Bool) (context : Nat) (h : ObjectHeap σ) :
    Option (Handed × ObjectHeap σ) :=
  if alloc then
    ((h.extend (.component { context, component := fresh, valid := Ring.valid_empty })).addRef
      .context context).map fun h' => ({ given := [.object .component h.next] }, h')
  else some ({}, h)

/-- `component_queue_output` on a buffer that has just been created, which is released when
the array is full. -/
def queueBuffer (a buffer : Nat) (h : ObjectHeap σ) : Option (ObjectHeap σ) :=
  (readComponent h a).bind fun component =>
    match hpush : component.outputs.push buffer with
    | none => bufferRelease buffer h
    | some outputs =>
        some (h.put a (.component
          { component with outputs, valid := (component.valid.push hpush).1 }))

/-- The part of `component_query_output` that takes a buffer. -/
def takeBuffer (a : Nat) (h : ObjectHeap σ) : Option (Handed × ObjectHeap σ) :=
  (readComponent h a).bind fun component =>
    match hpop : component.outputs.pop with
    | none => some ({}, h)
    | some (buffer, outputs) =>
        some ({ given := buffer.toList.map (.object .buffer) },
          h.put a (.component
            { component with outputs, valid := (component.valid.pop hpop).1 }))

/-- The loop of `component_close_codec`, and the `memset` behind it. -/
def clearBuffers (a : Nat) (h : ObjectHeap σ) : Option (ObjectHeap σ) :=
  (readComponent h a).bind fun component =>
    (releaseBuffers component.outputs.contents h).bind fun h =>
      (readComponent h a).map fun component =>
        h.put a (.component { component with outputs := Ring.empty, valid := Ring.valid_empty })

/-- One thing a call does to the array of outputs. -/
def playOutput (a : Nat) (op : RingOp BridgeBuffer) (h : ObjectHeap σ) :
    Option (Handed × ObjectHeap σ) :=
  match op with
  | .offer contents =>
      (queueBuffer a h.next (h.extend (.buffer { contents }))).map fun h => ({}, h)
  | .take => takeBuffer a h
  | .clear => (clearBuffers a h).map fun h => ({}, h)

def playOutputs (a : Nat) : List (RingOp BridgeBuffer) → ObjectHeap σ →
    Option (Handed × ObjectHeap σ)
  | [], h => some ({}, h)
  | op :: ops, h =>
      (playOutput a op h).bind fun first =>
        (playOutputs a ops first.2).map fun rest =>
          ({ given := first.1.given ++ rest.1.given }, rest.2)

/-- A call on a component.  `component_submit` reads the data it is given, and the context
when it maps the surface. -/
def componentCall (build : ObjectBuild σ κ β) (a : Nat) (call : κ)
    (data : Option (ObjectKind × Nat)) (h : ObjectHeap σ) : Option (Handed × ObjectHeap σ) :=
  (readComponent h a).bind fun component =>
    let next := build.calls.step component.component call
    let reads := data.isNone || (pointerLive data h && (readContext h component.context).isSome)
    if reads then
      playOutputs a (build.ringOps component.component call)
        (h.put a (.component { component with component := next.1 }))
    else none

/-! ## Direct3D -/

/-- The state of the library: its objects, and the runtimes of `dxva_bridge.c`. -/
structure Library (σ : Type) where
  heap : ObjectHeap σ
  dxva : DxvaRuntimes

/-- The references that an entry of `runtimes` holds. -/
def runtimeReferences (runtimes : List DxvaRuntime) : List D3dObject :=
  runtimes.flatMap fun runtime => [.device runtime.device, .immediate runtime.context]

def takeAll (xs : List D3dObject) (h : ObjectHeap σ) : ObjectHeap σ :=
  xs.foldl CountedHeap.take h

/-- `context_init_dx11`: the context holds the device and its immediate context, and so
does a new entry of `runtimes`. -/
def contextInitDx11 (env : DxvaInstallEnv) (a : Nat) (device : Option Nat)
    (library : Library σ) : Option (Library σ) :=
  (readContext library.heap a).bind fun context =>
    match device with
    | none => some library
    | some device =>
        (giveBackAll (destroyContext (.context context : Object σ)) library.heap).bind fun h =>
          let h := h.put a
            (.context { context with device := some device, immediate := some device })
          let h := takeAll [.device device, .immediate device] h
          (dxvaBridgeInstall env 2 device device library.dxva).map fun outcome =>
            let added := outcome.state.runtimes.drop library.dxva.runtimes.length
            { heap := takeAll (runtimeReferences added) h, dxva := outcome.state }

/-- `video_create_decoder`; `accepted` says that the description is supported. -/
def videoCreateDecoder (accepted alloc : Bool) (iface : D3dInterface) (library : Library σ) :
    Option (Handed × ObjectHeap σ) :=
  match library.dxva.runtimeFromVideoDevice iface with
  | none => some ({}, library.heap)
  | some i =>
      (library.dxva.runtimes[i]?).map fun runtime =>
        if accepted && alloc then
          ({ given := [.object .decoder library.heap.next] },
            (library.heap.extend (.decoder { device := runtime.device })).take
              (.device runtime.device))
        else ({}, library.heap)

/-- `video_create_output`. -/
def videoCreateOutput (accepted alloc : Bool) (iface : D3dInterface) (resource : Option Nat)
    (library : Library σ) : Option (Handed × ObjectHeap σ) :=
  match library.dxva.runtimeFromVideoDevice iface with
  | none => some ({}, library.heap)
  | some i =>
      (library.dxva.runtimes[i]?).map fun runtime =>
        match resource with
        | none => ({}, library.heap)
        | some resource =>
            if accepted && alloc then
              ({ given := [.object .view library.heap.next] },
                takeAll [.device runtime.device, .resource resource]
                  (library.heap.extend (.view { device := runtime.device, resource })))
            else ({}, library.heap)

/-- `decoder_get_device`, with a pointer that is not null. -/
def decoderGetDevice (a : Nat) (h : ObjectHeap σ) : Option (Handed × ObjectHeap σ) :=
  (readDecoder h a).map fun decoder =>
    ({ given := [.foreign (.device decoder.device)] }, h.take (.device decoder.device))

/-- `view_get_device`, with a pointer that is not null. -/
def viewGetDevice (a : Nat) (h : ObjectHeap σ) : Option (Handed × ObjectHeap σ) :=
  (readView h a).map fun view =>
    ({ given := [.foreign (.device view.device)] }, h.take (.device view.device))

/-- `view_get_resource`, with a pointer that is not null. -/
def viewGetResource (a : Nat) (h : ObjectHeap σ) : Option (Handed × ObjectHeap σ) :=
  (readView h a).map fun view =>
    ({ given := [.foreign (.resource view.resource)] }, h.take (.resource view.resource))

/-- `context_begin_frame` on an object with the table `decoder_vtbl` and one with
`view_vtbl`: the view before is released first. -/
def contextBeginFrame (a view : Nat) (h : ObjectHeap σ) : Option (ObjectHeap σ) :=
  (readDecoder h a).bind fun decoder =>
    (releaseOutput decoder.output h).bind fun h =>
      (readDecoder h a).bind fun decoder =>
        (h.put a (.decoder { decoder with output := some view })).addRef .view view

/-- `context_end_frame`, as far as it uses other objects.  When a frame has come,
`upload_nv12` asks the resource of the view for its texture, and releases the texture. -/
def contextEndFrame (frame texture : Bool) (a : Nat) (h : ObjectHeap σ) :
    Option (ObjectHeap σ) :=
  (readDecoder h a).bind fun decoder =>
    if !frame then some h
    else
      match decoder.output with
      | none => some h
      | some output =>
          (readView h output).bind fun view =>
            if texture then (h.take (.resource view.resource)).giveBack (.resource view.resource)
            else some h

/-! ## Calls of the client -/

/-- A call of the client, with what happens during it. -/
inductive Call (κ : Type) where
  /-- `factory_create_context`. -/
  | createContext (alloc : Bool)
  /-- `factory_create_component`; `known` says that the identifier is that of the encoder. -/
  | createComponent (context : Nat) (known alloc : Bool)
  /-- `context_init_dx11`. -/
  | initDx11 (context : Nat) (device : Option Nat) (env : DxvaInstallEnv)
  /-- `context_alloc_buffer` and `context_buffer_host`; `valid` says that the memory type of
  the first is `AMF_MEMORY_HOST`. -/
  | createBuffer (context : Nat) (valid alloc : Bool) (contents : BridgeBuffer)
  /-- `context_create_surface_dx11`.  A surface of an unknown format is handed out too. -/
  | createSurface (context : Nat) (texture : Option Nat) (alloc : Bool)
  /-- `context_alloc_surface`, with the texture that `CreateTexture2D` makes. -/
  | allocSurface (context : Nat) (texture : Option Nat) (alloc : Bool)
  /-- `Acquire` or `AddRef`. -/
  | acquire (kind : ObjectKind) (a : Nat)
  | release (kind : ObjectKind) (a : Nat)
  | query (kind : ObjectKind) (a : Nat) (iid : Iid) (out : Bool)
  /-- The calls on the plane of a surface. -/
  | planeAcquire (surface : Nat)
  | planeRelease (surface : Nat)
  | planeQuery (surface : Nat) (iid : Iid) (out : Bool)
  /-- The calls with a body of their own in each build. -/
  | component (a : Nat) (call : κ) (data : Option (ObjectKind × Nat))
  /-- `QueryInterface` on an interface of Direct3D. -/
  | queryD3d (env : QueryEnv) (out : Bool) (iid : QueryIid) (iface : D3dInterface)
  /-- `Release` of the client on an object of Direct3D, for a reference from the library. -/
  | releaseD3d (x : D3dObject)
  /-- `video_create_decoder` and `video_create_output`, on a video interface of a device. -/
  | createDecoder (device number : Nat) (accepted alloc : Bool)
  | createOutput (device number : Nat) (resource : Option Nat) (accepted alloc : Bool)
  | decoderGetDevice (a : Nat)
  | viewGetDevice (a : Nat)
  | viewGetResource (a : Nat)
  /-- `context_begin_frame`, on objects of any kind; `none` is a null pointer or an object
  of another library. -/
  | beginFrame (decoder view : Option (ObjectKind × Nat))
  | endFrame (decoder : Option (ObjectKind × Nat)) (frame texture : Bool)

/-- The reference that a pointer to an object of the library stands for. -/
def pointerReference (pointer : Option (ObjectKind × Nat)) : List Reference :=
  pointer.toList.map fun object => .object object.1 object.2

/-- The references behind the pointers of a call. -/
def Call.uses : Call κ → List Reference
  | .createContext _ => []
  | .createComponent context _ _ => [.object .context context]
  | .initDx11 context _ _ => [.object .context context]
  | .createBuffer context _ _ _ => [.object .context context]
  | .createSurface context _ _ => [.object .context context]
  | .allocSurface context _ _ => [.object .context context]
  | .acquire kind a => [.object kind a]
  | .release kind a => [.object kind a]
  | .query kind a _ _ => [.object kind a]
  | .planeAcquire surface => [.object .surface surface]
  | .planeRelease surface => [.object .surface surface]
  | .planeQuery surface _ _ => [.object .surface surface]
  | .component a _ data => .object .component a :: pointerReference data
  | .queryD3d _ _ _ _ => []
  | .releaseD3d x => [.foreign x]
  | .createDecoder _ _ _ _ => []
  | .createOutput _ _ _ _ _ => []
  | .decoderGetDevice a => [.object .decoder a]
  | .viewGetDevice a => [.object .view a]
  | .viewGetResource a => [.object .view a]
  | .beginFrame decoder view => pointerReference decoder ++ pointerReference view
  | .endFrame decoder _ _ => pointerReference decoder

/-- The references that the client gives up with a call. -/
def Call.surrenders : Call κ → List Reference
  | .release kind a => [.object kind a]
  | .planeRelease surface => [.object .surface surface]
  | .releaseD3d x => [.foreign x]
  | _ => []

/-- The queued packets that nobody holds any more behind a `Release`: those of a component
that is freed without its array being cleared. -/
def lostBy (clears : Bool) (k : ObjectKind) (a : Nat) (h : ObjectHeap σ) : List Reference :=
  match k, readComponent h a with
  | .component, some component =>
      if clears = false ∧ component.refs = 1 then
        component.outputs.contents.map (.object .buffer)
      else []
  | _, _ => []

/-- A call that changes the heap alone. -/
def onHeap (library : Library σ) (next : Option (Handed × ObjectHeap σ)) :
    Option (Handed × Library σ) :=
  next.map fun next => (next.1, { library with heap := next.2 })

/-- A call on an object that must be alive, whatever it is. -/
def withLive (k : ObjectKind) (a : Nat) (h : ObjectHeap σ) (next : Handed × ObjectHeap σ) :
    Option (Handed × ObjectHeap σ) :=
  (h.read k a).map fun _ => next

/-- One call. -/
def Library.call (build : ObjectBuild σ κ β) (library : Library σ) :
    Call κ → Option (Handed × Library σ)
  | .createContext alloc => onHeap library (some (contextCreate alloc library.heap))
  | .createComponent context known alloc =>
      onHeap library (if known then componentCreate build.fresh alloc context library.heap
        else withLive .context context library.heap ({}, library.heap))
  | .initDx11 context device env =>
      (contextInitDx11 env context device library).map fun library => ({}, library)
  | .createBuffer context valid alloc contents =>
      onHeap library (withLive .context context library.heap
        (if valid then bufferCreate alloc contents library.heap else ({}, library.heap)))
  | .createSurface context texture alloc =>
      onHeap library (withLive .context context library.heap
        (match texture with
          | none => ({}, library.heap)
          | some texture => surfaceWrap alloc texture library.heap))
  | .allocSurface context texture alloc =>
      onHeap library ((library.heap.read .context context).bind fun _ =>
        match texture with
        | none => some ({}, library.heap)
        | some texture => contextAllocSurface alloc texture library.heap)
  | .acquire kind a =>
      onHeap library ((library.heap.addRef kind a).map fun h => ({ given := [.object kind a] }, h))
  | .release kind a =>
      onHeap library ((releaseOf build.clears kind a library.heap).map fun h =>
        ({ lost := lostBy build.clears kind a library.heap }, h))
  | .query kind a iid out =>
      onHeap library (queryInterface (answeredIids kind) kind a iid out library.heap)
  | .planeAcquire surface =>
      onHeap library ((library.heap.addRef .surface surface).map fun h =>
        ({ given := [.object .surface surface] }, h))
  | .planeRelease surface =>
      onHeap library ((surfaceRelease surface library.heap).map fun h => ({}, h))
  | .planeQuery surface iid out =>
      onHeap library (queryInterface planeIids .surface surface iid out library.heap)
  | .component a call data => onHeap library (componentCall build a call data library.heap)
  | .queryD3d env out iid iface =>
      (callQuery env out iid 2 (library.dxva.vtbl iface .queryInterface) iface library.dxva).map
        fun outcome => ({}, { library with dxva := outcome.state })
  | .releaseD3d x => onHeap library ((library.heap.giveBack x).map fun h => ({}, h))
  | .createDecoder device number accepted alloc =>
      onHeap library (videoCreateDecoder accepted alloc (.videoDevice device number) library)
  | .createOutput device number resource accepted alloc =>
      onHeap library
        (videoCreateOutput accepted alloc (.videoDevice device number) resource library)
  | .decoderGetDevice a => onHeap library (decoderGetDevice a library.heap)
  | .viewGetDevice a => onHeap library (viewGetDevice a library.heap)
  | .viewGetResource a => onHeap library (viewGetResource a library.heap)
  | .beginFrame decoder view =>
      if pointerLive decoder library.heap && pointerLive view library.heap then
        match decoder, view with
        | some (.decoder, a), some (.view, view) =>
            onHeap library ((contextBeginFrame a view library.heap).map fun h => ({}, h))
        | _, _ => some ({}, library)
      else none
  | .endFrame decoder frame texture =>
      if pointerLive decoder library.heap then
        match decoder with
        | some (.decoder, a) =>
            onHeap library ((contextEndFrame frame texture a library.heap).map fun h => ({}, h))
        | _ => some ({}, library)
      else none

end Functions

end Objects

end UuAmfBridge
