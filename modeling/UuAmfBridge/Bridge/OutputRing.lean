import UuAmfBridge.Bridge.VulkanComponent

/-!
# The ring of encoded packets

Both builds of `src/amfrt_bridge.c` keep their encoded packets in the same array
of eight slots.  `component_queue_output` and `component_query_output` are shared,
and `component_close_codec` clears the array in one build and leaves it alone in
the other.

A `ComponentBuild` is what the array sees of a build: each call as the operations
it makes on the ring.  The fields of the structure prove that these operations
and no others make the array of the next state, and that what
`component_query_output` returns is what they pop.

A `BridgeObject` is a component behind its table of functions, with its count of
references.  A run is any sequence of calls on it.  `output_ring_kept` says of
every run in both builds that the ring is valid after each call, that no packet
is written over, and that no packet is returned twice.  For the last one the
packets are numbered in the order of `component_queue_output`.
-/

namespace UuAmfBridge

/-! ## The calls of an object -/

/-- A call through the table of functions of a component. -/
inductive InterfaceCall (κ : Type) where
  /-- A call with a body of its own in each build, or that reaches the outputs. -/
  | call (call : κ)
  /-- A call of `DEFINE_PROPERTY_METHODS`, with what it does to the properties. -/
  | properties (update : BridgePropertyStore → BridgePropertyStore)
  /-- `component_acquire`, and `component_query_interface` with an interface it knows. -/
  | acquire
  /-- `component_release`. -/
  | release
  /-- A call that answers from constants or from its arguments. -/
  | other

/-- A component with its count of references, from `component_create` until its
memory is freed. -/
structure BridgeObject (σ : Type) where
  component : σ
  refs : Int32 := 1
  freed : Bool := false

/-- A build of the component, as far as its outputs go. -/
structure ComponentBuild (σ κ β : Type) where
  /-- The calls that have a body of their own in each build. -/
  calls : Machine σ κ β
  outputs : σ → Ring BridgeBuffer bridgeMaxOutputs
  /-- What a call does to the array of outputs, in order. -/
  ringOps : σ → κ → List (RingOp BridgeBuffer)
  /-- `*out`, after a `component_query_output` that has returned `AMF_OK`. -/
  returned : κ → β → Option (Option BridgeBuffer)
  /-- `component_close_codec`, and what it does to the array. -/
  closeCodec : σ → σ
  closeOps : List (RingOp BridgeBuffer)
  setProperties : (BridgePropertyStore → BridgePropertyStore) → σ → σ
  calls_plays : ∀ component call, (outputs component).Plays (ringOps component call)
    (outputs (calls.step component call).1) (returned call (calls.step component call).2).toList
  close_plays : ∀ component,
    (outputs component).Plays closeOps (outputs (closeCodec component)) []
  outputs_setProperties : ∀ update component,
    outputs (setProperties update component) = outputs component

namespace ComponentBuild

variable {σ κ β : Type} (build : ComponentBuild σ κ β)

/-- The object after a call on it, and the answer of a call with a body of its own
in each build.  Nothing can be called on memory that is freed. -/
def interface : Machine (BridgeObject σ) (InterfaceCall κ) (Option β) where
  step object call :=
    if object.freed then (object, none)
    else
      match call with
      | .call call =>
          let next := build.calls.step object.component call
          ({ object with component := next.1 }, some next.2)
      | .properties update =>
          ({ object with component := build.setProperties update object.component }, none)
      | .acquire => ({ object with refs := object.refs + 1 }, none)
      | .release =>
          if object.refs - 1 = 0 then
            ({ component := build.setProperties (fun _ => []) (build.closeCodec object.component)
               refs := 0
               freed := true }, none)
          else ({ object with refs := object.refs - 1 }, none)
      | .other => (object, none)

/-- What a call on an object does to the array of outputs, in order. -/
def objectOps (object : BridgeObject σ) (call : InterfaceCall κ) :
    List (RingOp BridgeBuffer) :=
  if object.freed then []
  else
    match call with
    | .call call => build.ringOps object.component call
    | .release => if object.refs - 1 = 0 then build.closeOps else []
    | _ => []

/-- `*out`, after a `component_query_output` that has returned `AMF_OK`. -/
def objectReturned (call : InterfaceCall κ) (answer : Option β) :
    Option (Option BridgeBuffer) :=
  match call, answer with
  | .call call, some answer => build.returned call answer
  | _, _ => none

/-- The outputs of an object. -/
def objectOutputs (object : BridgeObject σ) : Ring BridgeBuffer bridgeMaxOutputs :=
  build.outputs object.component

/-- The calls on an object, with a second ring on which the operations of each
call are repeated on numbered packets.  The answer holds what that ring has handed
out. -/
def numbered : Machine (BridgeObject σ × NumberedRing BridgeBuffer bridgeMaxOutputs)
    (InterfaceCall κ) (Option β × List (RingAnswer (Nat × BridgeBuffer))) where
  step state call :=
    let next := build.interface.step state.1 call
    let ring := NumberedRing.machine BridgeBuffer bridgeMaxOutputs
    let ops := build.objectOps state.1 call
    ((next.1, ring.run state.2 ops), (next.2, ring.outputs state.2 ops))

/-- The numbers of the packets that have been popped, in order. -/
def poppedNumbers (log : List (Option β × List (RingAnswer (Nat × BridgeBuffer)))) :
    List Nat :=
  ((log.flatMap Prod.snd).flatMap RingAnswer.popped).map Prod.fst

/-- What holds of one call of a run. -/
structure KeepsOutputs (log : List (Option β × List (RingAnswer (Nat × BridgeBuffer))))
    (state : BridgeObject σ × NumberedRing BridgeBuffer bridgeMaxOutputs)
    (call : InterfaceCall κ) : Prop where
  /-- After the call the head is an index, at most eight packets are queued, and
  exactly their slots are not null. -/
  valid : (build.objectOutputs (build.numbered.step state call).1.1).Valid
  /-- The array holds the packets that the numbers stand for. -/
  numbered_eq : (build.numbered.step state call).1.2.unnumbered =
    build.objectOutputs (build.numbered.step state call).1.1
  /-- What the call returns is what has been popped. -/
  returned_eq : ((build.numbered.step state call).2.2.map
      (RingAnswer.map Prod.snd)).filterMap RingAnswer.pop? =
    (build.objectReturned call (build.numbered.step state call).2.1).toList
  /-- `AMF_OK` comes with a packet. -/
  returned_isSome : ∀ output,
    build.objectReturned call (build.numbered.step state call).2.1 = some output →
      output.isSome = true
  /-- Up to this call no packet has been popped twice. -/
  popped_nodup : (poppedNumbers (log ++ [(build.numbered.step state call).2])).Nodup
  /-- Each packet the call queues goes to a slot that is null, and the queued ones
  stay. -/
  stores : (Ring.machine BridgeBuffer bridgeMaxOutputs).Along
    (fun _ ring op => ring.StoresInEmptySlot op) [] (build.objectOutputs state.1)
      (build.objectOps state.1 call)

/-- The operations of a call on an object make the array of the next state, and
pop what the call returns. -/
theorem interface_plays (object : BridgeObject σ) (call : InterfaceCall κ) :
    (build.objectOutputs object).Plays (build.objectOps object call)
      (build.objectOutputs (build.interface.step object call).1)
      (build.objectReturned call (build.interface.step object call).2).toList := by
  unfold interface objectOps objectOutputs objectReturned
  simp only
  by_cases hfreed : object.freed = true
  · simp only [hfreed, if_true]
    cases call <;> exact Ring.plays_nil _
  · simp only [hfreed, Bool.false_eq_true, if_false]
    cases call with
    | call call => exact build.calls_plays object.component call
    | properties update =>
      simp only [build.outputs_setProperties]
      exact Ring.plays_nil _
    | acquire => exact Ring.plays_nil _
    | release =>
      by_cases hlast : object.refs - 1 = 0
      · simp only [hlast, if_true, build.outputs_setProperties]
        exact build.close_plays object.component
      · simp only [hlast, if_false]
        exact Ring.plays_nil _
    | other => exact Ring.plays_nil _

/-- The numbers stand for the packets of the array, and each of them has left the
ring at most once. -/
structure Numbered (log : List (Option β × List (RingAnswer (Nat × BridgeBuffer))))
    (state : BridgeObject σ × NumberedRing BridgeBuffer bridgeMaxOutputs) : Prop where
  unnumbered_eq : state.2.unnumbered = build.objectOutputs state.1
  inOrder : NumberedRing.InOrder (log.flatMap Prod.snd) state.2

variable {build}

/-- A call keeps the numbers. -/
theorem Numbered.step {log : List (Option β × List (RingAnswer (Nat × BridgeBuffer)))}
    {state : BridgeObject σ × NumberedRing BridgeBuffer bridgeMaxOutputs}
    (h : build.Numbered log state) (call : InterfaceCall κ) :
    build.Numbered (log ++ [(build.numbered.step state call).2])
      (build.numbered.step state call).1 where
  unnumbered_eq := by
    have hplays := build.interface_plays state.1 call
    rw [← h.unnumbered_eq] at hplays
    exact (NumberedRing.run_unnumbered state.2 _).trans hplays.run_eq
  inOrder := by
    have hrun := h.inOrder.run (build.objectOps state.1 call)
    rw [List.flatMap_append, List.flatMap_singleton]
    exact hrun

/-- A call on an object whose packets are numbered keeps its outputs. -/
theorem Numbered.keepsOutputs
    {log : List (Option β × List (RingAnswer (Nat × BridgeBuffer)))}
    {state : BridgeObject σ × NumberedRing BridgeBuffer bridgeMaxOutputs}
    (h : build.Numbered log state) (call : InterfaceCall κ) :
    build.KeepsOutputs log state call := by
  have hvalid : (build.objectOutputs state.1).Valid := h.unnumbered_eq ▸ h.inOrder.valid.map _
  have hplays := build.interface_plays state.1 call
  have hnext := h.step call
  refine ⟨?_, hnext.unnumbered_eq, ?_, ?_, hnext.inOrder.popped_nodup,
    hvalid.along_storesInEmptySlot _⟩
  · rw [← hnext.unnumbered_eq]
    exact hnext.inOrder.valid.map _
  · show List.filterMap RingAnswer.pop? (List.map _
      ((NumberedRing.machine BridgeBuffer bridgeMaxOutputs).outputs state.2 _)) = _
    rw [NumberedRing.outputs_unnumbered, h.unnumbered_eq]
    exact hplays.popped_eq
  · intro output houtput
    apply hvalid.pop?_outputs_isSome
    rw [hplays.popped_eq]
    show output ∈ (build.objectReturned call (build.numbered.step state call).2.1).toList
    rw [houtput]
    exact List.mem_singleton_self output

/-- A run from an object with an empty array keeps its outputs at every call. -/
theorem along_keepsOutputs {component : σ} (hempty : build.outputs component = Ring.empty)
    (calls : List (InterfaceCall κ)) :
    build.numbered.Along build.KeepsOutputs [] ({ component }, {}) calls :=
  Machine.along_of_invariant (P := fun _ _ _ => True) build.Numbered
    (fun _ _ call hinv _ => hinv.step call) (fun _ _ call hinv _ => hinv.keepsOutputs call)
    ⟨hempty.symm, NumberedRing.inOrder_empty⟩
    (Machine.along_of_forall (fun _ _ _ => trivial) _ _ calls)

end ComponentBuild

/-! ## The shipped build -/

/-- The buffer for the payload of an accepted reply, when it is read and there is
memory for it. -/
def receivedBuffer (env : SubmitEnv) (surface : BridgeSurface) (exchange : FrameExchange)
    (reply : HelperReply) : Option BridgeBuffer :=
  if reply.payloadSize = 0 then none
  else if !env.packetMalloc then none
  else
    let packet := socketRecvAll env.packetRecv reply.payloadSize.toNat exchange.header.rest
    if packet.status ≠ .complete then none
    else if !env.bufferCreate then none
    else some ⟨packet.data, surface.pts, surface.duration⟩

/-- The buffer with which `component_submit` calls `component_queue_output`. -/
def submittedBuffer (env : SubmitEnv) (component : BridgeComponent)
    (data : Option BridgeSurface) : Option BridgeBuffer :=
  if !component.initialized then none
  else
    match data with
    | none => none
    | some surface =>
        match mapSurfaceBytes env.map component surface, component.helper with
        | .ok frame, some connection =>
            let exchange := exchangeFrame env connection
              (frameMessage component surface).encode frame
            exchange.reply?.bind (receivedBuffer env surface exchange)
        | _, _ => none

/-- The second stage of `component_submit` offers the buffer it has received. -/
theorem receivePacket_plays (env : SubmitEnv) (component : BridgeComponent)
    (surface : BridgeSurface) (exchange : FrameExchange) (reply : HelperReply) :
    component.outputs.Plays ((receivedBuffer env surface exchange reply).toList.map .offer)
      (receivePacket env component surface exchange reply).1.outputs [] := by
  unfold receivePacket receivedBuffer
  simp only
  split_ifs with hsize hmalloc hstatus hbuffer
  · exact Ring.plays_nil _
  · exact Ring.plays_nil _
  · exact Ring.plays_nil _
  · exact Ring.plays_nil _
  · split
    next hpush => exact Ring.plays_offer_full hpush
    next outputs hpush => exact Ring.Plays.offer hpush (Ring.plays_nil _)

theorem componentSubmit_plays (env : SubmitEnv) (component : BridgeComponent)
    (data : Option BridgeSurface) :
    component.outputs.Plays ((submittedBuffer env component data).toList.map .offer)
      (componentSubmit env component data).1.outputs [] := by
  unfold componentSubmit submittedBuffer
  by_cases hinit : component.initialized = true
  · simp only [hinit, Bool.not_true, Bool.false_eq_true, if_false]
    cases data with
    | none => exact Ring.plays_nil _
    | some surface =>
      cases hmap : mapSurfaceBytes env.map component surface with
      | error result =>
        simp only [hmap]
        exact Ring.plays_nil _
      | ok frame =>
        cases hhelper : component.helper with
        | none =>
          simp only [hmap]
          exact Ring.plays_nil _
        | some connection =>
          simp only [hmap]
          cases hreply : (exchangeFrame env connection
              (frameMessage component surface).encode frame).reply? with
          | none => exact Ring.plays_nil _
          | some reply => exact receivePacket_plays env component surface _ reply
  · simp only [hinit, Bool.not_false, if_true]
    exact Ring.plays_nil _

/-- Opening a session leaves the outputs alone, also where it closes the codec. -/
theorem componentInit_outputs (version : UInt32) (env : InitEnv) (process : BridgeProcess)
    (format : AMFSurfaceFormat) (width height : Int32) :
    (componentInit version env process format width height).1.component.outputs =
      process.component.outputs := by
  rcases componentInit_cases version env process format width height with
    ⟨_, _, heq, -⟩ | ⟨_, heq⟩ | ⟨opened, -, heq⟩
  · rw [heq]
  · rw [heq]
    rfl
  · rw [heq]
    rfl

/-- The outputs of the component. -/
def BridgeProcess.outputs (process : BridgeProcess) : Ring BridgeBuffer bridgeMaxOutputs :=
  process.component.outputs

/-- What a call does to the array of outputs. -/
def BridgeProcess.ringOps (process : BridgeProcess) :
    ComponentCall → List (RingOp BridgeBuffer)
  | .submitInput env data => (submittedBuffer env process.component data).toList.map .offer
  | .queryOutput true => [.take]
  | _ => []

/-- `component_close_codec`, which leaves the queued packets where they are. -/
def BridgeProcess.closeCodec (process : BridgeProcess) : BridgeProcess :=
  { process with component := componentCloseCodec process.component }

/-- The calls that change the properties leave the rest of the component alone. -/
def BridgeProcess.setProperties (update : BridgePropertyStore → BridgePropertyStore)
    (process : BridgeProcess) : BridgeProcess :=
  { process with
    component := { process.component with properties := update process.component.properties } }

/-- `*out`, after a `component_query_output` that has returned `AMF_OK`. -/
def ComponentCall.returned : ComponentCall → CallRecord → Option (Option BridgeBuffer)
  | .queryOutput _, record => if record.result = .ok then some record.output else none
  | _, _ => none

theorem componentQueryOutput_plays (process : BridgeProcess) (out : Bool) :
    process.outputs.Plays (process.ringOps (.queryOutput out))
      (componentQueryOutput process.component out).1.outputs
      (ComponentCall.returned (.queryOutput out)
        (componentQueryOutput process.component out).2).toList := by
  cases out with
  | false => exact Ring.plays_nil _
  | true =>
    show process.component.outputs.Plays [.take] _ _
    unfold componentQueryOutput
    cases hpop : process.component.outputs.pop with
    | none =>
      cases hdraining : process.component.draining <;> exact Ring.plays_take_empty hpop
    | some popped => exact Ring.plays_take hpop

theorem componentCalls_plays (version : UInt32) (process : BridgeProcess)
    (call : ComponentCall) :
    process.outputs.Plays (process.ringOps call)
      ((componentCalls version).step process call).1.outputs
      (call.returned ((componentCalls version).step process call).2).toList := by
  cases call with
  | init env format width height =>
    show process.outputs.Plays [] (componentInit version env process format width height).1.outputs
      []
    unfold BridgeProcess.outputs
    rw [componentInit_outputs]
    exact Ring.plays_nil _
  | reinit env width height =>
    show process.outputs.Plays [] (componentReinit version env process width height).1.outputs []
    unfold componentReinit BridgeProcess.outputs
    rw [componentInit_outputs]
    exact Ring.plays_nil _
  | submitInput env data => exact componentSubmit_plays env process.component data
  | queryOutput out => exact componentQueryOutput_plays process out
  | drain =>
    show process.outputs.Plays [] (componentDrain process.component).1.outputs []
    unfold componentDrain
    split_ifs <;> exact Ring.plays_nil _
  | flush =>
    show process.outputs.Plays [] (componentFlush process.component).1.outputs []
    unfold componentFlush
    split_ifs <;> exact Ring.plays_nil _
  | terminate => exact Ring.plays_nil _

/-- The shipped build. -/
def helperBuild (version : UInt32) : ComponentBuild BridgeProcess ComponentCall CallRecord where
  calls := componentCalls version
  outputs := BridgeProcess.outputs
  ringOps := BridgeProcess.ringOps
  returned := ComponentCall.returned
  closeCodec := BridgeProcess.closeCodec
  closeOps := []
  setProperties := BridgeProcess.setProperties
  calls_plays := componentCalls_plays version
  close_plays process := Ring.plays_nil process.outputs
  outputs_setProperties _ _ := rfl

/-! ## The build with its own encoder -/

namespace Vulkan

/-- The loop of `component_receive_packets` offers each packet it has received, and
the one for which there is no slot ends it. -/
theorem receiveLoop_plays (pts duration : Int64) (packets : List ReceiveResult)
    (outputs : Ring BridgeBuffer bridgeMaxOutputs) :
    outputs.Plays ((receiveLoop pts duration packets outputs).offered.map .offer)
      (receiveLoop pts duration packets outputs).outputs [] := by
  induction packets generalizing outputs with
  | nil => exact Ring.plays_nil _
  | cons received packets ih =>
    cases received with
    | again => exact Ring.plays_nil _
    | error => exact Ring.plays_nil _
    | packet data bufferCreate =>
      unfold receiveLoop
      cases bufferCreate with
      | false => exact Ring.plays_nil _
      | true =>
        simp only [Bool.not_true, Bool.false_eq_true, if_false]
        split
        next hpush => exact Ring.plays_offer_full hpush
        next outputs' hpush => exact Ring.Plays.offer hpush (ih outputs')

theorem componentReceivePackets_plays (env : ReceiveEnv) (component : Component)
    (pts duration : Int64) :
    component.outputs.Plays (componentReceivePackets env component pts duration).2.ringOps
      (componentReceivePackets env component pts duration).1.outputs [] := by
  unfold componentReceivePackets
  split_ifs
  · exact Ring.plays_nil _
  · exact receiveLoop_plays pts duration env.packets component.outputs

/-- `component_init` leaves the outputs alone, or fails and clears them. -/
theorem componentInit_plays (env : InitEnv) (component : Component) (format : AMFSurfaceFormat)
    (width height : Int32) :
    component.outputs.Plays (componentInit env component format width height).2.ringOps
      (componentInit env component format width height).1.outputs [] := by
  unfold componentInit
  split_ifs
  · exact Ring.plays_nil _
  · exact Ring.plays_nil _
  · exact Ring.plays_nil _
  · exact Ring.Plays.clear (Ring.plays_nil _)
  · exact Ring.plays_nil _

theorem encodeSurface_plays (env : SubmitEnv) (component : Component)
    (surface : BridgeSurface) :
    component.outputs.Plays (encodeSurface env component surface).2.ringOps
      (encodeSurface env component surface).1.outputs [] := by
  unfold encodeSurface
  cases env.sendFrame with
  | sent =>
    exact componentReceivePackets_plays env.receive
      { component with
        nextPts := (if surface.pts ≠ 0 then env.rescaledPts else component.nextPts) + 1 }
      surface.pts surface.duration
  | again => exact Ring.plays_nil _
  | error => exact Ring.plays_nil _

theorem componentSubmit_plays (env : SubmitEnv) (component : Component)
    (data : Option BridgeSurface) :
    component.outputs.Plays (componentSubmit env component data).2.ringOps
      (componentSubmit env component data).1.outputs [] := by
  unfold componentSubmit
  by_cases hinit : component.initialized = true
  · simp only [hinit, Bool.not_true, Bool.false_eq_true, if_false]
    cases data with
    | none => exact Ring.plays_nil _
    | some surface =>
      simp only
      split_ifs
      · exact Ring.plays_nil _
      · exact Ring.plays_nil _
      · exact Ring.plays_nil _
      · exact Ring.plays_nil _
      · exact Ring.plays_nil _
      · exact Ring.plays_nil _
      · exact encodeSurface_plays env component surface
  · simp only [hinit, Bool.not_false, if_true]
    exact Ring.plays_nil _

theorem componentQueryOutput_plays (component : Component) (out : Bool) :
    component.outputs.Plays (componentQueryOutput component out).2.ringOps
      (componentQueryOutput component out).1.outputs
      (if (componentQueryOutput component out).2.result = .common .ok then
        some (componentQueryOutput component out).2.output else none).toList := by
  cases out with
  | false => exact Ring.plays_nil _
  | true =>
    unfold componentQueryOutput
    cases hpop : component.outputs.pop with
    | none => cases hdraining : component.draining <;> exact Ring.plays_nil _
    | some popped => exact Ring.plays_take hpop

/-- `*out`, after a `component_query_output` that has returned `AMF_OK`. -/
def ComponentCall.returned : ComponentCall → VulkanRecord → Option (Option BridgeBuffer)
  | .queryOutput _, record => if record.result = .common .ok then some record.output else none
  | _, _ => none

/-- What a call does to the array of outputs. -/
def ringOps (component : Component) (call : ComponentCall) : List (RingOp BridgeBuffer) :=
  (componentCalls.step component call).2.ringOps

theorem componentCalls_plays (component : Component) (call : ComponentCall) :
    component.outputs.Plays (ringOps component call)
      (componentCalls.step component call).1.outputs
      (call.returned (componentCalls.step component call).2).toList := by
  cases call with
  | init env format width height => exact componentInit_plays env component format width height
  | reinit env width height =>
    exact Ring.Plays.clear
      (componentInit_plays env (componentCloseCodec component) component.format width height)
  | submitInput env data => exact componentSubmit_plays env component data
  | queryOutput out => exact componentQueryOutput_plays component out
  | drain env =>
    show component.outputs.Plays (componentDrain env component).2.ringOps
      (componentDrain env component).1.outputs []
    unfold componentDrain
    split_ifs
    · exact Ring.plays_nil _
    · exact componentReceivePackets_plays env { component with draining := true } 0 0
  | flush =>
    show component.outputs.Plays (componentFlush component).2.ringOps
      (componentFlush component).1.outputs []
    unfold componentFlush
    split_ifs <;> exact Ring.plays_nil _
  | terminate => exact Ring.Plays.clear (Ring.plays_nil _)

/-- The calls that change the properties leave the rest of the component alone. -/
def setProperties (update : BridgePropertyStore → BridgePropertyStore)
    (component : Component) : Component :=
  { component with properties := update component.properties }

theorem componentCloseCodec_plays (component : Component) :
    component.outputs.Plays [.clear] (componentCloseCodec component).outputs [] :=
  Ring.Plays.clear (Ring.plays_nil _)

end Vulkan

/-- The build with its own encoder. -/
def vulkanBuild :
    ComponentBuild Vulkan.Component Vulkan.ComponentCall Vulkan.VulkanRecord where
  calls := Vulkan.componentCalls
  outputs := Vulkan.Component.outputs
  ringOps := Vulkan.ringOps
  returned := Vulkan.ComponentCall.returned
  closeCodec := Vulkan.componentCloseCodec
  closeOps := [.clear]
  setProperties := Vulkan.setProperties
  calls_plays := Vulkan.componentCalls_plays
  close_plays := Vulkan.componentCloseCodec_plays
  outputs_setProperties _ _ := rfl

/-! ## Every run of both builds -/

/-- In both builds and in every run of calls on a component that has just been
created, each call leaves a valid ring, stores packets in slots that are null only,
and returns with `AMF_OK` a packet that is not null and that no call has returned
before. -/
theorem output_ring_kept :
    (∀ version properties failureTime calls,
      (helperBuild version).numbered.Along (helperBuild version).KeepsOutputs []
        ({ component := BridgeProcess.fresh properties failureTime }, {}) calls) ∧
      ∀ properties calls,
        vulkanBuild.numbered.Along vulkanBuild.KeepsOutputs []
          ({ component := { properties } }, {}) calls := by
  constructor
  · intro version properties failureTime calls
    exact ComponentBuild.along_keepsOutputs rfl calls
  · intro properties calls
    exact ComponentBuild.along_keepsOutputs rfl calls

end UuAmfBridge
