import UuAmfBridge.Bridge.PacketQueue

/-!
# What a new session keeps of the one before

`component_close_codec` closes the socket and clears `initialized`.  The build
with its own encoder releases the queued packets there as well; the shipped
build leaves them, and neither build clears `draining`.  So a component that is
initialized again may still hand out packets of the session before, or report
`AMF_EOF` for a session that was never drained.

`starts_clean_iff` compares the component with a fresh one that holds the same
properties and is initialized alike: the two answer every later sequence of
calls alike exactly when the queue was empty and nothing was draining.

* `sameQueue_step`: components that differ only in how the ring holds the queue
  answer alike.
* `componentInit_of_closed`: a component without a session is initialized like a
  fresh one, up to the queue and `draining`.
-/

namespace UuAmfBridge

variable {version : UInt32}

/-! ## The property -/

/-- The calls that the component answers within a session. -/
def ComponentCall.InSession : ComponentCall → Prop
  | .submitInput _ _ | .queryOutput _ | .drain | .flush => True
  | .init _ _ _ _ | .reinit _ _ _ | .terminate => False

/-- A call within a session. -/
abbrev SessionCall := { call : ComponentCall // call.InSession }

/-- The component answers the calls within a session. -/
def sessionCalls (version : UInt32) : Machine BridgeProcess SessionCall CallRecord :=
  (componentCalls version).comap Subtype.val

/-- `component_init` or `component_reinit`, with what happens during it. -/
inductive OpenCall where
  | init (env : InitEnv) (format : AMFSurfaceFormat) (width height : Int32)
  | reinit (env : InitEnv) (width height : Int32)

/-- The call as one of the interface. -/
def OpenCall.call : OpenCall → ComponentCall
  | .init env format width height => .init env format width height
  | .reinit env width height => .reinit env width height

/-- The call that initializes a fresh component alike: `component_reinit` uses
the format the component has. -/
def OpenCall.onFresh (component : BridgeComponent) : OpenCall → ComponentCall
  | .init env format width height => .init env format width height
  | .reinit env width height => .init env component.format width height

/-- Where the call opens its session: `component_reinit` closes the codec first. -/
def OpenCall.start (process : BridgeProcess) : OpenCall → BridgeProcess
  | .init _ _ _ _ => process
  | .reinit _ _ _ => { process with component := componentCloseCodec process.component }

/-- The component after the call answers every sequence of calls within the
session as a fresh component with the same properties does, in the same process
and against the same helper. -/
def StartsClean (version : UInt32) (process : BridgeProcess) (opening : OpenCall) : Prop :=
  let fresh := BridgeProcess.fresh process.component.properties process.helperConnectFailureTime
  ∀ calls : List SessionCall,
    (sessionCalls version).outputs ((componentCalls version).step process opening.call).1 calls =
      (sessionCalls version).outputs
        ((componentCalls version).step fresh (opening.onFresh process.component)).1 calls

/-! ## Components with the same queue -/

/-- Two components that differ at most in how the ring holds the queue. -/
structure SameQueue (component component' : BridgeComponent) : Prop where
  valid : component.outputs.Valid
  valid' : component'.outputs.Valid
  contents_eq : component.outputs.contents = component'.outputs.contents
  rest_eq : component' = { component with outputs := component'.outputs }

/-- Two calls that return the same, and leave the same queue. -/
structure SameAnswer (next next' : BridgeComponent × CallRecord) : Prop where
  record_eq : next.2 = next'.2
  component : SameQueue next.1 next'.1

section Congruence

variable {component : BridgeComponent} {outputs : Ring BridgeBuffer bridgeMaxOutputs}
  (hvalid : component.outputs.Valid) (hvalid' : outputs.Valid)
  (hcontents : component.outputs.contents = outputs.contents)

include hvalid hvalid' hcontents

/-- The second stage of `component_submit` on another ring with the same queue. -/
theorem receivePacket_congr (env : SubmitEnv) (surface : BridgeSurface)
    (exchange : FrameExchange) (reply : HelperReply) :
    SameAnswer (receivePacket env component surface exchange reply)
      (receivePacket env { component with outputs } surface exchange reply) := by
  unfold receivePacket
  simp only
  split_ifs
  iterate 4
    · exact ⟨rfl, hvalid, hvalid', hcontents, rfl⟩
  · rcases hvalid.push_congr hvalid' hcontents
      ⟨(socketRecvAll env.packetRecv reply.payloadSize.toNat exchange.header.rest).data,
        surface.pts, surface.duration⟩ with
      ⟨hfull, hfull'⟩ | ⟨r, r', hpush, hpush', hr, hr', heq⟩
    · rw [hfull, hfull']
      exact ⟨rfl, hvalid, hvalid', hcontents, rfl⟩
    · rw [hpush, hpush']
      exact ⟨rfl, hr, hr', heq, rfl⟩

/-- `component_submit` on another ring with the same queue. -/
theorem componentSubmit_congr (env : SubmitEnv) (data : Option BridgeSurface) :
    SameAnswer (componentSubmit env component data)
      (componentSubmit env { component with outputs } data) := by
  have hsame : ∀ record, SameAnswer (component, record) ({ component with outputs }, record) :=
    fun _ => ⟨rfl, hvalid, hvalid', hcontents, rfl⟩
  have hclosed : ∀ record, SameAnswer (componentCloseCodec component, record)
      (componentCloseCodec { component with outputs }, record) :=
    fun _ => ⟨rfl, hvalid, hvalid', hcontents, rfl⟩
  unfold componentSubmit
  by_cases hinit : (!component.initialized) = true
  · rw [if_pos hinit, if_pos hinit]
    exact hsame _
  rw [if_neg hinit, if_neg hinit]
  cases data with
  | none => exact hsame _
  | some surface =>
    have hmap : mapSurfaceBytes env.map { component with outputs } surface =
        mapSurfaceBytes env.map component surface := rfl
    have hheader : frameMessage { component with outputs } surface =
        frameMessage component surface := rfl
    simp only [hmap, hheader]
    split
    next => exact hsame _
    next => exact hclosed _
    next frame connection _ _ =>
      split
      next => exact hclosed _
      next reply _ => exact receivePacket_congr hvalid hvalid' hcontents env surface _ reply

/-- `component_query_output` on another ring with the same queue. -/
theorem componentQueryOutput_congr (out : Bool) :
    SameAnswer (componentQueryOutput component out)
      (componentQueryOutput { component with outputs } out) := by
  unfold componentQueryOutput
  by_cases hout : (!out) = true
  · rw [if_pos hout, if_pos hout]
    exact ⟨rfl, hvalid, hvalid', hcontents, rfl⟩
  rw [if_neg hout, if_neg hout]
  rcases hvalid.pop_congr hvalid' hcontents with
    ⟨hempty, hempty'⟩ | ⟨buffer, r, r', hpop, hpop', hr, hr', heq⟩
  · rw [hempty, hempty']
    exact ⟨rfl, hvalid, hvalid', hcontents, rfl⟩
  · rw [hpop, hpop']
    exact ⟨rfl, hr, hr', heq, rfl⟩

end Congruence

/-- Components with the same queue answer a call within the session alike, and
have the same queue after it. -/
theorem sameQueue_step {process process' : BridgeProcess}
    (h : SameQueue process.component process'.component)
    (htime : process.helperConnectFailureTime = process'.helperConnectFailureTime)
    (call : SessionCall) :
    let next := (sessionCalls version).step process call
    let next' := (sessionCalls version).step process' call
    next.2 = next'.2 ∧ SameQueue next.1.component next'.1.component ∧
      next.1.helperConnectFailureTime = next'.1.helperConnectFailureTime := by
  obtain ⟨component, time⟩ := process
  obtain ⟨component', time'⟩ := process'
  obtain ⟨hvalid, hvalid', hcontents, hrest⟩ := h
  obtain ⟨call, hsession⟩ := call
  simp only at hvalid hvalid' hcontents hrest htime
  rw [hrest]
  cases call with
  | submitInput env data =>
    obtain ⟨hrecord, hsame⟩ := componentSubmit_congr hvalid hvalid' hcontents env data
    exact ⟨hrecord, hsame, htime⟩
  | queryOutput out =>
    obtain ⟨hrecord, hsame⟩ := componentQueryOutput_congr hvalid hvalid' hcontents out
    exact ⟨hrecord, hsame, htime⟩
  | drain =>
    show (componentDrain component).2 = (componentDrain _).2 ∧
      SameQueue (componentDrain component).1 (componentDrain _).1 ∧ time = time'
    unfold componentDrain
    by_cases hinit : (!component.initialized) = true
    · rw [if_pos hinit, if_pos hinit]
      exact ⟨rfl, ⟨hvalid, hvalid', hcontents, rfl⟩, htime⟩
    · rw [if_neg hinit, if_neg hinit]
      exact ⟨rfl, ⟨hvalid, hvalid', hcontents, rfl⟩, htime⟩
  | flush =>
    show (componentFlush component).2 = (componentFlush _).2 ∧
      SameQueue (componentFlush component).1 (componentFlush _).1 ∧ time = time'
    unfold componentFlush
    by_cases hinit : (!component.initialized) = true
    · rw [if_pos hinit, if_pos hinit]
      exact ⟨rfl, ⟨hvalid, hvalid', hcontents, rfl⟩, htime⟩
    · rw [if_neg hinit, if_neg hinit]
      exact ⟨rfl, ⟨hvalid, hvalid', hcontents, rfl⟩, htime⟩
  | init => exact hsession.elim
  | reinit => exact hsession.elim
  | terminate => exact hsession.elim

/-- Components with the same queue answer all calls within a session alike. -/
theorem outputs_eq_of_sameQueue {process process' : BridgeProcess}
    (h : SameQueue process.component process'.component)
    (htime : process.helperConnectFailureTime = process'.helperConnectFailureTime)
    (calls : List SessionCall) :
    (sessionCalls version).outputs process calls =
      (sessionCalls version).outputs process' calls := by
  let related := fun process process' : BridgeProcess =>
    SameQueue process.component process'.component ∧
      process.helperConnectFailureTime = process'.helperConnectFailureTime
  have hstep : ∀ process process' call, related process process' →
      ((sessionCalls version).step process call).2 = ((sessionCalls version).step process' call).2 ∧
        related ((sessionCalls version).step process call).1
          ((sessionCalls version).step process' call).1 := by
    intro process process' call hrelated
    exact sameQueue_step hrelated.1 hrelated.2 call
  exact Machine.outputs_eq_of_bisimulation hstep ⟨h, htime⟩ calls

/-! ## Opening a session -/

/-- A call ends like another one, and when it succeeds it leaves what the other
leaves, but with the queue and `draining` of `component`. -/
structure OpensLike (component : BridgeComponent) (next next' : BridgeProcess × CallRecord) :
    Prop where
  record_eq : next.2 = next'.2
  process_eq : next.2.result = .ok → next.1 = { next'.1 with component :=
    { next'.1.component with outputs := component.outputs, draining := component.draining } }

/-- A component without a session is initialized like a fresh one with the same
properties, up to the queue and `draining`. -/
theorem componentInit_of_closed (version : UInt32) (env : InitEnv) {process : BridgeProcess}
    (hhelper : process.component.helper = none)
    (hinit : process.component.initialized = false) (format : AMFSurfaceFormat)
    (width height : Int32) :
    OpensLike process.component (componentInit version env process format width height)
      (componentInit version env (BridgeProcess.fresh process.component.properties
        process.helperConnectFailureTime) format width height) := by
  -- The handshake reads the properties only, and leaves the queue and `draining`.
  have hexchange : ∀ connection, OpensLike process.component
      (initExchange version env process connection format width height)
      (initExchange version env (BridgeProcess.fresh process.component.properties
        process.helperConnectFailureTime) connection format width height) := by
    intro connection
    unfold initExchange BridgeProcess.fresh
    simp only
    split_ifs
    · exact ⟨rfl, nofun⟩
    · exact ⟨rfl, nofun⟩
    · exact ⟨rfl, fun _ => rfl⟩
  have htime : (BridgeProcess.fresh process.component.properties
      process.helperConnectFailureTime).helperConnectFailureTime =
        process.helperConnectFailureTime := rfl
  have hfresh : (BridgeProcess.fresh process.component.properties
      process.helperConnectFailureTime).component.initialized = false := rfl
  have hnone : (BridgeProcess.fresh process.component.properties
      process.helperConnectFailureTime).component.helper = none := rfl
  unfold componentInit
  simp only [hhelper, hinit, htime, hfresh, hnone]
  rw [if_neg Bool.false_ne_true, if_neg Bool.false_ne_true]
  by_cases hrange : format ≠ .nv12 ∨ width < 128 ∨ height < 128
  · rw [if_pos hrange, if_pos hrange]
    exact ⟨rfl, nofun⟩
  rw [if_neg hrange, if_neg hrange]
  split_ifs
  · exact ⟨rfl, nofun⟩
  · exact ⟨rfl, nofun⟩
  · exact ⟨rfl, nofun⟩
  · exact hexchange _

/-! ## What every history keeps -/

/-- Every call keeps the ring valid and the properties. -/
theorem valid_properties_step {process : BridgeProcess} (h : process.component.outputs.Valid)
    (call : ComponentCall) :
    ((componentCalls version).step process call).1.component.outputs.Valid ∧
      ((componentCalls version).step process call).1.component.properties =
        process.component.properties := by
  have hinit : ∀ process env format width height, process.component.outputs.Valid →
      (componentInit version env process format width height).1.component.outputs.Valid ∧
        (componentInit version env process format width height).1.component.properties =
          process.component.properties := by
    intro process env format width height hvalid
    rcases componentInit_cases version env process format width height with
      ⟨_, _, heq, -⟩ | ⟨_, heq⟩ | ⟨opened, -, heq⟩
    · rw [heq]
      exact ⟨hvalid, rfl⟩
    · rw [heq]
      exact ⟨hvalid, rfl⟩
    · rw [heq]
      exact ⟨hvalid, rfl⟩
  cases call with
  | init env format width height => exact hinit _ _ _ _ _ h
  | reinit env width height => exact hinit _ _ _ _ _ h
  | submitInput env data =>
    show (componentSubmit env process.component data).1.outputs.Valid ∧
      (componentSubmit env process.component data).1.properties = process.component.properties
    rcases componentSubmit_outcome env process.component data with
      ⟨_, heq, -⟩ | ⟨_, heq, -⟩ | ⟨accepted, houtcome⟩
    · rw [heq]
      exact ⟨h, rfl⟩
    · rw [heq]
      exact ⟨h, rfl⟩
    · generalize componentSubmit env process.component data = next at houtcome ⊢
      cases houtcome with
      | queued outputs _ _ _ _ hpush => exact ⟨(h.push hpush).1, rfl⟩
      | empty => exact ⟨h, rfl⟩
      | noMemory => exact ⟨h, rfl⟩
      | short => exact ⟨h, rfl⟩
      | noBuffer => exact ⟨h, rfl⟩
      | full => exact ⟨h, rfl⟩
  | queryOutput out =>
    show (componentQueryOutput process.component out).1.outputs.Valid ∧
      (componentQueryOutput process.component out).1.properties = process.component.properties
    rcases componentQueryOutput_cases process.component out with ⟨_, heq, -⟩ | ⟨_, _, hpop, heq⟩
    · rw [heq]
      exact ⟨h, rfl⟩
    · rw [heq]
      exact ⟨(h.pop hpop).1, rfl⟩
  | drain =>
    show (componentDrain process.component).1.outputs.Valid ∧
      (componentDrain process.component).1.properties = process.component.properties
    unfold componentDrain
    split_ifs <;> exact ⟨h, rfl⟩
  | flush =>
    show (componentFlush process.component).1.outputs.Valid ∧
      (componentFlush process.component).1.properties = process.component.properties
    unfold componentFlush
    split_ifs <;> exact ⟨h, rfl⟩
  | terminate => exact ⟨h, rfl⟩

/-- What every history of a component keeps. -/
structure Maintained (component : BridgeComponent) : Prop where
  paired : Paired component
  valid : component.outputs.Valid

theorem maintained_run (version : UInt32) (properties : BridgePropertyStore) (failureTime : UInt64)
    (history : List ComponentCall) :
    Maintained ((componentCalls version).run (BridgeProcess.fresh properties failureTime)
      history).component := by
  have hfresh : Maintained (BridgeProcess.fresh properties failureTime).component :=
    ⟨(paired_synchronised_of_closed rfl rfl).1, Ring.valid_empty⟩
  have hstep : ∀ (_ : List CallRecord) (process : BridgeProcess) (call : ComponentCall),
      Maintained process.component → True →
        Maintained ((componentCalls version).step process call).1.component :=
    fun _ process call h _ => ⟨paired_step h.paired call, (valid_properties_step h.valid call).1⟩
  exact Machine.exec_invariant (fun _ (process : BridgeProcess) => Maintained process.component)
    hstep hfresh
    (Machine.along_of_forall (fun _ _ _ => trivial) _ _ _)

/-! ## The comparison with a fresh component -/

/-- The two calls are `component_init` with the same arguments. -/
theorem opening_eq (version : UInt32) (process : BridgeProcess) (opening : OpenCall) :
    ∃ env format width height,
      (componentCalls version).step process opening.call =
          componentInit version env (opening.start process) format width height ∧
        opening.onFresh process.component = .init env format width height := by
  cases opening with
  | init env format width height => exact ⟨env, format, width, height, rfl, rfl⟩
  | reinit env width height => exact ⟨env, _, width, height, rfl, rfl⟩

/-- A call that opens a session starts from a component without one. -/
theorem opening_start_closed {process : BridgeProcess} (hpaired : Paired process.component)
    {opening : OpenCall}
    (hok : ((componentCalls version).step process opening.call).2.result = .ok) :
    (opening.start process).component.helper = none ∧
      (opening.start process).component.initialized = false := by
  cases opening with
  | init env format width height =>
    change (componentInit version env process format width height).2.result = .ok at hok
    have huninit : process.component.initialized = false := by
      rcases componentInit_cases version env process format width height with
        ⟨_, _, heq, hne⟩ | ⟨_, heq⟩ | ⟨opened, -, -⟩
      · rw [heq] at hok
        exact absurd hok hne
      · rw [heq] at hok
        cases hok
      · exact opened.uninitialized
    unfold Paired at hpaired
    rw [huninit, Option.isSome_eq_false_iff, Option.isNone_iff_eq_none] at hpaired
    exact ⟨hpaired, huninit⟩
  | reinit env width height => exact ⟨rfl, rfl⟩

/-- `component_init` leaves the queue and `draining`. -/
theorem componentInit_keeps (version : UInt32) (env : InitEnv) (process : BridgeProcess)
    (format : AMFSurfaceFormat) (width height : Int32) :
    (componentInit version env process format width height).1.component.outputs =
        process.component.outputs ∧
      (componentInit version env process format width height).1.component.draining =
        process.component.draining := by
  rcases componentInit_cases version env process format width height with
    ⟨_, _, heq, -⟩ | ⟨_, heq⟩ | ⟨opened, -, heq⟩
  · rw [heq]
    exact ⟨rfl, rfl⟩
  · rw [heq]
    exact ⟨rfl, rfl⟩
  · rw [heq]
    exact ⟨rfl, rfl⟩

/-- The first query tells a queue, or a component that is draining, from a fresh
one. -/
theorem query_tells {process fresh : BridgeProcess}
    (hempty : fresh.component.outputs = Ring.empty) (hdraining : fresh.component.draining = false)
    (hsame : ∀ calls, (sessionCalls version).outputs process calls =
      (sessionCalls version).outputs fresh calls) :
    process.component.outputs.count = 0 ∧ process.component.draining = false := by
  have hquery := hsame [⟨.queryOutput true, trivial⟩]
  have hrecord : (componentQueryOutput process.component true).2 =
      (componentQueryOutput fresh.component true).2 := List.head_eq_of_cons_eq hquery
  have hfresh : (componentQueryOutput fresh.component true).2 = { result := .amfRepeat } := by
    unfold componentQueryOutput
    rw [hempty, hdraining]
    rfl
  rw [hfresh] at hrecord
  rcases componentQueryOutput_cases process.component true with
    ⟨result, heq, ⟨-, hout⟩ | ⟨hpop, hresult⟩⟩ | ⟨output, outputs, hpop, heq⟩
  · cases hout
  · rw [heq, hresult] at hrecord
    refine ⟨Ring.pop_eq_none_iff.mp hpop, ?_⟩
    by_contra hdrain
    rw [if_pos (Bool.eq_true_of_not_eq_false hdrain)] at hrecord
    cases hrecord
  · rw [heq] at hrecord
    cases hrecord

/-- A session that was opened starts clean exactly when the queue was empty and
nothing was draining. -/
theorem startsClean_step {process : BridgeProcess} (h : Maintained process.component)
    (opening : OpenCall)
    (hok : ((componentCalls version).step process opening.call).2.result = .ok) :
    StartsClean version process opening ↔
      process.component.outputs.count = 0 ∧ process.component.draining = false := by
  obtain ⟨hhelper, hinit⟩ := opening_start_closed h.paired hok
  obtain ⟨env, format, width, height, hcall, hfresh⟩ := opening_eq version process opening
  rw [hcall] at hok
  have hprocess :=
    (componentInit_of_closed version env hhelper hinit format width height).process_eq
    hok
  -- `component_reinit` leaves everything else as it was.
  have hstart : (opening.start process).component.properties = process.component.properties ∧
      (opening.start process).component.outputs = process.component.outputs ∧
        (opening.start process).component.draining = process.component.draining ∧
          (opening.start process).helperConnectFailureTime = process.helperConnectFailureTime := by
    cases opening <;> exact ⟨rfl, rfl, rfl, rfl⟩
  obtain ⟨hproperties, houtputs, hdraining, htime⟩ := hstart
  rw [hproperties, houtputs, hdraining, htime] at hprocess
  unfold StartsClean
  simp only
  rw [hcall, hfresh]
  change (∀ calls : List SessionCall, _ = (sessionCalls version).outputs
    (componentInit version env (BridgeProcess.fresh process.component.properties
      process.helperConnectFailureTime) format width height).1 calls) ↔ _
  obtain ⟨hempty, hnotdraining⟩ := componentInit_keeps version env (BridgeProcess.fresh
    process.component.properties process.helperConnectFailureTime) format width height
  rw [hprocess]
  generalize (componentInit version env (BridgeProcess.fresh process.component.properties
    process.helperConnectFailureTime) format width height).1 = fresh at hempty hnotdraining ⊢
  change fresh.component.outputs = Ring.empty at hempty
  change fresh.component.draining = false at hnotdraining
  generalize hused : ({ fresh with component := { fresh.component with
    outputs := process.component.outputs, draining := process.component.draining } } :
      BridgeProcess) = used
  have hqueue : used.component.outputs = process.component.outputs := by
    rw [← hused]
  have hdrain : used.component.draining = process.component.draining := by
    rw [← hused]
  rw [← hqueue, ← hdrain]
  constructor
  · exact query_tells hempty hnotdraining
  · rintro ⟨hcount, hdrained⟩ calls
    have hvalid : used.component.outputs.Valid := by
      rw [hqueue]
      exact h.valid
    refine outputs_eq_of_sameQueue ⟨hvalid, ?_, ?_, ?_⟩ ?_ calls
    · rw [hempty]
      exact Ring.valid_empty
    · rw [hempty, Ring.contents_empty]
      exact hvalid.contents_eq_nil_iff.mpr hcount
    · rw [hdrain] at hdrained
      rw [← hused, hdrained, ← hnotdraining]
    · rw [← hused]

/-- After any history, the next call of `component_init` or `component_reinit`
that succeeds opens a session that behaves like the one of a fresh component,
exactly when the queue was empty and nothing was draining. -/
theorem starts_clean_iff (version : UInt32) (properties : BridgePropertyStore)
    (failureTime : UInt64) (history : List ComponentCall) (opening : OpenCall) :
    let process := (componentCalls version).run (BridgeProcess.fresh properties failureTime) history
    ((componentCalls version).step process opening.call).2.result = .ok →
      (StartsClean version process opening ↔
        process.component.outputs.count = 0 ∧ process.component.draining = false) := by
  intro process hok
  exact startsClean_step (maintained_run version properties failureTime history) opening hok

/-- `component_reinit` ends like `component_init` of a fresh component. -/
theorem componentReinit_result (version : UInt32) (env : InitEnv) (process : BridgeProcess)
    (width height : Int32) :
    ((componentCalls version).step process (.reinit env width height)).2 =
      (componentInit version env (BridgeProcess.fresh process.component.properties
        process.helperConnectFailureTime) process.component.format width height).2 :=
  (componentInit_of_closed version env rfl rfl process.component.format width height).record_eq

/-- The packet of a frame has been taken out of the queue, and the component flushed. -/
def flushedHistory : List ComponentCall :=
  [.init {} .nv12 128 128, packetFrame.val, .queryOutput true, .drain, .flush]

theorem flushedHistory_run :
    let process := (componentCalls helperProtocolVersion).run (BridgeProcess.fresh [] 0)
      flushedHistory
    process.component.outputs.count = 0 ∧ process.component.draining = false ∧
      process.component.properties = [] ∧ process.component.format = .nv12 ∧
        process.helperConnectFailureTime = 0 := by
  have hempty : smallProcess.component.outputs = Ring.empty := by
    rw [smallProcess_eq]
  have hvalid : smallProcess.component.outputs.Valid := hempty ▸ Ring.valid_empty
  obtain ⟨outputs, hnext, hcount⟩ := packetFrame_step helperProtocolVersion
    smallProcess_session hvalid (by rw [hempty]; decide)
  rw [hempty] at hcount
  have hone : outputs.count = 1 := hcount
  have hne : ¬outputs.count = 0 := by
    rw [hone]
    decide
  obtain ⟨⟨output, rest⟩, hpop⟩ := Option.ne_none_iff_exists'.mp (mt Ring.pop_eq_none_iff.mp hne)
  have hrest : rest.count = 0 := by
    have htaken := hpop
    unfold Ring.pop at htaken
    rw [if_neg hne] at htaken
    rw [← (Prod.mk.inj (Option.some.inj htaken)).2, hone]
  -- The first two calls are those of `packetFrame_step`, and the query takes the packet.
  have hrun : (componentCalls helperProtocolVersion).run (BridgeProcess.fresh [] 0)
      flushedHistory = { smallProcess with component := { smallProcess.component with
        helper := some { helper := .serving smallStart.nextFrame [] }, outputs := rest } } := by
    have hfirst : ((componentCalls helperProtocolVersion).step ((componentCalls
        helperProtocolVersion).step (BridgeProcess.fresh [] 0) (.init {} .nv12 128 128)).1
          packetFrame.val).1 =
        ((encodeCalls helperProtocolVersion).step smallProcess packetFrame).1 := rfl
    unfold flushedHistory
    rw [Machine.run_cons, Machine.run_cons, hfirst, hnext, smallProcess_eq, Machine.run_cons,
      Machine.run_cons, Machine.run_cons]
    simp only [componentCalls, componentQueryOutput, hpop, componentDrain, componentFlush,
      Bool.not_true, Bool.false_eq_true, if_false]
    rfl
  intro process
  rw [show process = _ from hrun, smallProcess_eq]
  exact ⟨hrest, rfl, rfl, rfl, rfl⟩

/-- A component that is initialized again after its packets have been taken out starts
clean. -/
theorem starts_clean_reinit :
    StartsClean helperProtocolVersion
      ((componentCalls helperProtocolVersion).run (BridgeProcess.fresh [] 0) flushedHistory)
        (.reinit {} 128 128) := by
  obtain ⟨hcount, hdraining, hproperties, hformat, htime⟩ := flushedHistory_run
  refine (starts_clean_iff helperProtocolVersion [] 0 flushedHistory (.reinit {} 128 128)
    ?_).mpr ⟨hcount, hdraining⟩
  unfold OpenCall.call
  rw [componentReinit_result, hproperties, hformat, htime]
  rfl

/-- A component is initialized again with a packet in its queue: the first query
of the new session returns the packet of the session before. -/
theorem old_packet_in_new_session :
    ¬StartsClean helperProtocolVersion
      ((componentCalls helperProtocolVersion).run (BridgeProcess.fresh [] 0)
        [.init {} .nv12 128 128, packetFrame.val]) (.reinit {} 128 128) := by
  have hvalid : smallProcess.component.outputs.Valid := by
    rw [smallProcess_eq]
    exact Ring.valid_empty
  have hempty : smallProcess.component.outputs.count = 0 := by
    rw [smallProcess_eq]
    rfl
  obtain ⟨outputs, hnext, hcount⟩ := packetFrame_step helperProtocolVersion
    smallProcess_session hvalid (by rw [hempty]; decide)
  have hmaintained := maintained_run helperProtocolVersion [] 0
    [.init {} .nv12 128 128, packetFrame.val]
  have hrun : (componentCalls helperProtocolVersion).run (BridgeProcess.fresh [] 0)
      [.init {} .nv12 128 128, packetFrame.val] =
        ((encodeCalls helperProtocolVersion).step smallProcess packetFrame).1 := rfl
  rw [hrun] at hmaintained ⊢
  have hok : ((componentCalls helperProtocolVersion).step
      ((encodeCalls helperProtocolVersion).step smallProcess packetFrame).1
        (OpenCall.reinit {} 128 128).call).2.result = .ok := by
    unfold OpenCall.call
    have hfresh : (componentInit helperProtocolVersion {} (BridgeProcess.fresh [] 0) .nv12
        128 128).2.result = .ok := by rfl
    have hcomponent : ((encodeCalls helperProtocolVersion).step smallProcess
        packetFrame).1.component.properties = [] ∧ ((encodeCalls helperProtocolVersion).step
          smallProcess packetFrame).1.component.format = .nv12 ∧
          ((encodeCalls helperProtocolVersion).step
            smallProcess packetFrame).1.helperConnectFailureTime = 0 := by
      rw [hnext, smallProcess_eq]
      exact ⟨rfl, rfl, rfl⟩
    rw [componentReinit_result, hcomponent.1, hcomponent.2.1, hcomponent.2.2]
    exact hfresh
  rw [startsClean_step hmaintained (.reinit {} 128 128) hok, hnext]
  rintro ⟨hzero, -⟩
  change outputs.count = 0 at hzero
  omega

end UuAmfBridge
