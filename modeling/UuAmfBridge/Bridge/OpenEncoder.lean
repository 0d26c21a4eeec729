import UuAmfBridge.Bridge.ClientSync
import UuAmfBridge.Helper.Framing

/-!
# What an initialized component stands for

`component_init` sends one first message on a new socket, and the helper answers
it only when both were compiled with the same protocol version and the encoder is
open.  A `Handshake` records the two versions and the session the helper has
opened; `handshakeCalls` is the component with the record of the last handshake
beside it.

The record is a ghost, as a component does not keep it: the helper may close its
end at any time, and the component notices that with the next frame.

* `OpenedSession.handshake_opened`: a reply that `component_init` accepts comes from
  a helper with the same version, which has opened the encoder.
* `openEncoder_step`: every call keeps an initialized component on the encoder that
  its last handshake has opened.
* `no_half_initialized_encoder`: every call of every run, over all pairs of versions
  and all failures.
-/

namespace UuAmfBridge

/-! ## The last handshake -/

/-- A first message that was sent on a socket: the protocol versions of the two
sides, and the session the helper has opened. -/
structure Handshake where
  bridgeVersion : UInt32
  helperVersion : UInt32
  session : Option HelperSession

/-- The handshake of a call of `component_init` that has written `sent`. -/
def InitEnv.handshake? (version : UInt32) (env : InitEnv) (sent : List UInt8) :
    Option Handshake :=
  if sent.isEmpty then none
  else some
    { bridgeVersion := version
      helperVersion := env.helperVersion
      session := (handshake env.helperVersion env.helper.handshake sent).next.map Prod.fst }

/-- The handshake of a call. -/
def ComponentCall.handshake? (version : UInt32) (record : CallRecord) :
    ComponentCall → Option Handshake
  | .init env _ _ _ => env.handshake? version record.sent
  | .reinit env _ _ => env.handshake? version record.sent
  | _ => none

/-- A component with the last handshake made for it. -/
structure TracedProcess where
  process : BridgeProcess
  last : Option Handshake := none

/-- The calls of the interface, with the last handshake. -/
def handshakeCalls (version : UInt32) : Machine TracedProcess ComponentCall CallRecord where
  step traced call :=
    let next := (componentCalls version).step traced.process call
    ({ process := next.1, last := (call.handshake? version next.2).or traced.last }, next.2)

/-! ## The property -/

/-- A session with an open encoder for a geometry. -/
structure HelperSession.EncoderFor (session : HelperSession) (width height : Int32) : Prop where
  width_eq : session.encoder.width = width.toUInt32
  height_eq : session.encoder.height = height.toUInt32
  codec : ∃ codec, session.encoder.codec = some codec ∧ codec.kind = .h264Vulkan ∧
    codec.opened = true ∧ codec.width = width.toInt ∧ codec.height = height.toInt

/-- The handshake was made between equal versions, and the helper has opened an
encoder for the geometry in it. -/
structure Handshake.Opened (handshake : Handshake) (width height : Int32) : Prop where
  versions_eq : handshake.bridgeVersion = handshake.helperVersion
  encoder : ∃ session, handshake.session = some session ∧ session.EncoderFor width height

/-- The component is initialized exactly when its socket is open, and then stands
for the encoder that the last handshake has opened. -/
structure StandsForEncoder (traced : TracedProcess) : Prop where
  paired : traced.process.component.initialized = true ↔
    traced.process.component.helper.isSome = true
  opened : traced.process.component.initialized = true → ∃ handshake,
    traced.last = some handshake ∧
      handshake.Opened traced.process.component.width traced.process.component.height

/-- The component is closed, and keeps its geometry, its format, the next timestamp
and the properties of `before`. -/
structure ClosedAsBefore (before after : BridgeComponent) : Prop where
  initialized : after.initialized = false
  helper : after.helper = none
  width : after.width = before.width
  height : after.height = before.height
  format : after.format = before.format
  nextPts : after.nextPts = before.nextPts
  properties : after.properties = before.properties

/-- A call of `component_init` or `component_reinit` that fails leaves the component
closed and otherwise as it was, except that `component_init` of an initialized
component changes nothing. -/
structure FailsClosed (version : UInt32) (process : BridgeProcess) (call : ComponentCall) :
    Prop where
  init : ∀ env format width height, call = .init env format width height →
    ((componentCalls version).step process call).2.result ≠ .ok →
      if process.component.initialized then
        (componentCalls version).step process call = (process, { result := .alreadyInitialized })
      else ClosedAsBefore process.component ((componentCalls version).step process call).1.component
  reinit : ∀ env width height, call = .reinit env width height →
    ((componentCalls version).step process call).2.result ≠ .ok →
      ClosedAsBefore process.component ((componentCalls version).step process call).1.component

/-! ## The answer to a first message -/

/-- The handshake of a session that was opened is between equal versions, and the
helper has opened the encoder for the geometry of the call. -/
theorem OpenedSession.handshake_opened {version : UInt32} {env : InitEnv}
    {process : BridgeProcess} {format : AMFSurfaceFormat} {width height : Int32}
    (opened : OpenedSession version env process format width height)
    (hpaired : Paired process.component) (haccepted : opened.Accepted) :
    ∃ handshake, env.handshake? version opened.message.encode = some handshake ∧
      handshake.Opened width height := by
  have hmessage := HelperInitMessage.encode_length opened.message
  have hbytes : opened.answered.inbound = sentBytes
      (handshake env.helperVersion env.helper.handshake opened.message.encode).events := by
    unfold OpenedSession.answered Connection.deliver
    rw [opened.connection_new hpaired, HelperSide.receive_accepted]
    rfl
  obtain ⟨hstatus, henabled, hversion⟩ := haccepted
  unfold OpenedSession.recv at hstatus henabled hversion
  rw [hbytes] at hstatus henabled hversion
  have henough := le_length_of_recvLoop_complete hstatus
  unfold socketRecvAll at henabled hversion
  rw [recvLoop_eq_of_complete hstatus] at henabled hversion
  obtain ⟨hinit, hhelper, hnext⟩ := handshake_of_enabled henough henabled
  have hfirst : firstMessage opened.message.encode = opened.message := by
    unfold firstMessage
    rw [List.take_of_length_le hmessage.le, HelperInitMessage.decode_encode]
  have hne : opened.message.encode.isEmpty = false := by
    rw [List.isEmpty_eq_false_iff_exists_mem]
    exact List.exists_mem_of_length_pos (by rw [hmessage]; decide)
  refine ⟨⟨version, env.helperVersion,
    some (startSession env.helper.handshake opened.message.encode)⟩, ?_, ?_, ?_⟩
  · unfold InitEnv.handshake?
    rw [hne, hnext]
    rfl
  · exact hversion.symm.trans hhelper
  · refine ⟨_, rfl, ?_⟩
    have hopen := hinit.accepted
    unfold startSession
    rw [hfirst] at hopen ⊢
    have htype : opened.message.type = helperInit := rfl
    unfold openSession at hopen ⊢
    rw [if_pos htype] at hopen ⊢
    rcases encoderInit_cases env.helper.handshake.encoder opened.message with
      ⟨-, hcodec, hwidth, hheight⟩ | ⟨hneg, -⟩
    · refine ⟨hwidth, hheight, _, hcodec, rfl, rfl, ?_, ?_⟩
      · exact asInt_toUInt32 width
      · exact asInt_toUInt32 height
    · rw [beq_iff_eq.mp hopen] at hneg
      exact absurd hneg (by decide)

/-! ## One call -/

/-- A call that leaves the socket of an initialized component makes no handshake,
and keeps the geometry. -/
theorem standsForEncoder_same {traced next : TracedProcess} (h : StandsForEncoder traced)
    (hpaired : next.process.component.initialized = true ↔
      next.process.component.helper.isSome = true)
    (hsame : next.process.component.initialized = true →
      traced.process.component.initialized = true ∧ next.last = traced.last ∧
        next.process.component.width = traced.process.component.width ∧
        next.process.component.height = traced.process.component.height) :
    StandsForEncoder next := by
  refine ⟨hpaired, fun hinit => ?_⟩
  obtain ⟨hbefore, hlast, hwidth, hheight⟩ := hsame hinit
  rw [hlast, hwidth, hheight]
  exact h.opened hbefore

/-- `component_init` of a component that stands for its encoder. -/
theorem standsForEncoder_init (version : UInt32) {traced : TracedProcess}
    (h : StandsForEncoder traced) (env : InitEnv) (format : AMFSurfaceFormat)
    (width height : Int32) :
    let next := componentInit version env traced.process format width height
    StandsForEncoder
      { process := next.1, last := (env.handshake? version next.2.sent).or traced.last } := by
  have hpaired : Paired traced.process.component := by
    unfold Paired
    exact Bool.eq_iff_iff.mpr h.paired.symm
  rcases componentInit_cases version env traced.process format width height with
    ⟨_, _, heq, -⟩ | ⟨_, heq⟩ | ⟨opened, haccepted, heq⟩
  · rw [heq]
    exact standsForEncoder_same h h.paired fun hinit => ⟨hinit, rfl, rfl, rfl⟩
  · rw [heq]
    exact ⟨⟨nofun, nofun⟩, nofun⟩
  · rw [heq]
    obtain ⟨handshake, hsent, hopened⟩ := opened.handshake_opened hpaired haccepted
    refine ⟨⟨fun _ => rfl, fun _ => rfl⟩, fun _ => ⟨handshake, ?_, hopened⟩⟩
    simp only [hsent]
    rfl

/-- A component that is initialized after `component_submit` was so before, with the same
geometry. -/
theorem componentSubmit_geometry {env : SubmitEnv} {component : BridgeComponent}
    {data : Option BridgeSurface}
    (hinit : (componentSubmit env component data).1.initialized = true) :
    component.initialized = true ∧
      (componentSubmit env component data).1.width = component.width ∧
        (componentSubmit env component data).1.height = component.height := by
  rcases componentSubmit_outcome env component data with
    ⟨_, heq, -⟩ | ⟨_, heq, -⟩ | ⟨accepted, houtcome⟩
  · rw [heq] at hinit ⊢
    exact ⟨hinit, rfl, rfl⟩
  · rw [heq] at hinit
    cases hinit
  · have hbefore := accepted.initialized
    generalize componentSubmit env component data = next at houtcome ⊢
    cases houtcome <;> exact ⟨hbefore, rfl, rfl⟩

/-- `component_query_output` leaves the session as it was. -/
theorem componentQueryOutput_session (component : BridgeComponent) (out : Bool) :
    let next := (componentQueryOutput component out).1
    next.initialized = component.initialized ∧ next.helper = component.helper ∧
      next.width = component.width ∧ next.height = component.height := by
  rcases componentQueryOutput_cases component out with ⟨_, heq, -⟩ | ⟨_, _, -, heq⟩
  · rw [heq]
    exact ⟨rfl, rfl, rfl, rfl⟩
  · rw [heq]
    exact ⟨rfl, rfl, rfl, rfl⟩

/-- Every call keeps an initialized component on the encoder that its last
handshake has opened. -/
theorem openEncoder_step {version : UInt32} {traced : TracedProcess} (h : StandsForEncoder traced)
    (call : ComponentCall) :
    StandsForEncoder ((handshakeCalls version).step traced call).1 := by
  cases call with
  | init env format width height => exact standsForEncoder_init version h env format width height
  | reinit env width height =>
    have hclosed : StandsForEncoder
        { traced with process := { traced.process with
            component := componentCloseCodec traced.process.component } } :=
      ⟨⟨nofun, nofun⟩, nofun⟩
    exact standsForEncoder_init version hclosed env _ width height
  | submitInput env data =>
    have hpaired : Paired traced.process.component := Bool.eq_iff_iff.mpr h.paired.symm
    have hnext : Paired (componentSubmit env traced.process.component data).1 :=
      @paired_step version _ hpaired (.submitInput env data)
    refine standsForEncoder_same h (Bool.eq_iff_iff.mp hnext).symm fun hinit => ?_
    obtain ⟨hbefore, hwidth, hheight⟩ := componentSubmit_geometry hinit
    exact ⟨hbefore, rfl, hwidth, hheight⟩
  | queryOutput out =>
    obtain ⟨hinit, hhelper, hwidth, hheight⟩ :=
      componentQueryOutput_session traced.process.component out
    refine standsForEncoder_same h ?_ fun hnext => ⟨hinit ▸ hnext, rfl, hwidth, hheight⟩
    show (componentQueryOutput traced.process.component out).1.initialized = true ↔
      (componentQueryOutput traced.process.component out).1.helper.isSome = true
    rw [hinit, hhelper]
    exact h.paired
  | drain =>
    unfold handshakeCalls componentCalls componentDrain
    simp only
    split_ifs
    · exact standsForEncoder_same h h.paired fun hinit => ⟨hinit, rfl, rfl, rfl⟩
    · exact standsForEncoder_same h h.paired fun hinit => ⟨hinit, rfl, rfl, rfl⟩
  | flush =>
    unfold handshakeCalls componentCalls componentFlush
    simp only
    split_ifs
    · exact standsForEncoder_same h h.paired fun hinit => ⟨hinit, rfl, rfl, rfl⟩
    · exact standsForEncoder_same h h.paired fun hinit => ⟨hinit, rfl, rfl, rfl⟩
  | terminate => exact ⟨⟨nofun, nofun⟩, nofun⟩

/-- `component_init` of a component without a session closes it when it fails, and
changes nothing else. -/
theorem componentInit_closed_as_before {version : UInt32} {env : InitEnv}
    {process : BridgeProcess} {format : AMFSurfaceFormat} {width height : Int32}
    (hinit : process.component.initialized = false) (hhelper : process.component.helper = none)
    (hfail : (componentInit version env process format width height).2.result ≠ .ok) :
    ClosedAsBefore process.component
      (componentInit version env process format width height).1.component := by
  rcases componentInit_cases version env process format width height with
    ⟨_, _, heq, -⟩ | ⟨_, heq⟩ | ⟨_, _, heq⟩
  · rw [heq]
    exact ⟨hinit, hhelper, rfl, rfl, rfl, rfl, rfl⟩
  · rw [heq]
    exact ⟨rfl, rfl, rfl, rfl, rfl, rfl, rfl⟩
  · rw [heq] at hfail
    exact absurd rfl hfail

/-- A call that fails leaves the component closed. -/
theorem failsClosed_step (version : UInt32) {process : BridgeProcess}
    (hpaired : Paired process.component) (call : ComponentCall) :
    FailsClosed version process call := by
  constructor
  · rintro env format width height rfl hfail
    by_cases hinit : process.component.initialized = true
    · rw [if_pos hinit]
      show componentInit version env process format width height = _
      unfold componentInit
      rw [if_pos hinit]
    · rw [if_neg hinit]
      have huninit := Bool.eq_false_of_not_eq_true hinit
      unfold Paired at hpaired
      rw [huninit, Option.isSome_eq_false_iff, Option.isNone_iff_eq_none] at hpaired
      exact componentInit_closed_as_before huninit hpaired hfail
  · rintro env width height rfl hfail
    let closed : BridgeProcess :=
      { process with component := componentCloseCodec process.component }
    have hclosed : closed.component.initialized = false ∧ closed.component.helper = none :=
      ⟨rfl, rfl⟩
    obtain ⟨hinit, hhelper, hwidth, hheight, hformat, hpts, hproperties⟩ :=
      componentInit_closed_as_before hclosed.1 hclosed.2 hfail
    exact ⟨hinit, hhelper, hwidth, hheight, hformat, hpts, hproperties⟩

/-! ## Whole runs -/

/-- After every call of every run, whatever the versions of the two sides and
whatever fails: the component is initialized exactly when its socket is open; an
initialized component stands for the encoder that its last handshake, between equal
versions, has opened for its geometry; and a failed call of `component_init` or
`component_reinit` leaves it closed and otherwise as it was. -/
theorem no_half_initialized_encoder (version : UInt32) (properties : BridgePropertyStore)
    (failureTime : UInt64) (calls : List ComponentCall) :
    (handshakeCalls version).Along
      (fun _ traced call => StandsForEncoder ((handshakeCalls version).step traced call).1 ∧
        FailsClosed version traced.process call)
      [] { process := BridgeProcess.fresh properties failureTime } calls := by
  refine Machine.along_of_invariant (P := fun _ _ _ => True)
    (fun _ traced => StandsForEncoder traced) ?_ ?_ ?_
    (Machine.along_of_forall (fun _ _ _ => trivial) _ _ _)
  · intro _ traced call h _
    exact openEncoder_step h call
  · intro _ traced call h _
    exact ⟨openEncoder_step h call,
      failsClosed_step version (Bool.eq_iff_iff.mpr h.paired.symm) call⟩
  · exact ⟨⟨nofun, nofun⟩, nofun⟩

end UuAmfBridge
