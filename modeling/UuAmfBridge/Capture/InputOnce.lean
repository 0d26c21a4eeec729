import UuAmfBridge.Capture.RequestPairing

/-!
# Input events and the original SendInput

`capture_send_input` hands an array of inputs to the helper in chunks of at most 64.
Where the first chunk returns zero it calls the original `SendInput` with the whole
array, and a chunk returns zero both when the helper has injected nothing and when its
reply does not arrive.

A call is a machine whose steps are those of the hook (send a chunk, read a reply, call
the original) and those of the helper (serve the request it has), in any order; a
connection that the hook gives up on stays with the helper, which may still serve what
has reached it.  The ghost `injected` lists the elements of the array that either side
has injected; `begun` and `fellBack` say which sides have injected any.

* `sendInputCall_chunk`: a chunk whose reply is read is one call of `send_input_chunk`.
* `serve_unread`: a helper serves a request once; what is left of one whose bytes have not
  all reached it is refused.
* `sendInputCall_keeps`: until the original is called, what is injected lies before the
  request that is with the helper.
* `injected_once_iff`: over every run no element is injected twice, exactly when the
  original is not called after the helper has begun to inject, and the helper does not
  begin to inject the request that it still holds after the original has been called.
-/

namespace UuAmfBridge

section Call

variable {D : Type*} [DecidableEq D]

/-! ## What a batch injects -/

/-- How many events of a batch the compositor is sent input for: the accepted ones, and
the refused one if a part of it was sent. -/
def startedEis (caps : D → Capability → Bool) (regions : D → Option EiRegion) :
    List CaptureInputEvent → List (Dispatch D) → InputBridge D → Nat
  | [], _, _ => 0
  | event :: events, dispatches, bridge =>
      let sent := sendEventEis caps regions (dispatches.headD {}) event bridge
      if sent.ok then startedEis caps regions events dispatches.tail sent.bridge + 1
      else if sent.emissions.isEmpty then 0 else 1

/-- How many events of a batch input is sent for; `uinputPartial` says whether `uinput`
takes a part of the event it refuses. -/
def startedInput (caps : D → Capability → Bool) (regions : D → Option EiRegion) (op : SendOp D)
    (uinputPartial : Bool) (bridge : InputBridge D) : Nat :=
  let (bridge, useEis) := ensureEis caps op.ensure bridge
  if useEis then startedEis caps regions op.events op.dispatches bridge
  else if op.uinputReady then
    let accepted := ((op.uinput.take op.events.length).takeWhile id).length
    if uinputPartial && accepted < op.events.length then accepted + 1 else accepted
  else 0

/-- What the helper meets when it serves a request. -/
structure ServeEnv (D : Type*) where
  turn : CaptureEnv D := {}
  uinputPartial : Bool := false

/-- How many events of a batch the helper sends input for. -/
def CaptureServer.started (server : CaptureServer D) (env : ServeEnv D)
    (events : List CaptureInputEvent) : Nat :=
  startedInput server.caps server.regions { env.turn.send with events } env.uinputPartial
    env.turn.bridge

/-- How many events of the request it has a helper sends input for. -/
def CaptureSide.started (env : ServeEnv D) (side : CaptureSide D) : Nat :=
  match side with
  | .ended => 0
  | .serving server _ _ =>
      ((side.receive env.turn []).events.map fun event =>
        match event with
        | .inject events => server.started env events
        | _ => 0).sum

/-! ## A call -/

/-- Where a call of `capture_send_input` is. -/
inductive SendPhase where
  /-- At the top of the loop. -/
  | chunk (accepted : Nat)
  /-- A chunk of `count` inputs has been sent. -/
  | await (accepted count : Nat)
  /-- The original `SendInput` is called next. -/
  | original
  | returned (result : Nat)
  deriving DecidableEq

/-- A call: `input_connection`, the helper of a connection that the hook has closed, the
element that the request with the helper begins with, whether a helper has sent input
during the call and whether the original `SendInput` has, and the elements injected. -/
structure SendInputState (D : Type*) where
  phase : SendPhase := .chunk 0
  connection : Option (CaptureConnection D) := none
  abandoned : Option (CaptureSide D) := none
  offset : Nat := 0
  begun : Bool := false
  fellBack : Bool := false
  injected : List Nat := []

/-- The array, whether there is an original `SendInput`, and the token of the hook. -/
structure SendInputArgs where
  inputs : List HookInput
  original : Bool := true
  token : List UInt8 := []

/-- The steps of the hook and of the helper. -/
inductive SendInputStep (D : Type*) where
  | send (env : ChunkSendEnv D)
  | serve (env : ServeEnv D)
  | receive (calls : List RecvResult)
  /-- The original `SendInput` injects the first `count` elements. -/
  | original (count : Nat)

/-- More bytes reach the helper. -/
def CaptureSide.push (bytes : List UInt8) : CaptureSide D → CaptureSide D
  | .serving server authenticated unread => .serving server authenticated (unread ++ bytes)
  | .ended => .ended

/-- The length of the next chunk. -/
def chunkLength (args : SendInputArgs) (accepted : Nat) : Nat :=
  min (args.inputs.length - accepted) captureMaxInputEvents.toNat

/-- Where a call goes when a chunk has returned zero. -/
def giveUp (args : SendInputArgs) (accepted : Nat) : SendPhase :=
  if accepted = 0 && args.original then .original else .returned accepted

/-- Where a call goes when a chunk has returned `result`. -/
def afterChunk (args : SendInputArgs) (accepted count result : Nat) : SendPhase :=
  if result = 0 then giveUp args accepted
  else if result ≠ count then .returned (accepted + result)
  else .chunk (accepted + result)

/-- The hook sends the next chunk, or leaves the loop. -/
def SendInputState.send (args : SendInputArgs) (env : ChunkSendEnv D) (accepted : Nat)
    (state : SendInputState D) : SendInputState D :=
  let count := chunkLength args accepted
  if args.inputs.length ≤ accepted then { state with phase := .returned accepted }
  else
    let state := { state with offset := accepted }
    match chunkEvents? ((args.inputs.drop accepted).take count) with
    | none => { state with phase := giveUp args accepted }
    | some events =>
        match openConnection env.connect args.token state.connection with
        | none => { state with connection := none, phase := giveUp args accepted }
        | some connection =>
            let sent := sendChunk env events
            let helper := connection.helper.push sent.2
            if sent.1 then
              { state with
                connection := some { connection with helper }, phase := .await accepted count }
            else
              { state with
                connection := none, abandoned := some helper, phase := giveUp args accepted }

/-- The hook reads the reply to a chunk. -/
def SendInputState.receive (args : SendInputArgs) (calls : List RecvResult)
    (accepted count : Nat) (state : SendInputState D) : SendInputState D :=
  match state.connection with
  | none => state
  | some connection =>
      match receiveChunkReply calls (UInt32.ofNat count) connection with
      | (none, _) =>
          { state with
            connection := none, abandoned := some connection.helper, phase := giveUp args accepted }
      | (some kept, result) =>
          { state with
            connection := some kept, phase := afterChunk args accepted count result.toNat }

/-- The helper that may have a request: the one the hook is connected to, or the one of
the connection that it has closed. -/
def SendInputState.side (state : SendInputState D) : CaptureSide D :=
  match state.connection with
  | some connection => connection.helper
  | none => state.abandoned.getD .ended

/-- The helper serves the request it has. -/
def SendInputState.serve (env : ServeEnv D) (state : SendInputState D) : SendInputState D :=
  -- Without a request it waits in `recv_all`.
  if state.side.unread = [] then state
  else
    let state' := { state with
      begun := state.begun || decide (0 < state.side.started env)
      injected := state.injected ++ List.range' state.offset (state.side.started env) }
    match state.connection with
    | some connection => { state' with connection := some (connection.deliver env.turn []) }
    | none =>
        { state' with abandoned := some (state.side.after (state.side.receive env.turn [])) }

/-- The original `SendInput` injects the first `count` elements. -/
def SendInputState.callOriginal (args : SendInputArgs) (count : Nat) (state : SendInputState D) :
    SendInputState D :=
  { state with
    phase := .returned (min count args.inputs.length)
    fellBack := state.fellBack || decide (0 < min count args.inputs.length)
    injected := state.injected ++ List.range (min count args.inputs.length) }

/-- A call of `capture_send_input` and the helper, whatever the order of their steps. -/
def sendInputCall (args : SendInputArgs) : Machine (SendInputState D) (SendInputStep D) Unit where
  step state op :=
    match op with
    | .serve env => (state.serve env, ())
    | .send env =>
        match state.phase with
        | .chunk accepted => (state.send args env accepted, ())
        | _ => (state, ())
    | .receive calls =>
        match state.phase with
        | .await accepted count => (state.receive args calls accepted count, ())
        | _ => (state, ())
    | .original count =>
        match state.phase with
        | .original => (state.callOriginal args count, ())
        | _ => (state, ())

/-! ## The property and the condition -/

/-- No element has been injected twice after the step. -/
def InjectedOnce (args : SendInputArgs) (state : SendInputState D) (op : SendInputStep D) : Prop :=
  ((sendInputCall args).step state op).1.injected.Nodup

/-- Both sides inject: the original is called after a helper has sent input, or a helper
sends input for a request that it still holds after the original has been called. -/
def BothInject (args : SendInputArgs) (state : SendInputState D) : SendInputStep D → Prop
  | .original count =>
      state.phase = .original ∧ state.begun = true ∧ 0 < min count args.inputs.length
  | .serve env => state.fellBack = true ∧ state.side.unread ≠ [] ∧ 0 < state.side.started env
  | _ => False

/-! ## What a batch injects -/

theorem startedEis_bounds (caps : D → Capability → Bool) (regions : D → Option EiRegion)
    (events : List CaptureInputEvent) (dispatches : List (Dispatch D)) (bridge : InputBridge D) :
    (sendLoopEis caps regions events dispatches bridge).accepted ≤
        startedEis caps regions events dispatches bridge ∧
      startedEis caps regions events dispatches bridge ≤ events.length := by
  induction events generalizing dispatches bridge with
  | nil => exact ⟨le_rfl, le_rfl⟩
  | cons event events ih =>
    unfold sendLoopEis startedEis
    simp only [List.length_cons]
    obtain ⟨haccepted, hlength⟩ := ih dispatches.tail
      (sendEventEis caps regions (dispatches.headD {}) event bridge).bridge
    split_ifs
    · exact ⟨Nat.succ_le_succ haccepted, Nat.succ_le_succ hlength⟩
    · exact ⟨le_rfl, Nat.zero_le _⟩
    · exact ⟨Nat.zero_le _, Nat.succ_le_succ (Nat.zero_le _)⟩

/-- Input is sent for every event that is accepted, and for no more than there are. -/
theorem started_bounds (server : CaptureServer D) (env : ServeEnv D)
    (events : List CaptureInputEvent) :
    (server.sendBatch env.turn events).accepted ≤ server.started env events ∧
      server.started env events ≤ events.length := by
  unfold CaptureServer.sendBatch CaptureServer.started sendInput startedInput
  simp only
  split_ifs with heis huinput hpartial
  · exact startedEis_bounds _ _ _ _ _
  · simp only [Bool.and_eq_true, decide_eq_true_eq] at hpartial
    exact ⟨Nat.le_succ _, hpartial.2⟩
  · refine ⟨le_rfl, le_trans (List.takeWhile_sublist _).length_le ?_⟩
    rw [List.length_take]
    exact Nat.min_le_left _ _
  · exact ⟨le_rfl, Nat.zero_le _⟩

/-- A range from an element that is injected, or from behind all of them, is injected for
the first time exactly when it is empty or its first element is not injected. -/
theorem nodup_append_range'_iff {injected : List Nat} {offset count : Nat}
    (hnodup : injected.Nodup) (h : offset ∈ injected ∨ ∀ i ∈ injected, i < offset) :
    (injected ++ List.range' offset count).Nodup ↔ ¬(offset ∈ injected ∧ 0 < count) := by
  rw [List.nodup_append]
  constructor
  · rintro ⟨-, -, hdisjoint⟩ ⟨hmem, hpos⟩
    exact hdisjoint offset hmem offset (List.mem_range'_1.mpr ⟨le_rfl, by omega⟩) rfl
  · intro hfresh
    refine ⟨hnodup, List.nodup_range', fun i hi j hj heq => ?_⟩
    obtain ⟨hle, hlt⟩ := List.mem_range'_1.mp hj
    rcases h with hmem | hbelow
    · exact hfresh ⟨hmem, by omega⟩
    · have := hbelow i hi
      omega

/-! ## A chunk -/

/-- The bytes of a chunk. -/
def chunkBytes (events : List CaptureInputEvent) : List UInt8 :=
  (inputRequest (UInt32.ofNat events.length)).encode ++ CaptureInputEvent.encodeAll events

/-- The helper serves a chunk: it sends input for at most its events, and writes at most a
reply, with a count of zero unless it has sent input. -/
theorem serve_chunk (server : CaptureServer D) (authenticated : Bool) (env : ServeEnv D)
    {events : List CaptureInputEvent} (hpos : 0 < events.length)
    (hle : events.length ≤ captureMaxInputEvents.toNat) :
    let side : CaptureSide D := .serving server authenticated (chunkBytes events)
    let turn := side.receive env.turn []
    (side.after turn).unread = [] ∧ side.started env ≤ events.length ∧
      ∃ reply : UInt32, (reply ≠ 0 → 0 < side.started env) ∧
        writtenBytes turn.events <+: (inputReply reply (UInt32.ofNat events.length)).encode := by
  intro side turn
  have hmax : captureMaxInputEvents.toNat = 64 := rfl
  have hcount : (UInt32.ofNat events.length).toNat = events.length := toNat_ofNat_eq (by omega)
  have hturn : turn = server.serveRequest env.turn authenticated (chunkBytes events) := by
    show server.serveRequest env.turn authenticated (chunkBytes events ++ []) = _
    rw [List.append_nil]
  have hstarted : side.started env = (turn.events.map fun event =>
      match event with
      | .inject events => server.started env events
      | _ => 0).sum := rfl
  have hafter : side.after turn = .goOn server turn.next := rfl
  have hsize : ∀ size, requestBody authenticated (inputRequest (UInt32.ofNat events.length)) =
      some size → size = (CaptureInputEvent.encodeAll events).length := by
    intro size heq
    rw [requestBody_inputRequest hpos hle] at heq
    split_ifs at heq
    exact (Option.some.inj heq).symm
  rcases serveRequest_cases server env.turn hsize with ⟨header, read, hrefused⟩ | ⟨-, hanswered⟩
  · rw [hturn.trans hrefused] at hstarted hafter ⊢
    rw [hafter, hstarted]
    exact ⟨rfl, Nat.zero_le _, 0, fun hne => absurd rfl hne, List.nil_prefix⟩
  · have hanswer : server.answerRequest env.turn (inputRequest (UInt32.ofNat events.length))
        (CaptureInputEvent.encodeAll events) [] =
          server.answerInput env.turn (UInt32.ofNat events.length)
            (CaptureInputEvent.encodeAll events) [] := rfl
    have hevents : CaptureInputEvent.decodeAll (UInt32.ofNat events.length).toNat
        (CaptureInputEvent.encodeAll events) = events := by
      rw [hcount, CaptureInputEvent.decodeAll_encodeAll]
    obtain ⟨haccepted, hlength⟩ := started_bounds server env events
    have hone : side.started env = server.started env events := by
      rw [hstarted, hturn.trans hanswered, hanswer]
      unfold CaptureServer.answerInput
      simp only [hevents, List.map_cons, List.map_nil, List.sum_cons, List.sum_nil, Nat.zero_add,
        Nat.add_zero]
    refine ⟨?_, hone ▸ hlength, UInt32.ofNat (server.sendBatch env.turn events).accepted, ?_, ?_⟩
    · rw [hafter, hturn.trans hanswered]
      exact CaptureSide.unread_goOn fun _ _ hnext => (answerRequest_next hnext).2
    · intro hne
      rw [hone]
      refine lt_of_lt_of_le (Nat.pos_of_ne_zero fun hzero => hne ?_) haccepted
      rw [hzero]
      rfl
    · rw [hturn.trans hanswered, hanswer]
      have hwritten := answerInput_written server env.turn (UInt32.ofNat events.length)
        (CaptureInputEvent.encodeAll events) []
      rw [hevents] at hwritten
      exact hwritten

/-- A turn over the beginning of a request and its body leaves nothing of it: it reads all of
it, or it is the last one. -/
theorem serveRequest_rest (server : CaptureServer D) (env : CaptureEnv D)
    {authenticated next : Bool} {request : CaptureRequest} {body bytes rest : List UInt8}
    (hbytes : bytes <+: request.encode ++ body)
    (hsize : ∀ size, requestBody authenticated request = some size → size = body.length)
    (hnext : (server.serveRequest env authenticated bytes).next = some (next, rest)) :
    rest = [] := by
  obtain ⟨missing, hmissing⟩ := hbytes
  unfold CaptureServer.serveRequest at hnext
  simp only at hnext
  cases haccepted : (receiveRequest env authenticated bytes).accepted with
  | none =>
    rw [haccepted] at hnext
    cases hnext
  | some accepted =>
    obtain ⟨request', behind⟩ := accepted
    rw [haccepted] at hnext
    obtain ⟨size, hbody, hrequest, hheader, hread, hstream⟩ := receiveRequest_accepted haccepted
    obtain rfl := (answerRequest_next hnext).2
    rw [hstream, List.append_assoc, List.append_assoc] at hmissing
    obtain ⟨hheaderEq, htail⟩ := List.append_inj hmissing
      (hheader.trans (CaptureRequest.encode_length request).symm)
    rw [hheaderEq, CaptureRequest.decode_encode] at hrequest
    subst hrequest
    obtain ⟨-, hbehind⟩ := List.append_inj (htail.trans (List.append_nil body).symm)
      (hread.trans (hsize size hbody))
    exact (List.append_eq_nil_iff.mp hbehind).1

/-- The helper has no request, or a chunk of which all bytes or some have reached it. -/
def CaptureSide.HoldsChunk (side : CaptureSide D) : Prop :=
  side.unread = [] ∨ ∃ (server : CaptureServer D) (authenticated : Bool) (bytes : List UInt8)
    (events : List CaptureInputEvent), side = .serving server authenticated bytes ∧
      bytes <+: chunkBytes events ∧ 0 < events.length ∧
        events.length ≤ captureMaxInputEvents.toNat

/-- A helper that has served what it holds of a chunk has no request. -/
theorem CaptureSide.HoldsChunk.after {side : CaptureSide D} (h : side.HoldsChunk)
    (hunread : side.unread ≠ []) (env : CaptureEnv D) :
    (side.after (side.receive env [])).unread = [] := by
  rcases h with hnil | ⟨server, authenticated, bytes, events, rfl, hbytes, hpos, hle⟩
  · exact absurd hnil hunread
  · refine CaptureSide.unread_goOn fun next rest hnext => ?_
    have hturn : (server.serveRequest env authenticated bytes).next = some (next, rest) := by
      rw [← List.append_nil bytes]
      exact hnext
    refine serveRequest_rest server env hbytes (fun size heq => ?_) hturn
    rw [requestBody_inputRequest hpos hle] at heq
    split_ifs at heq
    exact (Option.some.inj heq).symm

omit [DecidableEq D] in
/-- What is sent of a chunk is a beginning of its bytes. -/
theorem sendChunk_begins (env : ChunkSendEnv D) (events : List CaptureInputEvent) :
    (sendChunk env events).2 <+: chunkBytes events := by
  have hrequest := (sendLoop_sent_begins false env.requestSend
    (inputRequest (UInt32.ofNat events.length)).encode).1
  have hevents := (sendLoop_sent_begins false env.eventsSend
    (CaptureInputEvent.encodeAll events)).1
  unfold sendChunk chunkBytes
  simp only
  split_ifs with hheader
  · exact hrequest.trans (List.prefix_append _ _)
  · rw [socketSendAll_sent (by simpa using hheader)]
    exact (List.prefix_append_right_inj _).mpr hevents

/-! ## The invariant -/

/-- The hook awaits the reply to a chunk: the helper has not served it, or it has, and
its reply does not count more than it has injected. -/
inductive AwaitsReply (injected : List Nat) (accepted count : Nat)
    (connection : CaptureConnection D) : Prop
  | waiting (server : CaptureServer D) (authenticated : Bool) (events : List CaptureInputEvent)
      (helper_eq : connection.helper = .serving server authenticated (chunkBytes events))
      (inbound_eq : connection.inbound = [])
      (length_eq : events.length = count)
      (below : ∀ i ∈ injected, i < accepted)
  | served (reply : UInt32)
      (unread_eq : connection.helper.unread = [])
      (begins : connection.inbound <+: (inputReply reply (UInt32.ofNat count)).encode)
      (head : reply ≠ 0 → 0 ∈ injected)

/-- What holds at each point of a call. -/
def SendInputState.PhaseInv (state : SendInputState D) : SendPhase → Prop
  | .chunk accepted => ClosedOrInStep state.connection ∧ state.abandoned = none ∧
      (∀ i ∈ state.injected, i < accepted) ∧ (accepted = 0 ∨ 0 ∈ state.injected)
  | .await accepted count => state.offset = accepted ∧ 0 < count ∧
      count ≤ captureMaxInputEvents.toNat ∧ (∀ i ∈ state.injected, i < accepted + count) ∧
        state.abandoned = none ∧ ∃ connection, state.connection = some connection ∧
          AwaitsReply state.injected accepted count connection
  | .original => state.offset = 0
  | .returned _ => True

/-- No element is injected twice, and until the original is called those that are injected
lie before the request that is with the helper. -/
structure SendInputState.Inv (state : SendInputState D) : Prop where
  nodup : state.injected.Nodup
  begun : state.begun = true → 0 ∈ state.injected
  untouched : state.begun = false → state.fellBack = false → state.injected = []
  fellBack : state.fellBack = true → state.offset = 0 ∧ 0 ∈ state.injected ∧
    ∃ result, state.phase = .returned result
  fresh : state.fellBack = false → state.side.unread ≠ [] → ∀ i ∈ state.injected, i < state.offset
  held : state.side.HoldsChunk
  start : state.offset = 0 ∨ 0 ∈ state.injected
  phase : state.PhaseInv state.phase

/-! ## The steps of the hook -/

omit [DecidableEq D] in
/-- Nothing is owed to a phase after a chunk has returned zero but the offset of the
original. -/
theorem phaseInv_giveUp {args : SendInputArgs} {state : SendInputState D} {accepted : Nat}
    (h : state.offset = accepted) : state.PhaseInv (giveUp args accepted) := by
  unfold giveUp
  split_ifs with hfirst
  · simp only [Bool.and_eq_true, decide_eq_true_eq] at hfirst
    exact h.trans hfirst.1
  · trivial

omit [DecidableEq D] in
/-- A helper in step has the bytes of the chunk, or it is gone. -/
theorem awaitsReply_push {connection : CaptureConnection D} (h : connection.InStep)
    {injected : List Nat} {accepted : Nat} (hbelow : ∀ i ∈ injected, i < accepted)
    (events : List CaptureInputEvent) :
    AwaitsReply injected accepted events.length
      { connection with helper := connection.helper.push (chunkBytes events) } := by
  obtain ⟨helper, inbound⟩ := connection
  obtain ⟨hinbound, hunread⟩ := h
  simp only at hinbound hunread
  subst hinbound
  cases helper with
  | ended => exact .served 0 rfl List.nil_prefix fun hne => absurd rfl hne
  | serving server authenticated unread =>
    have hnil : unread = [] := hunread
    subst hnil
    exact .waiting server authenticated events rfl rfl rfl hbelow

omit [DecidableEq D] in
/-- A helper in step to which a beginning of a chunk is sent. -/
theorem holdsChunk_push {connection : CaptureConnection D} (h : connection.InStep)
    {bytes : List UInt8} {events : List CaptureInputEvent} (hbytes : bytes <+: chunkBytes events)
    (hpos : 0 < events.length) (hle : events.length ≤ captureMaxInputEvents.toNat) :
    (connection.helper.push bytes).HoldsChunk := by
  obtain ⟨helper, inbound⟩ := connection
  obtain ⟨-, hunread⟩ := h
  cases helper with
  | ended => exact Or.inl rfl
  | serving server authenticated unread =>
    have hnil : unread = [] := hunread
    subst hnil
    exact Or.inr ⟨server, authenticated, bytes, events, rfl, hbytes, hpos, hle⟩

omit [DecidableEq D] in
theorem SendInputState.Inv.fellBack_eq {state : SendInputState D} (h : state.Inv)
    (hphase : ∀ result, state.phase ≠ .returned result) : state.fellBack = false := by
  by_contra hfell
  obtain ⟨-, -, result, hreturned⟩ := h.fellBack (by simpa using hfell)
  exact hphase result hreturned

omit [DecidableEq D] in
/-- Before the original is called, a step that injects nothing keeps the invariant if what
is injected lies before the request it leaves with the helper. -/
theorem SendInputState.Inv.moved {state next : SendInputState D} (h : state.Inv)
    (hfellBack : state.fellBack = false)
    (hsame : next.injected = state.injected ∧ next.begun = state.begun ∧
      next.fellBack = state.fellBack)
    (hfresh : next.side.unread ≠ [] → ∀ i ∈ state.injected, i < next.offset)
    (hheld : next.side.HoldsChunk) (hstart : next.offset = 0 ∨ 0 ∈ state.injected)
    (hphase : next.PhaseInv next.phase) : next.Inv := by
  obtain ⟨hinjected, hbegun, hfell⟩ := hsame
  rw [hfellBack] at hfell
  refine ⟨?_, ?_, ?_, ?_, ?_, hheld, ?_, hphase⟩
  · rw [hinjected]
    exact h.nodup
  · rw [hinjected, hbegun]
    exact h.begun
  · rw [hinjected, hbegun]
    exact fun hnot _ => h.untouched hnot hfellBack
  · rw [hfell]
    exact nofun
  · rw [hinjected]
    exact fun _ => hfresh
  · rw [hinjected]
    exact hstart

omit [DecidableEq D] in
/-- The helper of an open connection is the one that may have a request. -/
theorem side_eq {state : SendInputState D} {connection : CaptureConnection D}
    (hconnection : state.connection = some connection) : state.side = connection.helper := by
  unfold SendInputState.side
  rw [hconnection]

omit [DecidableEq D] in
/-- At the top of the loop the helper has no request. -/
theorem unread_of_chunk {state : SendInputState D} (hclosed : ClosedOrInStep state.connection)
    (habandoned : state.abandoned = none) : state.side.unread = [] := by
  cases hconnection : state.connection with
  | none =>
    unfold SendInputState.side
    rw [hconnection, habandoned]
    rfl
  | some connection =>
    rw [side_eq hconnection]
    exact (hclosed connection hconnection).unread_eq

/-- The hook sends a chunk. -/
theorem send_keeps {args : SendInputArgs} {state : SendInputState D} (h : state.Inv)
    (env : ChunkSendEnv D) {accepted : Nat} (hphase : state.phase = .chunk accepted) :
    (state.send args env accepted).Inv := by
  have hinv := h.phase
  rw [hphase] at hinv
  obtain ⟨hstep, habandoned, hbelow, hfirst⟩ := hinv
  have hfellBack : state.fellBack = false := h.fellBack_eq (by rw [hphase]; exact nofun)
  have hnone : state.side.unread = [] := unread_of_chunk hstep habandoned
  unfold SendInputState.send
  simp only
  split_ifs with hdone
  · exact h.moved hfellBack ⟨rfl, rfl, rfl⟩ (h.fresh hfellBack) h.held h.start trivial
  · cases hchunk : chunkEvents? ((args.inputs.drop accepted).take (chunkLength args accepted)) with
    | none =>
      exact h.moved hfellBack ⟨rfl, rfl, rfl⟩ (fun _ => hbelow) (Or.inl hnone) hfirst
        (phaseInv_giveUp rfl)
    | some events =>
      obtain ⟨-, hlength, hpos, hle⟩ := chunkEvents?_eq hchunk
      have hopened : ClosedOrInStep (openConnection env.connect args.token state.connection) :=
        openConnection_inStep hstep
      cases hopen : openConnection env.connect args.token state.connection with
      | none =>
        simp only [habandoned]
        exact h.moved hfellBack ⟨rfl, rfl, rfl⟩ (fun _ => hbelow) (Or.inl rfl) hfirst
          (phaseInv_giveUp rfl)
      | some connection =>
        have hinStep := hopened connection hopen
        simp only
        by_cases hsent : (sendChunk env events).1 = true
        · rw [if_pos hsent, sendChunk_sent hsent]
          have hcount : events.length = chunkLength args accepted := by
            rw [hlength, List.length_take, List.length_drop]
            unfold chunkLength
            omega
          rw [← hcount]
          refine h.moved hfellBack ⟨rfl, rfl, rfl⟩ (fun _ => hbelow)
            (holdsChunk_push hinStep (List.prefix_refl _) hpos hle) hfirst
            ⟨rfl, hpos, hle, ?_, habandoned, _, rfl, awaitsReply_push hinStep hbelow events⟩
          intro i hi
          exact lt_of_lt_of_le (hbelow i hi) (Nat.le_add_right _ _)
        · rw [if_neg hsent]
          exact h.moved hfellBack ⟨rfl, rfl, rfl⟩ (fun _ => hbelow)
            (holdsChunk_push hinStep (sendChunk_begins env events) hpos hle) hfirst
            (phaseInv_giveUp rfl)

omit [DecidableEq D] in
/-- A reply that is read counts elements only if one is injected, and leaves the
connection in step. -/
theorem AwaitsReply.kept {injected : List Nat} {accepted count : Nat}
    {connection kept : CaptureConnection D} {calls : List RecvResult} {result : UInt32}
    (h : AwaitsReply injected accepted count connection)
    (hkept : receiveChunkReply calls (UInt32.ofNat count) connection = (some kept, result)) :
    kept.InStep ∧ (result ≠ 0 → 0 ∈ injected) := by
  unfold receiveChunkReply at hkept
  simp only at hkept
  split_ifs at hkept with hstatus haccepted
  · cases (Prod.mk.inj hkept).1
  · cases (Prod.mk.inj hkept).1
  · obtain ⟨hconnection, rfl⟩ := Prod.mk.inj hkept
    obtain rfl := Option.some.inj hconnection
    have hcomplete := not_not.mp hstatus
    cases h with
    | waiting server authenticated events helper_eq inbound_eq length_eq below =>
      rw [inbound_eq] at hcomplete
      exact absurd (le_length_of_recvLoop_complete hcomplete) (by decide)
    | served reply unread_eq begins head =>
      rw [← List.append_nil (CaptureInputReply.encode _)] at begins
      rw [← CaptureInputReply.encode_length (inputReply reply (UInt32.ofNat count))] at hcomplete ⊢
      obtain ⟨hdata, hrest, -⟩ := socketRecvAll_begins begins hcomplete
      refine ⟨⟨List.prefix_nil.mp hrest, unread_eq⟩, fun hne => head ?_⟩
      rw [hdata, CaptureInputReply.decode_encode] at hne
      exact hne

omit [DecidableEq D] in
/-- The hook reads a reply. -/
theorem receive_keeps {args : SendInputArgs} {state : SendInputState D} (h : state.Inv)
    (calls : List RecvResult) {accepted count : Nat}
    (hphase : state.phase = .await accepted count) :
    (state.receive args calls accepted count).Inv := by
  have hinv := h.phase
  rw [hphase] at hinv
  obtain ⟨hoffset, hpos, hle, hbelow, habandoned, connection, hconnection, hawaits⟩ := hinv
  have hfellBack : state.fellBack = false := h.fellBack_eq (by rw [hphase]; exact nofun)
  have hside := side_eq hconnection
  unfold SendInputState.receive
  rw [hconnection]
  simp only
  rcases hreceived : receiveChunkReply calls (UInt32.ofNat count) connection with ⟨kept, result⟩
  cases kept with
  | none =>
    -- The request stays with the helper of the connection that is closed.
    refine h.moved hfellBack ⟨rfl, rfl, rfl⟩ ?_ ?_ h.start (phaseInv_giveUp hoffset)
    · exact fun hunread => h.fresh hfellBack (hside ▸ hunread)
    · exact hside ▸ h.held
  | some kept =>
    obtain ⟨hstep, hhead⟩ := hawaits.kept hreceived
    refine h.moved hfellBack ⟨rfl, rfl, rfl⟩ (fun hunread => absurd hstep.unread_eq hunread)
      (Or.inl hstep.unread_eq) h.start ?_
    simp only
    unfold afterChunk
    split_ifs with hzero hall
    · exact phaseInv_giveUp hoffset
    · trivial
    · have hne : result ≠ 0 := fun heq => hzero (by rw [heq]; rfl)
      rw [not_not.mp hall]
      refine ⟨?_, habandoned, hbelow, Or.inr (hhead hne)⟩
      intro open' hopen
      obtain rfl := Option.some.inj hopen
      exact hstep

/-! ## The steps of the helper and of the original -/

/-- The helper serves the chunk that the hook awaits the reply to. -/
theorem AwaitsReply.serve {injected : List Nat} {accepted count : Nat}
    {connection : CaptureConnection D} (h : AwaitsReply injected accepted count connection)
    (hpos : 0 < count) (hle : count ≤ captureMaxInputEvents.toNat)
    (hunread : connection.helper.unread ≠ []) (env : ServeEnv D) {injected' : List Nat}
    (hhead : 0 < connection.helper.started env → 0 ∈ injected') :
    connection.helper.started env ≤ count ∧ (∀ i ∈ injected, i < accepted) ∧
      AwaitsReply injected' accepted count (connection.deliver env.turn []) := by
  cases h with
  | waiting server authenticated events helper_eq inbound_eq length_eq below =>
    obtain ⟨helper, inbound⟩ := connection
    simp only at helper_eq inbound_eq hhead ⊢
    subst helper_eq inbound_eq length_eq
    obtain ⟨hrest, hstarted, reply, hreply, hwritten⟩ :=
      serve_chunk server authenticated env hpos hle
    exact ⟨hstarted, below, .served reply hrest hwritten fun hne => hhead (hreply hne)⟩
  | served reply unread_eq begins head => exact absurd unread_eq hunread

@[simp] theorem serve_phase (env : ServeEnv D) (state : SendInputState D) :
    (state.serve env).phase = state.phase := by
  unfold SendInputState.serve
  split_ifs
  · rfl
  · cases state.connection <;> rfl

@[simp] theorem serve_offset (env : ServeEnv D) (state : SendInputState D) :
    (state.serve env).offset = state.offset := by
  unfold SendInputState.serve
  split_ifs
  · rfl
  · cases state.connection <;> rfl

theorem serve_injected {state : SendInputState D} (hunread : state.side.unread ≠ [])
    (env : ServeEnv D) : (state.serve env).injected =
      state.injected ++ List.range' state.offset (state.side.started env) := by
  unfold SendInputState.serve
  rw [if_neg hunread]
  cases state.connection <;> rfl

theorem serve_begun {state : SendInputState D} (hunread : state.side.unread ≠ [])
    (env : ServeEnv D) : (state.serve env).begun =
      (state.begun || decide (0 < state.side.started env)) := by
  unfold SendInputState.serve
  rw [if_neg hunread]
  cases state.connection <;> rfl

@[simp] theorem serve_fellBack (env : ServeEnv D) (state : SendInputState D) :
    (state.serve env).fellBack = state.fellBack := by
  unfold SendInputState.serve
  split_ifs
  · rfl
  · cases state.connection <;> rfl

/-- A helper serves a request once. -/
theorem serve_unread {state : SendInputState D} (h : state.side.HoldsChunk)
    (hunread : state.side.unread ≠ []) (env : ServeEnv D) :
    (state.serve env).side.unread = [] := by
  have hafter := h.after hunread env.turn
  unfold SendInputState.serve
  rw [if_neg hunread]
  cases hconnection : state.connection with
  | none =>
    unfold SendInputState.side at hafter ⊢
    rw [hconnection] at hafter ⊢
    exact hafter
  | some connection =>
    unfold SendInputState.side at hafter ⊢
    rw [hconnection] at hafter
    exact hafter

theorem serve_connection (env : ServeEnv D) {state : SendInputState D}
    {connection : CaptureConnection D} (hunread : state.side.unread ≠ [])
    (hconnection : state.connection = some connection) :
    (state.serve env).connection = some (connection.deliver env.turn []) ∧
      (state.serve env).abandoned = state.abandoned := by
  unfold SendInputState.serve
  rw [if_neg hunread, hconnection]
  exact ⟨rfl, rfl⟩

/-- What holds at each point of a call still holds after the helper has served. -/
theorem serve_phaseInv {state : SendInputState D} (h : state.Inv) (env : ServeEnv D)
    (hunread : state.side.unread ≠ [])
    (hmem : 0 < state.side.started env → 0 ∈ (state.serve env).injected) :
    (state.serve env).PhaseInv (state.serve env).phase := by
  have hphase := h.phase
  rw [serve_phase]
  cases hat : state.phase with
  | chunk accepted =>
    rw [hat] at hphase
    exact absurd (unread_of_chunk hphase.1 hphase.2.1) hunread
  | await accepted count =>
    rw [hat] at hphase
    obtain ⟨hoffset, hpos, hle, -, habandoned, connection, hconnection, hawaits⟩ := hphase
    have hside := side_eq hconnection
    obtain ⟨hserve, hkept⟩ := serve_connection env hunread hconnection
    rw [hside] at hmem
    obtain ⟨hstarted, hbelow, hserved⟩ := hawaits.serve hpos hle (hside ▸ hunread) env hmem
    refine ⟨(serve_offset env state).trans hoffset, hpos, hle, ?_, hkept.trans habandoned, _,
      hserve, hserved⟩
    intro i hi
    rw [serve_injected hunread] at hi
    rcases List.mem_append.mp hi with hbefore | hnew
    · have := hbelow i hbefore
      omega
    · rw [hside, hoffset] at hnew
      have := (List.mem_range'_1.mp hnew).2
      omega
  | original =>
    rw [hat] at hphase
    exact (serve_offset env state).trans hphase
  | returned result => trivial

/-- The helper serves the request it has. -/
theorem serve_keeps {state : SendInputState D} (h : state.Inv) (env : ServeEnv D)
    (honly : ¬(state.fellBack = true ∧ state.side.unread ≠ [] ∧ 0 < state.side.started env)) :
    (state.serve env).Inv := by
  by_cases hunread : state.side.unread = []
  · unfold SendInputState.serve
    rw [if_pos hunread]
    exact h
  · have hinjected := serve_injected hunread env
    have hbegun := serve_begun hunread env
    have hserved := serve_unread h.held hunread env
    have hmem : 0 < state.side.started env → 0 ∈ (state.serve env).injected := by
      intro hpos
      rw [hinjected]
      rcases h.start with hzero | hhead
      · exact List.mem_append_right _ (List.mem_range'_1.mpr (by omega))
      · exact List.mem_append_left _ hhead
    have hkeeps : 0 ∈ state.injected → 0 ∈ (state.serve env).injected := by
      rw [hinjected]
      exact List.mem_append_left _
    have hstart : (state.serve env).offset = 0 ∨ 0 ∈ (state.serve env).injected := by
      rw [serve_offset]
      exact h.start.imp_right hkeeps
    have hbegunMem : (state.serve env).begun = true → 0 ∈ (state.serve env).injected := by
      rw [hbegun, Bool.or_eq_true, decide_eq_true_eq]
      rintro (hbefore | hpos)
      · exact hkeeps (h.begun hbefore)
      · exact hmem hpos
    cases hfell : state.fellBack with
    | true =>
      -- A request that is served after the original has been called injects nothing.
      have hnothing : state.side.started env = 0 := by
        by_contra hpos
        exact honly ⟨hfell, hunread, Nat.pos_of_ne_zero hpos⟩
      obtain ⟨hoffset, hhead, result, hreturned⟩ := h.fellBack hfell
      refine ⟨?_, hbegunMem, ?_, ?_, ?_, Or.inl hserved, hstart, ?_⟩
      · rw [hinjected, hnothing, List.range'_zero, List.append_nil]
        exact h.nodup
      · rw [serve_fellBack, hfell]
        exact nofun
      · rw [serve_offset, serve_phase]
        exact fun _ => ⟨hoffset, hkeeps hhead, result, hreturned⟩
      · exact fun _ hrest => absurd hserved hrest
      · rw [serve_phase, hreturned]
        trivial
    | false =>
      have hbelow := h.fresh hfell hunread
      refine ⟨?_, hbegunMem, ?_, ?_, ?_, Or.inl hserved, hstart, ?_⟩
      · rw [hinjected]
        refine (nodup_append_range'_iff h.nodup (Or.inr hbelow)).mpr ?_
        exact fun hagain => (hbelow _ hagain.1).false
      · rw [hbegun, hinjected, Bool.or_eq_false_iff, decide_eq_false_iff_not]
        rintro ⟨hnot, hnothing⟩ -
        rw [h.untouched hnot hfell, Nat.eq_zero_of_not_pos hnothing]
        rfl
      · rw [serve_fellBack, hfell]
        exact nofun
      · exact fun _ hrest => absurd hserved hrest
      · exact serve_phaseInv h env hunread hmem

omit [DecidableEq D] in
/-- The hook calls the original. -/
theorem callOriginal_keeps {args : SendInputArgs} {state : SendInputState D} (h : state.Inv)
    {count : Nat} (hphase : state.phase = .original)
    (honly : ¬(state.begun = true ∧ 0 < min count args.inputs.length)) :
    (state.callOriginal args count).Inv := by
  have hfellBack : state.fellBack = false := h.fellBack_eq (by rw [hphase]; exact nofun)
  have hoffset := h.phase
  rw [hphase] at hoffset
  have hzero : state.offset = 0 := hoffset
  unfold SendInputState.callOriginal
  rcases Nat.eq_zero_or_pos (min count args.inputs.length) with hnothing | hpos
  · rw [hnothing, List.range_zero, List.append_nil, decide_eq_false (lt_irrefl 0), Bool.or_false]
    exact ⟨h.nodup, h.begun, h.untouched, fun hfell => absurd hfell (by simp [hfellBack]),
      h.fresh, h.held, h.start, trivial⟩
  · have hnot : state.begun = false := by
      by_contra hbegun
      exact honly ⟨by simpa using hbegun, hpos⟩
    have hmem : 0 ∈ List.range (min count args.inputs.length) := List.mem_range.mpr hpos
    rw [h.untouched hnot hfellBack, List.nil_append, decide_eq_true hpos, Bool.or_true]
    exact ⟨List.nodup_range, fun _ => hmem, nofun, fun _ => ⟨hzero, hmem, _, rfl⟩, nofun, h.held,
      Or.inl hzero, trivial⟩

/-- Every step that is not the second side to inject keeps the invariant. -/
theorem sendInputCall_keeps {args : SendInputArgs} {state : SendInputState D} (h : state.Inv)
    {op : SendInputStep D} (honly : ¬BothInject args state op) :
    ((sendInputCall args).step state op).1.Inv := by
  unfold sendInputCall
  cases op with
  | serve env => exact serve_keeps h env honly
  | send env =>
    cases hphase : state.phase with
    | chunk accepted =>
      simp only [hphase]
      exact send_keeps h env hphase
    | await accepted count => simpa only [hphase] using h
    | original => simpa only [hphase] using h
    | returned result => simpa only [hphase] using h
  | receive calls =>
    cases hphase : state.phase with
    | await accepted count =>
      simp only [hphase]
      exact receive_keeps h calls hphase
    | chunk accepted => simpa only [hphase] using h
    | original => simpa only [hphase] using h
    | returned result => simpa only [hphase] using h
  | original count =>
    cases hphase : state.phase with
    | original =>
      simp only [hphase]
      exact callOriginal_keeps h hphase fun hboth => honly ⟨hphase, hboth⟩
    | chunk accepted => simpa only [hphase] using h
    | await accepted count => simpa only [hphase] using h
    | returned result => simpa only [hphase] using h

/-- A step leaves every element injected at most once exactly when it is not the second side
to inject. -/
theorem injectedOnce_step {args : SendInputArgs} {state : SendInputState D} (h : state.Inv)
    (op : SendInputStep D) : ¬BothInject args state op ↔ InjectedOnce args state op := by
  constructor
  · intro honly
    exact (sendInputCall_keeps h honly).nodup
  · intro honce hboth
    unfold InjectedOnce sendInputCall at honce
    cases op with
    | send env => exact hboth
    | receive calls => exact hboth
    | serve env =>
      obtain ⟨hfell, hunread, hpos⟩ := hboth
      obtain ⟨hoffset, hhead, -⟩ := h.fellBack hfell
      have hmem : state.offset ∈ state.injected := hoffset ▸ hhead
      simp only at honce
      rw [serve_injected hunread, nodup_append_range'_iff h.nodup (Or.inl hmem)] at honce
      exact honce ⟨hmem, hpos⟩
    | original count =>
      obtain ⟨hphase, hbegun, hpos⟩ := hboth
      simp only [hphase] at honce
      have hzero := h.begun hbegun
      unfold SendInputState.callOriginal at honce
      rw [List.range_eq_range', nodup_append_range'_iff h.nodup (Or.inl hzero)] at honce
      exact honce ⟨hzero, hpos⟩

/-! ## A chunk is a call of `send_input_chunk` -/

omit [DecidableEq D] in
/-- The receiving half returns zero where it closes the connection. -/
theorem receiveChunkReply_closed {calls : List RecvResult} {count result : UInt32}
    {connection : CaptureConnection D}
    (h : receiveChunkReply calls count connection = (none, result)) : result = 0 := by
  unfold receiveChunkReply at h
  simp only at h
  split_ifs at h
  · exact (Prod.mk.inj h).2.symm
  · exact (Prod.mk.inj h).2.symm
  · cases (Prod.mk.inj h).1

/-- The helper serves a chunk that is alone on its connection as it does when the chunk is
delivered. -/
theorem serve_push {connection : CaptureConnection D} (h : connection.InStep) (env : ServeEnv D)
    (events : List CaptureInputEvent) (state : SendInputState D)
    (hconnection : state.connection =
      some { connection with helper := connection.helper.push (chunkBytes events) }) :
    (state.serve env).connection = some (connection.deliver env.turn (chunkBytes events)) := by
  obtain ⟨helper, inbound⟩ := connection
  obtain ⟨hinbound, hunread⟩ := h
  simp only at hinbound hunread
  subst hinbound
  have hside := side_eq hconnection
  cases helper with
  | ended =>
    unfold SendInputState.serve
    rw [if_pos (by rw [hside]; rfl)]
    exact hconnection
  | serving server authenticated unread =>
    have hnil : unread = [] := hunread
    subst hnil
    have hbytes : chunkBytes events ≠ [] := by
      intro hempty
      have hlength := congrArg List.length hempty
      unfold chunkBytes at hlength
      rw [List.length_append, CaptureRequest.encode_length, CaptureRequest.size,
        List.length_nil] at hlength
      omega
    have hrequest : state.side.unread ≠ [] := by
      rw [hside]
      exact hbytes
    have hreceive : (CaptureSide.serving server authenticated (chunkBytes events)).receive
        env.turn [] = (CaptureSide.serving server authenticated []).receive env.turn
          (chunkBytes events) := by
      show server.serveRequest env.turn authenticated (chunkBytes events ++ []) = _
      rw [List.append_nil]
      rfl
    rw [(serve_connection _ hrequest hconnection).1]
    simp only [CaptureSide.push, List.nil_append]
    unfold CaptureConnection.deliver
    rw [hreceive]
    rfl

/-- The helper leaves a connection in step as it is. -/
theorem serve_inStep {state : SendInputState D} (h : ClosedOrInStep state.connection)
    (env : ServeEnv D) : (state.serve env).connection = state.connection := by
  unfold SendInputState.serve
  split_ifs with hunread
  · rfl
  · cases hconnection : state.connection with
    | none => rfl
    | some connection =>
      rw [side_eq hconnection] at hunread
      exact absurd (h connection hconnection).unread_eq hunread

/-- A call that has given up on a chunk reads no reply. -/
theorem step_receive_giveUp {args : SendInputArgs} {state : SendInputState D} {accepted : Nat}
    (h : state.phase = giveUp args accepted) (calls : List RecvResult) :
    ((sendInputCall args).step state (.receive calls)).1 = state := by
  unfold giveUp at h
  unfold sendInputCall
  split_ifs at h <;> simp only [h]

/-- The hook reads the reply of a delivered chunk. -/
theorem step_receive_await {args : SendInputArgs} {state : SendInputState D}
    {accepted count : Nat} {connection : CaptureConnection D} (calls : List RecvResult)
    (hphase : state.phase = .await accepted count)
    (hconnection : state.connection = some connection) :
    let received := receiveChunkReply calls (UInt32.ofNat count) connection
    let after := ((sendInputCall args).step state (.receive calls)).1
    after.connection = received.1 ∧
      after.phase = afterChunk args accepted count received.2.toNat := by
  intro received after
  have hafter : after = state.receive args calls accepted count := by
    show ((sendInputCall args).step state (.receive calls)).1 = _
    unfold sendInputCall
    simp only [hphase]
  unfold SendInputState.receive at hafter
  rw [hconnection] at hafter
  simp only at hafter
  rcases hreply : receiveChunkReply calls (UInt32.ofNat count) connection with ⟨kept, result⟩
  have hreceived : received = (kept, result) := hreply
  rw [hreply] at hafter
  rw [hreceived]
  cases kept with
  | none =>
    rw [hafter, receiveChunkReply_closed hreply]
    exact ⟨rfl, rfl⟩
  | some kept =>
    rw [hafter]
    exact ⟨rfl, rfl⟩

/-- The hook does not send a chunk, which returns zero, or it awaits the reply to it. -/
theorem send_cases {args : SendInputArgs} {state : SendInputState D} {accepted : Nat}
    (hstep : ClosedOrInStep state.connection) (hmore : accepted < args.inputs.length)
    (env : ChunkEnv D) :
    let count := chunkLength args accepted
    let sent := state.send args env.toChunkSendEnv accepted
    let called := sendInputChunk args.token env ((args.inputs.drop accepted).take count)
      state.connection
    (sent.phase = giveUp args accepted ∧ ClosedOrInStep sent.connection ∧
        called = (sent.connection, 0)) ∨
      ∃ (connection : CaptureConnection D) (events : List CaptureInputEvent),
        connection.InStep ∧ sent.phase = .await accepted count ∧
        sent.connection =
          some { connection with helper := connection.helper.push (chunkBytes events) } ∧
        called = receiveChunkReply env.replyRecv (UInt32.ofNat count)
          (connection.deliver env.turn (chunkBytes events)) := by
  intro count sent called
  have hsent : sent = state.send args env.toChunkSendEnv accepted := rfl
  have hcalled : called = sendInputChunk args.token env ((args.inputs.drop accepted).take
    (chunkLength args accepted)) state.connection := rfl
  unfold SendInputState.send at hsent
  unfold sendInputChunk at hcalled
  simp only at hsent
  rw [if_neg (Nat.not_le.mpr hmore)] at hsent
  cases hchunk : chunkEvents? ((args.inputs.drop accepted).take (chunkLength args accepted)) with
  | none =>
    rw [hchunk] at hsent hcalled
    rw [hsent, hcalled]
    exact Or.inl ⟨rfl, hstep, rfl⟩
  | some events =>
    rw [hchunk] at hsent hcalled
    simp only at hsent hcalled
    have hopened : ClosedOrInStep (openConnection env.connect args.token state.connection) :=
      openConnection_inStep hstep
    cases hopen : openConnection env.connect args.token state.connection with
    | none =>
      rw [hopen] at hsent hcalled
      rw [hsent, hcalled]
      exact Or.inl ⟨rfl, closedOrInStep_none, rfl⟩
    | some connection =>
      rw [hopen] at hsent hcalled
      simp only at hsent hcalled
      by_cases hall : (sendChunk env.toChunkSendEnv events).1 = true
      · rw [if_pos hall, sendChunk_sent hall] at hsent
        rw [if_neg (by simpa using hall), sendChunk_sent hall] at hcalled
        have hcount : events.length = count := by
          rw [(chunkEvents?_eq hchunk).2.1, List.length_take, List.length_drop]
          show min (min _ _) _ = min _ _
          omega
        have hbytes : (inputRequest (UInt32.ofNat count)).encode ++
            CaptureInputEvent.encodeAll events = chunkBytes events := by
          rw [chunkBytes, hcount]
        rw [hcount] at hcalled
        rw [hbytes] at hcalled
        have hconnection : sent.connection =
            some { connection with helper := connection.helper.push (chunkBytes events) } := by
          rw [hsent, ← hbytes]
          rw [hcount]
        have hphase : sent.phase = .await accepted count := by rw [hsent]
        exact Or.inr ⟨connection, events, hopened connection hopen, hphase, hconnection, hcalled⟩
      · rw [if_neg hall] at hsent
        rw [if_pos (by simpa using hall)] at hcalled
        rw [hsent, hcalled]
        exact Or.inl ⟨rfl, closedOrInStep_none, rfl⟩

/-- The three steps of a chunk in their order are one call of `send_input_chunk` and one
turn of the loop. -/
theorem sendInputCall_chunk {args : SendInputArgs} {state : SendInputState D} {accepted : Nat}
    (hphase : state.phase = .chunk accepted) (hstep : ClosedOrInStep state.connection)
    (hmore : accepted < args.inputs.length) (env : ChunkEnv D) (uinputPartial : Bool) :
    let count := chunkLength args accepted
    let called := sendInputChunk args.token env ((args.inputs.drop accepted).take count)
      state.connection
    let after := (sendInputCall args).run state
      [.send env.toChunkSendEnv, .serve ⟨env.turn, uinputPartial⟩, .receive env.replyRecv]
    after.connection = called.1 ∧
      after.phase = afterChunk args accepted count called.2.toNat := by
  intro count called after
  have hafter : after = ((sendInputCall args).step
      ((state.send args env.toChunkSendEnv accepted).serve ⟨env.turn, uinputPartial⟩)
        (.receive env.replyRecv)).1 := by
    have hsend : ((sendInputCall args).step state (.send env.toChunkSendEnv)).1 =
        state.send args env.toChunkSendEnv accepted := by
      unfold sendInputCall
      simp only [hphase]
    rw [← hsend]
    rfl
  rcases send_cases hstep hmore env with
    ⟨hgave, hclosed, hcalled⟩ | ⟨connection, events, hopen, hawait, hpushed, hcalled⟩
  · have hcalledEq : called = _ := hcalled
    rw [hafter, step_receive_giveUp ((serve_phase _ _).trans hgave), hcalledEq]
    exact ⟨serve_inStep hclosed _, (serve_phase _ _).trans hgave⟩
  · have hcalledEq : called = _ := hcalled
    rw [hafter, hcalledEq]
    exact step_receive_await env.replyRecv ((serve_phase _ _).trans hawait)
      (serve_push hopen ⟨env.turn, uinputPartial⟩ events _ hpushed)

/-- Over every run of a call and of the helper no element is injected twice, exactly when
the original is not called after the helper has sent input, and the helper sends no input
for a request that it still holds after the original has been called. -/
theorem injected_once_iff (args : SendInputArgs) {connection : Option (CaptureConnection D)}
    (hconnection : ClosedOrInStep connection) (ops : List (SendInputStep D)) :
    (sendInputCall args).Along (fun _ state op => ¬BothInject args state op) []
        { connection } ops ↔
      (sendInputCall args).Along (fun _ state op => InjectedOnce args state op) []
        { connection } ops := by
  have hunread : ({ connection } : SendInputState D).side.unread = [] :=
    unread_of_chunk hconnection rfl
  have hstart : SendInputState.Inv ({ connection } : SendInputState D) :=
    ⟨List.nodup_nil, nofun, fun _ _ => rfl, nofun, fun _ hrest => absurd hunread hrest,
      Or.inl hunread, Or.inl rfl, hconnection, rfl, nofun, Or.inl rfl⟩
  exact Machine.along_iff (fun _ state => state.Inv)
    (fun _ _ _ h honly => sendInputCall_keeps h honly)
    (fun _ _ op h => injectedOnce_step h op) hstart

end Call

/-- A call with one mouse motion. -/
def motionCall : SendInputArgs := { inputs := [.mouse 1 0 0 1] }

/-- The helper injects the motion, and its reply does not arrive before the timeout. -/
def lostReply : List (SendInputStep Unit) :=
  [.send { connect := { server := openServer } },
    .serve { turn := { send := { events := [], uinputReady := true, uinput := [true] } } },
    .receive [.error],
    .original 1]

/-- The motion is injected by the helper and by the original. -/
theorem lost_reply_injected_twice :
    ¬(sendInputCall motionCall).Along (fun _ state op => InjectedOnce motionCall state op) []
      ({} : SendInputState Unit) lostReply := by
  intro honce
  have hlast : ([0, 0] : List Nat).Nodup := honce.2.2.2.1
  exact absurd hlast (by decide)

theorem motion_call_once_iff :
    (sendInputCall motionCall).Along (fun _ state op => ¬BothInject motionCall state op) []
        ({} : SendInputState Unit) lostReply ↔
      (sendInputCall motionCall).Along (fun _ state op => InjectedOnce motionCall state op) []
        ({} : SendInputState Unit) lostReply :=
  injected_once_iff motionCall closedOrInStep_none lostReply

end UuAmfBridge
