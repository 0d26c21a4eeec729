import UuAmfBridge.Capture.Helper
import UuAmfBridge.Capture.InputOwnership
import UuAmfBridge.Capture.KwinFrame

/-!
# What the capture helper acquires

The threads of `src/wayland_capture_helper.cpp`: `main` starts `server_thread`, and this one
`client_thread` for every connection.  A client has frames captured by `capture_kwin_workspace`
and hands its input to `InputBridge::send`, which all clients share.

The `recv` calls of a request are one use of the descriptor, and so are the `send` calls of a
reply.  What `frame_state.mutex` and `kwin_capture_mutex` protect is memory; a frame request
answers with the frame that its environment gives it.  The start of the portal capture in
`main`, and what runs when the process exits, are left out.

* `captureKwin_spec` and `handleClient_spec`: each program does what its model does, and only
  touches what it owns.
* `capture_resources_kept`: in whatever order the threads take their steps, they only use and
  give back what they own.  Whenever no thread is in `send`, the bridge owns what its pointers
  and descriptors show, and is in a state that a run of the batches one after another reaches.
-/

namespace UuAmfBridge

open Thread ThreadSystem

/-! ## The compositor's frames -/

/-- What `capture_kwin_workspace` meets beside its call: whether the bus has a duplicate of the
write end, and the buffer before it is written. -/
structure KwinEnv where
  call : KwinCall := { results := none, stream := [] }
  duplicate : Bool := true
  pixels : Nat → UInt8 := fun _ => 0

/-- An access lies outside its buffer. -/
def KwinEnv.Faults (env : KwinEnv) : Prop := captureKwin env.call env.pixels {} = none

section Programs

variable {D : Type}

/-- `capture_kwin_workspace` behind `read_exact_fd`. -/
def kwinRowsProgram (env : KwinEnv) (results : KwinResults) (data : List UInt8) :
    CaptureProgram D Bool :=
  match copyKwinRows results (fun i => data.getD i 0) results.height.toNat 0 env.pixels with
  | .fault => .crash
  | .unsupportedFormat => pure false
  | .copied _ => pure true

/-- `capture_kwin_workspace` behind the check of the results. -/
def kwinReadProgram (env : KwinEnv) (reader : Nat) (results : KwinResults) :
    CaptureProgram D Bool := do
  touch (.descriptor, reader)
  let read := recvLoop readExactFd env.call.reads results.rawSize.toNat env.call.stream
  release (.descriptor, reader)
  if read.status ≠ .complete then pure false
  else kwinRowsProgram env results read.data

/-- `capture_kwin_workspace` behind its call. -/
def kwinAnswerProgram (env : KwinEnv) (reader : Nat) :
    Option KwinResults → CaptureProgram D Bool
  | none => do
      release (.descriptor, reader)
      pure false
  | some results =>
      if ¬results.Accepted then do
        release (.descriptor, reader)
        pure false
      else kwinReadProgram env reader results

/-- `capture_kwin_workspace`. -/
def captureKwinProgram (env : KwinEnv) : CaptureProgram D Bool :=
  if env.call.pipe = false then pure false
  else do
    let reader ← take .descriptor
    let writer ← take .descriptor
    touch (.descriptor, writer)
    let descriptor ← allocate .descriptor env.duplicate
    release (.descriptor, writer)
    let captured ← kwinAnswerProgram env reader env.call.results
    giveBack .descriptor descriptor
    pure captured

/-! ## A client -/

/-- What one request meets.  The bridge is the shared one, and the fields of `turn` for it are
not read. -/
structure RequestEnv (D : Type) where
  turn : CaptureEnv D := {}
  kwin : KwinEnv := {}
  bridge : BridgeEnv D := {}

/-- The environment as the models of a connection take it: with the bridge that the request
has met. -/
def RequestEnv.met (env : RequestEnv D) (s : HeldBridge D) (events : List CaptureInputEvent) :
    CaptureEnv D :=
  { env.turn with
    bridge := s.bridge
    send := env.bridge.op s events }

/-- What a connection brings. -/
structure CaptureClient (D : Type) where
  requests : List (RequestEnv D) := []
  stream : List UInt8 := []

variable [DecidableEq D] (server : CaptureServer D)

omit [DecidableEq D] in
/-- The capture that a frame request triggers. -/
def kwinOnRequestProgram (env : KwinEnv) : CaptureProgram D Unit :=
  if server.kwinCaptureOnRequest then do
    let _ ← captureKwinProgram env
    pure ()
  else pure ()

omit [DecidableEq D] in
/-- The branch of a frame request. -/
def answerFrameProgram (env : RequestEnv D) (client : Nat) (rest : List UInt8) :
    CaptureProgram D CaptureTurn := do
  kwinOnRequestProgram server env.kwin
  touch (.descriptor, client)
  pure (server.answerFrame env.turn rest)

/-- The branch of an input request. -/
def answerInputProgram (env : RequestEnv D) (client : Nat) (count : UInt32)
    (body rest : List UInt8) : CaptureProgram D CaptureTurn := do
  let events := CaptureInputEvent.decodeAll count.toNat body
  let batch ← synchronized (sendProgram server.caps server.regions env.bridge events)
  let accepted := UInt32.ofNat batch.accepted
  touch (.descriptor, client)
  let sent := sendAll env.turn.replySend (inputReply accepted count).encode
  pure ⟨[.inject events, .sent sent.sent], if sent.complete then some (true, rest) else none⟩

/-- The answering half of the loop of `handle_client`. -/
def answerRequestProgram (env : RequestEnv D) (client : Nat) (request : CaptureRequest)
    (body rest : List UInt8) : CaptureProgram D CaptureTurn :=
  if request.type = captureAuthRequest then do
    touch (.descriptor, client)
    pure (server.answerAuth env.turn body rest)
  else if request.type = captureRequest then answerFrameProgram server env client rest
  else answerInputProgram server env client request.reserved body rest

/-- One turn of the loop of `handle_client`. -/
def serveRequestProgram (env : RequestEnv D) (client : Nat) (authenticated : Bool)
    (stream : List UInt8) : CaptureProgram D CaptureTurn := do
  touch (.descriptor, client)
  let received := receiveRequest env.turn authenticated stream
  match received.accepted with
  | none => pure ⟨[.received received.header received.body], none⟩
  | some (request, rest) => do
      let answer ← answerRequestProgram server env client request received.body rest
      pure ⟨.received received.header received.body :: answer.events, answer.next⟩

/-- The loop of `handle_client`. -/
def serveRequestsProgram (client : Nat) :
    List (RequestEnv D) → Bool → List UInt8 → CaptureProgram D (List CaptureEvent)
  | [], _, _ => pure []
  | env :: envs, authenticated, stream => do
      let turn ← serveRequestProgram server env client authenticated stream
      match turn.next with
      | none => pure turn.events
      | some (authenticated, rest) => do
          let later ← serveRequestsProgram client envs authenticated rest
          pure (turn.events ++ later)

/-- `client_thread`. -/
def captureClientProgram (script : CaptureClient D) (client : Nat) : CaptureProgram D Unit := do
  let _ ← serveRequestsProgram server client script.requests server.requiredAuthToken.isEmpty
    script.stream
  release (.descriptor, client)

/-! ## The process -/

/-- What `accept` and what follows it bring. -/
inductive CaptureAccept (D : Type) where
  /-- `EINTR`. -/
  | interrupted
  | failed
  /-- A connection: whether its thread can be created, and what it brings. -/
  | connection (created : Bool) (script : CaptureClient D)

/-- How `main` goes on when the server has been started. -/
inductive CaptureMode where
  | testPattern
  /-- `--kwin-screenshot`, with or without the session bus. -/
  | kwinScreenshot (bus : Bool) (env : KwinEnv)
  | portal

/-- What the process meets. -/
structure CaptureStart (D : Type) where
  serverCreated : Bool := true
  mode : CaptureMode := .testPattern
  socket : Bool := true
  listens : Bool := true
  results : List (CaptureAccept D) := []

omit [DecidableEq D] in
/-- What `server_thread` does with a connection. -/
def startClientProgram (created : Bool) (client connection : Nat) : CaptureProgram D Unit :=
  if created then fork (.client client connection) else release (.descriptor, client)

omit [DecidableEq D] in
/-- The loop of `server_thread`; `next` counts the connections. -/
def captureAcceptProgram (listener : Nat) :
    Nat → List (CaptureAccept D) → CaptureProgram D Unit
  | _, [] => release (.descriptor, listener)
  | next, .interrupted :: results => do
      touch (.descriptor, listener)
      captureAcceptProgram listener next results
  | _, .failed :: _ => do
      touch (.descriptor, listener)
      release (.descriptor, listener)
  | next, .connection created _ :: results => do
      touch (.descriptor, listener)
      let client ← take .descriptor
      touch (.descriptor, client)
      startClientProgram created client next
      captureAcceptProgram listener (next + 1) results

omit [DecidableEq D] in
/-- `server_thread`. -/
def serverThreadProgram (start : CaptureStart D) : CaptureProgram D Unit :=
  if !start.socket then pure ()
  else do
    let listener ← take .descriptor
    touch (.descriptor, listener)
    if !start.listens then release (.descriptor, listener)
    else captureAcceptProgram listener 0 start.results

omit [DecidableEq D] in
/-- The end of `main`, before its event loop. -/
def captureModeProgram : CaptureMode → CaptureProgram D Unit
  | .kwinScreenshot true env => do
      let _ ← captureKwinProgram env
      pure ()
  | _ => pure ()

omit [DecidableEq D] in
/-- `main` from `pthread_create` on. -/
def captureMain (start : CaptureStart D) : CaptureProgram D Unit :=
  if !start.serverCreated then pure ()
  else do
    fork .server
    captureModeProgram start.mode

omit [DecidableEq D] in
/-- What the connections bring, in order. -/
def captureScripts (results : List (CaptureAccept D)) : List (CaptureClient D) :=
  results.filterMap fun
    | .connection _ script => some script
    | _ => none

/-- The process of the capture helper.  Between two batches the bridge is in a state that the
batches reach one after another. -/
def captureSystem (start : CaptureStart D) :
    ThreadSystem CaptureKind (HeldBridge D) CaptureThread where
  body
    | .server => serverThreadProgram start
    | .client fd connection =>
        captureClientProgram server ((captureScripts start.results).getD connection {}) fd
  given
    | .server => 0
    | .client fd _ => {(.descriptor, fd)}
  guards s := s.resources
  keeps s := ∃ ops, (inputBridge server.caps server.regions).run {} ops = s.bridge

omit [DecidableEq D] in
/-- The process before its first step. -/
def capturePool (start : CaptureStart D) :
    ThreadPool CaptureKind (HeldBridge D) CaptureThread where
  threads := [captureMain start]
  owner _ := none
  monitor := .free {}

omit [DecidableEq D] in
/-- A capture of the process accesses memory outside its buffers. -/
inductive CaptureStart.Faults (start : CaptureStart D) : Prop where
  | start (env : KwinEnv) (h : start.mode = .kwinScreenshot true env) (hfault : env.Faults)
  | request (hcapture : server.kwinCaptureOnRequest = true) (script : CaptureClient D)
      (hscript : script ∈ captureScripts start.results) (env : RequestEnv D)
      (henv : env ∈ script.requests) (hfault : env.kwin.Faults)

end Programs

/-! ## Each program does what its model does -/

section Specs

variable {D : Type} {system : ThreadSystem CaptureKind (HeldBridge D) CaptureThread}
  {crashes : Prop} {inside : Bool}

/-- `capture_kwin_workspace` returns what its model returns. -/
def KwinEnv.Captured (env : KwinEnv) (captured : Bool) : Prop :=
  ∃ state, captureKwin env.call env.pixels {} = some (captured, state)

theorem kwinRead_spec {env : KwinEnv} {results : KwinResults} (hpipe : env.call.pipe = true)
    (hresults : env.call.results = some results) (haccepted : results.Accepted)
    (hfault : env.Faults → crashes) (reader : Nat) :
    system.Spec crashes inside {(.descriptor, reader)} (kwinReadProgram env reader results)
      env.Captured fun _ => 0 := by
  unfold kwinReadProgram KwinEnv.Captured
  unfold KwinEnv.Faults at hfault
  refine Spec.touch_then (by simp) (Spec.release_then (add_zero _).symm ?_)
  unfold captureKwin at hfault ⊢
  simp only [hpipe, Bool.true_eq_false, if_false, hresults, not_true_eq_false, haccepted] at hfault ⊢
  by_cases hread : (recvLoop readExactFd env.call.reads results.rawSize.toNat
      env.call.stream).status ≠ .complete
  · rw [if_pos hread]
    exact Spec.ret ⟨{}, if_pos hread⟩ rfl
  · rw [if_neg hread] at hfault ⊢
    simp only [if_neg hread]
    unfold kwinRowsProgram
    cases hrows : copyKwinRows results (fun i => (recvLoop readExactFd env.call.reads
        results.rawSize.toNat env.call.stream).data.getD i 0) results.height.toNat 0 env.pixels with
    | fault =>
      rw [hrows] at hfault
      exact Spec.crash (hfault rfl)
    | unsupportedFormat => exact Spec.ret ⟨_, rfl⟩ rfl
    | copied memory => exact Spec.ret ⟨_, rfl⟩ rfl

theorem kwinAnswer_spec {env : KwinEnv} (hpipe : env.call.pipe = true)
    (hfault : env.Faults → crashes) (reader : Nat) :
    system.Spec crashes inside {(.descriptor, reader)}
      (kwinAnswerProgram env reader env.call.results) env.Captured fun _ => 0 := by
  have hpiped : ¬env.call.pipe = false := fun hnone => Bool.false_ne_true (hnone.symm.trans hpipe)
  cases hresults : env.call.results with
  | none =>
    refine Spec.release_then (add_zero _).symm (Spec.ret ⟨{}, ?_⟩ rfl)
    unfold captureKwin
    rw [if_neg hpiped, hresults]
  | some results =>
    unfold kwinAnswerProgram
    by_cases haccepted : results.Accepted
    · simp only [haccepted, not_true_eq_false, if_false]
      exact kwinRead_spec hpipe hresults haccepted hfault reader
    · simp only [haccepted, not_false_eq_true, if_true]
      refine Spec.release_then (add_zero _).symm (Spec.ret ⟨{}, ?_⟩ rfl)
      unfold captureKwin
      rw [if_neg hpiped, hresults]
      exact if_pos haccepted

theorem captureKwin_spec {env : KwinEnv} (hfault : env.Faults → crashes) :
    system.Spec crashes inside 0 (captureKwinProgram env : CaptureProgram D Bool)
      env.Captured fun _ => 0 := by
  unfold captureKwinProgram
  cases hpipe : env.call.pipe with
  | false =>
    refine Spec.ret ⟨{}, ?_⟩ rfl
    unfold captureKwin
    rw [if_pos hpipe]
  | true =>
    refine Spec.take_then fun reader => Spec.take_then fun writer => Spec.touch_then (by simp) ?_
    refine Spec.allocate_then fun descriptor _ => ?_
    have hwhole : target .descriptor descriptor + ({(.descriptor, writer)} +
        ({(.descriptor, reader)} + 0)) =
          ({(.descriptor, writer)} + ({(.descriptor, reader)} + target .descriptor descriptor) :
            Multiset (Resource CaptureKind)) := by
      abel
    refine Spec.release_then hwhole ?_
    refine Spec.bind (kwinAnswer_spec hpipe hfault reader) rfl fun captured hcaptured => ?_
    rw [zero_add]
    exact Spec.giveBack_then (add_zero _).symm (Spec.ret hcaptured rfl)

variable [DecidableEq D] {server : CaptureServer D}

/-- The environments of a connection with the bridges that its requests have met. -/
def MetBy (envs : List (RequestEnv D)) (met : List (CaptureEnv D)) : Prop :=
  List.Forall₂ (fun env turn => ∃ s events, turn = env.met s events) envs met

omit [DecidableEq D] in
theorem metBy_some (envs : List (RequestEnv D)) :
    ∃ met, MetBy envs met := by
  induction envs with
  | nil => exact ⟨[], List.Forall₂.nil⟩
  | cons env envs ih =>
    obtain ⟨met, hmet⟩ := ih
    exact ⟨env.met {} [] :: met, List.Forall₂.cons ⟨{}, [], rfl⟩ hmet⟩

omit [DecidableEq D] in
theorem kwinOnRequest_spec {env : KwinEnv}
    (hfault : server.kwinCaptureOnRequest = true → env.Faults → crashes) :
    system.Spec crashes inside 0 (kwinOnRequestProgram server env) (fun _ => True) fun _ => 0 := by
  unfold kwinOnRequestProgram
  split
  next hcapture =>
    refine Spec.bind (captureKwin_spec (hfault hcapture)) (add_zero _).symm fun _ _ => ?_
    exact Spec.ret trivial rfl
  next => exact Spec.ret trivial rfl

variable {start : CaptureStart D}

omit [DecidableEq D] in
theorem inputBridge_run_append [DecidableEq D] (server : CaptureServer D) (ops : List (SendOp D))
    (op : SendOp D) (bridge : InputBridge D) :
    (inputBridge server.caps server.regions).run bridge (ops ++ [op]) =
      (sendInput server.caps server.regions op
        ((inputBridge server.caps server.regions).run bridge ops)).bridge := by
  induction ops generalizing bridge with
  | nil => rfl
  | cons first ops ih => rw [List.cons_append, Machine.run_cons, Machine.run_cons, ih]

/-- `send` in `mutex_`: some bridge meets the batch, and accepts what its model accepts. -/
theorem synchronizedSend_spec (env : BridgeEnv D) (events : List CaptureInputEvent) :
    (captureSystem server start).Spec crashes false 0
      (synchronized (sendProgram server.caps server.regions env events))
      (fun batch => ∃ s : HeldBridge D, batch.accepted =
        (sendInput server.caps server.regions (env.op s events) s.bridge).accepted)
      fun _ => 0 := by
  refine Spec.synchronized fun s hkeeps => ?_
  rw [zero_add]
  refine (send_spec env events s).consequence fun sent hsent => ⟨?_, (add_zero _).symm⟩
  obtain ⟨hbridge, hbatch⟩ := hsent
  obtain ⟨ops, hops⟩ := hkeeps
  refine ⟨⟨ops ++ [env.op s events], ?_⟩, s, ?_⟩
  · rw [inputBridge_run_append, hops, hbridge]
  · rw [hbatch]
    exact (sendInput_sendDevices server.caps server.regions (env.op s events) env.writes
      s.bridge).1.symm

theorem answerInput_spec (env : RequestEnv D) (client : Nat) (count : UInt32)
    (body rest : List UInt8) :
    (captureSystem server start).Spec crashes false {(.descriptor, client)}
      (answerInputProgram server env client count body rest)
      (fun turn => ∃ s events, turn = server.answerInput (env.met s events) count body rest)
      fun _ => {(.descriptor, client)} := by
  refine Spec.bind (synchronizedSend_spec env.bridge _) (zero_add _).symm fun batch hbatch => ?_
  rw [zero_add]
  obtain ⟨s, haccepted⟩ := hbatch
  refine Spec.touch_then (by simp) (Spec.ret ⟨s, CaptureInputEvent.decodeAll count.toNat body, ?_⟩ rfl)
  rw [haccepted]
  rfl

theorem answerRequest_spec {env : RequestEnv D}
    (hfault : server.kwinCaptureOnRequest = true → env.kwin.Faults → crashes) (client : Nat)
    (request : CaptureRequest) (body rest : List UInt8) :
    (captureSystem server start).Spec crashes false {(.descriptor, client)}
      (answerRequestProgram server env client request body rest)
      (fun turn => ∃ s events, turn = server.answerRequest (env.met s events) request body rest)
      fun _ => {(.descriptor, client)} := by
  unfold answerRequestProgram CaptureServer.answerRequest
  split
  next => exact Spec.touch_then (by simp) (Spec.ret ⟨{}, [], rfl⟩ rfl)
  next =>
    split
    next =>
      refine Spec.bind (kwinOnRequest_spec hfault) (zero_add _).symm fun _ _ => ?_
      rw [zero_add]
      exact Spec.touch_then (by simp) (Spec.ret ⟨{}, [], rfl⟩ rfl)
    next => exact answerInput_spec env client request.reserved body rest

theorem serveRequest_spec {env : RequestEnv D}
    (hfault : server.kwinCaptureOnRequest = true → env.kwin.Faults → crashes) (client : Nat)
    (authenticated : Bool) (stream : List UInt8) :
    (captureSystem server start).Spec crashes false {(.descriptor, client)}
      (serveRequestProgram server env client authenticated stream)
      (fun turn => ∃ s events, turn = server.serveRequest (env.met s events) authenticated stream)
      fun _ => {(.descriptor, client)} := by
  unfold serveRequestProgram CaptureServer.serveRequest
  refine Spec.touch_then (by simp) ?_
  have hreceived : ∀ s events, receiveRequest (env.met s events) authenticated stream =
      receiveRequest env.turn authenticated stream := fun _ _ => rfl
  simp only [hreceived]
  cases haccepted : (receiveRequest env.turn authenticated stream).accepted with
  | none => exact Spec.ret ⟨{}, [], rfl⟩ rfl
  | some accepted =>
    refine Spec.bind (answerRequest_spec hfault client accepted.1 _ accepted.2) (add_zero _).symm
      fun answer hanswer => ?_
    rw [add_zero]
    obtain ⟨s, events, rfl⟩ := hanswer
    exact Spec.ret ⟨s, events, rfl⟩ rfl

theorem serveRequests_spec {envs : List (RequestEnv D)}
    (hfault : server.kwinCaptureOnRequest = true → ∀ env ∈ envs, env.kwin.Faults → crashes)
    (client : Nat) (authenticated : Bool) (stream : List UInt8) :
    (captureSystem server start).Spec crashes false {(.descriptor, client)}
      (serveRequestsProgram server client envs authenticated stream)
      (fun events => ∃ met, MetBy envs met ∧
        events = server.serveRequests met authenticated stream)
      fun _ => {(.descriptor, client)} := by
  induction envs generalizing authenticated stream with
  | nil => exact Spec.ret ⟨[], List.Forall₂.nil, rfl⟩ rfl
  | cons env envs ih =>
    unfold serveRequestsProgram
    have hfirst : server.kwinCaptureOnRequest = true → env.kwin.Faults → crashes :=
      fun hcapture => hfault hcapture env List.mem_cons_self
    have hlater : server.kwinCaptureOnRequest = true → ∀ env ∈ envs, env.kwin.Faults → crashes :=
      fun hcapture env henv => hfault hcapture env (List.mem_cons_of_mem _ henv)
    refine Spec.bind (serveRequest_spec hfirst client authenticated stream) (add_zero _).symm
      fun turn hturn => ?_
    rw [add_zero]
    obtain ⟨s, events, rfl⟩ := hturn
    have hmet : ∀ met, MetBy envs met → MetBy (env :: envs) (env.met s events :: met) :=
      fun met hmet => List.Forall₂.cons ⟨s, events, rfl⟩ hmet
    cases hnext : (server.serveRequest (env.met s events) authenticated stream).next with
    | none =>
      obtain ⟨met, hrest⟩ := metBy_some envs
      refine Spec.ret ⟨_, hmet met hrest, ?_⟩ rfl
      unfold CaptureServer.serveRequests
      simp only [hnext]
    | some next =>
      refine Spec.bind (ih hlater next.1 next.2) (add_zero _).symm fun later hlater => ?_
      rw [add_zero]
      obtain ⟨met, hrest, rfl⟩ := hlater
      refine Spec.ret ⟨_, hmet met hrest, ?_⟩ rfl
      conv_rhs => rw [CaptureServer.serveRequests]
      simp only [hnext]

/-- A connection does what its model does with the bridges that its requests have met, and
leaves its descriptor to `client_thread`, which closes it. -/
theorem captureClient_spec {script : CaptureClient D}
    (hfault : server.kwinCaptureOnRequest = true →
      ∀ env ∈ script.requests, env.kwin.Faults → crashes) (client : Nat) :
    (captureSystem server start).Spec crashes false {(.descriptor, client)}
      (captureClientProgram server script client) (fun _ => True) fun _ => 0 := by
  refine Spec.bind (serveRequests_spec hfault client _ _) (add_zero _).symm fun _ _ => ?_
  rw [add_zero]
  exact Spec.release _

/-! ## The process -/

omit [DecidableEq D] in
theorem startClient_spec [DecidableEq D] (created : Bool) (client connection : Nat) :
    (captureSystem server start).Spec crashes false {(.descriptor, client)}
      (startClientProgram created client connection) (fun _ => True) fun _ => 0 := by
  unfold startClientProgram
  split
  next => exact Spec.fork (CaptureThread.client client connection)
  next => exact Spec.release _

theorem captureAccept_spec (listener : Nat) (results : List (CaptureAccept D)) (next : Nat) :
    (captureSystem server start).Spec crashes false {(.descriptor, listener)}
      (captureAcceptProgram listener next results) (fun _ => True) fun _ => 0 := by
  induction results generalizing next with
  | nil => exact Spec.release _
  | cons result results ih =>
    cases result with
    | interrupted => exact Spec.touch_then (by simp) (ih next)
    | failed => exact Spec.touch_then (by simp) (Spec.release _)
    | connection created script =>
      refine Spec.touch_then (by simp) (Spec.take_then fun client => Spec.touch_then (by simp) ?_)
      refine Spec.bind (startClient_spec created client next) rfl fun _ _ => ?_
      rw [zero_add]
      exact ih (next + 1)

theorem serverThread_spec :
    (captureSystem server start).Spec crashes false 0 (serverThreadProgram start)
      (fun _ => True) fun _ => 0 := by
  unfold serverThreadProgram
  split
  next => exact Spec.ret trivial rfl
  next =>
    refine Spec.take_then fun listener => Spec.touch_then (by simp) ?_
    rw [add_zero]
    split
    next => exact Spec.release _
    next => exact captureAccept_spec listener start.results 0

theorem captureMain_spec :
    (captureSystem server start).Spec (start.Faults server) false 0 (captureMain start)
      (fun _ => True) fun _ => 0 := by
  unfold captureMain
  split
  next => exact Spec.ret trivial rfl
  next =>
    refine Spec.bind (Spec.fork CaptureThread.server) (add_zero _).symm fun _ _ => ?_
    rw [add_zero]
    unfold captureModeProgram
    split
    next env hmode =>
      have hfault : env.Faults → start.Faults server := fun h => .start env hmode h
      refine Spec.bind (captureKwin_spec hfault) (add_zero _).symm fun _ _ => ?_
      exact Spec.ret trivial rfl
    next => exact Spec.ret trivial rfl

theorem captureSystem_verified :
    (captureSystem server start).Verified (start.Faults server) := by
  intro argument
  cases argument with
  | server => exact Spec.owns serverThread_spec
  | client fd connection =>
    refine Spec.owns (captureClient_spec (fun hcapture env henv hfault => ?_) fd)
    rw [List.getD_eq_getElem?_getD] at henv
    cases hscript : (captureScripts start.results)[connection]? with
    | none =>
      rw [hscript] at henv
      cases henv
    | some script =>
      rw [hscript] at henv
      exact .request hcapture script (List.mem_of_getElem? hscript) env henv hfault

end Specs

/-- In whatever order the threads of the capture helper take their steps, they only use and give
back what they own, and a thread that has ended owns nothing.  Whenever no thread is in `send`,
the bridge owns what its pointers and descriptors show, and is in a state that batches one after
another reach; when all threads have ended, nothing else is left.  The process only crashes where
a capture accesses memory outside its buffers. -/
theorem capture_resources_kept {D : Type} [DecidableEq D] (server : CaptureServer D)
    (start : CaptureStart D) (turns : List (Nat × Nat)) :
    let system := captureSystem server start
    let pool := system.machine.run (capturePool start) turns
    system.machine.Along (fun _ pool turn => (system.step turn.1 turn.2 pool).2 = true) []
        (capturePool start) turns ∧
      (∀ i, pool.threads[i]? = some (.ret ()) → ∀ r, pool.owner r ≠ some (.thread i)) ∧
      (∀ s, pool.monitor = .free s →
        (∃ ops, (inputBridge server.caps server.regions).run {} ops = s.bridge) ∧
          s.resources.Nodup ∧ ∀ r, r ∈ s.resources ↔ pool.owner r = some .monitor) ∧
      ((∀ program ∈ pool.threads, program = .ret ()) →
        ∃ s, pool.monitor = .free s ∧ ∀ r, pool.owner r ≠ none ↔ r ∈ s.resources) ∧
      (pool.crashed = true → start.Faults server) := by
  intro system pool
  have hstart : system.Sound (start.Faults server) (capturePool start) :=
    Sound.initial captureMain_spec.owns ⟨[], rfl⟩ rfl
  obtain ⟨horder, hsound⟩ := run_inOrder captureSystem_verified hstart turns
  refine ⟨horder, fun i hi r => hsound.ended hi, fun s hfree => ⟨hsound.keeps s hfree, ?_⟩,
    hsound.all_ended, hsound.crashed⟩
  exact hsound.free s hfree

end UuAmfBridge
