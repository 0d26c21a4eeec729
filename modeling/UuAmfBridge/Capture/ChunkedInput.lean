import Mathlib.Data.List.Forall2
import UuAmfBridge.Capture.InputOnce

/-!
# Input in chunks

`capture_send_input` sends an array of inputs to the helper in chunks of at most 64, one
after the other, and stops at the first chunk that is not accepted as a whole.  A chunk
with an input that is neither of the mouse nor of the keyboard is not sent at all.  Only
when nothing of the first chunk has been accepted is the array left to the original
`SendInput`.

A record of a call says what has gone over the connection: a `ChunkExchange` for each
chunk that is sent, with the count of the reply.

* `sendInputChunk_cases`: what a chunk sends, and the count that it returns.
* `sendInputLoop_returns`: the loop ends, since a turn that is not the last one accepts
  the whole of a chunk.
* `chunked_input_accepted`: the helper has counted the inputs up to the result, or has
  counted none of them and the original has been given all.
-/

namespace UuAmfBridge

section Call

variable {D : Type*} [DecidableEq D]

/-! ## `capture_send_input` -/

/-- `sizeof(INPUT)`. -/
def sizeofInput : Int32 := 40

/-- `ERROR_INVALID_PARAMETER`. -/
def errorInvalidParameter : UInt32 := 87

/-- A chunk that the helper is asked for: the bytes that reach it, whether its reply
arrives and is accepted, and the count in the reply. -/
structure ChunkExchange where
  sent : List UInt8 := []
  answered : Bool := false
  count : Nat := 0

/-- What a call returns, the chunks it has sent, and the arrays it has passed to the
original `SendInput`. -/
structure SendInputRecord where
  result : Nat
  lastError : Option UInt32 := none
  exchanges : List ChunkExchange := []
  originals : List (List HookInput) := []

/-- What a call meets: each `send_input_chunk`, and what the original returns. -/
structure SendInputEnv (D : Type*) where
  chunk : Nat → ChunkEnv D
  original : Nat := 0

/-- The exchange of a `send_input_chunk`, unless it gives up before it connects. -/
def chunkExchanges (token : List UInt8) (env : ChunkEnv D) (inputs : List HookInput)
    (connection : Option (CaptureConnection D)) : List ChunkExchange :=
  match chunkEvents? inputs with
  | none => []
  | some events =>
      match openConnection env.connect token connection with
      | none => [{}]
      | some connection =>
          let sent := sendChunk env.toChunkSendEnv events
          let received := socketRecvAll env.replyRecv CaptureInputReply.size
            (connection.deliver env.turn sent.2).inbound
          let reply := CaptureInputReply.decode received.data
          [{ sent := sent.2
             answered := sent.1 && received.status == .complete &&
               inputReplyAccepted reply (UInt32.ofNat events.length)
             count := reply.acceptedCount.toNat }]

/-- The loop of `capture_send_input`; `none` when it has made `fuel` tests and goes on. -/
def sendInputLoop (args : SendInputArgs) (env : SendInputEnv D) :
    Nat → Nat → Nat → Option (CaptureConnection D) → Option SendInputRecord
  | 0, _, _, _ => none
  | fuel + 1, index, accepted, connection =>
      if args.inputs.length ≤ accepted then some { result := accepted }
      else
        let count := chunkLength args accepted
        let chunk := (args.inputs.drop accepted).take count
        let exchanges := chunkExchanges args.token (env.chunk index) chunk connection
        let called := sendInputChunk args.token (env.chunk index) chunk connection
        let result := called.2.toNat
        if result = 0 then
          if accepted = 0 && args.original then
            some { result := env.original, exchanges, originals := [args.inputs] }
          else some { result := accepted, exchanges }
        else if result ≠ count then some { result := accepted + result, exchanges }
        else
          (sendInputLoop args env fuel (index + 1) (accepted + result) called.1).map fun record =>
            { record with exchanges := exchanges ++ record.exchanges }

/-- `capture_send_input`; `null` says that the array is a null pointer. -/
def captureSendInput (args : SendInputArgs) (null : Bool) (inputSize : Int32)
    (env : SendInputEnv D) (connection : Option (CaptureConnection D)) (fuel : Nat) :
    Option SendInputRecord :=
  if null || inputSize ≠ sizeofInput then
    some { result := 0, lastError := some errorInvalidParameter }
  else sendInputLoop args env fuel 0 0 connection

/-! ## What the helper counts -/

/-- The event has the fields of the input. -/
def HookInput.Carried : HookInput → CaptureInputEvent → Prop
  | .mouse dx dy mouseData flags, event =>
      event.type = captureInputMouse ∧ event.dx = dx ∧ event.dy = dy ∧
        event.mouseData = mouseData ∧ event.flags = flags
  | .keyboard virtualKey scanCode flags, event =>
      event.type = captureInputKeyboard ∧ event.virtualKey = virtualKey ∧
        event.scanCode = scanCode ∧ event.flags = flags
  | .hardware, _ => False

/-- The exchange transmits a piece of the array as these events. -/
structure ChunkExchange.Transmits (exchange : ChunkExchange) (piece : List HookInput)
    (events : List CaptureInputEvent) : Prop where
  sent_eq : exchange.sent = chunkBytes events
  carried : List.Forall₂ HookInput.Carried piece events
  pos : 0 < piece.length
  le : piece.length ≤ 64
  count_le : exchange.count ≤ piece.length

/-- The exchanges transmit consecutive pieces of the inputs, and `counted` are the events
that the helper counts: of each chunk, as many as its reply says. -/
inductive TransmitsPieces :
    List ChunkExchange → List HookInput → List CaptureInputEvent → Prop where
  | nil (inputs : List HookInput) : TransmitsPieces [] inputs []
  | cons {exchange : ChunkExchange} {exchanges : List ChunkExchange}
      {piece inputs : List HookInput} {events counted : List CaptureInputEvent}
      (head : exchange.Transmits piece events)
      (tail : TransmitsPieces exchanges inputs counted) :
      TransmitsPieces (exchange :: exchanges) (piece ++ inputs)
        (events.take exchange.count ++ counted)

/-- Every chunk that is sent is answered. -/
def SendInputRecord.Answered (record : SendInputRecord) : Prop :=
  ∀ exchange ∈ record.exchanges, exchange.answered = true

/-- Nothing of the first chunk is accepted: it is not sent, or the helper counts no event
of it. -/
def SendInputRecord.FirstRefused (record : SendInputRecord) : Prop :=
  ∀ first, record.exchanges.head? = some first → first.count = 0

/-- The array is passed once to the original, which returns `result`, and the helper has
counted nothing. -/
structure SendInputRecord.FallsBack (record : SendInputRecord) (inputs : List HookInput)
    (result : Nat) (counted : List CaptureInputEvent) : Prop where
  originals_eq : record.originals = [inputs]
  result_eq : record.result = result
  counted_eq : counted = []

/-- The helper counts the inputs from `accepted` on up to the result, once and in their
order. -/
structure SendInputRecord.Counts (record : SendInputRecord) (inputs : List HookInput)
    (accepted : Nat) (counted : List CaptureInputEvent) : Prop where
  originals_eq : record.originals = []
  le_result : accepted ≤ record.result
  result_le : record.result ≤ inputs.length
  carried : List.Forall₂ HookInput.Carried
    ((inputs.drop accepted).take (record.result - accepted)) counted

/-- A call that has accepted `accepted` inputs goes on: it falls back if that are none and
nothing of the first chunk is accepted, and otherwise the result is what the helper
counts. -/
structure SendInputRecord.GoesOn (record : SendInputRecord) (args : SendInputArgs)
    (original accepted : Nat) (counted : List CaptureInputEvent) : Prop where
  transmits : TransmitsPieces record.exchanges (args.inputs.drop accepted) counted
  fallsBack : accepted = 0 → args.inputs ≠ [] → record.FirstRefused → args.original = true →
    record.FallsBack args.inputs original counted
  counts : ¬(accepted = 0 ∧ args.inputs ≠ [] ∧ record.FirstRefused ∧ args.original = true) →
    record.Counts args.inputs accepted counted

/-! ## A chunk -/

theorem HookInput.carried_event {input : HookInput} {event : CaptureInputEvent}
    (h : input.event? = some event) : input.Carried event := by
  cases input with
  | mouse dx dy mouseData flags =>
    obtain rfl := Option.some.inj h
    exact ⟨rfl, rfl, rfl, rfl, rfl⟩
  | keyboard virtualKey scanCode flags =>
    obtain rfl := Option.some.inj h
    exact ⟨rfl, rfl, rfl, rfl⟩
  | hardware => cases h

/-- The events of a chunk have the fields of its inputs. -/
theorem carried_of_map {inputs : List HookInput} {events : List CaptureInputEvent}
    (h : inputs.map HookInput.event? = events.map some) :
    List.Forall₂ HookInput.Carried inputs events := by
  induction inputs generalizing events with
  | nil =>
    cases events with
    | nil => exact List.Forall₂.nil
    | cons event events => cases h
  | cons input inputs ih =>
    cases events with
    | nil => cases h
    | cons event events =>
      obtain ⟨hevent, hevents⟩ := List.cons.inj h
      exact List.Forall₂.cons (HookInput.carried_event hevent) (ih hevents)

/-- A chunk is not sent and returns zero, or there is one exchange; and if that is answered
it transmits the chunk, and returns the count of the reply. -/
theorem sendInputChunk_cases (token : List UInt8) (env : ChunkEnv D) (inputs : List HookInput)
    (connection : Option (CaptureConnection D)) :
    (chunkExchanges token env inputs connection = [] ∧
        (sendInputChunk token env inputs connection).2 = 0) ∨
      ∃ exchange, chunkExchanges token env inputs connection = [exchange] ∧
        (exchange.answered = true →
          (sendInputChunk token env inputs connection).2.toNat = exchange.count ∧
            ∃ events, exchange.Transmits inputs events) := by
  unfold chunkExchanges sendInputChunk
  cases hchunk : chunkEvents? inputs with
  | none => exact Or.inl ⟨rfl, rfl⟩
  | some events =>
    refine Or.inr ?_
    cases openConnection env.connect token connection with
    | none => exact ⟨_, rfl, fun hanswered => by cases hanswered⟩
    | some connection =>
      refine ⟨_, rfl, fun hanswered => ?_⟩
      simp only [Bool.and_eq_true, beq_iff_eq] at hanswered
      obtain ⟨⟨hsent, hstatus⟩, hreply⟩ := hanswered
      obtain ⟨hmap, hlength, hpos, hle⟩ := chunkEvents?_eq hchunk
      have hmax : captureMaxInputEvents.toNat = 64 := rfl
      have hcount : (UInt32.ofNat events.length).toNat = events.length :=
        toNat_ofNat_eq (by omega)
      have hbound : (CaptureInputReply.decode (socketRecvAll env.replyRecv CaptureInputReply.size
          (connection.deliver env.turn (sendChunk env.toChunkSendEnv events).2).inbound).data
            ).acceptedCount ≤ UInt32.ofNat events.length := by
        unfold inputReplyAccepted at hreply
        simp only [Bool.and_eq_true, decide_eq_true_eq] at hreply
        exact hreply.2
      constructor
      · simp only [hsent, Bool.not_true, Bool.false_eq_true, if_false]
        unfold receiveChunkReply
        simp only
        rw [if_neg (not_not.mpr hstatus), if_neg (by rw [hreply]; exact Bool.false_ne_true)]
      · refine ⟨events, sendChunk_sent hsent, carried_of_map hmap, by omega, by omega, ?_⟩
        rw [UInt32.le_iff_toNat_le, hcount, hlength] at hbound
        exact hbound

/-! ## The loop -/

/-- The record of a call that ends with a chunk for which `result` has been returned. -/
def lastRecord (args : SendInputArgs) (original accepted result : Nat)
    (exchanges : List ChunkExchange) : SendInputRecord :=
  if result = 0 ∧ accepted = 0 ∧ args.original = true then
    { result := original, exchanges, originals := [args.inputs] }
  else { result := accepted + result, exchanges }

/-- A turn of the loop: it returns, or it goes on behind a chunk that is accepted as a
whole. -/
theorem sendInputLoop_succ (args : SendInputArgs) (env : SendInputEnv D) (fuel index : Nat)
    {accepted : Nat} (hmore : accepted < args.inputs.length)
    (connection : Option (CaptureConnection D)) :
    let count := chunkLength args accepted
    let chunk := (args.inputs.drop accepted).take count
    let exchanges := chunkExchanges args.token (env.chunk index) chunk connection
    let called := sendInputChunk args.token (env.chunk index) chunk connection
    (called.2.toNat ≠ count ∧ sendInputLoop args env (fuel + 1) index accepted connection =
        some (lastRecord args env.original accepted called.2.toNat exchanges)) ∨
      (called.2.toNat = count ∧ sendInputLoop args env (fuel + 1) index accepted connection =
        (sendInputLoop args env fuel (index + 1) (accepted + count) called.1).map fun record =>
          { record with exchanges := exchanges ++ record.exchanges }) := by
  intro count chunk exchanges called
  have hpos : 0 < count := by
    have hmax : captureMaxInputEvents.toNat = 64 := rfl
    show 0 < min _ _
    omega
  have hloop : sendInputLoop args env (fuel + 1) index accepted connection =
      if called.2.toNat = 0 then
        if accepted = 0 && args.original then
          some { result := env.original, exchanges, originals := [args.inputs] }
        else some { result := accepted, exchanges }
      else if called.2.toNat ≠ count then
        some { result := accepted + called.2.toNat, exchanges }
      else
        (sendInputLoop args env fuel (index + 1) (accepted + called.2.toNat) called.1).map
          fun record => { record with exchanges := exchanges ++ record.exchanges } :=
    if_neg (Nat.not_le.mpr hmore)
  rw [hloop]
  unfold lastRecord
  by_cases hzero : called.2.toNat = 0
  · left
    rw [if_pos hzero, hzero]
    refine ⟨by omega, ?_⟩
    simp only [Bool.and_eq_true, decide_eq_true_eq, true_and, Nat.add_zero]
    split_ifs
    · rfl
    · rfl
  · rw [if_neg hzero]
    by_cases hwhole : called.2.toNat = count
    · rw [if_neg (not_not.mpr hwhole), hwhole]
      exact Or.inr ⟨rfl, rfl⟩
    · left
      rw [if_pos hwhole, if_neg fun h => hzero h.1]
      exact ⟨hwhole, rfl⟩

/-- The loop ends: a turn that is not the last one accepts the whole of a chunk. -/
theorem sendInputLoop_returns (args : SendInputArgs) (env : SendInputEnv D) {fuel : Nat}
    (index accepted : Nat) (connection : Option (CaptureConnection D))
    (hfuel : args.inputs.length - accepted < fuel) :
    ∃ record, sendInputLoop args env fuel index accepted connection = some record := by
  induction fuel generalizing index accepted connection with
  | zero => omega
  | succ fuel ih =>
    by_cases hmore : accepted < args.inputs.length
    · rcases sendInputLoop_succ args env fuel index hmore connection with
        ⟨-, hlast⟩ | ⟨-, hnext⟩
      · exact ⟨_, hlast⟩
      · have hpos : 0 < chunkLength args accepted := by
          have hmax : captureMaxInputEvents.toNat = 64 := rfl
          show 0 < min _ _
          omega
        obtain ⟨record, hrecord⟩ :=
          ih (index + 1) (accepted + chunkLength args accepted) _ (by omega)
        rw [hnext, hrecord]
        exact ⟨_, rfl⟩
    · exact ⟨_, if_pos (Nat.not_lt.mp hmore)⟩

/-- More turns do not change what the loop returns. -/
theorem sendInputLoop_mono {args : SendInputArgs} {env : SendInputEnv D} {fuel : Nat}
    {index accepted : Nat} {connection : Option (CaptureConnection D)} {record : SendInputRecord}
    (h : sendInputLoop args env fuel index accepted connection = some record) {more : Nat}
    (hmore : fuel ≤ more) :
    sendInputLoop args env more index accepted connection = some record := by
  induction fuel generalizing more index accepted connection record with
  | zero => cases h
  | succ fuel ih =>
    obtain ⟨more, rfl⟩ : ∃ m, more = m + 1 := ⟨more - 1, by omega⟩
    by_cases hinputs : accepted < args.inputs.length
    · rcases sendInputLoop_succ args env fuel index hinputs connection with
        ⟨hpart, hlast⟩ | ⟨hwhole, hnext⟩
      · rcases sendInputLoop_succ args env more index hinputs connection with
          ⟨-, hlast'⟩ | ⟨hwhole, -⟩
        · rw [hlast', ← hlast, h]
        · exact absurd hwhole hpart
      · rcases sendInputLoop_succ args env more index hinputs connection with
          ⟨hpart, -⟩ | ⟨-, hnext'⟩
        · exact absurd hwhole hpart
        · rw [hnext] at h
          obtain ⟨rest, hrest, rfl⟩ := Option.map_eq_some_iff.mp h
          rw [hnext', ih hrest (by omega)]
          rfl
    · have hdone := Nat.not_lt.mp hinputs
      rw [← h]
      exact (if_pos hdone).trans (if_pos hdone).symm

/-! ## What a call counts -/

section Run

variable {args : SendInputArgs} {accepted : Nat}

theorem chunkLength_bounds (hmore : accepted < args.inputs.length) :
    0 < chunkLength args accepted ∧ accepted + chunkLength args accepted ≤ args.inputs.length := by
  have hmax : captureMaxInputEvents.toNat = 64 := rfl
  have hlength : chunkLength args accepted = min (args.inputs.length - accepted) 64 := rfl
  omega

/-- The inputs from `accepted` on are a chunk and the inputs behind it. -/
theorem chunk_append_drop (args : SendInputArgs) (accepted : Nat) :
    (args.inputs.drop accepted).take (chunkLength args accepted) ++
      args.inputs.drop (accepted + chunkLength args accepted) = args.inputs.drop accepted := by
  rw [← List.drop_drop, List.take_append_drop]

theorem chunk_length (hmore : accepted < args.inputs.length) :
    ((args.inputs.drop accepted).take (chunkLength args accepted)).length =
      chunkLength args accepted := by
  obtain ⟨-, hle⟩ := chunkLength_bounds hmore
  rw [List.length_take, List.length_drop]
  omega

/-- The loop is at its end. -/
theorem goesOn_done (hdone : args.inputs.length ≤ accepted) (hle : accepted ≤ args.inputs.length)
    (original : Nat) :
    SendInputRecord.GoesOn { result := accepted } args original accepted [] where
  transmits := .nil _
  fallsBack := by
    intro hzero hinputs
    rw [hzero] at hdone
    exact absurd (List.length_eq_zero_iff.mp (Nat.le_zero.mp hdone)) hinputs
  counts := by
    intro _
    refine ⟨rfl, le_rfl, hle, ?_⟩
    rw [Nat.sub_self, List.take_zero]
    exact List.Forall₂.nil

/-- The loop leaves the array to the original. -/
theorem goesOn_fallsBack {record : SendInputRecord} {original : Nat}
    {counted : List CaptureInputEvent}
    (htransmits : TransmitsPieces record.exchanges (args.inputs.drop accepted) counted)
    (hzero : accepted = 0) (hmore : accepted < args.inputs.length) (hrefused : record.FirstRefused)
    (horiginal : args.original = true) (hfalls : record.FallsBack args.inputs original counted) :
    record.GoesOn args original accepted counted where
  transmits := htransmits
  fallsBack := fun _ _ _ _ => hfalls
  counts := by
    intro hkept
    have hinputs : args.inputs ≠ [] := by
      rintro hnil
      rw [hnil] at hmore
      exact absurd hmore (Nat.not_lt_zero _)
    exact absurd ⟨hzero, hinputs, hrefused, horiginal⟩ hkept

/-- The loop ends with a chunk of which the helper counts `part` inputs. -/
theorem goesOn_part {record : SendInputRecord} {original part : Nat}
    {events : List CaptureInputEvent} (hmore : accepted < args.inputs.length)
    (hpart : part ≤ chunkLength args accepted)
    (htransmits : TransmitsPieces record.exchanges (args.inputs.drop accepted) (events.take part))
    (hcarried : List.Forall₂ HookInput.Carried
      ((args.inputs.drop accepted).take part) (events.take part))
    (horiginals : record.originals = []) (hresult : record.result = accepted + part)
    (hkept : ¬(accepted = 0 ∧ record.FirstRefused ∧ args.original = true)) :
    record.GoesOn args original accepted (events.take part) where
  transmits := htransmits
  fallsBack := fun hzero _ hrefused horiginal => absurd ⟨hzero, hrefused, horiginal⟩ hkept
  counts := by
    intro _
    obtain ⟨-, hle⟩ := chunkLength_bounds hmore
    refine ⟨horiginals, by omega, by omega, ?_⟩
    rw [hresult, Nat.add_sub_cancel_left]
    exact hcarried

/-- The inputs that the helper counts of an answered chunk. -/
theorem ChunkExchange.Transmits.carried_take {exchange : ChunkExchange}
    {events : List CaptureInputEvent}
    (h : exchange.Transmits ((args.inputs.drop accepted).take (chunkLength args accepted)) events)
    (hmore : accepted < args.inputs.length) :
    exchange.count ≤ chunkLength args accepted ∧
      List.Forall₂ HookInput.Carried ((args.inputs.drop accepted).take exchange.count)
        (events.take exchange.count) := by
  have hle : exchange.count ≤ chunkLength args accepted := by
    have hcount := h.count_le
    rwa [chunk_length hmore] at hcount
  have htake := List.forall₂_take exchange.count h.carried
  rw [List.take_take, Nat.min_eq_left hle] at htake
  exact ⟨hle, htake⟩

/-- The loop ends with a chunk that is not sent. -/
theorem goesOn_unsent (hmore : accepted < args.inputs.length) (original : Nat) :
    (lastRecord args original accepted 0 []).GoesOn args original accepted [] := by
  have hrefused : ∀ record : SendInputRecord, record.exchanges = [] → record.FirstRefused := by
    intro record hnone first hfirst
    rw [hnone] at hfirst
    cases hfirst
  unfold lastRecord
  by_cases hfalls : 0 = 0 ∧ accepted = 0 ∧ args.original = true
  · rw [if_pos hfalls]
    exact goesOn_fallsBack (.nil _) hfalls.2.1 hmore (hrefused _ rfl) hfalls.2.2 ⟨rfl, rfl, rfl⟩
  · rw [if_neg hfalls]
    refine @goesOn_part _ _ _ _ 0 [] hmore (Nat.zero_le _) (.nil _) List.Forall₂.nil rfl rfl ?_
    rintro ⟨hstart, -, horiginal⟩
    exact hfalls ⟨rfl, hstart, horiginal⟩

/-- The loop ends with a chunk that is answered. -/
theorem goesOn_answered {exchange : ChunkExchange} {events : List CaptureInputEvent}
    (htransmits : exchange.Transmits
      ((args.inputs.drop accepted).take (chunkLength args accepted)) events)
    (hmore : accepted < args.inputs.length) (original : Nat) :
    (lastRecord args original accepted exchange.count [exchange]).GoesOn args original accepted
      (events.take exchange.count) := by
  obtain ⟨hle, hcarried⟩ := htransmits.carried_take hmore
  have hpieces : TransmitsPieces [exchange] (args.inputs.drop accepted)
      (events.take exchange.count) := by
    have htail := TransmitsPieces.cons htransmits
      (.nil (args.inputs.drop (accepted + chunkLength args accepted)))
    rwa [chunk_append_drop, List.append_nil] at htail
  unfold lastRecord
  by_cases hfalls : exchange.count = 0 ∧ accepted = 0 ∧ args.original = true
  · rw [if_pos hfalls]
    refine goesOn_fallsBack hpieces hfalls.2.1 hmore ?_ hfalls.2.2 ⟨rfl, rfl, ?_⟩
    · intro first hfirst
      obtain rfl := Option.some.inj hfirst
      exact hfalls.1
    · rw [hfalls.1, List.take_zero]
  · rw [if_neg hfalls]
    refine goesOn_part hmore hle hpieces hcarried rfl rfl ?_
    rintro ⟨hstart, hrefused, horiginal⟩
    exact hfalls ⟨hrefused exchange rfl, hstart, horiginal⟩

/-- The last turn of the loop. -/
theorem goesOn_last {env : SendInputEnv D} {index : Nat}
    {connection : Option (CaptureConnection D)} {record : SendInputRecord}
    (hmore : accepted < args.inputs.length)
    (hrecord : let chunk := (args.inputs.drop accepted).take (chunkLength args accepted)
      record = lastRecord args env.original accepted
        (sendInputChunk args.token (env.chunk index) chunk connection).2.toNat
          (chunkExchanges args.token (env.chunk index) chunk connection))
    (hanswered : record.Answered) :
    ∃ counted, record.GoesOn args env.original accepted counted := by
  simp only at hrecord
  have hexchanges : ∀ result exchanges,
      (lastRecord args env.original accepted result exchanges).exchanges = exchanges := by
    intro result exchanges
    unfold lastRecord
    split_ifs
    · rfl
    · rfl
  rcases sendInputChunk_cases args.token (env.chunk index)
      ((args.inputs.drop accepted).take (chunkLength args accepted)) connection with
    ⟨hnone, hcalled⟩ | ⟨exchange, hone, hexchange⟩
  · have hzero : (0 : UInt32).toNat = 0 := rfl
    rw [hrecord, hnone, hcalled, hzero]
    exact ⟨_, goesOn_unsent hmore env.original⟩
  · rw [hone] at hrecord
    obtain ⟨hcount, events, htransmits⟩ := hexchange (hanswered exchange (by
      rw [hrecord, hexchanges]
      exact List.mem_singleton_self exchange))
    rw [hrecord, hcount]
    exact ⟨_, goesOn_answered htransmits hmore env.original⟩

/-- A turn of the loop that accepts the whole of its chunk. -/
theorem goesOn_next {env : SendInputEnv D} {index : Nat}
    {connection : Option (CaptureConnection D)} {rest : SendInputRecord}
    {counted : List CaptureInputEvent} (hmore : accepted < args.inputs.length)
    (hwhole : (sendInputChunk args.token (env.chunk index)
      ((args.inputs.drop accepted).take (chunkLength args accepted)) connection).2.toNat =
        chunkLength args accepted)
    (hanswered : ∀ exchange ∈ chunkExchanges args.token (env.chunk index)
      ((args.inputs.drop accepted).take (chunkLength args accepted)) connection,
        exchange.answered = true)
    (hrest : rest.GoesOn args env.original (accepted + chunkLength args accepted) counted) :
    ∃ counted', SendInputRecord.GoesOn
      { rest with
        exchanges := chunkExchanges args.token (env.chunk index)
          ((args.inputs.drop accepted).take (chunkLength args accepted)) connection ++
            rest.exchanges } args env.original accepted counted' := by
  obtain ⟨hpos, hinside⟩ := chunkLength_bounds hmore
  have hcounts := hrest.counts fun h => by omega
  rcases sendInputChunk_cases args.token (env.chunk index)
      ((args.inputs.drop accepted).take (chunkLength args accepted)) connection with
    ⟨-, hcalled⟩ | ⟨exchange, hone, hexchange⟩
  · rw [hcalled] at hwhole
    exact absurd hwhole (Nat.ne_of_lt hpos)
  · rw [hone] at hanswered ⊢
    obtain ⟨hcount, events, htransmits⟩ :=
      hexchange (hanswered exchange (List.mem_singleton_self exchange))
    have hsame : exchange.count = chunkLength args accepted := hcount.symm.trans hwhole
    obtain ⟨-, hcarried⟩ := htransmits.carried_take hmore
    have hpieces := TransmitsPieces.cons htransmits hrest.transmits
    rw [chunk_append_drop] at hpieces
    refine ⟨events.take exchange.count ++ counted, hpieces, ?_, ?_⟩
    · intro _ _ hrefused _
      have hzero := hrefused exchange rfl
      omega
    · intro _
      obtain ⟨horiginals, hle, hresult, htail⟩ := hcounts
      refine ⟨horiginals, le_trans (Nat.le_add_right _ _) hle, hresult, ?_⟩
      have hsplit : rest.result - accepted =
          exchange.count + (rest.result - (accepted + exchange.count)) := by omega
      show List.Forall₂ _ ((args.inputs.drop accepted).take (rest.result - accepted)) _
      rw [hsplit, List.take_add, List.drop_drop]
      rw [← hsame] at htail
      exact List.rel_append hcarried htail

/-- What a run of the loop counts. -/
theorem sendInputLoop_goesOn {env : SendInputEnv D} {fuel index : Nat}
    {connection : Option (CaptureConnection D)} {record : SendInputRecord}
    (hle : accepted ≤ args.inputs.length)
    (h : sendInputLoop args env fuel index accepted connection = some record)
    (hanswered : record.Answered) :
    ∃ counted, record.GoesOn args env.original accepted counted := by
  induction fuel generalizing index accepted connection record with
  | zero => cases h
  | succ fuel ih =>
    by_cases hmore : accepted < args.inputs.length
    · rcases sendInputLoop_succ args env fuel index hmore connection with
        ⟨-, hlast⟩ | ⟨hwhole, hnext⟩
      · rw [h] at hlast
        exact goesOn_last hmore (Option.some.inj hlast) hanswered
      · rw [h] at hnext
        obtain ⟨rest, hrest, rfl⟩ := Option.map_eq_some_iff.mp hnext.symm
        obtain ⟨counted, hgoesOn⟩ := ih (chunkLength_bounds hmore).2 hrest
          fun exchange hmem => hanswered exchange (List.mem_append_right _ hmem)
        exact goesOn_next hmore hwhole
          (fun exchange hmem => hanswered exchange (List.mem_append_left _ hmem)) hgoesOn
    · have hdone := Nat.not_lt.mp hmore
      obtain rfl := Option.some.inj (h.symm.trans (if_pos hdone))
      exact ⟨[], goesOn_done hdone hle env.original⟩

end Run

/-- The answered chunks of a call are consecutive pieces of the array, from its beginning.
When nothing of the first chunk is accepted, the array is passed to the original; otherwise
the helper counts the inputs up to the result, each once and in their order. -/
structure SendInputRecord.AcceptsPrefix (record : SendInputRecord) (args : SendInputArgs)
    (original : Nat) (counted : List CaptureInputEvent) : Prop where
  transmits : TransmitsPieces record.exchanges args.inputs counted
  fallsBack : args.inputs ≠ [] → record.FirstRefused → args.original = true →
    record.FallsBack args.inputs original counted
  counts : ¬(args.inputs ≠ [] ∧ record.FirstRefused ∧ args.original = true) →
    record.originals = [] ∧ record.result ≤ args.inputs.length ∧
      List.Forall₂ HookInput.Carried (args.inputs.take record.result) counted

/-- Every call returns, and if each chunk that it sends is answered, its result is the
number of inputs that the helper counts, or it has fallen back to the original. -/
theorem chunked_input_accepted (args : SendInputArgs) (env : SendInputEnv D)
    (connection : Option (CaptureConnection D)) :
    ∃ record, (∀ fuel, args.inputs.length < fuel →
        captureSendInput args false sizeofInput env connection fuel = some record) ∧
      (record.Answered → ∃ counted, record.AcceptsPrefix args env.original counted) := by
  have hvalid : ¬(false || decide (sizeofInput ≠ sizeofInput)) = true := by decide
  obtain ⟨record, hrecord⟩ := sendInputLoop_returns args env 0 0 connection
    (Nat.lt_succ_self (args.inputs.length - 0))
  refine ⟨record, fun fuel hfuel => ?_, fun hanswered => ?_⟩
  · exact (if_neg hvalid).trans (sendInputLoop_mono hrecord hfuel)
  · obtain ⟨counted, htransmits, hfallsBack, hcounts⟩ :=
      sendInputLoop_goesOn (Nat.zero_le _) hrecord hanswered
    refine ⟨counted, htransmits, hfallsBack rfl, fun hkept => ?_⟩
    obtain ⟨horiginals, -, hresult, hcarried⟩ := hcounts fun h => hkept h.2
    exact ⟨horiginals, hresult, hcarried⟩

end Call

/-- The two mouse motions of the streamer's test. -/
def runInput : SendInputArgs := { inputs := [.mouse 1 0 0 1, .mouse (-1) 0 0 1] }

/-- A helper that accepts what `uinput` takes. -/
def runInputEnv (uinput : List Bool) : SendInputEnv Unit where
  chunk _ :=
    { connect := { server := openServer }
      turn := { send := { events := [], uinputReady := true, uinput } } }

/-- The helper accepts the first of them. -/
theorem first_motion_accepted :
    ∃ record, captureSendInput runInput false sizeofInput (runInputEnv [true, false]) none 3 =
        some record ∧ record.result = 1 ∧
      ∃ counted, record.AcceptsPrefix runInput (runInputEnv [true, false]).original counted := by
  obtain ⟨record, hreturns, hprefix⟩ :=
    chunked_input_accepted runInput (runInputEnv [true, false]) none
  have hrecord := hreturns 3 (by decide)
  have hcomputed : (captureSendInput runInput false sizeofInput (runInputEnv [true, false]) none
      3).map (fun record => (record.result, record.exchanges.map ChunkExchange.answered)) =
        some (1, [true]) := by decide
  rw [hrecord] at hcomputed
  obtain ⟨hresult, hanswered⟩ := Prod.mk.inj (Option.some.inj hcomputed)
  refine ⟨record, hrecord, hresult, hprefix fun exchange hmem => ?_⟩
  have hone : exchange.answered ∈ record.exchanges.map ChunkExchange.answered :=
    List.mem_map.mpr ⟨exchange, hmem, rfl⟩
  rw [hanswered] at hone
  exact List.mem_singleton.mp hone

end UuAmfBridge
