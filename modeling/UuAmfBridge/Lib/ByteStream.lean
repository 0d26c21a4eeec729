import Mathlib.Data.List.Basic

/-!
# Reading and writing an ordered stream in pieces

`recvLoop` is the loop of every `recv_all` of the program: it calls `recv`
until the requested number of elements has arrived, and gives up at the first
call that brings nothing.  `sendLoop` is the loop of every `send_all`.

What the calls bring is a script: a list with one entry for each call.  Past
the end of the script the stream is undisturbed, so the empty script is the
case of one call that returns everything.  A script describes how the stream
is split, interrupted calls, a closed stream, an error and a timeout.

* `recvLoop_data_append_rest`: nothing of the stream is lost or reordered.
* `recvLoop_complete_iff_length`: the loop reports success exactly when it has
  taken the requested number of elements.
* `recvLoop_eq_of_undisturbed` and `sendLoop_eq_of_undisturbed`: a script
  without failures delivers everything, however it splits the stream.
-/

namespace UuAmfBridge

variable {α : Type*}

/-! ## Reading -/

/-- What one call of `recv` brings. -/
inductive RecvResult where
  /-- At most `extra + 1` elements; at least one when one is there. -/
  | got (extra : Nat)
  /-- The call is interrupted by a signal. -/
  | interrupted
  /-- The peer has closed the stream. -/
  | closed
  /-- The call fails or times out. -/
  | error
  deriving Repr, DecidableEq

/-- How a read loop ends. -/
inductive RecvStatus where
  | complete
  | closed
  | error
  deriving Repr, DecidableEq

/-- The end of a read loop: its status, what it has stored, and what is left
on the stream. -/
structure RecvOutcome (α : Type*) where
  status : RecvStatus
  data : List α
  rest : List α
  deriving Repr, DecidableEq

/-- How a read loop calls `recv`: the largest size it asks for in one call, and
whether it calls again after an interrupted call. -/
structure RecvStyle where
  maxChunk : Nat
  retryInterrupted : Bool
  maxChunk_pos : 0 < maxChunk

/-- Call `recv` until `size` elements have arrived or a call brings nothing. -/
def recvLoop (style : RecvStyle) : List RecvResult → Nat → List α → RecvOutcome α
  | _, 0, stream => ⟨.complete, [], stream⟩
  | [], size + 1, stream =>
      if size + 1 ≤ stream.length then
        ⟨.complete, stream.take (size + 1), stream.drop (size + 1)⟩
      else ⟨.error, stream, []⟩
  | .got extra :: calls, size + 1, stream =>
      let count := min (extra + 1) (min (min (size + 1) style.maxChunk) stream.length)
      -- An empty stream makes the call block until it times out.
      if count = 0 then ⟨.error, [], stream⟩
      else
        let next := recvLoop style calls (size + 1 - count) (stream.drop count)
        ⟨next.status, stream.take count ++ next.data, next.rest⟩
  | .interrupted :: calls, size + 1, stream =>
      if style.retryInterrupted then recvLoop style calls (size + 1) stream
      else ⟨.error, [], stream⟩
  | .closed :: _, _ + 1, stream => ⟨.closed, [], stream⟩
  | .error :: _, _ + 1, stream => ⟨.error, [], stream⟩

/-- The calls of a script that let a loop of this style go on. -/
def RecvResult.Undisturbed (style : RecvStyle) : RecvResult → Prop
  | .got _ => True
  | .interrupted => style.retryInterrupted = true
  | .closed | .error => False

variable (style : RecvStyle)

@[simp] theorem recvLoop_zero (calls : List RecvResult) (stream : List α) :
    recvLoop style calls 0 stream = ⟨.complete, [], stream⟩ := by
  cases calls <;> simp [recvLoop]

/-- What the loop stores, followed by what it leaves, is the stream. -/
theorem recvLoop_data_append_rest (calls : List RecvResult) (size : Nat)
    (stream : List α) :
    (recvLoop style calls size stream).data ++
      (recvLoop style calls size stream).rest = stream := by
  induction calls generalizing size stream with
  | nil =>
    cases size with
    | zero => simp
    | succ size =>
      simp only [recvLoop]
      split_ifs <;> simp
  | cons call calls ih =>
    cases size with
    | zero => simp
    | succ size =>
      cases call with
      | got extra =>
        simp only [recvLoop]
        split_ifs
        · simp
        · simp [ih]
      | interrupted =>
        simp only [recvLoop]
        split_ifs
        · exact ih _ _
        · simp
      | closed => simp [recvLoop]
      | error => simp [recvLoop]

/-- The loop never stores more than it was asked for. -/
theorem recvLoop_length_le (calls : List RecvResult) (size : Nat)
    (stream : List α) :
    (recvLoop style calls size stream).data.length ≤ size ∧
      ((recvLoop style calls size stream).status = .complete ↔
        (recvLoop style calls size stream).data.length = size) := by
  induction calls generalizing size stream with
  | nil =>
    cases size with
    | zero => simp
    | succ size =>
      simp only [recvLoop]
      split_ifs with hlen
      · simp [hlen]
      · simp only [false_iff]; omega
  | cons call calls ih =>
    cases size with
    | zero => simp
    | succ size =>
      cases call with
      | got extra =>
        simp only [recvLoop]
        split_ifs with hcount
        · simp
        · obtain ⟨hle, hiff⟩ := ih
            (size + 1 - min (extra + 1) (min (min (size + 1) style.maxChunk) stream.length))
            (stream.drop (min (extra + 1) (min (min (size + 1) style.maxChunk) stream.length)))
          rw [hiff]
          simp only [List.length_append, List.length_take]
          omega
      | interrupted =>
        simp only [recvLoop]
        split_ifs
        · exact ih _ _
        · simp
      | closed => simp [recvLoop]
      | error => simp [recvLoop]

/-- The loop reports success exactly when it has stored `size` elements. -/
theorem recvLoop_complete_iff_length (calls : List RecvResult) (size : Nat)
    (stream : List α) :
    (recvLoop style calls size stream).status = .complete ↔
      (recvLoop style calls size stream).data.length = size :=
  (recvLoop_length_le style calls size stream).2

variable {style}

/-- A successful loop has stored the first `size` elements of the stream and
leaves the others. -/
theorem recvLoop_eq_of_complete {calls : List RecvResult} {size : Nat}
    {stream : List α}
    (h : (recvLoop style calls size stream).status = .complete) :
    recvLoop style calls size stream =
      ⟨.complete, stream.take size, stream.drop size⟩ := by
  have happend := recvLoop_data_append_rest style calls size stream
  have hlen := (recvLoop_complete_iff_length style calls size stream).mp h
  generalize recvLoop style calls size stream = outcome at *
  obtain ⟨status, data, rest⟩ := outcome
  simp only at h happend hlen
  subst h hlen happend
  simp

/-- A successful loop was given enough elements. -/
theorem le_length_of_recvLoop_complete {calls : List RecvResult} {size : Nat}
    {stream : List α}
    (h : (recvLoop style calls size stream).status = .complete) :
    size ≤ stream.length := by
  have hlen := (recvLoop_complete_iff_length style calls size stream).mp h
  rw [← recvLoop_data_append_rest style calls size stream,
    List.length_append]
  omega

/-- A loop that fails on a stream with enough elements leaves some of the
requested ones behind. -/
theorem recvLoop_rest_ne_nil_of_not_complete {calls : List RecvResult}
    {size : Nat} {stream : List α} (hlen : size ≤ stream.length)
    (h : (recvLoop style calls size stream).status ≠ .complete) :
    (recvLoop style calls size stream).rest ≠ [] := by
  intro hrest
  have happend := recvLoop_data_append_rest style calls size stream
  have hle := (recvLoop_length_le style calls size stream).1
  rw [hrest, List.append_nil] at happend
  refine h ((recvLoop_complete_iff_length style calls size stream).mpr ?_)
  rw [happend] at hle ⊢
  omega

/-- A script without failures delivers every element that is there, however it
splits the stream. -/
theorem recvLoop_eq_of_undisturbed {calls : List RecvResult} {size : Nat}
    {stream : List α} (hcalls : ∀ call ∈ calls, call.Undisturbed style)
    (hlen : size ≤ stream.length) :
    recvLoop style calls size stream =
      ⟨.complete, stream.take size, stream.drop size⟩ := by
  apply recvLoop_eq_of_complete
  induction calls generalizing size stream with
  | nil =>
    cases size with
    | zero => simp
    | succ size => simp [recvLoop, hlen]
  | cons call calls ih =>
    have hrest : ∀ call ∈ calls, call.Undisturbed style :=
      fun c hc => hcalls c (List.mem_cons_of_mem _ hc)
    have hcall : call.Undisturbed style := hcalls call List.mem_cons_self
    cases size with
    | zero => simp
    | succ size =>
      cases call with
      | got extra =>
        have hpos := style.maxChunk_pos
        simp only [recvLoop]
        rw [if_neg (by omega)]
        exact ih hrest (by rw [List.length_drop]; omega)
      | interrupted =>
        have hretry : style.retryInterrupted = true := hcall
        simp only [recvLoop, if_pos hretry]
        exact ih hrest hlen
      | closed => exact hcall.elim
      | error => exact hcall.elim

/-! ## Writing -/

/-- What one call of `send` does. -/
inductive SendResult where
  /-- At most `extra + 1` elements are accepted. -/
  | accepted (extra : Nat)
  /-- The call is interrupted by a signal. -/
  | interrupted
  /-- The call fails or times out. -/
  | error
  deriving Repr, DecidableEq

/-- The end of a write loop: whether it has written everything, and what it
has written. -/
structure SendOutcome (α : Type*) where
  complete : Bool
  sent : List α
  deriving Repr, DecidableEq

/-- Call `send` until everything is written or a call fails. -/
def sendLoop (retryInterrupted : Bool) :
    List SendResult → List α → SendOutcome α
  | _, [] => ⟨true, []⟩
  | [], data => ⟨true, data⟩
  | .accepted extra :: calls, data =>
      let next := sendLoop retryInterrupted calls (data.drop (extra + 1))
      ⟨next.complete, data.take (extra + 1) ++ next.sent⟩
  | .interrupted :: calls, data =>
      if retryInterrupted then sendLoop retryInterrupted calls data
      else ⟨false, []⟩
  | .error :: _, _ => ⟨false, []⟩

/-- The calls of a script that let a write loop go on. -/
def SendResult.Undisturbed (retryInterrupted : Bool) : SendResult → Prop
  | .accepted _ => True
  | .interrupted => retryInterrupted = true
  | .error => False

variable {retry : Bool}

@[simp] theorem sendLoop_nil (calls : List SendResult) :
    sendLoop retry calls ([] : List α) = ⟨true, []⟩ := by
  cases calls <;> rfl

/-- A write loop that reports success has written everything. -/
theorem sendLoop_sent_of_complete {calls : List SendResult} {data : List α}
    (h : (sendLoop retry calls data).complete = true) :
    (sendLoop retry calls data).sent = data := by
  induction calls generalizing data with
  | nil => cases data <;> rfl
  | cons call calls ih =>
    cases data with
    | nil => simp
    | cons x data =>
      cases call with
      | accepted extra =>
        simp only [sendLoop] at h ⊢
        rw [ih h, List.take_append_drop]
      | interrupted =>
        simp only [sendLoop] at h ⊢
        split_ifs at h ⊢
        exact ih h
      | error => simp [sendLoop] at h

/-- What a write loop has written is the beginning of the data, and less than
all of it when the loop fails. -/
theorem sendLoop_sent_begins (retry : Bool) (calls : List SendResult) (data : List α) :
    (sendLoop retry calls data).sent <+: data ∧
      ((sendLoop retry calls data).complete = false →
        (sendLoop retry calls data).sent.length < data.length) := by
  induction calls generalizing data with
  | nil => cases data <;> simp [sendLoop]
  | cons call calls ih =>
    cases data with
    | nil => simp
    | cons x data =>
      cases call with
      | accepted extra =>
        obtain ⟨hbegins, hshort⟩ := ih ((x :: data).drop (extra + 1))
        obtain ⟨rest, hrest⟩ := hbegins
        unfold sendLoop
        constructor
        · refine ⟨rest, ?_⟩
          rw [List.append_assoc, hrest, List.take_append_drop]
        · intro hfail
          have hlt := hshort hfail
          rw [List.length_drop] at hlt
          rw [List.length_append, List.length_take]
          omega
      | interrupted =>
        unfold sendLoop
        split_ifs
        · exact ih (x :: data)
        · exact ⟨List.nil_prefix, fun _ => Nat.succ_pos _⟩
      | error => exact ⟨List.nil_prefix, fun _ => Nat.succ_pos _⟩

/-- A script without failures writes everything, however it splits it. -/
theorem sendLoop_eq_of_undisturbed {calls : List SendResult} {data : List α}
    (hcalls : ∀ call ∈ calls, call.Undisturbed retry) :
    sendLoop retry calls data = ⟨true, data⟩ := by
  induction calls generalizing data with
  | nil => cases data <;> rfl
  | cons call calls ih =>
    have hrest : ∀ call ∈ calls, call.Undisturbed retry :=
      fun c hc => hcalls c (List.mem_cons_of_mem _ hc)
    have hcall : call.Undisturbed retry := hcalls call List.mem_cons_self
    cases data with
    | nil => simp
    | cons x data =>
      cases call with
      | accepted extra => simp [sendLoop, ih hrest]
      | interrupted =>
        have hretry : retry = true := hcall
        simp only [sendLoop, if_pos hretry]
        exact ih hrest
      | error => exact hcall.elim

end UuAmfBridge
