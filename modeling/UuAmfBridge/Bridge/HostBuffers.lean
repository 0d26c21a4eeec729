import UuAmfBridge.Bridge.Component

/-!
# Host buffers

The objects behind `AMFBuffer` in `src/amfrt_bridge.c`.  `buffer_create` makes them for
`context_alloc_buffer`, for `context_buffer_host` and for the packets of both encoders, and
`buffer_set_size` resizes them.

A pointer is the block of bytes it points to, or nothing.  What the allocator answers and
what fresh bytes hold comes from the environment of the call.

`context_alloc_buffer` has no bytes to give, and `buffer_create` copies all the same: a
`memcpy` from a null pointer.  `buffers_hold_iff` says that nothing else goes wrong.
-/

namespace UuAmfBridge

/-- `AMF_MEMORY_TYPE`, as far as the context tells types apart. -/
inductive AMFMemoryType where
  | host
  | dx11
  | other
  deriving Repr, DecidableEq

/-- `BridgeBuffer` with the storage behind its `data`. -/
structure HostBuffer where
  data : Option (List UInt8) := none
  size : UInt64 := 0
  pts : Int64
  duration : Int64
  deriving Repr, DecidableEq

/-- The bytes that `data` points to; a null pointer has none. -/
def HostBuffer.storage (buffer : HostBuffer) : List UInt8 := buffer.data.getD []

/-- The buffer reports the bytes it has. -/
def HostBuffer.Valid (buffer : HostBuffer) : Prop := buffer.storage.length = buffer.size.toNat

/-! ## Creating and resizing -/

/-- Whether the two allocations of `buffer_create` succeed. -/
structure CreateEnv where
  calloc : Bool
  malloc : Bool

/-- The way `buffer_create` ends. -/
inductive BufferCreated where
  | outOfMemory
  | nullCopy
  | created (buffer : HostBuffer)

/-- `buffer_create`; `data` has at least `size` bytes unless it is a null pointer. -/
def bufferCreate (env : CreateEnv) (data : Option (List UInt8)) (size : UInt64)
    (pts duration : Int64) : BufferCreated :=
  if !env.calloc then .outOfMemory
  else if size ≠ 0 then
    if !env.malloc then .outOfMemory
    else
      match data with
      | none => .nullCopy
      | some bytes => .created { data := some (bytes.take size.toNat), size, pts, duration }
  else .created { pts, duration }

/-- Whether `realloc` finds a block, and what its fresh bytes hold. -/
structure ReallocEnv where
  obtained : Bool
  fresh : Nat → UInt8

/-- `realloc`: a block that begins with the old bytes, or a null pointer. -/
def reallocBlock (env : ReallocEnv) (block : Option (List UInt8)) (size : UInt64) :
    Option (List UInt8) :=
  if env.obtained then
    let kept := (block.getD []).take size.toNat
    some (kept ++ (List.range (size.toNat - kept.length)).map env.fresh)
  else none

/-- `buffer_set_size`. -/
def bufferSetSize (env : ReallocEnv) (buffer : HostBuffer) (size : UInt64) :
    HostBuffer × AMFResult :=
  let data := reallocBlock env buffer.data size
  if size ≠ 0 ∧ data = none then (buffer, .outOfMemory) else ({ buffer with data, size }, .ok)

/-- Bytes of the caller or of an encoder, with their number. -/
structure HostBytes where
  bytes : List UInt8
  size : UInt64
  length_eq : bytes.length = size.toNat

/-- A call that creates, resizes or reads a buffer.  A buffer is named by the number of
those created before it. -/
inductive BufferCall where
  | allocBuffer (type : AMFMemoryType) (size : UInt64) (out : Bool) (env : CreateEnv)
  | createBufferFromHostNative (data : HostBytes) (env : CreateEnv)
  | encoderOutput (packet : HostBytes) (pts duration : Int64) (env : CreateEnv)
  | setSize (index : Nat) (size : UInt64) (env : ReallocEnv)
  | getSize (index : Nat)
  | getNative (index : Nat)

/-- What a call returns, or that it copies from a null pointer. -/
inductive BufferAnswer where
  | result (result : AMFResult)
  | size (size : UInt64)
  | native (data : Option (List UInt8))
  | noBuffer
  | nullCopy
  deriving DecidableEq

/-- The pointer that `buffer_create` returns goes to the caller. -/
def returnBuffer (buffers : List HostBuffer) : BufferCreated → List HostBuffer × BufferAnswer
  | .outOfMemory => (buffers, .result .outOfMemory)
  | .nullCopy => (buffers, .nullCopy)
  | .created buffer => (buffers ++ [buffer], .result .ok)

/-- `context_alloc_buffer`. -/
def contextAllocBuffer (env : CreateEnv) (buffers : List HostBuffer) (type : AMFMemoryType)
    (size : UInt64) (out : Bool) : List HostBuffer × BufferAnswer :=
  if !out ∨ type ≠ .host then (buffers, .result .invalidArg)
  else returnBuffer buffers (bufferCreate env none size 0 0)

/-- `context_buffer_host`. -/
def contextBufferHost (env : CreateEnv) (buffers : List HostBuffer) (data : HostBytes) :
    List HostBuffer × BufferAnswer :=
  returnBuffer buffers (bufferCreate env (some data.bytes) data.size 0 0)

/-- The buffers of the process answer one call at a time. -/
def bufferCalls : Machine (List HostBuffer) BufferCall BufferAnswer where
  step buffers
    | .allocBuffer type size out env => contextAllocBuffer env buffers type size out
    | .createBufferFromHostNative data env => contextBufferHost env buffers data
    | .encoderOutput packet pts duration env =>
        returnBuffer buffers (bufferCreate env (some packet.bytes) packet.size pts duration)
    | .setSize index size env =>
        match buffers[index]? with
        | none => (buffers, .noBuffer)
        | some buffer =>
            let next := bufferSetSize env buffer size
            (buffers.set index next.1, .result next.2)
    | .getSize index =>
        match buffers[index]? with
        | none => (buffers, .noBuffer)
        | some buffer => (buffers, .size buffer.size)
    | .getNative index =>
        match buffers[index]? with
        | none => (buffers, .noBuffer)
        | some buffer => (buffers, .native buffer.data)

/-! ## The property and the condition -/

/-- The call has created one buffer, of the requested size and with the given bytes, or
none. -/
def Creates (buffers : List HostBuffer) (next : List HostBuffer × BufferAnswer) (size : UInt64)
    (bytes : Option (List UInt8)) : Prop :=
  (∃ buffer, next = (buffers ++ [buffer], .result .ok) ∧ buffer.size = size ∧
    buffer.storage.length = size.toNat ∧ ∀ contents ∈ bytes, buffer.storage = contents) ∨
  ∃ result, result ≠ .ok ∧ next = (buffers, .result result)

/-- The call has resized one buffer and kept the bytes that both sizes have, or changed
nothing. -/
def Resizes (buffers : List HostBuffer) (next : List HostBuffer × BufferAnswer) (index : Nat)
    (buffer : HostBuffer) (size : UInt64) : Prop :=
  (∃ resized, next = (buffers.set index resized, .result .ok) ∧ resized.size = size ∧
    resized.storage.length = size.toNat ∧
    resized.storage.take (min buffer.size.toNat size.toNat) =
      buffer.storage.take (min buffer.size.toNat size.toNat)) ∨
  next = (buffers, .result .outOfMemory)

/-- What a call promises. -/
def BufferCall.Meets (buffers : List HostBuffer) (next : List HostBuffer × BufferAnswer) :
    BufferCall → Prop
  | .allocBuffer _ size _ _ => Creates buffers next size none
  | .createBufferFromHostNative data _ => Creates buffers next data.size (some data.bytes)
  | .encoderOutput packet _ _ _ => Creates buffers next packet.size (some packet.bytes)
  | .setSize index size _ =>
      ∀ buffer ∈ buffers[index]?, Resizes buffers next index buffer size
  | .getSize index => ∀ buffer ∈ buffers[index]?, next = (buffers, .size buffer.size)
  | .getNative index => ∀ buffer ∈ buffers[index]?, next = (buffers, .native buffer.data)

/-- Nothing is copied from a null pointer, the call does what it promises, and every buffer
reports the bytes it has. -/
def BuffersHold (buffers : List HostBuffer) (call : BufferCall) : Prop :=
  let next := bufferCalls.step buffers call
  next.2 ≠ .nullCopy ∧ call.Meets buffers next ∧ ∀ buffer ∈ next.1, buffer.Valid

/-- The call allocates a buffer that is not empty, and finds the memory. -/
def BufferCall.AllocatesBytes : BufferCall → Prop
  | .allocBuffer type size out env =>
      out = true ∧ type = .host ∧ size ≠ 0 ∧ env.calloc = true ∧ env.malloc = true
  | _ => False

/-! ## One call -/

theorem Creates.valid {buffers : List HostBuffer} {next : List HostBuffer × BufferAnswer}
    {size : UInt64} {bytes : Option (List UInt8)} (hcreates : Creates buffers next size bytes)
    (hvalid : ∀ buffer ∈ buffers, buffer.Valid) :
    next.2 ≠ .nullCopy ∧ ∀ buffer ∈ next.1, buffer.Valid := by
  rcases hcreates with ⟨created, rfl, hsize, hlength, -⟩ | ⟨result, -, rfl⟩
  · refine ⟨by simp, ?_⟩
    intro buffer hmem
    rcases List.mem_append.mp hmem with hmem | hmem
    · exact hvalid buffer hmem
    · obtain rfl := List.mem_singleton.mp hmem
      unfold HostBuffer.Valid
      rw [hlength, hsize]
  · exact ⟨by simp, hvalid⟩

theorem Resizes.valid {buffers : List HostBuffer} {next : List HostBuffer × BufferAnswer}
    {index : Nat} {buffer : HostBuffer} {size : UInt64}
    (hresizes : Resizes buffers next index buffer size)
    (hvalid : ∀ buffer ∈ buffers, buffer.Valid) :
    next.2 ≠ .nullCopy ∧ ∀ buffer ∈ next.1, buffer.Valid := by
  rcases hresizes with ⟨resized, rfl, hsize, hlength, -⟩ | rfl
  · refine ⟨by simp, ?_⟩
    intro other hmem
    rcases List.mem_or_eq_of_mem_set hmem with hmem | rfl
    · exact hvalid other hmem
    · unfold HostBuffer.Valid
      rw [hlength, hsize]
  · exact ⟨by simp, hvalid⟩

/-- `buffer_create` with bytes to copy. -/
theorem creates_of_bytes (env : CreateEnv) (buffers : List HostBuffer) (data : HostBytes)
    (pts duration : Int64) :
    Creates buffers (returnBuffer buffers
      (bufferCreate env (some data.bytes) data.size pts duration)) data.size
      (some data.bytes) := by
  have hlength := data.length_eq
  unfold bufferCreate
  by_cases hcalloc : env.calloc = true
  · rw [if_neg (by simp [hcalloc])]
    by_cases hsize : data.size ≠ 0
    · rw [if_pos hsize]
      by_cases hmalloc : env.malloc = true
      · have htake : data.bytes.take data.size.toNat = data.bytes := by
          rw [← hlength, List.take_length]
        rw [if_neg (by simp [hmalloc])]
        left
        refine ⟨_, rfl, rfl, ?_, ?_⟩
        · show (data.bytes.take data.size.toNat).length = _
          rw [htake, hlength]
        · intro contents hcontents
          rw [← Option.some.inj hcontents]
          exact htake
      · rw [if_pos (by simpa using hmalloc)]
        exact Or.inr ⟨.outOfMemory, by decide, rfl⟩
    · have hzero : data.size = 0 := not_not.mp hsize
      rw [if_neg hsize]
      left
      refine ⟨_, rfl, hzero.symm, ?_, ?_⟩
      · rw [hzero]
        rfl
      · intro contents hcontents
        rw [← Option.some.inj hcontents]
        rw [hzero] at hlength
        exact (List.length_eq_zero_iff.mp hlength).symm
  · rw [if_pos (by simpa using hcalloc)]
    exact Or.inr ⟨.outOfMemory, by decide, rfl⟩

/-- `context_alloc_buffer` creates its buffer or reports a failure, unless it has to copy. -/
theorem contextAllocBuffer_cases (env : CreateEnv) (buffers : List HostBuffer)
    (type : AMFMemoryType) (size : UInt64) (out : Bool) :
    (BufferCall.allocBuffer type size out env).AllocatesBytes ∧
        contextAllocBuffer env buffers type size out = (buffers, .nullCopy) ∨
      ¬(BufferCall.allocBuffer type size out env).AllocatesBytes ∧
        Creates buffers (contextAllocBuffer env buffers type size out) size none := by
  unfold contextAllocBuffer BufferCall.AllocatesBytes bufferCreate
  by_cases hargument : (!out) = true ∨ type ≠ .host
  · right
    rw [if_pos hargument]
    refine ⟨?_, Or.inr ⟨.invalidArg, by decide, rfl⟩⟩
    rintro ⟨rfl, htype, -⟩
    rcases hargument with hout | hother
    · cases hout
    · exact hother htype
  · rw [if_neg hargument]
    have hout : out = true := by
      by_contra hout
      exact hargument (Or.inl (by simpa using hout))
    have htype : type = .host := by
      by_contra htype
      exact hargument (Or.inr htype)
    by_cases hcalloc : env.calloc = true
    · rw [if_neg (by simp [hcalloc])]
      by_cases hsize : size ≠ 0
      · rw [if_pos hsize]
        by_cases hmalloc : env.malloc = true
        · left
          rw [if_neg (by simp [hmalloc])]
          exact ⟨⟨hout, htype, hsize, hcalloc, hmalloc⟩, rfl⟩
        · right
          rw [if_pos (by simpa using hmalloc)]
          exact ⟨fun h => hmalloc h.2.2.2.2, Or.inr ⟨.outOfMemory, by decide, rfl⟩⟩
      · right
        have hzero : size = 0 := not_not.mp hsize
        rw [if_neg hsize]
        refine ⟨fun h => hsize h.2.2.1, Or.inl ⟨_, rfl, hzero.symm, ?_, ?_⟩⟩
        · rw [hzero]
          rfl
        · exact fun _ hcontents => absurd hcontents (by simp)
    · right
      rw [if_pos (by simpa using hcalloc)]
      exact ⟨fun h => hcalloc h.2.2.2.1, Or.inr ⟨.outOfMemory, by decide, rfl⟩⟩

/-- `realloc` keeps the bytes that both sizes have. -/
theorem reallocBlock_some {env : ReallocEnv} {block : Option (List UInt8)} {size : UInt64}
    {bytes : List UInt8} (hblock : reallocBlock env block size = some bytes) :
    bytes.length = size.toNat ∧
      bytes.take (min (block.getD []).length size.toNat) =
        (block.getD []).take (min (block.getD []).length size.toNat) := by
  unfold reallocBlock at hblock
  simp only at hblock
  split_ifs at hblock
  obtain rfl := Option.some.inj hblock
  constructor
  · rw [List.length_append, List.length_map, List.length_range, List.length_take]
    omega
  · rw [List.take_append_of_le_length (by rw [List.length_take]; omega), List.take_take]
    congr 1
    omega

/-- `buffer_set_size` on a buffer that reports the bytes it has. -/
theorem bufferSetSize_resizes (env : ReallocEnv) {buffers : List HostBuffer} {index : Nat}
    {buffer : HostBuffer} (hindex : buffers[index]? = some buffer) (hvalid : buffer.Valid)
    (size : UInt64) :
    Resizes buffers (buffers.set index (bufferSetSize env buffer size).1,
      .result (bufferSetSize env buffer size).2) index buffer size := by
  unfold bufferSetSize
  simp only
  by_cases hfail : size ≠ 0 ∧ reallocBlock env buffer.data size = none
  · right
    rw [if_pos hfail]
    have hset : buffers.set index buffer = buffers := by
      obtain ⟨hlt, hget⟩ := List.getElem?_eq_some_iff.mp hindex
      rw [← hget, List.set_getElem_self hlt]
    rw [hset]
  · left
    rw [if_neg hfail]
    cases hblock : reallocBlock env buffer.data size with
    | none =>
      have hzero : size = 0 := by
        by_contra hsize
        exact hfail ⟨hsize, hblock⟩
      refine ⟨_, rfl, rfl, ?_, ?_⟩
      · rw [hzero]
        rfl
      · have hmin : min buffer.size.toNat size.toNat = 0 := by
          rw [hzero]
          exact Nat.min_zero _
        rw [hmin, List.take_zero, List.take_zero]
    | some bytes =>
      obtain ⟨hlength, hkept⟩ := reallocBlock_some hblock
      have hsize : (buffer.data.getD []).length = buffer.size.toNat := hvalid
      rw [hsize] at hkept
      exact ⟨_, rfl, rfl, hlength, hkept⟩

/-- One call does what it promises exactly when it does not allocate bytes. -/
theorem buffersHold_iff {buffers : List HostBuffer} (hvalid : ∀ buffer ∈ buffers, buffer.Valid)
    (call : BufferCall) : BuffersHold buffers call ↔ ¬call.AllocatesBytes := by
  unfold BuffersHold
  cases call with
  | allocBuffer type size out env =>
    rcases contextAllocBuffer_cases env buffers type size out with ⟨hbytes, hstep⟩ | ⟨hbytes, hstep⟩
    · refine iff_of_false ?_ (not_not.mpr hbytes)
      intro hholds
      exact hholds.1 (congrArg Prod.snd hstep)
    · refine iff_of_true ?_ hbytes
      obtain ⟨hcopy, hall⟩ := hstep.valid hvalid
      exact ⟨hcopy, hstep, hall⟩
  | createBufferFromHostNative data env =>
    have hstep := creates_of_bytes env buffers data 0 0
    obtain ⟨hcopy, hall⟩ := hstep.valid hvalid
    exact iff_of_true ⟨hcopy, hstep, hall⟩ id
  | encoderOutput packet pts duration env =>
    have hstep := creates_of_bytes env buffers packet pts duration
    obtain ⟨hcopy, hall⟩ := hstep.valid hvalid
    exact iff_of_true ⟨hcopy, hstep, hall⟩ id
  | setSize index size env =>
    refine iff_of_true ?_ id
    simp only [bufferCalls, BufferCall.Meets]
    cases hindex : buffers[index]? with
    | none => exact ⟨by simp, by simp, hvalid⟩
    | some buffer =>
      have hstep := bufferSetSize_resizes env hindex (hvalid buffer (List.mem_of_getElem? hindex))
        size
      obtain ⟨hcopy, hall⟩ := hstep.valid hvalid
      refine ⟨hcopy, fun other hother => ?_, hall⟩
      rw [← Option.some.inj hother]
      exact hstep
  | getSize index =>
    refine iff_of_true ?_ id
    simp only [bufferCalls, BufferCall.Meets]
    cases hindex : buffers[index]? with
    | none => exact ⟨by simp, by simp, hvalid⟩
    | some buffer => exact ⟨by simp, by simp, hvalid⟩
  | getNative index =>
    refine iff_of_true ?_ id
    simp only [bufferCalls, BufferCall.Meets]
    cases hindex : buffers[index]? with
    | none => exact ⟨by simp, by simp, hvalid⟩
    | some buffer => exact ⟨by simp, by simp, hvalid⟩

/-! ## Every run -/

/-- The buffers hold what they report at every call of a run exactly when no call of the run
allocates bytes. -/
theorem buffers_hold_iff (calls : List BufferCall) :
    bufferCalls.Along (fun _ buffers call => BuffersHold buffers call) [] [] calls ↔
      bufferCalls.Along (fun _ _ call => ¬call.AllocatesBytes) [] [] calls :=
  Machine.along_iff (fun _ buffers => ∀ buffer ∈ buffers, buffer.Valid)
    (fun _ _ _ _ hholds => hholds.2.2) (fun _ _ call hvalid => buffersHold_iff hvalid call)
    (fun _ hmem => absurd hmem List.not_mem_nil)

/-- A buffer of sixteen bytes in host memory. -/
theorem sixteen_bytes_copied_from_null :
    ¬∀ calls, bufferCalls.Along (fun _ buffers call => BuffersHold buffers call) [] [] calls :=
  fun hall => (hall [.allocBuffer .host 16 true ⟨true, true⟩]).1.1 rfl

end UuAmfBridge
