import UuAmfBridge.Dxva.DecoderBuffers

/-!
# The back-off of the decoders of one process

A decoder that fails waits for a second (`retry_after`), and the whole process waits for
ten (`helper_probe_time`).  The decoders share the second time only, and each has its
own lock, so the calls of `EndFrame` on different threads run in any order.

A `DecoderPool` takes the parts of these calls one at a time: `context_end_frame` up to
the lock, `decoder_connect`, and the exchange.  Each of the last two is one step, with
the time of `decoder_backoff` at its end.  The steps leave a `ReconnectRecord` each, and
the failure that counts is the last one in the log (`lastFailure`).

* `decoderConnect_times`: what `decoder_connect` does to the times.
* `PoolValid`: no decoder waits for longer than eleven seconds behind the last failure,
  which is the one in the table of the process.
* `reconnect_backoff`: an attempt comes ten seconds behind the last failure or later, and
  from eleven seconds on there is one.

The times are those of `GetTickCount64` and do not go back; `PoolStep.Timed` says so for a
step.
-/

namespace UuAmfBridge

/-! ## One connection -/

/-- `decoder_connect` goes on to `socket`, at the time `now`. -/
def connectAttempts (now : UInt64) (process : DecoderProcess) : Prop :=
  process.decoder.helper = none ∧
    ¬(process.decoder.retryAfter ≠ 0 ∧ now < process.decoder.retryAfter) ∧
    ¬(process.probe.time ≠ 0 ∧ now - process.probe.time < helperProbeCacheMs ∧
      process.probe.result ≤ 0)

instance (now : UInt64) (process : DecoderProcess) : Decidable (connectAttempts now process) :=
  inferInstanceAs (Decidable (_ ∧ _ ∧ _))

/-- The attempt has a socket and fails. -/
def connectFails (env : DecoderConnectEnv) (process : DecoderProcess) : Prop :=
  connectAttempts env.tickCount process ∧ env.socket = true ∧ (decoderConnect env process).1 = none

instance (env : DecoderConnectEnv) (process : DecoderProcess) :
    Decidable (connectFails env process) :=
  inferInstanceAs (Decidable (_ ∧ _ ∧ _))

/-- What `decoder_connect` does to the times: it backs off when the attempt fails, waits
with the process, forgets the back-off, or leaves them. -/
inductive ConnectTimes (env : DecoderConnectEnv) (process : DecoderProcess) : Prop where
  | failed (hfails : connectFails env process)
      (hnext : decoderConnect env process = (none, decoderBackoff env.failureTick process))
  | waits (hfails : ¬connectFails env process) (htime : process.probe.time ≠ 0)
      (hrecent : env.tickCount - process.probe.time < helperProbeCacheMs)
      (hnext : decoderConnect env process = (none, { process with
        decoder := { process.decoder with retryAfter := env.tickCount + dxvaRetryBackoffMs } }))
  | connected (hfails : ¬connectFails env process) (connection : Connection)
      (hnext : decoderConnect env process = (some connection, { process with
        decoder := { process.decoder with helper := some connection, retryAfter := 0 } }))
  | kept (hfails : ¬connectFails env process)
      (hnext : decoderConnect env process = (process.decoder.helper, process))

/-- The part of `decoder_connect` behind its back-offs. -/
theorem decoderConnect_of_attempts {env : DecoderConnectEnv} {process : DecoderProcess}
    (h : connectAttempts env.tickCount process) :
    decoderConnect env process =
      if !env.socket then (none, process)
      else if !env.connect then (none, decoderBackoff env.failureTick process)
      else
        match helperHandshake env with
        | none => (none, decoderBackoff env.failureTick process)
        | some connection =>
            (some connection,
              { process with
                decoder :=
                  { process.decoder with helper := some connection, retryAfter := 0 } }) := by
  obtain ⟨hhelper, hwait, hrecent⟩ := h
  unfold decoderConnect
  simp only [hhelper]
  exact (if_neg hwait).trans (if_neg hrecent)

theorem connectTimes_of_attempts {env : DecoderConnectEnv} {process : DecoderProcess}
    (h : connectAttempts env.tickCount process) : ConnectTimes env process := by
  have hconnect := decoderConnect_of_attempts h
  cases hsocket : env.socket with
  | false =>
    rw [hsocket, Bool.not_false, if_pos rfl] at hconnect
    refine .kept ?_ (by rw [hconnect, h.1])
    rintro ⟨-, htrue, -⟩
    rw [hsocket] at htrue
    cases htrue
  | true =>
    rw [hsocket, Bool.not_true, if_neg Bool.false_ne_true] at hconnect
    have hfailed : decoderConnect env process = (none, decoderBackoff env.failureTick process) →
        ConnectTimes env process :=
      fun hnext => .failed ⟨h, hsocket, congrArg Prod.fst hnext⟩ hnext
    cases hopen : env.connect with
    | false =>
      rw [hopen, Bool.not_false, if_pos rfl] at hconnect
      exact hfailed hconnect
    | true =>
      rw [hopen, Bool.not_true, if_neg Bool.false_ne_true] at hconnect
      cases hshake : helperHandshake env with
      | none =>
        rw [hshake] at hconnect
        exact hfailed hconnect
      | some connection =>
        rw [hshake] at hconnect
        refine .connected ?_ connection hconnect
        rintro ⟨-, -, hnone⟩
        rw [hconnect] at hnone
        cases hnone

theorem decoderConnect_times (env : DecoderConnectEnv) (process : DecoderProcess) :
    ConnectTimes env process := by
  have hquiet : ¬connectAttempts env.tickCount process → ¬connectFails env process :=
    fun hnot hfails => hnot hfails.1
  cases hhelper : process.decoder.helper with
  | some connection =>
    have hnot : ¬connectAttempts env.tickCount process := by
      rintro ⟨hnone, -⟩
      rw [hhelper] at hnone
      cases hnone
    refine .kept (hquiet hnot) ?_
    unfold decoderConnect
    simp only [hhelper]
  | none =>
    by_cases hwait : process.decoder.retryAfter ≠ 0 ∧ env.tickCount < process.decoder.retryAfter
    · refine .kept (hquiet fun hattempt => hattempt.2.1 hwait) ?_
      unfold decoderConnect
      simp only [hhelper]
      rw [if_pos hwait]
    by_cases hrecent : process.probe.time ≠ 0 ∧
        env.tickCount - process.probe.time < helperProbeCacheMs ∧ process.probe.result ≤ 0
    · refine .waits (hquiet fun hattempt => hattempt.2.2 hrecent) hrecent.1 hrecent.2.1 ?_
      unfold decoderConnect
      simp only [hhelper]
      rw [if_neg hwait, if_pos hrecent]
    exact connectTimes_of_attempts ⟨hhelper, hwait, hrecent⟩

/-! ## The decoders of a process -/

/-- Where a thread is in a call of `EndFrame`. -/
inductive EndFrameStage (D : Type*) where
  | idle
  /-- Behind the first checks, in front of the lock. -/
  | entered (decoder : D)
  /-- Behind `decoder_connect`, with the lock. -/
  | exchanging (decoder : D) (connection : Connection)

/-- The decoders `D` of a process with the threads `T`; `clock` is the last value of
`GetTickCount64`. -/
structure DecoderPool (D T : Type*) where
  decoders : D → BridgeDecoder
  locked : D → Bool := fun _ => false
  probe : HelperProbe := {}
  stage : T → EndFrameStage D := fun _ => .idle
  clock : UInt64 := 0

/-- What a step shows: the decoder and the time of an attempt to connect, and the time of a
failure. -/
structure ReconnectRecord (D : Type*) where
  attempt : Option (D × UInt64) := none
  failure : Option UInt64 := none

/-- One part of a call of `EndFrame` on a thread, or another call on a decoder. -/
inductive PoolStep (D T : Type*) where
  | enter (thread : T) (decoder : D) (now : UInt64)
  | connect (thread : T) (env : DecoderConnectEnv)
  | exchange (thread : T) (env : EndFrameEnv)
  /-- The other calls only change the buffers and the output view. -/
  | other (decoder : D) (buffers : Fin dxvaBufferCount → DecoderBuffer)
      (output : Option BridgeOutputView)

section Times

variable {D T : Type*}

/-- The time of the last failure. -/
def lastFailure (log : List (ReconnectRecord D)) : Option UInt64 :=
  (log.filterMap ReconnectRecord.failure).getLast?

/-- It is eleven seconds behind the last failure or later. -/
def IsDue (log : List (ReconnectRecord D)) (now : UInt64) : Prop :=
  ∀ failure, lastFailure log = some failure → failure.toNat + 11000 ≤ now.toNat

/-- The times of a step do not go back. -/
def PoolStep.Timed (pool : DecoderPool D T) : PoolStep D T → Prop
  | .enter _ _ now => pool.clock ≤ now
  | .connect _ env => pool.clock ≤ env.tickCount ∧ env.tickCount ≤ env.failureTick
  | .exchange _ env => pool.clock ≤ env.failureTick
  | .other _ _ _ => True

instance (pool : DecoderPool D T) : (step : PoolStep D T) → Decidable (step.Timed pool)
  | .enter _ _ now => inferInstanceAs (Decidable (pool.clock ≤ now))
  | .connect _ env =>
      inferInstanceAs (Decidable (pool.clock ≤ env.tickCount ∧ env.tickCount ≤ env.failureTick))
  | .exchange _ env => inferInstanceAs (Decidable (pool.clock ≤ env.failureTick))
  | .other _ _ _ => isTrue trivial

/-- After the last failure in the log, the table of the process has its time, and no
decoder waits for longer than eleven seconds; before the first one nothing waits. -/
structure PoolValid (log : List (ReconnectRecord D)) (pool : DecoderPool D T) : Prop where
  unfailed : lastFailure log = none →
    pool.probe.time = 0 ∧ ∀ decoder, (pool.decoders decoder).retryAfter = 0
  probe_eq : ∀ failure, lastFailure log = some failure →
    pool.probe = { result := -1, time := failure } ∧ failure ≠ 0 ∧ failure ≤ pool.clock
  retryAfter_le : ∀ failure, lastFailure log = some failure → ∀ decoder,
    (pool.decoders decoder).retryAfter.toNat ≤ failure.toNat + 11000

/-- The last failure after one more step. -/
theorem lastFailure_append (log : List (ReconnectRecord D)) (record : ReconnectRecord D) :
    lastFailure (log ++ [record]) =
      match record.failure with
      | some failure => some failure
      | none => lastFailure log := by
  unfold lastFailure
  rw [List.filterMap_append]
  cases hfailure : record.failure with
  | none => simp [hfailure]
  | some failure => simp [hfailure]

/-- A sum of times may wrap around, but not grow. -/
theorem toNat_add_le (now delay : UInt64) : (now + delay).toNat ≤ now.toNat + delay.toNat := by
  rw [UInt64.toNat_add]
  exact Nat.mod_le _ _

variable {log : List (ReconnectRecord D)} {pool : DecoderPool D T}

/-- A step that does nothing. -/
theorem PoolValid.idle (hvalid : PoolValid log pool) :
    PoolValid (log ++ [({} : ReconnectRecord D)]) pool := by
  have hlast : lastFailure (log ++ [({} : ReconnectRecord D)]) = lastFailure log :=
    lastFailure_append log {}
  constructor
  · rw [hlast]
    exact hvalid.unfailed
  · rw [hlast]
    exact hvalid.probe_eq
  · rw [hlast]
    exact hvalid.retryAfter_le

/-- Behind the last failure by eleven seconds, no decoder waits. -/
theorem PoolValid.retryAfter_of_due (hvalid : PoolValid log pool) {now : UInt64}
    (hdue : IsDue log now) (decoder : D) :
    ¬((pool.decoders decoder).retryAfter ≠ 0 ∧ now < (pool.decoders decoder).retryAfter) := by
  rintro ⟨hne, hlt⟩
  cases hlast : lastFailure log with
  | none => exact hne ((hvalid.unfailed hlast).2 decoder)
  | some failure =>
    have hle := hvalid.retryAfter_le failure hlast decoder
    have hlate := hdue failure hlast
    rw [UInt64.lt_iff_toNat_lt] at hlt
    omega

/-- A decoder that waits with the process does not wait for longer than eleven seconds
behind the failure. -/
theorem PoolValid.waits (hvalid : PoolValid log pool) {now : UInt64} (hclock : pool.clock ≤ now)
    (htime : pool.probe.time ≠ 0) (hrecent : now - pool.probe.time < helperProbeCacheMs) :
    ∃ failure, lastFailure log = some failure ∧
      (now + dxvaRetryBackoffMs).toNat ≤ failure.toNat + 11000 := by
  cases hlast : lastFailure log with
  | none => exact absurd (hvalid.unfailed hlast).1 htime
  | some failure =>
    refine ⟨failure, rfl, ?_⟩
    obtain ⟨hprobe, -, hle⟩ := hvalid.probe_eq failure hlast
    have hbefore : failure ≤ now := UInt64.le_trans hle hclock
    rw [hprobe, UInt64.lt_iff_toNat_lt, UInt64.toNat_sub_of_le _ _ hbefore] at hrecent
    have hsum := toNat_add_le now dxvaRetryBackoffMs
    have hdelay : dxvaRetryBackoffMs.toNat = 1000 := rfl
    have hcache : helperProbeCacheMs.toNat = 10000 := rfl
    omega

variable [DecidableEq D]

/-- A step that fails nobody, and leaves one decoder with a time that it had, without one,
or with one within eleven seconds of the last failure. -/
theorem PoolValid.kept (hvalid : PoolValid log pool) {record : ReconnectRecord D}
    {next : DecoderPool D T} {decoder : D} {changed : BridgeDecoder}
    (hfailure : record.failure = none)
    (hdecoders : next.decoders = Function.update pool.decoders decoder changed)
    (hprobe : next.probe = pool.probe) (hclock : pool.clock ≤ next.clock)
    (hretry : changed.retryAfter = (pool.decoders decoder).retryAfter ∨ changed.retryAfter = 0 ∨
      ∃ failure, lastFailure log = some failure ∧
        changed.retryAfter.toNat ≤ failure.toNat + 11000) :
    PoolValid (log ++ [record]) next := by
  have hlast : lastFailure (log ++ [record]) = lastFailure log := by
    rw [lastFailure_append, hfailure]
  have hothers : ∀ other, other ≠ decoder →
      (next.decoders other).retryAfter = (pool.decoders other).retryAfter := by
    intro other hother
    rw [hdecoders, Function.update_of_ne hother]
  have hself : next.decoders decoder = changed := by rw [hdecoders, Function.update_self]
  constructor
  · intro hnone
    rw [hlast] at hnone
    obtain ⟨htime, hzero⟩ := hvalid.unfailed hnone
    rw [hprobe]
    refine ⟨htime, fun other => ?_⟩
    by_cases hother : other = decoder
    · rw [hother, hself]
      rcases hretry with hsame | hreset | ⟨failure, hsome, -⟩
      · rw [hsame, hzero]
      · exact hreset
      · rw [hnone] at hsome
        cases hsome
    · rw [hothers other hother, hzero]
  · intro failure hsome
    rw [hlast] at hsome
    obtain ⟨hresult, hne, hle⟩ := hvalid.probe_eq failure hsome
    rw [hprobe]
    exact ⟨hresult, hne, UInt64.le_trans hle hclock⟩
  · intro failure hsome other
    rw [hlast] at hsome
    by_cases hother : other = decoder
    · rw [hother, hself]
      rcases hretry with hsame | hreset | ⟨last, hlast', hle⟩
      · rw [hsame]
        exact hvalid.retryAfter_le failure hsome decoder
      · rw [hreset]
        exact Nat.zero_le _
      · rw [hsome] at hlast'
        obtain rfl := Option.some.inj hlast'
        exact hle
    · rw [hothers other hother]
      exact hvalid.retryAfter_le failure hsome other

/-- A step in which a decoder backs off. -/
theorem PoolValid.failed (hvalid : PoolValid log pool) {record : ReconnectRecord D}
    {next : DecoderPool D T} {decoder : D} {changed : BridgeDecoder} {now : UInt64}
    (hfailure : record.failure = some now)
    (hdecoders : next.decoders = Function.update pool.decoders decoder changed)
    (hprobe : next.probe = { result := -1, time := now }) (hclock : pool.clock ≤ now)
    (hnow : next.clock = now) (hretry : changed.retryAfter = now + dxvaRetryBackoffMs)
    (hfirst : lastFailure log = none → record.failure ≠ some 0) :
    PoolValid (log ++ [record]) next := by
  have hlast : lastFailure (log ++ [record]) = some now := by
    rw [lastFailure_append, hfailure]
  have hlate : ∀ failure, lastFailure log = some failure → failure.toNat ≤ now.toNat := by
    intro failure hsome
    exact UInt64.le_iff_toNat_le.mp
      (UInt64.le_trans (hvalid.probe_eq failure hsome).2.2 hclock)
  have hne : now ≠ 0 := by
    rintro rfl
    cases hold : lastFailure log with
    | none => exact hfirst hold hfailure
    | some failure =>
      have hbefore := hlate failure hold
      exact (hvalid.probe_eq failure hold).2.1 (UInt64.toNat_inj.mp (Nat.le_zero.mp hbefore))
  constructor
  · intro hnone
    rw [hlast] at hnone
    cases hnone
  · intro failure hsome
    rw [hlast] at hsome
    obtain rfl := Option.some.inj hsome
    exact ⟨hprobe, hne, UInt64.le_of_eq hnow.symm⟩
  · intro failure hsome other
    rw [hlast] at hsome
    obtain rfl := Option.some.inj hsome
    rw [hdecoders]
    by_cases hother : other = decoder
    · rw [hother, Function.update_self, hretry]
      have hle := toNat_add_le now dxvaRetryBackoffMs
      have hdelay : dxvaRetryBackoffMs.toNat = 1000 := rfl
      omega
    · rw [Function.update_of_ne hother]
      cases hold : lastFailure log with
      | none =>
        rw [(hvalid.unfailed hold).2 other]
        exact Nat.zero_le _
      | some failure =>
        have hle := hvalid.retryAfter_le failure hold other
        have hbefore := hlate failure hold
        omega

end Times

/-! ## The steps -/

section Pool

variable {D T : Type*} [DecidableEq D] [DecidableEq T]

/-- A decoder with what it shares. -/
def DecoderPool.process (pool : DecoderPool D T) (decoder : D) : DecoderProcess where
  decoder := pool.decoders decoder
  probe := pool.probe

/-- The pool after a part of a call on one of its decoders. -/
def DecoderPool.put (pool : DecoderPool D T) (decoder : D) (process : DecoderProcess) :
    DecoderPool D T :=
  { pool with
    decoders := Function.update pool.decoders decoder process.decoder
    probe := process.probe }

/-- The first checks of `context_end_frame`. -/
def DecoderPool.enter (pool : DecoderPool D T) (thread : T) (decoder : D) (now : UInt64) :
    DecoderPool D T :=
  let stage := if endFrameEnters now (pool.decoders decoder) then .entered decoder else .idle
  { pool with stage := Function.update pool.stage thread stage, clock := now }

/-- `decoder_connect`, with the lock of the decoder. -/
def DecoderPool.connect (pool : DecoderPool D T) (thread : T) (decoder : D)
    (env : DecoderConnectEnv) : DecoderPool D T × ReconnectRecord D :=
  let process := pool.process decoder
  let next := decoderConnect env process
  let stage := match next.1 with
    | none => .idle
    | some connection => .exchanging decoder connection
  ({ pool.put decoder next.2 with
      locked := Function.update pool.locked decoder next.1.isSome
      stage := Function.update pool.stage thread stage
      clock := env.failureTick },
    { attempt := if connectAttempts env.tickCount process then some (decoder, env.tickCount)
        else none
      failure := if connectFails env process then some env.failureTick else none })

/-- The exchange, and the end of the call. -/
def DecoderPool.exchange (readPic : List UInt8 → DxvaPicParams) (pool : DecoderPool D T)
    (thread : T) (decoder : D) (connection : Connection) (env : EndFrameEnv) :
    DecoderPool D T × ReconnectRecord D :=
  let next := (endFrameExchange readPic env (pool.process decoder) connection).1
  ({ pool.put decoder next with
      locked := Function.update pool.locked decoder false
      stage := Function.update pool.stage thread .idle
      clock := env.failureTick },
    { failure := if next.decoder.helper = none then some env.failureTick else none })

/-- The parts of the calls, in any order.  A step that a thread cannot make, because it is
elsewhere or waits for a lock, changes nothing. -/
def decoderPool (readPic : List UInt8 → DxvaPicParams) :
    Machine (DecoderPool D T) (PoolStep D T) (ReconnectRecord D) where
  step pool step :=
    match step with
    | .enter thread decoder now =>
        match pool.stage thread with
        | .idle => (pool.enter thread decoder now, {})
        | _ => (pool, {})
    | .connect thread env =>
        match pool.stage thread with
        | .entered decoder =>
            if pool.locked decoder then (pool, {}) else pool.connect thread decoder env
        | _ => (pool, {})
    | .exchange thread env =>
        match pool.stage thread with
        | .exchanging decoder connection => pool.exchange readPic thread decoder connection env
        | _ => (pool, {})
    | .other decoder buffers output =>
        let next := { pool.decoders decoder with buffers, output }
        ({ pool with decoders := Function.update pool.decoders decoder next }, {})

/-- Decoders that have just been created, in a process that has not failed yet. -/
def DecoderPool.fresh (descs : D → VideoDecoderDesc) : DecoderPool D T where
  decoders decoder := { desc := descs decoder }

variable (readPic : List UInt8 → DxvaPicParams)

omit [DecidableEq T] in
theorem process_put (pool : DecoderPool D T) (decoder : D) (process : DecoderProcess) :
    (pool.put decoder process).process decoder = process := by
  unfold DecoderPool.put DecoderPool.process
  simp only
  rw [Function.update_self]

/-- Without a step of another call in between, the three parts make up
`context_end_frame`. -/
theorem decoderPool_contextEndFrame (pool : DecoderPool D T) {thread : T} {decoder : D}
    (hidle : pool.stage thread = .idle) (hfree : pool.locked decoder = false)
    (env : EndFrameEnv) :
    ((decoderPool readPic).run pool [.enter thread decoder env.entryTick,
        .connect thread env.connect, .exchange thread env]).process decoder =
      (contextEndFrame readPic env (pool.process decoder)).1 := by
  obtain ⟨entered, hentered⟩ : ∃ entered, entered = pool.enter thread decoder env.entryTick :=
    ⟨_, rfl⟩
  have hsame : entered.process decoder = pool.process decoder := by rw [hentered]; rfl
  have hstage : entered.stage thread =
      if endFrameEnters env.entryTick (pool.process decoder).decoder then .entered decoder
      else .idle := by
    rw [hentered]
    exact Function.update_self _ _ _
  have hstill : entered.locked decoder = false := by rw [hentered]; exact hfree
  unfold Machine.run
  simp only [Machine.exec, decoderPool, hidle]
  rw [← hentered, contextEndFrame_eq]
  by_cases henters : endFrameEnters env.entryTick (pool.process decoder).decoder
  · rw [if_pos henters] at hstage
    rw [if_pos henters, ← hsame]
    simp only [hstage, hstill, Bool.false_eq_true, if_false]
    unfold DecoderPool.connect
    simp only [Function.update_self]
    obtain ⟨helper, retryAfter, probe, hconnect⟩ :=
      decoderConnect_keeps env.connect (entered.process decoder)
    rw [hconnect]
    cases helper with
    | none => exact process_put _ _ _
    | some connection =>
      simp only
      exact (process_put _ _ _).trans (congrArg (fun process =>
        (endFrameExchange readPic env process connection).1) (process_put _ _ _))
  · rw [if_neg henters] at hstage
    rw [if_neg henters, ← hsame]
    simp only [hstage]

/-- The clock goes on, and does not show zero at the first failure. -/
def ClockedStep (log : List (ReconnectRecord D)) (pool : DecoderPool D T)
    (step : PoolStep D T) : Prop :=
  step.Timed pool ∧ (lastFailure log = none →
    ((decoderPool readPic).step pool step).2.failure ≠ some 0)

/-- An attempt comes ten seconds behind the last failure or later, and not before the time
of the decoder. -/
def AttemptsLate (log : List (ReconnectRecord D)) (pool : DecoderPool D T)
    (step : PoolStep D T) : Prop :=
  ∀ decoder now, ((decoderPool readPic).step pool step).2.attempt = some (decoder, now) →
    (∀ failure, lastFailure log = some failure → failure.toNat + 10000 ≤ now.toNat) ∧
      (pool.decoders decoder).retryAfter ≤ now

/-- From eleven seconds behind the last failure on, a disconnected decoder with a bitstream
gets to `decoder_connect`, and makes an attempt there. -/
def AttemptsAgain (log : List (ReconnectRecord D)) (pool : DecoderPool D T)
    (step : PoolStep D T) : Prop :=
  (∀ thread decoder now, step = .enter thread decoder now → pool.stage thread = .idle →
      (pool.decoders decoder).helper = none → (pool.decoders decoder).HasBitstream →
      IsDue log now →
      ((decoderPool readPic).step pool step).1.stage thread = .entered decoder) ∧
    ∀ thread env decoder, step = .connect thread env → pool.stage thread = .entered decoder →
      (pool.decoders decoder).helper = none → IsDue log env.tickCount →
      ((decoderPool readPic).step pool step).2.attempt = some (decoder, env.tickCount)

variable {readPic}

section Step

variable {log : List (ReconnectRecord D)} {pool : DecoderPool D T}

/-- `decoder_connect` keeps the times valid. -/
theorem poolValid_connect (hvalid : PoolValid log pool) {thread : T} {decoder : D}
    {env : DecoderConnectEnv} (hclock : pool.clock ≤ env.tickCount)
    (hlater : env.tickCount ≤ env.failureTick)
    (hfirst : lastFailure log = none →
      (pool.connect thread decoder env).2.failure ≠ some 0) :
    PoolValid (log ++ [(pool.connect thread decoder env).2])
      (pool.connect thread decoder env).1 := by
  have hgoes : pool.clock ≤ env.failureTick := UInt64.le_trans hclock hlater
  cases decoderConnect_times env (pool.process decoder) with
  | failed hfails hnext =>
    refine hvalid.failed (if_pos hfails) rfl ?_ hgoes rfl ?_ hfirst
    · show (decoderConnect env (pool.process decoder)).2.probe = _
      rw [hnext]
      rfl
    · rw [hnext]
      rfl
  | waits hfails htime hrecent hnext =>
    refine hvalid.kept (if_neg hfails) rfl ?_ hgoes (Or.inr (Or.inr ?_))
    · show (decoderConnect env (pool.process decoder)).2.probe = _
      rw [hnext]
      rfl
    · rw [hnext]
      exact hvalid.waits hclock htime hrecent
  | connected hfails connection hnext =>
    refine hvalid.kept (if_neg hfails) rfl ?_ hgoes (Or.inr (Or.inl ?_))
    · show (decoderConnect env (pool.process decoder)).2.probe = _
      rw [hnext]
      rfl
    · rw [hnext]
  | kept hfails hnext =>
    refine hvalid.kept (if_neg hfails) rfl ?_ hgoes (Or.inl ?_)
    · show (decoderConnect env (pool.process decoder)).2.probe = _
      rw [hnext]
      rfl
    · rw [hnext]
      rfl

/-- The exchange keeps the times valid. -/
theorem poolValid_exchange (hvalid : PoolValid log pool) {thread : T} {decoder : D}
    {connection : Connection} {env : EndFrameEnv} (hclock : pool.clock ≤ env.failureTick)
    (hfirst : lastFailure log = none →
      (pool.exchange readPic thread decoder connection env).2.failure ≠ some 0) :
    PoolValid (log ++ [(pool.exchange readPic thread decoder connection env).2])
      (pool.exchange readPic thread decoder connection env).1 := by
  obtain ⟨_, _, _, _, ⟨connected, hnext⟩ | hnext⟩ :=
    endFrameExchange_keeps readPic env (pool.process decoder) connection
  · refine hvalid.kept (if_neg ?_) rfl ?_ hclock (Or.inl ?_)
    · rw [hnext]
      exact Option.some_ne_none connected
    · show (endFrameExchange readPic env (pool.process decoder) connection).1.probe = _
      rw [hnext]
      rfl
    · rw [hnext]
      rfl
  · refine hvalid.failed (if_pos ?_) rfl ?_ hclock rfl ?_ hfirst
    · rw [hnext]
      rfl
    · show (endFrameExchange readPic env (pool.process decoder) connection).1.probe = _
      rw [hnext]
      rfl
    · rw [hnext]
      rfl

/-- Every step keeps the times valid. -/
theorem poolValid_step (hvalid : PoolValid log pool) {step : PoolStep D T}
    (hclocked : ClockedStep readPic log pool step) :
    PoolValid (log ++ [((decoderPool readPic).step pool step).2])
      ((decoderPool readPic).step pool step).1 := by
  obtain ⟨htimed, hfirst⟩ := hclocked
  unfold decoderPool at hfirst ⊢
  cases step with
  | enter thread decoder now =>
    simp only at hfirst ⊢
    cases hstage : pool.stage thread with
    | idle =>
      exact hvalid.kept rfl (Function.update_eq_self decoder pool.decoders).symm rfl htimed
        (Or.inl rfl)
    | entered other => exact hvalid.idle
    | exchanging other connection => exact hvalid.idle
  | connect thread env =>
    simp only at hfirst ⊢
    cases hstage : pool.stage thread with
    | idle => exact hvalid.idle
    | exchanging other connection => exact hvalid.idle
    | entered decoder =>
      simp only [hstage] at hfirst ⊢
      by_cases hlocked : pool.locked decoder = true
      · rw [if_pos hlocked]
        exact hvalid.idle
      · rw [if_neg hlocked] at hfirst ⊢
        exact poolValid_connect hvalid htimed.1 htimed.2 hfirst
  | exchange thread env =>
    simp only at hfirst ⊢
    cases hstage : pool.stage thread with
    | idle => exact hvalid.idle
    | entered other => exact hvalid.idle
    | exchanging decoder connection =>
      simp only [hstage] at hfirst ⊢
      exact poolValid_exchange hvalid htimed hfirst
  | other decoder buffers output =>
    exact hvalid.kept rfl rfl rfl (UInt64.le_refl _) (Or.inl rfl)

/-- A lock is only held with a connection. -/
def DecoderPool.LocksConnected (pool : DecoderPool D T) : Prop :=
  ∀ decoder, pool.locked decoder = true → (pool.decoders decoder).helper ≠ none

/-- Every step keeps the locks to the connected decoders. -/
theorem locksConnected_step (hlocks : pool.LocksConnected) (step : PoolStep D T) :
    ((decoderPool readPic).step pool step).1.LocksConnected := by
  unfold decoderPool
  cases step with
  | enter thread decoder now =>
    simp only
    cases pool.stage thread with
    | idle => exact hlocks
    | entered other => exact hlocks
    | exchanging other connection => exact hlocks
  | connect thread env =>
    simp only
    cases pool.stage thread with
    | idle => exact hlocks
    | exchanging other connection => exact hlocks
    | entered decoder =>
      simp only
      by_cases hlocked : pool.locked decoder = true
      · rw [if_pos hlocked]
        exact hlocks
      rw [if_neg hlocked]
      obtain ⟨helper, _, _, hnext⟩ := decoderConnect_keeps env (pool.process decoder)
      intro other
      unfold DecoderPool.connect DecoderPool.put
      simp only [hnext]
      by_cases hother : other = decoder
      · rw [hother, Function.update_self, Function.update_self]
        exact Option.isSome_iff_ne_none.mp
      · rw [Function.update_of_ne hother, Function.update_of_ne hother]
        exact hlocks other
  | exchange thread env =>
    simp only
    cases pool.stage thread with
    | idle => exact hlocks
    | entered other => exact hlocks
    | exchanging decoder connection =>
      intro other
      unfold DecoderPool.exchange DecoderPool.put
      simp only
      by_cases hother : other = decoder
      · rw [hother, Function.update_self]
        exact fun hfalse => by cases hfalse
      · rw [Function.update_of_ne hother, Function.update_of_ne hother]
        exact hlocks other
  | other decoder buffers output =>
    intro other
    simp only
    by_cases hother : other = decoder
    · rw [hother, Function.update_self]
      exact hlocks decoder
    · rw [Function.update_of_ne hother]
      exact hlocks other

/-- Under valid times, an attempt is late enough. -/
theorem attemptsLate_of_valid (hvalid : PoolValid log pool) {step : PoolStep D T}
    (htimed : step.Timed pool) : AttemptsLate readPic log pool step := by
  intro decoder now hattempt
  have hconnect : ∃ thread env, step = .connect thread env ∧ env.tickCount = now ∧
      connectAttempts env.tickCount (pool.process decoder) := by
    unfold decoderPool at hattempt
    cases step with
    | enter thread other tick =>
      simp only at hattempt
      cases hstage : pool.stage thread <;> simp only [hstage] at hattempt <;> cases hattempt
    | exchange thread env =>
      simp only at hattempt
      cases hstage : pool.stage thread <;> simp only [hstage] at hattempt <;> cases hattempt
    | other other buffers output => cases hattempt
    | connect thread env =>
      simp only at hattempt
      cases hstage : pool.stage thread with
      | idle =>
        rw [hstage] at hattempt
        cases hattempt
      | exchanging other connection =>
        rw [hstage] at hattempt
        cases hattempt
      | entered other =>
        simp only [hstage] at hattempt
        split_ifs at hattempt with hlocked
        unfold DecoderPool.connect at hattempt
        simp only at hattempt
        split_ifs at hattempt with hattempts
        obtain ⟨rfl, rfl⟩ := Prod.mk.inj (Option.some.inj hattempt)
        exact ⟨thread, env, rfl, rfl, hattempts⟩
  obtain ⟨thread, env, rfl, rfl, -, hawake, hstale⟩ := hconnect
  refine ⟨fun failure hlast => ?_, ?_⟩
  · obtain ⟨hprobe, hne, hle⟩ := hvalid.probe_eq failure hlast
    have hbefore : failure ≤ env.tickCount := UInt64.le_trans hle htimed.1
    have hold : ¬env.tickCount - failure < helperProbeCacheMs := by
      intro hrecent
      apply hstale
      show pool.probe.time ≠ 0 ∧ env.tickCount - pool.probe.time < _ ∧ pool.probe.result ≤ 0
      have hnever : (-1 : Int32) ≤ 0 := by decide
      rw [hprobe]
      exact ⟨hne, hrecent, hnever⟩
    rw [UInt64.lt_iff_toNat_lt, UInt64.toNat_sub_of_le _ _ hbefore] at hold
    have hcache : helperProbeCacheMs.toNat = 10000 := rfl
    have hnat := UInt64.le_iff_toNat_le.mp hbefore
    omega
  · by_contra hlt
    refine hawake ⟨fun hzero => hlt ?_, UInt64.not_le.mp hlt⟩
    have hzero' : (pool.decoders decoder).retryAfter = 0 := hzero
    rw [hzero']
    exact UInt64.zero_le

/-- Under valid times, a decoder tries again. -/
theorem attemptsAgain_of_valid (hvalid : PoolValid log pool) (hlocks : pool.LocksConnected)
    {step : PoolStep D T} (htimed : step.Timed pool) : AttemptsAgain readPic log pool step := by
  constructor
  · rintro thread decoder now rfl hidle _ hbitstream hdue
    have henters : endFrameEnters now (pool.decoders decoder) :=
      ⟨hbitstream, hvalid.retryAfter_of_due hdue decoder⟩
    unfold decoderPool DecoderPool.enter
    simp only [hidle]
    rw [Function.update_self, if_pos henters]
  · rintro thread env decoder rfl hentered hnone hdue
    have hlocked : pool.locked decoder = false := by
      rw [← Bool.not_eq_true]
      exact fun hlocked => hlocks decoder hlocked hnone
    have hstale : ¬(pool.probe.time ≠ 0 ∧ env.tickCount - pool.probe.time < helperProbeCacheMs ∧
        pool.probe.result ≤ 0) := by
      rintro ⟨htime, hrecent, -⟩
      cases hlast : lastFailure log with
      | none => exact htime (hvalid.unfailed hlast).1
      | some failure =>
        obtain ⟨hprobe, -, hle⟩ := hvalid.probe_eq failure hlast
        have hbefore : failure ≤ env.tickCount := UInt64.le_trans hle htimed.1
        rw [hprobe, UInt64.lt_iff_toNat_lt, UInt64.toNat_sub_of_le _ _ hbefore] at hrecent
        have hcache : helperProbeCacheMs.toNat = 10000 := rfl
        have hlate := hdue failure hlast
        omega
    have hattempts : connectAttempts env.tickCount (pool.process decoder) :=
      ⟨hnone, hvalid.retryAfter_of_due hdue decoder, hstale⟩
    unfold decoderPool DecoderPool.connect
    simp only [hentered, hlocked, Bool.false_eq_true, if_false]
    rw [if_pos hattempts]

end Step

/-- In every run of the decoders of a process, an attempt to connect comes ten seconds
behind the last failure or later and not before the time of its decoder, and from eleven
seconds behind the last failure on a decoder with a bitstream makes one. -/
theorem reconnect_backoff (descs : D → VideoDecoderDesc) (steps : List (PoolStep D T))
    (hclocked : (decoderPool readPic).Along (ClockedStep readPic) [] (DecoderPool.fresh descs)
      steps) :
    (decoderPool readPic).Along
      (fun log pool step => AttemptsLate readPic log pool step ∧
        AttemptsAgain readPic log pool step) [] (DecoderPool.fresh descs) steps := by
  refine Machine.along_of_invariant (fun log pool => PoolValid log pool ∧ pool.LocksConnected)
    (fun _ _ step hvalid hstep =>
      ⟨poolValid_step hvalid.1 hstep, locksConnected_step hvalid.2 step⟩)
    (fun _ _ _ hvalid hstep => ⟨attemptsLate_of_valid hvalid.1 hstep.1,
      attemptsAgain_of_valid hvalid.1 hvalid.2 hstep.1⟩) ⟨?_, ?_⟩ hclocked
  · constructor
    · exact fun _ => ⟨rfl, fun _ => rfl⟩
    · intro failure hsome
      cases hsome
    · intro failure hsome
      cases hsome
  · intro decoder hlocked
    cases hlocked

end Pool

/-- Two decoders with one byte of bitstream each.  The first one fails to connect at 7 ms,
and the second one tries ten seconds later. -/
def twoDecodersSteps : List (PoolStep Bool Bool) :=
  let loaded : Fin dxvaBufferCount → DecoderBuffer := fun _ =>
    { data := some [0], capacity := 1, size := 1 }
  [.other false loaded none, .other true loaded none, .enter false false 5,
    .connect false { tickCount := 5, connect := false, failureTick := 7 },
    .enter true true 10008,
    .connect true { tickCount := 10009, connect := false, failureTick := 10009 }]

/-- Both attempts of the run are late enough. -/
theorem two_decoders_backoff :
    (decoderPool fun _ => default).Along
      (fun log pool step => AttemptsLate (fun _ => default) log pool step ∧
        AttemptsAgain (fun _ => default) log pool step) []
        (DecoderPool.fresh fun _ : Bool => ⟨2, 2⟩) twoDecodersSteps := by
  apply reconnect_backoff
  unfold twoDecodersSteps
  simp only [Machine.along_cons, Machine.along_nil, and_true]
  refine ⟨⟨trivial, fun _ => ?_⟩, ⟨trivial, fun _ => ?_⟩, ⟨?_, fun _ => ?_⟩,
    ⟨⟨?_, ?_⟩, fun _ => ?_⟩, ⟨?_, fun _ => ?_⟩, ⟨?_, ?_⟩, fun _ => ?_⟩
  all_goals decide

end UuAmfBridge
