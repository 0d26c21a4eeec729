import UuAmfBridge.Capture.EisInput

/-!
# How often the helper connects to the compositor

`ensure_eis` of `src/wayland_capture_helper.cpp` sets `eis_retry_after_` five
seconds ahead before it calls `connectToEIS`, and does not call it before that
time.  `dispatch_eis` sets the time back to zero when it meets a disconnect, and
the loop of `ensure_eis` that waits for devices calls `dispatch_eis`.

* `awaitDevices_retryAfter`: a loop that ends without the devices leaves the time
  as it was, unless it meets a disconnect (`meetsDisconnect`).
* `eis_attempts_limited_iff`: over every run of batches, a failed attempt holds off
  every later one for five seconds exactly when it meets no disconnect.

The times are readings of `time`, in whole seconds.
-/

namespace UuAmfBridge

variable {D : Type*} [DecidableEq D]

/-! ## Attempts -/

omit [DecidableEq D] in
/-- `ensure_eis` goes on to `connectToEIS`. -/
def EnsureEnv.Attempts (env : EnsureEnv D) (bridge : InputBridge D) : Prop :=
  bridge.eis = none ∧ bridge.retryAfter ≤ env.now

/-- The attempt does not end with the bridge ready. -/
def EnsureEnv.Fails (caps : D → Capability → Bool) (env : EnsureEnv D)
    (bridge : InputBridge D) : Prop :=
  env.Attempts bridge ∧ (ensureEis caps env bridge).2 = false

omit [DecidableEq D] in
/-- One of the dispatches of the waiting loop meets a disconnect, before a `poll`
that fails. -/
def meetsDisconnect : Nat → List (Dispatch D) → Bool
  | 0, _ => false
  | _ + 1, [] => false
  | attempts + 1, dispatch :: dispatches =>
      dispatch.poll ≠ .error &&
        (dispatch.events.any (·.type = .disconnect) || meetsDisconnect attempts dispatches)

omit [DecidableEq D] in
/-- The connection of the attempt is lost while it waits for devices. -/
def EnsureEnv.disconnected (env : EnsureEnv D) : Bool :=
  match env.connect with
  | .connected dispatches => meetsDisconnect 40 dispatches
  | _ => false

/-! ## What a failed attempt leaves -/

variable {caps : D → Capability → Bool}

/-- Events do not change the time. -/
theorem handleEvents_retryAfter (events : List (EiEvent D)) (bridge : InputBridge D) :
    (events.foldl (InputBridge.handleEvent caps) bridge).retryAfter = bridge.retryAfter := by
  induction events generalizing bridge with
  | nil => rfl
  | cons event events ih =>
    rw [List.foldl_cons, ih]
    obtain ⟨type, device⟩ := event
    cases type <;> cases device <;> rfl

theorem handleEvents_eis_isSome (events : List (EiEvent D)) (bridge : InputBridge D) :
    (events.foldl (InputBridge.handleEvent caps) bridge).eis.isSome = bridge.eis.isSome := by
  induction events generalizing bridge with
  | nil => rfl
  | cons event events ih => rw [List.foldl_cons, ih, handleEvent_eis_isSome]

/-- A dispatch on a connection. -/
theorem dispatchEis_of_connected (caps : D → Capability → Bool) {bridge : InputBridge D}
    (heis : bridge.eis.isSome = true) (dispatch : Dispatch D) :
    dispatchEis caps dispatch bridge =
      if dispatch.poll = .error then (bridge, false)
      else if dispatch.events.any (·.type = .disconnect) = true then
        ({ (dispatch.events.foldl (InputBridge.handleEvent caps) bridge).reset with
          retryAfter := 0 }, false)
      else (dispatch.events.foldl (InputBridge.handleEvent caps) bridge, true) := by
  have hsome : ¬bridge.eis.isNone = true := by
    simpa [Option.isSome_iff_ne_none] using heis
  unfold dispatchEis
  rw [if_neg hsome]

/-- A waiting loop that ends without the devices leaves the time as it was, unless
a disconnect has set it to zero. -/
theorem awaitDevices_retryAfter (caps : D → Capability → Bool) (attempts : Nat)
    (dispatches : List (Dispatch D)) (bridge : InputBridge D) (heis : bridge.eis.isSome = true)
    (hfails : (awaitDevices caps attempts dispatches bridge).usable = false) :
    (awaitDevices caps attempts dispatches bridge).retryAfter =
      if meetsDisconnect attempts dispatches then 0 else bridge.retryAfter := by
  induction attempts generalizing dispatches bridge with
  | zero => rfl
  | succ attempts ih =>
    unfold awaitDevices at hfails ⊢
    by_cases husable : bridge.usable = true
    · rw [if_pos husable] at hfails
      rw [husable] at hfails
      cases hfails
    rw [if_neg husable] at hfails ⊢
    cases dispatches with
    | nil =>
      -- Nothing more arrives, and the loop goes round until it gives up.
      have hquiet : dispatchEis caps {} bridge = (bridge, true) := by
        rw [dispatchEis_of_connected caps heis]
        rfl
      have hnone : meetsDisconnect attempts ([] : List (Dispatch D)) = false := by
        cases attempts <;> rfl
      simp only [List.headD_nil, hquiet, List.tail_nil, if_true] at hfails ⊢
      rw [ih [] bridge heis hfails, hnone]
      rfl
    | cons dispatch dispatches =>
      have hdispatch := dispatchEis_of_connected caps heis dispatch
      simp only [List.headD_cons, List.tail_cons, meetsDisconnect] at hfails ⊢
      by_cases hpoll : dispatch.poll = .error
      · rw [if_pos hpoll] at hdispatch
        simp [hdispatch, hpoll]
      rw [if_neg hpoll] at hdispatch
      by_cases hlost : dispatch.events.any (·.type = .disconnect) = true
      · rw [if_pos hlost] at hdispatch
        simp [hdispatch, hpoll, hlost]
      · rw [if_neg hlost] at hdispatch
        simp only [hdispatch, if_true] at hfails ⊢
        rw [ih dispatches _ (by rw [handleEvents_eis_isSome]; exact heis) hfails,
          handleEvents_retryAfter]
        simp [hpoll, hlost]

/-- What a failed attempt leaves: no connection, and a time five seconds after it was
marked unless it has met a disconnect. -/
theorem ensureEis_of_fails {env : EnsureEnv D} {bridge : InputBridge D}
    (h : env.Fails caps bridge) :
    (ensureEis caps env bridge).1.eis = none ∧
      (ensureEis caps env bridge).1.retryAfter =
        if env.disconnected then 0 else env.marked + 5 := by
  obtain ⟨⟨hnone, hdue⟩, hfails⟩ := h
  have hsome : ¬bridge.eis.isSome = true := by
    rw [hnone]
    exact Bool.false_ne_true
  unfold ensureEis at hfails ⊢
  unfold EnsureEnv.disconnected
  rw [if_neg hsome, if_neg (not_lt.mpr hdue)] at hfails ⊢
  cases hconnect : env.connect with
  | connected dispatches =>
    rw [hconnect] at hfails
    simp only at hfails ⊢
    split_ifs at hfails ⊢ with husable hlost
    all_goals
      have hawait := awaitDevices_retryAfter caps 40 dispatches
        { bridge with retryAfter := env.marked + 5, eis := some ⟨fun _ => false⟩ }
        rfl (by simpa using husable)
      refine ⟨rfl, hawait.trans ?_⟩
    · rw [if_pos hlost]
    · rw [if_neg hlost]
  | noBackend => exact ⟨rfl, rfl⟩
  | _ => exact ⟨hnone, rfl⟩

/-! ## The attempts of a run -/

/-- The times a batch reads. -/
def SendOp.times (op : SendOp D) : List Int := [op.ensure.now, op.ensure.marked]

/-- A failed attempt holds off every later one: whatever batches follow it, with a
clock that does not go back, an attempt comes five seconds after it was marked or
later. -/
def HoldsOff (caps : D → Capability → Bool) (regions : D → Option EiRegion)
    (log : List (SentBatch D)) (bridge : InputBridge D) (op : SendOp D) : Prop :=
  op.ensure.Fails caps bridge → ∀ later : List (SendOp D),
    (op.ensure.marked :: later.flatMap SendOp.times).Pairwise (· ≤ ·) →
    (inputBridge caps regions).Along
      (fun _ next batch => batch.ensure.Attempts next →
        op.ensure.marked + 5 ≤ batch.ensure.now)
      (log ++ [((inputBridge caps regions).step bridge op).2])
      ((inputBridge caps regions).step bridge op).1 later

/-- A batch that neither has a connection nor attempts one leaves the bridge as it
is. -/
theorem sendInput_waits {regions : D → Option EiRegion} {op : SendOp D} {bridge : InputBridge D}
    (hnone : bridge.eis = none) (hearly : op.ensure.now < bridge.retryAfter) :
    (sendInput caps regions op bridge).bridge = bridge := by
  have hensure : ensureEis caps op.ensure bridge = (bridge, false) := by
    unfold ensureEis
    rw [if_neg (by rw [hnone]; exact Bool.false_ne_true), if_pos hearly]
  unfold sendInput
  rw [hensure]
  simp only [Bool.false_eq_true, if_false]
  split_ifs <;> rfl

/-- A batch whose attempt fails leaves what `ensure_eis` leaves. -/
theorem sendInput_of_fails {regions : D → Option EiRegion} {op : SendOp D} {bridge : InputBridge D}
    (h : op.ensure.Fails caps bridge) :
    (sendInput caps regions op bridge).bridge = (ensureEis caps op.ensure bridge).1 := by
  have hfails := h.2
  unfold sendInput
  simp only [hfails, Bool.false_eq_true, if_false]
  split_ifs <;> rfl

/-- While the time to wait for is ahead, the batches of a run do not attempt; the
first one that does comes after that time, and so does every batch behind it. -/
theorem attempts_wait {regions : D → Option EiRegion} {limit : Int} (later : List (SendOp D))
    {log : List (SentBatch D)} {bridge : InputBridge D} (hnone : bridge.eis = none)
    (hlimit : limit ≤ bridge.retryAfter)
    (hclock : (later.flatMap SendOp.times).Pairwise (· ≤ ·)) :
    (inputBridge caps regions).Along
      (fun _ next batch => batch.ensure.Attempts next → limit ≤ batch.ensure.now)
      log bridge later := by
  induction later generalizing log bridge with
  | nil => trivial
  | cons op later ih =>
    have hrest : (later.flatMap SendOp.times).Pairwise (· ≤ ·) := by
      rw [List.flatMap_cons, List.pairwise_append] at hclock
      exact hclock.2.1
    rw [Machine.along_cons]
    by_cases hearly : op.ensure.now < bridge.retryAfter
    · have hkept : ((inputBridge caps regions).step bridge op).1 = bridge :=
        sendInput_waits hnone hearly
      rw [hkept]
      exact ⟨fun h => absurd h.2 (not_le.mpr hearly), ih hnone hlimit hrest⟩
    · have hnow : limit ≤ op.ensure.now := le_trans hlimit (not_lt.mp hearly)
      refine ⟨fun _ => hnow, ?_⟩
      apply Machine.Along.mono (P := fun _ _ batch => limit ≤ batch.ensure.now)
      · intro _ _ batch hbatch _
        exact hbatch
      · apply Machine.along_of_forall_mem (C := fun batch : SendOp D => limit ≤ batch.ensure.now)
        intro batch hbatch
        rw [List.flatMap_cons, List.pairwise_append] at hclock
        have htime : batch.ensure.now ∈ later.flatMap SendOp.times :=
          List.mem_flatMap.mpr ⟨batch, hbatch, List.mem_cons_self⟩
        exact le_trans hnow (hclock.2.2 _ List.mem_cons_self _ htime)

/-- A failed attempt holds off the later ones exactly when it meets no disconnect,
or the clock is so far before the epoch that a time of zero is late enough. -/
theorem holdsOff_iff {regions : D → Option EiRegion} (log : List (SentBatch D))
    (bridge : InputBridge D) (op : SendOp D) :
    HoldsOff caps regions log bridge op ↔
      (op.ensure.Fails caps bridge →
        op.ensure.disconnected = true → op.ensure.marked + 5 ≤ 0) := by
  constructor
  · intro h hfails hlost
    by_contra hlate
    obtain ⟨hnone, hzero⟩ := ensureEis_of_fails hfails
    rw [if_pos hlost] at hzero
    have hnext : ((inputBridge caps regions).step bridge op).1 =
        (ensureEis caps op.ensure bridge).1 := sendInput_of_fails hfails
    -- A batch at once, or when the clock reaches zero.
    let again : SendOp D :=
      { events := [], ensure := { now := max op.ensure.marked 0 } }
    have hclock : (op.ensure.marked :: [again].flatMap SendOp.times).Pairwise (· ≤ ·) := by
      simp [again, SendOp.times]
    have hrun := (h hfails [again] hclock).1
    rw [hnext] at hrun
    have hattempts : again.ensure.Attempts (ensureEis caps op.ensure bridge).1 := by
      refine ⟨hnone, ?_⟩
      rw [hzero]
      exact le_max_right _ _
    have hfive : op.ensure.marked + 5 ≤ max op.ensure.marked 0 := hrun hattempts
    omega
  · intro h hfails later hclock
    obtain ⟨hnone, htime⟩ := ensureEis_of_fails hfails
    have hnext : ((inputBridge caps regions).step bridge op).1 =
        (ensureEis caps op.ensure bridge).1 := sendInput_of_fails hfails
    rw [hnext]
    apply attempts_wait later hnone
    · rw [htime]
      split_ifs with hlost
      · exact h hfails hlost
      · exact le_refl _
    · exact (List.pairwise_cons.mp hclock).2

/-- Over every run of batches, every failed attempt holds off the later ones for five
seconds exactly when none of them loses its connection while it waits for devices. -/
theorem eis_attempts_limited_iff (caps : D → Capability → Bool) (regions : D → Option EiRegion)
    (ops : List (SendOp D)) :
    (inputBridge caps regions).Along (HoldsOff caps regions) [] {} ops ↔
      (inputBridge caps regions).Along
        (fun _ bridge op => op.ensure.Fails caps bridge →
          op.ensure.disconnected = true → op.ensure.marked + 5 ≤ 0) [] {} ops := by
  constructor
  · exact Machine.Along.mono fun log bridge op h => (holdsOff_iff log bridge op).mp h
  · exact Machine.Along.mono fun log bridge op h => (holdsOff_iff log bridge op).mpr h

/-- An attempt at the time 100 whose connection is lost at once. -/
def lostHandshake : SendOp Unit :=
  { events := []
    ensure := { now := 100, connect := .connected [{ events := [⟨.disconnect, none⟩] }] } }

/-- The next batch attempts again in the same second. -/
theorem lost_handshake_attempts_again :
    ¬(inputBridge (fun _ _ => true) fun _ => none).Along
      (HoldsOff (fun _ _ => true) fun _ => none) [] {} [lostHandshake] := by
  intro h
  have hfails : lostHandshake.ensure.Fails (fun _ _ => true) {} := by
    refine ⟨⟨rfl, ?_⟩, rfl⟩
    show (0 : Int) ≤ 100
    decide
  have hlate : (100 : Int) + 5 ≤ 0 := (holdsOff_iff _ _ _).mp h.1 hfails rfl
  omega

end UuAmfBridge
