import UuAmfBridge.Lib.FixedWidth
import UuAmfBridge.Lib.Machine

/-!
# The client slots of the helper

The accept loop of `main` and `client_thread` of `src/amf_helper.c`.  A connection takes a
slot when the loop increments `active_clients`, and the test of the limit is part of the
increment.  The slot is given back on three paths: by the loop when the limit is reached,
by the loop when `pthread_create` fails, and by the thread at its end.

The loop and the threads take their statements one at a time, in any order.  The loop
`holds` a slot from the increment on until it gives the slot back or hands it over to a
thread, and a thread from its creation on until its decrement.

* `HelperProcess.Valid`: `active_clients` is the number of slots that are held.
* `client_slots_kept`: in every run there are at most 16 sessions, a connection is refused
  exactly when 16 threads hold their slot, and without threads the counter is back to zero.
-/

namespace UuAmfBridge

/-- `HELPER_MAX_CLIENTS`. -/
def helperMaxClients : Int32 := 16

/-- Where the accept loop is. -/
inductive AcceptLoop where
  | accepting
  /-- In front of the increment. -/
  | accepted (client : Int32)
  /-- Behind the increment, over the limit. -/
  | refusing (client : Int32)
  /-- Behind the increment, in front of `pthread_create`. -/
  | spawning (client : Int32)
  | spawnFailed (client : Int32)
  /-- Behind the decrement, in front of `close`. -/
  | closing (client : Int32)
  | stopped
  deriving Repr, DecidableEq

/-- The loop has incremented the counter, and has neither decremented it nor started a
thread. -/
def AcceptLoop.holds : AcceptLoop → Bool
  | .refusing _ => true
  | .spawning _ => true
  | .spawnFailed _ => true
  | _ => false

/-- Where a `client_thread` is. -/
inductive ClientThread where
  /-- In `handle_client`. -/
  | serving (client : Int32)
  | closing (client : Int32)
  /-- In front of the decrement. -/
  | leaving
  | ended
  deriving Repr, DecidableEq

/-- The thread serves a session. -/
def ClientThread.serves : ClientThread → Bool
  | .serving _ => true
  | _ => false

/-- The thread has not decremented the counter yet. -/
def ClientThread.holds : ClientThread → Bool
  | .ended => false
  | _ => true

/-- The accept loop, the threads it has started, and `active_clients`. -/
structure HelperProcess where
  loop : AcceptLoop := .accepting
  threads : List ClientThread := []
  activeClients : Int32 := 0
  deriving Repr, DecidableEq

/-- What happens in a statement of the accept loop. -/
structure AcceptEnv where
  /-- What `accept` returns; `interrupted` is `errno == EINTR`. -/
  client : Int32 := 0
  interrupted : Bool := false
  created : Bool := true

/-- The next statement of the accept loop. -/
def HelperProcess.acceptStep (env : AcceptEnv) (process : HelperProcess) : HelperProcess :=
  match process.loop with
  | .accepting =>
      if env.client < 0 then
        if env.interrupted then process else { process with loop := .stopped }
      else { process with loop := .accepted env.client }
  | .accepted client =>
      { process with
        activeClients := process.activeClients + 1
        loop := if process.activeClients ≥ helperMaxClients then .refusing client
          else .spawning client }
  | .refusing client =>
      { process with activeClients := process.activeClients - 1, loop := .closing client }
  | .spawning client =>
      if env.created then
        { process with threads := process.threads ++ [.serving client], loop := .accepting }
      else { process with loop := .spawnFailed client }
  | .spawnFailed client =>
      { process with activeClients := process.activeClients - 1, loop := .closing client }
  | .closing _ => { process with loop := .accepting }
  | .stopped => process

/-- The next statement of a thread. -/
def HelperProcess.threadStep (i : Nat) (process : HelperProcess) : HelperProcess :=
  match process.threads[i]? with
  | some (.serving client) => { process with threads := process.threads.set i (.closing client) }
  | some (.closing _) => { process with threads := process.threads.set i .leaving }
  | some .leaving =>
      { process with
        activeClients := process.activeClients - 1
        threads := process.threads.set i .ended }
  | _ => process

/-- A statement of the loop or of a thread. -/
inductive HelperStep where
  | accept (env : AcceptEnv)
  | thread (i : Nat)

/-- The loop and the threads, in any order. -/
def helperThreads : Machine HelperProcess HelperStep Unit where
  step process step :=
    match step with
    | .accept env => (process.acceptStep env, ())
    | .thread i => (process.threadStep i, ())

/-! ## The slots -/

/-- The sessions that are being served. -/
def HelperProcess.sessions (process : HelperProcess) : Nat :=
  process.threads.countP ClientThread.serves

/-- The threads that have not decremented the counter yet. -/
def HelperProcess.holding (process : HelperProcess) : Nat :=
  process.threads.countP ClientThread.holds

/-- The slots that are held. -/
def HelperProcess.held (process : HelperProcess) : Nat :=
  process.holding + if process.loop.holds then 1 else 0

/-- The counter is the number of held slots, and there is one left for a thread that is
about to be created. -/
structure HelperProcess.Valid (process : HelperProcess) : Prop where
  active_eq : process.activeClients.toInt = process.held
  holding_le : process.holding ≤ 16
  spawning_lt : ∀ client, process.loop = .spawning client → process.holding < 16

/-- There are at most 16 sessions, the counter is the number of held slots, and it is zero
when no thread and not the loop holds one. -/
structure SlotsKept (process : HelperProcess) : Prop where
  sessions_le : process.sessions ≤ 16
  active_eq : process.activeClients.toInt =
    (process.holding + if process.loop.holds then 1 else 0 : Nat)
  active_zero : (∀ thread ∈ process.threads, thread = .ended) → process.loop.holds = false →
    process.activeClients = 0

/-- The test of the limit refuses a connection exactly when 16 threads hold their slot. -/
def RefusesWhenFull (process : HelperProcess) (step : HelperStep) : Prop :=
  ∀ env client, step = .accept env → process.loop = .accepted client →
    ((helperThreads.step process step).1.loop = .refusing client ↔ process.holding = 16)

/-- A thread of the list goes on. -/
theorem holding_set {threads : List ClientThread} {i : Nat} {old : ClientThread}
    (h : threads[i]? = some old) (new : ClientThread) :
    (threads.set i new).countP ClientThread.holds + (if old.holds then 1 else 0) =
      threads.countP ClientThread.holds + (if new.holds then 1 else 0) := by
  obtain ⟨hlt, hold⟩ := List.getElem?_eq_some_iff.mp h
  have hle := @List.boole_getElem_le_countP _ ClientThread.holds threads i hlt
  rw [List.countP_set hlt]
  rw [hold] at hle ⊢
  omega

/-! ## One statement -/

/-- The counter after a slot has been taken. -/
theorem HelperProcess.Valid.add_one {process : HelperProcess} (h : process.Valid) :
    (process.activeClients + 1).toInt = (process.held + 1 : Nat) := by
  have hle := h.holding_le
  have hheld : process.held ≤ 17 := by
    unfold HelperProcess.held
    split_ifs <;> omega
  have hone : (1 : Int32).toInt = 1 := rfl
  exact toInt_add_eq h.active_eq hone (by omega) (by omega)

/-- The counter after a slot has been given back. -/
theorem HelperProcess.Valid.sub_one {process : HelperProcess} (h : process.Valid) {rest : Nat}
    (hrest : process.held = rest + 1) : (process.activeClients - 1).toInt = rest := by
  have hle := h.holding_le
  have hheld : process.held ≤ 17 := by
    unfold HelperProcess.held
    split_ifs <;> omega
  have hone : (1 : Int32).toInt = 1 := rfl
  rw [toInt_sub_eq h.active_eq hone (by omega) (by omega)]
  omega

/-- The test of the limit, on the counter. -/
theorem HelperProcess.Valid.full_iff {process : HelperProcess} (h : process.Valid)
    (hloop : process.loop.holds = false) :
    process.activeClients ≥ helperMaxClients ↔ process.holding = 16 := by
  have hactive := h.active_eq
  have hle := h.holding_le
  have hlimit : helperMaxClients.toInt = 16 := rfl
  unfold HelperProcess.held at hactive
  rw [hloop, if_neg Bool.false_ne_true, Nat.add_zero] at hactive
  rw [ge_iff_le, Int32.le_iff_toInt_le, hlimit, hactive]
  omega

/-- The accept loop gives back exactly the slots it takes, unless it hands them over. -/
theorem HelperProcess.Valid.acceptStep {process : HelperProcess} (h : process.Valid)
    (env : AcceptEnv) : (process.acceptStep env).Valid := by
  obtain ⟨loop, threads, activeClients⟩ := process
  obtain ⟨hactive, hle, hspawning⟩ := id h
  unfold HelperProcess.acceptStep
  cases loop with
  | accepting =>
    simp only
    split_ifs
    · exact h
    · exact ⟨hactive, hle, fun _ hloop => by cases hloop⟩
    · exact ⟨hactive, hle, fun _ hloop => by cases hloop⟩
  | accepted client =>
    have hheld : ∀ loop : AcceptLoop, loop.holds = true →
        HelperProcess.held ⟨loop, threads, activeClients + 1⟩ =
          HelperProcess.held ⟨.accepted client, threads, activeClients⟩ + 1 := by
      intro loop hloop
      unfold HelperProcess.held
      rw [if_pos hloop]
      rfl
    by_cases hlimit : activeClients ≥ helperMaxClients
    · simp only [if_pos hlimit]
      refine ⟨?_, hle, fun _ hloop => by cases hloop⟩
      rw [hheld _ rfl]
      exact h.add_one
    · simp only [if_neg hlimit]
      refine ⟨?_, hle, fun _ _ => ?_⟩
      · rw [hheld _ rfl]
        exact h.add_one
      · exact Nat.lt_of_le_of_ne hle (mt (h.full_iff rfl).mpr hlimit)
  | refusing client => exact ⟨h.sub_one rfl, hle, fun _ hloop => by cases hloop⟩
  | spawnFailed client => exact ⟨h.sub_one rfl, hle, fun _ hloop => by cases hloop⟩
  | spawning client =>
    simp only
    by_cases hcreated : env.created = true
    · rw [if_pos hcreated]
      have hlt := hspawning client rfl
      have hholding : ∀ loop : AcceptLoop, HelperProcess.holding
          ⟨loop, threads ++ [.serving client], activeClients⟩ =
            HelperProcess.holding ⟨.spawning client, threads, activeClients⟩ + 1 := by
        intro loop
        unfold HelperProcess.holding
        rw [List.countP_append]
        rfl
      refine ⟨?_, ?_, fun _ hloop => by cases hloop⟩
      · unfold HelperProcess.held at hactive ⊢
        rw [hholding]
        exact hactive
      · rw [hholding]
        exact hlt
    · rw [if_neg hcreated]
      exact ⟨hactive, hle, fun _ hloop => by cases hloop⟩
  | closing client => exact ⟨hactive, hle, fun _ hloop => by cases hloop⟩
  | stopped => exact h

/-- Threads that hold as many slots. -/
theorem HelperProcess.Valid.congr_threads {loop : AcceptLoop} {threads others : List ClientThread}
    {activeClients : Int32} (h : HelperProcess.Valid ⟨loop, threads, activeClients⟩)
    (hsame : others.countP ClientThread.holds = threads.countP ClientThread.holds) :
    HelperProcess.Valid ⟨loop, others, activeClients⟩ := by
  obtain ⟨hactive, hle, hspawning⟩ := h
  have hholding : HelperProcess.holding ⟨loop, others, activeClients⟩ =
      HelperProcess.holding ⟨loop, threads, activeClients⟩ := hsame
  refine ⟨?_, ?_, fun client hloop => ?_⟩
  · unfold HelperProcess.held at hactive ⊢
    rw [hholding]
    exact hactive
  · rw [hholding]
    exact hle
  · rw [hholding]
    exact hspawning client hloop

/-- A thread gives back its slot at its end. -/
theorem HelperProcess.Valid.threadStep {process : HelperProcess} (h : process.Valid) (i : Nat) :
    (process.threadStep i).Valid := by
  obtain ⟨loop, threads, activeClients⟩ := process
  obtain ⟨hactive, hle, hspawning⟩ := id h
  unfold HelperProcess.threadStep
  dsimp only
  cases hthread : threads[i]? with
  | none => exact h
  | some old =>
    have hset := holding_set hthread
    cases old with
    | ended => exact h
    | serving client =>
      have hsame : (threads.set i (.closing client)).countP ClientThread.holds =
          threads.countP ClientThread.holds := Nat.add_right_cancel (hset (.closing client))
      exact h.congr_threads hsame
    | closing client =>
      have hsame : (threads.set i .leaving).countP ClientThread.holds =
          threads.countP ClientThread.holds := Nat.add_right_cancel (hset .leaving)
      exact h.congr_threads hsame
    | leaving =>
      have hone : (threads.set i .ended).countP ClientThread.holds + 1 =
          threads.countP ClientThread.holds := hset .ended
      have hfewer : HelperProcess.holding ⟨loop, threads.set i .ended, activeClients - 1⟩ + 1 =
          HelperProcess.holding ⟨loop, threads, activeClients⟩ := hone
      refine ⟨h.sub_one ?_, ?_, fun client hloop => ?_⟩
      · unfold HelperProcess.held
        simp only
        omega
      · show HelperProcess.holding ⟨loop, threads.set i .ended, activeClients - 1⟩ ≤ 16
        omega
      · have hlt := hspawning client hloop
        show HelperProcess.holding ⟨loop, threads.set i .ended, activeClients - 1⟩ < 16
        omega

/-! ## Whole runs -/

/-- Every statement keeps the slots valid. -/
theorem valid_step {process : HelperProcess} (h : process.Valid) (step : HelperStep) :
    (helperThreads.step process step).1.Valid := by
  cases step with
  | accept env => exact h.acceptStep env
  | thread i => exact h.threadStep i

/-- A thread that serves a session holds a slot. -/
theorem sessions_le_holding (process : HelperProcess) : process.sessions ≤ process.holding := by
  refine List.countP_mono_left fun thread _ hserves => ?_
  cases thread with
  | serving client => rfl
  | closing client => cases hserves
  | leaving => cases hserves
  | ended => cases hserves

theorem slotsKept_of_valid {process : HelperProcess} (h : process.Valid) : SlotsKept process where
  sessions_le := (sessions_le_holding process).trans h.holding_le
  active_eq := h.active_eq
  active_zero := by
    intro hended hloop
    have hnone : process.holding = 0 := by
      refine List.countP_eq_zero.mpr fun thread hmem => ?_
      rw [hended thread hmem]
      exact Bool.false_ne_true
    have hactive := h.active_eq
    unfold HelperProcess.held at hactive
    rw [hnone, hloop, if_neg Bool.false_ne_true] at hactive
    exact Int32.toInt_inj.mp hactive

theorem refusesWhenFull_of_valid {process : HelperProcess} (h : process.Valid)
    (step : HelperStep) : RefusesWhenFull process step := by
  rintro env client rfl hloop
  have hfull := h.full_iff (by rw [hloop]; rfl)
  show (process.acceptStep env).loop = .refusing client ↔ _
  unfold HelperProcess.acceptStep
  simp only [hloop]
  rw [← hfull]
  by_cases hlimit : process.activeClients ≥ helperMaxClients
  · rw [if_pos hlimit]
    exact iff_of_true rfl hlimit
  · rw [if_neg hlimit]
    exact iff_of_false (fun hrefusing => by cases hrefusing) hlimit

/-- In every run of the accept loop and its threads the slots are kept, and a connection is
refused exactly when 16 threads hold theirs. -/
theorem client_slots_kept (steps : List HelperStep) :
    helperThreads.Along (fun _ process step => SlotsKept process ∧
      SlotsKept (helperThreads.step process step).1 ∧
        RefusesWhenFull process step) [] {} steps := by
  refine Machine.along_of_invariant (fun _ process => process.Valid)
    (fun _ _ step h _ => valid_step h step) (fun _ _ step h _ => ?_) ?_
    (Machine.along_of_forall (fun _ _ _ => trivial) _ _ _)
  · exact ⟨slotsKept_of_valid h, slotsKept_of_valid (valid_step h step),
      refusesWhenFull_of_valid h step⟩
  · exact ⟨rfl, Nat.zero_le 16, fun _ hloop => by cases hloop⟩

end UuAmfBridge
