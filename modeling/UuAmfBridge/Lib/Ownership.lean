import Mathlib.Algebra.Order.Group.Multiset
import UuAmfBridge.Lib.Machine

/-!
# Threads that own what they have acquired

The threads of one process acquire resources, such as descriptors and blocks of memory, use
them and give them back.  A resource has a kind and a name.  The system hands out any name
that is not in use, so a name comes back, and a thread that gives a resource back twice may
give back one that has become another thread's.

`ThreadPool.owner` keeps the owner of every resource in use, and a step is in order if the
thread that takes it owns what it touches.  A thread that starts another one hands resources
over to it.  A monitor guards resources that the threads share: who enters it owns them until
it leaves, and leaves what the monitor protects in a state that keeps the invariant.

* `ThreadSystem.Owns` says of a program that its steps are in order and what it owns at its
  end, by recursion on the program.  It looks at one thread only.
* `Spec` is the same with a frame: what a program needs, and what it leaves.  `Spec.bind`
  runs two programs one behind the other, and `Spec.frame` adds what they do not touch.
* `ThreadSystem.run_inOrder`: if the body of every thread owns what it touches and gives
  back all that it has been given, then the steps of all threads are in order, whichever way
  they are interleaved, and a thread that has ended owns nothing.
-/

namespace UuAmfBridge

/-- A resource, by its kind and its name. -/
abbrev Resource (κ : Type) : Type := κ × Nat

/-- What a thread still has to do, down to its result.  The resources have kinds `κ`, the
monitor protects a `σ`, and a thread starts with an argument `τ`. -/
inductive Program (κ σ τ α : Type) where
  | ret (value : α)
  /-- The whole process is at its end. -/
  | crash
  | acquire (kind : κ) (next : Nat → Program κ σ τ α)
  | release (r : Resource κ) (next : Program κ σ τ α)
  | touch (r : Resource κ) (next : Program κ σ τ α)
  | fork (arg : τ) (next : Program κ σ τ α)
  | lock (next : σ → Program κ σ τ α)
  | unlock (s : σ) (next : Program κ σ τ α)

namespace Program

variable {κ σ τ α β : Type}

/-- One program behind another. -/
def bind : Program κ σ τ α → (α → Program κ σ τ β) → Program κ σ τ β
  | .ret value, f => f value
  | .crash, _ => .crash
  | .acquire kind next, f => .acquire kind fun name => (next name).bind f
  | .release r next, f => .release r (next.bind f)
  | .touch r next, f => .touch r (next.bind f)
  | .fork arg next, f => .fork arg (next.bind f)
  | .lock next, f => .lock fun s => (next s).bind f
  | .unlock s next, f => .unlock s (next.bind f)

instance : Monad (Program κ σ τ) where
  pure := .ret
  bind := bind

end Program

namespace Thread

variable {κ σ τ α : Type}

/-- A new resource of a kind. -/
def take (kind : κ) : Program κ σ τ Nat := .acquire kind .ret

/-- Give a resource back. -/
def release (r : Resource κ) : Program κ σ τ Unit := .release r (.ret ())

/-- Use a resource. -/
def touch (r : Resource κ) : Program κ σ τ Unit := .touch r (.ret ())

/-- Start a thread. -/
def fork (arg : τ) : Program κ σ τ Unit := .fork arg (.ret ())

/-- Run a section in the monitor, which may change what the monitor protects. -/
def synchronized (body : σ → Program κ σ τ (σ × α)) : Program κ σ τ α :=
  .lock fun s => body s >>= fun value => .unlock value.1 (.ret value.2)

/-- A new resource, or the null pointer. -/
def allocate (kind : κ) (succeeds : Bool) : Program κ σ τ (Option Nat) :=
  if succeeds then take kind >>= fun name => pure (some name) else pure none

/-- Give back what a pointer points to; nothing happens to the null pointer. -/
def giveBack (kind : κ) : Option Nat → Program κ σ τ Unit
  | none => pure ()
  | some name => release (kind, name)

/-- Use what a pointer points to.  The use of the null pointer ends the process. -/
def dereference (kind : κ) : Option Nat → Program κ σ τ Unit
  | none => .crash
  | some name => touch (kind, name)

/-- What a pointer points to. -/
def target (kind : κ) : Option Nat → Multiset (Resource κ)
  | none => 0
  | some name => {(kind, name)}

@[simp] theorem target_none (kind : κ) : target kind none = 0 := rfl

@[simp] theorem target_some (kind : κ) (name : Nat) : target kind (some name) = {(kind, name)} :=
  rfl

end Thread

/-- The owner of a resource. -/
inductive Owner where
  | thread (i : Nat)
  | monitor
  deriving Repr, DecidableEq

/-- The state of the monitor. -/
inductive Monitor (σ : Type) where
  | free (s : σ)
  | held (i : Nat)

/-- The threads of a process, and who owns what. -/
structure ThreadPool (κ σ τ : Type) where
  threads : List (Program κ σ τ Unit)
  owner : Resource κ → Option Owner
  monitor : Monitor σ
  crashed : Bool := false

/-- What does not change while a process runs: the body of a thread, what a thread is handed
over with its argument, what the monitor guards, and its invariant. -/
structure ThreadSystem (κ σ τ : Type) where
  body : τ → Program κ σ τ Unit
  given : τ → Multiset (Resource κ)
  guards : σ → Multiset (Resource κ)
  keeps : σ → Prop := fun _ => True

namespace ThreadSystem

open Thread

variable {κ σ τ α β : Type} [DecidableEq κ] (system : ThreadSystem κ σ τ)

/-! ## Steps -/

/-- `resources` pass from one owner to another. -/
def passTo (resources : Multiset (Resource κ)) (new : Owner)
    (owner : Resource κ → Option Owner) : Resource κ → Option Owner :=
  fun r => if r ∈ resources then some new else owner r

/-- The next step of thread `i`, and whether it is in order; `name` is the name that the
system would hand out. -/
def step (i name : Nat) (pool : ThreadPool κ σ τ) : ThreadPool κ σ τ × Bool :=
  if pool.crashed then (pool, true)
  else
    match pool.threads[i]? with
    | none => (pool, true)
    | some (.ret _) => (pool, true)
    | some .crash => ({ pool with crashed := true }, true)
    | some (.acquire kind next) =>
        if pool.owner (kind, name) = none then
          ({ pool with
              threads := pool.threads.set i (next name)
              owner := Function.update pool.owner (kind, name) (some (.thread i)) }, true)
        else (pool, true)
    | some (.release r next) =>
        ({ pool with
            threads := pool.threads.set i next
            owner := Function.update pool.owner r none }, pool.owner r == some (.thread i))
    | some (.touch r next) =>
        ({ pool with threads := pool.threads.set i next }, pool.owner r == some (.thread i))
    | some (.fork arg next) =>
        ({ pool with
            threads := pool.threads.set i next ++ [system.body arg]
            owner := passTo (system.given arg) (.thread pool.threads.length) pool.owner },
          decide (∀ r ∈ system.given arg, pool.owner r = some (.thread i)))
    | some (.lock next) =>
        match pool.monitor with
        | .held j => (pool, decide (j ≠ i))
        | .free s =>
            ({ pool with
                threads := pool.threads.set i (next s)
                owner := passTo (system.guards s) (.thread i) pool.owner
                monitor := .held i }, true)
    | some (.unlock s next) =>
        ({ pool with
            threads := pool.threads.set i next
            owner := passTo (system.guards s) .monitor pool.owner
            monitor := .free s },
          (match pool.monitor with
            | .held j => decide (j = i)
            | .free _ => false) &&
          decide (∀ r ∈ system.guards s, pool.owner r = some (.thread i)))

/-- The threads, each step with the thread that takes it and a name. -/
def machine : Machine (ThreadPool κ σ τ) (Nat × Nat) Bool where
  step pool turn := system.step turn.1 turn.2 pool

/-! ## One thread -/

/-- What a thread has: whether it is in the monitor, and the resources it owns. -/
abbrev Post (κ α : Type) := α → Bool → Multiset (Resource κ) → Prop

/-- All steps of a program are in order, started with the resources `owned`, and its end
meets `post`.  `crashes` says whether it may end the process. -/
def Owns (crashes : Prop) : Program κ σ τ α → Bool → Multiset (Resource κ) → Post κ α → Prop
  | .ret value, inside, owned, post => post value inside owned
  | .crash, _, _, _ => crashes
  | .acquire kind next, inside, owned, post =>
      ∀ name, Owns crashes (next name) inside ((kind, name) ::ₘ owned) post
  | .release r next, inside, owned, post =>
      r ∈ owned ∧ Owns crashes next inside (owned.erase r) post
  | .touch r next, inside, owned, post => r ∈ owned ∧ Owns crashes next inside owned post
  | .fork arg next, inside, owned, post =>
      system.given arg ≤ owned ∧ Owns crashes next inside (owned - system.given arg) post
  | .lock next, inside, owned, post =>
      inside = false ∧
        ∀ s, system.keeps s → Owns crashes (next s) true (owned + system.guards s) post
  | .unlock s next, inside, owned, post =>
      inside = true ∧ system.keeps s ∧ system.guards s ≤ owned ∧
        Owns crashes next false (owned - system.guards s) post

variable {system} {crashes : Prop} {inside : Bool} {owned : Multiset (Resource κ)}

theorem Owns.mono {program : Program κ σ τ α} {post post' : Post κ α}
    (h : system.Owns crashes program inside owned post)
    (hpost : ∀ value inside owned, post value inside owned → post' value inside owned) :
    system.Owns crashes program inside owned post' := by
  induction program generalizing inside owned with
  | ret value => exact hpost value inside owned h
  | crash => exact h
  | acquire kind next ih => exact fun name => ih name (h name)
  | release r next ih => exact ⟨h.1, ih h.2⟩
  | touch r next ih => exact ⟨h.1, ih h.2⟩
  | fork arg next ih => exact ⟨h.1, ih h.2⟩
  | lock next ih => exact ⟨h.1, fun s hs => ih s (h.2 s hs)⟩
  | unlock s next ih => exact ⟨h.1, h.2.1, h.2.2.1, ih h.2.2.2⟩

theorem Owns.bind {program : Program κ σ τ α} {next : α → Program κ σ τ β} {post : Post κ β}
    (h : system.Owns crashes program inside owned fun value inside owned =>
      system.Owns crashes (next value) inside owned post) :
    system.Owns crashes (program >>= next) inside owned post := by
  show system.Owns crashes (program.bind next) inside owned post
  induction program generalizing inside owned with
  | ret value => exact h
  | crash => exact h
  | acquire kind rest ih => exact fun name => ih name (h name)
  | release r rest ih => exact ⟨h.1, ih h.2⟩
  | touch r rest ih => exact ⟨h.1, ih h.2⟩
  | fork arg rest ih => exact ⟨h.1, ih h.2⟩
  | lock rest ih => exact ⟨h.1, fun s hs => ih s (h.2 s hs)⟩
  | unlock s rest ih => exact ⟨h.1, h.2.1, h.2.2.1, ih h.2.2.2⟩

/-! ## What a program needs, and what it leaves -/

/-- With `before`, and whatever else it may own, a program runs in order.  Of its value
`result` holds, and it leaves `after` and what else it owned. -/
def Spec (system : ThreadSystem κ σ τ) (crashes : Prop) (inside : Bool)
    (before : Multiset (Resource κ)) (program : Program κ σ τ α) (result : α → Prop)
    (after : α → Multiset (Resource κ)) : Prop :=
  ∀ frame, system.Owns crashes program inside (before + frame) fun value inside' owned =>
    inside' = inside ∧ result value ∧ owned = after value + frame

section Rules

variable {before : Multiset (Resource κ)} {program : Program κ σ τ α}
  {result result' : α → Prop} {after after' : α → Multiset (Resource κ)}

theorem Spec.ret {value : α} (hresult : result value) (hafter : after value = before) :
    system.Spec crashes inside before (pure value) result after := by
  intro frame
  exact ⟨rfl, hresult, by rw [hafter]⟩

theorem Spec.consequence (h : system.Spec crashes inside before program result after)
    (hresult : ∀ value, result value → result' value ∧ after value = after' value) :
    system.Spec crashes inside before program result' after' := by
  intro frame
  refine (h frame).mono fun value inside' owned hvalue => ?_
  obtain ⟨hinside, hvalue, howned⟩ := hvalue
  obtain ⟨hresult, hafter⟩ := hresult value hvalue
  exact ⟨hinside, hresult, by rw [howned, hafter]⟩

theorem Spec.frame (h : system.Spec crashes inside before program result after)
    (frame : Multiset (Resource κ)) :
    system.Spec crashes inside (before + frame) program result
      fun value => after value + frame := by
  intro rest
  rw [add_assoc]
  refine (h (frame + rest)).mono fun value inside' owned hvalue => ?_
  rwa [← add_assoc] at hvalue

/-- A program beside resources that it does not touch. -/
theorem Spec.beside {rest whole : Multiset (Resource κ)}
    (h : system.Spec crashes inside before program result after) (hwhole : whole = before + rest)
    (hafter : ∀ value, result value → after' value = after value + rest) :
    system.Spec crashes inside whole program result after' := by
  rw [hwhole]
  exact (h.frame rest).consequence fun value hvalue => ⟨hvalue, (hafter value hvalue).symm⟩

/-- Two programs one behind the other; the first one does not touch `rest`. -/
theorem Spec.bind {rest whole : Multiset (Resource κ)} {next : α → Program κ σ τ β}
    {result' : β → Prop} {after' : β → Multiset (Resource κ)}
    (h : system.Spec crashes inside before program result after)
    (hwhole : whole = before + rest)
    (hnext : ∀ value, result value →
      system.Spec crashes inside (after value + rest) (next value) result' after') :
    system.Spec crashes inside whole (program >>= next) result' after' := by
  intro frame
  rw [hwhole]
  refine Owns.bind ((h.frame rest frame).mono fun value inside' owned hvalue => ?_)
  obtain ⟨rfl, hvalue, rfl⟩ := hvalue
  exact hnext value hvalue frame

theorem Spec.crash (h : crashes) : system.Spec crashes inside before (.crash) result after :=
  fun _ => h

/-- A new resource. -/
theorem Spec.take (kind : κ) : system.Spec crashes inside 0 (take kind) (fun _ => True)
    fun name => {(kind, name)} := by
  intro frame name
  refine ⟨rfl, trivial, ?_⟩
  rw [zero_add, Multiset.singleton_add]

theorem Spec.release (r : Resource κ) : system.Spec crashes inside {r} (release r)
    (fun _ => True) fun _ => 0 := by
  intro frame
  refine ⟨?_, rfl, trivial, ?_⟩
  · rw [Multiset.singleton_add]
    exact Multiset.mem_cons_self r frame
  · rw [Multiset.singleton_add, Multiset.erase_cons_head, zero_add]

theorem Spec.touch {r : Resource κ} (hr : r ∈ before) : system.Spec crashes inside before
    (touch r) (fun _ => True) fun _ => before := by
  intro frame
  exact ⟨Multiset.mem_add.mpr (Or.inl hr), rfl, trivial, rfl⟩

theorem Spec.fork (arg : τ) : system.Spec crashes inside (system.given arg) (fork arg)
    (fun _ => True) fun _ => 0 := by
  intro frame
  refine ⟨Multiset.le_add_right _ _, rfl, trivial, ?_⟩
  rw [add_tsub_cancel_left, zero_add]

/-- A section in the monitor, which may change what the monitor protects. -/
theorem Spec.synchronized {body : σ → Program κ σ τ (σ × α)}
    (h : ∀ s, system.keeps s → system.Spec crashes true (before + system.guards s) (body s)
      (fun value => system.keeps value.1 ∧ result value.2)
        fun value => system.guards value.1 + after value.2) :
    system.Spec crashes false before (synchronized body) result after := by
  intro frame
  refine ⟨rfl, fun s hs => Owns.bind ?_⟩
  rw [add_right_comm]
  refine (h s hs frame).mono fun value inside' owned hvalue => ?_
  obtain ⟨rfl, ⟨hkeeps, hvalue⟩, rfl⟩ := hvalue
  rw [add_assoc]
  refine ⟨rfl, hkeeps, Multiset.le_add_right _ _, rfl, hvalue, ?_⟩
  rw [add_tsub_cancel_left]

/-- A pointer is not null if and only if the allocation has succeeded. -/
theorem Spec.allocate (kind : κ) (succeeds : Bool) : system.Spec crashes inside 0
    (allocate kind succeeds) (fun pointer => pointer.isSome = succeeds) (target kind) := by
  cases succeeds with
  | false => exact Spec.ret rfl rfl
  | true =>
    refine Spec.bind (Spec.take kind) (add_zero 0).symm fun name _ => Spec.ret rfl ?_
    exact (add_zero _).symm

theorem Spec.dereference {kind : κ} {pointer : Option Nat} (hpointer : pointer.isSome = true)
    (hle : target kind pointer ≤ before) : system.Spec crashes inside before
      (dereference kind pointer) (fun _ => True) fun _ => before := by
  cases pointer with
  | none => cases hpointer
  | some name => exact Spec.touch (Multiset.singleton_le.mp hle)

theorem Spec.giveBack (kind : κ) (pointer : Option Nat) : system.Spec crashes inside
    (target kind pointer) (giveBack kind pointer) (fun _ => True) fun _ => 0 := by
  cases pointer with
  | none => exact Spec.ret trivial rfl
  | some name => exact Spec.release (kind, name)

/-! The rules of the statements, each in front of the rest of a program. -/

variable {r : Resource κ} {kind : κ} {pointer : Option Nat} {rest : Multiset (Resource κ)}

theorem Spec.touch_then {next : Unit → Program κ σ τ α} (hr : r ∈ before)
    (hnext : system.Spec crashes inside before (next ()) result after) :
    system.Spec crashes inside before (Thread.touch r >>= next) result after := by
  refine Spec.bind (Spec.touch hr) (add_zero _).symm fun _ _ => ?_
  rwa [add_zero]

theorem Spec.dereference_then {next : Unit → Program κ σ τ α} (hpointer : pointer.isSome = true)
    (hle : target kind pointer ≤ before)
    (hnext : system.Spec crashes inside before (next ()) result after) :
    system.Spec crashes inside before (Thread.dereference kind pointer >>= next) result after := by
  refine Spec.bind (Spec.dereference hpointer hle) (add_zero _).symm fun _ _ => ?_
  rwa [add_zero]

theorem Spec.take_then {next : Nat → Program κ σ τ α}
    (hnext : ∀ name,
      system.Spec crashes inside ({(kind, name)} + before) (next name) result after) :
    system.Spec crashes inside before (Thread.take kind >>= next) result after :=
  Spec.bind (Spec.take kind) (zero_add _).symm fun name _ => hnext name

theorem Spec.release_then {next : Unit → Program κ σ τ α} (hwhole : before = {r} + rest)
    (hnext : system.Spec crashes inside rest (next ()) result after) :
    system.Spec crashes inside before (Thread.release r >>= next) result after := by
  refine Spec.bind (Spec.release r) hwhole fun _ _ => ?_
  rwa [zero_add]

theorem Spec.allocate_then {succeeds : Bool} {next : Option Nat → Program κ σ τ α}
    (hnext : ∀ pointer, pointer.isSome = succeeds →
      system.Spec crashes inside (target kind pointer + before) (next pointer) result after) :
    system.Spec crashes inside before (Thread.allocate kind succeeds >>= next) result after :=
  Spec.bind (Spec.allocate kind succeeds) (zero_add _).symm hnext

theorem Spec.giveBack_then {next : Unit → Program κ σ τ α}
    (hwhole : before = target kind pointer + rest)
    (hnext : system.Spec crashes inside rest (next ()) result after) :
    system.Spec crashes inside before (Thread.giveBack kind pointer >>= next) result after := by
  refine Spec.bind (Spec.giveBack kind pointer) hwhole fun _ _ => ?_
  rwa [zero_add]

/-- A loop over a list: every turn does to what `view` shows as much as `model` does, and keeps
what the loop relies on. -/
theorem Spec.foldlM {ι γ : Type} {turn : β → ι → Program κ σ τ β} (inv : β → Prop)
    (view : β → γ) (model : γ → ι → γ) (holds : β → Multiset (Resource κ)) (items : List ι)
    (h : ∀ state item, inv state → system.Spec crashes inside (holds state) (turn state item)
      (fun next => inv next ∧ view next = model (view state) item) holds)
    (state : β) (hstate : inv state) :
    system.Spec crashes inside (holds state) (items.foldlM turn state)
      (fun last => inv last ∧ view last = items.foldl model (view state)) holds := by
  induction items generalizing state with
  | nil => exact Spec.ret ⟨hstate, rfl⟩ rfl
  | cons item items ih =>
    refine Spec.bind (h state item hstate) (add_zero _).symm fun next hnext => ?_
    rw [add_zero]
    refine (ih next hnext.1).consequence fun last hlast => ⟨?_, rfl⟩
    rw [List.foldl_cons, ← hnext.2]
    exact hlast

end Rules

/-! ## All threads -/

/-- The end of a thread, outside the monitor and without any resource. -/
def finished : Post κ Unit := fun _ inside owned => inside = false ∧ owned = 0

/-- The body of every thread gives back all that it has been given. -/
def Verified (system : ThreadSystem κ σ τ) (crashes : Prop) : Prop :=
  ∀ arg, system.Owns crashes (system.body arg) false (system.given arg) finished

theorem Spec.owns {before : Multiset (Resource κ)} {program : Program κ σ τ Unit}
    {result : Unit → Prop} (h : system.Spec crashes false before program result fun _ => 0) :
    system.Owns crashes program false before finished := by
  have hprogram := h 0
  rw [add_zero] at hprogram
  refine hprogram.mono fun _ inside owned hvalue => ?_
  obtain ⟨hinside, -, howned⟩ := hvalue
  exact ⟨hinside, howned⟩

/-- Thread `i` is in the monitor. -/
def inMonitor (i : Nat) : Monitor σ → Bool
  | .free _ => false
  | .held j => decide (j = i)

/-- The account of thread `i`: what is still to be done is in order with what it owns. -/
def Accounted (system : ThreadSystem κ σ τ) (crashes : Prop)
    (owner : Resource κ → Option Owner) (monitor : Monitor σ) (i : Nat)
    (program : Program κ σ τ Unit) : Prop :=
  ∃ owned : Multiset (Resource κ), owned.Nodup ∧
    (∀ r, r ∈ owned ↔ owner r = some (.thread i)) ∧
      system.Owns crashes program (inMonitor i monitor) owned finished

/-- Every thread is in order with what it owns, and the monitor owns what it guards. -/
structure Sound (system : ThreadSystem κ σ τ) (crashes : Prop) (pool : ThreadPool κ σ τ) :
    Prop where
  thread : ∀ i program, pool.threads[i]? = some program →
    system.Accounted crashes pool.owner pool.monitor i program
  known : ∀ r i, pool.owner r = some (.thread i) → i < pool.threads.length
  keeps : ∀ s, pool.monitor = .free s → system.keeps s
  free : ∀ s, pool.monitor = .free s →
    (system.guards s).Nodup ∧ ∀ r, r ∈ system.guards s ↔ pool.owner r = some .monitor
  held : ∀ i, pool.monitor = .held i →
    i < pool.threads.length ∧ ∀ r, pool.owner r ≠ some .monitor
  crashed : pool.crashed = true → crashes

section Steps

variable {pool : ThreadPool κ σ τ} {i name : Nat} {program next : Program κ σ τ Unit}
  {owner : Resource κ → Option Owner} {monitor : Monitor σ}
  {started : List (Program κ σ τ Unit)} {r : Resource κ}

/-- The rule of a step: the account of the thread that takes it, of the threads it starts and
of the monitor, with no resource passing to or from another thread. -/
theorem Sound.set (hs : system.Sound crashes pool) (hi : pool.threads[i]? = some program)
    (hmine : system.Accounted crashes owner monitor i next)
    (hother : ∀ j r, j ≠ i → j < pool.threads.length →
      (owner r = some (.thread j) ↔ pool.owner r = some (.thread j)))
    (hinside : ∀ j, j ≠ i → inMonitor j monitor = inMonitor j pool.monitor)
    (hstarted : ∀ k program, started[k]? = some program →
      system.Accounted crashes owner monitor (pool.threads.length + k) program)
    (hknown : ∀ r j, owner r = some (.thread j) → j < pool.threads.length + started.length)
    (hkeeps : ∀ s, monitor = .free s → system.keeps s)
    (hfree : ∀ s, monitor = .free s →
      (system.guards s).Nodup ∧ ∀ r, r ∈ system.guards s ↔ owner r = some .monitor)
    (hheld : ∀ j, monitor = .held j →
      j < pool.threads.length ∧ ∀ r, owner r ≠ some .monitor) :
    system.Sound crashes { pool with
      threads := pool.threads.set i next ++ started, owner := owner, monitor := monitor } where
  thread j program' hj := by
    have hlt : i < pool.threads.length := (List.getElem?_eq_some_iff.mp hi).1
    simp only at hj ⊢
    by_cases hjlt : j < pool.threads.length
    · rw [List.getElem?_append_left (by rwa [List.length_set])] at hj
      by_cases hji : j = i
      · subst hji
        rw [List.getElem?_set_self hlt] at hj
        obtain rfl := Option.some.inj hj
        exact hmine
      · rw [List.getElem?_set_ne (fun h => hji h.symm)] at hj
        obtain ⟨owned, hnodup, howned, hprogram⟩ := hs.thread j program' hj
        refine ⟨owned, hnodup, fun r => ?_, ?_⟩
        · rw [howned r, hother j r hji hjlt]
        · rw [hinside j hji]
          exact hprogram
    · rw [List.getElem?_append_right (by rw [List.length_set]; omega), List.length_set] at hj
      have hstart := hstarted (j - pool.threads.length) program' hj
      rwa [Nat.add_sub_cancel' (by omega)] at hstart
  known r j hj := by
    rw [List.length_append, List.length_set]
    exact hknown r j hj
  keeps := hkeeps
  free := hfree
  held j hj := by
    obtain ⟨hlt, hnone⟩ := hheld j hj
    refine ⟨?_, hnone⟩
    rw [List.length_append, List.length_set]
    omega
  crashed := hs.crashed

theorem passTo_eq_some {resources : Multiset (Resource κ)} {new old : Owner} :
    passTo resources new owner r = some old ↔
      r ∈ resources ∧ new = old ∨ r ∉ resources ∧ owner r = some old := by
  unfold passTo
  by_cases hr : r ∈ resources
  · rw [if_pos hr]
    simp [hr]
  · rw [if_neg hr]
    simp [hr]

/-- The step of a thread that touches a resource it owns. -/
theorem Sound.touch (hs : system.Sound crashes pool)
    (hi : pool.threads[i]? = some (.touch r next)) :
    pool.owner r = some (.thread i) ∧
      system.Sound crashes { pool with threads := pool.threads.set i next } := by
  obtain ⟨owned, hnodup, howned, hmem, hnext⟩ := hs.thread i _ hi
  refine ⟨(howned r).mp hmem, ?_⟩
  rw [← List.append_nil (pool.threads.set i next)]
  exact hs.set hi ⟨owned, hnodup, howned, hnext⟩ (fun _ _ _ _ => Iff.rfl) (fun _ _ => rfl) nofun
    hs.known hs.keeps hs.free hs.held

theorem Sound.acquire {kind : κ} {rest : Nat → Program κ σ τ Unit}
    (hs : system.Sound crashes pool) (hi : pool.threads[i]? = some (.acquire kind rest))
    (hname : pool.owner (kind, name) = none) :
    system.Sound crashes { pool with
      threads := pool.threads.set i (rest name)
      owner := Function.update pool.owner (kind, name) (some (.thread i)) } := by
  obtain ⟨owned, hnodup, howned, hnext⟩ := hs.thread i _ hi
  have hlt : i < pool.threads.length := (List.getElem?_eq_some_iff.mp hi).1
  have hnew : (kind, name) ∉ owned := by
    rw [howned, hname]
    exact nofun
  have howner : ∀ r old, Function.update pool.owner (kind, name) (some (.thread i)) r = some old ↔
      r = (kind, name) ∧ .thread i = old ∨ pool.owner r = some old := by
    intro r old
    by_cases hr : r = (kind, name)
    · subst hr
      rw [Function.update_self, hname]
      simp
    · rw [Function.update_of_ne hr]
      simp [hr]
  rw [← List.append_nil (pool.threads.set i (rest name))]
  refine hs.set hi ⟨(kind, name) ::ₘ owned, Multiset.nodup_cons.mpr ⟨hnew, hnodup⟩, ?_, hnext name⟩
    ?_ (fun _ _ => rfl) nofun ?_ hs.keeps ?_ ?_
  · intro r
    rw [Multiset.mem_cons, howner, howned]
    simp
  · intro j r hji _
    rw [howner]
    constructor
    · rintro (⟨-, heq⟩ | hold)
      · exact absurd (Owner.thread.inj heq).symm hji
      · exact hold
    · exact Or.inr
  · intro r j hj
    rw [howner] at hj
    rcases hj with ⟨-, heq⟩ | hold
    · obtain rfl := Owner.thread.inj heq
      exact hlt
    · exact hs.known r j hold
  · intro s hfree
    refine ⟨(hs.free s hfree).1, fun r => ?_⟩
    rw [howner, (hs.free s hfree).2 r]
    simp
  · intro j hheld
    refine ⟨(hs.held j hheld).1, fun r hr => ?_⟩
    rw [howner] at hr
    rcases hr with ⟨-, heq⟩ | hold
    · cases heq
    · exact (hs.held j hheld).2 r hold

theorem Sound.release (hs : system.Sound crashes pool)
    (hi : pool.threads[i]? = some (.release r next)) :
    pool.owner r = some (.thread i) ∧
      system.Sound crashes { pool with
        threads := pool.threads.set i next
        owner := Function.update pool.owner r none } := by
  obtain ⟨owned, hnodup, howned, hmem, hnext⟩ := hs.thread i _ hi
  have hmine : pool.owner r = some (.thread i) := (howned r).mp hmem
  refine ⟨hmine, ?_⟩
  have howner : ∀ r' old, Function.update pool.owner r none r' = some old ↔
      r' ≠ r ∧ pool.owner r' = some old := by
    intro r' old
    by_cases hr : r' = r
    · subst hr
      rw [Function.update_self]
      simp
    · rw [Function.update_of_ne hr]
      simp [hr]
  rw [← List.append_nil (pool.threads.set i next)]
  refine hs.set hi ⟨owned.erase r, hnodup.erase r, ?_, hnext⟩ ?_ (fun _ _ => rfl) nofun
    (fun r' j hj => hs.known r' j ((howner r' _).mp hj).2) hs.keeps ?_
    fun j hheld => ⟨(hs.held j hheld).1, fun r' hr =>
      (hs.held j hheld).2 r' ((howner r' _).mp hr).2⟩
  · intro r'
    rw [hnodup.mem_erase_iff, howner, howned]
  · intro j r' hji _
    rw [howner, and_iff_right_iff_imp]
    rintro hold rfl
    rw [hmine] at hold
    exact hji (Owner.thread.inj (Option.some.inj hold)).symm
  · intro s hfree
    refine ⟨(hs.free s hfree).1, fun r' => ?_⟩
    rw [howner, (hs.free s hfree).2 r', iff_and_self]
    rintro hold rfl
    rw [hmine] at hold
    cases hold

theorem Sound.fork {arg : τ} (hv : system.Verified crashes) (hs : system.Sound crashes pool)
    (hi : pool.threads[i]? = some (.fork arg next)) :
    (∀ r ∈ system.given arg, pool.owner r = some (.thread i)) ∧
      system.Sound crashes { pool with
        threads := pool.threads.set i next ++ [system.body arg]
        owner := passTo (system.given arg) (.thread pool.threads.length) pool.owner } := by
  obtain ⟨owned, hnodup, howned, hle, hnext⟩ := hs.thread i _ hi
  have hlt : i < pool.threads.length := (List.getElem?_eq_some_iff.mp hi).1
  have hgiven : ∀ r ∈ system.given arg, pool.owner r = some (.thread i) :=
    fun r hr => (howned r).mp (Multiset.mem_of_le hle hr)
  refine ⟨hgiven, ?_⟩
  refine hs.set hi
    ⟨owned - system.given arg, Multiset.nodup_of_le (Multiset.sub_le_self _ _) hnodup, ?_, hnext⟩
    ?_ (fun _ _ => rfl) ?_ ?_ hs.keeps ?_ ?_
  · intro r
    rw [passTo_eq_some, Multiset.mem_sub_of_nodup hnodup, howned]
    have hne : Owner.thread pool.threads.length ≠ .thread i := by
      rw [Ne, Owner.thread.injEq]
      omega
    simp [hne, and_comm]
  · intro j r hji hjlt
    rw [passTo_eq_some]
    have hne : Owner.thread pool.threads.length ≠ .thread j := by
      rw [Ne, Owner.thread.injEq]
      omega
    constructor
    · rintro (⟨-, heq⟩ | ⟨-, hold⟩)
      · exact absurd heq hne
      · exact hold
    · intro hold
      refine Or.inr ⟨fun hr => ?_, hold⟩
      rw [hgiven r hr] at hold
      exact hji (Owner.thread.inj (Option.some.inj hold)).symm
  · intro k program hk
    obtain ⟨rfl, rfl⟩ : k = 0 ∧ system.body arg = program := by
      rcases k with _ | k
      · exact ⟨rfl, Option.some.inj hk⟩
      · cases hk
    refine ⟨system.given arg, Multiset.nodup_of_le hle hnodup, fun r => ?_, ?_⟩
    · rw [passTo_eq_some, Nat.add_zero]
      constructor
      · exact fun hr => Or.inl ⟨hr, rfl⟩
      · rintro (⟨hr, -⟩ | ⟨-, hold⟩)
        · exact hr
        · exact absurd (hs.known r _ hold) (Nat.lt_irrefl _)
    · have houtside : inMonitor (pool.threads.length + 0) pool.monitor = false := by
        cases hmonitor : pool.monitor with
        | free s => rfl
        | held j =>
          have hj := (hs.held j hmonitor).1
          show decide (j = pool.threads.length + 0) = false
          rw [decide_eq_false_iff_not]
          omega
      rw [houtside]
      exact hv arg
  · intro r j hj
    rw [passTo_eq_some] at hj
    rw [List.length_singleton]
    rcases hj with ⟨-, heq⟩ | ⟨-, hold⟩
    · obtain rfl := Owner.thread.inj heq
      omega
    · have := hs.known r j hold
      omega
  · intro s hfree
    refine ⟨(hs.free s hfree).1, fun r => ?_⟩
    rw [passTo_eq_some, (hs.free s hfree).2 r]
    constructor
    · intro hold
      refine Or.inr ⟨fun hr => ?_, hold⟩
      rw [hgiven r hr] at hold
      cases hold
    · rintro (⟨-, heq⟩ | ⟨-, hold⟩)
      · cases heq
      · exact hold
  · intro j hheld
    refine ⟨(hs.held j hheld).1, fun r hr => ?_⟩
    rw [passTo_eq_some] at hr
    rcases hr with ⟨-, heq⟩ | ⟨-, hold⟩
    · cases heq
    · exact (hs.held j hheld).2 r hold

/-- The step of a thread that enters the monitor. -/
theorem Sound.lock {rest : σ → Program κ σ τ Unit} {s : σ} (hs : system.Sound crashes pool)
    (hi : pool.threads[i]? = some (.lock rest)) (hmonitor : pool.monitor = .free s) :
    system.Sound crashes { pool with
      threads := pool.threads.set i (rest s)
      owner := passTo (system.guards s) (.thread i) pool.owner
      monitor := .held i } := by
  obtain ⟨owned, hnodup, howned, -, hnext⟩ := hs.thread i _ hi
  have hlt : i < pool.threads.length := (List.getElem?_eq_some_iff.mp hi).1
  obtain ⟨hguards, hguarded⟩ := hs.free s hmonitor
  rw [← List.append_nil (pool.threads.set i (rest s))]
  refine hs.set hi ⟨owned + system.guards s, ?_, ?_, ?_⟩ ?_ ?_ nofun ?_ nofun nofun ?_
  · refine Multiset.nodup_add.mpr ⟨hnodup, hguards, Multiset.disjoint_left.mpr ?_⟩
    intro r hr hr'
    rw [howned] at hr
    rw [hguarded, hr] at hr'
    cases hr'
  · intro r
    rw [passTo_eq_some, Multiset.mem_add, howned]
    constructor
    · rintro (hold | hr)
      · refine Or.inr ⟨fun hr => ?_, hold⟩
        rw [hguarded, hold] at hr
        cases hr
      · exact Or.inl ⟨hr, rfl⟩
    · rintro (⟨hr, -⟩ | ⟨-, hold⟩)
      · exact Or.inr hr
      · exact Or.inl hold
  · rw [show inMonitor i (.held i : Monitor σ) = true from decide_eq_true rfl]
    exact hnext s (hs.keeps s hmonitor)
  · intro j r hji _
    rw [passTo_eq_some]
    constructor
    · rintro (⟨-, heq⟩ | ⟨-, hold⟩)
      · exact absurd (Owner.thread.inj heq).symm hji
      · exact hold
    · intro hold
      refine Or.inr ⟨fun hr => ?_, hold⟩
      rw [hguarded, hold] at hr
      cases hr
  · intro j hji
    rw [hmonitor]
    exact decide_eq_false fun h => hji h.symm
  · intro r j hj
    rw [passTo_eq_some] at hj
    rcases hj with ⟨-, heq⟩ | ⟨-, hold⟩
    · obtain rfl := Owner.thread.inj heq
      exact hlt
    · exact hs.known r j hold
  · intro j hj
    obtain rfl : i = j := by
      cases hj
      rfl
    refine ⟨hlt, fun r hr => ?_⟩
    rw [passTo_eq_some] at hr
    rcases hr with ⟨-, heq⟩ | ⟨hnot, hold⟩
    · cases heq
    · exact hnot ((hguarded r).mpr hold)

/-- The step of a thread that leaves the monitor. -/
theorem Sound.unlock {s : σ} (hs : system.Sound crashes pool)
    (hi : pool.threads[i]? = some (.unlock s next)) :
    pool.monitor = .held i ∧ (∀ r ∈ system.guards s, pool.owner r = some (.thread i)) ∧
      system.Sound crashes { pool with
        threads := pool.threads.set i next
        owner := passTo (system.guards s) .monitor pool.owner
        monitor := .free s } := by
  obtain ⟨owned, hnodup, howned, hinside, hkeeps, hle, hnext⟩ := hs.thread i _ hi
  have hmonitor : pool.monitor = .held i := by
    cases hpool : pool.monitor with
    | free s =>
      rw [hpool] at hinside
      cases hinside
    | held j =>
      rw [hpool] at hinside
      rw [of_decide_eq_true hinside]
  have hgiven : ∀ r ∈ system.guards s, pool.owner r = some (.thread i) :=
    fun r hr => (howned r).mp (Multiset.mem_of_le hle hr)
  have hnone := (hs.held i hmonitor).2
  refine ⟨hmonitor, hgiven, ?_⟩
  rw [← List.append_nil (pool.threads.set i next)]
  refine hs.set hi
    ⟨owned - system.guards s, Multiset.nodup_of_le (Multiset.sub_le_self _ _) hnodup, ?_, hnext⟩
    ?_ ?_ nofun ?_ ?_ ?_ nofun
  · intro r
    rw [passTo_eq_some, Multiset.mem_sub_of_nodup hnodup, howned]
    simp [and_comm]
  · intro j r hji _
    rw [passTo_eq_some]
    constructor
    · rintro (⟨-, heq⟩ | ⟨-, hold⟩)
      · cases heq
      · exact hold
    · intro hold
      refine Or.inr ⟨fun hr => ?_, hold⟩
      rw [hgiven r hr] at hold
      exact hji (Owner.thread.inj (Option.some.inj hold)).symm
  · intro j hji
    rw [hmonitor]
    exact (decide_eq_false fun h => hji h.symm).symm
  · intro r j hj
    rw [passTo_eq_some] at hj
    rcases hj with ⟨-, heq⟩ | ⟨-, hold⟩
    · cases heq
    · exact hs.known r j hold
  · intro s' hs'
    obtain rfl : s = s' := by
      cases hs'
      rfl
    exact hkeeps
  · intro s' hs'
    obtain rfl : s = s' := by
      cases hs'
      rfl
    refine ⟨Multiset.nodup_of_le hle hnodup, fun r => ?_⟩
    rw [passTo_eq_some]
    constructor
    · exact fun hr => Or.inl ⟨hr, rfl⟩
    · rintro (⟨hr, -⟩ | ⟨-, hold⟩)
      · exact hr
      · exact absurd hold (hnone r)

/-- A step is in order, and behind it every thread is in order with what it owns. -/
theorem Sound.step (hv : system.Verified crashes) (hs : system.Sound crashes pool)
    (i name : Nat) :
    (system.step i name pool).2 = true ∧ system.Sound crashes (system.step i name pool).1 := by
  unfold ThreadSystem.step
  by_cases hcrashed : pool.crashed = true
  · rw [if_pos hcrashed]
    exact ⟨rfl, hs⟩
  rw [if_neg hcrashed]
  cases hi : pool.threads[i]? with
  | none => exact ⟨rfl, hs⟩
  | some program =>
    cases program with
    | ret value => exact ⟨rfl, hs⟩
    | crash =>
      obtain ⟨_, -, -, hcrash⟩ := hs.thread i _ hi
      exact ⟨rfl, hs.thread, hs.known, hs.keeps, hs.free, hs.held, fun _ => hcrash⟩
    | acquire kind next =>
      by_cases hname : pool.owner (kind, name) = none
      · simp only [if_pos hname]
        exact ⟨trivial, hs.acquire hi hname⟩
      · simp only [if_neg hname]
        exact ⟨trivial, hs⟩
    | release r next =>
      obtain ⟨hmine, hsound⟩ := hs.release hi
      exact ⟨beq_iff_eq.mpr hmine, hsound⟩
    | touch r next =>
      obtain ⟨hmine, hsound⟩ := hs.touch hi
      exact ⟨beq_iff_eq.mpr hmine, hsound⟩
    | fork arg next =>
      obtain ⟨hgiven, hsound⟩ := hs.fork hv hi
      exact ⟨decide_eq_true hgiven, hsound⟩
    | lock next =>
      cases hmonitor : pool.monitor with
      | free s => exact ⟨rfl, hs.lock hi hmonitor⟩
      | held j =>
        obtain ⟨_, _, _, houtside, -⟩ := hs.thread i _ hi
        rw [hmonitor] at houtside
        exact ⟨decide_eq_true (of_decide_eq_false houtside), hs⟩
    | unlock s next =>
      obtain ⟨hmonitor, hgiven, hsound⟩ := hs.unlock hi
      refine ⟨?_, hsound⟩
      simp only [hmonitor, decide_true, Bool.true_and]
      exact decide_eq_true hgiven

/-- All steps of all threads are in order, whichever way they are interleaved. -/
theorem run_inOrder (hv : system.Verified crashes) (hs : system.Sound crashes pool)
    (turns : List (Nat × Nat)) :
    system.machine.Along (fun _ pool turn => (system.step turn.1 turn.2 pool).2 = true) [] pool
        turns ∧
      system.Sound crashes (system.machine.run pool turns) := by
  have hstep : ∀ (log : List Bool) pool (turn : Nat × Nat), system.Sound crashes pool → True →
      system.Sound crashes (system.machine.step pool turn).1 :=
    fun _ _ turn hs _ => (hs.step hv turn.1 turn.2).2
  have halways : system.machine.Along (fun _ _ _ => True) [] pool turns :=
    Machine.along_of_forall_mem [] pool fun _ _ => trivial
  exact ⟨Machine.along_of_invariant (fun _ => system.Sound crashes) hstep
      (fun _ _ turn hs _ => (hs.step hv turn.1 turn.2).1) hs halways,
    Machine.exec_invariant (fun _ => system.Sound crashes) hstep hs halways⟩

/-- A process starts with one thread, and nothing is in use. -/
theorem Sound.initial {main : Program κ σ τ Unit} {s : σ}
    (hmain : system.Owns crashes main false 0 finished) (hkeeps : system.keeps s)
    (hguards : system.guards s = 0) :
    system.Sound crashes
      { threads := [main], owner := fun _ => none, monitor := .free s } where
  thread i program hi := by
    obtain ⟨rfl, rfl⟩ : i = 0 ∧ main = program := by
      rcases i with _ | i
      · exact ⟨rfl, Option.some.inj hi⟩
      · cases hi
    refine ⟨0, Multiset.nodup_zero, fun r => ?_, hmain⟩
    simp
  known r i hi := by cases hi
  keeps s' hfree := by
    obtain rfl : s = s' := by
      cases hfree
      rfl
    exact hkeeps
  free s' hfree := by
    obtain rfl : s = s' := by
      cases hfree
      rfl
    rw [hguards]
    refine ⟨Multiset.nodup_zero, fun r => ?_⟩
    simp
  held i hi := by cases hi
  crashed hcrashed := by cases hcrashed

/-- A thread that has ended owns nothing. -/
theorem Sound.ended (hs : system.Sound crashes pool)
    (hi : pool.threads[i]? = some (.ret ())) : pool.owner r ≠ some (.thread i) := by
  obtain ⟨owned, -, howned, -, hnone⟩ := hs.thread i _ hi
  intro hr
  rw [← howned, hnone] at hr
  exact absurd hr (Multiset.notMem_zero r)

/-- Where all threads have ended, only what the monitor guards is in use. -/
theorem Sound.all_ended (hs : system.Sound crashes pool)
    (hended : ∀ program ∈ pool.threads, program = .ret ()) :
    ∃ s, pool.monitor = .free s ∧ ∀ r, pool.owner r ≠ none ↔ r ∈ system.guards s := by
  have hended' : ∀ i, i < pool.threads.length → pool.threads[i]? = some (.ret ()) := by
    intro i hi
    rw [List.getElem?_eq_getElem hi, hended _ (List.getElem_mem hi)]
  cases hmonitor : pool.monitor with
  | held i =>
    obtain ⟨hi, -⟩ := hs.held i hmonitor
    obtain ⟨_, -, -, houtside, -⟩ := hs.thread i _ (hended' i hi)
    rw [hmonitor] at houtside
    exact absurd rfl (of_decide_eq_false houtside)
  | free s =>
    refine ⟨s, rfl, fun r => ?_⟩
    rw [(hs.free s hmonitor).2 r]
    cases howner : pool.owner r with
    | none => simp
    | some owner =>
      cases owner with
      | monitor => simp
      | thread i => exact absurd howner (hs.ended (hended' i (hs.known r i howner)))

end Steps

end ThreadSystem

end UuAmfBridge
