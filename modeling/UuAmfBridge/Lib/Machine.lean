import Mathlib.Data.List.Basic

/-!
# Runs of a deterministic machine

A `Machine` answers one operation at a time.  The operations carry every
choice of the environment, so a step is a function and a run is a fold over a
list of operations.

* `exec` gives the state after a run and the log of the answers.
* `Along` says that a property of single steps holds at every step of a run.
  The property sees the log of the answers so far, the state before the step
  and the operation.
* `along_of_invariant` and `exec_invariant` package the induction over a run:
  an invariant that every step keeps holds at the end, and gives a property of
  every step.  `along_iff` is the same induction for an equivalence, used where
  a condition on the steps is exact.
* `outputs_eq_of_bisimulation` says that two machines in related states answer
  alike.
-/

namespace UuAmfBridge

/-- A machine with states `σ`, operations `α` and answers `β`. -/
structure Machine (σ α β : Type*) where
  /-- The state after one operation, and the answer to it. -/
  step : σ → α → σ × β

namespace Machine

variable {σ α β : Type*} (m : Machine σ α β)

/-- The state after a run and the answers of the run, oldest first, appended
to the log the run starts with. -/
def exec : List β → σ → List α → List β × σ
  | log, s, [] => (log, s)
  | log, s, a :: as => exec (log ++ [(m.step s a).2]) (m.step s a).1 as

/-- The state after a run. -/
def run (s : σ) (as : List α) : σ := (m.exec [] s as).2

/-- The answers of a run, oldest first. -/
def outputs (s : σ) (as : List α) : List β := (m.exec [] s as).1

/-- `P` holds at every step of the run. -/
def Along (P : List β → σ → α → Prop) : List β → σ → List α → Prop
  | _, _, [] => True
  | log, s, a :: as =>
      P log s a ∧ Along P (log ++ [(m.step s a).2]) (m.step s a).1 as

/-- The machine that answers the operations `f` stands for. -/
def comap {γ : Type*} (f : γ → α) : Machine σ γ β where
  step s c := m.step s (f c)

@[simp] theorem exec_cons (log : List β) (s : σ) (a : α) (as : List α) :
    m.exec log s (a :: as) = m.exec (log ++ [(m.step s a).2]) (m.step s a).1 as :=
  rfl

/-- A run appends its answers to the log it starts with. -/
theorem exec_eq (log : List β) (s : σ) (as : List α) :
    m.exec log s as = (log ++ m.outputs s as, m.run s as) := by
  induction as generalizing log s with
  | nil => exact Prod.ext (List.append_nil log).symm rfl
  | cons a as ih =>
    have hempty := ih ([] ++ [(m.step s a).2]) (m.step s a).1
    show m.exec (log ++ [(m.step s a).2]) (m.step s a).1 as =
      (log ++ (m.exec ([] ++ [(m.step s a).2]) (m.step s a).1 as).1,
        (m.exec ([] ++ [(m.step s a).2]) (m.step s a).1 as).2)
    rw [ih, hempty, List.nil_append, List.append_assoc]

theorem run_cons (s : σ) (a : α) (as : List α) :
    m.run s (a :: as) = m.run (m.step s a).1 as := by
  show (m.exec ([] ++ [(m.step s a).2]) (m.step s a).1 as).2 = _
  rw [exec_eq]

theorem outputs_cons (s : σ) (a : α) (as : List α) :
    m.outputs s (a :: as) = (m.step s a).2 :: m.outputs (m.step s a).1 as := by
  show (m.exec ([] ++ [(m.step s a).2]) (m.step s a).1 as).1 = _
  rw [exec_eq]
  rfl

@[simp] theorem along_nil (P : List β → σ → α → Prop) (log : List β) (s : σ) :
    m.Along P log s [] ↔ True := Iff.rfl

@[simp] theorem along_cons (P : List β → σ → α → Prop) (log : List β) (s : σ)
    (a : α) (as : List α) :
    m.Along P log s (a :: as) ↔
      P log s a ∧ m.Along P (log ++ [(m.step s a).2]) (m.step s a).1 as :=
  Iff.rfl

section Invariants

variable {m} (Inv : List β → σ → Prop) {P Q : List β → σ → α → Prop}

/-- An invariant that every step allowed by `P` keeps holds after every run
whose steps all satisfy `P`. -/
theorem exec_invariant
    (hstep : ∀ log s a, Inv log s → P log s a →
      Inv (log ++ [(m.step s a).2]) (m.step s a).1)
    {log : List β} {s : σ} {as : List α} (hinv : Inv log s)
    (halong : m.Along P log s as) :
    Inv (m.exec log s as).1 (m.exec log s as).2 := by
  induction as generalizing log s with
  | nil => exact hinv
  | cons a as ih => exact ih (hstep log s a hinv halong.1) halong.2

/-- Under an invariant that `P` keeps, `P` at every step gives `Q` at every
step. -/
theorem along_of_invariant
    (hstep : ∀ log s a, Inv log s → P log s a →
      Inv (log ++ [(m.step s a).2]) (m.step s a).1)
    (hQ : ∀ log s a, Inv log s → P log s a → Q log s a)
    {log : List β} {s : σ} {as : List α} (hinv : Inv log s)
    (halong : m.Along P log s as) :
    m.Along Q log s as := by
  induction as generalizing log s with
  | nil => trivial
  | cons a as ih =>
    exact ⟨hQ log s a hinv halong.1, ih (hstep log s a hinv halong.1) halong.2⟩

/-- Under an invariant that `P` keeps, two step properties that agree at every
single step agree along every run. -/
theorem along_iff
    (hstep : ∀ log s a, Inv log s → P log s a →
      Inv (log ++ [(m.step s a).2]) (m.step s a).1)
    (hPQ : ∀ log s a, Inv log s → (P log s a ↔ Q log s a))
    {log : List β} {s : σ} {as : List α} (hinv : Inv log s) :
    m.Along P log s as ↔ m.Along Q log s as := by
  induction as generalizing log s with
  | nil => exact Iff.rfl
  | cons a as ih =>
    rw [along_cons, along_cons, ← hPQ log s a hinv]
    constructor
    · rintro ⟨hP, hrest⟩
      exact ⟨hP, (ih (hstep log s a hinv hP)).mp hrest⟩
    · rintro ⟨hP, hrest⟩
      exact ⟨hP, (ih (hstep log s a hinv hP)).mpr hrest⟩

/-- A step property that always holds holds along every run. -/
theorem along_of_forall (h : ∀ log s a, P log s a) (log : List β) (s : σ)
    (as : List α) : m.Along P log s as := by
  induction as generalizing log s with
  | nil => trivial
  | cons a as ih => exact ⟨h log s a, ih _ _⟩

/-- A property of every operation of a run holds along the run. -/
theorem along_of_forall_mem {C : α → Prop} (log : List β) (s : σ) {as : List α}
    (h : ∀ a ∈ as, C a) : m.Along (fun _ _ a => C a) log s as := by
  induction as generalizing log s with
  | nil => trivial
  | cons a as ih =>
    exact ⟨h a List.mem_cons_self, ih _ _ fun b hb => h b (List.mem_cons_of_mem _ hb)⟩

/-- A weaker step property holds along every run that satisfies the stronger
one. -/
theorem Along.mono (h : ∀ log s a, P log s a → Q log s a) {log : List β}
    {s : σ} {as : List α} (halong : m.Along P log s as) :
    m.Along Q log s as := by
  induction as generalizing log s with
  | nil => trivial
  | cons a as ih => exact ⟨h log s a halong.1, ih halong.2⟩

/-- Two step properties hold along a run exactly when both of them do at every
step. -/
theorem along_and {log : List β} {s : σ} {as : List α} :
    m.Along (fun log s a => P log s a ∧ Q log s a) log s as ↔
      m.Along P log s as ∧ m.Along Q log s as := by
  induction as generalizing log s with
  | nil => simp
  | cons a as ih => simp only [along_cons, ih]; tauto

/-- A step property that fails at the second step does not hold along the run. -/
theorem not_along_cons_cons (P : List β → σ → α → Prop) {log : List β} {s : σ} {a b : α}
    {as : List α} (h : ¬P (log ++ [(m.step s a).2]) (m.step s a).1 b) :
    ¬m.Along P log s (a :: b :: as) :=
  fun halong => h halong.2.1

end Invariants

/-- Two machines whose related states answer alike, and stay related, give the
same answers to every run. -/
theorem outputs_eq_of_bisimulation {σ' : Type*} {m : Machine σ α β}
    {m' : Machine σ' α β} {R : σ → σ' → Prop}
    (hstep : ∀ s t a, R s t → (m.step s a).2 = (m'.step t a).2 ∧
      R (m.step s a).1 (m'.step t a).1)
    {log : List β} {s : σ} {t : σ'} (hR : R s t) (as : List α) :
    (m.exec log s as).1 = (m'.exec log t as).1 := by
  induction as generalizing log s t with
  | nil => rfl
  | cons a as ih =>
    obtain ⟨hout, hnext⟩ := hstep s t a hR
    rw [exec_cons, exec_cons, hout]
    exact ih hnext

end Machine

end UuAmfBridge
