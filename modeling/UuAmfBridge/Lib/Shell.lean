import Mathlib.Logic.Function.Basic

/-!
# Shell scripts under `set -e`

A script is made of commands that fail or change the state, of branches on a
test, and of sequences.  `exec` runs it the way `set -e` does: the first command
that fails ends the run, in the state it has found.  `states` are the states
between the commands, in which a run may also be killed.

Four kinds of statements are made about scripts.

* `Leaves f script`: no command changes the part `f` of the state.
* `Acts f g script`: on the part `f` of the state, a run that completes is the
  function `g`.  The loop rule `Acts.forEach` is for a loop whose passes do not
  touch each other's part.
* `Passes I P script Q`: a run from a state that satisfies `P` passes through
  states that satisfy `I` only, and if it completes it does in a state that
  satisfies `Q`.
* `Completes s script`: the run from the state `s` completes.

`Ends` is for a part of a script that is given by a function, such as a loop over names
that the script finds while it runs.

`Files` is a map from file names to contents, with the commands on files.
`linesOf` are the lines of a text, and `deleteMark` and `stripMark` two ways to take
the carriage returns off a line.
-/

namespace UuAmfBridge

/-- A script over the states `σ`. -/
inductive Script (σ : Type*) where
  | skip
  /-- A command, which fails or changes the state. -/
  | command (run : σ → Option σ)
  /-- `if`, with a test that does not end the script. -/
  | branch (test : σ → Bool) (yes no : Script σ)
  | seq (first second : Script σ)

namespace Script

variable {σ ι τ : Type*}

/-- Run a script: the state at its end, or the state in which a command failed. -/
def exec : Script σ → σ → Except σ σ
  | skip, s => .ok s
  | command run, s =>
      match run s with
      | some t => .ok t
      | none => .error s
  | branch test yes no, s => if test s then yes.exec s else no.exec s
  | seq first second, s =>
      match first.exec s with
      | .ok t => second.exec t
      | .error t => .error t

/-- The states between the commands of a run, from its first state on: where a run
that is killed may stop. -/
def states : Script σ → σ → List σ
  | skip, s => [s]
  | command run, s => s :: (run s).toList
  | branch test yes no, s => if test s then yes.states s else no.states s
  | seq first second, s =>
      first.states s ++
        match first.exec s with
        | .ok t => second.states t
        | .error _ => []

/-- The commands of a list, one after the other. -/
def block : List (Script σ) → Script σ
  | [] => skip
  | script :: scripts => seq script (block scripts)

/-- `for name in names; do body; done`. -/
def forEach (names : List ι) (body : ι → Script σ) : Script σ := block (names.map body)

/-- `if test; then yes; fi`. -/
def whenever (test : σ → Bool) (yes : Script σ) : Script σ := branch test yes skip

theorem exec_seq_ok {first second : Script σ} {s u : σ} :
    (seq first second).exec s = .ok u ↔ ∃ t, first.exec s = .ok t ∧ second.exec t = .ok u := by
  rw [exec]
  cases first.exec s with
  | ok t => exact ⟨fun h => ⟨t, rfl, h⟩, fun ⟨_, ht, h⟩ => Except.ok.inj ht ▸ h⟩
  | error t =>
    constructor
    · intro h
      cases h
    · intro ⟨_, ht, _⟩
      cases ht

theorem exec_seq_of_ok {first second : Script σ} {s t : σ} (h : first.exec s = .ok t) :
    (seq first second).exec s = second.exec t := by
  rw [exec, h]

theorem exec_command_ok {run : σ → Option σ} {s t : σ} :
    (command run).exec s = .ok t ↔ run s = some t := by
  rw [exec]
  cases run s with
  | some u =>
    exact ⟨fun h => congrArg some (Except.ok.inj h), fun h => congrArg _ (Option.some.inj h)⟩
  | none =>
    constructor
    · intro h
      cases h
    · intro h
      cases h

theorem exec_branch_ok {test : σ → Bool} {yes no : Script σ} {s t : σ} :
    (branch test yes no).exec s = .ok t ↔
      test s = true ∧ yes.exec s = .ok t ∨ test s = false ∧ no.exec s = .ok t := by
  rw [exec]
  cases htest : test s with
  | true => simp
  | false => simp

theorem exec_whenever_of_true {test : σ → Bool} {yes : Script σ} {s : σ} (h : test s = true) :
    (whenever test yes).exec s = yes.exec s := if_pos h

theorem exec_whenever_of_false {test : σ → Bool} {yes : Script σ} {s : σ} (h : test s = false) :
    (whenever test yes).exec s = .ok s := if_neg (Bool.eq_false_iff.mp h)

/-- A run that completes stops in one of its states. -/
theorem exec_mem_states {script : Script σ} {s t : σ} (h : script.exec s = .ok t) :
    t ∈ script.states s := by
  induction script generalizing s t with
  | skip =>
    obtain rfl := Except.ok.inj h
    exact List.mem_singleton_self _
  | command run => exact List.mem_cons_of_mem _ (Option.mem_toList.mpr (exec_command_ok.mp h))
  | branch test yes no ihyes ihno =>
    rw [exec] at h
    rw [states]
    cases htest : test s with
    | true =>
      rw [htest, if_pos rfl] at h
      exact ihyes h
    | false =>
      rw [htest, if_neg Bool.false_ne_true] at h
      exact ihno h
  | seq first second ihfirst ihsecond =>
    obtain ⟨u, hu, ht⟩ := exec_seq_ok.mp h
    rw [states, hu]
    exact List.mem_append_right _ (ihsecond ht)

/-! ## What a script leaves alone -/

/-- No command of the script changes the part `f` of the state. -/
def Leaves (f : σ → τ) : Script σ → Prop
  | skip => True
  | command run => ∀ s t, run s = some t → f t = f s
  | branch _ yes no => Leaves f yes ∧ Leaves f no
  | seq first second => Leaves f first ∧ Leaves f second

section Leaves

variable {f : σ → τ}

/-- Two parts that are left alone are left alone together. -/
theorem Leaves.prod {τ' : Type*} {f' : σ → τ'} {script : Script σ} (h : Leaves f script)
    (h' : Leaves f' script) : Leaves (fun s => (f s, f' s)) script := by
  induction script with
  | skip => trivial
  | command run => exact fun s t hrun => Prod.ext (h s t hrun) (h' s t hrun)
  | branch test yes no ihyes ihno => exact ⟨ihyes h.1 h'.1, ihno h.2 h'.2⟩
  | seq first second ihfirst ihsecond => exact ⟨ihfirst h.1 h'.1, ihsecond h.2 h'.2⟩

/-- What is left alone is left alone as a part of another view. -/
theorem Leaves.comp {τ' : Type*} {script : Script σ} (h : Leaves f script) (k : τ → τ') :
    Leaves (fun s => k (f s)) script := by
  induction script with
  | skip => trivial
  | command run => exact fun s t hrun => congrArg k (h s t hrun)
  | branch test yes no ihyes ihno => exact ⟨ihyes h.1, ihno h.2⟩
  | seq first second ihfirst ihsecond => exact ⟨ihfirst h.1, ihsecond h.2⟩

theorem Leaves.block {scripts : List (Script σ)} (hall : ∀ script ∈ scripts, Leaves f script) :
    Leaves f (block scripts) := by
  induction scripts with
  | nil => trivial
  | cons script scripts ih =>
    exact ⟨hall script List.mem_cons_self,
      ih fun later hlater => hall later (List.mem_cons_of_mem _ hlater)⟩

theorem Leaves.forEach {names : List ι} {body : ι → Script σ}
    (hall : ∀ name ∈ names, Leaves f (body name)) : Leaves f (forEach names body) := by
  refine .block fun script hscript => ?_
  obtain ⟨name, hname, rfl⟩ := List.mem_map.mp hscript
  exact hall name hname

/-- What is left alone by every command is left alone by every run. -/
theorem Leaves.eq_of_mem_states {script : Script σ} (h : Leaves f script) {s t : σ}
    (ht : t ∈ script.states s) : f t = f s := by
  induction script generalizing s t with
  | skip =>
    obtain rfl := List.mem_singleton.mp ht
    rfl
  | command run =>
    rcases List.mem_cons.mp ht with rfl | hrun
    · rfl
    · exact h s t (Option.mem_toList.mp hrun)
  | branch test yes no ihyes ihno =>
    rw [states] at ht
    cases htest : test s with
    | true =>
      rw [htest, if_pos rfl] at ht
      exact ihyes h.1 ht
    | false =>
      rw [htest, if_neg Bool.false_ne_true] at ht
      exact ihno h.2 ht
  | seq first second ihfirst ihsecond =>
    rcases List.mem_append.mp ht with hfirst | hsecond
    · exact ihfirst h.1 hfirst
    · cases hexec : first.exec s with
      | ok u =>
        rw [hexec] at hsecond
        rw [ihsecond h.2 hsecond, ihfirst h.1 (exec_mem_states hexec)]
      | error u =>
        rw [hexec] at hsecond
        cases hsecond

end Leaves

/-! ## What a script does to a part of the state -/

/-- On the part `f` of the state, a run that completes is the function `g`. -/
def Acts (f : σ → τ) (g : τ → τ) (script : Script σ) : Prop :=
  ∀ s t, script.exec s = .ok t → f t = g (f s)

section Acts

variable {f : σ → τ} {g h : τ → τ}

theorem Leaves.acts {script : Script σ} (hleaves : Leaves f script) : Acts f id script :=
  fun _ _ hexec => hleaves.eq_of_mem_states (exec_mem_states hexec)

theorem Acts.command {run : σ → Option σ} (hrun : ∀ s t, run s = some t → f t = g (f s)) :
    Acts f g (command run) := by
  intro s t hexec
  exact hrun s t (exec_command_ok.mp hexec)

theorem Acts.branch {test : σ → Bool} {yes no : Script σ}
    (hyes : ∀ s t, test s = true → yes.exec s = .ok t → f t = g (f s))
    (hno : ∀ s t, test s = false → no.exec s = .ok t → f t = g (f s)) :
    Acts f g (branch test yes no) := by
  intro s t hexec
  rw [exec] at hexec
  cases htest : test s with
  | true =>
    rw [htest, if_pos rfl] at hexec
    exact hyes s t htest hexec
  | false =>
    rw [htest, if_neg Bool.false_ne_true] at hexec
    exact hno s t htest hexec

theorem Acts.seq {first second : Script σ} (hfirst : Acts f g first) (hsecond : Acts f h second) :
    Acts f (h ∘ g) (seq first second) := by
  intro s u hexec
  obtain ⟨t, ht, hu⟩ := exec_seq_ok.mp hexec
  rw [hsecond t u hu, hfirst s t ht]
  rfl

/-- A part that the first script leaves alone. -/
theorem Acts.after {first second : Script σ} (hfirst : Leaves f first)
    (hsecond : Acts f g second) : Acts f g (Script.seq first second) := hfirst.acts.seq hsecond

/-- A part that the second script leaves alone. -/
theorem Acts.before {first second : Script σ} (hfirst : Acts f g first)
    (hsecond : Leaves f second) : Acts f g (Script.seq first second) := hfirst.seq hsecond.acts

/-- One pass of a loop acts on the part, and the other passes leave it alone. -/
theorem Acts.forEach [DecidableEq ι] {names : List ι} {body : ι → Script σ} {name : ι}
    (hnodup : names.Nodup) (hname : name ∈ names) (hself : Acts f g (body name))
    (hothers : ∀ other, other ≠ name → Leaves f (body other)) :
    Acts f g (forEach names body) := by
  induction names with
  | nil => cases hname
  | cons first names ih =>
    rw [List.nodup_cons] at hnodup
    by_cases heq : first = name
    · subst heq
      have hrest : Leaves f (Script.forEach names body) := by
        refine .forEach fun other hother => hothers other ?_
        intro hsame
        subst hsame
        exact hnodup.1 hother
      exact hself.before hrest
    · have hname' : name ∈ names := by
        rcases List.mem_cons.mp hname with hfirst | hrest
        · exact absurd hfirst.symm heq
        · exact hrest
      exact Acts.after (hothers first heq) (ih hnodup.2 hname')

end Acts

/-! ## The states a script passes through -/

/-- From every state that satisfies `P` the script passes through states that
satisfy `I`, and where it completes it satisfies `Q`. -/
def Passes (I P : σ → Prop) (script : Script σ) (Q : σ → Prop) : Prop :=
  ∀ s, P s → (∀ t ∈ script.states s, I t) ∧ ∀ t, script.exec s = .ok t → Q t

section Passes

variable {I P Q R : σ → Prop} {f : σ → τ}

theorem Passes.mono {P' Q' : σ → Prop} {script : Script σ} (h : Passes I P script Q)
    (hP : ∀ s, P' s → P s) (hQ : ∀ s, Q s → Q' s) : Passes I P' script Q' := by
  intro s hs
  obtain ⟨hstates, hend⟩ := h s (hP s hs)
  exact ⟨hstates, fun t ht => hQ t (hend t ht)⟩

theorem Passes.skip (hI : ∀ s, P s → I s) : Passes I P skip P := by
  intro s h
  refine ⟨fun t ht => ?_, fun t ht => ?_⟩
  · obtain rfl := List.mem_singleton.mp ht
    exact hI t h
  · obtain rfl := Except.ok.inj ht
    exact h

theorem Passes.command {run : σ → Option σ} (hI : ∀ s, P s → I s)
    (hrun : ∀ s t, P s → run s = some t → I t ∧ Q t) : Passes I P (command run) Q := by
  intro s h
  refine ⟨fun t ht => ?_, fun t ht => (hrun s t h (exec_command_ok.mp ht)).2⟩
  rcases List.mem_cons.mp ht with rfl | hnext
  · exact hI t h
  · exact (hrun s t h (Option.mem_toList.mp hnext)).1

theorem Passes.branch {test : σ → Bool} {yes no : Script σ}
    (hyes : Passes I (fun s => P s ∧ test s = true) yes Q)
    (hno : Passes I (fun s => P s ∧ test s = false) no Q) : Passes I P (branch test yes no) Q := by
  intro s h
  rw [states, exec]
  cases htest : test s with
  | true => exact hyes s ⟨h, htest⟩
  | false => exact hno s ⟨h, htest⟩

theorem Passes.seq {first second : Script σ} (hfirst : Passes I P first Q)
    (hsecond : Passes I Q second R) : Passes I P (seq first second) R := by
  intro s h
  obtain ⟨hstates, hend⟩ := hfirst s h
  refine ⟨fun t ht => ?_, fun u hu => ?_⟩
  · rcases List.mem_append.mp ht with hbefore | hafter
    · exact hstates t hbefore
    · cases hexec : first.exec s with
      | ok u =>
        rw [hexec] at hafter
        exact (hsecond u (hend u hexec)).1 t hafter
      | error u =>
        rw [hexec] at hafter
        cases hafter
  · obtain ⟨t, ht, hu⟩ := exec_seq_ok.mp hu
    exact (hsecond t (hend t ht)).2 u hu

/-- A script that leaves a part alone keeps what is known of the part. -/
theorem Leaves.passes {script : Script σ} (h : Leaves f script) {J : τ → Prop}
    (hI : ∀ s, J (f s) → I s) : Passes I (fun s => J (f s)) script fun s => J (f s) := by
  intro s hJ
  have hkeeps : ∀ t ∈ script.states s, J (f t) := by
    intro t ht
    rw [h.eq_of_mem_states ht]
    exact hJ
  exact ⟨fun t ht => hI t (hkeeps t ht), fun t ht => hkeeps t (exec_mem_states ht)⟩

/-- One pass of a loop changes the part, and the other passes leave it alone. -/
theorem Passes.forEach [DecidableEq ι] {names : List ι} {body : ι → Script σ} {name : ι}
    {J K : τ → Prop} (hnodup : names.Nodup) (hname : name ∈ names)
    (hJ : ∀ s, J (f s) → I s) (hK : ∀ s, K (f s) → I s)
    (hself : Passes I (fun s => J (f s)) (body name) fun s => K (f s))
    (hothers : ∀ other, other ≠ name → Leaves f (body other)) :
    Passes I (fun s => J (f s)) (forEach names body) fun s => K (f s) := by
  induction names with
  | nil => cases hname
  | cons first names ih =>
    rw [List.nodup_cons] at hnodup
    by_cases heq : first = name
    · subst heq
      have hrest : Leaves f (Script.forEach names body) := by
        refine .forEach fun other hother => hothers other ?_
        intro hsame
        subst hsame
        exact hnodup.1 hother
      exact Passes.seq hself (hrest.passes hK)
    · have hname' : name ∈ names := by
        rcases List.mem_cons.mp hname with hfirst | hrest
        · exact absurd hfirst.symm heq
        · exact hrest
      exact Passes.seq ((hothers first heq).passes hJ) (ih hnodup.2 hname')

end Passes

/-! ## Scripts that complete -/

/-- The run from `s` completes. -/
def Completes (s : σ) (script : Script σ) : Prop := ∃ t, script.exec s = .ok t

section Completes

variable {s : σ}

theorem Completes.skip : Completes s skip := ⟨s, rfl⟩

theorem Completes.command {run : σ → Option σ} {t : σ} (hrun : run s = some t) :
    Completes s (command run) := ⟨t, exec_command_ok.mpr hrun⟩

theorem Completes.branch {test : σ → Bool} {yes no : Script σ}
    (hyes : test s = true → Completes s yes) (hno : test s = false → Completes s no) :
    Completes s (branch test yes no) := by
  unfold Completes
  rw [exec]
  cases htest : test s with
  | true => exact hyes htest
  | false => exact hno htest

theorem Completes.seq {first second : Script σ} (hfirst : Completes s first)
    (hsecond : ∀ t, first.exec s = .ok t → Completes t second) :
    Completes s (seq first second) := by
  obtain ⟨t, ht⟩ := hfirst
  obtain ⟨u, hu⟩ := hsecond t ht
  exact ⟨u, exec_seq_ok.mpr ⟨t, ht, hu⟩⟩

/-- Scripts that complete from every state, one after the other. -/
theorem Completes.block {scripts : List (Script σ)}
    (hall : ∀ script ∈ scripts, ∀ s, Completes s script) (s : σ) : Completes s (block scripts) := by
  induction scripts generalizing s with
  | nil => exact .skip
  | cons script scripts ih =>
    exact .seq (hall script List.mem_cons_self s)
      fun t _ => ih (fun later hlater => hall later (List.mem_cons_of_mem _ hlater)) t

end Completes

end Script

/-! ## Functions that end a script -/

namespace Script

variable {σ ι : Type*} {I P Q : σ → Prop}

/-- Where a run that is given by a function has come to: `Q` if it completes, and `I` if a
command has ended it. -/
def Ends (I Q : σ → Prop) : Except σ σ → Prop
  | .ok s => Q s
  | .error s => I s

theorem Ends.mono {Q' : σ → Prop} {result : Except σ σ} (h : Ends I Q result)
    (hQ : ∀ s, Q s → Q' s) : Ends I Q' result := by
  cases result with
  | ok s => exact hQ s h
  | error s => exact h

theorem Ends.bind {result : Except σ σ} {next : σ → Except σ σ} (h : Ends I P result)
    (hnext : ∀ s, P s → Ends I Q (next s)) : Ends I Q (result.bind next) := by
  cases result with
  | ok s => exact hnext s h
  | error s => exact h

/-- A loop keeps what each pass keeps. -/
theorem Ends.foldlM {names : List ι} {body : σ → ι → Except σ σ}
    (hbody : ∀ name ∈ names, ∀ s, P s → Ends I P (body s name)) {s : σ} (hs : P s) :
    Ends I P (names.foldlM body s) := by
  induction names generalizing s with
  | nil => exact hs
  | cons name names ih =>
    rw [List.foldlM_cons]
    refine Ends.bind (hbody name List.mem_cons_self s hs) fun t ht => ?_
    exact ih (fun later hlater => hbody later (List.mem_cons_of_mem _ hlater)) ht

end Script

/-! ## Files -/

/-- File names to contents; a name without contents is no file. -/
abbrev Files (κ α : Type*) := κ → Option α

namespace Files

variable {κ α : Type*} [DecidableEq κ] (files : Files κ α)

/-- The files after `contents` is stored under `name`. -/
def put (name : κ) (contents : α) : Files κ α := Function.update files name (some contents)

/-- `rm -f`. -/
def rm (name : κ) : Files κ α := Function.update files name none

/-- `cp`. -/
def cp (source target : κ) : Option (Files κ α) := (files source).map (files.put target)

/-- `mv -f`. -/
def mv (source target : κ) : Option (Files κ α) :=
  (files source).map fun contents => (files.put target contents).rm source

@[simp] theorem put_same (name : κ) (contents : α) :
    files.put name contents name = some contents := Function.update_self ..

@[simp] theorem put_other {name other : κ} (h : other ≠ name) (contents : α) :
    files.put name contents other = files other := Function.update_of_ne h ..

@[simp] theorem rm_same (name : κ) : files.rm name name = none := Function.update_self ..

@[simp] theorem rm_other {name other : κ} (h : other ≠ name) : files.rm name other = files other :=
  Function.update_of_ne h ..

variable {files} {files' : Files κ α} {source target : κ}

theorem cp_eq_some_iff : files.cp source target = some files' ↔
    ∃ contents, files source = some contents ∧ files.put target contents = files' :=
  Option.map_eq_some_iff

theorem mv_eq_some_iff : files.mv source target = some files' ↔
    ∃ contents, files source = some contents ∧ (files.put target contents).rm source = files' :=
  Option.map_eq_some_iff

end Files

/-! ## The lines of a text -/

section Lines

variable {α : Type*} [DecidableEq α] (newline : α)

/-- The lines that a newline ends: the ones that `read` finds. -/
def endedLines (text : List α) : List (List α) := (text.splitOn newline).dropLast

/-- The lines of a text, with the one at its end that no newline ends. -/
def linesOf (text : List α) : List (List α) :=
  if (text.splitOn newline).getLast? = some [] then endedLines newline text
  else text.splitOn newline

/-- The text of the lines, each one ended. -/
def joinLines (lines : List (List α)) : List α := lines.flatMap (· ++ [newline])

theorem splitOn_joinLines {lines : List (List α)} (h : ∀ line ∈ lines, newline ∉ line) :
    (joinLines newline lines).splitOn newline = lines ++ [[]] := by
  induction lines with
  | nil => exact List.splitOn_nil newline
  | cons line lines ih =>
    rw [List.forall_mem_cons] at h
    calc (joinLines newline (line :: lines)).splitOn newline
        = (line ++ newline :: joinLines newline lines).splitOn newline := by simp [joinLines]
      _ = line :: (joinLines newline lines).splitOn newline :=
          List.splitOn_append_cons_self_of_not_mem h.1 _
      _ = line :: lines ++ [[]] := by rw [ih h.2, List.cons_append]

/-- The lines that are written are the lines that are read back. -/
theorem linesOf_joinLines {lines : List (List α)} (h : ∀ line ∈ lines, newline ∉ line) :
    linesOf newline (joinLines newline lines) = lines := by
  unfold linesOf endedLines
  rw [splitOn_joinLines newline h, List.getLast?_concat, if_pos rfl, List.dropLast_concat]

theorem not_mem_of_mem_splitOn {text line : List α} (h : line ∈ text.splitOn newline) :
    newline ∉ line := by
  induction text generalizing line with
  | nil =>
    rw [List.splitOn_nil, List.mem_singleton] at h
    rw [h]
    exact List.not_mem_nil
  | cons c text ih =>
    rw [List.splitOn_cons_eq_if_modifyHead] at h
    split at h
    · rcases List.mem_cons.mp h with rfl | hrest
      · exact List.not_mem_nil
      · exact ih hrest
    · rename_i hc
      cases hpieces : text.splitOn newline with
      | nil => exact absurd hpieces (List.splitOn_ne_nil newline text)
      | cons first pieces =>
        rw [hpieces, List.modifyHead_cons] at h
        rcases List.mem_cons.mp h with rfl | hrest
        · have hfirst : newline ∉ first := ih (hpieces ▸ List.mem_cons_self)
          rw [List.mem_cons, not_or]
          exact ⟨fun heq => hc (beq_iff_eq.mpr heq.symm), hfirst⟩
        · exact ih (hpieces ▸ List.mem_cons_of_mem _ hrest)

/-- A line that is not empty is a line, ended or not. -/
theorem mem_linesOf_iff {text line : List α} (hline : line ≠ []) :
    line ∈ linesOf newline text ↔ line ∈ text.splitOn newline := by
  unfold linesOf endedLines
  split
  · rename_i hlast
    obtain ⟨ended, hended⟩ := List.getLast?_eq_some_iff.mp hlast
    rw [hended, List.dropLast_concat, List.mem_append, List.mem_singleton, or_iff_left hline]
  · exact Iff.rfl

/-- No line holds a newline. -/
theorem not_mem_of_mem_linesOf {text line : List α} (h : line ∈ linesOf newline text) :
    newline ∉ line := by
  unfold linesOf at h
  split at h
  · exact not_mem_of_mem_splitOn newline (List.dropLast_subset _ h)
  · exact not_mem_of_mem_splitOn newline h

end Lines

/-! ## The ends of lines -/

section LineEnds

variable {α : Type*} [DecidableEq α] (mark : α)

/-- `tr -d`: the line without a mark. -/
def deleteMark (line : List α) : List α := line.filter (· ≠ mark)

/-- The line without one mark at its end. -/
def stripMark (line : List α) : List α :=
  if line.getLast? = some mark then line.dropLast else line

@[simp] theorem deleteMark_append (line rest : List α) :
    deleteMark mark (line ++ rest) = deleteMark mark line ++ deleteMark mark rest :=
  List.filter_append ..

/-- The lines of a text without marks are the lines of the text, each without its marks. -/
theorem splitOn_deleteMark {newline : α} (hne : mark ≠ newline) (text : List α) :
    (deleteMark mark text).splitOn newline = (text.splitOn newline).map (deleteMark mark) := by
  induction text with
  | nil => rfl
  | cons c text ih =>
    cases hpieces : text.splitOn newline with
    | nil => exact absurd hpieces (List.splitOn_ne_nil newline text)
    | cons first pieces =>
      rw [hpieces, List.map_cons] at ih
      rw [List.splitOn_cons_eq_if_modifyHead, hpieces]
      by_cases hmark : c = mark
      · have hdelete : deleteMark mark (c :: text) = deleteMark mark text := by
          simp [deleteMark, hmark]
        have hfirst : deleteMark mark (c :: first) = deleteMark mark first := by
          simp [deleteMark, hmark]
        have hc : (c == newline) = false := by simp [hmark, hne]
        rw [hdelete, ih, hc, if_neg Bool.false_ne_true, List.modifyHead_cons, List.map_cons, hfirst]
      · have hdelete (line : List α) : deleteMark mark (c :: line) = c :: deleteMark mark line := by
          simp [deleteMark, hmark]
        rw [hdelete, List.splitOn_cons_eq_if_modifyHead, ih, List.modifyHead_cons,
          List.modifyHead_cons]
        split
        · rfl
        · rw [List.map_cons, hdelete]

theorem stripMark_subset (line : List α) : stripMark mark line ⊆ line := by
  unfold stripMark
  split
  · exact List.dropLast_subset line
  · exact List.Subset.refl line

/-- The marked end of a line, if it has one. -/
theorem stripMark_cases (line : List α) :
    line = stripMark mark line ++ [mark] ∨ line = stripMark mark line := by
  unfold stripMark
  by_cases hlast : line.getLast? = some mark
  · left
    obtain ⟨front, rfl⟩ := List.getLast?_eq_some_iff.mp hlast
    rw [if_pos hlast, List.dropLast_concat]
  · right
    rw [if_neg hlast]

/-- A stripped line loses marks only. -/
theorem deleteMark_stripMark (line : List α) :
    deleteMark mark (stripMark mark line) = deleteMark mark line := by
  have hmark : deleteMark mark [mark] = [] := by simp [deleteMark]
  obtain h | h := stripMark_cases mark line
  · calc deleteMark mark (stripMark mark line)
        = deleteMark mark (stripMark mark line) ++ deleteMark mark [mark] := by
          rw [hmark, List.append_nil]
      _ = deleteMark mark line := by rw [← deleteMark_append, ← h]
  · rw [← h]

/-- A line is a word without marks once it is stripped, exactly when it is the word with at
most one mark at its end. -/
theorem stripMark_eq_iff {line word : List α} (h : mark ∉ word) :
    stripMark mark line = word ↔ line = word ∨ line = word ++ [mark] := by
  constructor
  · intro hstrip
    obtain hline | hline := stripMark_cases mark line
    · exact Or.inr (hstrip ▸ hline)
    · exact Or.inl (hline.trans hstrip)
  · intro hline
    unfold stripMark
    obtain rfl | rfl := hline
    · apply if_neg
      intro hlast
      exact h (List.mem_of_getLast? hlast)
    · rw [List.getLast?_concat, if_pos rfl, List.dropLast_concat]

end LineEnds

end UuAmfBridge
