import UuAmfBridge.Lib.Machine
import UuAmfBridge.Lib.RingQueue

/-!
# Runs of a ring

What a program does to a `Ring` is a list of operations: it offers an element,
takes one, or clears the ring and takes back all it holds.  `Ring.play` is one
of them, with what it hands out.

A ring holds values, and two elements of one value look alike.  A
`NumberedRing` gives each element a number when it is offered, so that "the
same element" has a meaning, and is otherwise the same ring
(`NumberedRing.play_unnumbered`).  Every number it has handed out or still
holds stands once, and in the order of the offers, in its ledger
(`NumberedRing.InOrder`), from which an element leaves the ring at most once
(`NumberedRing.InOrder.popped_nodup`).
-/

namespace UuAmfBridge

/-- An operation on a ring. -/
inductive RingOp (α : Type*) where
  /-- `push`; the element is given up when every slot is taken. -/
  | offer (a : α)
  /-- `pop`. -/
  | take
  /-- Take back every element, and go on with an empty ring. -/
  | clear

/-- What an operation hands out. -/
inductive RingAnswer (α : Type*) where
  | kept
  | taken (a? : Option α)
  | cleared (as : List α)

namespace RingOp

variable {α β : Type*}

/-- The operation on other names for the elements. -/
def map (f : α → β) : RingOp α → RingOp β
  | .offer a => .offer (f a)
  | .take => .take
  | .clear => .clear

/-- How many elements the operation offers. -/
def offers : RingOp α → Nat
  | .offer _ => 1
  | _ => 0

/-- A number on an element is all that tells the two operations apart. -/
@[simp] theorem map_snd_map_pair (k : Nat) (op : RingOp α) :
    (op.map fun a => (k, a)).map Prod.snd = op := by
  cases op <;> rfl

end RingOp

namespace RingAnswer

variable {α β : Type*}

/-- The answer under other names for the elements. -/
def map (f : α → β) : RingAnswer α → RingAnswer β
  | .kept => .kept
  | .taken a? => .taken (a?.map f)
  | .cleared as => .cleared (as.map f)

/-- What a `pop` has brought, when the operation was one that did. -/
def pop? : RingAnswer α → Option (Option α)
  | .taken a? => some a?
  | _ => none

/-- The elements that have left the ring. -/
def left : RingAnswer α → List α
  | .kept => []
  | .taken a? => a?.toList
  | .cleared as => as

/-- The elements that have left the ring by a `pop`. -/
def popped : RingAnswer α → List α
  | .taken a? => a?.toList
  | _ => []

theorem popped_sublist_left (answer : RingAnswer α) : answer.popped.Sublist answer.left := by
  cases answer with
  | kept => exact List.Sublist.refl _
  | taken a? => exact List.Sublist.refl _
  | cleared as => exact List.nil_sublist _

end RingAnswer

namespace Ring

variable {α β : Type*} {n : Nat} [NeZero n]

/-- One operation on the ring. -/
def play (r : Ring α n) : RingOp α → Ring α n × RingAnswer α
  | .offer a => ((r.push a).getD r, .kept)
  | .take =>
      match r.pop with
      | none => (r, .kept)
      | some (a?, r') => (r', .taken a?)
  | .clear => (empty, .cleared r.contents)

@[simp] theorem play_offer (r : Ring α n) (a : α) :
    r.play (.offer a) = ((r.push a).getD r, .kept) := rfl

@[simp] theorem play_clear (r : Ring α n) :
    r.play .clear = (empty, .cleared r.contents) := rfl

theorem play_take_of_none {r : Ring α n} (h : r.pop = none) : r.play .take = (r, .kept) := by
  unfold play
  rw [h]

theorem play_take_of_some {r r' : Ring α n} {a? : Option α} (h : r.pop = some (a?, r')) :
    r.play .take = (r', .taken a?) := by
  unfold play
  rw [h]

/-- The ring answers one operation at a time. -/
def machine (α : Type*) (n : Nat) [NeZero n] : Machine (Ring α n) (RingOp α) (RingAnswer α) where
  step := play

/-- The operation leaves every element where it is: what it stores goes to an
empty slot. -/
def StoresInEmptySlot (r : Ring α n) (op : RingOp α) : Prop :=
  ∀ a r', op = .offer a → r.push a = some r' →
    r.slot (r.head + r.count) = none ∧ r'.slot (r.head + r.count) = some a ∧
      ∀ i b, r.slots i = some b → r'.slots i = some b

/-- On a valid ring `push` fills an empty slot, and every other slot stays. -/
theorem Valid.storesInEmptySlot {r : Ring α n} (hr : r.Valid) (op : RingOp α) :
    r.StoresInEmptySlot op := by
  intro a r' _ hpush
  rw [Ring.push] at hpush
  split_ifs at hpush with hfull
  obtain rfl := Option.some.inj hpush
  have hlt : r.count < n := lt_of_le_of_ne hr.count_le hfull
  have hempty : r.slot (r.head + r.count) = none := by
    have htaken := hr.taken r.count hlt
    rw [← Option.not_isSome_iff_eq_none, htaken]
    exact Nat.lt_irrefl _
  refine ⟨hempty, Function.update_self _ _ _, ?_⟩
  intro i b hb
  -- The slot that `push` writes held nothing, so `i` is another one.
  have hne : i ≠ Fin.ofNat n (r.head + r.count) := by
    rintro rfl
    rw [slot, hb] at hempty
    cases hempty
  show Function.update r.slots _ _ i = some b
  rw [Function.update_of_ne hne, hb]

/-- Every operation keeps the invariant. -/
theorem Valid.play {r : Ring α n} (hr : r.Valid) (op : RingOp α) : (r.play op).1.Valid := by
  cases op with
  | offer a =>
    rw [play_offer]
    cases hpush : r.push a with
    | none => exact hr
    | some r' => exact (hr.push hpush).1
  | take =>
    cases hpop : r.pop with
    | none =>
      rw [play_take_of_none hpop]
      exact hr
    | some popped =>
      rw [play_take_of_some hpop]
      exact (hr.pop hpop).1
  | clear => exact valid_empty

/-- A `pop` of a valid ring never brings an empty slot. -/
theorem Valid.pop?_isSome {r : Ring α n} (hr : r.Valid) {op : RingOp α} {a? : Option α}
    (hanswer : (r.play op).2.pop? = some a?) : a?.isSome = true := by
  cases op with
  | offer a => cases hanswer
  | take =>
    cases hpop : r.pop with
    | none =>
      rw [play_take_of_none hpop] at hanswer
      cases hanswer
    | some popped =>
      rw [play_take_of_some hpop] at hanswer
      obtain rfl := Option.some.inj hanswer
      obtain ⟨-, a, ha, -⟩ := hr.pop hpop
      rw [ha]
      rfl
  | clear => cases hanswer

/-- No operation of a run writes over an element. -/
theorem Valid.along_storesInEmptySlot {r : Ring α n} (hr : r.Valid) (ops : List (RingOp α)) :
    (machine α n).Along (fun _ r op => r.StoresInEmptySlot op) [] r ops :=
  Machine.along_of_invariant (P := fun _ _ _ => True) (fun _ r => r.Valid)
    (fun _ _ op hinv _ => hinv.play op) (fun _ _ op hinv _ => hinv.storesInEmptySlot op) hr
    (Machine.along_of_forall (fun _ _ _ => trivial) [] r ops)

/-- Every `pop` of a run brings an element. -/
theorem Valid.pop?_outputs_isSome {r : Ring α n} (hr : r.Valid) {ops : List (RingOp α)}
    {a? : Option α}
    (ha : a? ∈ ((machine α n).outputs r ops).filterMap RingAnswer.pop?) : a?.isSome = true := by
  induction ops generalizing r with
  | nil => cases ha
  | cons op ops ih =>
    rw [Machine.outputs_cons, List.mem_filterMap] at ha
    obtain ⟨answer, hmem, hanswer⟩ := ha
    rcases List.mem_cons.mp hmem with rfl | hmem
    · exact hr.pop?_isSome hanswer
    · exact ih (hr.play op) (List.mem_filterMap.mpr ⟨answer, hmem, hanswer⟩)

/-! ## What a program does to a ring -/

/-- The operations make one ring of the other, and their `pop`s bring `popped`. -/
structure Plays (r : Ring α n) (ops : List (RingOp α)) (r' : Ring α n)
    (popped : List (Option α)) : Prop where
  run_eq : (machine α n).run r ops = r'
  popped_eq : ((machine α n).outputs r ops).filterMap RingAnswer.pop? = popped

theorem plays_nil (r : Ring α n) : r.Plays [] r [] := ⟨rfl, rfl⟩

theorem Plays.cons {r r' : Ring α n} {op : RingOp α} {ops : List (RingOp α)}
    {popped : List (Option α)} (h : (r.play op).1.Plays ops r' popped) :
    r.Plays (op :: ops) r' ((r.play op).2.pop?.toList ++ popped) where
  run_eq := by
    rw [Machine.run_cons]
    exact h.run_eq
  popped_eq := by
    rw [Machine.outputs_cons, ← h.popped_eq]
    show List.filterMap RingAnswer.pop? ((r.play op).2 :: _) = _
    cases hpop : (r.play op).2.pop? with
    | none => exact List.filterMap_cons_none hpop
    | some a? => exact List.filterMap_cons_some hpop

theorem Plays.offer {r r' r'' : Ring α n} {a : α} {ops : List (RingOp α)}
    {popped : List (Option α)} (hpush : r.push a = some r') (h : r'.Plays ops r'' popped) :
    r.Plays (.offer a :: ops) r'' popped := by
  have hplay : (r.play (.offer a)).1 = r' := by rw [play_offer, hpush]; rfl
  exact Plays.cons (hplay ▸ h)

theorem plays_offer_full {r : Ring α n} {a : α} (hpush : r.push a = none) :
    r.Plays [.offer a] r [] := by
  have hplay : (r.play (.offer a)).1 = r := by rw [play_offer, hpush]; rfl
  exact Plays.cons (by rw [hplay]; exact plays_nil r)

theorem plays_take {r r' : Ring α n} {a? : Option α} (hpop : r.pop = some (a?, r')) :
    r.Plays [.take] r' [a?] := by
  have h : r.Plays [.take] _ _ := Plays.cons (plays_nil (r.play .take).1)
  rw [play_take_of_some hpop] at h
  exact h

theorem plays_take_empty {r : Ring α n} (hpop : r.pop = none) : r.Plays [.take] r [] := by
  have h : r.Plays [.take] _ _ := Plays.cons (plays_nil (r.play .take).1)
  rw [play_take_of_none hpop] at h
  exact h

theorem Plays.clear {r r' : Ring α n} {ops : List (RingOp α)} {popped : List (Option α)}
    (h : (empty : Ring α n).Plays ops r' popped) : r.Plays (.clear :: ops) r' popped :=
  Plays.cons h

/-! ## Other names for the elements -/

/-- The ring under other names for the elements. -/
def map (f : α → β) (r : Ring α n) : Ring β n where
  slots i := (r.slots i).map f
  head := r.head
  count := r.count

theorem map_push (f : α → β) (r : Ring α n) (a : α) :
    (r.map f).push (f a) = (r.push a).map (map f) := by
  unfold push
  by_cases hfull : r.count = n
  · rw [if_pos hfull, if_pos (show (r.map f).count = n from hfull)]
    rfl
  · rw [if_neg hfull, if_neg (show ¬(r.map f).count = n from hfull)]
    refine congrArg some (congrArg (fun slots => Ring.mk slots r.head (r.count + 1)) ?_)
    exact (Function.comp_update (Option.map f) r.slots _ (some a)).symm

theorem map_pop (f : α → β) (r : Ring α n) :
    (r.map f).pop = r.pop.map (Prod.map (Option.map f) (map f)) := by
  unfold pop
  by_cases hempty : r.count = 0
  · rw [if_pos hempty, if_pos (show (r.map f).count = 0 from hempty)]
    rfl
  · rw [if_neg hempty, if_neg (show ¬(r.map f).count = 0 from hempty)]
    refine congrArg some (congrArg
      (fun slots => (_, Ring.mk slots ((r.head + 1) % n) (r.count - 1))) ?_)
    exact (Function.comp_update (Option.map f) r.slots _ none).symm

theorem map_contents (f : α → β) (r : Ring α n) :
    (r.map f).contents = r.contents.map f := by
  unfold contents
  rw [List.map_filterMap]
  rfl

theorem Valid.map {r : Ring α n} (hr : r.Valid) (f : α → β) : (r.map f).Valid where
  head_lt := hr.head_lt
  count_le := hr.count_le
  taken := by
    intro i hi
    show ((r.slot (r.head + i)).map f).isSome = true ↔ i < r.count
    rw [Option.isSome_map]
    exact hr.taken i hi

/-- The operations do not look at the names of the elements. -/
theorem map_play (f : α → β) (r : Ring α n) (op : RingOp α) :
    (r.map f).play (op.map f) = ((r.play op).1.map f, (r.play op).2.map f) := by
  cases op with
  | offer a =>
    show (r.map f).play (.offer (f a)) = _
    rw [play_offer, play_offer, map_push]
    cases r.push a <;> rfl
  | take =>
    show (r.map f).play .take = _
    have hpop' := map_pop f r
    cases hpop : r.pop with
    | none =>
      rw [hpop] at hpop'
      rw [play_take_of_none hpop, play_take_of_none hpop']
      rfl
    | some popped =>
      rw [hpop] at hpop'
      rw [play_take_of_some hpop, play_take_of_some hpop']
      rfl
  | clear =>
    show (r.map f).play .clear = _
    rw [play_clear, play_clear, map_contents]
    rfl

end Ring

/-! ## Numbered elements -/

/-- A ring whose elements are numbered in the order in which they are offered. -/
structure NumberedRing (α : Type*) (n : Nat) [NeZero n] where
  ring : Ring (Nat × α) n := Ring.empty
  /-- How many elements have been offered. -/
  offered : Nat := 0

namespace NumberedRing

variable {α : Type*} {n : Nat} [NeZero n]

/-- One operation; an element that is offered gets the next number. -/
def play (s : NumberedRing α n) (op : RingOp α) :
    NumberedRing α n × RingAnswer (Nat × α) :=
  let next := s.ring.play (op.map fun a => (s.offered, a))
  ({ ring := next.1, offered := s.offered + op.offers }, next.2)

/-- The numbered ring answers one operation at a time. -/
def machine (α : Type*) (n : Nat) [NeZero n] :
    Machine (NumberedRing α n) (RingOp α) (RingAnswer (Nat × α)) where
  step := play

/-- The ring without the numbers. -/
def unnumbered (s : NumberedRing α n) : Ring α n := s.ring.map Prod.snd

/-- Without the numbers it is one operation on the ring. -/
theorem play_unnumbered (s : NumberedRing α n) (op : RingOp α) :
    ((s.play op).1.unnumbered, (s.play op).2.map Prod.snd) = s.unnumbered.play op := by
  have hmap := Ring.map_play Prod.snd s.ring (op.map fun a => (s.offered, a))
  rw [RingOp.map_snd_map_pair] at hmap
  exact hmap.symm

/-- Without the numbers a run is a run on the ring. -/
theorem run_unnumbered (s : NumberedRing α n) (ops : List (RingOp α)) :
    ((machine α n).run s ops).unnumbered = (Ring.machine α n).run s.unnumbered ops := by
  induction ops generalizing s with
  | nil => rfl
  | cons op ops ih =>
    rw [Machine.run_cons, Machine.run_cons, ih]
    have hring := congrArg Prod.fst (play_unnumbered s op)
    exact congrArg (fun r => (Ring.machine α n).run r ops) hring

/-- Without the numbers a run hands out what the run on the ring does. -/
theorem outputs_unnumbered (s : NumberedRing α n) (ops : List (RingOp α)) :
    ((machine α n).outputs s ops).map (RingAnswer.map Prod.snd) =
      (Ring.machine α n).outputs s.unnumbered ops := by
  induction ops generalizing s with
  | nil => rfl
  | cons op ops ih =>
    have hplay := play_unnumbered s op
    rw [Machine.outputs_cons, Machine.outputs_cons, List.map_cons, ih]
    show (s.play op).2.map Prod.snd :: (Ring.machine α n).outputs (s.play op).1.unnumbered ops =
      (s.unnumbered.play op).2 :: (Ring.machine α n).outputs (s.unnumbered.play op).1 ops
    rw [← hplay]

/-- The numbers of the elements that have left the ring and of those in it,
oldest first. -/
def ledger (log : List (RingAnswer (Nat × α))) (s : NumberedRing α n) : List Nat :=
  (log.flatMap RingAnswer.left ++ s.ring.contents).map Prod.fst

/-- The ring is valid, and its ledger lists numbers of offered elements in the
order of the offers, each of them once. -/
structure InOrder (log : List (RingAnswer (Nat × α))) (s : NumberedRing α n) : Prop where
  valid : s.ring.Valid
  increasing : (ledger log s).Pairwise (· < ·)
  offered : ∀ k ∈ ledger log s, k < s.offered

theorem inOrder_empty : InOrder [] ({} : NumberedRing α n) where
  valid := Ring.valid_empty
  increasing := List.Pairwise.nil
  offered := by
    intro k hk
    cases hk

/-- An operation leaves the ledger as it is, or enters the number of the
element it stores. -/
theorem ledger_play (log : List (RingAnswer (Nat × α))) {s : NumberedRing α n}
    (hs : s.ring.Valid) (op : RingOp α) :
    ledger (log ++ [(s.play op).2]) (s.play op).1 = ledger log s ∨
      ledger (log ++ [(s.play op).2]) (s.play op).1 = ledger log s ++ [s.offered] ∧
        (s.play op).1.offered = s.offered + 1 := by
  unfold ledger
  rw [List.flatMap_append]
  cases op with
  | offer a =>
    show ((_ ++ []) ++ ((s.ring.push (s.offered, a)).getD s.ring).contents).map Prod.fst = _ ∨
      ((_ ++ []) ++ ((s.ring.push (s.offered, a)).getD s.ring).contents).map Prod.fst = _ ∧ _
    rw [List.append_nil]
    cases hpush : s.ring.push (s.offered, a) with
    | none => exact Or.inl rfl
    | some r' =>
      right
      refine ⟨?_, rfl⟩
      show (_ ++ r'.contents).map Prod.fst = _
      rw [(hs.push hpush).2, ← List.append_assoc, List.map_append]
      rfl
  | take =>
    left
    show (_ ++ [(s.ring.play RingOp.take).2].flatMap RingAnswer.left ++
      (s.ring.play RingOp.take).1.contents).map Prod.fst = _
    unfold Ring.play
    cases hpop : s.ring.pop with
    | none =>
      show ((_ ++ []) ++ s.ring.contents).map Prod.fst = _
      rw [List.append_nil]
    | some popped =>
      obtain ⟨-, a, ha, hcontents⟩ := hs.pop hpop
      show ((_ ++ (popped.1.toList ++ [])) ++ popped.2.contents).map Prod.fst = _
      rw [ha, hcontents, List.append_assoc]
      rfl
  | clear =>
    left
    show ((_ ++ (s.ring.contents ++ [])) ++ (Ring.empty : Ring (Nat × α) n).contents).map
      Prod.fst = _
    rw [Ring.contents_empty, List.append_nil, List.append_nil]

/-- Every operation keeps the ledger in order. -/
theorem InOrder.play {log : List (RingAnswer (Nat × α))} {s : NumberedRing α n}
    (hs : InOrder log s) (op : RingOp α) :
    InOrder (log ++ [(s.play op).2]) (s.play op).1 := by
  refine ⟨hs.valid.play _, ?_, ?_⟩
  · rcases ledger_play log hs.valid op with hledger | ⟨hledger, -⟩
    · rw [hledger]
      exact hs.increasing
    · rw [hledger, List.pairwise_append]
      refine ⟨hs.increasing, List.pairwise_singleton _ _, ?_⟩
      intro k hk m hm
      rw [List.mem_singleton.mp hm]
      exact hs.offered k hk
  · intro k hk
    rcases ledger_play log hs.valid op with hledger | ⟨hledger, hoffered⟩
    · rw [hledger] at hk
      exact Nat.lt_of_lt_of_le (hs.offered k hk) (Nat.le_add_right _ _)
    · rw [hledger, List.mem_append, List.mem_singleton] at hk
      rw [hoffered]
      rcases hk with hk | rfl
      · exact Nat.lt_succ_of_lt (hs.offered k hk)
      · exact Nat.lt_succ_self _

/-- A run keeps the ledger in order. -/
theorem InOrder.run {log : List (RingAnswer (Nat × α))} {s : NumberedRing α n}
    (hs : InOrder log s) (ops : List (RingOp α)) :
    InOrder (log ++ (machine α n).outputs s ops) ((machine α n).run s ops) := by
  have hexec := Machine.exec_invariant (P := fun _ _ _ => True) InOrder
    (fun _ _ op hinv _ => InOrder.play hinv op) hs
    (Machine.along_of_forall (m := machine α n) (fun _ _ _ => trivial) log s ops)
  rw [Machine.exec_eq] at hexec
  exact hexec

/-- No element leaves the ring twice, whatever it leaves by. -/
theorem InOrder.left_nodup {log : List (RingAnswer (Nat × α))} {s : NumberedRing α n}
    (hs : InOrder log s) : ((log.flatMap RingAnswer.left).map Prod.fst).Nodup := by
  have hpairwise := hs.increasing
  unfold ledger at hpairwise
  rw [List.map_append, List.pairwise_append] at hpairwise
  exact hpairwise.1.imp Nat.ne_of_lt

/-- No element is popped twice. -/
theorem InOrder.popped_nodup {log : List (RingAnswer (Nat × α))} {s : NumberedRing α n}
    (hs : InOrder log s) : ((log.flatMap RingAnswer.popped).map Prod.fst).Nodup := by
  have hsub : (log.flatMap RingAnswer.popped).Sublist (log.flatMap RingAnswer.left) := by
    clear hs
    induction log with
    | nil => exact List.Sublist.refl _
    | cons answer log ih => exact (RingAnswer.popped_sublist_left answer).append ih
  exact hs.left_nodup.sublist (hsub.map _)

end NumberedRing

end UuAmfBridge
