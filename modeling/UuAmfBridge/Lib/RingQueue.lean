import Mathlib.Data.Nat.ModEq
import Mathlib.Data.Fin.Basic
import Mathlib.Data.List.Basic

/-!
# A bounded queue in a circular array

`Ring` is an array of `n` slots with the index of the oldest element and the
number of elements, as C code keeps it: an empty slot is `none`, and `push` and
`pop` advance modulo `n`.  Nothing in the type relates the three fields;
`Ring.Valid` is the invariant that does, and the two operations keep it.

`Ring.contents` is the queue the array stands for.  `Valid.push` and
`Valid.pop` are the refinement: on a valid ring `push` appends to the queue
and `pop` takes its head.
-/

namespace UuAmfBridge

/-- `n` slots, the index of the oldest element, and the number of elements. -/
structure Ring (α : Type*) (n : Nat) where
  slots : Fin n → Option α
  head : Nat
  count : Nat

namespace Ring

variable {α : Type*} {n : Nat} [NeZero n]

/-- The slot at an index, taken modulo the number of slots. -/
def slot (r : Ring α n) (index : Nat) : Option α := r.slots (Fin.ofNat n index)

/-- The empty ring. -/
def empty : Ring α n := { slots := fun _ => none, head := 0, count := 0 }

/-- Store an element behind the last one, unless every slot is taken. -/
def push (r : Ring α n) (a : α) : Option (Ring α n) :=
  if r.count = n then none
  else some
    { slots := Function.update r.slots (Fin.ofNat n (r.head + r.count)) (some a)
      head := r.head
      count := r.count + 1 }

/-- Take the oldest slot and clear it, unless the ring is empty. -/
def pop (r : Ring α n) : Option (Option α × Ring α n) :=
  if r.count = 0 then none
  else some
    (r.slot r.head,
      { slots := Function.update r.slots (Fin.ofNat n r.head) none
        head := (r.head + 1) % n
        count := r.count - 1 })

/-- The elements of the ring, oldest first. -/
def contents (r : Ring α n) : List α :=
  (List.range r.count).filterMap fun i => r.slot (r.head + i)

/-- The head is an index, the count fits, and exactly the slots the count
covers are taken. -/
structure Valid (r : Ring α n) : Prop where
  head_lt : r.head < n
  count_le : r.count ≤ n
  taken : ∀ i < n, (r.slot (r.head + i)).isSome ↔ i < r.count

theorem valid_empty : (empty : Ring α n).Valid where
  head_lt := Nat.pos_of_ne_zero (NeZero.ne n)
  count_le := Nat.zero_le n
  taken := by simp [slot, empty]

/-- Two offsets below `n` name one slot only when they are equal. -/
private theorem ofNat_add_inj (h : Nat) {i j : Nat} (hi : i < n) (hj : j < n) :
    Fin.ofNat n (h + i) = Fin.ofNat n (h + j) ↔ i = j := by
  constructor
  · intro heq
    have hmod : h + i ≡ h + j [MOD n] := congrArg Fin.val heq
    exact Nat.ModEq.eq_of_lt_of_lt (Nat.ModEq.add_left_cancel' h hmod) hi hj
  · rintro rfl
    rfl

private theorem ofNat_mod_add (h i : Nat) :
    Fin.ofNat n (h % n + i) = Fin.ofNat n (h + i) := by
  apply Fin.ext
  simp [Fin.ofNat, Nat.mod_add_mod]

@[simp] theorem contents_empty : (empty : Ring α n).contents = [] := rfl

/-- The slots that the count covers hold the elements of the queue. -/
theorem Valid.contents_length {r : Ring α n} (hr : r.Valid) :
    r.contents.length = r.count := by
  have hsome : ∀ k ≤ r.count,
      ((List.range k).filterMap fun i => r.slot (r.head + i)).length = k := by
    intro k hk
    induction k with
    | zero => rfl
    | succ k ih =>
      have hlt : k < r.count := hk
      obtain ⟨a, ha⟩ := Option.isSome_iff_exists.mp
        ((hr.taken k (Nat.lt_of_lt_of_le hlt hr.count_le)).mpr hlt)
      rw [List.range_succ, List.filterMap_append, List.length_append, ih (by omega)]
      simp [ha]
  exact hsome r.count le_rfl

theorem Valid.contents_eq_nil_iff {r : Ring α n} (hr : r.Valid) :
    r.contents = [] ↔ r.count = 0 := by
  rw [← List.length_eq_zero_iff, hr.contents_length]

/-- `push` fails exactly on a full ring. -/
theorem push_eq_none_iff {r : Ring α n} {a : α} :
    r.push a = none ↔ r.count = n := by
  simp [push]

/-- On a valid ring `push` appends to the queue. -/
theorem Valid.push {r r' : Ring α n} {a : α} (hr : r.Valid)
    (h : r.push a = some r') :
    r'.Valid ∧ r'.contents = r.contents ++ [a] := by
  rw [Ring.push] at h
  split_ifs at h with hfull
  obtain rfl := Option.some.inj h
  have hlt : r.count < n := lt_of_le_of_ne hr.count_le hfull
  have hslot : ∀ i < n, i ≠ r.count →
      Function.update r.slots (Fin.ofNat n (r.head + r.count)) (some a)
        (Fin.ofNat n (r.head + i)) = r.slot (r.head + i) := by
    intro i hi hne
    exact Function.update_of_ne (fun heq => hne ((ofNat_add_inj r.head hi hlt).mp heq)) _ _
  refine ⟨⟨hr.head_lt, hlt, ?_⟩, ?_⟩
  · intro i hi
    by_cases hi' : i = r.count
    · subst hi'
      simp [slot]
    · have htaken := hr.taken i hi
      simp only [slot, hslot i hi hi'] at htaken ⊢
      rw [htaken]
      omega
  · simp only [contents, List.range_succ, List.filterMap_append]
    congr 1
    · refine List.filterMap_congr fun i hi => ?_
      have hi' : i < r.count := List.mem_range.mp hi
      exact hslot i (by omega) (by omega)
    · simp [slot]

/-- `pop` fails exactly on an empty ring. -/
theorem pop_eq_none_iff {r : Ring α n} : r.pop = none ↔ r.count = 0 := by
  simp [pop]

/-- On a valid ring that is not empty `pop` takes the head of the queue. -/
theorem Valid.pop {r r' : Ring α n} {a? : Option α} (hr : r.Valid)
    (h : r.pop = some (a?, r')) :
    r'.Valid ∧ ∃ a, a? = some a ∧ r.contents = a :: r'.contents := by
  rw [Ring.pop] at h
  split_ifs at h with hempty
  obtain ⟨rfl, rfl⟩ := Prod.mk.inj (Option.some.inj h)
  have hpos : 0 < n := Nat.pos_of_ne_zero (NeZero.ne n)
  obtain ⟨a, ha⟩ := Option.isSome_iff_exists.mp
    ((hr.taken 0 hpos).mpr (Nat.pos_of_ne_zero hempty))
  rw [Nat.add_zero] at ha
  -- Slot `i` of the new ring is slot `i + 1` of the old one, except the cleared one.
  have hslot : ∀ i, i + 1 < n →
      Function.update r.slots (Fin.ofNat n r.head) none
        (Fin.ofNat n ((r.head + 1) % n + i)) = r.slot (r.head + (i + 1)) := by
    intro i hi
    rw [ofNat_mod_add, Nat.add_assoc, Nat.add_comm 1 i, slot]
    refine Function.update_of_ne (fun heq => ?_) _ _
    have := (ofNat_add_inj r.head hi hpos).mp heq
    omega
  refine ⟨⟨Nat.mod_lt _ hpos, ?_, ?_⟩, a, ha, ?_⟩
  · have := hr.count_le
    simp only
    omega
  · intro i hi
    by_cases hlast : i + 1 < n
    · have htaken := hr.taken (i + 1) hlast
      simp only [slot, hslot i hlast] at htaken ⊢
      rw [htaken]
      omega
    · have hn : i + 1 = n := by omega
      have hcleared : Fin.ofNat n ((r.head + 1) % n + i) = Fin.ofNat n r.head := by
        rw [ofNat_mod_add, Nat.add_assoc, Nat.add_comm 1 i, hn]
        apply Fin.ext
        simp [Fin.ofNat]
      have hcount := hr.count_le
      simp only [slot, hcleared, Function.update_self, Option.isSome_none, Bool.false_eq_true,
        false_iff]
      omega
  · obtain ⟨k, hk⟩ : ∃ k, r.count = k + 1 := Nat.exists_eq_succ_of_ne_zero hempty
    have hcount := hr.count_le
    simp only [contents, hk, Nat.add_sub_cancel, List.range_succ_eq_map,
      List.filterMap_cons, Nat.add_zero, ha, List.filterMap_map]
    congr 1
    refine List.filterMap_congr fun i hi => ?_
    have hi' : i < k := List.mem_range.mp hi
    exact (hslot i (by omega)).symm

/-- Two valid rings with the same queue take in an element alike. -/
theorem Valid.push_congr {r s : Ring α n} (hr : r.Valid) (hs : s.Valid)
    (hcontents : r.contents = s.contents) (a : α) :
    r.push a = none ∧ s.push a = none ∨
      ∃ r' s', r.push a = some r' ∧ s.push a = some s' ∧ r'.Valid ∧ s'.Valid ∧
        r'.contents = s'.contents := by
  have hcount : r.count = s.count := by
    rw [← hr.contents_length, ← hs.contents_length, hcontents]
  cases hpush : r.push a with
  | none =>
    left
    exact ⟨rfl, push_eq_none_iff.mpr (hcount ▸ push_eq_none_iff.mp hpush)⟩
  | some r' =>
    right
    cases hpush' : s.push a with
    | none =>
      have hfull : r.push a = none := push_eq_none_iff.mpr (hcount ▸ push_eq_none_iff.mp hpush')
      rw [hpush] at hfull
      cases hfull
    | some s' =>
      obtain ⟨hr', hcontents'⟩ := hr.push hpush
      obtain ⟨hs', hcontents''⟩ := hs.push hpush'
      exact ⟨r', s', rfl, rfl, hr', hs', by rw [hcontents', hcontents'', hcontents]⟩

/-- Two valid rings with the same queue hand out an element alike. -/
theorem Valid.pop_congr {r s : Ring α n} (hr : r.Valid) (hs : s.Valid)
    (hcontents : r.contents = s.contents) :
    r.pop = none ∧ s.pop = none ∨
      ∃ a r' s', r.pop = some (some a, r') ∧ s.pop = some (some a, s') ∧ r'.Valid ∧ s'.Valid ∧
        r'.contents = s'.contents := by
  have hcount : r.count = s.count := by
    rw [← hr.contents_length, ← hs.contents_length, hcontents]
  cases hpop : r.pop with
  | none =>
    left
    exact ⟨rfl, pop_eq_none_iff.mpr (hcount ▸ pop_eq_none_iff.mp hpop)⟩
  | some popped =>
    right
    cases hpop' : s.pop with
    | none =>
      have hempty : r.pop = none := pop_eq_none_iff.mpr (hcount ▸ pop_eq_none_iff.mp hpop')
      rw [hpop] at hempty
      cases hempty
    | some popped' =>
      obtain ⟨a?, r'⟩ := popped
      obtain ⟨b?, s'⟩ := popped'
      obtain ⟨hr', a, rfl, ha⟩ := hr.pop hpop
      obtain ⟨hs', b, rfl, hb⟩ := hs.pop hpop'
      rw [ha, hb] at hcontents
      obtain ⟨rfl, htail⟩ := List.cons.inj hcontents
      exact ⟨a, r', s', rfl, rfl, hr', hs', htail⟩

end Ring

end UuAmfBridge
