import Mathlib.Algebra.Order.BigOperators.Group.Finset
import Mathlib.Algebra.Order.Group.Nat
import Mathlib.Algebra.Order.Group.Int
import Mathlib.Data.Int.Cast.Basic
import Mathlib.Data.List.Count

/-!
# Counted references

A heap of objects that count the references to themselves, as COM objects do.  An object
holds references to other objects of the heap and to foreign objects, whose counts others
keep; of these the heap knows how many references it has taken and not given back.

`CountedHeap.Sound` is the account.  Every count is what the outside holds and what the
objects of the heap hold, and an object whose count is zero is being destroyed.  The
outside is a function to `Int`: in the middle of a destructor a reference has been given
back while its field still stands, and the account of the outside is negative there.

* `Sound.put`, `Sound.clear`, `Sound.extend`, `Sound.take` and `Sound.giveBack` are the
  rules of the single operations.  Each says how the account of the outside changes.
* `Sound.addRef` and `Sound.decrement` are the rules of the two counter operations.
* `Sound.count_pos_of_held` and `Sound.count_pos_of_outside` say why an object that is
  touched has not been freed.
* `Sound.count_pos_iff_reaches`: when references only lead downwards, the objects that
  are alive are those the outside reaches.
-/

namespace UuAmfBridge

/-- What a reference points to: an object of the heap by its kind and address, or an
object that others count. -/
inductive Referent (κ χ : Type) where
  | object (kind : κ) (address : Nat)
  | foreign (x : χ)
  deriving Repr, DecidableEq

/-- Values that count the references to themselves. -/
class Counted (ω : Type) (κ χ : outParam Type) where
  kind : ω → κ
  refs : ω → Nat
  setRefs : Nat → ω → ω
  /-- The references in the fields of the value. -/
  holds : ω → List (Referent κ χ)
  kind_setRefs : ∀ n w, kind (setRefs n w) = kind w
  refs_setRefs : ∀ n w, refs (setRefs n w) = n
  holds_setRefs : ∀ n w, holds (setRefs n w) = holds w

attribute [simp] Counted.kind_setRefs Counted.refs_setRefs Counted.holds_setRefs

/-- Objects at the addresses that have been handed out, and the references taken on
foreign objects. -/
structure CountedHeap (ω χ : Type) where
  next : Nat
  cell : Nat → Option ω
  taken : χ → Nat

/-- A counter has 32 bits. -/
def countLimit : Nat := 4294967296

namespace CountedHeap

open Counted

variable {ω κ χ : Type}

/-! ## Operations -/

/-- The heap without objects. -/
def empty : CountedHeap ω χ where
  next := 0
  cell := fun _ => none
  taken := fun _ => 0

/-- Write to the memory of an object. -/
def put (h : CountedHeap ω χ) (a : Nat) (w : ω) : CountedHeap ω χ :=
  { h with cell := Function.update h.cell a (some w) }

/-- Give the memory of an object back. -/
def clear (h : CountedHeap ω χ) (a : Nat) : CountedHeap ω χ :=
  { h with cell := Function.update h.cell a none }

/-- A new object, at an address that has not been used. -/
def extend (h : CountedHeap ω χ) (w : ω) : CountedHeap ω χ :=
  { h with next := h.next + 1, cell := Function.update h.cell h.next (some w) }

/-- Take a reference on a foreign object. -/
def take [DecidableEq χ] (h : CountedHeap ω χ) (x : χ) : CountedHeap ω χ :=
  { h with taken := Function.update h.taken x (h.taken x + 1) }

/-- Give a reference on a foreign object back, which must have been taken. -/
def giveBack [DecidableEq χ] (h : CountedHeap ω χ) (x : χ) : Option (CountedHeap ω χ) :=
  if h.taken x = 0 then none
  else some { h with taken := Function.update h.taken x (h.taken x - 1) }

/-- Free an object, which must not have been freed. -/
def free (h : CountedHeap ω χ) (a : Nat) : Option (CountedHeap ω χ) :=
  if (h.cell a).isSome then some (h.clear a) else none

section Counters

variable [Counted ω κ χ]

/-- The references in the fields of what is at an address. -/
def held (h : CountedHeap ω χ) (a : Nat) : List (Referent κ χ) :=
  ((h.cell a).map holds).getD []

variable [DecidableEq κ]

/-- The object of a kind at an address.  There is none behind a pointer whose object has
been freed, or is of another kind. -/
def read (h : CountedHeap ω χ) (k : κ) (a : Nat) : Option ω :=
  match h.cell a with
  | some w => if kind w = k then some w else none
  | none => none

/-- `InterlockedIncrement` on the counter of an object. -/
def addRef (h : CountedHeap ω χ) (k : κ) (a : Nat) : Option (CountedHeap ω χ) :=
  match h.read k a with
  | some w => some (h.put a (setRefs ((refs w + 1) % countLimit) w))
  | none => none

/-- `InterlockedDecrement` on the counter of an object, with the value it returns. -/
def decrement (h : CountedHeap ω χ) (k : κ) (a : Nat) : Option (Nat × CountedHeap ω χ) :=
  match h.read k a with
  | some w =>
      let left := (refs w + (countLimit - 1)) % countLimit
      some (left, h.put a (setRefs left w))
  | none => none

/-- The count of a referent. -/
def count (h : CountedHeap ω χ) : Referent κ χ → Nat
  | .object k a => ((h.read k a).map refs).getD 0
  | .foreign x => h.taken x

/-- The number of references to a referent in the fields of objects. -/
def holders [DecidableEq χ] (h : CountedHeap ω χ) (t : Referent κ χ) : Nat :=
  ∑ a ∈ Finset.range h.next, (h.held a).count t

end Counters

/-! ## Reading and writing -/

section Basic

variable {h : CountedHeap ω χ} {a b : Nat} {w : ω} {x : χ}

@[simp] theorem put_next : (h.put a w).next = h.next := rfl

@[simp] theorem put_taken : (h.put a w).taken = h.taken := rfl

@[simp] theorem put_cell_self : (h.put a w).cell a = some w := by simp [put]

theorem put_cell_of_ne (hne : b ≠ a) : (h.put a w).cell b = h.cell b := by
  simp [put, hne]

@[simp] theorem clear_next : (h.clear a).next = h.next := rfl

@[simp] theorem clear_taken : (h.clear a).taken = h.taken := rfl

@[simp] theorem clear_cell_self : (h.clear a).cell a = none := by simp [clear]

theorem clear_cell_of_ne (hne : b ≠ a) : (h.clear a).cell b = h.cell b := by
  simp [clear, hne]

@[simp] theorem extend_next : (h.extend w).next = h.next + 1 := rfl

@[simp] theorem extend_taken : (h.extend w).taken = h.taken := rfl

@[simp] theorem extend_cell_self : (h.extend w).cell h.next = some w := by simp [extend]

theorem extend_cell_of_ne (hne : b ≠ h.next) : (h.extend w).cell b = h.cell b := by
  simp [extend, hne]

@[simp] theorem take_next [DecidableEq χ] : (h.take x).next = h.next := rfl

@[simp] theorem take_cell [DecidableEq χ] : (h.take x).cell = h.cell := rfl

variable [Counted ω κ χ] [DecidableEq κ] {k : κ}

theorem read_eq_some : h.read k a = some w ↔ h.cell a = some w ∧ kind w = k := by
  unfold read
  cases h.cell a with
  | none => simp
  | some v =>
    by_cases hk : kind v = k
    · simp only [hk, if_true, Option.some.injEq]
      constructor
      · rintro rfl
        exact ⟨rfl, hk⟩
      · rintro ⟨rfl, -⟩
        rfl
    · simp only [hk, if_false, reduceCtorEq, Option.some.injEq, false_iff, not_and]
      rintro rfl
      exact hk

theorem read_of_cell (hcell : h.cell a = some w) : h.read (kind w) a = some w :=
  read_eq_some.mpr ⟨hcell, rfl⟩

theorem count_object (hcell : h.cell a = some w) :
    h.count (.object k a) = if kind w = k then refs w else 0 := by
  show ((h.read k a).map refs).getD 0 = _
  unfold read
  rw [hcell]
  by_cases hk : kind w = k <;> simp [hk]

theorem count_object_self (hcell : h.cell a = some w) :
    h.count (.object (kind w) a) = refs w := by
  rw [count_object hcell, if_pos rfl]

/-- Only an object that is alive has a count. -/
theorem exists_read_of_count_pos (hpos : 0 < h.count (.object k a)) :
    ∃ w, h.read k a = some w ∧ 0 < refs w := by
  change 0 < ((h.read k a).map refs).getD 0 at hpos
  cases hread : h.read k a with
  | none =>
    rw [hread] at hpos
    exact absurd hpos (Nat.lt_irrefl 0)
  | some w =>
    rw [hread] at hpos
    exact ⟨w, rfl, hpos⟩

end Basic

/-! ## Counting holders -/

section Holders

/-- A sum over the addresses changes by what changes at one of them. -/
private theorem sum_range_update {n a : Nat} (f g : Nat → Nat) (ha : a < n)
    (hfg : ∀ b, b ≠ a → f b = g b) :
    ∑ b ∈ Finset.range n, f b + g a = ∑ b ∈ Finset.range n, g b + f a := by
  have hmem : a ∈ Finset.range n := Finset.mem_range.mpr ha
  rw [← Finset.add_sum_erase _ f hmem, ← Finset.add_sum_erase _ g hmem]
  have hrest : ∑ b ∈ (Finset.range n).erase a, f b = ∑ b ∈ (Finset.range n).erase a, g b :=
    Finset.sum_congr rfl fun b hb => hfg b (Finset.ne_of_mem_erase hb)
  omega

variable [Counted ω κ χ] {h : CountedHeap ω χ} {a : Nat} {w v : ω} {t : Referent κ χ}

theorem held_of_cell (hcell : h.cell a = some w) : h.held a = holds w := by
  simp [held, hcell]

variable [DecidableEq κ] [DecidableEq χ]

/-- What an object holds has a holder. -/
theorem holders_pos (ha : a < h.next) (hcell : h.cell a = some w) (ht : t ∈ holds w) :
    0 < h.holders t := by
  have hmem : t ∈ h.held a := held_of_cell hcell ▸ ht
  refine Nat.lt_of_lt_of_le (List.count_pos_iff.mpr hmem) ?_
  exact Finset.single_le_sum (f := fun b => (h.held b).count t) (fun b _ => Nat.zero_le _)
    (Finset.mem_range.mpr ha)

/-- What has a holder is held by an object. -/
theorem exists_holder (hpos : 0 < h.holders t) : ∃ a w, h.cell a = some w ∧ t ∈ holds w := by
  obtain ⟨a, -, ha⟩ := Finset.exists_ne_zero_of_sum_ne_zero (Nat.pos_iff_ne_zero.mp hpos)
  have hmem : t ∈ h.held a := List.count_pos_iff.mp (Nat.pos_of_ne_zero ha)
  unfold held at hmem
  cases hcell : h.cell a with
  | none =>
    rw [hcell] at hmem
    cases hmem
  | some w =>
    rw [hcell] at hmem
    exact ⟨a, w, hcell, hmem⟩

theorem holders_put (ha : a < h.next) (hcell : h.cell a = some w) :
    (h.put a v).holders t + (holds w).count t = h.holders t + (holds v).count t := by
  have hold : h.held a = holds w := held_of_cell hcell
  have hnew : (h.put a v).held a = holds v := held_of_cell put_cell_self
  rw [← hold, ← hnew]
  refine sum_range_update (fun b => ((h.put a v).held b).count t)
    (fun b => (h.held b).count t) ha fun b hb => ?_
  simp only [held, put_cell_of_ne hb]

theorem holders_clear (ha : a < h.next) (hcell : h.cell a = some w) :
    (h.clear a).holders t + (holds w).count t = h.holders t := by
  have hold : h.held a = holds w := held_of_cell hcell
  have hnew : ((h.clear a).held a).count t = 0 := by simp [held]
  rw [← hold, ← Nat.add_zero (h.holders t), ← hnew]
  refine sum_range_update (fun b => ((h.clear a).held b).count t)
    (fun b => (h.held b).count t) ha fun b hb => ?_
  simp only [held, clear_cell_of_ne hb]

theorem holders_extend : (h.extend w).holders t = h.holders t + (holds w).count t := by
  have hnew : (h.extend w).held h.next = holds w := held_of_cell extend_cell_self
  unfold holders
  rw [extend_next, Finset.sum_range_succ, hnew]
  congr 1
  refine Finset.sum_congr rfl fun b hb => ?_
  unfold held
  rw [extend_cell_of_ne (Nat.ne_of_lt (Finset.mem_range.mp hb))]

end Holders

/-! ## The account -/

/-- A list of references, as an account. -/
def owed [DecidableEq κ] [DecidableEq χ] (l : List (Referent κ χ)) : Referent κ χ → ℤ :=
  fun t => (l.count t : ℤ)

/-- Each count is what the outside holds and what the objects hold, and an object without
a reference is being destroyed. -/
structure Sound [Counted ω κ χ] [DecidableEq κ] [DecidableEq χ] (h : CountedHeap ω χ)
    (outside : Referent κ χ → ℤ) (dying : List Nat) : Prop where
  count_eq : ∀ t, (h.count t : ℤ) = outside t + h.holders t
  settled : ∀ a w, h.cell a = some w → a ∉ dying → 0 < refs w
  below : ∀ a w, h.cell a = some w → a < h.next
  small : ∀ a w, h.cell a = some w → refs w < countLimit

section Rules

variable [Counted ω κ χ] [DecidableEq κ] [DecidableEq χ] {h : CountedHeap ω χ}
  {outside : Referent κ χ → ℤ} {dying : List Nat} {a : Nat} {w v : ω} {k : κ} {x : χ}
  {t : Referent κ χ}

theorem sound_empty : (empty : CountedHeap ω χ).Sound (fun _ => 0) [] where
  count_eq := by
    intro t
    cases t <;> rfl
  settled := by
    intro a w hcell
    cases hcell
  below := by
    intro a w hcell
    cases hcell
  small := by
    intro a w hcell
    cases hcell

theorem Sound.congr (hs : h.Sound outside dying) {outside' : Referent κ χ → ℤ}
    (heq : ∀ t, outside t = outside' t) : h.Sound outside' dying where
  count_eq t := heq t ▸ hs.count_eq t
  settled := hs.settled
  below := hs.below
  small := hs.small

/-- What an object holds has a count, unless the outside owes it. -/
theorem Sound.count_pos_of_held (hs : h.Sound outside dying) (hcell : h.cell a = some w)
    (ht : t ∈ holds w) (hout : 0 ≤ outside t) : 0 < h.count t := by
  have hpos := holders_pos (hs.below a w hcell) hcell ht
  have hcount := hs.count_eq t
  omega

/-- What the outside holds has a count. -/
theorem Sound.count_pos_of_outside (hs : h.Sound outside dying) (hout : 0 < outside t) :
    0 < h.count t := by
  have hcount := hs.count_eq t
  omega

/-- The count of a referent after a write to an object of the heap. -/
private theorem count_put (hcell : h.cell a = some w) (hkind : kind v = kind w) :
    ((h.put a v).count t : ℤ) =
      h.count t + if t = .object (kind w) a then (refs v : ℤ) - refs w else 0 := by
  cases t with
  | foreign x => simp [count]
  | object k b =>
    by_cases hb : b = a
    · subst hb
      rw [count_object hcell, count_object put_cell_self, hkind]
      by_cases hk : kind w = k
      · subst hk
        simp
      · have hne : (Referent.object k b : Referent κ χ) ≠ .object (kind w) b := by
          rintro heq
          cases heq
          exact hk rfl
        simp [hk, hne]
    · have hne : (Referent.object k b : Referent κ χ) ≠ .object (kind w) a := by
        rintro heq
        cases heq
        exact hb rfl
      have hread : (h.put a v).read k b = h.read k b := by
        unfold read
        rw [put_cell_of_ne hb]
      simp [count, hread, hne]

/-- The rule of a write to an object that stays of its kind. -/
theorem Sound.put (hs : h.Sound outside dying) (hcell : h.cell a = some w)
    (hkind : kind v = kind w) (hrefs : 0 < refs v ∨ a ∈ dying) (hsmall : refs v < countLimit) :
    (h.put a v).Sound (fun t => outside t + owed (holds w) t - owed (holds v) t +
      if t = .object (kind w) a then (refs v : ℤ) - refs w else 0) dying where
  count_eq t := by
    have hholders := holders_put (t := t) (v := v) (hs.below a w hcell) hcell
    have hcount := hs.count_eq t
    have hput := count_put (t := t) hcell hkind
    simp only [owed]
    omega
  settled := by
    intro b u hb hlive
    by_cases hba : b = a
    · subst hba
      rw [put_cell_self] at hb
      cases hb
      exact hrefs.resolve_right hlive
    · rw [put_cell_of_ne hba] at hb
      exact hs.settled b u hb hlive
  below := by
    intro b u hb
    by_cases hba : b = a
    · subst hba
      exact hs.below b w hcell
    · rw [put_cell_of_ne hba] at hb
      exact hs.below b u hb
  small := by
    intro b u hb
    by_cases hba : b = a
    · subst hba
      rw [put_cell_self] at hb
      cases hb
      exact hsmall
    · rw [put_cell_of_ne hba] at hb
      exact hs.small b u hb

/-- The rule of a write to the fields of an object. -/
theorem Sound.putFields (hs : h.Sound outside dying) (hcell : h.cell a = some w)
    (hkind : kind v = kind w) (hrefs : refs v = refs w) (hpos : 0 < refs w) :
    (h.put a v).Sound (fun t => outside t + owed (holds w) t - owed (holds v) t) dying := by
  refine (hs.put hcell hkind (Or.inl (hrefs ▸ hpos)) (hrefs ▸ hs.small a w hcell)).congr
    fun t => ?_
  rw [hrefs]
  split <;> omega

/-- A write to the fields of an object leaves the counts. -/
theorem count_putFields (hcell : h.cell a = some w) (hkind : kind v = kind w)
    (hrefs : refs v = refs w) : (h.put a v).count t = h.count t := by
  have hput := count_put (t := t) hcell hkind
  rw [hrefs] at hput
  split at hput <;> omega

/-- An object that dies may do so later. -/
theorem Sound.mark (hs : h.Sound outside dying) : h.Sound outside (a :: dying) where
  count_eq := hs.count_eq
  settled b u hb hlive := hs.settled b u hb fun hmem => hlive (List.mem_cons_of_mem a hmem)
  below := hs.below
  small := hs.small

/-- The rule of a write to a counter. -/
private theorem Sound.putRefs (hs : h.Sound outside dying) (hcell : h.cell a = some w) {n : Nat}
    (hn : 0 < n ∨ a ∈ dying) (hsmall : n < countLimit) :
    (h.put a (setRefs n w)).Sound (fun t => outside t +
      ((n : ℤ) - refs w) * owed [.object (kind w) a] t) dying := by
  refine (hs.put hcell (kind_setRefs n w) (by simpa using hn) (by simpa using hsmall)).congr
    fun t => ?_
  by_cases ht : t = .object (kind w) a
  · subst ht
    simp [owed]
  · have hne : (Referent.object (kind w) a : Referent κ χ) ≠ t := fun heq => ht heq.symm
    simp [owed, ht, hne]

/-- The rule of `InterlockedIncrement`. -/
theorem Sound.addRef (hs : h.Sound outside dying) (hpos : 0 < h.count (.object k a))
    (hroom : h.count (.object k a) + 1 < countLimit) :
    ∃ w h', h.cell a = some w ∧ kind w = k ∧ h.addRef k a = some h' ∧
      h' = h.put a (setRefs (refs w + 1) w) ∧
      h'.Sound (fun t => outside t + owed [.object k a] t) dying := by
  obtain ⟨w, hread, -⟩ := exists_read_of_count_pos hpos
  obtain ⟨hcell, rfl⟩ := read_eq_some.mp hread
  rw [count_object_self hcell] at hroom
  have hadd : h.addRef (kind w) a = some (h.put a (setRefs (refs w + 1) w)) := by
    unfold CountedHeap.addRef
    rw [hread]
    show some _ = some _
    rw [Nat.mod_eq_of_lt hroom]
  refine ⟨w, _, hcell, rfl, hadd, rfl, ?_⟩
  refine (hs.putRefs hcell (Or.inl (Nat.succ_pos _)) hroom).congr fun t => ?_
  have hone : ((refs w + 1 : Nat) : ℤ) - refs w = 1 := by omega
  rw [hone, one_mul]

/-- The rule of `InterlockedDecrement`: the object dies when its count is zero. -/
theorem Sound.decrement (hs : h.Sound outside dying) (hpos : 0 < h.count (.object k a)) :
    ∃ w, h.cell a = some w ∧ kind w = k ∧ 0 < refs w ∧
      h.decrement k a = some (refs w - 1, h.put a (setRefs (refs w - 1) w)) ∧
      (h.put a (setRefs (refs w - 1) w)).Sound
        (fun t => outside t - owed [.object k a] t)
        (if refs w - 1 = 0 then a :: dying else dying) := by
  obtain ⟨w, hread, hrefs⟩ := exists_read_of_count_pos hpos
  obtain ⟨hcell, rfl⟩ := read_eq_some.mp hread
  have hsmall := hs.small a w hcell
  have hleft : (refs w + (countLimit - 1)) % countLimit = refs w - 1 := by
    have hsum : refs w + (countLimit - 1) = refs w - 1 + countLimit := by omega
    rw [hsum, Nat.add_mod_right, Nat.mod_eq_of_lt (by omega)]
  refine ⟨w, hcell, rfl, hrefs, ?_, ?_⟩
  · unfold CountedHeap.decrement
    rw [hread]
    simp only [hleft]
  · have hone : ((refs w - 1 : Nat) : ℤ) - refs w = -1 := by omega
    have hminus : ∀ t, outside t + ((refs w - 1 : Nat) - (refs w : ℤ)) *
        owed [.object (kind w) a] t = outside t - owed [.object (kind w) a] t := by
      intro t
      rw [hone]
      omega
    by_cases hlast : refs w - 1 = 0
    · rw [if_pos hlast]
      exact (hs.mark.putRefs hcell (Or.inr List.mem_cons_self) (by omega)).congr hminus
    · rw [if_neg hlast]
      exact (hs.putRefs hcell (Or.inl (by omega)) (by omega)).congr hminus

/-- The rule of `free`: what the object holds goes back to the outside. -/
theorem Sound.free (hs : h.Sound outside (a :: dying)) (hcell : h.cell a = some w)
    (hrefs : refs w = 0) :
    h.free a = some (h.clear a) ∧
      (h.clear a).Sound (fun t => outside t + owed (holds w) t) dying := by
  refine ⟨by simp [CountedHeap.free, hcell], ?_, ?_, ?_, ?_⟩
  · intro t
    have hholders := holders_clear (t := t) (hs.below a w hcell) hcell
    have hcount := hs.count_eq t
    have hsame : (h.clear a).count t = h.count t := by
      cases t with
      | foreign x => rfl
      | object k b =>
        by_cases hb : b = a
        · subst hb
          rw [count_object hcell, hrefs, ite_self]
          show ((h.clear b).read k b |>.map refs).getD 0 = 0
          unfold read
          rw [clear_cell_self]
          rfl
        · show ((h.clear a).read k b |>.map refs).getD 0 = ((h.read k b).map refs).getD 0
          unfold read
          rw [clear_cell_of_ne hb]
    simp only [owed]
    omega
  all_goals
    intro b u hb
    have hba : b ≠ a := by
      rintro rfl
      rw [clear_cell_self] at hb
      cases hb
    rw [clear_cell_of_ne hba] at hb
  · intro hlive
    refine hs.settled b u hb fun hmem => ?_
    cases hmem with
    | head => exact hba rfl
    | tail _ hmem => exact hlive hmem
  · exact hs.below b u hb
  · exact hs.small b u hb

/-- An allocation gives the new object its count, and leaves the others. -/
theorem Sound.count_extend (hs : h.Sound outside dying) (hrefs : refs w = 1) :
    ((h.extend w).count t : ℤ) = h.count t + owed [.object (kind w) h.next] t := by
  have hfresh : h.cell h.next = none := by
    cases hcell : h.cell h.next with
    | none => rfl
    | some v => exact absurd (hs.below h.next v hcell) (Nat.lt_irrefl _)
  cases t with
  | foreign x => simp [count, owed]
  | object k b =>
    by_cases hb : b = h.next
    · subst hb
      have hzero : h.count (.object k h.next : Referent κ χ) = 0 := by
        show ((h.read k h.next).map refs).getD 0 = 0
        unfold read
        rw [hfresh]
        rfl
      rw [count_object extend_cell_self, hzero, hrefs]
      by_cases hk : kind w = k
      · subst hk
        simp [owed]
      · simp [owed, hk]
    · have hne : (Referent.object (kind w) h.next : Referent κ χ) ≠ .object k b := by
        rintro heq
        cases heq
        exact hb rfl
      have hread : (h.extend w).read k b = h.read k b := by
        unfold read
        rw [extend_cell_of_ne hb]
      simp [count, hread, owed, hne]

/-- The rule of an allocation. -/
theorem Sound.extend (hs : h.Sound outside dying) (hrefs : refs w = 1) :
    (h.extend w).Sound (fun t => outside t + owed [.object (kind w) h.next] t -
      owed (holds w) t) dying := by
  refine ⟨?_, ?_, ?_, ?_⟩
  · intro t
    have hholders := holders_extend (h := h) (w := w) (t := t)
    have hcount := hs.count_eq t
    have hnew := hs.count_extend (t := t) hrefs
    simp only [owed] at hnew ⊢
    omega
  all_goals
    intro b u hb
    by_cases hbn : b = h.next
    · subst hbn
      rw [extend_cell_self] at hb
      cases hb
      first
        | (intro _; omega)
        | exact Nat.lt_succ_self _
        | (rw [hrefs]; decide)
    rw [extend_cell_of_ne hbn] at hb
  · exact hs.settled b u hb
  · exact Nat.lt_succ_of_lt (hs.below b u hb)
  · exact hs.small b u hb

private theorem count_take : ((h.take x).count t : ℤ) = h.count t + owed [.foreign x] t := by
  cases t with
  | object k b => simp [owed, count, CountedHeap.take, read]
  | foreign y =>
    by_cases hy : y = x
    · subst hy
      simp [count, CountedHeap.take, owed]
    · have hne : (Referent.foreign x : Referent κ χ) ≠ .foreign y := by
        rintro heq
        cases heq
        exact hy rfl
      simp [count, CountedHeap.take, owed, hy, hne]

/-- The rule of `AddRef` on a foreign object. -/
theorem Sound.take (hs : h.Sound outside dying) (x : χ) :
    (h.take x).Sound (fun t => outside t + owed [.foreign x] t) dying where
  count_eq t := by
    have hcount := hs.count_eq t
    have hholders : (h.take x).holders t = h.holders t := rfl
    rw [count_take, hholders]
    omega
  settled := hs.settled
  below := hs.below
  small := hs.small

/-- The rule of `Release` on a foreign object. -/
theorem Sound.giveBack (hs : h.Sound outside dying) (hpos : 0 < h.count (.foreign x)) :
    ∃ h', h.giveBack x = some h' ∧ h'.cell = h.cell ∧ h'.next = h.next ∧
      h'.Sound (fun t => outside t - owed [.foreign x] t) dying := by
  have hne : h.taken x ≠ 0 := Nat.pos_iff_ne_zero.mp hpos
  refine ⟨_, if_neg hne, rfl, rfl, ?_, hs.settled, hs.below, hs.small⟩
  intro t
  have hcount := hs.count_eq t
  cases t with
  | object k b =>
    simp [count, owed, holders, held, read] at hcount ⊢
    exact hcount
  | foreign y =>
    by_cases hy : y = x
    · subst hy
      simp [count, owed, holders, held] at hcount ⊢
      omega
    · have hne : (Referent.foreign x : Referent κ χ) ≠ .foreign y := by
        rintro heq
        cases heq
        exact hy rfl
      simp [count, owed, holders, held, hy, hne] at hcount ⊢
      exact hcount

end Rules

/-! ## Releases -/

section Releases

variable [DecidableEq χ]

/-- Give references on foreign objects back, one after the other. -/
def giveBackAll : List χ → CountedHeap ω χ → Option (CountedHeap ω χ)
  | [], h => some h
  | x :: xs, h => (h.giveBack x).bind (giveBackAll xs)

variable [Counted ω κ χ] [DecidableEq κ]

/-- `Release` on an object.  The call that takes the count to zero gives back what the
object holds, and frees it. -/
def releaseWith (destroy : ω → CountedHeap ω χ → Option (CountedHeap ω χ)) (k : κ) (a : Nat)
    (h : CountedHeap ω χ) : Option (CountedHeap ω χ) :=
  (h.decrement k a).bind fun left =>
    if left.1 = 0 then
      (left.2.read k a).bind fun w => (destroy w left.2).bind fun h => h.free a
    else some left.2

/-- Objects only hold references to objects that lie deeper. -/
def Layered (ω : Type) [Counted ω κ χ] (depth : κ → Nat) : Prop :=
  ∀ (w : ω) k b, .object k b ∈ holds w → depth (kind w) < depth k

/-- The objects above a depth are as they were. -/
def Keeps (depth : κ → Nat) (n : Nat) (h h' : CountedHeap ω χ) : Prop :=
  ∀ b w, h.cell b = some w → depth (kind w) < n → h'.cell b = some w

/-- No count has risen. -/
def Lowers (h h' : CountedHeap ω χ) : Prop :=
  ∀ t : Referent κ χ, h'.count t ≤ h.count t

/-- The outside owes nothing that lies below a depth. -/
def Solvent (depth : κ → Nat) (n : Nat) (outside : Referent κ χ → ℤ) : Prop :=
  (∀ k b, n < depth k → 0 ≤ outside (.object k b)) ∧ ∀ x, 0 ≤ outside (.foreign x)

/-- A destructor gives back what the fields hold, but for the references it loses.  It
touches nothing above them, and raises no count. -/
def Destroys (depth : κ → Nat) (k : κ)
    (destroy : ω → CountedHeap ω χ → Option (CountedHeap ω χ))
    (loses : ω → List (Referent κ χ)) : Prop :=
  ∀ a w h outside dying, h.cell a = some w → kind w = k → Solvent depth (depth k) outside →
    h.Sound outside dying →
    ∃ h', destroy w h = some h' ∧
      h'.Sound (fun t => outside t - owed (holds w) t + owed (loses w) t) dying ∧
      h.Keeps depth (depth k + 1) h' ∧ h.Lowers h'

variable {h h' : CountedHeap ω χ} {outside : Referent κ χ → ℤ} {dying : List Nat}
  {depth : κ → Nat} {a n : Nat} {w : ω} {k : κ} {x : χ}

omit [DecidableEq χ] [DecidableEq κ] in
theorem Keeps.trans {h'' : CountedHeap ω χ} (hfirst : h.Keeps depth n h')
    (hsecond : h'.Keeps depth n h'') : h.Keeps depth n h'' :=
  fun b w hcell hn => hsecond b w (hfirst b w hcell hn) hn

omit [DecidableEq χ] [DecidableEq κ] in
theorem Keeps.mono {m : Nat} (hkeeps : h.Keeps depth n h') (hmn : m ≤ n) : h.Keeps depth m h' :=
  fun b w hcell hm => hkeeps b w hcell (Nat.lt_of_lt_of_le hm hmn)

omit [DecidableEq χ] [DecidableEq κ] in
theorem keeps_of_cell_eq (hcell : h'.cell = h.cell) : h.Keeps depth n h' :=
  fun _ _ hb _ => hcell ▸ hb

omit [DecidableEq χ] [DecidableEq κ] in
/-- A change at one address keeps the objects above the one that was there. -/
theorem keeps_of_cell_ne (hcell : h.cell a = some w) (hw : n ≤ depth (kind w))
    (hne : ∀ b, b ≠ a → h'.cell b = h.cell b) : h.Keeps depth n h' := by
  intro b v hb hv
  by_cases hba : b = a
  · subst hba
    rw [hcell] at hb
    cases hb
    omega
  · rw [hne b hba]
    exact hb

omit [DecidableEq χ] in
theorem Lowers.refl (h : CountedHeap ω χ) : h.Lowers h := fun _ => le_rfl

omit [DecidableEq χ] in
theorem Lowers.trans {h'' : CountedHeap ω χ} (hfirst : h.Lowers h') (hsecond : h'.Lowers h'') :
    h.Lowers h'' :=
  fun t => (hsecond t).trans (hfirst t)

omit [DecidableEq χ] in
theorem lowers_setRefs (hcell : h.cell a = some w) {m : Nat} (hm : m ≤ refs w) :
    h.Lowers (h.put a (setRefs m w)) := by
  intro t
  cases t with
  | foreign x => exact le_rfl
  | object k b =>
    by_cases hb : b = a
    · subst hb
      rw [count_object hcell, count_object put_cell_self, kind_setRefs, refs_setRefs]
      split
      · exact hm
      · exact le_rfl
    · show (((h.put a (setRefs m w)).read k b).map refs).getD 0 ≤ ((h.read k b).map refs).getD 0
      unfold read
      rw [put_cell_of_ne hb]

omit [DecidableEq χ] in
theorem lowers_clear : h.Lowers (h.clear a) := by
  intro t
  cases t with
  | foreign x => exact le_rfl
  | object k b =>
    show (((h.clear a).read k b).map refs).getD 0 ≤ ((h.read k b).map refs).getD 0
    unfold read
    by_cases hb : b = a
    · subst hb
      rw [clear_cell_self]
      exact Nat.zero_le _
    · rw [clear_cell_of_ne hb]

theorem lowers_giveBack (hback : h.giveBack x = some h') : h.Lowers h' := by
  unfold giveBack at hback
  split at hback
  · cases hback
  · cases hback
    intro t
    cases t with
    | object k b => exact le_rfl
    | foreign y =>
      show Function.update h.taken x (h.taken x - 1) y ≤ h.taken y
      by_cases hy : y = x
      · subst hy
        rw [Function.update_self]
        exact Nat.sub_le _ _
      · rw [Function.update_of_ne hy]

/-- An object has at least the count that one other object holds. -/
theorem Sound.count_ge_of_held (hs : h.Sound outside dying) (hcell : h.cell a = some w)
    {t : Referent κ χ} (hout : 0 ≤ outside t) : (holds w).count t ≤ h.count t := by
  have hcount := hs.count_eq t
  have hclear := holders_clear (t := t) (hs.below a w hcell) hcell
  omega

/-- The rule of a run of `Release` calls on foreign objects. -/
theorem Sound.giveBackAll {xs : List χ} (hs : h.Sound outside dying)
    (hroom : ∀ x, xs.count x ≤ h.count (.foreign x : Referent κ χ)) :
    ∃ h', CountedHeap.giveBackAll xs h = some h' ∧ h'.cell = h.cell ∧
      h'.Sound (fun t => outside t - owed (xs.map .foreign) t) dying ∧ h.Lowers h' := by
  induction xs generalizing h outside with
  | nil => exact ⟨h, rfl, rfl, hs.congr fun t => by simp [owed], Lowers.refl h⟩
  | cons x xs ih =>
    have hpos : 0 < h.count (.foreign x : Referent κ χ) := by
      have hx := hroom x
      rw [List.count_cons_self] at hx
      omega
    obtain ⟨h₁, hback, hcell, -, hs₁⟩ := hs.giveBack hpos
    have htaken : ∀ y, (h₁.count (.foreign y : Referent κ χ) : ℤ) =
        h.count (.foreign y : Referent κ χ) - owed [.foreign x] (.foreign y : Referent κ χ) := by
      intro y
      have hnew := hs₁.count_eq (.foreign y)
      have hold := hs.count_eq (.foreign y)
      have hholders : h₁.holders (.foreign y : Referent κ χ) = h.holders (.foreign y) := by
        obtain rfl := Option.some.inj ((if_neg (Nat.pos_iff_ne_zero.mp hpos)).symm.trans hback)
        rfl
      rw [hholders] at hnew
      omega
    obtain ⟨h₂, hrest, hcell₂, hs₂, hlowers⟩ := ih hs₁ fun y => by
      have hy := hroom y
      have hty := htaken y
      by_cases hxy : x = y
      · subst hxy
        simp [owed] at hy hty
        omega
      · have hne : (Referent.foreign x : Referent κ χ) ≠ .foreign y := by
          rintro heq
          cases heq
          exact hxy rfl
        simp [owed, hne, hxy] at hy hty
        omega
    refine ⟨h₂, ?_, hcell₂.trans hcell, hs₂.congr fun t => ?_,
      (lowers_giveBack hback).trans hlowers⟩
    · show (h.giveBack x).bind _ = _
      rw [hback]
      exact hrest
    · simp only [owed, List.map_cons, List.count_cons, List.count_nil]
      push_cast
      omega

/-- A destructor that gives back all the foreign objects its object holds. -/
theorem destroys_foreign (fields : ω → List χ)
    (hfields : ∀ w, kind w = k → holds w = (fields w).map .foreign) :
    Destroys depth k (fun w : ω => CountedHeap.giveBackAll (fields w)) (fun _ => []) := by
  intro a w h outside dying hcell hkind hsolvent hs
  have hheld := hfields w hkind
  have hroom : ∀ x, (fields w).count x ≤ h.count (.foreign x : Referent κ χ) := by
    intro x
    have hge := hs.count_ge_of_held hcell (hsolvent.2 x)
    rw [hheld, List.count_map_of_injective] at hge
    · exact hge
    · intro y z hyz
      cases hyz
      rfl
  obtain ⟨h', hback, hcell', hs', hlowers⟩ := hs.giveBackAll hroom
  refine ⟨h', hback, hs'.congr fun t => ?_, keeps_of_cell_eq hcell', hlowers⟩
  rw [hheld]
  simp [owed]

/-- The rule of `Release`: the last one also loses what the destructor loses. -/
theorem Sound.releaseWith {destroy : ω → CountedHeap ω χ → Option (CountedHeap ω χ)}
    {loses : ω → List (Referent κ χ)} (hdestroy : Destroys depth k destroy loses)
    (hs : h.Sound outside dying) (hpos : 0 < h.count (.object k a))
    (hsolvent : Solvent depth (depth k) outside) :
    ∃ w h', h.cell a = some w ∧ kind w = k ∧ releaseWith destroy k a h = some h' ∧
      h'.Sound (fun t => outside t - owed [.object k a] t +
        owed (if refs w - 1 = 0 then loses (setRefs (refs w - 1) w) else []) t) dying ∧
      h.Keeps depth (depth k) h' ∧ h.Lowers h' := by
  obtain ⟨w, hcell, rfl, hrefs, hdec, hs₁⟩ := hs.decrement hpos
  have hkeeps : h.Keeps depth (depth (kind w)) (h.put a (setRefs (refs w - 1) w)) :=
    keeps_of_cell_ne hcell le_rfl fun b hb => put_cell_of_ne hb
  by_cases hlast : refs w - 1 = 0
  · have hcell₁ : (h.put a (setRefs (refs w - 1) w)).cell a =
        some (setRefs (refs w - 1) w) := put_cell_self
    rw [if_pos hlast] at hs₁
    have hsolvent₁ : Solvent depth (depth (kind w))
        (fun t => outside t - owed [.object (kind w) a] t) := by
      constructor
      · intro k b hk
        have hne : (Referent.object (kind w) a : Referent κ χ) ≠ .object k b := by
          rintro heq
          cases heq
          exact Nat.lt_irrefl _ hk
        simpa [owed, hne] using hsolvent.1 k b hk
      · intro x
        simpa [owed] using hsolvent.2 x
    obtain ⟨h₂, hdestroyed, hs₂, hkeeps₂, hlowers₂⟩ := hdestroy a _ _ _ _ hcell₁ (kind_setRefs _ w)
      hsolvent₁ hs₁
    have hcell₂ : h₂.cell a = some (setRefs (refs w - 1) w) :=
      hkeeps₂ a _ hcell₁ (by rw [kind_setRefs]; exact Nat.lt_succ_self _)
    obtain ⟨hfree, hs₃⟩ := hs₂.free hcell₂ (by rw [refs_setRefs]; exact hlast)
    refine ⟨w, h₂.clear a, hcell, rfl, ?_, hs₃.congr fun t => ?_, ?_,
      ((lowers_setRefs hcell (Nat.sub_le _ _)).trans hlowers₂).trans lowers_clear⟩
    · unfold CountedHeap.releaseWith
      have hread : (h.put a (setRefs (refs w - 1) w)).read (kind w) a =
          some (setRefs (refs w - 1) w) :=
        read_eq_some.mpr ⟨hcell₁, kind_setRefs _ w⟩
      rw [hdec]
      simp only [Option.bind_some, hlast, if_true]
      rw [hlast] at hread hdestroyed
      rw [hread]
      simp only [Option.bind_some, hdestroyed, hfree]
    · rw [if_pos hlast]
      omega
    · refine (hkeeps.trans (hkeeps₂.mono (Nat.le_succ _))).trans ?_
      exact keeps_of_cell_ne hcell₂ (by rw [kind_setRefs]) fun b hb => clear_cell_of_ne hb
  · rw [if_neg hlast] at hs₁
    refine ⟨w, _, hcell, rfl, ?_, hs₁.congr fun t => ?_, hkeeps,
      lowers_setRefs hcell (Nat.sub_le _ _)⟩
    · unfold CountedHeap.releaseWith
      rw [hdec]
      simp only [Option.bind_some, hlast, if_false]
    · rw [if_neg hlast]
      simp [owed]

end Releases

/-! ## What is alive -/

section Reach

variable [Counted ω κ χ]

/-- What the roots reach through the fields of objects. -/
inductive Reaches (h : CountedHeap ω χ) (root : Referent κ χ → Prop) : Referent κ χ → Prop where
  | root {t : Referent κ χ} (ht : root t) : h.Reaches root t
  | field {a : Nat} {w : ω} {t : Referent κ χ} (hcell : h.cell a = some w)
      (hfrom : h.Reaches root (.object (kind w) a)) (ht : t ∈ holds w) : h.Reaches root t

variable [DecidableEq κ] [DecidableEq χ] {h : CountedHeap ω χ} {outside : Referent κ χ → ℤ}
  {depth : κ → Nat} {t : Referent κ χ}

/-- A count that is not zero comes from the outside or from an object that is alive. -/
theorem Sound.count_pos_cases (hs : h.Sound outside []) (hpos : 0 < h.count t) :
    0 < outside t ∨ ∃ a w, h.cell a = some w ∧ t ∈ holds w := by
  have hcount := hs.count_eq t
  by_cases hholders : 0 < h.holders t
  · exact Or.inr (exists_holder hholders)
  · exact Or.inl (by omega)

/-- The objects of the heap are those the outside reaches. -/
theorem Sound.reaches_of_cell (hs : h.Sound outside []) (hlayered : Layered ω depth) :
    ∀ n a w, h.cell a = some w → depth (kind w) = n →
      h.Reaches (fun t => 0 < outside t) (.object (kind w) a) := by
  intro n
  induction n using Nat.strong_induction_on with
  | _ n ih =>
    intro a w hcell hn
    have hrefs : 0 < refs w := hs.settled a w hcell List.not_mem_nil
    have hpos : 0 < h.count (.object (kind w) a) := by
      rw [count_object_self hcell]
      exact hrefs
    cases hs.count_pos_cases hpos with
    | inl hout => exact .root hout
    | inr hheld =>
      obtain ⟨b, v, hb, hmem⟩ := hheld
      have hlt : depth (kind v) < n := hn ▸ hlayered v (kind w) a hmem
      exact .field hb (ih (depth (kind v)) hlt b v hb rfl) hmem

/-- What has a count is what the outside reaches. -/
theorem Sound.count_pos_iff_reaches (hs : h.Sound outside []) (hlayered : Layered ω depth)
    (hnonneg : ∀ t, 0 ≤ outside t) :
    0 < h.count t ↔ h.Reaches (fun t => 0 < outside t) t := by
  constructor
  · intro hpos
    cases hs.count_pos_cases hpos with
    | inl hout => exact .root hout
    | inr hheld =>
      obtain ⟨a, w, hcell, hmem⟩ := hheld
      exact .field hcell (hs.reaches_of_cell hlayered (depth (kind w)) a w hcell rfl) hmem
  · intro hreach
    induction hreach with
    | root hout => exact hs.count_pos_of_outside hout
    | field hcell _ hmem _ => exact hs.count_pos_of_held hcell hmem (hnonneg _)

end Reach

end CountedHeap

end UuAmfBridge
