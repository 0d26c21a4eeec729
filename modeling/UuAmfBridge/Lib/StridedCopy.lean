import Mathlib.Algebra.Order.Group.Nat
import Mathlib.Tactic.Ring

/-!
# Copying images row by row

A loop that calls `memcpy` once for each row is the list of its calls.  The
list says which cells the loop reads, and `copyAll` says what it writes, so a
bound on the reads and the contents afterwards are two facts about one value.

`stridedCopies` is the loop over the rows of an image with one pitch on each
side.  When the rows of the target do not overlap, the loop moves every cell of
the image to its place (`copyAll_stridedCopies`) and touches no other cell
(`copyAll_stridedCopies_outside`).
-/

namespace UuAmfBridge

variable {α : Type*}

/-- One call of `memcpy`: offsets into the target and the source, and a count. -/
structure MemCopy where
  dst : Nat
  src : Nat
  count : Nat
  deriving Repr, DecidableEq

namespace MemCopy

/-- The target after one call. -/
def apply (copy : MemCopy) (source target : Nat → α) : Nat → α := fun i =>
  if copy.dst ≤ i ∧ i < copy.dst + copy.count then
    source (copy.src + (i - copy.dst))
  else target i

theorem apply_inside (copy : MemCopy) (source target : Nat → α) {x : Nat}
    (hx : x < copy.count) :
    copy.apply source target (copy.dst + x) = source (copy.src + x) := by
  simp [apply, hx]

theorem apply_outside (copy : MemCopy) (source target : Nat → α) {i : Nat}
    (hi : ¬(copy.dst ≤ i ∧ i < copy.dst + copy.count)) :
    copy.apply source target i = target i := by
  rw [apply, if_neg hi]

end MemCopy

/-- The target after a list of calls, in order. -/
def copyAll (copies : List MemCopy) (source target : Nat → α) : Nat → α :=
  copies.foldl (fun memory copy => copy.apply source memory) target

@[simp] theorem copyAll_append_singleton (copies : List MemCopy) (copy : MemCopy)
    (source target : Nat → α) :
    copyAll (copies ++ [copy]) source target =
      copy.apply source (copyAll copies source target) := by
  simp [copyAll]

/-- Copies of cells of an image to their places: a cell that is copied, or was there
before, is the cell of the image. -/
theorem copyAll_eq {copies : List MemCopy} {source target image : Nat → α}
    (hcopies : ∀ copy ∈ copies, ∀ x < copy.count, source (copy.src + x) = image (copy.dst + x))
    {i : Nat}
    (hi : target i = image i ∨
      ∃ copy ∈ copies, copy.dst ≤ i ∧ i < copy.dst + copy.count) :
    copyAll copies source target i = image i := by
  induction copies generalizing target with
  | nil =>
    rcases hi with hi | ⟨_, hmem, -⟩
    · exact hi
    · cases hmem
  | cons copy copies ih =>
    have hfirst := hcopies copy List.mem_cons_self
    refine ih (fun later hlater => hcopies later (List.mem_cons_of_mem _ hlater)) ?_
    by_cases hinside : copy.dst ≤ i ∧ i < copy.dst + copy.count
    · left
      have hcopied := hfirst (i - copy.dst) (by omega)
      rw [Nat.add_sub_cancel' hinside.1] at hcopied
      show (if _ then _ else _) = _
      rw [if_pos hinside, hcopied]
    · show copy.apply source target i = image i ∨ _
      rw [MemCopy.apply_outside copy source target hinside]
      rcases hi with hi | ⟨later, hlater, hcovers⟩
      · exact Or.inl hi
      · rcases List.mem_cons.mp hlater with rfl | hlater
        · exact absurd hcovers hinside
        · exact Or.inr ⟨later, hlater, hcovers⟩

/-- The memory after single cells have been stored, in order. -/
def writeAll (writes : List (Nat × α)) (memory : Nat → α) : Nat → α :=
  writes.foldl (fun memory write => Function.update memory write.1 write.2) memory

/-- Stores of cells of an image: a cell that is stored, or was there before, is the cell
of the image. -/
theorem writeAll_eq {writes : List (Nat × α)} {memory image : Nat → α}
    (hwrites : ∀ write ∈ writes, write.2 = image write.1) {i : Nat}
    (hi : memory i = image i ∨ ∃ write ∈ writes, write.1 = i) :
    writeAll writes memory i = image i := by
  induction writes generalizing memory with
  | nil =>
    rcases hi with hi | ⟨_, hmem, -⟩
    · exact hi
    · cases hmem
  | cons write writes ih =>
    refine ih (fun later hlater => hwrites later (List.mem_cons_of_mem _ hlater)) ?_
    show Function.update memory write.1 write.2 i = image i ∨ _
    by_cases hhere : write.1 = i
    · left
      subst hhere
      rw [Function.update_self]
      exact hwrites write List.mem_cons_self
    · rw [Function.update_of_ne (Ne.symm hhere)]
      rcases hi with hi | ⟨later, hlater, heq⟩
      · exact Or.inl hi
      · rcases List.mem_cons.mp hlater with rfl | hlater
        · exact absurd heq hhere
        · exact Or.inr ⟨later, hlater, heq⟩

/-- The calls of a loop over `rows` rows of `width` cells each. -/
def stridedCopies (dstBase dstPitch srcBase srcPitch width rows : Nat) :
    List MemCopy :=
  (List.range rows).map fun y =>
    { dst := dstBase + y * dstPitch, src := srcBase + y * srcPitch, count := width }

theorem mem_stridedCopies {dstBase dstPitch srcBase srcPitch width rows : Nat} {copy : MemCopy} :
    copy ∈ stridedCopies dstBase dstPitch srcBase srcPitch width rows ↔
      ∃ y < rows, copy = ⟨dstBase + y * dstPitch, srcBase + y * srcPitch, width⟩ := by
  simp [stridedCopies, eq_comm]

theorem stridedCopies_succ (dstBase dstPitch srcBase srcPitch width rows : Nat) :
    stridedCopies dstBase dstPitch srcBase srcPitch width (rows + 1) =
      stridedCopies dstBase dstPitch srcBase srcPitch width rows ++
        [⟨dstBase + rows * dstPitch, srcBase + rows * srcPitch, width⟩] := by
  simp [stridedCopies, List.range_succ]

variable {dstBase dstPitch srcBase srcPitch width rows : Nat}

/-- A cell in no row of the target keeps its contents. -/
theorem copyAll_stridedCopies_outside (source target : Nat → α) {i : Nat}
    (hi : ∀ y < rows, ¬(dstBase + y * dstPitch ≤ i ∧ i < dstBase + y * dstPitch + width)) :
    copyAll (stridedCopies dstBase dstPitch srcBase srcPitch width rows)
      source target i = target i := by
  induction rows with
  | zero => rfl
  | succ rows ih =>
    rw [stridedCopies_succ, copyAll_append_singleton,
      MemCopy.apply_outside _ _ _ (hi rows (Nat.lt_succ_self rows))]
    exact ih fun y hy => hi y (Nat.lt_succ_of_lt hy)

/-- When the rows of the target do not overlap, every cell of the image arrives
at its place. -/
theorem copyAll_stridedCopies (source target : Nat → α) (hpitch : width ≤ dstPitch)
    {x y : Nat} (hx : x < width) (hy : y < rows) :
    copyAll (stridedCopies dstBase dstPitch srcBase srcPitch width rows)
      source target (dstBase + y * dstPitch + x) =
        source (srcBase + y * srcPitch + x) := by
  induction rows with
  | zero => omega
  | succ rows ih =>
    rw [stridedCopies_succ, copyAll_append_singleton]
    by_cases hlast : y = rows
    · subst hlast
      exact MemCopy.apply_inside _ _ _ hx
    · have hlt : y < rows := by omega
      have hrow : (y + 1) * dstPitch ≤ rows * dstPitch :=
        Nat.mul_le_mul_right dstPitch hlt
      rw [MemCopy.apply_outside, ih hlt]
      -- Row `y` ends before row `rows` begins.
      rw [Nat.add_mul] at hrow
      simp only
      omega

/-- The same for a target that begins at its first cell. -/
theorem copyAll_stridedCopies_zero (source target : Nat → α) (hpitch : width ≤ dstPitch)
    {x y : Nat} (hx : x < width) (hy : y < rows) :
    copyAll (stridedCopies 0 dstPitch srcBase srcPitch width rows) source target
      (y * dstPitch + x) = source (srcBase + y * srcPitch + x) := by
  have hcopied : copyAll (stridedCopies 0 dstPitch srcBase srcPitch width rows) source target
      (0 + y * dstPitch + x) = source (srcBase + y * srcPitch + x) :=
    copyAll_stridedCopies source target hpitch hx hy
  rw [Nat.zero_add] at hcopied
  exact hcopied

/-- Every call of the loop reads inside the rows of the source. -/
theorem stridedCopies_src_le {copy : MemCopy}
    (hcopy : copy ∈ stridedCopies dstBase dstPitch srcBase srcPitch width rows) :
    copy.src + copy.count ≤ srcBase + (rows - 1) * srcPitch + width := by
  simp only [stridedCopies, List.mem_map, List.mem_range] at hcopy
  obtain ⟨y, hy, rfl⟩ := hcopy
  have hrow : y * srcPitch ≤ (rows - 1) * srcPitch :=
    Nat.mul_le_mul_right srcPitch (by omega)
  simp only
  omega

end UuAmfBridge
