import Mathlib.Data.Option.Defs

/-!
# Save once, overwrite, restore

An installer that overwrites a name records what it has found there the first
time, and a restore puts the record back.  A `SavedSlot` is one such name: its
contents, and the record once there is one.  A record is itself optional, since
the name may have been absent.

The record is kept for good, so a later overwrite does not look again.  `Kept`
and `Stays` say when that does no harm: the record is what an overwrite, or a
restore, finds.
-/

namespace UuAmfBridge

/-- A name, and what has been recorded of it. -/
structure SavedSlot (α : Type*) where
  current : Option α
  saved : Option (Option α)

namespace SavedSlot

variable {α : Type*}

/-- Record the contents, as far as `capture` keeps them, unless there is a record
already; then overwrite them. -/
def overwrite (capture : Option α → Option α) (contents : α) (slot : SavedSlot α) :
    SavedSlot α where
  current := some contents
  saved := some (slot.saved.getD (capture slot.current))

/-- Put the record back, if there is one. -/
def restore (slot : SavedSlot α) : SavedSlot α :=
  { slot with current := slot.saved.getD slot.current }

/-- An overwrite leaves a record of exactly what it has found. -/
def Kept (capture : Option α → Option α) (slot : SavedSlot α) : Prop :=
  slot.saved.getD (capture slot.current) = slot.current

/-- A restore leaves the contents as they are. -/
def Stays (slot : SavedSlot α) : Prop := slot.saved.getD slot.current = slot.current

/-- After an overwrite a restore puts back what was recorded. -/
theorem saved_overwrite (capture : Option α → Option α) (contents : α) (slot : SavedSlot α) :
    (slot.overwrite capture contents).saved =
      some (slot.saved.getD (capture slot.current)) := rfl

/-- A record is kept for good. -/
theorem saved_overwrite_of_saved (capture : Option α → Option α) (contents : α)
    {slot : SavedSlot α} {record : Option α} (h : slot.saved = some record) :
    (slot.overwrite capture contents).saved = some record := by
  rw [saved_overwrite, h]
  rfl

theorem current_restore_of_saved {slot : SavedSlot α} {record : Option α}
    (h : slot.saved = some record) : slot.restore.current = record := by
  show slot.saved.getD slot.current = record
  rw [h]
  rfl

/-- An overwrite leaves the first thing found as the record: the one found
`before`, if any, and else the contents. -/
theorem saved_overwrite_eq_before {capture : Option α → Option α} {slot : SavedSlot α}
    {before : Option (Option α)} (hsaved : ∀ found, before = some found → slot.saved = some found)
    (hkept : before = none → slot.Kept capture) (contents : α) :
    (slot.overwrite capture contents).saved = some (before.getD slot.current) := by
  cases before with
  | none => exact congrArg some (hkept rfl)
  | some found => exact saved_overwrite_of_saved capture contents (hsaved found rfl)

/-- A restore puts back the thing found `before`, if any, and else the contents. -/
theorem current_restore_eq_before {slot : SavedSlot α} {before : Option (Option α)}
    (hsaved : ∀ found, before = some found → slot.saved = some found)
    (hstays : before = none → slot.Stays) :
    slot.restore.current = before.getD slot.current := by
  cases before with
  | none => exact hstays rfl
  | some found => exact current_restore_of_saved (hsaved found rfl)

end SavedSlot

end UuAmfBridge
