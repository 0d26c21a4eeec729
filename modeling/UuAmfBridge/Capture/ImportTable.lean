import Mathlib.Data.List.Forall2

/-!
# Import tables and how a hook gets into them

`patch_import` of `src/server_compat_hook.c`, which `patch_bitblt_import` and
`patch_send_input_import` of `src/wayland_capture_hook.c` write out for one function each.
The walk looks at the tables of one library and at the imports by name, and puts the hook
into the first import of its function.

A table ends at the first name that is zero and at the first address that is zero, so a
slot has an address.  `lstrcmpiA` compares by the rules of the user's language; the walk
only depends on which libraries it finds equal.

* `changes_patchImport`: a slot keeps its address or is an import of the function and gets
  the hook.
* `patchImport_patched`: an address that is read comes from such a slot and is not the
  hook.
* `patchImport_again`: behind a walk that has found the hook or put it there, a walk
  changes nothing.
* `patchImport_other`: walks for two functions do not see each other.
-/

namespace UuAmfBridge

/-- A hook for a function of a library. -/
structure ImportHook where
  library : List UInt8
  function : List UInt8
  address : UInt64
  address_ne_zero : address ≠ 0

/-- What an entry of the name table asks for. -/
inductive ImportName where
  | ordinal (value : UInt16)
  | name (text : List UInt8)
  deriving Repr, DecidableEq

/-- An entry of the name table with the entry of the address table beside it. -/
structure ImportSlot where
  name : ImportName
  address : UInt64
  bound : address ≠ 0

/-- `IMAGE_IMPORT_DESCRIPTOR`. -/
structure ImportDescriptor where
  library : List UInt8
  slots : List ImportSlot

/-- The parts of a loaded image that the hooks look at; `sendCode` is the code at
`GVINPUT_SEND_RVA`, which is not in the import tables. -/
structure HostModule where
  dosSignature : Bool
  ntSignature : Bool
  sizeOfImage : UInt32
  imports : List ImportDescriptor
  sendCode : List UInt8

/-- The way the walk through the tables ends. -/
inductive PatchOutcome where
  | notFound
  | refused
  | already
  | patched (original : UInt64)
  deriving DecidableEq

/-- The result of `patch_import`. -/
def PatchOutcome.found : PatchOutcome → Bool
  | .already | .patched _ => true
  | .notFound | .refused => false

/-- `*original` behind the call. -/
def PatchOutcome.original (before : UInt64) : PatchOutcome → UInt64
  | .patched original => original
  | _ => before

/-- The slot with the hook in it. -/
def ImportSlot.hooked (hook : ImportHook) (slot : ImportSlot) : ImportSlot :=
  { slot with address := hook.address, bound := hook.address_ne_zero }

/-- The inner loop of `patch_import`; `protect` says whether `VirtualProtect` succeeds. -/
def patchSlots (hook : ImportHook) (protect : Bool) :
    List ImportSlot → List ImportSlot × PatchOutcome
  | [] => ([], .notFound)
  | slot :: slots =>
      if slot.name ≠ .name hook.function then
        let rest := patchSlots hook protect slots
        (slot :: rest.1, rest.2)
      else if slot.address = hook.address then (slot :: slots, .already)
      else if !protect then (slot :: slots, .refused)
      else (slot.hooked hook :: slots, .patched slot.address)

section Walk

variable (sameLibrary : List UInt8 → List UInt8 → Bool)

/-- The outer loop of `patch_import`; `sameLibrary` is `lstrcmpiA` with result zero. -/
def patchDescriptors (hook : ImportHook) (protect : Bool) :
    List ImportDescriptor → List ImportDescriptor × PatchOutcome
  | [] => ([], .notFound)
  | descriptor :: descriptors =>
      let skip := fun descriptor : ImportDescriptor =>
        let rest := patchDescriptors hook protect descriptors
        (descriptor :: rest.1, rest.2)
      if !sameLibrary descriptor.library hook.library then skip descriptor
      else
        let slots := patchSlots hook protect descriptor.slots
        if slots.2 = .notFound then skip descriptor
        else ({ descriptor with slots := slots.1 } :: descriptors, slots.2)

/-- `patch_import` on a module: the module, `*original` and the result behind the call. -/
def patchImport (hook : ImportHook) (protect : Bool) (module : HostModule) (original : UInt64) :
    HostModule × UInt64 × Bool :=
  if !module.dosSignature then (module, original, false)
  else if !module.ntSignature then (module, original, false)
  else
    let walk := patchDescriptors sameLibrary hook protect module.imports
    ({ module with imports := walk.1 }, walk.2.original original, walk.2.found)

/-! ## What a walk changes -/

/-- The slot is as it was, or it is an import of a hooked function and has got the hook. -/
def SlotChange (hooks : List ImportHook) (library : List UInt8) (old new : ImportSlot) : Prop :=
  new = old ∨ ∃ hook ∈ hooks, sameLibrary library hook.library = true ∧
    old.name = .name hook.function ∧ new = old.hooked hook

/-- No table has become another one, and each slot has changed by the rule. -/
def DescriptorChange (hooks : List ImportHook) (old new : ImportDescriptor) : Prop :=
  new.library = old.library ∧
    List.Forall₂ (SlotChange sameLibrary hooks old.library) old.slots new.slots

/-- The import tables of a module have changed by the rule. -/
def ImportChange (hooks : List ImportHook) (old new : HostModule) : Prop :=
  List.Forall₂ (DescriptorChange sameLibrary hooks) old.imports new.imports

variable {sameLibrary} {hooks : List ImportHook} {hook other : ImportHook}

theorem SlotChange.trans {library : List UInt8} {first second third : ImportSlot}
    (hfirst : SlotChange sameLibrary hooks library first second)
    (hsecond : SlotChange sameLibrary hooks library second third) :
    SlotChange sameLibrary hooks library first third := by
  rcases hsecond with rfl | ⟨hook, hmem, hlibrary, hname, rfl⟩
  · exact hfirst
  · rcases hfirst with rfl | ⟨before, hmem', hlibrary', hname', rfl⟩
    · exact Or.inr ⟨hook, hmem, hlibrary, hname, rfl⟩
    · exact Or.inr ⟨hook, hmem, hlibrary, hname, rfl⟩

theorem slotChanges_refl (library : List UInt8) (slots : List ImportSlot) :
    List.Forall₂ (SlotChange sameLibrary hooks library) slots slots :=
  List.forall₂_same.mpr fun _ _ => Or.inl rfl

theorem descriptorChanges_refl (descriptors : List ImportDescriptor) :
    List.Forall₂ (DescriptorChange sameLibrary hooks) descriptors descriptors :=
  List.forall₂_same.mpr fun descriptor _ => ⟨rfl, slotChanges_refl descriptor.library _⟩

theorem ImportChange.refl (module : HostModule) : ImportChange sameLibrary hooks module module :=
  descriptorChanges_refl module.imports

/-- Two changes of lists of the same length, one behind the other. -/
theorem forall₂_trans {α : Type*} {R : α → α → Prop}
    (htrans : ∀ a b c, R a b → R b c → R a c) {first second third : List α}
    (hfirst : List.Forall₂ R first second) (hsecond : List.Forall₂ R second third) :
    List.Forall₂ R first third := by
  induction hfirst generalizing third with
  | nil => exact hsecond
  | cons hhead _ ih =>
    cases hsecond with
    | cons hhead' htail' => exact .cons (htrans _ _ _ hhead hhead') (ih htail')

theorem ImportChange.trans {first second third : HostModule}
    (hfirst : ImportChange sameLibrary hooks first second)
    (hsecond : ImportChange sameLibrary hooks second third) :
    ImportChange sameLibrary hooks first third := by
  refine forall₂_trans ?_ hfirst hsecond
  rintro old middle new ⟨hlibrary, hslots⟩ ⟨hlibrary', hslots'⟩
  rw [hlibrary] at hslots'
  refine ⟨hlibrary'.trans hlibrary, forall₂_trans ?_ hslots hslots'⟩
  intro _ _ _ hone htwo
  exact hone.trans htwo

theorem slotChange_hooked (hmem : hook ∈ hooks) {library : List UInt8}
    (hlibrary : sameLibrary library hook.library = true) (protect : Bool)
    (slots : List ImportSlot) :
    List.Forall₂ (SlotChange sameLibrary hooks library) slots
      (patchSlots hook protect slots).1 := by
  induction slots with
  | nil => exact .nil
  | cons slot slots ih =>
    have hrest := @slotChanges_refl sameLibrary hooks library slots
    unfold patchSlots
    by_cases hname : slot.name ≠ .name hook.function
    · rw [if_pos hname]
      exact .cons (Or.inl rfl) ih
    · rw [if_neg hname]
      split_ifs
      · exact .cons (Or.inl rfl) hrest
      · exact .cons (Or.inl rfl) hrest
      · exact .cons (Or.inr ⟨hook, hmem, hlibrary, not_not.mp hname, rfl⟩) hrest

theorem descriptorChanges_patchDescriptors (hmem : hook ∈ hooks) (protect : Bool)
    (descriptors : List ImportDescriptor) :
    List.Forall₂ (DescriptorChange sameLibrary hooks) descriptors
      (patchDescriptors sameLibrary hook protect descriptors).1 := by
  induction descriptors with
  | nil => exact .nil
  | cons descriptor descriptors ih =>
    have hsame : DescriptorChange sameLibrary hooks descriptor descriptor :=
      ⟨rfl, slotChanges_refl _ _⟩
    unfold patchDescriptors
    by_cases hlibrary : sameLibrary descriptor.library hook.library = true
    · rw [if_neg (by simp [hlibrary])]
      simp only
      split_ifs
      · exact .cons hsame ih
      · exact .cons ⟨rfl, slotChange_hooked hmem hlibrary protect _⟩ (descriptorChanges_refl _)
    · rw [if_pos (by simpa using hlibrary)]
      exact .cons hsame ih

/-- A walk changes the slots of its function, and no other. -/
theorem changes_patchImport (hmem : hook ∈ hooks) (protect : Bool) (module : HostModule)
    (original : UInt64) :
    ImportChange sameLibrary hooks module
      (patchImport sameLibrary hook protect module original).1 := by
  unfold patchImport
  split_ifs
  · exact ImportChange.refl module
  · exact ImportChange.refl module
  · exact descriptorChanges_patchDescriptors hmem protect module.imports

/-! ## The tables of a module -/

/-- Some slot holds the address. -/
def HostModule.Holds (module : HostModule) (address : UInt64) : Prop :=
  ∃ descriptor ∈ module.imports, ∃ slot ∈ descriptor.slots, slot.address = address

/-- The tables of the library import the function from the address. -/
def ImportsFrom (sameLibrary : List UInt8 → List UInt8 → Bool) (hook : ImportHook)
    (descriptors : List ImportDescriptor) (address : UInt64) : Prop :=
  ∃ descriptor ∈ descriptors, sameLibrary descriptor.library hook.library = true ∧
    ∃ slot ∈ descriptor.slots, slot.name = .name hook.function ∧ slot.address = address

theorem exists_mem_of_forall₂ {α β : Type*} {R : α → β → Prop} {left : List α} {right : List β}
    (hall : List.Forall₂ R left right) {b : β} (hmem : b ∈ right) : ∃ a ∈ left, R a b := by
  induction hall with
  | nil => cases hmem
  | cons hhead _ ih =>
    rcases List.mem_cons.mp hmem with rfl | hmem
    · exact ⟨_, List.mem_cons_self, hhead⟩
    · obtain ⟨a, ha, hrel⟩ := ih hmem
      exact ⟨a, List.mem_cons_of_mem _ ha, hrel⟩

/-- An address that a change brings in is that of a hook. -/
theorem ImportChange.holds {old new : HostModule} (hchange : ImportChange sameLibrary hooks old new)
    {address : UInt64} (hholds : new.Holds address) :
    old.Holds address ∨ ∃ hook ∈ hooks, address = hook.address := by
  obtain ⟨descriptor, hdescriptor, slot, hslot, rfl⟩ := hholds
  obtain ⟨before, hbefore, -, hslots⟩ := exists_mem_of_forall₂ hchange hdescriptor
  obtain ⟨slot', hslot', hsame | ⟨hook, hmem, -, -, rfl⟩⟩ := exists_mem_of_forall₂ hslots hslot
  · exact Or.inl ⟨before, hbefore, slot', hslot', by rw [hsame]⟩
  · exact Or.inr ⟨hook, hmem, rfl⟩

/-- An import of a function that is not its hook has been there before. -/
theorem ImportChange.importsFrom {old new : HostModule}
    (hchange : ImportChange sameLibrary hooks old new) {address : UInt64}
    (himports : ImportsFrom sameLibrary hook new.imports address) (hne : address ≠ hook.address)
    (honly : ∀ other ∈ hooks, other.function = hook.function → other.address = hook.address) :
    ImportsFrom sameLibrary hook old.imports address := by
  obtain ⟨descriptor, hdescriptor, hlibrary, slot, hslot, hname, rfl⟩ := himports
  obtain ⟨before, hbefore, hsame, hslots⟩ := exists_mem_of_forall₂ hchange hdescriptor
  rw [hsame] at hlibrary
  obtain ⟨slot', hslot', rfl | ⟨other, hmem, -, hname', rfl⟩⟩ := exists_mem_of_forall₂ hslots hslot
  · exact ⟨before, hbefore, hlibrary, slot, hslot', hname, rfl⟩
  · have hfunction : other.function = hook.function := by
      have hnames : ImportName.name other.function = .name hook.function := hname'.symm.trans hname
      exact ImportName.name.inj hnames
    exact absurd (honly other hmem hfunction) hne

/-! ## What a walk reads -/

theorem patchSlots_patched {protect : Bool} {slots : List ImportSlot} {original : UInt64}
    (hpatched : (patchSlots hook protect slots).2 = .patched original) :
    original ≠ hook.address ∧
      ∃ slot ∈ slots, slot.name = .name hook.function ∧ slot.address = original := by
  induction slots with
  | nil => cases hpatched
  | cons slot slots ih =>
    unfold patchSlots at hpatched
    split_ifs at hpatched with hname haddress
    · obtain ⟨hne, found, hmem, hfound⟩ := ih hpatched
      exact ⟨hne, found, List.mem_cons_of_mem _ hmem, hfound⟩
    · obtain rfl := PatchOutcome.patched.inj hpatched
      exact ⟨haddress, slot, List.mem_cons_self, not_not.mp hname, rfl⟩

theorem patchDescriptors_patched {protect : Bool} {descriptors : List ImportDescriptor}
    {original : UInt64}
    (hpatched : (patchDescriptors sameLibrary hook protect descriptors).2 = .patched original) :
    original ≠ hook.address ∧ ImportsFrom sameLibrary hook descriptors original := by
  induction descriptors with
  | nil => cases hpatched
  | cons descriptor descriptors ih =>
    have hlater : (patchDescriptors sameLibrary hook protect descriptors).2 = .patched original →
        original ≠ hook.address ∧ ImportsFrom sameLibrary hook (descriptor :: descriptors)
          original := by
      intro hrest
      obtain ⟨hne, found, hmem, hfound⟩ := ih hrest
      exact ⟨hne, found, List.mem_cons_of_mem _ hmem, hfound⟩
    unfold patchDescriptors at hpatched
    simp only at hpatched
    split_ifs at hpatched with hlibrary hnone
    · exact hlater hpatched
    · exact hlater hpatched
    · obtain ⟨hne, hslot⟩ := patchSlots_patched hpatched
      exact ⟨hne, descriptor, List.mem_cons_self, by simpa using hlibrary, hslot⟩

/-- A walk that does not put the hook anywhere leaves the slots. -/
theorem patchSlots_eq_self {protect : Bool} {slots : List ImportSlot}
    (hnot : ∀ original, (patchSlots hook protect slots).2 ≠ .patched original) :
    (patchSlots hook protect slots).1 = slots := by
  induction slots with
  | nil => rfl
  | cons slot slots ih =>
    unfold patchSlots at hnot ⊢
    split_ifs at hnot ⊢ with hname haddress
    · exact congrArg (List.cons slot) (ih hnot)
    · rfl
    · rfl
    · exact absurd rfl (hnot slot.address)

theorem patchDescriptors_eq_self {protect : Bool} {descriptors : List ImportDescriptor}
    (hnot : ∀ original,
      (patchDescriptors sameLibrary hook protect descriptors).2 ≠ .patched original) :
    (patchDescriptors sameLibrary hook protect descriptors).1 = descriptors := by
  induction descriptors with
  | nil => rfl
  | cons descriptor descriptors ih =>
    unfold patchDescriptors at hnot ⊢
    simp only at hnot ⊢
    split_ifs at hnot ⊢
    · rw [ih hnot]
    · rw [ih hnot]
    · rw [patchSlots_eq_self hnot]

/-- The walk leaves `*original` and the tables, or reads an address that is not the hook
out of an import of the function. -/
theorem patchImport_patched (sameLibrary : List UInt8 → List UInt8 → Bool) (hook : ImportHook)
    (protect : Bool) (module : HostModule) (original : UInt64) :
    let walk := patchImport sameLibrary hook protect module original
    walk.1.imports = module.imports ∧ walk.2.1 = original ∨
      walk.2.1 ≠ hook.address ∧ ImportsFrom sameLibrary hook module.imports walk.2.1 := by
  unfold patchImport
  simp only
  split_ifs
  · exact Or.inl ⟨rfl, rfl⟩
  · exact Or.inl ⟨rfl, rfl⟩
  · cases hwalk : (patchDescriptors sameLibrary hook protect module.imports).2 with
    | patched read => exact Or.inr (patchDescriptors_patched hwalk)
    | notFound => exact Or.inl ⟨patchDescriptors_eq_self (by simp [hwalk]), rfl⟩
    | refused => exact Or.inl ⟨patchDescriptors_eq_self (by simp [hwalk]), rfl⟩
    | already => exact Or.inl ⟨patchDescriptors_eq_self (by simp [hwalk]), rfl⟩

/-! ## Walking again -/

/-- A walk that finds the hook changes nothing, whatever `VirtualProtect` would do. -/
theorem patchSlots_already {protect : Bool} {slots : List ImportSlot}
    (halready : (patchSlots hook protect slots).2 = .already) (protect' : Bool) :
    patchSlots hook protect' slots = (slots, .already) := by
  induction slots with
  | nil => cases halready
  | cons slot slots ih =>
    unfold patchSlots at halready ⊢
    split_ifs at halready with hname haddress
    · rw [if_pos hname, ih halready]
    · rw [if_neg hname, if_pos haddress]

theorem patchSlots_notFound {protect : Bool} {slots : List ImportSlot}
    (hnone : (patchSlots hook protect slots).2 = .notFound) (protect' : Bool) :
    (patchSlots hook protect' slots).2 = .notFound := by
  induction slots with
  | nil => rfl
  | cons slot slots ih =>
    unfold patchSlots at hnone ⊢
    split_ifs at hnone with hname
    · rw [if_pos hname]
      exact ih hnone

/-- A walk that has put the hook into its slot finds it there. -/
theorem patchSlots_again {protect : Bool} {slots : List ImportSlot} {original : UInt64}
    (hpatched : (patchSlots hook protect slots).2 = .patched original) :
    (patchSlots hook false (patchSlots hook protect slots).1).2 = .already := by
  induction slots with
  | nil => cases hpatched
  | cons slot slots ih =>
    unfold patchSlots at hpatched
    rw [patchSlots]
    split_ifs at hpatched ⊢ with hname haddress hprotect
    · show (patchSlots hook false (slot :: (patchSlots hook protect slots).1)).2 = _
      rw [patchSlots, if_pos hname]
      exact ih hpatched
    · have hkept : (slot.hooked hook).name = .name hook.function := not_not.mp hname
      have hholds : (slot.hooked hook).address = hook.address := rfl
      show (patchSlots hook false (slot.hooked hook :: slots)).2 = _
      rw [patchSlots, if_neg (not_not.mpr hkept), if_pos hholds]

theorem patchDescriptors_already {protect : Bool} {descriptors : List ImportDescriptor}
    (halready : (patchDescriptors sameLibrary hook protect descriptors).2 = .already)
    (protect' : Bool) :
    patchDescriptors sameLibrary hook protect' descriptors = (descriptors, .already) := by
  induction descriptors with
  | nil => cases halready
  | cons descriptor descriptors ih =>
    unfold patchDescriptors at halready ⊢
    simp only at halready ⊢
    split_ifs at halready with hlibrary hnone
    · rw [if_pos hlibrary, ih halready]
    · rw [if_neg hlibrary, if_pos (patchSlots_notFound hnone protect'), ih halready]
    · rw [if_neg hlibrary, patchSlots_already halready protect', if_neg (by simp)]

theorem patchDescriptors_again {protect : Bool} {descriptors : List ImportDescriptor}
    {original : UInt64}
    (hpatched : (patchDescriptors sameLibrary hook protect descriptors).2 = .patched original) :
    (patchDescriptors sameLibrary hook false
      (patchDescriptors sameLibrary hook protect descriptors).1).2 = .already := by
  induction descriptors with
  | nil => cases hpatched
  | cons descriptor descriptors ih =>
    unfold patchDescriptors at hpatched
    rw [patchDescriptors]
    simp only at hpatched ⊢
    split_ifs at hpatched ⊢ with hlibrary hnone
    · rw [patchDescriptors]
      simp only
      rw [if_pos hlibrary]
      exact ih hpatched
    · rw [patchDescriptors]
      simp only
      rw [if_neg hlibrary, if_pos (patchSlots_notFound hnone false)]
      exact ih hpatched
    · have hagain := patchSlots_again hpatched
      rw [patchDescriptors]
      simp only
      rw [if_neg hlibrary, if_neg (by rw [hagain]; decide)]
      exact hagain

/-- The walk for a hook finds it in the first slot of its function. -/
def Hooked (sameLibrary : List UInt8 → List UInt8 → Bool) (hook : ImportHook)
    (module : HostModule) : Prop :=
  module.dosSignature = true ∧ module.ntSignature = true ∧
    (patchDescriptors sameLibrary hook false module.imports).2 = .already

/-- Patching a module that is patched already changes nothing. -/
theorem Hooked.patchImport_eq {module : HostModule} (hhooked : Hooked sameLibrary hook module)
    (protect : Bool) (original : UInt64) :
    patchImport sameLibrary hook protect module original = (module, original, true) := by
  obtain ⟨hdos, hnt, halready⟩ := hhooked
  unfold patchImport
  simp only
  rw [if_neg (by simp [hdos]), if_neg (by simp [hnt]),
    patchDescriptors_already halready protect]
  rfl

/-- A module is patched once the walk has returned `TRUE`. -/
theorem hooked_of_patchImport {protect : Bool} {module : HostModule} {original : UInt64}
    (hfound : (patchImport sameLibrary hook protect module original).2.2 = true) :
    Hooked sameLibrary hook (patchImport sameLibrary hook protect module original).1 := by
  unfold patchImport at hfound ⊢
  split_ifs at hfound ⊢ with hdos hnt
  refine ⟨by simpa using hdos, by simpa using hnt, ?_⟩
  cases hwalk : (patchDescriptors sameLibrary hook protect module.imports).2 with
  | patched read => exact patchDescriptors_again hwalk
  | already =>
    have halready := patchDescriptors_already hwalk
    show (patchDescriptors sameLibrary hook false
      (patchDescriptors sameLibrary hook protect module.imports).1).2 = _
    rw [halready, halready]
  | notFound =>
    simp only [hwalk] at hfound
    cases hfound
  | refused =>
    simp only [hwalk] at hfound
    cases hfound

/-! ## Walks for two functions -/

theorem patchSlots_other (hfunction : hook.function ≠ other.function) (protect protect' : Bool)
    (slots : List ImportSlot) :
    (patchSlots hook protect (patchSlots other protect' slots).1).2 =
      (patchSlots hook protect slots).2 := by
  induction slots with
  | nil => rfl
  | cons slot slots ih =>
    by_cases hother : slot.name = .name other.function
    · -- the walk of the other hook ends here, in a slot that is not for this one
      have hname : slot.name ≠ .name hook.function := by
        intro hname
        exact hfunction (ImportName.name.inj (hname.symm.trans hother))
      have hskip : ∀ slot' : ImportSlot, slot'.name = slot.name →
          (patchSlots hook protect (slot' :: slots)).2 = (patchSlots hook protect slots).2 := by
        intro slot' hsame
        rw [patchSlots, if_pos (hsame ▸ hname)]
      have hwalk : ∃ slot', slot'.name = slot.name ∧
          (patchSlots other protect' (slot :: slots)).1 = slot' :: slots := by
        rw [patchSlots, if_neg (not_not.mpr hother)]
        split_ifs
        · exact ⟨slot, rfl, rfl⟩
        · exact ⟨slot, rfl, rfl⟩
        · exact ⟨slot.hooked other, rfl, rfl⟩
      obtain ⟨slot', hsame, hfirst⟩ := hwalk
      rw [hfirst, hskip slot' hsame, hskip slot rfl]
    · have hrest : (patchSlots other protect' (slot :: slots)).1 =
          slot :: (patchSlots other protect' slots).1 := by
        rw [patchSlots, if_pos hother]
      rw [hrest, patchSlots, patchSlots]
      split_ifs
      · exact ih
      · rfl
      · rfl
      · rfl

theorem patchDescriptors_other (hfunction : hook.function ≠ other.function)
    (protect protect' : Bool) (descriptors : List ImportDescriptor) :
    (patchDescriptors sameLibrary hook protect
      (patchDescriptors sameLibrary other protect' descriptors).1).2 =
        (patchDescriptors sameLibrary hook protect descriptors).2 := by
  induction descriptors with
  | nil => rfl
  | cons descriptor descriptors ih =>
    rw [patchDescriptors.eq_2 sameLibrary other]
    simp only
    split_ifs with hlibrary hnone
    · rw [patchDescriptors, patchDescriptors]
      simp only [ih]
      split_ifs <;> rfl
    · rw [patchDescriptors, patchDescriptors]
      simp only [ih]
      split_ifs <;> rfl
    · have hslots := patchSlots_other hfunction protect protect' descriptor.slots
      rw [patchDescriptors, patchDescriptors]
      simp only [hslots]
      split_ifs <;> rfl

/-- A walk for another function leaves a module patched. -/
theorem Hooked.patchImport_other {module : HostModule} (hhooked : Hooked sameLibrary hook module)
    (hfunction : hook.function ≠ other.function) (protect : Bool) (original : UInt64) :
    Hooked sameLibrary hook (patchImport sameLibrary other protect module original).1 := by
  obtain ⟨hdos, hnt, halready⟩ := hhooked
  unfold patchImport
  rw [if_neg (by simp [hdos]), if_neg (by simp [hnt])]
  refine ⟨hdos, hnt, ?_⟩
  show (patchDescriptors sameLibrary hook false
    (patchDescriptors sameLibrary other protect module.imports).1).2 = _
  rw [patchDescriptors_other hfunction]
  exact halready

end Walk

end UuAmfBridge
