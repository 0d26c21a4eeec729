import UuAmfBridge.Capture.ImportHooks

/-!
# The compatibility hook of the real server

`src/server_compat_hook.c` is loaded into the real server and puts two hooks into its imports
of `setupapi.dll`.  Wine has no root device node, and ends the process in
`CM_Query_And_Remove_SubTreeW`; the hooks answer for both, and hand every other call of
`CM_Get_Child` on to Wine.

A call of the server goes through a slot of its import tables.  `CallEnd` is where it ends: in
the function at an address, or in a hook.

* `compat_calls_shielded`: after any installations, a call through a slot ends where it would
  have without them, or in a hook.  A hook keeps the root node and the removal from Wine, never
  calls itself, and is at no time without the function it stands for.  An installation that
  has returned `TRUE` hooks the first import of each function for good.
-/

namespace UuAmfBridge

/-- `CONFIGRET`, as far as the hooks return it. -/
inductive ConfigRet where
  /-- `CR_NO_SUCH_DEVNODE`. -/
  | noSuchDevnode
  /-- `CR_FAILURE`. -/
  | failure
  deriving Repr, DecidableEq

/-- The addresses of the two hooks. -/
structure CompatHooks where
  compatCmGetChild : UInt64
  compatCmQueryAndRemoveSubtree : UInt64
  getChild_ne_zero : compatCmGetChild ≠ 0
  remove_ne_zero : compatCmQueryAndRemoveSubtree ≠ 0
  getChild_ne_remove : compatCmGetChild ≠ compatCmQueryAndRemoveSubtree

namespace CompatHooks

def getChild (hooks : CompatHooks) : ImportHook where
  library := importText "setupapi.dll"
  function := importText "CM_Get_Child"
  address := hooks.compatCmGetChild
  address_ne_zero := hooks.getChild_ne_zero

def remove (hooks : CompatHooks) : ImportHook where
  library := importText "setupapi.dll"
  function := importText "CM_Query_And_Remove_SubTreeW"
  address := hooks.compatCmQueryAndRemoveSubtree
  address_ne_zero := hooks.remove_ne_zero

/-- The hooks of the library. -/
def all (hooks : CompatHooks) : List ImportHook := [hooks.getChild, hooks.remove]

end CompatHooks

/-- The image of the server, `original_cm_get_child` and
`original_cm_query_and_remove_subtree`. -/
structure ServerProcess where
  image : HostModule
  originalCmGetChild : UInt64 := 0
  originalCmQueryAndRemoveSubtree : UInt64 := 0

/-- Which calls of `VirtualProtect` succeed in an installation. -/
structure CompatProtect where
  getChild : Bool := true
  remove : Bool := true

/-- A call of the server; `child` says whether the pointer is not null. -/
inductive DeviceCall where
  | getChild (child : Bool) (parent flags : UInt32)
  | queryAndRemoveSubTree (ancestor flags : UInt32)
  deriving DecidableEq

/-- Where a call ends. -/
inductive CallEnd where
  /-- In the function at an address. -/
  | passed (address : UInt64) (call : DeviceCall)
  /-- In a hook, with what it has written to `*child`. -/
  | returned (result : ConfigRet) (child : Option UInt32)
  deriving DecidableEq

/-- `compat_cm_get_child`. -/
def compatCmGetChild (original : UInt64) (child : Bool) (parent flags : UInt32) : CallEnd :=
  if parent = 0 then .returned .noSuchDevnode (if child then some 0 else none)
  else if original ≠ 0 then .passed original (.getChild child parent flags)
  else .returned .failure none

/-- `compat_cm_query_and_remove_subtree`. -/
def compatCmQueryAndRemoveSubtree (ancestor : UInt32) : CallEnd :=
  if ancestor = 0 then .returned .noSuchDevnode none
  else .returned .noSuchDevnode none

section Hooks

variable (sameLibrary : List UInt8 → List UInt8 → Bool) (hooks : CompatHooks)

/-- `UUInstallServerCompatHook`. -/
def uuInstallServerCompatHook (process : ServerProcess) (protect : CompatProtect) :
    ServerProcess × Bool :=
  let child := patchImport sameLibrary hooks.getChild protect.getChild process.image
    process.originalCmGetChild
  let remove := patchImport sameLibrary hooks.remove protect.remove child.1
    process.originalCmQueryAndRemoveSubtree
  ({ image := remove.1
     originalCmGetChild := child.2.1
     originalCmQueryAndRemoveSubtree := remove.2.1 }, child.2.2 && remove.2.2)

/-- The process answers one installation at a time. -/
def compatInstalls : Machine ServerProcess CompatProtect Bool where
  step := uuInstallServerCompatHook sameLibrary hooks

/-- The hook for a call. -/
def DeviceCall.hook : DeviceCall → ImportHook
  | .getChild _ _ _ => hooks.getChild
  | .queryAndRemoveSubTree _ _ => hooks.remove

/-- A call of the function at an address. -/
def ServerProcess.call (process : ServerProcess) (address : UInt64) (call : DeviceCall) : CallEnd :=
  if address ≠ (call.hook hooks).address then .passed address call
  else
    match call with
    | .getChild child parent flags =>
        compatCmGetChild process.originalCmGetChild child parent flags
    | .queryAndRemoveSubTree ancestor _ => compatCmQueryAndRemoveSubtree ancestor

/-- The process before the library is loaded: no slot holds a hook. -/
structure ServerProcess.Fresh (process : ServerProcess) : Prop where
  originalCmGetChild : process.originalCmGetChild = 0
  unhooked : ∀ hook ∈ hooks.all, ¬process.image.Holds hook.address

/-- What a hook does with a call: the root node and the removal do not get to Wine, and another
call goes on to a function that the server has imported. -/
def ServerProcess.Shields (start : ServerProcess) : DeviceCall → CallEnd → Prop
  | .getChild child parent flags, callEnd =>
      if parent = 0 then callEnd = .returned .noSuchDevnode (if child then some 0 else none)
      else ∃ original, callEnd = .passed original (.getChild child parent flags) ∧
        original ≠ hooks.compatCmGetChild ∧
          ImportsFrom sameLibrary hooks.getChild start.image.imports original
  | .queryAndRemoveSubTree _ _, callEnd => callEnd = .returned .noSuchDevnode none

/-- A slot that was `old` at the start has changed by the rule, and a call through it ends where
it would have ended then, or in a hook. -/
def SlotShielded (start process : ServerProcess) (library : List UInt8) (old new : ImportSlot) :
    Prop :=
  SlotChange sameLibrary hooks.all library old new ∧
    ∀ call : DeviceCall, new.name = .name (call.hook hooks).function →
      sameLibrary library (call.hook hooks).library = true →
        process.call hooks new.address call = .passed old.address call ∨
          new.address = (call.hook hooks).address ∧
            start.Shields sameLibrary hooks call (process.call hooks new.address call)

/-- The slot through which the image imports a function first. -/
def firstImport (hook : ImportHook) (imports : List ImportDescriptor) : Option ImportSlot :=
  imports.findSome? fun descriptor =>
    if sameLibrary descriptor.library hook.library then
      descriptor.slots.find? fun slot => decide (slot.name = .name hook.function)
    else none

/-- The image imports the function through a hook. -/
def FirstHooked (hook : ImportHook) (image : HostModule) : Prop :=
  ∃ slot, firstImport sameLibrary hook image.imports = some slot ∧ slot.address = hook.address

/-- Every slot of the image is shielded, in its place. -/
def ImageShielded (start process : ServerProcess) : Prop :=
  List.Forall₂ (fun old new : ImportDescriptor => new.library = old.library ∧
    List.Forall₂ (SlotShielded sameLibrary hooks start process old.library) old.slots new.slots)
    start.image.imports process.image.imports

variable {sameLibrary} {hooks} {start process : ServerProcess}

theorem getChild_function_ne (hooks : CompatHooks) :
    hooks.getChild.function ≠ hooks.remove.function := by
  show importText "CM_Get_Child" ≠ importText "CM_Query_And_Remove_SubTreeW"
  decide

/-- The hook of a call is the one for its function. -/
theorem hook_eq {hook : ImportHook} (hhook : hook ∈ hooks.all) (call : DeviceCall)
    (hfunction : hook.function = (call.hook hooks).function) : hook = call.hook hooks := by
  have hne := getChild_function_ne hooks
  unfold CompatHooks.all at hhook
  simp only [List.mem_cons, List.not_mem_nil, or_false] at hhook
  cases call with
  | getChild child parent flags =>
    rcases hhook with rfl | rfl
    · rfl
    · exact absurd hfunction.symm hne
  | queryAndRemoveSubTree ancestor flags =>
    rcases hhook with rfl | rfl
    · exact absurd hfunction hne
    · rfl

theorem getChild_mem (hooks : CompatHooks) : hooks.getChild ∈ hooks.all := List.mem_cons_self

theorem remove_mem (hooks : CompatHooks) : hooks.remove ∈ hooks.all :=
  List.mem_cons_of_mem _ List.mem_cons_self

theorem hook_mem (hooks : CompatHooks) (call : DeviceCall) : call.hook hooks ∈ hooks.all := by
  cases call with
  | getChild child parent flags => exact getChild_mem hooks
  | queryAndRemoveSubTree ancestor flags => exact remove_mem hooks

/-! ## The first import -/

variable {hook : ImportHook}

/-- How a walk ends at the first slot of its function. -/
def slotOutcome (hook : ImportHook) (protect : Bool) : Option ImportSlot → PatchOutcome
  | none => .notFound
  | some slot =>
      if slot.address = hook.address then .already
      else if !protect then .refused
      else .patched slot.address

theorem patchSlots_outcome (protect : Bool) (slots : List ImportSlot) :
    (patchSlots hook protect slots).2 = slotOutcome hook protect
      (slots.find? fun slot => decide (slot.name = .name hook.function)) := by
  induction slots with
  | nil => rfl
  | cons slot slots ih =>
    unfold patchSlots
    by_cases hname : slot.name = .name hook.function
    · rw [if_neg (not_not.mpr hname), List.find?_cons_of_pos (by simpa using hname)]
      simp only [slotOutcome]
      split_ifs <;> rfl
    · rw [if_pos hname, List.find?_cons_of_neg (by simpa using hname)]
      exact ih

theorem slotOutcome_some (protect : Bool) (slot : ImportSlot) :
    slotOutcome hook protect (some slot) ≠ .notFound := by
  simp only [slotOutcome]
  split_ifs <;> simp

theorem patchDescriptors_outcome (protect : Bool) (imports : List ImportDescriptor) :
    (patchDescriptors sameLibrary hook protect imports).2 =
      slotOutcome hook protect (firstImport sameLibrary hook imports) := by
  induction imports with
  | nil => rfl
  | cons descriptor imports ih =>
    unfold firstImport at ih ⊢
    rw [patchDescriptors, List.findSome?_cons]
    simp only
    by_cases hlibrary : sameLibrary descriptor.library hook.library = true
    · rw [if_neg (by simp [hlibrary]), if_pos hlibrary, patchSlots_outcome]
      cases descriptor.slots.find? fun slot => decide (slot.name = .name hook.function) with
      | none => exact ih
      | some slot => rw [if_neg (slotOutcome_some protect slot)]
    · rw [if_pos (by simpa using hlibrary), if_neg hlibrary]
      exact ih

/-- The first import of a hooked image leads to the hook. -/
theorem Hooked.firstHooked {image : HostModule} (hhooked : Hooked sameLibrary hook image) :
    FirstHooked sameLibrary hook image := by
  obtain ⟨-, -, halready⟩ := hhooked
  rw [patchDescriptors_outcome] at halready
  cases hfirst : firstImport sameLibrary hook image.imports with
  | none =>
    rw [hfirst] at halready
    cases halready
  | some slot =>
    rw [hfirst] at halready
    refine ⟨slot, hfirst, ?_⟩
    by_contra hne
    simp only [slotOutcome, if_neg hne] at halready
    cases halready

/-- A walk finds its function in an image that imports it, unless a page stays protected. -/
theorem patchImport_found {image : HostModule} {protect : Bool} (hdos : image.dosSignature = true)
    (hnt : image.ntSignature = true) (hprotect : protect = true)
    (himports : (firstImport sameLibrary hook image.imports).isSome = true) (original : UInt64) :
    (patchImport sameLibrary hook protect image original).2.2 = true := by
  obtain ⟨slot, hfirst⟩ := Option.isSome_iff_exists.mp himports
  unfold patchImport
  rw [if_neg (by simp [hdos]), if_neg (by simp [hnt])]
  simp only [patchDescriptors_outcome, hfirst, hprotect, slotOutcome]
  by_cases halready : slot.address = hook.address
  · rw [if_pos halready]
    rfl
  · rw [if_neg halready]
    rfl

/-! ## Every installation -/

/-- What holds of the process after any installations. -/
structure CompatSafe (sameLibrary : List UInt8 → List UInt8 → Bool) (hooks : CompatHooks)
    (start process : ServerProcess) : Prop where
  changed : ImportChange sameLibrary hooks.all start.image process.image
  not_self : process.originalCmGetChild ≠ hooks.compatCmGetChild
  held : process.image.Holds hooks.compatCmGetChild → process.originalCmGetChild ≠ 0
  read : process.originalCmGetChild ≠ 0 →
    ImportsFrom sameLibrary hooks.getChild start.image.imports process.originalCmGetChild

theorem CompatSafe.initial (hfresh : start.Fresh hooks) :
    CompatSafe sameLibrary hooks start start where
  changed := ImportChange.refl start.image
  not_self := by
    rw [hfresh.originalCmGetChild]
    exact hooks.getChild_ne_zero.symm
  held h := absurd h (hfresh.unhooked hooks.getChild List.mem_cons_self)
  read h := absurd hfresh.originalCmGetChild h

/-- The walk for `CM_Get_Child`. -/
theorem CompatSafe.patchGetChild (hsafe : CompatSafe sameLibrary hooks start process)
    (protect : Bool) :
    let walk := patchImport sameLibrary hooks.getChild protect process.image
      process.originalCmGetChild
    CompatSafe sameLibrary hooks start
      { process with image := walk.1, originalCmGetChild := walk.2.1 } := by
  intro walk
  have hchanged := hsafe.changed.trans
    (changes_patchImport (getChild_mem hooks) protect process.image process.originalCmGetChild)
  rcases patchImport_patched sameLibrary hooks.getChild protect process.image
    process.originalCmGetChild with ⟨htables, hkept⟩ | ⟨hne, hread⟩
  · have horiginal : walk.2.1 = process.originalCmGetChild := hkept
    refine ⟨hchanged, ?_, ?_, ?_⟩
    · rw [horiginal]
      exact hsafe.not_self
    · rw [horiginal]
      rintro ⟨descriptor, hdescriptor, hslot⟩
      exact hsafe.held ⟨descriptor, htables ▸ hdescriptor, hslot⟩
    · rw [horiginal]
      exact hsafe.read
  · have hfrom : ImportsFrom sameLibrary hooks.getChild start.image.imports walk.2.1 := by
      refine hsafe.changed.importsFrom hread hne fun other hother hfunction => ?_
      rw [hook_eq hother (.getChild true 0 0) hfunction]
      rfl
    have hnonzero : walk.2.1 ≠ 0 := by
      obtain ⟨_, _, _, slot, _, _, haddress⟩ := hfrom
      rw [← haddress]
      exact slot.bound
    exact ⟨hchanged, hne, fun _ => hnonzero, fun _ => hfrom⟩

/-- The walk for `CM_Query_And_Remove_SubTreeW`. -/
theorem CompatSafe.patchRemove (hsafe : CompatSafe sameLibrary hooks start process)
    (protect : Bool) :
    let walk := patchImport sameLibrary hooks.remove protect process.image
      process.originalCmQueryAndRemoveSubtree
    CompatSafe sameLibrary hooks start
      { process with image := walk.1, originalCmQueryAndRemoveSubtree := walk.2.1 } := by
  intro walk
  refine ⟨hsafe.changed.trans (changes_patchImport (remove_mem hooks) protect _ _),
    hsafe.not_self, ?_, hsafe.read⟩
  intro hholds
  have hchange := @changes_patchImport sameLibrary [hooks.remove] hooks.remove
    List.mem_cons_self protect process.image process.originalCmQueryAndRemoveSubtree
  rcases hchange.holds hholds with hbefore | ⟨found, hfound, haddress⟩
  · exact hsafe.held hbefore
  · rw [List.mem_singleton.mp hfound] at haddress
    exact absurd haddress hooks.getChild_ne_remove

theorem CompatSafe.install (hsafe : CompatSafe sameLibrary hooks start process)
    (protect : CompatProtect) :
    CompatSafe sameLibrary hooks start
      (uuInstallServerCompatHook sameLibrary hooks process protect).1 :=
  (hsafe.patchGetChild protect.getChild).patchRemove protect.remove

theorem compatSafe_run (hfresh : start.Fresh hooks) (installs : List CompatProtect) :
    CompatSafe sameLibrary hooks start
      ((compatInstalls sameLibrary hooks).run start installs) := by
  refine Machine.exec_invariant (fun _ process => CompatSafe sameLibrary hooks start process)
    (P := fun _ _ _ => True) ?_ (CompatSafe.initial hfresh)
    (Machine.along_of_forall (fun _ _ _ => trivial) _ _ _)
  intro _ process protect hsafe _
  exact hsafe.install protect

/-! ## Every call -/

/-- A hook shields Wine. -/
theorem CompatSafe.shields (hsafe : CompatSafe sameLibrary hooks start process)
    (call : DeviceCall) (hholds : process.image.Holds (call.hook hooks).address) :
    start.Shields sameLibrary hooks call
      (process.call hooks (call.hook hooks).address call) := by
  unfold ServerProcess.call
  rw [if_neg (not_not.mpr rfl)]
  cases call with
  | getChild child parent flags =>
    have hnonzero := hsafe.held hholds
    unfold ServerProcess.Shields compatCmGetChild
    by_cases hroot : parent = 0
    · simp only [if_pos hroot]
    · simp only [if_neg hroot, if_pos hnonzero]
      exact ⟨_, rfl, hsafe.not_self, hsafe.read hnonzero⟩
  | queryAndRemoveSubTree ancestor flags =>
    show compatCmQueryAndRemoveSubtree ancestor = .returned .noSuchDevnode none
    unfold compatCmQueryAndRemoveSubtree
    exact ite_self _

/-- A relation between two lists that holds of their elements. -/
theorem forall₂_mem {α β : Type*} {R S : α → β → Prop} {left : List α} {right : List β}
    (h : List.Forall₂ R left right) (himp : ∀ a ∈ left, ∀ b ∈ right, R a b → S a b) :
    List.Forall₂ S left right := by
  induction h with
  | nil => exact .nil
  | cons hhead _ ih =>
    refine .cons (himp _ List.mem_cons_self _ List.mem_cons_self hhead) (ih ?_)
    intro a ha b hb
    exact himp a (List.mem_cons_of_mem _ ha) b (List.mem_cons_of_mem _ hb)

theorem CompatSafe.imageShielded (hfresh : start.Fresh hooks)
    (hsafe : CompatSafe sameLibrary hooks start process) :
    ImageShielded sameLibrary hooks start process := by
  refine forall₂_mem hsafe.changed ?_
  rintro before hbefore after hafter ⟨hlibrary, hslots⟩
  refine ⟨hlibrary, forall₂_mem hslots ?_⟩
  intro old hold new hnew hchange
  refine ⟨hchange, fun call hname hsame => ?_⟩
  have hmem := hook_mem hooks call
  rcases hchange with rfl | ⟨hook, hhook, -, hfunction, rfl⟩
  · -- the slot is as it was, and did not hold a hook
    have hunhooked : new.address ≠ (call.hook hooks).address := by
      intro heq
      exact hfresh.unhooked _ hmem ⟨before, hbefore, new, hold, heq⟩
    left
    unfold ServerProcess.call
    rw [if_pos hunhooked]
  · -- the slot has got the hook of the function that is called
    have hsameHook : hook = call.hook hooks := by
      refine hook_eq hhook call ?_
      have hnames : ImportName.name hook.function = .name (call.hook hooks).function :=
        hfunction.symm.trans hname
      exact ImportName.name.inj hnames
    subst hsameHook
    exact Or.inr ⟨rfl, hsafe.shields call ⟨after, hafter, _, hnew, rfl⟩⟩

theorem exists_call {hook : ImportHook} (hhook : hook ∈ hooks.all) :
    ∃ call : DeviceCall, hook = call.hook hooks := by
  unfold CompatHooks.all at hhook
  simp only [List.mem_cons, List.not_mem_nil, or_false] at hhook
  rcases hhook with rfl | rfl
  · exact ⟨.getChild true 0 0, rfl⟩
  · exact ⟨.queryAndRemoveSubTree 0 0, rfl⟩

/-- A walk of the library leaves the image hooked. -/
theorem Hooked.walk {hook other : ImportHook} (hhook : hook ∈ hooks.all)
    (hother : other ∈ hooks.all) {module : HostModule} (hhooked : Hooked sameLibrary hook module)
    (protect : Bool) (original : UInt64) :
    Hooked sameLibrary hook (patchImport sameLibrary other protect module original).1 := by
  by_cases hfunction : hook.function = other.function
  · obtain ⟨call, rfl⟩ := exists_call hhook
    obtain rfl := hook_eq hother call hfunction.symm
    rw [hhooked.patchImport_eq]
    exact hhooked
  · exact hhooked.patchImport_other hfunction protect original

/-- An installation that returns `TRUE` has hooked both functions. -/
theorem hooked_of_install {protect : CompatProtect}
    (hinstalled : (uuInstallServerCompatHook sameLibrary hooks process protect).2 = true)
    {hook : ImportHook} (hhook : hook ∈ hooks.all) :
    Hooked sameLibrary hook
      (uuInstallServerCompatHook sameLibrary hooks process protect).1.image := by
  obtain ⟨hchild, hremove⟩ := Bool.and_eq_true_iff.mp hinstalled
  obtain ⟨call, rfl⟩ := exists_call hhook
  cases call with
  | getChild child parent flags =>
    exact (hooked_of_patchImport hchild).walk (getChild_mem hooks) (remove_mem hooks) _ _
  | queryAndRemoveSubTree ancestor flags => exact hooked_of_patchImport hremove

theorem hooked_run {hook : ImportHook} (hhook : hook ∈ hooks.all)
    (hhooked : Hooked sameLibrary hook process.image) (installs : List CompatProtect) :
    Hooked sameLibrary hook ((compatInstalls sameLibrary hooks).run process installs).image := by
  refine Machine.exec_invariant
    (fun _ (process : ServerProcess) => Hooked sameLibrary hook process.image)
    (P := fun _ _ _ => True) ?_ hhooked (Machine.along_of_forall (fun _ _ _ => trivial) _ _ _)
  intro _ process protect hprocess _
  exact (hprocess.walk hhook (getChild_mem hooks) _ _).walk hhook (remove_mem hooks) _ _

/-- After any installations, a call through a slot of the image ends where it would have ended
without them, or in a hook, which keeps the root node and the removal from Wine and hands every
other call on to a function that the server imports.  Once an installation has returned `TRUE`,
the first import of each function leads to its hook for good. -/
theorem compat_calls_shielded (hfresh : start.Fresh hooks) (installs : List CompatProtect) :
    let process := (compatInstalls sameLibrary hooks).run start installs
    ImageShielded sameLibrary hooks start process ∧
      ∀ protect later,
        let installed := uuInstallServerCompatHook sameLibrary hooks process protect
        installed.2 = true → ∀ hook ∈ hooks.all,
          FirstHooked sameLibrary hook
            ((compatInstalls sameLibrary hooks).run installed.1 later).image := by
  intro process
  refine ⟨(compatSafe_run hfresh installs).imageShielded hfresh, ?_⟩
  intro protect later installed hinstalled hook hhook
  exact (hooked_run hhook (hooked_of_install hinstalled hhook) later).firstHooked

end Hooks

/-! ## A server -/

theorem secondPage_ne_zero : (8192 : UInt64) ≠ 0 := by decide

/-- A server that imports both functions. -/
def removingServer : ServerProcess where
  image :=
    { dosSignature := true
      ntSignature := true
      sizeOfImage := 0
      imports :=
        [⟨importText "SETUPAPI.dll",
          [⟨.name (importText "CM_Get_Child"), 4096, pageAddress_ne_zero⟩,
           ⟨.name (importText "CM_Query_And_Remove_SubTreeW"), 8192, secondPage_ne_zero⟩]⟩]
      sendCode := [] }

/-- `lstrcmpiA` for letters. -/
def sameLetters (first second : List UInt8) : Bool :=
  let lower (c : UInt8) : UInt8 := if 65 ≤ c ∧ c ≤ 90 then c + 32 else c
  first.map lower == second.map lower

theorem lowGetChild_ne_zero : (1 : UInt64) ≠ 0 := by decide

theorem lowRemove_ne_zero : (2 : UInt64) ≠ 0 := by decide

theorem lowGetChild_ne_remove : (1 : UInt64) ≠ 2 := by decide

/-- Hooks that are on neither page. -/
def lowCompatHooks : CompatHooks :=
  ⟨1, 2, lowGetChild_ne_zero, lowRemove_ne_zero, lowGetChild_ne_remove⟩

theorem removingServer_fresh : removingServer.Fresh lowCompatHooks where
  originalCmGetChild := rfl
  unhooked := by
    intro hook hhook
    unfold CompatHooks.all at hhook
    simp only [List.mem_cons, List.not_mem_nil, or_false] at hhook
    unfold HostModule.Holds
    rcases hhook with rfl | rfl
    · decide
    · decide

/-- Behind one installation, the root node and a removal end in the hooks, and another node goes
on to the first page. -/
theorem removingServer_shielded :
    let installed := uuInstallServerCompatHook sameLetters lowCompatHooks removingServer {}
    ImageShielded sameLetters lowCompatHooks removingServer installed.1 ∧
      FirstHooked sameLetters lowCompatHooks.getChild installed.1.image ∧
      installed.1.call lowCompatHooks 1 (.getChild true 0 0) = .returned .noSuchDevnode (some 0) ∧
      installed.1.call lowCompatHooks 1 (.getChild true 7 0) =
        .passed 4096 (.getChild true 7 0) := by
  intro installed
  have hrun := @compat_calls_shielded sameLetters lowCompatHooks removingServer
    removingServer_fresh [{}]
  have hinstall := (@compat_calls_shielded sameLetters lowCompatHooks removingServer
    removingServer_fresh []).2 {} [] rfl
  refine ⟨?_, ?_, rfl, rfl⟩
  · exact hrun.1
  · exact hinstall lowCompatHooks.getChild (getChild_mem lowCompatHooks)

end UuAmfBridge
