import UuAmfBridge.Bridge.Component
import UuAmfBridge.Lib.KeyedList
import UuAmfBridge.Lib.Machine

/-!
# The property stores of the bridge

Each AMF object of `src/amfrt_bridge.c` has a `BridgePropertyStore`: an array of
64 entries that is searched from the front.  `DEFINE_PROPERTY_METHODS` gives the
object the six calls that reach it.

`AMFVariantCopy` is the inline function of `core/Variant.h`.  It looks at the
type of the source first, and a string is duplicated, so a copy can be refused
or can fail for lack of memory.  `PropertyEnv` says which allocations of a call
succeed.

`property_store_ordered_map` is about every run of calls with values that can be
copied: the store is the ordered map of its updates since the last `Clear`.
`failed_set_keeps_store_iff` is about a `SetProperty` that fails: `property_set`
clears the old value, or appends the entry, before the copy that can fail.
-/

namespace UuAmfBridge

open KeyedList

/-! ## Variants -/

/-- The values of `AMF_VARIANT_TYPE` that are copied as they stand, other than
`AMF_VARIANT_INT64` and `AMF_VARIANT_RATE`. -/
def plainVariantTypes : List UInt32 := [1, 3, 4, 5, 6, 8, 9, 13, 14, 15, 16, 17]

/-- `AMFVariantClear`: what the variant holds afterwards. -/
def amfVariantClear (_ : AMFVariant) : AMFVariant := .empty

/-- `AMFVariantCopy`: the result, and what `dest` holds afterwards.  `allocated`
says whether a string can be duplicated. -/
def amfVariantCopy (allocated : Bool) (dest source : AMFVariant) : AMFResult × AMFVariant :=
  match source with
  | .string none => (.invalidPointer, dest)
  | .wstring none => (.invalidPointer, dest)
  | .string (some text) =>
      -- The type is set before the allocation, and the null pointer stays.
      if allocated then (.ok, .string (some text)) else (.outOfMemory, .string none)
  | .wstring (some text) =>
      if allocated then (.ok, .wstring (some text)) else (.outOfMemory, .wstring none)
  | .other type bytes =>
      if type ∈ plainVariantTypes then (.ok, .other type bytes) else (.invalidArg, dest)
  | source => (.ok, source)

/-- The variant has a type that `AMFVariantCopy` knows, and is no null string. -/
def AMFVariant.Valid : AMFVariant → Prop
  | .string text => text.isSome
  | .wstring text => text.isSome
  | .other type _ => type ∈ plainVariantTypes
  | _ => True

instance : DecidablePred AMFVariant.Valid := fun value => by
  unfold AMFVariant.Valid
  split <;> infer_instance

/-- The variant is a string, which a copy duplicates. -/
def AMFVariant.isString : AMFVariant → Bool
  | .string _ => true
  | .wstring _ => true
  | _ => false

/-- What a copy that fails leaves in a variant that was empty: nothing where the
source is refused, a null string where it cannot be duplicated. -/
def AMFVariant.remnant : AMFVariant → AMFVariant
  | .string (some _) => .string none
  | .wstring (some _) => .wstring none
  | _ => .empty

/-- A valid variant is copied whole when memory lasts. -/
theorem amfVariantCopy_of_valid {value : AMFVariant} (h : value.Valid) (dest : AMFVariant) :
    amfVariantCopy true dest value = (.ok, value) := by
  cases value with
  | string text => cases text with
    | none => cases h
    | some text => rfl
  | wstring text => cases text with
    | none => cases h
    | some text => rfl
  | other type bytes =>
    show (if type ∈ plainVariantTypes then _ else _) = _
    exact if_pos h
  | _ => rfl

/-- A copy succeeds exactly for a valid variant that needs no memory or finds
it. -/
theorem amfVariantCopy_ok_iff (allocated : Bool) (dest value : AMFVariant) :
    (amfVariantCopy allocated dest value).1 = .ok ↔
      value.Valid ∧ (value.isString = true → allocated = true) := by
  cases value with
  | string text => cases text <;> cases allocated <;>
      simp [amfVariantCopy, AMFVariant.Valid, AMFVariant.isString]
  | wstring text => cases text <;> cases allocated <;>
      simp [amfVariantCopy, AMFVariant.Valid, AMFVariant.isString]
  | other type bytes =>
    simp only [amfVariantCopy, AMFVariant.Valid, AMFVariant.isString]
    split <;> simp [*]
  | _ => simp [amfVariantCopy, AMFVariant.Valid, AMFVariant.isString]

/-- A copy that fails leaves the remnant of its source. -/
theorem amfVariantCopy_of_failed {allocated : Bool} {value : AMFVariant}
    (h : (amfVariantCopy allocated .empty value).1 ≠ .ok) :
    (amfVariantCopy allocated .empty value).2 = value.remnant := by
  cases value with
  | string text => cases text with
    | none => rfl
    | some text => cases allocated with
      | false => rfl
      | true => exact absurd rfl h
  | wstring text => cases text with
    | none => rfl
    | some text => cases allocated with
      | false => rfl
      | true => exact absurd rfl h
  | other type bytes =>
    simp only [amfVariantCopy] at h ⊢
    split
    · rename_i hknown
      rw [if_pos hknown] at h
      exact absurd rfl h
    · rfl
  | _ => exact absurd rfl h

/-! ## The calls -/

/-- `BRIDGE_MAX_PROPERTIES`. -/
def bridgeMaxProperties : Nat := 64

/-- Which allocations of a call succeed. -/
structure PropertyEnv where
  nameAllocated : Bool := true
  valueAllocated : Bool := true
  deriving Repr, DecidableEq

/-- A write of a value through the pointer that `property_find` returns. -/
def propertyWrite (store : BridgePropertyStore) (name : WCharString) (value : AMFVariant) :
    BridgePropertyStore :=
  modifyKey BridgeProperty.name name (fun entry => { entry with value }) store

/-- `property_set`. -/
def propertySet (env : PropertyEnv) (store : BridgePropertyStore) (name : Option WCharString)
    (value : AMFVariant) : AMFResult × BridgePropertyStore :=
  match name with
  | none => (.invalidArg, store)
  | some name =>
    match propertyFind store name with
    | none =>
        if store.length = bridgeMaxProperties then (.outOfMemory, store)
        else if env.nameAllocated = false then (.outOfMemory, store)
        else
          let copy := amfVariantCopy env.valueAllocated .empty value
          (copy.1, store ++ [⟨name, copy.2⟩])
    | some entry =>
        let copy := amfVariantCopy env.valueAllocated (amfVariantClear entry.value) value
        (copy.1, propertyWrite store name copy.2)

/-- `property_get`: the result, and what `*value` holds afterwards unless it is
left alone.  `wanted` says that `value` is not null. -/
def propertyGet (env : PropertyEnv) (store : BridgePropertyStore) (name : Option WCharString)
    (wanted : Bool) : AMFResult × Option AMFVariant :=
  match name with
  | none => (.invalidArg, none)
  | some name =>
    if wanted = false then (.invalidArg, none)
    else
      match propertyFind store name with
      | none => (.notFound, some .empty)
      | some entry =>
          let copy := amfVariantCopy env.valueAllocated .empty entry.value
          (copy.1, some copy.2)

/-- `prefix##_has`. -/
def propertyHas (store : BridgePropertyStore) (name : Option WCharString) : Bool :=
  match name with
  | none => false
  | some name => (propertyFind store name).isSome

/-- `prefix##_count`. -/
def propertyCount (store : BridgePropertyStore) : Nat := store.length

/-- What `wcsncpy` and the terminator leave in a buffer for `size` wide
characters. -/
def truncatedName (name : WCharString) (size : Nat) : WCharString := name.take (size - 1)

/-- `prefix##_at`: the result, and what the name buffer and `*value` hold
afterwards unless they are left alone.  `nameSize` is the size of the buffer
unless `name` is null. -/
def propertyAt (env : PropertyEnv) (store : BridgePropertyStore) (index : Nat)
    (nameSize : Option Nat) (wanted : Bool) : AMFResult × Option WCharString × Option AMFVariant :=
  match store[index]? with
  | none => (.outOfRange, none, none)
  | some entry =>
    if wanted = false then (.outOfRange, none, none)
    else
      let copied := (nameSize.filter (· ≠ 0)).map (truncatedName entry.name)
      let copy := amfVariantCopy env.valueAllocated .empty entry.value
      (copy.1, copied, some copy.2)

/-- `property_store_clear`. -/
def propertyStoreClear (_ : BridgePropertyStore) : BridgePropertyStore := []

/-! ## What a call does to the store -/

section Specs

variable {store : BridgePropertyStore} {name : WCharString} {value : AMFVariant}

theorem propertyFind_eq (store : BridgePropertyStore) (name : WCharString) :
    propertyFind store name = findKey BridgeProperty.name name store := rfl

/-- A name that is present gets the new value, whatever the size of the store. -/
theorem propertySet_of_found (hfound : (propertyFind store name).isSome) (hvalid : value.Valid) :
    propertySet {} store (some name) value = (.ok, propertyWrite store name value) := by
  obtain ⟨entry, hentry⟩ := Option.isSome_iff_exists.mp hfound
  simp only [propertySet, hentry, amfVariantCopy_of_valid hvalid]

/-- A new name is appended while there is room. -/
theorem propertySet_of_room (hnew : propertyFind store name = none)
    (hroom : store.length ≠ bridgeMaxProperties) (hvalid : value.Valid) :
    propertySet {} store (some name) value = (.ok, store ++ [⟨name, value⟩]) := by
  simp only [propertySet, hnew, if_neg hroom, amfVariantCopy_of_valid hvalid]
  rfl

/-- A new name is refused by a full store. -/
theorem propertySet_of_full (hnew : propertyFind store name = none)
    (hfull : store.length = bridgeMaxProperties) (env : PropertyEnv) (value : AMFVariant) :
    propertySet env store (some name) value = (.outOfMemory, store) := by
  simp only [propertySet, hnew, if_pos hfull]

theorem propertyWrite_length (store : BridgePropertyStore) (name : WCharString)
    (value : AMFVariant) :
    (propertyWrite store name value).length = store.length := by
  have hkeys : (propertyWrite store name value).map BridgeProperty.name =
      store.map BridgeProperty.name := by
    apply keys_modifyKey
    intro entry h
    exact h
  simpa using congrArg List.length hkeys

/-- Every entry after a write is an old one, or holds the value written. -/
theorem mem_propertyWrite {entry : BridgeProperty} (h : entry ∈ propertyWrite store name value) :
    entry ∈ store ∨ entry.value = value := by
  induction store with
  | nil => exact Or.inl h
  | cons first rest ih =>
    unfold propertyWrite modifyKey at h
    split at h
    · cases List.mem_cons.mp h with
      | inl heq =>
        right
        rw [heq]
      | inr hrest => exact Or.inl (List.mem_cons_of_mem _ hrest)
    · cases List.mem_cons.mp h with
      | inl heq => exact Or.inl (heq ▸ List.mem_cons_self)
      | inr hrest => exact (ih hrest).imp_left (List.mem_cons_of_mem _)

end Specs

/-! ## Runs -/

/-- One call of the property interface. -/
inductive PropertyCall where
  | set (name : Option WCharString) (value : AMFVariant)
  | get (name : Option WCharString) (wanted : Bool)
  | has (name : Option WCharString)
  | count
  | getAt (index : Nat) (nameSize : Option Nat) (wanted : Bool)
  | clear
  deriving Repr, DecidableEq

/-- What a call returns, with what it has stored through its pointers. -/
inductive PropertyReply where
  | status (result : AMFResult)
  | value (result : AMFResult) (value : Option AMFVariant)
  | found (present : Bool)
  | size (count : Nat)
  | entry (result : AMFResult) (name : Option WCharString) (value : Option AMFVariant)
  deriving Repr, DecidableEq

/-- A call and what it has returned. -/
structure PropertyRecord where
  call : PropertyCall
  reply : PropertyReply
  deriving Repr, DecidableEq

/-- The functions of `DEFINE_PROPERTY_METHODS`. -/
def propertyStep (env : PropertyEnv) (store : BridgePropertyStore) :
    PropertyCall → BridgePropertyStore × PropertyReply
  | .set name value =>
      let outcome := propertySet env store name value
      (outcome.2, .status outcome.1)
  | .get name wanted =>
      let outcome := propertyGet env store name wanted
      (store, .value outcome.1 outcome.2)
  | .has name => (store, .found (propertyHas store name))
  | .count => (store, .size (propertyCount store))
  | .getAt index nameSize wanted =>
      let outcome := propertyAt env store index nameSize wanted
      (store, .entry outcome.1 outcome.2.1 outcome.2.2)
  | .clear => (propertyStoreClear store, .status .ok)

/-- A store whose calls find all the memory they ask for. -/
def propertyMachine : Machine BridgePropertyStore PropertyCall PropertyRecord where
  step store call :=
    let next := propertyStep {} store call
    (next.1, ⟨call, next.2⟩)

/-- The value of the call, if it has one, is one that `AMFVariantCopy` accepts. -/
def PropertyCall.Valid : PropertyCall → Prop
  | .set _ value => value.Valid
  | _ => True

/-- The updates since the last `Clear` after one more call. -/
def updateSets (sets : List BridgeProperty) (record : PropertyRecord) : List BridgeProperty :=
  match record.call, record.reply with
  | .set (some name) value, .status .ok => sets ++ [⟨name, value⟩]
  | .clear, _ => []
  | _, _ => sets

/-- The names and values that `SetProperty` has accepted since the last `Clear`,
oldest first. -/
def setsSinceClear (log : List PropertyRecord) : List BridgeProperty :=
  log.foldl updateSets []

theorem setsSinceClear_append (log : List PropertyRecord) (record : PropertyRecord) :
    setsSinceClear (log ++ [record]) = updateSets (setsSinceClear log) record := by
  unfold setsSinceClear
  rw [List.foldl_append]
  rfl

/-- The store holds its updates since the last `Clear`, within its array, and
every value can be copied. -/
structure PropertyInvariant (log : List PropertyRecord) (store : BridgePropertyStore) :
    Prop where
  represents : Represents BridgeProperty.name (setsSinceClear log) store
  bounded : store.length ≤ bridgeMaxProperties
  valid : ∀ entry ∈ store, entry.value.Valid

/-- A call that leaves the store and its updates alone keeps the invariant. -/
theorem PropertyInvariant.same {log : List PropertyRecord} {store : BridgePropertyStore}
    (h : PropertyInvariant log store) {record : PropertyRecord}
    (hsets : updateSets (setsSinceClear log) record = setsSinceClear log) :
    PropertyInvariant (log ++ [record]) store := by
  constructor
  · rw [setsSinceClear_append, hsets]
    exact h.represents
  · exact h.bounded
  · exact h.valid

/-- A valid `SetProperty` keeps the invariant. -/
theorem PropertyInvariant.set {log : List PropertyRecord} {store : BridgePropertyStore}
    (h : PropertyInvariant log store) (name : Option WCharString) {value : AMFVariant}
    (hvalid : value.Valid) :
    PropertyInvariant
      (log ++ [⟨.set name value, .status (propertySet {} store name value).1⟩])
      (propertySet {} store name value).2 := by
  cases name with
  | none => exact h.same rfl
  | some name =>
    cases hfind : propertyFind store name with
    | some entry =>
      rw [propertySet_of_found (by rw [hfind]; rfl) hvalid]
      constructor
      · rw [setsSinceClear_append]
        exact h.represents.replace ⟨name, value⟩
          (by rw [← propertyFind_eq, hfind]; rfl) fun old hold => by
            cases old
            cases hold
            rfl
      · rw [propertyWrite_length]
        exact h.bounded
      · intro entry hmem
        cases mem_propertyWrite hmem with
        | inl hold => exact h.valid entry hold
        | inr heq => exact heq ▸ hvalid
    | none =>
      by_cases hfull : store.length = bridgeMaxProperties
      · rw [propertySet_of_full hfind hfull]
        exact h.same rfl
      · rw [propertySet_of_room hfind hfull hvalid]
        have hbounded := h.bounded
        constructor
        · rw [setsSinceClear_append]
          exact h.represents.append ⟨name, value⟩ hfind
        · rw [List.length_append, List.length_singleton]
          omega
        · intro entry hmem
          cases List.mem_append.mp hmem with
          | inl hold => exact h.valid entry hold
          | inr hnew => rw [List.mem_singleton.mp hnew]; exact hvalid

/-- Every call with a valid value keeps the invariant. -/
theorem propertyInvariant_step (log : List PropertyRecord) (store : BridgePropertyStore)
    (call : PropertyCall) (h : PropertyInvariant log store) (hvalid : call.Valid) :
    PropertyInvariant (log ++ [(propertyMachine.step store call).2])
      (propertyMachine.step store call).1 := by
  cases call with
  | set name value => exact h.set name hvalid
  | clear =>
    constructor
    · rw [setsSinceClear_append]
      exact Represents.nil _
    · exact Nat.zero_le _
    · intro entry hmem
      cases hmem
  | _ => exact h.same rfl

/-! ## The store as a map -/

/-- What `wcsncpy` leaves in a buffer that is large enough is the name. -/
theorem truncatedName_of_room {name : WCharString} {size : Nat} (h : name.length < size) :
    truncatedName name size = name := by
  exact List.take_of_length_le (by omega)

/-- The calls answer as the ordered map of `sets`: a list of accepted updates,
oldest first. -/
structure AnswersAsMap (sets : List BridgeProperty) (store : BridgePropertyStore) : Prop where
  distinct : (store.map BridgeProperty.name).Nodup
  bounded : store.length ≤ 64
  get : ∀ name, propertyGet {} store (some name) true =
    match latest BridgeProperty.name name sets with
    | none => (.notFound, some .empty)
    | some last => (.ok, some last.value)
  has : ∀ name, propertyHas store (some name) = (latest BridgeProperty.name name sets).isSome
  count : propertyCount store = (firstKeys BridgeProperty.name sets).length
  /-- The entries are the names in the order of their first update, each with
  the value that `GetProperty` returns for it. -/
  listed : ∀ index, index < propertyCount store → ∃ name value,
    (firstKeys BridgeProperty.name sets)[index]? = some name ∧
    propertyGet {} store (some name) true = (.ok, some value) ∧
    ∀ size, name.length < size →
      propertyAt {} store index (some size) true = (.ok, some name, some value)
  outside : ∀ index nameSize, propertyCount store ≤ index →
    propertyAt {} store index nameSize true = (.outOfRange, none, none)
  overwritten : ∀ name value, value.Valid → propertyHas store (some name) = true →
    (propertySet {} store (some name) value).1 = .ok
  inserted : ∀ name value, value.Valid → propertyCount store < 64 →
    (propertySet {} store (some name) value).1 = .ok
  refused : ∀ name value, propertyHas store (some name) = false → propertyCount store = 64 →
    propertySet {} store (some name) value = (.outOfMemory, store)

namespace PropertyInvariant

variable {log : List PropertyRecord} {store : BridgePropertyStore}

/-- `GetProperty` of a name that is present copies its value. -/
theorem get_of_found (h : PropertyInvariant log store) {name : WCharString} {entry : BridgeProperty}
    (hfind : propertyFind store name = some entry) :
    propertyGet {} store (some name) true = (.ok, some entry.value) := by
  have hvalid := h.valid entry (List.mem_of_find?_eq_some hfind)
  show (match propertyFind store name with | none => _ | some entry => _) = _
  rw [hfind]
  show (_, some (amfVariantCopy true .empty entry.value).2) = _
  rw [amfVariantCopy_of_valid hvalid]

theorem get (h : PropertyInvariant log store) (name : WCharString) :
    propertyGet {} store (some name) true =
      match latest BridgeProperty.name name (setsSinceClear log) with
      | none => (.notFound, some .empty)
      | some last => (.ok, some last.value) := by
  rw [← h.represents.find, ← propertyFind_eq]
  cases hfind : propertyFind store name with
  | none => simp only [propertyGet, hfind]; rfl
  | some entry => exact h.get_of_found hfind

/-- `GetPropertyAt` copies the entry at its index. -/
theorem getAt_of_entry (h : PropertyInvariant log store) {index : Nat} {entry : BridgeProperty}
    (hentry : store[index]? = some entry) {size : Nat} (hsize : entry.name.length < size) :
    propertyAt {} store index (some size) true = (.ok, some entry.name, some entry.value) := by
  have hvalid := h.valid entry (List.mem_of_getElem? hentry)
  have hname : ((some size).filter (· ≠ 0)).map (truncatedName entry.name) = some entry.name := by
    rw [Option.filter_some_pos (by simp; omega), Option.map_some, truncatedName_of_room hsize]
  simp only [propertyAt, hentry, hname, amfVariantCopy_of_valid hvalid]
  rfl

theorem listed (h : PropertyInvariant log store) {index : Nat} (hindex : index < store.length) :
    ∃ name value, (firstKeys BridgeProperty.name (setsSinceClear log))[index]? = some name ∧
      propertyGet {} store (some name) true = (.ok, some value) ∧
      ∀ size, name.length < size →
        propertyAt {} store index (some size) true = (.ok, some name, some value) := by
  have hentry : store[index]? = some store[index] := List.getElem?_eq_getElem hindex
  refine ⟨store[index].name, store[index].value, ?_, ?_, ?_⟩
  · rw [← h.represents.keys, List.getElem?_map, hentry]
    rfl
  · apply h.get_of_found
    exact findKey_of_mem h.represents.nodup (List.getElem_mem hindex)
  · intro size hsize
    exact h.getAt_of_entry hentry hsize

theorem answersAsMap (h : PropertyInvariant log store) :
    AnswersAsMap (setsSinceClear log) store where
  distinct := h.represents.nodup
  bounded := h.bounded
  get := h.get
  has name := by
    rw [← h.represents.find]
    rfl
  count := by
    rw [← h.represents.keys, List.length_map]
    rfl
  listed index hindex := h.listed hindex
  outside index nameSize hindex := by
    have hnone : store[index]? = none := List.getElem?_eq_none hindex
    simp only [propertyAt, hnone]
  overwritten name value hvalid hhas := by
    rw [propertySet_of_found hhas hvalid]
  inserted name value hvalid hcount := by
    cases hfind : propertyFind store name with
    | some entry => rw [propertySet_of_found (by rw [hfind]; rfl) hvalid]
    | none => rw [propertySet_of_room hfind (Nat.ne_of_lt hcount) hvalid]
  refused name value hhas hcount := by
    have hnew : propertyFind store name = none := Option.isNone_iff_eq_none.mp (by
      rw [← Option.not_isSome]
      exact congrArg not hhas)
    exact propertySet_of_full hnew hcount {} value

end PropertyInvariant

/-- After every run of calls with values that can be copied, from the empty
store, the store is the ordered map of its updates since the last `Clear`. -/
theorem property_store_ordered_map (calls : List PropertyCall)
    (hvalid : ∀ call ∈ calls, call.Valid) :
    AnswersAsMap (setsSinceClear (propertyMachine.exec [] [] calls).1)
      (propertyMachine.exec [] [] calls).2 := by
  have hstart : PropertyInvariant [] [] := by
    constructor
    · exact Represents.nil _
    · exact Nat.zero_le _
    · intro entry hmem
      cases hmem
  have hrun := propertyMachine.exec_invariant PropertyInvariant
    (P := fun _ _ call => call.Valid) propertyInvariant_step hstart
    (propertyMachine.along_of_forall_mem [] [] hvalid)
  exact hrun.answersAsMap

theorem overwritten_store_ordered_map :
    AnswersAsMap
      (setsSinceClear (propertyMachine.exec [] []
        [.set (some (wideString "FrameRate")) (.rate 30 1),
          .set (some (wideString "Usage")) (.int64 1),
          .set (some (wideString "FrameRate")) (.rate 60 1),
          .get (some (wideString "FrameRate")) true]).1)
      (propertyMachine.exec [] []
        [.set (some (wideString "FrameRate")) (.rate 30 1),
          .set (some (wideString "Usage")) (.int64 1),
          .set (some (wideString "FrameRate")) (.rate 60 1),
          .get (some (wideString "FrameRate")) true]).2 :=
  property_store_ordered_map _ (by
    intro call hmem
    simp only [List.mem_cons, List.not_mem_nil, or_false] at hmem
    obtain rfl | rfl | rfl | rfl := hmem <;> trivial)

/-! ## A call that fails -/

/-- The value of the call can be copied, as far as its type and the memory go. -/
def CopySucceeds (env : PropertyEnv) (value : AMFVariant) : Prop :=
  value.Valid ∧ (value.isString = true → env.valueAllocated = true)

/-- A call that is refused before it touches an entry: there is no name, or the
name is new and its entry cannot be made. -/
def RefusedEarly (env : PropertyEnv) (store : BridgePropertyStore) : Option WCharString → Prop
  | none => True
  | some name => propertyFind store name = none ∧
      (store.length = bridgeMaxProperties ∨ env.nameAllocated = false)

theorem refusedEarly_some (env : PropertyEnv) (store : BridgePropertyStore) (name : WCharString) :
    RefusedEarly env store (some name) ↔ propertyFind store name = none ∧
      (store.length = bridgeMaxProperties ∨ env.nameAllocated = false) := Iff.rfl

/-- The name is present, and holds already what a copy of the value leaves when
it fails. -/
def HoldsRemnant (store : BridgePropertyStore) (name : Option WCharString) (value : AMFVariant) :
    Prop :=
  ∃ entry, name.bind (propertyFind store) = some entry ∧ entry.value = value.remnant

/-- A write leaves the store as it is exactly when the entry has that value. -/
theorem propertyWrite_eq_self_iff {store : BridgePropertyStore} {name : WCharString}
    {entry : BridgeProperty} (hfind : propertyFind store name = some entry)
    (value : AMFVariant) : propertyWrite store name value = store ↔ entry.value = value := by
  unfold propertyWrite
  rw [modifyKey_eq_self_iff, ← propertyFind_eq, hfind]
  constructor
  · intro h
    have hsame := h entry rfl
    rw [← hsame]
  · rintro rfl found hfound
    cases hfound
    rfl

/-- What a `SetProperty` does: it is refused early, or it writes the copy into a
new entry or into the one that `property_find` has found. -/
theorem propertySet_cases (env : PropertyEnv) (store : BridgePropertyStore)
    (name : Option WCharString) (value : AMFVariant) :
    (RefusedEarly env store name ∧ (propertySet env store name value).1 ≠ .ok ∧
      (propertySet env store name value).2 = store) ∨
    (¬RefusedEarly env store name ∧ name.bind (propertyFind store) = none ∧ ∃ added,
      propertySet env store name value =
        ((amfVariantCopy env.valueAllocated .empty value).1,
          store ++ [⟨added, (amfVariantCopy env.valueAllocated .empty value).2⟩])) ∨
    (¬RefusedEarly env store name ∧ ∃ present entry,
      name.bind (propertyFind store) = some entry ∧ propertyFind store present = some entry ∧
      propertySet env store name value =
        ((amfVariantCopy env.valueAllocated .empty value).1,
          propertyWrite store present (amfVariantCopy env.valueAllocated .empty value).2)) := by
  cases name with
  | none =>
    left
    refine ⟨trivial, ?_, rfl⟩
    show AMFResult.invalidArg ≠ .ok
    decide
  | some name =>
    rw [Option.bind_some, refusedEarly_some]
    cases hfind : propertyFind store name with
    | some entry =>
      right
      right
      refine ⟨by simp, name, entry, rfl, hfind, ?_⟩
      simp only [propertySet, hfind, amfVariantClear]
    | none =>
      by_cases hroom : store.length = bridgeMaxProperties
      · left
        rw [propertySet_of_full hfind hroom]
        exact ⟨⟨rfl, Or.inl hroom⟩, AMFResult.noConfusion, rfl⟩
      · by_cases hname : env.nameAllocated = false
        · left
          simp [propertySet, hfind, hroom, hname]
        · right
          left
          refine ⟨by simp [hroom, hname], rfl, name, ?_⟩
          simp only [propertySet, hfind, if_neg hroom, if_neg hname]

/-- A failed `SetProperty` leaves the store as it was exactly when the value can
be copied, so that the call does not fail there, or the call is refused early,
or the entry holds already what the failed copy leaves. -/
theorem failed_set_keeps_store_iff (env : PropertyEnv) (store : BridgePropertyStore)
    (name : Option WCharString) (value : AMFVariant) :
    ((propertySet env store name value).1 ≠ .ok →
        (propertySet env store name value).2 = store) ↔
      CopySucceeds env value ∨ RefusedEarly env store name ∨ HoldsRemnant store name value := by
  have hcopy := amfVariantCopy_ok_iff env.valueAllocated .empty value
  obtain ⟨hearly, hfails, hsame⟩ | ⟨hlate, hnew, added, hset⟩ |
    ⟨hlate, present, entry, hbind, hfind, hset⟩ := propertySet_cases env store name value
  · exact iff_of_true (fun _ => hsame) (Or.inr (Or.inl hearly))
  · -- The entry has been appended before the copy.
    have hholds : ¬HoldsRemnant store name value := by
      rintro ⟨entry, hentry, -⟩
      rw [hnew] at hentry
      cases hentry
    rw [hset, or_iff_right hlate, or_iff_left hholds]
    show ((amfVariantCopy env.valueAllocated .empty value).1 ≠ .ok → store ++ [_] = store) ↔ _
    rw [ne_eq, hcopy, List.append_right_eq_self]
    show (¬CopySucceeds env value → _) ↔ _
    simp
  · -- The old value has been cleared before the copy.
    have hholds : HoldsRemnant store name value ↔ entry.value = value.remnant := by
      unfold HoldsRemnant
      rw [hbind]
      simp
    rw [hset, or_iff_right hlate, hholds]
    show ((amfVariantCopy env.valueAllocated .empty value).1 ≠ .ok →
      propertyWrite store present _ = store) ↔ _
    rw [propertyWrite_eq_self_iff hfind]
    constructor
    · intro h
      by_cases hok : CopySucceeds env value
      · exact Or.inl hok
      · have hfailed : (amfVariantCopy env.valueAllocated .empty value).1 ≠ .ok :=
          fun heq => hok (hcopy.mp heq)
        rw [h hfailed, amfVariantCopy_of_failed hfailed]
        exact Or.inr rfl
    · intro h hfailed
      rw [amfVariantCopy_of_failed hfailed]
      cases h with
      | inl hok => exact absurd (hcopy.mpr hok) hfailed
      | inr hremnant => exact hremnant

/-- An overwrite with a value of an unknown type fails, and the old value is
gone. -/
theorem failed_set_clears_value :
    ¬((propertySet {} [⟨videoEncoderFramerate, .rate 60 1⟩] (some videoEncoderFramerate)
          (.other 99 [])).1 ≠ .ok →
      (propertySet {} [⟨videoEncoderFramerate, .rate 60 1⟩] (some videoEncoderFramerate)
          (.other 99 [])).2 =
        [⟨videoEncoderFramerate, .rate 60 1⟩]) := by
  decide

end UuAmfBridge
