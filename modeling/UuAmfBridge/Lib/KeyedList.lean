import Mathlib.Data.List.Nodup

/-!
# Lists of keyed entries, and the log of their updates

A list of entries, each with a key, is a map when it is searched from the front:
`findKey` is the first entry of a key.  An update either replaces that entry in
place (`modifyKey`) or appends a new one.

`Represents` relates such a list to the log of the updates that made it.  The
keys of the list are the keys of the log in the order of their first update, and
the entry of a key is the last update of it.  Replacing and appending keep the
relation, so it holds of every list that updates have made from the empty one.
-/

namespace UuAmfBridge

namespace KeyedList

variable {ε κ : Type*} [BEq κ] (key : ε → κ)

/-- The first entry of a key. -/
def findKey (k : κ) (entries : List ε) : Option ε := entries.find? fun entry => key entry == k

/-- The entries with the first one of a key replaced. -/
def modifyKey (k : κ) (f : ε → ε) : List ε → List ε
  | [] => []
  | entry :: entries =>
      if key entry == k then f entry :: entries else entry :: modifyKey k f entries

@[simp] theorem findKey_nil (k : κ) : findKey key k [] = none := rfl

theorem findKey_cons (k : κ) (entry : ε) (entries : List ε) :
    findKey key k (entry :: entries) =
      if key entry == k then some entry else findKey key k entries := by
  unfold findKey
  rw [List.find?_cons]
  cases key entry == k <;> rfl

theorem findKey_append (k : κ) (front back : List ε) :
    findKey key k (front ++ back) = (findKey key k front).or (findKey key k back) := by
  exact List.find?_append

/-- The last update of a key in a log, oldest update first. -/
def latest (k : κ) (log : List ε) : Option ε := findKey key k log.reverse

/-- The keys of a log, each where it was updated first. -/
def firstKeys (log : List ε) : List κ := (log.map key).eraseDups

theorem latest_append (k : κ) (log : List ε) (entry : ε) :
    latest key k (log ++ [entry]) = if key entry == k then some entry else latest key k log := by
  unfold latest
  rw [List.reverse_append, List.reverse_singleton, List.singleton_append, findKey_cons]

/-- A replacement leaves the list as it is exactly when it leaves the entry that
is found as it is. -/
theorem modifyKey_eq_self_iff (k : κ) (f : ε → ε) (entries : List ε) :
    modifyKey key k f entries = entries ↔
      ∀ entry, findKey key k entries = some entry → f entry = entry := by
  induction entries with
  | nil => simp [modifyKey]
  | cons entry entries ih =>
    unfold modifyKey
    rw [findKey_cons]
    split
    · simp only [List.cons.injEq, and_true, Option.some.injEq]
      constructor
      · intro heq found hfound
        rw [← hfound]
        exact heq
      · intro h
        exact h entry rfl
    · rw [List.cons.injEq, ih]
      exact and_iff_right rfl

section Lawful

variable {key} [LawfulBEq κ]

/-- An entry that is found has the key that was looked for. -/
theorem key_of_findKey {k : κ} {entries : List ε} {entry : ε}
    (h : findKey key k entries = some entry) : key entry = k := by
  unfold findKey at h
  have hbeq := List.find?_some h
  exact eq_of_beq hbeq

/-- A key is found exactly when some entry has it. -/
theorem findKey_isSome {k : κ} {entries : List ε} :
    (findKey key k entries).isSome ↔ k ∈ entries.map key := by
  unfold findKey
  rw [List.find?_isSome, List.mem_map]
  simp only [beq_iff_eq]

/-- Where no key comes twice, every entry is the one found under its key. -/
theorem findKey_of_mem {entries : List ε} (hnodup : (entries.map key).Nodup) {entry : ε}
    (hmem : entry ∈ entries) : findKey key (key entry) entries = some entry := by
  induction entries with
  | nil => cases hmem
  | cons first entries ih =>
    rw [List.map_cons, List.nodup_cons] at hnodup
    rw [findKey_cons]
    cases List.mem_cons.mp hmem with
    | inl heq => rw [heq, beq_self_eq_true, if_pos rfl]
    | inr hrest =>
      have hne : key first ≠ key entry := fun heq =>
        hnodup.1 (heq ▸ List.mem_map_of_mem hrest)
      rw [if_neg (by simpa using hne)]
      exact ih hnodup.2 hrest

/-- Replacing an entry by one of the same key leaves the keys as they are. -/
theorem keys_modifyKey {k : κ} {f : ε → ε} (hf : ∀ entry, key entry = k → key (f entry) = k)
    (entries : List ε) : (modifyKey key k f entries).map key = entries.map key := by
  induction entries with
  | nil => rfl
  | cons entry entries ih =>
    unfold modifyKey
    split
    · rename_i heq
      have hkey : key entry = k := eq_of_beq heq
      rw [List.map_cons, List.map_cons, hf entry hkey, hkey]
    · rw [List.map_cons, List.map_cons, ih]

theorem findKey_modifyKey_self {k : κ} {f : ε → ε}
    (hf : ∀ entry, key entry = k → key (f entry) = k) (entries : List ε) :
    findKey key k (modifyKey key k f entries) = (findKey key k entries).map f := by
  induction entries with
  | nil => rfl
  | cons entry entries ih =>
    unfold modifyKey
    rw [findKey_cons]
    split
    · rename_i heq
      rw [findKey_cons, hf entry (eq_of_beq heq), beq_self_eq_true, if_pos rfl]
      rfl
    · rename_i hne
      rw [findKey_cons, if_neg hne, ih]

/-- The entries of other keys stay as they are. -/
theorem findKey_modifyKey_ne {k other : κ} (hne : other ≠ k) {f : ε → ε}
    (hf : ∀ entry, key entry = k → key (f entry) = k) (entries : List ε) :
    findKey key other (modifyKey key k f entries) = findKey key other entries := by
  induction entries with
  | nil => rfl
  | cons entry entries ih =>
    unfold modifyKey
    rw [findKey_cons]
    split
    · rename_i heq
      have hkey : key entry = k := eq_of_beq heq
      rw [findKey_cons, hf entry hkey, hkey, if_neg (by simpa using hne.symm),
        if_neg (by simpa using hne.symm)]
    · rw [findKey_cons, ih]

end Lawful

/-- The entries hold what a log of updates has left: its keys in the order of
their first update, none twice, and for each the last update. -/
structure Represents (log entries : List ε) : Prop where
  keys : entries.map key = firstKeys key log
  nodup : (entries.map key).Nodup
  find : ∀ k, findKey key k entries = latest key k log

namespace Represents

theorem nil : Represents key [] [] where
  keys := rfl
  nodup := List.nodup_nil
  find := fun _ => rfl

variable {key} [LawfulBEq κ] {log entries : List ε}

/-- A key is in the log exactly when it is found. -/
theorem mem_keys_iff (h : Represents key log entries) (k : κ) :
    k ∈ log.map key ↔ (findKey key k entries).isSome := by
  rw [findKey_isSome, h.keys, firstKeys, List.mem_eraseDups]

/-- An update of a key that is found replaces its entry. -/
theorem replace (h : Represents key log entries) (entry : ε) {f : ε → ε}
    (hfound : (findKey key (key entry) entries).isSome)
    (hf : ∀ old, key old = key entry → f old = entry) :
    Represents key (log ++ [entry]) (modifyKey key (key entry) f entries) := by
  have hkey : ∀ old, key old = key entry → key (f old) = key entry := fun old hold => by
    rw [hf old hold]
  have hkeys := keys_modifyKey hkey entries
  have hmem : key entry ∈ log.map key := (h.mem_keys_iff _).mpr hfound
  constructor
  · -- The key is in the log already, so the order of the keys stays.
    rw [hkeys, h.keys, firstKeys, firstKeys, List.map_append, List.eraseDups_append,
      List.map_singleton, List.cons_removeAll, if_neg (by simpa using hmem)]
    simp [List.removeAll]
  · rw [hkeys]
    exact h.nodup
  · intro k
    rw [latest_append]
    by_cases hk : key entry = k
    · subst hk
      obtain ⟨old, hold⟩ := Option.isSome_iff_exists.mp hfound
      rw [findKey_modifyKey_self hkey, hold, beq_self_eq_true, if_pos rfl, Option.map_some,
        hf old (key_of_findKey hold)]
    · rw [findKey_modifyKey_ne (Ne.symm hk) hkey, h.find, if_neg (by simpa using hk)]

/-- An update of a key that is not found appends an entry. -/
theorem append (h : Represents key log entries) (entry : ε)
    (hnew : findKey key (key entry) entries = none) :
    Represents key (log ++ [entry]) (entries ++ [entry]) := by
  have hlog : key entry ∉ log.map key := by
    rw [h.mem_keys_iff, hnew]
    exact Bool.false_ne_true
  have hentries : key entry ∉ entries.map key := by
    rw [← findKey_isSome, hnew]
    exact Bool.false_ne_true
  constructor
  · rw [List.map_append, h.keys, firstKeys, firstKeys, List.map_append, List.eraseDups_append,
      List.map_singleton, List.cons_removeAll, if_pos (by simpa using hlog)]
    simp [List.removeAll, List.eraseDups_cons]
  · rw [List.map_append, List.map_singleton]
    exact List.nodup_append.mpr ⟨h.nodup, List.nodup_singleton _, fun a ha b hb => by
      rw [List.mem_singleton.mp hb]
      exact fun heq => hentries (heq ▸ ha)⟩
  · intro k
    rw [findKey_append, findKey_cons, findKey_nil, latest_append, h.find]
    by_cases hk : key entry = k
    · rw [← hk, ← h.find, hnew, beq_self_eq_true, if_pos rfl]
      rfl
    · rw [if_neg (by simpa using hk), if_neg (by simpa using hk), Option.or_none]

end Represents

end KeyedList

end UuAmfBridge
