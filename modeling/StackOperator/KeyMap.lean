import StackOperator.Json.Value

/-!
# Maps keyed by strings

A `KeyMap α` holds entries whose keys strictly ascend, so that no key comes twice: the shape of
label sets, phase tables and Secret data, which are ordered maps and are always written in key
order. The order is part of the type. On plain lists of entries, `store` puts a value in front of
the first larger key and `remove` drops one entry, and both keep keys ascending (`ascending_store`,
`ascending_remove`); `put`, `erase` and `ofList` build maps from them, so nothing that reads a map
has to assume its order.

Main statements: `get?_put` (`put` is a map update), `mem_iff_get?` (the entries of a map are what
its keys look up) and `ofList_entries` (a map is rebuilt from its own entries).
-/

namespace StackOperator

namespace KeyMap

variable {α : Type}

/-- The keys of a list of entries strictly ascend. -/
def Ascending (entries : List (String × α)) : Prop := (entries.map (·.1)).Pairwise (· < ·)

instance (entries : List (String × α)) : Decidable (Ascending entries) :=
  inferInstanceAs (Decidable (List.Pairwise _ _))

theorem Ascending.nodup {entries : List (String × α)} (asc : Ascending entries) :
    (entries.map (·.1)).Nodup :=
  asc.imp String.ne_of_lt

/-- The value under a key in a list of entries. -/
def lookup : List (String × α) → String → Option α
  | [], _ => none
  | (k, v) :: rest, key => if k = key then some v else lookup rest key

/-- Store a value under a key in a list of entries: in front of the first larger key, or in place
of the entry under the key. -/
def store : List (String × α) → String → α → List (String × α)
  | [], key, v => [(key, v)]
  | (k, w) :: rest, key, v =>
    if key < k then (key, v) :: (k, w) :: rest
    else if key = k then (key, v) :: rest
    else (k, w) :: store rest key v

/-- Drop the entry under a key from a list of entries. -/
def remove : List (String × α) → String → List (String × α)
  | [], _ => []
  | (k, v) :: rest, key => if k = key then rest else (k, v) :: remove rest key

/-! ## Entries in key order -/

theorem mem_store {entries : List (String × α)} {key : String} {v : α} {e : String × α}
    (mem : e ∈ store entries key v) : e = (key, v) ∨ e ∈ entries := by
  induction entries with
  | nil => simpa [store] using mem
  | cons entry rest ih =>
    obtain ⟨k, w⟩ := entry
    simp only [store] at mem
    split at mem
    · simpa using mem
    · split at mem
      · rcases List.mem_cons.mp mem with rfl | inRest
        · exact .inl rfl
        · exact .inr (List.mem_cons_of_mem _ inRest)
      · rcases List.mem_cons.mp mem with rfl | inStored
        · exact .inr List.mem_cons_self
        · exact (ih inStored).imp_right (List.mem_cons_of_mem _)

theorem ascending_store {entries : List (String × α)} (asc : Ascending entries) (key : String) (v : α) :
    Ascending (store entries key v) := by
  induction entries with
  | nil => simp [store, Ascending]
  | cons entry rest ih =>
    obtain ⟨k, w⟩ := entry
    obtain ⟨later, restAsc⟩ := List.pairwise_cons.mp asc
    simp only [store]
    split
    · next below =>
      refine List.pairwise_cons.mpr ⟨?_, asc⟩
      simp only [List.map_cons, List.mem_cons]
      rintro j (rfl | mem)
      · exact below
      · exact String.lt_trans below (later j mem)
    · split
      · next same => subst same; exact List.pairwise_cons.mpr ⟨later, restAsc⟩
      · next above same =>
        -- the key goes further in, after `k`
        have after : k < key := Std.lt_of_le_of_ne (String.not_lt.mp above) (Ne.symm same)
        refine List.pairwise_cons.mpr ⟨fun j mem => ?_, ih restAsc⟩
        obtain ⟨e, inStored, rfl⟩ := List.mem_map.mp mem
        rcases mem_store inStored with rfl | inRest
        · exact after
        · exact later _ (List.mem_map_of_mem inRest)

theorem remove_sublist (entries : List (String × α)) (key : String) : (remove entries key).Sublist entries := by
  induction entries with
  | nil => exact List.Sublist.slnil
  | cons entry rest ih =>
    obtain ⟨k, v⟩ := entry
    simp only [remove]
    split
    · exact List.sublist_cons_self _ rest
    · exact ih.cons_cons _

theorem ascending_remove {entries : List (String × α)} (asc : Ascending entries) (key : String) :
    Ascending (remove entries key) :=
  asc.sublist ((remove_sublist entries key).map _)

/-- A key above every key of the entries is stored at the end. -/
theorem store_of_above {entries : List (String × α)} {key : String} (above : ∀ e ∈ entries, e.1 < key)
    (v : α) : store entries key v = entries ++ [(key, v)] := by
  induction entries with
  | nil => rfl
  | cons entry rest ih =>
    obtain ⟨k, w⟩ := entry
    have below : k < key := above (k, w) List.mem_cons_self
    simp only [store, String.lt_asymm below, (String.ne_of_lt below).symm, if_false, List.cons_append]
    rw [ih fun e mem => above e (List.mem_cons_of_mem _ mem)]

/-- Storing ascending entries in turn after entries below them all appends them. -/
theorem foldl_store_of_ascending {entries : List (String × α)} (asc : Ascending entries)
    (acc : List (String × α)) (below : ∀ a ∈ acc, ∀ e ∈ entries, a.1 < e.1) :
    entries.foldl (fun acc e => store acc e.1 e.2) acc = acc ++ entries := by
  induction entries generalizing acc with
  | nil => simp
  | cons entry rest ih =>
    obtain ⟨later, restAsc⟩ := List.pairwise_cons.mp asc
    have stored : store acc entry.1 entry.2 = acc ++ [entry] :=
      store_of_above (fun a mem => below a mem entry List.mem_cons_self) entry.2
    rw [List.foldl_cons, stored, ih restAsc]
    · simp
    · -- what is stored so far is below every later entry: `acc` by assumption, `entry` by order
      intro a mem e inRest
      rcases List.mem_append.mp mem with inAcc | single
      · exact below a inAcc e (List.mem_cons_of_mem _ inRest)
      · rw [List.mem_singleton.mp single]
        exact later e.1 (List.mem_map_of_mem inRest)

/-! ## Lookups -/

theorem lookup_store_self (entries : List (String × α)) (key : String) (v : α) :
    lookup (store entries key v) key = some v := by
  induction entries with
  | nil => simp [store, lookup]
  | cons entry rest ih =>
    obtain ⟨k, w⟩ := entry
    simp only [store]
    by_cases below : key < k
    · simp [below, lookup]
    · by_cases same : key = k
      · simp [same, lookup]
      · simp only [below, same, if_false, lookup]
        rw [if_neg (Ne.symm same)]
        exact ih

theorem lookup_store_ne (entries : List (String × α)) {key other : String} (v : α) (apart : other ≠ key) :
    lookup (store entries key v) other = lookup entries other := by
  induction entries with
  | nil => simp [store, lookup, Ne.symm apart]
  | cons entry rest ih =>
    obtain ⟨k, w⟩ := entry
    simp only [store]
    by_cases below : key < k
    · simp [below, lookup, Ne.symm apart]
    · by_cases same : key = k
      · subst same
        simp [lookup, Ne.symm apart]
      · simp only [below, same, if_false, lookup]
        split <;> simp_all

theorem lookup_store (entries : List (String × α)) (key : String) (v : α) (other : String) :
    lookup (store entries key v) other = if other = key then some v else lookup entries other := by
  split
  · next same => rw [same, lookup_store_self]
  · next apart => exact lookup_store_ne entries v apart

theorem mem_of_lookup {entries : List (String × α)} {key : String} {v : α} (found : lookup entries key = some v) :
    (key, v) ∈ entries := by
  induction entries with
  | nil => cases found
  | cons entry rest ih =>
    obtain ⟨k, w⟩ := entry
    simp only [lookup] at found
    split at found
    · next same =>
      cases found
      subst same
      exact List.mem_cons_self
    · exact List.mem_cons_of_mem _ (ih found)

theorem lookup_eq_none {entries : List (String × α)} {key : String} (absent : key ∉ entries.map (·.1)) :
    lookup entries key = none := by
  cases found : lookup entries key with
  | none => rfl
  | some v => exact absurd (List.mem_map_of_mem (f := (·.1)) (mem_of_lookup found)) absent

/-- In entries with ascending keys an entry is what its key looks up. -/
theorem lookup_of_mem {entries : List (String × α)} (asc : Ascending entries) {e : String × α}
    (mem : e ∈ entries) : lookup entries e.1 = some e.2 := by
  induction entries with
  | nil => cases mem
  | cons entry rest ih =>
    obtain ⟨k, w⟩ := entry
    obtain ⟨later, restAsc⟩ := List.pairwise_cons.mp asc
    rcases List.mem_cons.mp mem with rfl | inRest
    · simp [lookup]
    · -- the keys after `k` are above it, so the entry's key is not `k`
      have apart : k ≠ e.1 := String.ne_of_lt (later e.1 (List.mem_map_of_mem inRest))
      simp only [lookup, apart, if_false]
      exact ih restAsc inRest

end KeyMap

/-- Entries whose keys strictly ascend, each key once. -/
structure KeyMap (α : Type) where
  entries : List (String × α)
  ascending : KeyMap.Ascending entries

namespace KeyMap

variable {α : Type}

@[ext] theorem ext {m n : KeyMap α} (same : m.entries = n.entries) : m = n := by
  cases m
  cases n
  cases same
  rfl

instance [DecidableEq α] : DecidableEq (KeyMap α) := fun m n =>
  decidable_of_iff (m.entries = n.entries) ⟨ext, congrArg entries⟩

instance [Repr α] : Repr (KeyMap α) := ⟨fun m prec => reprPrec m.entries prec⟩

/-- The map with no entries. -/
def empty : KeyMap α := ⟨[], List.Pairwise.nil⟩

instance : Inhabited (KeyMap α) := ⟨empty⟩

/-- The map with one entry. -/
def singleton (key : String) (v : α) : KeyMap α := ⟨[(key, v)], List.pairwise_singleton _ _⟩

/-- The value under a key. -/
def get? (m : KeyMap α) (key : String) : Option α := lookup m.entries key

/-- Store a value under a key, replacing an earlier one. -/
def put (m : KeyMap α) (key : String) (v : α) : KeyMap α :=
  ⟨store m.entries key v, ascending_store m.ascending key v⟩

/-- Drop the entry under a key. -/
def erase (m : KeyMap α) (key : String) : KeyMap α :=
  ⟨remove m.entries key, ascending_remove m.ascending key⟩

/-- Entries put in turn; a later duplicate wins. -/
def ofList (entries : List (String × α)) : KeyMap α :=
  entries.foldl (fun m e => m.put e.1 e.2) empty

/-- Every entry of the second map put into the first. -/
def union (m n : KeyMap α) : KeyMap α := n.entries.foldl (fun acc e => acc.put e.1 e.2) m

/-- Does a key have an entry? -/
def contains (m : KeyMap α) (key : String) : Bool := (m.get? key).isSome

/-- The keys in order. -/
def keys (m : KeyMap α) : List String := m.entries.map (·.1)

theorem keys_ascending (m : KeyMap α) : m.keys.Pairwise (· < ·) := m.ascending

/-- Has the map no entries? -/
def isEmpty (m : KeyMap α) : Bool := m.entries.isEmpty

/-- Every value changed by a function of its key and itself, under the same key. -/
def mapWithKey {β : Type} (f : String → α → β) (m : KeyMap α) : KeyMap β :=
  ⟨m.entries.map fun e => (e.1, f e.1 e.2), by simpa [Ascending, Function.comp_def] using m.ascending⟩

/-- A map of strings as a JSON object. -/
def toValue (m : KeyMap String) : Json.Value := .obj (m.entries.map fun (k, v) => (k, .str v))

theorem isEmpty_iff (m : KeyMap α) : m.isEmpty = true ↔ m = empty := by
  rw [isEmpty, List.isEmpty_iff]
  exact ⟨fun none => ext none, fun same => same ▸ rfl⟩

@[simp] theorem ofList_nil : ofList ([] : List (String × α)) = empty := rfl

@[simp] theorem get?_empty (key : String) : (empty : KeyMap α).get? key = none := rfl

@[simp] theorem get?_singleton (k : String) (v : α) (key : String) :
    (singleton k v).get? key = if key = k then some v else none := by
  simp [singleton, get?, lookup, eq_comm]

theorem get?_put (m : KeyMap α) (key : String) (v : α) (other : String) :
    (m.put key v).get? other = if other = key then some v else m.get? other :=
  lookup_store m.entries key v other

theorem get?_put_self (m : KeyMap α) (key : String) (v : α) : (m.put key v).get? key = some v :=
  lookup_store_self m.entries key v

theorem get?_put_ne (m : KeyMap α) {key other : String} (v : α) (h : other ≠ key) :
    (m.put key v).get? other = m.get? other :=
  lookup_store_ne m.entries v h

theorem mem_put {m : KeyMap α} {key : String} {v : α} {e : String × α} (mem : e ∈ (m.put key v).entries) :
    e = (key, v) ∨ e ∈ m.entries :=
  mem_store mem

theorem mem_of_get? {m : KeyMap α} {key : String} {v : α} (found : m.get? key = some v) :
    (key, v) ∈ m.entries :=
  mem_of_lookup found

/-- An entry of a map is what its key looks up. -/
theorem get?_of_mem {m : KeyMap α} {e : String × α} (mem : e ∈ m.entries) : m.get? e.1 = some e.2 :=
  lookup_of_mem m.ascending mem

theorem mem_iff_get? (m : KeyMap α) (e : String × α) : e ∈ m.entries ↔ m.get? e.1 = some e.2 :=
  ⟨get?_of_mem, mem_of_get?⟩

/-- Entries with ascending keys put in turn: a key they hold looks up its value there, any other
key what it looked up before. -/
theorem get?_foldl_put {l : List (String × α)} (asc : Ascending l) (acc : KeyMap α) (key : String) :
    (l.foldl (fun m e => m.put e.1 e.2) acc).get? key = (lookup l key).or (acc.get? key) := by
  induction l generalizing acc with
  | nil => simp [lookup]
  | cons entry rest ih =>
    obtain ⟨k, v⟩ := entry
    obtain ⟨later, restAsc⟩ := List.pairwise_cons.mp asc
    rw [List.foldl_cons, ih restAsc, get?_put]
    by_cases same : k = key
    · -- the later keys are above `k`, so none of them is `key`
      subst same
      have absent : k ∉ rest.map (·.1) := fun mem => String.lt_irrefl k (later k mem)
      simp [lookup, lookup_eq_none absent]
    · simp [lookup, same, Ne.symm same]

theorem get?_union (m n : KeyMap α) (key : String) : (m.union n).get? key = (n.get? key).or (m.get? key) :=
  get?_foldl_put n.ascending m key

theorem entries_foldl_put (l : List (String × α)) (acc : KeyMap α) :
    (l.foldl (fun m e => m.put e.1 e.2) acc).entries = l.foldl (fun acc e => store acc e.1 e.2) acc.entries := by
  induction l generalizing acc with
  | nil => rfl
  | cons e rest ih => exact ih (acc.put e.1 e.2)

/-- Entries that ascend already are the entries of the map they build. -/
theorem entries_ofList {entries : List (String × α)} (asc : Ascending entries) :
    (ofList entries).entries = entries := by
  rw [ofList, entries_foldl_put]
  have appended := foldl_store_of_ascending asc [] (fun _ none => nomatch none)
  rwa [List.nil_append] at appended

/-- A map is rebuilt from its own entries: reading a map back from the object it is written as
gives the map itself. -/
theorem ofList_entries (m : KeyMap α) : ofList m.entries = m := by
  ext1
  exact entries_ofList m.ascending

end KeyMap

/-- An object of the members that are present. -/
def Json.Value.build (members : List (String × Option Json.Value)) : Json.Value :=
  .object (members.filterMap fun (k, v) => v.map (k, ·))

end StackOperator
