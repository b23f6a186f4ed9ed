import StackOperator.Json.MergePatch
import StackOperator.Json.Read
import StackOperator.Status.Wire
import Mathlib.Data.String.Basic

/-!
# Merge patches that round-trip

A JSON merge patch (RFC 7396) edits an object member by member: a `null` member removes its key,
any other member is applied to the target's member under the same key (a missing member counts as
`null`), and a patch that is not an object replaces the target as a whole. `Value.mergePatch` is
that application, as the API server performs it on a status write.

Main statement: `mergeDiff_round_trips`. Applying `old.mergeDiff new` to `old` gives `new` back
whenever no object member of `new` is `null`, whatever the shapes of `old` and `new`; the stored
form of a server status has no `null` member, so a status write turns the stored entry into the
new status, and members the new status lacks are removed. The argument:

* objects keep their members in ascending key order (`Value.Ascending`), and two ascending member
  lists with the same lookups are equal (`Fields.ext_get?`);
* a patch edits each key on its own (`get?_patchMembers`);
* a diff holds, under each key of `new`, the diff of the two members, and `null` under each key
  that only `old` has (`get?_diffFields_of_get?`, `get?_diffFields_of_none`).

Member order is a hypothesis on the values because a `Value` can hold any list of members; every
object the operator builds or reads comes from `Fields.put`, which keeps keys ascending
(`Fields.ascending_put`), so every value read from text is ascending (`Value.ascending_of_read`).
The maps of a status carry their order in their type (`KeyMap`), so the stored form of every status
is ascending without one (`ServerStatus.storable_toValue`), and a status write round-trips over
every entry read from text (`ServerStatus.mergePatch_mergeDiff_of_read`).
-/

namespace StackOperator

namespace Json

/-- Every object reachable through object members keeps its keys strictly ascending. Arrays are
replaced as a whole by a patch, so they are not looked into. -/
inductive Value.Ascending : Value → Prop
  | leaf {v : Value} : (∀ fs, v ≠ .obj fs) → Value.Ascending v
  | obj {fs : Fields} : KeyMap.Ascending fs → (∀ m ∈ fs, Value.Ascending m.2) → Value.Ascending (.obj fs)

/-- No object member reachable through object members is `null`. -/
inductive Value.NullFree : Value → Prop
  | leaf {v : Value} : (∀ fs, v ≠ .obj fs) → Value.NullFree v
  | obj {fs : Fields} : (∀ m ∈ fs, m.2 ≠ .null) → (∀ m ∈ fs, Value.NullFree m.2) → Value.NullFree (.obj fs)

/-- The members of an object; none for any other value. -/
def Value.members : Value → Fields
  | .obj fs => fs
  | _ => []

mutual

/-- `MergePatch(target, patch)` of RFC 7396. An object patch edits the members of the target (a
target that is not an object counts as the empty object); any other patch replaces the target. -/
def Value.mergePatch (target : Value) : Value → Value
  | .obj p => .obj (Value.patchMembers target.members p)
  | patch => patch

/-- The members `t` edited by each member of a patch in turn: a `null` member removes its key,
any other is applied to the member under its key, a missing one counting as `null`. -/
def Value.patchMembers (t : Fields) : Fields → Fields
  | [] => t
  | (k, v) :: rest =>
    let edited := match v with
      | .null => t.erase k
      | _ => t.put k (((t.get? k).getD .null).mergePatch v)
    Value.patchMembers edited rest

end

/-- What a key holds after a patch, from what it held and the patch's member under it. -/
def patchedMember (current : Option Value) : Option Value → Option Value
  | none => current
  | some .null => none
  | some v => some ((current.getD .null).mergePatch v)

theorem patchedMember_some (current : Option Value) {v : Value} (present : v ≠ .null) :
    patchedMember current (some v) = some ((current.getD .null).mergePatch v) := by
  rw [patchedMember]
  exact present

/-- The members of the merge patch between two objects: the diffs of the members of `n`, then
`null` under each key that only `o` has. -/
def diffFields (o n : Fields) : Fields :=
  (o.filter fun (k, _) => (Fields.get? n k).isNone).foldl (fun acc (k, _) => Fields.put acc k .null)
    (Value.diffMembers o n)

/-! ## Members as a finite map -/

namespace Fields

/-! The members of an object are kept as the entries of a map are: looking up, putting and erasing
a member are `KeyMap.lookup`, `KeyMap.store` and `KeyMap.remove`, whose lemmas carry over. -/

theorem get?_eq_lookup (fs : Fields) (k : String) : get? fs k = KeyMap.lookup fs k := by
  induction fs with
  | nil => rfl
  | cons m rest ih =>
    obtain ⟨k', v⟩ := m
    simp only [get?, KeyMap.lookup, ih]

theorem put_eq_store (fs : Fields) (k : String) (v : Value) : put fs k v = KeyMap.store fs k v := by
  induction fs with
  | nil => rfl
  | cons m rest ih =>
    obtain ⟨k', w⟩ := m
    simp only [put, KeyMap.store, ih]

theorem erase_eq_remove (fs : Fields) (k : String) : erase fs k = KeyMap.remove fs k := by
  induction fs with
  | nil => rfl
  | cons m rest ih =>
    obtain ⟨k', v⟩ := m
    simp only [erase, KeyMap.remove, ih]

theorem get?_eq_none_of_not_mem {fs : Fields} {k : String} (absent : k ∉ fs.map (·.1)) :
    get? fs k = none := by
  rw [get?_eq_lookup]
  exact KeyMap.lookup_eq_none absent

theorem mem_of_get? {fs : Fields} {k : String} {v : Value} (found : get? fs k = some v) :
    (k, v) ∈ fs := by
  rw [get?_eq_lookup] at found
  exact KeyMap.mem_of_lookup found

theorem mem_put {fs : Fields} {k : String} {v : Value} {m : String × Value} (mem : m ∈ put fs k v) :
    m = (k, v) ∨ m ∈ fs := by
  rw [put_eq_store] at mem
  exact KeyMap.mem_store mem

theorem erase_sublist (fs : Fields) (k : String) : (erase fs k).Sublist fs := by
  rw [erase_eq_remove]
  exact KeyMap.remove_sublist fs k

theorem get?_erase_ne (fs : Fields) {k j : String} (other : j ≠ k) : get? (erase fs k) j = get? fs j := by
  induction fs with
  | nil => rfl
  | cons m rest ih =>
    obtain ⟨k', v⟩ := m
    simp only [erase]
    split
    · next same => subst same; simp [get?, Ne.symm other]
    · simp [get?, ih]

/-- A key ascending members hold at most once is gone once erased. -/
theorem get?_erase_self {fs : Fields} (asc : KeyMap.Ascending fs) (k : String) :
    get? (erase fs k) k = none := by
  induction fs with
  | nil => rfl
  | cons m rest ih =>
    obtain ⟨k', v⟩ := m
    have later : ∀ j ∈ rest.map (·.1), k' < j := (List.pairwise_cons.mp asc).1
    simp only [erase]
    split
    · next same =>
      subst same
      exact get?_eq_none_of_not_mem fun mem => lt_irrefl _ (later _ mem)
    · next other => simp [get?, other, ih (List.pairwise_cons.mp asc).2]

theorem ascending_erase {fs : Fields} (asc : KeyMap.Ascending fs) (k : String) :
    KeyMap.Ascending (erase fs k) := by
  rw [erase_eq_remove]
  exact KeyMap.ascending_remove asc k

theorem ascending_put {fs : Fields} (asc : KeyMap.Ascending fs) (k : String) (v : Value) :
    KeyMap.Ascending (put fs k v) := by
  rw [put_eq_store]
  exact KeyMap.ascending_store asc k v

theorem ascending_ofList (members : List (String × Value)) : KeyMap.Ascending (ofList members) := by
  unfold ofList
  suffices ∀ acc : Fields, KeyMap.Ascending acc →
      KeyMap.Ascending (members.foldl (fun acc m => Fields.put acc m.1 m.2) acc) from
    this [] List.Pairwise.nil
  induction members with
  | nil => exact fun _ asc => asc
  | cons m rest ih => exact fun acc asc => ih _ (ascending_put asc m.1 m.2)

theorem mem_ofList {members : List (String × Value)} {m : String × Value} (mem : m ∈ ofList members) :
    m ∈ members := by
  unfold ofList at mem
  suffices ∀ acc : Fields, m ∈ members.foldl (fun acc m => Fields.put acc m.1 m.2) acc → m ∈ acc ∨ m ∈ members by
    simpa using this [] mem
  clear mem
  induction members with
  | nil => exact fun _ mem => .inl mem
  | cons e rest ih =>
    intro acc mem
    rcases ih _ mem with inPut | inRest
    · rcases mem_put inPut with rfl | inAcc
      · exact .inr List.mem_cons_self
      · exact .inl inAcc
    · exact .inr (List.mem_cons_of_mem _ inRest)

/-- Below the first key of ascending members nothing is found. -/
theorem get?_eq_none_of_lt {k j : String} {v : Value} {rest : Fields}
    (asc : KeyMap.Ascending ((k, v) :: rest)) (below : j < k) : get? ((k, v) :: rest) j = none := by
  have later : ∀ i ∈ rest.map (·.1), k < i := (List.pairwise_cons.mp asc).1
  refine get?_eq_none_of_not_mem ?_
  simp only [List.map_cons, List.mem_cons, not_or]
  exact ⟨ne_of_lt below, fun mem => lt_asymm below (later j mem)⟩

/-- Ascending members are determined by their lookups. -/
theorem ext_get? {a b : Fields} (ascA : KeyMap.Ascending a) (ascB : KeyMap.Ascending b)
    (same : ∀ k, get? a k = get? b k) : a = b := by
  induction a generalizing b with
  | nil =>
    cases b with
    | nil => rfl
    | cons m _ => simpa [get?] using (same m.1).symm
  | cons m restA ih =>
    obtain ⟨k, v⟩ := m
    cases b with
    | nil => simpa [get?] using same k
    | cons m' restB =>
      obtain ⟨k', v'⟩ := m'
      -- the two heads carry the least key of one map; neither can be below the other's
      have key : k = k' := by
        rcases lt_trichotomy k k' with below | equal | above
        · have found := same k
          rw [get?_eq_none_of_lt ascB below] at found
          simp [get?] at found
        · exact equal
        · have found := same k'
          rw [get?_eq_none_of_lt ascA above] at found
          simp [get?] at found
      subst key
      have value : v = v' := by simpa [get?] using same k
      subst value
      have tails : ∀ j, get? restA j = get? restB j := by
        intro j
        by_cases head : j = k
        · subst head
          have absentA := fun mem => lt_irrefl _ ((List.pairwise_cons.mp ascA).1 j mem)
          have absentB := fun mem => lt_irrefl _ ((List.pairwise_cons.mp ascB).1 j mem)
          rw [get?_eq_none_of_not_mem absentA, get?_eq_none_of_not_mem absentB]
        · simpa [get?, Ne.symm head] using same j
      rw [ih (List.pairwise_cons.mp ascA).2 (List.pairwise_cons.mp ascB).2 tails]

end Fields

/-! ## Applying a patch -/

namespace Value

theorem mergePatch_obj (target : Value) (p : Fields) :
    target.mergePatch (.obj p) = .obj (patchMembers target.members p) := by
  rw [mergePatch]

theorem mergePatch_of_not_obj (target patch : Value) (notObj : ∀ fs, patch ≠ .obj fs) :
    target.mergePatch patch = patch := by
  cases patch with
  | obj fs => exact absurd rfl (notObj fs)
  | _ => rw [mergePatch]; exact notObj

theorem patchMembers_cons_null (t rest : Fields) (k : String) :
    patchMembers t ((k, .null) :: rest) = patchMembers (t.erase k) rest := by
  rw [patchMembers]

theorem patchMembers_cons (t rest : Fields) (k : String) {v : Value} (present : v ≠ .null) :
    patchMembers t ((k, v) :: rest) =
      patchMembers (t.put k (((t.get? k).getD .null).mergePatch v)) rest := by
  rw [patchMembers]
  exact present

theorem ascending_patchMembers {t : Fields} (asc : KeyMap.Ascending t) (p : Fields) :
    KeyMap.Ascending (patchMembers t p) := by
  induction p generalizing t with
  | nil => rwa [patchMembers]
  | cons m rest ih =>
    obtain ⟨k, v⟩ := m
    by_cases absent : v = .null
    · subst absent
      rw [patchMembers_cons_null]
      exact ih (Fields.ascending_erase asc k)
    · rw [patchMembers_cons t rest k absent]
      exact ih (Fields.ascending_put asc k _)

/-- A patch with each key once edits each key on its own, from what the target holds there. -/
theorem get?_patchMembers {t : Fields} (asc : KeyMap.Ascending t) {p : Fields}
    (distinct : (p.map (·.1)).Nodup) (j : String) :
    Fields.get? (patchMembers t p) j = patchedMember (Fields.get? t j) (Fields.get? p j) := by
  induction p generalizing t with
  | nil => rw [patchMembers]; rfl
  | cons m rest ih =>
    obtain ⟨k, v⟩ := m
    obtain ⟨fresh, restDistinct⟩ := List.nodup_cons.mp distinct
    by_cases absent : v = .null
    · subst absent
      rw [patchMembers_cons_null, ih (Fields.ascending_erase asc k) restDistinct]
      by_cases head : j = k
      · -- the erased key is not edited again
        subst head
        rw [Fields.get?_eq_none_of_not_mem fresh, Fields.get?_erase_self asc]
        simp [Fields.get?, patchedMember]
      · simp [Fields.get?_erase_ne _ head, Fields.get?, Ne.symm head]
    · rw [patchMembers_cons t rest k absent, ih (Fields.ascending_put asc k _) restDistinct]
      by_cases head : j = k
      · subst head
        rw [Fields.get?_eq_none_of_not_mem fresh, Fields.get?_put_self]
        simp [Fields.get?, patchedMember]
      · simp [Fields.get?_put_ne _ _ head, Fields.get?, Ne.symm head]

end Value

/-! ## The members of a diff -/

namespace Value

theorem mergeDiff_of_old_not_obj (old new : Value) (notObj : ∀ fs, old ≠ .obj fs) :
    old.mergeDiff new = new := by
  cases new with
  | obj n =>
    cases old with
    | obj o => exact absurd rfl (notObj o)
    | _ => simp [mergeDiff]
  | _ => simp [mergeDiff]

theorem mergeDiff_ne_null (old : Value) {new : Value} (present : new ≠ .null) :
    old.mergeDiff new ≠ .null := by
  cases new with
  | null => exact absurd rfl present
  | obj n => cases old <;> simp [mergeDiff]
  | _ => simp [mergeDiff]

theorem diffMembers_cons (o rest : Fields) (k : String) (v : Value) :
    diffMembers o ((k, v) :: rest) = (k, ((o.get? k).getD .null).mergeDiff v) :: diffMembers o rest := by
  rw [diffMembers]
  cases o.get? k with
  | some prev => rfl
  | none => simp [mergeDiff_of_old_not_obj]

theorem keys_diffMembers (o n : Fields) : (diffMembers o n).map (·.1) = n.map (·.1) := by
  induction n with
  | nil => rw [diffMembers]
  | cons m rest ih =>
    obtain ⟨k, v⟩ := m
    simp [diffMembers_cons, ih]

theorem get?_diffMembers (o n : Fields) (j : String) :
    Fields.get? (diffMembers o n) j = (Fields.get? n j).map (((o.get? j).getD .null).mergeDiff ·) := by
  induction n with
  | nil => rw [diffMembers]; rfl
  | cons m rest ih =>
    obtain ⟨k, v⟩ := m
    rw [diffMembers_cons]
    by_cases head : k = j
    · subst head; simp [Fields.get?]
    · simp [Fields.get?, head, ih]

end Value

theorem get?_foldl_put_null (l acc : Fields) (j : String) :
    Fields.get? (l.foldl (fun acc (k, _) => Fields.put acc k .null) acc) j =
      if j ∈ l.map (·.1) then some .null else Fields.get? acc j := by
  induction l generalizing acc with
  | nil => simp
  | cons m rest ih =>
    obtain ⟨k, v⟩ := m
    rw [List.foldl_cons, ih]
    by_cases head : j = k
    · subst head; simp [Fields.get?_put_self]
    · simp only [Fields.get?_put_ne _ _ head, List.map_cons, List.mem_cons, head, false_or]

theorem ascending_foldl_put_null (l : Fields) {acc : Fields} (asc : KeyMap.Ascending acc) :
    KeyMap.Ascending (l.foldl (fun acc (k, _) => Fields.put acc k .null) acc) := by
  induction l generalizing acc with
  | nil => exact asc
  | cons m rest ih => exact ih (Fields.ascending_put asc _ _)

theorem ascending_diffFields (o : Fields) {n : Fields} (asc : KeyMap.Ascending n) :
    KeyMap.Ascending (diffFields o n) := by
  refine ascending_foldl_put_null _ ?_
  unfold KeyMap.Ascending
  rwa [Value.keys_diffMembers]

theorem diffFields_nil (n : Fields) : diffFields [] n = n := by
  unfold diffFields
  rw [List.filter_nil, List.foldl_nil]
  induction n with
  | nil => rw [Value.diffMembers]
  | cons m rest ih =>
    obtain ⟨k, v⟩ := m
    rw [Value.diffMembers_cons, ih]
    simp [Fields.get?, Value.mergeDiff_of_old_not_obj]

/-- Under a key of `new`, the diff holds the diff of the two members. -/
theorem get?_diffFields_of_get? (o : Fields) {n : Fields} {j : String} {v : Value}
    (found : Fields.get? n j = some v) :
    Fields.get? (diffFields o n) j = some (((o.get? j).getD .null).mergeDiff v) := by
  unfold diffFields
  rw [get?_foldl_put_null, if_neg, Value.get?_diffMembers, found, Option.map_some]
  simp [found]

/-- Under a key that `new` lacks, the diff holds `null` if `old` has the key and nothing else. -/
theorem get?_diffFields_of_none (o : Fields) {n : Fields} {j : String} (absent : Fields.get? n j = none) :
    Fields.get? (diffFields o n) j = if j ∈ o.map (·.1) then some .null else none := by
  have keys : j ∈ (o.filter fun (k, _) => (Fields.get? n k).isNone).map (·.1) ↔ j ∈ o.map (·.1) := by
    simp only [List.mem_map, List.mem_filter]
    constructor
    · rintro ⟨m, ⟨mem, -⟩, rfl⟩
      exact ⟨m, mem, rfl⟩
    · rintro ⟨m, mem, rfl⟩
      exact ⟨m, ⟨mem, by simp [absent]⟩, rfl⟩
  unfold diffFields
  rw [get?_foldl_put_null, Value.get?_diffMembers, absent, Option.map_none]
  exact if_congr keys rfl rfl

theorem mergeDiff_obj (old : Value) (n : Fields) :
    old.mergeDiff (.obj n) = .obj (diffFields old.members n) := by
  cases old with
  | obj o => rw [Value.mergeDiff]; rfl
  | _ => simp [Value.mergeDiff, Value.members, diffFields_nil]

/-! ## Objects read from text -/

/-- Members whose keys ascend, each a value whose objects keep their keys ascending. -/
def Fields.MembersAscending (fs : Fields) : Prop := KeyMap.Ascending fs ∧ ∀ m ∈ fs, m.2.Ascending

theorem Fields.MembersAscending.nil : Fields.MembersAscending [] :=
  ⟨List.Pairwise.nil, fun _ mem => absurd mem List.not_mem_nil⟩

theorem Fields.MembersAscending.put {fs : Fields} (asc : fs.MembersAscending) (k : String) {v : Value}
    (hv : v.Ascending) : (Fields.put fs k v).MembersAscending :=
  ⟨Fields.ascending_put asc.1 k v, fun m mem => (Fields.mem_put mem).elim (fun same => same ▸ hv) (asc.2 m)⟩

/-- Only an opening brace reads an object: its members are read after it. -/
theorem readValue_obj {fuel depth : Nat} {c c' : Cursor} {fs : Fields}
    (read : readValue (fuel + 1) depth c = .ok (.obj fs, c')) :
    ∃ depth' c₀, readMembers fuel depth' c₀ true [] = .ok (fs, c') := by
  unfold readValue at read
  dsimp only at read
  split at read
  case h_8 =>
    split at read
    · cases read
    · split at read
      · next members => cases read; exact ⟨_, _, members⟩
      · cases read
  -- every other branch fails, or reads through `Except.map` a value that is not an object
  all_goals
    repeat' split at read
    all_goals try simp only [Except.map] at read
    repeat' split at read
  all_goals simp_all

/-- What the reader returns keeps the keys of every object ascending: a value, and the members of
an object read onto members that do, as each member goes in through `Fields.put`. The two readers
call each other with the fuel they are given less one, so both are proved by one induction on it. -/
theorem readValue_readMembers_ascending : ∀ fuel : Nat,
    (∀ {depth c v c'}, readValue fuel depth c = .ok (v, c') → v.Ascending) ∧
    (∀ {depth c first acc fs c'}, Fields.MembersAscending acc →
      readMembers fuel depth c first acc = .ok (fs, c') → fs.MembersAscending) := by
  intro fuel
  induction fuel with
  | zero =>
    refine ⟨fun {depth c v c'} read => ?_, fun {depth c first acc fs c'} _ read => ?_⟩
    · rw [readValue] at read
      cases read
    · rw [readMembers] at read
      cases read
  | succ fuel ih =>
    obtain ⟨values, members⟩ := ih
    refine ⟨fun {depth c v c'} read => ?_, fun {depth c first acc fs c'} asc read => ?_⟩
    · cases v with
      | obj fs =>
        obtain ⟨depth', c₀, readFs⟩ := readValue_obj read
        have fsAsc := members Fields.MembersAscending.nil readFs
        exact .obj fsAsc.1 fsAsc.2
      | _ => exact .leaf nofun
    · unfold readMembers at read
      dsimp only at read
      split at read
      case h_1 => cases read; exact asc
      -- after a member the rest is read onto the members with it put in; every other branch fails
      all_goals
        repeat' split at read
        all_goals first
          | cases read
          | exact members (asc.put _ (values ‹_›)) read

/-- Every object of a value read from text keeps its keys ascending. -/
theorem Value.ascending_of_read {text : String} {v : Value} (read : Json.read text = .ok v) : v.Ascending := by
  unfold Json.read at read
  dsimp only at read
  split at read
  · cases read
  · next readV =>
    split at read
    · cases read
      exact (readValue_readMembers_ascending _).1 readV
    · cases read

/-! ## The round trip -/

namespace Value

theorem Ascending.members {v : Value} (asc : v.Ascending) :
    KeyMap.Ascending v.members ∧ ∀ m ∈ v.members, m.2.Ascending := by
  cases asc with
  | leaf notObj =>
    cases v with
    | obj fs => exact absurd rfl (notObj fs)
    | _ => exact ⟨List.Pairwise.nil, fun _ mem => nomatch mem⟩
  | obj sorted each => exact ⟨sorted, each⟩

/-- What an ascending value holds under a key, or `null`, is ascending. -/
theorem Ascending.member {v : Value} (asc : v.Ascending) (j : String) :
    ((Fields.get? v.members j).getD .null).Ascending := by
  cases found : Fields.get? v.members j with
  | none => exact .leaf fun _ => nofun
  | some w => exact asc.members.2 (j, w) (Fields.mem_of_get? found)

theorem NullFree.members {fs : Fields} (nulls : (Value.obj fs).NullFree) :
    ∀ m ∈ fs, m.2 ≠ .null ∧ m.2.NullFree := by
  cases nulls with
  | leaf notObj => exact absurd rfl (notObj fs)
  | obj nonNull each => exact fun m mem => ⟨nonNull m mem, each m mem⟩

/-- Applying the diff of `old` and `new` to `old` gives `new`, when `new` has no `null` member. -/
theorem mergePatch_mergeDiff {old new : Value} (hold : old.Ascending) (hnew : new.Ascending)
    (nulls : new.NullFree) : old.mergePatch (old.mergeDiff new) = new := by
  induction hnew generalizing old with
  | leaf notObj => rw [mergeDiff_of_not_obj _ _ notObj, mergePatch_of_not_obj _ _ notObj]
  | @obj n sorted _ ih =>
    -- by the lookups: the patch leaves under each key what `n` holds there
    have members := nulls.members
    obtain ⟨oldSorted, -⟩ := hold.members
    rw [mergeDiff_obj, mergePatch_obj]
    congr 1
    refine Fields.ext_get? (ascending_patchMembers oldSorted _) sorted fun j => ?_
    rw [get?_patchMembers oldSorted (ascending_diffFields _ sorted).nodup]
    cases found : Fields.get? n j with
    | some v =>
      obtain ⟨present, vNulls⟩ := members (j, v) (Fields.mem_of_get? found)
      rw [get?_diffFields_of_get? _ found]
      rw [patchedMember_some _ (mergeDiff_ne_null _ present), ih (j, v) (Fields.mem_of_get? found) (hold.member j) vNulls]
    | none =>
      rw [get?_diffFields_of_none _ found]
      split
      · rfl
      · next absent => exact Fields.get?_eq_none_of_not_mem absent

/-- The diff of two objects sets to `null` what only the old one has. -/
example : (Value.obj [("a", .str "x"), ("b", .str "y")]).mergeDiff (.obj [("b", .str "z")]) =
    .obj [("a", .null), ("b", .str "z")] := by decide

end Value

/-! ## Stored forms without `null` members -/

namespace Value

/-- A value an object may hold as a member for the round trip: not `null`, with ascending keys
and no `null` member. -/
def Storable (v : Value) : Prop := v ≠ .null ∧ v.Ascending ∧ v.NullFree

theorem storable_str (s : String) : (Value.str s).Storable :=
  ⟨nofun, .leaf fun _ => nofun, .leaf fun _ => nofun⟩

/-- An object of storable members is storable. -/
theorem storable_object {members : List (String × Value)} (good : ∀ m ∈ members, m.2.Storable) :
    (Value.object members).Storable := by
  have kept : ∀ m ∈ Fields.ofList members, m.2.Storable := fun m mem => good m (Fields.mem_ofList mem)
  exact ⟨nofun, .obj (Fields.ascending_ofList _) fun m mem => (kept m mem).2.1,
    .obj (fun m mem => (kept m mem).1) fun m mem => (kept m mem).2.2⟩

/-- An object built from its present members, each storable, is storable. -/
theorem storable_build {members : List (String × Option Value)}
    (good : ∀ m ∈ members, ∀ v, m.2 = some v → v.Storable) : (Value.build members).Storable := by
  unfold Value.build
  refine storable_object fun m mem => ?_
  obtain ⟨⟨k, o⟩, inMembers, built⟩ := List.mem_filterMap.mp mem
  obtain ⟨v, present, rfl⟩ := Option.map_eq_some_iff.mp built
  exact good (k, o) inMembers v present

theorem storable_of_map {α : Type} {o : Option α} {f : α → Value} (each : ∀ a, (f a).Storable) :
    ∀ v, o.map f = some v → v.Storable := by
  intro v mapped
  obtain ⟨a, -, rfl⟩ := Option.map_eq_some_iff.mp mapped
  exact each a

theorem storable_of_some {w : Value} (storable : w.Storable) : ∀ v, some w = some v → v.Storable := by
  rintro v ⟨⟩
  exact storable

end Value

/-- A map of strings is written as a storable object: its keys ascend as the map keeps them. -/
theorem KeyMap.storable_toValue (m : KeyMap String) : (KeyMap.toValue m).Storable := by
  unfold KeyMap.toValue
  refine ⟨nofun, .obj ?_ fun e mem => ?_, .obj (fun e mem => ?_) fun e mem => ?_⟩
  · -- the values change and the keys stay
    have asc := m.ascending
    unfold KeyMap.Ascending at asc ⊢
    rw [List.map_map, List.pairwise_map]
    rw [List.pairwise_map] at asc
    refine asc.imp fun {a b} below => ?_
    obtain ⟨k, v⟩ := a
    obtain ⟨k', v'⟩ := b
    exact below
  all_goals obtain ⟨⟨k, s⟩, -, rfl⟩ := List.mem_map.mp mem
  · exact (Value.storable_str s).2.1
  · exact (Value.storable_str s).1
  · exact (Value.storable_str s).2.2

end Json

open Json

theorem ControllerFailure.storable_toValue (f : ControllerFailure) : f.toValue.Storable := by
  refine Value.storable_build ?_
  simp only [List.forall_mem_cons, List.not_mem_nil, IsEmpty.forall_iff, implies_true, and_true]
  have optional := fun o : Option String => Value.storable_of_map (o := o) Value.storable_str
  exact ⟨optional _, optional _, optional _, optional _, Value.storable_of_some (Value.storable_str _),
    Value.storable_of_some (Value.storable_str _)⟩

namespace ServerStatus

theorem storable_mapMember (key : String) (m : KeyMap String) :
    ∀ v, (mapMember key m).2 = some v → v.Storable := by
  intro v member
  unfold mapMember at member
  split at member
  · cases member
  · exact Value.storable_of_some (KeyMap.storable_toValue m) v member

/-- The stored form of a status is storable: every member present is neither `null` nor holds
one, and its objects keep their keys ascending. -/
theorem storable_toValue (s : ServerStatus) : s.toValue.Storable := by
  refine Value.storable_build ?_
  simp only [List.forall_mem_cons, List.not_mem_nil, IsEmpty.forall_iff, implies_true, and_true]
  have optional := fun o : Option String => Value.storable_of_map (o := o) Value.storable_str
  exact ⟨Value.storable_of_some (Value.storable_str _), Value.storable_of_some (Value.storable_str _),
    Value.storable_of_map fun _ => Value.storable_str _, Value.storable_of_map fun _ => Value.storable_str _,
    storable_mapMember _ _, storable_mapMember _ _, storable_mapMember _ _,
    storable_mapMember _ _, storable_mapMember _ _, storable_mapMember _ _,
    optional _, optional _, optional _, optional _, optional _, optional _,
    Value.storable_of_map ControllerFailure.storable_toValue⟩

/-- A status write turns any stored entry read from text into exactly the new status: the reader
keeps the keys of every object ascending, and the stored form of a status is storable. -/
theorem mergePatch_mergeDiff_of_read {text : String} {old : Value} (read : Json.read text = .ok old)
    (s : ServerStatus) : old.mergePatch (old.mergeDiff s.toValue) = s.toValue :=
  Value.mergePatch_mergeDiff (Value.ascending_of_read read) s.storable_toValue.2.1 s.storable_toValue.2.2

end ServerStatus

/-- A merge diff is a correct merge patch: applied to `old` it gives `new` whenever no object
member of `new` is `null`, and the stored form of a status is such a value, so a status write
turns the stored entry, whatever it holds, into exactly the new status. -/
theorem mergeDiff_round_trips :
    (∀ old new : Value, old.Ascending → new.Ascending → new.NullFree →
      old.mergePatch (old.mergeDiff new) = new) ∧
    ∀ (old : Value) (s : ServerStatus), old.Ascending →
      s.toValue.NullFree ∧ old.mergePatch (old.mergeDiff s.toValue) = s.toValue :=
  ⟨fun _ _ hold hnew nulls => Value.mergePatch_mergeDiff hold hnew nulls,
   fun _ s hold => ⟨s.storable_toValue.2.2,
     Value.mergePatch_mergeDiff hold s.storable_toValue.2.1 s.storable_toValue.2.2⟩⟩

/-- A recovered status written over the entry of a failed pass: the failure and the old pod are
removed from the entry. -/
theorem mergeDiff_round_trips_over_failed_entry :
    let failure : ControllerFailure := { message := "Timed out", detailMessage := "Timed out" }
    let failed : ServerStatus := { qualifier := "server", podPhases := .singleton "pod-1" "Failed", failure }
    let recovered : ServerStatus := { qualifier := "server", podPhases := .singleton "pod-2" "Running" }
    failed.toValue.Ascending ∧
      failed.toValue.mergePatch (failed.toValue.mergeDiff recovered.toValue) = recovered.toValue := by
  intro failure failed recovered
  have stored := failed.storable_toValue.2.1
  exact ⟨stored, (mergeDiff_round_trips.2 failed.toValue recovered stored).2⟩

end StackOperator
