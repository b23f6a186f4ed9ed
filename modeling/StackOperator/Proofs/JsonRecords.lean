import Mathlib
import StackOperator.Json.Decode
import StackOperator.KeyMap

/-!
# Records read back from their stored form

A record is stored as an object built from optional members (`Value.build`): a member that is
absent is left out, the others are put in key order. The record decoders read the members back
with `Decode.optField`, `Decode.fieldOr` and `Decode.presentField`. This module says once what
such an object holds and what each member reader returns on it, so that each record's round trip
is a matter of reading its members in turn.

* `Value.build_stores`: an object built from members with distinct keys holds, under each key,
  the member given for it (`List.lookup`), and nothing under the other keys;
* `Decode.bind_recordOf_build`: a record decoder run on such an object returns what its member
  readers return on those members;
* the `getD` lemmas: each kind of member (optional, defaulted, left out when empty) is read back.
-/

namespace StackOperator.Json

namespace Fields

theorem get?_foldl_put_of_not_mem {l : List (String × Value)} {k : String} (absent : k ∉ l.map (·.1))
    (acc : Fields) : (l.foldl (fun acc m => acc.put m.1 m.2) acc).get? k = acc.get? k := by
  induction l generalizing acc with
  | nil => rfl
  | cons m rest ih =>
    simp only [List.map_cons, List.mem_cons, not_or] at absent
    rw [List.foldl_cons, ih absent.2, get?_put_ne _ _ absent.1]

theorem get?_foldl_put_of_mem {l : List (String × Value)} (nodup : (l.map (·.1)).Nodup) {k : String} {v : Value}
    (mem : (k, v) ∈ l) (acc : Fields) : (l.foldl (fun acc m => acc.put m.1 m.2) acc).get? k = some v := by
  induction l generalizing acc with
  | nil => cases mem
  | cons m rest ih =>
    rw [List.map_cons, List.nodup_cons] at nodup
    rw [List.foldl_cons]
    rcases List.mem_cons.mp mem with rfl | later
    · rw [get?_foldl_put_of_not_mem nodup.1, get?_put_self]
    · exact ih nodup.2 later _

end Fields

theorem Value.build_eq (l : List (String × Option Value)) :
    Value.build l = .obj (Fields.ofList (l.filterMap fun e => e.2.map (e.1, ·))) := rfl

theorem keys_filterMap_sublist (l : List (String × Option Value)) :
    ((l.filterMap fun e => e.2.map (e.1, ·)).map (·.1)).Sublist (l.map (·.1)) := by
  induction l with
  | nil => exact List.Sublist.slnil
  | cons e rest ih =>
    obtain ⟨k, _ | v⟩ := e
    · exact ih.cons k
    · exact ih.cons_cons k

theorem Value.object_eq_build (l : List (String × Value)) :
    Value.object l = Value.build (l.map fun e => (e.1, some e.2)) := by
  rw [Value.build_eq, List.filterMap_map]
  simp [Value.object]

theorem lookup_of_mem {l : List (String × Option Value)} (nodup : (l.map (·.1)).Nodup) {k : String}
    {o : Option Value} (mem : (k, o) ∈ l) : l.lookup k = some o := by
  induction l with
  | nil => cases mem
  | cons e rest ih =>
    obtain ⟨k', o'⟩ := e
    rw [List.map_cons, List.nodup_cons] at nodup
    rw [List.lookup_cons]
    by_cases same : k = k'
    · subst same
      -- the key stands only once, so its member is the first one
      have first : o = o' := by
        rcases List.mem_cons.mp mem with here | later
        · exact (Prod.mk.inj here).2
        · exact absurd (List.mem_map.mpr ⟨_, later, rfl⟩) nodup.1
      simp [first]
    · have later : (k, o) ∈ rest := by
        rcases List.mem_cons.mp mem with here | later
        · exact absurd (Prod.mk.inj here).1 same
        · exact later
      have other : (k == k') = false := by simpa using same
      rw [other]
      exact ih nodup.2 later

/-- A key whose member is absent is no key of the built object. -/
theorem absent_not_mem_keys {l : List (String × Option Value)} (nodup : (l.map (·.1)).Nodup) {k : String}
    (mem : (k, none) ∈ l) : k ∉ (l.filterMap fun e => e.2.map (e.1, ·)).map (·.1) := by
  intro found
  obtain ⟨⟨_, v⟩, kept, rfl⟩ := List.mem_map.mp found
  obtain ⟨⟨k', o⟩, orig, built⟩ := List.mem_filterMap.mp kept
  cases o with
  | none => cases built
  | some w =>
    simp only [Option.map_some, Option.some.injEq, Prod.mk.injEq] at built
    obtain ⟨rfl, rfl⟩ := built
    -- two members under one key are the same member
    have := List.inj_on_of_nodup_map nodup mem orig rfl
    simp at this

/-- An object built from optional members holds, under each key, the member given for it. -/
theorem Value.build_stores {l : List (String × Option Value)} (nodup : (l.map (·.1)).Nodup) :
    ∃ fs, Value.build l = .obj fs ∧ ∀ k, Fields.get? fs k = (l.lookup k).join := by
  refine ⟨_, Value.build_eq l, fun k => ?_⟩
  have present : ((l.filterMap fun e => e.2.map (e.1, ·)).map (·.1)).Nodup :=
    nodup.sublist (keys_filterMap_sublist l)
  by_cases listed : k ∈ l.map (·.1)
  · obtain ⟨⟨k', o⟩, mem, rfl⟩ := List.mem_map.mp listed
    rw [lookup_of_mem nodup mem, Option.join_some]
    cases o with
    | some v => exact Fields.get?_foldl_put_of_mem present (List.mem_filterMap.mpr ⟨_, mem, rfl⟩) []
    | none => exact Fields.get?_foldl_put_of_not_mem (absent_not_mem_keys nodup mem) []
  · have absent : l.lookup k = none := by
      rw [List.lookup_eq_none_iff]
      intro e mem
      simpa using fun same : k = e.1 => listed (List.mem_map.mpr ⟨e, mem, same.symm⟩)
    rw [absent]
    exact Fields.get?_foldl_put_of_not_mem (fun found => listed ((keys_filterMap_sublist l).subset found)) []

theorem Value.get?_build {l : List (String × Option Value)} (nodup : (l.map (·.1)).Nodup) (k : String) :
    (Value.build l).get? k = (l.lookup k).join := by
  obtain ⟨fs, built, stored⟩ := Value.build_stores nodup
  rw [built]
  exact stored k

namespace Decode

variable {α : Type}

theorem optField_eq (fs : Fields) (key : String) (d : Decoder α) :
    optField fs key d = ((fs.get? key).map (option d)).getD (.ok none) := by
  unfold optField
  cases fs.get? key <;> rfl

theorem fieldOr_eq (fs : Fields) (key : String) (d : Decoder α) (dflt : α) :
    fieldOr fs key d dflt = ((fs.get? key).map d).getD (.ok dflt) := by
  unfold fieldOr
  cases fs.get? key <;> rfl

theorem presentField_eq (fs : Fields) (key : String) (d : Decoder α) :
    presentField fs key d = ((fs.get? key).map fun v => (d v).map some).getD (.ok none) := by
  unfold presentField
  cases fs.get? key <;> rfl

@[simp] theorem getD_map_ok (o : Option α) :
    (o.map fun a => (Except.ok (some a) : Decoded (Option α))).getD (.ok none) = .ok o := by
  cases o <;> rfl

/-- An optional member whose every value reads back is read back. -/
theorem getD_map_of_forall {o : Option α} {f : α → Decoded (Option α)} (each : ∀ a ∈ o, f a = .ok (some a)) :
    (o.map f).getD (.ok none) = .ok o := by
  cases o with
  | none => rfl
  | some a => exact each a rfl

@[simp] theorem map_ok {β : Type} (f : α → β) (a : α) : (Except.ok a : Decoded α).map f = .ok (f a) := rfl

@[simp] theorem option_str (d : Decoder α) (s : String) : option d (.str s) = (d (.str s)).map some := rfl

@[simp] theorem option_ofInt (d : Decoder α) (i : Int) : option d (.ofInt i) = (d (.ofInt i)).map some := rfl

@[simp] theorem string_str (s : String) : string (.str s) = .ok s := rfl

@[simp] theorem bool_bool (b : Bool) : bool (.bool b) = .ok b := rfl

theorem intIn_ofInt {what : String} {lo hi i : Int} (range : lo ≤ i ∧ i ≤ hi) :
    intIn what lo hi (.ofInt i) = .ok i := by
  simp [intIn, Value.ofInt, range]

/-- Optional integers within the bounds are read back. -/
theorem getD_map_intIn {what : String} {lo hi : Int} {o : Option Int} (range : ∀ i ∈ o, lo ≤ i ∧ i ≤ hi) :
    (o.map fun i => (intIn what lo hi (.ofInt i)).map some).getD (.ok none) = .ok o :=
  getD_map_of_forall fun i mem => by rw [intIn_ofInt (range i mem)]; rfl

theorem eachMember_map {d : Decoder α} {f : α → Value} {m : List (String × α)}
    (inverse : ∀ e ∈ m, d (f e.2) = .ok e.2) : eachMember d (m.map fun e => (e.1, f e.2)) = .ok m := by
  induction m with
  | nil => rfl
  | cons e rest ih =>
    simp only [List.map_cons, eachMember, inverse e List.mem_cons_self,
      ih fun e' mem => inverse e' (List.mem_cons_of_mem _ mem), bind, Except.bind, pure, Except.pure]

theorem eachItem_map {d : Decoder α} {f : α → Value} {l : List α} (inverse : ∀ a ∈ l, d (f a) = .ok a) :
    eachItem d (l.map f) = .ok l := by
  induction l with
  | nil => rfl
  | cons a rest ih =>
    simp only [List.map_cons, eachItem, inverse a List.mem_cons_self,
      ih fun a' mem => inverse a' (List.mem_cons_of_mem _ mem), bind, Except.bind, pure, Except.pure]

/-- A map written as the object of its encoded values is read back by a decoder that inverts the
encoding. -/
theorem map_obj_entries {d : Decoder α} {f : α → Value} {m : KeyMap α}
    (inverse : ∀ e ∈ m.entries, d (f e.2) = .ok e.2) : map d (.obj (m.entries.map fun e => (e.1, f e.2))) = .ok m := by
  show Except.map KeyMap.ofList (eachMember d (m.entries.map fun e => (e.1, f e.2))) = .ok m
  rw [eachMember_map inverse]
  exact congrArg Except.ok (KeyMap.ofList_entries m)

@[simp] theorem map_toValue (m : KeyMap String) : map string (KeyMap.toValue m) = .ok m :=
  map_obj_entries fun _ _ => rfl

@[simp] theorem option_toValue (m : KeyMap String) : option (map string) (KeyMap.toValue m) = .ok (some m) := by
  show Except.map some (map string (KeyMap.toValue m)) = _
  rw [map_toValue]
  rfl

/-- A map or list member is left out when empty and read back as the empty default. -/
theorem getD_map_ite_isEmpty {β : Type} {l : List β} (enc : List β → Value) {d : Decoder (List β)}
    (inverse : d (enc l) = .ok l) : ((if l.isEmpty then none else some (enc l)).map d).getD (.ok []) = .ok l := by
  cases l with
  | nil => rfl
  | cons b rest => exact inverse

/-- A map member is left out when empty and read back as the empty map. -/
theorem getD_map_ite_isEmpty_keyMap {β : Type} {m : KeyMap β} (enc : KeyMap β → Value) {d : Decoder (KeyMap β)}
    (inverse : d (enc m) = .ok m) :
    ((if m.isEmpty then none else some (enc m)).map d).getD (.ok .empty) = .ok m := by
  by_cases empty : m.isEmpty
  · rw [if_pos empty, (KeyMap.isEmpty_iff m).mp empty]
    rfl
  · rw [if_neg empty]
    exact inverse

@[simp] theorem getD_map_ite_toValue (m : KeyMap String) :
    ((if m.isEmpty then none else some (KeyMap.toValue m)).map (map string)).getD (.ok .empty) = .ok m :=
  getD_map_ite_isEmpty_keyMap KeyMap.toValue (map_toValue m)

theorem bind_recordOf_build {name : String} {specs : List MemberSpec}
    {l : List (String × Option Value)} (nodup : (l.map (·.1)).Nodup) {f : Fields → Decoded α} {a : α}
    (read : ∀ fs, (∀ k, Fields.get? fs k = (l.lookup k).join) → f fs = .ok a) :
    (recordOf name specs (Value.build l) >>= f) = .ok a := by
  obtain ⟨fs, built, stored⟩ := Value.build_stores nodup
  rw [built]
  exact read fs stored

/-- What an optional member reads as, for a decoder that refuses null: nothing when the member
is absent or null, its value otherwise. -/
theorem optField_eq_bind {fs : Fields} {key : String} {d : Decoder α} {x : Option α}
    (nullFails : ∀ a, d .null ≠ .ok a) (read : optField fs key d = .ok x) :
    x = (fs.get? key).bind fun v => (d v).toOption := by
  rw [optField_eq] at read
  cases stored : fs.get? key with
  | none =>
    rw [stored] at read
    cases read
    rfl
  | some v =>
    rw [stored] at read
    cases v with
    | null =>
      cases read
      cases decoded : d .null with
      | error _ => simp [decoded, Except.toOption]
      | ok a => exact absurd decoded (nullFails a)
    | _ =>
      simp only [Option.map_some, Option.getD_some, option] at read
      cases decoded : d _ with
      | error _ => rw [decoded] at read; cases read
      | ok a => rw [decoded] at read; cases read; simp [decoded, Except.toOption]

end Decode

end StackOperator.Json
