import StackOperator.Images
import Mathlib.Data.List.TakeWhile

/-!
# Image references follow their precedence

An image reference is `registry/organization/name:version`, each coordinate the first value that
counts among its candidates, where a value counts unless it is empty once Unicode white space is
trimmed, and is then taken untrimmed (`Property.firstFilled`). Main statement:
`uri_follows_precedence`: for every repository, split at its last `/` into an organization
prefix and the name (`ImageResolver.SplitsAt`), the reference is the related image configured for
the name's key when there is one, and otherwise

* registry: override, config map, fallback, else `docker.io`;
* organization: override, config map, fallback, the repository's prefix, else `entando`;
* version: override, the caller's explicit version, config map, fallback, else `latest`,

where the config-map entry is the name's entry read as an `ImageInfo`, an entry that does not read
counting as absent. The parts: source-ordered candidates are searched as they are
(`Property.resolveOr_of_ordered`), a blank value is one that trims to nothing
(`Text.trim_eq_empty_iff`), and the split gives the image's name and prefix (`SplitsAt.imageName`,
`SplitsAt.repositoryOrganization`).
-/

namespace StackOperator

/-! ## Blank values -/

namespace Text

/-- A text trims to nothing exactly when every character is blank. -/
theorem trim_eq_empty_iff (s : String) : trim s = "" ↔ isBlankText s = true := by
  unfold trim isBlankText
  rw [String.ofList_eq_empty_iff, List.reverse_eq_nil_iff, List.dropWhile_eq_nil_iff, List.all_eq_true]
  simp only [List.mem_reverse]
  constructor
  · -- what the first drop leaves starts with a character that is not blank, so it is empty
    intro rest
    by_contra kept
    have leftover : s.toList.dropWhile isBlank ≠ [] := fun none =>
      kept (List.dropWhile_eq_nil_iff.mp none)
    have stops := List.head_dropWhile_not isBlank leftover
    rw [rest _ (List.head_mem leftover)] at stops
    cases stops
  · intro blank c mem
    rw [List.dropWhile_eq_nil_iff.mpr blank] at mem
    cases mem

end Text

/-! ## Candidates in source order -/

namespace Property

/-- A value counts unless it is empty once Unicode white space is trimmed. -/
def filled (v : String) : Bool := !(Text.trim v).isEmpty

/-- The first candidate that is present and counts, as it is given. -/
def firstFilled (candidates : List (Option String)) : Option String :=
  candidates.findSome? (·.filter filled)

theorem filled_iff (v : String) : filled v = true ↔ Text.isBlankText v = false := by
  rw [← Bool.not_eq_true, ← Text.trim_eq_empty_iff, ← String.isEmpty_iff]
  simp [filled]

theorem usable_eq (c : Candidate) : usable c = (c.2.filter filled).map (c.1, ·) := by
  obtain ⟨s, _ | v⟩ := c
  · rfl
  · by_cases blank : Text.isBlankText v = true
    · simp [usable, blank, Option.filter, filled_iff]
    · simp [usable, blank, Option.filter, (filled_iff v).mpr (by simpa using blank)]

/-- Candidates already in source order are searched as they are given. -/
theorem resolveOr_of_ordered {cs : List Candidate} (inOrder : ordered cs = cs) (dflt : String) :
    resolveOr cs dflt = (firstFilled (cs.map (·.2))).getD dflt := by
  have found : (resolve cs).map (·.2) = firstFilled (cs.map (·.2)) := by
    rw [resolve, inOrder, firstFilled]
    clear inOrder
    induction cs with
    | nil => rfl
    | cons c rest ih =>
      rw [List.findSome?_cons, List.map_cons, List.findSome?_cons, usable_eq]
      cases c.2.filter filled with
      | none => exact ih
      | some v => rfl
  rw [resolveOr, ← found]
  cases resolve cs <;> rfl

/-- A last candidate that is dropped when empty gives the same value: an empty value never counts. -/
theorem firstFilled_append_nonempty (pre : List (Option String)) (last : Option String) :
    firstFilled (pre ++ [last.filter fun o => !o.isEmpty]) = firstFilled (pre ++ [last]) := by
  have dropped : (last.filter fun o => !o.isEmpty).filter filled = last.filter filled := by
    cases last with
    | none => rfl
    | some v =>
      by_cases empty : v.isEmpty = true
      · have blank : filled v = false := by simp [filled, String.isEmpty_iff.mp empty, Text.trim]
        simp [Option.filter, empty, blank]
      · simp [Option.filter, empty]
  simp only [firstFilled, List.findSome?_append, List.findSome?_cons, List.findSome?_nil, dropped]

end Property

/-! ## The name and prefix of a repository -/

namespace ImageResolver

/-- A repository split at its last `/`: the prefix before it, when there is a `/`, and the name
after it. -/
inductive SplitsAt : String → Option String → String → Prop
  | plain {name : String} : '/' ∉ name.toList → SplitsAt name none name
  | nested (org : String) {name : String} : '/' ∉ name.toList → SplitsAt (org ++ "/" ++ name) (some org) name

theorem reverse_toList_nested (org name : String) :
    (org ++ "/" ++ name).toList.reverse = name.toList.reverse ++ '/' :: org.toList.reverse := by
  simp [String.toList_append]

/-- A list of characters has no `/`, or a last one. -/
theorem exists_last_slash (l : List Char) :
    '/' ∉ l ∨ ∃ pre post, l = pre ++ '/' :: post ∧ '/' ∉ post := by
  induction l with
  | nil => exact .inl List.not_mem_nil
  | cons c rest ih =>
    rcases ih with plain | ⟨pre, post, split, plain⟩
    · by_cases slash : c = '/'
      · exact .inr ⟨[], rest, by simp [slash], plain⟩
      · exact .inl (by simp [Ne.symm slash, plain])
    · exact .inr ⟨c :: pre, post, by simp [split], plain⟩

/-- Every repository splits at its last `/`. -/
theorem SplitsAt.exists (repository : String) : ∃ org name, SplitsAt repository org name := by
  rcases exists_last_slash repository.toList with plain | ⟨pre, post, split, plain⟩
  · exact ⟨none, repository, .plain plain⟩
  · refine ⟨some (String.ofList pre), String.ofList post, ?_⟩
    have joined : repository = String.ofList pre ++ "/" ++ String.ofList post := by
      rw [← String.toList_inj]
      simp [split, String.toList_append]
    rw [joined]
    exact .nested _ (by simpa using plain)

/-- No character of a name without `/` stops a scan for `/`. -/
theorem not_slash_of_plain {name : String} (plain : '/' ∉ name.toList) :
    ∀ c ∈ name.toList.reverse, decide (c ≠ '/') = true := by
  intro c mem
  simp only [ne_eq, decide_eq_true_eq]
  rintro rfl
  exact plain (List.mem_reverse.mp mem)

/-- The name of an image is the part after the last `/`. -/
theorem SplitsAt.imageName {repository name : String} {org : Option String}
    (split : SplitsAt repository org name) : ImageResolver.imageName repository = name := by
  cases split with
  | plain plain =>
    have whole := List.takeWhile_eq_self_iff.mpr (not_slash_of_plain plain)
    rw [ImageResolver.imageName, whole, List.reverse_reverse, String.ofList_toList]
  | nested org plain =>
    have upToSlash : (name.toList.reverse ++ '/' :: org.toList.reverse).takeWhile (· ≠ '/') =
        name.toList.reverse := by
      rw [List.takeWhile_append_of_pos (not_slash_of_plain plain)]
      simp
    simp only [ImageResolver.imageName, reverse_toList_nested, upToSlash, List.reverse_reverse,
      String.ofList_toList]

/-- The organization of a repository is its prefix before the last `/`, when that is not empty. -/
theorem SplitsAt.repositoryOrganization {repository name : String} {org : Option String}
    (split : SplitsAt repository org name) :
    ImageResolver.repositoryOrganization repository = org.filter fun o => !o.isEmpty := by
  cases split with
  | plain plain =>
    simp [ImageResolver.repositoryOrganization, plain]
  | nested org plain =>
    have slash : (org ++ "/" ++ name).toList.contains '/' = true := by simp [String.toList_append]
    have afterSlash : (org ++ "/" ++ name).toList.reverse.dropWhile (· ≠ '/') = '/' :: org.toList.reverse := by
      rw [reverse_toList_nested, List.dropWhile_append_of_pos (not_slash_of_plain plain)]
      simp
    dsimp only [ImageResolver.repositoryOrganization]
    rw [if_pos slash, afterSlash, List.drop_one, List.tail_cons, List.reverse_reverse, String.ofList_toList]
    by_cases empty : org.isEmpty = true
    · simp [Option.filter, String.isEmpty_iff.mp empty]
    · have chars : org.toList ≠ [] := fun none => empty (String.isEmpty_iff.mpr (String.toList_inj.mp none))
      simp [Option.filter, empty, chars]

/-- The key of a related image: the name with `-` and `.` as `_`, upper-cased. -/
theorem relatedKey_eq (name : String) :
    relatedKey name = (name.map fun c => if c = '-' ∨ c = '.' then '_' else c).toUpper := by
  rw [← String.toList_inj, relatedKey, String.toList_ofList, String.toUpper, String.toList_map,
    String.toList_map, List.map_map]
  refine List.map_congr_left fun c _ => ?_
  by_cases replaced : c = '-' ∨ c = '.'
  · simp [replaced]
  · simp [replaced]

/-- With each key once in the config map, a name's entry is the entry under it, read as an
`ImageInfo`; an entry that does not read is absent. -/
theorem lookup_imageInfo (config : OperatorConfig) {configMap : List (String × String)}
    (distinct : (configMap.map (·.1)).Nodup) (name : String) :
    (ofConfig config configMap).imageInfo.lookup name = (configMap.lookup name).bind ImageInfo.ofText? := by
  simp only [ofConfig]
  induction configMap with
  | nil => rfl
  | cons entry rest ih =>
    obtain ⟨key, raw⟩ := entry
    obtain ⟨fresh, restDistinct⟩ := List.nodup_cons.mp distinct
    by_cases same : name = key
    · subst same
      have absent : rest.lookup name = none := List.lookup_eq_none_iff.mpr fun p mem => by
        simp only [bne_iff_ne, ne_eq]
        intro same
        have listed : p.1 ∈ rest.map (·.1) := List.mem_map_of_mem mem
        rw [← same] at listed
        exact fresh listed
      cases read : ImageInfo.ofText? raw with
      | none =>
        simp only [List.filterMap_cons, read, Option.map_none, List.lookup_cons_self, Option.bind_some]
        rw [ih restDistinct, absent]
        rfl
      | some info =>
        simp only [List.filterMap_cons, read, Option.map_some, List.lookup_cons_self, Option.bind_some]
    · have other : (name == key) = false := by simpa using same
      cases read : ImageInfo.ofText? raw <;>
        simp only [List.filterMap_cons, read, Option.map_none, Option.map_some, List.lookup_cons, other,
          ih restDistinct]

end ImageResolver

open ImageResolver Property in
/-- The image reference of every repository: the related image configured for its name's key, or
each coordinate resolved from its candidates in precedence order. The config map is keyed by
image name, each key once. -/
theorem uri_follows_precedence (config : OperatorConfig) (configMap : List (String × String))
    (distinct : (configMap.map (·.1)).Nodup) (repository : String) (explicitVersion : Option String) :
    (∃ org name, SplitsAt repository org name) ∧
    ∀ org name, SplitsAt repository org name →
      let info := (configMap.lookup name).bind ImageInfo.ofText?
      (ofConfig config configMap).uri repository explicitVersion =
        match config.relatedImages.lookup (name.map fun c => if c = '-' ∨ c = '.' then '_' else c).toUpper with
        | some uri => uri
        | none =>
          (firstFilled [config.imageOverrides.registry, info.bind (·.registry),
            config.imageFallbacks.registry]).getD "docker.io" ++ "/" ++
          (firstFilled [config.imageOverrides.organization, info.bind (·.organization),
            config.imageFallbacks.organization, org]).getD "entando" ++ "/" ++ name ++ ":" ++
          (firstFilled [config.imageOverrides.version, explicitVersion, info.bind (·.version),
            config.imageFallbacks.version]).getD "latest" := by
  refine ⟨SplitsAt.exists repository, fun org name split => ?_⟩
  intro info
  unfold ImageResolver.uri
  dsimp only
  rw [split.imageName, split.repositoryOrganization, ← relatedKey_eq, lookup_imageInfo config distinct]
  simp only [ofConfig]
  cases config.relatedImages.lookup (relatedKey name) with
  | some uri => rfl
  | none =>
    -- each chain lists its sources in precedence order already
    dsimp only
    rw [resolveOr_of_ordered rfl, resolveOr_of_ordered rfl, resolveOr_of_ordered rfl]
    simp only [List.map_cons, List.map_nil]
    rw [show [config.imageOverrides.organization, info.bind (·.organization), config.imageFallbacks.organization,
        org.filter fun o => !o.isEmpty] = [config.imageOverrides.organization, info.bind (·.organization),
        config.imageFallbacks.organization] ++ [org.filter fun o => !o.isEmpty] from rfl,
      firstFilled_append_nonempty]
    rfl

open ImageResolver in
/-- An image whose version comes from its config-map entry and whose registry from the fallback. -/
theorem uri_follows_precedence_of_config_map_version :
    let config : OperatorConfig := { imageFallbacks := { registry := some "registry.example.com" } }
    let configMap := [("entando-de-app-wildfly", "\x7b\"version\": \"7.0.0\"\x7d")]
    (configMap.map (·.1)).Nodup ∧
      (ofConfig config configMap).uri ("entando" ++ "/" ++ "entando-de-app-wildfly") none =
        "registry.example.com/entando/entando-de-app-wildfly:7.0.0" := by
  intro config configMap
  have distinct : (configMap.map (·.1)).Nodup := by decide
  have split : SplitsAt ("entando" ++ "/" ++ "entando-de-app-wildfly") (some "entando") "entando-de-app-wildfly" :=
    .nested "entando" (by decide)
  refine ⟨distinct, ?_⟩
  rw [(uri_follows_precedence config configMap distinct _ none).2 _ _ split]
  decide

end StackOperator
