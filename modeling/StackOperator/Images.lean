import StackOperator.Config
import StackOperator.Json.Skim
import StackOperator.Json.Decode

/-!
# Image references

`ImageResolver.uri` turns a repository such as `entando/entando-de-app-wildfly`
into `registry/organization/image:version`. A related image configured for the
image's key (its name in upper case with `-` and `.` as `_`) replaces the whole
reference. Otherwise each coordinate is resolved by `Property.resolve`:

* registry: override, config map, fallback, else `docker.io`;
* organization: override, config map, fallback, the repository's part before
  its last `/`, else `entando`;
* version: override, the caller's explicit version, config map, fallback,
  else `latest`.

The config map holds one JSON object per image name; an entry that is not such
an object of optional strings is ignored. Members other than the coordinates
are passed over as long as they are well-formed JSON.
-/

namespace StackOperator

/-- One entry of the image-info ConfigMap. -/
structure ImageInfo where
  registry : Option String := none
  organization : Option String := none
  version : Option String := none
  deriving DecidableEq, Inhabited, Repr

/-- Read an entry from its JSON text; `none` when it is not a valid entry.
Members other than the three coordinates are read for their syntax only; a
coordinate given twice makes the entry invalid. An entry may also be the list
of its coordinates in order, of which trailing ones may be left out. -/
def ImageInfo.ofText? (text : String) : Option ImageInfo :=
  let str := Json.Decode.option Json.Decode.string
  let decoded : Json.Decoded ImageInfo := do
    match ← Json.readRecordText ["registry", "organization", "version"] text with
    | .items items =>
      if items.length > 3 then .error "invalid length"
      else do
        let registry ← (items[0]?.map str).getD (.ok none)
        let organization ← (items[1]?.map str).getD (.ok none)
        let version ← (items[2]?.map str).getD (.ok none)
        pure ⟨registry, organization, version⟩
    | .members fs => do
      let organization ← Json.Decode.optField fs "organization" Json.Decode.string
      let registry ← Json.Decode.optField fs "registry" Json.Decode.string
      let version ← Json.Decode.optField fs "version" Json.Decode.string
      pure ⟨registry, organization, version⟩
    | .other v => Json.Decode.wrongType v "struct ImageInfo"
  match decoded with
  | .ok info => some info
  | .error _ => none

/-- What image references are resolved against. -/
structure ImageResolver where
  overrides : ImageCoordinates := {}
  fallbacks : ImageCoordinates := {}
  relatedImages : List (String × String) := []
  imageInfo : List (String × ImageInfo) := []
  deriving Inhabited

namespace ImageResolver

/-- A resolver from the configuration and the raw config-map data. -/
def ofConfig (config : OperatorConfig) (configMap : List (String × String)) : ImageResolver where
  overrides := config.imageOverrides
  fallbacks := config.imageFallbacks
  relatedImages := config.relatedImages
  imageInfo := configMap.filterMap fun (k, raw) => (ImageInfo.ofText? raw).map (k, ·)

/-- The part after the last `/`. -/
def imageName (repository : String) : String :=
  String.ofList ((repository.toList.reverse.takeWhile (· ≠ '/')).reverse)

/-- The part before the last `/`, when there is a `/` and that part is not empty. -/
def repositoryOrganization (repository : String) : Option String :=
  let cs := repository.toList
  if cs.contains '/' then
    let org := (cs.reverse.dropWhile (· ≠ '/')).drop 1 |>.reverse
    if org.isEmpty then none else some (String.ofList org)
  else none

/-- The key of a related image: upper case, `-` and `.` as `_`. -/
def relatedKey (name : String) : String :=
  String.ofList (name.toList.map fun c => if c = '-' ∨ c = '.' then '_' else c.toUpper)

/-- The full image reference of a repository, with an optional explicit version. -/
def uri (r : ImageResolver) (repository : String) (explicitVersion : Option String) : String :=
  let name := imageName repository
  match r.relatedImages.lookup (relatedKey name) with
  | some u => u
  | none =>
    let info := r.imageInfo.lookup name
    let registry := Property.resolveOr
      [(.override, r.overrides.registry), (.configMap, info.bind (·.registry)),
       (.fallback, r.fallbacks.registry)] "docker.io"
    let organization := Property.resolveOr
      [(.override, r.overrides.organization), (.configMap, info.bind (·.organization)),
       (.fallback, r.fallbacks.organization), (.default, repositoryOrganization repository)] "entando"
    let version := Property.resolveOr
      [(.override, r.overrides.version), (.explicit, explicitVersion),
       (.configMap, info.bind (·.version)), (.fallback, r.fallbacks.version)] "latest"
    registry ++ "/" ++ organization ++ "/" ++ name ++ ":" ++ version

end ImageResolver

end StackOperator
