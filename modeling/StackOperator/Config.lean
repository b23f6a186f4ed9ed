import StackOperator.Database.Vendor
import StackOperator.Error
import StackOperator.Text.Blank
import StackOperator.Text.Quoted

/-!
# Operator configuration

Settings resolved once at start-up: the compliance mode (which selects the
default DBMS and images), the request-to-limit ratios, timeouts, routing and
TLS defaults, and image coordinates that override or back up those of the
image-info ConfigMap.

`Property.resolve` picks one value out of candidates from several sources:
the candidates are ordered by source (override, explicit, config map,
fallback, default), keeping the given order among equal sources, and the
first value that is not blank wins, untrimmed.

Main statement: `Property.resolve_eq_find`, resolution is a search of the
candidates in source order.
-/

namespace StackOperator

/-- Whether community images or Red Hat certified ones are deployed. -/
inductive ComplianceMode where
  | community
  | redhat
  deriving DecidableEq, Inhabited, Repr

namespace ComplianceMode

/-- The name of a mode. -/
def name : ComplianceMode → String
  | .community => "community"
  | .redhat => "redhat"

/-- The DBMS used when a resource names none. -/
def defaultDbms : ComplianceMode → Vendor
  | .community => .embedded
  | .redhat => .postgresql

/-- ASCII letters in lower case; everything else unchanged. -/
def asciiLower (s : String) : String := String.ofList (s.toList.map Char.toLower)

/-- Read a mode, ignoring ASCII case. -/
def parse (s : String) : Except Error ComplianceMode :=
  let lower := asciiLower s
  if lower = "community" then .ok .community
  else if lower = "redhat" then .ok .redhat
  else .error (.config ("unknown compliance mode " ++ Text.quoted lower ++
    ", expected 'community' or 'redhat'"))

end ComplianceMode

/-- Request-to-limit ratios for memory and CPU. -/
structure Ratios where
  memory : Float := 0.1
  cpu : Float := 0.1
  deriving Inhabited

/-- A global ratio with optional overrides per resource. -/
def Ratios.ofParts (global : Float) (memory cpu : Option Float) : Ratios :=
  ⟨memory.getD global, cpu.getD global⟩

/-- Image coordinates that may be overridden or supplied as a fallback. -/
structure ImageCoordinates where
  registry : Option String := none
  organization : Option String := none
  version : Option String := none
  deriving DecidableEq, Inhabited, Repr

/-- Operator-wide settings. Durations are in milliseconds. -/
structure OperatorConfig where
  operatorNamespace : String := "default"
  complianceMode : ComplianceMode := .community
  ratios : Ratios := {}
  imposeLimits : Bool := true
  podCompletionTimeoutMs : Nat := 600000
  podReadinessTimeoutMs : Nat := 600000
  pollIntervalMs : Nat := 2000
  defaultRoutingSuffix : Option String := none
  defaultTlsSecretName : Option String := none
  caSecretName : Option String := none
  defaultStorageClass : Option String := none
  imageInfoConfigMap : String := "entando-docker-image-info"
  imageOverrides : ImageCoordinates := {}
  imageFallbacks : ImageCoordinates := {}
  /-- Image references for repositories, keyed by upper-case image name. -/
  relatedImages : List (String × String) := []
  deriving Inhabited

/-- The DBMS a resource asked for, or the compliance mode's default. -/
def OperatorConfig.effectiveDbms (c : OperatorConfig) (requested : Option Vendor) : Vendor :=
  requested.getD c.complianceMode.defaultDbms

/-- Where a property value came from, in precedence order. -/
inductive PropertySource where
  | override
  | explicit
  | configMap
  | fallback
  | default
  deriving DecidableEq, Inhabited, Repr

namespace PropertySource

/-- The rank of a source: lower wins. -/
def rank : PropertySource → Nat
  | .override => 0
  | .explicit => 1
  | .configMap => 2
  | .fallback => 3
  | .default => 4

/-- The name of a source. -/
def name : PropertySource → String
  | .override => "Override"
  | .explicit => "Explicit"
  | .configMap => "ConfigMap"
  | .fallback => "Fallback"
  | .default => "Default"

/-- All sources in precedence order. -/
def all : List PropertySource := [.override, .explicit, .configMap, .fallback, .default]

end PropertySource

namespace Property

/-- A candidate value with its source. -/
abbrev Candidate := PropertySource × Option String

/-- Candidates ordered by source, the given order kept among equal sources. -/
def ordered (cs : List Candidate) : List Candidate :=
  PropertySource.all.flatMap fun s => cs.filter (·.1 == s)

/-- A candidate that is present and not blank, as a source and value. -/
def usable : Candidate → Option (PropertySource × String)
  | (s, some v) => if Text.isBlankText v then none else some (s, v)
  | (_, none) => none

/-- The first usable candidate in source order. -/
def resolve (cs : List Candidate) : Option (PropertySource × String) :=
  (ordered cs).findSome? usable

/-- The resolved value, or a default. -/
def resolveOr (cs : List Candidate) (dflt : String) : String :=
  match resolve cs with
  | some (_, v) => v
  | none => dflt

theorem resolve_eq_find (cs : List Candidate) :
    resolve cs = (ordered cs).findSome? usable := rfl

end Property

end StackOperator
