import StackOperator.Config
import StackOperator.K8s.Meta

/-!
# External routes

A resource served over HTTP is exposed under one host through its Ingress.
The host is the one the resource asks for, or else `<name>-<namespace>.<suffix>`
under the operator's default routing suffix; without either the resource
cannot be routed. TLS is used when the resource or the operator names a
certificate Secret, and the scheme of the external URL follows from that.

Main statement: `scheme_eq_https_iff`.
-/

namespace StackOperator

/-- The Ingress a resource's HTTP containers are exposed on. -/
structure IngressRequirements where
  ingressName : String
  host : String
  tlsSecretName : Option String := none
  deriving DecidableEq, Inhabited, Repr

namespace IngressRequirements

/-- `https` when a certificate Secret is named, `http` otherwise. -/
def scheme (r : IngressRequirements) : String :=
  if r.tlsSecretName.isSome then "https" else "http"

/-- The external base URL: scheme and host. -/
def externalBaseUrl (r : IngressRequirements) : String := r.scheme ++ "://" ++ r.host

/-- The route of a resource from the host and certificate it asks for. Empty
texts count as not given; the resource's certificate wins over the default. -/
def resolve (owner : K8s.Reference) (host tlsSecretName : Option String) (config : OperatorConfig) :
    Except Error IngressRequirements := do
  let host ← match host.filter (· ≠ "") with
    | some h => pure h
    | none =>
      match config.defaultRoutingSuffix with
      | none => throw (.config (owner.kind ++ " " ++ owner.ns ++ "/" ++ owner.name ++
          " has no ingressHostName and no default routing suffix is configured"))
      | some suffix => pure (owner.name ++ "-" ++ owner.ns ++ "." ++ suffix)
  let tls := (tlsSecretName <|> config.defaultTlsSecretName).filter (· ≠ "")
  pure { ingressName := Names.ingressName owner.name, host, tlsSecretName := tls }

theorem scheme_eq_https_iff (r : IngressRequirements) :
    r.scheme = "https" ↔ r.tlsSecretName.isSome := by
  unfold scheme
  cases r.tlsSecretName <;> simp

end IngressRequirements

end StackOperator
