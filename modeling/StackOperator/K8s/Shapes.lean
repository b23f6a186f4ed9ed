import StackOperator.K8s.Schema

/-!
# The object types the operator reads

The shapes of the Kubernetes API object types (version 1.33) that callers
hand to the operator: object metadata, containers with everything they may
hold, the rules of a Role, and Ingresses with their specification and
status. Member keys are the API's camelCase names; a member is required where
the API requires it.
-/

namespace StackOperator.K8s.Shapes

open Member

/-- A list of texts. -/
def texts : Shape := .list .string

/-- A map of texts. -/
def textMap : Shape := .map .string

/-- A reference from an object to its owner. -/
def ownerReference : Shape :=
  .object "OwnerReference" [req "apiVersion" .string, opt "blockOwnerDeletion" .boolean,
    opt "controller" .boolean, req "kind" .string, req "name" .string, req "uid" .string]

/-- An entry of the fields an actor manages. -/
def managedFieldsEntry : Shape :=
  .object "ManagedFieldsEntry" [opt "apiVersion" .string, opt "fieldsType" .string,
    opt "fieldsV1" .anyValue, opt "manager" .string, opt "operation" .string,
    opt "subresource" .string, opt "time" .time]

/-- The metadata of an object. -/
def objectMeta : Shape :=
  .object "ObjectMeta" [opt "annotations" textMap, opt "creationTimestamp" .time,
    opt "deletionGracePeriodSeconds" .int64, opt "deletionTimestamp" .time,
    opt "finalizers" texts, opt "generateName" .string, opt "generation" .int64,
    opt "labels" textMap, opt "managedFields" (.list managedFieldsEntry), opt "name" .string,
    opt "namespace" .string, opt "ownerReferences" (.list ownerReference),
    opt "resourceVersion" .string, opt "selfLink" .string, opt "uid" .string]

/-- A key of a ConfigMap. -/
def configMapKeySelector : Shape :=
  .object "ConfigMapKeySelector" [req "key" .string, req "name" .string, opt "optional" .boolean]

/-- A key of a Secret. -/
def secretKeySelector : Shape :=
  .object "SecretKeySelector" [req "key" .string, req "name" .string, opt "optional" .boolean]

/-- A member of the pod's own object. -/
def objectFieldSelector : Shape :=
  .object "ObjectFieldSelector" [opt "apiVersion" .string, req "fieldPath" .string]

/-- A resource of a container. -/
def resourceFieldSelector : Shape :=
  .object "ResourceFieldSelector" [opt "containerName" .string, opt "divisor" .quantity,
    req "resource" .string]

/-- Where a variable's value comes from. -/
def envVarSource : Shape :=
  .object "EnvVarSource" [opt "configMapKeyRef" configMapKeySelector,
    opt "fieldRef" objectFieldSelector, opt "resourceFieldRef" resourceFieldSelector,
    opt "secretKeyRef" secretKeySelector]

/-- An environment variable. -/
def envVar : Shape :=
  .object "EnvVar" [req "name" .string, opt "value" .string, opt "valueFrom" envVarSource]

/-- A ConfigMap whose keys all become variables. -/
def configMapEnvSource : Shape :=
  .object "ConfigMapEnvSource" [req "name" .string, opt "optional" .boolean]

/-- A Secret whose keys all become variables. -/
def secretEnvSource : Shape :=
  .object "SecretEnvSource" [req "name" .string, opt "optional" .boolean]

/-- A source of many variables. -/
def envFromSource : Shape :=
  .object "EnvFromSource" [opt "configMapRef" configMapEnvSource, opt "prefix" .string,
    opt "secretRef" secretEnvSource]

/-- A command run in the container. -/
def execAction : Shape := .object "ExecAction" [opt "command" texts]

/-- A header of an HTTP request. -/
def httpHeader : Shape := .object "HTTPHeader" [req "name" .string, req "value" .string]

/-- An HTTP GET request. -/
def httpGetAction : Shape :=
  .object "HTTPGetAction" [opt "host" .string, opt "httpHeaders" (.list httpHeader),
    opt "path" .string, req "port" .intOrString, opt "scheme" .string]

/-- A TCP connection. -/
def tcpSocketAction : Shape :=
  .object "TCPSocketAction" [opt "host" .string, req "port" .intOrString]

/-- A gRPC health check. -/
def grpcAction : Shape := .object "GRPCAction" [req "port" .int32, opt "service" .string]

/-- A pause. -/
def sleepAction : Shape := .object "SleepAction" [req "seconds" .int64]

/-- What is done at a point of a container's life. -/
def lifecycleHandler : Shape :=
  .object "LifecycleHandler" [opt "exec" execAction, opt "httpGet" httpGetAction,
    opt "sleep" sleepAction, opt "tcpSocket" tcpSocketAction]

/-- What is done when a container starts and stops. -/
def lifecycle : Shape :=
  .object "Lifecycle" [opt "postStart" lifecycleHandler, opt "preStop" lifecycleHandler,
    opt "stopSignal" .string]

/-- A check of a container's health. -/
def probe : Shape :=
  .object "Probe" [opt "exec" execAction, opt "failureThreshold" .int32, opt "grpc" grpcAction,
    opt "httpGet" httpGetAction, opt "initialDelaySeconds" .int32, opt "periodSeconds" .int32,
    opt "successThreshold" .int32, opt "tcpSocket" tcpSocketAction,
    opt "terminationGracePeriodSeconds" .int64, opt "timeoutSeconds" .int32]

/-- A port a container listens on. -/
def containerPort : Shape :=
  .object "ContainerPort" [req "containerPort" .int32, opt "hostIP" .string, opt "hostPort" .int32,
    opt "name" .string, opt "protocol" .string]

/-- How a container is resized. -/
def containerResizePolicy : Shape :=
  .object "ContainerResizePolicy" [req "resourceName" .string, req "restartPolicy" .string]

/-- A claim of a dynamically allocated resource. -/
def resourceClaim : Shape := .object "ResourceClaim" [req "name" .string, opt "request" .string]

/-- The compute resources of a container. -/
def resourceRequirements : Shape :=
  .object "ResourceRequirements" [opt "claims" (.list resourceClaim), opt "limits" (.map .quantity),
    opt "requests" (.map .quantity)]

/-- An AppArmor profile. -/
def appArmorProfile : Shape :=
  .object "AppArmorProfile" [opt "localhostProfile" .string, req "type" .string]

/-- Kernel capabilities added and dropped. -/
def capabilities : Shape := .object "Capabilities" [opt "add" texts, opt "drop" texts]

/-- An SELinux label. -/
def seLinuxOptions : Shape :=
  .object "SELinuxOptions" [opt "level" .string, opt "role" .string, opt "type" .string,
    opt "user" .string]

/-- A seccomp profile. -/
def seccompProfile : Shape :=
  .object "SeccompProfile" [opt "localhostProfile" .string, req "type" .string]

/-- Windows options of a container. -/
def windowsSecurityContextOptions : Shape :=
  .object "WindowsSecurityContextOptions" [opt "gmsaCredentialSpec" .string,
    opt "gmsaCredentialSpecName" .string, opt "hostProcess" .boolean, opt "runAsUserName" .string]

/-- The security settings of a container. -/
def securityContext : Shape :=
  .object "SecurityContext" [opt "allowPrivilegeEscalation" .boolean,
    opt "appArmorProfile" appArmorProfile, opt "capabilities" capabilities,
    opt "privileged" .boolean, opt "procMount" .string, opt "readOnlyRootFilesystem" .boolean,
    opt "runAsGroup" .int64, opt "runAsNonRoot" .boolean, opt "runAsUser" .int64,
    opt "seLinuxOptions" seLinuxOptions, opt "seccompProfile" seccompProfile,
    opt "windowsOptions" windowsSecurityContextOptions]

/-- A block device of a container. -/
def volumeDevice : Shape := .object "VolumeDevice" [req "devicePath" .string, req "name" .string]

/-- A volume mounted in a container. -/
def volumeMount : Shape :=
  .object "VolumeMount" [req "mountPath" .string, opt "mountPropagation" .string, req "name" .string,
    opt "readOnly" .boolean, opt "recursiveReadOnly" .string, opt "subPath" .string,
    opt "subPathExpr" .string]

/-- A container of a pod. -/
def container : Shape :=
  .object "Container" [opt "args" texts, opt "command" texts, opt "env" (.list envVar),
    opt "envFrom" (.list envFromSource), opt "image" .string, opt "imagePullPolicy" .string,
    opt "lifecycle" lifecycle, opt "livenessProbe" probe, req "name" .string,
    opt "ports" (.list containerPort), opt "readinessProbe" probe,
    opt "resizePolicy" (.list containerResizePolicy), opt "resources" resourceRequirements,
    opt "restartPolicy" .string, opt "securityContext" securityContext, opt "startupProbe" probe,
    opt "stdin" .boolean, opt "stdinOnce" .boolean, opt "terminationMessagePath" .string,
    opt "terminationMessagePolicy" .string, opt "tty" .boolean,
    opt "volumeDevices" (.list volumeDevice), opt "volumeMounts" (.list volumeMount),
    opt "workingDir" .string]

/-- A rule of a Role. -/
def policyRule : Shape :=
  .object "PolicyRule" [opt "apiGroups" texts, opt "nonResourceURLs" texts,
    opt "resourceNames" texts, opt "resources" texts, req "verbs" texts]

/-- A reference to an object of a kind in the same namespace. -/
def typedLocalObjectReference : Shape :=
  .object "TypedLocalObjectReference" [opt "apiGroup" .string, req "kind" .string, req "name" .string]

/-- A port of a Service an Ingress routes to. -/
def serviceBackendPort : Shape :=
  .object "ServiceBackendPort" [opt "name" .string, opt "number" .int32]

/-- A Service an Ingress routes to. -/
def ingressServiceBackend : Shape :=
  .object "IngressServiceBackend" [req "name" .string, opt "port" serviceBackendPort]

/-- Where an Ingress path routes to. -/
def ingressBackend : Shape :=
  .object "IngressBackend" [opt "resource" typedLocalObjectReference,
    opt "service" ingressServiceBackend]

/-- A path of an Ingress rule. -/
def httpIngressPath : Shape :=
  .object "HTTPIngressPath" [req "backend" ingressBackend, opt "path" .string,
    req "pathType" .string]

/-- The HTTP paths of an Ingress rule. -/
def httpIngressRuleValue : Shape :=
  .object "HTTPIngressRuleValue" [req "paths" (.list httpIngressPath)]

/-- The routes of one host. -/
def ingressRule : Shape :=
  .object "IngressRule" [opt "host" .string, opt "http" httpIngressRuleValue]

/-- A TLS entry of an Ingress. -/
def ingressTls : Shape := .object "IngressTLS" [opt "hosts" texts, opt "secretName" .string]

/-- The specification of an Ingress. -/
def ingressSpec : Shape :=
  .object "IngressSpec" [opt "defaultBackend" ingressBackend, opt "ingressClassName" .string,
    opt "rules" (.list ingressRule), opt "tls" (.list ingressTls)]

/-- The state of a port of a load balancer. -/
def ingressPortStatus : Shape :=
  .object "IngressPortStatus" [opt "error" .string, req "port" .int32, req "protocol" .string]

/-- An address of a load balancer. -/
def ingressLoadBalancerIngress : Shape :=
  .object "IngressLoadBalancerIngress" [opt "hostname" .string, opt "ip" .string,
    opt "ports" (.list ingressPortStatus)]

/-- The load balancer of an Ingress. -/
def ingressLoadBalancerStatus : Shape :=
  .object "IngressLoadBalancerStatus" [opt "ingress" (.list ingressLoadBalancerIngress)]

/-- The state of an Ingress. -/
def ingressStatus : Shape :=
  .object "IngressStatus" [opt "loadBalancer" ingressLoadBalancerStatus]

/-- An Ingress. -/
def ingress : Shape :=
  .object "Ingress" [req "apiVersion" (.fixed "networking.k8s.io/v1"), req "kind" (.fixed "Ingress"),
    req "metadata" objectMeta, opt "spec" ingressSpec, opt "status" ingressStatus]

end StackOperator.K8s.Shapes
