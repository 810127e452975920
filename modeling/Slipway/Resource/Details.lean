import Slipway.Resource.Schema

/-
  What the platform's API, at version 1.30, tells of containers, pods and services beyond what is
  looked into here. Fields that are required stand first in each record.
-/

namespace Slipway.Schema

def texts : Schema := list text

def localReference : Schema := object [("name", text)] []

/-! ## Selectors -/

/-- One condition of a selector, on labels or on fields. -/
def requirement : Schema := object [("key", text), ("operator", text)] [("values", texts)]

def labelSelector : Schema :=
  object [] [("matchExpressions", list requirement), ("matchLabels", attributes)]

def fieldReference : Schema := object [("fieldPath", text)] [("apiVersion", text)]

def resourceFieldReference : Schema :=
  object [("resource", text)] [("containerName", text), ("divisor", text)]

/-! ## Containers -/

def environmentSource : Schema :=
  let ofObject := object [("name", text)] [("optional", flag)]
  object [] [("configMapRef", ofObject), ("prefix", text), ("secretRef", ofObject)]

def execAction : Schema := object [] [("command", texts)]

def httpAction : Schema :=
  let header := object [("name", text), ("value", text)] []
  object [("port", port)]
    [("host", text), ("httpHeaders", list header), ("path", text), ("scheme", text)]

def socketAction : Schema := object [("port", port)] [("host", text)]

def lifecycle : Schema :=
  let handler := object [] [
    ("exec", execAction),
    ("httpGet", httpAction),
    ("sleep", object [("seconds", int64)] []),
    ("tcpSocket", socketAction)]
  object [] [("postStart", handler), ("preStop", handler)]

def probe : Schema := object [] [
  ("exec", execAction),
  ("failureThreshold", int32),
  ("grpc", object [("port", int32)] [("service", text)]),
  ("httpGet", httpAction),
  ("initialDelaySeconds", int32),
  ("periodSeconds", int32),
  ("successThreshold", int32),
  ("tcpSocket", socketAction),
  ("terminationGracePeriodSeconds", int64),
  ("timeoutSeconds", int32)]

def resizePolicy : Schema := object [("resourceName", text), ("restartPolicy", text)] []

def resourceRequirements : Schema := object [] [
  ("claims", list (object [("name", text)] [])),
  ("limits", attributes),
  ("requests", attributes)]

/-- A security profile by its type. -/
def profile : Schema := object [("type", text)] [("localhostProfile", text)]

def seLinuxOptions : Schema :=
  object [] [("level", text), ("role", text), ("type", text), ("user", text)]

def windowsOptions : Schema := object [] [
  ("gmsaCredentialSpec", text),
  ("gmsaCredentialSpecName", text),
  ("hostProcess", flag),
  ("runAsUserName", text)]

def securityContext : Schema := object [] [
  ("allowPrivilegeEscalation", flag),
  ("appArmorProfile", profile),
  ("capabilities", object [] [("add", texts), ("drop", texts)]),
  ("privileged", flag),
  ("procMount", text),
  ("readOnlyRootFilesystem", flag),
  ("runAsGroup", int64),
  ("runAsNonRoot", flag),
  ("runAsUser", int64),
  ("seLinuxOptions", seLinuxOptions),
  ("seccompProfile", profile),
  ("windowsOptions", windowsOptions)]

def volumeDevice : Schema := object [("devicePath", text), ("name", text)] []

def volumeMount : Schema := object [("mountPath", text), ("name", text)] [
  ("mountPropagation", text),
  ("readOnly", flag),
  ("recursiveReadOnly", text),
  ("subPath", text),
  ("subPathExpr", text)]

/-- What is told of a container besides its name, image, arguments, environment and ports. -/
def containerFields : Fields := .of [] [
  ("command", texts),
  ("envFrom", list environmentSource),
  ("imagePullPolicy", text),
  ("lifecycle", lifecycle),
  ("livenessProbe", probe),
  ("readinessProbe", probe),
  ("resizePolicy", list resizePolicy),
  ("resources", resourceRequirements),
  ("restartPolicy", text),
  ("securityContext", securityContext),
  ("startupProbe", probe),
  ("stdin", flag),
  ("stdinOnce", flag),
  ("terminationMessagePath", text),
  ("terminationMessagePolicy", text),
  ("tty", flag),
  ("volumeDevices", list volumeDevice),
  ("volumeMounts", list volumeMount),
  ("workingDir", text)]

/-! ## Where pods may run -/

/-- A preference with its weight. -/
def weighted (name : String) (preference : Schema) : Schema :=
  object [(name, preference), ("weight", int32)] []

def nodeAffinity : Schema :=
  let term := object [] [("matchExpressions", list requirement), ("matchFields", list requirement)]
  object [] [
    ("preferredDuringSchedulingIgnoredDuringExecution", list (weighted "preference" term)),
    ("requiredDuringSchedulingIgnoredDuringExecution",
      object [("nodeSelectorTerms", list term)] [])]

/-- Which pods to be near to, or to be away from. -/
def podAffinity : Schema :=
  let term := object [("topologyKey", text)] [
    ("labelSelector", labelSelector),
    ("matchLabelKeys", texts),
    ("mismatchLabelKeys", texts),
    ("namespaceSelector", labelSelector),
    ("namespaces", texts)]
  object [] [
    ("preferredDuringSchedulingIgnoredDuringExecution", list (weighted "podAffinityTerm" term)),
    ("requiredDuringSchedulingIgnoredDuringExecution", list term)]

def affinity : Schema := object [] [
  ("nodeAffinity", nodeAffinity),
  ("podAffinity", podAffinity),
  ("podAntiAffinity", podAffinity)]

def toleration : Schema := object [] [
  ("effect", text),
  ("key", text),
  ("operator", text),
  ("tolerationSeconds", int64),
  ("value", text)]

def topologySpread : Schema :=
  object [("maxSkew", int32), ("topologyKey", text), ("whenUnsatisfiable", text)] [
    ("labelSelector", labelSelector),
    ("matchLabelKeys", texts),
    ("minDomains", int32),
    ("nodeAffinityPolicy", text),
    ("nodeTaintsPolicy", text)]

/-! ## Volumes -/

def keyToPath : Schema := object [("key", text), ("path", text)] [("mode", int32)]

def downwardFile : Schema := object [("path", text)] [
  ("fieldRef", fieldReference),
  ("mode", int32),
  ("resourceFieldRef", resourceFieldReference)]

/-- A claim to a volume that is made for a pod. -/
def claimTemplate : Schema :=
  let typed := object [("kind", text), ("name", text)]
  let spec := object [] [
    ("accessModes", texts),
    ("dataSource", typed [("apiGroup", text)]),
    ("dataSourceRef", typed [("apiGroup", text), ("namespace", text)]),
    ("resources", object [] [("limits", attributes), ("requests", attributes)]),
    ("selector", labelSelector),
    ("storageClassName", text),
    ("volumeAttributesClassName", text),
    ("volumeMode", text),
    ("volumeName", text)]
  object [("spec", spec)] [("metadata", metadata)]

/-- Where the files of a volume with many sources come from. -/
def projection : Schema :=
  let ofObject :=
    object [("name", text)] [("items", list keyToPath), ("optional", flag)]
  object [] [
    ("clusterTrustBundle", object [("path", text)] [
      ("labelSelector", labelSelector),
      ("name", text),
      ("optional", flag),
      ("signerName", text)]),
    ("configMap", ofObject),
    ("downwardAPI", object [] [("items", list downwardFile)]),
    ("secret", ofObject),
    ("serviceAccountToken",
      object [("path", text)] [("audience", text), ("expirationSeconds", int64)])]

/-- Volumes that the platform provides itself, by what they hold. -/
def internalSources : List (String × Schema) := [
  ("configMap", object [("name", text)]
    [("defaultMode", int32), ("items", list keyToPath), ("optional", flag)]),
  ("downwardAPI", object [] [("defaultMode", int32), ("items", list downwardFile)]),
  ("emptyDir", object [] [("medium", text), ("sizeLimit", text)]),
  ("ephemeral", object [] [("volumeClaimTemplate", claimTemplate)]),
  ("gitRepo", object [("repository", text)] [("directory", text), ("revision", text)]),
  ("hostPath", object [("path", text)] [("type", text)]),
  ("persistentVolumeClaim", object [("claimName", text)] [("readOnly", flag)]),
  ("projected", object [] [("defaultMode", int32), ("sources", list projection)]),
  ("secret", object [] [
    ("defaultMode", int32),
    ("items", list keyToPath),
    ("optional", flag),
    ("secretName", text)])]

/-- Volumes that a network or a cloud provides, by what provides them. -/
def externalSources : List (String × Schema) := [
  ("awsElasticBlockStore", object [("volumeID", text)]
    [("fsType", text), ("partition", int32), ("readOnly", flag)]),
  ("azureDisk", object [("diskName", text), ("diskURI", text)]
    [("cachingMode", text), ("fsType", text), ("kind", text), ("readOnly", flag)]),
  ("azureFile", object [("secretName", text), ("shareName", text)] [("readOnly", flag)]),
  ("cephfs", object [("monitors", texts)] [
    ("path", text),
    ("readOnly", flag),
    ("secretFile", text),
    ("secretRef", localReference),
    ("user", text)]),
  ("cinder", object [("volumeID", text)]
    [("fsType", text), ("readOnly", flag), ("secretRef", localReference)]),
  ("csi", object [("driver", text)] [
    ("fsType", text),
    ("nodePublishSecretRef", localReference),
    ("readOnly", flag),
    ("volumeAttributes", attributes)]),
  ("fc", object [] [
    ("fsType", text),
    ("lun", int32),
    ("readOnly", flag),
    ("targetWWNs", texts),
    ("wwids", texts)]),
  ("flexVolume", object [("driver", text)] [
    ("fsType", text),
    ("options", attributes),
    ("readOnly", flag),
    ("secretRef", localReference)]),
  ("flocker", object [] [("datasetName", text), ("datasetUUID", text)]),
  ("gcePersistentDisk", object [("pdName", text)]
    [("fsType", text), ("partition", int32), ("readOnly", flag)]),
  ("glusterfs", object [("endpoints", text), ("path", text)] [("readOnly", flag)]),
  ("iscsi", object [("iqn", text), ("lun", int32), ("targetPortal", text)] [
    ("chapAuthDiscovery", flag),
    ("chapAuthSession", flag),
    ("fsType", text),
    ("initiatorName", text),
    ("iscsiInterface", text),
    ("portals", texts),
    ("readOnly", flag),
    ("secretRef", localReference)]),
  ("nfs", object [("path", text), ("server", text)] [("readOnly", flag)]),
  ("photonPersistentDisk", object [("pdID", text)] [("fsType", text)]),
  ("portworxVolume", object [("volumeID", text)] [("fsType", text), ("readOnly", flag)]),
  ("quobyte", object [("registry", text), ("volume", text)]
    [("group", text), ("readOnly", flag), ("tenant", text), ("user", text)]),
  ("rbd", object [("image", text), ("monitors", texts)] [
    ("fsType", text),
    ("keyring", text),
    ("pool", text),
    ("readOnly", flag),
    ("secretRef", localReference),
    ("user", text)]),
  ("scaleIO", object [("gateway", text), ("secretRef", localReference), ("system", text)] [
    ("fsType", text),
    ("protectionDomain", text),
    ("readOnly", flag),
    ("sslEnabled", flag),
    ("storageMode", text),
    ("storagePool", text),
    ("volumeName", text)]),
  ("storageos", object [] [
    ("fsType", text),
    ("readOnly", flag),
    ("secretRef", localReference),
    ("volumeName", text),
    ("volumeNamespace", text)]),
  ("vsphereVolume", object [("volumePath", text)]
    [("fsType", text), ("storagePolicyID", text), ("storagePolicyName", text)])]

def volume : Schema := object [("name", text)] (internalSources ++ externalSources)

/-! ## Pods -/

def dnsConfig : Schema :=
  let option := object [] [("name", text), ("value", text)]
  object [] [("nameservers", texts), ("options", list option), ("searches", texts)]

def podSecurityContext : Schema := object [] [
  ("appArmorProfile", profile),
  ("fsGroup", int64),
  ("fsGroupChangePolicy", text),
  ("runAsGroup", int64),
  ("runAsNonRoot", flag),
  ("runAsUser", int64),
  ("seLinuxOptions", seLinuxOptions),
  ("seccompProfile", profile),
  ("supplementalGroups", list int64),
  ("sysctls", list (object [("name", text), ("value", text)] [])),
  ("windowsOptions", windowsOptions)]

def resourceClaim : Schema :=
  let source := object [] [("resourceClaimName", text), ("resourceClaimTemplateName", text)]
  object [("name", text)] [("source", source)]

/-- What is told of a pod besides its containers, node selector, restart policy and service
    account. -/
def podFields : Fields := .of [] [
  ("activeDeadlineSeconds", int64),
  ("affinity", affinity),
  ("automountServiceAccountToken", flag),
  ("dnsConfig", dnsConfig),
  ("dnsPolicy", text),
  ("enableServiceLinks", flag),
  ("hostAliases", list (object [("ip", text)] [("hostnames", texts)])),
  ("hostIPC", flag),
  ("hostNetwork", flag),
  ("hostPID", flag),
  ("hostUsers", flag),
  ("hostname", text),
  ("imagePullSecrets", list localReference),
  ("nodeName", text),
  ("os", object [("name", text)] []),
  ("overhead", attributes),
  ("preemptionPolicy", text),
  ("priority", int32),
  ("priorityClassName", text),
  ("readinessGates", list (object [("conditionType", text)] [])),
  ("resourceClaims", list resourceClaim),
  ("runtimeClassName", text),
  ("schedulerName", text),
  ("schedulingGates", list (object [("name", text)] [])),
  ("securityContext", podSecurityContext),
  ("serviceAccount", text),
  ("setHostnameAsFQDN", flag),
  ("shareProcessNamespace", flag),
  ("subdomain", text),
  ("terminationGracePeriodSeconds", int64),
  ("tolerations", list toleration),
  ("topologySpreadConstraints", list topologySpread),
  ("volumes", list volume)]

/-! ## Services -/

/-- What is told of a service besides its ports, selector and type. -/
def serviceFields : Fields := .of [] [
  ("allocateLoadBalancerNodePorts", flag),
  ("clusterIP", text),
  ("clusterIPs", texts),
  ("externalIPs", texts),
  ("externalName", text),
  ("externalTrafficPolicy", text),
  ("healthCheckNodePort", int32),
  ("internalTrafficPolicy", text),
  ("ipFamilies", texts),
  ("ipFamilyPolicy", text),
  ("loadBalancerClass", text),
  ("loadBalancerIP", text),
  ("loadBalancerSourceRanges", texts),
  ("publishNotReadyAddresses", flag),
  ("sessionAffinity", text),
  ("sessionAffinityConfig", object [] [("clientIP", object [] [("timeoutSeconds", int32)])]),
  ("trafficDistribution", text)]

end Slipway.Schema
