import PhasedInstall.Cluster.Metadata

/-!
# Shapes of the cluster's own kinds

The cluster publishes which fields the objects of its own kinds have, and of what type each one
is. A reader of such a kind takes an object only if every field that it knows has that type.
Fields that it does not know are ignored, and a field that is null counts as absent; no field has
to be there.

The tables cover deployments, the registrations of mutating webhooks, the definitions of custom
resources, and the lists in which the cluster says what it serves.
-/

set_option autoImplicit false

namespace PhasedInstall

/-- The records whose fields are published. -/
inductive RecordName where
  | affinity
  | awsVolume
  | azureDiskVolume
  | azureFileVolume
  | capabilities
  | cephVolume
  | cinderVolume
  | claimSource
  | claimSpec
  | claimTemplate
  | columnDefinition
  | configMapEnvSource
  | configMapKeySelector
  | configMapProjection
  | configMapVolume
  | container
  | containerPort
  | conversion
  | csiVolume
  | definition
  | definitionCondition
  | definitionNames
  | definitionSpec
  | definitionStatus
  | definitionVersion
  | deployment
  | deploymentCondition
  | deploymentSpec
  | deploymentStatus
  | deploymentStrategy
  | dnsConfig
  | dnsOption
  | downwardFile
  | downwardProjection
  | downwardVolume
  | emptyDirVolume
  | envFromSource
  | envSource
  | envVar
  | ephemeralVolume
  | execAction
  | externalDocs
  | fcVolume
  | fieldSelector
  | flexVolume
  | flockerVolume
  | gceVolume
  | gitVolume
  | glusterVolume
  | handler
  | hostAlias
  | hostPathVolume
  | httpGetAction
  | httpHeader
  | iscsiVolume
  | keyToPath
  | labelRequirement
  | labelSelector
  | lifecycle
  | localReference
  | nfsVolume
  | nodeAffinity
  | nodeRequirement
  | nodeSelector
  | nodeSelectorTerm
  | photonVolume
  | podAffinity
  | podAffinityTerm
  | podSecurity
  | podSpec
  | podTemplate
  | portworxVolume
  | preferredNodeTerm
  | probe
  | projectedVolume
  | projection
  | quobyteVolume
  | rbdVolume
  | readinessGate
  | resource
  | resourceFieldSelector
  | resourceList
  | resources
  | rollingUpdate
  | scale
  | scaleIoVolume
  | schema
  | schemaHolder
  | seccompProfile
  | secretEnvSource
  | secretKeySelector
  | secretProjection
  | secretVolume
  | securityContext
  | selinuxOptions
  | serviceReference
  | storageOsVolume
  | subresources
  | sysctl
  | tcpSocketAction
  | toleration
  | tokenProjection
  | topologyConstraint
  | typedReference
  | volume
  | volumeDevice
  | volumeMount
  | vsphereVolume
  | webhook
  | webhookClient
  | webhookConfiguration
  | webhookConversion
  | webhookRule
  | weightedPodTerm
  | windowsOptions
deriving DecidableEq, Repr

/-- The type of a field. -/
inductive Shape where
  | any
  | text
  | flag
  | int32
  | int64
  /-- Any number. -/
  | number
  | timestamp
  /-- An integer or a text. -/
  | intOrText
  /-- Bytes, written in base 64. -/
  | bytes
  /-- The metadata of an object. -/
  | metadata
  | list (item : Shape)
  | map (value : Shape)
  | record (name : RecordName)
  /-- A schema, or a truth value for "anything" and "nothing". -/
  | schemaOrFlag
  /-- A schema, or a list of schemas. -/
  | schemaOrList
  /-- A schema, or a list of names. -/
  | schemaOrNames
deriving DecidableEq, Repr

namespace Shape

/-- The value of a digit in base 64. -/
def base64Digit? (c : Char) : Option Nat :=
  if 'A' ≤ c ∧ c ≤ 'Z' then some (c.toNat - 65)
  else if 'a' ≤ c ∧ c ≤ 'z' then some (c.toNat - 71)
  else if '0' ≤ c ∧ c ≤ '9' then some (c.toNat + 4)
  else if c = '+' then some 62
  else if c = '/' then some 63
  else none

/-- Whether a text is bytes in base 64: groups of four digits, the last one padded. The bits
before the padding that belong to no byte are zero. -/
def isBase64 : List Char → Bool
  | [] => true
  | [a, b, '=', '='] =>
    match base64Digit? a, base64Digit? b with
    | some _, some y => y % 16 = 0
    | _, _ => false
  | [a, b, c, '='] =>
    match base64Digit? a, base64Digit? b, base64Digit? c with
    | some _, some _, some z => z % 4 = 0
    | _, _, _ => false
  | a :: b :: c :: d :: rest =>
    (base64Digit? a).isSome && (base64Digit? b).isSome && (base64Digit? c).isSome
      && (base64Digit? d).isSome && isBase64 rest
  | _ => false

end Shape

namespace RecordName

/-- Fields of one type. -/
def fieldsOf (shape : Shape) (names : List String) : List (String × Shape) :=
  names.map fun name => (name, shape)

/-- Fields of texts. -/
def texts (names : List String) : List (String × Shape) := fieldsOf .text names

/-- Fields of truth values. -/
def flags (names : List String) : List (String × Shape) := fieldsOf .flag names

/-- Fields of small integers. -/
def ints (names : List String) : List (String × Shape) := fieldsOf .int32 names

/-- A field that holds a list of texts. -/
def textLists (names : List String) : List (String × Shape) := fieldsOf (.list .text) names

/-- The fields of a record. -/
def fields : RecordName → List (String × Shape)
  | affinity =>
    [("nodeAffinity", .record nodeAffinity), ("podAffinity", .record podAffinity),
      ("podAntiAffinity", .record podAffinity)]
  | awsVolume => texts ["fsType", "volumeID"] ++ ints ["partition"] ++ flags ["readOnly"]
  | azureDiskVolume =>
    texts ["cachingMode", "diskName", "diskURI", "fsType", "kind"] ++ flags ["readOnly"]
  | azureFileVolume => texts ["secretName", "shareName"] ++ flags ["readOnly"]
  | capabilities => textLists ["add", "drop"]
  | cephVolume =>
    texts ["path", "secretFile", "user"] ++ textLists ["monitors"] ++ flags ["readOnly"]
      ++ [("secretRef", .record localReference)]
  | cinderVolume =>
    texts ["fsType", "volumeID"] ++ flags ["readOnly"] ++ [("secretRef", .record localReference)]
  | claimSource => texts ["claimName"] ++ flags ["readOnly"]
  | claimSpec =>
    texts ["storageClassName", "volumeMode", "volumeName"] ++ textLists ["accessModes"]
      ++ fieldsOf (.record typedReference) ["dataSource", "dataSourceRef"]
      ++ [("resources", .record resources), ("selector", .record labelSelector)]
  | claimTemplate => [("metadata", .metadata), ("spec", .record claimSpec)]
  | columnDefinition =>
    texts ["description", "format", "jsonPath", "name", "type"] ++ ints ["priority"]
  | configMapEnvSource => texts ["name"] ++ flags ["optional"]
  | configMapKeySelector => texts ["key", "name"] ++ flags ["optional"]
  | configMapProjection =>
    texts ["name"] ++ flags ["optional"] ++ [("items", .list (.record keyToPath))]
  | configMapVolume =>
    texts ["name"] ++ flags ["optional"] ++ ints ["defaultMode"]
      ++ [("items", .list (.record keyToPath))]
  | container =>
    texts ["image", "imagePullPolicy", "name", "targetContainerName", "terminationMessagePath",
        "terminationMessagePolicy", "workingDir"]
      ++ textLists ["args", "command"] ++ flags ["stdin", "stdinOnce", "tty"]
      ++ [("env", .list (.record envVar)), ("envFrom", .list (.record envFromSource)),
        ("lifecycle", .record lifecycle), ("livenessProbe", .record probe),
        ("ports", .list (.record containerPort)), ("readinessProbe", .record probe),
        ("resources", .record resources), ("securityContext", .record securityContext),
        ("startupProbe", .record probe), ("volumeDevices", .list (.record volumeDevice)),
        ("volumeMounts", .list (.record volumeMount))]
  | containerPort => texts ["hostIP", "name", "protocol"] ++ ints ["containerPort", "hostPort"]
  | conversion => texts ["strategy"] ++ [("webhook", .record webhookConversion)]
  | csiVolume =>
    texts ["driver", "fsType"] ++ flags ["readOnly"]
      ++ [("nodePublishSecretRef", .record localReference), ("volumeAttributes", .map .text)]
  | definition =>
    [("metadata", .metadata), ("spec", .record definitionSpec),
      ("status", .record definitionStatus)]
  | definitionCondition =>
    texts ["message", "reason", "status", "type"] ++ [("lastTransitionTime", .timestamp)]
  | definitionNames =>
    texts ["kind", "listKind", "plural", "singular"] ++ textLists ["categories", "shortNames"]
  | definitionSpec =>
    texts ["group", "scope"] ++ flags ["preserveUnknownFields"]
      ++ [("conversion", .record conversion), ("names", .record definitionNames),
        ("versions", .list (.record definitionVersion))]
  | definitionStatus =>
    textLists ["storedVersions"]
      ++ [("acceptedNames", .record definitionNames),
        ("conditions", .list (.record definitionCondition))]
  | definitionVersion =>
    texts ["deprecationWarning", "name"] ++ flags ["deprecated", "served", "storage"]
      ++ [("additionalPrinterColumns", .list (.record columnDefinition)),
        ("schema", .record schemaHolder), ("subresources", .record subresources)]
  | deployment =>
    [("metadata", .metadata), ("spec", .record deploymentSpec),
      ("status", .record deploymentStatus)]
  | deploymentCondition =>
    texts ["message", "reason", "status", "type"]
      ++ fieldsOf .timestamp ["lastTransitionTime", "lastUpdateTime"]
  | deploymentSpec =>
    ints ["minReadySeconds", "progressDeadlineSeconds", "replicas", "revisionHistoryLimit"]
      ++ flags ["paused"]
      ++ [("selector", .record labelSelector), ("strategy", .record deploymentStrategy),
        ("template", .record podTemplate)]
  | deploymentStatus =>
    ints ["availableReplicas", "collisionCount", "readyReplicas", "replicas",
        "unavailableReplicas", "updatedReplicas"]
      ++ [("conditions", .list (.record deploymentCondition)), ("observedGeneration", .int64)]
  | deploymentStrategy => texts ["type"] ++ [("rollingUpdate", .record rollingUpdate)]
  | dnsConfig =>
    textLists ["nameservers", "searches"] ++ [("options", .list (.record dnsOption))]
  | dnsOption => texts ["name", "value"]
  | downwardFile =>
    texts ["path"] ++ ints ["mode"]
      ++ [("fieldRef", .record fieldSelector), ("resourceFieldRef", .record resourceFieldSelector)]
  | downwardProjection => [("items", .list (.record downwardFile))]
  | downwardVolume => ints ["defaultMode"] ++ [("items", .list (.record downwardFile))]
  | emptyDirVolume => texts ["medium", "sizeLimit"]
  | envFromSource =>
    texts ["prefix"]
      ++ [("configMapRef", .record configMapEnvSource), ("secretRef", .record secretEnvSource)]
  | envSource =>
    [("configMapKeyRef", .record configMapKeySelector), ("fieldRef", .record fieldSelector),
      ("resourceFieldRef", .record resourceFieldSelector),
      ("secretKeyRef", .record secretKeySelector)]
  | envVar => texts ["name", "value"] ++ [("valueFrom", .record envSource)]
  | ephemeralVolume => [("volumeClaimTemplate", .record claimTemplate)]
  | execAction => textLists ["command"]
  | externalDocs => texts ["description", "url"]
  | fcVolume =>
    texts ["fsType"] ++ ints ["lun"] ++ flags ["readOnly"] ++ textLists ["targetWWNs", "wwids"]
  | fieldSelector => texts ["apiVersion", "fieldPath"]
  | flexVolume =>
    texts ["driver", "fsType"] ++ flags ["readOnly"]
      ++ [("options", .map .text), ("secretRef", .record localReference)]
  | flockerVolume => texts ["datasetName", "datasetUUID"]
  | gceVolume => texts ["fsType", "pdName"] ++ ints ["partition"] ++ flags ["readOnly"]
  | gitVolume => texts ["directory", "repository", "revision"]
  | glusterVolume => texts ["endpoints", "path"] ++ flags ["readOnly"]
  | handler =>
    [("exec", .record execAction), ("httpGet", .record httpGetAction),
      ("tcpSocket", .record tcpSocketAction)]
  | hostAlias => texts ["ip"] ++ textLists ["hostnames"]
  | hostPathVolume => texts ["path", "type"]
  | httpGetAction =>
    texts ["host", "path", "scheme"]
      ++ [("httpHeaders", .list (.record httpHeader)), ("port", .intOrText)]
  | httpHeader => texts ["name", "value"]
  | iscsiVolume =>
    texts ["fsType", "initiatorName", "iqn", "iscsiInterface", "targetPortal"] ++ ints ["lun"]
      ++ flags ["chapAuthDiscovery", "chapAuthSession", "readOnly"] ++ textLists ["portals"]
      ++ [("secretRef", .record localReference)]
  | keyToPath => texts ["key", "path"] ++ ints ["mode"]
  | labelRequirement => texts ["key", "operator"] ++ textLists ["values"]
  | labelSelector =>
    [("matchExpressions", .list (.record labelRequirement)), ("matchLabels", .map .text)]
  | lifecycle => [("postStart", .record handler), ("preStop", .record handler)]
  | localReference => texts ["name"]
  | nfsVolume => texts ["path", "server"] ++ flags ["readOnly"]
  | nodeAffinity =>
    [("preferredDuringSchedulingIgnoredDuringExecution", .list (.record preferredNodeTerm)),
      ("requiredDuringSchedulingIgnoredDuringExecution", .record nodeSelector)]
  | nodeRequirement => texts ["key", "operator"] ++ textLists ["values"]
  | nodeSelector => [("nodeSelectorTerms", .list (.record nodeSelectorTerm))]
  | nodeSelectorTerm =>
    fieldsOf (.list (.record nodeRequirement)) ["matchExpressions", "matchFields"]
  | photonVolume => texts ["fsType", "pdID"]
  | podAffinity =>
    [("preferredDuringSchedulingIgnoredDuringExecution", .list (.record weightedPodTerm)),
      ("requiredDuringSchedulingIgnoredDuringExecution", .list (.record podAffinityTerm))]
  | podAffinityTerm =>
    texts ["topologyKey"] ++ textLists ["namespaces"]
      ++ fieldsOf (.record labelSelector) ["labelSelector", "namespaceSelector"]
  | podSecurity =>
    fieldsOf .int64 ["fsGroup", "runAsGroup", "runAsUser"] ++ texts ["fsGroupChangePolicy"]
      ++ flags ["runAsNonRoot"]
      ++ [("seLinuxOptions", .record selinuxOptions), ("seccompProfile", .record seccompProfile),
        ("supplementalGroups", .list .int64), ("sysctls", .list (.record sysctl)),
        ("windowsOptions", .record windowsOptions)]
  | podSpec =>
    fieldsOf .int64 ["activeDeadlineSeconds", "terminationGracePeriodSeconds"]
      ++ flags ["automountServiceAccountToken", "enableServiceLinks", "hostIPC", "hostNetwork",
        "hostPID", "setHostnameAsFQDN", "shareProcessNamespace"]
      ++ texts ["dnsPolicy", "hostname", "nodeName", "preemptionPolicy", "priorityClassName",
        "restartPolicy", "runtimeClassName", "schedulerName", "serviceAccount",
        "serviceAccountName", "subdomain"]
      ++ fieldsOf (.list (.record container))
        ["containers", "ephemeralContainers", "initContainers"]
      ++ fieldsOf (.map .text) ["nodeSelector", "overhead"] ++ ints ["priority"]
      ++ [("affinity", .record affinity), ("dnsConfig", .record dnsConfig),
        ("hostAliases", .list (.record hostAlias)),
        ("imagePullSecrets", .list (.record localReference)),
        ("readinessGates", .list (.record readinessGate)),
        ("securityContext", .record podSecurity), ("tolerations", .list (.record toleration)),
        ("topologySpreadConstraints", .list (.record topologyConstraint)),
        ("volumes", .list (.record volume))]
  | podTemplate => [("metadata", .metadata), ("spec", .record podSpec)]
  | portworxVolume => texts ["fsType", "volumeID"] ++ flags ["readOnly"]
  | preferredNodeTerm => ints ["weight"] ++ [("preference", .record nodeSelectorTerm)]
  | probe =>
    ints ["failureThreshold", "initialDelaySeconds", "periodSeconds", "successThreshold",
        "timeoutSeconds"]
      ++ [("exec", .record execAction), ("httpGet", .record httpGetAction),
        ("tcpSocket", .record tcpSocketAction), ("terminationGracePeriodSeconds", .int64)]
  | projectedVolume => ints ["defaultMode"] ++ [("sources", .list (.record projection))]
  | projection =>
    [("configMap", .record configMapProjection), ("downwardAPI", .record downwardProjection),
      ("secret", .record secretProjection), ("serviceAccountToken", .record tokenProjection)]
  | quobyteVolume =>
    texts ["group", "registry", "tenant", "user", "volume"] ++ flags ["readOnly"]
  | rbdVolume =>
    texts ["fsType", "image", "keyring", "pool", "user"] ++ textLists ["monitors"]
      ++ flags ["readOnly"] ++ [("secretRef", .record localReference)]
  | readinessGate => texts ["conditionType"]
  | resource =>
    texts ["group", "kind", "name", "singularName", "storageVersionHash", "version"]
      ++ flags ["namespaced"] ++ textLists ["categories", "shortNames", "verbs"]
  | resourceFieldSelector => texts ["containerName", "divisor", "resource"]
  | resourceList => texts ["groupVersion"] ++ [("resources", .list (.record resource))]
  | resources => fieldsOf (.map .text) ["limits", "requests"]
  | rollingUpdate => fieldsOf .intOrText ["maxSurge", "maxUnavailable"]
  | scale => texts ["labelSelectorPath", "specReplicasPath", "statusReplicasPath"]
  | scaleIoVolume =>
    texts ["fsType", "gateway", "protectionDomain", "storageMode", "storagePool", "system",
        "volumeName"]
      ++ flags ["readOnly", "sslEnabled"] ++ [("secretRef", .record localReference)]
  | schema =>
    texts ["$ref", "$schema", "description", "format", "id", "pattern", "title", "type",
        "x-kubernetes-list-type", "x-kubernetes-map-type"]
      ++ fieldsOf .schemaOrFlag ["additionalItems", "additionalProperties"]
      ++ fieldsOf (.list (.record schema)) ["allOf", "anyOf", "oneOf"]
      ++ fieldsOf (.map (.record schema)) ["definitions", "patternProperties", "properties"]
      ++ flags ["exclusiveMaximum", "exclusiveMinimum", "nullable", "uniqueItems",
        "x-kubernetes-embedded-resource", "x-kubernetes-int-or-string",
        "x-kubernetes-preserve-unknown-fields"]
      ++ fieldsOf .int64 ["maxItems", "maxLength", "maxProperties", "minItems", "minLength",
        "minProperties"]
      ++ fieldsOf .number ["maximum", "minimum", "multipleOf"]
      ++ textLists ["required", "x-kubernetes-list-map-keys"]
      ++ [("dependencies", .map .schemaOrNames), ("enum", .list .any),
        ("externalDocs", .record externalDocs), ("items", .schemaOrList), ("not", .record schema)]
  | schemaHolder => [("openAPIV3Schema", .record schema)]
  | seccompProfile => texts ["localhostProfile", "type"]
  | secretEnvSource => texts ["name"] ++ flags ["optional"]
  | secretKeySelector => texts ["key", "name"] ++ flags ["optional"]
  | secretProjection =>
    texts ["name"] ++ flags ["optional"] ++ [("items", .list (.record keyToPath))]
  | secretVolume =>
    texts ["secretName"] ++ flags ["optional"] ++ ints ["defaultMode"]
      ++ [("items", .list (.record keyToPath))]
  | securityContext =>
    flags ["allowPrivilegeEscalation", "privileged", "readOnlyRootFilesystem", "runAsNonRoot"]
      ++ fieldsOf .int64 ["runAsGroup", "runAsUser"] ++ texts ["procMount"]
      ++ [("capabilities", .record capabilities), ("seLinuxOptions", .record selinuxOptions),
        ("seccompProfile", .record seccompProfile), ("windowsOptions", .record windowsOptions)]
  | selinuxOptions => texts ["level", "role", "type", "user"]
  | serviceReference => texts ["name", "namespace", "path"] ++ ints ["port"]
  | storageOsVolume =>
    texts ["fsType", "volumeName", "volumeNamespace"] ++ flags ["readOnly"]
      ++ [("secretRef", .record localReference)]
  | subresources => [("scale", .record scale)]
  | sysctl => texts ["name", "value"]
  | tcpSocketAction => texts ["host"] ++ [("port", .intOrText)]
  | toleration =>
    texts ["effect", "key", "operator", "value"] ++ [("tolerationSeconds", .int64)]
  | tokenProjection => texts ["audience", "path"] ++ [("expirationSeconds", .int64)]
  | topologyConstraint =>
    texts ["topologyKey", "whenUnsatisfiable"] ++ ints ["maxSkew"]
      ++ [("labelSelector", .record labelSelector)]
  | typedReference => texts ["apiGroup", "kind", "name"]
  | volume =>
    texts ["name"]
      ++ [("awsElasticBlockStore", .record awsVolume), ("azureDisk", .record azureDiskVolume),
        ("azureFile", .record azureFileVolume), ("cephfs", .record cephVolume),
        ("cinder", .record cinderVolume), ("configMap", .record configMapVolume),
        ("csi", .record csiVolume), ("downwardAPI", .record downwardVolume),
        ("emptyDir", .record emptyDirVolume), ("ephemeral", .record ephemeralVolume),
        ("fc", .record fcVolume), ("flexVolume", .record flexVolume),
        ("flocker", .record flockerVolume), ("gcePersistentDisk", .record gceVolume),
        ("gitRepo", .record gitVolume), ("glusterfs", .record glusterVolume),
        ("hostPath", .record hostPathVolume), ("iscsi", .record iscsiVolume),
        ("nfs", .record nfsVolume), ("persistentVolumeClaim", .record claimSource),
        ("photonPersistentDisk", .record photonVolume), ("portworxVolume", .record portworxVolume),
        ("projected", .record projectedVolume), ("quobyte", .record quobyteVolume),
        ("rbd", .record rbdVolume), ("scaleIO", .record scaleIoVolume),
        ("secret", .record secretVolume), ("storageos", .record storageOsVolume),
        ("vsphereVolume", .record vsphereVolume)]
  | volumeDevice => texts ["devicePath", "name"]
  | volumeMount =>
    texts ["mountPath", "mountPropagation", "name", "subPath", "subPathExpr"]
      ++ flags ["readOnly"]
  | vsphereVolume => texts ["fsType", "storagePolicyID", "storagePolicyName", "volumePath"]
  | webhook =>
    texts ["failurePolicy", "matchPolicy", "name", "reinvocationPolicy", "sideEffects"]
      ++ textLists ["admissionReviewVersions"] ++ ints ["timeoutSeconds"]
      ++ fieldsOf (.record labelSelector) ["namespaceSelector", "objectSelector"]
      ++ [("clientConfig", .record webhookClient), ("rules", .list (.record webhookRule))]
  | webhookClient =>
    texts ["url"] ++ [("caBundle", .bytes), ("service", .record serviceReference)]
  | webhookConfiguration =>
    [("metadata", .metadata), ("webhooks", .list (.record webhook))]
  | webhookConversion =>
    textLists ["conversionReviewVersions"] ++ [("clientConfig", .record webhookClient)]
  | webhookRule =>
    texts ["scope"] ++ textLists ["apiGroups", "apiVersions", "operations", "resources"]
  | weightedPodTerm => ints ["weight"] ++ [("podAffinityTerm", .record podAffinityTerm)]
  | windowsOptions =>
    texts ["gmsaCredentialSpec", "gmsaCredentialSpecName", "runAsUserName"]
      ++ flags ["hostProcess"]

/-- The type of a field, if the record has it. -/
def shapeOf? (name : RecordName) (key : String) : Option Shape := name.fields.lookup key

end RecordName

namespace Shape

mutual

/-- Whether a value has a type. -/
def accepts : Json → Shape → Bool
  | _, .any => true
  | .str _, .text => true
  | .bool _, .flag => true
  | v, .int32 => v.int32?.isSome
  | v, .int64 => v.int64?.isSome
  | .num _, .number => true
  | .str s, .timestamp => (Timestamp.parse? s).isSome
  | .str _, .intOrText => true
  | v, .intOrText => v.int32?.isSome
  | .str s, .bytes => isBase64 s.toList
  | v, .metadata => (Metadata.ofJson? v).isSome
  | .arr items, .list item => acceptsItems items item
  | .obj members, .map value => acceptsMembers members fun _ => some (value, false)
  | .obj members, .record name =>
    acceptsMembers members fun key => (name.shapeOf? key).map fun shape => (shape, true)
  | .bool _, .schemaOrFlag => true
  | .obj members, .schemaOrFlag =>
    acceptsMembers members fun key =>
      (RecordName.schema.shapeOf? key).map fun shape => (shape, true)
  | .arr items, .schemaOrList => acceptsItems items (.record .schema)
  | .obj members, .schemaOrList =>
    acceptsMembers members fun key =>
      (RecordName.schema.shapeOf? key).map fun shape => (shape, true)
  | .arr items, .schemaOrNames => acceptsItems items .text
  | .obj members, .schemaOrNames =>
    acceptsMembers members fun key =>
      (RecordName.schema.shapeOf? key).map fun shape => (shape, true)
  | _, _ => false

/-- Whether all items have a type. Unlike in a field, null does not stand for an absent value. -/
def acceptsItems : List Json → Shape → Bool
  | [], _ => true
  | item :: rest, shape => accepts item shape && acceptsItems rest shape

/-- Whether members have the types that their keys ask for. With each type comes whether null
stands for an absent value. -/
def acceptsMembers : List (String × Json) → (String → Option (Shape × Bool)) → Bool
  | [], _ => true
  | (key, value) :: rest, shapeOf =>
    (match shapeOf key with
      | some (shape, nullable) => (nullable && value.isNull) || accepts value shape
      | none => true) && acceptsMembers rest shapeOf

end

/-- Whether a value is an object of one of the cluster's own kinds. It need not name its version
and its kind, but it may not name others. -/
def acceptsObject (apiVersion kind : String) (record : RecordName) (v : Json) : Bool :=
  let names (key expected : String) : Bool :=
    match v.get? key with
    | some found => found == .str expected
    | none => true
  accepts v (.record record) && names "apiVersion" apiVersion && names "kind" kind

end Shape

end PhasedInstall
