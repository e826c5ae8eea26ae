import PertiskProxy.Proxy.Forward
import PertiskProxy.Tls.CertStore

/-! The parts of Ingress, Gateway, HTTPRoute, and Secret objects that the controller reads
(`ingress/gateway_api.rs` and the core API), and the names it makes from them
(`ingress/controller.rs`). -/

namespace PertiskProxy.Ingress

open GeoIp Security ProxyConfig

structure AnnotatedPolicies where
  geoip : GeoIpPolicy := {}
  security : SecurityPolicy := {}
  accessListId : Option Text := none
  wafPolicyId : Option Text := none
deriving DecidableEq

structure ServiceBackendPort where
  number : Option Int := none
  name : Option Text := none
deriving DecidableEq

structure IngressServiceBackend where
  name : Text
  port : Option ServiceBackendPort := none
deriving DecidableEq

/-- A backend; of a resource only the name is read. -/
structure IngressBackend where
  service : Option IngressServiceBackend := none
  resource : Option Text := none
deriving DecidableEq

structure IngressPath where
  path : Option Text := none
  pathType : Text
  backend : IngressBackend
deriving DecidableEq

structure IngressRule where
  host : Option Text := none
  http : Option (List IngressPath) := none
deriving DecidableEq

structure IngressTls where
  secretName : Option Text := none
  hosts : Option (List Text) := none
deriving DecidableEq

structure IngressSpec where
  ingressClassName : Option Text := none
  rules : List IngressRule := []
  tls : List IngressTls := []
deriving DecidableEq

structure IngressObject where
  ns : Option Text := none
  name : Text
  policies : AnnotatedPolicies := {}
  spec : Option IngressSpec := none
deriving DecidableEq

def IngressObject.single (ns name host : Text) (backend : IngressBackend) : IngressObject :=
  let rule : IngressRule :=
    { host := some host, http := some [{ pathType := "Prefix", backend }] }
  { ns := some ns, name, spec := some { rules := [rule] } }

def IngressBackend.toService (service : Text) : IngressBackend where
  service := some { name := service, port := some { number := some 8080 } }

structure SecretObjectReference where
  group : Option Text := none
  kind : Option Text := none
  name : Text
  ns : Option Text := none
deriving DecidableEq

structure RouteNamespaces where
  origin : Option Text := none
deriving DecidableEq

structure AllowedRoutes where
  namespaces : Option RouteNamespaces := none
deriving DecidableEq

structure GatewayListener where
  name : Text
  protocol : Text
  hostname : Option Text := none
  allowedRoutes : Option AllowedRoutes := none
  certificateRefs : Option (List SecretObjectReference) := none
deriving DecidableEq

structure Gateway where
  ns : Option Text := none
  name : Text
  gatewayClassName : Option Text := none
  listeners : List GatewayListener := []
deriving DecidableEq

structure ParentReference where
  group : Option Text := none
  kind : Option Text := none
  name : Text
  ns : Option Text := none
  sectionName : Option Text := none
deriving DecidableEq

structure HttpPathMatch where
  matchType : Option Text := none
  value : Option Text := none
deriving DecidableEq

structure HttpRouteMatch where
  path : Option HttpPathMatch := none
deriving DecidableEq

structure HttpBackendRef where
  group : Option Text := none
  kind : Option Text := none
  name : Text
  ns : Option Text := none
  port : Option Int := none
deriving DecidableEq

structure HttpRouteRule where
  routeMatches : List HttpRouteMatch := []
  backendRefs : List HttpBackendRef := []
deriving DecidableEq

structure HttpRoute where
  ns : Option Text := none
  name : Text
  policies : AnnotatedPolicies := {}
  parentRefs : List ParentReference := []
  hostnames : List Text := []
  rules : List HttpRouteRule := []
deriving DecidableEq

def Gateway.plain (ns name : Text) : Gateway where
  ns := some ns
  name := name
  gatewayClassName := some "pertisk-proxy"
  listeners := [{ name := "http", protocol := "HTTP" }]

def HttpRoute.single (ns name host service : Text) (parent : ParentReference) : HttpRoute where
  ns := some ns
  name := name
  parentRefs := [parent]
  hostnames := [host]
  rules := [{ backendRefs := [{ name := service, port := some 8080 }] }]

def namespaceOf (ns : Option Text) : Text :=
  ns.getD "default"

structure SecretData where
  crt : Option Bytes := none
  key : Option Bytes := none
deriving DecidableEq

structure Secret where
  type : Option Text := none
  data : Option SecretData := none
deriving DecidableEq

def Secret.pair (secret : Secret) : Option (Bytes × Bytes) :=
  if secret.type.getD [] != "kubernetes.io/tls".toList &&
      !(secret.data.any fun data => data.crt.isSome) then none
  else do
    let data ← secret.data
    let crt ← data.crt
    let key ← data.key
    if crt.isEmpty || key.isEmpty then none else some (crt, key)

/-! What a pass of the controller makes of the objects it lists (`ingress/controller.rs`):
sites with their backends, and for each TLS secret the hosts it is used for. -/

open Text

/-- The environment by which the controller knows its own service. -/
structure SelfService where
  managementPort : Nat := 9080
  helmNamespace : Option Text := none
  helmServiceName : Option Text := none
  helmRelease : Option Text := none
deriving DecidableEq

structure IngressControllerConfig where
  ingressClass : Option Text := some "pertisk-proxy"
  gatewayClass : Option Text := some "pertisk-proxy"
  gatewayApiEnabled : Bool := true
  defaultBackendPort : Nat := 80
  self : SelfService := {}
deriving DecidableEq

/-! ## Backends -/

def asU16 (value : Int) : Nat :=
  (value % 65536).toNat

def backendNameFor (backend : IngressBackend) (ingressName : Text) : Text :=
  match backend.service, backend.resource with
  | some service, _ =>
    let port := (service.port.bind ServiceBackendPort.number).getD 80
    service.name ++ '.' :: ingressName ++ ':' :: ofInt port
  | none, some resource => "resource.".toList ++ resource ++ '.' :: ingressName
  | none, none => "default.".toList ++ ingressName

def isSelfManagementService (self : SelfService) (serviceName ns : Text) (port : Nat) : Bool :=
  let helmNs := (trimmedNonEmpty self.helmNamespace).getD "pertisk-proxy"
  port == self.managementPort && ns == helmNs &&
    ((trimmedNonEmpty self.helmServiceName).any (· == serviceName) ||
      (trimmedNonEmpty self.helmRelease).any (· == serviceName))

/-- The address of a service in the cluster; the controller's own management
service is reached on the spot. -/
def resolveUpstreamAddr (self : SelfService) (serviceName ns : Text) (port : Nat) : Text :=
  if isSelfManagementService self serviceName ns port then
    "127.0.0.1:".toList ++ ofNat port
  else
    serviceName ++ '.' :: ns ++ ".svc.cluster.local:".toList ++ ofNat port

section

variable (controller : IngressControllerConfig)

/-- A port that is not given by number is the default port. -/
def portOrDefault (port : Option Int) : Nat :=
  (port.map asU16).getD controller.defaultBackendPort

def upstreamsFromBackend (backend : IngressBackend) (ns : Text) : List Upstream :=
  match backend.service with
  | some service =>
    let port := portOrDefault controller (service.port.bind ServiceBackendPort.number)
    [{ addr := resolveUpstreamAddr controller.self service.name ns port, weight := 1 }]
  | none => []

def gatewayBackendName (backendRef : HttpBackendRef) (routeName : Text)
    (ruleIdx matchIdx backendIdx : Nat) : Text :=
  backendRef.name ++ '.' :: routeName ++ ':' :: ofInt (backendRef.port.getD 80) ++
    ':' :: ofNat ruleIdx ++ ':' :: ofNat (matchIdx * 10 + backendIdx)

def upstreamsFromGatewayBackend (backendRef : HttpBackendRef) (ns : Text) : List Upstream :=
  let port := portOrDefault controller backendRef.port
  let addr := resolveUpstreamAddr controller.self backendRef.name (backendRef.ns.getD ns) port
  [{ addr, weight := 1 }]

/-! ## References -/

inductive BackendRef where
  | ingress (backend : IngressBackend)
  | httproute (backendRef : HttpBackendRef)
deriving DecidableEq

/-- One path of one host of an object, with its backend and the name made for
that backend. -/
structure Reference where
  host : Text
  ns : Text
  name : Text
  policies : AnnotatedPolicies := {}
  pathType : PathMatchType
  path : Text
  backendName : Text
  backend : BackendRef
deriving DecidableEq

namespace Reference

def kind (reference : Reference) : Text :=
  match reference.backend with
  | .ingress _ => "ingress"
  | .httproute _ => "httproute"

def upstreams (reference : Reference) : List Upstream :=
  match reference.backend with
  | .ingress backend => upstreamsFromBackend controller backend reference.ns
  | .httproute backendRef => upstreamsFromGatewayBackend controller backendRef reference.ns

def site (reference : Reference) : Site where
  host := reference.host
  routes := [{ pathType := reference.pathType, path := reference.path }]
  backend := reference.backendName
  ingressNamespace := some reference.ns
  ingressName := some reference.name
  k8sResourceKind := some reference.kind
  accessListId := reference.policies.accessListId
  wafPolicyId := reference.policies.wafPolicyId
  geoip := reference.policies.geoip
  security := reference.policies.security

def madeBackend (reference : Reference) : Backend where
  name := reference.backendName
  upstreams := reference.upstreams controller
  algorithm := .roundRobin
  healthPath := none
  healthIntervalSecs := 10

/-- An HTTPRoute is left out where its backend has no upstreams; an Ingress is
not. -/
def skipped (reference : Reference) : Bool :=
  match reference.backend with
  | .ingress _ => false
  | .httproute _ => (reference.upstreams controller).isEmpty

end Reference

/-! ## Ingress objects -/

def ingressPathType (pathType : Text) : PathMatchType :=
  if pathType == "Exact".toList then .exact
  else if pathType == "Prefix".toList then .lead
  else .implementationSpecific

def managesIngress (spec : IngressSpec) : Bool :=
  match spec.ingressClassName, controller.ingressClass with
  | some given, some want => given == want
  | _, _ => true

def pathReference (ingress : IngressObject) (host : Text) (path : IngressPath) : Reference where
  host := host
  ns := namespaceOf ingress.ns
  name := ingress.name
  policies := ingress.policies
  pathType := ingressPathType path.pathType
  path := path.path.getD "/"
  backendName := backendNameFor path.backend ingress.name
  backend := .ingress path.backend

def ingressReferences (ingress : IngressObject) : List Reference :=
  match ingress.spec.filter (managesIngress controller) with
  | none => []
  | some spec =>
    spec.rules.flatMap fun rule =>
      (rule.http.getD []).map (pathReference ingress (rule.host.getD "*"))

/-- The hosts for which an Ingress uses each of its secrets: those listed and
those of its rules. -/
def ingressSecrets (ingress : IngressObject) : List ((Text × Text) × List Text) :=
  match ingress.spec.filter (managesIngress controller) with
  | none => []
  | some spec =>
    let ruleHosts := spec.rules.filterMap IngressRule.host
    spec.tls.filterMap fun tls =>
      match tls.secretName.filter fun name => !name.isEmpty with
      | none => none
      | some secretName =>
        let listed := (tls.hosts.filter fun hosts => !hosts.isEmpty).getD ruleHosts
        let hosts := listed ++ ruleHosts
        if hosts.isEmpty then none else some ((namespaceOf ingress.ns, secretName), hosts)

/-! ## Gateways -/

def isHttpListenerProtocol (protocol : Text) : Bool :=
  let protocol := toAsciiUppercase protocol
  protocol == "HTTP".toList || protocol == "HTTPS".toList

def isSecretRef (certRef : SecretObjectReference) : Bool :=
  (certRef.group.getD []).isEmpty && certRef.kind.getD "Secret" == "Secret".toList

structure ManagedGateway where
  name : Text
  listenerHostnames : List (Option Text)
  tlsSecretRefs : List (Text × Text)
deriving DecidableEq

def managesGateway (gateway : Gateway) : Bool :=
  match controller.gatewayClass with
  | none => true
  | some want => gateway.gatewayClassName == some want

def Gateway.httpListeners (gateway : Gateway) : List GatewayListener :=
  gateway.listeners.filter fun listener => isHttpListenerProtocol listener.protocol

def listenerSecretRefs (gateway : Gateway) (listener : GatewayListener) : List (Text × Text) :=
  ((listener.certificateRefs.getD []).filter isSecretRef).map fun certRef =>
    (certRef.ns.getD (namespaceOf gateway.ns), certRef.name)

def managedGateway (gateway : Gateway) : ManagedGateway where
  name := gateway.name
  listenerHostnames := gateway.httpListeners.map GatewayListener.hostname
  tlsSecretRefs := gateway.httpListeners.flatMap (listenerSecretRefs gateway)

def managedGateways (gateways : List Gateway) : HashMap (Text × Text) ManagedGateway :=
  .ofList ((gateways.filter (managesGateway controller)).map fun gateway =>
    ((namespaceOf gateway.ns, gateway.name), managedGateway gateway))

def gatewaySecrets (gateways : List Gateway) : List ((Text × Text) × List Text) :=
  (gateways.filter (managesGateway controller)).flatMap fun gateway =>
    gateway.httpListeners.flatMap fun listener =>
      (listenerSecretRefs gateway listener).map fun secret =>
        (secret, [listener.hostname.getD "*"])

/-! ## HTTPRoutes -/

def isServiceBackendRef (backendRef : HttpBackendRef) : Bool :=
  (backendRef.group.getD []).isEmpty && backendRef.kind.getD "Service" == "Service".toList

def parentRefMatchesGateway (parent : ParentReference) (gatewayNs gatewayName : Text) : Bool :=
  parent.group.getD "gateway.networking.k8s.io" == "gateway.networking.k8s.io".toList &&
    parent.kind.getD "Gateway" == "Gateway".toList && parent.name == gatewayName &&
    parent.ns.getD gatewayNs == gatewayNs

def parentGateway (managed : HashMap (Text × Text) ManagedGateway) (route : HttpRoute)
    (parent : ParentReference) : Option ManagedGateway :=
  let gatewayNs := parent.ns.getD (namespaceOf route.ns)
  (managed.get? (gatewayNs, parent.name)).filter fun gateway =>
    parentRefMatchesGateway parent gatewayNs gateway.name

/-- The gateways a route belongs to; one without parents belongs to the gateway
of its own name. -/
def attachedGateways (managed : HashMap (Text × Text) ManagedGateway) (route : HttpRoute) :
    List ManagedGateway :=
  if route.parentRefs.isEmpty then (managed.get? (namespaceOf route.ns, route.name)).toList
  else route.parentRefs.filterMap (parentGateway managed route)

def hostnameMatchesListener (routeHost : Text) (listenerHostname : Option Text) : Bool :=
  match listenerHostname with
  | none => true
  | some listener =>
    listener == routeHost ||
      (startsWith listener "*." &&
        let suffix := listener.drop 1
        endsWith routeHost suffix && len routeHost > len suffix)

def resolveRouteHostnames (routeHostnames : List Text) (attached : List ManagedGateway) :
    List Text :=
  let listenerHosts := attached.flatMap fun gateway => gateway.listenerHostnames.filterMap id
  if routeHostnames.isEmpty then
    if listenerHosts.isEmpty then ["*".toList]
    else (listenerHosts.insertionSort (· ≤ ·)).dedup
  else if listenerHosts.isEmpty then routeHostnames
  else
    routeHostnames.filter fun host =>
      attached.any fun gateway =>
        gateway.listenerHostnames.isEmpty ||
          gateway.listenerHostnames.any (hostnameMatchesListener host)

def pathFromMatch (routeMatch : HttpRouteMatch) : PathMatchType × Text :=
  match routeMatch.path with
  | none => (.lead, "/")
  | some path =>
    let matchType := path.matchType.getD "PathPrefix"
    let pathType :=
      if matchType == "Exact".toList then PathMatchType.exact
      else if matchType == "PathPrefix".toList || matchType == "Prefix".toList then .lead
      else .implementationSpecific
    (pathType, path.value.getD "/")

def backendReference (route : HttpRoute) (host : Text) (ruleIdx matchIdx : Nat)
    (routeMatch : HttpRouteMatch) (backendRef : HttpBackendRef) (backendIdx : Nat) :
    Reference where
  host := host
  ns := namespaceOf route.ns
  name := route.name
  policies := route.policies
  pathType := (pathFromMatch routeMatch).1
  path := (pathFromMatch routeMatch).2
  backendName := gatewayBackendName backendRef route.name ruleIdx matchIdx backendIdx
  backend := .httproute backendRef

/-- The references of one rule; a rule without matches matches every path. -/
def ruleReferences (route : HttpRoute) (host : Text) (rule : HttpRouteRule) (ruleIdx : Nat) :
    List Reference :=
  let routeMatches := if rule.routeMatches.isEmpty then [{}] else rule.routeMatches
  routeMatches.zipIdx.flatMap fun (routeMatch, matchIdx) =>
    (rule.backendRefs.zipIdx.filter fun backendRef => isServiceBackendRef backendRef.1).map
      fun (backendRef, backendIdx) =>
        backendReference route host ruleIdx matchIdx routeMatch backendRef backendIdx

def routeReferences (managed : HashMap (Text × Text) ManagedGateway) (route : HttpRoute) :
    List Reference :=
  let attached := attachedGateways managed route
  let rules := if route.rules.isEmpty then [{}] else route.rules
  if attached.isEmpty then []
  else
    (resolveRouteHostnames route.hostnames attached).flatMap fun host =>
      rules.zipIdx.flatMap fun (rule, ruleIdx) =>
        ruleReferences route host rule ruleIdx

def routeSecrets (managed : HashMap (Text × Text) ManagedGateway) (route : HttpRoute) :
    List ((Text × Text) × List Text) :=
  let attached := attachedGateways managed route
  if attached.isEmpty then []
  else
    (resolveRouteHostnames route.hostnames attached).flatMap fun host =>
      attached.flatMap fun gateway => gateway.tlsSecretRefs.map fun secret => (secret, [host])

end

/-! ## A pass -/

/-- What the cluster answers to the calls of one pass; a call that fails has no
answer. -/
structure Answers where
  ingresses : Option (List IngressObject) := some []
  gateways : Option (List Gateway) := some []
  routes : Option (List HttpRoute) := some []
  secret : Text × Text → Option Secret := fun _ => none

section

variable (controller : IngressControllerConfig)

def Answers.managed (answers : Answers) : HashMap (Text × Text) ManagedGateway :=
  match controller.gatewayApiEnabled, answers.gateways with
  | true, some gateways => managedGateways controller gateways
  | _, _ => ∅

/-- The routes of a pass; they are not even listed when it has no gateway. -/
def Answers.listedRoutes (answers : Answers) : List HttpRoute :=
  if (answers.managed controller).entries.isEmpty then [] else answers.routes.getD []

def Answers.references (answers : Answers) : List Reference :=
  (answers.ingresses.getD []).flatMap (ingressReferences controller) ++
    (answers.listedRoutes controller).flatMap (routeReferences (answers.managed controller))

structure Collected where
  backends : List Backend := []
  sites : List Site := []
deriving DecidableEq

/-- The first backend of a name stands for all. -/
def Collected.add (collected : Collected) (reference : Reference) : Collected :=
  if collected.backends.any fun backend => backend.name == reference.backendName then
    { collected with sites := collected.sites ++ [reference.site] }
  else if reference.skipped controller then collected
  else
    { backends := collected.backends ++ [reference.madeBackend controller]
      sites := collected.sites ++ [reference.site] }

def collect (references : List Reference) : Collected :=
  references.foldl (Collected.add controller) {}

def Answers.secretUses (answers : Answers) : List ((Text × Text) × List Text) :=
  let listeners := if controller.gatewayApiEnabled then
    gatewaySecrets controller (answers.gateways.getD []) else []
  (answers.ingresses.getD []).flatMap (ingressSecrets controller) ++ listeners ++
    (answers.listedRoutes controller).flatMap (routeSecrets (answers.managed controller))

def gatherHosts (uses : List ((Text × Text) × List Text)) : HashMap (Text × Text) (List Text) :=
  uses.foldl (fun secrets use => secrets.upsert use.1 fun hosts => hosts.getD [] ++ use.2) ∅

def Answers.tlsSecrets (answers : Answers) : HashMap (Text × Text) (List Text) :=
  (gatherHosts (answers.secretUses controller)).mapValues fun hosts =>
    hosts.dedup.insertionSort (· ≤ ·)

/-! ## References of HTTPRoutes -/

theorem attachedGateways_of_empty (empty : managed.entries = []) (route : HttpRoute) :
    attachedGateways managed route = [] := by
  have missing : ∀ key, managed.get? key = none := by
    intro key
    exact HashMap.get?_eq_none_iff.mpr (by simp [HashMap.keys, empty])
  unfold attachedGateways
  split
  · rw [missing]
    rfl
  · rw [List.filterMap_eq_nil_iff]
    intro parent _
    simp [parentGateway, missing]

theorem Answers.references_eq (answers : Answers) : answers.references controller =
      (answers.ingresses.getD []).flatMap (ingressReferences controller) ++
        (answers.routes.getD []).flatMap (routeReferences (answers.managed controller)) := by
  unfold Answers.references Answers.listedRoutes
  by_cases empty : (answers.managed controller).entries = []
  · have unattached : (answers.routes.getD []).flatMap
        (routeReferences (answers.managed controller)) = [] := by
      rw [List.flatMap_eq_nil_iff]
      intro route _
      simp [routeReferences, attachedGateways_of_empty empty]
    simp [empty, unattached]
  · simp [empty]

end

/-! One pass of the controller (`ingress/controller.rs`): collect sites and secrets, load
the certificates of the secrets, drop those of hosts no longer used, and replace the route
table. -/

open Proxy Router Tls

structure IngressController where
  platform : Platform
  parsers : CertParsers
  config : IngressControllerConfig := {}

/-- What a pass changes: the router, the certificates, the configuration in
use, and the hosts whose certificates came from secrets. -/
structure Live where
  table : RouteTable := .empty
  http3 : Http3Options := {}
  certStore : CertStore := {}
  runtimeConfig : Config := {}
  lastIngressTlsHosts : List Text := []

abbrev SecretHosts := HashMap (Text × Text) (List Text)

section

variable (parsers : CertParsers)

def mergedHosts (hosts : List Text) (cert : Bytes) : List Text :=
  let merged := (certHostsFromPem parsers cert).foldl
    (fun merged host => if merged.contains host then merged else merged ++ [host]) hosts
  (merged.insertionSort (· ≤ ·)).dedup

structure Loaded where
  certStore : CertStore
  newIngressHosts : List Text := []
  tls : List TlsConfig := []

/-- Load one secret; one that is missing or not for TLS is passed over. -/
def loadSecret (answers : Answers) (loaded : Loaded) (entry : (Text × Text) × List Text) :
    Loaded :=
  match (answers.secret entry.1).bind Secret.pair with
  | none => loaded
  | some (cert, key) =>
    let hosts := mergedHosts parsers entry.2 cert
    let tls := loaded.tls ++
      [{ hosts, source := .kubernetes, expiresAt := certExpiryFromPem parsers cert }]
    match loaded.certStore.insertPemInMemoryForHosts parsers hosts cert key with
    | .error _ => { loaded with tls }
    | .ok certStore =>
      { certStore, newIngressHosts := loaded.newIngressHosts ++ hosts, tls }

def loadSecrets (answers : Answers) (secrets : SecretHosts) (certStore : CertStore) : Loaded :=
  secrets.entries.foldl (loadSecret parsers answers) { certStore }

end

/-- Drop the hosts the previous pass loaded and this one did not. A pass that
loaded none keeps them all. -/
def dropObsolete (loaded : Loaded) (live : Live) : Live :=
  if loaded.newIngressHosts.isEmpty then { live with certStore := loaded.certStore }
  else
    let obsolete := live.lastIngressTlsHosts.filter fun host =>
      !loaded.newIngressHosts.contains host
    { live with
      certStore := loaded.certStore.removeForHosts obsolete
      lastIngressTlsHosts := loaded.newIngressHosts }

namespace IngressController

variable (controller : IngressController)

/-- The configuration made from the objects; access lists and firewall policies
are those in use. -/
def configFor (references : List Reference) (tls : List TlsConfig) (inUse : Config) : Config :=
  let collected := collect controller.config references
  { backends := collected.backends
    sites := collected.sites
    tls
    accessLists := inUse.accessLists
    wafPolicies := inUse.wafPolicies }

/-- Install a configuration. One whose table cannot be built is only logged. -/
def install (config : Config) (live : Live) : Live :=
  match configToRouteTable controller.platform config with
  | .error _ => live
  | .ok table =>
    { live with
      table
      http3 := config.http3
      certStore := live.certStore.setExpectedFromConfig config
      runtimeConfig := config }

/-- Run one pass. Without a list of Ingress objects it changes nothing. -/
def reconcile (answers : Answers) (secrets : SecretHosts) (live : Live) : Live :=
  match answers.ingresses with
  | none => live
  | some _ =>
    let references := answers.references controller.config
    let loaded := loadSecrets controller.parsers answers secrets live.certStore
    let live := dropObsolete loaded live
    controller.install (controller.configFor references loaded.tls live.runtimeConfig) live

def Loads (answers : Answers) (secrets : SecretHosts) : Prop :=
  secrets.Reorders (answers.tlsSecrets controller.config)

end IngressController

end PertiskProxy.Ingress
