import PertiskProxy.Ingress.Annotations

/-! The admin API shows an Ingress or an HTTPRoute as a form and rebuilds the object from
the form when it is saved (`api/kubernetes.rs`). -/

namespace PertiskProxy.Ingress

open Text

structure FormRoute where
  path : Text
  pathType : Text
  serviceName : Text
  servicePort : Option Int
  servicePortName : Option Text
deriving DecidableEq

/-- The form of a site: `IngressFormRow`. The fields of its first route are there
twice. -/
structure SiteForm where
  ns : Text
  name : Text
  host : Text
  routes : List FormRoute
  first : FormRoute
  tlsSecretName : Option Text
  ingressClassName : Option Text
  gatewayName : Option Text := none
  gatewayNamespace : Option Text := none
  policies : AnnotatedPolicies
deriving DecidableEq

structure RouteBody where
  path : Option Text
  pathType : Option Text
  serviceName : Text
  servicePort : Option Int
  servicePortName : Option Text
deriving DecidableEq

structure SiteBody where
  host : Text
  routes : Option (List RouteBody)
  first : RouteBody
  tlsSecretNamespace : Option Text
  tlsSecretName : Option Text
  serviceNamespace : Text
  ingressClassName : Option Text
  gatewayName : Option Text
  gatewayNamespace : Option Text
  policies : AnnotatedPolicies
deriving DecidableEq

def FormRoute.body (route : FormRoute) : RouteBody where
  path := some route.path
  pathType := some route.pathType
  serviceName := route.serviceName
  servicePort := route.servicePort
  servicePortName := route.servicePortName

/-- The unchanged form. The namespaces that it does not show are the object's own, as
in the admin console. -/
def SiteForm.body (form : SiteForm) : SiteBody where
  host := form.host
  routes := some (form.routes.map FormRoute.body)
  first := form.first.body
  tlsSecretNamespace := form.tlsSecretName.map fun _ => form.ns
  tlsSecretName := form.tlsSecretName
  serviceNamespace := form.ns
  ingressClassName := form.ingressClassName
  gatewayName := form.gatewayName
  gatewayNamespace := form.gatewayNamespace
  policies := form.policies

def FormRoute.blank : FormRoute where
  path := "/"
  pathType := "Prefix"
  serviceName := []
  servicePort := none
  servicePortName := none

def SiteBody.checked (body : SiteBody) : Except Text (Text × Text) :=
  let host := trim body.host
  let serviceNamespace := trim body.serviceNamespace
  if host.isEmpty then .error "host is required"
  else if serviceNamespace.isEmpty then .error "service_namespace is required"
  else .ok (host, serviceNamespace)

def SiteBody.routesWith (body : SiteBody) (build : Text → Text → RouteBody → Except Text α) :
    Except Text (List α) :=
  match body.routes.filter fun routes => !routes.isEmpty with
  | some routes =>
    routes.mapM (build "each route requires service_name"
      "each route requires service_port or service_port_name")
  | none =>
    (build "service_name is required" "service_port or service_port_name is required"
      body.first).map fun built => [built]

def RouteBody.pathOrRoot (route : RouteBody) : Text :=
  let path := trim (route.path.getD "/")
  if path.isEmpty then "/" else path

def RouteBody.pathTypeOrPrefix (route : RouteBody) : Text :=
  (trimmedNonEmpty route.pathType).getD "Prefix"

structure ManagedSpec extends IngressSpec where
  defaultBackend : Option IngressBackend := none
deriving DecidableEq

structure ManagedIngress where
  annotations : Option Annotations := none
  spec : Option ManagedSpec := none

def backendPort (number : Option Int) (name : Option Text) : Option ServiceBackendPort :=
  match number with
  | some number => some { number := some number }
  | none => name.map fun name => { name := some name }

def ingressPath (noName noPort : Text) (route : RouteBody) : Except Text IngressPath :=
  let serviceName := trim route.serviceName
  if serviceName.isEmpty then .error noName
  else
    match backendPort route.servicePort (trimmedNonEmpty route.servicePortName) with
    | none => .error noPort
    | some port =>
      .ok
        { path := some route.pathOrRoot
          pathType := route.pathTypeOrPrefix
          backend := { service := some { name := serviceName, port := some port } } }

def ingressPathsFromBody (body : SiteBody) : Except Text (List IngressPath) :=
  body.routesWith ingressPath

def IngressPath.formRoute (path : IngressPath) : FormRoute where
  path := path.path.getD "/"
  pathType := path.pathType
  serviceName := (path.backend.service.map IngressServiceBackend.name).getD []
  servicePort := (path.backend.service.bind IngressServiceBackend.port).bind
    ServiceBackendPort.number
  servicePortName := (path.backend.service.bind IngressServiceBackend.port).bind
    ServiceBackendPort.name

def IngressRule.formRoutes (rule : IngressRule) : List FormRoute :=
  let routes := (rule.http.getD []).map IngressPath.formRoute
  if routes.isEmpty then [.blank] else routes

def firstTlsSecret (tls : List IngressTls) : Option Text :=
  tls.head?.bind IngressTls.secretName

def kubernetesIngressGet (ns name : Text) (ingress : ManagedIngress) : Except Text SiteForm :=
  match ingress.spec with
  | none => .error "Ingress has no spec"
  | some spec =>
    match spec.rules with
    | [] => .error "Ingress has no rules"
    | rule :: _ =>
      .ok
        { ns, name
          host := rule.host.getD "*"
          routes := rule.formRoutes
          first := rule.formRoutes.headD .blank
          tlsSecretName := firstTlsSecret spec.tls
          ingressClassName := spec.ingressClassName
          policies := annotatedPolicies ingress.annotations }

def SiteBody.tls (body : SiteBody) (ns host : Text) : Except Text (List IngressTls) :=
  match trimmedNonEmpty body.tlsSecretNamespace, trimmedNonEmpty body.tlsSecretName with
  | some secretNs, some secretName =>
    if secretNs = ns then .ok [{ hosts := some [host], secretName := some secretName }]
    else .error "TLS secret must be in the same namespace as the Ingress"
  | _, _ => .ok []

def kubernetesIngressUpdate (ingressClass : Option Text) (ns : Text) (body : SiteBody)
    (current : ManagedIngress) : Except Text ManagedIngress := do
  let (host, _) ← body.checked
  let paths ← ingressPathsFromBody body
  let tls ← body.tls ns host
  let rule : IngressRule := { host := some host, http := some paths }
  return {
    annotations := mergeSecurityAnnotations current.annotations body.policies
    spec := some
      { ingressClassName := body.ingressClassName.or ingressClass
        rules := [rule]
        tls } }

/-- Open the form of an Ingress and save it as it is. The API server may refuse the
new object. -/
def saveIngress (ingressClass : Option Text) (ns name : Text) (accepted : Bool)
    (ingress : ManagedIngress) : ManagedIngress :=
  match (kubernetesIngressGet ns name ingress).bind fun form =>
      kubernetesIngressUpdate ingressClass ns form.body ingress with
  | .ok saved => if accepted then saved else ingress
  | .error _ => ingress

/-- A rule as the cluster stores it. What it says beyond paths and backends (filters,
other matches, weights) is unknown to the typed object and lost when that is written. -/
structure StoredRule extends HttpRouteRule where
  others : List (Text × Text) := []
deriving DecidableEq

structure ManagedRoute where
  annotations : Option Annotations := none
  parentRefs : List ParentReference := []
  hostnames : List Text := []
  rules : List StoredRule := []

structure GatewayCluster where
  gateways : List Gateway := []
  gatewayClass : Option Text := none

def gatewayManagedByApp (gateway : Gateway) (wantClass : Option Text) : Bool :=
  match wantClass with
  | some want => gateway.gatewayClassName == some want
  | none => gateway.gatewayClassName.isSome

def gatewayTlsSecret (gateway : Gateway) : Option Text :=
  ((gateway.listeners.find? fun listener =>
    eqIgnoreAsciiCase listener.protocol "https").bind fun listener =>
      listener.certificateRefs.bind List.head?).map SecretObjectReference.name

namespace GatewayCluster

variable (cluster : GatewayCluster)

def managedGatewayKeys : List (Text × Text) :=
  (cluster.gateways.filter fun gateway => gatewayManagedByApp gateway cluster.gatewayClass).map
    fun gateway => (namespaceOf gateway.ns, gateway.name)

def get (ns name : Text) : Option Gateway :=
  cluster.gateways.find? fun gateway => gateway.ns == some ns && gateway.name == name

def httprouteAttachedToManaged (ns name : Text) (route : ManagedRoute) : Bool :=
  if route.parentRefs.isEmpty then cluster.managedGatewayKeys.contains (ns, name)
  else
    route.parentRefs.any fun parent =>
      cluster.managedGatewayKeys.contains (parent.ns.getD ns, parent.name)

def ensureHttprouteManaged (ns name : Text) (route : ManagedRoute) : Except Text Unit :=
  if cluster.httprouteAttachedToManaged ns name route then .ok ()
  else .error "HTTPRoute is not attached to a Gateway managed by this controller"

end GatewayCluster

def gatewayPathMatchType (pathType : Text) : Text :=
  if trim pathType = "Exact".toList then "Exact" else "PathPrefix"

/-- One rule; the service is taken from the namespace of the form. -/
def httprouteRule (serviceNamespace noName noPort : Text) (route : RouteBody) :
    Except Text HttpRouteRule :=
  let serviceName := trim route.serviceName
  if serviceName.isEmpty then .error noName
  else
    match route.servicePort with
    | none => .error noPort
    | some port =>
      let path : HttpPathMatch :=
        { matchType := some (gatewayPathMatchType route.pathTypeOrPrefix)
          value := some route.pathOrRoot }
      let backend : HttpBackendRef :=
        { kind := some "Service", name := serviceName, ns := some serviceNamespace
          port := some port }
      .ok { routeMatches := [{ path := some path }], backendRefs := [backend] }

def httprouteRulesFromBody (body : SiteBody) (serviceNamespace : Text) :
    Except Text (List HttpRouteRule) :=
  body.routesWith (httprouteRule serviceNamespace)

def HttpRouteRule.formRoute (rule : HttpRouteRule) : FormRoute :=
  let path := rule.routeMatches.head?.bind HttpRouteMatch.path
  let backend := rule.backendRefs.head?
  { path := (path.bind HttpPathMatch.value).getD "/"
    pathType :=
      if path.bind HttpPathMatch.matchType = some "Exact".toList then "Exact" else "Prefix"
    serviceName := (backend.map HttpBackendRef.name).getD []
    servicePort := backend.bind HttpBackendRef.port
    servicePortName := none }

def ingressFormRoutesFromHttproute (route : ManagedRoute) : List FormRoute :=
  if route.rules.isEmpty then [.blank]
  else route.rules.map fun rule => rule.toHttpRouteRule.formRoute

def kubernetesGatewaySiteGet (cluster : GatewayCluster) (ns name : Text) (route : ManagedRoute) :
    Except Text SiteForm := do
  cluster.ensureHttprouteManaged ns name route
  let routes := ingressFormRoutesFromHttproute route
  let gatewayName := (route.parentRefs.head?.map ParentReference.name).getD []
  let gatewayNamespace := (route.parentRefs.head?.bind ParentReference.ns).getD ns
  let gateway :=
    if gatewayName.isEmpty then none else cluster.get gatewayNamespace gatewayName
  return {
    ns, name, routes
    host := route.hostnames.head?.getD "*"
    first := routes.headD .blank
    tlsSecretName := gateway.bind gatewayTlsSecret
    ingressClassName := gateway.bind Gateway.gatewayClassName
    gatewayName := if gatewayName.isEmpty then none else some gatewayName
    gatewayNamespace := some gatewayNamespace
    policies := annotatedPolicies route.annotations }

def buildHttprouteSpec (host gatewayName ns : Text) (rules : List HttpRouteRule)
    (current : ManagedRoute) : ManagedRoute :=
  { current with
    parentRefs :=
      [ { group := some "gateway.networking.k8s.io"
          kind := some "Gateway"
          name := gatewayName
          ns := some ns
          sectionName := some "https" } ]
    hostnames := [host]
    rules := rules.map fun rule => { rule with } }

def GatewayCluster.attach (cluster : GatewayCluster) (gatewayNs gatewayName : Text) :
    Except Text (Text × Text) :=
  if gatewayName.isEmpty then .error "gateway_name is required"
  else
    match cluster.get gatewayNs gatewayName with
    | none =>
      .error ("Gateway \"".toList ++ gatewayName ++ "\" not found in namespace \"".toList ++
        gatewayNs ++ "\"".toList)
    | some gateway =>
      if gatewayManagedByApp gateway cluster.gatewayClass then .ok (gatewayName, gatewayNs)
      else
        .error ("Gateway is not managed by this controller ".toList ++
          "(check gateway class / PERTISK_GATEWAY_CLASS)".toList)

def SiteBody.gateway (cluster : GatewayCluster) (body : SiteBody) (ns : Text)
    (current : ManagedRoute) : Except Text (Text × Text) :=
  let parent := current.parentRefs.head?
  cluster.attach
    (((trimmedNonEmpty body.gatewayNamespace).or (parent.bind ParentReference.ns)).getD ns)
    (((trimmedNonEmpty body.gatewayName).or (parent.map ParentReference.name)).getD [])

def kubernetesGatewaySiteUpdate (cluster : GatewayCluster) (ns name : Text) (body : SiteBody)
    (current : ManagedRoute) : Except Text ManagedRoute := do
  let (host, serviceNamespace) ← body.checked
  let rules ← httprouteRulesFromBody body serviceNamespace
  cluster.ensureHttprouteManaged ns name current
  let (gatewayName, gatewayNs) ← body.gateway cluster ns current
  return buildHttprouteSpec host gatewayName gatewayNs rules
    { current with
      annotations := mergeSecurityAnnotations current.annotations body.policies }

def saveRoute (cluster : GatewayCluster) (ns name : Text) (accepted : Bool)
    (route : ManagedRoute) : ManagedRoute :=
  match (kubernetesGatewaySiteGet cluster ns name route).bind fun form =>
      kubernetesGatewaySiteUpdate cluster ns name form.body route with
  | .ok saved => if accepted then saved else route
  | .error _ => route

end PertiskProxy.Ingress
