import PertiskProxy.Ingress.SiteForm

/-! Which sites are left as they are when their form is opened and saved. -/

namespace PertiskProxy.Ingress

open Text IngressPath Fallible List

variable {rule : HttpRouteRule} {path : IngressPath} {saved : ManagedRoute}

/-! ## What is compared -/

structure SameIngress (before after : ManagedIngress) : Prop where
  rules : (after.spec.map fun spec => spec.rules) = before.spec.map fun spec => spec.rules
  defaultBackend : (after.spec.map fun spec => spec.defaultBackend) =
    before.spec.map fun spec => spec.defaultBackend
  tls : (after.spec.map fun spec => spec.tls) = before.spec.map fun spec => spec.tls
  policies : SamePolicies (annotatedPolicies after.annotations)
    (annotatedPolicies before.annotations)

/-- A rule with the defaults that the API fills in for absent fields. -/
structure DefaultedRule where
  paths : List (Text × Text)
  backends : List HttpBackendRef
  others : List (Text × Text)
deriving DecidableEq

def HttpRouteMatch.defaulted (routeMatch : HttpRouteMatch) : Text × Text :=
  ((routeMatch.path.bind HttpPathMatch.matchType).getD "PathPrefix",
    (routeMatch.path.bind HttpPathMatch.value).getD "/")

def HttpBackendRef.defaulted (backend : HttpBackendRef) : HttpBackendRef :=
  { backend with
    group := some (backend.group.getD [])
    kind := some (backend.kind.getD "Service") }

def StoredRule.defaulted (rule : StoredRule) : DefaultedRule where
  paths := (if rule.routeMatches.isEmpty then [{}] else rule.routeMatches).map
    HttpRouteMatch.defaulted
  backends := rule.backendRefs.map HttpBackendRef.defaulted
  others := rule.others

structure SameRoute (before after : ManagedRoute) : Prop where
  rules : after.rules.map StoredRule.defaulted = before.rules.map StoredRule.defaulted
  policies : SamePolicies (annotatedPolicies after.annotations)
    (annotatedPolicies before.annotations)

theorem SamePolicies.refl (policies : AnnotatedPolicies) : SamePolicies policies policies :=
  ⟨rfl, rfl, rfl, rfl⟩

/-! ## What a form can show -/

def Tidy (text : Text) : Prop :=
  trim text = text ∧ text ≠ []

def IngressPath.Writable (path : IngressPath) : Prop :=
  ∃ service port, path.backend.service = some service ∧ service.port = some port ∧
    trim service.name ≠ [] ∧
      (port.number.isSome = true ∨ (trimmedNonEmpty port.name).isSome = true)

/-- The path is written as a form writes it: a path of its own, and a service with
either the number or the name of a port. -/
def IngressPath.Plain (path : IngressPath) : Prop :=
  (∃ text, path.path = some text ∧ Tidy text) ∧ Tidy path.pathType ∧
    ∃ name port, path.backend = { service := some { name, port := some port } } ∧ Tidy name ∧
      ((∃ number, port = { number := some number }) ∨ ∃ text, port = { name := some text } ∧ Tidy text)

structure IngressRule.Writable (ns : Text) (tls : List IngressTls) (rule : IngressRule) : Prop where
  named : trim (rule.host.getD "*") ≠ []
  located : trim ns ≠ []
  routed : rule.http.getD [] ≠ []
  paths : ∀ path ∈ rule.http.getD [], path.Writable
  secret : (trimmedNonEmpty (firstTlsSecret tls)).isSome = true → trim ns = ns

/-- The Ingress has one rule for one host, whose paths a form can show, no default
backend, and at most one TLS entry, which is for that host. -/
def ManagedSpec.Plain (spec : ManagedSpec) : Prop :=
  ∃ host paths, spec.rules = [{ host := some host, http := some paths }] ∧
    trim host = host ∧ (∀ path ∈ paths, path.Plain) ∧ spec.defaultBackend = none ∧
    (spec.tls = [] ∨
      ∃ secret, spec.tls = [{ secretName := some secret, hosts := some [host] }] ∧ Tidy secret)

def IngressKept (ns : Text) (accepted : Bool) (ingress : ManagedIngress) : Prop :=
  accepted = true → ∀ spec rule rest, ingress.spec = some spec → spec.rules = rule :: rest →
    rule.Writable ns spec.tls → spec.Plain

def HttpRouteRule.Writable (rule : HttpRouteRule) : Prop :=
  ∃ backend rest, rule.backendRefs = backend :: rest ∧ trim backend.name ≠ [] ∧
    backend.port.isSome = true

/-- The rule says no more than a form does: one path, and one service of the route's
own namespace. -/
def StoredRule.Plain (ns : Text) (rule : StoredRule) : Prop :=
  (∃ kind value, rule.defaulted.paths = [(kind, value)] ∧
    (kind = "Exact".toList ∨ kind = "PathPrefix".toList) ∧ Tidy value) ∧
  (∃ backend, rule.backendRefs = [backend] ∧ backend.group.getD [] = [] ∧
    backend.kind.getD "Service" = "Service".toList ∧ trim backend.name = backend.name ∧
      backend.ns = some (trim ns)) ∧
  rule.others = []

def ManagedRoute.gatewayKey (ns : Text) (route : ManagedRoute) : Option (Text × Text) :=
  (route.parentRefs.head?.filter fun parent => !parent.name.isEmpty).map fun parent =>
    (((trimmedNonEmpty (some (parent.ns.getD ns))).or parent.ns).getD ns,
      (trimmedNonEmpty (some parent.name)).getD parent.name)

structure ManagedRoute.Writable (cluster : GatewayCluster) (ns name : Text)
    (route : ManagedRoute) : Prop where
  attached : cluster.httprouteAttachedToManaged ns name route = true
  named : trim (route.hostnames.head?.getD "*") ≠ []
  located : trim ns ≠ []
  routed : route.rules ≠ []
  rules : ∀ rule ∈ route.rules, rule.toHttpRouteRule.Writable
  gateway : ∃ key gateway, route.gatewayKey ns = some key ∧
    cluster.get key.1 key.2 = some gateway ∧
      gatewayManagedByApp gateway cluster.gatewayClass = true

def RouteKept (cluster : GatewayCluster) (ns name : Text) (accepted : Bool)
    (route : ManagedRoute) : Prop :=
  accepted = true → route.Writable cluster ns name → ∀ rule ∈ route.rules, rule.Plain ns

/-! ## Ingress -/

section

theorem trimmedNonEmpty_eq_some :
    trimmedNonEmpty (some text) = some other ↔ trim text = other ∧ other ≠ [] := by
  rw [trimmedNonEmpty, Option.map_some, Option.filter_eq_some_iff]
  constructor
  · rintro ⟨same, nonEmpty⟩
    exact ⟨Option.some.inj same, by simpa using nonEmpty⟩
  · rintro ⟨same, nonEmpty⟩
    exact ⟨congrArg some same, by simpa using nonEmpty⟩

theorem trimmedNonEmpty_eq_none : trimmedNonEmpty (some text) = none ↔ trim text = [] := by
  simp [trimmedNonEmpty, Option.filter_eq_none_iff]

theorem trimmed_getD_eq_self (tidy : Tidy fallback) :
    (trimmedNonEmpty (some text)).getD fallback = text ↔ Tidy text := by
  cases trimmed : trimmedNonEmpty (some text) with
  | none =>
    have blank := trimmedNonEmpty_eq_none.mp trimmed
    constructor
    · intro same
      cases same
      exact absurd (tidy.1.symm.trans blank) tidy.2
    · rintro ⟨same, nonEmpty⟩
      exact absurd (same.symm.trans blank) nonEmpty
  | some other =>
    rcases trimmedNonEmpty_eq_some.mp trimmed with ⟨same, nonEmpty⟩
    constructor
    · intro equal
      cases equal
      exact ⟨same, nonEmpty⟩
    · rintro ⟨trim, -⟩
      exact same.symm.trans trim

theorem pathOrRoot_eq (route : RouteBody) :
    route.pathOrRoot = (trimmedNonEmpty (some (route.path.getD "/"))).getD "/" := by
  rw [RouteBody.pathOrRoot]
  generalize route.path.getD "/" = text
  cases trimmed : trimmedNonEmpty (some text) with
  | none =>
    rw [trimmedNonEmpty_eq_none.mp trimmed]
    rfl
  | some other =>
    rcases trimmedNonEmpty_eq_some.mp trimmed with ⟨same, nonEmpty⟩
    rw [same, if_neg (by simpa using nonEmpty), Option.getD_some]

def IngressPath.rebuilt (path : IngressPath) : IngressPath where
  path := some path.formRoute.body.pathOrRoot
  pathType := path.formRoute.body.pathTypeOrPrefix
  backend :=
    { service := some
        { name := trim path.formRoute.serviceName
          port := backendPort path.formRoute.servicePort
            (trimmedNonEmpty path.formRoute.servicePortName) } }

theorem IngressPath.writable_iff (path : IngressPath) :
    path.Writable ↔ trim path.formRoute.serviceName ≠ [] ∧ (backendPort path.formRoute.servicePort
        (trimmedNonEmpty path.formRoute.servicePortName)).isSome = true := by
  rcases path with ⟨path, pathType, ⟨service, resource⟩⟩
  cases service with
  | none =>
    have blank : trim [] = [] := rfl
    simp [Writable, formRoute, blank]
  | some service =>
    rcases service with ⟨name, port⟩
    cases port with
    | none => simp [Writable, formRoute, backendPort, trimmedNonEmpty]
    | some port =>
      rcases port with ⟨number, portName⟩
      cases number <;>
        simp [Writable, formRoute, backendPort]

theorem ingressPath_ok (writable : path.Writable) (noName noPort : Text) :
    ingressPath noName noPort path.formRoute.body = .ok path.rebuilt := by
  rcases path.writable_iff.mp writable with ⟨named, ported⟩
  rcases Option.isSome_iff_exists.mp ported with ⟨port, found⟩
  have name : (trim path.formRoute.body.serviceName).isEmpty = false := by
    simpa [FormRoute.body] using named
  have bodyPort : backendPort path.formRoute.body.servicePort
      (trimmedNonEmpty path.formRoute.body.servicePortName) = some port := found
  simp only [ingressPath, name, bodyPort, Bool.false_eq_true, if_false]
  rw [rebuilt, found]
  rfl

theorem ingressPath_error (stuck : ¬ path.Writable) (noName noPort : Text) :
    ∃ error, ingressPath noName noPort path.formRoute.body = .error error := by
  unfold ingressPath
  dsimp only
  split
  · exact ⟨_, rfl⟩
  rename_i named
  split
  · exact ⟨_, rfl⟩
  · next port found =>
    refine absurd (path.writable_iff.mpr ⟨?_, ?_⟩) stuck
    · simpa [FormRoute.body] using named
    · exact Option.isSome_iff_exists.mpr ⟨port, found⟩

theorem backendPort_eq_self
    (given : number.isSome = true ∨ (trimmedNonEmpty name).isSome = true) :
    backendPort number (trimmedNonEmpty name) = some { number, name } ↔
      (∃ value, (⟨number, name⟩ : ServiceBackendPort) = { number := some value }) ∨
        ∃ text, (⟨number, name⟩ : ServiceBackendPort) = { name := some text } ∧ Tidy text := by
  cases number with
  | some value => cases name <;> simp [backendPort]
  | none =>
    cases name with
    | none => simp [trimmedNonEmpty] at given
    | some text =>
      have trimmed : backendPort none (trimmedNonEmpty (some text)) =
          some { number := none, name := some text } ↔
            trimmedNonEmpty (some text) = some text := by
        cases trimmedNonEmpty (some text) <;> simp [backendPort]
      rw [trimmed, trimmedNonEmpty_eq_some]
      simp [Tidy]

theorem rebuilt_eq_self (writable : path.Writable) :
    path.rebuilt = path ↔ path.Plain := by
  have root : Tidy "/" := ⟨by decide, by decide⟩
  have lead : Tidy "Prefix" := ⟨by decide, by decide⟩
  rcases path with ⟨path, pathType, ⟨service, resource⟩⟩
  rcases writable with ⟨⟨name, port⟩, ⟨number, portName⟩, found, ported, named, given⟩
  cases found
  cases ported
  have pathSame : some ((trimmedNonEmpty (some (path.getD "/"))).getD "/") = path ↔
      ∃ text, path = some text ∧ Tidy text := by
    cases path with
    | none => simp
    | some text => simpa using trimmed_getD_eq_self root
  have portSame := backendPort_eq_self given
  have nameSame : trim name = name ↔ Tidy name := by
    constructor
    · intro same
      exact ⟨same, same ▸ named⟩
    · exact And.left
  have split : rebuilt ⟨path, pathType, ⟨some ⟨name, some ⟨number, portName⟩⟩, resource⟩⟩ =
      ⟨path, pathType, ⟨some ⟨name, some ⟨number, portName⟩⟩, resource⟩⟩ ↔
        some ((trimmedNonEmpty (some (path.getD "/"))).getD "/") = path ∧
          (trimmedNonEmpty (some pathType)).getD "Prefix" = pathType ∧
            (trim name = name ∧ backendPort number (trimmedNonEmpty portName) =
              some ⟨number, portName⟩) ∧ none = resource := by
    rw [rebuilt, pathOrRoot_eq, mk.injEq, IngressBackend.mk.injEq,
      Option.some.injEq, IngressServiceBackend.mk.injEq]
    rfl
  rw [split, pathSame, trimmed_getD_eq_self lead, nameSame, portSame, Plain]
  refine and_congr_right fun _ => and_congr_right fun _ => ?_
  constructor
  · rintro ⟨⟨tidy, plainPort⟩, rfl⟩
    exact ⟨name, ⟨number, portName⟩, rfl, tidy, plainPort⟩
  · rintro ⟨_, _, same, tidy, plainPort⟩
    cases same
    exact ⟨⟨tidy, plainPort⟩, rfl⟩

end

section

variable {build : Text → Text → RouteBody → Except Text α} {objects : List β}
  {view : β → RouteBody} {body : SiteBody}

theorem mapM_eq_ok {step : γ → Except ε α} {result : γ → α} {values : List γ}
    (each : ∀ value ∈ values, step value = .ok (result value)) :
    values.mapM step = .ok (values.map result) := by
  induction values with
  | nil => rfl
  | cons value rest induction =>
    rw [mapM_cons, each value mem_cons_self,
      induction fun later member => each later (mem_cons_of_mem _ member)]
    rfl

theorem routesWith_eq (shown : body.routes = some (objects.map view)) (routed : objects ≠ []) :
    body.routesWith build = objects.mapM fun object =>
      build "each route requires service_name"
        "each route requires service_port or service_port_name" (view object) := by
  have kept : (some (objects.map view)).filter (fun routes => !routes.isEmpty) =
      some (objects.map view) := by
    rw [Option.filter_some_pos]
    simpa using routed
  rw [SiteBody.routesWith, shown, kept]
  exact mapM_map

theorem routesWith_ok {result : β → α} (shown : body.routes = some (objects.map view))
    (routed : objects ≠ [])
    (each : ∀ object ∈ objects, ∀ noName noPort, build noName noPort (view object) =
      .ok (result object)) : body.routesWith build = .ok (objects.map result) := by
  rw [routesWith_eq shown routed]
  exact mapM_eq_ok fun object member => each object member _ _

theorem exists_of_routesWith (shown : body.routes = some (objects.map view))
    (routed : objects ≠ []) (built : body.routesWith build = .ok results)
    (member : object ∈ objects) :
    ∃ noName noPort result, build noName noPort (view object) = .ok result := by
  rw [routesWith_eq shown routed] at built
  rcases exists_result_of_mapM built member with ⟨result, -, made⟩
  exact ⟨_, _, result, made⟩

end

section

variable {ingressClass : Option Text} {ns name : Text} {ingress : ManagedIngress}
  {spec : ManagedSpec} {rule : IngressRule} {rest : List IngressRule}

def rebuiltTls (tls : List IngressTls) (host : Text) : List IngressTls :=
  match trimmedNonEmpty (firstTlsSecret tls) with
  | some secret => [{ secretName := some secret, hosts := some [host] }]
  | none => []

def rebuiltIngress (ingressClass : Option Text) (ingress : ManagedIngress) (spec : ManagedSpec)
    (rule : IngressRule) : ManagedIngress :=
  let host := trim (rule.host.getD "*")
  let rebuilt : IngressRule :=
    { host := some host, http := some ((rule.http.getD []).map rebuilt) }
  { annotations := mergeSecurityAnnotations ingress.annotations
      (annotatedPolicies ingress.annotations)
    spec := some
      { ingressClassName := spec.ingressClassName.or ingressClass
        rules := [rebuilt]
        tls := rebuiltTls spec.tls host } }

def ingressForm (ns name : Text) (ingress : ManagedIngress) (spec : ManagedSpec)
    (rule : IngressRule) : SiteForm where
  ns := ns
  name := name
  host := rule.host.getD "*"
  routes := rule.formRoutes
  first := rule.formRoutes.headD .blank
  tlsSecretName := firstTlsSecret spec.tls
  ingressClassName := spec.ingressClassName
  policies := annotatedPolicies ingress.annotations

theorem kubernetesIngressGet_eq (given : ingress.spec = some spec)
    (ruled : spec.rules = rule :: rest) :
    kubernetesIngressGet ns name ingress = .ok (ingressForm ns name ingress spec rule) := by
  simp only [kubernetesIngressGet, given, ruled]
  rfl

theorem exists_of_kubernetesIngressGet (shown : kubernetesIngressGet ns name ingress = .ok form) :
    ∃ spec rule rest, ingress.spec = some spec ∧ spec.rules = rule :: rest ∧
      form = ingressForm ns name ingress spec rule := by
  unfold kubernetesIngressGet at shown
  split at shown
  · cases shown
  rename_i spec given
  split at shown
  · cases shown
  · next rule rest ruled =>
    cases shown
    exact ⟨spec, rule, rest, given, ruled, rfl⟩

theorem checked_eq_ok {body : SiteBody} {checked : Text × Text} :
    body.checked = .ok checked ↔ trim body.host ≠ [] ∧ trim body.serviceNamespace ≠ [] ∧
        checked = (trim body.host, trim body.serviceNamespace) := by
  unfold SiteBody.checked
  dsimp only
  split
  · next blank =>
    refine iff_of_false (fun failed => by cases failed) ?_
    rintro ⟨host, -⟩
    exact host (isEmpty_iff.mp blank)
  rename_i host
  split
  · next blank =>
    refine iff_of_false (fun failed => by cases failed) ?_
    rintro ⟨-, located, -⟩
    exact located (isEmpty_iff.mp blank)
  · next located =>
    rw [Except.ok.injEq, eq_comm]
    rw [List.isEmpty_iff] at host located
    exact ⟨fun same => ⟨host, located, same⟩, fun passed => passed.2.2⟩

theorem formRoutes_eq (routed : rule.http.getD [] ≠ []) :
    rule.formRoutes = (rule.http.getD []).map formRoute := by
  rw [IngressRule.formRoutes, if_neg]
  simpa using routed

theorem shown_routes (routed : rule.http.getD [] ≠ []) :
    (ingressForm ns name ingress spec rule).body.routes =
      some ((rule.http.getD []).map fun path => path.formRoute.body) := by
  change some (rule.formRoutes.map FormRoute.body) = _
  rw [formRoutes_eq routed, map_map]
  rfl

theorem tls_eq_ok (located : trim ns ≠ []) :
    (ingressForm ns name ingress spec rule).body.tls ns host = .ok tls ↔
      ((trimmedNonEmpty (firstTlsSecret spec.tls)).isSome = true → trim ns = ns) ∧
        tls = rebuiltTls spec.tls host := by
  have body : (ingressForm ns name ingress spec rule).body.tlsSecretName =
      firstTlsSecret spec.tls := rfl
  have bodyNs : (ingressForm ns name ingress spec rule).body.tlsSecretNamespace =
      (firstTlsSecret spec.tls).map fun _ => ns := rfl
  have trimmedNs : trimmedNonEmpty (some ns) = some (trim ns) :=
    trimmedNonEmpty_eq_some.mpr ⟨rfl, located⟩
  have unsigned {entries : List IngressTls} (found : Option Text) (absent : found = none) :
      (Except.ok [] : Except Text (List IngressTls)) = .ok entries ↔
        (found.isSome = true → trim ns = ns) ∧ entries = [] := by
    subst absent
    rw [Except.ok.injEq, eq_comm]
    exact ⟨fun same => ⟨(fun given => by cases given), same⟩, And.right⟩
  rw [SiteBody.tls, rebuiltTls, body, bodyNs]
  cases firstTlsSecret spec.tls with
  | none => exact unsigned none rfl
  | some raw =>
    rw [Option.map_some, trimmedNs]
    cases trimmedNonEmpty (some raw) with
    | none => exact unsigned none rfl
    | some secret =>
      dsimp only
      split
      · next same =>
        rw [Except.ok.injEq, eq_comm]
        exact ⟨fun entries => ⟨fun _ => same, entries⟩, And.right⟩
      · next elsewhere =>
        refine iff_of_false (fun failed => by cases failed) ?_
        rintro ⟨same, -⟩
        exact elsewhere (same rfl)

theorem update_of_writable (writable : rule.Writable ns spec.tls) :
    kubernetesIngressUpdate ingressClass ns (ingressForm ns name ingress spec rule).body ingress =
      .ok (rebuiltIngress ingressClass ingress spec rule) := by
  let body := (ingressForm ns name ingress spec rule).body
  have checked : body.checked = .ok (trim (rule.host.getD "*"), trim ns) :=
    checked_eq_ok.mpr ⟨writable.named, writable.located, rfl⟩
  have shown : body.routes = some ((rule.http.getD []).map fun path => path.formRoute.body) :=
    shown_routes writable.routed
  have paths : ingressPathsFromBody body = .ok ((rule.http.getD []).map rebuilt) :=
    routesWith_ok shown writable.routed fun path member =>
      ingressPath_ok (writable.paths path member)
  have tls : body.tls ns (trim (rule.host.getD "*")) =
      .ok (rebuiltTls spec.tls (trim (rule.host.getD "*"))) :=
    (tls_eq_ok writable.located).mpr ⟨writable.secret, rfl⟩
  exact bind_eq_ok.mpr ⟨_, checked, bind_eq_ok.mpr ⟨_, paths, bind_eq_ok.mpr ⟨_, tls, rfl⟩⟩⟩

theorem writable_of_update {saved : ManagedIngress}
    (updated : kubernetesIngressUpdate ingressClass ns
      (ingressForm ns name ingress spec rule).body ingress = .ok saved) :
    rule.Writable ns spec.tls := by
  rcases bind_eq_ok.mp updated with ⟨checked, passed, afterCheck⟩
  rcases bind_eq_ok.mp afterCheck with ⟨paths, built, afterPaths⟩
  rcases bind_eq_ok.mp afterPaths with ⟨tls, entries, -⟩
  rcases checked_eq_ok.mp passed with ⟨named, located, -⟩
  have routed : rule.http.getD [] ≠ [] := by
    intro none
    have blank : rule.formRoutes = [.blank] := by
      rw [IngressRule.formRoutes, none]
      rfl
    have shown : (ingressForm ns name ingress spec rule).body.routes =
        some ([FormRoute.blank].map FormRoute.body) := by
      rw [← blank]
      rfl
    rcases exists_of_routesWith shown (cons_ne_nil _ _) built mem_cons_self with
      ⟨_, _, _, made⟩
    cases made
  have shown : (ingressForm ns name ingress spec rule).body.routes =
      some ((rule.http.getD []).map fun path => path.formRoute.body) := shown_routes routed
  constructor
  · exact named
  · exact located
  · exact routed
  · intro path member
    by_contra stuck
    rcases exists_of_routesWith shown routed built member with ⟨noName, noPort, _, made⟩
    rcases ingressPath_error stuck noName noPort with ⟨error, failed⟩
    rw [failed] at made
    cases made
  · exact ((tls_eq_ok located).mp entries).1

theorem rebuiltTls_eq_self : rebuiltTls tls host = tls ↔ tls = [] ∨
      ∃ secret, tls = [{ secretName := some secret, hosts := some [host] }] ∧ Tidy secret := by
  constructor
  · intro same
    unfold rebuiltTls at same
    split at same
    · next secret found =>
      right
      refine ⟨secret, same.symm, ?_⟩
      rw [← same] at found
      exact trimmedNonEmpty_eq_some.mp found
    · exact Or.inl same.symm
  · rintro (rfl | ⟨secret, rfl, tidy⟩)
    · rfl
    · have found : trimmedNonEmpty (some secret) = some secret :=
        trimmedNonEmpty_eq_some.mpr tidy
      simp [rebuiltTls, firstTlsSecret, found]

theorem sameIngress_rebuilt (given : ingress.spec = some spec)
    (ruled : spec.rules = rule :: rest) (writable : rule.Writable ns spec.tls) :
    SameIngress ingress (rebuiltIngress ingressClass ingress spec rule) ↔ spec.Plain := by
  let host := trim (rule.host.getD "*")
  let paths := (rule.http.getD []).map rebuilt
  have kept : paths = rule.http.getD [] ↔ ∀ path ∈ rule.http.getD [], path.Plain :=
    Fallible.map_eq_self_iff.trans (forall₂_congr fun path member =>
      rebuilt_eq_self (writable.paths path member))
  constructor
  · intro same
    have rules : [{ host := some host, http := some paths }] = rule :: rest := by
      have found := same.rules
      rw [given, Option.map_some, ruled] at found
      exact Option.some.inj found
    have noDefault : none = spec.defaultBackend := by
      have found := same.defaultBackend
      rw [given] at found
      exact Option.some.inj found
    have tls : rebuiltTls spec.tls host = spec.tls := by
      have found := same.tls
      rw [given] at found
      exact Option.some.inj found
    rcases cons.inj rules with ⟨first, last⟩
    have http : rule.http.getD [] = paths := by rw [← first]; rfl
    refine ⟨host, paths, ?_, trim_idem _, ?_, noDefault.symm, rebuiltTls_eq_self.mp tls⟩
    · rw [ruled, rules]
    · rw [← http]
      exact kept.mp http.symm
  rintro ⟨only, listed, rules, tidy, plain, noDefault, tls⟩
  rw [ruled] at rules
  cases rules
  have same : host = only := tidy
  have listedSame : paths = listed := kept.mpr plain
  have spelled : (rebuiltIngress ingressClass ingress spec
      { host := some only, http := some listed }).spec = some
        { ingressClassName := spec.ingressClassName.or ingressClass
          rules := [{ host := some host, http := some paths }]
          tls := rebuiltTls spec.tls host } := rfl
  have tlsSame : rebuiltTls spec.tls only = spec.tls := rebuiltTls_eq_self.mpr tls
  constructor
  · rw [given, spelled, Option.map_some, Option.map_some, ruled, same, listedSame]
  · rw [given, spelled, Option.map_some, Option.map_some, noDefault]
  · rw [given, spelled, Option.map_some, Option.map_some, same, tlsSame]
  · exact mergeSecurityAnnotations_same _

theorem SameIngress.refl (ingress : ManagedIngress) : SameIngress ingress ingress :=
  ⟨rfl, rfl, rfl, SamePolicies.refl _⟩

theorem saveIngress_same_iff (accepted : Bool) :
    SameIngress ingress (saveIngress ingressClass ns name accepted ingress) ↔
      IngressKept ns accepted ingress := by
  cases updated : (kubernetesIngressGet ns name ingress).bind fun form =>
      kubernetesIngressUpdate ingressClass ns form.body ingress with
  | error error =>
    have unchanged : saveIngress ingressClass ns name accepted ingress = ingress := by
      rw [saveIngress, updated]
    rw [unchanged]
    refine iff_of_true (SameIngress.refl ingress) ?_
    intro _ spec rule rest given ruled writable
    rw [kubernetesIngressGet_eq given ruled, Except.bind, update_of_writable writable] at updated
    cases updated
  | ok saved =>
    rcases bind_eq_ok.mp updated with ⟨form, shown, result⟩
    rcases exists_of_kubernetesIngressGet shown with ⟨spec, rule, rest, given, ruled, rfl⟩
    have writable := writable_of_update result
    rw [update_of_writable writable] at result
    cases result
    cases accepted with
    | false =>
      have unchanged : saveIngress ingressClass ns name false ingress = ingress := by
        rw [saveIngress, updated]
        rfl
      rw [unchanged]
      exact iff_of_true (SameIngress.refl ingress) fun accepted => by cases accepted
    | true =>
      have changed : saveIngress ingressClass ns name true ingress =
          rebuiltIngress ingressClass ingress spec rule := by
        rw [saveIngress, updated]
        rfl
      rw [changed, sameIngress_rebuilt given ruled writable]
      constructor
      · intro plain _ other otherRule otherRest otherGiven _ _
        rw [given] at otherGiven
        cases otherGiven
        exact plain
      · intro kept
        exact kept rfl spec rule rest given ruled writable

end

/-! ## HTTPRoute -/

section

variable {cluster : GatewayCluster} {ns name : Text} {route : ManagedRoute}

def HttpRouteRule.rebuilt (ns : Text) (rule : HttpRouteRule) : HttpRouteRule :=
  let form := rule.formRoute
  let path : HttpPathMatch :=
    { matchType := some (gatewayPathMatchType form.body.pathTypeOrPrefix)
      value := some form.body.pathOrRoot }
  let backend : HttpBackendRef :=
    { kind := some "Service", name := trim form.serviceName, ns := some (trim ns)
      port := form.servicePort }
  { routeMatches := [{ path := some path }], backendRefs := [backend] }

theorem formRoute_serviceName (rule : HttpRouteRule) :
    rule.formRoute.serviceName = (rule.backendRefs.head?.map HttpBackendRef.name).getD [] := rfl

theorem formRoute_servicePort (rule : HttpRouteRule) :
    rule.formRoute.servicePort = rule.backendRefs.head?.bind HttpBackendRef.port := rfl

theorem HttpRouteRule.writable_iff (rule : HttpRouteRule) :
    rule.Writable ↔ trim rule.formRoute.serviceName ≠ [] ∧
      rule.formRoute.servicePort.isSome = true := by
  rw [formRoute_serviceName, formRoute_servicePort, HttpRouteRule.Writable]
  cases rule.backendRefs with
  | nil =>
    have blank : trim [] = [] := rfl
    simp [blank]
  | cons backend rest => simp

theorem httprouteRule_ok (writable : rule.Writable)
    (noName noPort : Text) :
    httprouteRule (trim ns) noName noPort rule.formRoute.body = .ok (rule.rebuilt ns) := by
  rcases rule.writable_iff.mp writable with ⟨named, ported⟩
  rcases Option.isSome_iff_exists.mp ported with ⟨port, found⟩
  have name : (trim rule.formRoute.body.serviceName).isEmpty = false := by
    simpa [FormRoute.body] using named
  have bodyPort : rule.formRoute.body.servicePort = some port := found
  simp only [httprouteRule, name, bodyPort, Bool.false_eq_true, if_false]
  rw [HttpRouteRule.rebuilt, found]
  rfl

theorem httprouteRule_error (stuck : ¬ rule.Writable)
    (serviceNamespace noName noPort : Text) :
    ∃ error, httprouteRule serviceNamespace noName noPort rule.formRoute.body = .error error := by
  unfold httprouteRule
  dsimp only
  split
  · exact ⟨_, rfl⟩
  rename_i named
  split
  · exact ⟨_, rfl⟩
  · next port found =>
    refine absurd (rule.writable_iff.mpr ⟨?_, ?_⟩) stuck
    · simpa [FormRoute.body] using named
    · exact Option.isSome_iff_exists.mpr ⟨port, found⟩

def formMatchType (matchType : Option Text) : Text :=
  if matchType = some "Exact".toList then "Exact" else "PathPrefix"

theorem formMatchType_eq_self : formMatchType matchType = matchType.getD "PathPrefix" ↔
      matchType.getD "PathPrefix" = "Exact".toList ∨
        matchType.getD "PathPrefix" = "PathPrefix".toList := by
  rw [formMatchType]
  cases matchType with
  | none => simp
  | some kind =>
    by_cases exact : kind = "Exact".toList
    · simp [exact]
    · rw [if_neg (by simpa using exact), Option.getD_some, or_iff_right exact, eq_comm]

theorem rebuilt_matchType (rule : HttpRouteRule) :
    gatewayPathMatchType rule.formRoute.body.pathTypeOrPrefix =
      formMatchType ((rule.routeMatches.head?.bind HttpRouteMatch.path).bind
        HttpPathMatch.matchType) := by
  simp only [HttpRouteRule.formRoute, FormRoute.body, RouteBody.pathTypeOrPrefix, formMatchType]
  split
  · decide
  · decide

def StoredRule.rebuilt (ns : Text) (rule : StoredRule) : StoredRule :=
  { rule.toHttpRouteRule.rebuilt ns with }

open HttpRouteMatch

theorem rebuilt_paths (rule : StoredRule) :
    (rule.rebuilt ns).defaulted.paths = rule.defaulted.paths ↔
      ∃ kind value, rule.defaulted.paths = [(kind, value)] ∧
        (kind = "Exact".toList ∨ kind = "PathPrefix".toList) ∧ Tidy value := by
  have root : Tidy "/" := ⟨by decide, by decide⟩
  let first := rule.routeMatches.head?.bind path
  have spelled : (rule.rebuilt ns).defaulted.paths =
      [ (formMatchType (first.bind HttpPathMatch.matchType),
        (trimmedNonEmpty (some ((first.bind HttpPathMatch.value).getD "/"))).getD "/") ] := by
    change [ (gatewayPathMatchType rule.formRoute.body.pathTypeOrPrefix,
      rule.formRoute.body.pathOrRoot) ] = _
    rw [rebuilt_matchType, pathOrRoot_eq]
    rfl
  have single (routeMatch : HttpRouteMatch) (head : first = routeMatch.path) :
      (rule.rebuilt ns).defaulted.paths = [routeMatch.defaulted] ↔
        (routeMatch.defaulted.1 = "Exact".toList ∨
          routeMatch.defaulted.1 = "PathPrefix".toList) ∧ Tidy routeMatch.defaulted.2 := by
    rw [spelled, head, cons.injEq, Prod.ext_iff]
    simp only [and_true, defaulted]
    rw [formMatchType_eq_self, trimmed_getD_eq_self root]
  have one (routeMatch : HttpRouteMatch) (head : first = routeMatch.path)
      (listed : rule.defaulted.paths = [routeMatch.defaulted]) :
      (rule.rebuilt ns).defaulted.paths = rule.defaulted.paths ↔
        ∃ kind value, rule.defaulted.paths = [(kind, value)] ∧
          (kind = "Exact".toList ∨ kind = "PathPrefix".toList) ∧ Tidy value := by
    rw [listed, single routeMatch head]
    constructor
    · intro known
      exact ⟨_, _, rfl, known⟩
    · rintro ⟨kind, value, same, known⟩
      rw [(cons.inj same).1]
      exact known
  cases listed : rule.routeMatches with
  | nil =>
    apply one {}
    · simp only [first, listed]
      rfl
    · simp [StoredRule.defaulted, listed]
  | cons routeMatch rest =>
    cases rest with
    | nil =>
      apply one routeMatch
      · simp [first, listed]
      · simp [StoredRule.defaulted, listed]
    | cons second rest =>
      have several : rule.defaulted.paths =
          routeMatch.defaulted :: second.defaulted :: rest.map defaulted := by
        simp [StoredRule.defaulted, listed]
      rw [spelled, several]
      simp

theorem rebuilt_backends {rule : StoredRule} (writable : rule.toHttpRouteRule.Writable) :
    (rule.rebuilt ns).defaulted.backends = rule.defaulted.backends ↔
      ∃ backend, rule.backendRefs = [backend] ∧ backend.group.getD [] = [] ∧
        backend.kind.getD "Service" = "Service".toList ∧ trim backend.name = backend.name ∧
          backend.ns = some (trim ns) := by
  rcases writable with ⟨backend, rest, listed, -, -⟩
  have spelled : (rule.rebuilt ns).defaulted.backends =
      [ { group := some [], kind := some "Service", name := trim backend.name
          ns := some (trim ns), port := backend.port } ] := by
    have named : rule.formRoute.serviceName = backend.name := by
      rw [formRoute_serviceName, listed]
      rfl
    have ported : rule.formRoute.servicePort = backend.port := by
      rw [formRoute_servicePort, listed]
      rfl
    rw [← named, ← ported]
    rfl
  have stored : rule.defaulted.backends =
      backend.defaulted :: rest.map HttpBackendRef.defaulted := by
    simp [StoredRule.defaulted, listed]
  rw [spelled, stored, cons.injEq, listed]
  constructor
  · rintro ⟨same, last⟩
    rw [HttpBackendRef.defaulted, HttpBackendRef.mk.injEq] at same
    rcases same with ⟨group, kind, name, located, -⟩
    have single : rest = [] := by simpa using last.symm
    exact ⟨backend, by rw [single], (Option.some.inj group).symm, (Option.some.inj kind).symm,
      name, located.symm⟩
  · rintro ⟨only, same, group, kind, name, located⟩
    cases same
    refine ⟨?_, rfl⟩
    rw [HttpBackendRef.defaulted, group, kind, name, located]

theorem rebuilt_defaulted {rule : StoredRule} (writable : rule.toHttpRouteRule.Writable) :
    (rule.rebuilt ns).defaulted = rule.defaulted ↔ rule.Plain ns := by
  have parts : (rule.rebuilt ns).defaulted = rule.defaulted ↔
      (rule.rebuilt ns).defaulted.paths = rule.defaulted.paths ∧
        (rule.rebuilt ns).defaulted.backends = rule.defaulted.backends ∧ [] = rule.others := by
    rw [← DefaultedRule.mk.injEq]
    rfl
  rw [parts, rebuilt_paths, rebuilt_backends writable, StoredRule.Plain, eq_comm (a := [])]

def routeForm (cluster : GatewayCluster) (ns name : Text) (route : ManagedRoute) : SiteForm :=
  let routes := ingressFormRoutesFromHttproute route
  let gatewayName := (route.parentRefs.head?.map ParentReference.name).getD []
  let gatewayNamespace := (route.parentRefs.head?.bind ParentReference.ns).getD ns
  let gateway :=
    if gatewayName.isEmpty then none else cluster.get gatewayNamespace gatewayName
  { ns, name, routes
    host := route.hostnames.head?.getD "*"
    first := routes.headD .blank
    tlsSecretName := gateway.bind gatewayTlsSecret
    ingressClassName := gateway.bind Gateway.gatewayClassName
    gatewayName := if gatewayName.isEmpty then none else some gatewayName
    gatewayNamespace := some gatewayNamespace
    policies := annotatedPolicies route.annotations }

theorem ensureHttprouteManaged_ok : cluster.ensureHttprouteManaged ns name route = .ok done ↔
      cluster.httprouteAttachedToManaged ns name route = true := by
  rw [GatewayCluster.ensureHttprouteManaged]
  split <;> simp_all

theorem kubernetesGatewaySiteGet_eq_ok :
    kubernetesGatewaySiteGet cluster ns name route = .ok form ↔
      cluster.httprouteAttachedToManaged ns name route = true ∧
        form = routeForm cluster ns name route := by
  unfold kubernetesGatewaySiteGet
  rw [bind_eq_ok]
  constructor
  · rintro ⟨done, managed, made⟩
    cases made
    exact ⟨ensureHttprouteManaged_ok.mp managed, rfl⟩
  · rintro ⟨attached, rfl⟩
    exact ⟨(), ensureHttprouteManaged_ok.mpr attached, rfl⟩

theorem attach_ok_iff :
    (∃ key, cluster.attach gatewayNs gatewayName = .ok key) ↔ gatewayName ≠ [] ∧
      ∃ gateway, cluster.get gatewayNs gatewayName = some gateway ∧
        gatewayManagedByApp gateway cluster.gatewayClass = true := by
  unfold GatewayCluster.attach
  split
  · next blank =>
    refine iff_of_false ?_ fun named => named.1 (isEmpty_iff.mp blank)
    rintro ⟨key, failed⟩
    cases failed
  rename_i named
  rw [List.isEmpty_iff] at named
  split
  · next missing =>
    rw [missing]
    constructor
    · rintro ⟨key, failed⟩
      cases failed
    · rintro ⟨-, gateway, found, -⟩
      cases found
  rename_i gateway found
  rw [found]
  split
  · next managed => exact iff_of_true ⟨_, rfl⟩ ⟨named, gateway, rfl, managed⟩
  rename_i unmanaged
  constructor
  · rintro ⟨key, failed⟩
    cases failed
  · rintro ⟨-, other, same, managed⟩
    cases same
    exact absurd managed unmanaged

theorem gateway_ok_iff :
    (∃ key, (routeForm cluster ns name route).body.gateway cluster ns route = .ok key) ↔
      ∃ key gateway, route.gatewayKey ns = some key ∧ cluster.get key.1 key.2 = some gateway ∧
        gatewayManagedByApp gateway cluster.gatewayClass = true := by
  have bodyName : (routeForm cluster ns name route).body.gatewayName =
      if ((route.parentRefs.head?.map ParentReference.name).getD []).isEmpty then none
      else some ((route.parentRefs.head?.map ParentReference.name).getD []) := rfl
  have bodyNs : (routeForm cluster ns name route).body.gatewayNamespace =
      some ((route.parentRefs.head?.bind ParentReference.ns).getD ns) := rfl
  rw [SiteBody.gateway, attach_ok_iff, bodyName, bodyNs, ManagedRoute.gatewayKey]
  cases route.parentRefs.head? with
  | none => simp [trimmedNonEmpty]
  | some parent =>
    by_cases blank : parent.name = []
    · simp [blank, trimmedNonEmpty]
    have nonEmpty : (trimmedNonEmpty (some parent.name)).getD parent.name ≠ [] := by
      cases trimmed : trimmedNonEmpty (some parent.name) with
      | none => exact blank
      | some text => exact (trimmedNonEmpty_eq_some.mp trimmed).2
    simp [blank, nonEmpty]

theorem route_shown (routed : route.rules ≠ []) : (routeForm cluster ns name route).body.routes =
      some (route.rules.map fun rule => rule.toHttpRouteRule.formRoute.body) := by
  have routes : ingressFormRoutesFromHttproute route =
      route.rules.map fun rule => rule.toHttpRouteRule.formRoute := by
    rw [ingressFormRoutesFromHttproute, if_neg]
    simpa using routed
  change some ((ingressFormRoutesFromHttproute route).map FormRoute.body) = _
  rw [routes, map_map]
  rfl

theorem routeUpdate_of_writable (writable : route.Writable cluster ns name) :
    ∃ saved, kubernetesGatewaySiteUpdate cluster ns name
        (routeForm cluster ns name route).body route = .ok saved ∧
      saved.rules = route.rules.map (StoredRule.rebuilt ns) ∧
        saved.annotations = mergeSecurityAnnotations route.annotations
          (annotatedPolicies route.annotations) := by
  let body := (routeForm cluster ns name route).body
  have checked : body.checked = .ok (trim (route.hostnames.head?.getD "*"), trim ns) :=
    checked_eq_ok.mpr ⟨writable.named, writable.located, rfl⟩
  have rules : httprouteRulesFromBody body (trim ns) =
      .ok (route.rules.map fun rule => rule.toHttpRouteRule.rebuilt ns) :=
    routesWith_ok (route_shown writable.routed) writable.routed fun rule member =>
      httprouteRule_ok (writable.rules rule member)
  have managed : cluster.ensureHttprouteManaged ns name route = .ok () :=
    ensureHttprouteManaged_ok.mpr writable.attached
  rcases gateway_ok_iff.mpr writable.gateway with ⟨key, attached⟩
  refine ⟨_, bind_eq_ok.mpr ⟨_, checked, bind_eq_ok.mpr ⟨_, rules,
    bind_eq_ok.mpr ⟨(), managed, bind_eq_ok.mpr ⟨key, attached, rfl⟩⟩⟩⟩, ?_, rfl⟩
  exact map_map

theorem writable_of_routeUpdate
    (attached : cluster.httprouteAttachedToManaged ns name route = true)
    (updated : kubernetesGatewaySiteUpdate cluster ns name
      (routeForm cluster ns name route).body route = .ok saved) :
    route.Writable cluster ns name := by
  rcases bind_eq_ok.mp updated with ⟨⟨host, serviceNamespace⟩, passed, afterCheck⟩
  rcases bind_eq_ok.mp afterCheck with ⟨rules, built, afterRules⟩
  rcases bind_eq_ok.mp afterRules with ⟨_, -, afterManaged⟩
  rcases bind_eq_ok.mp afterManaged with ⟨key, found, -⟩
  rcases checked_eq_ok.mp passed with ⟨named, located, -⟩
  have routed : route.rules ≠ [] := by
    intro none
    have shown : (routeForm cluster ns name route).body.routes =
        some ([FormRoute.blank].map FormRoute.body) := by
      change some ((ingressFormRoutesFromHttproute route).map FormRoute.body) = _
      rw [ingressFormRoutesFromHttproute, none]
      rfl
    rcases exists_of_routesWith shown (cons_ne_nil _ _) built mem_cons_self with
      ⟨_, _, _, made⟩
    cases made
  constructor
  · exact attached
  · exact named
  · exact located
  · exact routed
  · intro rule member
    by_contra stuck
    rcases exists_of_routesWith (route_shown routed) routed built member with
      ⟨noName, noPort, _, made⟩
    rcases httprouteRule_error stuck serviceNamespace noName noPort with ⟨error, failed⟩
    rw [failed] at made
    cases made
  · exact gateway_ok_iff.mp ⟨key, found⟩

theorem SameRoute.refl (route : ManagedRoute) : SameRoute route route :=
  ⟨rfl, SamePolicies.refl _⟩

theorem sameRoute_rebuilt (writable : route.Writable cluster ns name)
    (rules : saved.rules = route.rules.map (StoredRule.rebuilt ns))
    (annotations : saved.annotations = mergeSecurityAnnotations route.annotations
      (annotatedPolicies route.annotations)) :
    SameRoute route saved ↔ ∀ rule ∈ route.rules, rule.Plain ns := by
  have each : saved.rules.map StoredRule.defaulted = route.rules.map StoredRule.defaulted ↔
      ∀ rule ∈ route.rules, rule.Plain ns := by
    rw [rules, map_map, map_inj_left]
    exact forall₂_congr fun rule member => rebuilt_defaulted (writable.rules rule member)
  rw [← each]
  constructor
  · exact SameRoute.rules
  · intro same
    refine ⟨same, ?_⟩
    rw [annotations]
    exact mergeSecurityAnnotations_same _

theorem saveRoute_same_iff (accepted : Bool) :
    SameRoute route (saveRoute cluster ns name accepted route) ↔
      RouteKept cluster ns name accepted route := by
  cases updated : (kubernetesGatewaySiteGet cluster ns name route).bind fun form =>
      kubernetesGatewaySiteUpdate cluster ns name form.body route with
  | error error =>
    have unchanged : saveRoute cluster ns name accepted route = route := by
      rw [saveRoute, updated]
    rw [unchanged]
    refine iff_of_true (SameRoute.refl route) ?_
    intro _ writable
    rcases routeUpdate_of_writable writable with ⟨saved, result, -⟩
    rw [kubernetesGatewaySiteGet_eq_ok.mpr ⟨writable.attached, rfl⟩, Except.bind,
      result] at updated
    cases updated
  | ok saved =>
    rcases bind_eq_ok.mp updated with ⟨form, shown, result⟩
    rcases kubernetesGatewaySiteGet_eq_ok.mp shown with ⟨attached, rfl⟩
    have writable := writable_of_routeUpdate attached result
    rcases routeUpdate_of_writable writable with ⟨other, same, rules, annotations⟩
    rw [result] at same
    cases same
    cases accepted with
    | false =>
      have unchanged : saveRoute cluster ns name false route = route := by
        rw [saveRoute, updated]
        rfl
      rw [unchanged]
      exact iff_of_true (SameRoute.refl route) fun accepted => by cases accepted
    | true =>
      have changed : saveRoute cluster ns name true route = saved := by
        rw [saveRoute, updated]
        rfl
      rw [changed, sameRoute_rebuilt writable rules annotations]
      constructor
      · intro plain _ _
        exact plain
      · intro kept
        exact kept rfl writable

end

/-! ## Both kinds of sites -/

/-- A site of the admin API whose form is opened and saved, with what decides how that
goes. -/
inductive SavedSite where
  | ingress (ingressClass : Option Text) (ns name : Text) (accepted : Bool)
      (object : ManagedIngress)
  | route (cluster : GatewayCluster) (ns name : Text) (accepted : Bool) (object : ManagedRoute)

namespace SavedSite

/-- The rules, the default backend, the TLS entries, and the effective policies are the
same before and after. -/
def Unchanged : SavedSite → Prop
  | .ingress ingressClass ns name accepted object =>
    SameIngress object (saveIngress ingressClass ns name accepted object)
  | .route cluster ns name accepted object =>
    SameRoute object (saveRoute cluster ns name accepted object)

/-- The object says no more than its form shows, or its form cannot be saved. -/
def Shown : SavedSite → Prop
  | .ingress _ ns _ accepted object => IngressKept ns accepted object
  | .route cluster ns name accepted object => RouteKept cluster ns name accepted object

end SavedSite

theorem saved_form_unchanged_iff (site : SavedSite) : site.Unchanged ↔ site.Shown := by
  cases site with
  | ingress ingressClass ns name accepted object => exact saveIngress_same_iff accepted
  | route cluster ns name accepted object => exact saveRoute_same_iff accepted

def plainRule (host service : Text) : IngressRule where
  host := some host
  http := some
    [{ path := some "/", pathType := "Prefix", backend := IngressBackend.toService service }]

def twoHosts : ManagedIngress where
  spec := some
    { rules := [plainRule "a.example" "web", plainRule "b.example" "shop"]
      defaultBackend := some (IngressBackend.toService "fallback") }

def twoBackends : ManagedRoute where
  parentRefs := [{ name := "edge", ns := some "default" }]
  hostnames := ["a.example"]
  rules := [{ backendRefs := [ { name := "blue", ns := some "default", port := some 80 },
    { name := "green", ns := some "default", port := some 80 } ] }]

/-- Saving the unchanged form removes the second rule and the default backend of an
Ingress, and the second backend of an HTTPRoute. -/
theorem unchanged_form_drops_rules :
    ¬ (SavedSite.ingress none "default" "shop" true twoHosts).Unchanged ∧
      ¬ (SavedSite.route { gateways := [Gateway.plain "default" "edge"] } "default" "shop" true
        twoBackends).Unchanged := by
  constructor
  · intro same
    have rules := SameIngress.rules same
    revert rules
    decide +kernel
  · intro same
    have rules := SameRoute.rules same
    revert rules
    decide +kernel

end PertiskProxy.Ingress
