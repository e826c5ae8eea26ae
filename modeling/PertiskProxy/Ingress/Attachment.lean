import PertiskProxy.Ingress.SiteForm

/-! Which listeners an HTTPRoute may use, through which ones its hosts get into the proxy,
and whether the parts of the program that decide on this agree. -/

namespace PertiskProxy.Ingress

open Text

section

variable (controller : IngressControllerConfig)

def gatewayAt (gateways : List Gateway) (key : Text × Text) : Option Gateway :=
  ((gateways.filter (managesGateway controller)).filter fun gateway =>
    (namespaceOf gateway.ns, gateway.name) = key).getLast?

/-- A route belongs to a Gateway by a parent reference, perhaps for one
listener of it, or without any by its name. -/
def Attaches (gateways : List Gateway) (route : HttpRoute) (sectionName : Option Text)
    (gateway : Gateway) : Prop :=
  (route.parentRefs = [] ∧ sectionName = none ∧
    gatewayAt controller gateways (namespaceOf route.ns, route.name) = some gateway) ∨
  ∃ parent ∈ route.parentRefs, parent.sectionName = sectionName ∧
    parent.group.getD "gateway.networking.k8s.io" = "gateway.networking.k8s.io".toList ∧
    parent.kind.getD "Gateway" = "Gateway".toList ∧
    gatewayAt controller gateways (parent.ns.getD (namespaceOf route.ns), parent.name) =
      some gateway

/-- Whether a listener is open to routes of a namespace. Without a rule it is
open to those of its own. -/
def admits (selects : GatewayListener → Text → Bool) (gateway : Gateway)
    (listener : GatewayListener) (ns : Text) : Bool :=
  let origin := ((listener.allowedRoutes.bind AllowedRoutes.namespaces).bind
    RouteNamespaces.origin).getD "Same"
  if origin = "All".toList then true
  else if origin = "Same".toList then ns == namespaceOf gateway.ns
  else if origin = "Selector".toList then selects listener ns
  else false

def Permits (selects : GatewayListener → Text → Bool) (route : HttpRoute)
    (sectionName : Option Text) (gateway : Gateway) (listener : GatewayListener) : Prop :=
  admits selects gateway listener (namespaceOf route.ns) = true ∧
    ∀ name ∈ sectionName, listener.name = name

def RefersToService (route : HttpRoute) : Prop :=
  ∃ rule ∈ route.rules, ∃ backendRef ∈ rule.backendRefs, isServiceBackendRef backendRef = true

theorem get?_managedGateways (gateways : List Gateway) (key : Text × Text) :
    (managedGateways controller gateways).get? key =
      (gatewayAt controller gateways key).map managedGateway :=
  HashMap.get?_ofList_last _ _ _ key

variable {controller}

theorem key_of_gatewayAt (found : gatewayAt controller gateways key = some gateway) :
    (namespaceOf gateway.ns, gateway.name) = key := by
  have member := List.mem_of_getLast? found
  simpa using (List.mem_filter.mp member).2

theorem parentGateway_eq_some :
    parentGateway (managedGateways controller gateways) route parent = some managed ↔
      parent.group.getD "gateway.networking.k8s.io" = "gateway.networking.k8s.io".toList ∧
      parent.kind.getD "Gateway" = "Gateway".toList ∧ ∃ gateway, gatewayAt controller gateways
        (parent.ns.getD (namespaceOf route.ns), parent.name) = some gateway ∧
          managedGateway gateway = managed := by
  have ownNs : parent.ns.getD (parent.ns.getD (namespaceOf route.ns)) =
      parent.ns.getD (namespaceOf route.ns) := by
    cases parent.ns <;> rfl
  simp only [parentGateway, get?_managedGateways, Option.filter_eq_some_iff,
    Option.map_eq_some_iff, parentRefMatchesGateway, ownNs, Bool.and_eq_true, beq_iff_eq]
  constructor
  · rintro ⟨⟨gateway, found, rfl⟩, ⟨⟨group, kind⟩, -⟩, -⟩
    exact ⟨group, kind, gateway, found, rfl⟩
  · rintro ⟨group, kind, gateway, found, rfl⟩
    have named : gateway.name = parent.name := congrArg Prod.snd (key_of_gatewayAt found)
    exact ⟨⟨gateway, found, rfl⟩, ⟨⟨group, kind⟩, named.symm⟩, trivial⟩

theorem mem_attachedGateways :
    managed ∈ attachedGateways (managedGateways controller gateways) route ↔
      ∃ sectionName gateway, Attaches controller gateways route sectionName gateway ∧
        managedGateway gateway = managed := by
  unfold attachedGateways Attaches
  by_cases parentless : route.parentRefs = []
  · simp only [parentless, List.isEmpty_nil, if_true, Option.mem_toList,
      get?_managedGateways, Option.map_eq_some_iff, true_and, List.not_mem_nil, false_and,
      exists_false, or_false]
    constructor
    · rintro ⟨gateway, found, same⟩
      exact ⟨none, gateway, ⟨rfl, found⟩, same⟩
    · rintro ⟨_, gateway, ⟨_, found⟩, same⟩
      exact ⟨gateway, found, same⟩
  simp only [parentless, List.isEmpty_iff, if_false, List.mem_filterMap,
    parentGateway_eq_some, false_and, false_or]
  constructor
  · rintro ⟨parent, member, group, kind, gateway, found, same⟩
    exact ⟨_, gateway, ⟨parent, member, rfl, group, kind, found⟩, same⟩
  · rintro ⟨_, gateway, ⟨parent, member, _, group, kind, found⟩, same⟩
    exact ⟨parent, member, group, kind, gateway, found, same⟩

theorem mem_of_mem_resolve (named : hostnames ≠ [])
    (member : host ∈ resolveRouteHostnames hostnames attached) : host ∈ hostnames := by
  unfold resolveRouteHostnames at member
  simp only [List.isEmpty_iff, named, if_false] at member
  split at member
  · exact member
  · exact (List.mem_filter.mp member).1

theorem exists_host_through (member : managed ∈ attached)
    (offered : listener ∈ managed.listenerHostnames)
    (fits : hostnames = [] ∨ ∃ host ∈ hostnames, hostnameMatchesListener host listener = true) :
    ∃ host ∈ resolveRouteHostnames hostnames attached,
      hostnameMatchesListener host listener = true := by
  unfold resolveRouteHostnames
  by_cases unnamed : hostnames = []
  · rw [if_pos (by simp [unnamed])]
    cases listener with
    | some host =>
      have listed : host ∈ attached.flatMap fun gateway =>
          gateway.listenerHostnames.filterMap id := by
        simp only [List.mem_flatMap, List.mem_filterMap, id]
        exact ⟨managed, member, some host, offered, rfl⟩
      rw [if_neg (by simpa using List.ne_nil_of_mem listed)]
      refine ⟨host, ?_, by simp [hostnameMatchesListener]⟩
      rw [List.mem_dedup, List.mem_insertionSort]
      exact listed
    | none =>
      split
      · exact ⟨_, List.mem_singleton.mpr rfl, rfl⟩
      rename_i offers
      rw [List.isEmpty_iff] at offers
      rcases List.exists_mem_of_ne_nil _ offers with ⟨host, listed⟩
      refine ⟨host, ?_, rfl⟩
      rw [List.mem_dedup, List.mem_insertionSort]
      exact listed
  rcases fits with none | ⟨host, listed, through⟩
  · exact absurd none unnamed
  rw [if_neg (by simpa using unnamed)]
  refine ⟨host, ?_, through⟩
  split
  · exact listed
  · rw [List.mem_filter, List.any_eq_true]
    refine ⟨listed, managed, member, ?_⟩
    rw [Bool.or_eq_true, List.any_eq_true]
    exact .inr ⟨listener, offered, through⟩

theorem exists_zipIdx {values : List α} {value : α} (member : value ∈ values) :
    ∃ index, (value, index) ∈ values.zipIdx := by
  rcases List.mem_iff_getElem?.mp member with ⟨index, found⟩
  exact ⟨index, List.mk_mem_zipIdx_iff_getElem?.mpr found⟩

theorem of_mem_ruleReferences
    (member : reference ∈ ruleReferences route host rule ruleIdx) : reference.host = host ∧
      ∃ backendRef ∈ rule.backendRefs, isServiceBackendRef backendRef = true := by
  unfold ruleReferences at member
  simp only [List.mem_flatMap, List.mem_map, List.mem_filter] at member
  rcases member with ⟨_, _, ⟨backendRef, backendIdx⟩, ⟨listed, service⟩, rfl⟩
  exact ⟨rfl, backendRef, List.fst_mem_of_mem_zipIdx listed, service⟩

theorem exists_mem_ruleReferences {rule : HttpRouteRule} {backendRef : HttpBackendRef}
    (listed : backendRef ∈ rule.backendRefs) (service : isServiceBackendRef backendRef = true)
    (route : HttpRoute) (host : Text) (ruleIdx : Nat) :
    ∃ reference, reference ∈ ruleReferences route host rule ruleIdx := by
  have matched : ∃ routeMatch,
      routeMatch ∈ if rule.routeMatches.isEmpty then [{}] else rule.routeMatches := by
    split
    · exact ⟨{}, List.mem_singleton.mpr rfl⟩
    · next given =>
      rw [List.isEmpty_iff] at given
      exact List.exists_mem_of_ne_nil _ given
  rcases matched with ⟨routeMatch, member⟩
  rcases exists_zipIdx member with ⟨matchIdx, matchMember⟩
  rcases exists_zipIdx listed with ⟨backendIdx, backendMember⟩
  refine ⟨backendReference route host ruleIdx matchIdx routeMatch backendRef backendIdx, ?_⟩
  unfold ruleReferences
  simp only [List.mem_flatMap, List.mem_map, List.mem_filter]
  exact ⟨_, matchMember, _, ⟨backendMember, service⟩, rfl⟩

theorem exists_routeReference_iff {managed : HashMap (Text × Text) ManagedGateway}
    {route : HttpRoute} {host : Text} :
    (∃ reference ∈ routeReferences managed route, reference.host = host) ↔
      attachedGateways managed route ≠ [] ∧
        host ∈ resolveRouteHostnames route.hostnames (attachedGateways managed route) ∧
        RefersToService route := by
  unfold routeReferences
  by_cases unattached : attachedGateways managed route = []
  · simp [unattached]
  simp only [List.isEmpty_iff, unattached, if_false, List.mem_flatMap, ne_eq,
    not_false_eq_true, true_and]
  constructor
  · rintro ⟨reference, ⟨own, resolved, ⟨rule, ruleIdx⟩, listed, member⟩, rfl⟩
    rcases of_mem_ruleReferences member with ⟨same, backendRef, inside, service⟩
    refine ⟨same ▸ resolved, rule, ?_, backendRef, inside, service⟩
    have ruleMember := List.fst_mem_of_mem_zipIdx listed
    split at ruleMember
    · rw [List.mem_singleton.mp ruleMember] at inside
      cases inside
    · exact ruleMember
  rintro ⟨resolved, rule, ruleMember, backendRef, inside, service⟩
  have given : route.rules ≠ [] := List.ne_nil_of_mem ruleMember
  rcases exists_zipIdx ruleMember with ⟨ruleIdx, listed⟩
  rcases exists_mem_ruleReferences inside service route host ruleIdx with
    ⟨reference, member⟩
  refine ⟨reference, ⟨host, resolved, (rule, ruleIdx), ?_, member⟩,
    (of_mem_ruleReferences member).1⟩
  simpa [given] using listed

variable (controller) in
/-- Routes bring hosts in only through listeners they may use. -/
def RespectsListeners (selects : GatewayListener → Text → Bool) (gateways : List Gateway)
    (routes : List HttpRoute) : Prop :=
  ∀ route ∈ routes, ∀ reference ∈ routeReferences (managedGateways controller gateways) route,
    ∀ sectionName gateway, Attaches controller gateways route sectionName gateway →
      ∀ listener ∈ gateway.httpListeners,
        hostnameMatchesListener reference.host listener.hostname = true →
          Permits selects route sectionName gateway listener

/-- Routes bring hosts in only through listeners they may use exactly when every
listener that fits a route is one it may use. -/
theorem respects_listeners_iff (selects : GatewayListener → Text → Bool)
    (gateways : List Gateway) (routes : List HttpRoute) :
    RespectsListeners controller selects gateways routes ↔
      ∀ route ∈ routes, RefersToService route →
        ∀ sectionName gateway, Attaches controller gateways route sectionName gateway →
          ∀ listener ∈ gateway.httpListeners, (route.hostnames = [] ∨ ∃ host ∈ route.hostnames,
              hostnameMatchesListener host listener.hostname = true) →
                Permits selects route sectionName gateway listener := by
  apply forall₂_congr
  intro route _
  constructor
  · intro respects refers sectionName gateway attaches listener offered fits
    have attached := mem_attachedGateways.mpr ⟨sectionName, gateway, attaches, rfl⟩
    have named : listener.hostname ∈ (managedGateway gateway).listenerHostnames :=
      List.mem_map_of_mem offered
    rcases exists_host_through attached named fits with ⟨host, resolved, through⟩
    rcases exists_routeReference_iff.mpr ⟨List.ne_nil_of_mem attached, resolved, refers⟩ with
      ⟨reference, member, rfl⟩
    exact respects reference member sectionName gateway attaches listener offered through
  intro permitted reference member sectionName gateway attaches listener offered through
  rcases exists_routeReference_iff.mp ⟨reference, member, rfl⟩ with ⟨_, resolved, refers⟩
  apply permitted refers sectionName gateway attaches listener offered
  by_cases unnamed : route.hostnames = []
  · exact .inl unnamed
  · exact .inr ⟨_, mem_of_mem_resolve unnamed resolved, through⟩

/-- A route of one namespace uses a Gateway of another whose listener is not
open to it. -/
theorem foreign_route_attached :
    let gateways : List Gateway := [.plain "infra" "edge"]
    let route : HttpRoute :=
      .single "a" "web" "a.example" "api" { name := "edge", ns := some "infra" }
    ((routeReferences (managedGateways {} gateways) route).map Reference.host =
      ["a.example".toList]) ∧
      ¬RespectsListeners {} (fun _ _ => false) gateways [route] := by
  intro gateways route
  refine ⟨by decide, ?_⟩
  intro respects
  have member : backendReference route "a.example" 0 0 {} { name := "api", port := some 8080 } 0 ∈
      routeReferences (managedGateways {} gateways) route := by decide
  have attaches : Attaches {} gateways route none (.plain "infra" "edge") :=
    .inr ⟨_, List.mem_singleton.mpr rfl, rfl, rfl, rfl, by decide⟩
  have permitted := respects route (List.mem_singleton.mpr rfl) _ member none _ attaches
    { name := "http", protocol := "HTTP" } (by decide) rfl
  exact absurd permitted.1 (by decide)

end

section

def ParentReference.isGateway (parent : ParentReference) : Bool :=
  parent.group.getD "gateway.networking.k8s.io" == "gateway.networking.k8s.io".toList &&
    parent.kind.getD "Gateway" == "Gateway".toList

def ParentReference.selects (parent : ParentReference) (listenerName : Text) : Bool :=
  match parent.sectionName with
  | none | some [] => true
  | some sectionName => sectionName == listenerName

def countAttachedRoutes (routes : List HttpRoute)
    (gatewayNs gatewayName listenerName : Text) : Nat :=
  (routes.filter fun route => route.parentRefs.any fun parent =>
    parentRefMatchesGateway parent gatewayNs gatewayName && parent.selects listenerName).length

variable (managed : HashMap (Text × Text) ManagedGateway) (key : Text × Text)

/-- Whether the data plane attaches a route to the Gateway of a key. -/
def routedTo (route : HttpRoute) : Bool :=
  !(attachedGateways (managed.retain fun other _ => other == key) route).isEmpty

/-- It does so for a listener by a parent that selects it, or without any. -/
def routedThrough (route : HttpRoute) (listenerName : Text) : Prop :=
  routedTo managed key route = true ∧ (route.parentRefs = [] ∨
    ∃ parent ∈ route.parentRefs, parent.selects listenerName = true ∧
      routedTo managed key { route with parentRefs := [parent] } = true)

/-- The admin API and the status see what the data plane does. -/
structure DecidersAgree (cluster : GatewayCluster) (route : HttpRoute) (listenerName : Text) :
    Prop where
  listed : cluster.httprouteAttachedToManaged (namespaceOf route.ns) route.name
    { parentRefs := route.parentRefs } = routedTo managed key route
  counted : countAttachedRoutes [route] key.1 key.2 listenerName = 1 ↔
    routedThrough managed key route listenerName

/-- The Gateway a parent reference of a route names. -/
def HttpRoute.parentKey (route : HttpRoute) (parent : ParentReference) : Text × Text :=
  (parent.ns.getD (namespaceOf route.ns), parent.name)

variable {managed key}

open HttpRoute

theorem routedTo_iff (found : managed.get? key = some gateway) (named : gateway.name = key.2) :
    routedTo managed key route = true ↔
      (route.parentRefs = [] ∧ (namespaceOf route.ns, route.name) = key) ∨
        ∃ parent ∈ route.parentRefs, parent.isGateway = true ∧ route.parentKey parent = key := by
  have kept (other : Text × Text) : (managed.retain fun other _ => other == key).get? other =
      if other = key then some gateway else none := by
    rw [HashMap.get?_retain]
    by_cases own : other = key
    · simp [own, found]
    · simp [own, Option.filter_eq_none_iff]
  have parental (parent : ParentReference) :
      parentGateway (managed.retain fun other _ => other == key) route parent ≠ none ↔
        parent.isGateway = true ∧ route.parentKey parent = key := by
    unfold parentGateway
    simp only [kept, parentKey]
    by_cases own : (parent.ns.getD (namespaceOf route.ns), parent.name) = key
    · have name : parent.name = gateway.name := by rw [named, ← own]
      cases ns : parent.ns <;>
        simp [name, ns, parentRefMatchesGateway, ParentReference.isGateway] <;> grind
    · simp [own]
  unfold routedTo attachedGateways
  by_cases parentless : route.parentRefs = []
  · simp [parentless, kept]
  · simpa [parentless] using exists_congr fun parent => and_congr_right fun _ => parental parent

/-- The three deciders agree on a managed Gateway and a listener exactly when a route
without parents is not its namesake, one of the parents that name the Gateway is of its
kind, and a parent without a namespace does not only seem to name it. -/
theorem deciders_agree_on_gateway_iff {cluster : GatewayCluster}
    (found : gatewayAt controller gateways key = some gateway)
    (only : cluster.managedGatewayKeys = [key]) (route : HttpRoute) (listenerName : Text) :
    DecidersAgree (managedGateways controller gateways) key cluster route listenerName ↔
      (route.parentRefs = [] → (namespaceOf route.ns, route.name) ≠ key) ∧
      ((∃ parent ∈ route.parentRefs, route.parentKey parent = key) →
        ∃ parent ∈ route.parentRefs, route.parentKey parent = key ∧ parent.isGateway = true) ∧
      ((∃ parent ∈ route.parentRefs, parent.ns = none ∧ parent.name = key.2 ∧
          parent.isGateway = true ∧ parent.selects listenerName = true) →
        ∃ parent ∈ route.parentRefs, route.parentKey parent = key ∧
          parent.isGateway = true ∧ parent.selects listenerName = true) := by
  have lookup := get?_managedGateways controller gateways key
  rw [found, Option.map_some] at lookup
  have routed (route : HttpRoute) :=
    @routedTo_iff _ key _ route lookup (congrArg Prod.snd (key_of_gatewayAt found))
  have listed : cluster.httprouteAttachedToManaged (namespaceOf route.ns) route.name
      { parentRefs := route.parentRefs } = true ↔
        (route.parentRefs = [] ∧ (namespaceOf route.ns, route.name) = key) ∨
          ∃ parent ∈ route.parentRefs, route.parentKey parent = key := by
    unfold GatewayCluster.httprouteAttachedToManaged
    by_cases parentless : route.parentRefs = [] <;>
      simp [parentless, only, parentKey]
  have counted : countAttachedRoutes [route] key.1 key.2 listenerName = 1 ↔
      ∃ parent ∈ route.parentRefs, parent.isGateway = true ∧ parent.name = key.2 ∧
        parent.ns.getD key.1 = key.1 ∧ parent.selects listenerName = true := by
    refine (List.length_filter_eq_length_iff (l := [route])).trans ?_
    simp [parentRefMatchesGateway, ParentReference.isGateway, and_assoc]
  have through : routedThrough (managedGateways controller gateways) key route listenerName ↔
      (route.parentRefs = [] ∧ (namespaceOf route.ns, route.name) = key) ∨
        ∃ parent ∈ route.parentRefs, route.parentKey parent = key ∧
          parent.isGateway = true ∧ parent.selects listenerName = true := by
    simp only [routedThrough, routed, parentKey]
    grind
  constructor
  · rintro ⟨alike, reported⟩
    rw [counted, through] at reported
    refine ⟨fun parentless own => ?_, fun _ => ?_, ?_⟩
    · simpa [parentless] using reported.2 (.inl ⟨parentless, own⟩)
    · grind
    · grind
  · rintro ⟨namesake, kind, unplaced⟩
    refine ⟨Bool.eq_iff_iff.mpr ?_, ?_⟩
    · rw [listed, routed]
      grind
    rw [counted, through]
    constructor
    · rintro ⟨parent, member, gateway, name, ns, selected⟩
      cases placed : parent.ns with
      | none => exact .inr (unplaced ⟨parent, member, placed, name, gateway, selected⟩)
      | some _ =>
        rw [placed] at ns
        exact .inr ⟨parent, member, Prod.ext (by simpa [parentKey, placed] using ns) name,
          gateway, selected⟩
    · rintro (⟨parentless, own⟩ | ⟨parent, member, rfl, gateway, selected⟩)
      · exact absurd own (namesake parentless)
      · refine ⟨parent, member, gateway, rfl, ?_, selected⟩
        unfold parentKey
        cases parent.ns <;> rfl
theorem plain_route_agreed :
    let route := single "infra" "web" "a.example" "api" { name := "edge" }
    DecidersAgree (managedGateways {} [.plain "infra" "edge"]) ("infra", "edge")
      { gateways := [.plain "infra" "edge"] } route "http" :=
  (deciders_agree_on_gateway_iff (by decide : gatewayAt {} [.plain "infra" "edge"] _ =
    some (.plain "infra" "edge")) (by decide) _ _).2 (by decide)

/-- The status counts a route whose parent is a Gateway of another namespace. -/
theorem foreign_route_counted :
    let route := single "a" "web" "a.example" "api" { name := "edge" }
    routedTo (managedGateways {} [.plain "infra" "edge"]) ("infra", "edge") route = false ∧
      countAttachedRoutes [route] "infra" "edge" "http" = 1 := by
  decide

end

end PertiskProxy.Ingress
