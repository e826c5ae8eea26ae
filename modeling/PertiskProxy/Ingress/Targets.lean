import PertiskProxy.Ingress.Collect
import PertiskProxy.Proxy.Origins

/-! The table of a pass, read back from the references it is built from. -/

namespace PertiskProxy.Ingress

open ProxyConfig Proxy Router Ingress.Reference List

variable {inUse : Config} {references : List Reference} {tls : List TlsConfig}
  {table : RouteTable}

section

variable (controller : IngressControllerConfig)

def namesake (references : List Reference) (reference : Reference) : Option Reference :=
  references.find? fun other => other.backendName == reference.backendName

theorem skipped_eq_false (reference : Reference) : reference.skipped controller = false := by
  unfold skipped
  split
  · rfl
  · next equal => simp [upstreams, equal, upstreamsFromGatewayBackend]

variable (references : List Reference)

theorem collect_concat (reference : Reference) :
    collect controller (references ++ [reference]) =
      (collect controller references).add controller reference := by
  simp [collect]

theorem add_eq (collected : Collected) (reference : Reference) :
    collected.add controller reference =
      { backends := collected.backends ++
          if collected.backends.any fun backend => backend.name == reference.backendName
          then [] else [reference.madeBackend controller]
        sites := collected.sites ++ [reference.site] } := by
  unfold Collected.add
  rw [skipped_eq_false]
  split <;> simp

theorem sites_collect : (collect controller references).sites = references.map site := by
  induction references using reverseRecOn with
  | nil => rfl
  | append_singleton seen reference induction =>
    rw [collect_concat, add_eq, induction, map_append, map_singleton]

theorem find?_backends_collect (name : Text) :
    (collect controller references).backends.find? (fun backend => backend.name == name) =
      (references.find? fun reference => reference.backendName == name).map
        (madeBackend controller) := by
  induction references using reverseRecOn with
  | nil => rfl
  | append_singleton seen reference induction =>
    rw [collect_concat, add_eq, find?_append, find?_append, induction]
    cases found : seen.find? fun reference => reference.backendName == name with
    | some first => rfl
    | none =>
      by_cases equal : reference.backendName = name
      · have absent : (collect controller seen).backends.any
            (fun backend => backend.name == reference.backendName) = false := by
          rw [equal, any_eq_false]
          rw [found, Option.map_none, find?_eq_none] at induction
          exact induction
        rw [absent]
        simp [equal, madeBackend]
      · split <;> simp [equal, madeBackend]

theorem nodup_backends_collect :
    ((collect controller references).backends.map Backend.name).Nodup := by
  induction references using reverseRecOn with
  | nil => exact nodup_nil
  | append_singleton seen reference induction =>
    rw [collect_concat, add_eq]
    dsimp only
    split
    · simpa using induction
    rename_i absent
    rw [map_append, map_singleton, nodup_append]
    refine ⟨induction, by simp, ?_⟩
    rintro _ member _ last equal
    rcases mem_map.mp member with ⟨backend, listed, rfl⟩
    rw [mem_singleton] at last
    apply absent
    rw [any_eq_true]
    exact ⟨backend, listed, by simp [equal, last, madeBackend]⟩

end

section

variable (controller : IngressController)

def writtenTarget (reference : Reference) : Option Router.Backend :=
  (reference.upstreams controller.config).head?.bind fun upstream =>
    parseUpstream controller.platform upstream.addr

def targetOf (references : List Reference) (reference : Reference) : Option Router.Backend :=
  (namesake references reference).bind (writtenTarget controller)

def hostKeyOf (reference : Reference) : Text :=
  siteHost controller.platform reference.site

def routeTo (inUse : Config) (reference : Reference) (target : Router.Backend) : Route :=
  siteRoute reference.path reference.pathType none target true
    (inUse.resolveSiteGeoip reference.site) (inUse.resolveSiteSecurity reference.site)

section

variable (references : List Reference) (tls : List TlsConfig) (inUse : Config)

theorem backends_configFor : (controller.configFor references tls inUse).backends =
      (collect controller.config references).backends := rfl

theorem sites_configFor : (controller.configFor references tls inUse).sites = references.map site :=
  sites_collect controller.config references

theorem toOption_defaultTarget_configFor (reference : Reference) :
    (defaultTarget controller.platform (controller.configFor references tls inUse)
      reference.site).toOption = targetOf controller references reference := by
  rw [toOption_defaultTarget, backends_configFor,
    HashMap.get?_ofList_map (nodup_backends_collect controller.config references),
    find?_backends_collect]
  simp only [targetOf, namesake, site]
  cases references.find? fun other => other.backendName == reference.backendName <;> rfl

theorem toOption_siteRoutes_configFor (reference : Reference) :
    (siteRoutes controller.platform (controller.configFor references tls inUse)
      reference.site).toOption = (targetOf controller references reference).map fun target =>
          [routeTo inUse reference target] := by
  rw [toOption_siteRoutes_single _ _ rfl ⟨rfl, rfl⟩, toOption_defaultTarget_configFor]
  rfl

end

def Resolves (references : List Reference) : Prop :=
  ∀ reference ∈ references, hostKeyOf controller reference ≠ [] →
    (targetOf controller references reference).isSome = true

def hosted (references : List Reference) (key : Text) : List Reference :=
  references.filter fun reference => hostKeyOf controller reference == key && !key.isEmpty

def routeOf (inUse : Config) (references : List Reference) (reference : Reference) :
    Option Route :=
  (targetOf controller references reference).map (routeTo inUse reference)

variable {controller}

theorem siteEntries_site (reference : Reference) : siteEntries reference.site =
      [{ pathType := reference.pathType, path := reference.path }] := rfl

theorem isOk_table_iff (references : List Reference) (tls : List TlsConfig) (inUse : Config) :
    (configToRouteTable controller.platform
      (controller.configFor references tls inUse)).isOk = true ↔
        Resolves controller references := by
  have routes : ∀ reference, (siteRoutes controller.platform
      (controller.configFor references tls inUse) reference.site).isOk =
        (targetOf controller references reference).isSome := by
    intro reference
    have found := toOption_siteRoutes_configFor controller references tls inUse reference
    rw [← Option.isSome_map, ← found]
    cases siteRoutes controller.platform (controller.configFor references tls inUse)
      reference.site <;> rfl
  rw [isOk_configToRouteTable, sites_configFor, forall_mem_map]
  simp only [routes]
  rfl

theorem siteOrigins_reference (references : List Reference) (tls : List TlsConfig)
    (inUse : Config) (reference : Reference) (key : Text) :
    ((siteOrigins controller.platform (controller.configFor references tls inUse)
      reference.site).filter fun entry => entry.1 = key).map (fun entry => entry.2.route) =
        if hostKeyOf controller reference == key && !key.isEmpty then
          (routeOf controller inUse references reference).toList else [] := by
  have found := toOption_siteRoutes_configFor controller references tls inUse reference
  by_cases equal : hostKeyOf controller reference = key
  · subst equal
    by_cases blank : hostKeyOf controller reference = []
    · have none : siteHost controller.platform reference.site = [] := blank
      simp [siteOrigins, none, blank]
    have present : siteHost controller.platform reference.site ≠ [] := blank
    rw [routeOf]
    cases made : siteRoutes controller.platform
        (controller.configFor references tls inUse) reference.site with
    | error error =>
      rw [made] at found
      cases target : targetOf controller references reference with
      | some target =>
        rw [target] at found
        cases found
      | none => simp [siteOrigins, made]
    | ok routes =>
      rw [made] at found
      cases target : targetOf controller references reference with
      | none =>
        rw [target] at found
        cases found
      | some target =>
        rw [target] at found
        cases found
        simp [siteOrigins, made, present, hostKeyOf, siteEntries_site]
  have differs : siteHost controller.platform reference.site ≠ key := equal
  have nothing : (siteOrigins controller.platform (controller.configFor references tls inUse)
      reference.site).filter (fun entry => entry.1 = key) = [] := by
    rw [filter_eq_nil_iff]
    intro entry member
    unfold siteOrigins at member
    dsimp only at member
    split at member
    · cases member
    · split at member
      · rcases mem_map.mp member with ⟨origin, _, rfl⟩
        simpa using differs
      · cases member
  simp [nothing, equal]

/-- The routes under a key are those of the references with that host, sorted. -/
theorem get?_routes_configFor
    (built : configToRouteTable controller.platform
      (controller.configFor references tls inUse) = .ok table) (key : Text) :
    (table.routes.get? key).getD [] = RouteTable.sortRoutes
      ((hosted controller references key).filterMap (routeOf controller inUse references)) := by
  rw [get?_routes_of_config built]
  congr 1
  rw [hostOrigins, origins, sites_configFor, map_map, flatMap_map,
    filter_flatMap, map_flatMap, hosted, filterMap_filter,
    filterMap_eq_flatMap_toList]
  congr 1
  funext reference
  refine (siteOrigins_reference references tls inUse reference key).trans ?_
  split <;> rfl

def ordered (controller : IngressController) (references : List Reference) (key : Text) :
    List Reference :=
  (hosted controller references key).insertionSort fun left right =>
    right.path.len ≤ left.path.len

theorem mem_hosted : reference ∈ hosted controller references key ↔
      reference ∈ references ∧ hostKeyOf controller reference = key ∧ key ≠ [] := by
  simp [hosted]

theorem mem_ordered : reference ∈ ordered controller references key ↔
      reference ∈ references ∧ hostKeyOf controller reference = key ∧ key ≠ [] := by
  rw [ordered, mem_insertionSort, mem_hosted]

/-- A table pairs its references with their routes, host by host. -/
theorem forall₂_routes_iff
    (Fits : Reference → Route → Prop)
    (built : configToRouteTable controller.platform
      (controller.configFor references tls inUse) = .ok table) :
    (∀ key, Forall₂ Fits (ordered controller references key)
      ((table.routes.get? key).getD [])) ↔
        ∀ reference ∈ references, hostKeyOf controller reference ≠ [] →
          ∀ route, routeOf controller inUse references reference = some route →
            Fits reference route := by
  have resolves : Resolves controller references := by
    rw [← isOk_table_iff references tls inUse, built]
    rfl
  have found : ∀ reference ∈ references, hostKeyOf controller reference ≠ [] →
      ∃ target, targetOf controller references reference = some target :=
    fun reference member named =>
      Option.isSome_iff_exists.mp (resolves reference member named)
  -- Every reference with a host has a route; the others get an arbitrary one.
  let chosen : Reference → Route := fun reference =>
    routeTo inUse reference ((targetOf controller references reference).getD ⟨[], 0, false⟩)
  have chosen_spec : ∀ reference ∈ references, hostKeyOf controller reference ≠ [] →
      routeOf controller inUse references reference = some (chosen reference) := by
    intro reference member named
    rcases found reference member named with ⟨target, equal⟩
    simp [routeOf, chosen, equal]
  have routes : ∀ key, (table.routes.get? key).getD [] =
      (ordered controller references key).map chosen := by
    intro key
    have mapped : (hosted controller references key).filterMap
        (routeOf controller inUse references) =
          (hosted controller references key).map chosen := by
      rw [← filterMap_eq_map]
      apply filterMap_congr
      intro reference member
      rcases mem_hosted.mp member with ⟨listed, equal, named⟩
      exact chosen_spec reference listed (equal ▸ named)
    rw [get?_routes_configFor built, mapped, ordered]
    symm
    apply map_insertionSort
    intro left _ right _
    exact Iff.rfl
  simp only [routes, forall₂_map_right_iff, forall₂_same, mem_ordered]
  constructor
  · intro fits reference member named route equal
    rw [chosen_spec reference member named] at equal
    cases equal
    exact fits _ reference ⟨member, rfl, named⟩
  · rintro fits key reference ⟨member, equal, named⟩
    subst equal
    exact fits reference member named _ (chosen_spec reference member named)

end

/-! Which service the reference of an object denotes, and whether its route leads there.
-/

open Option

abbrev NamedPorts := Text → Text → Text → Option Nat

structure ServicePort where
  service : Text
  ns : Text
  port : Nat
deriving DecidableEq

section

variable (ports : NamedPorts) (defaultPort : Nat)

def portNumber (number : Int) : Option Nat :=
  if 0 ≤ number ∧ number ≤ 65535 then some number.toNat else none

/-- The service of an Ingress backend, its port given by number or by name. -/
def IngressBackend.denotes (backend : IngressBackend) (ns : Text) : Option ServicePort := do
  let service ← backend.service
  let given := service.port.getD {}
  let port ← match given.number, given.name with
    | some number, _ => portNumber number
    | none, some name => ports ns service.name name
    | none, none => some defaultPort
  some { service := service.name, ns, port }

/-- The service of a `backendRef`, in the route's namespace unless it has one
of its own. -/
def HttpBackendRef.denotes (backendRef : HttpBackendRef) (ns : Text) : Option ServicePort := do
  let port ← match backendRef.port with
    | some number => portNumber number
    | none => some defaultPort
  some { service := backendRef.name, ns := backendRef.ns.getD ns, port }

def Reference.denotes (reference : Reference) : Option ServicePort :=
  match reference.backend with
  | .ingress backend => backend.denotes ports defaultPort reference.ns
  | .httproute backendRef => backendRef.denotes defaultPort reference.ns

end

section

variable (controller : IngressController) (ports : NamedPorts)

def ownTarget (reference : Reference) : Option Router.Backend :=
  (reference.denotes ports controller.config.defaultBackendPort).bind fun service =>
    parseUpstream controller.platform
      (resolveUpstreamAddr controller.config.self service.service service.ns service.port)

/-- A route leads to the service its reference denotes. -/
def Forwards (reference : Reference) (route : Route) : Prop :=
  ownTarget controller ports reference = some route.backend

variable {controller}

/-- Every route of a pass leads to the service its own reference denotes exactly
when each reference denotes the target of the first one with its backend name. -/
theorem routes_forward_iff (answers : Answers) (tls : List TlsConfig) (inUse : Config)
    (table : RouteTable) (built : configToRouteTable controller.platform
      (controller.configFor (answers.references controller.config) tls inUse) = .ok table) :
    (∀ key, List.Forall₂ (Forwards controller ports)
      (ordered controller (answers.references controller.config) key)
      ((table.routes.get? key).getD [])) ↔ ∀ reference ∈ answers.references controller.config,
          hostKeyOf controller reference ≠ [] →
            ∀ first ∈ namesake (answers.references controller.config) reference,
              writtenTarget controller first = ownTarget controller ports reference := by
  rw [forall₂_routes_iff (Forwards controller ports) built]
  generalize answers.references controller.config = references at built ⊢
  have resolves : Resolves controller references := by
    rw [← isOk_table_iff references tls inUse, built]
    rfl
  apply forall₂_congr
  intro reference member
  apply forall_congr'
  intro named
  rcases isSome_iff_exists.mp (resolves reference member named) with ⟨target, found⟩
  rcases bind_eq_some_iff.mp found with ⟨first, same, written⟩
  constructor
  · intro forwards other equal
    cases same.symm.trans equal
    have made : routeOf controller inUse references reference =
        some (routeTo inUse reference target) := by
      rw [routeOf, found, map_some]
    exact written.trans (forwards _ made).symm
  · intro agrees route made
    simp only [routeOf, found, map_some, some.injEq] at made
    subst made
    exact (agrees first same).symm.trans written

theorem distinct_names_forward :
    let controller : IngressController := ⟨default, .byHeader, {}⟩
    let answers : Answers :=
      { ingresses := some [.single "a" "web" "a.example" (.toService "api"),
          .single "b" "shop" "b.example" (.toService "api")] }
    ∃ table, configToRouteTable controller.platform
      (controller.configFor (answers.references controller.config) [] {}) = .ok table ∧
        ∀ key, List.Forall₂ (Forwards controller fun _ _ _ => none)
          (ordered controller (answers.references controller.config) key)
          ((table.routes.get? key).getD []) := by
  intro controller answers
  have succeeds : (configToRouteTable controller.platform (controller.configFor
      (answers.references controller.config) [] {})).isOk = true := by
    rw [isOk_table_iff]
    unfold Resolves
    decide
  have built := Fallible.eq_ok_getD succeeds .empty
  refine ⟨_, built, (routes_forward_iff _ answers [] {} _ built).mpr ?_⟩
  decide

/-- Two namespaces use the same names: traffic for the second goes to the
service of the first. -/
theorem equal_names_cross :
    let controller : IngressController := ⟨default, .byHeader, {}⟩
    let answers : Answers :=
      { ingresses := some [.single "a" "web" "a.example" (.toService "api"),
          .single "b" "web" "b.example" (.toService "api")] }
    ∃ table, configToRouteTable controller.platform
      (controller.configFor (answers.references controller.config) [] {}) = .ok table ∧
        ((table.routes.get? "b.example").getD []).map (fun route => route.backend.address) =
          ["api.a.svc.cluster.local:8080".toList] ∧
        ¬∀ key, List.Forall₂ (Forwards controller fun _ _ _ => none)
          (ordered controller (answers.references controller.config) key)
          ((table.routes.get? key).getD []) := by
  intro controller answers
  have succeeds : (configToRouteTable controller.platform (controller.configFor
      (answers.references controller.config) [] {})).isOk = true := by
    rw [isOk_table_iff]
    unfold Resolves
    decide
  have built := Fallible.eq_ok_getD succeeds .empty
  refine ⟨_, built, by decide, ?_⟩
  rw [forall₂_routes_iff _ built]
  unfold Forwards
  decide

end

end PertiskProxy.Ingress
