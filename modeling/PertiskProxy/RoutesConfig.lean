import PertiskProxy.Router

/-! Routes and TLS entries from a file (`routes_config.rs`). -/

namespace PertiskProxy.RoutesConfig

open ProxyConfig Router

structure RouteSpec where
  host : Option Text := none
  hosts : List Text := []
  path : Text
  pathType : Text := "prefix"
  upstream : Text
  middlewares : List Middleware := []
deriving DecidableEq

structure RoutesFile where
  routes : List RouteSpec := []
  tls : List TlsConfig := []
  http3 : Http3Options := {}
deriving DecidableEq

structure LoadedRoutes where
  table : RouteTable
  tls : List TlsConfig
  http3 : Http3Options

inductive RoutesError where
  | unreadable
  | invalidJson
  | invalidYaml
  | invalidUpstream (upstream : Text)
deriving DecidableEq

structure RouteParsers where
  json : Text → Option RoutesFile
  yaml : Text → Option RoutesFile

section

variable (platform : Platform) (parsers : RouteParsers)

def specPathType (spec : RouteSpec) : PathMatchType :=
  let name := Text.toAsciiLowercase spec.pathType
  if name == "exact".toList then .exact
  else if name == "implementation_specific".toList || name == "implementationspecific".toList then
    .implementationSpecific
  else .lead

/-- The hosts of a route; one without any is for `*`. -/
def specHosts (spec : RouteSpec) : List Text :=
  let hosts := spec.hosts ++ spec.host.toList
  if hosts.isEmpty then ["*".toList] else hosts

def addSpec (byHost : HashMap Text (List Route)) (spec : RouteSpec) :
    Except RoutesError (HashMap Text (List Route)) :=
  match parseUpstream platform spec.upstream with
  | none => .error (.invalidUpstream spec.upstream)
  | some backend =>
    let route : Route :=
      { path := spec.path, pathType := specPathType spec, backend,
        middlewares := spec.middlewares, forwardClientIp := false }
    .ok ((specHosts spec).foldl
      (fun byHost host =>
        byHost.upsert (Text.toAsciiLowercase host) fun routes => routes.getD [] ++ [route])
      byHost)

def buildTable (specs : List RouteSpec) : Except RoutesError RouteTable := do
  let byHost ← specs.foldlM (addSpec platform) ∅
  .ok (.fromRoutes byHost)

def loadFromStr (content : Text) : Except RoutesError LoadedRoutes := do
  let file ←
    if Text.startsWith (Text.trimStartMatches Text.isWhitespace content) "\x7b" then
      ((parsers.json content).elim (.error .invalidJson) .ok : Except RoutesError RoutesFile)
    else (parsers.yaml content).elim (.error .invalidYaml) .ok
  let table ← buildTable platform file.routes
  .ok { table, tls := file.tls, http3 := file.http3 }

def load (content : Option Text) : Except RoutesError LoadedRoutes :=
  match content with
  | none => .error .unreadable
  | some content => loadFromStr platform parsers content

end

section

variable {platform : Platform} {parsers : RouteParsers}

def ReadFrom (platform : Platform) (host : Text) (route : Route) : Prop :=
  Text.toAsciiLowercase host = host ∧
    ∃ upstream, parseUpstream platform upstream = some route.backend

def AllRead (platform : Platform) (byHost : HashMap Text (List Route)) : Prop :=
  ∀ host routes, byHost.get? host = some routes → ∀ route ∈ routes, ReadFrom platform host route

theorem allRead_upsert (read : AllRead platform byHost)
    (fresh : ReadFrom platform host route) :
    AllRead platform (byHost.upsert host fun routes => routes.getD [] ++ [route]) := by
  intro key routes stored other member
  rw [HashMap.get?_upsert] at stored
  split at stored
  · next same =>
    cases stored
    subst same
    rcases List.mem_append.mp member with earlier | last
    · cases old : byHost.get? key with
      | none => simp [old] at earlier
      | some previous =>
        rw [old] at earlier
        exact read key previous old other earlier
    · exact List.mem_singleton.mp last ▸ fresh
  · exact read key routes stored other member

theorem allRead_addSpec (read : AllRead platform byHost)
    (added : addSpec platform byHost spec = .ok next) : AllRead platform next := by
  unfold addSpec at added
  split at added
  · cases added
  rename_i backend parsed
  cases added
  generalize specHosts spec = hosts
  induction hosts generalizing byHost with
  | nil => exact read
  | cons host hosts induction =>
    exact induction (allRead_upsert read ⟨Text.toAsciiLowercase_idem host, spec.upstream, parsed⟩)

theorem built_of_loaded (loads : loadFromStr platform parsers content = .ok loaded) :
    ∃ specs, buildTable platform specs = .ok loaded.table := by
  unfold loadFromStr at loads
  dsimp only at loads
  split at loads <;>
  · rcases Fallible.bind_eq_ok.mp loads with ⟨file, -, rest⟩
    rcases Fallible.bind_eq_ok.mp rest with ⟨table, built, finished⟩
    cases finished
    exact ⟨file.routes, built⟩

theorem readFrom_of_loaded (loads : loadFromStr platform parsers content = .ok loaded)
    (listed : (host, route) ∈ loaded.table.allRoutes) : ReadFrom platform host route := by
  rcases built_of_loaded loads with ⟨specs, built⟩
  rcases Fallible.bind_eq_ok.mp built with ⟨byHost, folded, sorted⟩
  injection sorted with sorted
  rw [← sorted] at listed
  have read : AllRead platform byHost :=
    Fallible.foldlM_invariant (fun _ map => AllRead platform map)
      (by
        intro key routes stored
        cases stored)
      (fun _ _ _ _ holds added => allRead_addSpec holds added) folded
  rcases RouteTable.mem_allRoutes.mp listed with ⟨routes, stored, member⟩
  simp only [RouteTable.fromRoutes, HashMap.get?_mapValues] at stored
  rcases Option.map_eq_some_iff.mp stored with ⟨original, found, rfl⟩
  exact read host original found route ((List.mem_insertionSort _).mp member)

end

end PertiskProxy.RoutesConfig
