import PertiskProxy.Proxy.Exchange
import PertiskProxy.Proxy.Origins

/-! A route with a limit allows so many requests of one client in a second. -/

namespace PertiskProxy.Proxy

open Edge FilterChain Http ProxyConfig Router List Option

structure Visit where
  session : Session
  started : Instant
  world : World
  resolvedAt : Moment
  checkedAt : Moment

namespace Visit

def client (visit : Visit) : Text :=
  Gateway.edgeClient visit.session

def host (visit : Visit) : Text :=
  requestHost visit.session.req

def second (visit : Visit) : Nat :=
  visit.checkedAt.clock.unixSecs

def arrival (visit : Visit) : FilterState :=
  arrivalState visit.session visit.started visit.world

def limit (visit : Visit) : Nat :=
  (Gateway.resolve visit.session visit.resolvedAt visit.arrival).2.ctx.edge.rateLimitRps

def check (visit : Visit) (windows : Windows) : Verdict Answer × Windows :=
  let edge := (Gateway.resolve visit.session visit.resolvedAt visit.arrival).2.ctx.edge
  let (verdict, passage) := checkRate visit.client visit.host edge visit.checkedAt
    { world := { visit.world with windows } }
  (verdict, passage.world.windows)

end Visit

inductive RateEvent where
  | checked (visit : Visit)
  | noted (second : Nat) (clientIp host : Text)

namespace RateEvent

def second : RateEvent → Nat
  | .checked visit => visit.second
  | .noted second _ _ => second

def windows : List RateEvent → Windows
  | [] => ∅
  | .checked visit :: earlier => (visit.check (windows earlier)).2
  | .noted second clientIp host :: earlier => note4xx second clientIp host (windows earlier)

def timed : RateEvent → TimedCall
  | .checked visit =>
    { second := visit.second
      call := .rateLimited visit.client visit.host (UInt32.ofNat visit.limit) }
  | .noted second clientIp host => { second, call := .note4xx clientIp host }

end RateEvent

def Visit.rejected (visit : Visit) (earlier : List RateEvent) : Bool :=
  (visit.check (RateEvent.windows earlier)).1 = .stop .tooManyRequests

/-! ## The check as a call on the counters -/

theorem Visit.check_eq (visit : Visit) (windows : Windows) : visit.check windows =
      let (limited, windows) :=
        rateLimited visit.second (requestKey visit.client visit.host) visit.limit windows
      (.when limited .tooManyRequests, windows) := by
  simp only [check, checkRate]
  by_cases limited : visit.limit > 0
  · rw [if_pos (by exact limited)]
    rfl
  · have unlimited : visit.limit = 0 := Nat.eq_zero_of_not_pos limited
    rw [if_neg (by exact limited), unlimited]
    rfl

theorem toNat_limit (fits : limit ≤ u32Max) : (UInt32.ofNat limit).toNat = limit :=
  UInt32.toNat_ofNat_of_lt' (Nat.lt_succ_of_le fits)

theorem RateEvent.windows_eq (fits : ∀ visit, .checked visit ∈ history → visit.limit ≤ u32Max) :
    windows history = windowsAfter (history.map timed) := by
  induction history with
  | nil => rfl
  | cons event earlier induction =>
    have before := induction fun visit member => fits visit (mem_cons_of_mem _ member)
    cases event with
    | noted second clientIp host =>
      rw [windows, before]
      rfl
    | checked visit =>
      rw [windows, before, Visit.check_eq, map_cons, windowsAfter]
      simp [timed, LimitCall.perform, toNat_limit (fits visit mem_cons_self)]

open RateEvent

theorem Visit.rejected_eq {visit : Visit} {earlier : List RateEvent}
    (fits : ∀ other, .checked other ∈ checked visit :: earlier → other.limit ≤ u32Max) :
    visit.rejected earlier =
      (checked visit).timed.answer (earlier.map timed) := by
  have before := windows_eq fun other member => fits other (mem_cons_of_mem _ member)
  rw [rejected, check_eq, before]
  simp only [timed, TimedCall.answer, LimitCall.perform,
    toNat_limit (fits visit mem_cons_self)]
  by_cases limited : (rateLimited visit.second (requestKey visit.client visit.host) visit.limit
    (windowsAfter (earlier.map timed))).1 = true
  · simp [limited]
  · simp [Bool.eq_false_of_not_eq_true limited]

/-! ## The route of a request -/

section

variable (platform : Platform) (config : Config)

def Visit.route (visit : Visit) : Option (Site × PathRewrite) :=
  (selectedKey visit.resolvedAt.router.table.routes visit.host).bind fun key =>
    (selectedOrigin platform config key (Text.before '?' visit.session.req.target)).map
      fun origin => (origin.site, origin.entry)

def Visit.routeLimit (visit : Visit) : Nat :=
  (visit.route platform config).elim 0 fun route => route.2.rateLimitRps

/-- The requests of a client that matched a route and that its check let through
in a second. -/
def admittedTo (route : Site × PathRewrite) (client : Text) (second : Nat) :
    List RateEvent → Nat
  | [] => 0
  | .noted _ _ _ :: earlier => admittedTo route client second earlier
  | .checked visit :: earlier =>
    admittedTo route client second earlier +
      if visit.route platform config = some route ∧ visit.client = client ∧
          visit.second = second ∧ visit.rejected earlier = false then 1
      else 0

/-- A request to a limited route is turned away when its client has used up the
route's limit in this second. -/
def Visit.Budgeted (visit : Visit) (earlier : List RateEvent) : Prop :=
  ∀ route, visit.route platform config = some route → 0 < route.2.rateLimitRps →
    (visit.rejected earlier = true ↔
      route.2.rateLimitRps ≤ admittedTo platform config route visit.client visit.second earlier)

/-- A request that matches a route can be sent somewhere, and the policy stored
for its host and the route's path has the route's limit. -/
def Visit.Governed (visit : Visit) : Prop :=
  ∀ route, visit.route platform config = some route →
    planned visit.session visit.resolvedAt visit.arrival = true ∧
      (lastEntry platform config (visit.resolvedAt.router.table.matchedHostKey visit.host)
        route.2.path).elim 0 PathRewrite.rateLimitRps = route.2.rateLimitRps

/-- Of the limited requests of one client in one second, those with one host name
as sent are those to one route. -/
def SharesByRoute (history : List RateEvent) : Prop :=
  ∀ left right, .checked left ∈ history → .checked right ∈ history →
    left.second = right.second → left.client = right.client →
    0 < left.routeLimit platform config → 0 < right.routeLimit platform config →
    (left.host = right.host ↔ left.route platform config = right.route platform config)

end

variable {platform : Platform} {config : Config}

theorem Visit.limit_of_governed {table : RouteTable} {visit : Visit}
    (built : configToRouteTable platform config = .ok table)
    (reorders : RouteTable.Reorders visit.resolvedAt.router.table table)
    (governed : visit.Governed platform config) :
    visit.limit = visit.routeLimit platform config := by
  unfold Governed planned at governed
  rw [← resolveForward_isOk visit.resolvedAt.probeTls] at governed
  simp only [limit, Gateway.resolve]
  cases resolved : (resolveForward visit.resolvedAt.probeTls visit.resolvedAt.router.table
    (requestHost visit.session.req) visit.session.req.target
    (visit.arrival.arrive visit.resolvedAt).passage.world.consul).1 with
  | error error =>
    rw [resolved] at governed
    have unmatched : visit.route platform config = none := by
      apply eq_none_iff_forall_ne_some.mpr
      intro route matched
      cases (governed route matched).1
    rw [routeLimit, unmatched]
    rfl
  | ok plan =>
    rcases plan_edge_of_config built reorders resolved with
      ⟨key, origin, chosen, selected, -, attached⟩
    have matched : visit.route platform config = some (origin.site, origin.entry) := by
      simp [route, host, chosen, selected]
    have stored := (governed _ matched).2
    rw [routeLimit, matched, elim_some, ← stored]
    simp only [RequestCtx.withPlan, attached, host]
    cases lastEntry platform config
      (visit.resolvedAt.router.table.matchedHostKey (requestHost visit.session.req))
      origin.entry.path <;> rfl

def LimitsFit (config : Config) : Prop :=
  ∀ site ∈ config.sites, ∀ entry ∈ site.routes, entry.rateLimitRps ≤ u32Max

theorem Visit.routeLimit_le (fits : LimitsFit config) (visit : Visit) :
    visit.routeLimit platform config ≤ u32Max := by
  unfold routeLimit
  cases matched : visit.route platform config with
  | none => exact Nat.zero_le _
  | some route =>
    rcases bind_eq_some_iff.mp matched with ⟨key, -, inside⟩
    rcases map_eq_some_iff.mp inside with ⟨origin, selected, rfl⟩
    rcases built_of_mem_origins (mem_origins_of_selectedOrigin selected) with
      ⟨configured, listed, -⟩
    unfold siteEntries at listed
    split at listed
    · simp only [elim_some, mem_singleton.mp listed]
      exact Nat.zero_le _
    · exact fits _ configured _ listed

theorem Visit.separator_not_mem_client (visit : Visit) : '|' ∉ visit.client := by
  unfold client Gateway.edgeClient
  cases found : sessionClientIp visit.session with
  | none => decide
  | some ip =>
    rcases resolveClientIp_printed found with ⟨address, rfl⟩
    intro member
    rcases Net.IpAddr.mem_toText member with dot | colon | ⟨digit, small, equal⟩
    · cases dot
    · cases colon
    · have different : ∀ digit < 16, '|' ≠ Nat.digitChar digit := by decide
      exact different digit small equal

/-! ## Budgets -/

/-- What the requests before a visit have to be like for its counter to be the
budget of its route. -/
structure Visit.Separated (platform : Platform) (config : Config) (visit other : Visit) :
    Prop where
  limit : other.limit = other.routeLimit platform config
  fits : other.limit ≤ u32Max
  shares : other.second = visit.second → other.client = visit.client → 0 < other.limit →
    (other.host = visit.host ↔ other.route platform config = visit.route platform config)

theorem Visit.limitAt_isSome {visit other : Visit} {route : Site × PathRewrite}
    (matched : visit.route platform config = some route) (limited : 0 < route.2.rateLimitRps)
    (separated : Separated platform config visit other) :
    ((checked other).timed.limitAt (requestKey visit.client visit.host)
      visit.second).isSome = true ↔
      other.route platform config = some route ∧ other.client = visit.client ∧
        other.second = visit.second := by
  rw [isSome_iff_exists]
  simp only [limitAt_eq_some, timed, LimitCall.counts, ite_none_left_eq_some,
    toNat_limit separated.fits, some.injEq, Prod.mk.injEq]
  constructor
  · rintro ⟨limit, ⟨counted, sameKey, -⟩, sameSecond⟩
    rcases requestKey_inj other.separator_not_mem_client visit.separator_not_mem_client sameKey with
      ⟨sameClient, sameHost⟩
    have sameRoute := (separated.shares sameSecond sameClient (Nat.pos_of_ne_zero counted)).mp
      sameHost
    exact ⟨sameRoute.trans matched, sameClient, sameSecond⟩
  rintro ⟨sameRoute, sameClient, sameSecond⟩
  have counted : 0 < other.limit := by
    rw [separated.limit, routeLimit, sameRoute]
    exact limited
  have sameHost := (separated.shares sameSecond sameClient counted).mpr
    (sameRoute.trans matched.symm)
  exact ⟨other.limit, ⟨counted.ne', by rw [sameClient, sameHost], rfl⟩, sameSecond⟩

theorem Visit.admitted_eq {visit : Visit} {route : Site × PathRewrite}
    (matched : visit.route platform config = some route) (limited : 0 < route.2.rateLimitRps)
    {earlier : List RateEvent}
    (separated : ∀ other, .checked other ∈ earlier → Separated platform config visit other) :
    admitted (requestKey visit.client visit.host) visit.second (earlier.map timed) =
      admittedTo platform config route visit.client visit.second earlier := by
  induction earlier with
  | nil => rfl
  | cons event rest induction =>
    have before := induction fun other member =>
      separated other (mem_cons_of_mem _ member)
    rw [map_cons]
    cases event with
    | noted second clientIp host =>
      rw [admittedTo, ← before]
      apply admitted_cons_of_ne
      apply limitAt_of_counts_ne
      intro limit counts
      exact requestKey_ne_errorKey _ _ _ _ (LimitCall.key_of_counts counts).symm
    | checked other =>
      have counted := limitAt_isSome matched limited (separated other mem_cons_self)
      have answered := @rejected_eq other rest fun each member => (separated each member).fits
      rw [admittedTo, admitted, before, ← answered]
      congr 1
      apply if_congr _ rfl rfl
      rw [Bool.and_eq_true, counted, Bool.not_eq_true']
      tauto

/-- Where the clock does not go back, every request that matches a route has been
given the route's limit, and the limited requests of a client in a second share
a host name exactly when they share a route, each route has its own budget for
each client. -/
theorem budget_per_route (platform : Platform) (config : Config) {table : RouteTable}
    (built : configToRouteTable platform config = .ok table) (fits : LimitsFit config)
    (history : List RateEvent) (tables : ∀ visit, .checked visit ∈ history →
      RouteTable.Reorders visit.resolvedAt.router.table table)
    (ordered : history.Pairwise fun later earlier => earlier.second ≤ later.second)
    (governed : ∀ visit, .checked visit ∈ history → visit.Governed platform config)
    (shared : SharesByRoute platform config history) :
    ∀ later visit earlier, history = later ++ .checked visit :: earlier →
      visit.Budgeted platform config earlier := by
  rintro later visit earlier rfl route matched limited
  have limits : ∀ other, .checked other ∈ later ++ .checked visit :: earlier →
      other.limit = other.routeLimit platform config := fun other member =>
    other.limit_of_governed built (tables other member) (governed other member)
  have separated : ∀ other, .checked other ∈ checked visit :: earlier →
      visit.Separated platform config other := by
    intro other member
    have listed : .checked other ∈ later ++ .checked visit :: earlier :=
      mem_append_right _ member
    have equal := limits other listed
    refine ⟨equal, equal ▸ other.routeLimit_le fits, ?_⟩
    intro sameSecond sameClient counted
    apply shared other visit listed (by simp) sameSecond sameClient (equal ▸ counted)
    rw [Visit.routeLimit, matched]
    exact limited
  have own : visit.limit = route.2.rateLimitRps := by
    rw [limits visit (by simp), Visit.routeLimit, matched]
    rfl
  have calls : Ordered ((checked visit :: earlier).map timed) := by
    apply Pairwise.map _ _ (pairwise_append.mp ordered).2.1
    intro left right before
    cases left <;> cases right <;> exact before
  have before := fun other member => separated other (mem_cons_of_mem _ member)
  rw [Visit.rejected_eq fun other member => (separated other member).fits,
    ← Visit.admitted_eq matched limited before]
  apply answer_iff_of_counts calls
  have exactly := toNat_limit (separated visit mem_cons_self).fits
  rw [own] at exactly
  simp [timed, LimitCall.counts, own, exactly, limited.ne']

/-! A site with two routes, each open to one request of a client in a second. -/

def twoRoutes : Config where
  backends := [{ name := "app", upstreams := [{ addr := "10.0.0.1:80" }] }]
  sites :=
    [{ host := "a.example", backend := "app",
       routes := [{ path := "/a", rateLimitRps := 1 }, { path := "/b", rateLimitRps := 1 }] }]

def twoRoutesTable : RouteTable :=
  Fallible.getD (configToRouteTable default twoRoutes) .empty

theorem twoRoutes_built : configToRouteTable default twoRoutes = .ok twoRoutesTable :=
  Fallible.eq_ok_getD (by decide) .empty

def visitTo (host path : Text) : Visit where
  session :=
    { req := { method := "GET", uri := { pathAndQuery := path },
               headers := [("host", Text.asBytes host)] }
      clientAddr := some (.inet (.v4 ⟨203, 0, 113, 7⟩)) }
  started := 0
  world := {}
  resolvedAt := .ofTable twoRoutesTable
  checkedAt := .ofTable twoRoutesTable

theorem second_visit_rejected :
    let visit := visitTo "a.example" "/a"
    visit.Budgeted default twoRoutes [.checked visit] ∧
      visit.rejected [.checked visit] = true := by
  intro visit
  have same : ∀ other, checked other ∈ [.checked visit, .checked visit] →
      other = visit := by
    intro other member
    simpa using member
  refine ⟨?_, by decide⟩
  refine budget_per_route default twoRoutes twoRoutes_built (by unfold LimitsFit; decide)
    [.checked visit, .checked visit] ?_ ?_ ?_ ?_ [] visit _ rfl
  · intro other member
    cases same other member
    exact ⟨Perm.refl _, Perm.refl _⟩
  · exact pairwise_pair.mpr (Nat.le_refl _)
  · intro other member route matched
    cases same other member
    have listed : (visit.route default twoRoutes).map Prod.snd =
      some { path := "/a", rateLimitRps := 1 } := by decide
    have entry : route.2 = { path := "/a", rateLimitRps := 1 } := by
      rw [matched] at listed
      exact some.inj listed
    rw [entry]
    decide
  · intro left right memberLeft memberRight _ _ _ _
    rw [same left memberLeft, same right memberRight]
    exact ⟨fun _ => rfl, fun _ => rfl⟩

/-- A request to one route uses up the budget of the other, and the host name in
capital letters has a budget of its own. -/
theorem budget_shared_and_doubled : (let first := visitTo "a.example" "/a"
      let second := visitTo "a.example" "/b"
      first.routeLimit default twoRoutes = 1 ∧ second.routeLimit default twoRoutes = 1 ∧
        first.route default twoRoutes ≠ second.route default twoRoutes ∧
        first.rejected [] = false ∧ second.rejected [.checked first] = true) ∧
    (let first := visitTo "a.example" "/a"
      let second := visitTo "A.example" "/a"
      second.routeLimit default twoRoutes = 1 ∧
        first.route default twoRoutes = second.route default twoRoutes ∧
        first.rejected [] = false ∧ second.rejected [.checked first] = false) := by
  decide

end PertiskProxy.Proxy
