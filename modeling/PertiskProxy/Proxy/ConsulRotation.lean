import PertiskProxy.Proxy.Gateway

/-! Requests to Consul services take their endpoints in turns from one counter. -/

namespace PertiskProxy.Proxy

open Edge Http Router List Option ConsulState RoundRobin

structure ResolvedRequest where
  session : Session
  moment : Moment

namespace ResolvedRequest

variable (request : ResolvedRequest)

def service : Option Text :=
  (request.moment.router.table.matchRouteEntry (requestHost request.session.req)
    (Text.before '?' request.session.req.target)).bind fun route =>
      match backendKind route.backend.address with
      | .consul service => some service
      | _ => none

def resolve (consul : ConsulState) : Except ForwardError ForwardPlan × ConsulState :=
  resolveForward request.moment.probeTls request.moment.router.table
    (requestHost request.session.req) request.session.req.target consul

def peer (consul : ConsulState) : Option (Text × Nat) :=
  match (request.resolve consul).1 with
  | .ok plan => some (plan.peerHost, plan.peerPort)
  | .error _ => none

variable {request}

theorem resolve_of_service {service : Text} (routed : request.service = some service)
    (consul : ConsulState) : (request.resolve consul).2 = (consul.pick service).2 ∧
      request.peer consul = (consul.pick service).1 := by
  unfold ResolvedRequest.service at routed
  rcases bind_eq_some_iff.mp routed with ⟨route, matched, kind⟩
  split at kind
  · next found consulRoute =>
    cases kind
    simp only [peer, resolve, resolveForward, matched, planRoute, consulRoute]
    split
    · next picked => simp [picked]
    · next picked => simp [picked]
  · cases kind

theorem resolve_of_no_service (elsewhere : request.service = none) (consul : ConsulState) :
    (request.resolve consul).2 = consul := by
  unfold ResolvedRequest.service at elsewhere
  simp only [resolve, resolveForward]
  split
  · rfl
  rename_i route matched
  rw [matched, bind_some] at elsewhere
  unfold planRoute
  split at elsewhere
  · cases elsewhere
  rename_i other
  split
  · rfl
  · next service kind => exact absurd kind (other service)
  · split <;> rfl
  · split <;> rfl

end ResolvedRequest

/-- What happens to the endpoints and the counter: a route is resolved by the request
filter, or again to choose the peer the request is sent to, or the poller gets an
answer. -/
inductive ConsulEvent where
  | filtered (request : ResolvedRequest)
  | sent (request : ResolvedRequest)
  | answered (service : Text) (answer : Option (List HealthItem))

namespace ConsulEvent

def step (consul : ConsulState) : ConsulEvent → ConsulState
  | .filtered request | .sent request => (request.resolve consul).2
  | .answered service answer => consul.refresh service answer

def run (consul : ConsulState) (events : List ConsulEvent) : ConsulState :=
  events.foldl step consul

def drawsFor : ConsulEvent → Option Text
  | .filtered request | .sent request => request.service
  | .answered _ _ => none

def sendsTo (service : Text) : ConsulEvent → Bool
  | .sent request => request.service == some service
  | _ => false

/-- The draws of a run from the counter, with those marked that send a request to a
service. A service without endpoints draws nothing. -/
def draws (service : Text) (consul : ConsulState) : List ConsulEvent → List Bool
  | [] => []
  | event :: rest =>
    let later := draws service (step consul event) rest
    match event.drawsFor with
    | some drawn =>
      if (consul.known drawn).isEmpty then later else event.sendsTo service :: later
    | none => later

def endpoints (service : Text) (consul : ConsulState) : List ConsulEvent → List (Text × Nat)
  | [] => []
  | event :: rest =>
    let later := endpoints service (step consul event) rest
    match event with
    | .sent request =>
      if request.service = some service then
        (request.peer consul).toList ++ later
      else later
    | _ => later

theorem step_of_draws (drawn : event.drawsFor = some service) (consul : ConsulState) :
    step consul event = (consul.pick service).2 := by
  cases event with
  | filtered request | sent request => exact (ResolvedRequest.resolve_of_service drawn consul).1
  | answered other answer => cases drawn

theorem known_step_of_draws {event : ConsulEvent} {service : Text}
    (drawn : event.drawsFor = some service) (consul : ConsulState) (other : Text) :
    (step consul event).known other = consul.known other := by
  rw [step_of_draws drawn, known_pick]

theorem drawsFor_of_sendsTo {event : ConsulEvent} {service : Text}
    (sends : event.sendsTo service = true) : event.drawsFor = some service := by
  cases event with
  | filtered request => cases sends
  | sent request => exact beq_iff_eq.mp sends
  | answered other answer => cases sends

theorem endpoints_cons (service : Text) (consul : ConsulState) (event : ConsulEvent)
    (rest : List ConsulEvent) : endpoints service consul (event :: rest) =
      (if event.sendsTo service then (consul.pick service).1.toList else []) ++
        endpoints service (step consul event) rest := by
  cases event with
  | filtered request => rfl
  | answered other answer => rfl
  | sent request =>
    by_cases routed : request.service = some service
    · simp [endpoints, sendsTo, routed, (ResolvedRequest.resolve_of_service routed consul).2]
    · simp [endpoints, sendsTo, routed]

/-- The service keeps its endpoints: they are what every answer says. -/
def Steady (service : Text) (listed : List (Text × Nat)) (events : List ConsulEvent) : Prop :=
  ∀ items, .answered service (some items) ∈ events → usableEndpoints items = listed

theorem known_answered (known : consul.known service = listed)
    (steady : Steady service listed (.answered other answer :: rest)) :
    (step consul (.answered other answer)).known service = listed := by
  by_cases same : service = other
  · subst same
    cases answer with
    | none => exact known
    | some items =>
      rw [step, known_refresh_self, known, steady items mem_cons_self, ite_self]
  · rw [step, known_refresh_of_ne same, known]

theorem step_of_no_draw (drawn : event.drawsFor = none) (known : consul.known service = listed)
    (steady : Steady service listed (event :: rest)) :
    (step consul event).rr = consul.rr ∧ (step consul event).known service = listed := by
  cases event with
  | filtered request | sent request =>
    rw [step, ResolvedRequest.resolve_of_no_service drawn]
    exact ⟨rfl, known⟩
  | answered other answer => exact ⟨rr_refresh _ _ _, known_answered known steady⟩

theorem Steady.tail (steady : Steady service listed (event :: rest)) :
    Steady service listed rest := fun items member => steady items (mem_cons_of_mem _ member)

theorem endpoints_eq {service : Text} {listed : List (Text × Nat)} {events : List ConsulEvent}
    {consul : ConsulState} (known : consul.known service = listed) (present : listed ≠ [])
    (steady : Steady service listed events)
    (unwrapped : consul.rr + (draws service consul events).length ≤ u64Max) :
    (endpoints service consul events).map some =
      (readings consul.rr (draws service consul events)).map
        (turn listed) := by
  induction events generalizing consul with
  | nil => rfl
  | cons event rest induction =>
    rw [endpoints_cons]
    cases drawn : event.drawsFor with
    | none =>
      rcases step_of_no_draw drawn known steady with ⟨rr, kept⟩
      have silent : event.sendsTo service = false := by
        by_contra sends
        rw [drawsFor_of_sendsTo (by simpa using sends)] at drawn
        cases drawn
      simp only [draws, drawn, silent] at unwrapped ⊢
      rw [← rr] at unwrapped ⊢
      exact induction kept steady.tail unwrapped
    | some other =>
      have moved := step_of_draws drawn consul
      have kept : (step consul event).known service = listed := by
        rw [known_step_of_draws drawn, known]
      cases unknown : (consul.known other).isEmpty with
      | true =>
        -- Nothing is drawn, and the service that sends has endpoints.
        have silent : event.sendsTo service = false := by
          by_contra sends
          have same := drawsFor_of_sendsTo (by simpa using sends)
          cases drawn.symm.trans same
          rw [known, List.isEmpty_iff] at unknown
          exact present unknown
        rw [pick_of_unknown unknown] at moved
        simp only [draws, drawn, unknown, silent, if_true] at unwrapped ⊢
        rw [moved] at unwrapped kept ⊢
        exact induction kept steady.tail unwrapped
      | false =>
        simp only [draws, drawn, unknown] at unwrapped ⊢
        have below : consul.rr < u64Max := by
          simp only [Bool.false_eq_true, if_false, length_cons] at unwrapped
          omega
        have rr : (step consul event).rr = consul.rr + 1 := by
          rw [moved, pick_of_known unknown below]
        have later := induction kept steady.tail (by
          simp only [Bool.false_eq_true, if_false, length_cons] at unwrapped
          omega)
        rw [rr] at later
        cases sends : event.sendsTo service with
        | false => simpa [readings] using later
        | true =>
          have same := drawsFor_of_sendsTo sends
          cases drawn.symm.trans same
          rw [pick_of_known unknown below, known]
          have inside : consul.rr % listed.length < listed.length :=
            Nat.mod_lt _ (length_pos_iff.mpr present)
          simp [readings, turn, inside, later]

/-! ## What the answers say -/

def answerFor (service : Text) : ConsulEvent → Option (List HealthItem)
  | .answered other (some items) => if other = service then some items else none
  | _ => none

def lastAnswer (service : Text) (events : List ConsulEvent) : Option (List HealthItem) :=
  (events.filterMap (answerFor service)).getLast?

/-- An answer gives ports of 16 bits, and names endpoints unless there were none. -/
def Usable (consul : ConsulState) : ConsulEvent → Prop
  | .answered service (some items) =>
    (∀ item ∈ items, item.port.getD 0 ≤ u16Max) ∧
      (listedEndpoints items = [] → consul.known service = [])
  | _ => True

theorem lastAnswer_concat (service : Text) (events : List ConsulEvent) (event : ConsulEvent) :
    lastAnswer service (events ++ [event]) =
      (event.answerFor service).or (lastAnswer service events) := by
  unfold lastAnswer
  cases answer : event.answerFor service with
  | none | some items => simp [answer]

theorem known_step (usable : Usable consul event) (service : Text) :
    (step consul event).known service =
      (event.answerFor service).elim (consul.known service) listedEndpoints := by
  cases event with
  | filtered request =>
    cases drawn : request.service with
    | none =>
      have same := ResolvedRequest.resolve_of_no_service drawn consul
      exact congrArg (known · service) same
    | some other => exact @known_step_of_draws (.filtered request) other drawn consul service
  | sent request =>
    cases drawn : request.service with
    | none =>
      have same := ResolvedRequest.resolve_of_no_service drawn consul
      exact congrArg (known · service) same
    | some other => exact @known_step_of_draws (.sent request) other drawn consul service
  | answered other answer =>
    cases answer with
    | none => rfl
    | some items =>
      rcases usable with ⟨fits, vacant⟩
      by_cases same : other = service
      · subst same
        rw [step, known_refresh_self, usableEndpoints_of_le fits]
        simp only [answerFor, if_true, elim_some]
        cases empty : (listedEndpoints items).isEmpty with
        | false => rfl
        | true =>
          rw [List.isEmpty_iff] at empty
          rw [vacant empty, empty]
          rfl
      · rw [step, known_refresh_of_ne (Ne.symm same)]
        simp [answerFor, same]

theorem known_run (usable : Run.Every step Usable {} events) (service : Text) :
    (run {} events).known service = (lastAnswer service events).elim [] listedEndpoints := by
  induction events using reverseRecOn with
  | nil => rfl
  | append_singleton events event induction =>
    rcases (Run.Every.append _ _ _).mp usable with ⟨before, last, -⟩
    change Usable (run {} events) event at last
    have moved : run {} (events ++ [event]) = step (run {} events) event := by
      simp [run]
    rw [moved, known_step last, lastAnswer_concat, induction before]
    cases event.answerFor service <;> rfl

/-- When every answer can be used, requests are sent to endpoints of the last answer
only. If besides the draws for all services from one request to a service to another
that follows fewer than `n` requests to it later are never a multiple of `n`, the
number of its endpoints, any `n` consecutive requests to it visit each once. -/
theorem rotation_fair_and_current (events : List ConsulEvent)
    (usable : Run.Every step Usable {} events) :
    (∀ before request after service endpoint, events = before ++ .sent request :: after →
      request.service = some service → request.peer (run {} before) = some endpoint →
      ∃ items, lastAnswer service before = some items ∧ endpoint ∈ listedEndpoints items) ∧
    ∀ before segment after service items, events = before ++ segment ++ after →
      lastAnswer service before = some items → listedEndpoints items ≠ [] →
      (∀ other, .answered service (some other) ∈ segment →
        listedEndpoints other = listedEndpoints items) →
      Spread (listedEndpoints items).length (draws service (run {} before) segment) →
      (run {} before).rr + (draws service (run {} before) segment).length ≤ u64Max →
      ∀ rounds window, window <:+: endpoints service (run {} before) segment →
        window.length = rounds * (listedEndpoints items).length →
        ∀ endpoint, window.count endpoint = rounds * (listedEndpoints items).count endpoint := by
  constructor
  · rintro before request after service endpoint rfl routed sent
    have known := known_run ((Run.Every.append _ _ _).mp usable).1 service
    rw [(ResolvedRequest.resolve_of_service routed _).2] at sent
    have member := mem_known_of_pick sent
    rw [known] at member
    cases answer : lastAnswer service before with
    | none =>
      rw [answer] at member
      cases member
    | some items =>
      rw [answer] at member
      exact ⟨items, rfl, member⟩
  rintro before segment after service items rfl answer present unchanged spread unwrapped
    rounds window inside full endpoint
  rcases (Run.Every.append _ _ _).mp usable with ⟨early, -⟩
  rcases (Run.Every.append _ _ _).mp early with ⟨earlier, during⟩
  have known := known_run earlier service
  rw [answer, elim_some] at known
  have steady : Steady service (listedEndpoints items) segment := by
    intro other member
    rcases during.of_mem member with ⟨reached, fits, -⟩
    rw [usableEndpoints_of_le fits]
    exact unchanged other member
  have turns := endpoints_eq known present steady unwrapped
  have drawn : window.map some <:+: (endpoints service (run {} before) segment).map some :=
    infix_map_iff.mpr ⟨window, inside, rfl⟩
  rw [turns] at drawn
  rcases infix_map_iff.mp drawn with ⟨numbers, within, equal⟩
  have length : numbers.length = rounds * (listedEndpoints items).length := by
    have same := congrArg length equal
    rw [length_map, length_map] at same
    rw [← same, full]
  rw [← count_map_of_injective window some (some_injective _), equal]
  exact count_window spread within length endpoint

end ConsulEvent

/-! A route to a service, and a request for it. -/

def serviceTable : RouteTable :=
  RouteTable.fromRoutes (HashMap.empty.insert "a.example"
    [{ path := "/", pathType := .lead
       backend := { address := "consul:web", port := 80, useTls := false } }])

def webRequest : ResolvedRequest where
  session := { req := { method := "GET", uri := { pathAndQuery := "/" },
                        headers := [("host", Text.asBytes "a.example")] } }
  moment := .ofTable serviceTable

def endpointOn (last : Nat) (port : Nat) : HealthItem where
  port := some port
  serviceAddress := some ("10.0.0.".toList ++ Text.ofNat last)

open ConsulEvent

/-- Three endpoints are visited in turn by requests that come one by one. -/
theorem three_endpoints_visited :
    let listed := [endpointOn 1 80, endpointOn 2 80, endpointOn 3 80]
    let request := [filtered webRequest, .sent webRequest]
    let segment := request ++ request ++ request
    let events := .answered "web" (some listed) :: segment
    let consul := run {} [.answered "web" (some listed)]
    Run.Every step Usable {} events ∧
      Spread 3 (draws "web" consul segment) ∧
      ∀ endpoint, (endpoints "web" consul segment).count endpoint =
        1 * (listedEndpoints listed).count endpoint := by
  intro listed request segment events consul
  have usable : Run.Every step Usable {} events :=
    ⟨⟨by decide, by decide⟩, trivial, trivial, trivial, trivial, trivial, trivial, trivial⟩
  have spread : Spread 3 (draws "web" consul segment) := by
    intro block inside nonempty short
    have gaps : gaps (draws "web" consul segment) = replicate 2 2 := by
      decide
    rw [gaps] at inside
    rcases sublist_replicate_iff.mp inside.sublist with ⟨count, small, rfl⟩
    have positive : count ≠ 0 := fun none => nonempty (by rw [none]; rfl)
    have cases : count = 1 ∨ count = 2 := by omega
    rcases cases with rfl | rfl <;> decide
  refine ⟨usable, spread, ?_⟩
  have fair := (rotation_fair_and_current events usable).2
    [.answered "web" (some listed)] segment [] "web" listed (by simp [events]) (by decide)
    (by decide) (by simp [segment, request]) spread (by decide) 1
  exact fair _ (infix_refl _) (by decide)

/-- With two endpoints, both requests go to the second one. After an answer without
endpoints the old ones are still used, and a port above 65535 becomes another one. -/
theorem second_endpoint_always :
    let listed := [endpointOn 1 80, endpointOn 2 80]
    let request := [filtered webRequest, .sent webRequest]
    let consul := run {} [.answered "web" (some listed)]
    endpoints "web" consul (request ++ request) =
        [("10.0.0.2".toList, 80), ("10.0.0.2".toList, 80)] ∧
      endpoints "web" consul (.answered "web" (some []) :: request) =
        [("10.0.0.2".toList, 80)] ∧
      endpoints "web" {} (.answered "web" (some [endpointOn 1 73616]) :: request) =
        [("10.0.0.1".toList, 8080)] := by
  decide

end PertiskProxy.Proxy
