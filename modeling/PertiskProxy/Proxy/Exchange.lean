import PertiskProxy.Proxy.Response

/-! The callbacks of one request hand notes to each other in the request context: when the
request arrived, whether the metrics count it, whom to charge for an error response, and
under which key to cache the response. -/

namespace PertiskProxy.Proxy

open Edge FilterChain Gateway Http RequestCtx

/-- What the request filter notes for the response. -/
structure Bookkeeping where
  cacheCollect : Bool := false
  cacheKey : Option Text := none
  rateClient : Option Text := none
  rateHost : Option Text := none
deriving DecidableEq

/-- There is neither a prefix nor a header to apply. -/
def MiddlewareAction.unmarked (action : MiddlewareAction) : Bool :=
  action.stripPrefix.isNone && action.requestHeaders.isEmpty && action.responseHeaders.isEmpty

namespace RequestCtx

def bookkeeping (ctx : RequestCtx) : Bookkeeping where
  cacheCollect := ctx.cacheCollect
  cacheKey := ctx.cacheKey
  rateClient := ctx.rateClient
  rateHost := ctx.rateHost

structure Keeps (before after : RequestCtx) : Prop where
  policies : after.toMiddlewareAction = before.toMiddlewareAction
  started : after.logStarted = before.logStarted
  counted : after.metricsCounted = before.metricsCounted
  body : after.cacheBody = before.cacheBody

/-- Nothing is noted on arrival, as in a context made from a plan. -/
structure Forgets (ctx : RequestCtx) : Prop where
  started : ctx.logStarted = none
  counted : ctx.metricsCounted = false
  body : ctx.cacheBody = []

theorem Keeps.refl (ctx : RequestCtx) : Keeps ctx ctx :=
  ⟨rfl, rfl, rfl, rfl⟩

theorem Keeps.trans (before : Keeps first second) (behind : Keeps second third) :
    Keeps first third :=
  ⟨behind.policies.trans before.policies, behind.started.trans before.started,
    behind.counted.trans before.counted, behind.body.trans before.body⟩

theorem Forgets.keep (forgets : Forgets before) (keeps : Keeps before after) : Forgets after :=
  ⟨keeps.started.trans forgets.started, keeps.counted.trans forgets.counted,
    keeps.body.trans forgets.body⟩

theorem forgets_withPlan (ctx : RequestCtx) (plan : ForwardPlan) : Forgets (ctx.withPlan plan) :=
  ⟨rfl, rfl, rfl⟩

theorem Keeps.unmarked (keeps : Keeps before after) : after.unmarked = before.unmarked :=
  congrArg MiddlewareAction.unmarked keeps.policies

end RequestCtx

/-! ## The request filter -/

section

variable (gateway : Gateway) (session : Session)

def planned (moment : Moment) (state : FilterState) : Bool :=
  hasPlan moment.router.table (requestHost session.req) session.req.target
    (state.arrive moment).passage.world.consul

def Moment.action (moment : Moment) : MiddlewareAction :=
  requestAction moment.router.table (requestHost session.req) session.req.target

theorem resolve_ctx (moment : Moment) (state : FilterState) :
    (planned session moment state = false ∧ (resolve session moment state).2.ctx = state.ctx) ∨
    (planned session moment state = true ∧ ∃ plan, plan.middleware = moment.action session ∧
      (resolve session moment state).2.ctx = state.ctx.withPlan plan) := by
  rw [planned, ← resolveForward_isOk moment.probeTls]
  simp only [resolve]
  cases resolved : (resolveForward moment.probeTls moment.router.table (requestHost session.req)
    session.req.target (state.arrive moment).passage.world.consul).1 with
  | error error => exact .inl ⟨rfl, rfl⟩
  | ok plan => exact .inr ⟨rfl, plan, resolveForward_middleware resolved, rfl⟩

variable {gateway session}

open List

theorem frontStages_keep (member : stage ∈ gateway.frontStages session) (moment : Moment)
    (state : FilterState) : (stage moment state).2.ctx = state.ctx := by
  simp only [frontStages, mem_cons, not_mem_nil, or_false] at member
  rcases member with rfl | rfl | rfl | rfl | rfl <;> rfl

theorem routeStages_keep (member : stage ∈ gateway.routeStages session) (moment : Moment)
    (state : FilterState) : Keeps state.ctx (stage moment state).2.ctx ∧
      (stage moment state).2.ctx.toRequestClass = state.ctx.toRequestClass := by
  rcases routeStages_cases member with rfl | rfl | ⟨check, rfl⟩
  · exact ⟨⟨rfl, rfl, rfl, rfl⟩, rfl⟩
  · simp only [cache]
    split
    · split <;> exact ⟨⟨rfl, rfl, rfl, rfl⟩, rfl⟩
    · exact ⟨⟨rfl, rfl, rfl, rfl⟩, rfl⟩
  · exact ⟨⟨rfl, rfl, rfl, rfl⟩, rfl⟩

def arrivalState (session : Session) (started : Instant) (world : World) : FilterState where
  ctx := arrivalCtx session started
  passage := { world }

def Routed (gateway : Gateway) (session : Session) (moments : Nat → Moment)
    (start : FilterState) : Prop :=
  Verdict.first (frontVerdicts gateway session moments) = none ∧
    planned session (moments 5) (arriveFront moments start) = true

instance (gateway : Gateway) (session : Session) (moments : Nat → Moment)
    (start : FilterState) : Decidable (Routed gateway session moments start) :=
  inferInstanceAs (Decidable (_ ∧ _))

variable (moments : Nat → Moment) (start : FilterState)

theorem run_frontStages_ctx :
    (FilterChain.run moments (gateway.frontStages session) start).2.ctx = start.ctx := by
  apply run_preserves fun state : FilterState => state.ctx = start.ctx
  · intro stage member moment state same
    rw [frontStages_keep member, same]
  · rfl

theorem run_routeStages_ctx :
    start.ctx.Keeps (FilterChain.run moments (gateway.routeStages session) start).2.ctx := by
  apply run_preserves fun state : FilterState => start.ctx.Keeps state.ctx
  · intro stage member moment state kept
    exact kept.trans (routeStages_keep member moment state).1
  · exact .refl _

theorem run_stages_ctx :
    (¬Routed gateway session moments start ∧
      start.ctx.Keeps (FilterChain.run moments (gateway.stages session) start).2.ctx) ∨
    (Routed gateway session moments start ∧
      (FilterChain.run moments (gateway.stages session) start).2.ctx.Forgets ∧
      (FilterChain.run moments (gateway.stages session) start).2.ctx.toMiddlewareAction =
        (moments 5).action session) := by
  have front := @run_frontStages_ctx gateway session moments start
  have verdict := run_front_fst gateway session moments [] start
  rw [append_nil, run_nil, Option.or_none] at verdict
  unfold Routed
  rw [← verdict, stages]
  rcases ran : FilterChain.run moments (gateway.frontStages session) start with ⟨answer, middle⟩
  rw [ran] at front
  cases answer with
  | some answer =>
    left
    rw [run_append_eq_some.mpr (.inl ran)]
    exact ⟨by simp, front ▸ .refl middle.ctx⟩
  | none =>
    have reached : middle = arriveFront moments start := (reach_of_run ran).symm
    subst reached
    rw [run_append_of_none ran, run_cons_of_next (Prod.ext (resolve_fst session _ _) rfl)]
    rcases resolve_ctx session (moments 5) (arriveFront moments start) with
      ⟨absent, same⟩ | ⟨found, plan, middleware, replaced⟩
    · left
      refine ⟨by simp [absent], ?_⟩
      rw [← front, ← same]
      exact run_routeStages_ctx _ _
    right
    have made : Forgets
        (resolve session (moments 5) (arriveFront moments start)).2.ctx := by
      rw [replaced]
      exact forgets_withPlan _ plan
    have kept := @run_routeStages_ctx gateway session (fun index => moments (index + 5 + 1))
      (resolve session (moments 5) (arriveFront moments start)).2
    refine ⟨⟨rfl, found⟩, made.keep kept, kept.policies.trans ?_⟩
    rw [replaced]
    exact middleware

end

/-! ## Choosing a peer -/

section

variable {session : Session}

/-- Without a plan there is no peer, and the context stays. With one, a context
that has nothing to apply is replaced, and any other is kept. -/
theorem upstreamPeer_ctx (session : Session) (moment : Moment) (state : FilterState) :
    (planned session moment state = false ∧ (upstreamPeer session moment state).1.isOk = false ∧
      (upstreamPeer session moment state).2.ctx = state.ctx) ∨
    (planned session moment state = true ∧ (upstreamPeer session moment state).1.isOk = true ∧
      ∃ upstream, (state.ctx.unmarked = true ∧ ∃ plan, plan.middleware = moment.action session ∧
          (upstreamPeer session moment state).2.ctx =
            { state.ctx.withPlan plan with logUpstream := upstream }) ∨
        (state.ctx.unmarked = false ∧ (upstreamPeer session moment state).2.ctx =
          { state.ctx with logUpstream := upstream })) := by
  rw [planned, ← resolveForward_isOk moment.probeTls]
  simp only [upstreamPeer]
  cases resolved : (resolveForward moment.probeTls moment.router.table (requestHost session.req)
    session.req.target (state.arrive moment).passage.world.consul).1 with
  | error error => exact .inl ⟨rfl, rfl, rfl⟩
  | ok plan =>
    right
    have same : (state.arrive moment).ctx = state.ctx := rfl
    simp only [same]
    cases marked : state.ctx.unmarked with
    | true =>
      rw [MiddlewareAction.unmarked] at marked
      rw [if_pos marked]
      exact ⟨rfl, rfl, _, .inl ⟨rfl, plan, resolveForward_middleware resolved, rfl⟩⟩
    | false =>
      rw [MiddlewareAction.unmarked] at marked
      rw [if_neg (by rw [marked]; decide)]
      exact ⟨rfl, rfl, _, .inr ⟨rfl, rfl⟩⟩

/-- Ask for a peer, and once more after every failed connection that may be tried
again. True when the last peer asked for was given. -/
def connect (session : Session) : List Moment → FilterState → Bool × FilterState
  | [], state => (false, state)
  | moment :: rest, state =>
    match upstreamPeer session moment state with
    | (.error _, after) => (false, after)
    | (.ok _, after) => if rest.isEmpty then (true, after) else connect session rest after

theorem connect_cons_of_ctx {Holds : RequestCtx → Prop}
    (kept : ∀ moment state, Holds state.ctx → Holds (upstreamPeer session moment state).2.ctx)
    {moment : Moment} {state : FilterState}
    (first : Holds (upstreamPeer session moment state).2.ctx) (rest : List Moment) :
    Holds (connect session (moment :: rest) state).2.ctx := by
  induction rest generalizing moment state with
  | nil =>
    rcases result : upstreamPeer session moment state with ⟨peer, after⟩
    rw [result] at first
    rw [connect, result]
    cases peer <;> exact first
  | cons next rest induction =>
    rcases result : upstreamPeer session moment state with ⟨peer, after⟩
    rw [result] at first
    rw [connect, result]
    cases peer with
    | error error => exact first
    | ok peer => exact induction (kept next after first)

theorem connect_preserves {Holds : RequestCtx → Prop}
    (kept : ∀ moment state, Holds state.ctx → Holds (upstreamPeer session moment state).2.ctx)
    (attempts : List Moment) {state : FilterState} (start : Holds state.ctx) :
    Holds (connect session attempts state).2.ctx := by
  cases attempts with
  | nil => exact start
  | cons moment rest => exact connect_cons_of_ctx kept (kept moment state start) rest

/-- The policies after one more lookup: those there are, unless they are unmarked. -/
def MiddlewareAction.refresh (session : Session) (action : MiddlewareAction) (moment : Moment) :
    MiddlewareAction :=
  if action.unmarked then moment.action session else action

theorem connect_policies (given : (connect session attempts state).1 = true) :
    (connect session attempts state).2.ctx.toMiddlewareAction =
      attempts.foldl (MiddlewareAction.refresh session) state.ctx.toMiddlewareAction := by
  induction attempts generalizing state with
  | nil => rfl
  | cons moment rest induction =>
    have asked : (upstreamPeer session moment state).1.isOk = true →
        (upstreamPeer session moment state).2.ctx.toMiddlewareAction =
          state.ctx.toMiddlewareAction.refresh session moment := by
      intro answered
      rcases upstreamPeer_ctx session moment state with
        ⟨-, failed, -⟩ | ⟨-, -, _, ⟨marked, plan, middleware, replaced⟩ | ⟨marked, kept⟩⟩
      · rw [failed] at answered
        cases answered
      · rw [replaced, MiddlewareAction.refresh, marked]
        exact middleware
      · rw [kept, MiddlewareAction.refresh, marked]
        rfl
    rw [connect] at given ⊢
    rcases result : upstreamPeer session moment state with ⟨peer, after⟩
    rw [result] at given asked
    cases peer with
    | error error => cases given
    | ok peer =>
      rw [List.foldl_cons, ← asked rfl]
      cases rest with
      | nil => rfl
      | cons next rest => exact induction given

theorem upstreamPeer_forgets (moment : Moment) (state : FilterState)
    (forgets : state.ctx.Forgets) : (upstreamPeer session moment state).2.ctx.Forgets := by
  rcases upstreamPeer_ctx session moment state with
    ⟨-, -, same⟩ | ⟨-, -, upstream, ⟨-, plan, -, replaced⟩ | ⟨-, kept⟩⟩
  · rw [same]
    exact forgets
  · rw [replaced]
    exact ⟨rfl, rfl, rfl⟩
  · rw [kept]
    exact ⟨forgets.started, forgets.counted, forgets.body⟩

theorem connect_of_unplanned (absent : planned session moment state = false)
    (rest : List Moment) : (connect session (moment :: rest) state).1 = false ∧
      (connect session (moment :: rest) state).2.ctx = state.ctx := by
  rcases upstreamPeer_ctx session moment state with ⟨-, failed, same⟩ | ⟨found, -⟩
  · rw [connect]
    rcases result : upstreamPeer session moment state with ⟨peer, after⟩
    rw [result] at failed same
    cases peer with
    | error error => exact ⟨rfl, same⟩
    | ok peer => cases failed
  · rw [absent] at found
    cases found

/-- A plan for a request with nothing to apply replaces what was noted on arrival. -/
theorem connect_of_unmarked {moment : Moment} {state : FilterState}
    (found : planned session moment state = true) (unmarked : state.ctx.unmarked = true)
    (rest : List Moment) : (connect session (moment :: rest) state).2.ctx.Forgets := by
  apply connect_cons_of_ctx upstreamPeer_forgets
  rcases upstreamPeer_ctx session moment state with
    ⟨absent, -⟩ | ⟨-, -, upstream, ⟨-, plan, -, replaced⟩ | ⟨marked, -⟩⟩
  · rw [absent] at found
    cases found
  · rw [replaced]
    exact ⟨rfl, rfl, rfl⟩
  · rw [marked] at unmarked
    cases unmarked

end

/-! ## The body of a response -/

structure Chunk where
  moment : Moment
  eviction : Eviction := .first
  data : Option Bytes
  endOfStream : Bool

namespace Chunk

def bytes (chunk : Chunk) : Bytes :=
  chunk.data.getD []

def filter (state : FilterState) (chunk : Chunk) : FilterState :=
  responseBodyFilter chunk.eviction chunk.moment chunk.data chunk.endOfStream state

def filterAll (chunks : List Chunk) (state : FilterState) : FilterState :=
  chunks.foldl filter state

end Chunk

/-! ## What the response filters leave alone -/

theorem RequestCtx.noteStream_notes (ctx : RequestCtx) (response : ResponseHeader) :
    (ctx.noteStream response).bookkeeping = ctx.bookkeeping ∧
      ctx.Keeps (ctx.noteStream response) := by
  unfold noteStream
  split <;> exact ⟨rfl, ⟨rfl, rfl, rfl, rfl⟩⟩

theorem RequestCtx.noteResponse_notes (ctx : RequestCtx) (response : ResponseHeader) :
    (noteResponse response ctx).cacheKey = ctx.cacheKey ∧
      ctx.Keeps (noteResponse response ctx) := by
  simp only [noteResponse]
  split
  · split <;> exact ⟨rfl, ⟨rfl, rfl, rfl, rfl⟩⟩
  · exact ⟨rfl, ⟨rfl, rfl, rfl, rfl⟩⟩

structure RequestCtx.KeepsButBody (before after : RequestCtx) : Prop where
  key : after.cacheKey = before.cacheKey
  policies : after.toMiddlewareAction = before.toMiddlewareAction
  started : after.logStarted = before.logStarted
  counted : after.metricsCounted = before.metricsCounted

theorem collectBody_notes (data : Option Bytes) (ctx : RequestCtx) :
    ctx.KeepsButBody (collectBody data ctx) := by
  unfold collectBody
  split
  · split <;> exact ⟨rfl, rfl, rfl, rfl⟩
  · exact ⟨rfl, rfl, rfl, rfl⟩

open Chunk

theorem Chunk.filter_notes (chunk : Chunk) (state : FilterState) :
    state.ctx.KeepsButBody (chunk.filter state).ctx := by
  have collected := collectBody_notes chunk.data state.ctx
  simp only [filter, responseBodyFilter]
  split
  · split
    · split
      · exact ⟨collected.key, collected.policies, collected.started, collected.counted⟩
      · exact collected
    · exact collected
  · exact ⟨rfl, rfl, rfl, rfl⟩

theorem Chunk.filterAll_notes (chunks : List Chunk) (state : FilterState) :
    (filterAll chunks state).ctx.cacheKey = state.ctx.cacheKey ∧
      (filterAll chunks state).ctx.logStarted = state.ctx.logStarted := by
  induction chunks generalizing state with
  | nil => exact ⟨rfl, rfl⟩
  | cons chunk chunks induction =>
    have first := chunk.filter_notes state
    have rest := induction (chunk.filter state)
    exact ⟨rest.1.trans first.key, rest.2.trans first.started⟩

/-! ## Collecting a response -/

def cachedResponse (header : ResponseHeader) (body : Bytes) : CachedResponse where
  status := header.status
  headers := [("content-type".toList,
      (header.headers.getStr "content-type").getD "application/octet-stream"),
    ("content-length".toList, Text.ofNat body.length)]
  body

structure Collecting (header : ResponseHeader) (key : Text) (body : Bytes) (ctx : RequestCtx) :
    Prop where
  collect : ctx.cacheCollect = true
  key : ctx.cacheKey = some key
  response : collected ctx = cachedResponse header body

theorem Collecting.body {header : ResponseHeader} {key : Text} {body : Bytes} {ctx : RequestCtx}
    (collecting : Collecting header key body ctx) : ctx.cacheBody = body :=
  congrArg CachedResponse.body collecting.response

theorem Collecting.collectBody {header : ResponseHeader} {key : Text} {body : Bytes}
    {ctx : RequestCtx} (collecting : Collecting header key body ctx) (data : Option Bytes)
    (short : (body ++ data.getD []).length ≤ maxEntryBytes) :
    Collecting header key (body ++ data.getD []) (collectBody data ctx) := by
  have held := collecting.body
  cases data with
  | none => simpa [Gateway.collectBody] using collecting
  | some bytes =>
    rw [Option.getD_some, List.length_append] at short
    have fits : ctx.cacheBody.length + bytes.length ≤ maxEntryBytes := by
      rw [held]
      exact short
    simp only [Gateway.collectBody, if_pos fits]
    refine ⟨collecting.collect, collecting.key, ?_⟩
    have response := collecting.response
    simp only [collected, cachedResponse, CachedResponse.mk.injEq, List.cons.injEq,
      Prod.mk.injEq, true_and, and_true] at response ⊢
    simp only [Option.getD_some, held, response.1, response.2.1, and_self]

theorem Collecting.filter {header : ResponseHeader} {key : Text} {body : Bytes} {chunk : Chunk}
    {state : FilterState} (collecting : Collecting header key body state.ctx)
    (more : chunk.endOfStream = false) (short : (body ++ chunk.bytes).length ≤ maxEntryBytes) :
    Collecting header key (body ++ chunk.bytes) (chunk.filter state).ctx := by
  have step := collecting.collectBody chunk.data short
  have ctx : (state.arrive chunk.moment).ctx = state.ctx := rfl
  simp only [Chunk.filter, responseBodyFilter, ctx, collecting.collect, more,
    Bool.false_and, Bool.false_eq_true, if_true, if_false]
  exact step

theorem Collecting.filterAll {header : ResponseHeader} {key : Text} {body : Bytes}
    {chunks : List Chunk} {state : FilterState}
    (collecting : Collecting header key body state.ctx)
    (more : ∀ chunk ∈ chunks, chunk.endOfStream = false)
    (short : (body ++ chunks.flatMap bytes).length ≤ maxEntryBytes) :
    Collecting header key (body ++ chunks.flatMap bytes)
      (filterAll chunks state).ctx := by
  induction chunks generalizing body state with
  | nil => simpa [Chunk.filterAll] using collecting
  | cons chunk chunks induction =>
    rw [List.flatMap_cons, ← List.append_assoc] at short ⊢
    have first : (body ++ chunk.bytes).length ≤ maxEntryBytes := by
      rw [List.length_append] at short
      omega
    exact induction (collecting.filter (more chunk List.mem_cons_self) first)
      (fun later member => more later (List.mem_cons_of_mem _ member)) short

theorem Collecting.store {header : ResponseHeader} {key : Text} {body : Bytes} {chunk : Chunk}
    {state : FilterState} (collecting : Collecting header key body state.ctx)
    (last : chunk.endOfStream = true)
    (fits : fitsCache key (cachedResponse header (body ++ chunk.bytes))
      (cacheTtl chunk.moment.router.table.globals)
      (cacheMaxBytes chunk.moment.router.table.globals) = true) :
    ((chunk.filter state).passage.world.cache.entries.get? key).map CacheEntry.response =
      some (cachedResponse header (body ++ chunk.bytes)) := by
  have short : (body ++ chunk.bytes).length ≤ maxEntryBytes := body_le_of_fitsCache fits
  have whole := collecting.collectBody chunk.data short
  have ctx : (state.arrive chunk.moment).ctx = state.ctx := rfl
  simp only [Chunk.filter, responseBodyFilter, ctx, collecting.collect, last,
    whole.collect, Bool.and_self, if_true, whole.key, whole.response]
  rw [← bytes, get?_cachePut fits]
  rfl

end PertiskProxy.Proxy

/-! All callbacks of one request, from its arrival to the log. -/

namespace PertiskProxy.Proxy

open Edge FilterChain Http Router

structure Reply where
  moment : Moment
  header : ResponseHeader
  chunks : List Chunk := []

/-- Everything the callbacks of one request depend on. A peer is asked for at each
of the `attempts`; without a `reply` the request ends before the upstream answers. -/
structure Course where
  gateway : Gateway
  session : Session
  started : Instant
  world : World := {}
  moments : Nat → Moment
  attempts : List Moment := []
  reply : Option Reply := none
  finished : Instant

namespace Course

variable (course : Course)

def start : FilterState :=
  arrivalState course.session course.started course.world

def filtered : Outcome × FilterState :=
  let (outcome, state) := FilterChain.run course.moments
    (course.gateway.stages course.session) course.start
  (outcome.getD .forward, state)

def connected : Bool × FilterState :=
  connect course.session course.attempts course.filtered.2

def received (reply : Reply) : ResponseHeader × FilterState :=
  let state := course.connected.2
  let (header, ctx) :=
    course.gateway.upstreamResponseFilter course.session reply.header state.ctx
  (header, { state with ctx })

def delivered (reply : Reply) : ResponseHeader × FilterState :=
  Gateway.responseFilter course.session reply.moment (course.received reply).1
    (course.received reply).2

def logged : FilterState :=
  match course.reply with
  | none => course.connected.2
  | some reply => Chunk.filterAll reply.chunks (course.delivered reply).2

end Course

/-- A course as Pingora runs it: a peer is asked for only if the request filter lets
the request through, and only a peer answers. -/
structure Exchange extends Course where
  asked : attempts ≠ [] → toCourse.filtered.1 = .forward
  answered : reply.isSome = true → toCourse.connected.1 = true

namespace Course

variable (course : Course)

def Stored : Prop :=
  ∀ reply opening final key, course.reply = some reply →
    course.filtered.2.ctx.cacheCollect = true → course.filtered.2.ctx.cacheKey = some key →
    Gateway.isCacheable (course.delivered reply).1 = true →
    reply.chunks = opening ++ [final] → (∀ chunk ∈ opening, chunk.endOfStream = false) →
    final.endOfStream = true →
    fitsCache key
      (cachedResponse (course.delivered reply).1 (reply.chunks.flatMap Chunk.bytes))
      (Gateway.cacheTtl final.moment.router.table.globals)
      (Gateway.cacheMaxBytes final.moment.router.table.globals) = true →
    (course.logged.passage.world.cache.entries.get? key).map CacheEntry.response =
      some (cachedResponse (course.delivered reply).1 (reply.chunks.flatMap Chunk.bytes))

def Counted : Prop :=
  ∀ reply, course.reply = some reply → 0 < course.filtered.2.ctx.edge.x4xxLimitRps →
    400 ≤ reply.header.status → reply.header.status < 500 →
    (course.delivered reply).2.passage.world.windows =
      note4xx reply.moment.clock.unixSecs (Gateway.edgeClient course.session)
        (requestHost course.session.req)
        (((course.received reply).2.arrive reply.moment).passage.world.windows)

/-- Every note is what it was when it is read, and has its effect. -/
structure Kept : Prop where
  response : ∀ reply, course.reply = some reply →
    (course.received reply).2.ctx.bookkeeping = course.filtered.2.ctx.bookkeeping
  body : ∀ reply, course.reply = some reply → ∀ chunks, chunks <+: reply.chunks →
    (Chunk.filterAll chunks (course.delivered reply).2).ctx.cacheKey =
      course.filtered.2.ctx.cacheKey
  logging : course.logged.ctx.logStarted = some course.started
  stored : course.Stored
  counted : course.Counted
  timed : Gateway.durationMs course.finished course.logged.ctx =
    Gateway.elapsedMillis course.finished course.started

structure Unrouted : Prop where
  filter : ¬Routed course.gateway course.session course.moments course.start
  peer : ∀ moment, course.attempts.head? = some moment →
    planned course.session moment course.filtered.2 = false

end Course

namespace Course

variable {course : Course}

theorem received_notes (reply : Reply) :
    (course.received reply).2.ctx.bookkeeping = course.connected.2.ctx.bookkeeping ∧
      course.connected.2.ctx.Keeps (course.received reply).2.ctx :=
  RequestCtx.noteStream_notes _ _

open Bookkeeping

theorem delivered_notes (reply : Reply) :
    (course.delivered reply).2.ctx.cacheKey = course.connected.2.ctx.cacheKey ∧
      course.connected.2.ctx.Keeps (course.delivered reply).2.ctx := by
  have received := course.received_notes reply
  have streamed := (course.received reply).2.ctx.noteStream_notes (course.received reply).1
  have noted := ((course.received reply).2.ctx.noteStream
    (course.received reply).1).noteResponse_notes (course.delivered reply).1
  refine ⟨?_, received.2.trans (streamed.2.trans noted.2)⟩
  have key := congrArg cacheKey (streamed.1.trans received.1)
  exact noted.1.trans key

theorem logged_started : course.logged.ctx.logStarted = course.connected.2.ctx.logStarted := by
  unfold logged
  split
  · rfl
  · next reply _ =>
    rw [(Chunk.filterAll_notes _ _).2]
    exact (delivered_notes reply).2.started

theorem filtered_ctx : (¬Routed course.gateway course.session course.moments course.start ∧
      course.start.ctx.Keeps course.filtered.2.ctx) ∨
    (Routed course.gateway course.session course.moments course.start ∧
      course.filtered.2.ctx.Forgets ∧ course.filtered.2.ctx.toMiddlewareAction =
        (course.moments 5).action course.session) :=
  run_stages_ctx course.moments course.start

/-- What a plan, the note of the upstream and the stages of a route keep holds when a peer
has been chosen. -/
theorem connected_preserves {Holds : RequestCtx → Prop} (arrived : Holds course.start.ctx)
    (plans : ∀ ctx plan, Holds ctx → Holds (ctx.withPlan plan))
    (notes : ∀ ctx upstream, Holds ctx → Holds { ctx with logUpstream := upstream })
    (later : ∀ stage ∈ course.gateway.routeStages course.session, ∀ moment state,
      Holds state.ctx → Holds (stage moment state).2.ctx) : Holds course.connected.2.ctx := by
  have filtered : Holds (FilterChain.run course.moments (course.gateway.stages course.session)
      course.start).2.ctx := by
    apply run_preserves fun state : FilterState => Holds state.ctx
    · intro stage member moment state holds
      rw [Gateway.stages, List.mem_append, List.mem_cons] at member
      rcases member with front | rfl | behind
      · rwa [frontStages_keep front]
      · rcases resolve_ctx course.session moment state with ⟨-, same⟩ | ⟨-, plan, -, replaced⟩
        · rwa [same]
        · rw [replaced]
          exact plans _ plan holds
      · exact later stage behind moment state holds
    · exact arrived
  refine connect_preserves (fun moment state holds => ?_) course.attempts filtered
  rcases upstreamPeer_ctx course.session moment state with
    ⟨-, -, same⟩ | ⟨-, -, upstream, ⟨-, plan, -, replaced⟩ | ⟨-, kept⟩⟩
  · rwa [same]
  · rw [replaced]
    exact notes _ upstream (plans _ plan holds)
  · rw [kept]
    exact notes _ upstream holds

theorem connected_body : course.connected.2.ctx.cacheBody = [] := by
  apply @connected_preserves course fun ctx => ctx.cacheBody = []
  · rfl
  · intro _ _ _
    rfl
  · exact fun _ _ empty => empty
  · intro stage member moment state empty
    exact (routeStages_keep member moment state).1.body.trans empty

theorem connected_class : course.connected.2.ctx.toRequestClass =
    (earlyRequestFilter course.session).toRequestClass := by
  apply @connected_preserves course fun ctx => ctx.toRequestClass =
    (earlyRequestFilter course.session).toRequestClass
  · rfl
  · exact fun _ _ same => same
  · exact fun _ _ same => same
  · intro stage member moment state same
    exact (routeStages_keep member moment state).2.trans same

/-- The policies in force when the upstream answers, by the tables in which the route was
looked up. -/
def policies (course : Course) : MiddlewareAction :=
  course.attempts.foldl (MiddlewareAction.refresh course.session)
    (if Routed course.gateway course.session course.moments course.start then
      (course.moments 5).action course.session
    else { forwardClientIp := false })

theorem connected_policies (given : course.connected.1 = true) :
    course.connected.2.ctx.toMiddlewareAction = course.policies := by
  refine (connect_policies given).trans (congrArg (course.attempts.foldl _) ?_)
  rcases @filtered_ctx course with ⟨unrouted, keeps⟩ | ⟨routed, -, found⟩
  · rw [if_neg unrouted]
    exact keeps.policies
  · rw [if_pos routed]
    exact found

/-- What the gateway leaves under a name. -/
def fate (course : Course) (reply : Reply) : Text → Option (List Bytes) :=
  course.gateway.fate course.session (earlyRequestFilter course.session).toRequestClass
    course.policies.responseHeaders reply.header

theorem values_delivered (given : course.connected.1 = true) (reply : Reply) (name : Text) :
    (course.delivered reply).1.headers.values name =
      (course.fate reply name).getD (reply.header.headers.values name) := by
  rw [fate, ← connected_class, ← connected_policies given]
  exact values_responseFilter course.gateway course.session reply.header name reply.moment
    course.connected.2

theorem delivered_collecting {reply : Reply} {key : Text}
    (collect : (course.received reply).2.ctx.cacheCollect = true)
    (keyed : (course.received reply).2.ctx.cacheKey = some key)
    (cacheable : Gateway.isCacheable (course.delivered reply).1 = true) :
    Collecting (course.delivered reply).1 key [] (course.delivered reply).2.ctx := by
  have body : (course.received reply).2.ctx.cacheBody = [] :=
    (received_notes reply).2.body.trans connected_body
  generalize noted : (course.received reply).2.ctx.noteStream (course.received reply).1 = ctx
  have streamed := (course.received reply).2.ctx.noteStream_notes (course.received reply).1
  rw [noted] at streamed
  have ctxCollect : ctx.cacheCollect = true :=
    (congrArg cacheCollect streamed.1).trans collect
  have ctxKey : ctx.cacheKey = some key :=
    (congrArg cacheKey streamed.1).trans keyed
  have ctxBody : ctx.cacheBody = [] := streamed.2.body.trans body
  have final : (course.delivered reply).2.ctx =
      Gateway.noteResponse (course.delivered reply).1 ctx := by
    rw [← noted]
    rfl
  rw [final]
  simp only [Gateway.noteResponse, ctxCollect, cacheable, if_true]
  refine ⟨rfl, ctxKey, ?_⟩
  simp [Gateway.collected, cachedResponse, ctxBody]

theorem stored_of_response (response : ∀ reply, course.reply = some reply →
      (course.received reply).2.ctx.bookkeeping = course.filtered.2.ctx.bookkeeping) :
    course.Stored := by
  intro reply opening final key replied collect keyed cacheable split more last fits
  have same := response reply replied
  have collecting := delivered_collecting ((congrArg cacheCollect same).trans collect)
    ((congrArg cacheKey same).trans keyed) cacheable
  have bytes : reply.chunks.flatMap Chunk.bytes = opening.flatMap Chunk.bytes ++ final.bytes := by
    rw [split, List.flatMap_append, List.flatMap_singleton]
  rw [bytes] at fits ⊢
  have whole : (opening.flatMap Chunk.bytes ++ final.bytes).length ≤ maxEntryBytes :=
    body_le_of_fitsCache fits
  have short : ([] ++ opening.flatMap Chunk.bytes).length ≤ maxEntryBytes := by
    rw [List.length_append] at whole
    rw [List.nil_append]
    omega
  have ended : course.logged = final.filter
      (Chunk.filterAll opening (course.delivered reply).2) := by
    simp [logged, replied, split, Chunk.filterAll]
  rw [ended]
  exact (collecting.filterAll more short).store last fits

end Course

namespace Exchange

variable (exchange : Exchange)

theorem started_of_routed
    (routed : Routed exchange.gateway exchange.session exchange.moments exchange.start) :
    exchange.connected.2.ctx.logStarted = none := by
  have forgets : exchange.filtered.2.ctx.Forgets := by
    rcases @Course.filtered_ctx exchange.toCourse with ⟨unrouted, -⟩ | ⟨-, forgets, -⟩
    · exact absurd routed unrouted
    · exact forgets
  exact (connect_preserves upstreamPeer_forgets exchange.attempts forgets).started

theorem filtered_of_unrouted
    (unrouted : ¬Routed exchange.gateway exchange.session exchange.moments exchange.start) :
    exchange.start.ctx.Keeps exchange.filtered.2.ctx := by
  rcases @Course.filtered_ctx exchange.toCourse with ⟨-, keeps⟩ | ⟨routed, -⟩
  · exact keeps
  · exact absurd routed unrouted

theorem connected_of_unrouted (unrouted : exchange.Unrouted) :
    exchange.connected.1 = false ∧ exchange.connected.2.ctx = exchange.filtered.2.ctx := by
  unfold Course.connected
  cases attempted : exchange.attempts with
  | nil => exact ⟨rfl, rfl⟩
  | cons moment rest =>
    exact connect_of_unplanned (unrouted.peer moment (by rw [attempted, List.head?_cons])) rest

/-- All notes are kept exactly for the requests that have no route. -/
theorem bookkeeping_kept_iff : exchange.Kept ↔ exchange.Unrouted := by
  constructor
  · intro kept
    have started : exchange.connected.2.ctx.logStarted = some exchange.started := by
      rw [← Course.logged_started]
      exact kept.logging
    have unrouted : ¬Routed exchange.gateway exchange.session exchange.moments
        exchange.start := by
      intro routed
      rw [exchange.started_of_routed routed] at started
      cases started
    refine ⟨unrouted, ?_⟩
    intro moment first
    rcases List.head?_eq_some_iff.mp first with ⟨rest, attempted⟩
    rw [← Bool.not_eq_true]
    intro found
    have unmarked : exchange.filtered.2.ctx.unmarked = true :=
      (exchange.filtered_of_unrouted unrouted).unmarked
    have forgets := connect_of_unmarked found unmarked rest
    rw [Course.connected, attempted, forgets.started] at started
    cases started
  intro unrouted
  have connected := exchange.connected_of_unrouted unrouted
  have silent : exchange.reply = none := by
    rw [← Option.not_isSome_iff_eq_none]
    intro replied
    rw [exchange.answered replied] at connected
    cases connected.1
  have started : exchange.logged.ctx.logStarted = some exchange.started := by
    rw [Course.logged_started, connected.2]
    exact (exchange.filtered_of_unrouted unrouted.filter).started
  have noReply : ∀ reply, exchange.reply ≠ some reply := by
    simp [silent]
  exact
    { response := fun reply replied => absurd replied (noReply reply)
      body := fun reply replied => absurd replied (noReply reply)
      logging := started
      stored := Course.stored_of_response fun reply replied => absurd replied (noReply reply)
      counted := fun reply replied => absurd replied (noReply reply)
      timed := by rw [Gateway.durationMs, started] }

end Exchange

/-! A route that limits error responses, on a proxy with a cache. Its upstream
answers 404 after five milliseconds. -/

def limitedTable : RouteTable :=
  (RouteTable.fromRoutes (HashMap.empty.insert "a.example"
    [{ path := "/", pathType := .lead,
       backend := { address := "10.0.0.1:80", port := 80, useTls := false } }])).insertEdge
    "a.example" "/" { x4xxLimitRps := 5 }

def limitedMoment : Moment :=
  Moment.ofTable { limitedTable with globals := { cacheSizeMb := 1 } }

def notFoundCourse : Course where
  gateway := { process := default, autoHttps := false, httpsPort := 443 }
  session :=
    { req := { method := "GET", uri := { pathAndQuery := "/" },
               headers := [("host", Text.asBytes "a.example")] }
      clientAddr := some (.inet (.v4 ⟨203, 0, 113, 7⟩)) }
  started := 0
  moments := fun _ => limitedMoment
  attempts := [limitedMoment]
  reply := some { moment := limitedMoment, header := { status := 404 } }
  finished := 5000000

def notFoundExchange : Exchange where
  toCourse := notFoundCourse
  asked := fun _ => by decide
  answered := fun _ => by decide

/-- The client is not charged for the error, the response would not be cached, and
the log says that the request took no time. -/
theorem routed_request_forgotten : ∃ exchange : Exchange, exchange.filtered.2.ctx.bookkeeping =
        { cacheCollect := true, cacheKey := some "GET a.example/"
          rateClient := some "203.0.113.7", rateHost := some "a.example" } ∧
      (∀ reply, exchange.reply = some reply → reply.header.status = 404 ∧
        (exchange.received reply).2.ctx.bookkeeping = {} ∧
        (exchange.delivered reply).2.passage.world.windows.entries = []) ∧
      Gateway.elapsedMillis exchange.finished exchange.started = 5 ∧
      Gateway.durationMs exchange.finished exchange.logged.ctx = 0 ∧
      ¬exchange.Kept := by
  have forgotten : notFoundExchange.logged.ctx.logStarted = none := by decide
  refine ⟨notFoundExchange, by decide, ?_, by decide, by decide, ?_⟩
  · intro reply replied
    cases replied
    exact ⟨rfl, by decide, by decide⟩
  · intro kept
    have started := kept.logging
    cases started

/-! The gauge of active connections under any number of requests, whose callbacks are
interleaved in any order. -/

open Router List UInt64

inductive Progress where
  | arrived
  | filtered
  | connected
  | responding
  | ended
deriving DecidableEq

/-- A request that has arrived and has not been logged. The program does not keep
whether a plan was ever found for it. -/
structure OpenRequest where
  session : Session
  progress : Progress := .arrived
  state : FilterState
  hadPlan : Bool := false

inductive Callback where
  | requestFilter (moments : Nat → Moment)
  | upstreamPeer (moment : Moment)
  | response (moment : Moment) (header : ResponseHeader)
  | responseBody (chunk : Chunk)
  | failToProxy

namespace OpenRequest

section

variable (gateway : Gateway) (request : OpenRequest)

def requestFilter (moments : Nat → Moment) : OpenRequest :=
  let (outcome, state) := FilterChain.run moments (gateway.stages request.session) request.state
  { request with
    state
    progress := if outcome.getD .forward = .forward then .filtered else .ended
    hadPlan := request.hadPlan ||
      decide (Routed gateway request.session moments request.state) }

def upstreamPeer (moment : Moment) : OpenRequest :=
  let (peer, state) := Proxy.upstreamPeer request.session moment request.state
  { request with
    state
    progress := if peer.isOk then .connected else .ended
    hadPlan := request.hadPlan || planned request.session moment request.state }

def response (moment : Moment) (header : ResponseHeader) : OpenRequest :=
  let (header, ctx) :=
    gateway.upstreamResponseFilter request.session header request.state.ctx
  let (_, state) :=
    Gateway.responseFilter request.session moment header { request.state with ctx }
  { request with state, progress := .responding }

/-- A callback runs when it is its turn. A peer is asked for again when a connection
fails, and a request may fail at any time. -/
def advance : Callback → OpenRequest
  | .requestFilter moments =>
    if request.progress = .arrived then request.requestFilter gateway moments else request
  | .upstreamPeer moment =>
    if request.progress = .filtered ∨ request.progress = .connected then
      request.upstreamPeer moment
    else request
  | .response moment header =>
    if request.progress = .connected then request.response gateway moment header else request
  | .responseBody chunk =>
    if request.progress = .responding then { request with state := chunk.filter request.state }
    else request
  | .failToProxy => { request with progress := .ended }

end

end OpenRequest

structure Traffic where
  activeConnections : UInt64 := 0
  requests : List OpenRequest := []

inductive Traffic.Event where
  | earlyRequestFilter (session : Session) (now : Instant) (world : World)
  | callback (index : Nat) (callback : Callback)
  | logging (index : Nat)

namespace Traffic

def logging (traffic : Traffic) (index : Nat) : Traffic :=
  match traffic.requests[index]? with
  | none => traffic
  | some request =>
    { activeConnections :=
        if request.state.ctx.metricsCounted then traffic.activeConnections - 1
        else traffic.activeConnections
      requests := traffic.requests.eraseIdx index }

def step (gateway : Gateway) (traffic : Traffic) : Event → Traffic
  | .earlyRequestFilter session now world =>
    { activeConnections := traffic.activeConnections + 1
      requests := { session, state := arrivalState session now world } :: traffic.requests }
  | .callback index callback =>
    { traffic with
      requests := traffic.requests.modify index fun request =>
        request.advance gateway callback }
  | .logging index => traffic.logging index

/-- The gauge is the number of requests between arrival and log. -/
def Accurate (traffic : Traffic) : Prop :=
  traffic.activeConnections = UInt64.ofNat traffic.requests.length

/-- No request is logged for which there ever was a plan. -/
def LogsUnplanned (traffic : Traffic) : Event → Prop
  | .logging index => ∀ request, traffic.requests[index]? = some request →
      request.hadPlan = false
  | .earlyRequestFilter _ _ _ | .callback _ _ => True

end Traffic

namespace OpenRequest

/-- The note that the request is counted is there until a plan is found; until then
there is nothing to apply either. -/
structure Noted (request : OpenRequest) : Prop where
  counted : request.state.ctx.metricsCounted = !request.hadPlan
  unmarked : request.hadPlan = false → request.state.ctx.unmarked = true

variable {gateway : Gateway} {request : OpenRequest}

theorem Noted.of_forgets (forgets : request.state.ctx.Forgets) (found : request.hadPlan = true) :
    request.Noted :=
  ⟨by rw [forgets.counted, found, Bool.not_true], by simp [found]⟩

theorem Noted.keep {before after : OpenRequest} (noted : before.Noted)
    (same : after.hadPlan = before.hadPlan)
    (counted : after.state.ctx.metricsCounted = before.state.ctx.metricsCounted)
    (policies : after.state.ctx.toMiddlewareAction = before.state.ctx.toMiddlewareAction) :
    after.Noted := by
  refine ⟨by rw [counted, same, noted.counted], ?_⟩
  intro unplanned
  rw [policies]
  exact noted.unmarked (same ▸ unplanned)

section

variable (noted : request.Noted)

include noted

theorem Noted.requestFilter (moments : Nat → Moment) :
    (request.requestFilter gateway moments).Noted := by
  rcases @run_stages_ctx gateway request.session moments request.state with
    ⟨unrouted, keeps⟩ | ⟨routed, forgets, -⟩
  · apply noted.keep _ keeps.counted keeps.policies
    simp [OpenRequest.requestFilter, unrouted]
  · apply Noted.of_forgets forgets
    simp [OpenRequest.requestFilter, routed]

theorem Noted.upstreamPeer (moment : Moment) : (request.upstreamPeer moment).Noted := by
  rcases upstreamPeer_ctx request.session moment request.state with
    ⟨absent, -, same⟩ | ⟨found, -, upstream, ⟨-, plan, -, replaced⟩ | ⟨marked, kept⟩⟩
  · have ctx : (request.upstreamPeer moment).state.ctx = request.state.ctx := same
    apply noted.keep
    · simp [OpenRequest.upstreamPeer, absent]
    · rw [ctx]
    · rw [ctx]
  · have ctx : (request.upstreamPeer moment).state.ctx =
        { request.state.ctx.withPlan plan with logUpstream := upstream } := replaced
    apply Noted.of_forgets
    · rw [ctx]
      exact ⟨rfl, rfl, rfl⟩
    · simp [OpenRequest.upstreamPeer, found]
  -- Only a plan leaves something to apply, so the note is gone already.
  have ctx : (request.upstreamPeer moment).state.ctx =
      { request.state.ctx with logUpstream := upstream } := kept
  have earlier : request.hadPlan = true := by
    rw [← Bool.not_eq_false]
    intro unplanned
    rw [noted.unmarked unplanned] at marked
    cases marked
  apply noted.keep
  · simp [OpenRequest.upstreamPeer, earlier]
  · rw [ctx]
  · rw [ctx]

theorem Noted.response (moment : Moment) (header : ResponseHeader) :
    (request.response gateway moment header).Noted := by
  have keeps : request.state.ctx.Keeps (request.response gateway moment header).state.ctx :=
    (RequestCtx.noteStream_notes _ _).2.trans
      ((RequestCtx.noteStream_notes _ _).2.trans (RequestCtx.noteResponse_notes _ _).2)
  exact noted.keep rfl keeps.counted keeps.policies

theorem Noted.advance (callback : Callback) : (request.advance gateway callback).Noted := by
  cases callback with
  | requestFilter moments =>
    simp only [OpenRequest.advance]
    split
    · exact noted.requestFilter moments
    · exact noted
  | upstreamPeer moment =>
    simp only [OpenRequest.advance]
    split
    · exact noted.upstreamPeer moment
    · exact noted
  | response moment header =>
    simp only [OpenRequest.advance]
    split
    · exact noted.response moment header
    · exact noted
  | responseBody chunk =>
    simp only [OpenRequest.advance]
    split
    · have kept := chunk.filter_notes request.state
      exact noted.keep rfl kept.counted kept.policies
    · exact noted
  | failToProxy => exact noted.keep rfl rfl rfl

end

end OpenRequest

namespace Traffic

structure Sound (traffic : Traffic) : Prop where
  accurate : traffic.Accurate
  noted : ∀ request ∈ traffic.requests, request.Noted

variable {gateway : Gateway} {traffic : Traffic}

theorem ofNat_succ (count : Nat) : ofNat (count + 1) = ofNat count + 1 :=
  ofNat_add count 1

section

variable (sound : traffic.Sound)

include sound

theorem Sound.earlyRequestFilter (session : Session) (now : Instant)
    (world : World) : (traffic.step gateway (.earlyRequestFilter session now world)).Sound := by
  refine ⟨?_, ?_⟩
  · have before : traffic.activeConnections = ofNat traffic.requests.length :=
      sound.accurate
    simp [Accurate, step, ofNat_succ, before]
  · intro request member
    rcases mem_cons.mp member with equal | older
    · subst equal
      exact ⟨rfl, fun _ => rfl⟩
    · exact sound.noted request older

theorem Sound.callback (index : Nat) (callback : Callback) :
    (traffic.step gateway (.callback index callback)).Sound := by
  refine ⟨?_, ?_⟩
  · have before : traffic.activeConnections = ofNat traffic.requests.length :=
      sound.accurate
    simp [Accurate, step, before]
  intro request member
  rcases getElem?_of_mem member with ⟨position, located⟩
  simp only [step, getElem?_modify] at located
  rcases Option.map_eq_some_iff.mp located with ⟨earlier, found, same⟩
  have noted := sound.noted earlier (mem_of_getElem? found)
  split at same
  · exact same ▸ noted.advance callback
  · exact same ▸ noted

theorem Sound.logging_eq
    (located : traffic.requests[index]? = some request) : traffic.logging index =
      { activeConnections := ofNat (traffic.requests.length - 1) +
          if request.hadPlan then 1 else 0
        requests := traffic.requests.eraseIdx index } := by
  have noted := sound.noted request (mem_of_getElem? located)
  have before : traffic.activeConnections = ofNat traffic.requests.length :=
    sound.accurate
  have counted : traffic.requests.length = traffic.requests.length - 1 + 1 := by
    have bound := (List.getElem?_eq_some_iff.mp located).1
    omega
  rw [counted, ofNat_succ] at before
  simp only [logging, located, noted.counted, before]
  cases request.hadPlan with
  | true => rfl
  | false => simp

theorem Sound.accurate_logging_iff
    (located : traffic.requests[index]? = some request) :
    (traffic.logging index).Accurate ↔ request.hadPlan = false := by
  have bound := (List.getElem?_eq_some_iff.mp located).1
  rw [Accurate, sound.logging_eq located, length_eraseIdx_of_lt bound]
  cases request.hadPlan with
  | false => simp
  | true =>
    simp only [if_true, ← ofNat_succ, Bool.true_eq_false, iff_false]
    intro same
    have values := congrArg toNat same
    rw [toNat_ofNat', toNat_ofNat'] at values
    omega

theorem Sound.step (unplanned : traffic.LogsUnplanned event) :
    (traffic.step gateway event).Sound := by
  cases event with
  | earlyRequestFilter session now world => exact sound.earlyRequestFilter session now world
  | callback index callback => exact sound.callback index callback
  | logging index =>
    rcases located : traffic.requests[index]? with _ | request
    · have same : traffic.step gateway (.logging index) = traffic := by
        simp [Traffic.step, logging, located]
      rw [same]
      exact sound
    · refine ⟨(sound.accurate_logging_iff located).mpr (unplanned request located), ?_⟩
      intro other member
      simp only [Traffic.step, logging, located] at member
      exact sound.noted other (mem_of_mem_eraseIdx member)

theorem Sound.accurate_step_iff (event : Event) :
    (traffic.step gateway event).Accurate ↔ traffic.LogsUnplanned event := by
  constructor
  · intro accurate
    cases event with
    | earlyRequestFilter session now world | callback index callback => trivial
    | logging index =>
      intro request located
      exact (sound.accurate_logging_iff located).mp accurate
  · intro unplanned
    exact (sound.step unplanned).accurate

end

/-- The gauge is right after every event exactly in the runs that log no request for
which there was a plan. -/
theorem gauge_accurate_iff (gateway : Gateway) (events : List Event) :
    Run.Every (Traffic.step gateway)
        (fun traffic event => (traffic.step gateway event).Accurate) {} events ↔
      Run.Every (Traffic.step gateway) LogsUnplanned {} events := by
  apply Run.Every.iff_of_invariant Sound
  · intro traffic event sound unplanned
    exact sound.step unplanned
  · intro traffic event sound
    exact sound.accurate_step_iff event
  · exact ⟨rfl, by simp⟩

end Traffic

/-! A request to the only route there is, proxied and logged. -/

def proxiedMoment : Moment :=
  Moment.ofTable (RouteTable.fromRoutes (HashMap.empty.insert "a.example"
    [{ path := "/", pathType := .lead,
       backend := { address := "10.0.0.1:80", port := 80, useTls := false } }]))

def proxiedSession : Session where
  req := { method := "GET", uri := { pathAndQuery := "/" },
           headers := [("host", Text.asBytes "a.example")] }

def proxiedRequest : List Traffic.Event :=
  [.earlyRequestFilter proxiedSession 0 {},
    .callback 0 (.requestFilter fun _ => proxiedMoment),
    .callback 0 (.upstreamPeer proxiedMoment),
    .callback 0 (.response proxiedMoment { status := 200 }),
    .callback 0 (.responseBody { moment := proxiedMoment, data := some [], endOfStream := true }),
    .logging 0]

def plainGateway : Gateway where
  process := default
  autoHttps := false
  httpsPort := 443

/-- The request was served, no request is open, and the gauge still counts one. -/
theorem proxied_request_leaks :
    let served := (proxiedRequest.take 5).foldl (Traffic.step plainGateway) {}
    let finished := proxiedRequest.foldl (Traffic.step plainGateway) {}
    served.requests.map OpenRequest.progress = [.responding] ∧
      finished.requests.length = 0 ∧ finished.activeConnections = 1 ∧
      ¬Run.Every (Traffic.step plainGateway)
        (fun traffic event => (traffic.step plainGateway event).Accurate) {} proxiedRequest := by
  refine ⟨by decide, by decide, by decide, ?_⟩
  intro every
  have last : (proxiedRequest.foldl (Traffic.step plainGateway) {}).Accurate :=
    every.2.2.2.2.2.1
  exact absurd last (by unfold Traffic.Accurate; decide)

end PertiskProxy.Proxy
