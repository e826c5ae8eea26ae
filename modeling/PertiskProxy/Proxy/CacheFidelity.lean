import PertiskProxy.Proxy.Exchange

/-! Responses are collected, stored, and served again by different callbacks of different
requests. -/

namespace PertiskProxy.Proxy

open Edge FilterChain Http Router HeaderMap Text List

def RequestCtx.KeyedBy (session : Session) (ctx : RequestCtx) : Prop :=
  ctx.cacheCollect = true →
    ctx.cacheKey = some (Gateway.cacheKey session) ∧ session.req.method = "GET".toList

theorem cache_keyedBy (keyed : state.ctx.KeyedBy session) :
    (Gateway.cache session moment state).2.ctx.KeyedBy session := by
  simp only [Gateway.cache]
  split
  · next cacheable =>
    simp only [Gateway.cacheable, Bool.and_eq_true, beq_iff_eq] at cacheable
    split
    · exact keyed
    · intro _
      exact ⟨rfl, cacheable.1.1.2⟩
  · exact keyed

namespace Course

variable {course : Course}

theorem connected_keyedBy : course.connected.2.ctx.KeyedBy course.session := by
  apply @connected_preserves course fun ctx => ctx.KeyedBy course.session
  · exact nofun
  · exact fun _ _ _ => nofun
  · exact fun _ _ keyed => keyed
  · intro stage member moment state keyed
    rcases Gateway.routeStages_cases member with rfl | rfl | ⟨check, rfl⟩
    · exact keyed
    · exact cache_keyedBy keyed
    · exact keyed

theorem received_keyedBy (reply : Reply) :
    (course.received reply).2.ctx.KeyedBy course.session := by
  have notes := (course.received_notes reply).1
  intro collect
  have connected := connected_keyedBy
    ((congrArg Bookkeeping.cacheCollect notes).symm.trans collect)
  exact ⟨(congrArg Bookkeeping.cacheKey notes).trans connected.1, connected.2⟩

theorem collecting_of_delivered {reply : Reply}
    (collect : (course.delivered reply).2.ctx.cacheCollect = true) :
    Collecting (course.delivered reply).1 (Gateway.cacheKey course.session) []
      (course.delivered reply).2.ctx ∧ course.session.req.method = "GET".toList ∧
      Gateway.isCacheable (course.delivered reply).1 = true := by
  have streamed := (course.received reply).2.ctx.noteStream_notes (course.received reply).1
  have final : (course.delivered reply).2.ctx = Gateway.noteResponse (course.delivered reply).1
        ((course.received reply).2.ctx.noteStream (course.received reply).1) := rfl
  rw [final] at collect
  simp only [Gateway.noteResponse] at collect
  split at collect
  · next noted =>
    have received : (course.received reply).2.ctx.cacheCollect = true :=
      (congrArg Bookkeeping.cacheCollect streamed.1).symm.trans noted
    rcases received_keyedBy reply received with ⟨keyed, method⟩
    split at collect
    · next cacheable =>
      exact ⟨delivered_collecting received keyed cacheable, method, cacheable⟩
    · cases collect
  · next noted => exact absurd collect noted

end Course

def Tracks (header : ResponseHeader) (key : Text) (body : Bytes) (ctx : RequestCtx) : Prop :=
  ctx.cacheCollect = true → Collecting header key body ctx

theorem Tracks.collectBody (tracks : Tracks header key body ctx)
    (collect : ctx.cacheCollect = true) (data : Option Bytes) :
    Tracks header key (body ++ data.getD []) (Gateway.collectBody data ctx) := by
  have collecting := tracks collect
  cases data with
  | none => simpa [Gateway.collectBody] using tracks
  | some bytes =>
    intro still
    by_cases short : (body ++ bytes).length ≤ maxEntryBytes
    · exact collecting.collectBody (some bytes) short
    · -- The body has become too long, and is given up for good.
      have long : ¬ctx.cacheBody.length + bytes.length ≤ maxEntryBytes := by
        rw [collecting.body, ← length_append]
        exact short
      simp [Gateway.collectBody, long] at still

open Chunk

theorem Tracks.filterAll (tracks : Tracks header key body state.ctx)
    (more : ∀ chunk ∈ chunks, chunk.endOfStream = false) :
    Tracks header key (body ++ chunks.flatMap bytes)
      (filterAll chunks state).ctx := by
  induction chunks generalizing body state with
  | nil => simpa [Chunk.filterAll] using tracks
  | cons chunk chunks induction =>
    rw [flatMap_cons, ← append_assoc]
    apply induction _ fun later member => more later (mem_cons_of_mem _ member)
    have ctx : (state.arrive chunk.moment).ctx = state.ctx := rfl
    have unfinished := more chunk mem_cons_self
    by_cases collect : state.ctx.cacheCollect = true
    · simp only [Chunk.filter, Gateway.responseBodyFilter, ctx, collect, unfinished,
        Bool.false_and, Bool.false_eq_true, if_true, if_false]
      exact tracks.collectBody collect chunk.data
    · intro still
      simp only [Chunk.filter, Gateway.responseBodyFilter, ctx, collect] at still
      exact absurd still collect

theorem Chunk.collect_of_filterAll
    (collect : (filterAll chunks state).ctx.cacheCollect = true) :
    state.ctx.cacheCollect = true := by
  induction chunks generalizing state with
  | nil => exact collect
  | cons chunk chunks induction =>
    by_contra idle
    have ctx : (state.arrive chunk.moment).ctx = state.ctx := rfl
    have first := induction collect
    simp only [filter, Gateway.responseBodyFilter, ctx, idle] at first
    exact idle first

/-! ## Deliveries and lookups -/

/-- A piece of an upstream's response as the body filter gets it, after other
pieces of the same response. -/
structure Delivery where
  course : Course
  reply : Reply
  before : List Chunk
  chunk : Chunk
  unfinished : ∀ earlier ∈ before, earlier.endOfStream = false

namespace Delivery

variable (delivery : Delivery)

def body : Bytes :=
  delivery.before.flatMap Chunk.bytes ++ delivery.chunk.bytes

def state : FilterState :=
  Chunk.filterAll delivery.before (delivery.course.delivered delivery.reply).2

def filter (cache : Cache) : Cache :=
  let state := delivery.state
  let shared : FilterState :=
    { state with
      passage := { state.passage with world := { state.passage.world with cache } } }
  (Gateway.responseBodyFilter delivery.chunk.eviction
    { delivery.chunk.moment with interference := id } delivery.chunk.data
    delivery.chunk.endOfStream shared).passage.world.cache

def globals : EdgeGlobals :=
  delivery.chunk.moment.router.table.globals

def put : CachePut where
  eviction := delivery.chunk.eviction
  now := delivery.chunk.moment.clock.instant
  key := Gateway.cacheKey delivery.course.session
  response := cachedResponse (delivery.course.delivered delivery.reply).1 delivery.body
  ttl := Gateway.cacheTtl delivery.globals
  maxBytes := Gateway.cacheMaxBytes delivery.globals

def stores : Bool :=
  delivery.state.ctx.cacheCollect &&
    (Gateway.collectBody delivery.chunk.data delivery.state.ctx).cacheCollect &&
    delivery.chunk.endOfStream && delivery.put.fits

theorem tracks : Tracks (delivery.course.delivered delivery.reply).1
    (Gateway.cacheKey delivery.course.session) (delivery.before.flatMap bytes)
    delivery.state.ctx := by
  rw [← nil_append (delivery.before.flatMap bytes)]
  apply Tracks.filterAll _ delivery.unfinished
  exact fun collect => (Course.collecting_of_delivered collect).1

theorem filter_eq (cache : Cache) : delivery.filter cache =
      if delivery.stores then
        cachePut delivery.put.eviction delivery.put.now delivery.put.key delivery.put.response
          delivery.put.ttl delivery.put.maxBytes cache
      else cache := by
  have arrived : ∀ state : FilterState,
      state.arrive { delivery.chunk.moment with interference := id } = state :=
    FilterState.arrive_of_quiet rfl
  simp only [filter, Gateway.responseBodyFilter, arrived, stores]
  by_cases collect : delivery.state.ctx.cacheCollect = true
  · have whole := delivery.tracks.collectBody collect delivery.chunk.data
    by_cases done : (delivery.chunk.endOfStream &&
        (Gateway.collectBody delivery.chunk.data delivery.state.ctx).cacheCollect) = true
    · rw [Bool.and_eq_true] at done
      have collecting := whole done.2
      simp only [collect, done, collecting.key, collecting.response, Bool.and_self, if_true,
        Bool.true_and]
      by_cases fits : delivery.put.fits = true
      · rw [if_pos fits]
        rfl
      · rw [if_neg fits]
        exact cachePut_of_not_fits fits cache
    have unstored : ¬(delivery.state.ctx.cacheCollect &&
        (Gateway.collectBody delivery.chunk.data delivery.state.ctx).cacheCollect &&
        delivery.chunk.endOfStream && delivery.put.fits) = true := by
      simp only [Bool.and_eq_true] at done ⊢
      tauto
    rw [if_pos collect, if_neg done]
    exact (if_neg unstored).symm
  · simp [collect]

end Delivery

structure Lookup where
  gateway : Gateway
  session : Session
  ctx : RequestCtx
  world : World
  moment : Moment

def Lookup.run (lookup : Lookup) (cache : Cache) : Verdict Outcome × FilterState :=
  Gateway.cache lookup.session { lookup.moment with interference := id }
    { ctx := lookup.ctx, passage := { world := { lookup.world with cache } } }

/-- What happens to the cache, with any configuration in force at each event. -/
inductive CacheEvent where
  | delivered (delivery : Delivery)
  | looked (lookup : Lookup)

namespace CacheEvent

def cache : List CacheEvent → Cache
  | [] => {}
  | .delivered delivery :: earlier => delivery.filter (cache earlier)
  | .looked lookup :: earlier => (lookup.run (cache earlier)).2.passage.world.cache

def lastDelivery (key : Text) : List CacheEvent → Option Delivery
  | [] => none
  | .looked _ :: earlier => lastDelivery key earlier
  | .delivered delivery :: earlier =>
    if delivery.put.key = key ∧ delivery.stores = true then some delivery
    else lastDelivery key earlier

def Traced (history : List CacheEvent) : Prop :=
  ∀ key entry, (cache history).entries.get? key = some entry →
    ∃ delivery, lastDelivery key history = some delivery ∧
      entry.response = delivery.put.response

theorem traced_delivered (traced : Traced history) (delivery : Delivery) :
    Traced (.delivered delivery :: history) := by
  intro key entry found
  rw [cache, delivery.filter_eq] at found
  rw [lastDelivery]
  by_cases stores : delivery.stores = true
  · have fits : delivery.put.fits = true := by
      simp only [Delivery.stores, Bool.and_eq_true] at stores
      exact stores.2
    rw [if_pos stores, cachePut_of_fits fits, HashMap.get?_insert] at found
    by_cases equal : key = delivery.put.key
    · rw [if_pos equal] at found
      cases found
      exact ⟨delivery, if_pos ⟨equal.symm, stores⟩, rfl⟩
    · rw [if_neg equal] at found
      rw [if_neg fun both => equal both.1.symm]
      exact traced key entry (delivery.put.room_within _ key entry found)
  · rw [if_neg stores] at found
    rw [if_neg fun both => stores both.2]
    exact traced key entry found

theorem lookup_cases (lookup : Lookup) (cache : Cache) :
    ((lookup.run cache).2.passage.world.cache = cache ∨ (lookup.run cache).2.passage.world.cache =
        (cacheGet lookup.moment.clock.instant (Gateway.cacheKey lookup.session) cache).2) ∧
    ∀ response, (lookup.run cache).1 = .stop (.answered (.cached response)) →
      (cacheGet lookup.moment.clock.instant (Gateway.cacheKey lookup.session) cache).1 =
        some response := by
  have arrived : ∀ state : FilterState,
      state.arrive { lookup.moment with interference := id } = state :=
    FilterState.arrive_of_quiet rfl
  simp only [Lookup.run, Gateway.cache, arrived]
  split
  · cases hit : (cacheGet lookup.moment.clock.instant (Gateway.cacheKey lookup.session)
      cache).1 with
    | none =>
      refine ⟨.inr rfl, ?_⟩
      intro response answer
      cases answer
    | some found =>
      refine ⟨.inr rfl, ?_⟩
      intro response answer
      cases answer
      rfl
  · refine ⟨.inl rfl, ?_⟩
    intro response answer
    cases answer

theorem traced_looked (traced : Traced history) (lookup : Lookup) :
    Traced (.looked lookup :: history) := by
  intro key entry found
  rw [cache] at found
  apply traced key entry
  rcases (lookup_cases lookup (cache history)).1 with same | got
  · rw [same] at found
    exact found
  rw [got] at found
  rcases cacheGet_snd lookup.moment.clock.instant (Gateway.cacheKey lookup.session)
    (cache history) with same | dropped
  · rw [same] at found
    exact found
  · rw [dropped] at found
    exact Cache.drop_within _ _ key entry found

theorem traced_step (traced : Traced history) (event : CacheEvent) :
    Traced (event :: history) := by
  cases event with
  | delivered delivery => exact traced_delivered traced delivery
  | looked lookup => exact traced_looked traced lookup

end CacheEvent

/-! ## What the client gets -/

def Gateway.hitHeader (gateway : Gateway) (hit : CachedResponse) : ResponseHeader where
  status := (Answer.cached hit).status
  headers :=
    [ ("X-Cache".toList, "HIT".toList), ("X-App-Name".toList, gateway.process.appName) ].foldl
      insert (hit.headers.foldl insert [])

theorem values_hitHeader (gateway : Gateway) (hit : CachedResponse)
    (first : headerName "X-Cache" ≠ some name) (second : headerName "X-App-Name" ≠ some name) :
    (gateway.hitHeader hit).headers.values name =
      values (hit.headers.foldl insert []) name := by
  rw [Gateway.hitHeader, foldl_cons, foldl_cons, foldl_nil,
    values_insert_of_ne second, values_insert_of_ne first]

theorem hitHeader_contentType (gateway : Gateway)
    (typed : (header.headers.getStr "content-type").isSome = true) :
    (gateway.hitHeader (cachedResponse header body)).headers.get "content-type" =
      header.headers.get "content-type" := by
  rcases Option.isSome_iff_exists.mp typed with ⟨text, found⟩
  rcases Option.bind_eq_some_iff.mp found with ⟨value, present, readable⟩
  rw [present, get_eq_head?_values, values_hitHeader gateway _ (by decide) (by decide),
    cachedResponse, found, Option.getD_some, foldl_cons, foldl_cons, foldl_nil,
    values_insert_of_ne (by decide), values_insert_valid rfl (headerValue_of_headerToStr readable)]
  rfl

/-- A hit never says that it is encoded. -/
theorem hitHeader_contentEncoding (gateway : Gateway) (header : ResponseHeader) (body : Bytes) :
    (gateway.hitHeader (cachedResponse header body)).headers.get "content-encoding" = none := by
  rw [get_eq_head?_values, values_hitHeader gateway _ (by decide) (by decide), cachedResponse,
    foldl_cons, foldl_cons, foldl_nil, values_insert_of_ne (by decide),
    values_insert_of_ne (by decide)]
  rfl

/-! ## What the filters do to the type -/

theorem downstreamHeaders_contentType (session : Session) (response : ResponseHeader)
    (ctx : RequestCtx) : (Gateway.downstreamHeaders session response ctx).get "content-type" =
      response.headers.get "content-type" := by
  have untouched : Gateway.downstreamFate session ctx.toRequestClass response "content-type" =
      none := by
    unfold Gateway.downstreamFate
    dsimp only
    split
    · rfl
    · split
      · rfl
      · split <;> rfl
  rw [get_eq_head?_values, get_eq_head?_values, values_downstreamHeaders, untouched]
  rfl

theorem upstreamResponseFilter_contentType {gateway : Gateway} {session : Session}
    {response : ResponseHeader} {ctx : RequestCtx}
    (unset : ∀ header ∈ ctx.responseHeaders, headerName header.1 ≠ some "content-type".toList) :
    (gateway.upstreamResponseFilter session response ctx).1.headers.get "content-type" =
      response.headers.get "content-type" := by
  rw [get_eq_head?_values, get_eq_head?_values, values_upstreamResponseFilter,
    sets_eq_none unset, upstreamFate_contentType]
  rfl

/-! ## Faithful hits -/

def refusesCoding (item : Text) : Bool :=
  match splitOnce ';' item with
  | some (_, weight) =>
    [ "q=0".toList, "q=0.0".toList, "q=0.00".toList, "q=0.000".toList ].contains
      (trim weight)
  | none => false

/-- Whether a client takes a content coding: it says nothing about codings, or
names this one, or else all of them, without ruling it out. -/
def acceptsEncoding (req : RequestHeader) (coding : Text) : Bool :=
  match req.headers.getStr "accept-encoding" with
  | none => true
  | some value =>
    let items := value.splitOn ','
    let named (name : Text) := items.find? fun item =>
      toAsciiLowercase (trim (before ';' item)) == toAsciiLowercase name
    match (named coding).or (named "*") with
    | some item => !refusesCoding item
    | none => false

/-- A hit replays the response that was stored, to a client that asked for the same
and takes its encoding. -/
structure Lookup.Faithful (lookup : Lookup) (delivery : Delivery) (hit : CachedResponse) :
    Prop where
  method : delivery.course.session.req.method = "GET".toList
  host : requestHost delivery.course.session.req = requestHost lookup.session.req
  target : delivery.course.session.req.target = lookup.session.req.target
  complete : delivery.chunk.endOfStream = true
  status : (lookup.gateway.hitHeader hit).status = delivery.reply.header.status
  body : hit.body = delivery.body
  contentType : (lookup.gateway.hitHeader hit).headers.get "content-type" =
    delivery.reply.header.headers.get "content-type"
  contentEncoding : (lookup.gateway.hitHeader hit).headers.get "content-encoding" =
    delivery.reply.header.headers.get "content-encoding"
  accepted : ∀ coding,
    delivery.reply.header.headers.getStr "content-encoding" = some coding →
      acceptsEncoding lookup.session.req coding = true

/-- The upstream names a type in readable text and does not encode the response, and
the route does not set another type. -/
structure Delivery.Plain (delivery : Delivery) : Prop where
  typed : (delivery.reply.header.headers.getStr "content-type").isSome = true
  uncoded : delivery.reply.header.headers.get "content-encoding" = none
  unset : ∀ header ∈ delivery.course.connected.2.ctx.responseHeaders,
    headerName header.1 ≠ some "content-type".toList

def Session.Rooted (session : Session) : Prop :=
  '/' ∉ requestHost session.req ∧ ∃ rest, session.req.target = '/' :: rest

theorem cacheKey_inj (rooted : left.Rooted) (other : right.Rooted)
    (equal : Gateway.cacheKey left = Gateway.cacheKey right) :
    requestHost left.req = requestHost right.req ∧ left.req.target = right.req.target := by
  rcases rooted with ⟨plain, rest, target⟩
  rcases other with ⟨otherPlain, otherRest, otherTarget⟩
  rw [Gateway.cacheKey, Gateway.cacheKey, target, otherTarget, append_assoc,
    append_assoc] at equal
  rcases append_separator_inj plain otherPlain (append_cancel_left equal) with
    ⟨host, same⟩
  exact ⟨host, by rw [target, otherTarget, same]⟩

theorem Delivery.contentType {delivery : Delivery} (plain : delivery.Plain) :
    (delivery.course.delivered delivery.reply).1.headers.get "content-type" =
      delivery.reply.header.headers.get "content-type" := by
  have filtered := @upstreamResponseFilter_contentType delivery.course.gateway
    delivery.course.session delivery.reply.header _ plain.unset
  exact (downstreamHeaders_contentType _ _ _).trans filtered

theorem faithful_of_plain {lookup : Lookup} {delivery : Delivery} (stores : delivery.stores = true)
    (keyed : delivery.put.key = Gateway.cacheKey lookup.session) (plain : delivery.Plain)
    (rooted : delivery.course.session.Rooted) (lookupRooted : lookup.session.Rooted) :
    lookup.Faithful delivery delivery.put.response := by
  simp only [Delivery.stores, Bool.and_eq_true] at stores
  rcases Course.collecting_of_delivered (collect_of_filterAll stores.1.1.1) with
    ⟨-, method, cacheable⟩
  rcases cacheKey_inj rooted lookupRooted keyed with ⟨host, target⟩
  have sameType := Delivery.contentType plain
  have typed : ((delivery.course.delivered delivery.reply).1.headers.getStr
      "content-type").isSome = true := by
    rw [getStr, sameType]
    exact plain.typed
  refine ⟨method, host, target, stores.1.2, ?_, rfl, ?_, ?_, ?_⟩
  · -- Only successful responses are collected, so the code is a valid one.
    have success : (delivery.course.delivered delivery.reply).1.isSuccess = true := by
      simp only [Gateway.isCacheable, Bool.and_eq_true] at cacheable
      exact cacheable.1
    simp only [ResponseHeader.isSuccess, Bool.and_eq_true, decide_eq_true_eq] at success
    have same : delivery.put.response.status =
      (delivery.course.delivered delivery.reply).1.status := rfl
    exact if_pos ⟨by omega, by omega⟩
  · exact (hitHeader_contentType _ typed).trans sameType
  · rw [plain.uncoded]
    exact hitHeader_contentEncoding _ _ _
  · intro coding found
    rw [getStr, plain.uncoded] at found
    cases found

namespace CacheEvent

def Faithful (earlier : List CacheEvent) : CacheEvent → Prop
  | .delivered _ => True
  | .looked lookup => ∀ hit, (lookup.run (cache earlier)).1 = .stop (.answered (.cached hit)) →
      ∃ delivery, lastDelivery (Gateway.cacheKey lookup.session) earlier = some delivery ∧
        lookup.Faithful delivery hit

/-- Stored responses are plain, and no host name runs into the path. -/
def Plain (_ : List CacheEvent) : CacheEvent → Prop
  | .delivered delivery => delivery.stores = true →
      delivery.Plain ∧ delivery.course.session.Rooted
  | .looked lookup => lookup.session.Rooted

structure Sound (history : List CacheEvent) : Prop where
  traced : Traced history
  plain : ∀ key delivery, lastDelivery key history = some delivery →
    delivery.stores = true ∧ delivery.put.key = key ∧ delivery.Plain ∧
      delivery.course.session.Rooted

theorem Sound.start : Sound [] := by
  refine ⟨?_, ?_⟩
  · intro key entry found
    cases found
  · intro key delivery found
    cases found

theorem Sound.step (sound : Sound history) (safe : Plain history event) :
    Sound (event :: history) := by
  refine ⟨traced_step sound.traced event, ?_⟩
  intro key delivery found
  cases event with
  | looked lookup =>
    rw [lastDelivery] at found
    exact sound.plain key delivery found
  | delivered last =>
    rw [lastDelivery] at found
    split at found
    · next both =>
      cases found
      exact ⟨both.2, both.1, safe both.2⟩
    · exact sound.plain key delivery found

theorem Sound.faithful (sound : Sound history) (safe : Plain history event) :
    Faithful history event := by
  cases event with
  | delivered delivery => trivial
  | looked lookup =>
    intro hit answer
    rcases cacheGet_fst ((lookup_cases lookup (cache history)).2 hit answer) with
      ⟨entry, found, rfl, -⟩
    rcases sound.traced _ entry found with ⟨delivery, last, response⟩
    rcases sound.plain _ delivery last with ⟨stores, keyed, plain, rooted⟩
    refine ⟨delivery, last, ?_⟩
    rw [response]
    exact faithful_of_plain stores keyed plain rooted safe

end CacheEvent

/-! A route that adds a header to its responses, on a proxy with a cache. -/

end PertiskProxy.Proxy
