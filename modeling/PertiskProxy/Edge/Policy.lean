import PertiskProxy.Http.Message
import PertiskProxy.Platform

/-! Per-route authentication, rate limits and cache switch, and the settings shared by all
routes (`edge/mod.rs`). -/

namespace PertiskProxy.Edge

inductive TlsGrade where
  | high
  | medium
  | lax
deriving DecidableEq

structure ConsulConfig where
  address : Text
  token : Option Text := none
  datacenter : Option Text := none
deriving DecidableEq

structure EdgeGlobals where
  tlsGrade : TlsGrade := .medium
  cacheSizeMb : Nat := 0
  cacheTtlSecs : Nat := 60
  consul : Option ConsulConfig := none
  jwtSecret : Option Text := none
deriving DecidableEq, Inhabited

/-- Per-route authentication; one method is active. -/
inductive RouteAuth where
  | basic (username password : Text)
  | apiKey (key : Text)
  | jwt (secret : Text)
  | forward (url : Text)
deriving DecidableEq

structure EdgePolicy where
  auth : Option RouteAuth := none
  rateLimitRps : Nat := 0
  x4xxLimitRps : Nat := 0
  cache : Option Bool := none
deriving DecidableEq, Inhabited

def cacheEnabled (globals : EdgeGlobals) (policy : EdgePolicy) : Bool :=
  if globals.cacheSizeMb = 0 then false else policy.cache.getD true

/-! Counters per key and second, shared by request limits and limits on error responses
(`edge/mod.rs`). -/

structure Window where
  second : Nat
  count : Nat
deriving DecidableEq

abbrev Windows := HashMap Text Window

def currentWindow (now : Nat) (key : Text) (windows : Windows) : Window :=
  let entry := (windows.get? key).getD { second := now, count := 0 }
  if entry.second ≠ now then { second := now, count := 0 } else entry

/-- Count one call; true when the caller should be rejected with 429. -/
def rateLimited (now : Nat) (key : Text) (limit : Nat) (windows : Windows) : Bool × Windows :=
  if limit = 0 then (false, windows)
  else
    let entry := currentWindow now key windows
    if entry.count ≥ limit then (true, windows.insert key entry)
    else (false, windows.insert key { entry with count := saturatingAdd32 entry.count 1 })

def errorKey (clientIp host : Text) : Text :=
  "4xx|".toList ++ clientIp ++ '|' :: host

def note4xx (now : Nat) (clientIp host : Text) (windows : Windows) : Windows :=
  (rateLimited now (errorKey clientIp host) u32Max windows).2

def x4xxBlocked (now : Nat) (clientIp host : Text) (limit : Nat) (windows : Windows) : Bool :=
  if limit = 0 then false
  else
    match windows.get? (errorKey clientIp host) with
    | some entry => entry.second == now && entry.count ≥ limit
    | none => false

def requestKey (clientIp host : Text) : Text :=
  "rps|".toList ++ clientIp ++ '|' :: host

@[simp] theorem rateLimited_zero (now : Nat) (key : Text) (windows : Windows) :
    rateLimited now key 0 windows = (false, windows) := rfl

@[simp] theorem x4xxBlocked_zero (now : Nat) (clientIp host : Text) (windows : Windows) :
    x4xxBlocked now clientIp host 0 windows = false := rfl

/-! The endpoints last seen for each service and the shared round-robin counter
(`edge/mod.rs`). -/

variable {state : ConsulState} {service : Text}

structure ConsulState where
  endpoints : HashMap Text (List (Text × Nat)) := ∅
  rr : Nat := 0

namespace ConsulState

def known (state : ConsulState) (service : Text) : List (Text × Nat) :=
  (state.endpoints.get? service).getD []

/-- Pick the next endpoint. The counter wraps at the word size. -/
def pick (service : Text) (state : ConsulState) : Option (Text × Nat) × ConsulState :=
  let list := state.known service
  if list.isEmpty then (none, state)
  else
    (list[state.rr % list.length]?,
      { state with rr := if state.rr = u64Max then 0 else state.rr + 1 })

def set (service : Text) (endpoints : List (Text × Nat)) (state : ConsulState) :
    ConsulState :=
  { state with endpoints := state.endpoints.insert service endpoints }

theorem isSome_pick (state : ConsulState) (service : Text) :
    (state.pick service).1.isSome = true ↔ state.known service ≠ [] := by
  unfold pick
  dsimp only
  split
  · next none => simpa using none
  rename_i some
  have positive : 0 < (state.known service).length := by
    simpa [List.length_pos_iff] using some
  have inside : state.rr % (state.known service).length < (state.known service).length :=
    Nat.mod_lt _ positive
  simpa [List.getElem?_eq_getElem inside] using some

theorem endpoints_pick (state : ConsulState) (service : Text) :
    (state.pick service).2.endpoints = state.endpoints := by
  unfold pick
  dsimp only
  split <;> rfl

theorem known_set (state : ConsulState) (service other : Text) (endpoints : List (Text × Nat)) :
    (state.set service endpoints).known other =
      if other = service then endpoints else state.known other := by
  unfold known set
  rw [HashMap.get?_insert]
  split <;> rfl

theorem known_pick (state : ConsulState) (service other : Text) :
    (state.pick service).2.known other = state.known other := by
  rw [known, endpoints_pick, known]

theorem mem_known_of_pick {endpoint : Text × Nat}
    (picked : (state.pick service).1 = some endpoint) : endpoint ∈ state.known service := by
  unfold pick at picked
  dsimp only at picked
  split at picked
  · cases picked
  · exact List.mem_of_getElem? picked

theorem pick_of_unknown
    (unknown : (state.known service).isEmpty = true) : state.pick service = (none, state) := by
  simp [pick, unknown]

theorem pick_of_known
    (listed : (state.known service).isEmpty = false) (unwrapped : state.rr < u64Max) :
    state.pick service = ((state.known service)[state.rr % (state.known service).length]?,
      { state with rr := state.rr + 1 }) := by
  simp [pick, listed, Nat.ne_of_lt unwrapped]

end ConsulState

/-- An element of a health answer: the service's port and address, and the address
of its node. -/
structure HealthItem where
  port : Option Nat := none
  serviceAddress : Option Text := none
  nodeAddress : Option Text := none
deriving DecidableEq

namespace HealthItem

def address (item : HealthItem) : Option Text :=
  (item.serviceAddress.filter (!·.isEmpty)).or (item.nodeAddress.filter (!·.isEmpty))

/-- The endpoint made of an element. The port is cut to 16 bits. -/
def endpoint (item : HealthItem) : Option (Text × Nat) :=
  let port := item.port.getD 0 % 65536
  if port = 0 then none else item.address.map fun address => (address, port)

def listed (item : HealthItem) : Option (Text × Nat) :=
  let port := item.port.getD 0
  if port = 0 then none else item.address.map fun address => (address, port)

theorem endpoint_of_le {item : HealthItem} (fits : item.port.getD 0 ≤ u16Max) :
    item.endpoint = item.listed := by
  have same : item.port.getD 0 % 65536 = item.port.getD 0 := Nat.mod_eq_of_lt (by
    unfold u16Max at fits
    omega)
  simp [endpoint, listed, same]

end HealthItem

def usableEndpoints (items : List HealthItem) : List (Text × Nat) :=
  items.filterMap HealthItem.endpoint

def listedEndpoints (items : List HealthItem) : List (Text × Nat) :=
  items.filterMap HealthItem.listed

theorem usableEndpoints_of_le {items : List HealthItem}
    (fits : ∀ item ∈ items, item.port.getD 0 ≤ u16Max) :
    usableEndpoints items = listedEndpoints items :=
  List.filterMap_congr fun item member => HealthItem.endpoint_of_le (fits item member)

/-- `consul_refresh` for one service. There is no answer when the request fails or
its body is no JSON array; an answer without usable endpoints is ignored. -/
def ConsulState.refresh (service : Text) (answer : Option (List HealthItem))
    (state : ConsulState) : ConsulState :=
  match answer with
  | some items =>
    if (usableEndpoints items).isEmpty then state
    else state.set service (usableEndpoints items)
  | none => state

namespace ConsulState

@[simp] theorem rr_refresh (service : Text) (answer : Option (List HealthItem))
    (state : ConsulState) : (state.refresh service answer).rr = state.rr := by
  unfold refresh
  split
  · split <;> rfl
  · rfl

theorem known_refresh_of_ne (different : other ≠ service) (answer : Option (List HealthItem))
    (state : ConsulState) : (state.refresh service answer).known other = state.known other := by
  unfold refresh
  split
  · split
    · rfl
    · rw [known_set, if_neg different]
  · rfl

theorem known_refresh_self (service : Text) (items : List HealthItem) (state : ConsulState) :
    (state.refresh service (some items)).known service =
      if (usableEndpoints items).isEmpty then state.known service else usableEndpoints items := by
  simp only [refresh]
  split
  · rfl
  · rw [known_set, if_pos rfl]

end ConsulState

/-! Basic credentials, API keys, and HS256 tokens (`edge/mod.rs`). -/

open Text Http

def b64Value (c : UInt8) : Option Nat :=
  if 65 ≤ c && c ≤ 90 then some (c.toNat - 65)
  else if 97 ≤ c && c ≤ 122 then some (c.toNat - 97 + 26)
  else if 48 ≤ c && c ≤ 57 then some (c.toNat - 48 + 52)
  else if c == 45 || c == 43 then some 62
  else if c == 95 || c == 47 then some 63
  else none

/-- The decoding loop: `buf` holds the `bits` bits not yet written. -/
def b64urlDecodeFrom (buf bits : Nat) : Bytes → Option Bytes
  | [] => some []
  | c :: rest =>
    if c == 61 then some []
    else
      match b64Value c with
      | none => none
      | some value =>
        let buf := buf * 64 + value
        let bits := bits + 6
        if bits ≥ 8 then
          let bits := bits - 8
          let unit := 1 <<< bits
          (b64urlDecodeFrom (buf % unit) bits rest).map
            ((UInt8.ofNat (buf / unit)) :: ·)
        else b64urlDecodeFrom buf bits rest

/-- Decode either alphabet up to the first `=`. -/
def b64urlDecode (data : Text) : Option Bytes :=
  b64urlDecodeFrom 0 0 data.asBytes

def b64urlDecodeStd (data : Text) : Option Bytes :=
  let data := trim data
  let padded := replaceChar '/' "_" (replaceChar '+' "-" data)
  b64urlDecode (padded ++ List.replicate ((4 - padded.len % 4) % 4) '=')

def basicCredentials (header : Option Text) : Option (Text × Text) := do
  let header ← header
  let encoded ← stripPrefix (trim header) "Basic "
  let raw ← b64urlDecodeStd (trim encoded)
  let text ← Bytes.fromUtf8 raw
  splitOnce ':' text

def bearerToken (header : Option Text) : Option Text := do
  let header ← header
  let token ← stripPrefix (trim header) "Bearer "
  some (trim token)

def queryParam (query key : Text) : Option Text :=
  ((query.splitOn '&').find? fun pair => before '=' pair == key).map fun pair =>
    ((splitOnce '=' pair).map Prod.snd).getD []

def queryToken (query : Text) : Option Text :=
  ["pertisk_token".toList, "araleztoken".toList].findSome? fun key =>
    (queryParam query key).filter fun value => !value.isEmpty

def hmacEq (platform : Platform) (secret message sig : Text) : Bool :=
  match b64urlDecode sig with
  | none => false
  | some bytes => (platform.hmacSha256 secret.asBytes).tag message.asBytes == bytes

def afterFirst (needle : Text) : Text → Option Text
  | [] => none
  | c :: rest =>
    match stripPrefix (c :: rest) needle with
    | some tail => some tail
    | none => afterFirst needle rest

/-- The `exp` claim, found by text search in the payload. -/
def tokenExpiry (payload : Text) : Option Nat := do
  let raw ← Bytes.fromUtf8 ((b64urlDecode payload).getD [])
  let tail ← afterFirst "\"exp\":" raw
  -- `split("\"exp\":").nth(1)` ends at the next occurrence, which no digit is part of.
  let digits := (trimStartMatches isWhitespace tail).takeWhile Char.isDigit
  parseUnsigned u64Max digits

def verifyJwt (platform : Platform) (now : Nat) (secret token : Text) : Bool :=
  match token.splitOn '.' with
  | [header, payload, sig] =>
    if !hmacEq platform secret (header ++ '.' :: payload) sig then false
    else
      match tokenExpiry payload with
      | some exp => exp ≥ now
      | none => false
  | _ => false

def authHeaderOk (platform : Platform) (now : Nat) (auth : RouteAuth) (headers : HeaderMap)
    (query : Text) : Bool :=
  match auth with
  | .basic username password =>
    match basicCredentials (headers.getStr "authorization") with
    | some (user, pass) => user == username && pass == password
    | none => false
  | .apiKey key => headers.getStr "x-api-key" == some key
  | .jwt secret =>
    (match bearerToken (headers.getStr "authorization") with
      | some token => verifyJwt platform now secret token
      | none => false) ||
    (match queryToken query with
      | some token => verifyJwt platform now secret token
      | none => false)
  | .forward _ => false

/-! What the counters say after any sequence of calls, from the start of the process. -/

open HashMap List Option

inductive LimitCall where
  | rateLimited (clientIp host : Text) (limit : UInt32)
  | note4xx (clientIp host : Text)
  | x4xxBlocked (clientIp host : Text) (limit : UInt32)
deriving DecidableEq

namespace LimitCall

def clientIp : LimitCall → Text
  | .rateLimited clientIp _ _ | .note4xx clientIp _ | .x4xxBlocked clientIp _ _ => clientIp

/-- The key a call counts under, and its limit; a limit of 0 is no limit. -/
def counts : LimitCall → Option (Text × Nat)
  | .rateLimited clientIp host limit =>
    if limit.toNat = 0 then none else some (requestKey clientIp host, limit.toNat)
  | .note4xx clientIp host => some (errorKey clientIp host, u32Max)
  | .x4xxBlocked _ _ _ => none

/-- The answer of a call and the counters after it. The one `note_4xx` gets is
discarded by it. -/
def perform (now : Nat) (windows : Windows) : LimitCall → Bool × Windows
  | .rateLimited clientIp host limit =>
    Edge.rateLimited now (requestKey clientIp host) limit.toNat windows
  | .note4xx clientIp host =>
    ((Edge.rateLimited now (errorKey clientIp host) u32Max windows).1,
      Edge.note4xx now clientIp host windows)
  | .x4xxBlocked clientIp host limit =>
    (Edge.x4xxBlocked now clientIp host limit.toNat windows, windows)

theorem counts_bounds {call : LimitCall} {key : Text} {limit : Nat}
    (counts : call.counts = some (key, limit)) : 0 < limit ∧ limit ≤ u32Max := by
  cases call with
  | rateLimited clientIp host given =>
    rcases ite_none_left_eq_some.mp counts with ⟨positive, equal⟩
    cases equal
    have bound := given.toNat_lt
    unfold u32Max
    omega
  | note4xx clientIp host =>
    cases counts
    decide
  | x4xxBlocked clientIp host given => cases counts

theorem perform_of_counts {call : LimitCall} {key : Text} {limit : Nat}
    (counts : call.counts = some (key, limit)) (now : Nat) (windows : Windows) :
    call.perform now windows = Edge.rateLimited now key limit windows := by
  cases call with
  | rateLimited clientIp host given =>
    rcases ite_none_left_eq_some.mp counts with ⟨positive, equal⟩
    cases equal
    rfl
  | note4xx clientIp host =>
    cases counts
    rfl
  | x4xxBlocked clientIp host given => cases counts

theorem perform_windows_of_counts {call : LimitCall} (counts : call.counts = none) (now : Nat)
    (windows : Windows) : (call.perform now windows).2 = windows := by
  cases call with
  | rateLimited clientIp host given =>
    have unlimited : given.toNat = 0 := by
      by_contra positive
      rw [LimitCall.counts, if_neg positive] at counts
      cases counts
    rw [perform, unlimited, rateLimited_zero]
  | note4xx clientIp host => cases counts
  | x4xxBlocked clientIp host given => rfl

end LimitCall

structure TimedCall where
  second : Nat
  call : LimitCall
deriving DecidableEq

def Ordered (history : List TimedCall) : Prop :=
  history.Pairwise fun later earlier => earlier.second ≤ later.second

def windowsAfter : List TimedCall → Windows
  | [] => ∅
  | timed :: earlier => (timed.call.perform timed.second (windowsAfter earlier)).2

def TimedCall.answer (timed : TimedCall) (earlier : List TimedCall) : Bool :=
  (timed.call.perform timed.second (windowsAfter earlier)).1

/-! ## One key -/

def TimedCall.limitAt (key : Text) (second : Nat) (timed : TimedCall) : Option Nat :=
  match timed.call.counts with
  | some (other, limit) => if other = key ∧ timed.second = second then some limit else none
  | none => none

def asked (key : Text) (second : Nat) (history : List TimedCall) : Nat :=
  history.countP fun timed => (timed.limitAt key second).isSome

def admitted (key : Text) (second : Nat) : List TimedCall → Nat
  | [] => 0
  | timed :: earlier =>
    admitted key second earlier +
      if (timed.limitAt key second).isSome && !timed.answer earlier then 1 else 0

theorem currentWindow_second (now : Nat) (key : Text) (windows : Windows) :
    (currentWindow now key windows).second = now := by
  simp only [currentWindow]
  split
  · rfl
  · next same => exact not_not.mp same

theorem currentWindow_congr (same : left.get? key = right.get? key) (now : Nat) :
    currentWindow now key left = currentWindow now key right := by
  simp [currentWindow, same]

theorem rateLimited_fst (positive : 0 < limit) (now : Nat) (key : Text) (windows : Windows) :
    (rateLimited now key limit windows).1 =
      decide (limit ≤ (currentWindow now key windows).count) := by
  simp only [rateLimited, Nat.ne_of_gt positive, if_false]
  split
  · next reached => simp [reached]
  · next below => simp [below]

theorem rateLimited_get?_of_ne (different : other ≠ key) (now limit : Nat) (windows : Windows) :
    (rateLimited now key limit windows).2.get? other = windows.get? other := by
  simp only [rateLimited]
  split
  · rfl
  · split <;> rw [get?_insert, if_neg different]

theorem rateLimited_get?_self (positive : 0 < limit) (fits : limit ≤ u32Max) (now : Nat)
    (key : Text) (windows : Windows) : (rateLimited now key limit windows).2.get? key = some
      { second := now
        count := (currentWindow now key windows).count +
          if (rateLimited now key limit windows).1 then 0 else 1 } := by
  have second := currentWindow_second now key windows
  generalize entry : currentWindow now key windows = window at second
  simp only [rateLimited, Nat.ne_of_gt positive, if_false, entry]
  split
  · rw [get?_insert, if_pos rfl]
    simp [← second]
  have room : saturatingAdd32 window.count 1 = window.count + 1 := by
    unfold saturatingAdd32
    omega
  rw [get?_insert, if_pos rfl]
  simp [← second, room]

theorem LimitCall.mem_keys_perform (call : LimitCall) (now : Nat) (windows : Windows)
    (key : Text) : key ∈ (call.perform now windows).2.keys ↔
      (∃ limit, call.counts = some (key, limit)) ∨ key ∈ windows.keys := by
  cases counts : call.counts with
  | none =>
    rw [perform_windows_of_counts counts]
    simp
  | some counter =>
    rcases counter with ⟨own, limit⟩
    rcases counts_bounds counts with ⟨positive, fits⟩
    rw [perform_of_counts counts, mem_keys_iff, mem_keys_iff]
    by_cases same : key = own
    · rw [same, rateLimited_get?_self positive fits]
      simp
    · rw [rateLimited_get?_of_ne same]
      simp [Ne.symm same]

theorem windowsAfter_get?_of_counts_ne {key : Text} {timed : TimedCall}
    (different : ∀ limit, timed.call.counts ≠ some (key, limit)) (earlier : List TimedCall) :
    (windowsAfter (timed :: earlier)).get? key = (windowsAfter earlier).get? key := by
  rw [windowsAfter]
  cases counts : timed.call.counts with
  | none => rw [LimitCall.perform_windows_of_counts counts]
  | some counter =>
    rw [LimitCall.perform_of_counts counts]
    apply rateLimited_get?_of_ne
    rintro rfl
    exact different counter.2 counts

theorem currentWindow_count_cons {key : Text} {timed : TimedCall} {limit : Nat}
    (counts : timed.call.counts = some (key, limit)) (earlier : List TimedCall) (now : Nat) :
    (currentWindow now key (windowsAfter (timed :: earlier))).count =
      if timed.second = now then
        (currentWindow now key (windowsAfter earlier)).count +
          if timed.answer earlier then 0 else 1
      else 0 := by
  rcases LimitCall.counts_bounds counts with ⟨positive, fits⟩
  have stored := rateLimited_get?_self positive fits timed.second key (windowsAfter earlier)
  rw [currentWindow, windowsAfter, TimedCall.answer, LimitCall.perform_of_counts counts]
  simp only [stored, getD_some]
  by_cases current : timed.second = now
  · simp [current]
  · simp [current]

theorem limitAt_of_counts_ne {key : Text} {timed : TimedCall}
    (different : ∀ limit, timed.call.counts ≠ some (key, limit)) (second : Nat) :
    timed.limitAt key second = none := by
  unfold TimedCall.limitAt
  split
  · next other limit counts =>
    apply if_neg
    rintro ⟨rfl, _⟩
    exact different limit counts
  · rfl

theorem admitted_cons_of_ne (nothing : timed.limitAt key second = none)
    (earlier : List TimedCall) :
    admitted key second (timed :: earlier) = admitted key second earlier := by
  simp [admitted, nothing]

theorem admitted_of_past (past : ∀ timed ∈ history, timed.second < second) :
    admitted key second history = 0 := by
  induction history with
  | nil => rfl
  | cons timed earlier induction =>
    have before := past timed mem_cons_self
    have nothing : timed.limitAt key second = none := by
      unfold TimedCall.limitAt
      split
      · next other limit counts => rw [if_neg (fun both => before.ne both.2)]
      · rfl
    rw [admitted_cons_of_ne nothing]
    exact induction fun other member => past other (mem_cons_of_mem _ member)

/-- A counter holds the calls admitted under its key in the current second. -/
theorem currentWindow_count {history : List TimedCall} (ordered : Ordered history) {now : Nat}
    (past : ∀ timed ∈ history, timed.second ≤ now) (key : Text) :
    (currentWindow now key (windowsAfter history)).count = admitted key now history := by
  induction history with
  | nil =>
    have empty : (windowsAfter []).get? key = none := get?_empty key
    simp [currentWindow, empty, admitted]
  | cons timed earlier induction =>
    rcases pairwise_cons.mp ordered with ⟨latest, orderedBefore⟩
    have before := induction orderedBefore
      fun other member => past other (mem_cons_of_mem _ member)
    by_cases counted : ∃ limit, timed.call.counts = some (key, limit)
    · rcases counted with ⟨limit, counts⟩
      rw [currentWindow_count_cons counts, admitted, TimedCall.limitAt, counts]
      by_cases current : timed.second = now
      · cases rejected : timed.answer earlier <;> simp [current, before]
      · -- The clock has moved on, so the whole history lies in the past.
        have gone : ∀ other ∈ earlier, other.second < now := fun other member =>
          Nat.lt_of_le_of_lt (latest other member)
            (Nat.lt_of_le_of_ne (past timed mem_cons_self) current)
        simp [current, admitted_of_past gone]
    · have different : ∀ limit, timed.call.counts ≠ some (key, limit) := by
        intro limit counts
        exact counted ⟨limit, counts⟩
      rw [currentWindow_congr (windowsAfter_get?_of_counts_ne different earlier), before,
        admitted_cons_of_ne (limitAt_of_counts_ne different now)]

/-- A call is rejected when its limit was reached by calls admitted before it. -/
theorem answer_iff_of_counts {timed : TimedCall} {earlier : List TimedCall}
    (ordered : Ordered (timed :: earlier)) {key : Text} {limit : Nat}
    (counts : timed.call.counts = some (key, limit)) :
    timed.answer earlier = true ↔ limit ≤ admitted key timed.second earlier := by
  rcases pairwise_cons.mp ordered with ⟨latest, orderedBefore⟩
  rw [TimedCall.answer, LimitCall.perform_of_counts counts,
    rateLimited_fst (LimitCall.counts_bounds counts).1, currentWindow_count orderedBefore latest]
  exact decide_eq_true_iff

theorem limitAt_eq_some {key : Text} {second limit : Nat} {timed : TimedCall} :
    timed.limitAt key second = some limit ↔
      timed.call.counts = some (key, limit) ∧ timed.second = second := by
  unfold TimedCall.limitAt
  split
  · next other given counts =>
    rw [ite_none_right_eq_some, counts]
    simp only [some.injEq, Prod.mk.injEq]
    tauto
  · next nothing => simp [nothing]

/-- With one limit for all calls of a key in a second, as many pass as the limit allows. -/
theorem admitted_eq_min (ordered : Ordered history)
    (uniform : ∀ timed ∈ history, ∀ given, timed.limitAt key second = some given → given = limit) :
    admitted key second history = min (asked key second history) limit := by
  induction history with
  | nil => simp [admitted, asked]
  | cons timed earlier induction =>
    have before := induction (pairwise_cons.mp ordered).2
      fun other member => uniform other (mem_cons_of_mem _ member)
    cases counted : timed.limitAt key second with
    | none =>
      rw [admitted_cons_of_ne counted, before]
      simp [asked, counted]
    | some given =>
      rcases limitAt_eq_some.mp counted with ⟨counts, rfl⟩
      cases uniform timed mem_cons_self given counted
      have rejected := answer_iff_of_counts ordered counts
      have one : asked key timed.second (timed :: earlier) =
          asked key timed.second earlier + 1 := by simp [asked, counted]
      rw [one, admitted, before, counted]
      by_cases full : timed.answer earlier = true
      · have reached := rejected.mp full
        simp [full]
        omega
      · have below := mt rejected.mpr full
        simp [full]
        omega

/-! ## The keys -/

theorem requestKey_ne_errorKey (clientIp host otherIp otherHost : Text) :
    requestKey clientIp host ≠ errorKey otherIp otherHost := by
  intro equal
  have first := congrArg head? equal
  simp [requestKey, errorKey] at first

theorem requestKey_inj (plain : '|' ∉ clientIp) (otherPlain : '|' ∉ otherIp)
    (equal : requestKey clientIp host = requestKey otherIp otherHost) :
    clientIp = otherIp ∧ host = otherHost := by
  simp only [requestKey, append_assoc, append_cancel_left_eq] at equal
  exact Text.append_separator_inj plain otherPlain equal

theorem errorKey_inj (plain : '|' ∉ clientIp) (otherPlain : '|' ∉ otherIp)
    (equal : errorKey clientIp host = errorKey otherIp otherHost) :
    clientIp = otherIp ∧ host = otherHost := by
  simp only [errorKey, append_assoc, append_cancel_left_eq] at equal
  exact Text.append_separator_inj plain otherPlain equal

def LimitCall.key : LimitCall → Text
  | .rateLimited clientIp host _ => requestKey clientIp host
  | .note4xx clientIp host | .x4xxBlocked clientIp host _ => errorKey clientIp host

theorem LimitCall.key_of_counts {call : LimitCall} {key : Text} {limit : Nat}
    (counts : call.counts = some (key, limit)) : call.key = key := by
  cases call with
  | rateLimited clientIp host given =>
    cases (ite_none_left_eq_some.mp counts).2
    rfl
  | note4xx clientIp host =>
    cases counts
    rfl
  | x4xxBlocked clientIp host given => cases counts

theorem rateLimited_congr (same : left.get? key = right.get? key) (now limit : Nat) :
    (rateLimited now key limit left).1 = (rateLimited now key limit right).1 ∧
      (rateLimited now key limit left).2.get? key =
        (rateLimited now key limit right).2.get? key := by
  simp only [rateLimited, currentWindow_congr same]
  split
  · exact ⟨rfl, same⟩
  · split
    · exact ⟨rfl, by simp only [get?_insert, if_true]⟩
    · exact ⟨rfl, by simp only [get?_insert, if_true]⟩

theorem LimitCall.perform_congr (call : LimitCall)
    (same : left.get? call.key = right.get? call.key) (now : Nat) :
    (call.perform now left).1 = (call.perform now right).1 ∧
      (call.perform now left).2.get? call.key = (call.perform now right).2.get? call.key := by
  cases call with
  | rateLimited clientIp host limit => exact rateLimited_congr same now limit.toNat
  | note4xx clientIp host => exact rateLimited_congr same now u32Max
  | x4xxBlocked clientIp host limit =>
    refine ⟨?_, same⟩
    simp only [LimitCall.key] at same
    simp [perform, Edge.x4xxBlocked, same]

theorem windowsAfter_filter_get? (key : Text) (history : List TimedCall) :
    (windowsAfter (history.filter fun timed => timed.call.key = key)).get? key =
      (windowsAfter history).get? key := by
  induction history with
  | nil => rfl
  | cons timed earlier induction =>
    by_cases same : timed.call.key = key
    · rw [filter_cons_of_pos (by simpa using same), windowsAfter, windowsAfter]
      subst same
      exact (timed.call.perform_congr induction timed.second).2
    · rw [filter_cons_of_neg (by simpa using same), induction]
      apply Eq.symm (windowsAfter_get?_of_counts_ne _ earlier)
      intro limit counts
      exact same (LimitCall.key_of_counts counts)

theorem TimedCall.answer_filter (timed : TimedCall) (earlier : List TimedCall) :
    timed.answer (earlier.filter fun other => other.call.key = timed.call.key) =
      timed.answer earlier :=
  (timed.call.perform_congr (windowsAfter_filter_get? _ _) timed.second).1

/-! ## Error responses -/

def noted (clientIp host : Text) (second : Nat) (history : List TimedCall) : Nat :=
  history.count { second, call := .note4xx clientIp host }

theorem limitAt_errorKey {clientIp host : Text} (plain : '|' ∉ clientIp) {timed : TimedCall}
    (separated : '|' ∉ timed.call.clientIp) {second limit : Nat} :
    timed.limitAt (errorKey clientIp host) second = some limit ↔
      timed = { second, call := .note4xx clientIp host } ∧ limit = u32Max := by
  rcases timed with ⟨moment, call⟩
  rw [limitAt_eq_some]
  constructor
  · rintro ⟨counts, rfl⟩
    cases call with
    | rateLimited otherIp otherHost given =>
      exact absurd (LimitCall.key_of_counts counts) (requestKey_ne_errorKey _ _ _ _)
    | note4xx otherIp otherHost =>
      simp only [LimitCall.counts, some.injEq, Prod.mk.injEq] at counts
      rcases errorKey_inj separated plain counts.1 with ⟨rfl, rfl⟩
      exact ⟨rfl, counts.2.symm⟩
    | x4xxBlocked otherIp otherHost given => cases counts
  · rintro ⟨equal, rfl⟩
    cases equal
    exact ⟨rfl, rfl⟩

theorem asked_errorKey {clientIp host : Text} (plain : '|' ∉ clientIp)
    {history : List TimedCall} (separated : ∀ timed ∈ history, '|' ∉ timed.call.clientIp)
    (second : Nat) :
    asked (errorKey clientIp host) second history = noted clientIp host second history := by
  apply countP_congr
  intro timed member
  rw [isSome_iff_exists, beq_iff_eq]
  constructor
  · rintro ⟨limit, counted⟩
    exact ((limitAt_errorKey plain (separated timed member)).mp counted).1
  · intro equal
    exact ⟨u32Max, (limitAt_errorKey plain (separated timed member)).mpr ⟨equal, rfl⟩⟩

/-- A client is blocked when its limit was reached by the responses noted before. -/
theorem x4xxBlocked_iff {clientIp host : Text} {limit : UInt32} (positive : 0 < limit.toNat)
    {now : Nat} {earlier : List TimedCall} (ordered : Ordered earlier)
    (past : ∀ timed ∈ earlier, timed.second ≤ now) (plain : '|' ∉ clientIp)
    (separated : ∀ timed ∈ earlier, '|' ∉ timed.call.clientIp) :
    x4xxBlocked now clientIp host limit.toNat (windowsAfter earlier) = true ↔
      limit.toNat ≤ noted clientIp host now earlier := by
  have bound : limit.toNat ≤ u32Max := by
    have below := limit.toNat_lt
    unfold u32Max
    omega
  have total : admitted (errorKey clientIp host) now earlier =
      min (noted clientIp host now earlier) u32Max := by
    rw [← asked_errorKey plain separated]
    apply admitted_eq_min ordered
    intro timed member given counted
    exact ((limitAt_errorKey plain (separated timed member)).mp counted).2
  have count := currentWindow_count ordered past (errorKey clientIp host)
  have reached : x4xxBlocked now clientIp host limit.toNat (windowsAfter earlier) = true ↔
      limit.toNat ≤ (currentWindow now (errorKey clientIp host) (windowsAfter earlier)).count := by
    rw [x4xxBlocked, if_neg (Nat.ne_of_gt positive), currentWindow]
    cases stored : (windowsAfter earlier).get? (errorKey clientIp host) with
    | none => simp; omega
    | some entry =>
      by_cases current : entry.second = now
      · simp [current]
      · simp [current]; omega
  rw [reached, count]
  omega

/-! ## Every sequence of calls -/

/-- What a call answers, in terms of the calls before it. -/
def TimedCall.Exact (timed : TimedCall) (earlier : List TimedCall) : Prop :=
  match timed.call with
  | .rateLimited clientIp host limit =>
    0 < limit.toNat →
      (timed.answer earlier = true ↔
        limit.toNat ≤ admitted (requestKey clientIp host) timed.second earlier)
  | .note4xx _ _ => True
  | .x4xxBlocked clientIp host limit =>
    0 < limit.toNat →
      (timed.answer earlier = true ↔ limit.toNat ≤ noted clientIp host timed.second earlier)

/-- Every call answers by the calls of its own key in its own second: a request
is rejected when its limit was reached by limited requests admitted before it,
so that with one limit exactly so many pass, and a client is blocked when its
limit was reached by the responses noted for it. Calls with other keys, and
request keys for error keys, make no difference. -/
theorem limits_count_exactly {history : List TimedCall} (ordered : Ordered history)
    (separated : ∀ timed ∈ history, '|' ∉ timed.call.clientIp) :
    (∀ later timed earlier, history = later ++ timed :: earlier → timed.Exact earlier ∧
        timed.answer (earlier.filter fun other => other.call.key = timed.call.key) =
          timed.answer earlier) ∧
    (∀ clientIp host second (limit : UInt32), (∀ timed ∈ history, ∀ given,
        timed.limitAt (requestKey clientIp host) second = some given → given = limit.toNat) →
      admitted (requestKey clientIp host) second history =
        min (asked (requestKey clientIp host) second history) limit.toNat) ∧
    ∀ clientIp host otherIp otherHost, requestKey clientIp host ≠ errorKey otherIp otherHost := by
  refine ⟨?_, fun clientIp host second limit uniform => admitted_eq_min ordered uniform,
    requestKey_ne_errorKey⟩
  rintro later timed earlier rfl
  have orderedHere := (pairwise_append.mp ordered).2.1
  rcases pairwise_cons.mp orderedHere with ⟨latest, orderedBefore⟩
  have plain := separated timed (by simp)
  have separatedBefore : ∀ other ∈ earlier, '|' ∉ other.call.clientIp := fun other member =>
    separated other (by simp [member])
  refine ⟨?_, timed.answer_filter earlier⟩
  rcases timed with ⟨second, call⟩
  cases call with
  | rateLimited clientIp host limit =>
    intro positive
    apply answer_iff_of_counts orderedHere
    exact if_neg (Nat.ne_of_gt positive)
  | note4xx clientIp host => trivial
  | x4xxBlocked clientIp host limit =>
    intro positive
    exact x4xxBlocked_iff positive orderedBefore latest plain separatedBefore

instance (history : List TimedCall) : Decidable (Ordered history) :=
  inferInstanceAs (Decidable (history.Pairwise _))

theorem second_request_rejected :
    let clientIp := "10.0.0.1".toList
    let host := "a.example".toList
    let request : TimedCall := { second := 7, call := .rateLimited clientIp host 1 }
    let note : TimedCall := { second := 7, call := .note4xx clientIp host }
    let history := [request, note, request]
    Ordered history ∧ (∀ timed ∈ history, '|' ∉ timed.call.clientIp) ∧
      asked (requestKey clientIp host) 7 history = 2 ∧
      admitted (requestKey clientIp host) 7 history =
        min (asked (requestKey clientIp host) 7 history) 1 := by
  refine ⟨by decide, by decide, by decide, ?_⟩
  exact (limits_count_exactly (by decide) (by decide)).2.1 _ _ _ 1 (by decide)

/-- A request under a limit of zero is admitted and does not count: a request
that allows one passes after it, in the same second. -/
theorem unlimited_request_uncounted :
    let free : TimedCall :=
      { second := 7, call := .rateLimited "10.0.0.1".toList "a.example".toList 0 }
    let limited : TimedCall :=
      { second := 7, call := .rateLimited "10.0.0.1".toList "a.example".toList 1 }
    Ordered [limited, free] ∧ (∀ timed ∈ [limited, free], '|' ∉ timed.call.clientIp) ∧
      free.call.key = limited.call.key ∧ free.answer [] = false ∧
      limited.answer [free] = false := by
  decide

end PertiskProxy.Edge
