import PertiskProxy.H3.Server
import PertiskProxy.Proxy.Gateway

/-! `forward_auth_ok` asks the URL of a route whether a request is admitted. -/

namespace PertiskProxy.Proxy

open Http Edge

/-- An answer to a subrequest. The location is the URL it leads to, if it is valid. -/
structure AuthReply where
  status : Nat
  location : Option Text := none
deriving DecidableEq

namespace AuthReply

/-- `StatusCode::is_success`. -/
def isSuccess (reply : AuthReply) : Bool :=
  200 ≤ reply.status && reply.status < 300

/-- Where a redirect is followed to. -/
def target (reply : AuthReply) : Option Text :=
  if reply.status ∈ [301, 302, 303, 307, 308] then reply.location else none

theorem target_of_isSuccess {reply : AuthReply} (success : reply.isSuccess = true) :
    reply.target = none := by
  simp only [isSuccess, Bool.and_eq_true, decide_eq_true_eq] at success
  have final : reply.status ∉ [301, 302, 303, 307, 308] := by
    simp only [List.mem_cons, List.not_mem_nil, or_false]
    omega
  rw [target, if_neg final]

end AuthReply

/-- What servers answer to the requests of one call, by the number of requests before
and the URL; there is no answer to a request that fails or takes too long. -/
abbrev AuthServers := Nat → Text → Option AuthReply

namespace AuthServers

variable (servers : AuthServers)

/-- Send a request and follow at most `limit` redirects; one more is an error. -/
def send : (limit : Nat) → (sent : Nat) → Text → Option AuthReply
  | limit, sent, url =>
    match servers sent url with
    | none => none
    | some reply =>
      match reply.target, limit with
      | none, _ => some reply
      | some _, 0 => none
      | some next, limit + 1 => send limit (sent + 1) next

/-- `forward_auth_ok`, with the limit of `redirect::Policy::default()`. -/
def forwardAuthOk (url : Text) : Bool :=
  (servers.send 10 0 url).any AuthReply.isSuccess

/-- From a URL a number of redirects lead to an answer with a 2xx status. -/
inductive Succeeds : (redirects : Nat) → (sent : Nat) → Text → Prop
  | here {sent : Nat} {url : Text} {reply : AuthReply}
      (answered : servers sent url = some reply) (success : reply.isSuccess = true) :
      Succeeds 0 sent url
  | redirect {redirects sent : Nat} {url next : Text} {reply : AuthReply}
      (answered : servers sent url = some reply) (leads : reply.target = some next)
      (rest : Succeeds redirects (sent + 1) next) : Succeeds (redirects + 1) sent url

variable {servers}

theorem Succeeds.send {redirects sent : Nat} {url : Text}
    (succeeds : servers.Succeeds redirects sent url) {limit : Nat} (within : redirects ≤ limit) :
    (servers.send limit sent url).any AuthReply.isSuccess = true := by
  induction succeeds generalizing limit with
  | here answered success =>
    rw [AuthServers.send, answered]
    simp [AuthReply.target_of_isSuccess success, success]
  | redirect answered leads rest induction =>
    cases limit with
    | zero => omega
    | succ limit =>
      rw [AuthServers.send, answered]
      simp only [leads]
      exact induction (by omega)

theorem exists_succeeds (success : (servers.send limit sent url).any AuthReply.isSuccess = true) :
    ∃ redirects ≤ limit, servers.Succeeds redirects sent url := by
  induction limit generalizing sent url with
  | zero =>
    rw [send] at success
    split at success
    next => cases success
    next reply answered =>
      split at success
      next => exact ⟨0, Nat.le_refl 0, .here answered success⟩
      next => cases success
      next impossible => cases impossible
  | succ limit induction =>
    rw [send] at success
    split at success
    next => cases success
    next reply answered =>
      split at success
      next => exact ⟨0, Nat.zero_le _, .here answered success⟩
      next impossible => cases impossible
      next next rest leads same =>
        obtain rfl : limit = rest := Nat.succ.inj same
        obtain ⟨redirects, within, succeeds⟩ := induction success
        exact ⟨redirects + 1, Nat.succ_le_succ within, .redirect answered leads succeeds⟩

/-- A request is let through when at most ten redirects lead to a success. -/
theorem forwardAuthOk_iff (url : Text) :
    servers.forwardAuthOk url = true ↔ ∃ redirects ≤ 10, servers.Succeeds redirects 0 url := by
  constructor
  · exact exists_succeeds
  · rintro ⟨redirects, within, succeeds⟩
    exact succeeds.send within

end AuthServers

/-- The servers of an authentication URL and of those its answers lead to. What they
answer may depend on the host, the path, and the `Authorization` they are told. -/
abbrev AuthWorld := Text → Text → Option Text → AuthServers

def Moment.asking (moment : Moment) (servers : AuthWorld) : Moment :=
  { moment with
    forwardAuth := fun url host path authorization =>
      (servers host path authorization).forwardAuthOk url }

/-- A request at the authentication of its route, on one of the planes that have it. -/
inductive AuthCheck where
  | gateway (gateway : Gateway) (session : Session) (state : FilterState)
  | quinn (process : Process) (incoming : H3.Quinn.Incoming) (action : MiddlewareAction)
      (passage : Passage)

namespace AuthCheck

def req : AuthCheck → RequestHeader
  | .gateway _ session _ => session.req
  | .quinn _ incoming _ _ => incoming.req

def edge : AuthCheck → EdgePolicy
  | .gateway _ _ state => state.ctx.edge
  | .quinn _ _ action _ => action.edge

def admitted (check : AuthCheck) (moment : Moment) : Prop :=
  match check with
  | .gateway server session state =>
    (Gateway.authenticate server session moment state).1 = .next
  | .quinn process incoming action passage =>
    (checkAuth process (requestHost incoming.req) incoming.req action.edge moment
      passage).1 = .next

/-- The servers as they answer the subrequest for this request. -/
def asked (check : AuthCheck) (servers : AuthWorld) : AuthServers :=
  servers (requestHost check.req) check.req.uri.path (check.req.headers.getStr "authorization")

/-- A request that is admitted has been admitted by the configured URL itself. -/
def Direct (check : AuthCheck) (moment : Moment) (servers : AuthWorld) : Prop :=
  ∀ url, check.edge.auth = some (.forward url) → check.admitted (moment.asking servers) →
    ∃ reply, check.asked servers 0 url = some reply ∧ reply.isSuccess = true

theorem checkAuth_forward {process : Process} {host url : Text} {req : RequestHeader}
    {edge : EdgePolicy} (configured : edge.auth = some (.forward url)) (moment : Moment)
    (passage : Passage) : (checkAuth process host req edge moment passage).1 = .next ↔
      moment.forwardAuth url host req.uri.path (req.headers.getStr "authorization") = true := by
  simp [checkAuth, configured, authOk, FilterChain.Verdict.when_eq_next]

theorem admitted_iff {check : AuthCheck} {moment : Moment} {servers : AuthWorld} {url : Text}
    (configured : check.edge.auth = some (.forward url)) :
    check.admitted (moment.asking servers) ↔ (check.asked servers).forwardAuthOk url = true := by
  cases check with
  | gateway server session state =>
    rw [admitted, Gateway.authenticate, policyStage_fst, FilterChain.Verdict.map_eq_next]
    exact checkAuth_forward configured (moment.asking servers) _
  | quinn process incoming action passage =>
    exact checkAuth_forward configured (moment.asking servers) passage

/-- A request is admitted on the word of another server exactly when the configured URL
redirects, in at most ten steps, to one that answers with a 2xx status. -/
theorem admitted_directly_iff (check : AuthCheck) (moment : Moment) (servers : AuthWorld) :
    check.Direct moment servers ↔ ∀ url, check.edge.auth = some (.forward url) →
        ¬ ∃ redirects, 0 < redirects ∧ redirects ≤ 10 ∧
          (check.asked servers).Succeeds redirects 0 url := by
  refine forall_congr' fun url => forall_congr' fun configured => ?_
  rw [admitted_iff configured, AuthServers.forwardAuthOk_iff]
  constructor
  · rintro direct ⟨redirects, positive, within, succeeds⟩
    obtain ⟨reply, answered, success⟩ := direct ⟨redirects, within, succeeds⟩
    cases succeeds with
    | here => exact absurd positive (Nat.lt_irrefl 0)
    | redirect first leads rest =>
      obtain rfl := Option.some.inj (answered.symm.trans first)
      rw [AuthReply.target_of_isSuccess success] at leads
      cases leads
  · rintro straight ⟨redirects, within, succeeds⟩
    cases succeeds with
    | here answered success => exact ⟨_, answered, success⟩
    | redirect answered leads rest =>
      exact absurd ⟨_, Nat.succ_pos _, within, .redirect answered leads rest⟩ straight

def verifyUrl : Text := "https://auth.example/verify".toList

/-- An authentication service that sends everybody to its login page. -/
def loginServers : AuthWorld := fun _ _ _ _ url =>
  if url = verifyUrl then some { status := 302, location := some "https://auth.example/login" }
  else some { status := 200 }

theorem login_page_admits :
    let edge : EdgePolicy := { auth := some (.forward verifyUrl) }
    let req : RequestHeader := { method := "GET", uri := { pathAndQuery := "/" } }
    let moment := Moment.ofTable { routes := ∅, edge := ∅, globals := {} }
    ¬ Direct (.quinn default ⟨req, .v4 ⟨192, 0, 2, 1⟩⟩ { edge } { world := {} }) moment
        loginServers ∧
      ¬ Direct (.gateway ⟨default, true, 443, true, 443⟩ { req, sslDigest := true }
        { ctx := { edge }, passage := { world := {} } }) moment loginServers := by
  have accepts : ∀ host path authorization,
      (loginServers host path authorization).forwardAuthOk verifyUrl = true := by
    intro host path authorization
    rfl
  refine ⟨fun direct => ?_, fun direct => ?_⟩
  · obtain ⟨reply, answered, success⟩ :=
      direct verifyUrl rfl ((admitted_iff rfl).mpr (accepts _ _ _))
    cases answered
    cases success
  · obtain ⟨reply, answered, success⟩ :=
      direct verifyUrl rfl ((admitted_iff rfl).mpr (accepts _ _ _))
    cases answered
    cases success

end AuthCheck

end PertiskProxy.Proxy
