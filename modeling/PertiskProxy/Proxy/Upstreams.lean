import PertiskProxy.Proxy.Forward

/-! A backend keeps its kind as the text its address starts with, where the address of a
host starts with the name of the host. -/

namespace PertiskProxy.Proxy

open Edge Router Text Option Upstream

/-- What `resolve_forward` answers, by the outcome of TLS probes and the known
Consul endpoints. -/
abbrev Resolution := (Text → Nat → Bool) → ConsulState →
  Except ForwardError ForwardPlan × ConsulState

namespace Resolution

def Plans (resolve : Resolution) (Holds : (Text → Nat → Bool) → ForwardPlan → Prop) : Prop :=
  ∀ probeTls consul, ∃ plan, (resolve probeTls consul).1 = .ok plan ∧ Holds probeTls plan

/-- Requests are answered from a directory, by an endpoint picked for a service, by
a host that is probed for TLS, or by a host over the transport given. -/
def Treats (resolve : Resolution) : Upstream → Prop
  | .file root => resolve.Plans fun _ plan => plan.middleware.fileRoot = some root
  | .consul service => ∀ probeTls consul,
      (resolve probeTls consul).1.toOption.map (fun plan => (plan.peerHost, plan.peerPort)) =
        (consul.pick service).1
  | .auto host port => resolve.Plans fun probeTls plan =>
    plan.peerHost = host ∧ plan.peerPort = port ∧ plan.useTls = probeTls host port ∧
      plan.middleware.fileRoot = none
  | .direct host port useTls => resolve.Plans fun _ plan =>
    plan.peerHost = host ∧ plan.peerPort = port ∧ plan.useTls = useTls ∧
      plan.middleware.fileRoot = none

end Resolution

def HasScheme (platform : Platform) (raw scheme : Text) : Prop :=
  ∃ url, upstreamUrl platform raw = some url ∧ url.scheme = scheme

def PortsFit (platform : Platform) : Prop :=
  ∀ text url, platform.parseUrl text = some url →
    (∀ port ∈ url.port, port ≤ u16Max) ∧ ∀ port ∈ url.portOrKnownDefault, port ≤ u16Max

/-! ## Addresses -/

theorem colon_not_mem_ofNat (value : Nat) : ':' ∉ ofNat value := by
  intro member
  exact absurd (isDigit_of_mem_ofNat member) (by decide)

theorem parseBackendPeer_hostPort (host : Text) (fits : port ≤ u16Max) (fallbackPort : Nat) :
    parseBackendPeer (host ++ ':' :: ofNat port) fallbackPort = .ok (host, port) := by
  simp [parseBackendPeer, rsplitOnce_append host (colon_not_mem_ofNat port),
    parseUnsigned_ofNat fits]

theorem fileRoot_routeMiddleware (table : RouteTable) (host : Text) (route : Route) :
    (routeMiddleware table host route).fileRoot = none := by
  have kept : ∀ (middlewares : List Middleware) (action : MiddlewareAction),
      (middlewares.foldl applyMiddleware action).fileRoot = action.fileRoot := by
    intro middlewares
    induction middlewares with
    | nil => exact fun _ => rfl
    | cons middleware rest induction =>
      intro action
      rw [List.foldl_cons, induction]
      cases middleware <;> rfl
  exact kept route.middlewares {}

def upstreamPort : Upstream → Nat
  | .auto _ port | .direct _ port _ => port
  | _ => 0

section

variable {backend : Backend} {middleware : MiddlewareAction} {path : Text}

end

/-- What tells the treatments apart: the answers without endpoints, with all
probes refused and with all accepted. -/
def mark (resolve : Resolution) : Option (Option Bool) :=
  (resolve (fun _ _ => false) {}).1.toOption.map fun plan =>
    if plan.middleware.fileRoot.isSome then none
    else some ((resolve (fun _ _ => true) {}).1.toOption.any fun other =>
      plan.useTls != other.useTls)

/-- The kinds of upstreams that a scheme of their own names. -/
structure KindByScheme (scheme : Text → Prop) (upstream : Upstream) : Prop where
  file : scheme "file" ↔ ∃ root, upstream = .file root
  consul : scheme "consul" ↔ ∃ service, upstream = .consul service
  auto : scheme "auto" ↔ ∃ host port, upstream = .auto host port

theorem getD_le {found : Option Nat} {other : Nat}
    (fits : ∀ port ∈ found, port ≤ u16Max) (small : other ≤ u16Max) :
    found.getD other ≤ u16Max := by
  cases found with
  | none => exact small
  | some value => exact fits value rfl

theorem ofUrl_spec {url : Url} {upstream : Upstream}
    (port : ∀ port ∈ url.port, port ≤ u16Max)
    (known : ∀ port ∈ url.portOrKnownDefault, port ≤ u16Max)
    (named : ofUrl url = some upstream) :
    KindByScheme (fun scheme => url.scheme = scheme) upstream ∧
      upstreamPort upstream ≤ u16Max := by
  unfold ofUrl at named
  split at named
  · next file =>
    split at named
    · cases named
    · cases named
      exact ⟨by constructor <;> simp [file], Nat.zero_le _⟩
  rename_i file
  split at named
  · next consul =>
    dsimp only at named
    split at named
    · cases named
    · cases named
      exact ⟨by constructor <;> simp [consul], Nat.zero_le _⟩
  rename_i consul
  split at named
  · next auto =>
    rcases map_eq_some_iff.mp named with ⟨host, _, rfl⟩
    exact ⟨by constructor <;> simp [auto], getD_le port (by decide)⟩
  · next auto =>
    rcases map_eq_some_iff.mp named with ⟨host, _, rfl⟩
    refine ⟨⟨by simpa using file, by simpa using consul, by simpa using auto⟩, ?_⟩
    apply getD_le known
    split <;> decide

theorem direct_ofHostPort (named : ofHostPort text = some upstream) :
    ∃ host port, port ≤ u16Max ∧ upstream = .direct host port false := by
  unfold ofHostPort at named
  split at named
  · rcases map_eq_some_iff.mp named with ⟨port, parsed, rfl⟩
    exact ⟨_, _, le_of_parseUnsigned parsed, rfl⟩
  · cases named
    exact ⟨_, _, by decide, rfl⟩

theorem namedUpstream_spec (ports : PortsFit platform)
    (named : namedUpstream platform raw = some upstream) :
    KindByScheme (HasScheme platform raw) upstream ∧ upstreamPort upstream ≤ u16Max := by
  unfold namedUpstream at named
  split at named
  · cases named
  cases parsed : upstreamUrl platform raw with
  | none =>
    rw [parsed] at named
    rcases direct_ofHostPort named with ⟨host, port, fits, rfl⟩
    refine ⟨?_, fits⟩
    constructor <;> simp [HasScheme, parsed]
  | some url =>
    rw [parsed] at named
    have fits : (∀ port ∈ url.port, port ≤ u16Max) ∧
        ∀ port ∈ url.portOrKnownDefault, port ≤ u16Max := by
      unfold upstreamUrl at parsed
      split at parsed
      · exact ports _ url parsed
      · cases parsed
    have same : HasScheme platform raw = fun scheme => url.scheme = scheme := by
      funext scheme
      simp [HasScheme, parsed]
    rw [same]
    exact ofUrl_spec fits.1 fits.2 named

open Net

theorem rsplitOnce_eq_some {separator : Char} {text left right : Text}
    (split : rsplitOnce separator text = some (left, right)) :
    text = left ++ separator :: right ∧ separator ∉ right := by
  obtain ⟨⟨first, second⟩, found, same⟩ := map_eq_some_iff.mp split
  obtain ⟨whole, plain⟩ := splitOnce_eq_some.mp found
  cases same
  refine ⟨?_, by simpa using plain⟩
  rw [← List.reverse_reverse text, whole]
  simp

def upstreamAuthority (raw : Text) : Text := before '/' (upstreamText raw)

/-- The host and the port of the URL, or before and after the last colon, with the default
port of the scheme. -/
def splitPeer (platform : Platform) (raw : Text) : Option (Text × Nat) :=
  match upstreamUrl platform raw with
  | some url => url.host.map fun host =>
    (host, url.portOrKnownDefault.getD (if url.scheme = "https".toList then 443 else 80))
  | none =>
    match rsplitOnce ':' (upstreamAuthority raw) with
    | some (host, port) => (parseUnsigned u16Max port).map (host, ·)
    | none => some (upstreamAuthority raw, 80)

/-- An IPv6 address without brackets. -/
def IsBareIpv6 (platform : Platform) (raw : Text) : Prop :=
  upstreamUrl platform raw = none ∧ ':' ∈ upstreamAuthority raw ∧
    (IpAddr.parse (upstreamAuthority raw)).isSome = true

instance (platform : Platform) (raw : Text) : Decidable (IsBareIpv6 platform raw) :=
  inferInstanceAs (Decidable (_ ∧ _))

/-- The colons of an IPv6 address do not come before a port. -/
def writtenPeer (platform : Platform) (raw : Text) : Option (Text × Nat) :=
  if IsBareIpv6 platform raw then some (upstreamAuthority raw, 80) else splitPeer platform raw

/-- An accepted upstream other than a file, Consul or `auto` URL. -/
structure HostUpstream where
  platform : Platform
  ports : PortsFit platform
  raw : Text
  backend : Backend
  accepted : parseUpstream platform raw = some backend
  remote : ∀ scheme ∈ ["file".toList, "consul".toList, "auto".toList],
    ¬ HasScheme platform raw scheme

namespace HostUpstream

variable (upstream : HostUpstream)

def peer : Except ForwardError (Text × Nat) :=
  parseBackendPeer upstream.backend.address upstream.backend.port

theorem peer_eq : ∃ host port, splitPeer upstream.platform upstream.raw = some (host, port) ∧
      upstream.peer = .ok (normalizeUpstreamHost host, port) ∧ upstream.backend.useTls =
        (upstreamUrl upstream.platform upstream.raw).any (·.scheme == "https".toList) := by
  obtain ⟨platform, ports, raw, backend, accepted, remote⟩ := upstream
  unfold peer splitPeer
  rw [parseUpstream_eq] at accepted
  obtain ⟨named, found, rfl⟩ := map_eq_some_iff.mp accepted
  have fits := (namedUpstream_spec ports found).2
  have spoken : ∀ {host port useTls}, named = .direct host port useTls →
      parseBackendPeer named.backend.address named.backend.port = .ok (host, port) ∧
        named.backend.useTls = useTls := by
    rintro host port useTls rfl
    exact ⟨parseBackendPeer_hostPort host fits port, rfl⟩
  unfold namedUpstream at found
  split at found
  · cases found
  cases parsed : upstreamUrl platform raw with
  | some url =>
    have other : ∀ scheme ∈ ["file".toList, "consul".toList, "auto".toList],
        url.scheme ≠ scheme := fun scheme listed same =>
      remote scheme listed ⟨url, parsed, same⟩
    rw [parsed] at found
    dsimp only at found ⊢
    unfold Upstream.ofUrl at found
    rw [if_neg (other _ (by decide)), if_neg (other _ (by decide)),
      if_neg (other _ (by decide))] at found
    obtain ⟨host, given, same⟩ := map_eq_some_iff.mp found
    rw [given]
    refine ⟨host, _, rfl, ?_⟩
    have direct := spoken same.symm
    simp only [beq_iff_eq] at direct
    exact direct
  | none =>
    rw [parsed] at found
    unfold Upstream.ofHostPort at found
    unfold upstreamAuthority
    cases divided : rsplitOnce ':' (before '/' (upstreamText raw)) with
    | some parts =>
      rcases parts with ⟨host, port⟩
      rw [divided] at found
      obtain ⟨number, read, same⟩ := map_eq_some_iff.mp found
      dsimp only
      rw [read]
      exact ⟨host, number, rfl, spoken same.symm⟩
    | none =>
      rw [divided] at found
      exact ⟨_, 80, rfl, spoken (some.inj found).symm⟩

/-- The peer has a name, and it is the host and the port that are written. -/
def ReachesWritten : Prop :=
  ∃ host port, upstream.peer = .ok (host, port) ∧ host ≠ [] ∧
    writtenPeer upstream.platform upstream.raw = some (host, port)

/-- The name itself is the peer, unless it is `localhost`. -/
theorem eq_normalizeUpstreamHost_iff (host : Text) :
    host = normalizeUpstreamHost host ↔ eqIgnoreAsciiCase host "localhost" = false := by
  unfold normalizeUpstreamHost
  split
  next same =>
    refine iff_of_false ?_ (ne_false_of_eq_true same)
    rintro rfl
    exact absurd same (by decide)
  next other => exact iff_of_true rfl (by simpa using other)

/-- The written peer is reached exactly when it has a name that is not `localhost` and is
not an IPv6 address without brackets. -/
theorem reaches_written_iff : upstream.ReachesWritten ↔
      ¬ IsBareIpv6 upstream.platform upstream.raw ∧
        ∀ host port, writtenPeer upstream.platform upstream.raw = some (host, port) →
          host ≠ [] ∧ eqIgnoreAsciiCase host "localhost" = false := by
  obtain ⟨host, port, split, peer, -⟩ := upstream.peer_eq
  unfold ReachesWritten writtenPeer
  rw [peer]
  by_cases bare : IsBareIpv6 upstream.platform upstream.raw
  · rw [if_pos bare]
    refine iff_of_false ?_ fun holds => holds.1 bare
    rintro ⟨_, _, reached, -, written⟩
    cases reached
    have whole : upstreamAuthority upstream.raw = normalizeUpstreamHost host :=
      (Prod.mk.inj (some.inj written)).1
    unfold splitPeer at split
    rw [bare.1] at split
    cases found : rsplitOnce ':' (upstreamAuthority upstream.raw) with
    | none =>
      have plain := splitOnce_eq_none.mp (map_eq_none_iff.mp found)
      exact plain (List.mem_reverse.mpr bare.2.1)
    | some halves =>
      rw [found] at split
      obtain ⟨number, -, same⟩ := map_eq_some_iff.mp split
      have longer := (rsplitOnce_eq_some found).1
      rw [(Prod.mk.inj same).1, whole] at longer
      unfold normalizeUpstreamHost at longer whole
      split at longer
      next =>
        have colon : ':' ∈ "127.0.0.1".toList := longer ▸ by simp
        exact absurd colon (by decide)
      next => simp at longer
  rw [if_neg bare, split]
  constructor
  · rintro ⟨_, _, reached, given, written⟩
    cases reached
    have same : host = normalizeUpstreamHost host := (Prod.mk.inj (some.inj written)).1
    refine ⟨bare, fun name number spelled => ?_⟩
    cases spelled
    exact ⟨same ▸ given, (eq_normalizeUpstreamHost_iff host).mp same⟩
  · rintro ⟨-, plain⟩
    obtain ⟨given, other⟩ := plain host port rfl
    have same := (eq_normalizeUpstreamHost_iff host).mpr other
    exact ⟨host, port, by rw [← same], given, rfl⟩

/-- No URL is read. -/
def spelled (raw : Text) (backend : Backend)
    (accepted : parseUpstream default raw = some backend)
    (plain : upstreamUrl default raw = none) : HostUpstream where
  platform := default
  ports := fun _ _ parsed => by cases parsed
  raw
  backend
  accepted
  remote := by
    rintro scheme - ⟨url, parsed, -⟩
    rw [plain] at parsed
    cases parsed

/-- A peer without a name, and an IPv6 address that loses its end. -/
theorem odd_hosts_accepted :
    let unnamed := spelled ":8080" _ rfl rfl
    let bare := spelled "::1" _ rfl rfl
    unnamed.peer = .ok ([], 8080) ∧ ¬ unnamed.ReachesWritten ∧
      bare.peer = .ok (":".toList, 1) ∧
      writtenPeer default "::1" = some ("::1".toList, 80) := by
  refine ⟨by decide, ?_, by decide, by decide⟩
  rintro ⟨host, port, reached, given, -⟩
  cases reached
  exact given rfl

end HostUpstream

structure ParsedUpstreamEndpoint where
  scheme : Text
  host : Text
  port : Nat
deriving DecidableEq

/-- What is before and after the bracket that ends a host. -/
def closingBracket (rest : Text) : Option (Text × Text) :=
  if startsWith rest "[" then splitOnce ']' rest else none

def endpointPort (after : Text) (defaultPort : Nat) : Nat :=
  ((stripPrefix after ":").bind (parseUnsigned u16Max)).getD defaultPort

def portedHost (rest : Text) : Option (Text × Nat) := do
  let (host, digits) ← rsplitOnce ':' rest
  let port ← parseUnsigned u16Max digits
  if host ≠ [] ∧ ':' ∉ host then some (host, port) else none

/-- `parse_host_port` of `proxy_config.rs`. -/
def endpointHostPort (rest : Text) (defaultPort : Nat) : Text × Nat :=
  let rest := trim rest
  if rest.isEmpty then ([], defaultPort)
  else
    match closingBracket rest with
    | some (inside, after) => (inside ++ [']'], endpointPort after defaultPort)
    | none => (portedHost rest).getD (rest, defaultPort)

def endpointScheme (trimmed : Text) : Text × Text :=
  match stripPrefix trimmed "https://" with
  | some rest => ("https", rest)
  | none => ("http", (stripPrefix trimmed "http://").getD trimmed)

def parseUpstreamEndpoint (raw : Text) : ParsedUpstreamEndpoint :=
  let (scheme, rest) := endpointScheme (trim raw)
  let defaultPort := if scheme == "https".toList then 443 else 80
  let (host, port) := endpointHostPort rest defaultPort
  { scheme, host, port }

/-- The text is a host without a colon, a colon, and a port. -/
def NamesPort (text host : Text) (port : Nat) : Prop :=
  ∃ digits, text = host ++ ':' :: digits ∧ parseUnsigned u16Max digits = some port ∧
    host ≠ [] ∧ ':' ∉ host

/-- The text is the host and, for another port than the default one, a colon and the port.
A host in brackets may be followed by anything else. -/
def SpelledAs (text : Text) (defaultPort : Nat) (host : Text) (port : Nat) : Prop :=
  if startsWith text "[" = true ∧ ']' ∈ text then
    ∃ inside after, host = inside ++ [']'] ∧ ']' ∉ inside ∧ text = host ++ after ∧
      endpointPort after defaultPort = port
  else
    NamesPort text host port ∨
      text = host ∧ port = defaultPort ∧ ∀ name number, ¬ NamesPort text name number

theorem portedHost_eq_some (text host : Text) (port : Nat) :
    portedHost text = some (host, port) ↔ NamesPort text host port := by
  unfold portedHost NamesPort
  constructor
  · intro ported
    obtain ⟨⟨name, digits⟩, split, ported⟩ := bind_eq_some_iff.mp ported
    obtain ⟨number, read, ported⟩ := bind_eq_some_iff.mp ported
    split at ported
    next plain =>
      cases ported
      exact ⟨digits, (rsplitOnce_eq_some split).1, read, plain⟩
    next => cases ported
  · rintro ⟨digits, rfl, read, plain⟩
    have absent : ':' ∉ digits := fun member =>
      absurd (mem_of_parseUnsigned read member) (by decide)
    simp [rsplitOnce_append host absent, read, plain]

theorem endpointHostPort_eq (rest : Text) (defaultPort : Nat) (host : Text) (port : Nat) :
    endpointHostPort rest defaultPort = (host, port) ↔
      SpelledAs (trim rest) defaultPort host port := by
  unfold endpointHostPort
  generalize trim rest = text
  have nonempty : (if text.isEmpty then ([], defaultPort) else
      match closingBracket text with
      | some (inside, after) => (inside ++ [']'], endpointPort after defaultPort)
      | none => (portedHost text).getD (text, defaultPort)) =
      match closingBracket text with
      | some (inside, after) => (inside ++ [']'], endpointPort after defaultPort)
      | none => (portedHost text).getD (text, defaultPort) := by
    cases text <;> rfl
  rw [nonempty]
  unfold SpelledAs closingBracket
  by_cases bracketed : startsWith text "[" = true ∧ ']' ∈ text
  · rw [if_pos bracketed, if_pos bracketed.1]
    cases found : splitOnce ']' text with
    | none => exact absurd bracketed.2 (splitOnce_eq_none.mp found)
    | some halves =>
      obtain ⟨inside, after⟩ := halves
      obtain ⟨whole, plain⟩ := splitOnce_eq_some.mp found
      constructor
      · intro same
        cases same
        exact ⟨inside, after, rfl, plain, by simp [whole], rfl⟩
      · rintro ⟨first, last, rfl, open_, whole', rfl⟩
        have again := splitOnce_eq_some.mpr ⟨by simpa using whole', open_⟩
        rw [found] at again
        cases again
        rfl
  have unclosed : (if startsWith text "[" then splitOnce ']' text else none) = none := by
    split
    next starts => exact splitOnce_eq_none.mpr fun member => bracketed ⟨starts, member⟩
    next => rfl
  rw [if_neg bracketed, unclosed]
  simp only [← portedHost_eq_some]
  cases portedHost text with
  | some peer =>
    obtain ⟨name, number⟩ := peer
    simp
  | none => simp [eq_comm]

/-- An accepted upstream that is an `http` or `https` URL or none. -/
structure WebUpstream extends HostUpstream where
  web : ∀ url, upstreamUrl platform raw = some url →
    url.scheme = "http".toList ∨ url.scheme = "https".toList

namespace WebUpstream

variable (upstream : WebUpstream)

/-- The admin view has the peer that requests are sent to, and its transport. -/
def ReportsPeer : Prop :=
  let endpoint := parseUpstreamEndpoint upstream.raw
  upstream.peer = .ok (normalizeUpstreamHost endpoint.host, endpoint.port) ∧
    (endpoint.scheme = "https".toList ↔ upstream.backend.useTls = true)

/-- Behind a scheme in lower case there is the host, and the port unless it is the default
one, and nothing else. -/
theorem reports_peer_iff : upstream.ReportsPeer ↔
      let (scheme, rest) := endpointScheme (trim upstream.raw)
      (scheme = "https".toList ↔
        (upstreamUrl upstream.platform upstream.raw).any (·.scheme == "https".toList) = true) ∧
      ∃ host port name, splitPeer upstream.platform upstream.raw = some (host, port) ∧
        normalizeUpstreamHost name = normalizeUpstreamHost host ∧
        SpelledAs (trim rest) (if scheme == "https".toList then 443 else 80) name port := by
  obtain ⟨host, port, split, peer, tls⟩ := upstream.peer_eq
  unfold ReportsPeer parseUpstreamEndpoint
  dsimp only
  rw [peer, tls, split, and_comm]
  refine and_congr_right fun _ => ?_
  simp only [← endpointHostPort_eq]
  constructor
  · intro same
    have parts := Prod.mk.inj (Except.ok.inj same)
    exact ⟨host, port, _, rfl, parts.1.symm, by rw [parts.2]⟩
  · rintro ⟨_, _, name, spelt, same, read⟩
    cases spelt
    rw [read, same]

end WebUpstream

/-- The path of an upstream is shown as a part of its host, and its port is lost. -/
theorem path_shown_as_host :
    let upstream : WebUpstream :=
      { HostUpstream.spelled "h:8080/x" _ rfl rfl with web := fun _ parsed => by cases parsed }
    upstream.peer = .ok ("h".toList, 8080) ∧
      parseUpstreamEndpoint "h:8080/x" = ⟨"http".toList, "h:8080/x".toList, 80⟩ ∧
      ¬ upstream.ReportsPeer := by
  refine ⟨by decide, by decide, fun reports => ?_⟩
  exact absurd reports.1 (by decide)

end PertiskProxy.Proxy
