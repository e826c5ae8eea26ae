import PertiskProxy.Http.Message
import PertiskProxy.Net.IpAddr

/-! Which address a request is attributed to, from the socket and the proxy headers
(`proxy/forward.rs`). -/

namespace PertiskProxy.Proxy

open Net

def firstHopFromXff (xff : Option Text) : Option Text :=
  xff.bind fun value =>
    let ip := Text.trimMatches (· == '"') (Text.trim (Text.before ',' value))
    if ip.isEmpty then none else some ip

/-- Strip the zone id and brackets, and unwrap IPv4-mapped IPv6. -/
def normalizeIpStr (ip : Text) : Option Text :=
  let ip := Text.trimMatches (fun c => c == '[' || c == ']') (Text.trim ip)
  let ip := Text.trim (Text.before '%' ip)
  if ip.isEmpty then none
  else
    match IpAddr.parse ip with
    | some (.v6 v6) =>
      match v6.toIpv4Mapped with
      | some v4 => some v4.toText
      | none => some v6.toText
    | some (.v4 v4) => some v4.toText
    | none => none

def isPublicRoutableIp (ip : Text) : Bool :=
  match normalizeIpStr ip with
  | none => false
  | some normalized =>
    match IpAddr.parse normalized with
    | some (.v4 v4) => v4.isPublicRoutable
    | some (.v6 v6) => v6.isPublicRoutable
    | none => false

/-- The socket peer when it is a public address, then `X-Real-IP` when public,
the first hop of `X-Forwarded-For`, `X-Real-IP`, and the socket as a last
resort. -/
def resolveClientIp (socketIp xff xRealIp : Option Text) : Option Text :=
  match (socketIp.bind normalizeIpStr).filter isPublicRoutableIp with
  | some ip => some ip
  | none =>
    match (xRealIp.bind normalizeIpStr).filter isPublicRoutableIp with
    | some ip => some ip
    | none =>
      match (firstHopFromXff xff).bind normalizeIpStr with
      | some ip => some ip
      | none =>
        match xRealIp.bind normalizeIpStr with
        | some ip => some ip
        | none => socketIp.bind normalizeIpStr

theorem normalizeIpStr_printed (found : normalizeIpStr ip = some normalized) :
    ∃ address : IpAddr, normalized = address.toText := by
  unfold normalizeIpStr at found
  dsimp only at found
  split at found
  · cases found
  split at found
  · next v6 _ =>
    split at found
    · next v4 _ => exact ⟨.v4 v4, (Option.some.inj found).symm⟩
    · exact ⟨.v6 v6, (Option.some.inj found).symm⟩
  · next v4 _ => exact ⟨.v4 v4, (Option.some.inj found).symm⟩
  · cases found

theorem bind_normalizeIpStr_printed {source : Option Text} {ip : Text}
    (found : source.bind normalizeIpStr = some ip) : ∃ address : IpAddr, ip = address.toText := by
  rcases Option.bind_eq_some_iff.mp found with ⟨_, _, normalized⟩
  exact normalizeIpStr_printed normalized

theorem resolveClientIp_printed (resolved : resolveClientIp socketIp xff xRealIp = some ip) :
    ∃ address : IpAddr, ip = address.toText := by
  unfold resolveClientIp at resolved
  split at resolved
  · next socket filtered =>
    cases resolved
    exact bind_normalizeIpStr_printed (Option.filter_eq_some_iff.mp filtered).1
  split at resolved
  · next real filtered =>
    cases resolved
    exact bind_normalizeIpStr_printed (Option.filter_eq_some_iff.mp filtered).1
  split at resolved
  · next hop found =>
    cases resolved
    exact bind_normalizeIpStr_printed found
  · split at resolved
    · next real found =>
      cases resolved
      exact bind_normalizeIpStr_printed found
    · exact bind_normalizeIpStr_printed resolved

def unmapped : IpAddr → IpAddr
  | .v4 address => .v4 address
  | .v6 address =>
    match address.toIpv4Mapped with
    | some mapped => .v4 mapped
    | none => .v6 address

theorem unmapped_idem (address : IpAddr) : unmapped (unmapped address) = unmapped address := by
  cases address with
  | v4 address => rfl
  | v6 address =>
    cases mapped : address.toIpv4Mapped <;> simp [unmapped, mapped]

theorem not_dropped_of_mem_toText {address : IpAddr} {c : Char}
    (member : c ∈ address.toText) :
    Text.isWhitespace c = false ∧ (c == '[' || c == ']') = false ∧ c ≠ '%' := by
  have digits : ∀ digit < 16, Text.isWhitespace (Nat.digitChar digit) = false ∧
      (Nat.digitChar digit == '[' || Nat.digitChar digit == ']') = false ∧
      Nat.digitChar digit ≠ '%' := by decide
  rcases IpAddr.mem_toText member with rfl | rfl | ⟨digit, small, rfl⟩
  · decide
  · decide
  · exact digits digit small

theorem normalizeIpStr_toText (address : IpAddr) :
    normalizeIpStr address.toText = some (unmapped address).toText := by
  have blanks : Text.trim address.toText = address.toText :=
    Text.trimMatches_eq_self fun c member => (not_dropped_of_mem_toText member).1
  have brackets : Text.trimMatches (fun c => c == '[' || c == ']') address.toText =
      address.toText :=
    Text.trimMatches_eq_self fun c member => (not_dropped_of_mem_toText member).2.1
  have zone : Text.before '%' address.toText = address.toText :=
    Text.before_eq_self fun member => (not_dropped_of_mem_toText member).2.2 rfl
  have some : address.toText.isEmpty = false := by simpa using address.toText_ne_nil
  simp only [normalizeIpStr, blanks, brackets, zone, some, Bool.false_eq_true, if_false,
    IpAddr.parse_toText]
  cases address with
  | v4 address => rfl
  | v6 address =>
    cases mapped : address.toIpv4Mapped <;> simp [unmapped, mapped, IpAddr.toText]

theorem isPublicRoutableIp_unmapped (address : IpAddr) :
    isPublicRoutableIp (unmapped address).toText = isPublicRoutableIp address.toText := by
  simp [isPublicRoutableIp, normalizeIpStr_toText, unmapped_idem]

theorem resolveClientIp_of_public (routable : isPublicRoutableIp address.toText = true)
    (xff xRealIp : Option Text) :
    resolveClientIp (some address.toText) xff xRealIp = some (unmapped address).toText := by
  have found : ((some address.toText).bind normalizeIpStr).filter isPublicRoutableIp =
      some (unmapped address).toText := by
    simp [normalizeIpStr_toText, isPublicRoutableIp_unmapped, routable]
  simp only [resolveClientIp, found]

example : resolveClientIp (some "10.0.0.5") (some "203.0.113.9, 10.0.0.1") none =
    some "203.0.113.9".toList := by decide

/-! What the gateway reads from a connection: addresses, transport, and query parameters
(`proxy/mod.rs`). -/

open Http

inductive SocketAddr where
  | inet (ip : IpAddr)
  | unix
deriving DecidableEq

namespace SocketAddr

def ip : SocketAddr → Option IpAddr
  | .inet ip => some ip
  | .unix => none

end SocketAddr

/-- A downstream session. `sslDigest` tells whether the connection has one, that
is, whether it was accepted by a TLS listener. -/
structure Session where
  req : RequestHeader
  clientAddr : Option SocketAddr := none
  peerAddr : Option SocketAddr := none
  isHttp2 : Bool := false
  sslDigest : Bool := false
deriving DecidableEq

def sessionClientIp (session : Session) : Option Text :=
  let socketIp := ((session.clientAddr.or session.peerAddr).bind SocketAddr.ip).map
    IpAddr.toText
  resolveClientIp socketIp (session.req.headers.getStr "x-forwarded-for")
    (session.req.headers.getStr "x-real-ip")

def clientHeaders : List Text :=
  ["cf-connecting-ip", "true-client-ip", "x-client-ip", "x-real-ip", "x-forwarded-for"]

/-- The address in the first client header that has one, as it stands there. -/
def clientIpFromHttpHeaders (headers : HeaderMap) : Option Text :=
  clientHeaders.findSome? fun name =>
    (headers.getStr name).bind fun value =>
      if name = "x-forwarded-for".toList then firstHopFromXff (some value)
      else if (Text.trim value).isEmpty then none
      else some (Text.trim value)

theorem clientIpFromHttpHeaders_congr
    (same : ∀ name, name ≠ "host".toList → left.getStr name = right.getStr name) :
    clientIpFromHttpHeaders left = clientIpFromHttpHeaders right := by
  simp only [clientIpFromHttpHeaders, clientHeaders, List.findSome?_cons, List.findSome?_nil]
  rw [same _ (by decide), same _ (by decide), same _ (by decide), same _ (by decide),
    same _ (by decide)]

def forwardedHttps (session : Session) : Bool :=
  session.req.headers.getStr "x-forwarded-proto" == some "https".toList

def secureScheme (session : Session) : Bool :=
  session.req.uri.scheme == some "https".toList || session.req.uri.scheme == some "wss".toList

def isDownstreamTls (session : Session) : Bool :=
  session.sslDigest || session.isHttp2 || secureScheme session || forwardedHttps session

def isPlainHttp (session : Session) : Bool :=
  !forwardedHttps session && !secureScheme session

theorem isPlainHttp_eq_false : isPlainHttp session = false ↔
      session.req.headers.getStr "x-forwarded-proto" = some "https".toList ∨
        session.req.uri.scheme = some "https".toList ∨
        session.req.uri.scheme = some "wss".toList := by
  simp [isPlainHttp, forwardedHttps, secureScheme, ← Bool.not_eq_true]
  tauto

def hexValue (byte : UInt8) : Option Nat :=
  if 48 ≤ byte && byte ≤ 57 then some (byte.toNat - 48)
  else if 65 ≤ byte && byte ≤ 70 then some (byte.toNat - 55)
  else if 97 ≤ byte && byte ≤ 102 then some (byte.toNat - 87)
  else none

def decodeBytes : Bytes → Option Bytes
  | [] => some []
  | 43 :: rest => (decodeBytes rest).map (32 :: ·)
  | 37 :: high :: low :: rest =>
    match hexValue high, hexValue low with
    | some high, some low => (decodeBytes rest).map (UInt8.ofNat (high * 16 + low) :: ·)
    | _, _ => none
  | byte :: rest => (decodeBytes rest).map (byte :: ·)

def urlencodingDecode (input : Text) : Option Text :=
  (decodeBytes input.asBytes).bind Bytes.fromUtf8

def rawParam (query key : Text) : Option Text :=
  ((query.splitOn '&').find? fun pair => Text.before '=' pair == key).map fun pair =>
    ((Text.splitOnce '=' pair).map Prod.snd).getD []

def queryParam (query key : Text) : Option Text :=
  (rawParam query key).map fun value =>
    (urlencodingDecode value).getD (Text.replaceChar '+' " " value)

/-- The decoder of the HTTP/3 plane, which leaves escapes alone. -/
def h3QueryParam (query key : Text) : Option Text :=
  (rawParam query key).map (Text.replaceChar '+' " ")

end PertiskProxy.Proxy
