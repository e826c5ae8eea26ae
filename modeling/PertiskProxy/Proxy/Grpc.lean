import PertiskProxy.Http.Message

/-! gRPC, event streams, and WebSocket upgrades, told apart by method, path, and headers
(`proxy/grpc.rs`), and registry paths (`proxy/registry.rs`). -/

namespace PertiskProxy.Proxy.Grpc

open Http Text Bool

def contentTypeStartsWith (headers : HeaderMap) (lead : Text) : Bool :=
  match headers.getStr "content-type" with
  | some contentType => startsWith contentType lead
  | none => false

def isGrpcRequest (headers : HeaderMap) : Bool :=
  contentTypeStartsWith headers "application/grpc" &&
    !contentTypeStartsWith headers "application/grpc-web"

def isGrpcRpcPath (path : Text) : Bool :=
  let path := before '?' path
  startsWith path "/api/" && path.len > 5 && path.any (· == '.') &&
    path.any (· == '/')

def isMachineApiHost (host : Text) : Bool :=
  eqIgnoreAsciiCase (trim (before ':' host)) "api.omni.pertisk.com"

def isGrpcWebRequest (headers : HeaderMap) (method path : Text) : Bool :=
  let rpc := method == "POST".toList && isGrpcRpcPath path
  if contentTypeStartsWith headers "application/grpc-web" then rpc
  else if (headers.getStr "x-grpc-web").map trim == some "1".toList then rpc
  else rpc && headers.any fun header => startsWith header.1 "grpc-metadata-"

def classifyGrpcRequest (headers : HeaderMap) (method path host : Text) : Bool × Bool :=
  let onApiRpc := method == "POST".toList && isGrpcRpcPath path
  let isGrpcWeb := isGrpcWebRequest headers method path ||
    (onApiRpc && isGrpcRequest headers && !isMachineApiHost host)
  (isGrpcRequest headers || isGrpcWeb, isGrpcWeb)

def isConnectRequest (headers : HeaderMap) : Bool :=
  (headers.get "connect-protocol-version").isSome ||
    contentTypeStartsWith headers "application/connect"

def isSseRequest (method path : Text) (headers : HeaderMap) : Bool :=
  if method != "GET".toList then false
  else if (match headers.getStr "accept" with
      | some accept => (accept.splitOn ',').any fun part =>
        startsWith (trim part) "text/event-stream"
      | none => false) then true
  else
    let path := before '?' path
    path == "/events".toList || path == "/api/events".toList || endsWith path "/events"

def grpcRpcMethod (path : Text) : Option Text :=
  let path := before '?' path
  let last := match rsplitOnce '/' path with
    | some (_, tail) => tail
    | none => path
  if last.isEmpty then none else some last

def streamingMethods : List Text :=
  ["Watch", "Subscribe", "Listen", "Stream", "Tail", "Events"]

def isGrpcServerStreaming (path : Text) : Bool :=
  match grpcRpcMethod path with
  | some method => streamingMethods.contains method
  | none => false

def isLongLivedApiStream (method path : Text) (headers : HeaderMap) : Bool :=
  if isSseRequest method path headers then true
  else
    let path := before '?' path
    (method == "GET".toList && path == "/api/live".toList) ||
      (method == "POST".toList && isGrpcRpcPath path &&
        (isGrpcServerStreaming path || isConnectRequest headers))

def headerLists (headers : HeaderMap) (name word : Text) : Bool :=
  match headers.getStr name with
  | some value => (value.splitOn ',').any fun part =>
    eqIgnoreAsciiCase (trim part) word
  | none => false

def isWebsocketUpgrade (method : Text) (headers : HeaderMap) : Bool :=
  method == "GET".toList && headerLists headers "upgrade" "websocket" &&
    headerLists headers "connection" "upgrade"

def isGrpcLikeRequest (headers : HeaderMap) (method path : Text) : Bool :=
  isGrpcRequest headers || isGrpcWebRequest headers method path

/-- Requests HTTP/3 cannot proxy, since it buffers whole responses. -/
def isH3IncompatibleRequest (headers : HeaderMap) (method path : Text) : Bool :=
  isSseRequest method path headers || isGrpcLikeRequest headers method path ||
    (method == "POST".toList && isGrpcRpcPath path)

def validateDownstream (method : Text) (isHttp2 isGrpcWeb : Bool) : Except Text Unit :=
  if method != "POST".toList then .error "gRPC requires POST"
  else if !isGrpcWeb && !isHttp2 then .error "gRPC requires HTTP/2"
  else .ok ()

theorem isH3IncompatibleRequest_of_isGrpc
    (isGrpc : (classifyGrpcRequest headers method path host).1 = true) :
    isH3IncompatibleRequest headers method path = true := by
  simp only [classifyGrpcRequest, or_eq_true, and_eq_true] at isGrpc
  simp only [isH3IncompatibleRequest, isGrpcLikeRequest, or_eq_true, and_eq_true]
  rcases isGrpc with native | web | ⟨⟨rpc, -⟩, -⟩
  · exact .inl (.inr (.inl native))
  · exact .inl (.inr (.inr web))
  · exact .inr rpc

theorem isGrpcRpcPath_before (path : Text) :
    isGrpcRpcPath (before '?' path) = isGrpcRpcPath path := by
  rw [isGrpcRpcPath, before_eq_self (not_mem_before '?' path), isGrpcRpcPath]

/-- gRPC requests and long-lived streams are kept from HTTP/3, except for a visit to the
live stream of the admin that does not ask for events. -/
theorem streams_incompatible_iff (headers : HeaderMap) (method path host : Text) :
    ((classifyGrpcRequest headers method path host).1 = true ∨
        isLongLivedApiStream method path headers = true →
      isH3IncompatibleRequest headers method path = true) ↔
      (method = "GET".toList → before '?' path = "/api/live".toList →
        isSseRequest method path headers = true ∨ isGrpcRequest headers = true) := by
  constructor
  · intro incompatible get live
    have streams : isLongLivedApiStream method path headers = true := by
      simp [isLongLivedApiStream, get, live]
    have kept := incompatible (.inr streams)
    have unposted : (method == "POST".toList) = false := by rw [get]; decide
    simp only [isH3IncompatibleRequest, isGrpcLikeRequest, isGrpcWebRequest, unposted,
      Bool.false_and, ite_self, Bool.or_false, Bool.or_eq_true] at kept
    exact kept
  rintro told (isGrpc | streams)
  · exact isH3IncompatibleRequest_of_isGrpc isGrpc
  simp only [isLongLivedApiStream, isGrpcRpcPath_before, Bool.if_true_left, Bool.or_eq_true,
    and_eq_true, beq_iff_eq, decide_eq_true_eq] at streams
  simp only [isH3IncompatibleRequest, isGrpcLikeRequest, or_eq_true, and_eq_true,
    beq_iff_eq]
  rcases streams with events | ⟨get, live⟩ | ⟨rpc, -⟩
  · exact .inl (.inl events)
  · exact .inl ((told get live).imp_right .inl)
  · exact .inr rpc

theorem live_stream_compatible :
    isLongLivedApiStream "GET" "/api/live" [] = true ∧
      isH3IncompatibleRequest [] "GET" "/api/live" = false := by
  decide

theorem isH3IncompatibleRequest_congr {left right : HeaderMap}
    (accept : left.getStr "accept" = right.getStr "accept")
    (contentType : left.getStr "content-type" = right.getStr "content-type")
    (grpcWeb : left.getStr "x-grpc-web" = right.getStr "x-grpc-web")
    (metadata : (left.any fun header => startsWith header.1 "grpc-metadata-") =
      right.any fun header => startsWith header.1 "grpc-metadata-")
    (method path : Text) :
    isH3IncompatibleRequest left method path = isH3IncompatibleRequest right method path := by
  have sse : isSseRequest method path left = isSseRequest method path right := by
    rw [isSseRequest, isSseRequest, accept]
  have types : contentTypeStartsWith left = contentTypeStartsWith right := by
    funext lead
    rw [contentTypeStartsWith, contentTypeStartsWith, contentType]
  have native : isGrpcRequest left = isGrpcRequest right := by
    rw [isGrpcRequest, isGrpcRequest, types]
  have web : isGrpcWebRequest left method path = isGrpcWebRequest right method path := by
    rw [isGrpcWebRequest, isGrpcWebRequest, types, grpcWeb, metadata]
  rw [isH3IncompatibleRequest, isH3IncompatibleRequest, isGrpcLikeRequest, isGrpcLikeRequest,
    sse, native, web]

end PertiskProxy.Proxy.Grpc

namespace PertiskProxy.Proxy.Registry

open Text

def isOciRegistryPath (path : Text) : Bool :=
  let path := before '?' path
  path == "/v2".toList || startsWith path "/v2/" || path == "/service/token".toList

end PertiskProxy.Proxy.Registry
