import PertiskProxy.H3.Exchange
import PertiskProxy.Proxy.Exchange

/-! HTTP/2 and HTTP/3 have no headers that belong to one connection. -/

namespace PertiskProxy.Proxy

open H3 Http HeaderMap Quiche

def hopByHop : List Text :=
  [ "connection".toList, "keep-alive".toList, "proxy-connection".toList,
    "transfer-encoding".toList, "upgrade".toList ]

def nominated (headers : HeaderMap) : List Text :=
  ((headers.values "connection").flatMap fun value =>
    (value.map fun byte => Char.ofNat byte.toNat).splitOn ',').filterMap fun entry =>
      headerName (Text.trim entry)

/-- A header that an upstream sends for its own connection only. -/
def Forbidden (upstream : HeaderMap) (name : Text) : Prop :=
  name ∈ hopByHop ∨ name ∈ nominated upstream

/-- What Pingora does itself when it writes a response over HTTP/2. -/
structure Http2Writer where
  drops : List Text := []
  adds : HeaderMap := []

def Http2Writer.write (writer : Http2Writer) (headers : HeaderMap) : HeaderMap :=
  writer.drops.foldl remove headers ++ writer.adds

inductive Transmission where
  | quinn (route : H3.Route) (response : UpstreamResponse)
  | quiche (route : H3.Route) (response : UpstreamResponse)
  | http2 (exchange : Exchange) (http2 : exchange.session.isHttp2 = true) (reply : Reply)
      (replied : exchange.reply = some reply) (writer : Http2Writer)

namespace Transmission

def upstream : Transmission → HeaderMap
  | .quinn _ response | .quiche _ response => response.headers
  | .http2 _ _ reply _ _ => reply.header.headers

def sent : Transmission → Option HeaderMap
  | .quinn route response => some (Quinn.respond route response).header.headers
  | .quiche route response => (Quiche.respond route response).map (·.header.headers)
  | .http2 exchange _ reply _ writer =>
    some (writer.write (exchange.delivered reply).1.headers)

def Clean (transmission : Transmission) : Prop :=
  ∀ headers, transmission.sent = some headers →
    ∀ name, Forbidden transmission.upstream name → headers.values name = []

end Transmission

/-- A name is taken away, or left alone and not sent by the upstream. -/
def Withheld (fate : Option (List Bytes)) (upstream : List Bytes) : Prop :=
  fate = some [] ∨ fate = none ∧ upstream = []

/-- The condition under which a plane sends nothing that belongs to the connection of
the upstream. -/
def Transmission.Harmless : Transmission → Prop
  | .quinn route response =>
    ∀ name ∈ hopByHop, sets route.action.responseHeaders name = none ∧
      (name = "transfer-encoding".toList ∨ response.headers.values name = [])
  | .quiche route response =>
    (∃ header ∈ route.action.responseHeaders, Quiche.headerLine header = none) ∨
      ∀ name ∈ hopByHop, sets route.action.responseHeaders name = none ∧
        response.headers.values name = []
  | .http2 exchange _ reply _ writer =>
    ∀ name, Forbidden reply.header.headers name →
      writer.adds.values name = [] ∧
        (name ∈ writer.drops ∨
          Withheld (exchange.fate reply name) (reply.header.headers.values name))

theorem nominated_eq_nil (silent : headers.values "connection" = []) :
    nominated headers = [] := by
  rw [nominated, silent]
  rfl

theorem forbidden_of_silent (silent : headers.values "connection" = []) :
    Forbidden headers name ↔ name ∈ hopByHop := by
  simp [Forbidden, nominated_eq_nil silent]

theorem clean_iff_of_connection {upstream sent : HeaderMap}
    (passed : sent.values "connection" = [] → upstream.values "connection" = []) :
    (∀ name, Forbidden upstream name → sent.values name = []) ↔
      ∀ name ∈ hopByHop, sent.values name = [] := by
  constructor
  · intro clean name member
    exact clean name (.inl member)
  · intro clean name forbidden
    have silent := passed (clean "connection" (by decide))
    exact clean name ((forbidden_of_silent silent).mp forbidden)

/-! ## Quinn -/

section

theorem values_foldl_insert_eq_nil : values (inserted.foldl insert headers) name = [] ↔
      sets inserted name = none ∧ headers.values name = [] := by
  have kept := sets_ne_nil inserted name
  rw [values_foldl_insert]
  cases edited : sets inserted name with
  | none => simp
  | some left =>
    rw [edited] at kept
    simpa using kept

theorem values_rewriteLocation (other : name ≠ "location".toList) (headers : HeaderMap) :
    values (Quinn.rewriteLocation headers) name = headers.values name := by
  have location : headerName "location".toList = some "location".toList := rfl
  unfold Quinn.rewriteLocation
  split
  · apply values_insert_of_ne
    exact fun equal => other (Option.some.inj equal).symm
  · rfl

def touchedNames : List Text :=
  [ "server".toList, "content-length".toList, "x-app-name".toList, "set-cookie".toList,
    "alt-svc".toList, "location".toList ]

theorem untouched_of_hopByHop (member : name ∈ hopByHop) :
    ∀ touched ∈ touchedNames, touched ≠ name := by
  revert name
  decide

theorem values_quinn (member : name ∈ hopByHop) :
    (Quinn.responseHeaders route headers length).values name = [] ↔
      sets route.action.responseHeaders name = none ∧
        (name = "transfer-encoding".toList ∨ headers.values name = []) := by
  have untouched := untouched_of_hopByHop member
  have inserted {field lower : Text} (named : headerName field = some lower)
      (touched : lower ∈ touchedNames) (text : Text) (headers : HeaderMap) :
      values (headers.insert (field, text)) name = headers.values name := by
    apply values_insert_of_ne
    rw [named]
    exact fun equal => untouched lower touched (Option.some.inj equal)
  let own := [ ("content-length".toList, Text.ofNat length),
    ("server".toList, "pertisk-proxy/h3".toList),
    ("x-app-name".toList, route.process.appName) ].foldl insert
      ((headers.remove "server").remove "transfer-encoding")
  have owned : own.values name = [] ↔
      name = "transfer-encoding".toList ∨ headers.values name = [] := by
    simp only [own, List.foldl_cons, List.foldl_nil]
    rw [inserted (show headerName "x-app-name".toList = some "x-app-name".toList from rfl)
        (by decide),
      inserted (show headerName "server".toList = some "server".toList from rfl) (by decide),
      inserted (show headerName "content-length".toList = some "content-length".toList from rfl)
        (by decide)]
    by_cases coding : name = "transfer-encoding".toList
    · subst coding
      simp [values_remove, writes]
    · rw [values_remove_of_ne (Ne.symm coding),
        values_remove_of_ne (untouched _ (by decide))]
      exact (or_iff_right coding).symm
  have registry : (if route.ociRegistry then Quinn.rewriteLocation
      ((own.remove "set-cookie").insert ("Alt-Svc".toList, "clear".toList))
      else own).values name = own.values name := by
    split
    · rw [values_rewriteLocation (untouched _ (by decide)).symm,
        inserted (show headerName "Alt-Svc".toList = some "alt-svc".toList from rfl) (by decide),
        values_remove_of_ne (untouched _ (by decide))]
    · rfl
  rw [← owned, ← registry]
  exact values_foldl_insert_eq_nil

theorem quinn_clean_iff (route : H3.Route) (response : UpstreamResponse) :
    (Transmission.quinn route response).Clean ↔ (Transmission.quinn route response).Harmless := by
  let sent := (Quinn.respond route response).header.headers
  have clean : (Transmission.quinn route response).Clean ↔
      ∀ name, Forbidden response.headers name → sent.values name = [] := by
    simp [Transmission.Clean, Transmission.sent, Transmission.upstream, sent]
  have passed : sent.values "connection" = [] → response.headers.values "connection" = [] := by
    intro absent
    exact ((values_quinn (by decide)).mp absent).2.resolve_left (by decide)
  rw [clean, clean_iff_of_connection passed]
  exact forall₂_congr fun name member => values_quinn member

end

/-! ## Quiche -/

section

theorem sets_eq_none_iff (valid : headers.mapM headerLine = some added) :
    sets headers name = none ↔ HeaderMap.values added name = [] := by
  have each := Fallible.mapM_eq_some_iff.mp valid
  clear valid
  induction each with
  | nil => exact iff_of_true rfl rfl
  | @cons header line _ _ made _ induction =>
    rcases Option.bind_eq_some_iff.mp made with ⟨field, named, rest⟩
    rcases Option.map_eq_some_iff.mp rest with ⟨value, valued, rfl⟩
    rw [values_eq_nil] at induction ⊢
    rw [sets, Option.or_eq_none_iff, named, valued, List.forall_mem_cons, and_comm]
    exact and_congr (by simp) induction

theorem name_of_copyHeader (copies : copyHeader ociRegistry header = some copied) :
    copied.1 = header.1 := by
  unfold copyHeader at copies
  split at copies
  · cases copies
  · split at copies
    · cases copies
    · cases copies
      rfl

theorem copyHeader_isSome (ociRegistry : Bool) (member : header.1 ∈ hopByHop) :
    ∃ copied, copyHeader ociRegistry header = some copied := by
  have untouched := untouched_of_hopByHop member
  have server := untouched "server".toList (by decide)
  have cookie : ¬ (ociRegistry && decide (header.1 = "set-cookie".toList)) = true := by
    intro both
    have same := of_decide_eq_true (Bool.and_eq_true_iff.mp both).2
    exact untouched "set-cookie".toList (by decide) same.symm
  rw [copyHeader, if_neg server.symm, if_neg cookie]
  exact ⟨_, rfl⟩

theorem values_copied {ociRegistry : Bool} {headers : HeaderMap} {name : Text}
    (member : name ∈ hopByHop) :
    values (headers.filterMap (copyHeader ociRegistry)) name = [] ↔
      headers.values name = [] := by
  rw [values_eq_nil, values_eq_nil]
  constructor
  · intro absent header listed same
    subst same
    rcases copyHeader_isSome ociRegistry member with ⟨copied, copies⟩
    exact absent copied (List.mem_filterMap.mpr ⟨header, listed, copies⟩)
      (name_of_copyHeader copies)
  · intro absent copied listed same
    rcases List.mem_filterMap.mp listed with ⟨header, sent, copies⟩
    exact absent header sent ((name_of_copyHeader copies).symm.trans same)

theorem values_quiche (member : name ∈ hopByHop)
    (built : responseHeaders route headers = some sent) : sent.values name = [] ↔
      sets route.action.responseHeaders name = none ∧ headers.values name = [] := by
  have untouched := untouched_of_hopByHop member
  rcases Option.map_eq_some_iff.mp built with ⟨added, valid, rfl⟩
  have own : values [ ("server".toList, Text.asBytes "pertisk-proxy/h3"),
      ("x-app-name".toList, route.process.appName.asBytes) ] name = [] := by
    rw [values_eq_nil]
    intro header listed
    rcases List.mem_pair.mp listed with rfl | rfl
    · exact untouched "server".toList (by decide)
    · exact untouched "x-app-name".toList (by decide)
  have cleared : values
      (if route.ociRegistry then [("alt-svc".toList, Text.asBytes "clear")] else []) name = [] := by
    split
    · rw [values_eq_nil]
      intro header listed
      cases List.mem_singleton.mp listed
      exact untouched _ (by decide)
    · rfl
  rw [values_append, values_append, values_append, own, cleared,
    List.nil_append, List.append_nil, List.append_eq_nil_iff, values_copied member,
    sets_eq_none_iff valid, and_comm]

theorem quiche_clean_iff (route : H3.Route) (response : UpstreamResponse) :
    (Transmission.quiche route response).Clean ↔
      (Transmission.quiche route response).Harmless := by
  cases built : responseHeaders route response.headers with
  | none =>
    have silent : (Transmission.quiche route response).sent = none := by
      simp [Transmission.sent, respond, built]
    refine iff_of_true (fun headers sent => ?_) (.inl (responseHeaders_eq_none.mp built))
    rw [silent] at sent
    cases sent
  | some headers =>
    have valid : ¬ ∃ header ∈ route.action.responseHeaders, headerLine header = none := by
      intro invalid
      rw [responseHeaders_eq_none.mpr invalid] at built
      cases built
    have clean : (Transmission.quiche route response).Clean ↔
        ∀ name, Forbidden response.headers name → headers.values name = [] := by
      simp [Transmission.Clean, Transmission.sent, Transmission.upstream, respond, built]
    have passed : headers.values "connection" = [] →
        response.headers.values "connection" = [] := by
      intro absent
      exact ((values_quiche (by decide) built).mp absent).2
    rw [clean, clean_iff_of_connection passed, Transmission.Harmless, or_iff_right valid]
    exact forall₂_congr fun name member => values_quiche member built

end

/-! ## HTTP/2 -/

section

theorem values_delivered_eq_nil {course : Course} (given : course.connected.1 = true) :
    (course.delivered reply).1.headers.values name = [] ↔
      Withheld (course.fate reply name) (reply.header.headers.values name) := by
  rw [Course.values_delivered given, Withheld]
  cases course.fate reply name <;> simp

theorem values_write_eq_nil {writer : Http2Writer} {headers : HeaderMap} {name : Text} :
    (writer.write headers).values name = [] ↔
      writer.adds.values name = [] ∧ (name ∈ writer.drops ∨ headers.values name = []) := by
  have dropped : values (writer.drops.foldl remove headers) name = [] ↔
      name ∈ writer.drops ∨ headers.values name = [] := by
    generalize writer.drops = drops
    induction drops generalizing headers with
    | nil => simp
    | cons first rest induction =>
      rw [List.foldl_cons, induction, List.mem_cons, or_assoc, or_left_comm]
      by_cases same : first = name
      · subst same
        simp [values_remove, writes]
      · rw [values_remove_of_ne same]
        simp [Ne.symm same]
  rw [Http2Writer.write, values_append, List.append_eq_nil_iff, dropped, and_comm]

end

/-- Nothing that belongs to the connection of the upstream is sent exactly under the
condition for the plane. -/
theorem transmission_clean_iff (transmission : Transmission) :
    transmission.Clean ↔ transmission.Harmless := by
  cases transmission with
  | quinn route response => exact quinn_clean_iff route response
  | quiche route response => exact quiche_clean_iff route response
  | http2 exchange http2 reply replied writer =>
    have given := exchange.answered (Option.isSome_of_eq_some replied)
    simp [Transmission.Clean, Transmission.sent, Transmission.upstream, Transmission.Harmless,
      values_write_eq_nil, values_delivered_eq_nil given]

/-- The response of an upstream that keeps its connection alive and nominates `x-hop`. -/
def persistent : ResponseHeader where
  status := 200
  headers := [ ("connection".toList, Text.asBytes "keep-alive, X-Hop"),
    ("keep-alive".toList, Text.asBytes "timeout=5"), ("x-hop".toList, Text.asBytes "1") ]

/-- Both HTTP/3 servers pass `Connection` and `Keep-Alive` on. -/
theorem persistent_connection_passed_on :
    let route : H3.Route := { process := default, ociRegistry := false, action := {} }
    let response : UpstreamResponse := { persistent with body := [] }
    ¬ (Transmission.quinn route response).Clean ∧
      ¬ (Transmission.quiche route response).Clean := by
  intro route response
  have listed : Forbidden response.headers "keep-alive" := .inl (by decide)
  constructor
  · intro clean
    have absent := clean _ rfl _ listed
    revert absent
    decide
  · intro clean
    have absent := clean _ rfl _ listed
    revert absent
    decide

end PertiskProxy.Proxy
