import PertiskProxy.Tunnel.Server

/-! The token and the tunnels of the client in the session slot, and the connections that
accepted TCP connections are relayed over, in every state the server can reach. -/

namespace PertiskProxy.Tunnel

open List Server

/-- The ports by name are those of the tunnels, and no two tunnels share a port. -/
structure Registers (tunnels : List TunnelDef) (seen : HashMap Text Nat × List Nat) :
    Prop where
  named : ∀ name port, seen.1.get? name = some port ↔ { name, remotePort := port } ∈ tunnels
  ports : ∀ tunnel ∈ tunnels, tunnel.remotePort ∈ seen.2
  distinct : ∀ left ∈ tunnels, ∀ right ∈ tunnels, left.remotePort = right.remotePort →
    left = right

theorem Registers.addTunnel (registers : Registers tunnels seen)
    (added : Tunnel.addTunnel seen tunnel = .ok more) : Registers (tunnels ++ [tunnel]) more := by
  unfold Tunnel.addTunnel at added
  split at added
  · cases added
  split at added
  · cases added
  split at added
  · cases added
  next freshPort =>
  split at added
  · cases added
  next freshName =>
  cases added
  have newPort : tunnel.remotePort ∉ seen.2 := by simpa using freshPort
  have newName : seen.1.get? tunnel.name = none := by
    simpa [HashMap.contains] using freshName
  refine ⟨?_, ?_, ?_⟩
  · intro name port
    rw [HashMap.get?_insert, mem_append, mem_singleton, ← registers.named]
    by_cases same : name = tunnel.name
    · subst same
      rw [if_pos rfl, newName]
      constructor
      · intro equal
        cases equal
        exact .inr rfl
      · rintro (absent | equal)
        · cases absent
        · rw [← equal]
    rw [if_neg same]
    constructor
    · exact .inl
    · rintro (found | equal)
      · exact found
      · exact absurd (congrArg TunnelDef.name equal) same
  · intro other member
    rcases mem_append.mp member with old | new
    · exact mem_cons_of_mem _ (registers.ports other old)
    · rw [mem_singleton.mp new]
      exact mem_cons_self
  intro left leftMember right rightMember same
  rcases mem_append.mp leftMember with leftOld | leftNew <;>
    rcases mem_append.mp rightMember with rightOld | rightNew
  · exact registers.distinct left leftOld right rightOld same
  · rw [mem_singleton] at rightNew
    subst rightNew
    exact absurd (same ▸ registers.ports left leftOld) newPort
  · rw [mem_singleton] at leftNew
    subst leftNew
    exact absurd (same ▸ registers.ports right rightOld) newPort
  · rw [mem_singleton] at leftNew rightNew
    rw [leftNew, rightNew]

theorem Config.start_ok {config : Config} {app : AppState} (started : config.start = .ok app) :
    app.token = config.token ∧ ∃ ports, Registers config.tunnels (app.tunnels, ports) := by
  unfold Config.start at started
  split at started
  · cases started
  cases folded : config.tunnels.foldlM addTunnel (∅, []) with
  | error error =>
    rw [folded] at started
    cases started
  | ok seen =>
    rw [folded] at started
    cases started
    refine ⟨rfl, seen.2, ?_⟩
    apply Fallible.foldlM_invariant Registers _ _ folded
    · refine ⟨?_, by simp, by simp⟩
      intro name port
      exact ⟨fun absent => (by cases absent), fun absent => (by cases absent)⟩
    · intro tunnels tunnel seen next registers added
      exact registers.addTunnel added

/-! ## The hello -/

theorem foldl_diff_eq_zero {left right : Bytes} (same : left.length = right.length)
    (diff : UInt8) :
    (left.zip right).foldl (fun diff pair => diff ||| (pair.1 ^^^ pair.2)) diff = 0 ↔
      diff = 0 ∧ left = right := by
  induction left generalizing right diff with
  | nil =>
    rw [length_nil] at same
    rw [length_eq_zero_iff.mp same.symm]
    simp
  | cons byte left induction =>
    cases right with
    | nil => cases same
    | cons other right =>
      rw [zip_cons_cons, foldl_cons,
        induction (Nat.succ.inj same), UInt8.or_eq_zero_iff, UInt8.xor_eq_zero_iff,
        cons.injEq, and_assoc]

theorem constantTimeEq_iff {left right : Bytes} :
    constantTimeEq left right = true ↔ left = right := by
  unfold constantTimeEq
  rw [Bool.and_eq_true, beq_iff_eq, beq_iff_eq]
  constructor
  · rintro ⟨same, equal⟩
    exact ((foldl_diff_eq_zero same 0).mp equal).2
  · intro equal
    have same : left.length = right.length := congrArg length equal
    exact ⟨same, (foldl_diff_eq_zero same 0).mpr ⟨rfl, equal⟩⟩

/-- The client presented the token, asked for some tunnel, and was granted every
tunnel it asked for. -/
structure Authorized (app : AppState) (token : Option Text) (wanted : List Text)
    (granted : List TunnelGranted) : Prop where
  presented : token = some app.token
  asked : wanted ≠ []
  given : ∀ name ∈ wanted, ∃ remotePort, app.tunnels.get? name = some remotePort ∧
    { name, remotePort } ∈ granted

theorem AppState.authorized_of_hello {app : AppState} {token : Text} {wanted : List Text}
    {granted : List TunnelGranted} (accepted : app.hello token wanted = .ok granted) :
    Authorized app (some token) wanted granted := by
  unfold AppState.hello at accepted
  split at accepted
  · next equal =>
    have presented : token = app.token := Text.asBytes_injective (constantTimeEq_iff.mp equal)
    rcases Fallible.bind_eq_ok.mp accepted with ⟨found, mapped, checked⟩
    split at checked
    · cases checked
    rename_i nonempty
    cases checked
    refine ⟨congrArg _ presented, ?_, ?_⟩
    · rintro rfl
      cases mapped
      exact nonempty rfl
    intro name member
    rcases Fallible.exists_result_of_mapM mapped member with ⟨tunnel, listed, made⟩
    unfold AppState.grant at made
    split at made
    · next remotePort port =>
      cases made
      exact ⟨remotePort, port, listed⟩
    · cases made
  · cases accepted

/-! ## Connections -/

def Phase.heard : Phase → Bool
  | .connecting | .awaitingHello => false
  | .rejecting _ | .authenticated | .greeting | .serving | .closing | .returned => true

def Phase.accepted : Phase → Bool
  | .authenticated | .greeting | .serving | .closing => true
  | .connecting | .awaitingHello | .rejecting _ | .returned => false

namespace Connection

def Sound (app : AppState) (connection : Connection) : Prop :=
  connection.phase.accepted = true →
    Authorized app connection.token connection.wanted connection.granted

structure SameHello (before after : Connection) : Prop where
  heard : after.phase.heard = true
  token : after.token = before.token
  wanted : after.wanted = before.wanted
  granted : after.granted = before.granted

variable {app : AppState} {index : Nat} {connection : Connection} {slot : Option ClientSession}

theorem advance_sameHello (heard : connection.phase.heard = true) (move : Move) :
    connection.SameHello (connection.advance app index slot move).1 := by
  unfold advance
  split
  case h_1 phase => simp [phase, Phase.heard] at heard
  case h_2 phase => simp [phase, Phase.heard] at heard
  case h_5 written phase => cases written <;> exact ⟨rfl, rfl, rfl, rfl⟩
  case h_6 frame written phase =>
    unfold readControl
    split
    · split
      · exact ⟨heard, rfl, rfl, rfl⟩
      · exact ⟨rfl, rfl, rfl, rfl⟩
    · exact ⟨rfl, rfl, rfl, rfl⟩
    · exact ⟨rfl, rfl, rfl, rfl⟩
  case h_9 => exact ⟨heard, rfl, rfl, rfl⟩
  all_goals exact ⟨rfl, rfl, rfl, rfl⟩

theorem sound_readHello (frame : Option ClientControl) :
    (connection.readHello app frame).Sound app := by
  unfold readHello
  split
  · split
    · next granted accepted =>
      intro _
      exact AppState.authorized_of_hello accepted
    · intro accepted
      cases accepted
  · intro accepted
    cases accepted
  · intro accepted
    cases accepted

theorem accepted_advance (heard : connection.phase.heard = true)
    (accepted : (connection.advance app index slot move).1.phase.accepted = true) :
    connection.phase.accepted = true := by
  unfold advance at accepted
  split at accepted
  case h_1 phase => simp [phase, Phase.heard] at heard
  case h_2 phase => simp [phase, Phase.heard] at heard
  case h_3 phase => cases accepted
  case h_9 => exact accepted
  all_goals simp_all [Phase.accepted]

theorem Sound.advance (sound : connection.Sound app) (move : Move) :
    (connection.advance app index slot move).1.Sound app := by
  by_cases heard : connection.phase.heard = true
  · have same := @advance_sameHello app index connection slot heard move
    intro accepted
    rw [same.token, same.wanted, same.granted]
    exact sound (accepted_advance heard accepted)
  unfold Connection.advance
  split
  case h_1 accepted phase =>
    intro later
    cases accepted <;> cases later
  case h_2 frame phase => exact sound_readHello frame
  case h_9 => exact sound
  all_goals simp_all [Phase.heard]

end Connection

/-! ## Reachable states -/

def ForwardPhase.conn? : ForwardPhase → Option Nat
  | .picked conn | .relaying conn => some conn
  | .accepted | .ended => none

namespace Server

def Admits (app : AppState) (server : Server) (conn : Nat) (tunnels : List Text) : Prop :=
  ∃ connection, server.connections[conn]? = some connection ∧
    connection.phase.heard = true ∧ connection.wanted = tunnels ∧
    Authorized app connection.token connection.wanted connection.granted

/-- The TCP connection came in on the port of its tunnel, and the connection picked
for it has that tunnel. -/
def Forwards (app : AppState) (server : Server) (forward : Forward) : Prop :=
  app.tunnels.get? forward.tunnel = some forward.port ∧
    ∀ conn, forward.phase.conn? = some conn →
      ∃ tunnels, server.Admits app conn tunnels ∧ forward.tunnel ∈ tunnels

structure Guarded (app : AppState) (server : Server) : Prop where
  connections : ∀ connection ∈ server.connections, connection.Sound app
  session : ∀ session, server.session = some session →
    server.Admits app session.conn session.tunnels
  forwards : ∀ forward ∈ server.forwards, server.Forwards app forward

variable {app : AppState} {server : Server}

theorem Admits.step (admits : server.Admits app conn tunnels) (event : Event) :
    (server.step app event).Admits app conn tunnels := by
  rcases admits with ⟨connection, located, heard, wanted, authorized⟩
  rcases step_cases app server event with ⟨index, move, moved, rfl, there⟩ | kept
  · simp only [Server.step]
    rw [moveConnection_of_located there]
    by_cases equal : index = conn
    · subst equal
      rw [located] at there
      cases there
      have same := @Connection.advance_sameHello app index connection server.session heard move
      refine ⟨_, getElem?_set_self located _, same.heard, same.wanted.trans wanted, ?_⟩
      rw [same.token, same.wanted, same.granted]
      exact authorized
    · exact ⟨connection, by rw [getElem?_set_ne equal, located], heard, wanted,
        authorized⟩
  · exact ⟨connection, kept.2 conn connection located, heard, wanted, authorized⟩

theorem Forwards.step (forwards : server.Forwards app forward) (event : Event) :
    (server.step app event).Forwards app forward := by
  refine ⟨forwards.1, ?_⟩
  intro conn picked
  rcases forwards.2 conn picked with ⟨tunnels, admits, member⟩
  exact ⟨tunnels, admits.step event, member⟩

section

variable (guarded : server.Guarded app)

include guarded

theorem Guarded.connections_step (event : Event) :
    ∀ connection ∈ (server.step app event).connections, connection.Sound app := by
  cases event with
  | incoming remote =>
    intro connection member
    rcases mem_append.mp member with old | new
    · exact guarded.connections connection old
    · rw [mem_singleton.mp new]
      intro accepted
      cases accepted
  | connection index move =>
    intro connection member
    cases there : server.connections[index]? with
    | none =>
      simp only [step, moveConnection, there] at member
      exact guarded.connections connection member
    | some moved =>
      simp only [step] at member
      rw [moveConnection_of_located there] at member
      rcases mem_or_eq_of_mem_set member with old | new
      · exact guarded.connections connection old
      · rw [new]
        exact (guarded.connections moved (mem_of_getElem? there)).advance move
  | tcpAccept port =>
    intro connection member
    simp only [step, tcpAccept] at member
    split at member <;> exact guarded.connections connection member
  | forward index move => exact guarded.connections

theorem Guarded.session_step (event : Event)
    {session : ClientSession} (held : (server.step app event).session = some session) :
    (server.step app event).Admits app session.conn session.tunnels := by
  rcases step_cases app server event with ⟨index, move, connection, rfl, there⟩ | kept
  · rcases connection.advance_cases app index server.session move with
      quiet | ⟨phase, taken⟩ | ⟨-, rfl, failed⟩ | ⟨-, rfl, cleared⟩
    · simp only [step, moveConnection_of_located there, quiet.slot] at held
      exact (guarded.session session held).step _
    · simp only [step, moveConnection_of_located there, taken] at held ⊢
      cases held
      have sound := guarded.connections connection (mem_of_getElem? there)
      exact ⟨_, getElem?_set_self there _, rfl, rfl, sound (by rw [phase]; rfl)⟩
    · have before : server.session = some session := by
        simpa only [step, moveConnection_of_located there, failed] using held
      exact (guarded.session session before).step _
    have before : server.session = some session := by
      simp only [step, moveConnection_of_located there, cleared] at held
      unfold Connection.clearSlot at held
      split at held
      · cases held
      · exact held
    exact (guarded.session session before).step _
  · rw [kept.1] at held
    exact (guarded.session session held).step event

theorem Guarded.advance (forwards : server.Forwards app forward)
    (move : ForwardMove) : server.Forwards app (forward.advance server.session move) := by
  unfold Forward.advance
  split
  · refine ⟨forwards.1, ?_⟩
    intro conn picked
    simp only [Forward.pick] at picked
    split at picked
    · next session held =>
      split at picked
      · next asked =>
        cases picked
        exact ⟨session.tunnels, guarded.session session held, contains_iff_mem.mp asked⟩
      · cases picked
    · cases picked
  · next conn opened phase =>
    refine ⟨forwards.1, ?_⟩
    intro other picked
    apply forwards.2
    rw [phase]
    cases opened with
    | true => exact picked
    | false => cases picked
  · refine ⟨forwards.1, ?_⟩
    intro conn picked
    cases picked
  · exact forwards

theorem Guarded.forwards_step (event : Event) :
    ∀ forward ∈ (server.step app event).forwards, (server.step app event).Forwards app forward := by
  intro forward member
  cases event with
  | incoming remote => exact (guarded.forwards forward member).step _
  | connection index move =>
    have same : (server.step app (.connection index move)).forwards = server.forwards := by
      simp only [step, moveConnection]
      split <;> rfl
    rw [same] at member
    exact (guarded.forwards forward member).step _
  | tcpAccept port =>
    have kept : ∀ old ∈ server.forwards, (server.step app (.tcpAccept port)).Forwards app old :=
      fun old listed => (guarded.forwards old listed).step _
    simp only [step, tcpAccept] at member
    split at member
    · next tunnel bound found =>
      rcases mem_append.mp member with old | new
      · exact kept forward old
      rw [mem_singleton.mp new]
      have entry := mem_of_find?_eq_some found
      have port := find?_some found
      rw [decide_eq_true_eq] at port
      subst port
      refine ⟨HashMap.get?_eq_some_iff.mpr entry, ?_⟩
      intro conn picked
      cases picked
    · exact kept forward member
  | forward index move =>
    rcases getElem?_of_mem member with ⟨position, located⟩
    simp only [step, getElem?_modify] at located
    rcases Option.map_eq_some_iff.mp located with ⟨earlier, found, same⟩
    have forwards := guarded.forwards earlier (mem_of_getElem? found)
    split at same
    · exact same ▸ (guarded.advance forwards move)
    · exact same ▸ forwards

theorem Guarded.step (event : Event) : (server.step app event).Guarded app :=
  ⟨guarded.connections_step event, fun _ => guarded.session_step event,
    guarded.forwards_step event⟩

end

theorem guarded_run (app : AppState) (events : List Event) : (run app events).Guarded app := by
  unfold run
  induction events using reverseRecOn with
  | nil => exact ⟨by simp, by simp, by simp⟩
  | append_singleton events event induction =>
    rw [foldl_append]
    exact induction.step event

/-- In every reachable state, the client in the slot presented the configured token and
asked for configured tunnels, and a TCP connection on the port of a tunnel is relayed
only over a connection that was granted the tunnel. -/
theorem session_and_relays_authorized {config : Config} {app : AppState}
    (started : config.start = .ok app) (events : List Event) :
    (∀ session, (run app events).session = some session →
      ∃ connection, (run app events).connections[session.conn]? = some connection ∧
        connection.token = some config.token ∧ connection.wanted ≠ [] ∧
        ∀ name ∈ connection.wanted, ∃ tunnel ∈ config.tunnels, tunnel.name = name) ∧
    (∀ forward ∈ (run app events).forwards, ∀ conn, forward.phase = .relaying conn →
      ∀ tunnel ∈ config.tunnels, tunnel.remotePort = forward.port →
        ∃ connection, (run app events).connections[conn]? = some connection ∧
          { name := tunnel.name, remotePort := tunnel.remotePort } ∈ connection.granted) := by
  rcases Config.start_ok started with ⟨token, ports, registers⟩
  have guarded := guarded_run app events
  constructor
  · intro session held
    rcases guarded.session session held with ⟨connection, located, -, -, authorized⟩
    refine ⟨connection, located, token ▸ authorized.presented, authorized.asked, ?_⟩
    intro name member
    rcases authorized.given name member with ⟨port, known, -⟩
    exact ⟨_, (registers.named name port).mp known, rfl⟩
  intro forward member conn relaying tunnel configured samePort
  have forwards := guarded.forwards forward member
  -- The port decides the tunnel, since no two tunnels share one.
  have own : tunnel = { name := forward.tunnel, remotePort := forward.port } :=
    registers.distinct _ configured _ ((registers.named _ _).mp forwards.1) samePort
  rcases forwards.2 conn (by rw [relaying]; rfl) with
    ⟨tunnels, ⟨connection, located, -, rfl, authorized⟩, asked⟩
  rcases authorized.given forward.tunnel asked with ⟨port, known, granted⟩
  rw [forwards.1] at known
  cases known
  rw [own]
  exact ⟨connection, located, granted⟩

end Server

def twoTunnels : Config where
  token := "secret"
  tunnels := [{ name := "web", remotePort := 8080 }, { name := "db", remotePort := 5432 }]

def twoTunnelsApp : AppState where
  token := "secret"
  tunnels := (HashMap.empty.insert "web".toList 8080).insert "db".toList 5432

/-- A client without the token, one with it that asks for one tunnel, and a TCP
connection on each of the two ports. -/
def oneRelayed : List Event :=
  [.incoming "198.51.100.1:1000", .connection 0 (.handshake true),
    .connection 0 (.hello (some (.hello "guess" ["db"]))),
    .incoming "192.0.2.9:40000", .connection 1 (.handshake true),
    .connection 1 (.hello (some (.hello "secret" ["web"]))), .connection 1 .takeSlot,
    .connection 1 (.helloOk true),
    .tcpAccept 8080, .forward 0 .readSlot, .forward 0 (.openStream true),
    .tcpAccept 5432, .forward 1 .readSlot, .forward 1 (.openStream true)]

/-- The one tunnel is relayed over the connection that was granted it, the other is
not relayed. -/
theorem granted_tunnel_relayed :
    let server := run twoTunnelsApp oneRelayed
    server.session.map ClientSession.conn = some 1 ∧
    server.forwards.map Forward.phase = [.relaying 1, .ended] ∧
    ∃ connection, server.connections[1]? = some connection ∧
      { name := "web", remotePort := 8080 } ∈ connection.granted := by
  have authorized := session_and_relays_authorized
    (show twoTunnels.start = .ok twoTunnelsApp from rfl) oneRelayed
  refine ⟨by decide, by decide, ?_⟩
  exact authorized.2 { port := 8080, tunnel := "web", phase := .relaying 1 } (by decide) 1 rfl
    { name := "web", remotePort := 8080 } mem_cons_self rfl

end PertiskProxy.Tunnel
