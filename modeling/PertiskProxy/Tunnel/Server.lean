import PertiskProxy.Foundation

/-! The server of the reverse tunnel (`tunnel/server`): its configuration, the hello of a
client, and its tasks, one for each client connection and one for each accepted TCP
connection. -/

namespace PertiskProxy.Tunnel

structure TunnelDef where
  name : Text
  remotePort : Nat
deriving DecidableEq

structure Config where
  token : Text
  tunnels : List TunnelDef
deriving DecidableEq

structure AppState where
  token : Text
  tunnels : HashMap Text Nat

def addTunnel (seen : HashMap Text Nat × List Nat) (tunnel : TunnelDef) :
    Except Text (HashMap Text Nat × List Nat) :=
  if (Text.trim tunnel.name).isEmpty then .error "tunnel name must not be empty"
  else if tunnel.remotePort = 0 then
    .error ("tunnel ".toList ++ tunnel.name ++ " remote_port must be non-zero".toList)
  else if seen.2.contains tunnel.remotePort then
    .error ("duplicate remote_port ".toList ++ Text.ofNat tunnel.remotePort ++
      " (used by more than one tunnel)".toList)
  else if seen.1.contains tunnel.name then
    .error ("duplicate tunnel name ".toList ++ tunnel.name)
  else .ok (seen.1.insert tunnel.name tunnel.remotePort, tunnel.remotePort :: seen.2)

def Config.start (config : Config) : Except Text AppState :=
  if config.tunnels.isEmpty then .error "config must list at least one [[tunnels]] entry"
  else
    (config.tunnels.foldlM addTunnel (∅, [])).map fun seen =>
      { token := config.token, tunnels := seen.1 }

inductive ClientControl where
  | hello (token : Text) (tunnels : List Text)
  | ping
deriving DecidableEq

structure TunnelGranted where
  name : Text
  remotePort : Nat
deriving DecidableEq

/-- Compare without an early exit on the first difference. -/
def constantTimeEq (left right : Bytes) : Bool :=
  left.length == right.length &&
    (left.zip right).foldl (fun diff pair => diff ||| (pair.1 ^^^ pair.2)) 0 == (0 : UInt8)

namespace AppState

def unknownTunnel (app : AppState) (name : Text) : Text :=
  let known := if app.tunnels.entries.isEmpty then "(none)".toList
    else List.intercalate ", ".toList app.tunnels.keys
  "unknown tunnel `".toList ++ name ++ "` (server has: ".toList ++ known ++ ")".toList

def grant (app : AppState) (name : Text) : Except Text TunnelGranted :=
  match app.tunnels.get? name with
  | some remotePort => .ok { name, remotePort }
  | none => .error (app.unknownTunnel name)

def hello (app : AppState) (token : Text) (wanted : List Text) :
    Except Text (List TunnelGranted) :=
  if constantTimeEq token.asBytes app.token.asBytes then
    (wanted.mapM app.grant).bind fun granted =>
      if granted.isEmpty then .error "no tunnels requested" else .ok granted
  else .error "invalid token"

end AppState

inductive Phase where
  | connecting
  | awaitingHello
  | rejecting (message : Text)
  | authenticated
  | greeting
  | serving
  | closing
  | returned
deriving DecidableEq

structure Connection where
  remote : Text
  phase : Phase := .connecting
  token : Option Text := none
  wanted : List Text := []
  granted : List TunnelGranted := []
deriving DecidableEq

structure ClientSession where
  conn : Nat
  tunnels : List Text
  addr : Text
deriving DecidableEq

/-- What the task of a connection waits for. A frame that cannot be read is missing,
and a frame may fail to be written. -/
inductive Move where
  | handshake (accepted : Bool)
  | hello (frame : Option ClientControl)
  | rejected
  | takeSlot
  | helloOk (written : Bool)
  | control (frame : Option ClientControl) (written : Bool)
  | closed
  | clearSlot
deriving DecidableEq

namespace Connection

def readHello (app : AppState) (connection : Connection) : Option ClientControl → Connection
  | some (.hello token wanted) =>
    match app.hello token wanted with
    | .ok granted =>
      { connection with token := some token, wanted, granted, phase := .authenticated }
    | .error message =>
      { connection with token := some token, wanted, phase := .rejecting message }
  | some .ping | none => { connection with phase := .returned }

/-- The control loop answers pings; anything else ends it. -/
def readControl (connection : Connection) (written : Bool) : Option ClientControl → Connection
  | some .ping => if written then connection else { connection with phase := .closing }
  | some (.hello _ _) | none => { connection with phase := .closing }

/-- Clear the slot if the address in it is the client's. -/
def clearSlot (connection : Connection) (slot : Option ClientSession) : Option ClientSession :=
  if slot.any fun session => session.addr = connection.remote then none else slot

def advance (app : AppState) (index : Nat) (connection : Connection)
    (slot : Option ClientSession) (move : Move) : Connection × Option ClientSession :=
  match connection.phase, move with
  | .connecting, .handshake accepted =>
    ({ connection with phase := if accepted then .awaitingHello else .returned }, slot)
  | .awaitingHello, .hello frame => (connection.readHello app frame, slot)
  | .rejecting _, .rejected => ({ connection with phase := .returned }, slot)
  | .authenticated, .takeSlot =>
    ({ connection with phase := .greeting },
      some { conn := index, tunnels := connection.wanted, addr := connection.remote })
  | .greeting, .helloOk written =>
    ({ connection with phase := if written then .serving else .returned }, slot)
  | .serving, .control frame written => (connection.readControl written frame, slot)
  | .serving, .closed => ({ connection with phase := .closing }, slot)
  | .closing, .clearSlot =>
    ({ connection with phase := .returned }, connection.clearSlot slot)
  | _, _ => (connection, slot)

end Connection

inductive ForwardPhase where
  | accepted
  | picked (conn : Nat)
  | relaying (conn : Nat)
  | ended
deriving DecidableEq

structure Forward where
  port : Nat
  tunnel : Text
  phase : ForwardPhase := .accepted
deriving DecidableEq

inductive ForwardMove where
  | readSlot
  | openStream (opened : Bool)
  | finish
deriving DecidableEq

namespace Forward

/-- Pick the active client, unless it has not asked for the tunnel. -/
def pick (forward : Forward) (slot : Option ClientSession) : ForwardPhase :=
  match slot with
  | some session => if session.tunnels.contains forward.tunnel then .picked session.conn else .ended
  | none => .ended

def advance (forward : Forward) (slot : Option ClientSession) (move : ForwardMove) : Forward :=
  match forward.phase, move with
  | .accepted, .readSlot => { forward with phase := forward.pick slot }
  | .picked conn, .openStream opened =>
    { forward with phase := if opened then .relaying conn else .ended }
  | .relaying _, .finish => { forward with phase := .ended }
  | _, _ => forward

end Forward

structure Server where
  session : Option ClientSession := none
  connections : List Connection := []
  forwards : List Forward := []
deriving DecidableEq

inductive Event where
  | incoming (remote : Text)
  | connection (index : Nat) (move : Move)
  | tcpAccept (port : Nat)
  | forward (index : Nat) (move : ForwardMove)
deriving DecidableEq

namespace Server

def moveConnection (app : AppState) (server : Server) (index : Nat) (move : Move) : Server :=
  match server.connections[index]? with
  | some connection =>
    let (connection, session) := connection.advance app index server.session move
    { server with session, connections := server.connections.set index connection }
  | none => server

/-- The listener of a port belongs to the tunnel that was bound to it. -/
def tcpAccept (app : AppState) (server : Server) (port : Nat) : Server :=
  match app.tunnels.entries.find? fun entry => entry.2 = port with
  | some (tunnel, _) => { server with forwards := server.forwards ++ [{ port, tunnel }] }
  | none => server

def step (app : AppState) (server : Server) : Event → Server
  | .incoming remote =>
    { server with connections := server.connections ++ [{ remote }] }
  | .connection index move => server.moveConnection app index move
  | .tcpAccept port => server.tcpAccept app port
  | .forward index move =>
    { server with
      forwards := server.forwards.modify index fun forward =>
        forward.advance server.session move }

def run (app : AppState) (events : List Event) : Server :=
  events.foldl (step app) {}

end Server

/-! Who takes and clears the session slot, under any interleaving of the tasks of any
number of client connections. -/

def Phase.holds : Phase → Bool
  | .greeting | .serving | .closing => true
  | .connecting | .awaitingHello | .rejecting _ | .authenticated | .returned => false

namespace Connection

structure Quiet (before : Connection) (slot : Option ClientSession)
    (after : Connection × Option ClientSession) : Prop where
  slot : after.2 = slot
  remote : after.1.remote = before.remote
  holds : before.phase.holds = true → after.1.phase.holds = true

theorem clearSlot_some (connection : Connection) (session : ClientSession) :
    connection.clearSlot (some session) =
      if session.addr = connection.remote then none else some session := by
  simp [clearSlot]

/-- Apart from taking the slot, failing to greet the client, and clearing the slot,
every step of a connection is quiet. -/
theorem advance_cases (app : AppState) (index : Nat) (connection : Connection)
    (slot : Option ClientSession) (move : Move) :
    connection.Quiet slot (connection.advance app index slot move) ∨
    (connection.phase = .authenticated ∧ connection.advance app index slot move =
      ({ connection with phase := .greeting },
        some { conn := index, tunnels := connection.wanted, addr := connection.remote })) ∨
    (connection.phase = .greeting ∧ move = .helloOk false ∧
      connection.advance app index slot move = ({ connection with phase := .returned }, slot)) ∨
    (connection.phase = .closing ∧ move = .clearSlot ∧
      connection.advance app index slot move =
        ({ connection with phase := .returned }, connection.clearSlot slot)) := by
  unfold advance
  split
  case h_1 phase => exact .inl ⟨rfl, rfl, by simp [phase, Phase.holds]⟩
  case h_2 frame phase =>
    left
    refine ⟨rfl, ?_, by simp [phase, Phase.holds]⟩
    unfold readHello
    split
    · split <;> rfl
    · rfl
    · rfl
  case h_3 phase => exact .inl ⟨rfl, rfl, by simp [phase, Phase.holds]⟩
  case h_4 phase => exact .inr (.inl ⟨phase, rfl⟩)
  case h_5 written phase =>
    cases written with
    | true => exact .inl ⟨rfl, rfl, fun _ => rfl⟩
    | false => exact .inr (.inr (.inl ⟨phase, rfl, rfl⟩))
  case h_6 frame written phase =>
    left
    unfold readControl
    split
    · split
      · exact ⟨rfl, rfl, id⟩
      · exact ⟨rfl, rfl, fun _ => rfl⟩
    · exact ⟨rfl, rfl, fun _ => rfl⟩
    · exact ⟨rfl, rfl, fun _ => rfl⟩
  case h_7 => exact .inl ⟨rfl, rfl, fun _ => rfl⟩
  case h_8 phase => exact .inr (.inr (.inr ⟨phase, rfl, rfl⟩))
  case h_9 => exact .inl ⟨rfl, rfl, id⟩

end Connection

namespace Server

def Returned (server : Server) (conn : Nat) : Prop :=
  ∃ connection, server.connections[conn]? = some connection ∧ connection.phase = .returned

/-- The slot is cleared or replaced only by the connection in it or by one that has
just authenticated, and no connection in it has returned. -/
structure SlotRespected (app : AppState) (server : Server) (event : Event) : Prop where
  changed : ∀ session, server.session = some session →
    (server.step app event).session ≠ some session →
    ∃ index move connection, event = .connection index move ∧
      server.connections[index]? = some connection ∧
      (session.conn = index ∨ connection.phase = .authenticated)
  vacated : ∀ session, (server.step app event).session = some session →
    ¬(server.step app event).Returned session.conn

/-- A connection in the slot can be greeted, and a connection that clears the slot
does not find another one with its address in it. -/
def SlotSafe (server : Server) : Event → Prop
  | .connection index (.helloOk false) => ∀ connection session,
      server.connections[index]? = some connection → connection.phase = .greeting →
      server.session = some session → session.conn ≠ index
  | .connection index .clearSlot => ∀ connection session,
      server.connections[index]? = some connection → connection.phase = .closing →
      server.session = some session → session.addr = connection.remote → session.conn = index
  | _ => True

/-- The connection in the slot is known by its address, and its task has not come to
its end. -/
def Owned (server : Server) : Prop :=
  ∀ session, server.session = some session → ∃ connection,
    server.connections[session.conn]? = some connection ∧
      connection.remote = session.addr ∧ connection.phase.holds = true

variable {app : AppState} {server : Server}

theorem Owned.vacated (owned : server.Owned) {session : ClientSession}
    (held : server.session = some session) : ¬server.Returned session.conn := by
  rintro ⟨connection, located, ended⟩
  rcases owned session held with ⟨other, found, -, holds⟩
  rw [located] at found
  cases found
  rw [ended] at holds
  cases holds

theorem Owned.keep {after : Server} (owned : server.Owned) (slot : after.session = server.session)
    (kept : ∀ (index : Nat) (connection : Connection),
      server.connections[index]? = some connection →
      after.connections[index]? = some connection) : after.Owned := by
  intro session held
  rw [slot] at held
  rcases owned session held with ⟨connection, located, known⟩
  exact ⟨connection, kept _ _ located, known⟩

theorem moveConnection_of_located (located : server.connections[index]? = some connection) :
    server.moveConnection app index move =
      { server with
        session := (connection.advance app index server.session move).2
        connections := server.connections.set index
          (connection.advance app index server.session move).1 } := by
  simp [moveConnection, located]

theorem getElem?_set_self (located : server.connections[index]? = some connection)
    (after : Connection) : (server.connections.set index after)[index]? = some after :=
  List.getElem?_set_self (List.getElem?_eq_some_iff.mp located).1

/-- A step moves a connection, or leaves the slot and all connections as they are. -/
theorem step_cases (app : AppState) (server : Server) (event : Event) :
    (∃ index move connection, event = .connection index move ∧
      server.connections[index]? = some connection) ∨
    (server.step app event).session = server.session ∧
      ∀ (index : Nat) (connection : Connection), server.connections[index]? = some connection →
        (server.step app event).connections[index]? = some connection := by
  cases event with
  | incoming remote =>
    refine .inr ⟨rfl, ?_⟩
    intro index connection located
    have bound := (List.getElem?_eq_some_iff.mp located).1
    simp only [step]
    rw [List.getElem?_append_left bound, located]
  | connection index move =>
    cases located : server.connections[index]? with
    | some connection => exact .inl ⟨index, move, connection, rfl, located⟩
    | none =>
      simp only [step, moveConnection, located]
      exact .inr ⟨trivial, fun _ _ there => there⟩
  | tcpAccept port =>
    simp only [step, tcpAccept]
    split <;> exact .inr ⟨rfl, fun _ _ located => located⟩
  | forward index move => exact .inr ⟨rfl, fun _ _ located => located⟩

open Connection

theorem Owned.step (owned : server.Owned) (safe : server.SlotSafe event) :
    (server.step app event).Owned := by
  rcases step_cases app server event with ⟨index, move, connection, rfl, located⟩ | kept
  · simp only [Server.step]
    rw [moveConnection_of_located located]
    rcases connection.advance_cases app index server.session move with
      quiet | ⟨phase, taken⟩ | ⟨phase, rfl, failed⟩ | ⟨phase, rfl, cleared⟩
    · intro session held
      simp only [quiet.slot] at held
      rcases owned session held with ⟨owner, found, known, holds⟩
      by_cases same : index = session.conn
      · subst same
        rw [located] at found
        cases found
        exact ⟨_, getElem?_set_self located _, quiet.remote.trans known, quiet.holds holds⟩
      · exact ⟨owner, by rw [List.getElem?_set_ne same, found], known, holds⟩
    · intro session held
      simp only [taken] at held ⊢
      cases held
      exact ⟨_, getElem?_set_self located _, rfl, rfl⟩
    · intro session held
      simp only [failed] at held ⊢
      have different := safe connection session located phase held
      rcases owned session held with ⟨owner, found, known⟩
      exact ⟨owner, by rw [List.getElem?_set_ne different.symm, found], known⟩
    intro session held
    simp only [cleared] at held ⊢
    unfold clearSlot at held
    split at held
    · cases held
    rename_i foreign
    rcases owned session held with ⟨owner, found, known, holds⟩
    have different : index ≠ session.conn := by
      rintro rfl
      rw [located] at found
      cases found
      simp [held, known] at foreign
    exact ⟨owner, by rw [List.getElem?_set_ne different, found], known, holds⟩
  · exact owned.keep kept.1 kept.2

theorem changed_of_safe {event : Event} (safe : server.SlotSafe event) {session : ClientSession}
    (held : server.session = some session)
    (lost : (server.step app event).session ≠ some session) :
    ∃ index move connection, event = .connection index move ∧
      server.connections[index]? = some connection ∧
      (session.conn = index ∨ connection.phase = .authenticated) := by
  rcases step_cases app server event with ⟨index, move, connection, rfl, located⟩ | kept
  · simp only [Server.step] at lost
    rw [moveConnection_of_located located] at lost
    refine ⟨index, move, connection, rfl, located, ?_⟩
    rcases connection.advance_cases app index server.session move with
      quiet | ⟨phase, -⟩ | ⟨-, rfl, failed⟩ | ⟨phase, rfl, cleared⟩
    · exact absurd held (by simpa only [quiet.slot] using lost)
    · exact .inr phase
    · exact absurd held (by simpa only [failed] using lost)
    left
    simp only [cleared] at lost
    rw [held, clearSlot_some] at lost
    have known : session.addr = connection.remote := by
      by_contra foreign
      rw [if_neg foreign] at lost
      exact lost rfl
    exact safe connection session located phase held known
  · rw [kept.1] at lost
    exact absurd held lost

theorem safe_of_respected (respected : server.SlotRespected app event) :
    server.SlotSafe event := by
  unfold SlotSafe
  split
  · next index =>
    intro connection session located phase held same
    have after : server.step app (.connection index (.helloOk false)) =
        { server with
          connections := server.connections.set index { connection with phase := .returned } } := by
      simp [step, moveConnection_of_located located, advance, phase]
    apply respected.vacated session (by rw [after]; exact held)
    rw [after, same]
    exact ⟨_, getElem?_set_self located _, rfl⟩
  · next index =>
    intro connection session located phase held known
    have lost : (server.step app (.connection index .clearSlot)).session ≠ some session := by
      simp only [step, moveConnection_of_located located, advance, phase, held,
        clearSlot_some, if_pos known]
      exact Option.some_ne_none session |>.symm
    rcases respected.changed session held lost with ⟨other, move, found, same, there, owner⟩
    cases same
    rw [located] at there
    cases there
    rcases owner with own | fresh
    · exact own
    · rw [phase] at fresh
      cases fresh
  · trivial

theorem Owned.respected_iff (owned : server.Owned) (event : Event) :
    server.SlotRespected app event ↔ server.SlotSafe event := by
  constructor
  · exact safe_of_respected
  · intro safe
    exact ⟨fun session => changed_of_safe safe, fun session => (owned.step safe).vacated⟩

/-- In every run, the slot is respected at every step exactly if every step is safe. -/
theorem slot_respected_iff (app : AppState) (events : List Event) :
    Run.Every (Server.step app) (SlotRespected app) {} events ↔
      Run.Every (Server.step app) SlotSafe {} events := by
  apply Run.Every.iff_of_invariant Owned
  · intro server event owned safe
    exact owned.step safe
  · intro server event owned
    exact owned.respected_iff event
  · intro session held
    cases held

end Server

/-! A server with one tunnel. -/

def webApp : AppState where
  token := "secret"
  tunnels := HashMap.empty.insert "web" 8080

def joins (index : Nat) (remote : Text) : List Event :=
  [.incoming remote, .connection index (.handshake true),
    .connection index (.hello (some (.hello "secret" ["web"]))),
    .connection index .takeSlot]

def ungreeted : List Event :=
  joins 0 "192.0.2.9:40000" ++ [.connection 0 (.helloOk false)]

def reconnected : List Event :=
  joins 0 "192.0.2.9:40000" ++ [.connection 0 (.helloOk true)] ++
    joins 1 "192.0.2.9:40000" ++ [.connection 1 (.helloOk true), .connection 0 .closed]

/-- A client that goes away before it is greeted stays in the slot for good. And a
client that connects again from the same address loses the slot when the task of
its old connection ends. -/
theorem slot_kept_and_taken :
    let early := Server.run webApp ungreeted
    let late := Server.run webApp reconnected
    (early.connections.map Connection.phase = [.returned] ∧
      early.session.map ClientSession.conn = some 0) ∧
    late.connections.map Connection.phase = [.closing, .serving] ∧
    late.session.map ClientSession.conn = some 1 ∧
    (late.step webApp (.connection 0 .clearSlot)).session = none ∧
    ¬late.SlotRespected webApp (.connection 0 .clearSlot) := by
  refine ⟨by decide, by decide, by decide, by decide, ?_⟩
  intro respected
  have lost : ((Server.run webApp reconnected).step webApp (.connection 0 .clearSlot)).session ≠
      some { conn := 1, tunnels := ["web"], addr := "192.0.2.9:40000" } := by decide
  rcases respected.changed _ (by decide) lost with ⟨index, move, connection, same, located, owner⟩
  cases same
  rcases owner with own | fresh
  · cases own
  · have phase : ((Server.run webApp reconnected).connections[0]?).map Connection.phase =
        some .closing := by decide
    rw [located, Option.map_some, fresh] at phase
    cases phase

end PertiskProxy.Tunnel
