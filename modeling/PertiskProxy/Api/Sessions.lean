import Mathlib.Algebra.GroupWithZero.Nat
import Mathlib.Data.List.Lex
import PertiskProxy.Security.Captcha

/-! Bearer tokens of the management API (`api/mod.rs`, `db/mod.rs`). -/

namespace PertiskProxy.Api

open Text List Option Nat

def i64Min : Int := -9223372036854775808

def i64Max : Int := 9223372036854775807

def signedPayload (username : Text) (exp : Int) : Text :=
  "pp1|".toList ++ (username ++ '|' :: ofInt exp)

def sessionSignature (mac : Mac) (username : Text) (exp : Int) : Text :=
  Bytes.hexEncode (mac.tag (signedPayload username exp).asBytes)

def signedToken (mac : Mac) (username : Text) (exp : Int) : Text :=
  "pp1.".toList ++ (username ++ '.' :: (ofInt exp ++ '.' :: sessionSignature mac username exp))

/-- A token that any replica can check; a name with a dot gets none. -/
def mintSignedSessionToken (mac : Mac) (username : Text) (now : Int) (ttlSecs : Nat) :
    Option Text :=
  if username.isEmpty || List.contains username '.' then none
  else some (signedToken mac username (now + ttlSecs))

def verifySignedSessionToken (mac : Mac) (token : Text) (now : Int) : Option Text :=
  match token.splitOn '.' with
  | [version, username, expText, sig] =>
    if version != "pp1".toList || username.isEmpty then none
    else
      match parseInteger i64Min i64Max expText with
      | none => none
      | some exp =>
        if exp < now then none
        else if eqIgnoreAsciiCase (sessionSignature mac username exp) (trim sig) then
          some username
        else none
  | _ => none

/-! ## Stored sessions -/

/-- `DateTime::<Utc>::to_rfc3339` of a time in nanoseconds, and
`DateTime::parse_from_rfc3339`. -/
structure Rfc3339 where
  print : Nat → Text
  parse : Text → Option Nat

structure SessionEntry where
  username : Text
  expiresAt : Instant
deriving DecidableEq

structure SessionRow where
  username : Text
  expiresAt : Text
deriving DecidableEq

/-- A successful login: the token it gave out, the time, and the lifetime in seconds. -/
structure Issue where
  token : Text
  username : Text
  time : Nat
  lifetime : Nat
deriving DecidableEq

namespace Issue

def expires (issue : Issue) : Nat :=
  issue.time + Instant.ofSecs issue.lifetime

def exp (issue : Issue) : Int :=
  (issue.time / Instant.ofSecs 1 : Nat) + issue.lifetime

end Issue

/-- The sessions of a server and its clocks: wall time in nanoseconds, and how far the
monotonic clock of the process is ahead of it. The logins so far and the texts signed
in them are kept for the statements only. -/
structure SessionServer where
  now : Nat := 0
  boot : Nat := 0
  sessions : HashMap Text SessionEntry := ∅
  rows : HashMap Text SessionRow := ∅
  issues : List Issue := []
  signed : List Text := []

/-- What happens to a server. Calls of the database may fail, or there may be none. -/
inductive SessionEvent where
  | login (username uuid : Text) (lifetime : Nat) (stored : Bool)
  | restart (boot : Nat) (loaded : Bool)
  | look (token : Text) (answered : Bool)
  | pass (nanos : Nat)
deriving DecidableEq

def sessionUsername (sessions : HashMap Text SessionEntry) (token : Text) (now : Instant) :
    Option Text × HashMap Text SessionEntry :=
  match sessions.get? token with
  | none => (none, sessions)
  | some entry =>
    if now < entry.expiresAt then (some entry.username, sessions)
    else (none, sessions.remove token)

section

variable (mac : Option Mac) (format : Rfc3339)

/-- The query compares the expiry with the current time as texts. -/
def activeRow (now : Nat) (row : SessionRow) : Bool :=
  format.print now < row.expiresAt

/-- The expiry of a row; a text that cannot be parsed counts as the current time. -/
def rowExpiry (now : Nat) (row : SessionRow) : Nat :=
  (format.parse row.expiresAt).getD now

/-- What is kept in memory for a row: whole seconds, and at least one. -/
def cachedEntry (now : Nat) (instant : Instant) (row : SessionRow) : SessionEntry where
  username := row.username
  expiresAt := instant +
    Instant.ofSecs (max ((rowExpiry format now row - now) / Instant.ofSecs 1) 1)

def getSession (rows : HashMap Text SessionRow) (token : Text) (now : Nat) : Option SessionRow :=
  (rows.get? token).filter (activeRow format now)

namespace SessionServer

def instant (server : SessionServer) : Instant :=
  server.now + server.boot

def loadSessionsFromDb (server : SessionServer) : HashMap Text SessionEntry :=
  (server.rows.entries.filter fun entry => activeRow format server.now entry.2).foldl
    (fun sessions entry =>
      sessions.insert entry.1 (cachedEntry format server.now server.instant entry.2)) ∅

def resolveUsernameFromToken (server : SessionServer) (token : Text) (answered : Bool) :
    Option Text × SessionServer :=
  let (found, sessions) := sessionUsername server.sessions token server.instant
  let server := { server with sessions }
  match found with
  | some username => (some username, server)
  | none =>
    match (if answered then getSession format server.rows token server.now else none) with
    | some row =>
      (some row.username,
        { server with
          sessions := sessions.insert token
            (cachedEntry format server.now server.instant row) })
    | none =>
      (mac.bind fun mac =>
        verifySignedSessionToken mac token (server.now / Instant.ofSecs 1 : Nat), server)

def login (server : SessionServer) (username uuid : Text) (lifetime : Nat) (stored : Bool) :
    SessionServer :=
  let seconds : Int := (server.now / Instant.ofSecs 1 : Nat)
  let minted := mac.bind fun mac => mintSignedSessionToken mac username seconds lifetime
  let token := minted.getD uuid
  let issue : Issue := { token, username, time := server.now, lifetime }
  { server with
    sessions := server.sessions.insert token
      { username, expiresAt := server.instant + Instant.ofSecs lifetime }
    rows :=
      if stored then
        server.rows.insert token { username, expiresAt := format.print issue.expires }
      else server.rows
    issues := issue :: server.issues
    signed := if minted.isSome then signedPayload username issue.exp :: server.signed
      else server.signed }

/-- Memory is empty after a restart, until the database has been read. -/
def restart (server : SessionServer) (boot : Nat) (loaded : Bool) : SessionServer :=
  let server := { server with boot, sessions := ∅ }
  if loaded then { server with sessions := server.loadSessionsFromDb format } else server

def step (server : SessionServer) : SessionEvent → SessionServer
  | .login username uuid lifetime stored => server.login mac format username uuid lifetime stored
  | .restart boot loaded => server.restart format boot loaded
  | .look token answered => (server.resolveUsernameFromToken mac format token answered).2
  | .pass nanos => { server with now := server.now + nanos }

end SessionServer

end

/-! ## What is accepted -/

/-- The first nanosecond after the years that RFC 3339 covers. -/
def yearTenThousand : Nat := Instant.ofSecs 253402300800

/-- Printed times are parsed as what they were or not at all, and within the range of
the format they are ordered as the times. -/
structure Rfc3339.Documented (format : Rfc3339) : Prop where
  parse_print : ∀ time found, format.parse (format.print time) = some found → found = time
  order : ∀ left right, left < yearTenThousand → right < yearTenThousand →
    (format.print left < format.print right ↔ left < right)

section

variable (mac : Option Mac) (format : Rfc3339)

end

/-! ## Sound sessions -/

section

variable {mac : Option Mac} {format : Rfc3339} {server : SessionServer}

def EntryOf (issues : List Issue) (boot : Nat) (token : Text) (entry : SessionEntry) : Prop :=
  ∃ issue ∈ issues, issue.token = token ∧ issue.username = entry.username ∧
    entry.expiresAt ≤ issue.expires + Instant.ofSecs 1 + boot

def RowOf (format : Rfc3339) (issues : List Issue) (token : Text) (row : SessionRow) : Prop :=
  ∃ issue ∈ issues, issue.token = token ∧ issue.username = row.username ∧
    row.expiresAt = format.print issue.expires

structure SessionServer.Sound (mac : Option Mac) (format : Rfc3339) (server : SessionServer) :
    Prop where
  cached : ∀ token entry, server.sessions.get? token = some entry →
    EntryOf server.issues server.boot token entry
  stored : ∀ token row, server.rows.get? token = some row →
    RowOf format server.issues token row
  signed : ∀ payload ∈ server.signed, ∃ issue ∈ server.issues, ∃ key, mac = some key ∧
    payload = signedPayload issue.username issue.exp ∧
    issue.token = signedToken key issue.username issue.exp

theorem EntryOf.mono (issue : Issue) (held : EntryOf issues boot token entry) :
    EntryOf (issue :: issues) boot token entry := by
  rcases held with ⟨earlier, member, rest⟩
  exact ⟨earlier, mem_cons_of_mem _ member, rest⟩

theorem RowOf.mono (issue : Issue) (held : RowOf format issues token row) :
    RowOf format (issue :: issues) token row := by
  rcases held with ⟨earlier, member, rest⟩
  exact ⟨earlier, mem_cons_of_mem _ member, rest⟩

theorem later_of_active (documented : format.Documented) (inRange : now < yearTenThousand)
    (printed : row.expiresAt = format.print expires) (active : activeRow format now row = true) :
    now < expires := by
  rw [activeRow, decide_eq_true_eq, printed] at active
  by_cases within : expires < yearTenThousand
  · exact (documented.order now expires inRange within).mp active
  · omega

theorem rounded_le (boot : Nat) (later : now < expires)
    (within : now + remaining ≤ expires) :
    now + boot + Instant.ofSecs (max (remaining / Instant.ofSecs 1) 1) ≤
      expires + Instant.ofSecs 1 + boot := by
  simp only [Instant.ofSecs]
  omega

theorem RowOf.cached (documented : format.Documented) (inRange : now < yearTenThousand)
    (held : RowOf format issues token row) (active : activeRow format now row = true) :
    EntryOf issues boot token (cachedEntry format now (now + boot) row) := by
  rcases held with ⟨issue, member, sameToken, sameUser, printed⟩
  refine ⟨issue, member, sameToken, sameUser, ?_⟩
  have later := later_of_active documented inRange printed active
  have within : now + (rowExpiry format now row - now) ≤ issue.expires := by
    rw [rowExpiry, printed]
    cases parsed : format.parse (format.print issue.expires) with
    | none =>
      rw [getD_none, Nat.sub_self]
      exact later.le
    | some found =>
      rw [getD_some, documented.parse_print _ _ parsed]
      exact (add_sub_of_le later.le).le
  exact rounded_le boot later within

theorem signedPayload_inj (same : signedPayload username exp = signedPayload username' exp') :
    username = username' ∧ exp = exp' := by
  have plain : ∀ value : Int, '|' ∉ ofInt value := by
    intro value member
    exact absurd (mem_ofInt member) (by decide)
  have split := congrArg (rsplitOnce '|') (append_cancel_left same)
  rw [rsplitOnce_append _ (plain exp), rsplitOnce_append _ (plain exp')] at split
  have parts := Prod.mk.inj (some.inj split)
  exact ⟨parts.1, ofInt_injective parts.2⟩

theorem verifySignedSessionToken_some
    (verified : verifySignedSessionToken key token now = some username) :
    ∃ expText sig exp, token.splitOn '.' = ["pp1".toList, username, expText, sig] ∧
      parseInteger i64Min i64Max expText = some exp ∧ now ≤ exp ∧
      eqIgnoreAsciiCase (sessionSignature key username exp) (trim sig) = true := by
  unfold verifySignedSessionToken at verified
  split at verified
  · next version name expText sig parts =>
    split at verified
    · cases verified
    rename_i named
    split at verified
    · cases verified
    rename_i exp parsed
    split at verified
    · cases verified
    rename_i live
    split at verified
    · next matching =>
      cases verified
      have version : version = "pp1".toList := by
        simp only [Bool.or_eq_true, bne_iff_ne, ne_eq, not_or, not_not] at named
        exact named.1
      rw [version] at parts
      exact ⟨expText, sig, exp, parts, parsed, Int.not_lt.mp live, matching⟩
    · cases verified
  · cases verified

theorem sessionUsername_cases (sessions : HashMap Text SessionEntry) (token : Text)
    (now : Instant) : (∃ entry, sessions.get? token = some entry ∧ now < entry.expiresAt ∧
      sessionUsername sessions token now = (some entry.username, sessions)) ∨
    ∃ rest, (∀ other entry, rest.get? other = some entry → sessions.get? other = some entry) ∧
      sessionUsername sessions token now = (none, rest) := by
  unfold sessionUsername
  cases found : sessions.get? token with
  | none => exact .inr ⟨sessions, fun _ _ held => held, rfl⟩
  | some entry =>
    by_cases live : now < entry.expiresAt
    · exact .inl ⟨entry, rfl, live, by simp only [live, if_true]⟩
    refine .inr ⟨sessions.remove token, ?_, by simp only [live, if_false]⟩
    intro other kept held
    rw [HashMap.get?_remove] at held
    split at held
    · cases held
    · exact held

theorem resolve_cases (server : SessionServer) (token : Text) (answered : Bool) :
    (∃ entry, server.sessions.get? token = some entry ∧ server.instant < entry.expiresAt ∧
      server.resolveUsernameFromToken mac format token answered = (some entry.username, server)) ∨
    ∃ rest : HashMap Text SessionEntry,
      (∀ other entry, rest.get? other = some entry → server.sessions.get? other = some entry) ∧
      ((∃ row, server.rows.get? token = some row ∧ activeRow format server.now row = true ∧
        server.resolveUsernameFromToken mac format token answered =
          (some row.username, { server with
            sessions := rest.insert token
              (cachedEntry format server.now server.instant row) })) ∨
      server.resolveUsernameFromToken mac format token answered = (mac.bind fun mac =>
            verifySignedSessionToken mac token (server.now / Instant.ofSecs 1 : Nat),
          { server with sessions := rest })) := by
  rcases sessionUsername_cases server.sessions token server.instant with
    ⟨entry, held, live, found⟩ | ⟨rest, kept, missing⟩
  · refine .inl ⟨entry, held, live, ?_⟩
    simp [SessionServer.resolveUsernameFromToken, found]
  refine .inr ⟨rest, kept, ?_⟩
  cases read : (if answered then getSession format server.rows token server.now else none) with
  | none =>
    right
    simp [SessionServer.resolveUsernameFromToken, missing, read]
  | some row =>
    left
    have queried : getSession format server.rows token server.now = some row := by
      cases answered with
      | true => exact read
      | false => cases read
    rcases filter_eq_some_iff.mp queried with ⟨stored, active⟩
    refine ⟨row, stored, active, ?_⟩
    simp only [SessionServer.resolveUsernameFromToken, missing, read]
    rfl

end

/-! ## Sample runs -/

def padded : Nat → Nat → Text
  | 0, _ => []
  | width + 1, value => Char.ofNat (48 + value / 10 ^ width) :: padded width (value % 10 ^ width)

def sampleKey : Mac where
  tag _ := List.replicate 32 0xAB
  length_tag _ := List.length_replicate

open Security

inductive Signing where
  | session (username : Text) (now : Int) (ttlSecs : Nat)
  | challenge (now : Nat) (draw : Draw)
  | pass (now : Nat) (clientIp : Option Text) (ttlSecs : Nat)

/-- The text whose whole signature is given out, if any. -/
def Signing.payload (mac : Mac) : Signing → Option Text
  | .session username now ttlSecs =>
    (mintSignedSessionToken mac username now ttlSecs).map fun _ =>
      signedPayload username (now + ttlSecs)
  | .challenge now draw => some (challengePayload draw.a draw.b (challengeExpiry now))
  | .pass now clientIp ttlSecs =>
    some (passPayload (Text.ofNat (passExpiry now ttlSecs)) (passTag mac clientIp))

/-- The user, the expiry and the signature that a text states as a session token. -/
def sessionClaim (token : Text) : Option (Text × Int × Text) :=
  match token.splitOn '.' with
  | [_, username, expText, sig] =>
    (Text.parseInteger i64Min i64Max expText).map (username, ·, sig)
  | _ => none

/-- A valid signature in the text is one that was given out. -/
def Genuine (mac : Mac) (signings : List Signing) (token : Text) : Prop :=
  ∀ username exp sig, sessionClaim token = some (username, exp, sig) →
    verifySig mac (signedPayload username exp) sig = true →
    ∃ signing ∈ signings, signing.payload mac = some (signedPayload username exp)

theorem verified_claim (accepted : verifySignedSessionToken mac token now = some username) :
    ∃ exp sig, sessionClaim token = some (username, exp, sig) ∧
      verifySig mac (signedPayload username exp) sig = true := by
  rcases verifySignedSessionToken_some accepted with ⟨expText, sig, exp, parts, parsed, _, valid⟩
  refine ⟨exp, sig, ?_, valid⟩
  rw [sessionClaim, parts]
  simp [parsed]

theorem minted_of_payload {signing : Signing}
    (signed : signing.payload mac = some (signedPayload username exp)) :
    ∃ now ttlSecs, signing = .session username now ttlSecs ∧ now + ttlSecs = exp ∧
      (mintSignedSessionToken mac username now ttlSecs).isSome := by
  cases signing with
  | session name now ttlSecs =>
    rcases Option.map_eq_some_iff.mp signed with ⟨token, minted, same⟩
    rcases signedPayload_inj same with ⟨rfl, sameExp⟩
    exact ⟨now, ttlSecs, rfl, sameExp, minted ▸ rfl⟩
  | challenge now draw =>
    have first : some 'c' = some 'p' := congrArg List.head? (Option.some.inj signed)
    exact absurd first (by decide)
  | pass now clientIp ttlSecs =>
    have first : some 'v' = some 'p' := congrArg List.head? (Option.some.inj signed)
    exact absurd first (by decide)

/-- Under one secret, with unforgeable signatures, a text is accepted as a session of a
user only if one with the expiry it states was minted for that user, and never with the
tag of a client address, whatever the address, in the place of the signature. -/
theorem accepted_sessions_minted (mac : Mac) (signings : List Signing) (token : Text) (now : Int)
    (genuine : Genuine mac signings token) :
    ∀ username, verifySignedSessionToken mac token now = some username →
      ∃ exp sig mintedAt ttlSecs, sessionClaim token = some (username, exp, sig) ∧
        Signing.session username mintedAt ttlSecs ∈ signings ∧ mintedAt + ttlSecs = exp ∧
        (mintSignedSessionToken mac username mintedAt ttlSecs).isSome ∧
        ∀ clientIp, sig ≠ shortIpTag mac clientIp := by
  intro username accepted
  rcases verified_claim accepted with ⟨exp, sig, claimed, valid⟩
  rcases genuine username exp sig claimed valid with ⟨signing, member, signed⟩
  rcases minted_of_payload signed with ⟨mintedAt, ttlSecs, rfl, sameExp, minted⟩
  refine ⟨exp, sig, mintedAt, ttlSecs, claimed, member, sameExp, minted, ?_⟩
  rintro clientIp rfl
  rw [verifySig_shortIpTag] at valid
  cases valid

def annToken : Text := signedToken default "ann" 60

theorem ann_session_minted : verifySignedSessionToken default annToken 30 = some "ann".toList ∧
      ∃ exp sig mintedAt ttlSecs, sessionClaim annToken = some ("ann".toList, exp, sig) ∧
        Signing.session "ann" mintedAt ttlSecs ∈
          [.pass 0 (some "pp1|bob|99") 60, Signing.session "ann" 0 60] ∧
        mintedAt + ttlSecs = exp := by
  have accepted : verifySignedSessionToken default annToken 30 = some "ann".toList := by
    decide +kernel
  have claim : sessionClaim annToken =
      some ("ann".toList, 60, sessionSignature default "ann" 60) := by decide +kernel
  have genuine : Genuine default [.pass 0 (some "pp1|bob|99") 60, .session "ann" 0 60]
      annToken := by
    intro username exp sig claimed _
    cases claim.symm.trans claimed
    exact ⟨_, List.mem_cons_of_mem _ List.mem_cons_self, rfl⟩
  rcases accepted_sessions_minted default _ annToken 30 genuine _ accepted with
    ⟨exp, sig, mintedAt, ttlSecs, claimed, member, sameExp, _⟩
  exact ⟨accepted, exp, sig, mintedAt, ttlSecs, claimed, member, sameExp⟩

end PertiskProxy.Api
