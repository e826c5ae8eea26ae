import PertiskProxy.Proxy.Session
import PertiskProxy.Security.Evaluate

/-! Runs of the protocol against an adversary who chooses every token, answer, cookie, and
proxy header. -/

namespace PertiskProxy.Security.CaptchaProtocol

structure Attempt where
  now : Nat
  token : Option Text
  answer : Option Text
  next : Option Text
  socketIp : Option Text
  xff : Option Text
  xRealIp : Option Text
  ttlSecs : Nat

def Attempt.clientIp (attempt : Attempt) : Option Text :=
  Proxy.resolveClientIp attempt.socketIp attempt.xff attempt.xRealIp

def Attempt.outcome (mac : Mac) (attempt : Attempt) : Except Text (Text × Text) :=
  verifyAndPassCookie mac attempt.now attempt.token attempt.answer attempt.next
    attempt.clientIp attempt.ttlSecs

def Attempt.expiry (attempt : Attempt) : Nat :=
  passExpiry attempt.now attempt.ttlSecs

inductive Event where
  /-- A challenge page is served. -/
  | issue (now : Nat) (draw : Draw)
  | verify (attempt : Attempt)
  /-- A request to a protected route. The client address may be any text, since
  one data plane takes it from a header as it stands. -/
  | request (now : Nat) (cookie clientIp : Option Text)

def Event.clientIp : Event → Option Text
  | .issue _ _ => none
  | .verify attempt => attempt.clientIp
  | .request _ _ clientIp => clientIp

variable (mac : Mac)

def Attempt.passText (attempt : Attempt) : Text :=
  passPayload (Text.ofNat attempt.expiry) (passTag mac attempt.clientIp)

/-- The texts whose HMAC leaves the proxy with the response, in full or, for an
address, cut to its first bytes. -/
def released : Event → List Text
  | .issue now draw => [challengePayload draw.a draw.b (challengeExpiry now)]
  | .verify attempt =>
    match attempt.outcome mac with
    | .ok _ => attempt.passText mac :: attempt.clientIp.toList
    | .error _ => []
  | .request _ _ _ => []

/-- The text a presented token claims a signature for, and the signature. -/
def tokenClaim (token : Text) : Option (Text × Text) :=
  match token.splitOn '.' with
  | [_, aText, bText, expText, sig] =>
    match Text.parseUnsigned u32Max aText, Text.parseUnsigned u32Max bText,
        Text.parseUnsigned u64Max expText with
    | some a, some b, some exp => some (challengePayload a b exp, sig)
    | _, _, _ => none
  | _ => none

def cookieClaim (raw : Text) : Option (Text × Text) :=
  match raw.splitOn '.' with
  | [_, exp, ipTag, sig] => some (passPayload exp ipTag, sig)
  | _ => none

def presented : Event → Option (Text × Text)
  | .issue _ _ => none
  | .verify attempt => attempt.token.bind tokenClaim
  | .request _ cookie _ => (cookie.bind (parseCookieValue · cookieName)).bind cookieClaim

/-- The adversary's limits: no forged signature, and addresses from the given
set of clients. -/
structure Admissible (clients : Text → Prop) (history : List Event) (event : Event) :
    Prop where
  unforged : ∀ payload sig, presented event = some (payload, sig) →
    verifySig mac payload sig = true → payload ∈ history.flatMap (released mac)
  client : ∀ ip, event.clientIp = some ip → clients ip

/-- The token, spelled in whatever way the verification accepts, is that of a
challenge issued at the given second. -/
structure Denotes (token : Text) (issuedAt : Nat) (draw : Draw) : Prop where
  claimed : ∃ sig, tokenClaim token =
    some (challengePayload draw.a draw.b (challengeExpiry issuedAt), sig) ∧
    verifySig mac (challengePayload draw.a draw.b (challengeExpiry issuedAt)) sig = true

/-- A verification that answered, in time, a challenge issued before it. -/
structure Earned (earlier : List Event) (attempt : Attempt) : Prop where
  passed : ∃ location, attempt.outcome mac =
    .ok (mintPassCookie mac attempt.now attempt.clientIp attempt.ttlSecs, location)
  answered : ∃ issuedAt draw token answer,
    Event.issue issuedAt draw ∈ earlier ∧
    attempt.token = some token ∧ attempt.answer = some answer ∧
    Denotes mac token issuedAt draw ∧
    attempt.now ≤ challengeExpiry issuedAt ∧
    Text.parseUnsigned u32Max (Text.trim answer) = some (draw.a + draw.b)

variable {mac} {clients : Text → Prop} {history : List Event}

theorem mem_released_verify (member : payload ∈ released mac (.verify attempt)) :
    (∃ cookie location, attempt.outcome mac = .ok (cookie, location)) ∧
      (payload = attempt.passText mac ∨ attempt.clientIp = some payload) := by
  unfold released at member
  dsimp only at member
  split at member
  · next result outcome =>
    refine ⟨⟨result.1, result.2, outcome⟩, ?_⟩
    simpa [eq_comm] using member
  · cases member

theorem issue_of_released (member : challengePayload a b exp ∈ history.flatMap (released mac)) :
    ∃ issuedAt draw, Event.issue issuedAt draw ∈ history ∧
      a = draw.a ∧ b = draw.b ∧ exp = challengeExpiry issuedAt := by
  rcases List.mem_flatMap.mp member with ⟨event, happened, signed⟩
  cases event with
  | issue issuedAt draw =>
    refine ⟨issuedAt, draw, happened, ?_⟩
    exact challengePayload_inj (List.mem_singleton.mp signed)
  | verify attempt =>
    rcases (mem_released_verify signed).2 with pass | address
    · exact absurd pass (challengePayload_ne_passPayload a b exp _ _)
    · rcases Proxy.resolveClientIp_printed address with ⟨ip, printed⟩
      exact absurd printed.symm (toText_ne_challengePayload ip a b exp)
  | request now cookie clientIp => cases signed

theorem verify_of_released (expColonless : ':' ∉ exp) (tagColonless : ':' ∉ ipTag)
    (member : passPayload exp ipTag ∈ history.flatMap (released mac)) :
    ∃ attempt, Event.verify attempt ∈ history ∧
      (∃ cookie location, attempt.outcome mac = .ok (cookie, location)) ∧
      passPayload exp ipTag = attempt.passText mac := by
  rcases List.mem_flatMap.mp member with ⟨event, happened, signed⟩
  cases event with
  | issue issuedAt draw =>
    exact absurd (List.mem_singleton.mp signed).symm
      (challengePayload_ne_passPayload draw.a draw.b _ exp ipTag)
  | verify attempt =>
    rcases mem_released_verify signed with ⟨outcome, pass | address⟩
    · exact ⟨attempt, happened, outcome, pass⟩
    · rcases Proxy.resolveClientIp_printed address with ⟨ip, printed⟩
      exact absurd printed.symm (toText_ne_passPayload ip expColonless tagColonless)
  | request now cookie clientIp => cases signed

theorem tokenClaim_of_accepted
    (accepted : AcceptedToken mac now token answer aText bText expText sig a b exp) :
    tokenClaim token = some (challengePayload a b exp, sig) := by
  simp [tokenClaim, accepted.parts, accepted.left, accepted.right, accepted.expiry]

theorem saturatingAdd32_draw (draw : Draw) :
    saturatingAdd32 draw.a draw.b = draw.a + draw.b := by
  have left := draw.a_range
  have right := draw.b_range
  exact Nat.min_eq_left (by rw [u32Max]; omega)

theorem earned_of_ok (admissible : Admissible mac clients earlier (.verify attempt))
    (outcome : attempt.outcome mac = .ok (cookie, location)) : Earned mac earlier attempt := by
  rcases accepted_of_verifyAndPassCookie outcome with
    ⟨minted, token, answer, hasToken, hasAnswer, valid⟩
  rcases accepted_of_verifyChallengeToken valid with
    ⟨aText, bText, expText, sig, a, b, exp, accepted⟩
  have claim := tokenClaim_of_accepted accepted
  have member := admissible.unforged _ sig (by simp [presented, hasToken, claim]) accepted.signed
  rcases issue_of_released member with ⟨issuedAt, draw, issued, sameA, sameB, sameExp⟩
  rw [sameA, sameB, sameExp] at accepted claim
  refine ⟨⟨location, ?_⟩, issuedAt, draw, token, answer, issued, hasToken, hasAnswer,
    ⟨sig, claim, accepted.signed⟩, accepted.fresh, ?_⟩
  · rw [outcome, minted]
  · rw [accepted.correct, saturatingAdd32_draw]

theorem hasValidPassCookie_of_resolveChallenge
    (passes : resolveChallenge mac clock policy req = .allow) :
    hasValidPassCookie mac clock.unixSecs req.cookie req.clientIp = true := by
  unfold resolveChallenge at passes
  split at passes
  · next both => simpa using (Bool.and_eq_true_iff.mp both).2
  · split at passes <;> cases passes

theorem accepted_plain
    (accepted : AcceptedPass mac now raw (some ip) exp ipTag sig expires) :
    '.' ∉ exp ∧ ':' ∉ exp ∧ ':' ∉ ipTag := by
  have digits : ∀ c ∈ exp, c.isDigit = true ∨ c = '+' :=
    fun _ => Text.mem_of_parseUnsigned accepted.parsed
  refine ⟨dot_not_mem_of_digits digits, fun member => ?_, fun member => ?_⟩
  · exact absurd (digits ':' member) (by decide)
  · rcases accepted.bound with dash | tag
    · exact absurd (dash ▸ member) (by decide)
    · exact absurd (isHexDigit_of_mem_shortIpTag (tag ip rfl ▸ member)) (by decide)

theorem clientIp_of_tag {attempt : Attempt} {ip ipTag : Text}
    (distinct : ∀ left right, clients left → clients right →
      shortIpTag mac left = shortIpTag mac right → left = right)
    (client : clients ip) (minting : ∀ other, attempt.clientIp = some other → clients other)
    (bound : ipTag = "-".toList ∨ ipTag = shortIpTag mac ip)
    (minted : ipTag = passTag mac attempt.clientIp) :
    attempt.clientIp = some ip ∨ attempt.clientIp = none := by
  cases owner : attempt.clientIp with
  | none => exact Or.inr rfl
  | some other =>
    have tag : ipTag = shortIpTag mac other := by simpa [owner, passTag] using minted
    rcases bound with dash | same
    · exact absurd (tag.symm.trans dash) (shortIpTag_ne_dash mac other)
    · left
      rw [distinct other ip (minting other owner) client (tag.symm.trans same)]

theorem expires_of_minted {attempt : Attempt} {expires : Nat}
    (parsed : Text.parseUnsigned u64Max (Text.ofNat attempt.expiry) = some expires) :
    expires = attempt.expiry := by
  have fits : attempt.expiry ≤ u64Max := Nat.min_le_right _ _
  rw [Text.parseUnsigned_ofNat fits] at parsed
  exact (Option.some.inj parsed).symm

/-- In every run, a request from a known address is treated as having passed
only if an earlier verification, from that address or from an unknown one,
answered an issued and unexpired challenge, and the cookie it set is the one
presented and has not expired. Tokens, cookies, and address tags never stand in
for each other. -/
theorem passes_only_if_earned (mac : Mac) (clients : Text → Prop)
    (distinct : ∀ left right, clients left → clients right →
      shortIpTag mac left = shortIpTag mac right → left = right)
    {history : List Event} (run : History (Admissible mac clients) history)
    (clock : Clock) (policy : SecurityPolicy) (req : RequestView) (ip : Text)
    (known : req.clientIp = some ip) (admissible : Admissible mac clients history
      (.request clock.unixSecs req.cookie req.clientIp))
    (passes : resolveChallenge mac clock policy req = .allow) : (∃ attempt later earlier raw sig,
      history = later ++ .verify attempt :: earlier ∧ Earned mac earlier attempt ∧
      (attempt.clientIp = some ip ∨ attempt.clientIp = none) ∧
      req.cookie.bind (parseCookieValue · cookieName) = some raw ∧
      cookieClaim raw = some (attempt.passText mac, sig) ∧ clock.unixSecs ≤ attempt.expiry) ∧
    Separated mac := by
  refine ⟨?_, separated mac⟩
  rcases validPass_of_hasValidPassCookie (hasValidPassCookie_of_resolveChallenge passes)
    with ⟨raw, found, valid⟩
  rw [known] at valid
  rcases accepted_of_validPass valid with ⟨exp, ipTag, sig, expires, accepted⟩
  rcases accepted_plain accepted with ⟨dotless, expColonless, tagColonless⟩
  have claim : cookieClaim raw = some (passPayload exp ipTag, sig) := by
    simp [cookieClaim, accepted.parts]
  have member := admissible.unforged _ sig (by simp [presented, found, claim]) accepted.signed
  rcases verify_of_released expColonless tagColonless member with
    ⟨attempt, happened, ⟨cookie, location, outcome⟩, minted⟩
  rcases run.of_mem happened with ⟨later, earlier, split, -, verifiable⟩
  rcases passPayload_inj dotless (dot_not_mem_ofNat _) minted with ⟨sameExp, sameTag⟩
  refine ⟨attempt, later, earlier, raw, sig, split, earned_of_ok verifiable outcome, ?_, found,
    minted ▸ claim, ?_⟩
  · exact clientIp_of_tag distinct (admissible.client ip known) verifiable.client
      (accepted.bound.imp_right fun tag => tag ip rfl) sameTag
  · have parsed := accepted.parsed
    rw [sameExp] at parsed
    exact expires_of_minted parsed ▸ accepted.fresh

/-! One visitor gets a challenge, answers it, and comes back with the cookie. -/

def visitorIp : Text := "203.0.113.7"

def visitorDraw : Draw where
  a := 2
  b := 3
  a_range := by decide
  b_range := by decide

def visitorAttempt : Attempt where
  now := 100
  token := some (mintChallenge default 0 visitorDraw).token
  answer := some " 5"
  next := none
  socketIp := some visitorIp
  xff := none
  xRealIp := none
  ttlSecs := 3600

def visitorRequest : RequestView where
  method := "GET"
  path := "/"
  query := []
  cookie := some (cookieName ++ '=' :: passValue default 100 (some visitorIp) 3600)
  clientIp := some visitorIp

def visitorHistory : List Event :=
  [.verify visitorAttempt, .issue 0 visitorDraw]

theorem admissible_of_presented (shown : presented event = some (payload, sig))
    (signed : payload ∈ history.flatMap (released mac))
    (client : ∀ ip, event.clientIp = some ip → clients ip) :
    Admissible mac clients history event where
  unforged := by
    intro other otherSig equal _
    rw [shown] at equal
    cases equal
    exact signed
  client := client

theorem visitorHistory_run :
    History (Admissible default (· = visitorIp)) visitorHistory := by
  have issued : Admissible default (· = visitorIp) [] (.issue 0 visitorDraw) :=
    ⟨fun _ _ shown => (nomatch shown), fun _ shown => (nomatch shown)⟩
  refine .step (.step .start issued) ?_
  refine admissible_of_presented (show presented (.verify visitorAttempt) =
      some (challengePayload 2 3 600, List.replicate 64 '0') by decide) (by decide) ?_
  intro ip owner
  exact (Option.some.inj ((by decide : Event.clientIp (.verify visitorAttempt) =
    some visitorIp).symm.trans owner)).symm

theorem visitor_passes_only_if_earned : (∃ attempt later earlier raw sig,
      visitorHistory = later ++ .verify attempt :: earlier ∧ Earned default earlier attempt ∧
      (attempt.clientIp = some visitorIp ∨ attempt.clientIp = none) ∧
      visitorRequest.cookie.bind (parseCookieValue · cookieName) = some raw ∧
      cookieClaim raw = some (attempt.passText default, sig) ∧ 200 ≤ attempt.expiry) ∧
    Separated default :=
  passes_only_if_earned default (· = visitorIp)
    (fun _ _ left right _ => left.trans right.symm) visitorHistory_run
    ⟨0, 200⟩ { captcha := { enabled := true } } visitorRequest visitorIp rfl
    (admissible_of_presented
      (show presented (.request 200 visitorRequest.cookie visitorRequest.clientIp) =
        some (visitorAttempt.passText default, List.replicate 64 '0') by decide) (by decide)
      fun _ owner => (Option.some.inj owner).symm)
    (by decide)

end PertiskProxy.Security.CaptchaProtocol
