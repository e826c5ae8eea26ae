import PertiskProxy.Net.IpAddr
import PertiskProxy.Platform

/-! Arithmetic challenges and pass cookies, both authenticated with one HMAC key
(`security/captcha.rs`). -/

namespace PertiskProxy.Security

open Text

structure CaptchaPolicy where
  enabled : Bool := false
  cookieTtlSecs : Nat := 86400
deriving DecidableEq, Inhabited

namespace CaptchaPolicy

def isDefault (policy : CaptchaPolicy) : Bool :=
  !policy.enabled && policy.cookieTtlSecs == 86400

def normalized (policy : CaptchaPolicy) : CaptchaPolicy :=
  { policy with
    cookieTtlSecs := if policy.cookieTtlSecs = 0 then 86400 else policy.cookieTtlSecs }

end CaptchaPolicy

def captchaPath : Text := "/.pertisk/captcha"

def captchaVerifyPath : Text := "/.pertisk/captcha/verify"

def cookieName : Text := "pertisk_captcha"

def challengeTtlSecs : Nat := 600

def isCaptchaPath (path : Text) : Bool :=
  let path := before '?' path
  path == captchaPath || path == captchaVerifyPath

def cookiePair (name part : Text) : Option Text :=
  match splitOnce '=' (trim part) with
  | some (key, value) => if trim key == name then some (trim value) else none
  | none => none

def parseCookieValue (cookieHeader name : Text) : Option Text :=
  (cookieHeader.splitOn ';').findSome? (cookiePair name)

def challengePayload (a b exp : Nat) : Text :=
  "c1.".toList ++ ofNat a ++ '.' :: ofNat b ++ '.' :: ofNat exp

/-- The expiry and the address tag appear as they are spelled in the cookie. -/
def passPayload (exp ipTag : Text) : Text :=
  "v1.".toList ++ exp ++ '.' :: ipTag

section

variable (mac : Mac)

def sign (payload : Text) : Text :=
  Bytes.hexEncode (mac.tag payload.asBytes)

def verifySig (payload sig : Text) : Bool :=
  eqIgnoreAsciiCase (sign mac payload) (trim sig)

def shortIpTag (ip : Text) : Text :=
  Bytes.hexEncode ((mac.tag ip.asBytes).take 8)

/-- Whether the value of a pass cookie, `v1.<exp>.<tag or dash>.<sig>`, holds
for the client at this second. -/
def validPass (now : Nat) (raw : Text) (clientIp : Option Text) : Bool :=
  match raw.splitOn '.' with
  | [version, exp, ipTag, sig] =>
    if version != "v1".toList then false
    else
      match parseUnsigned u64Max exp with
      | none => false
      | some expires =>
        if now > expires then false
        else if !verifySig mac (passPayload exp ipTag) sig then false
        else if ipTag != "-".toList then
          match clientIp with
          | some ip => ipTag == shortIpTag mac ip
          | none => true
        else true
  | _ => false

def hasValidPassCookie (now : Nat) (cookieHeader clientIp : Option Text) : Bool :=
  match cookieHeader with
  | none => false
  | some header =>
    match parseCookieValue header cookieName with
    | none => false
    | some raw => validPass mac now raw clientIp

def passExpiry (now ttlSecs : Nat) : Nat :=
  saturatingAdd64 now (max ttlSecs 60)

def passTag (clientIp : Option Text) : Text :=
  (clientIp.map (shortIpTag mac)).getD "-".toList

def passValue (now : Nat) (clientIp : Option Text) (ttlSecs : Nat) : Text :=
  let payload := passPayload (ofNat (passExpiry now ttlSecs)) (passTag mac clientIp)
  payload ++ '.' :: sign mac payload

def mintPassCookie (now : Nat) (clientIp : Option Text) (ttlSecs : Nat) : Text :=
  cookieName ++ '=' :: passValue mac now clientIp ttlSecs ++
    "; Path=/; HttpOnly; SameSite=Lax; Max-Age=".toList ++ ofNat ttlSecs

structure Draw where
  a : Nat
  b : Nat
  a_range : 1 ≤ a ∧ a < 20
  b_range : 1 ≤ b ∧ b < 20
deriving DecidableEq

structure Challenge where
  a : Nat
  b : Nat
  token : Text
deriving DecidableEq

def challengeExpiry (now : Nat) : Nat :=
  saturatingAdd64 now challengeTtlSecs

def mintChallenge (now : Nat) (draw : Draw) : Challenge :=
  let payload := challengePayload draw.a draw.b (challengeExpiry now)
  { a := draw.a, b := draw.b, token := payload ++ '.' :: sign mac payload }

def verifyChallengeToken (now : Nat) (token answer : Text) : Bool :=
  match token.splitOn '.' with
  | [version, aText, bText, expText, sig] =>
    if version != "c1".toList then false
    else
      match parseUnsigned u32Max aText, parseUnsigned u32Max bText,
          parseUnsigned u64Max expText with
      | some a, some b, some exp =>
        if now > exp then false
        else if !verifySig mac (challengePayload a b exp) sig then false
        else
          match parseUnsigned u32Max (trim answer) with
          | some ans => ans == saturatingAdd32 a b
          | none => false
      | _, _, _ => false
  | _ => false

def htmlEscape (text : Text) : Text :=
  replaceChar '"' "&quot;" (Text.replaceChar '>' "&gt;"
    (Text.replaceChar '<' "&lt;" (Text.replaceChar '&' "&amp;" text)))

structure ChallengePage where
  reason : Text
  a : Nat
  b : Nat
  token : Text
  next : Text
deriving DecidableEq

def challengePage (now : Nat) (draw : Draw) (nextPath reason : Text) : ChallengePage :=
  let challenge := mintChallenge mac now draw
  { reason := htmlEscape reason
    a := challenge.a
    b := challenge.b
    token := htmlEscape challenge.token
    next := htmlEscape (if nextPath.isEmpty then "/".toList else nextPath) }

def verifyAndPassCookie (now : Nat) (token answer next clientIp : Option Text)
    (ttlSecs : Nat) : Except Text (Text × Text) :=
  match token with
  | none => .error "missing token"
  | some token =>
    match answer with
    | none => .error "missing answer"
    | some answer =>
      if !verifyChallengeToken mac now token answer then .error "incorrect answer"
      else
        let next := next.getD "/"
        let next :=
          if Text.startsWith next "/" && !Text.startsWith next "//" then next
          else "/".toList
        .ok (mintPassCookie mac now clientIp ttlSecs, next)

end

/-! What a challenge token or a pass cookie that verifies looks like, and why the three
kinds of authenticated text cannot be confused: challenge payloads, pass payloads, and
printed addresses. -/

open Net List

structure AcceptedPass (mac : Mac) (now : Nat) (raw : Text) (clientIp : Option Text)
    (exp ipTag sig : Text) (expires : Nat) : Prop where
  parts : raw.splitOn '.' = ["v1".toList, exp, ipTag, sig]
  parsed : parseUnsigned u64Max exp = some expires
  fresh : now ≤ expires
  signed : verifySig mac (passPayload exp ipTag) sig = true
  bound : ipTag = "-".toList ∨ ∀ ip, clientIp = some ip → ipTag = shortIpTag mac ip

theorem accepted_of_validPass (valid : validPass mac now raw clientIp = true) :
    ∃ exp ipTag sig expires, AcceptedPass mac now raw clientIp exp ipTag sig expires := by
  unfold validPass at valid
  split at valid
  · next version exp ipTag sig parts =>
    split at valid
    · cases valid
    rename_i current
    split at valid
    · cases valid
    rename_i expires parsed
    split at valid
    · cases valid
    rename_i fresh
    split at valid
    · cases valid
    rename_i signed
    refine ⟨exp, ipTag, sig, expires, ?_, parsed, by omega,
      by simpa using signed, ?_⟩
    · have same : version = "v1".toList := by simpa using current
      rw [parts, same]
    · split at valid
      · right
        rintro ip rfl
        simpa using valid
      · next dash => exact .inl (by simpa using dash)
  · cases valid

theorem validPass_of_hasValidPassCookie
    (valid : hasValidPassCookie mac now cookie clientIp = true) :
    ∃ raw, cookie.bind (parseCookieValue · cookieName) = some raw ∧
      validPass mac now raw clientIp = true := by
  unfold hasValidPassCookie at valid
  split at valid
  · cases valid
  · next header =>
    split at valid
    · cases valid
    · next raw found => exact ⟨raw, found, valid⟩

structure AcceptedToken (mac : Mac) (now : Nat) (token answer aText bText expText sig : Text)
    (a b exp : Nat) : Prop where
  parts : token.splitOn '.' = ["c1".toList, aText, bText, expText, sig]
  left : parseUnsigned u32Max aText = some a
  right : parseUnsigned u32Max bText = some b
  expiry : parseUnsigned u64Max expText = some exp
  fresh : now ≤ exp
  signed : verifySig mac (challengePayload a b exp) sig = true
  correct : parseUnsigned u32Max (trim answer) = some (saturatingAdd32 a b)

theorem accepted_of_verifyChallengeToken
    (valid : verifyChallengeToken mac now token answer = true) :
    ∃ aText bText expText sig a b exp,
      AcceptedToken mac now token answer aText bText expText sig a b exp := by
  unfold verifyChallengeToken at valid
  split at valid
  · next version aText bText expText sig parts =>
    split at valid
    · cases valid
    rename_i current
    split at valid
    · next a b exp left right expiry =>
      split at valid
      · cases valid
      rename_i fresh
      split at valid
      · cases valid
      rename_i signed
      split at valid
      · next ans answered =>
        refine ⟨aText, bText, expText, sig, a, b, exp, ?_, left, right,
          expiry, by omega, by simpa using signed, ?_⟩
        · have same : version = "c1".toList := by simpa using current
          rw [parts, same]
        · have equal : ans = saturatingAdd32 a b := by simpa using valid
          rw [answered, equal]
      · cases valid
    · cases valid
  · cases valid

theorem accepted_of_verifyAndPassCookie {mac : Mac} {now ttlSecs : Nat}
    {token answer next clientIp : Option Text} {cookie location : Text}
    (passed : verifyAndPassCookie mac now token answer next clientIp ttlSecs =
      .ok (cookie, location)) :
    cookie = mintPassCookie mac now clientIp ttlSecs ∧
      ∃ presented given, token = some presented ∧ answer = some given ∧
        verifyChallengeToken mac now presented given = true := by
  unfold verifyAndPassCookie at passed
  split at passed
  · cases passed
  rename_i presented
  split at passed
  · cases passed
  rename_i given
  split at passed
  · cases passed
  · next verified =>
    cases passed
    exact ⟨rfl, presented, given, rfl, rfl, by simpa using verified⟩

theorem dot_not_mem_of_digits {text : Text} (digits : ∀ c ∈ text, c.isDigit = true ∨ c = '+') :
    '.' ∉ text := by
  intro member
  exact absurd (digits '.' member) (by decide)

theorem dot_not_mem_ofNat (value : Nat) : '.' ∉ ofNat value :=
  dot_not_mem_of_digits fun _ member => .inl (isDigit_of_mem_ofNat member)

theorem challengePayload_inj (equal : challengePayload a b exp = challengePayload a' b' exp') :
    a = a' ∧ b = b' ∧ exp = exp' := by
  simp only [challengePayload, append_assoc, cons_append,
    append_cancel_left_eq] at equal
  rcases append_separator_inj (dot_not_mem_ofNat a) (dot_not_mem_ofNat a') equal
    with ⟨sameA, rest⟩
  rcases append_separator_inj (dot_not_mem_ofNat b) (dot_not_mem_ofNat b') rest
    with ⟨sameB, sameExp⟩
  exact ⟨ofNat_injective sameA, ofNat_injective sameB, ofNat_injective sameExp⟩

theorem passPayload_inj (absent : '.' ∉ exp) (absent' : '.' ∉ exp')
    (equal : passPayload exp ipTag = passPayload exp' ipTag') : exp = exp' ∧ ipTag = ipTag' := by
  simp only [passPayload, append_assoc, append_cancel_left_eq] at equal
  exact append_separator_inj absent absent' equal

theorem challengePayload_ne_passPayload (a b exp : Nat) (expText ipTag : Text) :
    challengePayload a b exp ≠ passPayload expText ipTag := by
  intro equal
  have first : some 'c' = some 'v' := congrArg head? equal
  exact absurd first (by decide)

theorem isHexDigit_of_mem_shortIpTag (member : c ∈ shortIpTag mac ip) :
    Bytes.isHexDigit c = true :=
  Bytes.isHexDigit_of_mem_hexEncode member

variable (mac : Mac) (ip : Text)

theorem shortIpTag_ne_dash : shortIpTag mac ip ≠ "-".toList := by
  intro equal
  have dash : '-' ∈ shortIpTag mac ip := by rw [equal]; decide
  exact absurd (isHexDigit_of_mem_shortIpTag dash) (by decide)

theorem toText_ne_of_letter (letter : Char) (member : letter ∈ text)
    (isLetter : letter.isDigit = false ∧ letter ≠ '.') (colonless : ':' ∉ text)
    (address : IpAddr) : address.toText ≠ text := by
  rintro rfl
  rcases address.toText_shape with plain | colon
  · rcases plain letter member with digit | dot
    · exact absurd digit (by simp [isLetter.1])
    · exact isLetter.2 dot
  · exact colonless colon

theorem toText_ne_challengePayload (address : IpAddr) (a b exp : Nat) :
    address.toText ≠ challengePayload a b exp := by
  have digits (value : Nat) : ':' ∉ ofNat value := fun member =>
    absurd (isDigit_of_mem_ofNat member) (by decide)
  refine toText_ne_of_letter 'c' (by simp [challengePayload]) (by decide) ?_ address
  simp [challengePayload, digits]

theorem toText_ne_passPayload (address : IpAddr) (expColonless : ':' ∉ exp)
    (tagColonless : ':' ∉ ipTag) : address.toText ≠ passPayload exp ipTag := by
  refine toText_ne_of_letter 'v' (by simp [passPayload]) (by decide) ?_ address
  simp [passPayload, expColonless, tagColonless]

theorem length_sign (payload : Text) : (sign mac payload).length = 64 := by
  simp [sign, Bytes.length_hexEncode, mac.length_tag]

theorem length_shortIpTag : (shortIpTag mac ip).length = 16 := by
  simp [shortIpTag, Bytes.length_hexEncode, mac.length_tag]

theorem length_trim_le (text : Text) : (trim text).length ≤ text.length := by
  unfold trim trimMatches trimEndMatches trimStartMatches
  exact ((List.rdropWhile_prefix _ _).sublist.trans (dropWhile_sublist _)).length_le

/-- An address tag, being shorter, is never a signature. -/
theorem verifySig_shortIpTag (payload ip : Text) :
    verifySig mac payload (shortIpTag mac ip) = false := by
  rw [Bool.eq_false_iff]
  intro verified
  have equal : toAsciiLowercase (sign mac payload) =
      toAsciiLowercase (trim (shortIpTag mac ip)) := by
    simpa [verifySig, eqIgnoreAsciiCase] using verified
  have lengths := congrArg length equal
  simp only [toAsciiLowercase, length_map, length_sign] at lengths
  have short := length_trim_le (shortIpTag mac ip)
  rw [length_shortIpTag] at short
  omega

theorem splitOn_shortIpTag : (shortIpTag mac ip).splitOn '.' = [shortIpTag mac ip] :=
  splitOn_eq_singleton fun member =>
    absurd (isHexDigit_of_mem_shortIpTag member) (by decide)

/-- The kinds of text the proxy hands out cannot stand in for each other. -/
structure Separated (mac : Mac) : Prop where
  tokenOrCookie : ∀ now now' raw answer clientIp,
    ¬(verifyChallengeToken mac now raw answer = true ∧ validPass mac now' raw clientIp = true)
  tagNoToken : ∀ now ip answer, verifyChallengeToken mac now (shortIpTag mac ip) answer = false
  tagNoCookie : ∀ now ip clientIp, validPass mac now (shortIpTag mac ip) clientIp = false
  tagNoSignature : ∀ payload ip, verifySig mac payload (shortIpTag mac ip) = false

theorem separated : Separated mac where
  tokenOrCookie now now' raw answer clientIp := by
    rintro ⟨token, pass⟩
    rcases accepted_of_verifyChallengeToken token with ⟨_, _, _, _, _, _, _, accepted⟩
    rcases accepted_of_validPass pass with ⟨_, _, _, _, passAccepted⟩
    have fiveOrFour := accepted.parts.symm.trans passAccepted.parts
    simp at fiveOrFour
  tagNoToken now ip answer := by
    rw [Bool.eq_false_iff]
    intro token
    rcases accepted_of_verifyChallengeToken token with ⟨_, _, _, _, _, _, _, accepted⟩
    have parts := accepted.parts
    rw [splitOn_shortIpTag] at parts
    simp at parts
  tagNoCookie now ip clientIp := by
    rw [Bool.eq_false_iff]
    intro pass
    rcases accepted_of_validPass pass with ⟨_, _, _, _, accepted⟩
    have parts := accepted.parts
    rw [splitOn_shortIpTag] at parts
    simp at parts
  tagNoSignature := verifySig_shortIpTag mac

end PertiskProxy.Security
