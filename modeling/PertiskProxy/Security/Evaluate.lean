import PertiskProxy.Security.Captcha

/-! Built-in and per-site rules over one request (`security/waf.rs`). -/

namespace PertiskProxy.Security

structure RequestView where
  method : Text
  path : Text
  query : Text
  userAgent : Option Text := none
  accept : Option Text := none
  acceptLanguage : Option Text := none
  cookie : Option Text := none
  clientIp : Option Text := none
deriving DecidableEq

inductive WafAction where
  | block
  | log
  | challenge
deriving DecidableEq, Inhabited

structure WafRule where
  id : Text
  enabled : Bool := true
  action : WafAction := .block
  methods : List Text := []
  pathContains : Option Text := none
  queryContains : Option Text := none
  uaContains : Option Text := none
deriving DecidableEq

structure WafPolicy where
  enabled : Bool := false
  useBuiltinRules : Bool := false
  rules : List WafRule := []
deriving DecidableEq, Inhabited

structure WafHit where
  ruleId : Text
  action : WafAction
deriving DecidableEq

namespace WafPolicy

def isActive (policy : WafPolicy) : Bool :=
  policy.enabled && (policy.useBuiltinRules || policy.rules.any WafRule.enabled)

def isDefault (policy : WafPolicy) : Bool :=
  !policy.enabled && !policy.useBuiltinRules && policy.rules.isEmpty

def normalizeRule (rule : WafRule) : WafRule :=
  { rule with
    id := Text.trim rule.id
    methods := (rule.methods.map fun method => Text.toAsciiUppercase (Text.trim method)).filter
      fun method => !method.isEmpty
    pathContains := rule.pathContains.map Text.trim
    queryContains := rule.queryContains.map Text.trim
    uaContains := rule.uaContains.map Text.trim }

def normalized (policy : WafPolicy) : WafPolicy :=
  { policy with
    rules := (policy.rules.map normalizeRule).filter fun rule => !rule.id.isEmpty }

end WafPolicy

def builtinPathRule (id needle : String) : WafRule where
  id := id.toList
  pathContains := some needle.toList

def builtinQueryRule (id needle : String) : WafRule where
  id := id.toList
  queryContains := some needle.toList

def builtinRules : List WafRule :=
  [ builtinPathRule "builtin-path-traversal" "../",
    builtinPathRule "builtin-path-traversal-encoded" "..%2f",
    builtinPathRule "builtin-null-byte-path" "%00",
    builtinQueryRule "builtin-null-byte-query" "%00",
    builtinQueryRule "builtin-sqli-union" "union select",
    builtinQueryRule "builtin-sqli-or" "' or ",
    builtinQueryRule "builtin-xss-script" "<script" ]

def containsCi (haystack needle : Text) : Bool :=
  !needle.isEmpty &&
    (Text.toAsciiLowercase haystack).contains (Text.toAsciiLowercase needle)

def fromHex (byte : UInt8) : Option UInt8 :=
  if 48 ≤ byte && byte ≤ 57 then some (byte - 48)
  else if 97 ≤ byte && byte ≤ 102 then some (byte - 97 + 10)
  else if 65 ≤ byte && byte ≤ 70 then some (byte - 65 + 10)
  else none

def percentDecode : Bytes → Bytes
  | 43 :: rest => 32 :: percentDecode rest
  | 37 :: high :: low :: rest =>
    match fromHex high, fromHex low with
    | some a, some b => ((a <<< 4) ||| b) :: percentDecode rest
    | _, _ => 37 :: percentDecode (high :: low :: rest)
  | byte :: rest => byte :: percentDecode rest
  | [] => []

def percentDecodeLossy (input : Text) : Text :=
  Bytes.fromUtf8Lossy (percentDecode input.asBytes)

/-- One needle of a rule, as the pair of whether it is met and whether it
constrains at all. Absent and empty needles do not. -/
def needleMatches (needle : Option Text) (holds : Text → Bool) : Bool × Bool :=
  match needle.filter fun text => !text.isEmpty with
  | some text => (holds text, true)
  | none => (false, false)

def ruleMatches (rule : WafRule) (req : RequestView) : Bool :=
  let method := Text.toAsciiUppercase req.method
  if !rule.methods.isEmpty && !rule.methods.any (· == method) then false
  else
    let onPath := needleMatches rule.pathContains fun needle =>
      containsCi req.path needle || containsCi (percentDecodeLossy req.path) needle
    let onQuery := needleMatches rule.queryContains fun needle =>
      containsCi req.query needle || containsCi (percentDecodeLossy req.query) needle
    let onUa := needleMatches rule.uaContains fun needle =>
      containsCi (req.userAgent.getD []) needle
    let anyConstraint := onPath.2 || onQuery.2 || onUa.2
    let matched := onPath.1 || onQuery.1 || onUa.1
    anyConstraint && matched

def firstHit (rules : List WafRule) (req : RequestView) : Option WafHit :=
  (rules.find? fun rule => rule.enabled && ruleMatches rule req).map fun rule =>
    { ruleId := rule.id, action := rule.action }

def evaluateWaf (policy : WafPolicy) (req : RequestView) : Option WafHit :=
  if !policy.isActive then none
  else
    match firstHit policy.rules req with
    | some hit => some hit
    | none => if policy.useBuiltinRules then firstHit builtinRules req else none

def WafPolicy.scanned (policy : WafPolicy) : List WafRule :=
  policy.rules ++ if policy.useBuiltinRules then builtinRules else []

example : (evaluateWaf { enabled := true, useBuiltinRules := true }
    { method := "GET", path := "/", query := "id=1%27%20or%201%3D1--" }).map (·.ruleId) =
      some "builtin-sqli-or".toList := by decide

def escapeDigit (upper : Bool) (nibble : Nat) : UInt8 :=
  UInt8.ofNat (if nibble < 10 then 48 + nibble else if upper then 55 + nibble else 87 + nibble)

/-- The ways of writing bytes: one by one, each kept unless it is `+` or `%`, or as `%XX`
in either case, or, if it is a space, as `+`. -/
inductive Writes : Bytes → Bytes → Prop
  | nil : Writes [] []
  | keep {rest written} (byte : UInt8) : byte ≠ 43 → byte ≠ 37 → Writes rest written →
      Writes (byte :: rest) (byte :: written)
  | escape {rest written} (byte : UInt8) (high low : Bool) : Writes rest written →
      Writes (byte :: rest) (37 :: escapeDigit high (byte.toNat / 16) ::
        escapeDigit low (byte.toNat % 16) :: written)
  | plus {rest written} : Writes rest written → Writes (32 :: rest) (43 :: written)

theorem fromHex_escapeDigit : ∀ upper, ∀ nibble < 16,
    fromHex (escapeDigit upper nibble) = some (UInt8.ofNat nibble) := by
  decide

theorem ofNat_nibbles : ∀ value < 256,
    (UInt8.ofNat (value / 16) <<< 4) ||| UInt8.ofNat (value % 16) = UInt8.ofNat value := by
  decide +kernel

theorem percentDecode_of_writes (writes : Writes payload written) :
    percentDecode written = payload := by
  induction writes with
  | nil => rfl
  | keep byte unspaced unescaped _ induction =>
    rw [percentDecode, induction]
    · exact unspaced
    · rintro high low rest rfl
      exact absurd rfl unescaped
  | escape byte high low _ induction =>
    have small := byte.toNat_lt
    rw [percentDecode, fromHex_escapeDigit high _ (by omega), fromHex_escapeDigit low _ (by omega)]
    dsimp only
    rw [ofNat_nibbles _ small, UInt8.ofNat_toNat, induction]
  | plus _ induction => rw [percentDecode, induction]

theorem percentDecodeLossy_of_writes {payload written : Text}
    (writes : Writes payload.asBytes written.asBytes) : percentDecodeLossy written = payload := by
  rw [percentDecodeLossy, percentDecode_of_writes writes, Bytes.fromUtf8Lossy_asBytes]

/-- The needle of a rule; an empty one does not count. -/
def needle? (contains : Option Text) : Option Text :=
  contains.filter fun text => !text.isEmpty

theorem needleMatches_of_writes (found : needle? contains = some needle)
    (within : (Text.toAsciiLowercase payload).contains (Text.toAsciiLowercase needle) = true)
    (writes : Writes payload.asBytes written.asBytes) : needleMatches contains (fun needle =>
      containsCi written needle || containsCi (percentDecodeLossy written) needle) =
      (true, true) := by
  have nonempty : (!needle.isEmpty) = true := (Option.filter_eq_some_iff.mp found).2
  rw [needle?] at found
  rw [needleMatches, found]
  simp [containsCi, percentDecodeLossy_of_writes writes, nonempty, within]

/-- A rule matches every written form of a payload in which its needle for the path or
the query occurs, in any case, if it is for the method at all. -/
theorem written_payload_matched (rule : WafRule) (req : RequestView) (needle payload : Text)
    (within : (Text.toAsciiLowercase payload).contains (Text.toAsciiLowercase needle) = true)
    (written : needle? rule.pathContains = some needle ∧ Writes payload.asBytes req.path.asBytes ∨
      needle? rule.queryContains = some needle ∧ Writes payload.asBytes req.query.asBytes) :
    ruleMatches rule req =
      (rule.methods.isEmpty || rule.methods.any (· == Text.toAsciiUppercase req.method)) := by
  have judged : ruleMatches rule req =
      !(!rule.methods.isEmpty && !rule.methods.any (· == Text.toAsciiUppercase req.method)) := by
    unfold ruleMatches
    dsimp only
    split
    · next other => rw [other, Bool.not_true]
    · next other =>
      rcases written with ⟨found, writes⟩ | ⟨found, writes⟩ <;>
      simp [needleMatches_of_writes found within writes, other]
  rw [judged, Bool.not_and, Bool.not_not, Bool.not_not]

theorem written_script_matched :
    let rule : WafRule := { id := "xss", queryContains := some "<s" }
    Writes (Text.asBytes "a <S") (Text.asBytes "%61+%3cS") ∧
      ruleMatches rule { method := "GET", path := "/", query := "%61+%3cS" } = true := by
  have writes : Writes (Text.asBytes "a <S") (Text.asBytes "%61+%3cS") :=
    .escape 97 false false (.plus (.escape 60 false false
      (.keep 83 (by decide) (by decide) .nil)))
  exact ⟨writes, written_payload_matched { id := "xss", queryContains := some "<s" } _ "<s" "a <S"
    (by decide) (Or.inr ⟨rfl, writes⟩)⟩

/-! A score from request signals and the per-address request rate (`security/bot.rs`). -/

structure BotPolicy where
  enabled : Bool := false
  challengeScore : Nat := 40
  blockScore : Nat := 80
  rateLimitPerMin : Nat := 120
deriving DecidableEq, Inhabited

namespace BotPolicy

def isActive (policy : BotPolicy) : Bool :=
  policy.enabled

def isDefault (policy : BotPolicy) : Bool :=
  !policy.enabled && policy.challengeScore == 40 && policy.blockScore == 80 &&
    policy.rateLimitPerMin == 120

def normalized (policy : BotPolicy) : BotPolicy :=
  let challengeScore := if policy.challengeScore = 0 then 40 else policy.challengeScore
  let blockScore := if policy.blockScore = 0 then 80 else policy.blockScore
  { policy with
    challengeScore
    blockScore := if blockScore < challengeScore then challengeScore else blockScore
    rateLimitPerMin := if policy.rateLimitPerMin = 0 then 120 else policy.rateLimitPerMin }

end BotPolicy

inductive BotVerdict where
  | allow
  | challenge
  | block
deriving DecidableEq

structure BotScore where
  score : Nat
  verdict : BotVerdict
  reasons : List Text
deriving DecidableEq

def automationUa : List Text :=
  ["curl/", "wget/", "python-requests", "python-urllib", "go-http-client", "scrapy",
    "httpclient", "libwww-perl", "java/", "okhttp", "headlesschrome", "phantomjs"]

structure RateBucket where
  windowStart : Instant
  count : Nat
deriving DecidableEq

abbrev RateMap := HashMap Text RateBucket

/-- Count one request of `ip`; the answer is how far it is over the limit. -/
def recordRate (now : Instant) (ip : Text) (limit : Nat) (map : RateMap) : Nat × RateMap :=
  let map :=
    if map.entries.length > 10000 then
      map.retain fun _ bucket => now.durationSince bucket.windowStart < Instant.ofSecs 120
    else map
  let bucket := (map.get? ip).getD { windowStart := now, count := 0 }
  let bucket :=
    if now.durationSince bucket.windowStart ≥ Instant.ofSecs 60 then
      { windowStart := now, count := 0 }
    else bucket
  let count := saturatingAdd32 bucket.count 1
  (if count > limit then count - limit else 0, map.insert ip { bucket with count })

def currentBucket (now : Instant) (found : Option RateBucket) : RateBucket :=
  let bucket := found.getD { windowStart := now, count := 0 }
  if now.durationSince bucket.windowStart ≥ Instant.ofSecs 60 then
    { windowStart := now, count := 0 }
  else bucket

/-- `recordRate` without the pruning. -/
def recordRateUnpruned (now : Instant) (ip : Text) (limit : Nat) (map : RateMap) :
    Nat × RateMap :=
  let bucket := currentBucket now (map.get? ip)
  let count := saturatingAdd32 bucket.count 1
  (if count > limit then count - limit else 0, map.insert ip { bucket with count })

structure RateCall where
  now : Instant
  ip : Text
  limit : Nat

def rateAnswers (record : Instant → Text → Nat → RateMap → Nat × RateMap) :
    RateMap → List RateCall → List Nat
  | _, [] => []
  | map, call :: rest =>
    let (excess, map) := record call.now call.ip call.limit map
    excess :: rateAnswers record map rest

/-- The tables agree, except that one may lack buckets whose minute is over. -/
def LacksOnlyOld (now : Instant) (pruned whole : RateMap) : Prop :=
  ∀ ip, pruned.get? ip = whole.get? ip ∨ pruned.get? ip = none ∧
    ∀ bucket, whole.get? ip = some bucket →
      Instant.ofSecs 60 ≤ now.durationSince bucket.windowStart

namespace LacksOnlyOld

section

variable (lacks : LacksOnlyOld now pruned whole)

include lacks

theorem later (forward : now ≤ next) : LacksOnlyOld next pruned whole := by
  intro ip
  refine (lacks ip).imp_right fun ⟨absent, old⟩ => ⟨absent, fun bucket found => ?_⟩
  exact (old bucket found).trans (Nat.sub_le_sub_right forward _)

theorem retain :
    LacksOnlyOld now (pruned.retain fun _ bucket =>
      now.durationSince bucket.windowStart < Instant.ofSecs 120) whole := by
  intro ip
  rw [HashMap.get?_retain]
  rcases lacks ip with same | ⟨absent, old⟩
  · cases found : whole.get? ip with
    | none => simp [same, found]
    | some bucket =>
      by_cases young : now.durationSince bucket.windowStart < Instant.ofSecs 120
      · simp [same, found, young]
      · rw [Nat.not_lt] at young
        refine .inr ⟨by simp [same, found, young], ?_⟩
        rintro _ ⟨⟩
        exact Nat.le_trans (by decide) young
  · exact .inr ⟨by simp [absent], old⟩

theorem currentBucket_eq (ip : Text) :
    currentBucket now (pruned.get? ip) = currentBucket now (whole.get? ip) := by
  rcases lacks ip with same | ⟨absent, old⟩
  · rw [same]
  rw [absent]
  cases found : whole.get? ip with
  | none => rfl
  | some bucket => simp [currentBucket, old bucket found]

theorem record (ip : Text) (limit : Nat) :
    (recordRateUnpruned now ip limit pruned).1 = (recordRateUnpruned now ip limit whole).1 ∧
      LacksOnlyOld now (recordRateUnpruned now ip limit pruned).2
        (recordRateUnpruned now ip limit whole).2 := by
  simp only [recordRateUnpruned, lacks.currentBucket_eq ip, true_and]
  intro other
  rw [HashMap.get?_insert, HashMap.get?_insert]
  split
  · exact .inl rfl
  · exact lacks other

theorem rateAnswers_eq
    (next : ∀ call ∈ calls, now ≤ call.now)
    (forward : calls.Pairwise fun earlier later => earlier.now ≤ later.now) :
    rateAnswers recordRate pruned calls = rateAnswers recordRateUnpruned whole calls := by
  induction calls generalizing now pruned whole with
  | nil => rfl
  | cons call rest induction =>
    rcases List.pairwise_cons.mp forward with ⟨first, forward⟩
    have current := lacks.later (next call List.mem_cons_self)
    have kept : LacksOnlyOld call.now (if pruned.entries.length > 10000 then
        pruned.retain fun _ bucket =>
          call.now.durationSince bucket.windowStart < Instant.ofSecs 120
        else pruned) whole := by
      split
      · exact current.retain
      · exact current
    rcases kept.record call.ip call.limit with ⟨same, recorded⟩
    exact congrArg₂ List.cons same (induction recorded first forward)

end

end LacksOnlyOld

/-- Over calls at times that never go back, pruning changes no answer. -/
theorem pruning_unnoticed (map : RateMap) (calls : List RateCall)
    (forward : calls.Pairwise fun earlier later => earlier.now ≤ later.now) :
    rateAnswers recordRate map calls = rateAnswers recordRateUnpruned map calls := by
  have same : LacksOnlyOld 0 map map := fun _ => .inl rfl
  exact same.rateAnswers_eq (fun _ _ => Nat.zero_le _) forward

/-- A table with more entries than are kept without pruning, all of them old at two
minutes. -/
def crowdedRates : RateMap where
  entries := (List.range 10001).map fun index =>
    (List.replicate index 'x', { count := 1, windowStart := 0 })
  nodup := by
    rw [List.map_map]
    refine List.Nodup.map ?_ List.nodup_range
    intro first second same
    simpa using congrArg List.length same

theorem second_call_answered :
    let first : RateCall := ⟨Instant.ofSecs 120, "10.0.0.1", 1⟩
    let second : RateCall := ⟨Instant.ofSecs 125, "10.0.0.1", 1⟩
    10000 < crowdedRates.entries.length ∧
      rateAnswers recordRate crowdedRates [first, second] =
        rateAnswers recordRateUnpruned crowdedRates [first, second] := by
  intro first second
  refine ⟨by simp [crowdedRates], ?_⟩
  exact pruning_unnoticed crowdedRates [first, second] (by decide)

def headerSignals (req : RequestView) : List (Nat × Text) :=
  let ua := match Text.trimmedNonEmpty req.userAgent with
    | none => [(45, "missing-ua".toList)]
    | some ua =>
      let uaLower := Text.toAsciiLowercase ua
      (if automationUa.any fun mark => uaLower.contains mark then
          [(30, "automation-ua".toList)] else []) ++
        (if uaLower.len < 12 then [(15, "short-ua".toList)] else [])
  let accept := if (Text.trimmedNonEmpty req.accept).isNone then
    [(15, "missing-accept".toList)] else []
  let acceptLanguage := if (Text.trimmedNonEmpty req.acceptLanguage).isNone then
    [(10, "missing-accept-language".toList)] else []
  ua ++ accept ++ acceptLanguage

def rateSignal (policy : BotPolicy) (req : RequestView) (now : Instant)
    (rates : RateMap) : List (Nat × Text) × RateMap :=
  match Text.trimmedNonEmpty req.clientIp with
  | none => ([], rates)
  | some ip =>
    let (excess, rates) := recordRate now ip policy.rateLimitPerMin rates
    (if excess > 0 then [(25 + min (excess / 10) 40, "rate".toList)] else [], rates)

def scoreBot (policy : BotPolicy) (req : RequestView) (now : Instant) (rates : RateMap) :
    BotScore × RateMap :=
  let (rate, rates) := rateSignal policy req now rates
  let signals := headerSignals req ++ rate
  let score := signals.foldl (fun total signal => total + signal.1) 0
  let verdict : BotVerdict :=
    if score ≥ policy.blockScore then .block
    else if score ≥ policy.challengeScore then .challenge
    else .allow
  ({ score, verdict, reasons := signals.map Prod.snd }, rates)

example : ((scoreBot { enabled := true } { method := "GET", path := "/", query := [] }
    0 ∅).1).reasons = ["missing-ua".toList, "missing-accept".toList,
      "missing-accept-language".toList] := by decide

/-! The decision of `security/mod.rs`: firewall first, then the bot score, with a captcha
pass turning a challenge into admission. -/

structure SecurityPolicy where
  waf : WafPolicy := {}
  bot : BotPolicy := {}
  captcha : CaptchaPolicy := {}
deriving DecidableEq, Inhabited

namespace SecurityPolicy

def isActive (policy : SecurityPolicy) : Bool :=
  policy.waf.isActive || policy.bot.isActive || policy.captcha.enabled

def isDefault (policy : SecurityPolicy) : Bool :=
  policy.waf.isDefault && policy.bot.isDefault && policy.captcha.isDefault

def normalized (policy : SecurityPolicy) : SecurityPolicy where
  waf := policy.waf.normalized
  bot := policy.bot.normalized
  captcha := policy.captcha.normalized

end SecurityPolicy

/-! The policies that count as default are the default ones. -/

theorem waf_eq_default {policy : WafPolicy} (default : policy.isDefault = true) :
    policy = {} := by
  rcases policy with ⟨enabled, builtin, rules⟩
  simpa [WafPolicy.isDefault, and_assoc] using default

theorem bot_eq_default {policy : BotPolicy} (default : policy.isDefault = true) :
    policy = {} := by
  rcases policy with ⟨enabled, challenge, block, rate⟩
  simpa [BotPolicy.isDefault, and_assoc] using default

theorem captcha_eq_default {policy : CaptchaPolicy} (default : policy.isDefault = true) :
    policy = {} := by
  rcases policy with ⟨enabled, ttl⟩
  simpa [CaptchaPolicy.isDefault] using default

theorem security_eq_default {policy : SecurityPolicy} (default : policy.isDefault = true) :
    policy = {} := by
  rcases policy with ⟨waf, bot, captcha⟩
  rw [SecurityPolicy.isDefault, Bool.and_eq_true, Bool.and_eq_true] at default
  rcases default with ⟨⟨wafDefault, botDefault⟩, captchaDefault⟩
  cases waf_eq_default wafDefault
  cases bot_eq_default botDefault
  cases captcha_eq_default captchaDefault
  rfl

inductive SecurityAction where
  | allow
  | log
  | challenge
  | block
deriving DecidableEq

structure SecurityDecision where
  action : SecurityAction
  reason : Text
  detail : Text
  botScore : Option Nat
  wafRule : Option Text
deriving DecidableEq

section

variable (mac : Mac) (clock : Clock) (policy : SecurityPolicy) (req : RequestView)

def resolveChallenge : SecurityAction :=
  if policy.captcha.enabled && hasValidPassCookie mac clock.unixSecs req.cookie req.clientIp then
    .allow
  else if policy.captcha.enabled then .challenge
  else .block

def fromBot (score : BotScore) (wafRule : Option Text) (preferLog : Bool) :
    SecurityDecision where
  action := match score.verdict with
    | .allow => if preferLog then .log else .allow
    | .challenge => resolveChallenge mac clock policy req
    | .block => .block
  reason := match score.verdict with
    | .allow => if preferLog then "waf-log".toList else "bot-allow".toList
    | .challenge => "bot-challenge".toList
    | .block => "bot-block".toList
  detail :=
    let reasons := [','].intercalate score.reasons
    if preferLog then wafRule.getD reasons else reasons
  botScore := some score.score
  wafRule := wafRule

def wafDecision (action : SecurityAction) (reason ruleId : Text) :
    SecurityDecision where
  action := action
  reason := reason
  detail := ruleId
  botScore := none
  wafRule := some ruleId

def plainAllow (reason : Text) : SecurityDecision where
  action := .allow
  reason := reason
  detail := []
  botScore := none
  wafRule := none

/-- The decision, and the rate table after the bot score counted the request. -/
def evaluate (rates : RateMap) : SecurityDecision × RateMap :=
  if !policy.isActive then (plainAllow "off", rates)
  else
    match evaluateWaf policy.waf req with
    | some hit =>
      match hit.action with
      | .log =>
        if policy.bot.isActive then
          let (score, rates) := scoreBot policy.bot req clock.instant rates
          (fromBot mac clock policy req score (some hit.ruleId) true, rates)
        else (wafDecision .log "waf-log" hit.ruleId, rates)
      | .challenge =>
        (wafDecision (resolveChallenge mac clock policy req) "waf-challenge" hit.ruleId,
          rates)
      | .block => (wafDecision .block "waf-block" hit.ruleId, rates)
    | none =>
      if policy.bot.isActive then
        let (score, rates) := scoreBot policy.bot req clock.instant rates
        (fromBot mac clock policy req score none false, rates)
      else (plainAllow "allow", rates)

end

theorem evaluate_of_inactive (inactive : policy.isActive = false) (req : RequestView)
    (rates : RateMap) : (evaluate mac clock policy req rates).1.action = .allow := by
  simp [evaluate, inactive, plainAllow]

open Option

variable {marked : List MarkedRule} {req : RequestView} {policy : SecurityPolicy}

section

variable (mac : Mac) (clock : Clock) (policy : SecurityPolicy) (req : RequestView)
  (rates : RateMap)

end

end PertiskProxy.Security
