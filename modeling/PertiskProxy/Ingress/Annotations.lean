import PertiskProxy.Ingress.Collect

/-! The site policies of an Ingress or HTTPRoute are kept in its annotations. The admin
API reads them from there and writes them back (`geoip.rs`, `security/mod.rs`,
`api/kubernetes.rs`). -/

namespace PertiskProxy.Ingress

open GeoIp Security Text HashMap

variable {fields : List (Text × Option Text)} {key : Text}

abbrev Annotations := HashMap Text Text

def annotationKey (name : String) : Text :=
  "proxy.pertisk.tech/".toList ++ name.toList

namespace Annotations

def flagTrue (map : Annotations) (key : Text) : Bool :=
  match map.get? key with
  | some value =>
    [ "1".toList, "true".toList, "yes".toList, "on".toList ].contains
      (toAsciiLowercase (trim value))
  | none => false

def put (map : Annotations) (field : Text × Option Text) : Annotations :=
  match field.2 with
  | some value => map.insert field.1 value
  | none => map

/-- Replace a family of annotations: remove all its keys, then set those that have a
value. -/
def replace (map : Annotations) (fields : List (Text × Option Text)) : Annotations :=
  fields.foldl put (map.removeAll (fields.map Prod.fst))

variable (map : Annotations)

theorem get?_put (field : Text × Option Text) (key : Text) :
    (map.put field).get? key =
      if key = field.1 then field.2.or (map.get? key) else map.get? key := by
  rcases field with ⟨other, value⟩
  cases value with
  | none => simp [put]
  | some value =>
    simp only [put, get?_insert]
    split <;> simp

theorem get?_foldl_put
    (nodup : (fields.map Prod.fst).Nodup) (key : Text) :
    (fields.foldl put map).get? key = ((fields.lookup key).getD none).or (map.get? key) := by
  induction fields generalizing map with
  | nil => rfl
  | cons field rest induction =>
    rcases field with ⟨other, value⟩
    rw [List.map_cons, List.nodup_cons] at nodup
    rw [List.foldl_cons, induction _ nodup.2, get?_put, List.lookup_cons]
    by_cases same : key = other
    · subst same
      have missing : rest.lookup key = none := by
        rw [List.lookup_eq_none_iff]
        intro later member
        have differs : key ≠ later.1 := by
          intro equal
          exact nodup.1 (List.mem_map.mpr ⟨later, member, equal.symm⟩)
        simpa using differs
      simp [missing]
    · have skipped : (key == other) = false := by simpa using same
      simp [same, skipped]

theorem get?_replace
    (nodup : (fields.map Prod.fst).Nodup) (key : Text) :
    (map.replace fields).get? key = (fields.lookup key).getD (map.get? key) := by
  rw [replace, get?_foldl_put _ nodup, get?_removeAll]
  cases found : fields.lookup key with
  | none =>
    have absent : key ∉ fields.map Prod.fst := by
      intro member
      rcases List.mem_map.mp member with ⟨field, listed, rfl⟩
      have skipped := List.lookup_eq_none_iff.mp found field listed
      simp at skipped
    simp [absent]
  | some value =>
    have present : key ∈ fields.map Prod.fst := by
      rcases List.lookup_eq_some_iff.mp found with ⟨before, after, whole, -⟩
      rw [whole]
      simp
    simp [present]

theorem get?_replace_of_mem (map : Annotations) (nodup : (fields.map Prod.fst).Nodup)
    (member : field ∈ fields) : (map.replace fields).get? field.1 = field.2 := by
  have found : fields.lookup field.1 = some field.2 := by
    rcases List.append_of_mem member with ⟨before, after, rfl⟩
    rw [List.lookup_eq_some_iff]
    refine ⟨before, after, rfl, ?_⟩
    intro earlier inside
    rw [List.map_append, List.map_cons] at nodup
    have apart := (List.nodup_append.mp nodup).2.2 earlier.1 (List.mem_map_of_mem inside) field.1
      List.mem_cons_self
    simpa using apart.symm
  rw [get?_replace map nodup, found, Option.getD_some]

theorem lookup_eq_none_of_not_mem
    (absent : key ∉ fields.map Prod.fst) : fields.lookup key = none := by
  rw [List.lookup_eq_none_iff]
  intro field member
  have differs : key ≠ field.1 := fun equal => absent (equal ▸ List.mem_map_of_mem member)
  simpa using differs

theorem get?_replace_of_not_mem (nodup : (fields.map Prod.fst).Nodup)
    (absent : key ∉ fields.map Prod.fst) : (map.replace fields).get? key = map.get? key := by
  rw [get?_replace map nodup, lookup_eq_none_of_not_mem absent, Option.getD_none]

theorem get?_replace_replace {first second : List (Text × Option Text)} (map : Annotations)
    (nodup : ((first ++ second).map Prod.fst).Nodup) (key : Text) :
    ((map.replace first).replace second).get? key = (map.replace (first ++ second)).get? key := by
  have parts := nodup
  rw [List.map_append, List.nodup_append] at parts
  rcases parts with ⟨firstNodup, secondNodup, apart⟩
  rw [get?_replace _ secondNodup, get?_replace _ firstNodup, get?_replace _ nodup,
    List.lookup_append]
  by_cases inFirst : key ∈ first.map Prod.fst
  · have absent : key ∉ second.map Prod.fst := fun later => apart key inFirst key later rfl
    rw [lookup_eq_none_of_not_mem absent, Option.or_none, Option.getD_none]
  · rw [lookup_eq_none_of_not_mem inFirst, Option.none_or, Option.getD_none]

/-- The value of a list annotation; an empty list has none. -/
def joined (values : List Text) : Option Text :=
  if values.isEmpty then none else some ([','].intercalate values)

def isListSeparator (c : Char) : Bool :=
  c == ',' || c == ' ' || c == ';'

end Annotations

open Annotations

/-! ## GeoIP -/

def parseCountries (raw : Text) : List Text :=
  normalizeCountries (raw.splitOnP isListSeparator)

def isAsnLead (c : Char) : Bool :=
  c == 'A' || c == 'S' || c == 'a' || c == 's'

def parseAsn (part : Text) : Option Nat :=
  parseUnsigned u32Max (trimStartMatches isAsnLead (trim part))

def parseAsns (raw : Text) : List Nat :=
  sortDedup (· ≤ ·) ((raw.splitOnP isListSeparator).filterMap parseAsn)

def geoipFields (policy : GeoIpPolicy) : List (Text × Option Text) :=
  [ (annotationKey "geoip-enabled",
      if policy.enabled then some "true".toList else none),
    (annotationKey "geoip-allow-countries", joined policy.allowCountries),
    (annotationKey "geoip-deny-countries", joined policy.denyCountries),
    (annotationKey "geoip-allow-asns", joined (policy.allowAsns.map ofNat)),
    (annotationKey "geoip-deny-asns", joined (policy.denyAsns.map ofNat)) ]

/-- The policy the annotations list, before it is normalised. -/
def listedGeoip (map : Annotations) : GeoIpPolicy :=
  let enabled := flagTrue map (annotationKey "geoip-enabled")
  let countries (key : Text) := ((map.get? key).map parseCountries).getD []
  let asns (key : Text) := ((map.get? key).map parseAsns).getD []
  let allowCountries := countries (annotationKey "geoip-allow-countries")
  let denyCountries := countries (annotationKey "geoip-deny-countries")
  let allowAsns := asns (annotationKey "geoip-allow-asns")
  let denyAsns := asns (annotationKey "geoip-deny-asns")
  { enabled := enabled || !allowCountries.isEmpty || !denyCountries.isEmpty ||
      !allowAsns.isEmpty || !denyAsns.isEmpty
    allowCountries, denyCountries, allowAsns, denyAsns }

def geoipFromMap (map : Annotations) : GeoIpPolicy :=
  if flagTrue map (annotationKey "security-exempt") ||
      flagTrue map (annotationKey "geoip-exempt") then {}
  else (listedGeoip map).normalized

def geoipFromAnnotations (annotations : Option Annotations) : GeoIpPolicy :=
  match annotations with
  | none => {}
  | some map => geoipFromMap map

def applyGeoip (map : Annotations) (policy : GeoIpPolicy) : Annotations :=
  let policy := policy.normalized
  if policy.isDefault then map.removeAll ((geoipFields policy).map Prod.fst)
  else map.replace (geoipFields policy)

theorem applyGeoip_eq (map : Annotations) (policy : GeoIpPolicy) :
    applyGeoip map policy = map.replace (geoipFields policy.normalized) := by
  rw [applyGeoip]
  split
  · next default =>
    rw [geoip_eq_default default]
    rfl
  · rfl

/-! A list that was read once is read again as it was written. -/

theorem joined_map_getD {values : List α} {print : α → Text} {parse : Text → List α}
    (back : values ≠ [] → parse ([','].intercalate (values.map print)) = values) :
    ((joined (values.map print)).map parse).getD [] = values := by
  cases values with
  | nil => rfl
  | cons first rest => exact back (by simp)

theorem parseCountries_joined (normal : normalizeCountries codes = codes)
    (solid : ∀ code ∈ codes, ∀ c ∈ code, isListSeparator c = false) :
    ((joined codes).map parseCountries).getD [] = codes := by
  have read := @joined_map_getD _ codes id parseCountries
  rw [List.map_id] at read
  apply read
  intro some
  rw [parseCountries, splitOnP_intercalate rfl some solid, normal]

theorem solid_of_mem_normalizeCountries
    (solid : ∀ code ∈ codes, ∀ c ∈ code, isListSeparator c = false)
    (member : code ∈ normalizeCountries codes) : ∀ c ∈ code, isListSeparator c = false := by
  rcases List.mem_map.mp (List.mem_filter.mp (mem_sortDedup member)).1 with ⟨piece, inside, rfl⟩
  intro c raised
  by_contra separates
  have separator : c = ',' ∨ c = ' ' ∨ c = ';' := by
    have either : isListSeparator c = true := by simpa using separates
    simpa [isListSeparator, or_assoc] using either
  have noLetter : c.toNat < 65 ∨ 90 < c.toNat := by
    rcases separator with rfl | rfl | rfl <;> decide
  have original := mem_of_mem_trimMatches (mem_of_mem_toAsciiUppercase noLetter raised)
  exact separates (solid piece inside c original)

theorem parseAsns_joined (normal : sortDedup (· ≤ ·) asns = asns)
    (fits : ∀ asn ∈ asns, asn ≤ u32Max) :
    ((joined (asns.map ofNat)).map parseAsns).getD [] = asns := by
  have plain : ∀ c : Char, c.isDigit = true → isListSeparator c = false ∧ isAsnLead c = false := by
    intro c digit
    refine ⟨?_, ?_⟩
    · rw [Bool.eq_false_iff]
      intro separator
      simp only [isListSeparator, Bool.or_eq_true, beq_iff_eq] at separator
      rcases separator with (rfl | rfl) | rfl <;> revert digit <;> decide
    · rw [Bool.eq_false_iff]
      intro lead
      simp only [isAsnLead, Bool.or_eq_true, beq_iff_eq] at lead
      rcases lead with ((rfl | rfl) | rfl) | rfl <;> revert digit <;> decide
  have parsed : ∀ asn ∈ asns, parseAsn (ofNat asn) = some asn := by
    intro asn member
    have kept : trim (ofNat asn) = ofNat asn :=
      trimMatches_eq_self fun c inside =>
        isWhitespace_of_isDigit (isDigit_of_mem_ofNat inside)
    have lead : trimStartMatches isAsnLead (ofNat asn) = ofNat asn := by
      rw [trimStartMatches, List.dropWhile_eq_self_iff]
      intro positive
      have first := plain _ (isDigit_of_mem_ofNat (List.get_mem (ofNat asn) ⟨0, positive⟩))
      simpa using first.2
    rw [parseAsn, kept, lead, parseUnsigned_ofNat (fits asn member)]
  apply joined_map_getD
  intro some
  have split : ([','].intercalate (asns.map ofNat)).splitOnP isListSeparator =
      asns.map ofNat := by
    apply splitOnP_intercalate rfl (by simpa using some)
    intro piece member c inside
    rcases List.mem_map.mp member with ⟨asn, -, rfl⟩
    exact (plain c (isDigit_of_mem_ofNat inside)).1
  have read : (asns.map ofNat).filterMap parseAsn = asns := by
    rw [List.filterMap_map]
    exact (List.filterMap_congr parsed).trans List.filterMap_some
  rw [parseAsns, split, read, normal]

structure GeoipListed (policy : GeoIpPolicy) : Prop where
  countries : ∀ codes ∈ [policy.allowCountries, policy.denyCountries],
    normalizeCountries codes = codes ∧ ∀ code ∈ codes, ∀ c ∈ code, isListSeparator c = false
  asns : ∀ asns ∈ [policy.allowAsns, policy.denyAsns],
    sortDedup (· ≤ ·) asns = asns ∧ ∀ asn ∈ asns, asn ≤ u32Max
  enabled : policy.enabled = (policy.enabled || !policy.allowCountries.isEmpty ||
    !policy.denyCountries.isEmpty || !policy.allowAsns.isEmpty || !policy.denyAsns.isEmpty)

theorem listed_listedGeoip (map : Annotations) : GeoipListed (listedGeoip map) := by
  have codes (value : Option Text) : normalizeCountries ((value.map parseCountries).getD []) =
      (value.map parseCountries).getD [] ∧
        ∀ code ∈ (value.map parseCountries).getD [], ∀ c ∈ code, isListSeparator c = false := by
    cases value with
    | none => exact ⟨rfl, by simp⟩
    | some raw =>
      exact ⟨normalizeCountries_idem _, fun code =>
        solid_of_mem_normalizeCountries fun piece => not_of_mem_splitOnP⟩
  have numbers (value : Option Text) : sortDedup (· ≤ ·) ((value.map parseAsns).getD []) =
      (value.map parseAsns).getD [] ∧ ∀ asn ∈ (value.map parseAsns).getD [], asn ≤ u32Max := by
    cases value with
    | none => exact ⟨rfl, by simp⟩
    | some raw =>
      refine ⟨sortDedup_idem _ _, ?_⟩
      intro asn member
      rcases List.mem_filterMap.mp (mem_sortDedup member) with ⟨part, -, parsed⟩
      exact le_of_parseUnsigned parsed
  constructor
  · intro lists member
    rcases List.mem_pair.mp member with rfl | rfl <;> exact codes _
  · intro lists member
    rcases List.mem_pair.mp member with rfl | rfl <;> exact numbers _
  · simp only [listedGeoip]
    grind

theorem GeoipListed.normalized (listed : GeoipListed policy) : policy.normalized = policy := by
  rw [GeoIpPolicy.normalized, (listed.countries policy.allowCountries (by simp)).1,
    (listed.countries policy.denyCountries (by simp)).1,
    (listed.asns policy.allowAsns (by simp)).1, (listed.asns policy.denyAsns (by simp)).1]

/-- A policy that lists anything is read as enabled. -/
def impliedEnabled (policy : GeoIpPolicy) : Bool :=
  policy.enabled || !policy.allowCountries.isEmpty || !policy.denyCountries.isEmpty ||
    !policy.allowAsns.isEmpty || !policy.denyAsns.isEmpty

theorem listedGeoip_written
    (countries : ∀ codes ∈ [policy.allowCountries, policy.denyCountries],
      normalizeCountries codes = codes ∧ ∀ code ∈ codes, ∀ c ∈ code, isListSeparator c = false)
    (numbers : ∀ asns ∈ [policy.allowAsns, policy.denyAsns],
      sortDedup (· ≤ ·) asns = asns ∧ ∀ asn ∈ asns, asn ≤ u32Max)
    (written : ∀ field ∈ geoipFields policy, map.get? field.1 = field.2) :
    listedGeoip map = { policy with enabled := impliedEnabled policy } := by
  simp only [geoipFields, List.forall_mem_cons] at written
  rcases written with ⟨enabled, allowCountries, denyCountries, allowAsns, denyAsns, -⟩
  have codes := fun codes member =>
    parseCountries_joined (countries codes member).1 (countries codes member).2
  have numbers := fun asns member =>
    parseAsns_joined (numbers asns member).1 (numbers asns member).2
  have flag : flagTrue map (annotationKey "geoip-enabled") = policy.enabled := by
    rw [flagTrue, enabled]
    cases policy.enabled <;> rfl
  simp only [listedGeoip, flag, allowCountries, denyCountries, allowAsns, denyAsns]
  rw [codes policy.allowCountries (by simp), codes policy.denyCountries (by simp),
    numbers policy.allowAsns (by simp), numbers policy.denyAsns (by simp)]
  rfl

theorem listedGeoip_of_fields (listed : GeoipListed policy)
    (written : ∀ field ∈ geoipFields policy, map.get? field.1 = field.2) :
    listedGeoip map = policy := by
  rw [listedGeoip_written listed.countries listed.asns written, impliedEnabled,
    ← listed.enabled]

/-- Whether an object is exempt is not part of its policy, and is kept. -/
def SameExemptions (map other : Annotations) : Prop :=
  ∀ key ∈ [annotationKey "security-exempt", annotationKey "geoip-exempt"],
    map.get? key = other.get? key

theorem flagTrue_congr (same : map.get? key = other.get? key) :
    flagTrue map key = flagTrue other key := by
  rw [flagTrue, flagTrue, same]

theorem geoipFromMap_of_fields (exempt : SameExemptions after map)
    (written : ∀ field ∈ geoipFields (geoipFromMap map).normalized, after.get? field.1 = field.2) :
    geoipFromMap after = geoipFromMap map := by
  have listed := listed_listedGeoip map
  unfold geoipFromMap at written ⊢
  rw [flagTrue_congr (exempt (annotationKey "security-exempt") (by simp)),
    flagTrue_congr (exempt (annotationKey "geoip-exempt") (by simp))]
  split
  · rfl
  · next notExempt =>
    rw [if_neg notExempt, listed.normalized, listed.normalized] at written
    rw [listedGeoip_of_fields listed written]

/-! ## Web application firewall, bots, and captcha -/

def parseU32 (map : Annotations) (key : Text) (fallback : Nat) : Nat :=
  ((map.get? key).bind fun value => parseUnsigned u32Max (trim value)).getD fallback

/-- The annotations of a security policy. The parts that are turned off have none. -/
def securityFields (policy : SecurityPolicy) : List (Text × Option Text) :=
  let waf (value : Text) := if policy.waf.enabled then some value else none
  let bot (value : Text) := if policy.bot.enabled then some value else none
  let captcha (value : Text) := if policy.captcha.enabled then some value else none
  [ (annotationKey "waf-enabled", waf "true".toList),
    (annotationKey "waf-builtin",
      waf (if policy.waf.useBuiltinRules then "true".toList else "false".toList)),
    (annotationKey "bot-enabled", bot "true".toList),
    (annotationKey "bot-challenge-score", bot (ofNat policy.bot.challengeScore)),
    (annotationKey "bot-block-score", bot (ofNat policy.bot.blockScore)),
    (annotationKey "bot-rate-limit", bot (ofNat policy.bot.rateLimitPerMin)),
    (annotationKey "captcha-enabled", captcha "true".toList),
    (annotationKey "captcha-ttl-secs",
      captcha (ofNat policy.captcha.cookieTtlSecs)) ]

def securityFromMap (map : Annotations) : SecurityPolicy :=
  if flagTrue map (annotationKey "security-exempt") then {}
  else
    let wafEnabled := flagTrue map (annotationKey "waf-enabled")
    SecurityPolicy.normalized
      { waf :=
          { enabled := wafEnabled
            useBuiltinRules := wafEnabled || flagTrue map (annotationKey "waf-builtin") }
        bot :=
          { enabled := flagTrue map (annotationKey "bot-enabled")
            challengeScore := parseU32 map (annotationKey "bot-challenge-score") 40
            blockScore := parseU32 map (annotationKey "bot-block-score") 80
            rateLimitPerMin := parseU32 map (annotationKey "bot-rate-limit") 120 }
        captcha :=
          { enabled := flagTrue map (annotationKey "captcha-enabled")
            cookieTtlSecs := parseU32 map (annotationKey "captcha-ttl-secs") 86400 } }

def securityFromAnnotations (annotations : Option Annotations) : SecurityPolicy :=
  match annotations with
  | none => {}
  | some map => securityFromMap map

def applySecurity (map : Annotations) (policy : SecurityPolicy) : Annotations :=
  let policy := policy.normalized
  if policy.isDefault then map.removeAll ((securityFields policy).map Prod.fst)
  else map.replace (securityFields policy)

theorem applySecurity_eq (map : Annotations) (policy : SecurityPolicy) :
    applySecurity map policy = map.replace (securityFields policy.normalized) := by
  rw [applySecurity]
  split
  · next default =>
    rw [security_eq_default default]
    rfl
  · rfl

end PertiskProxy.Ingress

namespace PertiskProxy.Security

/-- The policy without the settings of parts that are turned off. -/
def SecurityPolicy.inForce (policy : SecurityPolicy) : SecurityPolicy where
  waf := if policy.waf.enabled then policy.waf else {}
  bot := if policy.bot.enabled then policy.bot else {}
  captcha := if policy.captcha.enabled then policy.captcha else {}

namespace SecurityPolicy

variable (policy : SecurityPolicy)

theorem inForce_waf (req : RequestView) :
    evaluateWaf policy.inForce.waf req = evaluateWaf policy.waf req := by
  unfold inForce
  cases enabled : policy.waf.enabled with
  | true => rfl
  | false => simp [evaluateWaf, WafPolicy.isActive, enabled]

theorem inForce_bot (active : policy.bot.enabled = true) : policy.inForce.bot = policy.bot :=
  if_pos active

theorem inForce_isActive : policy.inForce.bot.isActive = policy.bot.isActive ∧
    policy.inForce.captcha.enabled = policy.captcha.enabled ∧
      policy.inForce.isActive = policy.isActive := by
  simp only [inForce, isActive, BotPolicy.isActive, WafPolicy.isActive]
  cases waf : policy.waf.enabled <;> cases bot : policy.bot.enabled <;>
    cases captcha : policy.captcha.enabled <;> simp [waf, bot, captcha]

end SecurityPolicy

/-- Requests are judged by what is in force. -/
theorem evaluate_inForce (mac : Mac) (clock : Clock) (policy : SecurityPolicy)
    (req : RequestView) (rates : RateMap) :
    evaluate mac clock policy.inForce req rates = evaluate mac clock policy req rates := by
  rcases policy.inForce_isActive with ⟨bot, captcha, active⟩
  have challenge : resolveChallenge mac clock policy.inForce req =
      resolveChallenge mac clock policy req := by
    rw [resolveChallenge, resolveChallenge, captcha]
  have judged : fromBot mac clock policy.inForce req = fromBot mac clock policy req := by
    funext score wafRule preferLog
    rw [fromBot, fromBot, challenge]
  rw [evaluate, evaluate, active, policy.inForce_waf, bot, challenge, judged]
  cases enabled : policy.bot.isActive with
  | true => rw [policy.inForce_bot enabled]
  | false => simp

end PertiskProxy.Security

namespace PertiskProxy.Ingress

open Annotations GeoIp Security

theorem parseU32_le (map : Annotations) (key : Text) (fits : fallback ≤ u32Max) :
    parseU32 map key fallback ≤ u32Max := by
  unfold parseU32
  cases parsed : (map.get? key).bind fun value => Text.parseUnsigned u32Max (Text.trim value) with
  | none => exact fits
  | some value =>
    rcases Option.bind_eq_some_iff.mp parsed with ⟨text, -, read⟩
    exact Text.le_of_parseUnsigned read

theorem parseU32_written (written : map.get? key = some (Text.ofNat value)) (fallback : Nat) :
    parseU32 map key fallback = if value ≤ u32Max then value else fallback := by
  have kept : Text.trim (Text.ofNat value) = Text.ofNat value :=
    Text.trimMatches_eq_self fun c inside =>
      Text.isWhitespace_of_isDigit (Text.isDigit_of_mem_ofNat inside)
  rw [parseU32, written, Option.bind_some, kept, Text.parseUnsigned_ofNat_eq]
  split <;> rfl

theorem bot_normalized_idem (policy : BotPolicy) :
    policy.normalized.normalized = policy.normalized := by
  rcases policy with ⟨enabled, challenge, block, rate⟩
  simp only [BotPolicy.normalized, BotPolicy.mk.injEq, true_and]
  grind

open CaptchaPolicy

theorem captcha_normalized_idem (policy : CaptchaPolicy) :
    policy.normalized.normalized = policy.normalized := by
  rcases policy with ⟨enabled, ttl⟩
  simp only [normalized, mk.injEq, true_and]
  grind

theorem bot_normalized_le {policy : BotPolicy} (challenge : policy.challengeScore ≤ u32Max)
    (block : policy.blockScore ≤ u32Max) (rate : policy.rateLimitPerMin ≤ u32Max) :
    policy.normalized.challengeScore ≤ u32Max ∧ policy.normalized.blockScore ≤ u32Max ∧
      policy.normalized.rateLimitPerMin ≤ u32Max := by
  rcases policy with ⟨enabled, challengeScore, blockScore, rateLimit⟩
  simp only [BotPolicy.normalized, u32Max] at *
  grind

theorem captcha_normalized_le {policy : CaptchaPolicy} (ttl : policy.cookieTtlSecs ≤ u32Max) :
    policy.normalized.cookieTtlSecs ≤ u32Max := by
  rcases policy with ⟨enabled, cookieTtl⟩
  simp only [normalized, u32Max] at *
  grind

structure SecurityListed (policy : SecurityPolicy) : Prop where
  builtin : policy.waf.enabled = true → policy.waf.useBuiltinRules = true
  rules : policy.waf.rules = []
  bot : policy.bot.normalized = policy.bot
  botFits : policy.bot.challengeScore ≤ u32Max ∧ policy.bot.blockScore ≤ u32Max ∧
    policy.bot.rateLimitPerMin ≤ u32Max
  captcha : policy.captcha.normalized = policy.captcha
  captchaFits : policy.captcha.cookieTtlSecs ≤ u32Max

theorem listed_securityFromMap (map : Annotations) : SecurityListed (securityFromMap map) := by
  unfold securityFromMap
  split
  · constructor <;> decide
  have challenge := parseU32_le map (annotationKey "bot-challenge-score")
    (show 40 ≤ u32Max by decide)
  have block := parseU32_le map (annotationKey "bot-block-score") (show 80 ≤ u32Max by decide)
  have rate := parseU32_le map (annotationKey "bot-rate-limit") (show 120 ≤ u32Max by decide)
  have ttl := parseU32_le map (annotationKey "captcha-ttl-secs") (show 86400 ≤ u32Max by decide)
  constructor
  · intro enabled
    change flagTrue map (annotationKey "waf-enabled") = true at enabled
    simp [SecurityPolicy.normalized, WafPolicy.normalized, enabled]
  · rfl
  · exact bot_normalized_idem _
  · exact bot_normalized_le challenge block rate
  · exact captcha_normalized_idem _
  · exact captcha_normalized_le ttl

theorem SecurityListed.normalized (listed : SecurityListed policy) :
    policy.normalized = policy := by
  have waf : policy.waf.normalized = policy.waf := by
    rcases policy with ⟨⟨enabled, builtin, rules⟩, bot, captcha⟩
    cases listed.rules
    rfl
  rw [SecurityPolicy.normalized, waf, listed.bot, listed.captcha]

/-- What is read from the annotations of a policy. The settings of parts that are turned
off are lost, and the built-in rules are on. -/
def readBack (policy : SecurityPolicy) : SecurityPolicy where
  waf := { enabled := policy.waf.enabled, useBuiltinRules := policy.waf.enabled }
  bot := if policy.bot.enabled then policy.bot.normalized else {}
  captcha :=
    if policy.captcha.enabled && policy.captcha.cookieTtlSecs ≤ u32Max then
      policy.captcha.normalized
    else { enabled := policy.captcha.enabled }

theorem securityFromMap_written (fits : policy.bot.challengeScore ≤ u32Max ∧
      policy.bot.blockScore ≤ u32Max ∧ policy.bot.rateLimitPerMin ≤ u32Max)
    (plain : flagTrue map (annotationKey "security-exempt") = false)
    (written : ∀ field ∈ securityFields policy, map.get? field.1 = field.2) :
    securityFromMap map = readBack policy := by
  simp only [securityFields, List.forall_mem_cons] at written
  rcases written with ⟨waf, builtin, bot, challenge, block, rate, captcha, ttl, -⟩
  have flag {key : Text} {enabled : Bool} (found : map.get? key =
      if enabled then some "true".toList else none) : flagTrue map key = enabled := by
    rw [flagTrue, found]
    cases enabled <;> rfl
  have absent {key : Text} (missing : map.get? key = none) (fallback : Nat) :
      parseU32 map key fallback = fallback := by
    rw [parseU32, missing]
    rfl
  rw [securityFromMap, if_neg (by simp [plain]), flag waf, flag bot, flag captcha]
  unfold SecurityPolicy.normalized readBack
  dsimp only
  congr 1
  · cases enabled : policy.waf.enabled with
    | true => rfl
    | false =>
      rw [enabled, if_neg Bool.false_ne_true] at builtin
      simp [flagTrue, builtin, WafPolicy.normalized]
  · cases enabled : policy.bot.enabled with
    | true =>
      rw [if_pos enabled] at challenge block rate
      rw [parseU32_written challenge, parseU32_written block, parseU32_written rate,
        if_pos fits.1, if_pos fits.2.1, if_pos fits.2.2]
      simp [BotPolicy.normalized, enabled]
    | false =>
      rw [enabled, if_neg Bool.false_ne_true] at challenge block rate
      rw [absent challenge, absent block, absent rate]
      rfl
  · cases enabled : policy.captcha.enabled with
    | true =>
      rw [if_pos enabled] at ttl
      rw [parseU32_written ttl]
      by_cases small : policy.captcha.cookieTtlSecs ≤ u32Max
      · simp [small, normalized, enabled]
      · simp [small, normalized]
    | false =>
      rw [enabled, if_neg Bool.false_ne_true] at ttl
      rw [absent ttl]
      rfl

theorem inForce_of_fields (listed : SecurityListed policy)
    (plain : flagTrue map (annotationKey "security-exempt") = false)
    (written : ∀ field ∈ securityFields policy, map.get? field.1 = field.2) :
    (securityFromMap map).inForce = policy.inForce := by
  rw [securityFromMap_written listed.botFits plain written]
  have waf : policy.waf.enabled = true → policy.waf = ⟨true, true, []⟩ := by
    intro enabled
    have builtin := listed.builtin enabled
    have rules := listed.rules
    rcases policy with ⟨⟨_, _, _⟩, _, _⟩
    cases enabled
    cases builtin
    cases rules
    rfl
  simp only [SecurityPolicy.inForce, readBack, listed.bot, listed.captcha]
  have fits := listed.captchaFits
  grind

theorem securityFromMap_of_fields {map after : Annotations} (exempt : SameExemptions after map)
    (written : ∀ field ∈ securityFields (securityFromMap map).normalized,
      after.get? field.1 = field.2) :
    (securityFromMap after).inForce = (securityFromMap map).inForce := by
  have same := flagTrue_congr (exempt (annotationKey "security-exempt") (by simp))
  have listed := listed_securityFromMap map
  cases exempted : flagTrue map (annotationKey "security-exempt") with
  | true =>
    rw [exempted] at same
    rw [securityFromMap, securityFromMap, if_pos same, if_pos exempted]
  | false =>
    rw [listed.normalized] at written
    exact inForce_of_fields listed (same.trans exempted) written

/-! ## Named policies -/

def policyIdFields (accessListId wafPolicyId : Option Text) : List (Text × Option Text) :=
  [ (annotationKey "access-list-id", Text.trimmedNonEmpty accessListId),
    (annotationKey "waf-policy-id", Text.trimmedNonEmpty wafPolicyId) ]

def policyIdsFromMap (map : Annotations) : Option Text × Option Text :=
  (Text.trimmedNonEmpty (map.get? (annotationKey "access-list-id")),
    Text.trimmedNonEmpty (map.get? (annotationKey "waf-policy-id")))

def policyIdsFromAnnotations (annotations : Option Annotations) : Option Text × Option Text :=
  match annotations with
  | none => (none, none)
  | some map => policyIdsFromMap map

def applyPolicyIdAnnotations (map : Annotations) (accessListId wafPolicyId : Option Text) :
    Annotations :=
  map.replace (policyIdFields accessListId wafPolicyId)

def annotatedPolicies (annotations : Option Annotations) : AnnotatedPolicies where
  geoip := geoipFromAnnotations annotations
  security := securityFromAnnotations annotations
  accessListId := (policyIdsFromAnnotations annotations).1
  wafPolicyId := (policyIdsFromAnnotations annotations).2

def mergeSecurityAnnotations (existing : Option Annotations) (policies : AnnotatedPolicies) :
    Option Annotations :=
  let map := existing.getD HashMap.empty
  let map := applyGeoip map policies.geoip
  let map := applySecurity map policies.security
  let map := applyPolicyIdAnnotations map policies.accessListId policies.wafPolicyId
  if map.entries.isEmpty then none else some map

/-- Policies with the same effect on requests. -/
structure SamePolicies (policies others : AnnotatedPolicies) : Prop where
  geoip : policies.geoip = others.geoip
  security : policies.security.inForce = others.security.inForce
  accessListId : policies.accessListId = others.accessListId
  wafPolicyId : policies.wafPolicyId = others.wafPolicyId

structure Merged (map after : Annotations) (policies : AnnotatedPolicies) : Prop where
  geoip : ∀ field ∈ geoipFields policies.geoip.normalized, after.get? field.1 = field.2
  security : ∀ field ∈ securityFields policies.security.normalized, after.get? field.1 = field.2
  ids : ∀ field ∈ policyIdFields policies.accessListId policies.wafPolicyId,
    after.get? field.1 = field.2
  exempt : SameExemptions after map

def policyFields (policies : AnnotatedPolicies) : List (Text × Option Text) :=
  geoipFields policies.geoip.normalized ++ securityFields policies.security.normalized ++
    policyIdFields policies.accessListId policies.wafPolicyId

def mergedMap (map : Annotations) (policies : AnnotatedPolicies) : Annotations :=
  applyPolicyIdAnnotations (applySecurity (applyGeoip map policies.geoip) policies.security)
    policies.accessListId policies.wafPolicyId

/-- The keys of all families, whatever the policies are. -/
theorem keys_policyFields (policies : AnnotatedPolicies) :
    (policyFields policies).map Prod.fst = (policyFields {}).map Prod.fst := rfl

theorem nodup_policyFields (policies : AnnotatedPolicies) :
    ((policyFields policies).map Prod.fst).Nodup := by
  rw [keys_policyFields]
  decide

section

variable (map : Annotations) (policies : AnnotatedPolicies)

theorem get?_mergedMap (key : Text) :
    (mergedMap map policies).get? key = (map.replace (policyFields policies)).get? key := by
  have nodup := nodup_policyFields policies
  have parts := nodup
  unfold policyFields at parts
  rw [List.map_append, List.nodup_append] at parts
  unfold policyFields at nodup ⊢
  rw [← get?_replace_replace map nodup, get?_replace _ parts.2.1,
    ← get?_replace_replace map parts.1, ← get?_replace _ parts.2.1]
  unfold mergedMap
  rw [applySecurity_eq, applyGeoip_eq]
  rfl

theorem get?_mergedMap_of_not_mem
    (other : key ∉ (policyFields {}).map Prod.fst) :
    (mergedMap map policies).get? key = map.get? key := by
  rw [get?_mergedMap]
  exact get?_replace_of_not_mem map (nodup_policyFields policies) other

theorem merged_apply : Merged map (mergedMap map policies) policies := by
  have written : ∀ field ∈ policyFields policies,
      (mergedMap map policies).get? field.1 = field.2 := by
    intro field member
    rw [get?_mergedMap, get?_replace_of_mem map (nodup_policyFields policies) member]
  unfold policyFields at written
  rw [List.forall_mem_append, List.forall_mem_append] at written
  refine ⟨written.1.1, written.1.2, written.2, ?_⟩
  intro key member
  apply get?_mergedMap_of_not_mem
  revert key
  decide

end

theorem trimmedNonEmpty_idem (text : Option Text) :
    Text.trimmedNonEmpty (Text.trimmedNonEmpty text) = Text.trimmedNonEmpty text := by
  cases trimmed : Text.trimmedNonEmpty text with
  | none => rfl
  | some id =>
    rcases Option.filter_eq_some_iff.mp trimmed with ⟨found, some⟩
    rcases Option.map_eq_some_iff.mp found with ⟨raw, -, rfl⟩
    simp only [Text.trimmedNonEmpty, Option.map_some, Text.trim_idem]
    exact Option.filter_some_pos some

theorem same_of_merged (merged : Merged map after (annotatedPolicies (some map))) :
    SamePolicies (annotatedPolicies (some after)) (annotatedPolicies (some map)) := by
  have accessList := merged.ids (annotationKey "access-list-id", _) List.mem_cons_self
  have wafPolicy := merged.ids (annotationKey "waf-policy-id", _)
    (List.mem_cons_of_mem _ List.mem_cons_self)
  constructor
  · exact geoipFromMap_of_fields merged.exempt merged.geoip
  · exact securityFromMap_of_fields merged.exempt merged.security
  · change Text.trimmedNonEmpty (after.get? _) = _
    rw [accessList]
    exact (trimmedNonEmpty_idem _).trans (trimmedNonEmpty_idem _)
  · change Text.trimmedNonEmpty (after.get? _) = _
    rw [wafPolicy]
    exact (trimmedNonEmpty_idem _).trans (trimmedNonEmpty_idem _)

theorem getD_mergeSecurityAnnotations (existing : Option Annotations)
    (policies : AnnotatedPolicies) :
    (mergeSecurityAnnotations existing policies).getD HashMap.empty =
      mergedMap (existing.getD HashMap.empty) policies := by
  unfold mergeSecurityAnnotations
  dsimp only
  split
  · next empty =>
    change _ = applyPolicyIdAnnotations _ _ _
    generalize applyPolicyIdAnnotations _ _ _ = map at empty ⊢
    rcases map with ⟨entries, nodup⟩
    cases List.isEmpty_iff.mp empty
    rfl
  · rfl

theorem annotatedPolicies_getD (existing : Option Annotations) : annotatedPolicies existing =
    annotatedPolicies (some (existing.getD HashMap.empty)) := by
  cases existing <;> rfl

/-- Writing back the policies that were read changes nothing that matters. -/
theorem mergeSecurityAnnotations_same (annotations : Option Annotations) :
    SamePolicies (annotatedPolicies (mergeSecurityAnnotations annotations
      (annotatedPolicies annotations))) (annotatedPolicies annotations) := by
  rw [annotatedPolicies_getD annotations, annotatedPolicies_getD (mergeSecurityAnnotations _ _),
    getD_mergeSecurityAnnotations]
  exact same_of_merged (merged_apply _ _)

/-- Policies that are written back judge every request as before. -/
theorem saved_policies_judge_alike (annotations : Option Annotations) (mac : Mac) (clock : Clock)
    (req : RequestView) (rates : RateMap) :
    let read := annotatedPolicies annotations
    let saved := annotatedPolicies (mergeSecurityAnnotations annotations read)
    saved.geoip = read.geoip ∧ saved.accessListId = read.accessListId ∧
      saved.wafPolicyId = read.wafPolicyId ∧
      evaluate mac clock saved.security req rates = evaluate mac clock read.security req rates := by
  rcases mergeSecurityAnnotations_same annotations with ⟨geoip, security, accessList, wafPolicy⟩
  refine ⟨geoip, accessList, wafPolicy, ?_⟩
  rw [← evaluate_inForce, security, evaluate_inForce]

section

variable (policies : AnnotatedPolicies)

def AnnotatedPolicies.normalized : AnnotatedPolicies where
  geoip := policies.geoip.normalized
  security := policies.security.normalized
  accessListId := Text.trimmedNonEmpty policies.accessListId
  wafPolicyId := Text.trimmedNonEmpty policies.wafPolicyId

variable {policies}

end

end PertiskProxy.Ingress
