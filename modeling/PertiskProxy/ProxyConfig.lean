import PertiskProxy.Edge.Policy
import PertiskProxy.GeoIp
import PertiskProxy.Security.Evaluate

/-! Sites, routes, backends, and TLS entries (`proxy_config.rs`), with the host name rules
that routing and certificates share. -/

namespace PertiskProxy.ProxyConfig

open Edge GeoIp Security Text

inductive PathMatchType where
  | exact
  | lead
  | implementationSpecific
deriving DecidableEq

inductive LoadBalancerAlgorithm where
  | roundRobin
  | leastConnections
  | ipHash
deriving DecidableEq

structure Upstream where
  addr : Text
  weight : Nat := 0
deriving DecidableEq

structure Backend where
  name : Text
  upstreams : List Upstream
  algorithm : LoadBalancerAlgorithm := .roundRobin
  healthPath : Option Text := none
  healthIntervalSecs : Nat := 0
deriving DecidableEq

structure PathRewrite where
  pathType : PathMatchType := .lead
  path : Text := "/"
  rewrite : Option Text := none
  upstream : Option Text := none
  auth : Option RouteAuth := none
  rateLimitRps : Nat := 0
  x4xxLimitRps : Nat := 0
  cache : Option Bool := none
deriving DecidableEq

structure AccessList where
  id : Text
  name : Text := []
  description : Option Text := none
  geoip : GeoIpPolicy := {}
deriving DecidableEq

structure NamedWafPolicy where
  id : Text
  name : Text := []
  description : Option Text := none
  security : SecurityPolicy := {}
deriving DecidableEq

structure Site where
  host : Text
  routes : List PathRewrite := []
  backend : Text
  securityHeaders : Option (HashMap Text Text) := none
  ingressNamespace : Option Text := none
  ingressName : Option Text := none
  k8sResourceKind : Option Text := none
  http3AltSvcEnabled : Bool := true
  forwardClientIp : Bool := true
  accessListId : Option Text := none
  wafPolicyId : Option Text := none
  geoip : GeoIpPolicy := {}
  security : SecurityPolicy := {}
deriving DecidableEq

structure AcmeSource where
  email : Option Text := none
  challenge : Text := "http01"
  dnsProvider : Option Text := none
  dnsProviderType : Option Text := none
  dnsCredentials : Option (HashMap Text Text) := none
deriving DecidableEq

inductive TlsSource where
  | acme (source : AcmeSource)
  | file (cert key : Text)
  | kubernetes
deriving DecidableEq

structure TlsConfig where
  hosts : List Text
  source : TlsSource
  expiresAt : Option Text := none
deriving DecidableEq

structure Http3Options where
  maxData : Option Nat := none
  maxStreamData : Option Nat := none
  maxStreamsBidi : Option Nat := none
  maxIdleTimeoutMs : Option Nat := none
  congestionControl : Option Text := none
  enable0rtt : Option Bool := none
  listeners : Option Nat := none
  enablePacing : Option Bool := none
deriving DecidableEq, Inhabited

def defaultSecurityHeaders : HashMap Text Text :=
  .ofList
    [("Strict-Transport-Security", "max-age=63072000; includeSubDomains; preload"),
      ("X-Content-Type-Options", "nosniff"),
      ("X-Frame-Options", "SAMEORIGIN"),
      ("Referrer-Policy", "strict-origin-when-cross-origin"),
      ("Permissions-Policy", "geolocation=(), microphone=(), camera=()"),
      ("Content-Security-Policy",
        "default-src 'self' https: data: blob:; script-src 'self' 'unsafe-inline' ".toList ++
          "'unsafe-eval' https:; style-src 'self' 'unsafe-inline' https:; font-src 'self' ".toList ++
          "https: data:; img-src 'self' data: https: blob:; connect-src 'self' https: wss:; ".toList ++
          "worker-src 'self' blob:; base-uri 'self'; object-src 'none'; ".toList ++
          "upgrade-insecure-requests".toList)]

/-- The configuration; socket addresses are kept as their text. -/
structure Config where
  httpAddr : Text := "[::]:80"
  httpsAddr : Text := "[::]:443"
  http3Addr : Option Text := none
  managementAddr : Text := "[::]:9080"
  backends : List Backend := []
  sites : List Site := []
  accessLists : List AccessList := []
  wafPolicies : List NamedWafPolicy := []
  tls : List TlsConfig := []
  securityHeaders : HashMap Text Text := defaultSecurityHeaders
  proxyLog : Bool := true
  acmeEmail : Option Text := none
  http3 : Http3Options := {}
  tlsGrade : TlsGrade := .medium
  cacheSizeMb : Nat := 0
  cacheTtlSecs : Nat := 60
  consul : Option ConsulConfig := none
  jwtSecret : Option Text := none
deriving DecidableEq

namespace Config

/-- The named access list when the id resolves, else the site's own policy. -/
def resolveSiteGeoip (config : Config) (site : Site) : GeoIpPolicy :=
  let named := (trimmedNonEmpty site.accessListId).bind fun id =>
    config.accessLists.find? fun list => list.id == id
  match named with
  | some list => list.geoip.normalized
  | none => site.geoip.normalized

def resolveSiteSecurity (config : Config) (site : Site) : SecurityPolicy :=
  let named := (trimmedNonEmpty site.wafPolicyId).bind fun id =>
    config.wafPolicies.find? fun policy => policy.id == id
  match named with
  | some policy => policy.security.normalized
  | none => site.security.normalized

end Config

/-! ## Host names -/

def normalizeHost (host : Text) : Text :=
  toAsciiLowercase (before ':' host)

/-- True when `*.example.com` covers `app.example.com`, one label deep. -/
def wildcardCoversHost (wildcard host : Text) : Bool :=
  let w := trim wildcard
  let h := toAsciiLowercase (trim host)
  if w.isEmpty || h.isEmpty then false
  else
    match stripPrefix w "*" with
    | none => eqIgnoreAsciiCase w h
    | some tail =>
      if !endsWith h tail || h.length ≤ tail.length then false
      else
        let label := h.take (h.length - tail.length)
        !label.isEmpty && !label.contains '.'

theorem wildcardCoversHost_wildcard {suffix host : Text} :
    wildcardCoversHost ('*' :: '.' :: suffix) host = true ↔
      ∃ label, label ≠ [] ∧ '.' ∉ label ∧ toAsciiLowercase (trim host) =
        label ++ '.' :: trimEndMatches isWhitespace suffix := by
  have trimmed : trim ('*' :: '.' :: suffix) = '*' :: '.' :: trimEndMatches isWhitespace suffix :=
    @trimMatches_append_cons _ '.' (by decide) ['*'] suffix
  generalize trimEndMatches isWhitespace suffix = stem at trimmed ⊢
  have stripped : stripPrefix ('*' :: '.' :: stem) "*" = some ('.' :: stem) :=
    stripPrefix_eq_some.mpr rfl
  simp only [wildcardCoversHost, trimmed, stripped]
  generalize toAsciiLowercase (trim host) = lowered
  constructor
  · intro covered
    split at covered
    · cases covered
    split at covered
    · cases covered
    rename_i fits
    simp only [Bool.or_eq_true, Bool.not_eq_true', decide_eq_true_eq, not_or] at fits
    rcases endsWith_iff.mp (by simpa using fits.1) with ⟨label, whole⟩
    have taken : lowered.take (lowered.length - ('.' :: stem).length) = label := by
      rw [← whole]
      simp
    rw [taken] at covered
    have named : label ≠ [] ∧ '.' ∉ label := by simpa using covered
    exact ⟨label, named.1, named.2, whole.symm⟩
  · rintro ⟨label, named, plain, rfl⟩
    have ends : endsWith (label ++ '.' :: stem) ('.' :: stem) = true :=
      endsWith_iff.mpr ⟨label, rfl⟩
    simp [ends, named, plain]

/-- True for names with fewer than two labels, such as `*.com`. -/
def isInvalidAcmeIdentifier (host : Text) : Bool :=
  let h := toAsciiLowercase (trim host)
  if h.isEmpty then true
  else
    let labels := (((stripPrefix h "*.").getD h).splitOn '.').filter
      fun label => !label.isEmpty
    labels.length < 2

/-! ## TLS entries -/

def tlsHostsSet (hosts : List Text) : List Text :=
  (hosts.map fun host => toAsciiLowercase (trim host)).filter
    fun host => !host.isEmpty

def acmeWildcardHost (hosts : List Text) : Option Text :=
  (hosts.find? fun host => startsWith (trim host) "*.").map
    fun host => toAsciiLowercase (trim host)

/-- Credentials are not compared. -/
def acmeSourcesEquivalent : TlsSource → TlsSource → Bool
  | .acme a, .acme b =>
    a.email == b.email && a.challenge == b.challenge && a.dnsProvider == b.dnsProvider &&
      a.dnsProviderType == b.dnsProviderType
  | .file cert key, .file cert' key' => cert == cert' && key == key'
  | _, _ => false

def tlsEntriesShouldMerge (a b : TlsConfig) : Bool :=
  acmeSourcesEquivalent a.source b.source &&
    match a.source, b.source with
    | .acme _, .acme _ =>
      ((acmeWildcardHost a.hosts).isSome &&
          acmeWildcardHost a.hosts == acmeWildcardHost b.hosts) ||
        (tlsHostsSet a.hosts).any (tlsHostsSet b.hosts).contains
    | .file _ _, .file _ _ => true
    | _, _ => false

def mergeHost (hosts : List Text) (host : Text) : List Text :=
  let host := trim host
  if host.isEmpty || hosts.any fun other => eqIgnoreAsciiCase other host then hosts
  else hosts ++ [host]

def mergeEntry (entry : TlsConfig) : List TlsConfig → List TlsConfig
  | [] => [entry]
  | existing :: rest =>
    if tlsEntriesShouldMerge existing entry then
      { existing with
        hosts := entry.hosts.foldl mergeHost existing.hosts
        expiresAt := none } :: rest
    else existing :: mergeEntry entry rest

def dropInvalidHosts (entry : TlsConfig) : TlsConfig :=
  match entry.source with
  | .acme _ =>
    let hosts := entry.hosts.filter fun host => !isInvalidAcmeIdentifier host
    { entry with
      hosts
      expiresAt := if hosts.length = entry.hosts.length then entry.expiresAt else none }
  | .file _ _ | .kubernetes => entry

def normalizeTlsConfig (tls : List TlsConfig) : List TlsConfig :=
  ((tls.foldl (fun merged entry => mergeEntry entry merged) []).map dropInvalidHosts).filter
    fun entry => !entry.hosts.isEmpty

def Config.withNormalizedTls (config : Config) : Config :=
  { config with
    tls := normalizeTlsConfig (config.tls.map fun entry => { entry with expiresAt := none }) }

example : wildcardCoversHost "*.example.com" "app.example.com" = true ∧
    wildcardCoversHost "*.example.com" "a.b.example.com" = false := by decide

@[simp] theorem normalizeHost_idem (host : Text) :
    normalizeHost (normalizeHost host) = normalizeHost host := by
  have portless : ':' ∉ normalizeHost host := by
    intro member
    have inside := mem_of_mem_toAsciiLowercase (by decide) member
    exact not_mem_before ':' host inside
  calc normalizeHost (normalizeHost host)
      = toAsciiLowercase (normalizeHost host) := by
        rw [normalizeHost, before_eq_self portless]
    _ = normalizeHost host := toAsciiLowercase_idem _

/-! ## Normalised TLS entries -/

def TlsConfig.withCredentials
    (change : Option (HashMap Text Text) → Option (HashMap Text Text)) (entry : TlsConfig) :
    TlsConfig :=
  match entry.source with
  | .acme source =>
    { entry with source := .acme { source with dnsCredentials := change source.dnsCredentials } }
  | .file _ _ | .kubernetes => entry

section

variable (change : Option (HashMap Text Text) → Option (HashMap Text Text))

theorem shouldMerge_withCredentials (a b : TlsConfig) :
    tlsEntriesShouldMerge (a.withCredentials change) (b.withCredentials change) =
      tlsEntriesShouldMerge a b := by
  rcases a with ⟨aHosts, aSource, aExpiry⟩
  rcases b with ⟨bHosts, bSource, bExpiry⟩
  cases aSource <;> cases bSource <;> rfl

open TlsConfig

theorem mergeEntry_withCredentials (entry : TlsConfig) (merged : List TlsConfig) :
    mergeEntry (entry.withCredentials change) (merged.map (withCredentials change)) =
      (mergeEntry entry merged).map (withCredentials change) := by
  have hosts : (entry.withCredentials change).hosts = entry.hosts := by
    rcases entry with ⟨_, source, _⟩
    cases source <;> rfl
  induction merged with
  | nil => rfl
  | cons existing rest induction =>
    rw [List.map_cons, mergeEntry, mergeEntry, shouldMerge_withCredentials]
    cases tlsEntriesShouldMerge existing entry with
    | false => simpa using induction
    | true =>
      rw [if_pos rfl, if_pos rfl, List.map_cons, hosts]
      rcases existing with ⟨_, source, _⟩
      cases source <;> rfl

theorem dropInvalidHosts_withCredentials (entry : TlsConfig) :
    dropInvalidHosts (entry.withCredentials change) =
      (dropInvalidHosts entry).withCredentials change := by
  rcases entry with ⟨_, source, _⟩
  cases source <;> rfl

theorem normalizeTlsConfig_withCredentials (tls : List TlsConfig) :
    normalizeTlsConfig (tls.map (withCredentials change)) =
      (normalizeTlsConfig tls).map (withCredentials change) := by
  have merges : ∀ merged : List TlsConfig, (tls.map (withCredentials change)).foldl
          (fun merged entry => mergeEntry entry merged)
          (merged.map (withCredentials change)) =
        (tls.foldl (fun merged entry => mergeEntry entry merged) merged).map
          (withCredentials change) := by
    induction tls with
    | nil => simp
    | cons entry rest induction =>
      intro merged
      rw [List.map_cons, List.foldl_cons, List.foldl_cons, mergeEntry_withCredentials]
      exact induction _
  have hosts : ∀ entry : TlsConfig, (entry.withCredentials change).hosts = entry.hosts := by
    rintro ⟨_, source, _⟩
    cases source <;> rfl
  have start := merges []
  rw [List.map_nil] at start
  rw [normalizeTlsConfig, start, normalizeTlsConfig, List.map_map, List.filter_map, List.filter_map,
    List.map_map]
  simp only [Function.comp_def, dropInvalidHosts_withCredentials, hosts]

end

def TlsConfig.Lasting (entry : TlsConfig) : Prop :=
  ∃ host ∈ entry.hosts, ∀ source, entry.source = .acme source →
    isInvalidAcmeIdentifier host = false

theorem source_dropInvalidHosts (entry : TlsConfig) :
    (dropInvalidHosts entry).source = entry.source := by
  rcases entry with ⟨_, source, _⟩
  cases source <;> rfl

theorem mem_hosts_dropInvalidHosts : host ∈ (dropInvalidHosts entry).hosts ↔
      host ∈ entry.hosts ∧
        ∀ source, entry.source = .acme source → isInvalidAcmeIdentifier host = false := by
  rcases entry with ⟨_, source, _⟩
  cases source <;> simp [dropInvalidHosts]

theorem subset_foldl_mergeHost (hosts merged : List Text) :
    merged ⊆ hosts.foldl mergeHost merged := by
  induction hosts generalizing merged with
  | nil => exact List.Subset.refl merged
  | cons host rest induction =>
    apply List.Subset.trans _ (induction (mergeHost merged host))
    simp only [mergeHost]
    split
    · exact List.Subset.refl merged
    · exact List.subset_append_left merged _

theorem lasting_mono {entry larger : TlsConfig} (same : larger.source = entry.source)
    (more : entry.hosts ⊆ larger.hosts) (lasting : entry.Lasting) : larger.Lasting := by
  rcases lasting with ⟨host, member, valid⟩
  exact ⟨host, more member, same ▸ valid⟩

/-- An entry that stands for another: their sources are the same up to
credentials. -/
def TlsConfig.Stands (merged entry : TlsConfig) : Prop :=
  merged.source = entry.source ∨ acmeSourcesEquivalent merged.source entry.source = true

theorem mergeEntry_spec (entry : TlsConfig) (merged : List TlsConfig) :
    (∀ after ∈ mergeEntry entry merged, after.source = entry.source ∧ after.hosts = entry.hosts ∨
          ∃ before ∈ merged, after.source = before.source ∧ before.hosts ⊆ after.hosts) ∧
      (∀ before ∈ merged, ∃ after ∈ mergeEntry entry merged, after.source = before.source) ∧
      ∃ after ∈ mergeEntry entry merged, after.Stands entry := by
  induction merged with
  | nil => simp [mergeEntry, TlsConfig.Stands]
  | cons existing rest induction =>
    rcases induction with ⟨sources, kept, stands⟩
    rw [mergeEntry]
    split
    next merges =>
      rw [tlsEntriesShouldMerge, Bool.and_eq_true] at merges
      refine ⟨?_, ?_, _, List.mem_cons_self, .inr merges.1⟩
      · intro after member
        rcases List.mem_cons.mp member with rfl | later
        · exact .inr ⟨existing, List.mem_cons_self, rfl, subset_foldl_mergeHost _ _⟩
        · exact .inr ⟨after, List.mem_cons_of_mem _ later, rfl, List.Subset.refl _⟩
      · intro before member
        rcases List.mem_cons.mp member with rfl | later
        · exact ⟨_, List.mem_cons_self, rfl⟩
        · exact ⟨before, List.mem_cons_of_mem _ later, rfl⟩
    next =>
      refine ⟨?_, ?_, ?_⟩
      · intro after member
        rcases List.mem_cons.mp member with rfl | later
        · exact .inr ⟨after, List.mem_cons_self, rfl, List.Subset.refl _⟩
        · rcases sources after later with fresh | ⟨before, among, same⟩
          · exact .inl fresh
          · exact .inr ⟨before, List.mem_cons_of_mem _ among, same⟩
      · intro before member
        rcases List.mem_cons.mp member with rfl | later
        · exact ⟨before, List.mem_cons_self, rfl⟩
        · rcases kept before later with ⟨after, among, same⟩
          exact ⟨after, List.mem_cons_of_mem _ among, same⟩
      · rcases stands with ⟨after, among, stands⟩
        exact ⟨after, List.mem_cons_of_mem _ among, stands⟩

theorem mem_normalizeTlsConfig : after ∈ normalizeTlsConfig tls ↔
      after.hosts ≠ [] ∧ ∃ merged ∈ tls.foldl (fun merged entry => mergeEntry entry merged) [],
        dropInvalidHosts merged = after := by
  rw [normalizeTlsConfig, List.mem_filter, List.mem_map, and_comm]
  simp

theorem lasting_of_mem_normalizeTlsConfig (member : after ∈ normalizeTlsConfig tls) :
    after.Lasting := by
  rcases mem_normalizeTlsConfig.mp member with ⟨nonempty, merged, _, rfl⟩
  rcases List.exists_mem_of_ne_nil _ nonempty with ⟨host, inside⟩
  refine ⟨host, inside, ?_⟩
  rw [source_dropInvalidHosts]
  exact (mem_hosts_dropInvalidHosts.mp inside).2

structure Merged (seen merged : List TlsConfig) : Prop where
  source : ∀ after ∈ merged, ∃ entry ∈ seen, after.source = entry.source
  lasting : (∀ entry ∈ seen, entry.Lasting) → ∀ after ∈ merged, after.Lasting
  stands : ∀ entry ∈ seen, ∃ after ∈ merged, after.Stands entry

theorem Merged.step {seen merged : List TlsConfig} (holds : Merged seen merged)
    (entry : TlsConfig) : Merged (seen ++ [entry]) (mergeEntry entry merged) := by
  rcases mergeEntry_spec entry merged with ⟨sources, kept, stands⟩
  refine ⟨?_, ?_, ?_⟩
  · intro after member
    rcases sources after member with ⟨same, _⟩ | ⟨before, among, same, _⟩
    · exact ⟨entry, by simp, same⟩
    · rcases holds.source before among with ⟨origin, found, equal⟩
      exact ⟨origin, List.mem_append_left _ found, same.trans equal⟩
  · intro lasting after member
    rcases sources after member with ⟨same, equal⟩ | ⟨before, among, same, more⟩
    · exact lasting_mono same (by rw [equal]; exact List.Subset.refl _) (lasting entry (by simp))
    · have earlier := holds.lasting fun other found => lasting other (List.mem_append_left _ found)
      exact lasting_mono same more (earlier before among)
  intro other member
  rcases List.mem_append.mp member with seen | last
  · rcases holds.stands other seen with ⟨before, among, standing⟩
    rcases kept before among with ⟨after, found, same⟩
    refine ⟨after, found, ?_⟩
    rwa [TlsConfig.Stands, same]
  · rw [List.mem_singleton] at last
    exact last ▸ stands

theorem merged_foldl (tls : List TlsConfig) :
    Merged tls (tls.foldl (fun merged entry => mergeEntry entry merged) []) := by
  induction tls using List.reverseRecOn with
  | nil => exact ⟨by simp, by simp, by simp⟩
  | append_singleton seen entry induction =>
    rw [List.foldl_concat]
    exact induction.step entry

theorem source_of_mem_normalizeTlsConfig (member : after ∈ normalizeTlsConfig tls) :
    ∃ entry ∈ tls, after.source = entry.source := by
  rcases mem_normalizeTlsConfig.mp member with ⟨_, merged, among, rfl⟩
  rw [source_dropInvalidHosts]
  exact (merged_foldl tls).source merged among

theorem exists_stands_normalizeTlsConfig (lasting : ∀ entry ∈ tls, entry.Lasting)
    (member : entry ∈ tls) : ∃ after ∈ normalizeTlsConfig tls, after.Stands entry := by
  rcases (merged_foldl tls).stands entry member with ⟨merged, among, stands⟩
  rcases (merged_foldl tls).lasting lasting merged among with ⟨host, inside, valid⟩
  refine ⟨dropInvalidHosts merged, mem_normalizeTlsConfig.mpr ⟨?_, merged, among, rfl⟩, ?_⟩
  · exact List.ne_nil_of_mem (mem_hosts_dropInvalidHosts.mpr ⟨inside, valid⟩)
  · rwa [TlsConfig.Stands, source_dropInvalidHosts]

end PertiskProxy.ProxyConfig
