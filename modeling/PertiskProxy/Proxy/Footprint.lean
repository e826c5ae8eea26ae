import PertiskProxy.Proxy.Forward

/-! Two maps of the process have keys that clients choose: the counters of the rate
limits, and the requests counted per site and protocol (`metrics.rs`). -/

namespace PertiskProxy

open List

namespace Metrics

inductive Version where
  | http2
  | http3
  | other
deriving DecidableEq

structure SiteProtocolCounters where
  h2RequestsTotal : UInt64 := 0
  h3RequestsTotal : UInt64 := 0
deriving DecidableEq

def SiteProtocolCounters.count (counters : SiteProtocolCounters) :
    Version → SiteProtocolCounters
  | .http2 => { counters with h2RequestsTotal := counters.h2RequestsTotal + 1 }
  | .http3 => { counters with h3RequestsTotal := counters.h3RequestsTotal + 1 }
  | .other => counters

abbrev SiteProtocolRequests := HashMap Text SiteProtocolCounters

def siteName (platform : Platform) (host : Text) : Text :=
  platform.toLowercase (Text.trim host)

def incSiteProtocolRequests (platform : Platform) (host : Text) (version : Version)
    (sites : SiteProtocolRequests) : SiteProtocolRequests :=
  let host := siteName platform host
  if host.isEmpty then sites
  else sites.upsert host fun entry => (entry.getD {}).count version

theorem mem_keys_incSiteProtocolRequests (platform : Platform) (host : Text) (version : Version)
    (sites : SiteProtocolRequests) (name : Text) :
    name ∈ (incSiteProtocolRequests platform host version sites).keys ↔
      (name = siteName platform host ∧ name ≠ []) ∨ name ∈ sites.keys := by
  simp only [incSiteProtocolRequests]
  split
  · next empty =>
    rw [List.isEmpty_iff] at empty
    rw [empty]
    tauto
  rename_i named
  rw [List.isEmpty_iff] at named
  rw [HashMap.mem_keys_upsert]
  constructor
  · rintro (rfl | known)
    · exact .inl ⟨rfl, named⟩
    · exact .inr known
  · rintro (⟨same, -⟩ | known)
    · exact .inl same
    · exact .inr known

end Metrics

namespace Proxy

open Edge Http Metrics ProxyConfig

/-- What the logging callback counts per site: HTTP/2 requests over TLS. -/
def recordRequestMetrics (platform : Platform) (session : Session)
    (sites : SiteProtocolRequests) : SiteProtocolRequests :=
  let host := requestHost session.req
  if host.isEmpty then sites
  else if isDownstreamTls session && session.isHttp2 then
    incSiteProtocolRequests platform host .http2 sites
  else sites

/-- The sites counted, and what `bytes_received_total` grows by. -/
def recordH3Request (platform : Platform) (host : Text) (bytesReceived : Nat)
    (sites : SiteProtocolRequests) : SiteProtocolRequests × Nat :=
  if host.isEmpty then (sites, 0)
  else (incSiteProtocolRequests platform host .http3 sites, bytesReceived)

inductive Trace where
  | limited (call : LimitCall)
  | logged (session : Session)
  | recorded (host : Text) (bytesReceived : Nat)

structure Footstep where
  second : Nat
  config : Config
  trace : Trace

structure Footprint where
  windows : Windows := ∅
  sites : SiteProtocolRequests := ∅

inductive KeptKey where
  | window (key : Text)
  | site (name : Text)
deriving DecidableEq

namespace Footprint

def keys (footprint : Footprint) : List KeptKey :=
  footprint.windows.keys.map .window ++ footprint.sites.keys.map .site

def size (footprint : Footprint) : Nat :=
  footprint.windows.entries.length + footprint.sites.entries.length

theorem length_keys (footprint : Footprint) : footprint.keys.length = footprint.size := by
  simp [keys, HashMap.keys, size]

theorem nodup_keys (footprint : Footprint) : footprint.keys.Nodup := by
  apply Nodup.append
  · exact footprint.windows.nodup.map fun _ _ equal => KeptKey.window.inj equal
  · exact footprint.sites.nodup.map fun _ _ equal => KeptKey.site.inj equal
  · intro key left right
    rcases mem_map.mp left with ⟨window, -, rfl⟩
    rcases mem_map.mp right with ⟨site, -, equal⟩
    cases equal

def step (platform : Platform) (footprint : Footprint) (footstep : Footstep) : Footprint :=
  match footstep.trace with
  | .limited call =>
    { footprint with windows := (call.perform footstep.second footprint.windows).2 }
  | .logged session =>
    { footprint with sites := recordRequestMetrics platform session footprint.sites }
  | .recorded host bytesReceived =>
    { footprint with sites := (recordH3Request platform host bytesReceived footprint.sites).1 }

def after (platform : Platform) : List Footstep → Footprint
  | [] => {}
  | footstep :: earlier => (after platform earlier).step platform footstep

end Footprint

namespace Footstep

def countedHost : Trace → Option Text
  | .limited _ => none
  | .logged session =>
    if isDownstreamTls session && session.isHttp2 then some (requestHost session.req) else none
  | .recorded host _ => some host

def used (platform : Platform) (footstep : Footstep) : Option KeptKey :=
  match footstep.trace with
  | .limited call => call.counts.map fun count => .window count.1
  | trace =>
    (countedHost trace).bind fun host =>
      if host.isEmpty || (siteName platform host).isEmpty then none
      else some (.site (siteName platform host))

theorem used_of_limited {footstep : Footstep} {call : LimitCall}
    (limited : footstep.trace = .limited call) (platform : Platform) :
    footstep.used platform = call.counts.map fun count => .window count.1 := by
  simp [used, limited]

theorem used_eq_some_of_site {footstep : Footstep} (site : ∀ call, footstep.trace ≠ .limited call)
    (platform : Platform) (key : KeptKey) : footstep.used platform = some key ↔
      ∃ host, countedHost footstep.trace = some host ∧ host ≠ [] ∧
        siteName platform host ≠ [] ∧ key = .site (siteName platform host) := by
  have unfolded : footstep.used platform = (countedHost footstep.trace).bind fun host =>
      if host.isEmpty || (siteName platform host).isEmpty then none
      else some (.site (siteName platform host)) := by
    cases trace : footstep.trace with
    | limited call => exact absurd trace (site call)
    | logged session | recorded host bytes => simp [used, trace]
  rw [unfolded, Option.bind_eq_some_iff]
  apply exists_congr
  intro host
  rw [Option.ite_none_left_eq_some, Bool.or_eq_true, List.isEmpty_iff, List.isEmpty_iff, not_or]
  constructor
  · rintro ⟨counted, ⟨present, named⟩, equal⟩
    exact ⟨counted, present, named, (Option.some.inj equal).symm⟩
  · rintro ⟨counted, present, named, rfl⟩
    exact ⟨counted, ⟨present, named⟩, rfl⟩

end Footstep

namespace Footprint

variable (footprint : Footprint) (platform : Platform)

theorem mem_keys_window (key : Text) :
    .window key ∈ footprint.keys ↔ key ∈ footprint.windows.keys := by
  simp [keys]

theorem mem_keys_site (name : Text) :
    .site name ∈ footprint.keys ↔ name ∈ footprint.sites.keys := by
  simp [keys]

theorem windows_step (platform : Platform) (footprint : Footprint)
    (site : ∀ call, footstep.trace ≠ .limited call) :
    (footprint.step platform footstep).windows = footprint.windows := by
  cases trace : footstep.trace with
  | limited call => exact absurd trace (site call)
  | logged session | recorded host bytes => simp [step, trace]

open Footstep

theorem sites_step (platform : Platform) (footprint : Footprint)
    (site : ∀ call, footstep.trace ≠ .limited call) :
    ∃ version, (footprint.step platform footstep).sites =
      match countedHost footstep.trace with
      | some host =>
        if host.isEmpty then footprint.sites
        else incSiteProtocolRequests platform host version footprint.sites
      | none => footprint.sites := by
  cases trace : footstep.trace with
  | limited call => exact absurd trace (site call)
  | logged session =>
    refine ⟨.http2, ?_⟩
    simp only [step, trace, recordRequestMetrics, countedHost]
    by_cases counted : isDownstreamTls session && session.isHttp2
    · rw [if_pos counted, if_pos counted]
    · rw [if_neg counted, if_neg counted, ite_self]
  | recorded host bytes =>
    refine ⟨.http3, ?_⟩
    simp only [step, trace, recordH3Request, countedHost]
    split <;> rfl

theorem mem_keys_step (footprint : Footprint) (footstep : Footstep)
    (key : KeptKey) : key ∈ (footprint.step platform footstep).keys ↔
      footstep.used platform = some key ∨ key ∈ footprint.keys := by
  by_cases limited : ∃ call, footstep.trace = .limited call
  · rcases limited with ⟨call, trace⟩
    have windows : (footprint.step platform footstep).windows =
        (call.perform footstep.second footprint.windows).2 := by
      simp [step, trace]
    have sites : (footprint.step platform footstep).sites = footprint.sites := by
      simp [step, trace]
    rw [used_of_limited trace]
    cases key with
    | window window =>
      rw [mem_keys_window, mem_keys_window, windows, LimitCall.mem_keys_perform]
      simp
    | site name =>
      rw [mem_keys_site, mem_keys_site, sites]
      simp
  push Not at limited
  rw [used_eq_some_of_site limited]
  cases key with
  | window window =>
    rw [mem_keys_window, mem_keys_window, windows_step platform footprint limited]
    simp
  | site name =>
    rw [mem_keys_site, mem_keys_site]
    rcases sites_step platform footprint limited with ⟨version, sites⟩
    rw [sites]
    cases counted : countedHost footstep.trace with
    | none => simp
    | some host =>
      by_cases present : host = []
      · simp [present]
      have kept : host.isEmpty = false := by simpa using present
      simp only [kept, Bool.false_eq_true, if_false]
      rw [mem_keys_incSiteProtocolRequests]
      simp only [Option.some.injEq, KeptKey.site.injEq, exists_eq_left', present,
        not_false_eq_true, ne_eq, true_and]
      apply or_congr_left
      constructor
      · rintro ⟨rfl, named⟩
        exact ⟨named, rfl⟩
      · rintro ⟨named, rfl⟩
        exact ⟨rfl, named⟩

/-- The keys kept are all those that requests ever used. -/
theorem mem_keys_after (history : List Footstep) (key : KeptKey) :
    key ∈ (after platform history).keys ↔ key ∈ history.filterMap (used platform) := by
  induction history with
  | nil => exact Iff.rfl
  | cons footstep earlier induction =>
    rw [after, mem_keys_step, induction]
    cases used : footstep.used platform with
    | none => simp [used]
    | some other => simp [used, eq_comm]

theorem size_after (history : List Footstep) :
    (after platform history).size =
      (history.filterMap (used platform)).dedup.length := by
  have perm : (after platform history).keys.Perm
      (history.filterMap (used platform)).dedup := by
    apply (perm_ext_iff_of_nodup (nodup_keys _) (nodup_dedup _)).mpr
    intro key
    rw [mem_keys_after, mem_dedup]
  rw [← length_keys, perm.length_eq]

end Footprint

def configuredHosts (platform : Platform) (config : Config) : List Text :=
  ((config.sites.map (siteHost platform)).filter (!·.isEmpty)).dedup

namespace Footstep

def usedIn (platform : Platform) (second : Nat) (history : List Footstep) : List KeptKey :=
  ((history.filter (·.second = second)).filterMap (used platform)).dedup

def abandoned (platform : Platform) (second : Nat) (history : List Footstep) : List KeptKey :=
  (history.filterMap (used platform)).dedup.filter (· ∉ usedIn platform second history)

/-- After a footstep the maps have no more entries than there are configured hosts
and keys used in the second. -/
def Bounded (platform : Platform) (earlier : List Footstep) (footstep : Footstep) : Prop :=
  let history := footstep :: earlier
  (Footprint.after platform history).size ≤
    (configuredHosts platform footstep.config).length +
      (usedIn platform footstep.second history).length

/-- No more keys were used and abandoned than there are configured hosts. -/
def FewAbandoned (platform : Platform) (earlier : List Footstep) (footstep : Footstep) : Prop :=
  (abandoned platform footstep.second (footstep :: earlier)).length ≤
    (configuredHosts platform footstep.config).length

theorem size_after_eq (platform : Platform) (second : Nat) (history : List Footstep) :
    (Footprint.after platform history).size = (usedIn platform second history).length +
        (abandoned platform second history).length := by
  have recent : ((history.filterMap (used platform)).dedup.filter
      (· ∈ usedIn platform second history)).Perm (usedIn platform second history) := by
    apply (perm_ext_iff_of_nodup ((nodup_dedup _).filter _) (nodup_dedup _)).mpr
    intro key
    rw [mem_filter, mem_dedup, decide_eq_true_eq]
    apply and_iff_right_of_imp
    intro member
    rw [usedIn, mem_dedup, mem_filterMap] at member
    rcases member with ⟨footstep, chosen, equal⟩
    exact mem_filterMap.mpr ⟨footstep, mem_of_mem_filter chosen, equal⟩
  have split := @length_eq_length_filter_add _ (history.filterMap (used platform)).dedup
    (fun key => decide (key ∈ usedIn platform second history))
  rw [Footprint.size_after, split, recent.length_eq, abandoned]
  simp

/-- The maps stay within the bound exactly as long as requests abandon few keys. -/
theorem maps_bounded_iff (platform : Platform) (footsteps : List Footstep) :
    Run.Every (fun earlier footstep => footstep :: earlier) (Bounded platform) [] footsteps ↔
      Run.Every (fun earlier footstep => footstep :: earlier) (FewAbandoned platform) []
        footsteps := by
  apply Run.Every.iff_of_invariant (fun _ => True) (fun _ _ _ _ => trivial) _ trivial
  intro earlier footstep _
  unfold Bounded FewAbandoned
  simp only []
  rw [size_after_eq platform footstep.second]
  omega

/-- A client that asks for three hosts nobody configured, one in each second: the
configuration has one site, and in the third second the first two hosts are still
counted. -/
theorem unknown_hosts_kept : let asking (host : Text) : Session :=
      { req := { method := "GET", uri := { host := some host, pathAndQuery := "/" } }
        isHttp2 := true }
    let config : Config := { sites := [{ host := "example.com", backend := "web" }] }
    let footstep (second : Nat) (host : Text) : Footstep :=
      { second, config, trace := .logged (asking host) }
    ¬ Run.Every (fun earlier footstep => footstep :: earlier) (Bounded default) []
        [footstep 1 "a.test", footstep 2 "b.test", footstep 3 "c.test"] := by
  intro asking config footstep every
  have third := every.2.2.1
  unfold Bounded at third
  revert third
  decide

end Footstep

end Proxy

end PertiskProxy
