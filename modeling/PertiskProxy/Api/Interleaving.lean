import PertiskProxy.Api.Deletion
import PertiskProxy.Api.Snapshots

/-! Every change of the configuration reads all of it, edits its copy, and writes all of
it back, in steps between which others may run. -/

namespace PertiskProxy.Api

open GeoIp Procedure ProxyConfig Security Fallible List

variable {operation : AdminOperation} {first second : Config} {item : Item} {sites : List Site}
  {index : Nat} {request : PolicyRequest} {change update : Site → Site} {named : Text}
  {γ ε ν : Type}

/-! ## Items of a configuration -/

/-- A piece of the configuration that is changed as a whole. A named policy goes
with the copies that sites keep of it. TLS entries go by their hosts. -/
inductive Item where
  | accessList (id : Text)
  | wafPolicy (id : Text)
  | tls (hosts : List Text)
  | site (index : Nat)
  | settings
deriving DecidableEq

def geoipCopy (id : Text) (site : Site) : Option GeoIpPolicy :=
  if site.accessListId == some id then some site.geoip else none

def securityCopy (id : Text) (site : Site) : Option SecurityPolicy :=
  if site.wafPolicyId == some id then some site.security else none

namespace Item

def SameSites (first second : List Site) : Item → Prop
  | .accessList id => first.map (geoipCopy id) = second.map (geoipCopy id)
  | .wafPolicy id => first.map (securityCopy id) = second.map (securityCopy id)
  | .site index => first[index]? = second[index]?
  | .tls _ | .settings => True

def SameRest (first second : Config) : Item → Prop
  | .accessList id =>
    (first.accessLists.filter fun list => list.id == id) =
      second.accessLists.filter fun list => list.id == id
  | .wafPolicy id =>
    (first.wafPolicies.filter fun policy => policy.id == id) =
      second.wafPolicies.filter fun policy => policy.id == id
  | .tls hosts =>
    (first.tls.filter fun entry => tlsHostsSorted entry.hosts == hosts) =
      second.tls.filter fun entry => tlsHostsSorted entry.hosts == hosts
  | .site _ => True
  | .settings =>
    { first with accessLists := [], wafPolicies := [], tls := [], sites := [] } =
      { second with accessLists := [], wafPolicies := [], tls := [], sites := [] }

structure Same (item : Item) (first second : Config) : Prop where
  rest : item.SameRest first second
  sites : item.SameSites first.sites second.sites

theorem same_self (item : Item) (config : Config) : item.Same config config := by
  constructor
  · cases item <;> simp [SameRest]
  · cases item <;> simp [SameSites]

theorem sameRest_withSites (sites : List Site)
    (same : item.SameRest first second) : item.SameRest { first with sites } second := by
  cases item <;> exact same

theorem sameRest_withLists {lists : Config}
    (same : item.SameRest first second) (sameLists : item.SameRest lists second) : item.SameRest
      { first with accessLists := lists.accessLists, wafPolicies := lists.wafPolicies }
      second := by
  cases item with
  | accessList | wafPolicy => exact sameLists
  | tls | site | settings => exact same

end Item

/-! ## Operations and their items -/

inductive AdminOperation where
  | policy (request : PolicyRequest)
  | certificatesUpload (id : Text) (body : CertificatesUploadBody)

def RefersToList (config : Config) (index : Nat) (id : Text) : Prop :=
  ∃ site, config.sites[index]? = some site ∧ site.accessListId = some id

def RefersToPolicy (config : Config) (index : Nat) (id : Text) : Prop :=
  ∃ site, config.sites[index]? = some site ∧ site.wafPolicyId = some id

def PolicyRequest.On (config : Config) : PolicyRequest → Item → Prop
  | .putConfig _, _ => True
  | .accessListsCreate id _, .accessList named | .accessListsPut id _, .accessList named =>
    named = id
  | .accessListsPut id _, .site index => RefersToList config index id
  | .accessListsDelete id, .accessList named => named = id
  | .accessListsDelete id, .site index => RefersToList config index id
  | .wafPoliciesCreate id _, .wafPolicy named | .wafPoliciesPut id _, .wafPolicy named =>
    named = id
  | .wafPoliciesPut id _, .site index => RefersToPolicy config index id
  | .wafPoliciesDelete id, .wafPolicy named => named = id
  | .wafPoliciesDelete id, .site index => RefersToPolicy config index id
  | _, _ => False

namespace AdminOperation

def run (admin : Admin) : AdminOperation → Action ApiError PUnit
  | .policy request => request.run admin
  | .certificatesUpload id body => do
      let _ ← Api.certificatesUpload admin id body
      pure ⟨⟩

def edited (admin : Admin) (config : Config) : AdminOperation → Except ApiError Config
  | .policy request => request.edited config
  | .certificatesUpload id body =>
    .ok (syncUploadedCertTls admin config body.trimmedHosts id)

/-- An upload is on the TLS entries that have all of its hosts. -/
def On (config : Config) : AdminOperation → Item → Prop
  | .policy request, item => request.On config item
  | .certificatesUpload _ body, .tls hosts =>
    ∀ host ∈ tlsHostsSorted body.trimmedHosts, host ∈ hosts
  | .certificatesUpload _ _, _ => False

end AdminOperation

/-! ## What an edit leaves alone -/

section

variable {config after written : Config} {item : Item} {id : Text}

/-- An edit of one list or policy and of the sites that refer to it. -/
structure Change (changed : Item) (update : Site → Site) (config after : Config) : Prop where
  rest : ∀ item, item ≠ changed → item.SameRest after config
  sites : after.sites = config.sites.map update
  geoip : ∀ named, Item.accessList named ≠ changed →
    ∀ site, geoipCopy named (update site) = geoipCopy named site
  security : ∀ named, Item.wafPolicy named ≠ changed →
    ∀ site, securityCopy named (update site) = securityCopy named site

theorem map_copies {copy : Site → γ}
    (same : ∀ site, copy (update site) = copy site) (sites : List Site) :
    (sites.map update).map copy = sites.map copy := by
  rw [map_map]
  exact map_congr_left fun site _ => same site

theorem getElem?_update {others : List Site}
    (same : sites[index]? = others[index]?)
    (untouched : ∀ site, others[index]? = some site → update site = site) :
    (sites.map update)[index]? = others[index]? := by
  rw [getElem?_map, same]
  cases found : others[index]? with
  | none => rfl
  | some site => rw [Option.map_some, untouched site found]

theorem Change.same {changed : Item}
    (change : Change changed update config after) (same : item.Same config written)
    (other : item ≠ changed) (untouched : ∀ index, item = .site index →
      ∀ site, written.sites[index]? = some site → update site = site) :
    item.Same after written := by
  have rest := change.rest item other
  rcases same with ⟨restBefore, sites⟩
  constructor
  · cases item with
    | site index => trivial
    | accessList | wafPolicy | tls | settings => exact Eq.trans rest restBefore
  · rw [change.sites]
    cases item with
    | accessList named => exact (map_copies (change.geoip named other) _).trans sites
    | wafPolicy named => exact (map_copies (change.security named other) _).trans sites
    | tls | settings => trivial
    | site index => exact getElem?_update sites (untouched index rfl)

theorem copy_ite {copy : Site → γ} {refers : Site → Bool}
    (same : ∀ site, refers site = true → copy (change site) = copy site) (site : Site) :
    copy (if refers site then change site else site) = copy site := by
  split
  · next refers => exact same site refers
  · rfl

section

variable {name : ν → Text} {items : List ν}

theorem filter_append_of_ne {item : ν}
    (different : named ≠ name item) :
    ((items ++ [item]).filter fun entry => name entry == named) =
      items.filter fun entry => name entry == named := by
  have absent : (name item == named) = false := beq_eq_false_iff_ne.mpr different.symm
  simp [filter_append, absent]

theorem filter_removed_of_ne
    (different : named ≠ id) :
    ((items.filter fun entry => name entry != id).filter fun entry => name entry == named) =
      items.filter fun entry => name entry == named := by
  rw [filter_filter]
  apply filter_congr
  intro entry _
  by_cases equal : name entry = named
  · simp [equal, different]
  · simp [equal]

theorem filter_modified_of_ne
    {change : ν → ν}
    (located : items.findIdx? (fun entry => name entry == id) = some index)
    (kept : ∀ entry, name (change entry) = name entry) (different : named ≠ id) :
    ((items.modify index change).filter fun entry => name entry == named) =
      items.filter fun entry => name entry == named := by
  refine Reference.filter_modify located ?_
  intro entry called
  have absent : (name entry == named) = false := by
    rw [beq_eq_false_iff_ne, beq_iff_eq.mp called]
    exact different.symm
  exact ⟨absent, kept entry ▸ absent⟩

end

theorem sameRest_accessLists {accessLists : List AccessList}
    (kept : ∀ named, named ≠ id → (accessLists.filter fun list => list.id == named) =
      config.accessLists.filter fun list => list.id == named) (item : Item)
    (other : item ≠ .accessList id) : item.SameRest { config with accessLists, sites } config := by
  cases item with
  | accessList named => exact kept named fun same => other (congrArg _ same)
  | wafPolicy | tls | settings => rfl
  | site => trivial

theorem geoipCopy_ite
    (kept : ∀ site, (change site).accessListId = site.accessListId ∨ (change site).accessListId = none)
    (named : Text) (other : Item.accessList named ≠ .accessList id) :
    ∀ site, geoipCopy named (if site.accessListId == some id then change site else site) =
      geoipCopy named site := by
  refine copy_ite fun site refers => ?_
  have different : id ≠ named := fun same => other (congrArg _ same.symm)
  rw [beq_iff_eq] at refers
  rcases kept site with same | none
  · simp [geoipCopy, same, refers, different]
  · simp [geoipCopy, none, refers, different]

theorem sameRest_wafPolicies {wafPolicies : List NamedWafPolicy}
    (kept : ∀ named, named ≠ id → (wafPolicies.filter fun policy => policy.id == named) =
      config.wafPolicies.filter fun policy => policy.id == named) (item : Item)
    (other : item ≠ .wafPolicy id) : item.SameRest { config with wafPolicies, sites } config := by
  cases item with
  | wafPolicy named => exact kept named fun same => other (congrArg _ same)
  | accessList | tls | settings => rfl
  | site => trivial

theorem securityCopy_ite
    (kept : ∀ site, (change site).wafPolicyId = site.wafPolicyId ∨ (change site).wafPolicyId = none)
    (named : Text) (other : Item.wafPolicy named ≠ .wafPolicy id) :
    ∀ site, securityCopy named (if site.wafPolicyId == some id then change site else site) =
      securityCopy named site := by
  refine copy_ite fun site refers => ?_
  have different : id ≠ named := fun same => other (congrArg _ same.symm)
  rw [beq_iff_eq] at refers
  rcases kept site with same | none
  · simp [securityCopy, same, refers, different]
  · simp [securityCopy, none, refers, different]

theorem PolicyRequest.same_edited
    (edited : request.edited config = .ok after) (off : ¬request.On written item)
    (same : item.Same config written) : item.Same after written := by
  cases request with
  | putConfig body => exact absurd trivial off
  | accessListsCreate id body =>
    rcases bind_eq_ok.mp edited with ⟨edit, made, changed⟩
    rcases bind_eq_ok.mp made with ⟨name, -, equal⟩
    cases equal
    cases changed
    exact Change.same ⟨sameRest_accessLists fun _ => filter_append_of_ne, (map_id _).symm,
      fun _ _ _ => rfl, fun _ _ _ => rfl⟩ same (by rintro rfl; exact off rfl) fun _ _ _ _ => rfl
  | accessListsPut id body =>
    rcases bind_eq_ok.mp edited with ⟨edit, made, changed⟩
    rcases bind_eq_ok.mp made with ⟨name, -, equal⟩
    cases equal
    simp only at changed
    split at changed
    · cases changed
    rename_i index located
    cases changed
    refine Change.same ⟨sameRest_accessLists fun _ => filter_modified_of_ne located fun _ => rfl, rfl,
      geoipCopy_ite (fun _ => .inl rfl), fun _ _ => copy_ite fun _ _ => rfl⟩ same
      (by rintro rfl; exact off rfl) ?_
    rintro index rfl site found
    exact if_neg fun refers => off ⟨site, found, beq_iff_eq.mp refers⟩
  | accessListsDelete id =>
    rcases bind_eq_ok.mp edited with ⟨edit, made, changed⟩
    cases made
    simp only at changed
    split at changed
    · cases changed
    cases changed
    refine Change.same ⟨sameRest_accessLists fun _ => filter_removed_of_ne, rfl,
      geoipCopy_ite (fun _ => .inr rfl), fun _ _ => copy_ite fun _ _ => rfl⟩ same
      (by rintro rfl; exact off rfl) ?_
    rintro index rfl site found
    exact if_neg fun refers => off ⟨site, found, beq_iff_eq.mp refers⟩
  | wafPoliciesCreate id body =>
    rcases bind_eq_ok.mp edited with ⟨edit, made, changed⟩
    rcases bind_eq_ok.mp made with ⟨name, -, equal⟩
    cases equal
    cases changed
    exact Change.same ⟨sameRest_wafPolicies fun _ => filter_append_of_ne, (map_id _).symm,
      fun _ _ _ => rfl, fun _ _ _ => rfl⟩ same (by rintro rfl; exact off rfl) fun _ _ _ _ => rfl
  | wafPoliciesPut id body =>
    rcases bind_eq_ok.mp edited with ⟨edit, made, changed⟩
    rcases bind_eq_ok.mp made with ⟨name, -, equal⟩
    cases equal
    simp only at changed
    split at changed
    · cases changed
    rename_i index located
    cases changed
    refine Change.same ⟨sameRest_wafPolicies fun _ => filter_modified_of_ne located fun _ => rfl, rfl,
      fun _ _ => copy_ite fun _ _ => rfl, securityCopy_ite (fun _ => .inl rfl)⟩ same
      (by rintro rfl; exact off rfl) ?_
    rintro index rfl site found
    exact if_neg fun refers => off ⟨site, found, beq_iff_eq.mp refers⟩
  | wafPoliciesDelete id =>
    rcases bind_eq_ok.mp edited with ⟨edit, made, changed⟩
    cases made
    simp only at changed
    split at changed
    · cases changed
    cases changed
    refine Change.same ⟨sameRest_wafPolicies fun _ => filter_removed_of_ne, rfl,
      fun _ _ => copy_ite fun _ _ => rfl, securityCopy_ite (fun _ => .inr rfl)⟩ same
      (by rintro rfl; exact off rfl) ?_
    rintro index rfl site found
    exact if_neg fun refers => off ⟨site, found, beq_iff_eq.mp refers⟩

theorem mem_tlsHostsSorted :
    host ∈ tlsHostsSorted hosts ↔ (∃ given ∈ hosts, Text.trim given = host) ∧ host ≠ [] := by
  simp [tlsHostsSorted]

theorem mem_tlsHostsSorted_sorted (member : host ∈ tlsHostsSorted hosts) :
    host ∈ tlsHostsSorted (tlsHostsSorted hosts) := by
  rcases mem_tlsHostsSorted.mp member with ⟨⟨given, -, trimmed⟩, nonempty⟩
  refine mem_tlsHostsSorted.mpr ⟨⟨host, member, ?_⟩, nonempty⟩
  rw [← trimmed, Text.trim_idem]

theorem filter_tls_synced (lacks : ¬∀ host ∈ tlsHostsSorted hosts, host ∈ key) :
    ((syncUploadedCertTls admin config hosts id).tls.filter fun entry =>
        tlsHostsSorted entry.hosts == key) =
      config.tls.filter fun entry => tlsHostsSorted entry.hosts == key := by
  have other : ∀ sorted : List Text,
      (∀ host ∈ tlsHostsSorted hosts, host ∈ sorted) → (sorted == key) = false := by
    intro sorted covers
    rw [beq_eq_false_iff_ne]
    rintro rfl
    exact lacks covers
  simp only [syncUploadedCertTls]
  split
  · rfl
  split
  · next index located =>
    rcases Option.or_eq_some_iff.mp located with exact | ⟨-, larger⟩
    · refine Reference.filter_modify exact ?_
      intro entry equal
      have apart := other (tlsHostsSorted entry.hosts) (by
        rw [beq_iff_eq.mp equal]
        exact fun _ member => member)
      exact ⟨apart, apart⟩
    refine Reference.filter_modify larger ?_
    intro entry contains
    have apart := other (tlsHostsSorted entry.hosts) (by
      intro host member
      exact contains_iff_mem.mp (all_eq_true.mp contains host member))
    exact ⟨apart, apart⟩
  · have apart := other (tlsHostsSorted (tlsHostsSorted hosts))
      fun host member => mem_tlsHostsSorted_sorted member
    simp [filter_append, apart]

theorem AdminOperation.same_edited {admin : Admin}
    (edited : operation.edited admin config = .ok after) (off : ¬operation.On written item)
    (same : item.Same config written) : item.Same after written := by
  cases operation with
  | policy request => exact PolicyRequest.same_edited edited off same
  | certificatesUpload id body =>
    cases edited
    rcases same with ⟨rest, sites⟩
    have only := (@syncUploadedCertTls_spec admin config body.trimmedHosts id).1
    cases item with
    | tls hosts =>
      exact ⟨(filter_tls_synced off).trans rest, trivial⟩
    | accessList | wafPolicy | site | settings =>
      rw [only]
      exact ⟨rest, sites⟩

end

/-! ## What a server has -/

/-- The stored configuration. In ingress mode the sites are those of the cluster,
which are not stored. -/
def Server.storedConfig (admin : Admin) (server : Server) : Option Config :=
  server.database.config.map fun stored =>
    if admin.viewerMode then { stored with sites := server.runtimeConfig.sites } else stored

/-- The stored and the running configuration have an item as it was written. -/
structure Has (admin : Admin) (item : Item) (written : Config) (server : Server) : Prop where
  stored : ∃ stored, server.storedConfig admin = some stored ∧ item.Same stored written
  running : item.Same server.runtimeConfig written

structure Between (before : Server) (saved config : Config) (server : Server) : Prop where
  stored : server.database.config = before.database.config ∨
    server.database.config = some saved
  running : server.runtimeConfig = before.runtimeConfig ∨ server.runtimeConfig = config

def savedConfig (admin : Admin) (failing : Call → Bool) (config : Config) (server : Server) :
    Config :=
  if admin.viewerMode then storedWithLists failing config server else config

section

variable {admin : Admin} {failing : Call → Bool} {item : Item} {before server visited : Server}
  {saved config written : Config}

theorem has_iff : Has admin item written server ↔
      (∃ stored, server.database.config = some stored ∧ item.SameRest stored written ∧
        (admin.viewerMode = false → item.SameSites stored.sites written.sites)) ∧
      item.Same server.runtimeConfig written := by
  constructor
  · rintro ⟨⟨stored, found, same⟩, running⟩
    refine ⟨?_, running⟩
    rcases Option.map_eq_some_iff.mp found with ⟨raw, present, rfl⟩
    refine ⟨raw, present, ?_⟩
    cases viewer : admin.viewerMode with
    | false =>
      rw [viewer] at same
      exact ⟨same.rest, fun _ => same.sites⟩
    | true =>
      rw [viewer] at same
      exact ⟨Item.sameRest_withSites raw.sites same.rest, nofun⟩
  · rintro ⟨⟨raw, present, rest, sites⟩, running⟩
    refine ⟨⟨_, Option.map_eq_some_iff.mpr ⟨raw, present, rfl⟩, ?_⟩, running⟩
    cases viewer : admin.viewerMode with
    | false => exact ⟨rest, sites viewer⟩
    | true => exact ⟨Item.sameRest_withSites _ rest, running.sites⟩

theorem Has.between (has : Has admin item written before)
    (between : Between before saved config visited) (same : item.Same config written)
    (rest : item.SameRest saved written)
    (sites : admin.viewerMode = false → item.SameSites saved.sites written.sites) :
    Has admin item written visited := by
  rcases has_iff.mp has with ⟨⟨stored, present, storedRest, storedSites⟩, running⟩
  refine has_iff.mpr ⟨?_, ?_⟩
  · rcases between.stored with kept | replaced
    · exact ⟨stored, kept.trans present, storedRest, storedSites⟩
    · exact ⟨saved, replaced, rest, sites⟩
  · rcases between.running with kept | replaced
    · rw [kept]
      exact running
    · rw [replaced]
      exact same

/-! ## Steps of a change -/

theorem between_self : Between before saved config before :=
  ⟨.inl rfl, .inl rfl⟩

theorem additive_between : Additive (Between before saved config) :=
  ⟨fun _ _ holds => ⟨holds.stored, holds.running⟩,
    fun _ _ _ _ holds => ⟨holds.stored, holds.running⟩⟩

theorem keeps_between_saveProxyConfig :
    Keeps (Between before saved config) (fun _ => True) (saveProxyConfig saved) :=
  keeps_saveProxyConfig fun _ holds => ⟨.inr rfl, holds.running⟩

theorem keeps_between_running : Keeps (Between before saved config) (fun _ => True)
      (modify fun server => { server with runtimeConfig := config } : Action ε PUnit) :=
  keeps_modify fun _ holds => ⟨holds.stored, .inr rfl⟩

theorem keeps_between_applyConfig (applied : Config) :
    Keeps (Between before saved config) (fun _ => True) (applyConfig admin applied) :=
  keeps_applyConfig (fun _ _ holds => ⟨holds.stored, holds.running⟩)
    fun _ _ holds => ⟨holds.stored, holds.running⟩

theorem keeps_between_activate {saveFailed : Unit → ε}
    {activateFailed : ActivateError → ε} : Keeps (Between before config config) (fun _ => True)
      (saveThenActivate admin saveFailed activateFailed config) := by
  apply keeps_saveThenActivate
  · exact fun _ holds => ⟨.inr rfl, holds.running⟩
  · exact fun _ _ holds => ⟨holds.stored, holds.running⟩
  · exact fun _ _ holds => ⟨holds.stored, holds.running⟩
  · exact fun _ _ holds => ⟨holds.stored, holds.running⟩
  · exact additive_between.loadDbCertsIntoStore
  · exact fun _ holds => ⟨holds.stored, .inr rfl⟩

theorem quiet_fails (call : Call) (server : Server) :
    Quiet failing (always (Routine.fails call) : Action ε Bool) server := by
  intro visited member
  exact mem_singleton.mp ((mem_visits_always failing).mp member)

theorem between_saveAndActivate (config : Config) (server : Server) :
    ∀ visited ∈ visits failing (saveAndActivate admin config) server,
      Between server (savedConfig admin failing config server) config visited := by
  rw [saveAndActivate, savedConfig]
  cases admin.viewerMode with
  | false => exact keeps_between_activate.visits failing between_self
  | true =>
    rw [if_pos rfl, if_pos rfl, forall_visits_bind failing (quiet_fails _ _) between_self]
    intro failed outcome
    cases outcome
    rw [forall_visits_bind failing (quiet_read failing _ _) between_self]
    intro stored found
    cases found
    refine @Keeps.visits _ _ _ _ failing _ (fun _ => True) _ server ?_ between_self
    apply Keeps.bind (keeps_adapt keeps_between_saveProxyConfig)
    intro _ _
    apply Keeps.bind (keeps_adapt (keeps_between_applyConfig config))
    intro _ _
    exact keeps_between_running

def Readable (admin : Admin) (failing : Call → Bool) : Prop :=
  admin.viewerMode = true → failing .loadConfig = false

theorem same_savedConfig (readable : Readable admin failing) (has : Has admin item written server)
    (same : item.Same config written) :
    item.SameRest (savedConfig admin failing config server) written ∧ (admin.viewerMode = false →
        item.SameSites (savedConfig admin failing config server).sites written.sites) := by
  rcases has_iff.mp has with ⟨⟨stored, present, rest, -⟩, -⟩
  rw [savedConfig]
  cases viewer : admin.viewerMode with
  | false => exact ⟨same.rest, fun _ => same.sites⟩
  | true =>
    refine ⟨?_, nofun⟩
    rw [if_pos rfl, storedWithLists, readable viewer, present]
    exact Item.sameRest_withLists rest same.rest

theorem has_saveAndActivate (readable : Readable admin failing)
    (has : Has admin item written server) (same : item.Same config written) :
    ∀ visited ∈ visits failing (saveAndActivate admin config) server,
      Has admin item written visited := by
  intro visited member
  rcases same_savedConfig readable has same with ⟨rest, sites⟩
  exact has.between (between_saveAndActivate config server visited member) same rest sites

theorem same_workingConfig (has : Has admin item written server) :
    item.Same (workingConfig admin failing server) written := by
  rcases has_iff.mp has with ⟨⟨stored, present, rest, -⟩, running⟩
  rw [workingConfig, present]
  split
  · next found =>
    cases found
    exact ⟨Item.sameRest_withLists running.rest rest, running.sites⟩
  · exact running

theorem quiet_loadConfig (server : Server) : Quiet failing (loadConfig admin) server := by
  have still : Keeps (fun visited => visited = server) (fun _ => True) (loadConfig admin) := by
    apply Keeps.bind (keeps_read _)
    intro config _
    split
    · apply Keeps.bind (keeps_always (Routine.keeps_fails _))
      intro failed _
      apply Keeps.bind (keeps_read _)
      intro stored _ result _
      trivial
    · intro result _
      trivial
  exact still.visits failing rfl

theorem has_changeLists (readable : Readable admin failing) (edit : ListEdit)
    (has : Has admin item written server)
    (same : ∀ config, (edit >>= fun change => change (workingConfig admin failing server)) =
      .ok config → item.Same config written) :
    ∀ visited ∈ visits failing (changeLists admin edit) server,
      Has admin item written visited := by
  rw [changeLists, requireDb, forall_visits_bind failing (quiet_check _ _ _) has]
  intro _ _
  rw [forall_visits_bind failing (quiet_check _ _ _) has]
  intro change edits
  rw [forall_visits_bind failing (quiet_loadConfig _) has]
  intro working loaded
  rw [exec_loadConfig] at loaded
  cases loaded
  rw [forall_visits_bind failing (quiet_check _ _ _) has]
  intro config changed
  refine has_saveAndActivate readable has (same config ?_)
  rw [exec_check] at edits changed
  simp only at edits changed
  rw [edits]
  exact changed

def Unmoved (before server : Server) : Prop :=
  server.database.config = before.database.config ∧ server.runtimeConfig = before.runtimeConfig

theorem between_of_unmoved (unmoved : Unmoved before server) :
    Between before saved config server :=
  ⟨.inl unmoved.1, .inl unmoved.2⟩

theorem additive_unmoved : Additive (Unmoved before) :=
  ⟨fun _ _ unmoved => unmoved, fun _ _ _ _ unmoved => unmoved⟩

theorem keeps_unmoved_addCertificate (id : Text) (hosts : List Text)
    (certPem keyPem sourceType : Text) : Keeps (Unmoved before) (fun result => result = id)
      (addCertificate admin id hosts certPem keyPem sourceType) := by
  apply Keeps.bind (keeps_call _ _)
  intro _ _ server unmoved
  simp only [Database.addCertificate]
  by_cases taken : (server.database.certificates.any fun row => row.id == id) = true
  · simp only [if_pos taken]
    refine ⟨unmoved, ?_⟩
    intro result impossible
    cases impossible
  · simp only [if_neg taken]
    exact ⟨unmoved, fun result ended => (Except.ok.inj ended).symm⟩

theorem between_certificatesUpload (id : Text) (body : CertificatesUploadBody) (server : Server) :
    ∀ visited ∈ visits failing (certificatesUpload admin id body) server,
      Between server (syncUploadedCertTls admin server.runtimeConfig body.trimmedHosts id)
        (syncUploadedCertTls admin server.runtimeConfig body.trimmedHosts id) visited := by
  have still : Unmoved server server := ⟨rfl, rfl⟩
  rw [certificatesUpload, requireDb, forall_visits_bind failing (quiet_check _ _ _) between_self]
  intro _ _
  rw [forall_visits_bind failing (quiet_check _ _ _) between_self]
  intro _ _
  refine Keeps.forall_visits_bind failing
    (keeps_adapt (keeps_unmoved_addCertificate _ _ _ _ _)) still
    (fun _ => between_of_unmoved) ?_
  rintro _ _ rfl unmoved
  refine Keeps.forall_visits_bind failing
    (keeps_adapt (additive_unmoved.insertPemForHosts _ _ _ _)) unmoved
    (fun _ => between_of_unmoved) ?_
  intro _ reached _ unmoved
  rw [forall_visits_bind failing (quiet_read failing _ _) (between_of_unmoved unmoved)]
  intro config found
  cases found
  rw [unmoved.2]
  refine @Keeps.visits _ _ _ _ failing _ (fun _ => True) _ reached ?_ (between_of_unmoved unmoved)
  apply Keeps.bind (keeps_adapt keeps_between_saveProxyConfig)
  intro _ _
  apply Keeps.bind keeps_between_running
  intro _ _ result _
  trivial

open AdminOperation

/-- While an operation runs alone, the items that it is not on stay as they are. -/
theorem AdminOperation.has_visits (readable : Readable admin failing)
    (has : Has admin item written server) (off : ¬operation.On written item) :
    ∀ visited ∈ visits failing (operation.run admin) server, Has admin item written visited := by
  cases operation with
  | policy request =>
    have same : ∀ config, request.edited (workingConfig admin failing server) = .ok config →
        item.Same config written :=
      fun config edited => PolicyRequest.same_edited edited off (same_workingConfig has)
    cases request with
    | putConfig body => exact absurd trivial off
    | accessListsCreate | accessListsPut | accessListsDelete | wafPoliciesCreate
    | wafPoliciesPut | wafPoliciesDelete => exact has_changeLists readable _ has same
  | certificatesUpload id body =>
    have same : item.Same
        (syncUploadedCertTls admin server.runtimeConfig body.trimmedHosts id) written :=
      same_edited rfl off has.running
    intro visited member
    rw [run, mem_visits_bind] at member
    have between : Between server
        (syncUploadedCertTls admin server.runtimeConfig body.trimmedHosts id)
        (syncUploadedCertTls admin server.runtimeConfig body.trimmedHosts id) visited := by
      apply between_certificatesUpload id body server visited
      rcases member with uploading | ⟨result, -, after⟩
      · exact uploading
      · rw [mem_singleton.mp after]
        exact Routine.mem_visits_exec failing _ server
    exact has.between between same same.rest fun _ => same.sites

/-! ## What a successful operation leaves -/

theorem saveThenActivate_ok {saveFailed : Unit → ε}
    {activateFailed : ActivateError → ε} (succeeded : (exec failing
      (saveThenActivate admin saveFailed activateFailed config) server).1.isOk = true) :
    (exec failing (saveThenActivate admin saveFailed activateFailed config)
        server).2.database.config = some config ∧
      (exec failing (saveThenActivate admin saveFailed activateFailed config)
        server).2.runtimeConfig = config := by
  have ended := @commitEnd admin failing ε saveFailed activateFailed config server
  rw [succeeded] at ended
  generalize (exec failing (saveThenActivate admin saveFailed activateFailed config)
    server).2 = final at ended ⊢
  cases ended with
  | activated => exact ⟨rfl, rfl⟩

theorem saveAndActivate_ok
    (succeeded : (exec failing (saveAndActivate admin config) server).1.isOk = true) :
    (exec failing (saveAndActivate admin config) server).2.database.config =
        some (savedConfig admin failing config server) ∧
      (exec failing (saveAndActivate admin config) server).2.runtimeConfig = config := by
  rw [saveAndActivate] at succeeded ⊢
  rw [savedConfig]
  cases viewer : admin.viewerMode with
  | false =>
    rw [viewer] at succeeded
    exact saveThenActivate_ok succeeded
  | true =>
    simp only [viewer, if_true, exec_bind, exec_always,
      exec_read, exec_adapt, exec_saveProxyConfig] at succeeded ⊢
    cases unsaved : failing .saveConfig with
    | true =>
      rw [unsaved] at succeeded
      cases succeeded
    | false =>
      simp only [unsaved, Bool.false_eq_true, if_false, Except.mapError,
        exec_applyConfig] at succeeded ⊢
      cases applied : Proxy.configToRouteTable admin.platform config with
      | error error =>
        rw [applied] at succeeded
        cases succeeded
      | ok table => exact ⟨rfl, rfl⟩

theorem changeLists_ok
    (succeeded : (exec failing (changeLists admin edit) server).1.isOk = true) :
    ∃ config, (edit >>= fun change => change (workingConfig admin failing server)) = .ok config ∧
      (exec failing (changeLists admin edit) server).2.database.config =
        some (savedConfig admin failing config server) ∧
      (exec failing (changeLists admin edit) server).2.runtimeConfig = config := by
  simp only [changeLists, requireDb, exec_bind, exec_check] at succeeded ⊢
  cases present : admin.hasDatabase with
  | false =>
    rw [present] at succeeded
    cases succeeded
  | true =>
    simp only [present, if_true] at succeeded ⊢
    cases edit with
    | error error => cases succeeded
    | ok change =>
      simp only [exec_loadConfig] at succeeded ⊢
      cases changed : change (workingConfig admin failing server) with
      | error error =>
        rw [changed] at succeeded
        cases succeeded
      | ok config =>
        rw [changed] at succeeded
        exact ⟨config, changed, saveAndActivate_ok succeeded⟩

theorem has_saved (stored : server.database.config = some (savedConfig admin failing config before))
    (running : server.runtimeConfig = config) (notTls : ∀ hosts, item ≠ .tls hosts)
    (notSettings : item ≠ .settings) : Has admin item server.runtimeConfig server := by
  refine has_iff.mpr ⟨⟨_, stored, ?_⟩, Item.same_self _ _⟩
  rw [running, savedConfig]
  cases viewer : admin.viewerMode with
  | false =>
    rcases Item.same_self item config with ⟨rest, sites⟩
    exact ⟨rest, fun _ => sites⟩
  | true =>
    refine ⟨?_, nofun⟩
    cases item with
    | accessList | wafPolicy => exact rfl
    | tls hosts => exact absurd rfl (notTls hosts)
    | site => trivial
    | settings => exact absurd rfl notSettings

theorem has_stored (stored : server.database.config = some server.runtimeConfig) :
    Has admin item server.runtimeConfig server := by
  rcases Item.same_self item server.runtimeConfig with ⟨rest, sites⟩
  exact has_iff.mpr ⟨⟨_, stored, rest, fun _ => sites⟩, ⟨rest, sites⟩⟩

theorem putConfig_ok (succeeded : (exec failing (putConfig admin body) server).1.isOk = true) :
    (exec failing (putConfig admin body) server).2.database.config = some body.withNormalizedTls ∧
      (exec failing (putConfig admin body) server).2.runtimeConfig =
        body.withNormalizedTls := by
  simp only [putConfig, requireDb, exec_bind, exec_check] at succeeded ⊢
  cases viewer : admin.viewerMode with
  | true =>
    rw [viewer] at succeeded
    cases succeeded
  | false =>
    rw [viewer] at succeeded
    cases present : admin.hasDatabase with
    | false =>
      rw [present] at succeeded
      cases succeeded
    | true =>
      rw [present] at succeeded
      exact saveThenActivate_ok succeeded

theorem has_edited {edit : ListEdit}
    (runs : request.run admin = changeLists admin edit)
    (edits : ∀ config, request.edited config = edit >>= fun change => change config)
    (notTls : ∀ config hosts, ¬request.On config (.tls hosts))
    (notSettings : ∀ config, ¬request.On config .settings)
    (succeeded : (exec failing (request.run admin) server).1.isOk = true) :
    (∃ config, request.edited config =
        .ok (exec failing (request.run admin) server).2.runtimeConfig) ∧
      ∀ item, request.On (exec failing (request.run admin) server).2.runtimeConfig item →
        Has admin item (exec failing (request.run admin) server).2.runtimeConfig
          (exec failing (request.run admin) server).2 := by
  rw [runs] at succeeded ⊢
  rcases changeLists_ok succeeded with ⟨config, edited, stored, running⟩
  constructor
  · rw [running]
    exact ⟨_, (edits _).trans edited⟩
  intro item on
  refine has_saved stored running ?_ ?_
  · rintro hosts rfl
    exact notTls _ hosts on
  · rintro rfl
    exact notSettings _ on

theorem PolicyRequest.ended
    (succeeded : (exec failing (request.run admin) server).1.isOk = true) :
    (∃ config, request.edited config =
        .ok (exec failing (request.run admin) server).2.runtimeConfig) ∧
      ∀ item, request.On (exec failing (request.run admin) server).2.runtimeConfig item →
        Has admin item (exec failing (request.run admin) server).2.runtimeConfig
          (exec failing (request.run admin) server).2 := by
  cases request with
  | putConfig body =>
    rcases putConfig_ok succeeded with ⟨stored, running⟩
    constructor
    · exact ⟨server.runtimeConfig, congrArg Except.ok running.symm⟩
    · intro item _
      exact has_stored (stored.trans (congrArg some running.symm))
  | accessListsCreate | accessListsPut | accessListsDelete | wafPoliciesCreate
  | wafPoliciesPut | wafPoliciesDelete =>
    refine has_edited rfl (fun _ => rfl) ?_ ?_ succeeded
    · intro _ _ on
      exact on
    · intro _ on
      exact on

/-- A successful operation has made its change, in both configurations. -/
theorem AdminOperation.ended {result : PUnit}
    (ended : (exec failing (operation.run admin) server).1 = .ok result) :
    (∃ config, operation.edited admin config =
        .ok (exec failing (operation.run admin) server).2.runtimeConfig) ∧
      ∀ item, operation.On (exec failing (operation.run admin) server).2.runtimeConfig item →
        Has admin item (exec failing (operation.run admin) server).2.runtimeConfig
          (exec failing (operation.run admin) server).2 := by
  have succeeded : (exec failing (operation.run admin) server).1.isOk = true := by
    rw [ended]
    rfl
  cases operation with
  | policy request =>
    exact PolicyRequest.ended succeeded
  | certificatesUpload id body =>
    have uploaded := @uploadEnd admin failing id body server
    clear ended
    simp only [run, exec_bind] at succeeded ⊢
    generalize exec failing (Api.certificatesUpload admin id body) server = ran
      at uploaded succeeded ⊢
    rcases ran with ⟨outcome, final⟩
    cases outcome with
    | error error => cases succeeded
    | ok id =>
      cases uploaded with
      | saved config _ _ synced =>
        exact ⟨⟨server.runtimeConfig, congrArg Except.ok synced.symm⟩,
          fun item _ => has_stored rfl⟩

end

/-! ## Runs of the pool -/

def AdminOperation.program (admin : Admin) (operation : AdminOperation) :
    Routine Call Server (Except ApiError PUnit) :=
  (operation.run admin).run

abbrev AdminLog := List (Pool.Entry Server (Except ApiError PUnit) AdminOperation)

/-- The change of every operation that has succeeded is in the stored and in the
running configuration, unless an operation on the same item has started since. -/
def Retained (admin : Admin) (server : Server) (log : AdminLog) : Prop :=
  ∀ later earlier operation final,
    log = later ++ .finished operation (.ok ⟨⟩) final :: earlier →
    (∃ config, operation.edited admin config = .ok final.runtimeConfig) ∧
      ∀ item, operation.On final.runtimeConfig item →
        Has admin item final.runtimeConfig server ∨
          ∃ other, .started other ∈ later ∧ other.On final.runtimeConfig item

section

variable {admin : Admin} {failing : Call → Bool} {server visited : Server} {log : AdminLog}

theorem retained_visits (readable : Readable admin failing)
    (retained : Retained admin server log)
    (member : visited ∈ (operation.program admin).visits failing server) :
    Retained admin visited (.started operation :: log) := by
  intro later earlier done final split
  cases later with
  | nil => cases split
  | cons first rest =>
    cases split
    rcases retained rest earlier done final rfl with ⟨made, kept⟩
    refine ⟨made, ?_⟩
    intro item on
    rcases kept item on with has | ⟨other, started, overwrites⟩
    · by_cases same : operation.On final.runtimeConfig item
      · exact .inr ⟨operation, mem_cons_self, same⟩
      · exact .inl (AdminOperation.has_visits readable has same visited member)
    · exact .inr ⟨other, mem_cons_of_mem _ started, overwrites⟩

theorem retained_exec (readable : Readable admin failing)
    (retained : Retained admin server log) :
    Retained admin ((operation.program admin).exec failing server).2
      (.finished operation ((operation.program admin).exec failing server).1
        ((operation.program admin).exec failing server).2 :: .started operation :: log) := by
  intro later earlier done final split
  cases later with
  | nil =>
    rw [nil_append] at split
    injection split with entry _
    injection entry with sameOperation succeeded sameFinal
    subst sameOperation sameFinal
    rcases AdminOperation.ended succeeded with ⟨made, has⟩
    exact ⟨made, fun item on => .inl (has item on)⟩
  | cons first rest =>
    rw [cons_append] at split
    injection split with _ sameRest
    rcases retained_visits readable retained (Routine.mem_visits_exec failing _ server)
      rest earlier done final sameRest with ⟨made, kept⟩
    refine ⟨made, ?_⟩
    intro item on
    rcases kept item on with has | ⟨other, started, overwrites⟩
    · exact .inl has
    · exact .inr ⟨other, mem_cons_of_mem _ started, overwrites⟩

/-- Operations that never overlap keep each other's changes. -/
theorem AdminOperation.changes_retained (admin : Admin) (server : Server)
    (moves : List (Pool.Move Call AdminOperation))
    (serial : Run.Every (Pool.step (program admin))
      (Pool.Serial (Readable admin)) { state := server } moves) :
    Run.Every (Pool.step (program admin))
      (fun pool move =>
        Retained admin (pool.step (program admin) move).state
          (pool.step (program admin) move).log)
      { state := server } moves := by
  refine Pool.good_of_serial ?_ ?_ rfl ?_ serial
  · intro operation failing start earlier readable retained visited member
    exact retained_visits readable retained member
  · intro operation failing start earlier readable retained
    exact retained_exec readable retained
  · intro later earlier done final split
    simp at split

end

/-! Two access lists are created on a server without any. -/

def poolAdmin : Admin where
  platform := default
  parsers := .byHeader

def creation (id name : Text) : Pool.Move Call AdminOperation :=
  .start (.policy (.accessListsCreate id { name })) fun _ => false

theorem AdminOperation.creations_retained :
    let moves := creation "1" "Office" :: replicate 10 (.step 0) ++
      creation "2" "Home" :: replicate 10 (.step 0)
    let final := moves.foldl (Pool.step (program poolAdmin)) { state := {} }
    final.state.runtimeConfig.accessLists.map AccessList.id = ["1", "2"] ∧
      Run.Every (Pool.step (program poolAdmin))
        (fun pool move =>
          Retained poolAdmin (pool.step (program poolAdmin) move).state
            (pool.step (program poolAdmin) move).log)
        { state := {} } moves := by
  intro moves final
  refine ⟨by decide, ?_⟩
  apply changes_retained
  simp only [moves, replicate, cons_append, nil_append, Run.Every, Pool.Serial,
    true_and, and_true]
  exact ⟨fun _ => rfl, rfl, fun _ => rfl⟩

/-- Both read the configuration before either has written it: the first list is lost,
though the other request was for another one. -/
theorem AdminOperation.creation_lost :
    let moves := creation "1" "Office" :: creation "2" "Home" :: .step 0 :: .step 1 ::
      replicate 18 (.step 0)
    let final := moves.foldl (Pool.step (program poolAdmin)) { state := {} }
    final.state.runtimeConfig.accessLists.map AccessList.id = ["2"] ∧
      ¬Retained poolAdmin final.state final.log := by
  intro moves final
  refine ⟨by decide, ?_⟩
  intro retained
  rcases (retained [_] _ _ _ rfl).2 (.accessList "1".toList) rfl with has | ⟨other, started, -⟩
  · have lost := has.running.rest
    rw [Item.SameRest] at lost
    exact absurd lost (by decide)
  · cases mem_singleton.mp started

end PertiskProxy.Api
