import PertiskProxy.Api.Atomicity

/-! Sites refer to access lists and firewall policies by id, and keep a copy of the policy
they fall back to when the id names none. -/

namespace PertiskProxy.Api

open GeoIp Procedure Proxy ProxyConfig Security Reference Fallible List

variable {body : AccessListBody} {after config : Config} {id : Text}

theorem resolveSiteGeoip_eq (config : Config) (site : Site) : config.resolveSiteGeoip site =
      resolve AccessList.id (fun list => list.geoip.normalized) config.accessLists
        site.accessListId site.geoip.normalized := by
  unfold Config.resolveSiteGeoip resolve named
  cases (Text.trimmedNonEmpty site.accessListId).bind fun id =>
    config.accessLists.find? fun list => list.id == id <;> rfl

theorem resolveSiteSecurity_eq (config : Config) (site : Site) : config.resolveSiteSecurity site =
      resolve NamedWafPolicy.id (fun policy => policy.security.normalized)
        config.wafPolicies site.wafPolicyId site.security.normalized := by
  unfold Config.resolveSiteSecurity resolve named
  cases (Text.trimmedNonEmpty site.wafPolicyId).bind fun id =>
    config.wafPolicies.find? fun policy => policy.id == id <;> rfl

inductive PolicyRequest where
  | putConfig (body : Config)
  | accessListsCreate (id : Text) (body : AccessListBody)
  | accessListsPut (id : Text) (body : AccessListBody)
  | accessListsDelete (id : Text)
  | wafPoliciesCreate (id : Text) (body : WafPolicyBody)
  | wafPoliciesPut (id : Text) (body : WafPolicyBody)
  | wafPoliciesDelete (id : Text)

namespace PolicyRequest

def run (admin : Admin) : PolicyRequest → Action ApiError PUnit
  | .putConfig body => Api.putConfig admin body
  | .accessListsCreate id body => Api.accessListsCreate admin id body
  | .accessListsPut id body => Api.accessListsPut admin id body
  | .accessListsDelete id => Api.accessListsDelete admin id
  | .wafPoliciesCreate id body => Api.wafPoliciesCreate admin id body
  | .wafPoliciesPut id body => Api.wafPoliciesPut admin id body
  | .wafPoliciesDelete id => Api.wafPoliciesDelete admin id

def edited (config : Config) : PolicyRequest → Except ApiError Config
  | .putConfig body => .ok body.withNormalizedTls
  | .accessListsCreate id body => createAccessList id body >>= fun edit => edit config
  | .accessListsPut id body => putAccessList id body >>= fun edit => edit config
  | .accessListsDelete id => deleteAccessList id >>= fun edit => edit config
  | .wafPoliciesCreate id body => createWafPolicy id body >>= fun edit => edit config
  | .wafPoliciesPut id body => putWafPolicy id body >>= fun edit => edit config
  | .wafPoliciesDelete id => deleteWafPolicy id >>= fun edit => edit config

end PolicyRequest

section

variable {admin : Admin} {failing : Call → Bool}

theorem runtimeConfig_saveThenActivate {ε : Type} {saveFailed : Unit → ε}
    {activateFailed : ActivateError → ε} (config : Config) (server : Server) :
    (exec failing (saveThenActivate admin saveFailed activateFailed config)
        server).2.runtimeConfig = server.runtimeConfig ∨
      (exec failing (saveThenActivate admin saveFailed activateFailed config)
        server).2.runtimeConfig = config := by
  have ended := @commitEnd admin failing ε saveFailed activateFailed config server
  generalize exec failing (saveThenActivate admin saveFailed activateFailed config)
    server = final at ended ⊢
  rcases final with ⟨outcome, after⟩
  generalize outcome.isOk = succeeded at ended
  simp only at ended ⊢
  cases ended with
  | unsaved | unapplied | unloaded => exact .inl rfl
  | activated => exact .inr rfl

def Settles (failing : Call → Bool) (action : Action ApiError PUnit) (config : Config)
    (server : Server) : Prop :=
  (exec failing action server).2.runtimeConfig = server.runtimeConfig ∨
    (exec failing action server).2.runtimeConfig = config

theorem settles_saveAndActivate (config : Config) (server : Server) :
    Settles failing (saveAndActivate admin config) config server := by
  rw [saveAndActivate]
  cases admin.viewerMode with
  | false => exact runtimeConfig_saveThenActivate config server
  | true =>
    simp only [Settles, if_true, exec_bind, exec_always,
      exec_read, exec_adapt, exec_saveProxyConfig]
    cases failing .saveConfig with
    | true => exact .inl rfl
    | false =>
      simp only [Bool.false_eq_true, if_false, Except.mapError, exec_applyConfig]
      cases configToRouteTable admin.platform config with
      | error error => exact .inl rfl
      | ok table => exact .inr rfl

theorem runtimeConfig_changeLists (edit : ListEdit) (server : Server) :
    (exec failing (changeLists admin edit) server).2.runtimeConfig = server.runtimeConfig ∨
      (edit >>= fun change => change (workingConfig admin failing server)) =
        .ok (exec failing (changeLists admin edit) server).2.runtimeConfig := by
  simp only [changeLists, requireDb, exec_bind, exec_check]
  cases admin.hasDatabase with
  | false => exact .inl rfl
  | true =>
    cases edit with
    | error error => exact .inl rfl
    | ok change =>
      simp only [if_true, exec_loadConfig]
      cases changed : change (workingConfig admin failing server) with
      | error error => exact .inl rfl
      | ok config =>
        rcases @settles_saveAndActivate admin failing config server with same | settled
        · exact .inl same
        · right
          simp only [settled]
          exact changed

theorem PolicyRequest.runtimeConfig_run (request : PolicyRequest) (server : Server) :
    (exec failing (request.run admin) server).2.runtimeConfig = server.runtimeConfig ∨
      request.edited (workingConfig admin failing server) =
        .ok (exec failing (request.run admin) server).2.runtimeConfig := by
  cases request with
  | putConfig body =>
    simp only [run, Api.putConfig, requireDb, exec_bind, exec_check]
    cases admin.viewerMode with
    | true => exact .inl rfl
    | false =>
      cases admin.hasDatabase with
      | false => exact .inl rfl
      | true =>
        rcases @runtimeConfig_saveThenActivate admin failing ApiError
          (fun _ => { status := 500 }) (fun _ => { status := 400 })
          body.withNormalizedTls server with same | settled
        · exact .inl same
        · exact .inr (congrArg Except.ok settled.symm)
  | accessListsCreate | accessListsPut | accessListsDelete | wafPoliciesCreate | wafPoliciesPut
  | wafPoliciesDelete => exact runtimeConfig_changeLists _ server

end

/-! ## Copies in step -/

/-- Every site keeps a copy of what is in force for it. -/
def InStep (config : Config) : Prop :=
  ∀ site ∈ config.sites, config.resolveSiteGeoip site = site.geoip.normalized ∧
    config.resolveSiteSecurity site = site.security.normalized

def SameEffect (before after : Config) (site changed : Site) : Prop :=
  after.resolveSiteGeoip changed = before.resolveSiteGeoip site ∧
    after.resolveSiteSecurity changed = before.resolveSiteSecurity site

def PointsTo (id : Text) (reference : Option Text) : Prop :=
  Text.trimmedNonEmpty reference = some id ∨ reference = some id

/-- A deletion leaves what is in force for the sites that referred to the policy. -/
def PolicyRequest.Undisturbed (before after : Config) : PolicyRequest → Prop
  | .accessListsDelete id =>
    List.Forall₂ (fun site changed =>
      PointsTo id site.accessListId → SameEffect before after site changed)
      before.sites after.sites
  | .wafPoliciesDelete id =>
    List.Forall₂ (fun site changed =>
      PointsTo id site.wafPolicyId → SameEffect before after site changed)
      before.sites after.sites
  | .putConfig _ | .accessListsCreate _ _ | .accessListsPut _ _ | .wafPoliciesCreate _ _
  | .wafPoliciesPut _ _ => True

/-- A request that keeps copies in step: a new configuration has them in step, a new
id is not referred to yet, and an id that is updated is referred to exactly. -/
def PolicyRequest.Careful (config : Config) : PolicyRequest → Prop
  | .putConfig body => InStep body
  | .accessListsCreate id _ =>
    ∀ site ∈ config.sites, Text.trimmedNonEmpty site.accessListId ≠ some id
  | .accessListsPut id _ => ∀ site ∈ config.sites, Exact id site.accessListId
  | .accessListsDelete _ => True
  | .wafPoliciesCreate id _ =>
    ∀ site ∈ config.sites, Text.trimmedNonEmpty site.wafPolicyId ≠ some id
  | .wafPoliciesPut id _ => ∀ site ∈ config.sites, Exact id site.wafPolicyId
  | .wafPoliciesDelete _ => True

theorem inStep_createAccessList
    (inStep : InStep config)
    (unused : ∀ site ∈ config.sites, Text.trimmedNonEmpty site.accessListId ≠ some id)
    (edited : (createAccessList id body >>= fun edit => edit config) = .ok after) :
    InStep after := by
  unfold createAccessList at edited
  rcases bind_eq_ok.mp edited with ⟨edit, made, changed⟩
  rcases bind_eq_ok.mp made with ⟨name, -, equal⟩
  cases equal
  cases changed
  intro site member
  refine ⟨?_, (inStep site member).2⟩
  rw [← (inStep site member).1, resolveSiteGeoip_eq, resolveSiteGeoip_eq]
  exact resolve_append (unused site member)

theorem inStep_putAccessList
    (inStep : InStep config) (exact : ∀ site ∈ config.sites, Exact id site.accessListId)
    (edited : (putAccessList id body >>= fun edit => edit config) = .ok after) :
    InStep after := by
  unfold putAccessList at edited
  rcases bind_eq_ok.mp edited with ⟨edit, made, changed⟩
  rcases bind_eq_ok.mp made with ⟨name, -, equal⟩
  cases equal
  simp only at changed
  split at changed
  · cases changed
  rename_i index located
  cases changed
  intro site member
  rcases mem_map.mp member with ⟨original, inside, rfl⟩
  have copied := (inStep original inside).1
  rw [resolveSiteGeoip_eq] at copied ⊢
  have updated := @resolve_updated _ _ AccessList.id
    (fun list => list.geoip.normalized) config.accessLists original.accessListId
    original.geoip.normalized id
    (fun list => { list with
      name, description := Text.trimmedNonEmpty body.description
      geoip := body.geoip.normalized })
    (fun _ => rfl) index located body.geoip.normalized.normalized (fun _ => rfl)
    (exact original inside) copied
  by_cases refers : (original.accessListId == some id) = true
  · simp only [if_pos refers] at updated ⊢
    exact ⟨updated, (inStep original inside).2⟩
  · simp only [if_neg refers] at updated ⊢
    exact ⟨updated, (inStep original inside).2⟩

theorem inStep_of_copied {update : Site → Site} (inStep : InStep config)
    (copied : ∀ site ∈ config.sites,
      (update site).geoip = site.geoip ∧ (update site).security = site.security ∧
        after.resolveSiteGeoip (update site) = site.geoip.normalized ∧
        after.resolveSiteSecurity (update site) = site.security.normalized)
    (sites : after.sites = config.sites.map update) :
    InStep after ∧ Forall₂ (SameEffect config after) config.sites after.sites := by
  constructor
  · intro site member
    rw [sites] at member
    rcases mem_map.mp member with ⟨original, inside, rfl⟩
    rcases copied original inside with ⟨geoip, security, sameGeoip, sameSecurity⟩
    rw [geoip, security]
    exact ⟨sameGeoip, sameSecurity⟩
  · rw [sites, forall₂_map_right_iff, forall₂_same]
    intro site member
    rcases copied site member with ⟨-, -, sameGeoip, sameSecurity⟩
    exact ⟨sameGeoip.trans (inStep site member).1.symm,
      sameSecurity.trans (inStep site member).2.symm⟩

theorem inStep_deleteAccessList (inStep : InStep config)
    (edited : (deleteAccessList id >>= fun edit => edit config) = .ok after) :
    InStep after ∧ Forall₂ (SameEffect config after) config.sites after.sites := by
  unfold deleteAccessList at edited
  rcases bind_eq_ok.mp edited with ⟨edit, made, changed⟩
  cases made
  simp only at changed
  split at changed
  · cases changed
  cases changed
  refine inStep_of_copied inStep ?_ rfl
  intro site member
  have copied := inStep site member
  rw [resolveSiteGeoip_eq] at copied
  have removed := resolve_removed copied.1 id
  by_cases refers : (site.accessListId == some id) = true
  · simp only [if_pos refers, resolveSiteGeoip_eq] at removed ⊢
    exact ⟨trivial, trivial, removed, copied.2⟩
  · simp only [if_neg refers, resolveSiteGeoip_eq] at removed ⊢
    exact ⟨trivial, trivial, removed, copied.2⟩

theorem inStep_createWafPolicy {body : WafPolicyBody}
    (inStep : InStep config)
    (unused : ∀ site ∈ config.sites, Text.trimmedNonEmpty site.wafPolicyId ≠ some id)
    (edited : (createWafPolicy id body >>= fun edit => edit config) = .ok after) :
    InStep after := by
  unfold createWafPolicy at edited
  rcases bind_eq_ok.mp edited with ⟨edit, made, changed⟩
  rcases bind_eq_ok.mp made with ⟨name, -, equal⟩
  cases equal
  cases changed
  intro site member
  refine ⟨(inStep site member).1, ?_⟩
  rw [← (inStep site member).2, resolveSiteSecurity_eq, resolveSiteSecurity_eq]
  exact resolve_append (unused site member)

theorem inStep_putWafPolicy {body : WafPolicyBody}
    (inStep : InStep config) (exact : ∀ site ∈ config.sites, Exact id site.wafPolicyId)
    (edited : (putWafPolicy id body >>= fun edit => edit config) = .ok after) : InStep after := by
  unfold putWafPolicy at edited
  rcases bind_eq_ok.mp edited with ⟨edit, made, changed⟩
  rcases bind_eq_ok.mp made with ⟨name, -, equal⟩
  cases equal
  simp only at changed
  split at changed
  · cases changed
  rename_i index located
  cases changed
  intro site member
  rcases mem_map.mp member with ⟨original, inside, rfl⟩
  have copied := (inStep original inside).2
  rw [resolveSiteSecurity_eq] at copied ⊢
  have updated := @resolve_updated _ _ NamedWafPolicy.id
    (fun policy => policy.security.normalized) config.wafPolicies original.wafPolicyId
    original.security.normalized id
    (fun policy => { policy with
      name, description := Text.trimmedNonEmpty body.description
      security := body.security.normalized })
    (fun _ => rfl) index located body.security.normalized.normalized (fun _ => rfl)
    (exact original inside) copied
  by_cases refers : (original.wafPolicyId == some id) = true
  · simp only [if_pos refers] at updated ⊢
    exact ⟨(inStep original inside).1, updated⟩
  · simp only [if_neg refers] at updated ⊢
    exact ⟨(inStep original inside).1, updated⟩

theorem inStep_deleteWafPolicy (inStep : InStep config)
    (edited : (deleteWafPolicy id >>= fun edit => edit config) = .ok after) :
    InStep after ∧ Forall₂ (SameEffect config after) config.sites after.sites := by
  unfold deleteWafPolicy at edited
  rcases bind_eq_ok.mp edited with ⟨edit, made, changed⟩
  cases made
  simp only at changed
  split at changed
  · cases changed
  cases changed
  refine inStep_of_copied inStep ?_ rfl
  intro site member
  have copied := inStep site member
  rw [resolveSiteSecurity_eq] at copied
  have removed := resolve_removed copied.2 id
  by_cases refers : (site.wafPolicyId == some id) = true
  · simp only [if_pos refers, resolveSiteSecurity_eq] at removed ⊢
    exact ⟨trivial, trivial, copied.1, removed⟩
  · simp only [if_neg refers, resolveSiteSecurity_eq] at removed ⊢
    exact ⟨trivial, trivial, copied.1, removed⟩

/-! ## Runs -/

theorem sameEffect_self (config : Config) (site : Site) : SameEffect config config site site :=
  ⟨rfl, rfl⟩

theorem PolicyRequest.undisturbed_self (request : PolicyRequest) (config : Config) :
    request.Undisturbed config config := by
  cases request with
  | accessListsDelete id | wafPoliciesDelete id =>
    exact forall₂_same.mpr fun site _ _ => sameEffect_self config site
  | putConfig | accessListsCreate | accessListsPut | wafPoliciesCreate | wafPoliciesPut => trivial

theorem PolicyRequest.inStep_edited {request : PolicyRequest}
    (inStep : InStep config) (careful : request.Careful config)
    (edited : request.edited config = .ok after) :
    InStep after ∧ request.Undisturbed config after := by
  cases request with
  | putConfig body =>
    cases edited
    exact ⟨careful, trivial⟩
  | accessListsCreate id body => exact ⟨inStep_createAccessList inStep careful edited, trivial⟩
  | accessListsPut id body => exact ⟨inStep_putAccessList inStep careful edited, trivial⟩
  | wafPoliciesCreate id body => exact ⟨inStep_createWafPolicy inStep careful edited, trivial⟩
  | wafPoliciesPut id body => exact ⟨inStep_putWafPolicy inStep careful edited, trivial⟩
  | accessListsDelete id =>
    rcases inStep_deleteAccessList inStep edited with ⟨kept, same⟩
    refine ⟨kept, Forall₂.imp ?_ same⟩
    intro site changed effect _
    exact effect
  | wafPoliciesDelete id =>
    rcases inStep_deleteWafPolicy inStep edited with ⟨kept, same⟩
    refine ⟨kept, Forall₂.imp ?_ same⟩
    intro site changed effect _
    exact effect

structure PolicyStep where
  failing : Call → Bool := fun _ => false
  request : PolicyRequest

namespace PolicyStep

variable (admin : Admin)

def perform (server : Server) (step : PolicyStep) : Server :=
  (exec step.failing (step.request.run admin) server).2

/-- The request works on the running configuration, as it always does outside ingress
mode, and is careful with it. -/
def Careful (server : Server) (step : PolicyStep) : Prop :=
  workingConfig admin step.failing server = server.runtimeConfig ∧
    step.request.Careful server.runtimeConfig

def Undisturbed (server : Server) (step : PolicyStep) : Prop :=
  step.request.Undisturbed server.runtimeConfig (perform admin server step).runtimeConfig

/-- From copies in step, no deletion in a run of careful requests changes what is in
force for a site that referred to the policy. -/
theorem deletions_undisturbed (server : Server) (steps : List PolicyStep)
    (start : InStep server.runtimeConfig)
    (careful : Run.Every (perform admin) (Careful admin) server steps) :
    Run.Every (perform admin) (Undisturbed admin) server steps := by
  have stepped (server : Server) (step : PolicyStep) (inStep : InStep server.runtimeConfig)
      (careful : Careful admin server step) :
      InStep (perform admin server step).runtimeConfig ∧ Undisturbed admin server step := by
    rcases @PolicyRequest.runtimeConfig_run admin step.failing step.request server with
      same | edited
    · have kept : (perform admin server step).runtimeConfig = server.runtimeConfig := same
      rw [Undisturbed, kept]
      exact ⟨inStep, step.request.undisturbed_self _⟩
    · rw [careful.1] at edited
      exact PolicyRequest.inStep_edited inStep careful.2 edited
  exact Run.Every.of_invariant (fun server => InStep server.runtimeConfig)
    (fun server step inStep careful => (stepped server step inStep careful).1)
    (fun server step inStep careful => (stepped server step inStep careful).2) start careful

/-! A site that only lets two countries in, by a list. -/

def listAdmin : Admin where
  platform := default
  parsers := .byHeader

def allowed (countries : List Text) : GeoIpPolicy where
  enabled := true
  allowCountries := countries

def listConfig (reference : Text) (copy : GeoIpPolicy) : Config where
  backends := [{ name := "web", upstreams := [{ addr := "10.0.0.1:80" }] }]
  sites := [{ host := "a.test", backend := "web", accessListId := some reference, geoip := copy }]
  accessLists := [{ id := "office", name := "Office", geoip := allowed ["DE", "FR"] }]

theorem copied_list_deleted :
    let server : Server := { runtimeConfig := listConfig "office" (allowed ["DE", "FR"]) }
    let steps : List PolicyStep := [{ request := .accessListsDelete "office" }]
    (exec (fun _ => false) (accessListsDelete listAdmin "office") server).1.isOk = true ∧
      Run.Every (perform listAdmin) (Undisturbed listAdmin) server steps := by
  refine ⟨by decide, ?_⟩
  apply deletions_undisturbed
  · intro site member
    rw [mem_singleton.mp member]
    decide
  · exact ⟨⟨rfl, trivial⟩, trivial⟩

/-- Without the list the site is open to all, when its copy was never made; and when
the reference has a blank, it is open to those the list no longer let in. -/
theorem stale_copy_in_force :
    let uncopied : List PolicyStep :=
      [{ request := .putConfig (listConfig "office" {}) },
        { request := .accessListsDelete "office" }]
    let blank : List PolicyStep :=
      [{ request := .putConfig (listConfig "office " (allowed ["DE", "FR"])) },
        { request := .accessListsPut "office" { name := "Office", geoip := allowed ["DE"] } },
        { request := .accessListsDelete "office" }]
    ¬Run.Every (perform listAdmin) (Undisturbed listAdmin) {} uncopied ∧
      ¬Run.Every (perform listAdmin) (Undisturbed listAdmin) {} blank := by
  intro uncopied blank
  constructor
  · intro every
    have deleted := forall₂_iff_get.mp every.2.1
    have same := deleted.2 0 (by decide) (by decide) (.inl (by decide))
    exact absurd same.1 (by decide)
  · intro every
    have deleted := forall₂_iff_get.mp every.2.2.1
    have same := deleted.2 0 (by decide) (by decide) (.inl (by decide))
    exact absurd same.1 (by decide)

end PolicyStep

/-! Restoring a backup with `merge` adds the sites, backends, and TLS entries that the
configuration does not have yet (`api/backup.rs`). -/

section

variable (platform : Platform)

def siteTargets (config : Config) (site : Site) : Except ApplyError (List Router.Backend) := do
  let target ← defaultTarget platform config site
  (siteEntries site).mapM fun entry =>
    resolveRouteTarget platform entry target (siteHost platform site)

variable {platform}

def namedBackend (config : Config) (name : Text) : Option Backend :=
  (HashMap.ofList (config.backends.map fun backend => (backend.name, backend))).get? name

theorem namedBackend_eq (config : Config) (name : Text) : namedBackend config name =
      (config.backends.filter fun backend => backend.name = name).getLast? := by
  rw [namedBackend, HashMap.get?_ofList_last]
  exact Option.map_id'

theorem namedBackend_eq_none :
    namedBackend config name = none ↔ name ∉ config.backends.map Backend.name := by
  simp [namedBackend_eq]

theorem siteTargets_congr
    (same : namedBackend first site.backend = namedBackend second site.backend) :
    siteTargets platform first site = siteTargets platform second site := by
  rw [namedBackend, namedBackend] at same
  simp [siteTargets, defaultTarget, same]

theorem siteTargets_unknownBackend_iff (config : Config) (site : Site) :
    siteTargets platform config site =
        .error (.unknownBackend (siteHost platform site) site.backend) ↔
      namedBackend config site.backend = none := by
  rw [namedBackend, ← defaultTarget_unknownBackend_iff platform, siteTargets]
  cases defaultTarget platform config site with
  | error error => simp [bind, Except.bind]
  | ok target =>
    refine iff_of_false ?_ (by simp)
    change (siteEntries site).mapM _ ≠ _
    induction siteEntries site with
    | nil => simp [pure, Except.pure]
    | cons entry rest induction =>
      rw [mapM_cons]
      cases resolved : resolveRouteTarget platform entry target (siteHost platform site) with
      | error error =>
        rintro unknown
        cases unknown
        exact resolveRouteTarget_ne_unknownBackend platform _ _ _ _ _ resolved
      | ok found =>
        intro unknown
        apply induction
        cases later : rest.mapM fun entry =>
            resolveRouteTarget platform entry target (siteHost platform site) with
        | error error =>
          rw [later] at unknown
          exact unknown
        | ok targets =>
          rw [later] at unknown
          cases unknown

end

structure SameService (platform : Platform) (before after : Config) (site : Site) : Prop where
  targets : siteTargets platform after site = siteTargets platform before site
  geoip : after.resolveSiteGeoip site = before.resolveSiteGeoip site
  security : after.resolveSiteSecurity site = before.resolveSiteSecurity site

def takenOver (current backup : Config) : List Site :=
  backup.sites.filter fun site => !(current.sites.map Site.host).contains site.host

/-- The merged configuration has all sites, each as it was. -/
structure Faithful (platform : Platform) (current backup : Config) : Prop where
  sites : (mergeProxyConfig current backup).sites = current.sites ++ takenOver current backup
  kept : ∀ site ∈ current.sites,
    SameService platform current (mergeProxyConfig current backup) site
  taken : ∀ site ∈ takenOver current backup,
    SameService platform backup (mergeProxyConfig current backup) site

/-- The names of a site mean the same in a configuration as in the backup: its
backend, if the configuration has one of that name, has the same upstreams, and its
ids name the same policies, where an id that names none stands for the site's own. -/
structure SameMeaning (platform : Platform) (current backup : Config) (site : Site) : Prop where
  backend : site.backend ∈ current.backends.map Backend.name →
    siteTargets platform current site = siteTargets platform backup site
  accessList : ∀ id, Text.trimmedNonEmpty site.accessListId = some id →
    ((named AccessList.id current.accessLists id).map
        fun list => list.geoip.normalized).getD site.geoip.normalized =
      ((named AccessList.id backup.accessLists id).map
        fun list => list.geoip.normalized).getD site.geoip.normalized
  wafPolicy : ∀ id, Text.trimmedNonEmpty site.wafPolicyId = some id →
    ((named NamedWafPolicy.id current.wafPolicies id).map
        fun policy => policy.security.normalized).getD site.security.normalized =
      ((named NamedWafPolicy.id backup.wafPolicies id).map
        fun policy => policy.security.normalized).getD site.security.normalized

structure Compatible (platform : Platform) (current backup : Config) : Prop where
  known : ∀ site ∈ current.sites, site.backend ∈ backup.backends.map Backend.name →
    site.backend ∈ current.backends.map Backend.name
  taken : ∀ site ∈ takenOver current backup, SameMeaning platform current backup site

section

variable {platform : Platform} {current backup : Config} {site : Site}

theorem namedBackend_merged_of_mem (present : name ∈ current.backends.map Backend.name) :
    namedBackend (mergeProxyConfig current backup) name = namedBackend current name := by
  have hidden : ((backup.backends.filter fun backend =>
      !(current.backends.map Backend.name).contains backend.name).filter fun backend =>
        backend.name = name) = [] := by
    rw [filter_filter, filter_eq_nil_iff]
    intro backend _ both
    rw [Bool.and_eq_true, decide_eq_true_iff, Bool.not_eq_true'] at both
    rw [both.1, contains_iff_mem.mpr present] at both
    exact Bool.noConfusion both.2
  rw [namedBackend_eq, namedBackend_eq]
  simp only [mergeProxyConfig, filter_append]
  rw [hidden, append_nil]

theorem namedBackend_merged_of_notMem {name : Text}
    (absent : name ∉ current.backends.map Backend.name) :
    namedBackend (mergeProxyConfig current backup) name = namedBackend backup name := by
  have none : (current.backends.filter fun backend => backend.name = name) = [] := by
    rw [filter_eq_nil_iff]
    intro backend member equal
    exact absent (mem_map.mpr ⟨backend, member, of_decide_eq_true equal⟩)
  have shown : ((backup.backends.filter fun backend =>
      !(current.backends.map Backend.name).contains backend.name).filter fun backend =>
        backend.name = name) = backup.backends.filter fun backend => backend.name = name := by
    rw [filter_filter]
    apply filter_congr
    intro backend _
    by_cases equal : backend.name = name
    · simpa [equal] using absent
    · simp [equal]
  rw [namedBackend_eq, namedBackend_eq]
  simp only [mergeProxyConfig, filter_append]
  rw [none, nil_append, shown]

theorem sameService_kept_iff :
    SameService platform current (mergeProxyConfig current backup) site ↔
      (site.backend ∈ backup.backends.map Backend.name →
        site.backend ∈ current.backends.map Backend.name) := by
  by_cases present : site.backend ∈ current.backends.map Backend.name
  · refine iff_of_true ⟨?_, rfl, rfl⟩ fun _ => present
    exact siteTargets_congr (namedBackend_merged_of_mem present)
  have unknown : namedBackend current site.backend = none := namedBackend_eq_none.mpr present
  have merged := @namedBackend_merged_of_notMem current backup _ present
  constructor
  · intro same shared
    have targets := same.targets
    rw [(siteTargets_unknownBackend_iff current site).mpr unknown,
      siteTargets_unknownBackend_iff, merged] at targets
    exact absurd shared (namedBackend_eq_none.mp targets)
  · intro known
    have alsoUnknown : namedBackend backup site.backend = none :=
      namedBackend_eq_none.mpr fun shared => present (known shared)
    exact ⟨siteTargets_congr (merged.trans (alsoUnknown.trans unknown.symm)), rfl, rfl⟩

theorem sameService_taken_iff :
    SameService platform backup (mergeProxyConfig current backup) site ↔
      SameMeaning platform current backup site := by
  have geoip : (mergeProxyConfig current backup).resolveSiteGeoip site =
      current.resolveSiteGeoip site := rfl
  have security : (mergeProxyConfig current backup).resolveSiteSecurity site =
      current.resolveSiteSecurity site := rfl
  have targets : siteTargets platform (mergeProxyConfig current backup) site =
      siteTargets platform backup site ↔
        (site.backend ∈ current.backends.map Backend.name →
          siteTargets platform current site = siteTargets platform backup site) := by
    by_cases present : site.backend ∈ current.backends.map Backend.name
    · rw [siteTargets_congr (namedBackend_merged_of_mem present)]
      exact ⟨fun equal _ => equal, fun equal => equal present⟩
    · exact iff_of_true (siteTargets_congr (namedBackend_merged_of_notMem present))
        fun named => absurd named present
  constructor
  · intro same
    refine ⟨targets.mp same.targets, ?_, ?_⟩
    · have equal := geoip.symm.trans same.geoip
      rw [resolveSiteGeoip_eq, resolveSiteGeoip_eq] at equal
      exact resolve_eq_iff.mp equal
    · have equal := security.symm.trans same.security
      rw [resolveSiteSecurity_eq, resolveSiteSecurity_eq] at equal
      exact resolve_eq_iff.mp equal
  intro same
  refine ⟨targets.mpr same.backend, geoip.trans ?_, security.trans ?_⟩
  · rw [resolveSiteGeoip_eq, resolveSiteGeoip_eq]
    exact resolve_eq_iff.mpr same.accessList
  · rw [resolveSiteSecurity_eq, resolveSiteSecurity_eq]
    exact resolve_eq_iff.mpr same.wafPolicy

end

/-- When a merge leaves every site what it had. -/
theorem merge_faithful_iff (platform : Platform) (current backup : Config) :
    Faithful platform current backup ↔ Compatible platform current backup := by
  constructor
  · intro faithful
    refine ⟨?_, ?_⟩
    · intro site member
      exact sameService_kept_iff.mp (faithful.kept site member)
    · intro site member
      exact sameService_taken_iff.mp (faithful.taken site member)
  intro compatible
  refine ⟨rfl, ?_, ?_⟩
  · intro site member
    exact sameService_kept_iff.mpr (compatible.known site member)
  · intro site member
    exact sameService_taken_iff.mpr (compatible.taken site member)

/-- A site is taken over whose backend has another upstream here, and whose access
list is only in the backup: its requests go elsewhere and are open to all. -/
theorem merged_site_redirected :
    let current : Config :=
      { backends := [{ name := "web", upstreams := [{ addr := "10.0.0.1:80" }] }] }
    let site : Site := { host := "b.test", backend := "web", accessListId := some "office" }
    let backup : Config :=
      { backends := [{ name := "web", upstreams := [{ addr := "10.0.0.2:80" }] }]
        sites := [site]
        accessLists := [{ id := "office", name := "Office",
                          geoip := { enabled := true, allowCountries := ["DE"] } }] }
    siteTargets default (mergeProxyConfig current backup) site ≠ siteTargets default backup site ∧
      (mergeProxyConfig current backup).resolveSiteGeoip site ≠ backup.resolveSiteGeoip site ∧
      ¬Faithful default current backup := by
  intro current site backup
  have elsewhere : siteTargets default (mergeProxyConfig current backup) site ≠
      siteTargets default backup site := by decide
  refine ⟨elsewhere, by decide, ?_⟩
  intro faithful
  exact elsewhere (faithful.taken site (by decide)).targets

end PertiskProxy.Api
