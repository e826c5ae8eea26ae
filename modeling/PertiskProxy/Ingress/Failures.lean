import PertiskProxy.Ingress.Isolation
import PertiskProxy.Ingress.Secrets

/-! After each pass of a run, whether the hosts of the secrets just loaded are found in
the store. -/

namespace PertiskProxy.Ingress

open ProxyConfig Tls

structure Pass (controller : IngressController) where
  answers : Answers
  secrets : SecretHosts
  loads : controller.Loads answers secrets

section

variable {controller : IngressController}

def Pass.run (pass : Pass controller) (live : Live) : Live :=
  controller.reconcile pass.answers pass.secrets live

def EveryPass (Holds : Live → Pass controller → Prop) : Live → List (Pass controller) → Prop
  | _, [] => True
  | live, pass :: rest => Holds live pass ∧ EveryPass Holds (pass.run live) rest

theorem EveryPass.mono (implies : ∀ live pass, Holds live pass → Holds' live pass)
    (every : EveryPass Holds live passes) : EveryPass Holds' live passes := by
  induction passes generalizing live with
  | nil => trivial
  | cons pass rest induction => exact ⟨implies live pass every.1, induction every.2⟩

/-- After a pass, every host of a secret it loaded is found. -/
def FindsLoaded (live : Live) (pass : Pass controller) : Prop :=
  pass.answers.ingresses.isSome = true → ∀ host, LoadsHost controller pass.answers host →
    ((pass.run live).certStore.lookupSni host).isSome = true

/-- The hosts a pass loads are neither blank nor surrounded by blanks, and none
of them has the key of a host that is spelled differently and no longer used. -/
def Distinct (live : Live) (pass : Pass controller) : Prop :=
  ∀ host, LoadsHost controller pass.answers host →
    Text.trim host = host ∧ host ≠ [] ∧
      ∀ old ∈ live.lastIngressTlsHosts, ¬LoadsHost controller pass.answers old →
        normalizeHost (Text.trim old) ≠ normalizeHost host

theorem loadsKey_of_loadsHost (trimmed : Text.trim host = host) (named : host ≠ [])
    (loaded : LoadsHost controller answers host) :
    ∃ cert, LoadsKey controller answers (normalizeHost host) cert := by
  rcases loaded with ⟨entry, member, install, made, inside⟩
  refine ⟨install.2, entry, member, install, made, ?_, rfl⟩
  rw [batchOf, List.mem_filterMap]
  refine ⟨host, inside, ?_⟩
  simp [CertStore.hostKey, trimmed, named]

theorem findsLoaded_of_distinct (live : Live) (pass : Pass controller)
    (distinct : Distinct live pass) : FindsLoaded live pass := by
  intro listed host loaded
  rcases distinct host loaded with ⟨trimmed, named, apart⟩
  have stays : StaysKey controller pass.answers live (normalizeHost host) := by
    refine ⟨?_, .inl (loadsKey_of_loadsHost trimmed named loaded)⟩
    rintro ⟨_, old, member, unused, equal⟩
    exact apart old member unused equal
  have listedKey := (mem_keys_reconcile listed pass.loads).mpr stays
  exact CertStore.hasCertForHost_iff.mpr ⟨_, listedKey, CertStore.covers_self _⟩

/-- In a run whose passes all keep hosts apart, every pass leaves the hosts it
loaded to be found. -/
theorem loaded_hosts_found {live : Live} {passes : List (Pass controller)}
    (distinct : EveryPass Distinct live passes) : EveryPass FindsLoaded live passes :=
  distinct.mono findsLoaded_of_distinct

def Pass.gathered (controller : IngressController) (answers : Answers) : Pass controller where
  answers := answers
  secrets := answers.tlsSecrets controller.config
  loads := List.Perm.refl _

theorem loadsHost_iff : LoadsHost controller answers host ↔
      host ∈ (loadSecrets controller.parsers answers
        (answers.tlsSecrets controller.config) {}).newIngressHosts :=
  (mem_newIngressHosts (List.Perm.refl _) {}).symm

def oneHost (host : Text) : Answers where
  ingresses := some [.withSecret "a" "web" host "s1" host]
  secret := fun _ => some (.withKey "1")

theorem moved_host_found :
    let controller : IngressController := ⟨default, .byHeader, {}⟩
    let passes : List (Pass controller) :=
      [.gathered controller (oneHost "a.example"), .gathered controller (oneHost "b.example")]
    EveryPass Distinct {} passes ∧ EveryPass FindsLoaded {} passes := by
  intro controller passes
  have distinct : EveryPass Distinct {} passes := by
    simp only [passes, EveryPass, Distinct, loadsHost_iff]
    decide
  exact ⟨distinct, loaded_hosts_found distinct⟩

/-- A host that only changes its letter case is lost: its certificate is stored
first and then removed with the old spelling. -/
theorem respelled_host_lost :
    let controller : IngressController := ⟨default, .byHeader, {}⟩
    let first : Pass controller := .gathered controller (oneHost "A.example")
    let second : Pass controller := .gathered controller (oneHost "a.example")
    LoadsHost controller second.answers "a.example" ∧
      ((first.run {}).certStore.lookupSni "a.example").isSome = true ∧
        (second.run (first.run {})).certStore.lookupSni "a.example" = none := by
  intro controller first second
  refine ⟨loadsHost_iff.mpr ?_, by decide, by decide⟩
  decide

end

/-! What a pass removes when calls to the cluster fail. -/

open Proxy Router

section

variable (controller : IngressController)

variable {controller}

theorem mem_keys_after {live : Live} {next : Pass controller} {key : Text}
    (present : key ∈ live.certStore.byHost.keys) : key ∈ (next.run live).certStore.byHost.keys ↔
      (next.answers.ingresses.isSome = true →
        ¬Drops controller next.answers live.lastIngressTlsHosts key) := by
  by_cases listed : next.answers.ingresses.isSome = true
  · simp only [listed, true_imp_iff]
    refine (mem_keys_reconcile listed next.loads).trans ⟨fun stays => stays.1, ?_⟩
    intro keeps
    exact ⟨keeps, .inr present⟩
  · have missing : next.answers.ingresses = none := by simpa using listed
    refine iff_of_true ?_ fun contradiction => absurd contradiction listed
    simpa only [Pass.run, IngressController.reconcile, missing] using present

end

end PertiskProxy.Ingress
