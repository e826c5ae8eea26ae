import PertiskProxy.Api.Availability
import PertiskProxy.Tls.DefaultCert

/-! When a configuration change that reports an error has changed nothing: neither the
stored configuration, nor the routes, the HTTP/3 options, the certificates, or the running
configuration. -/

namespace PertiskProxy.Api

open Procedure Proxy ProxyConfig Router RoutesConfig Tls

/-- The five pieces of the configuration in force are the same, up to the order of
their maps. -/
structure Unchanged (before after : Server) : Prop where
  config : after.database.config = before.database.config
  table : after.table.Alike before.table
  http3 : after.http3 = before.http3
  certStore : after.certStore.Alike before.certStore
  runtimeConfig : after.runtimeConfig = before.runtimeConfig

theorem unchanged_self (server : Server) : Unchanged server server :=
  ⟨rfl, .refl _, rfl, .refl _, rfl⟩

section

variable {admin : Admin} {failing : Call → Bool} {before start middle : Server}
  {ε : Type} {α β : Type}

/-- If the procedure ends with an error, it leaves the server as it was
`before`. -/
def Clean (failing : Call → Bool) (before : Server) (procedure : Action ε α)
    (start : Server) : Prop :=
  (exec failing procedure start).1.isOk = false →
    Unchanged before (exec failing procedure start).2

theorem clean_adapt {ε' : Type} {view : ε → ε'} {procedure : Action ε α} :
    Clean failing before (adapt view procedure) start ↔ Clean failing before procedure start := by
  rw [Clean, Clean, exec_adapt]
  cases (exec failing procedure start).1 <;> rfl

theorem clean_bind_ok {procedure : Action ε α} {rest : α → Action ε β} {result : α}
    (ran : exec failing procedure start = (.ok result, middle)) :
    Clean failing before (procedure >>= rest) start ↔
      Clean failing before (rest result) middle := by
  rw [Clean, Clean, exec_bind, ran]

theorem clean_bind_error (ran : exec failing procedure start = (.error error, middle)) :
    Clean failing before (procedure >>= rest) start ↔ Unchanged before middle := by
  rw [Clean, exec_bind, ran]
  exact forall_prop_of_true rfl

theorem clean_check_bind {outcome : Except ε α} {rest : α → Action ε β} :
    Clean failing before (check outcome >>= rest) before ↔
      ∀ result, outcome = .ok result → Clean failing before (rest result) before := by
  cases outcome with
  | ok result =>
    rw [clean_bind_ok (exec_check failing _ _)]
    simp
  | error error =>
    rw [clean_bind_error (exec_check failing _ _)]
    simp [unchanged_self]

/-! ## Saving and activating -/

/-- The routes can be built and every file entry can be loaded. -/
def activates (admin : Admin) (files : Text → Option Bytes) (config : Config) : Bool :=
  (configToRouteTable admin.platform config).isOk &&
    config.tls.all (CertStore.entryLoads admin.parsers files)

/-- The routes and the HTTP/3 options of the configuration, if it has valid
ones, are those in force. -/
def RoutesInPlace (admin : Admin) (config : Config) (server : Server) : Prop :=
  ∀ table, configToRouteTable admin.platform config = .ok table →
    table.Alike server.table ∧ config.http3 = server.http3

def Server.withConfig (server : Server) (config : Config) : Server :=
  { server with database := { server.database with config := some config } }

def activatedStore (admin : Admin) (failing : Call → Bool) (config : Config)
    (reloaded : CertStore) (database : Database) : CertStore :=
  storeRows admin (reloaded.setExpectedFromConfig config) (loadedRows admin failing database)

/-- How far saving and activating a configuration gets, and where it ends. -/
inductive CommitEnd (admin : Admin) (failing : Call → Bool) (config : Config)
    (start : Server) : Bool → Server → Prop
  | unsaved : failing .saveConfig = true → CommitEnd admin failing config start false start
  | unapplied (error) :
      failing .saveConfig = false →
      configToRouteTable admin.platform config = .error error →
      CommitEnd admin failing config start false (start.withConfig config)
  | unloaded (table error) :
      failing .saveConfig = false →
      configToRouteTable admin.platform config = .ok table →
      start.certStore.reloadFromConfigs admin.parsers start.files config.tls = .error error →
      CommitEnd admin failing config start false
        { start.withConfig config with table, http3 := config.http3 }
  | activated (table reloaded files) :
      failing .saveConfig = false →
      configToRouteTable admin.platform config = .ok table →
      start.certStore.reloadFromConfigs admin.parsers start.files config.tls = .ok reloaded →
      CommitEnd admin failing config start true
        { start.withConfig config with
          table, http3 := config.http3
          certStore := activatedStore admin failing config reloaded start.database
          runtimeConfig := config, files }

theorem exec_finishActivation (config : Config) (server : Server) :
    ∃ files, exec failing (finishActivation admin config : Action ε PUnit) server = (.ok ⟨⟩,
        { server with
          certStore := activatedStore admin failing config server.certStore server.database
          runtimeConfig := config, files }) := by
  rcases @exec_loadDbCertsIntoStore admin failing
    { server with certStore := server.certStore.setExpectedFromConfig config }
    with ⟨outcome, files, loaded⟩
  refine ⟨files, ?_⟩
  rw [exec] at loaded
  simp only [finishActivation, exec_bind, exec_modify, exec_always, loaded]
  rfl

theorem commitEnd {saveFailed : Unit → ε} {activateFailed : ActivateError → ε}
    (config : Config) (start : Server) : CommitEnd admin failing config start
      (exec failing (saveThenActivate admin saveFailed activateFailed config) start).1.isOk
      (exec failing (saveThenActivate admin saveFailed activateFailed config) start).2 := by
  simp only [saveThenActivate, exec_bind, exec_adapt, exec_saveProxyConfig]
  cases saved : failing .saveConfig with
  | true => exact .unsaved saved
  | false =>
    simp only [Bool.false_eq_true, if_false, Except.mapError, activateProxyConfig,
      exec_bind, exec_adapt, exec_applyConfig]
    cases built : configToRouteTable admin.platform config with
    | error error => exact .unapplied error saved built
    | ok table =>
      simp only [exec_reloadFromConfigs]
      cases loaded : start.certStore.reloadFromConfigs admin.parsers start.files config.tls with
      | error error => exact .unloaded table error saved built loaded
      | ok reloaded =>
        rcases @exec_finishActivation admin failing ActivateError config
          { start.withConfig config with
            table, http3 := config.http3, certStore := reloaded } with ⟨files, finished⟩
        rw [Server.withConfig] at finished
        simp only [finished]
        exact .activated table reloaded files saved built loaded

theorem activates_iff (store : CertStore) : activates admin files config = true ↔
      (configToRouteTable admin.platform config).isOk = true ∧
        (store.reloadFromConfigs admin.parsers files config.tls).isOk = true := by
  rw [activates, Bool.and_eq_true, CertStore.isOk_reloadFromConfigs]

/-! ## Certificates of a backup -/

def restoredRow (admin : Admin) (item : Text × BackupCertificate) : CertificateRow where
  id := item.1
  hosts := item.2.hosts
  certPem := item.2.certPem
  keyPem := item.2.keyPem
  sourceType := item.2.sourceType
  expiresAt := certExpiryFromPem admin.parsers item.2.certPem.asBytes

/-- The certificates of a backup that are stored: the others fail to be, or find their id
taken. -/
def storedItems (failing : Call → Bool) :
    List Text → List (Text × BackupCertificate) → List (Text × BackupCertificate)
  | _, [] => []
  | taken, item :: rest =>
    if failing (.addCertificate item.1) || taken.contains item.1 then
      storedItems failing taken rest
    else item :: storedItems failing (taken ++ [item.1]) rest

def itemInserts (admin : Admin) (failing : Call → Bool) (item : Text × BackupCertificate) :
    Bool :=
  inserts admin failing item.2.certPem.asBytes item.2.keyPem.asBytes item.1

/-- All certificates are stored and mapped. -/
def Complete (admin : Admin) (failing : Call → Bool)
    (stored items : List (Text × BackupCertificate)) : Prop :=
  stored = items ∧ ∀ item ∈ items, itemInserts admin failing item = true

/-- The rows that are mapped to their hosts when they have been stored. -/
def mappedRows (admin : Admin) (failing : Call → Bool) (items : List (Text × BackupCertificate)) :
    List CertificateRow :=
  (items.filter (itemInserts admin failing)).map (restoredRow admin)

def restoredFiles (admin : Admin) (failing : Call → Bool) (files : Text → Option Bytes)
    (items : List (Text × BackupCertificate)) : Text → Option Bytes :=
  items.foldl
    (fun files item =>
      pairFiles admin failing files item.2.certPem.asBytes item.2.keyPem.asBytes item.1)
    files

def Server.withItems (admin : Admin) (failing : Call → Bool) (server : Server)
    (items : List (Text × BackupCertificate)) : Server :=
  { server with
    database :=
      { server.database with
        certificates := server.database.certificates ++ items.map (restoredRow admin) }
    files := restoredFiles admin failing server.files items
    certStore := storeRows admin server.certStore (mappedRows admin failing items) }

def Server.ids (server : Server) : List Text :=
  server.database.certificates.map (·.id)

theorem storedItems_sublist (failing : Call → Bool) (taken : List Text)
    (items : List (Text × BackupCertificate)) :
    (storedItems failing taken items).Sublist items := by
  induction items generalizing taken with
  | nil => exact .refl _
  | cons item rest induction =>
    rw [storedItems]
    split
    · exact (induction taken).cons item
    · exact (induction _).cons_cons item

theorem addFails_eq (server : Server) (id : Text) : addFails failing server.database id =
      (failing (.addCertificate id) || server.ids.contains id) := by
  rw [addFails, Server.ids, List.contains_eq_any_beq, List.any_map]
  congr 2
  funext row
  exact BEq.comm

theorem pairFiles_of_inserts {files : Text → Option Bytes} {cert key : Bytes} {id : Text}
    (inserted : inserts admin failing cert key id = true) :
    pairFiles admin failing files cert key id =
      Function.update (Function.update files (admin.certPath id) (some cert))
        (admin.keyPath id) (some key) := by
  simp only [inserts, loadable, Bool.and_eq_true, Bool.not_eq_true'] at inserted
  simp [pairFiles, inserted]

theorem exec_restoreCertificate (item : Text × BackupCertificate) (response : RestoreResponse)
    (server : Server) :
    ∃ response', (restoreCertificate admin item.1 item.2 response).exec failing server =
        (response', if addFails (failing ∘ .earlier) server.database item.1 then server
          else server.withItems admin (failing ∘ .earlier) [item]) ∧
      (response'.errors = [] ↔ response.errors = [] ∧
        addFails (failing ∘ .earlier) server.database item.1 = false ∧
          itemInserts admin (failing ∘ .earlier) item = true) := by
  rcases item with ⟨id, cert⟩
  rw [restoreCertificate, Routine.exec_bind]
  simp only [exec_run, exec_rename]
  cases adds : addFails (failing ∘ Call.earlier) server.database id with
  | true =>
    simp only [exec_addCertificate_error adds, if_true]
    exact ⟨_, rfl, by simp⟩
  | false =>
    simp only [exec_addCertificate adds, Bool.false_eq_true, if_false, Routine.exec_bind,
      exec_run, exec_rename, Server.withItems, mappedRows, restoredFiles, List.foldl_cons,
      List.foldl_nil]
    by_cases inserted : itemInserts admin (failing ∘ Call.earlier) (id, cert) = true
    · rw [List.filter_cons_of_pos inserted]
      simp only [exec_insertPemForHosts inserted, pairFiles_of_inserts inserted]
      exact ⟨_, rfl, by simp [inserted]⟩
    · rw [List.filter_cons_of_neg inserted]
      generalize stored : server.withRow _ = start
      rcases @exec_insertPemForHosts_error admin _ cert.hosts _ _ _ start
        (Bool.eq_false_iff.mpr inserted) with ⟨error, stopped⟩
      simp only [stopped]
      subst stored
      exact ⟨_, rfl, by simp [inserted]⟩

theorem withItems_cons (failing : Call → Bool) (server : Server)
    (item : Text × BackupCertificate) (items : List (Text × BackupCertificate)) :
    (server.withItems admin failing [item]).withItems admin failing items =
      server.withItems admin failing (item :: items) := by
  have rows : mappedRows admin failing (item :: items) =
      mappedRows admin failing [item] ++ mappedRows admin failing items := by
    rw [mappedRows, mappedRows, mappedRows, ← List.map_append, ← List.filter_append]
    rfl
  simp [Server.withItems, rows, storeRows, restoredFiles]

theorem exec_restoreCertificates (items : List (Text × BackupCertificate))
    (response : RestoreResponse) (server : Server) :
    ∃ response', (restoreCertificates admin items response).exec failing server =
        (response', server.withItems admin (failing ∘ .earlier)
          (storedItems (failing ∘ .earlier) server.ids items)) ∧
      (response'.errors = [] ↔ response.errors = [] ∧ Complete admin (failing ∘ .earlier)
        (storedItems (failing ∘ .earlier) server.ids items) items) := by
  induction items generalizing response server with
  | nil =>
    refine ⟨response, ?_, by simp [storedItems, Complete]⟩
    simp [restoreCertificates, storedItems, Server.withItems, mappedRows, restoredFiles, storeRows]
  | cons item rest induction =>
    rcases @exec_restoreCertificate admin failing item response server
      with ⟨first, restored, clean⟩
    rw [restoreCertificates, Routine.exec_bind, restored, storedItems, ← addFails_eq]
    cases adds : addFails (failing ∘ .earlier) server.database item.1 with
    | true =>
      rcases induction first server with ⟨last, remaining, cleanRest⟩
      refine ⟨last, remaining, ?_⟩
      rw [cleanRest, clean, adds]
      refine iff_of_false (by simp) ?_
      -- this certificate is missing, so that fewer are stored than given
      rintro ⟨-, same, -⟩
      have shorter := (storedItems_sublist (failing ∘ .earlier) server.ids rest).length_le
      rw [if_pos rfl] at same
      rw [same, List.length_cons] at shorter
      omega
    | false =>
      rcases induction first (server.withItems admin (failing ∘ .earlier) [item])
        with ⟨last, remaining, cleanRest⟩
      have ids : (server.withItems admin (failing ∘ .earlier) [item]).ids =
          server.ids ++ [item.1] := by
        simp [Server.ids, Server.withItems, restoredRow]
      rw [ids] at remaining cleanRest
      rw [withItems_cons] at remaining
      refine ⟨last, remaining, ?_⟩
      rw [cleanRest, clean, adds, if_neg Bool.false_ne_true, Complete, Complete,
        List.cons.injEq, List.forall_mem_cons]
      tauto

/-! What rows put into a store, host by host. -/

def CertificateRow.stored (admin : Admin) (row : CertificateRow) : StoredCert :=
  .file (admin.certPath row.id) (admin.keyPath row.id)

def rowMappings (admin : Admin) (rows : List CertificateRow) : List (Text × StoredCert) :=
  rows.flatMap fun row => row.keys.map fun key => (key, row.stored admin)

theorem storeRows_get? (store : CertStore) (rows : List CertificateRow) (key : Text) :
    (storeRows admin store rows).byHost.get? key =
      (lastMapped (rowMappings admin rows) key).or (store.byHost.get? key) := by
  rw [storeRows, rowMappings]
  induction rows generalizing store with
  | nil => rfl
  | cons row rest induction =>
    rw [List.foldl_cons, induction, List.flatMap_cons, lastMapped_append, Option.or_assoc,
      lastMapped_keys, CertStore.insertPathsForHosts, CertStore.insertStoredForHosts_byHost,
      HashMap.get?_insertAll, CertificateRow.keys]
    congr 1
    split <;> rfl

theorem storeRows_default (store : CertStore) (rows : List CertificateRow) :
    (storeRows admin store rows).default =
      store.default.or (rows.head?.map (CertificateRow.stored admin)) := by
  rw [storeRows]
  induction rows generalizing store with
  | nil => simp
  | cons row rest induction =>
    rw [List.foldl_cons, induction]
    cases present : store.default <;>
      simp [CertStore.insertPathsForHosts, CertStore.insertStoredForHosts, present,
        CertificateRow.stored]

theorem storeRows_expected (store : CertStore) (rows : List CertificateRow) :
    (storeRows admin store rows).expected = store.expected := by
  rw [storeRows]
  induction rows generalizing store with
  | nil => rfl
  | cons row rest induction => exact induction _

/-- The store has the rows already: every host of theirs the last one, and a default. -/
@[mk_iff] structure Supplied (admin : Admin) (store : CertStore) (rows : List CertificateRow) :
    Prop where
  hosts : ∀ key cert, lastMapped (rowMappings admin rows) key = some cert →
    store.byHost.get? key = some cert
  default : rows ≠ [] → store.default.isSome = true

theorem alike_storeRows {store : CertStore} {rows : List CertificateRow} :
    (storeRows admin store rows).Alike store ↔ Supplied admin store rows := by
  rw [CertStore.alike_iff, supplied_iff, HashMap.reorders_iff, storeRows_default,
    storeRows_expected, and_iff_left fun _ => Iff.rfl]
  refine and_congr (forall_congr' fun key => ?_) ?_
  · rw [storeRows_get?]
    cases lastMapped (rowMappings admin rows) key <;> simp [eq_comm]
  · cases store.default <;> cases rows <;> simp

/-- The store has what activating the configuration gives it: the files of the
configuration and the rows `loaded` after them under every host, the first of them as the
default, unless there is one or rows were `mapped` before. -/
@[mk_iff] structure Reached (admin : Admin) (config : Config) (mapped loaded : List CertificateRow)
    (store : CertStore) : Prop where
  hosts : ∀ key, store.byHost.get? key =
    lastMapped (config.tls.flatMap fileMappings ++ rowMappings admin loaded) key
  default : match store.default with
    | some cert => ∀ first, (config.tls.flatMap fileMappings).head? = some first → first.2 = cert
    | none => config.tls.flatMap fileMappings = [] ∧ mapped = [] ∧ loaded = []
  expected : ∀ host, host ∈ store.expected ↔ host ≠ [] ∧
    ∃ name ∈ config.sites.map Site.host ++ config.tls.flatMap TlsConfig.hosts,
      normalizeHost name = host

theorem alike_activated {store reloaded : CertStore} {files : Text → Option Bytes}
    {mapped : List CertificateRow} {database : Database}
    (loads : (storeRows admin store mapped).reloadFromConfigs admin.parsers files config.tls =
      .ok reloaded) :
    (activatedStore admin failing config reloaded database).Alike store ↔
      Reached admin config mapped (loadedRows admin failing database) store := by
  rw [CertStore.alike_iff, reached_iff, HashMap.reorders_iff, activatedStore,
    ← CertStore.reloadFromConfigs_eq loads, storeRows_default, storeRows_expected]
  generalize loadedRows admin failing database = loaded
  generalize config.tls.flatMap fileMappings = mappings
  refine and_congr (forall_congr' fun key => ?_) (and_congr ?_ (forall_congr' fun host => ?_))
  · rw [storeRows_get?, lastMapped_append, eq_comm, ← get?_ofList_eq mappings]
    rfl
  · change ((mappings.head?.map Prod.snd).or (storeRows admin store mapped).default).or _ = _ ↔ _
    rw [storeRows_default]
    cases store.default <;> cases mappings <;> cases mapped <;> cases loaded <;> simp
  · rw [CertStore.setExpectedFromConfig, CertStore.setExpectedHosts, List.mem_dedup,
      List.mem_filter, List.mem_map, and_comm, @iff_comm _ (host ∈ _)]
    simp

/-- A restore leaves no trace when it reports an error: it reports none, or all it writes
is already in place. Of the certificates of the backup some are `stored`, and the restore
of them is `complete` or not. -/
def RestoreSafe (admin : Admin) (failing : Call → Bool) (config : Config)
    (stored : List (Text × BackupCertificate)) (complete : Prop) (server : Server) : Prop :=
  let mapped := mappedRows admin (failing ∘ .earlier) stored
  let activated := activates admin
    (restoredFiles admin (failing ∘ .earlier) server.files stored) config
  let loaded := loadedRows admin failing
    { server.database with
      certificates := server.database.certificates ++ stored.map (restoredRow admin) }
  (complete ∧ failing .saveConfig = false ∧ activated = true) ∨
    (failing .saveConfig = true ∧ Supplied admin server.certStore mapped) ∨
    (failing .saveConfig = false ∧ server.database.config = some config ∧
      RoutesInPlace admin config server ∧
      if activated then
        server.runtimeConfig = config ∧ Reached admin config mapped loaded server.certStore
      else Supplied admin server.certStore mapped)

theorem restoreSafe_iff {saveFailed : Unit → ε} {activateFailed : ActivateError → ε}
    {stored : List (Text × BackupCertificate)} {complete : Prop} {server : Server} :
    let final := exec failing (saveThenActivate admin saveFailed activateFailed config)
      (server.withItems admin (failing ∘ .earlier) stored)
    ((complete → final.1.isOk = false) → Unchanged server final.2) ↔
      RestoreSafe admin failing config stored complete server := by
  intro final
  have ended : CommitEnd admin failing _ _ final.1.isOk final.2 := commitEnd config _
  have activated := @activates_iff admin
    (restoredFiles admin (failing ∘ .earlier) server.files stored) config
    (server.withItems admin (failing ∘ .earlier) stored).certStore
  rw [RestoreSafe, RoutesInPlace, ← alike_storeRows]
  generalize final.1.isOk = succeeded at ended ⊢
  generalize final.2 = last at ended ⊢
  cases ended with
  | unsaved failed =>
    simp only [failed, implies_true, forall_const, Bool.true_eq_false, false_and, and_false,
      false_or, or_false, true_and]
    exact ⟨fun unchanged => unchanged.certStore, fun same => ⟨rfl, .refl _, rfl, same, rfl⟩⟩
  | unapplied error saved built =>
    simp only [built, Except.isOk, Except.toBool, Bool.false_eq_true, false_and, iff_false]
      at activated
    simp only [saved, built, activated, implies_true, forall_const, Bool.false_eq_true, if_false,
      false_and, and_false, false_or, reduceCtorEq, true_and]
    constructor
    · intro unchanged
      exact ⟨unchanged.config.symm, by simp, unchanged.certStore⟩
    · rintro ⟨present, _, same⟩
      exact ⟨present.symm, .refl _, rfl, same, rfl⟩
  | unloaded table error saved built refused =>
    change CertStore.reloadFromConfigs _ (restoredFiles _ _ _ _) _ _ = _ at refused
    simp only [refused, Except.isOk, Except.toBool, Bool.false_eq_true, and_false, iff_false]
      at activated
    simp only [saved, built, activated, implies_true, forall_const, Bool.false_eq_true, if_false,
      false_and, and_false, false_or, Except.ok.injEq, forall_eq', true_and]
    constructor
    · intro unchanged
      exact ⟨unchanged.config.symm, ⟨unchanged.table, unchanged.http3⟩, unchanged.certStore⟩
    · rintro ⟨present, ⟨sameTable, sameHttp3⟩, same⟩
      exact ⟨present.symm, sameTable, sameHttp3, same, rfl⟩
  | activated table reloaded files saved built loaded =>
    change CertStore.reloadFromConfigs _ (restoredFiles _ _ _ _) _ _ = _ at loaded
    simp only [built, loaded, Except.isOk, Except.toBool, and_self, iff_true] at activated
    rw [← alike_activated loaded]
    simp only [saved, built, activated, Bool.true_eq_false, imp_false, if_true,
      and_true, Bool.false_eq_true, false_and, false_or, Except.ok.injEq, forall_eq', true_and]
    rw [← or_iff_not_imp_left]
    apply or_congr Iff.rfl
    constructor
    · intro unchanged
      exact ⟨unchanged.config.symm, ⟨unchanged.table, unchanged.http3⟩,
        unchanged.runtimeConfig.symm, unchanged.certStore⟩
    · rintro ⟨present, ⟨sameTable, sameHttp3⟩, running, same⟩
      exact ⟨present.symm, sameTable, sameHttp3, same, running.symm⟩

/-- Saving and activating from here fails without a trace: it cannot save, it
does not fail, or what it writes before it fails is already in place. -/
def CommitSafe (admin : Admin) (failing : Call → Bool) (config : Config) (server : Server) :
    Prop :=
  failing .saveConfig = true ∨ activates admin server.files config = true ∨
    (server.database.config = some config ∧ RoutesInPlace admin config server)

theorem clean_saveThenActivate {saveFailed : Unit → ε} {activateFailed : ActivateError → ε}
    {config : Config} :
    Clean failing before (saveThenActivate admin saveFailed activateFailed config) before ↔
      CommitSafe admin failing config before := by
  have same : before.withItems admin (failing ∘ .earlier) [] = before := by
    simp [Server.withItems, mappedRows, restoredFiles, storeRows]
  have supplied : Supplied admin before.certStore [] := ⟨by rintro _ _ ⟨⟩, absurd rfl⟩
  have safe := @restoreSafe_iff admin failing ε config saveFailed activateFailed [] True before
  simp only [same, true_imp_iff] at safe
  refine safe.trans ?_
  simp only [RestoreSafe, CommitSafe, mappedRows, restoredFiles, List.filter_nil, List.map_nil,
    List.foldl_nil, supplied, true_and, and_true]
  cases failing .saveConfig <;> cases activates admin before.files config <;> simp

/-! ## Lists -/

def workingConfig (admin : Admin) (failing : Call → Bool) (server : Server) : Config :=
  match admin.viewerMode, failing (.earlier .loadConfig), server.database.config with
  | true, false, some stored =>
    { server.runtimeConfig with
      accessLists := stored.accessLists, wafPolicies := stored.wafPolicies }
  | _, _, _ => server.runtimeConfig

theorem exec_loadConfig (server : Server) : exec failing (loadConfig admin) server =
      (.ok (workingConfig admin failing server), server) := by
  rw [loadConfig, workingConfig, exec_bind, exec_read]
  cases admin.viewerMode with
  | false => rfl
  | true =>
    simp only [if_true, exec_bind, exec_always, exec_read,
      exec_pure, Routine.fails, Routine.exec_ask, Routine.exec_done]
    cases failing (.earlier .loadConfig) <;> cases server.database.config <;> rfl

/-- What ingress mode saves: the stored configuration with new lists. -/
def storedWithLists (failing : Call → Bool) (config : Config) (server : Server) : Config :=
  { (if failing .loadConfig then none else server.database.config).getD {} with
    accessLists := config.accessLists, wafPolicies := config.wafPolicies }

/-- Saving and activating new lists from here fails without a trace. -/
def ListsSafe (admin : Admin) (failing : Call → Bool) (config : Config) (server : Server) :
    Prop :=
  if admin.viewerMode then
    failing .saveConfig = true ∨ (configToRouteTable admin.platform config).isOk = true ∨
      server.database.config = some (storedWithLists failing config server)
  else CommitSafe admin failing config server

theorem clean_saveAndActivate : Clean failing before (saveAndActivate admin config) before ↔
      ListsSafe admin failing config before := by
  rw [saveAndActivate, ListsSafe]
  cases admin.viewerMode with
  | false => exact clean_saveThenActivate
  | true =>
    simp only [if_true]
    change Clean failing before
      (adapt _ (saveProxyConfig (storedWithLists failing config before)) >>= _)
      before ↔ _
    cases saved : failing .saveConfig with
    | true =>
      rw [clean_bind_error (by rw [exec_adapt, exec_saveProxyConfig, saved]; rfl)]
      simp [unchanged_self]
    | false =>
      rw [clean_bind_ok (by rw [exec_adapt, exec_saveProxyConfig, saved]; rfl)]
      cases built : configToRouteTable admin.platform config with
      | error error =>
        rw [clean_bind_error (by rw [exec_adapt, exec_applyConfig, built]; rfl)]
        simp only [Bool.false_eq_true, Except.isOk, Except.toBool, false_or]
        exact ⟨fun unchanged => unchanged.config.symm,
          fun stored => ⟨stored.symm, .refl _, rfl, .refl _, rfl⟩⟩
      | ok table =>
        rw [clean_bind_ok (by rw [exec_adapt, exec_applyConfig, built]; rfl)]
        simp [Clean, Except.isOk, Except.toBool]

theorem clean_requireDb_bind : Clean failing before (requireDb admin >>= rest) before ↔
      (admin.hasDatabase = true → Clean failing before (rest ⟨⟩) before) := by
  rw [requireDb, clean_check_bind]
  cases admin.hasDatabase with
  | false => simp
  | true => exact ⟨fun passed _ => passed ⟨⟩ rfl, fun passed _ _ => passed rfl⟩

def EditSafe (admin : Admin) (failing : Call → Bool) (edit : ListEdit) (server : Server) : Prop :=
  admin.hasDatabase = true → ∀ change config, edit = .ok change →
    change (workingConfig admin failing server) = .ok config →
      ListsSafe admin failing config server

theorem clean_changeLists {edit : ListEdit} :
    Clean failing before (changeLists admin edit) before ↔
      EditSafe admin failing edit before := by
  rw [changeLists, clean_requireDb_bind]
  refine imp_congr_right fun _ => ?_
  rw [clean_check_bind]
  refine forall_congr' fun change => ?_
  rw [forall_comm]
  refine imp_congr_right fun _ => ?_
  rw [clean_bind_ok (exec_loadConfig before), clean_check_bind]
  refine forall_congr' fun config => imp_congr_right fun _ => ?_
  exact clean_saveAndActivate

/-! ## A new configuration -/

def PutSafe (admin : Admin) (failing : Call → Bool) (body : Config) (server : Server) : Prop :=
  admin.viewerMode = false → admin.hasDatabase = true →
    CommitSafe admin failing body.withNormalizedTls server

theorem clean_putConfig {body : Config} :
    Clean failing before (putConfig admin body) before ↔ PutSafe admin failing body before := by
  rw [putConfig, clean_check_bind, PutSafe]
  cases admin.viewerMode with
  | true => simp
  | false => simp [clean_requireDb_bind, clean_saveThenActivate]

/-! ## The routes file -/

/-- The file is refused, its certificates load, or its routes are in force. -/
def RoutesSafe (admin : Admin) (parsers : RouteParsers) (content : Option Text)
    (server : Server) : Prop :=
  ∀ loaded, load admin.platform parsers content = .ok loaded →
    loaded.tls.all (CertStore.entryLoads admin.parsers server.files) = true ∨
      (loaded.table.Alike server.table ∧ loaded.http3 = server.http3)

theorem clean_reloadRoutes {parsers : RouteParsers} {content : Option Text} :
    Clean failing before (reloadRoutes admin parsers content) before ↔
      RoutesSafe admin parsers content before := by
  rw [reloadRoutes, clean_check_bind, RoutesSafe]
  cases load admin.platform parsers content with
  | error error => simp [Except.mapError]
  | ok loaded =>
    simp only [Except.mapError, Except.ok.injEq, forall_eq']
    have replaced : exec failing
        (replaceAll loaded.table loaded.http3 : Action RoutesReloadError PUnit) before =
        (.ok ⟨⟩, { before with table := loaded.table, http3 := loaded.http3 }) := by
      simp [replaceAll, exec_bind]
    rw [clean_bind_ok replaced, clean_adapt, Clean, exec_reloadFromConfigs,
      ← CertStore.isOk_reloadFromConfigs before.certStore]
    cases before.certStore.reloadFromConfigs admin.parsers before.files loaded.tls with
    | ok store => simp [Except.isOk, Except.toBool]
    | error error =>
      simp only [Except.isOk, Except.toBool, Bool.false_eq_true, false_or, forall_const]
      constructor
      · intro unchanged
        exact ⟨unchanged.table, unchanged.http3⟩
      · rintro ⟨table, http3⟩
        exact ⟨rfl, table, http3, .refl _, rfl⟩

/-! ## Backups -/

def RestoreBackupBody.items (body : RestoreBackupBody) (backup : ProxyBackup)
    (failing : Call → Bool) (draw : Nat → Text) (server : Server) :
    List (Text × BackupCertificate) :=
  certificatesToRestore body.merge
    (if failing .listCertificates then []
    else server.database.certificates.flatMap CertificateRow.hosts) (backup.drawn draw)

def RestoresSafely (admin : Admin) (failing : Call → Bool) (draw : Nat → Text)
    (body : RestoreBackupBody) (backup : ProxyBackup) (server : Server) : Prop :=
  let items := body.items backup failing draw server
  let stored := storedItems (failing ∘ .earlier) server.ids items
  RestoreSafe admin failing (backup.configToSave body.merge server.runtimeConfig) stored
    (Complete admin (failing ∘ .earlier) stored items) server

theorem exec_proxyBackupRestore {draw : Nat → Text} {body : RestoreBackupBody}
    {backup : ProxyBackup} {server : Server} (present : admin.hasDatabase = true)
    (data : body.data = some backup) :
    let items := body.items backup failing draw server
    let stored := storedItems (failing ∘ .earlier) server.ids items
    let final := exec failing
      (persistProxyConfig admin (backup.configToSave body.merge server.runtimeConfig))
      (server.withItems admin (failing ∘ .earlier) stored)
    ∃ response, exec failing (proxyBackupRestore admin draw body) server =
        (.ok response, final.2) ∧
      (response.errors = [] ↔
        Complete admin (failing ∘ .earlier) stored items ∧ final.1.isOk = true) := by
  intro items stored final
  rcases @exec_restoreCertificates admin failing items ⟨0, []⟩ server
    with ⟨first, restored, clean⟩
  simp only [proxyBackupRestore, exec_bind, exec_check, present, if_true, data,
    exec_always, exec_read, Routine.fails, Routine.exec_ask,
    Routine.exec_done, exec_pure]
  change (restoreCertificates admin (certificatesToRestore body.merge _ _) _).exec failing server =
    _ at restored
  have current : (server.withItems admin (failing ∘ .earlier) stored).runtimeConfig =
      server.runtimeConfig := rfl
  rw [restored]
  simp only
  rw [exec_run, current]
  refine ⟨_, rfl, ?_⟩
  cases final.1 with
  | ok _ => simpa [Except.isOk, Except.toBool] using clean
  | error error => simp [Except.isOk, Except.toBool]

def reported (response : RestoreResponse) : Action Unit PUnit :=
  check (if response.errors.isEmpty then .ok ⟨⟩ else .error ())

theorem clean_proxyBackupRestore : Clean failing before
      (adapt (fun _ => ()) (proxyBackupRestore admin draw body) >>= reported) before ↔
      (admin.hasDatabase = true → ∀ backup, body.data = some backup →
        RestoresSafely admin failing draw body backup before) := by
  cases present : admin.hasDatabase with
  | false =>
    rw [clean_bind_error (by rw [exec_adapt, proxyBackupRestore,
      exec_bind, exec_check, present]; rfl)]
    simp [unchanged_self]
  | true =>
    cases data : body.data with
    | none =>
      rw [clean_bind_error (by rw [exec_adapt, proxyBackupRestore,
        exec_bind, exec_check, present, data]; rfl)]
      simp [unchanged_self]
    | some backup =>
      rcases @exec_proxyBackupRestore admin failing draw body backup before present data
        with ⟨response, ran, clean⟩
      rw [clean_bind_ok (by rw [exec_adapt, ran]; rfl)]
      simp only [forall_const, Option.some.injEq, forall_eq']
      refine Iff.trans ?_ (@restoreSafe_iff _ _ PersistError _ (fun _ => .save) .activate _ _ _)
      rw [Clean, reported, exec_check]
      refine imp_congr_left ?_
      have failed : (if response.errors.isEmpty then .ok ⟨⟩ else .error () :
          Except Unit PUnit).isOk = false ↔ ¬response.errors = [] := by
        cases response.errors <;> simp [Except.isOk, Except.toBool]
      rw [failed, clean, not_and, Bool.not_eq_true, persistProxyConfig]

def BackupSafe (admin : Admin) (failing : Call → Bool) (draw : Nat → Text)
    (body : RestoreBackupBody) (server : Server) : Prop :=
  admin.viewerMode = false → admin.hasDatabase = true →
    ∀ backup, body.data = some backup → RestoresSafely admin failing draw body backup server

theorem clean_backupRestore {authorized : Bool} {draw : Nat → Text} {body : RestoreBackupBody} :
    Clean failing before
      (adapt (fun _ => ()) (backupRestore admin authorized draw body) >>= reported)
      before ↔ (authorized = true → BackupSafe admin failing draw body before) := by
  rw [BackupSafe]
  cases authorized with
  | false =>
    rw [clean_bind_error (by rw [exec_adapt, backupRestore, exec_bind, exec_check]; rfl)]
    simp [unchanged_self]
  | true =>
    cases viewer : admin.viewerMode with
    | false =>
      have same : backupRestore admin true draw body = proxyBackupRestore admin draw body := by
        rw [backupRestore, viewer]
        rfl
      rw [same, clean_proxyBackupRestore]
      simp
    | true =>
      have kept : ∃ outcome, exec failing (backupRestore admin true draw body)
          before = (outcome, before) := by
        simp only [backupRestore, viewer, if_true, exec_bind, exec_check, exec_call]
        cases failing .kubernetes
        · exact ⟨_, rfl⟩
        · exact ⟨_, rfl⟩
      rcases kept with ⟨outcome, ran⟩
      simp only [Clean, exec_bind, exec_adapt, ran]
      cases outcome <;> simp [Except.mapError, reported, unchanged_self]

end

/-- The condition under which a change that reports an error has changed
nothing. -/
def ConfigChange.Safe (admin : Admin) (failing : Call → Bool) (server : Server) :
    ConfigChange → Prop
  | .putConfig body => PutSafe admin failing body server
  | .accessListsCreate id body => EditSafe admin failing (createAccessList id body) server
  | .accessListsPut id body => EditSafe admin failing (putAccessList id body) server
  | .accessListsDelete id => EditSafe admin failing (deleteAccessList id) server
  | .wafPoliciesCreate id body => EditSafe admin failing (createWafPolicy id body) server
  | .wafPoliciesPut id body => EditSafe admin failing (putWafPolicy id body) server
  | .wafPoliciesDelete id => EditSafe admin failing (deleteWafPolicy id) server
  | .backupRestore authorized draw body =>
    authorized = true → BackupSafe admin failing draw body server
  | .reloadRoutes parsers content => RoutesSafe admin parsers content server

/-- A change that reports an error has changed nothing exactly under its
condition. -/
theorem failed_change_unchanged_iff (admin : Admin) (failing : Call → Bool)
    (change : ConfigChange) (server : Server) :
    ((exec failing (change.run admin) server).1.isOk = false →
      Unchanged server (exec failing (change.run admin) server).2) ↔
      change.Safe admin failing server := by
  cases change with
  | putConfig body => exact clean_adapt.trans clean_putConfig
  | accessListsCreate id body | accessListsPut id body | accessListsDelete id
  | wafPoliciesCreate id body | wafPoliciesPut id body | wafPoliciesDelete id =>
    exact clean_adapt.trans clean_changeLists
  | backupRestore authorized draw body => exact clean_backupRestore
  | reloadRoutes parsers content => exact clean_adapt.trans clean_reloadRoutes

def changeAdmin : Admin where
  platform := default
  parsers := .byHeader

theorem nameless_list_unchanged :
    let change := ConfigChange.accessListsCreate "1" { name := " " }
    (exec (fun _ => false) (change.run changeAdmin) {}).1.isOk = false ∧
      Unchanged {} (exec (fun _ => false) (change.run changeAdmin) {}).2 := by
  have refused : (exec (fun _ => false)
      ((ConfigChange.accessListsCreate "1" { name := " " }).run changeAdmin) {}).1.isOk =
      false := by decide
  refine ⟨refused, (failed_change_unchanged_iff changeAdmin _ _ _).mpr ?_ refused⟩
  intro _ change config impossible
  cases impossible

/-- A configuration that names an unknown backend is an error, and the stored
one all the same. -/
theorem rejected_config_stored :
    let config : Config := { sites := [{ host := "a.example", backend := "web" }] }
    let change := ConfigChange.putConfig config
    let ended := exec (fun _ => false) (change.run changeAdmin) {}
    ended.1 = .error () ∧ ({} : Server).database.config = none ∧
      ended.2.database.config.map Config.sites = some config.sites := by
  decide

end PertiskProxy.Api
