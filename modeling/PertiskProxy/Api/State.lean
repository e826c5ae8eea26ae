import PertiskProxy.Proxy.Forward
import PertiskProxy.RoutesConfig
import PertiskProxy.Tls.CertStore

/-! What the management API reads and changes: the database, the running data plane, and
the files of certificates (`api/mod.rs`, `db/mod.rs`). -/

namespace PertiskProxy.Api

open Procedure ProxyConfig Proxy Router Tls

structure CertificateRow where
  id : Text
  hosts : List Text
  certPem : Text
  keyPem : Text
  sourceType : Text
  expiresAt : Option Text
deriving DecidableEq

/-- The stored configuration, and the certificates in order of creation. -/
structure Database where
  config : Option Config := none
  certificates : List CertificateRow := []
deriving DecidableEq

structure Admin where
  platform : Platform
  parsers : CertParsers
  viewerMode : Bool := false
  hasDatabase : Bool := true
  certsDir : Text := "certs"

inductive OrderStage where
  | obtaining
  | saved (id certPem keyPem : Text)
deriving DecidableEq

/-- An order that runs in the background, with the key of its lock. -/
structure Order where
  hosts : List Text
  lockKey : Text
  stage : OrderStage := .obtaining
deriving DecidableEq

/-- What requests and background tasks share. Time is in nanoseconds. -/
structure Server where
  database : Database := {}
  table : RouteTable := .empty
  http3 : Http3Options := {}
  certStore : CertStore := {}
  runtimeConfig : Config := {}
  files : Text → Option Bytes := fun _ => none
  now : Int := 0
  inflight : List Text := []
  orders : List Order := []

/-- A call to the outside that may fail. Where one request makes the same call
twice, the earlier one is marked. -/
inductive Call where
  | loadConfig
  | saveConfig
  | listCertificates
  | loadCertificates
  | addCertificate (id : Text)
  | deleteCertificate (id : Text)
  | createDir (id : Text)
  | writeFile (path : Text)
  | removeFile (path : Text)
  | kubernetes
  | earlier (call : Call)
deriving DecidableEq

namespace Database

/-- The table's primary key is the id. -/
def addCertificate (database : Database) (row : CertificateRow) : Option Database :=
  if database.certificates.any fun other => other.id == row.id then none
  else some { database with certificates := database.certificates ++ [row] }

end Database

/-- An answer that reports an error. Without a text of its own it passes on
that of the call that failed. -/
structure ApiError where
  status : Nat
  error : Option Text := none
deriving DecidableEq

def joinPath (dir name : Text) : Text :=
  if Text.startsWith name "/" then name
  else if dir.isEmpty || Text.endsWith dir "/" then dir ++ name
  else dir ++ '/' :: name

namespace Admin

variable (admin : Admin)

def certPath (id : Text) : Text :=
  joinPath admin.certsDir (id ++ ".pem".toList)

def keyPath (id : Text) : Text :=
  joinPath admin.certsDir (id ++ ".key".toList)

end Admin

section

variable (admin : Admin)

abbrev Action := Procedure Call Server

def requireDb : Action ApiError PUnit :=
  check
    (if admin.hasDatabase then .ok ⟨⟩
    else .error { status := 503, error := some "database not configured" })

def saveProxyConfig (config : Config) : Action Unit PUnit := do
  call .saveConfig ()
  modify fun server =>
    { server with database := { server.database with config := some config } }

def addCertificate (id : Text) (hosts : List Text) (certPem keyPem sourceType : Text) :
    Action Unit Text := do
  call (.addCertificate id) ()
  let row : CertificateRow :=
    { id, hosts, certPem, keyPem, sourceType,
      expiresAt := certExpiryFromPem admin.parsers certPem.asBytes }
  atomically fun server =>
    match server.database.addCertificate row with
    | some database => (.ok id, { server with database })
    | none => (.error (), server)

def writeFile (path : Text) (content : Bytes) : Action CertError PUnit := do
  call (.writeFile path) .io
  modify fun server =>
    { server with files := Function.update server.files path (some content) }

def insertPemForHosts (hosts : List Text) (cert key : Bytes) (id : Text) :
    Action CertError PUnit := do
  check (validateCertPairPem admin.parsers cert key)
  call (.createDir id) .io
  writeFile (admin.certPath id) cert
  writeFile (admin.keyPath id) key
  let files ← read Server.files
  check (validateCertPair admin.parsers files (admin.certPath id) (admin.keyPath id))
  check (warnHostCertMismatch admin.parsers files (admin.certPath id))
  modify fun server =>
    { server with
      certStore := server.certStore.insertPathsForHosts hosts (admin.certPath id)
        (admin.keyPath id) }

def insertRow (row : CertificateRow) : Action CertError PUnit :=
  insertPemForHosts admin row.hosts row.certPem.asBytes row.keyPem.asBytes row.id

/-- Load the certificates of the database into the store, up to the first one
that cannot be loaded. -/
def loadDbCertsIntoStore : Action CertError PUnit := do
  call .loadCertificates .io
  let rows ← read fun server => server.database.certificates
  rows.forM (insertRow admin)

end

inductive ActivateError where
  | apply (error : ApplyError)
  | certificates (error : CertError)
deriving DecidableEq

section

variable (admin : Admin)

/-- `Router::replace_all`: the table first, then the HTTP/3 options. -/
def replaceAll {ε : Type} (table : RouteTable) (http3 : Http3Options) : Action ε PUnit := do
  modify fun server => { server with table }
  modify fun server => { server with http3 }

def applyConfig (config : Config) : Action ApplyError PUnit := do
  let table ← check (configToRouteTable admin.platform config)
  replaceAll table config.http3

def reloadFromConfigs (tls : List TlsConfig) : Action CertError PUnit :=
  atomically fun server =>
    match server.certStore.reloadFromConfigs admin.parsers server.files tls with
    | .ok certStore => (.ok ⟨⟩, { server with certStore })
    | .error error => (.error error, server)

/-- The part of an activation after which nothing can fail any more. -/
def finishActivation {ε : Type} (config : Config) : Action ε PUnit := do
  modify fun server =>
    { server with certStore := server.certStore.setExpectedFromConfig config }
  -- A certificate that cannot be loaded is only logged.
  let _ ← always (loadDbCertsIntoStore admin).run
  modify fun server => { server with runtimeConfig := config }

def activateProxyConfig (config : Config) : Action ActivateError PUnit := do
  adapt ActivateError.apply (applyConfig admin config)
  adapt ActivateError.certificates (reloadFromConfigs admin config.tls)
  finishActivation admin config

def saveThenActivate {ε : Type} (saveFailed : Unit → ε) (activateFailed : ActivateError → ε)
    (config : Config) : Action ε PUnit := do
  adapt saveFailed (saveProxyConfig config)
  adapt activateFailed (activateProxyConfig admin config)

inductive ReloadError where
  | noDatabase
  | database
  | apply (error : ApplyError)
deriving DecidableEq

/-- Activate the stored configuration again. Certificates that cannot be loaded
are ignored. -/
def reloadConfig : Action ReloadError PUnit := do
  check (if admin.hasDatabase then .ok () else .error .noDatabase)
  call .loadConfig .database
  let config ← read fun server => server.database.config.getD {}
  adapt ReloadError.apply (applyConfig admin config)
  let _ ← always (reloadFromConfigs admin config.tls).run
  finishActivation admin config

end

/-! Creating, updating, and deleting the named policies of the configuration
(`api/policies.rs`). -/

open GeoIp Security

structure AccessListBody where
  name : Text
  description : Option Text := none
  geoip : GeoIpPolicy := {}
deriving DecidableEq

structure WafPolicyBody where
  name : Text
  description : Option Text := none
  security : SecurityPolicy := {}
deriving DecidableEq

def notFound : ApiError where
  status := 404
  error := some "not found"

def normalizeName (name : Text) : Except ApiError Text :=
  let name := Text.trim name
  if name.isEmpty then .error { status := 400, error := some "name is required" } else .ok name

/-- A change to the lists, which may be refused by itself or by the
configuration it finds. -/
abbrev ListEdit := Except ApiError (Config → Except ApiError Config)

def createAccessList (id : Text) (body : AccessListBody) : ListEdit := do
  let name ← normalizeName body.name
  .ok fun config =>
    .ok { config with
          accessLists := config.accessLists ++
            [{ id, name, description := Text.trimmedNonEmpty body.description,
               geoip := body.geoip.normalized }] }

def putAccessList (id : Text) (body : AccessListBody) : ListEdit := do
  let name ← normalizeName body.name
  let geoip := body.geoip.normalized
  .ok fun config =>
    match config.accessLists.findIdx? fun list => list.id == id with
    | none => .error notFound
    | some index =>
      .ok { config with
            accessLists := config.accessLists.modify index fun list =>
              { list with
                name, description := Text.trimmedNonEmpty body.description, geoip }
            sites := config.sites.map fun site =>
              if site.accessListId == some id then { site with geoip } else site }

def deleteAccessList (id : Text) : ListEdit :=
  .ok fun config =>
    let accessLists := config.accessLists.filter fun list => list.id != id
    if accessLists.length = config.accessLists.length then .error notFound
    else
      .ok { config with
            accessLists
            sites := config.sites.map fun site =>
              if site.accessListId == some id then { site with accessListId := none }
              else site }

def createWafPolicy (id : Text) (body : WafPolicyBody) : ListEdit := do
  let name ← normalizeName body.name
  .ok fun config =>
    .ok { config with
          wafPolicies := config.wafPolicies ++
            [{ id, name, description := Text.trimmedNonEmpty body.description,
               security := body.security.normalized }] }

def putWafPolicy (id : Text) (body : WafPolicyBody) : ListEdit := do
  let name ← normalizeName body.name
  let security := body.security.normalized
  .ok fun config =>
    match config.wafPolicies.findIdx? fun policy => policy.id == id with
    | none => .error notFound
    | some index =>
      .ok { config with
            wafPolicies := config.wafPolicies.modify index fun policy =>
              { policy with
                name, description := Text.trimmedNonEmpty body.description, security }
            sites := config.sites.map fun site =>
              if site.wafPolicyId == some id then { site with security } else site }

def deleteWafPolicy (id : Text) : ListEdit :=
  .ok fun config =>
    let wafPolicies := config.wafPolicies.filter fun policy => policy.id != id
    if wafPolicies.length = config.wafPolicies.length then .error notFound
    else
      .ok { config with
            wafPolicies
            sites := config.sites.map fun site =>
              if site.wafPolicyId == some id then { site with wafPolicyId := none }
              else site }

section

variable (admin : Admin)

/-- The running configuration; in ingress mode the lists come from the
database. -/
def loadConfig : Action ApiError Config := do
  let config ← read Server.runtimeConfig
  if admin.viewerMode then
    let failed ← always (Routine.fails (.earlier .loadConfig))
    let stored ← read fun server => server.database.config
    pure (match failed, stored with
      | false, some stored =>
        { config with accessLists := stored.accessLists, wafPolicies := stored.wafPolicies }
      | _, _ => config)
  else pure config

/-- Persist the lists and activate. In ingress mode only the lists are saved,
and only the routes are applied. -/
def saveAndActivate (config : Config) : Action ApiError PUnit :=
  if admin.viewerMode then do
    let failed ← always (Routine.fails .loadConfig)
    let stored ← read fun server => server.database.config
    let stored := (if failed then none else stored).getD {}
    adapt (fun _ => { status := 500 })
      (saveProxyConfig
        { stored with accessLists := config.accessLists, wafPolicies := config.wafPolicies })
    adapt (fun error => { status := 400, error := some error.message })
      (applyConfig admin config)
    modify fun server => { server with runtimeConfig := config }
  else
    saveThenActivate admin (fun _ => { status := 500 }) (fun _ => { status := 400 }) config

/-- The common course of all changes: an edit that is refused is an error;
otherwise the edited configuration is saved and activated. -/
def changeLists (edit : ListEdit) : Action ApiError PUnit := do
  requireDb admin
  let edit ← check edit
  let config ← loadConfig admin
  let config ← check (edit config)
  saveAndActivate admin config

def accessListsCreate (id : Text) (body : AccessListBody) : Action ApiError PUnit :=
  changeLists admin (createAccessList id body)

def accessListsPut (id : Text) (body : AccessListBody) : Action ApiError PUnit :=
  changeLists admin (putAccessList id body)

def accessListsDelete (id : Text) : Action ApiError PUnit :=
  changeLists admin (deleteAccessList id)

def wafPoliciesCreate (id : Text) (body : WafPolicyBody) : Action ApiError PUnit :=
  changeLists admin (createWafPolicy id body)

def wafPoliciesPut (id : Text) (body : WafPolicyBody) : Action ApiError PUnit :=
  changeLists admin (putWafPolicy id body)

def wafPoliciesDelete (id : Text) : Action ApiError PUnit :=
  changeLists admin (deleteWafPolicy id)

end

/-! Restoring certificates and a configuration from a backup (`api/backup.rs`). -/

open Tls

structure BackupCertificate where
  hosts : List Text
  certPem : Text
  keyPem : Text
  sourceType : Text
deriving DecidableEq

structure ProxyBackup where
  config : Config
  certificates : List BackupCertificate
deriving DecidableEq

/-- The request; a backup that cannot be parsed is missing. -/
structure RestoreBackupBody where
  data : Option ProxyBackup
  merge : Bool := false
deriving DecidableEq

inductive PersistError where
  | save
  | activate (error : ActivateError)
deriving DecidableEq

inductive RestoreError where
  | store (error : CertError)
  | certificate
  | config (error : PersistError)
deriving DecidableEq

structure RestoreResponse where
  restoredCount : Nat
  errors : List RestoreError
deriving DecidableEq

def mergeProxyConfig (merged backup : Config) : Config :=
  let sorted (hosts : List Text) := hosts.insertionSort (· ≤ ·)
  { merged with
    sites := merged.sites ++ backup.sites.filter fun site =>
      !(merged.sites.map Site.host).contains site.host
    backends := merged.backends ++ backup.backends.filter fun backend =>
      !(merged.backends.map Backend.name).contains backend.name
    tls := merged.tls ++ backup.tls.filter fun tls =>
      !(merged.tls.map fun other => sorted other.hosts).contains (sorted tls.hosts) }

def ProxyBackup.configToSave (backup : ProxyBackup) (merge : Bool) (current : Config) : Config :=
  (if merge then mergeProxyConfig current backup.config
  else backup.config).withNormalizedTls

section

variable (admin : Admin)

def persistProxyConfig (config : Config) : Action PersistError PUnit :=
  saveThenActivate admin (fun _ => .save) .activate config

/-- Add one certificate under a new id and map it. The row counts as restored
even when it cannot be mapped. -/
def restoreCertificate (id : Text) (cert : BackupCertificate) (response : RestoreResponse) :
    Routine Call Server RestoreResponse := do
  let added ← (rename Call.earlier
    (addCertificate admin id cert.hosts cert.certPem cert.keyPem cert.sourceType)).run
  match added with
  | .error _ => pure { response with errors := response.errors ++ [.certificate] }
  | .ok id =>
    let inserted ← (rename Call.earlier
      (insertPemForHosts admin cert.hosts cert.certPem.asBytes cert.keyPem.asBytes id)).run
    pure (match inserted with
      | .error error =>
        { restoredCount := response.restoredCount + 1
          errors := response.errors ++ [.store error] }
      | .ok _ => { response with restoredCount := response.restoredCount + 1 })

def restoreCertificates :
    List (Text × BackupCertificate) → RestoreResponse → Routine Call Server RestoreResponse
  | [], response => pure response
  | (id, cert) :: rest, response => do
      let response ← restoreCertificate admin id cert response
      restoreCertificates rest response

/-- The certificates of a backup to restore: merging skips those with a host
that has a certificate. -/
def certificatesToRestore (merge : Bool) (existing : List Text)
    (certificates : List (Text × BackupCertificate)) : List (Text × BackupCertificate) :=
  certificates.filter fun cert => !(merge && cert.2.hosts.any existing.contains)

def ProxyBackup.drawn (backup : ProxyBackup) (draw : Nat → Text) :
    List (Text × BackupCertificate) :=
  backup.certificates.zipIdx.map fun cert => (draw cert.2, cert.1)

def proxyBackupRestore (draw : Nat → Text) (body : RestoreBackupBody) :
    Action ApiError RestoreResponse := do
  check
    (if admin.hasDatabase then .ok ()
    else .error { status := 503, error := some "Database not configured" })
  match body.data with
  | none => check (.error { status := 400, error := some "Invalid backup format" })
  | some backup =>
    let failed ← always (Routine.fails .listCertificates)
    let rows ← read fun server => server.database.certificates
    let existing := if failed then [] else rows.flatMap CertificateRow.hosts
    let certificates := certificatesToRestore body.merge existing (backup.drawn draw)
    let response ← always (restoreCertificates admin certificates ⟨0, []⟩)
    let current ← read Server.runtimeConfig
    let persisted ← always
      (persistProxyConfig admin (backup.configToSave body.merge current)).run
    pure (match persisted with
      | .ok _ => { response with restoredCount := response.restoredCount + 1 }
      | .error error => { response with errors := response.errors ++ [.config error] })

/-- Restore a backup. In ingress mode the objects of the cluster are restored,
and nothing of the server. -/
def backupRestore (authorized : Bool) (draw : Nat → Text) (body : RestoreBackupBody) :
    Action ApiError RestoreResponse := do
  check (if authorized then .ok () else .error { status := 401 })
  if admin.viewerMode then do
    call .kubernetes { status := 503 }
    pure ⟨0, []⟩
  else proxyBackupRestore admin draw body

end

/-! All ways to change the running configuration by a request or by the routes file. -/

open Proxy Router RoutesConfig

section

variable (admin : Admin)

def putConfig (body : Config) : Action ApiError PUnit := do
  check
    (if admin.viewerMode then
      .error
        { status := 403
          error := some "config is read-only in ingress mode; manage via Kubernetes" }
    else .ok ())
  requireDb admin
  saveThenActivate admin (fun _ => { status := 500 }) (fun _ => { status := 400 })
    body.withNormalizedTls

inductive RoutesReloadError where
  | load (error : RoutesError)
  | certificates (error : CertError)
deriving DecidableEq

def reloadRoutes (parsers : RouteParsers) (content : Option Text) :
    Action RoutesReloadError PUnit := do
  let loaded ← check ((load admin.platform parsers content).mapError .load)
  replaceAll loaded.table loaded.http3
  adapt .certificates (reloadFromConfigs admin loaded.tls)

end

inductive ConfigChange where
  | putConfig (body : Config)
  | accessListsCreate (id : Text) (body : AccessListBody)
  | accessListsPut (id : Text) (body : AccessListBody)
  | accessListsDelete (id : Text)
  | wafPoliciesCreate (id : Text) (body : WafPolicyBody)
  | wafPoliciesPut (id : Text) (body : WafPolicyBody)
  | wafPoliciesDelete (id : Text)
  | backupRestore (authorized : Bool) (draw : Nat → Text) (body : RestoreBackupBody)
  | reloadRoutes (parsers : RouteParsers) (content : Option Text)

/-- Carry out a change; all that is kept of an error is that there was one. A
restore that reports errors has failed. -/
def ConfigChange.run (admin : Admin) : ConfigChange → Action Unit PUnit
  | .putConfig body => adapt (fun _ => ()) (Api.putConfig admin body)
  | .accessListsCreate id body =>
    adapt (fun _ => ()) (Api.accessListsCreate admin id body)
  | .accessListsPut id body => adapt (fun _ => ()) (Api.accessListsPut admin id body)
  | .accessListsDelete id => adapt (fun _ => ()) (Api.accessListsDelete admin id)
  | .wafPoliciesCreate id body =>
    adapt (fun _ => ()) (Api.wafPoliciesCreate admin id body)
  | .wafPoliciesPut id body => adapt (fun _ => ()) (Api.wafPoliciesPut admin id body)
  | .wafPoliciesDelete id => adapt (fun _ => ()) (Api.wafPoliciesDelete admin id)
  | .backupRestore authorized draw body => do
      let response ← adapt (fun _ => ())
        (Api.backupRestore admin authorized draw body)
      check (if response.errors.isEmpty then .ok ⟨⟩ else .error ())
  | .reloadRoutes parsers content =>
    adapt (fun _ => ()) (Api.reloadRoutes admin parsers content)

end PertiskProxy.Api
