import PertiskProxy.Ingress.Targets

/-! What a further object does to the routes of the others. -/

namespace PertiskProxy.Ingress

open ProxyConfig Proxy Router Option

section

variable {controller : IngressController} {answers : Answers} {secrets : SecretHosts}
  {live : Live}

def Live.routesOf (live : Live) (key : Text) : List Route :=
  (live.table.routes.get? key).getD []

theorem table_install (config : Config) (live : Live) :
    (controller.install config live).table =
      Fallible.getD (configToRouteTable controller.platform config) live.table := by
  unfold IngressController.install
  split
  · next failed => rw [failed]; rfl
  · next built => rw [built]; rfl

theorem runtimeConfig_dropObsolete (loaded : Loaded) (live : Live) :
    (dropObsolete loaded live).runtimeConfig = live.runtimeConfig ∧
      (dropObsolete loaded live).table = live.table := by
  unfold dropObsolete
  split <;> exact ⟨rfl, rfl⟩

theorem table_reconcile (listed : answers.ingresses.isSome = true) :
    (controller.reconcile answers secrets live).table = Fallible.getD
        (configToRouteTable controller.platform
          (controller.configFor (answers.references controller.config)
            (loadSecrets controller.parsers answers secrets live.certStore).tls
            live.runtimeConfig))
        live.table := by
  rcases isSome_iff_exists.mp listed with ⟨ingresses, equal⟩
  simp only [IngressController.reconcile, equal]
  rw [table_install, (runtimeConfig_dropObsolete _ _).1, (runtimeConfig_dropObsolete _ _).2]

theorem routesOf_reconcile (listed : answers.ingresses.isSome = true)
    (resolves : Resolves controller (answers.references controller.config)) (key : Text) :
    (controller.reconcile answers secrets live).routesOf key =
      RouteTable.sortRoutes ((hosted controller (answers.references controller.config) key).filterMap
        (routeOf controller live.runtimeConfig (answers.references controller.config))) := by
  have succeeds := (isOk_table_iff _
    (loadSecrets controller.parsers answers secrets live.certStore).tls
    live.runtimeConfig).mpr resolves
  rw [Live.routesOf, table_reconcile listed]
  exact get?_routes_configFor (Fallible.eq_ok_getD succeeds live.table) key

theorem table_reconcile_of_unresolved
    (unresolved : ¬Resolves controller (answers.references controller.config)) :
    (controller.reconcile answers secrets live).table = live.table := by
  cases equal : answers.ingresses with
  | none => simp [IngressController.reconcile, equal]
  | some ingresses =>
    rw [table_reconcile (by simp [equal])]
    cases built : configToRouteTable controller.platform
        (controller.configFor (answers.references controller.config)
          (loadSecrets controller.parsers answers secrets live.certStore).tls
          live.runtimeConfig) with
    | error error => rfl
    | ok table =>
      have resolves := (isOk_table_iff _ _ _).mp
        (by rw [built]; rfl : (configToRouteTable controller.platform
          (controller.configFor (answers.references controller.config)
            (loadSecrets controller.parsers answers secrets live.certStore).tls
            live.runtimeConfig)).isOk = true)
      exact absurd resolves unresolved

end

/-! ## Adding an object -/

inductive ClusterObject where
  | ingress (object : IngressObject)
  | httproute (route : HttpRoute)

def insertAt (position : Nat) (value : α) (values : List α) : List α :=
  values.take position ++ value :: values.drop position

/-- The answers of a cluster with one more object, anywhere in its list. -/
def Answers.withObject (answers : Answers) (position : Nat) : ClusterObject → Answers
  | .ingress object =>
    { answers with ingresses := answers.ingresses.map (insertAt position object) }
  | .httproute route => { answers with routes := answers.routes.map (insertAt position route) }

section

variable (controller : IngressController) (answers : Answers)

def addedReferences : ClusterObject → List Reference
  | .ingress object => ingressReferences controller.config object
  | .httproute route =>
    if answers.routes.isSome then
      routeReferences (answers.managed controller.config) route
    else []

theorem flatMap_insertAt (view : α → List β) (position : Nat) (value : α)
    (values : List α) : ∃ before after, values.flatMap view = before ++ after ∧
      (insertAt position value values).flatMap view = before ++ view value ++ after := by
  refine ⟨(values.take position).flatMap view, (values.drop position).flatMap view, ?_, ?_⟩
  · rw [← List.flatMap_append, List.take_append_drop]
  · simp [insertAt]

theorem references_withObject (listed : answers.ingresses.isSome = true) (position : Nat)
    (object : ClusterObject) :
    ∃ before after, answers.references controller.config = before ++ after ∧
      (answers.withObject position object).references controller.config =
        before ++ addedReferences controller answers object ++ after := by
  rcases isSome_iff_exists.mp listed with ⟨ingresses, equal⟩
  rw [Answers.references_eq, Answers.references_eq, equal]
  cases object with
  | ingress object =>
    rcases flatMap_insertAt (ingressReferences controller.config) position object ingresses
      with ⟨before, after, without, added⟩
    refine ⟨before, after ++ (answers.routes.getD []).flatMap
      (routeReferences (answers.managed controller.config)), ?_, ?_⟩
    · rw [getD_some, without, List.append_assoc]
    · simp only [Answers.withObject, equal, map_some, getD_some, added,
        List.append_assoc]
      rfl
  | httproute route =>
    have same : (answers.withObject position (.httproute route)).managed
        controller.config = answers.managed controller.config := rfl
    rw [same]
    cases routes : answers.routes with
    | none =>
      refine ⟨_, [], (List.append_nil _).symm, ?_⟩
      simp [Answers.withObject, routes, equal, addedReferences]
    | some listed =>
      rcases flatMap_insertAt (routeReferences (answers.managed controller.config))
        position route listed with ⟨before, after, without, added⟩
      refine ⟨ingresses.flatMap (ingressReferences controller.config) ++ before, after, ?_, ?_⟩
      · rw [getD_some, getD_some, without, List.append_assoc]
      · simp [Answers.withObject, routes, equal, added, addedReferences]

/-- The routes for the hosts of a cluster are the same with and without a
further object, whatever was active before. -/
def Undisturbed (position : Nat) (object : ClusterObject) : Prop :=
  ∀ live secrets extended, controller.Loads answers secrets →
    controller.Loads (answers.withObject position object) extended →
      ∀ reference ∈ answers.references controller.config, hostKeyOf controller reference ≠ [] →
        (controller.reconcile (answers.withObject position object) extended live).routesOf
            (hostKeyOf controller reference) =
          (controller.reconcile answers secrets live).routesOf (hostKeyOf controller reference)

/-- References that leave others alone: either all have targets in both cases
or some have none in both, and in the first case the others keep their targets
and share no host with them. -/
structure Harmless (others added all : List Reference) : Prop where
  resolves : Resolves controller all ↔ Resolves controller others
  targets : Resolves controller others → ∀ reference ∈ others,
    hostKeyOf controller reference ≠ [] →
      targetOf controller all reference = targetOf controller others reference
  hosts : Resolves controller others → ∀ reference ∈ others,
    hostKeyOf controller reference ≠ [] →
      ∀ extra ∈ added, hostKeyOf controller extra ≠ hostKeyOf controller reference

variable {controller} {answers}

theorem hosted_append (left right : List Reference) (key : Text) :
    hosted controller (left ++ right) key =
      hosted controller left key ++ hosted controller right key :=
  List.filter_append ..

theorem hosted_eq_nil_iff (named : key ≠ []) : hosted controller references key = [] ↔
      ∀ reference ∈ references, hostKeyOf controller reference ≠ key := by
  rw [hosted, List.filter_eq_nil_iff]
  simp [named]

theorem targets_routesOf {secrets : SecretHosts} {live : Live}
    (listed : answers.ingresses.isSome = true)
    (resolves : Resolves controller (answers.references controller.config)) (key : Text) :
    ((controller.reconcile answers secrets live).routesOf key).map
        (fun route => some route.backend) =
      (ordered controller (answers.references controller.config) key).map
        (targetOf controller (answers.references controller.config)) := by
  have succeeds := (isOk_table_iff _
    (loadSecrets controller.parsers answers secrets live.certStore).tls
    live.runtimeConfig).mpr resolves
  have paired := (forall₂_routes_iff (fun reference route => some route.backend =
      targetOf controller (answers.references controller.config) reference)
    (Fallible.eq_ok_getD succeeds live.table)).mpr (by
      intro reference _ _ route made
      rcases map_eq_some_iff.mp made with ⟨target, found, equal⟩
      rw [found, ← equal]
      rfl)
  rw [Live.routesOf, table_reconcile listed, ← List.forall₂_eq_eq_eq,
    List.forall₂_map_left_iff, List.forall₂_map_right_iff]
  exact (paired key).flip

theorem routesOf_ne_nil (listed : answers.ingresses.isSome = true)
    (resolves : Resolves controller (answers.references controller.config))
    (member : reference ∈ answers.references controller.config)
    (named : hostKeyOf controller reference ≠ []) :
    (controller.reconcile answers secrets live).routesOf (hostKeyOf controller reference) ≠
      [] := by
  intro empty
  have targets := @targets_routesOf controller answers secrets live listed resolves
    (hostKeyOf controller reference)
  rw [empty, List.map_nil, eq_comm, List.map_eq_nil_iff] at targets
  have present := mem_ordered.mpr ⟨member, rfl, named⟩
  rw [targets] at present
  cases present

theorem agree_of_targets_eq {added before after : List Reference} {key : Text}
    (named : key ≠ []) (targets : (ordered controller (before ++ added ++ after) key).map
        (targetOf controller (before ++ added ++ after)) =
      (ordered controller (before ++ after) key).map (targetOf controller (before ++ after))) :
    (∀ extra ∈ added, hostKeyOf controller extra ≠ key) ∧
      ∀ reference ∈ before ++ after, hostKeyOf controller reference = key →
        targetOf controller (before ++ added ++ after) reference =
          targetOf controller (before ++ after) reference := by
  have nobody : hosted controller added key = [] := by
    have lengths := congrArg List.length targets
    simp only [List.length_map, ordered, List.length_insertionSort, hosted_append,
      List.length_append] at lengths
    rw [← List.length_eq_zero_iff]
    omega
  have same : ordered controller (before ++ added ++ after) key =
      ordered controller (before ++ after) key := by
    simp [ordered, hosted_append, nobody]
  refine ⟨(hosted_eq_nil_iff named).mp nobody, ?_⟩
  intro reference member equal
  rw [same, List.map_inj_left] at targets
  exact targets reference (mem_ordered.mpr ⟨member, equal, named⟩)

theorem routes_eq_of_harmless
    (harmless : Harmless controller (before ++ after) added (before ++ added ++ after))
    (resolves : Resolves controller (before ++ after)) (member : reference ∈ before ++ after)
    (named : hostKeyOf controller reference ≠ []) :
    (hosted controller (before ++ added ++ after) (hostKeyOf controller reference)).filterMap
        (routeOf controller inUse (before ++ added ++ after)) =
      (hosted controller (before ++ after) (hostKeyOf controller reference)).filterMap
        (routeOf controller inUse (before ++ after)) := by
  have nobody : hosted controller added (hostKeyOf controller reference) = [] :=
    (hosted_eq_nil_iff named).mpr (harmless.hosts resolves reference member named)
  have same : hosted controller (before ++ added ++ after) (hostKeyOf controller reference) =
      hosted controller (before ++ after) (hostKeyOf controller reference) := by
    simp [hosted_append, nobody]
  rw [same]
  apply List.filterMap_congr
  intro other present
  rcases mem_hosted.mp present with ⟨listed, equal, _⟩
  rw [routeOf, routeOf, harmless.targets resolves other listed (equal ▸ named)]

theorem isSome_withObject (listed : answers.ingresses.isSome = true) (position : Nat)
    (object : ClusterObject) : (answers.withObject position object).ingresses.isSome = true := by
  cases object with
  | ingress object => simpa [Answers.withObject] using listed
  | httproute route => exact listed

theorem harmless_of_undisturbed (listed : answers.ingresses.isSome = true)
    (undisturbed : Undisturbed controller answers position object)
    (present : witness ∈ answers.references controller.config)
    (named : hostKeyOf controller witness ≠ []) :
    Harmless controller (answers.references controller.config)
      (addedReferences controller answers object)
      ((answers.withObject position object).references controller.config) := by
  have listedToo := isSome_withObject listed position object
  have passes := undisturbed {} _ _ (List.Perm.refl _) (List.Perm.refl _)
  rcases references_withObject controller answers listed position object with
    ⟨before, after, without, extended⟩
  have presentToo : witness ∈
      (answers.withObject position object).references controller.config := by
    rw [extended]
    rw [without] at present
    simp only [List.mem_append] at present ⊢
    tauto
  have resolves : Resolves controller
      ((answers.withObject position object).references controller.config) ↔
        Resolves controller (answers.references controller.config) := by
    -- From an empty table, only a pass that replaces it leaves routes.
    have equal := passes witness present named
    constructor
    · intro resolves
      by_contra unresolved
      apply routesOf_ne_nil listedToo resolves presentToo named
      rw [equal, Live.routesOf, table_reconcile_of_unresolved unresolved]
      rfl
    · intro resolves
      by_contra unresolved
      apply routesOf_ne_nil listed resolves present named
      rw [← equal, Live.routesOf, table_reconcile_of_unresolved unresolved]
      rfl
  have agree : Resolves controller (answers.references controller.config) →
      ∀ reference ∈ answers.references controller.config,
        hostKeyOf controller reference ≠ [] →
          (∀ extra ∈ addedReferences controller answers object,
            hostKeyOf controller extra ≠ hostKeyOf controller reference) ∧
          targetOf controller
              ((answers.withObject position object).references controller.config) reference =
            targetOf controller (answers.references controller.config) reference := by
    intro resolved reference member named
    have equal := congrArg (List.map fun route => some route.backend)
      (passes reference member named)
    rw [targets_routesOf listedToo (resolves.mpr resolved),
      targets_routesOf listed resolved, extended, without] at equal
    rcases agree_of_targets_eq named equal with ⟨apart, same⟩
    rw [extended]
    rw [without] at member ⊢
    exact ⟨apart, same reference member rfl⟩
  exact
    { resolves
      targets := fun resolved reference member named =>
        (agree resolved reference member named).2
      hosts := fun resolved reference member named =>
        (agree resolved reference member named).1 }

/-- A further object leaves the routes of the others alone exactly when none of
them has a host or its references are harmless. -/
theorem undisturbed_iff (listed : answers.ingresses.isSome = true) (position : Nat)
    (object : ClusterObject) : Undisturbed controller answers position object ↔
      (∀ reference ∈ answers.references controller.config, hostKeyOf controller reference = []) ∨
      Harmless controller (answers.references controller.config)
        (addedReferences controller answers object)
        ((answers.withObject position object).references controller.config) := by
  constructor
  · intro undisturbed
    by_cases hosts : ∀ reference ∈ answers.references controller.config,
        hostKeyOf controller reference = []
    · exact .inl hosts
    · right
      push Not at hosts
      rcases hosts with ⟨witness, present, named⟩
      exact harmless_of_undisturbed listed undisturbed present named
  rintro (hostless | harmless) live secrets extendedSecrets _ _ reference member named
  · exact absurd (hostless reference member) named
  by_cases resolves : Resolves controller (answers.references controller.config)
  · rw [routesOf_reconcile (isSome_withObject listed position object)
      (harmless.resolves.mpr resolves), routesOf_reconcile listed resolves]
    rcases references_withObject controller answers listed position object with
      ⟨before, after, without, extended⟩
    rw [without] at harmless resolves member ⊢
    rw [extended] at harmless ⊢
    rw [routes_eq_of_harmless harmless resolves member named]
  · rw [Live.routesOf, Live.routesOf, table_reconcile_of_unresolved resolves,
      table_reconcile_of_unresolved fun extended =>
        resolves (harmless.resolves.mp extended)]

theorem separate_object_undisturbed :
    let controller : IngressController := ⟨default, .byHeader, {}⟩
    let answers : Answers :=
      { ingresses := some [.single "a" "web" "a.example" (.toService "api")] }
    Undisturbed controller answers 1
      (.ingress (.single "b" "shop" "b.example" (.toService "cart"))) := by
  intro controller answers
  refine (undisturbed_iff rfl 1 _).mpr (.inr ⟨?_, ?_, ?_⟩)
  · unfold Resolves
    decide
  · intro _
    decide
  · intro _
    decide

/-- An Ingress whose backend is a resource keeps the routes of every other
object from being installed. -/
theorem resource_backend_disturbs :
    let controller : IngressController := ⟨default, .byHeader, {}⟩
    let answers : Answers :=
      { ingresses := some [.single "a" "web" "a.example" (.toService "api")] }
    let object : ClusterObject :=
      .ingress (.single "b" "shop" "b.example" { resource := some "assets" })
    let extended := answers.withObject 1 object
    (addedReferences controller answers object).map Reference.host = ["b.example".toList] ∧
      ((controller.reconcile answers (answers.tlsSecrets controller.config) {}).routesOf
        "a.example").map (fun route => route.backend.address) =
          ["api.a.svc.cluster.local:8080".toList] ∧
      (controller.reconcile extended (extended.tlsSecrets controller.config) {}).routesOf
        "a.example" = [] := by
  decide

end

end PertiskProxy.Ingress
