import JolCommerce.Catalog.Catalog
import JolCommerce.Run.Invariant

/-! Over every run of registrations and seedings a catalog holds what its vertical permits. -/

namespace JolCommerce

open Python

/-- A call that changes a catalog. -/
inductive CatalogCall where
  | addService (service : Service)
  | addProduct (product : Product)
  | seed (tenantId currency : String)

namespace CatalogRepository

/-- The catalog after a call, whether it returned or raised. -/
def step (repository : CatalogRepository) : CatalogCall → CatalogRepository
  | .addService service => stateAfter (addService service) repository
  | .addProduct product => stateAfter (addProduct product) repository
  | .seed tenantId currency => stateAfter (seedDefaultCatalog tenantId currency) repository

/-- The catalog after calls one after another. -/
def run (repository : CatalogRepository) (calls : List CatalogCall) : CatalogRepository :=
  calls.foldl step repository

section Add

variable {Item : Type} {permitted : TenantVertical → Item → Bool}
  {refusal : TenantVertical → Item → String} {place : CatalogRepository → Item → CatalogRepository}

/-- A permitted item is placed. -/
theorem run_add_permitted {repository : CatalogRepository} {item : Item}
    (allowed : permitted repository.vertical item = true) :
    (add permitted refusal place item).run repository = .ok item (place repository item) := by
  simp only [add, EStateM.run_bind, EStateM.run_get, allowed, if_true, EStateM.run_modify]
  rfl

/-- Any other item is refused, and the catalog stays as it is. -/
theorem run_add_refused {repository : CatalogRepository} {item : Item}
    (refused : permitted repository.vertical item = false) :
    (add permitted refusal place item).run repository =
      .error (.valueError (refusal repository.vertical item)) repository := by
  simp [add, refused]

/--
A loop over permitted items places them all and counts them.

The store that the items are placed in is one part of the catalog, which `put` puts back.
-/
theorem run_addAll {α : Type} {build : α → Item} {name : Item → String}
    (put : Dict String Item → CatalogRepository)
    (places : ∀ dict item, place (put dict) item = put (dict.set (name item) item))
    {names : List α} (allowed : ∀ dict, ∀ item ∈ names, permitted (put dict).vertical (build item) = true)
    (count : Nat) (dict : Dict String Item) :
    (names.foldlM (fun seeded item => do
      let _ ← add permitted refusal place (build item)
      return seeded + 1) count).run (put dict) =
      .ok (count + names.length)
        (put (dict.update (names.map fun item => (name (build item), build item)))) := by
  -- One item after another, each into the store that the items before it left.
  induction names generalizing dict count with
  | nil => rfl
  | cons first rest ih =>
    have later : ∀ dict, ∀ item ∈ rest, permitted (put dict).vertical (build item) = true :=
      fun dict item member => allowed dict item (List.mem_cons_of_mem _ member)
    simp only [List.foldlM_cons, EStateM.run_bind,
      run_add_permitted (allowed dict first List.mem_cons_self), EStateM.run_pure, places, ih later,
      List.length_cons, List.map_cons]
    rw [Nat.add_assoc, Nat.add_comm 1]
    rfl

end Add

/-- What the catalog holds is stored under its own id, and its vertical permits it. -/
structure Governed (repository : CatalogRepository) : Prop where
  services : ∀ id service, repository.services.get? id = some service →
    service.serviceId = id ∧ service.serviceType ∈ verticalServiceTypes repository.vertical
  products : ∀ id product, repository.products.get? id = some product →
    product.productId = id ∧ product.productKind ∈ verticalProductKinds repository.vertical

/-- A new catalog holds nothing. -/
theorem governed_new (vertical : TenantVertical) : (new vertical).Governed := by
  constructor <;> intro id item found <;> cases found

/-- A permitted service may be placed. -/
theorem Governed.withService {repository : CatalogRepository} (governed : repository.Governed)
    {service : Service} (allowed : permitsService repository.vertical service = true) :
    (repository.withService service).Governed := by
  refine ⟨?_, governed.products⟩
  intro id found place
  simp only [CatalogRepository.withService, Dict.get?_set] at place
  split at place
  · rename_i same
    cases place
    exact ⟨same.symm, of_decide_eq_true allowed⟩
  · exact governed.services id found place

/-- So may a permitted product. -/
theorem Governed.withProduct {repository : CatalogRepository} (governed : repository.Governed)
    {product : Product} (allowed : permitsProduct repository.vertical product = true) :
    (repository.withProduct product).Governed := by
  refine ⟨governed.services, ?_⟩
  intro id found place
  simp only [CatalogRepository.withProduct, Dict.get?_set] at place
  split at place
  · rename_i same
    cases place
    exact ⟨same.symm, of_decide_eq_true allowed⟩
  · exact governed.products id found place

section Seeding

variable (tenantId currency : String)

/-- The services that are seeded for a vertical, under their ids. -/
def serviceEntries (vertical : TenantVertical) : List (String × Service) :=
  (sortedTypes (verticalServiceTypes vertical)).map fun serviceType =>
    ((defaultService tenantId currency serviceType).serviceId,
      defaultService tenantId currency serviceType)

/-- The products that are seeded for a vertical, under their ids. -/
def productEntries (vertical : TenantVertical) : List (String × Product) :=
  (sortedTexts (verticalProductKinds vertical)).map fun kind =>
    ((defaultProduct tenantId currency kind).productId, defaultProduct tenantId currency kind)

/-- The store of services replaced. -/
def putServices (repository : CatalogRepository) (services : Dict String Service) :
    CatalogRepository :=
  { repository with services := services }

/-- The store of products replaced. -/
def putProducts (repository : CatalogRepository) (products : Dict String Product) :
    CatalogRepository :=
  { repository with products := products }

/-- The catalog once it is seeded. -/
def seeded (repository : CatalogRepository) : CatalogRepository where
  vertical := repository.vertical
  services := repository.services.update (serviceEntries tenantId currency repository.vertical)
  products := repository.products.update (productEntries tenantId currency repository.vertical)

/-- Seeding returns, with one item for every type and kind that the vertical permits. -/
theorem run_seedDefaultCatalog (repository : CatalogRepository) :
    (seedDefaultCatalog tenantId currency).run repository =
      .ok ((verticalServiceTypes repository.vertical).length +
        (verticalProductKinds repository.vertical).length)
        (repository.seeded tenantId currency) := by
  rcases repository with ⟨vertical, services, products⟩
  let start : CatalogRepository := ⟨vertical, services, products⟩
  have types : ∀ services, ∀ serviceType ∈ sortedTypes (verticalServiceTypes vertical),
      permitsService (start.putServices services).vertical
        (defaultService tenantId currency serviceType) = true :=
    fun _ _ member => decide_eq_true ((List.mem_insertionSort _).mp member)
  have kinds : ∀ products, ∀ kind ∈ sortedTexts (verticalProductKinds vertical),
      permitsProduct ((start.seeded tenantId currency).putProducts products).vertical
        (defaultProduct tenantId currency kind) = true :=
    fun _ _ member => decide_eq_true ((List.mem_insertionSort _).mp member)
  -- The services are placed first, and the products count on from there.
  have placed : ((sortedTypes (verticalServiceTypes vertical)).foldlM (fun seeded serviceType => do
      let _ ← addService (defaultService tenantId currency serviceType)
      return seeded + 1) 0).run ⟨vertical, services, products⟩ = _ :=
    run_addAll start.putServices (fun _ _ => rfl) types 0 services
  have shelved : ((sortedTexts (verticalProductKinds vertical)).foldlM (fun seeded kind => do
      let _ ← addProduct (defaultProduct tenantId currency kind)
      return seeded + 1) (0 + (sortedTypes (verticalServiceTypes vertical)).length)).run
      (start.putServices (services.update (serviceEntries tenantId currency vertical))) = _ :=
    run_addAll (start.seeded tenantId currency).putProducts (fun _ _ => rfl) kinds _ products
  have counts : 0 + (sortedTypes (verticalServiceTypes vertical)).length +
      (sortedTexts (verticalProductKinds vertical)).length =
      (verticalServiceTypes vertical).length + (verticalProductKinds vertical).length := by
    rw [sortedTypes, sortedTexts, List.length_insertionSort, List.length_insertionSort,
      Nat.zero_add]
  rw [counts] at shelved
  simp only [seedDefaultCatalog, EStateM.run_bind, EStateM.run_get, placed]
  exact shelved

/-- The ids of one family of seeded items are those of its texts behind a common start. -/
theorem nodup_ids {α : Type} {text : α → String} {names : List α} (start : String)
    (distinct : (names.map text).Nodup) : (names.map fun name => start ++ text name).Nodup := by
  have composed : names.map (fun name => start ++ text name) =
      (names.map text).map fun tail => start ++ tail := by
    rw [List.map_map]
    rfl
  rw [composed]
  exact distinct.map fun _ _ same => String.append_right_inj start |>.mp same

/-- No two permitted types have one text, in whatever order they come. -/
theorem nodup_typeTexts (vertical : TenantVertical) :
    ((sortedTypes (verticalServiceTypes vertical)).map ServiceType.value).Nodup := by
  have permuted := (List.perm_insertionSort (fun first second : ServiceType =>
    first.value ≤ second.value) (verticalServiceTypes vertical)).map ServiceType.value
  rw [sortedTypes, permuted.nodup_iff]
  cases vertical <;> decide

/-- Nor have two permitted kinds. -/
theorem nodup_kinds (vertical : TenantVertical) :
    ((sortedTexts (verticalProductKinds vertical)).map id).Nodup := by
  rw [List.map_id, sortedTexts, (List.perm_insertionSort _ _).nodup_iff]
  cases vertical <;> decide

/-- Every seeded service has an id of its own. -/
theorem nodup_serviceEntries (vertical : TenantVertical) :
    ((serviceEntries tenantId currency vertical).map Prod.fst).Nodup := by
  rw [serviceEntries, List.map_map]
  exact nodup_ids ("svc-" ++ shortId tenantId ++ "-") (nodup_typeTexts vertical)

/-- So has every seeded product. -/
theorem nodup_productEntries (vertical : TenantVertical) :
    ((productEntries tenantId currency vertical).map Prod.fst).Nodup := by
  rw [productEntries, List.map_map]
  exact nodup_ids ("prd-" ++ shortId tenantId ++ "-") (nodup_kinds vertical)

/-- The service of every permitted type is among the entries. -/
theorem mem_serviceEntries {vertical : TenantVertical} {serviceType : ServiceType}
    (permitted : serviceType ∈ verticalServiceTypes vertical) :
    ((defaultService tenantId currency serviceType).serviceId,
      defaultService tenantId currency serviceType) ∈ serviceEntries tenantId currency vertical :=
  List.mem_map.mpr ⟨serviceType, (List.mem_insertionSort _).mpr permitted, rfl⟩

/-- The product of every permitted kind is too. -/
theorem mem_productEntries {vertical : TenantVertical} {kind : String}
    (permitted : kind ∈ verticalProductKinds vertical) :
    ((defaultProduct tenantId currency kind).productId, defaultProduct tenantId currency kind) ∈
      productEntries tenantId currency vertical :=
  List.mem_map.mpr ⟨kind, (List.mem_insertionSort _).mpr permitted, rfl⟩

/-- Seeding keeps a catalog governed. -/
theorem Governed.seeded {repository : CatalogRepository} (governed : repository.Governed) :
    (repository.seeded tenantId currency).Governed := by
  constructor
  · intro id service found
    rcases Dict.of_get?_update found with assigned | kept
    · obtain ⟨serviceType, member, same⟩ := List.mem_map.mp assigned
      cases same
      exact ⟨rfl, (List.mem_insertionSort _).mp member⟩
    · exact governed.services id service kept
  · intro id product found
    rcases Dict.of_get?_update found with assigned | kept
    · obtain ⟨kind, member, same⟩ := List.mem_map.mp assigned
      cases same
      exact ⟨rfl, (List.mem_insertionSort _).mp member⟩
    · exact governed.products id product kept

/-- Seeding a catalog again changes nothing, not even the order of its items. -/
theorem seeded_seeded (repository : CatalogRepository) :
    (repository.seeded tenantId currency).seeded tenantId currency =
      repository.seeded tenantId currency := by
  simp only [CatalogRepository.seeded, CatalogRepository.mk.injEq, true_and]
  exact ⟨Dict.update_update (nodup_serviceEntries tenantId currency _) _,
    Dict.update_update (nodup_productEntries tenantId currency _) _⟩

end Seeding

/-- Every call keeps a catalog governed, and the vertical stays what it is. -/
theorem Governed.step {repository : CatalogRepository} (governed : repository.Governed)
    (call : CatalogCall) :
    (repository.step call).Governed ∧ (repository.step call).vertical = repository.vertical := by
  cases call with
  | addService service =>
    cases allowed : permitsService repository.vertical service with
    | true =>
      rw [CatalogRepository.step, addService, stateAfter_ok (run_add_permitted allowed)]
      exact ⟨governed.withService allowed, rfl⟩
    | false =>
      rw [CatalogRepository.step, addService, stateAfter_error (run_add_refused allowed)]
      exact ⟨governed, rfl⟩
  | addProduct product =>
    cases allowed : permitsProduct repository.vertical product with
    | true =>
      rw [CatalogRepository.step, addProduct, stateAfter_ok (run_add_permitted allowed)]
      exact ⟨governed.withProduct allowed, rfl⟩
    | false =>
      rw [CatalogRepository.step, addProduct, stateAfter_error (run_add_refused allowed)]
      exact ⟨governed, rfl⟩
  | seed tenantId currency =>
    rw [CatalogRepository.step, stateAfter_ok (run_seedDefaultCatalog tenantId currency repository)]
    exact ⟨governed.seeded tenantId currency, rfl⟩

/-- So does every run. -/
theorem Governed.run {repository : CatalogRepository} (governed : repository.Governed)
    (calls : List CatalogCall) :
    (repository.run calls).Governed ∧ (repository.run calls).vertical = repository.vertical := by
  -- One call at a time.
  induction calls generalizing repository with
  | nil => exact ⟨governed, rfl⟩
  | cons call rest ih =>
    obtain ⟨next, kept⟩ := governed.step call
    obtain ⟨last, same⟩ := ih next
    exact ⟨last, same.trans kept⟩

/-- A text is sold in a catalog when it is the type of a service there. -/
def SellsService (repository : CatalogRepository) (text : String) : Prop :=
  ∃ id service, repository.services.get? id = some service ∧ service.serviceType.value = text

/-- Or when it is the kind of a product there. -/
def SellsProduct (repository : CatalogRepository) (text : String) : Prop :=
  ∃ id product, repository.products.get? id = some product ∧ product.productKind = text

/--
The capabilities that a tenant is shown are exactly what its catalog can come to hold.

Whatever is registered or seeded, nothing else gets in, and each of them does in some run.
Both lists are in ascending order.
-/
theorem capabilities_reachable (context : TenantContext) :
    ∃ response, getCatalogCapabilities (some context) = .ok response ∧
      response.serviceTypes.Pairwise (· ≤ ·) ∧ response.productKinds.Pairwise (· ≤ ·) ∧
      (∀ text, text ∈ response.serviceTypes ↔
        ∃ calls, ((new context.tenant.vertical).run calls).SellsService text) ∧
      ∀ text, text ∈ response.productKinds ↔
        ∃ calls, ((new context.tenant.vertical).run calls).SellsProduct text := by
  let vertical := context.tenant.vertical
  have seeding : (new vertical).run [.seed "" "EUR"] = (new vertical).seeded "" "EUR" :=
    stateAfter_ok (run_seedDefaultCatalog "" "EUR" (new vertical))
  refine ⟨_, rfl, List.pairwise_insertionSort _ _, List.pairwise_insertionSort _ _, ?_, ?_⟩
  · intro text
    simp only [sortedTexts, List.mem_insertionSort, List.mem_map]
    constructor
    · -- One seeding stores every permitted type.
      rintro ⟨serviceType, permitted, rfl⟩
      refine ⟨[.seed "" "EUR"], (defaultService "" "EUR" serviceType).serviceId,
        defaultService "" "EUR" serviceType, ?_, rfl⟩
      rw [seeding]
      exact Dict.get?_update (mem_serviceEntries "" "EUR" permitted)
        (nodup_serviceEntries "" "EUR" vertical) _
    · rintro ⟨calls, id, service, found, rfl⟩
      obtain ⟨governed, kept⟩ := (governed_new vertical).run calls
      have allowed := (governed.services id service found).2
      rw [kept] at allowed
      exact ⟨service.serviceType, allowed, rfl⟩
  · intro text
    simp only [sortedTexts, List.mem_insertionSort]
    constructor
    · intro permitted
      refine ⟨[.seed "" "EUR"], (defaultProduct "" "EUR" text).productId,
        defaultProduct "" "EUR" text, ?_, rfl⟩
      rw [seeding]
      exact Dict.get?_update (mem_productEntries "" "EUR" permitted)
        (nodup_productEntries "" "EUR" vertical) _
    · rintro ⟨calls, id, product, found, rfl⟩
      obtain ⟨governed, kept⟩ := (governed_new vertical).run calls
      have allowed := (governed.products id product found).2
      rwa [kept] at allowed

/--
Seeding is idempotent and touches no other item, from any catalog.

It returns the number of its items, and each of them is then under an id of its own with its
default content. Items under other ids keep their content. Seeding once more leaves the very same
catalog.
-/
theorem reseeding (repository : CatalogRepository) (tenantId currency : String) :
    ∃ after, (seedDefaultCatalog tenantId currency).run repository =
        .ok ((serviceEntries tenantId currency repository.vertical).length +
          (productEntries tenantId currency repository.vertical).length) after ∧
      after.vertical = repository.vertical ∧
      (seedDefaultCatalog tenantId currency).run after =
        .ok ((serviceEntries tenantId currency repository.vertical).length +
          (productEntries tenantId currency repository.vertical).length) after ∧
      (∀ serviceType ∈ verticalServiceTypes repository.vertical,
        after.services.get? (defaultService tenantId currency serviceType).serviceId =
          some (defaultService tenantId currency serviceType)) ∧
      (∀ kind ∈ verticalProductKinds repository.vertical,
        after.products.get? (defaultProduct tenantId currency kind).productId =
          some (defaultProduct tenantId currency kind)) ∧
      (∀ id, (∀ serviceType ∈ verticalServiceTypes repository.vertical,
          id ≠ (defaultService tenantId currency serviceType).serviceId) →
        after.services.get? id = repository.services.get? id) ∧
      ∀ id, (∀ kind ∈ verticalProductKinds repository.vertical,
          id ≠ (defaultProduct tenantId currency kind).productId) →
        after.products.get? id = repository.products.get? id := by
  have counted : (serviceEntries tenantId currency repository.vertical).length +
      (productEntries tenantId currency repository.vertical).length =
      (verticalServiceTypes repository.vertical).length +
        (verticalProductKinds repository.vertical).length := by
    rw [serviceEntries, productEntries, List.length_map, List.length_map, sortedTypes, sortedTexts,
      List.length_insertionSort, List.length_insertionSort]
  have again := run_seedDefaultCatalog tenantId currency (repository.seeded tenantId currency)
  rw [seeded_seeded] at again
  rw [counted]
  refine ⟨_, run_seedDefaultCatalog tenantId currency repository, rfl, again, ?_, ?_, ?_, ?_⟩
  · intro serviceType permitted
    exact Dict.get?_update (mem_serviceEntries tenantId currency permitted)
      (nodup_serviceEntries tenantId currency _) _
  · intro kind permitted
    exact Dict.get?_update (mem_productEntries tenantId currency permitted)
      (nodup_productEntries tenantId currency _) _
  · intro id other
    apply Dict.get?_update_other
    intro member
    obtain ⟨entry, listed, same⟩ := List.mem_map.mp member
    obtain ⟨serviceType, permitted, built⟩ := List.mem_map.mp listed
    subst built
    exact other serviceType ((List.mem_insertionSort _).mp permitted) same.symm
  · intro id other
    apply Dict.get?_update_other
    intro member
    obtain ⟨entry, listed, same⟩ := List.mem_map.mp member
    obtain ⟨kind, permitted, built⟩ := List.mem_map.mp listed
    subst built
    exact other kind ((List.mem_insertionSort _).mp permitted) same.symm

end CatalogRepository

end JolCommerce
