import JolCommerce.Db.TenantOnboarding
import JolCommerce.Python.DictUpdate
import Mathlib.Data.List.Sort

/-! Services and products of a tenant's catalog, limited by the vertical of the tenant. -/

namespace JolCommerce

open Python

/-- Sellable service types across the three verticals. -/
inductive ServiceType where
  | memorialMass
  | blessing
  | funeralPackage
  | bereavementCounseling
  | graveCleaning
  | monumentRestoration
  | flowerDelivery
  deriving DecidableEq

/-- The text of a service type. -/
def ServiceType.value : ServiceType → String
  | memorialMass => "memorial_mass"
  | blessing => "blessing"
  | funeralPackage => "funeral_package"
  | bereavementCounseling => "bereavement_counseling"
  | graveCleaning => "grave_cleaning"
  | monumentRestoration => "monument_restoration"
  | flowerDelivery => "flower_delivery"

/-- `VERTICAL_SERVICE_TYPES`. -/
def verticalServiceTypes : TenantVertical → List ServiceType
  | .faithCommunity => [.memorialMass, .blessing]
  | .funeralHome => [.funeralPackage, .bereavementCounseling, .flowerDelivery]
  | .cemeteryCare => [.graveCleaning, .monumentRestoration, .flowerDelivery]

/-- `VERTICAL_PRODUCT_KINDS`. -/
def verticalProductKinds : TenantVertical → List String
  | .faithCommunity => ["cross", "candle", "flowers"]
  | .funeralHome => ["casket", "flowers", "clothing"]
  | .cemeteryCare => ["flowers", "monument_plaque"]

/-- A sellable service within a tenant catalog. -/
structure Service where
  serviceId : String
  serviceType : ServiceType
  name : String
  unitPriceCents : Int
  currency : String := "EUR"

/-- A physical SKU within a tenant catalog. -/
structure Product where
  productId : String
  productKind : String
  name : String
  unitPriceCents : Int
  currency : String := "EUR"

/-- The catalog store of a tenant. -/
structure CatalogRepository where
  vertical : TenantVertical
  services : Dict String Service
  products : Dict String Product

namespace CatalogRepository

/-- `CatalogRepository(vertical)`. -/
def new (vertical : TenantVertical) : CatalogRepository := ⟨vertical, Dict.empty, Dict.empty⟩

/-- Common body of the two registrations: an item is placed where its vertical permits it. -/
def add {Item : Type} (permitted : TenantVertical → Item → Bool)
    (refusal : TenantVertical → Item → String)
    (place : CatalogRepository → Item → CatalogRepository) (item : Item) :
    EStateM PyError CatalogRepository Item := do
  let vertical := (← get).vertical
  if permitted vertical item then
    modify fun repository => place repository item
    return item
  else throw (.valueError (refusal vertical item))

/-- The vertical permits the type of a service. -/
def permitsService (vertical : TenantVertical) (service : Service) : Bool :=
  service.serviceType ∈ verticalServiceTypes vertical

/-- The vertical permits the kind of a product. -/
def permitsProduct (vertical : TenantVertical) (product : Product) : Bool :=
  product.productKind ∈ verticalProductKinds vertical

/-- `self._services[service.service_id] = service`. -/
def withService (repository : CatalogRepository) (service : Service) : CatalogRepository :=
  { repository with services := repository.services.set service.serviceId service }

/-- `self._products[product.product_id] = product`. -/
def withProduct (repository : CatalogRepository) (product : Product) : CatalogRepository :=
  { repository with products := repository.products.set product.productId product }

/-- The message for a service type that is not permitted. -/
def serviceRefusal (vertical : TenantVertical) (service : Service) : String :=
  "Service type " ++ service.serviceType.value ++ " is not permitted for vertical " ++ vertical.value

/-- The message for a product kind that is not permitted. -/
def productRefusal (vertical : TenantVertical) (product : Product) : String :=
  "Product kind '" ++ product.productKind ++ "' is not permitted for vertical " ++ vertical.value

/-- `add_service(service)`. -/
def addService : Service → EStateM PyError CatalogRepository Service :=
  add permitsService serviceRefusal withService

/-- `add_product(product)`. -/
def addProduct : Product → EStateM PyError CatalogRepository Product :=
  add permitsProduct productRefusal withProduct

end CatalogRepository

/-- `sorted(texts)`. -/
def sortedTexts (texts : List String) : List String := texts.insertionSort (· ≤ ·)

/-- `sorted(types, key=lambda s: s.value)`. -/
def sortedTypes (types : List ServiceType) : List ServiceType :=
  types.insertionSort fun first second => first.value ≤ second.value

/-- `str.title()` of an ASCII text: a letter is upper case unless it follows another one. -/
def titleFrom (inWord : Bool) : List Char → List Char
  | [] => []
  | char :: rest =>
    (if inWord then char.toLower else char.toUpper) :: titleFrom char.isAlpha rest

/-- `value.replace("_", " ").title()`. -/
def displayName (value : String) : String :=
  String.ofList (titleFrom false (value.toList.map fun char => if char = '_' then ' ' else char))

/-- `tenant_id.replace("-", "")[:8]`. -/
def shortId (tenantId : String) : String :=
  String.ofList ((tenantId.toList.filter (· ≠ '-')).take 8)

/-- The service that is seeded for a type. -/
def defaultService (tenantId currency : String) (serviceType : ServiceType) : Service where
  serviceId := "svc-" ++ shortId tenantId ++ "-" ++ serviceType.value
  serviceType := serviceType
  name := displayName serviceType.value
  unitPriceCents := 10000
  currency := currency

/-- The product that is seeded for a kind. -/
def defaultProduct (tenantId currency kind : String) : Product where
  productId := "prd-" ++ shortId tenantId ++ "-" ++ kind
  productKind := kind
  name := displayName kind
  unitPriceCents := 5000
  currency := currency

/-- `seed_default_catalog(repository, tenant_id, currency)`. -/
def seedDefaultCatalog (tenantId currency : String) : EStateM PyError CatalogRepository Nat := do
  let vertical := (← get).vertical
  let seeded ← (sortedTypes (verticalServiceTypes vertical)).foldlM (fun seeded serviceType => do
    let _ ← CatalogRepository.addService (defaultService tenantId currency serviceType)
    return seeded + 1) 0
  (sortedTexts (verticalProductKinds vertical)).foldlM (fun seeded kind => do
    let _ ← CatalogRepository.addProduct (defaultProduct tenantId currency kind)
    return seeded + 1) seeded

/-- Catalog capabilities response. -/
structure CatalogCapabilitiesResponse where
  vertical : String
  serviceTypes : List String
  productKinds : List String

/-- `get_catalog_capabilities()`. -/
def getCatalogCapabilities (tenant : Option TenantContext) :
    Except PyError CatalogCapabilitiesResponse :=
  match tenant with
  | none => .error (.httpException 400 "No tenant context bound to this request")
  | some context => .ok {
    vertical := context.tenant.vertical.value
    serviceTypes := sortedTexts
      ((verticalServiceTypes context.tenant.vertical).map ServiceType.value)
    productKinds := sortedTexts (verticalProductKinds context.tenant.vertical) }

example : (defaultService "0b1c-9f" "EUR" .memorialMass).name = "Memorial Mass" := by decide

end JolCommerce
