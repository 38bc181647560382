import RecordListing.Schema.Entity

/-!
# The retail field operations

Projects, the geography of branches, the people who visit them, the products they audit, and their
journeys. Every row has an identifier and the times of its creation, last change and deletion.
-/

set_option autoImplicit false

namespace RecordListing.Retail

/-! ## Enumerations -/

/-- Role of a user of the platform. -/
def userRole : List Member := [
  ⟨"UserRole", "SUPER_ADMIN", "super_admin"⟩,
  ⟨"UserRole", "ADMIN", "admin"⟩,
  ⟨"UserRole", "SUPERVISOR", "supervisor"⟩,
  ⟨"UserRole", "PROMOTER", "promoter"⟩]

/-- State of the review of an audit. -/
def auditStatus : List Member := [
  ⟨"AuditStatus", "PENDING", "pending"⟩,
  ⟨"AuditStatus", "APPROVED", "approved"⟩,
  ⟨"AuditStatus", "REJECTED", "rejected"⟩]

/-- Reason for a reduced price. -/
def discountReason : List Member := [
  ⟨"DiscountReason", "NATIONAL_DAY", "National Day"⟩,
  ⟨"DiscountReason", "FOUNDING_DAY", "Founding Day"⟩,
  ⟨"DiscountReason", "MEGA_SALE", "Mega Sale"⟩,
  ⟨"DiscountReason", "BLACK_FRIDAY", "Black Friday"⟩,
  ⟨"DiscountReason", "OTHER", "Other"⟩]

/-- Attendance at a planned visit. -/
def journeyStatus : List Member := [
  ⟨"JourneyStatus", "UNPLANNED", "unplanned"⟩,
  ⟨"JourneyStatus", "PRESENT", "present"⟩,
  ⟨"JourneyStatus", "ABSENT", "absent"⟩,
  ⟨"JourneyStatus", "CLOSED", "closed"⟩]

/-- Whether a visit was planned ahead. -/
def journeyType : List Member := [
  ⟨"JourneyType", "PLANNED", "planned"⟩,
  ⟨"JourneyType", "UNPLANNED", "unplanned"⟩]

/-- Stored by value. -/
def oneOf (members : List Member) : ColumnType := .choice (.members members false)

def initialMember (members : List Member) (name : String) : Value :=
  ((members.find? (·.name = name)).map Value.member).getD .null

/-! ## Entities -/

def zoned : ColumnType := .datetime true

def price : ColumnType := .numeric 2 true

/-- A reference to a row of another entity. -/
def reference (name : String) : Column := .plain name .uuid

/-- The columns that stand last in every table. -/
def coreColumns : List Column := [
  { Column.plain "id" .uuid with initial := .generated },
  { Column.plain "created_at" zoned with initial := .currentTime, required := true },
  { Column.plain "updated_at" zoned with
    initial := .currentTime, refreshed := true, required := true },
  .plain "deleted_at" zoned]

def toOne (name target foreignKey : String) (named : name ≠ "" := by simp) : Relation :=
  ⟨name, target, .toOne foreignKey "id", named⟩

def toMany (name target foreignKey : String) (named : name ≠ "" := by simp) : Relation :=
  ⟨name, target, .toMany "id" foreignKey, named⟩

def entity (name table : String) (columns : List Column) (relations : List Relation) : Entity :=
  { name, table, columns := columns ++ coreColumns, relations, key := ["id"] }

def name : Column := .needed (.plain "name" .text)

/-- A customer with branches, users and brands. -/
def project : Entity := entity "project" "projects"
  [name, .needed (.withInitial (.plain "is_active" .boolean) (.bool true))]
  []

def country : Entity := entity "country" "countries"
  [name]
  [toMany "regions" "region" "country_id"]

def region : Entity := entity "region" "regions"
  [name, reference "country_id"]
  [toOne "country" "country" "country_id", toMany "cities" "city" "region_id"]

def city : Entity := entity "city" "cities"
  [name, reference "region_id"]
  [toOne "region" "region" "region_id", toMany "branches" "branch" "city_id"]

/-- A retail chain with several branches. -/
def chain : Entity := entity "chain" "chains"
  [name, reference "project_id"]
  [toOne "project" "project" "project_id"]

/-- An administrator, supervisor or promoter. -/
def user : Entity := entity "user" "users"
  [name, { Column.plain "username" .text with required := true, distinct := true },
    .plain "mobile" .text, .needed (.plain "role" (oneOf userRole)),
    reference "project_id", reference "branch_id", reference "created_by_id"]
  [toOne "project" "project" "project_id", toOne "branch" "branch" "branch_id",
    toOne "created_by" "user" "created_by_id"]

/-- A store that promoters visit. -/
def branch : Entity := entity "branch" "branches"
  [name, .plain "geo" .text,
    .needed (.withInitial (.plain "geofence_radius_meters" .integer) (.int 500)),
    reference "project_id", reference "city_id", reference "chain_id", reference "supervisor_id"]
  [toOne "project" "project" "project_id", toOne "city" "city" "city_id",
    toOne "chain" "chain" "chain_id", toOne "supervisor" "user" "supervisor_id",
    toMany "audits" "audit" "branch_id"]

def category : Entity := entity "category" "categories" [name] []

/-- A brand of a project or of one user. -/
def brand : Entity := entity "brand" "brands"
  [name, reference "project_id", { reference "owner_user_id" with physical := "owner_id" }]
  [toOne "project" "project" "project_id", toOne "owner" "user" "owner_id",
    .mk "categories" "category" (.through "brand_categories" "id" "brand_id" "id" "category_id")]

def product : Entity := entity "product" "products"
  [name, .plain "sku" .text, .plain "price" price, .plain "attributes" .json,
    reference "brand_id", reference "category_id"]
  [toOne "brand" "brand" "brand_id", toOne "category" "category" "category_id"]

/-- The audit of one product in one branch on one day. -/
def audit : Entity := entity "audit" "audits"
  [.needed (.withInitial (.plain "status" (oneOf auditStatus))
      (initialMember auditStatus "PENDING")),
    .needed (.withInitial (.plain "is_available" .boolean) (.bool false)),
    .plain "current_price" price, .plain "discount_reason" (oneOf discountReason),
    .plain "discount_details" .text, .needed (.plain "audit_date" .date),
    .needed (.plain "product_name" .text), reference "project_id", reference "promoter_id",
    reference "branch_id", reference "product_id"]
  [toOne "project" "project" "project_id", toOne "promoter" "user" "promoter_id",
    toOne "branch" "branch" "branch_id", toOne "product" "product" "product_id"]

/-- A planned or spontaneous visit of a branch. -/
def journey : Entity := entity "journey" "journeys"
  [{ property := "visit_date", physical := "date", type := .date, required := true },
    .needed (.withInitial (.plain "status" (oneOf journeyStatus))
      (initialMember journeyStatus "UNPLANNED")),
    .needed (.withInitial
      { property := "journey_type", physical := "type", type := oneOf journeyType }
      (initialMember journeyType "PLANNED")),
    .plain "check_in_at" zoned, reference "project_id", reference "user_id",
    reference "branch_id"]
  [toOne "project" "project" "project_id", toOne "user" "user" "user_id",
    toOne "branch" "branch" "branch_id"]

/-- The pairs of a brand and one of its categories. They are no entity of their own. -/
def brandCategory : Entity where
  name := "brand_category"
  table := "brand_categories"
  columns := [reference "brand_id", reference "category_id"]
  relations := []
  key := ["brand_id", "category_id"]

/-- The entities of the application. -/
def registry : Registry := ⟨[
  project, country, region, city, chain, user, branch, category, brand, product, audit, journey]⟩

end RecordListing.Retail
