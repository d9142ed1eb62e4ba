import Forecast.Costing.CostTables
import Mathlib.Data.Int.ConditionallyCompleteOrder
import Mathlib.Data.List.MinMax
import Mathlib.Data.Prod.Lex

/-!
# Choosing a posting profile

A posting names a transaction type and may name a product category and a location.
The profile that is used matches both and is the most specific one, then the one of
highest priority; when none matches, any profile of the type is taken.
-/

open KeyedTable

namespace Forecast.Postings

open Costing (PostingProfile PostingTransactionType)

/-- A row of `product_categories`. -/
structure ProductCategory where
  id : Id
  name : String
  code : String
deriving DecidableEq

/-- The categories of a tenant, and how the database and the language read texts. -/
structure CategoryTables where
  productCategories : List ProductCategory
  toLowerCase : String → String
  /-- `mode: 'insensitive'` -/
  equalsInsensitive : String → String → Bool
  /-- The id that a text written like one names. -/
  uuid : String → Option Id

structure PostingRequest where
  transactionType : PostingTransactionType
  productCategory : Option String := none
  locationId : Option Id := none
  productCategoryId : Option Id := none
deriving DecidableEq

/-- A text without the blanks around it; a blank one is none. -/
def normalizeOptionalString (value : Option String) : Option String :=
  (value.map JsText.trim).filter fun text => text ≠ ""

namespace CategoryTables

variable (tables : CategoryTables)

def resolvePostingProfileCategory (request : PostingRequest) : Option ProductCategory :=
  match request.productCategoryId, normalizeOptionalString request.productCategory with
  | some id, _ => lookup ProductCategory.id tables.productCategories id
  | none, some text =>
    tables.productCategories.find? fun category =>
      tables.uuid text = some category.id || tables.equalsInsensitive category.code text ||
        tables.equalsInsensitive category.name text
  | none, none => none

def normalizedCategory (value : Option String) : Option String :=
  (normalizeOptionalString value).map tables.toLowerCase

def isFor (category : ProductCategory) (profile : PostingProfile) : Bool :=
  profile.productCategoryId = some category.id ||
    tables.normalizedCategory profile.productCategory =
      some (tables.toLowerCase category.name) ||
    tables.normalizedCategory profile.productCategory = some (tables.toLowerCase category.code)

/-- A profile without a category matches all; a category that is not found is compared by
its text. -/
def categoryMatch (request : PostingRequest) (profile : PostingProfile) : Bool :=
  !profile.hasCategory ||
    (tables.resolvePostingProfileCategory request).any (fun category =>
      tables.isFor category profile) ||
    (tables.normalizedCategory request.productCategory).any (fun category =>
      tables.normalizedCategory profile.productCategory = some category)

def locationMatch (request : PostingRequest) (profile : PostingProfile) : Bool :=
  profile.locationId.isNone || profile.locationId = request.locationId

def isMatch (request : PostingRequest) (profile : PostingProfile) : Bool :=
  tables.categoryMatch request profile && locationMatch request profile

end CategoryTables

def activeProfiles (profiles : List PostingProfile) (transactionType : PostingTransactionType) :
    List PostingProfile :=
  profiles.filter fun p => p.transactionType = transactionType ∧ p.isActive

/-- The profiles in the order of the query, the highest priority first. -/
def orderedProfiles (profiles : List PostingProfile) (transactionType : PostingTransactionType) :
    List PostingProfile :=
  (activeProfiles profiles transactionType).insertionSort fun p q => q.priority ≤ p.priority

def CategoryTables.resolvePostingProfile (tables : CategoryTables)
    (profiles : List PostingProfile) (request : PostingRequest) : Option PostingProfile :=
  let ordered := orderedProfiles profiles request.transactionType
  ((ordered.filter (tables.isMatch request)).foldl PostingProfile.better none).or ordered.head?

/-! ### The loop takes a maximum -/

def rank (profile : PostingProfile) : ℕ ×ₗ ℤ := toLex (profile.specificity, profile.priority)

theorem rank_lt_rank {p q : PostingProfile} :
    rank p < rank q ↔
      p.specificity < q.specificity ∨ q.specificity = p.specificity ∧ p.priority < q.priority := by
  rw [rank, rank, Prod.Lex.toLex_lt_toLex, eq_comm (a := p.specificity)]

theorem foldl_better (profiles : List PostingProfile) :
    profiles.foldl PostingProfile.better none = profiles.argmax rank := by
  have hbetter : PostingProfile.better = List.argAux fun p q => rank q < rank p := by
    funext best profile
    cases best with
    | none => rfl
    | some b => simp only [PostingProfile.better, List.argAux, rank_lt_rank]
  rw [hbetter]
  rfl

variable {profiles : List PostingProfile} {request : PostingRequest}

theorem mem_orderedProfiles {transactionType : PostingTransactionType} {p : PostingProfile} :
    p ∈ orderedProfiles profiles transactionType ↔ p ∈ activeProfiles profiles transactionType :=
  (List.perm_insertionSort _ _).mem_iff

theorem priority_le_of_head? {transactionType : PostingTransactionType} {first p : PostingProfile}
    (hfirst : (orderedProfiles profiles transactionType).head? = some first)
    (hp : p ∈ activeProfiles profiles transactionType) : p.priority ≤ first.priority := by
  have hsorted : (orderedProfiles profiles transactionType).Pairwise
      fun p q => q.priority ≤ p.priority := List.pairwise_insertionSort _ _
  have hmem := mem_orderedProfiles.2 hp
  cases hordered : orderedProfiles profiles transactionType with
  | nil =>
    rw [hordered] at hmem
    cases hmem
  | cons head tail =>
    rw [hordered] at hfirst hsorted hmem
    cases hfirst
    rcases List.mem_cons.1 hmem with rfl | htail
    · exact le_rfl
    · exact List.rel_of_pairwise_cons hsorted htail

/-- The loop over the profiles finds one exactly when some profile matches. -/
theorem mem_argmax_matching {tables : CategoryTables} {p : PostingProfile}
    (h : p ∈ ((orderedProfiles profiles request.transactionType).filter
      (tables.isMatch request)).argmax rank) :
    p ∈ activeProfiles profiles request.transactionType ∧ tables.isMatch request p = true := by
  obtain ⟨hordered, hmatch⟩ := List.mem_filter.1 (List.argmax_mem h)
  exact ⟨mem_orderedProfiles.1 hordered, hmatch⟩

theorem rank_le_of_mem_argmax {tables : CategoryTables} {p q : PostingProfile}
    (h : p ∈ ((orderedProfiles profiles request.transactionType).filter
      (tables.isMatch request)).argmax rank)
    (hq : q ∈ activeProfiles profiles request.transactionType)
    (hmatch : tables.isMatch request q = true) : rank q ≤ rank p :=
  List.le_of_mem_argmax (List.mem_filter.2 ⟨mem_orderedProfiles.2 hq, hmatch⟩) h

/-! ### What is chosen -/

/-- A matching profile that no matching one exceeds in specificity, then in priority. -/
structure Best (tables : CategoryTables) (profiles : List PostingProfile)
    (request : PostingRequest) (profile : PostingProfile) : Prop where
  active : profile ∈ activeProfiles profiles request.transactionType
  matching : tables.isMatch request profile = true
  maximal : ∀ q ∈ activeProfiles profiles request.transactionType,
    tables.isMatch request q = true → rank q ≤ rank profile

/-- An active profile of the type that none exceeds in priority. -/
structure Fallback (profiles : List PostingProfile) (request : PostingRequest)
    (profile : PostingProfile) : Prop where
  active : profile ∈ activeProfiles profiles request.transactionType
  maximal : ∀ q ∈ activeProfiles profiles request.transactionType, q.priority ≤ profile.priority

/-- The best profile when one matches; otherwise the first of the type, whatever it is for. -/
structure ResolutionLaw (tables : CategoryTables) (profiles : List PostingProfile)
    (request : PostingRequest) : Prop where
  best : (∃ q ∈ activeProfiles profiles request.transactionType,
      tables.isMatch request q = true) →
    ∃ p, tables.resolvePostingProfile profiles request = some p ∧ Best tables profiles request p
  fallback : (∀ q ∈ activeProfiles profiles request.transactionType,
      tables.isMatch request q = false) →
    ∀ p, tables.resolvePostingProfile profiles request = some p → Fallback profiles request p
  missing : tables.resolvePostingProfile profiles request = none ↔
    activeProfiles profiles request.transactionType = []

theorem resolvePostingProfile_eq (tables : CategoryTables) (profiles : List PostingProfile)
    (request : PostingRequest) :
    tables.resolvePostingProfile profiles request =
      (((orderedProfiles profiles request.transactionType).filter
        (tables.isMatch request)).argmax rank).or
          (orderedProfiles profiles request.transactionType).head? := by
  rw [CategoryTables.resolvePostingProfile, foldl_better]

theorem resolvePostingProfile_eq_none {tables : CategoryTables} :
    tables.resolvePostingProfile profiles request = none ↔
      activeProfiles profiles request.transactionType = [] := by
  rw [resolvePostingProfile_eq, Option.or_eq_none_iff, List.argmax_eq_none,
    List.head?_eq_none_iff]
  constructor
  · rintro ⟨-, hordered⟩
    exact List.perm_nil.1 (hordered ▸ (List.perm_insertionSort _ _).symm)
  · intro hactive
    have hordered : orderedProfiles profiles request.transactionType = [] := by
      rw [orderedProfiles, hactive]
      rfl
    rw [hordered]
    exact ⟨rfl, rfl⟩

theorem resolutionLaw (tables : CategoryTables) (profiles : List PostingProfile)
    (request : PostingRequest) : ResolutionLaw tables profiles request := by
  have hresolve := resolvePostingProfile_eq tables profiles request
  constructor
  · rintro ⟨q, hq, hmatch⟩
    cases hbest : ((orderedProfiles profiles request.transactionType).filter
        (tables.isMatch request)).argmax rank with
    | none =>
      have hmem := List.mem_filter.2 ⟨mem_orderedProfiles.2 hq, hmatch⟩
      rw [List.argmax_eq_none.1 hbest] at hmem
      cases hmem
    | some p =>
      rw [hbest] at hresolve
      obtain ⟨hactive, hmatching⟩ := mem_argmax_matching hbest
      exact ⟨p, hresolve, hactive, hmatching, fun q hq hmatch =>
        rank_le_of_mem_argmax hbest hq hmatch⟩
  · intro hnone p hp
    cases hbest : ((orderedProfiles profiles request.transactionType).filter
        (tables.isMatch request)).argmax rank with
    | none =>
      rw [hbest, Option.none_or] at hresolve
      rw [hresolve] at hp
      have hactive := mem_orderedProfiles.1 (List.mem_of_mem_head? hp)
      exact ⟨hactive, fun q hq => priority_le_of_head? hp hq⟩
    | some best =>
      obtain ⟨hactive, hmatching⟩ := mem_argmax_matching hbest
      rw [hnone best hactive] at hmatching
      cases hmatching
  · exact resolvePostingProfile_eq_none

theorem categoryMatch_of_none (tables : CategoryTables) {request : PostingRequest}
    (hid : request.productCategoryId = none) (hcategory : request.productCategory = none)
    (profile : PostingProfile) : tables.categoryMatch request profile = !profile.hasCategory := by
  simp [CategoryTables.categoryMatch, CategoryTables.resolvePostingProfileCategory,
    CategoryTables.normalizedCategory, normalizeOptionalString, hid, hcategory]

/-- The costing engine chooses as the accounting service does for no category. -/
theorem resolvePostingProfile_engine (tables : CategoryTables) (profiles : List PostingProfile)
    (transactionType : PostingTransactionType) (locationId : Option Id) :
    Costing.resolvePostingProfile profiles transactionType locationId =
      tables.resolvePostingProfile profiles
        { transactionType := transactionType, locationId := locationId } := by
  have hmatch : (fun p : PostingProfile =>
      !p.hasCategory && (p.locationId.isNone || p.locationId = locationId)) =
        tables.isMatch { transactionType := transactionType, locationId := locationId } := by
    funext p
    rw [CategoryTables.isMatch, categoryMatch_of_none tables rfl rfl]
    rfl
  rw [CategoryTables.resolvePostingProfile, ← hmatch]
  rfl

/-- A tenant without categories. -/
def plainTables : CategoryTables where
  productCategories := []
  toLowerCase text := text
  equalsInsensitive a b := a = b
  uuid _ := none

def locationProfile : PostingProfile where
  transactionType := .goodsReceipt
  debitAccountId := 1
  creditAccountId := 2
  locationId := some 3

/-- At another location the profile is returned all the same. -/
theorem not_best_locationProfile :
    ¬∀ (tables : CategoryTables) (profiles : List PostingProfile) (request : PostingRequest)
      (profile : PostingProfile),
      tables.resolvePostingProfile profiles request = some profile →
        Best tables profiles request profile := by
  intro h
  have hmatch := (h plainTables [locationProfile]
    { transactionType := .goodsReceipt, locationId := some 4 } locationProfile rfl).matching
  revert hmatch
  decide

end Forecast.Postings
