import ScholarshipFinder.Infra.Intake

/-!
# Sources and providers (`infra/sources.py`, `infra/providers.py`)

The sources that may be crawled and the organisations that award are registered by an admin.  None is
ever deleted: a source is deactivated.
-/

namespace ScholarshipFinder

open Lib

variable (py : Py)

/-- `normalize_domain` -/
def normalizeDomain (value : String) : Except PyErr String :=
  let domain := String.ofList ((py.lower (py.strip value)).toList.dropWhile (· = '.'))
  if domain = "" then valueError "Domain must not be blank" else .ok domain

/-- `normalize_domains` of the request schemas. -/
def normalizeDomains (values : List String) : Except PyErr (List String) :=
  values.mapM (normalizeDomain py)

structure SourceCreateRequest where
  name : String
  authorityGrade : String
  approvedDomains : List String
  active : Bool := true

structure ProviderCreateRequest where
  approvedDomains : List String
  country : Option String

namespace ReviewStore

/-- Write the sources; none of those that pages refer to may go. -/
def withSources (store : ReviewStore) (sources : Table SourceId Source)
    (hsources : ∀ id, (store.discovered.db.sources.row id).isSome → (sources.row id).isSome) :
    ReviewStore :=
  { store with discovered := { store.discovered with
      db := { store.discovered.db with sources := sources }
      page_source := fun id page hrow => hsources _ (store.discovered.page_source id page hrow) } }

/-- `create_source`, of a request that was admitted; the row gets the key `sourceId`. -/
def createSource (sourceId : SourceId) (request : SourceCreateRequest) (store : ReviewStore) :
    Except PyErr ReviewStore := do
  let approvedDomains ← normalizeDomains py request.approvedDomains
  if h : store.discovered.db.sources.row sourceId = none then
    return { store.withSources
        (store.discovered.db.sources.insert sourceId
          ⟨request.name, approvedDomains, request.active⟩) (by
          intro id hid
          obtain ⟨source, hsource⟩ := Option.isSome_iff_exists.mp hid
          rw [Table.row_insert_of_some h hsource]
          rfl) with
      authorityGrade := Function.update store.authorityGrade sourceId (some request.authorityGrade) }
  else refused

/-- The update of a source that is there. -/
def modifySource (sourceId : SourceId) (f : Source → Source) (store : ReviewStore) :
    Except PyErr ReviewStore :=
  if (store.discovered.db.sources.row sourceId).isSome then
    .ok (store.withSources (store.discovered.db.sources.modify sourceId f)
      fun id hid => by rwa [Table.isSome_row_modify])
  else lookupError "Source not found"

/-- `update_source_domains` -/
def updateSourceDomains (sourceId : SourceId) (approvedDomains : List String)
    (store : ReviewStore) : Except PyErr ReviewStore := do
  let approvedDomains ← normalizeDomains py approvedDomains
  store.modifySource sourceId fun source => { source with approvedDomains := approvedDomains }

/-- `deactivate_source` -/
def deactivateSource (sourceId : SourceId) (store : ReviewStore) : Except PyErr ReviewStore :=
  store.modifySource sourceId fun source => { source with active := false }

/-- `create_provider`, with the vocabulary for its country; the row gets the key `providerId`. -/
def createProvider (countries : CountryVocabulary) (providerId : ProviderId)
    (request : ProviderCreateRequest) (store : ReviewStore) : Except PyErr ReviewStore := do
  let approvedDomains ← normalizeDomains py request.approvedDomains
  let _ ← request.country.mapM (countries.origin py)
  if store.providers.row providerId = none then
    return { store with providers := store.providers.insert providerId ⟨approvedDomains⟩ }
  else refused

end ReviewStore

/-! ## What is registered -/

variable {py} {store after : ReviewStore}

lemma createSource_ok {sourceId : SourceId} {request : SourceCreateRequest}
    (h : store.createSource py sourceId request = .ok after) :
    store.discovered.db.sources.row sourceId = none ∧ ∃ source grade hsources,
      after = { store.withSources (store.discovered.db.sources.insert sourceId source) hsources with
        authorityGrade := grade } := by
  obtain ⟨approvedDomains, -, h⟩ := exceptBind_ok h
  split at h
  · next hfree =>
    cases h
    exact ⟨hfree, _, _, _, rfl⟩
  · cases h

lemma modifySource_ok {sourceId : SourceId} {f : Source → Source}
    (h : store.modifySource sourceId f = .ok after) :
    ∃ hsources, after =
      store.withSources (store.discovered.db.sources.modify sourceId f) hsources := by
  unfold ReviewStore.modifySource at h
  split at h
  · cases h
    exact ⟨_, rfl⟩
  · cases h

lemma createProvider_ok {countries : CountryVocabulary} {providerId : ProviderId}
    {request : ProviderCreateRequest}
    (h : store.createProvider py countries providerId request = .ok after) :
    store.providers.row providerId = none ∧
      ∃ provider, after = { store with providers := store.providers.insert providerId provider } := by
  obtain ⟨approvedDomains, -, h⟩ := exceptBind_ok h
  obtain ⟨_, -, h⟩ := exceptBind_ok h
  split at h
  · next hfree =>
    cases h
    exact ⟨hfree, _, rfl⟩
  · cases h

end ScholarshipFinder
