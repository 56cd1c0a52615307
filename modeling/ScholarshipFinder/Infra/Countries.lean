import ScholarshipFinder.Domain.AutoApproval
import ScholarshipFinder.Lib.Upsert

/-!
# The mirror of the countries (`infra/core_catalogue.py`, `infra/countries.py`)

Core publishes its countries in pages, each of which names the cursor of the next one.  A sync reads
all of them, and writes every row over the one that the mirror has under its code.  `get` answers
the requests of a sync, one after the other; `supported` is `SUPPORTED_DESTINATIONS` of the version
that runs.
-/

namespace ScholarshipFinder

open Lib

/-- One lookup row: a stable code, a display name, and Core's own row id. -/
structure CatalogueEntry where
  code : String
  displayName : String
  coreId : Json

/-- A page of the catalogue, with the cursor of the next one. -/
structure CataloguePage where
  entries : List CatalogueEntry
  nextCursor : Option Json

/-- Core caps a catalogue page; paging continues while it returns a cursor. -/
def maxPages : ℕ := 20

variable (py : Py)

/-- The rows of a page.  One without a code or a name is skipped. -/
def pageEntries : List Json → Except PyErr (List CatalogueEntry)
  | [] => .ok []
  | row :: rows => do
    let code := (← row.get "code").getD .null
    let displayName := (← row.get "display_name").getD .null
    if code.truthy ∧ displayName.truthy then
      let coreId := (← row.get "id").getD .null
      return ⟨py.strOf code, py.strOf displayName, coreId⟩ :: (← pageEntries rows)
    else pageEntries rows

/-- `f"Core catalogue {name!r} returned an unexpected envelope"` -/
def envelopeError (name : String) : String :=
  "Core catalogue '" ++ name ++ "' returned an unexpected envelope"

/-- What the loop makes of the body of one response. -/
def readPage (name : String) : Json → Except PyErr CataloguePage
  | .obj items =>
    match items.lookup "data" with
    | some (.arr rows) => do
      return ⟨← pageEntries py rows, (items.lookup "next_cursor").filter (·.truthy)⟩
    | _ => valueError (envelopeError name)
  | _ => valueError (envelopeError name)

/-- `for _ in range(n)`, from the request `i` on. -/
def listPages (get : ℕ → Option Json → Except PyErr Json) (name : String) :
    ℕ → ℕ → Option Json → List CatalogueEntry → Except PyErr (List CatalogueEntry)
  | 0, _, _, _ =>
    valueError ("Core catalogue '" ++ name ++ "' did not finish paging within " ++
      toString maxPages ++ " pages")
  | n + 1, i, cursor, entries => do
    let body ← get i cursor
    let page ← readPage py name body
    match page.nextCursor with
    | none => return entries ++ page.entries
    | some next => listPages get name n (i + 1) (some next) (entries ++ page.entries)

/-- `list_catalogue` -/
def listCatalogue (get : ℕ → Option Json → Except PyErr Json) (name : String) :
    Except PyErr (List CatalogueEntry) :=
  listPages py get name maxPages 0 none []

/-! ## The mirror -/

structure Country where
  displayName : String
  /-- Traceability only. -/
  coreId : Json
  isSupportedDestination : Bool
  syncedAt : Instant

/-- The table of the countries, under their codes. -/
abbrev Mirror := Table String Country

/-- What the columns of the mirror take. -/
structure CountryColumns where
  text : String → Bool
  coreId : Json → Bool

/-- `ON CONFLICT (code) DO UPDATE SET ...` -/
def Country.update (stored excluded : Country) : Country where
  displayName := excluded.displayName
  coreId := excluded.coreId
  isSupportedDestination := stored.isSupportedDestination || excluded.isSupportedDestination
  syncedAt := excluded.syncedAt

variable (columns : CountryColumns) (supported : List String)

/-- The row of an entry, under its code. -/
def countryRow (now : Instant) (entry : CatalogueEntry) : String × Country :=
  let code := py.upper (py.strip entry.code)
  (code, ⟨entry.displayName, entry.coreId, code ∈ supported, now⟩)

/-- The columns take the row: `Country.code` is a `String(2)`. -/
def admitsCountry (entry : CatalogueEntry) : Bool :=
  (py.upper (py.strip entry.code)).length ≤ 2 && columns.text (py.upper (py.strip entry.code)) &&
    columns.text entry.displayName && columns.coreId entry.coreId

/-- `_upsert` -/
def upsertCountry (now : Instant) (mirror : Mirror) (entry : CatalogueEntry) :
    Except PyErr Mirror :=
  if admitsCountry py columns entry then
    .ok (mirror.upsert Country.update (countryRow py supported now entry))
  else .error ⟨.other, "the database refuses the row"⟩

/-- `sync_countries`: how many entries were received, and the mirror that is committed. -/
def syncCountries (get : ℕ → Option Json → Except PyErr Json) (now : Instant) (mirror : Mirror) :
    Except PyErr (ℕ × Mirror) := do
  let entries ← listCatalogue py get "countries"
  if entries.isEmpty then
    valueError "Core returned no countries; refusing to treat that as a valid sync"
  let mirror ← entries.foldlM (upsertCountry py columns supported now) mirror
  return (entries.length, mirror)

/-- `SEED_COUNTRIES` -/
def seedCountries : Dict := [
  ("NG", "Nigeria"),
  ("CA", "Canada"),
  ("GB", "United Kingdom"),
  ("US", "United States"),
  ("DE", "Germany"),
  ("FI", "Finland"),
  ("AU", "Australia"),
  ("TR", "Turkiye"),
  ("JP", "Japan"),
  ("KR", "South Korea"),
  ("CN", "China"),
  ("FR", "France"),
  ("SA", "Saudi Arabia"),
  ("NZ", "New Zealand")]

/-- `{row.code: row.display_name for row in rows}`, in the order of the codes' first syncs; what
reads it sorts the codes, or looks one up. -/
def mirrorNames (mirror : Mirror) : Dict :=
  mirror.keys.filterMap fun code => (mirror.row code).map fun row => (code, row.displayName)

/-- The codes with `is_supported_destination`. -/
def flagged (mirror : Mirror) : List String :=
  mirror.keys.filter fun code => (mirror.row code).any (·.isSupportedDestination)

/-- `load_vocabulary` -/
def loadVocabulary (mirror : Mirror) : CountryVocabulary :=
  if mirror.keys.isEmpty then ⟨seedCountries, supported⟩
  else ⟨mirrorNames mirror, if (flagged mirror).isEmpty then supported else flagged mirror⟩

/-! ## What the paging answers -/

/-- The pages that the catalogue consists of, from the request `i` with a cursor on. -/
inductive Paged (get : ℕ → Option Json → Except PyErr Json) (name : String) :
    ℕ → Option Json → List CataloguePage → Prop
  | last {i : ℕ} {cursor : Option Json} {body : Json} {page : CataloguePage}
      (hbody : get i cursor = .ok body) (hpage : readPage py name body = .ok page)
      (hlast : page.nextCursor = none) : Paged get name i cursor [page]
  | more {i : ℕ} {cursor : Option Json} {body next : Json} {page : CataloguePage}
      {pages : List CataloguePage}
      (hbody : get i cursor = .ok body) (hpage : readPage py name body = .ok page)
      (hnext : page.nextCursor = some next) (hrest : Paged get name (i + 1) (some next) pages) :
      Paged get name i cursor (page :: pages)

variable {py} {columns} {supported} {get : ℕ → Option Json → Except PyErr Json} {name : String}
  {now : Instant} {mirror mirror' : Mirror}

/-- The loop answers the entries of all pages, if it gets to the last one. -/
lemma listPages_ok_iff {n i : ℕ} {cursor : Option Json} {before entries : List CatalogueEntry} :
    listPages py get name n i cursor before = .ok entries ↔
      ∃ pages, Paged py get name i cursor pages ∧ pages.length ≤ n ∧
        entries = before ++ pages.flatMap (·.entries) := by
  induction n generalizing i cursor before with
  | zero =>
    constructor
    · exact fun h => by cases h
    · rintro ⟨pages, hpages, hlength, -⟩
      -- there is at least one page
      cases hpages <;> simp at hlength
  | succ n ih =>
    constructor
    · intro h
      obtain ⟨body, hbody, h⟩ := exceptBind_ok h
      obtain ⟨page, hpage, h⟩ := exceptBind_ok h
      cases hnext : page.nextCursor with
      | none =>
        rw [hnext] at h
        cases h
        exact ⟨[page], .last hbody hpage hnext, by simp, by simp⟩
      | some next =>
        rw [hnext] at h
        obtain ⟨pages, hpages, hlength, rfl⟩ := ih.mp h
        exact ⟨page :: pages, .more hbody hpage hnext hpages, by simpa using hlength, by simp⟩
    · rintro ⟨pages, hpages, hlength, rfl⟩
      cases hpages with
      | last hbody hpage hlast =>
        simp [listPages, hbody, hpage, hlast, bind, Except.bind, pure, Except.pure]
      | more hbody hpage hnext hrest =>
        simp only [listPages, hbody, hpage, hnext, bind, Except.bind]
        exact ih.mpr ⟨_, hrest, by simpa using hlength, by simp⟩

/-- `list_catalogue` answers all entries of the catalogue, or raises. -/
theorem listCatalogue_ok_iff {entries : List CatalogueEntry} :
    listCatalogue py get name = .ok entries ↔
      ∃ pages, Paged py get name 0 none pages ∧ pages.length ≤ maxPages ∧
        entries = pages.flatMap (·.entries) :=
  listPages_ok_iff

/-! ## What a sync writes -/

/-- The upserts of a sync are a run, unless the database refuses one of the rows. -/
lemma foldlM_upsertCountry_ok_iff {entries : List CatalogueEntry} :
    entries.foldlM (upsertCountry py columns supported now) mirror = .ok mirror' ↔
      (∀ entry ∈ entries, admitsCountry py columns entry = true) ∧
        mirror' = run (Table.upsert Country.update) mirror
          (entries.map (countryRow py supported now)) := by
  induction entries generalizing mirror with
  | nil =>
    constructor
    · intro h
      cases h
      exact ⟨by simp, rfl⟩
    · rintro ⟨-, rfl⟩
      rfl
  | cons entry entries ih =>
    rw [List.foldlM_cons, upsertCountry]
    by_cases hadmits : admitsCountry py columns entry = true
    · rw [if_pos hadmits]
      show entries.foldlM _ (mirror.upsert Country.update _) = _ ↔ _
      rw [ih, List.forall_mem_cons, List.map_cons, run_cons]
      exact and_congr_left fun _ => ⟨fun h => ⟨hadmits, h⟩, And.right⟩
    · rw [if_neg hadmits]
      simp [bind, Except.bind, hadmits]

/-- The catalogue can be mirrored: it ends within the limit, is not empty, and the columns take its
rows. -/
structure Mirrorable (py : Py) (columns : CountryColumns)
    (get : ℕ → Option Json → Except PyErr Json) (entries : List CatalogueEntry) : Prop where
  pages : ∃ pages, Paged py get "countries" 0 none pages ∧ pages.length ≤ maxPages ∧
    entries = pages.flatMap (·.entries)
  nonempty : entries ≠ []
  admits : ∀ entry ∈ entries, admitsCountry py columns entry = true

/-- A sync writes the whole catalogue, or raises. -/
theorem syncCountries_ok_iff {received : ℕ} :
    syncCountries py columns supported get now mirror = .ok (received, mirror') ↔
      ∃ entries, Mirrorable py columns get entries ∧ received = entries.length ∧
        mirror' = run (Table.upsert Country.update) mirror
          (entries.map (countryRow py supported now)) := by
  constructor
  · intro h
    obtain ⟨entries, hentries, h⟩ := exceptBind_ok h
    split at h
    · cases h
    next hnonempty =>
    obtain ⟨written, hwritten, h⟩ := exceptBind_ok h
    cases h
    obtain ⟨hadmits, rfl⟩ := foldlM_upsertCountry_ok_iff.mp hwritten
    refine ⟨entries, ⟨listCatalogue_ok_iff.mp hentries, ?_, hadmits⟩, rfl, rfl⟩
    exact fun hnil => hnonempty (by rw [hnil]; rfl)
  · rintro ⟨entries, hmirrorable, rfl, rfl⟩
    have hnonempty : entries.isEmpty = false := by
      rw [List.isEmpty_eq_false_iff]
      exact hmirrorable.nonempty
    have hwritten : entries.foldlM (upsertCountry py columns supported now) mirror =
        .ok (run (Table.upsert Country.update) mirror
          (entries.map (countryRow py supported now))) :=
      foldlM_upsertCountry_ok_iff.mpr ⟨hmirrorable.admits, rfl⟩
    simp only [syncCountries, listCatalogue_ok_iff.mpr hmirrorable.pages, hnonempty, hwritten, bind,
      Except.bind, pure, Except.pure, Bool.false_eq_true, if_false]

end ScholarshipFinder
