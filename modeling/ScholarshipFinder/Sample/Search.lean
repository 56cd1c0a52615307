import ScholarshipFinder.Api.Search
import ScholarshipFinder.Sample
import ScholarshipFinder.Sample.Cursors

/-!
# A concrete search

Two published cycles match the search of a visitor, who asks for pages of one result.
-/

namespace ScholarshipFinder.Sample

open Lib

/-- The runtime, with the digest of the filters. -/
def searchPy : Py := { py with
  sha256 := fun content =>
    if content = ("\x7b\"field\":null,\"origin_country\":\"DE\",\"program_levels\":" ++
        "[\"masters\"],\"target_countries\":[\"DE\"]\x7d").toUTF8.toList then
      "a3c7a2290f7b562cd45ede36c98087ebea41c403d063fe7f67d4d45a1ac94249"
    else "" }

def searchSettings : SearchSettings where
  cursorSecret := "secret"
  coreJoinIntentUrl := some "https://core.example.org/join-intents"
  coreServiceToken := some "token"
  coreAllowedReturnUrlPrefix := some "https://app.example.org/"

/-- A master's degree in Germany, one result a page. -/
def searchBody : SearchRequest where
  originCountry := "DE"
  programLevels := ["masters"]
  field := none
  targetCountries := ["DE"]
  limit := 1
  cursor := none
  one_le_limit := by decide
  limit_le := by decide

def searchFilters : NormalizedFilters where
  origin := "DE"
  destinations := {"DE"}
  uncoveredDestinations := ∅
  degrees := {"masters"}
  field := none
  acceptedFields := none

/-- Two rolling calls. -/
def searchStore : SearchStore where
  db := { db cycle with cycles := (Table.empty.insert 1 cycle).insert 2 cycle }
  columns := fun _ => ⟨"Award", "Example", "scholarship", none, false⟩
  countries := countries
  sessions := Table.empty
  searches := Table.empty
  outbox := Outbox.empty
  joinRequests := Table.empty

/-- What is shown of a call. -/
def searchItem (cycleId : CycleId) : SearchResult where
  scholarshipId := 1
  cycleId := cycleId
  name := "Award"
  provider := "Example"
  awardType := "scholarship"
  status := .opened
  fit := .possible
  officialUrl := awardUrl
  lastVerifiedAt := some start
  eligibilityNote := none
  fieldNames := []
  fields := []
  programmeNames := []
  destinations := ["DE"]
  deadlineAt := none
  deadlinePrecision := none
  degreeLevels := ["masters"]
  expectedReopenMonth := none
  fundingType := none
  providerCountry := none
  caveats := ["Some eligibility conditions need checking."]

/-- The `n`-th request of a visitor, with the cookie it has. -/
def searchCall (n : ℕ) (cookie : Option String) (cursor : Option String) : SearchCall where
  request := { searchBody with cursor := cursor }
  cookie := cookie
  allowed := true
  evaluatedAt := start
  sessionAt := start
  sessionId := n
  token := uuidText n
  searchId := n
  responseId := n
  eventId := n
  durationMs := 5

lemma searchBody_normalize : searchBody.normalize searchPy countries = .ok searchFilters := by
  rfl

lemma searchStore_matches :
    sortedMatches searchPy searchFilters.profile searchStore.db searchStore.columns start =
      .ok [searchItem 1, searchItem 2] := by
  decide +kernel

end ScholarshipFinder.Sample
