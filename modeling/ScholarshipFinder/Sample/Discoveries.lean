import ScholarshipFinder.Infra.Corroboration
import ScholarshipFinder.Sample.Text

/-!
# Concrete discoveries
-/

namespace ScholarshipFinder.Sample

open Lib

def aggregator : Source := ⟨"aggregator", ["aggregator.example.org"], true⟩

def provider : Source := ⟨"provider", ["award.example.org"], true⟩

def pageOf (sourceId : SourceId) (url : String) : SourcePage where
  sourceId := sourceId
  normalizedUrl := url
  normalizedContentHash := none
  lastAttemptedAt := none
  lastSuccessfulFetchAt := none
  httpStatus := none
  finalUrl := none

/-- A discovery on a page, with this identity key. -/
def report (pageId : PageId) (key : String) : Discovery where
  sourcePageId := pageId
  rawTitle := none
  rawExcerpt := none
  processingState := .normalized
  normalizedIdentityKey := some key
  canonicalScholarshipId := none
  extractedFacts := none
  splitFromDiscoveryId := none
  autoReviewEvaluatedAt := none
  createdAt := start

/-- A list page of an aggregator (1), the award's own page (2), and the award as the Agent split it
from the list page (3). -/
def splitStore : DiscoveryStore where
  db := { unpublished with
    sources := (Table.empty.insert 1 aggregator).insert 2 provider
    pages := (Table.empty.insert 1 (pageOf 1 movedUrl)).insert 2 (pageOf 2 awardUrl) }
  discoveries := ((Table.empty.insert 1 (report 1 "awards|ten")).insert 2
    (report 2 "award|example")).insert 3 { report 1 "award|example" with
      splitFromDiscoveryId := some 1 }
  page_source := by
    intro id page hrow
    simp only [Table.insert, Table.empty, Function.update_apply] at hrow ⊢
    split at hrow
    · obtain rfl := Option.some.inj hrow
      decide
    · split at hrow
      · obtain rfl := Option.some.inj hrow
        decide
      · cases hrow
  discovery_page := by
    intro id d hrow
    simp only [Table.insert, Table.empty, Function.update_apply] at hrow ⊢
    split at hrow
    · obtain rfl := Option.some.inj hrow
      decide
    · split at hrow
      · obtain rfl := Option.some.inj hrow
        decide
      · split at hrow
        · obtain rfl := Option.some.inj hrow
          decide
        · cases hrow

end ScholarshipFinder.Sample
