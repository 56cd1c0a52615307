import ScholarshipFinder.Infra.AgentIntegration
import ScholarshipFinder.Infra.Ingestion
import ScholarshipFinder.Sample.Approvals

/-!
# Concrete imports and submissions
-/

namespace ScholarshipFinder.Sample

open Lib

/-- The digests of the contents and the keys that occur here. -/
def digests : List (String × String) := [
  ("https://award.example.org/\nAward A\n",
    "b096debc74337faeab003e691710c8c4ec04197e3394a7c366648497c0f6dcfa"),
  ("https://award.example.org/\nAward B\n",
    "595ecf0c92a193d7c85360096cea6e94e938891860a399d22ea190b74c0b3ec4"),
  ("https://award.example.org/\nAward C\n",
    "4f52bdc94b71937fd580fda75c979ddaf781c4000c23ac57291d85edb94a3715"),
  ("https://award.example.org/\nAward A\nRenewed",
    "dbe2f75395e0b4d4ba5e93fe2d14a8f77766576acd3ac2c6768aaa72ef1d1e4c"),
  ("https://moved.example.org/\nAward A\n",
    "544b1257e5dc0c826656b620d804228e782d1ac312c89f5f42cc53c9ab951355"),
  ("https://moved.example.org/\nAward B\n",
    "d57ac37d60fec437d470810aab6bfd98e7c686aedc1edfe0f5bc16c841319b60"),
  ("a|award", "11fcca18bc361b7dd31ee991ae8b9ae78103a017f5e95f979777efef895e0bbd"),
  ("award|b", "9c3afe88a53ba08172e99f879b8f7ac8f65f9dbaafb59d642b91a79d504f4cc1"),
  ("award|c", "cd4b3bf7f25566003c0012d12455f68d2f77d46b66d0a344a53cfbc17e5a1974")]

def digest (content : List UInt8) : String :=
  ((digests.find? fun e => e.1.toUTF8.toList = content).map Prod.snd).getD ""

/-- Python on ASCII text; a pattern without wildcards is like the name in any case. -/
def intakePy : IntakePy where
  toApprovalPy := { approvalPy with toPyText := { approvalPy.toPyText with sha256 := digest } }
  toUnicodeText := ⟨id, fun _ => false, String.map Char.toLower⟩
  ilike := fun name pattern => .ok (name.map Char.toLower = pattern.map Char.toLower)

lemma intakePy_urlLaws : intakePy.UrlLaws where
  urlsplit := by
    intro s e h
    change (if s = awardUrl then Except.ok _ else if s = movedUrl then Except.ok _
      else valueError "Invalid URL") = Except.error e at h
    split at h
    · cases h
    · split at h
      · cases h
      · cases h
        rfl
  port := by
    intro s parts e hsplit h
    change (if s = awardUrl then Except.ok (split "award.example.org" "/")
      else if s = movedUrl then Except.ok (split "moved.example.org" "/")
      else valueError "Invalid URL") = Except.ok parts at hsplit
    split at hsplit
    · cases hsplit
      cases h
    · split at hsplit
      · cases hsplit
        cases h
      · cases hsplit
  parseQsl := by
    rintro s e ⟨⟩

/-- Two active sources, and nothing from them yet. -/
def emptyIntake : IntakeStore where
  discovered := {
    db := { unpublished with
      sources := (Table.empty.insert 1 aggregator).insert 2 provider }
    discoveries := Table.empty
    page_source := by
      rintro id page ⟨⟩
    discovery_page := by
      rintro id d ⟨⟩ }
  authorityGrade := fun _ => none
  tasks := Table.empty
  providers := Table.empty
  shells := Table.empty
  verifications := []
  autoApproved := []
  jobs := Table.empty
  crawlRuns := Table.empty
  quarantine := []

/-- A row of the provider's feed. -/
def feedRow (title : String) : FeedRecord where
  sourceId := 2
  url := awardUrl
  title := title
  excerpt := none

/-- What an import is answered for its `n`-th record. -/
def rowAnswers (n : ℕ) : RecordAnswers where
  now := start + n * second
  headChoice := 0
  pageId := n
  discoveryId := n
  normalizeJobId := 2 * n
  linkJobId := 2 * n + 1

/-- A record twice, and one of an unknown source. -/
def mixedBatch : List (FeedRecord × RecordAnswers) :=
  [(feedRow "Award A", rowAnswers 1), (feedRow "Award A", rowAnswers 2),
    ({ feedRow "Unknown" with sourceId := 9 }, rowAnswers 3)]

/-- The import of a batch. -/
def importOf (runId : CrawlRunId) (batch : List (FeedRecord × RecordAnswers))
    (store : IntakeStore) : Except PyErr ImportOutcome × IntakeStore :=
  importFeedRecords intakePy runId (start + runId * day) (start + runId * day + minute) batch store

lemma mixedBatch_ended : (importOf 1 mixedBatch emptyIntake).1.toOption =
    some ⟨1, 1, 1, 0, 1⟩ := by
  decide +kernel

/-- One award on two pages, and on the first of them again with an excerpt. -/
def reportedBatch : List (FeedRecord × RecordAnswers) :=
  [(feedRow "Award A", rowAnswers 1), ({ feedRow "Award A" with url := movedUrl }, rowAnswers 2),
    ({ feedRow "Award A" with excerpt := some "Renewed" }, rowAnswers 3)]

/-- What a run of the linker is answered. -/
def linkAnswers (n : ℕ) : LinkAnswers where
  now := start + 3 * day + n * second
  aiFacts := .ok none
  taskId := n
  jobId := 10 + n

/-! ## Candidates of an imported page -/

/-- The page of the first award, imported. -/
def importedPage : IntakeStore := (importOf 1 [(feedRow "Award A", rowAnswers 1)] emptyIntake).2

/-- The parent of the candidates. -/
def importedContext : DiscoveryContext where
  discoveryId := 1
  discovery := importedDiscovery intakePy 1 (start + day) (feedRow "Award A")
    ⟨awardUrl, digest ("https://award.example.org/\nAward A\n".toUTF8.toList), "Award A", none⟩ 1
    none
  page := { pageOf 2 awardUrl with lastSeenAt := some (start + second) }
  sourceId := 2
  source := provider

lemma importedPage_context : loadDiscoveryContext importedPage 1 = some importedContext := by
  decide +kernel

def candidate (title : String) : CandidateSubmission where
  title := title
  url := none
  excerpt := none
  heading := none

def candidateAnswers (n : ℕ) : CandidateAnswers where
  now := start + 2 * day + n * second
  pageId := n
  discoveryId := n
  normalizeJobId := 2 * n
  linkJobId := 2 * n + 1

def candidateBatch : List (CandidateSubmission × CandidateAnswers) :=
  [(candidate "Award B", candidateAnswers 2), (candidate "Award B", candidateAnswers 3)]

lemma candidateBatch_ended :
    ((submitCandidates intakePy (start + 2 * day) 1 candidateBatch importedPage).map
      fun r => r.1.map fun response => (response.created, response.duplicates)).toOption =
        some (some (1, 1)) := by
  decide +kernel

end ScholarshipFinder.Sample
