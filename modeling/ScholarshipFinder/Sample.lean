import ScholarshipFinder.System

/-!
# A concrete service

A runtime that answers as Python does on the few strings and contents that occur here, and a
database with one published cycle.  The concrete runs of the development start from it.
-/

namespace ScholarshipFinder.Sample

open Lib

def awardUrl : String := "https://award.example.org/"

def movedUrl : String := "https://moved.example.org/"

/-- `urlsplit` of an `https` URL without query and port. -/
def split (host path : String) : SplitResult where
  scheme := "https"
  netloc := host
  path := path
  query := ""
  hostname := some host
  port := .ok none

/-- The contents `b"1"` and `b"2"`, and everything else. -/
def sha256 : List UInt8 → String
  | [49] => "6b86b273ff34fce19d6b804eff5a3f5747ada4eaa22f1d49c01e52ddb7875b4b"
  | [50] => "d4735e3a265e16eee03f59718b9b5d03019c07d8b6c51f90da3a666eec13ab35"
  | _ => "e3b0c44298fc1c149afbf4c8996fb92427ae41e4649b934ca495991b7852b855"

def py : Py where
  zoneInfo := fun _ => .error ⟨.zoneInfoNotFoundError, "No time zone found"⟩
  fromisoformat := fun _ => valueError "Invalid isoformat string"
  isoformat := fun _ => ""
  strip := id
  lower := id
  upper := id
  str := fun _ => ""
  urlsplit := fun url =>
    if url = awardUrl then .ok (split "award.example.org" "/")
    else if url = movedUrl then .ok (split "moved.example.org" "/")
    else valueError "Invalid URL"
  parseQsl := fun _ => .ok []
  urlencode := fun _ => ""
  urlunsplit := fun scheme netloc path _ => scheme ++ "://" ++ netloc ++ path
  sha256 := sha256

def countries : CountryVocabulary where
  names := [("DE", "Germany")]
  destinations := ["DE"]

/-- The facts of a rolling call, as a publication stores them. -/
def facts : Json := .obj [
  ("destinations", strings ["DE"]),
  ("levels", strings ["masters"]),
  ("origin_mode", .str "unknown"),
  ("origins", strings []),
  ("field_mode", .str "unknown"),
  ("fields", strings []),
  ("evidence_fresh", .bool true)]

/-- The moment the cycle was last verified, in the year 2024. -/
def start : Instant := 738900 * day

/-- A published rolling call, verified at `start`. -/
def cycle : ScholarshipCycle where
  scholarshipId := 1
  providerCycleKey := "2024"
  applicantSegment := "default"
  officialCycleUrl := awardUrl
  publicStatus := .openVerified
  statusValidUntil := none
  lastVerifiedAt := some start
  facts := facts
  sourcePageId := none
  autoDowngraded := false
  createdAt := start

/-- The database with this cycle alone. -/
def db (cycle : ScholarshipCycle) : Db where
  scholarships := Table.empty.insert 1 ⟨.published⟩
  cycles := Table.empty.insert 1 cycle
  sources := Table.empty.insert 1 ⟨officialSourceName, [], true⟩
  pages := Table.empty
  snapshots := []
  tasks := []
  usage := Table.empty

/-- The database before its publication. -/
def unpublished : Db := { db cycle with cycles := Table.empty }

/-- Its publication, with a validity window of the reviewer's choice. -/
def publication (validUntil : Option Instant) : PublishArgs where
  cycleId := 1
  scholarshipId := 1
  providerCycleKey := "2024"
  applicantSegment := "default"
  officialCycleUrl := awardUrl
  publicStatus := .openVerified
  facts := facts
  statusValidUntil := validUntil
  lastVerifiedAt := some start

/-- The page answers with this status and content. -/
def answer (status : ℕ) (content : List UInt8) : Fetch where
  direct := .ok ⟨awardUrl, status, content, "text/html"⟩
  jina := .error ⟨.httpError, "not configured"⟩
  reservedAt := start
  completedAt := start

/-- 1 March 2024, 17:00 UTC. -/
def deadline : DateTime := ⟨738945 * day + 17 * hour, some 0⟩

def deadlineText : String := "2024-03-01T17:00:00+00:00"

/-- The runtime, with this timestamp. -/
def datedPy : Py := { py with
  fromisoformat := fun s =>
    if s = deadlineText then .ok deadline else valueError "Invalid isoformat string"
  isoformat := fun d => if d = deadline then deadlineText else "" }

lemma textLaws : datedPy.TextLaws :=
  ⟨fun _ _ => rfl, fun _ _ => rfl, fun _ => rfl, fun _ => rfl, fun _ => rfl⟩

lemma readsBack_deadline : datedPy.ReadsBack deadline := ⟨rfl, by decide⟩

lemma deadline_of_read {s : String} {d : DateTime} (h : datedPy.fromisoformat s = .ok d) :
    deadline = d := by
  change (if s = deadlineText then Except.ok deadline else valueError _) = Except.ok d at h
  split at h
  · exact Except.ok.inj h
  · cases h

lemma readsBack (s : String) (d : DateTime) (h : datedPy.fromisoformat s = .ok d) :
    datedPy.ReadsBack d :=
  deadline_of_read h ▸ readsBack_deadline

lemma isoLaws : datedPy.IsoLaws where
  refuse := by
    intro s e h
    change (if s = deadlineText then Except.ok deadline else valueError _) = Except.error e at h
    split at h
    · cases h
    · cases h
      rfl
  range := by
    intro s d h
    rw [← deadline_of_read h]
    decide

/-! ## Two quarters of an hour -/

/-- `start`, on 16 January 2024. -/
def midnight : DateTime := ⟨start, some 0⟩

def midnightText : String := "2024-01-16T00:00:00+00:00"

def quarterPast : DateTime := ⟨start + 15 * minute, some 0⟩

def quarterPastText : String := "2024-01-16T00:15:00+00:00"

/-- A runtime that writes and reads these two timestamps. -/
def clockPy : Py := { py with
  fromisoformat := fun s =>
    if s = midnightText then .ok midnight
    else if s = quarterPastText then .ok quarterPast
    else valueError "Invalid isoformat string"
  isoformat := fun d =>
    if d = midnight then midnightText else if d = quarterPast then quarterPastText else "" }

lemma readsBack_midnight : clockPy.ReadsBack midnight := ⟨rfl, by decide⟩

lemma readsBack_quarterPast : clockPy.ReadsBack quarterPast := ⟨rfl, by decide⟩

end ScholarshipFinder.Sample
