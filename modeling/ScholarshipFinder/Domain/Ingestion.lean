import ScholarshipFinder.Domain.Urls

/-!
# Candidates (`domain/ingestion.py`)

A row of a feed becomes a candidate: its URL is canonicalized, its texts are stripped, and a hash
over all three tells whether its page has had this content before.
-/

namespace ScholarshipFinder

structure DiscoveryCandidate where
  normalizedUrl : String
  contentHash : String
  title : String
  excerpt : Option String
deriving DecidableEq, Repr

variable (py : Py)

/-- The hash of `"\n".join((normalized_url, title, excerpt))`. -/
def contentHash (normalizedUrl title excerpt : String) : String :=
  py.sha256 ("\n".intercalate [normalizedUrl, title, excerpt]).toUTF8.toList

def prepareCandidate (url title : String) (excerpt : Option String) :
    Except PyErr DiscoveryCandidate := do
  let normalizedUrl ← canonicalizeUrl py url
  return {
    normalizedUrl := normalizedUrl
    contentHash := contentHash py normalizedUrl (py.strip title) (py.strip (excerpt.getD ""))
    title := py.strip title
    excerpt := (excerpt.filter (· ≠ "")).map py.strip }

/-- What `urllib.parse` raises of a text is a `ValueError`. -/
structure Py.UrlLaws (py : Py) : Prop where
  urlsplit : ∀ s e, py.urlsplit s = .error e → e.cls = .valueError
  port : ∀ s parts e, py.urlsplit s = .ok parts → parts.port = .error e → e.cls = .valueError
  parseQsl : ∀ s e, py.parseQsl s = .error e → e.cls = .valueError

variable {py}

lemma canonicalizeUrl_error (laws : py.UrlLaws) {url : String} {e : PyErr}
    (h : canonicalizeUrl py url = .error e) : e.cls = .valueError := by
  unfold canonicalizeUrl at h
  cases hsplit : py.urlsplit (py.strip url) with
  | error e' =>
    rw [hsplit] at h
    cases h
    exact laws.urlsplit _ _ hsplit
  | ok parts =>
    rw [hsplit] at h
    by_cases hscheme : py.lower parts.scheme ∉ ["http", "https"] ∨ parts.netloc = ""
    · simp only [bind, Except.bind, if_pos hscheme] at h
      cases h
      rfl
    · simp only [bind, Except.bind, if_neg hscheme, pure, Except.pure] at h
      cases hport : parts.port with
      | error e' =>
        rw [hport] at h
        cases h
        exact laws.port _ _ _ hsplit hport
      | ok port =>
        rw [hport] at h
        cases hquery : py.parseQsl parts.query with
        | error e' =>
          rw [hquery] at h
          cases h
          exact laws.parseQsl _ _ hquery
        | ok query =>
          rw [hquery] at h
          cases h

/-- The preparation of a candidate raises nothing but the refusal of its URL. -/
lemma prepareCandidate_error (laws : py.UrlLaws) {url title : String} {excerpt : Option String}
    {e : PyErr} (h : prepareCandidate py url title excerpt = .error e) : e.cls = .valueError := by
  unfold prepareCandidate at h
  cases hurl : canonicalizeUrl py url with
  | error e' =>
    rw [hurl] at h
    cases h
    exact canonicalizeUrl_error laws hurl
  | ok normalizedUrl =>
    rw [hurl] at h
    cases h

/-- The URL of a candidate is the canonical one, and its hash and its texts follow from it. -/
lemma prepareCandidate_ok {url title : String} {excerpt : Option String}
    {candidate : DiscoveryCandidate} (h : prepareCandidate py url title excerpt = .ok candidate) :
    canonicalizeUrl py url = .ok candidate.normalizedUrl ∧
      candidate.contentHash = contentHash py candidate.normalizedUrl (py.strip title)
        (py.strip (excerpt.getD "")) ∧
      candidate.title = py.strip title ∧
      candidate.excerpt = (excerpt.filter (· ≠ "")).map py.strip := by
  obtain ⟨normalizedUrl, hurl, h⟩ := exceptBind_ok h
  cases h
  exact ⟨hurl, rfl, rfl, rfl⟩

end ScholarshipFinder
