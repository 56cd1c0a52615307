import ScholarshipFinder.Domain.AutoApproval
import ScholarshipFinder.Infra.Linking

/-!
# Drafting a review (`domain/review_draft.py`, `infra/worker.py`)

The draft of a review task is a proposal: it rejects a text that names countries and no supported
one, and calls everything else ambiguous.  The jobs of a discovery write it, and the key that the
discovery is identified by.
-/

namespace ScholarshipFinder

open Lib

/-- The dictionary of the facts. -/
def ExtractedFacts.items (facts : ExtractedFacts) : List (String × Json) := [
  ("extraction_version", .str facts.version),
  ("needs_human_review", .bool facts.needsHumanReview),
  ("funding_mentions", strings facts.fundingMentions),
  ("deadline_mentions", strings facts.deadlineMentions),
  ("level_mentions", strings facts.levelMentions),
  ("eligibility_phrase", (facts.eligibilityPhrase.map Json.str).getD .null)]

/-- `DRAFT_VERSION` -/
def draftVersion : String := "prepare_review-v1"

/-- `", ".join(values)` -/
def commaJoined (values : List String) : String := ", ".intercalate values

/-- The text that the draft screens. -/
def draftText (rawTitle rawExcerpt : Option String) : String := joinParts [rawTitle, rawExcerpt]

/-- The reasoning of a rejected text, which names these codes. -/
def rejectedReasoning (other : List String) (countryNames : Dict) : List String := [
  "Destination screen: text names " ++
    commaJoined (other.filterMap (List.lookup · countryNames)) ++ ", none of the supported " ++
    "destinations (" ++ commaJoined (sortedSet supportedDestinations) ++ ").",
  "Fast, objective closure - an institution's country is knowable from its " ++
    "own name, not an evidence-quality call - but this is a text match, not " ++
    "a verified fact: confirm the named country actually is the institution's " ++
    "before acting on this draft, since a name collision (a US state, a " ++
    "surname, a partial match) is possible."]

/-- The reasoning of any other text. -/
def ambiguousReasoning (supported other : List String) : List String :=
  let note :=
    if supported ≠ [] then
      "a supported destination is also named (" ++ commaJoined supported ++ ")"
    else if other ≠ [] then "an out-of-scope country is named alongside a supported one"
    else "no country name was found in the text"
  ["Destination screen did not find a clear out-of-scope closure (" ++ note ++ ").",
    "No automated fetch-and-cross-check has run: full verification against " ++
      "the real official source still requires a human pass per " ++
      "docs/candidate-verification-standard.md."]

/-- `draft_review_recommendation` -/
def draftReviewRecommendation (py : PyText) (rawTitle rawExcerpt : Option String)
    (extractedFacts : Option ExtractedFacts) (countryNames : Dict) : List (String × Json) :=
  let (supported, other) := mentionedCountries py (draftText rawTitle rawExcerpt) countryNames
  let (verdict, reasoning) :=
    if other ≠ [] ∧ supported = [] then ("reject", rejectedReasoning other countryNames)
    else ("ambiguous", ambiguousReasoning supported other)
  [("draft_version", .str draftVersion),
    ("verdict", .str verdict),
    ("reasoning", strings reasoning),
    ("proposed_award_type", .null),
    ("proposed_facts", .obj ((extractedFacts.map (·.items)).getD []))]

/-- The draft rejects: the text names countries and none of them is supported. -/
def screenRejects (py : PyText) (rawTitle rawExcerpt : Option String) (countryNames : Dict) : Bool :=
  let (supported, other) := mentionedCountries py (draftText rawTitle rawExcerpt) countryNames
  other ≠ [] ∧ supported = []

namespace IntakeStore

variable (py : IntakePy)

/-- `_normalize_discovery`, whatever the state of the discovery is by now. -/
def normalizeJob (id : DiscoveryId) (store : IntakeStore) : Except PyErr IntakeStore :=
  match store.discovery id with
  | none => lookupError "Discovery not found"
  | some d =>
    let key := (normalizeDiscovery py.toPyText py.toUnicodeText (d.rawTitle.getD "")).identityKey
    if key.length ≤ textLimit then
      .ok (store.amend id (fun d =>
        { d with normalizedIdentityKey := some key, processingState := .normalized }) fun _ => rfl)
    else refused

/-- `_prepare_review`, with the names of the vocabulary.  The state of the task does not matter. -/
def prepareReview (countryNames : Dict) (taskId : TaskId) (store : IntakeStore) :
    Except PyErr IntakeStore :=
  match store.tasks.row taskId with
  | none => lookupError "Review task not found"
  | some task =>
    match task.discoveryId with
    | none => .ok store
    | some id =>
      match store.discovery id with
      | none => lookupError "Discovery not found"
      | some d =>
        let draft := draftReviewRecommendation py.toPyText d.rawTitle d.rawExcerpt d.extractedFacts
          countryNames
        .ok { store with tasks := store.tasks.modify taskId fun task =>
          { task with draftRecommendation := some draft } }

end IntakeStore

/-! ## What the jobs write -/

/-- The verdict of a draft is that of the screen. -/
theorem verdict_draft (py : PyText) (rawTitle rawExcerpt : Option String)
    (extractedFacts : Option ExtractedFacts) (countryNames : Dict) :
    (draftReviewRecommendation py rawTitle rawExcerpt extractedFacts countryNames).lookup "verdict" =
      some (.str (if screenRejects py rawTitle rawExcerpt countryNames then "reject"
        else "ambiguous")) := by
  rw [screenRejects, draftReviewRecommendation]
  rcases mentionedCountries py (draftText rawTitle rawExcerpt) countryNames with ⟨supported, other⟩
  dsimp only
  by_cases hrejects : other ≠ [] ∧ supported = []
  · rw [if_pos hrejects, if_pos (decide_eq_true hrejects)]
    rfl
  · rw [if_neg hrejects, if_neg (fun h => hrejects (of_decide_eq_true h))]
    rfl

variable {py : IntakePy} {store after : IntakeStore}

/-- The draft of an attempt's gate rejects. -/
def rejectsDraft (draft : List (String × Json)) : Bool :=
  (draft.lookup "verdict").any (·.eqStr "reject")

lemma rejectsDraft_draft (py : PyText) (rawTitle rawExcerpt : Option String)
    (extractedFacts : Option ExtractedFacts) (countryNames : Dict) :
    rejectsDraft (draftReviewRecommendation py rawTitle rawExcerpt extractedFacts countryNames) =
      screenRejects py rawTitle rawExcerpt countryNames := by
  rw [rejectsDraft, verdict_draft]
  cases screenRejects py rawTitle rawExcerpt countryNames <;> rfl

/-- A normalisation writes the key and the state of its discovery. -/
lemma normalizeJob_ok {id : DiscoveryId} (h : store.normalizeJob py id = .ok after) :
    ∃ key, after = store.amend id (fun d =>
      { d with normalizedIdentityKey := some key, processingState := .normalized })
      fun _ => rfl := by
  unfold IntakeStore.normalizeJob at h
  split at h
  · cases h
  · dsimp only at h
    split at h
    · cases h
      exact ⟨_, rfl⟩
    · cases h

/-- A preparation drafts its task, if this has a discovery. -/
theorem prepareReview_ok {countryNames : Dict} {taskId : TaskId}
    (h : store.prepareReview py countryNames taskId = .ok after) :
    ∃ task, store.tasks.row taskId = some task ∧
      ((task.discoveryId = none ∧ after = store) ∨
        ∃ id d, task.discoveryId = some id ∧ store.discovery id = some d ∧
          after = { store with tasks := store.tasks.modify taskId fun task =>
            { task with draftRecommendation := some (draftReviewRecommendation py.toPyText d.rawTitle
              d.rawExcerpt d.extractedFacts countryNames) } }) := by
  unfold IntakeStore.prepareReview at h
  split at h
  · cases h
  · next task htask =>
    refine ⟨task, htask, ?_⟩
    split at h
    · next hnone =>
      cases h
      exact .inl ⟨hnone, rfl⟩
    · next id hid =>
      split at h
      · cases h
      · next d hd =>
        cases h
        exact .inr ⟨id, d, hid, hd, rfl⟩

end ScholarshipFinder
