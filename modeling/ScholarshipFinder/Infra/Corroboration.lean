import ScholarshipFinder.Domain.Discoveries

/-!
# The siblings of a discovery (`infra/corroboration.py`)

Every other discovery that shares the identity key is a sibling, except those the Agent authored.
The subject's own source is counted without a look at who authored the subject.
-/

namespace ScholarshipFinder

open Lib

/-- The discovery was reported by a source, and not written by the Agent. -/
def Discovery.isReport (d : Discovery) : Bool := d.splitFromDiscoveryId = none

/-- The row of `load_siblings` for a discovery, if the `where` clause admits it. -/
def siblingRow (store : DiscoveryStore) (subjectId : DiscoveryId) (key : String)
    (id : DiscoveryId) : Option SiblingFact := do
  let d ← store.discoveries.row id
  let sourceId ← store.sourceOfPage d.sourcePageId
  if d.normalizedIdentityKey = some key ∧ id ≠ subjectId ∧ d.isReport then
    return ⟨id, sourceId, d.extractedFacts⟩
  else none

/-- Every other discovery sharing this one's `normalized_identity_key`. -/
def loadSiblings (store : DiscoveryStore) (subjectId : DiscoveryId) (subject : Discovery) :
    List SiblingFact :=
  match subject.normalizedIdentityKey with
  | none => []
  | some key =>
    if key = "" then []
    else store.discoveries.keys.filterMap (siblingRow store subjectId key)

variable (py : PyText)

def gatherCorroboration (store : DiscoveryStore) (subjectId : DiscoveryId)
    (subject : Discovery) : Except PyErr CorroborationResult :=
  match store.sourceOfPage subject.sourcePageId with
  | none => lookupError "Discovery's source could not be resolved"
  | some ownSourceId =>
    .ok (evaluateCorroboration py ownSourceId subject.extractedFacts
      (loadSiblings store subjectId subject))

/-! ## Who is a sibling -/

variable {py} {store : DiscoveryStore} {subjectId : DiscoveryId} {subject : Discovery}
  {key : String}

lemma siblingRow_eq_some {id : DiscoveryId} {sibling : SiblingFact} :
    siblingRow store subjectId key id = some sibling ↔
      ∃ d sourceId, store.discoveries.row id = some d ∧
        store.sourceOfPage d.sourcePageId = some sourceId ∧
        (d.normalizedIdentityKey = some key ∧ id ≠ subjectId ∧ d.isReport) ∧
        sibling = ⟨id, sourceId, d.extractedFacts⟩ := by
  rw [siblingRow, Option.bind_eq_bind, Option.bind_eq_some_iff]
  constructor
  · rintro ⟨d, hrow, h⟩
    rw [Option.bind_eq_bind, Option.bind_eq_some_iff] at h
    obtain ⟨sourceId, hsource, h⟩ := h
    split at h
    · next hwhere => exact ⟨d, sourceId, hrow, hsource, hwhere, (Option.some.inj h).symm⟩
    · cases h
  · rintro ⟨d, sourceId, hrow, hsource, hwhere, rfl⟩
    refine ⟨d, hrow, ?_⟩
    rw [Option.bind_eq_bind, Option.bind_eq_some_iff]
    exact ⟨sourceId, hsource, if_pos hwhere⟩

/-- The siblings under a key are the other reports of it. -/
theorem mem_loadSiblings (hkey : subject.normalizedIdentityKey = some key) (hne : key ≠ "")
    {sibling : SiblingFact} :
    sibling ∈ loadSiblings store subjectId subject ↔
      ∃ id d sourceId, store.discoveries.row id = some d ∧
        store.sourceOfPage d.sourcePageId = some sourceId ∧
        (d.normalizedIdentityKey = some key ∧ id ≠ subjectId ∧ d.isReport) ∧
        sibling = ⟨id, sourceId, d.extractedFacts⟩ := by
  rw [loadSiblings, hkey]
  simp only [if_neg hne, List.mem_filterMap]
  constructor
  · rintro ⟨id, -, h⟩
    obtain ⟨d, sourceId, h⟩ := siblingRow_eq_some.mp h
    exact ⟨id, d, sourceId, h⟩
  · rintro ⟨id, d, sourceId, h⟩
    refine ⟨id, ?_, siblingRow_eq_some.mpr ⟨d, sourceId, h⟩⟩
    rw [store.discoveries.mem_keys, h.1]
    rfl

/-- A subject without a key has no siblings. -/
lemma loadSiblings_empty (hkey : subject.normalizedIdentityKey = some "") :
    loadSiblings store subjectId subject = [] := by
  rw [loadSiblings, hkey]
  exact if_pos rfl

end ScholarshipFinder
