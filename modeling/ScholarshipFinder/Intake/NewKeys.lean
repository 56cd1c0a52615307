import ScholarshipFinder.Intake.Growth

/-!
# Generated keys

Imports and submissions take the keys of the rows they insert from a generator, whose answers are
new to the database and different from each other (`Generated`).  What an insertion with one of the
answers writes leaves the others new (`EnteredFor`), so that a batch is never refused for its keys.
-/

namespace ScholarshipFinder

open Lib IntakeStore

/-- The keys of one insertion. -/
structure NewKeys where
  pageId : PageId
  discoveryId : DiscoveryId
  normalizeJobId : JobId
  linkJobId : JobId

def RecordAnswers.keys (answers : RecordAnswers) : NewKeys :=
  ⟨answers.pageId, answers.discoveryId, answers.normalizeJobId, answers.linkJobId⟩

def CandidateAnswers.keys (answers : CandidateAnswers) : NewKeys :=
  ⟨answers.pageId, answers.discoveryId, answers.normalizeJobId, answers.linkJobId⟩

/-- No job has the keys of the two jobs, or is named after the discovery. -/
structure JobsUnused (table : Table JobId ProcessingJob) (keys : NewKeys) : Prop where
  normalizeJob : table.row keys.normalizeJobId = none
  linkJob : table.row keys.linkJobId = none
  jobs : keys.normalizeJobId ≠ keys.linkJobId
  unnamed : ∀ jobId job, table.row jobId = some job →
    job.dedupeKey ≠ linkKey keys.discoveryId ∧
      ∀ suffix, job.dedupeKey ≠ normalizeKey keys.discoveryId suffix

/-- Nothing in the database has these keys, or is named after the discovery. -/
structure Unused (store : IntakeStore) (keys : NewKeys) : Prop extends
    JobsUnused store.jobs keys where
  page : store.page keys.pageId = none
  discovery : store.discovery keys.discoveryId = none

/-- The keys of two insertions. -/
structure Apart (keys keys' : NewKeys) : Prop where
  page : keys.pageId ≠ keys'.pageId
  text : uuidText keys.discoveryId ≠ uuidText keys'.discoveryId
  jobs : ∀ j ∈ [keys.normalizeJobId, keys.linkJobId],
    ∀ j' ∈ [keys'.normalizeJobId, keys'.linkJobId], j ≠ j'

/-- What the generator answers. -/
structure Generated (store : IntakeStore) (keys : List NewKeys) : Prop where
  unused : ∀ k ∈ keys, Unused store k
  apart : keys.Pairwise Apart

/-- Rows were added under these keys only, and jobs that are named after the discovery. -/
structure EnteredFor (keys : NewKeys) (before after : IntakeStore) : Prop where
  sources : after.discovered.db.sources = before.discovered.db.sources
  pages : ∀ id, before.page id = none → id ≠ keys.pageId → after.page id = none
  discoveries : ∀ id, before.discovery id = none → id ≠ keys.discoveryId →
    after.discovery id = none
  jobs : ∀ id, before.jobs.row id = none → id ∉ [keys.normalizeJobId, keys.linkJobId] →
    after.jobs.row id = none
  named : ∀ jobId job, after.jobs.row jobId = some job →
    before.jobs.row jobId = some job ∨ job.dedupeKey = linkKey keys.discoveryId ∨
      ∃ suffix, job.dedupeKey = normalizeKey keys.discoveryId suffix

variable {keys keys' : NewKeys} {before middle after store : IntakeStore}

/-! ## Names -/

lemma linkKey_inj {id id' : DiscoveryId} (h : linkKey id = linkKey id') :
    uuidText id = uuidText id' := by
  have hlist : "link:".toList ++ (uuidText id).toList = "link:".toList ++ (uuidText id').toList := by
    rw [← String.toList_append, ← String.toList_append]
    exact congrArg String.toList h
  exact String.toList_inj.mp (List.append_cancel_left hlist)

/-- The identifier is the part of the key that starts after 10 characters and has 36 of them. -/
lemma normalizeKey_inj {id id' : DiscoveryId} {suffix suffix' : String}
    (h : normalizeKey id suffix = normalizeKey id' suffix') : uuidText id = uuidText id' := by
  have hlist : "normalize:".toList ++ ((uuidText id).toList ++ (":" ++ suffix).toList) =
      "normalize:".toList ++ ((uuidText id').toList ++ (":" ++ suffix').toList) := by
    have hkey := congrArg String.toList h
    simp only [normalizeKey, String.toList_append, List.append_assoc] at hkey ⊢
    exact hkey
  have hlength : (uuidText id).toList.length = (uuidText id').toList.length := by
    rw [String.length_toList, String.length_toList, length_uuidText, length_uuidText]
  exact String.toList_inj.mp (List.append_inj (List.append_cancel_left hlist) hlength).1

/-- The two keys of a discovery differ in the first character. -/
lemma normalizeKey_ne_linkKey (id id' : DiscoveryId) (suffix : String) :
    normalizeKey id suffix ≠ linkKey id' := by
  intro h
  have hhead := congrArg (fun s => s.toList.head?) h
  have hn : (normalizeKey id suffix).toList.head? = some 'n' := by
    rw [normalizeKey, String.append_assoc, String.append_assoc, String.toList_append]
    rfl
  have hl : (linkKey id').toList.head? = some 'l' := by
    rw [linkKey, String.toList_append]
    rfl
  rw [hn, hl] at hhead
  exact absurd hhead (by decide)

lemma length_normalizeKey (id : DiscoveryId) (suffix : String) :
    (normalizeKey id suffix).length = 47 + suffix.length := by
  have hprefix : "normalize:".length = 10 := by decide
  have hcolon : ":".length = 1 := by decide
  rw [normalizeKey, String.length_append, String.length_append, String.length_append,
    length_uuidText, hprefix, hcolon]

lemma length_linkKey (id : DiscoveryId) : (linkKey id).length = 41 := by
  have hprefix : "link:".length = 5 := by decide
  rw [linkKey, String.length_append, length_uuidText, hprefix]

/-! ## Insertions -/

lemma EnteredFor.refl (keys : NewKeys) (store : IntakeStore) : EnteredFor keys store store where
  sources := rfl
  pages := fun _ h _ => h
  discoveries := fun _ h _ => h
  jobs := fun _ h _ => h
  named := fun _ _ h => Or.inl h

lemma EnteredFor.trans (h : EnteredFor keys before middle) (h' : EnteredFor keys middle after) :
    EnteredFor keys before after where
  sources := h'.sources.trans h.sources
  pages := fun id hrow hne => h'.pages id (h.pages id hrow hne) hne
  discoveries := fun id hrow hne => h'.discoveries id (h.discoveries id hrow hne) hne
  jobs := fun id hrow hne => h'.jobs id (h.jobs id hrow hne) hne
  named := by
    intro jobId job hrow
    rcases h'.named jobId job hrow with hrow | hnamed
    · exact h.named jobId job hrow
    · exact Or.inr hnamed

/-- What has been entered under one answer leaves the others new. -/
theorem Unused.later (h : Unused before keys') (hapart : Apart keys keys')
    (hentered : EnteredFor keys before after) : Unused after keys' where
  page := hentered.pages _ h.page hapart.page.symm
  discovery := hentered.discoveries _ h.discovery fun hid => hapart.text (by rw [hid])
  normalizeJob := by
    refine hentered.jobs _ h.normalizeJob fun hmem => ?_
    exact hapart.jobs _ hmem _ List.mem_cons_self rfl
  linkJob := by
    refine hentered.jobs _ h.linkJob fun hmem => ?_
    exact hapart.jobs _ hmem _ (List.mem_cons_of_mem _ List.mem_cons_self) rfl
  jobs := h.jobs
  unnamed := by
    intro jobId job hrow
    rcases hentered.named jobId job hrow with hrow | hlink | ⟨suffix, hnormalize⟩
    · exact h.unnamed jobId job hrow
    · refine ⟨fun heq => ?_, fun suffix heq => ?_⟩
      · exact hapart.text (linkKey_inj (hlink.symm.trans heq))
      · exact normalizeKey_ne_linkKey _ _ suffix (heq.symm.trans hlink)
    · refine ⟨fun heq => ?_, fun suffix' heq => ?_⟩
      · exact normalizeKey_ne_linkKey _ _ suffix (hnormalize.symm.trans heq)
      · exact hapart.text (normalizeKey_inj (hnormalize.symm.trans heq))

lemma Generated.tail {rest : List NewKeys} (h : Generated before (keys :: rest))
    (hentered : EnteredFor keys before after) : Generated after rest where
  unused := fun k hk => (h.unused k (List.mem_cons_of_mem keys hk)).later
    (List.rel_of_pairwise_cons h.apart hk) hentered
  apart := h.apart.tail

variable {py : IntakePy}

lemma seePage_entered {pageId : PageId} {sourceId : SourceId} {url : String} {now : Instant}
    (h : store.seePage py keys.pageId sourceId url now = .ok (pageId, after)) :
    EnteredFor keys store after := by
  unfold seePage at h
  split at h
  · next found hfound =>
    cases h
    refine ⟨rfl, fun id hrow _ => ?_, fun _ h _ => h, fun _ h _ => h, fun _ _ h => Or.inl h⟩
    rw [touchPage_page, hrow]
    split <;> rfl
  · obtain ⟨inserted, hinsert, h⟩ := exceptBind_ok h
    cases h
    obtain ⟨-, hpages, hdiscoveries, hjobs, -, -, hkept⟩ := insertPage_ok hinsert
    refine ⟨hkept.sources, fun id hrow hne => ?_, fun id hrow _ => ?_, fun id hrow _ => ?_,
      fun jobId job hrow => Or.inl ?_⟩
    · rw [IntakeStore.page, hpages, Table.row_insert_of_ne _ hne]
      exact hrow
    · rwa [ReviewStore.discovery, hdiscoveries]
    · rwa [hjobs]
    · rwa [hjobs] at hrow

lemma insertJob_entered {jobId : JobId} {kind dedupeKey : String} {payload : Json}
    (hid : jobId ∈ [keys.normalizeJobId, keys.linkJobId])
    (hkey : dedupeKey = linkKey keys.discoveryId ∨
      ∃ suffix, dedupeKey = normalizeKey keys.discoveryId suffix)
    (h : store.insertJob jobId kind dedupeKey payload = .ok after) : EnteredFor keys store after := by
  obtain ⟨-, -, rfl⟩ := insertJob_ok h
  refine ⟨rfl, fun _ h _ => h, fun _ h _ => h, fun id hrow hne => ?_, fun id job hrow => ?_⟩
  · have hother : id ≠ jobId := fun heq => hne (heq ▸ hid)
    show (store.jobs.insert jobId _).row id = none
    rw [Table.row_insert_of_ne _ hother]
    exact hrow
  · change (store.jobs.insert jobId _).row id = some job at hrow
    rw [Table.row_insert] at hrow
    split at hrow
    · obtain rfl := Option.some.inj hrow
      exact Or.inr hkey
    · exact Or.inl hrow

variable (keys) in
lemma addDiscovery_entered {d : Discovery} {suffix : String}
    (h : store.addDiscovery py keys.discoveryId d suffix keys.normalizeJobId keys.linkJobId =
      .ok after) : EnteredFor keys store after := by
  obtain ⟨entered, hentered, h⟩ := exceptBind_ok h
  obtain ⟨normalized, hnormalized, hlinked⟩ := exceptBind_ok h
  obtain ⟨-, hdiscoveries, hdb, hjobs, -, -, hkept⟩ := insertDiscovery_ok hentered
  have hinserted : EnteredFor keys store entered := by
    refine ⟨hkept.sources, fun id hrow _ => ?_, fun id hrow hne => ?_, fun id hrow _ => ?_,
      fun jobId job hrow => Or.inl ?_⟩
    · rwa [IntakeStore.page, hdb]
    · rw [ReviewStore.discovery, hdiscoveries, Table.row_insert_of_ne _ hne]
      exact hrow
    · rwa [hjobs]
    · rwa [hjobs] at hrow
  refine (hinserted.trans (insertJob_entered List.mem_cons_self (Or.inr ⟨suffix, rfl⟩)
    hnormalized)).trans ?_
  exact insertJob_entered (List.mem_cons_of_mem _ List.mem_cons_self) (Or.inl rfl) hlinked

/-! ## What the database refuses -/

/-- A page is refused only for its URL. -/
lemma seePage_ok_iff {sourceId : SourceId} {url : String} {now : Instant}
    (hfree : store.page keys.pageId = none)
    (hsource : (store.discovered.db.sources.row sourceId).isSome) :
    (∃ result, store.seePage py keys.pageId sourceId url now = .ok result) ↔
      (store.findPage sourceId url = none → py.storesText url = true) := by
  unfold seePage
  cases hfound : store.findPage sourceId url with
  | some found =>
    refine ⟨fun _ h => ?_, fun _ => ⟨_, rfl⟩⟩
    cases h
  | none =>
    dsimp only
    unfold insertPage
    by_cases hurl : py.storesText url = true
    · rw [dif_pos ⟨hfree, hsource, hurl⟩]
      exact ⟨fun _ _ => hurl, fun _ => ⟨_, rfl⟩⟩
    · rw [dif_neg fun hadmits => hurl hadmits.2.2]
      refine ⟨?_, fun h => absurd (h rfl) hurl⟩
      rintro ⟨_, ⟨⟩⟩

lemma insertJob_ok_iff {jobId : JobId} {kind dedupeKey : String} {payload : Json} :
    (∃ after, store.insertJob jobId kind dedupeKey payload = .ok after) ↔
      store.jobs.row jobId = none ∧
        (∀ id job, store.jobs.row id = some job → job.dedupeKey ≠ dedupeKey) ∧
        dedupeKey.length ≤ textLimit := by
  have hkeys : (store.jobs.findKey fun job => job.dedupeKey = dedupeKey) = none ↔
      ∀ id job, store.jobs.row id = some job → job.dedupeKey ≠ dedupeKey := by
    rw [Table.findKey_eq_none]
    simp only [decide_eq_false_iff_not, ne_eq]
  rw [← hkeys]
  unfold insertJob
  split
  · next hadmits => exact ⟨fun _ => hadmits, fun _ => ⟨_, rfl⟩⟩
  · next hrefuses =>
    refine ⟨?_, fun hadmits => absurd hadmits hrefuses⟩
    rintro ⟨_, ⟨⟩⟩

/-- The two jobs of a new discovery are refused only for the length of the first key. -/
lemma insertJobs_ok_iff {suffix : String} {payload : Json} (h : JobsUnused store.jobs keys) :
    (∃ after, (store.insertJob keys.normalizeJobId "normalize_discovery"
      (normalizeKey keys.discoveryId suffix) payload >>= fun store =>
        store.insertJob keys.linkJobId "link_canonical" (linkKey keys.discoveryId) payload) =
          .ok after) ↔ suffix.length ≤ 453 := by
  constructor
  · rintro ⟨after, hafter⟩
    obtain ⟨normalized, hnormalized, -⟩ := exceptBind_ok hafter
    obtain ⟨-, -, hlength⟩ := insertJob_ok_iff.mp ⟨normalized, hnormalized⟩
    rw [length_normalizeKey, textLimit] at hlength
    omega
  · intro hlength
    obtain ⟨normalized, hnormalized⟩ := insertJob_ok_iff.mpr ⟨h.normalizeJob,
      fun id job hrow => (h.unnamed id job hrow).2 suffix,
      show (normalizeKey keys.discoveryId suffix).length ≤ textLimit by
        rw [length_normalizeKey, textLimit]
        omega⟩
    have hlinked : ∃ after, normalized.insertJob keys.linkJobId "link_canonical"
        (linkKey keys.discoveryId) payload = .ok after := by
      obtain ⟨-, -, rfl⟩ := insertJob_ok hnormalized
      refine insertJob_ok_iff.mpr ⟨?_, fun id job hrow => ?_, ?_⟩
      · show (store.jobs.insert keys.normalizeJobId _).row keys.linkJobId = none
        rw [Table.row_insert_of_ne _ h.jobs.symm]
        exact h.linkJob
      · change (store.jobs.insert keys.normalizeJobId _).row id = some job at hrow
        rw [Table.row_insert] at hrow
        split at hrow
        · obtain rfl := Option.some.inj hrow
          exact normalizeKey_ne_linkKey _ _ suffix
        · exact (h.unnamed id job hrow).1
      · rw [length_linkKey, textLimit]
        decide
    rw [hnormalized]
    exact hlinked

/-- A discovery with new keys is refused only for its columns and for the key of its job. -/
theorem addDiscovery_ok_iff {d : Discovery} {suffix : String} (h : JobsUnused store.jobs keys)
    (hfree : store.discovery keys.discoveryId = none)
    (hpage : (store.discovered.db.pages.row d.sourcePageId).isSome) :
    (∃ after, store.addDiscovery py keys.discoveryId d suffix keys.normalizeJobId keys.linkJobId =
      .ok after) ↔ admitsDiscovery py d = true ∧ suffix.length ≤ 453 := by
  by_cases hadmits : admitsDiscovery py d = true
  · obtain ⟨inserted, hinserted⟩ : ∃ inserted,
        store.insertDiscovery py keys.discoveryId d = .ok inserted := by
      unfold insertDiscovery
      rw [dif_pos ⟨hfree, hpage, hadmits⟩]
      exact ⟨_, rfl⟩
    have hjobs : inserted.jobs = store.jobs := (insertDiscovery_ok hinserted).2.2.2.1
    have hunused : JobsUnused inserted.jobs keys := by
      rw [hjobs]
      exact h
    unfold addDiscovery
    rw [hinserted]
    exact (insertJobs_ok_iff hunused).trans (and_iff_right hadmits).symm
  · unfold addDiscovery insertDiscovery
    rw [dif_neg fun hall => hadmits hall.2.2]
    refine ⟨?_, fun hboth => absurd hboth.1 hadmits⟩
    rintro ⟨_, ⟨⟩⟩

end ScholarshipFinder
