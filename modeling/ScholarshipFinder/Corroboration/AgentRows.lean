import ScholarshipFinder.Sample.Discoveries

/-!
# The Agent's rows and the source count

The rows that the Agent writes are filtered out of the siblings, so adding them changes no count.
The subject itself passes no such filter: its own source is counted whoever wrote it.  So the
count is that of the reporting sources exactly if the subject's own source is one of them.
-/

namespace ScholarshipFinder

open Lib

/-- The source that this discovery shows to report `key`, if it shows one. -/
def reportedSource (store : DiscoveryStore) (key : String) (id : DiscoveryId) :
    Option SourceId := do
  let d ← store.discoveries.row id
  if d.normalizedIdentityKey = some key ∧ d.isReport then store.sourceOfPage d.sourcePageId
  else none

/-- The sources with a discovery of this identity that the Agent did not write. -/
def DiscoveryStore.reportingSources (store : DiscoveryStore) (key : String) : Finset SourceId :=
  (store.discoveries.keys.filterMap (reportedSource store key)).toFinset

/-- The second store has the rows of the first, and new ones by the Agent. -/
structure AddsAgentRows (store store' : DiscoveryStore) : Prop where
  kept : ∀ id d, store.discoveries.row id = some d → store'.discoveries.row id = some d
  added : ∀ id d, store'.discoveries.row id = some d → store.discoveries.row id = none →
    d.isReport = false
  pages : ∀ id page, store.db.pages.row id = some page → store'.db.pages.row id = some page

variable (py : PyText) (store : DiscoveryStore) (subjectId : DiscoveryId) (subject : Discovery)
  (key : String)

/-- What the source count of a subject is to be: that of the reporting sources, whatever the
Agent has added. -/
structure NotManufactured : Prop where
  count : ∃ result, gatherCorroboration py store subjectId subject = .ok result ∧
    result.independentSourceCount = (store.reportingSources key).card
  invisible : ∀ store', AddsAgentRows store store' → ∃ result result',
    gatherCorroboration py store subjectId subject = .ok result ∧
    gatherCorroboration py store' subjectId subject = .ok result' ∧
    result'.independentSourceCount = result.independentSourceCount ∧
    ∀ minimum : ℕ, minimum ≤ result'.independentSourceCount ↔
      minimum ≤ result.independentSourceCount

/-- The subject's own source reports the award.  The code gives a subject whose key is empty no
siblings, so there it has to be the only one. -/
def ReportedByOwnSource : Prop :=
  if key = "" then (store.reportingSources key).card = 1
  else ∃ source ∈ store.reportingSources key, store.sourceOfPage subject.sourcePageId = some source

variable {py store subjectId subject key}

lemma mem_reportingSources {source : SourceId} :
    source ∈ store.reportingSources key ↔ ∃ id d, store.discoveries.row id = some d ∧
      d.normalizedIdentityKey = some key ∧ d.isReport = true ∧
      store.sourceOfPage d.sourcePageId = some source := by
  rw [DiscoveryStore.reportingSources, List.mem_toFinset, List.mem_filterMap]
  constructor
  · rintro ⟨id, -, h⟩
    rw [reportedSource, Option.bind_eq_bind, Option.bind_eq_some_iff] at h
    obtain ⟨d, hrow, h⟩ := h
    split at h
    · next hwhere => exact ⟨id, d, hrow, hwhere.1, hwhere.2, h⟩
    · cases h
  · rintro ⟨id, d, hrow, hkey, hreport, hsource⟩
    refine ⟨id, ?_, ?_⟩
    · rw [store.discoveries.mem_keys, hrow]
      rfl
    · rw [reportedSource, hrow, Option.bind_eq_bind, Option.bind_some, if_pos ⟨hkey, hreport⟩]
      exact hsource

/-- The subject's own report is one. -/
theorem reportedByOwnSource_of_report (hrow : store.discoveries.row subjectId = some subject)
    (hkey : subject.normalizedIdentityKey = some key) (hne : key ≠ "")
    (hreport : subject.isReport = true) : ReportedByOwnSource store subject key := by
  obtain ⟨source, hsource⟩ := Option.isSome_iff_exists.mp (store.sourceOfPage_isSome hrow)
  rw [ReportedByOwnSource, if_neg hne]
  exact ⟨source, mem_reportingSources.mpr ⟨subjectId, subject, hrow, hkey, hreport, hsource⟩,
    hsource⟩

/-! ## The count -/

variable (py) in
/-- A stored discovery is gathered, and its own source is counted beside the reporting ones. -/
lemma gather_count (hrow : store.discoveries.row subjectId = some subject)
    (hkey : subject.normalizedIdentityKey = some key) (hne : key ≠ "") :
    ∃ source result, store.sourceOfPage subject.sourcePageId = some source ∧
      gatherCorroboration py store subjectId subject = .ok result ∧
      result.independentSourceCount = (insert source (store.reportingSources key)).card := by
  obtain ⟨source, hsource⟩ := Option.isSome_iff_exists.mp (store.sourceOfPage_isSome hrow)
  refine ⟨source, _, hsource, by rw [gatherCorroboration, hsource], ?_⟩
  rw [independentSourceCount_eq]
  congr 1
  ext other
  simp only [Finset.mem_insert, List.mem_toFinset, List.mem_map, mem_loadSiblings hkey hne,
    mem_reportingSources]
  constructor
  · rintro (rfl | ⟨sibling, ⟨id, d, sourceId, hd, hpage, hwhere, rfl⟩, rfl⟩)
    · exact Or.inl rfl
    · exact Or.inr ⟨id, d, hd, hwhere.1, hwhere.2.2, hpage⟩
  · rintro (rfl | ⟨id, d, hd, hdkey, hreport, hpage⟩)
    · exact Or.inl rfl
    · by_cases hid : id = subjectId
      · -- the subject itself reports its own source
        subst hid
        obtain rfl := Option.some.inj (hd.symm.trans hrow)
        exact Or.inl (Option.some.inj (hpage.symm.trans hsource))
      · exact Or.inr ⟨_, ⟨id, d, other, hd, hpage, ⟨hdkey, hid, hreport⟩, rfl⟩, rfl⟩

variable (py) in
/-- A subject with an empty key is counted alone. -/
lemma gather_count_empty (hrow : store.discoveries.row subjectId = some subject)
    (hkey : subject.normalizedIdentityKey = some "") :
    ∃ result, gatherCorroboration py store subjectId subject = .ok result ∧
      result.independentSourceCount = 1 := by
  obtain ⟨source, hsource⟩ := Option.isSome_iff_exists.mp (store.sourceOfPage_isSome hrow)
  refine ⟨_, by rw [gatherCorroboration, hsource], ?_⟩
  rw [independentSourceCount_eq, loadSiblings_empty hkey]
  rfl

/-! ## What the Agent adds -/

lemma AddsAgentRows.sourceOfPage {store' : DiscoveryStore} (h : AddsAgentRows store store')
    {pageId : PageId} {source : SourceId} (hsource : store.sourceOfPage pageId = some source) :
    store'.sourceOfPage pageId = some source := by
  rw [DiscoveryStore.sourceOfPage, Option.bind_eq_bind, Option.bind_eq_some_iff] at hsource
  obtain ⟨page, hpage, hsource⟩ := hsource
  rw [Option.bind_eq_bind, Option.bind_eq_some_iff] at hsource
  obtain ⟨-, -, hsource⟩ := hsource
  have hpage' := h.pages pageId page hpage
  obtain ⟨row, hrow⟩ := Option.isSome_iff_exists.mp (store'.page_source pageId page hpage')
  rw [DiscoveryStore.sourceOfPage, hpage', Option.bind_eq_bind, Option.bind_some, hrow]
  exact hsource

/-- Rows of the Agent add no reporting source. -/
lemma AddsAgentRows.reportingSources {store' : DiscoveryStore} (h : AddsAgentRows store store') :
    store'.reportingSources key = store.reportingSources key := by
  ext source
  rw [mem_reportingSources, mem_reportingSources]
  constructor
  · rintro ⟨id, d, hrow', hkey, hreport, hsource'⟩
    cases hrow : store.discoveries.row id with
    | none => simp [h.added id d hrow' hrow] at hreport
    | some old =>
      obtain rfl := Option.some.inj ((h.kept id old hrow).symm.trans hrow')
      -- the page of an old row has the source it had
      obtain ⟨source₀, hsource⟩ := Option.isSome_iff_exists.mp (store.sourceOfPage_isSome hrow)
      have hsame := (h.sourceOfPage hsource).symm.trans hsource'
      exact ⟨id, old, hrow, hkey, hreport, by rw [hsource, hsame]⟩
  · rintro ⟨id, d, hrow, hkey, hreport, hsource⟩
    exact ⟨id, d, h.kept id d hrow, hkey, hreport, h.sourceOfPage hsource⟩

variable (py) in
/-- No subject's count depends on the rows that the Agent adds. -/
theorem gather_count_agentRows {store' : DiscoveryStore} (h : AddsAgentRows store store')
    (hrow : store.discoveries.row subjectId = some subject)
    (hkey : subject.normalizedIdentityKey = some key) :
    ∃ result result', gatherCorroboration py store subjectId subject = .ok result ∧
      gatherCorroboration py store' subjectId subject = .ok result' ∧
      result'.independentSourceCount = result.independentSourceCount := by
  have hrow' := h.kept subjectId subject hrow
  by_cases hne : key = ""
  · subst hne
    obtain ⟨result, hresult, hcount⟩ := gather_count_empty py hrow hkey
    obtain ⟨result', hresult', hcount'⟩ := gather_count_empty py hrow' hkey
    exact ⟨result, result', hresult, hresult', hcount'.trans hcount.symm⟩
  · obtain ⟨source, result, hsource, hresult, hcount⟩ := gather_count py hrow hkey hne
    obtain ⟨source', result', hsource', hresult', hcount'⟩ :=
      gather_count py hrow' hkey hne
    obtain rfl := Option.some.inj ((h.sourceOfPage hsource).symm.trans hsource')
    refine ⟨result, result', hresult, hresult', ?_⟩
    rw [hcount, hcount', h.reportingSources]

/-- The count is that of the reporting sources exactly if the subject's own source reports. -/
theorem notManufactured_iff (hrow : store.discoveries.row subjectId = some subject)
    (hkey : subject.normalizedIdentityKey = some key) :
    NotManufactured py store subjectId subject key ↔ ReportedByOwnSource store subject key := by
  have hinvisible : ∀ store', AddsAgentRows store store' → ∃ result result',
      gatherCorroboration py store subjectId subject = .ok result ∧
      gatherCorroboration py store' subjectId subject = .ok result' ∧
      result'.independentSourceCount = result.independentSourceCount ∧
      ∀ minimum : ℕ, minimum ≤ result'.independentSourceCount ↔
        minimum ≤ result.independentSourceCount := by
    intro store' hadds
    obtain ⟨result, result', hresult, hresult', hcount⟩ :=
      gather_count_agentRows py hadds hrow hkey
    exact ⟨result, result', hresult, hresult', hcount, fun minimum => by rw [hcount]⟩
  have hcount_iff : (∃ result, gatherCorroboration py store subjectId subject = .ok result ∧
      result.independentSourceCount = (store.reportingSources key).card) ↔
        ReportedByOwnSource store subject key := by
    by_cases hne : key = ""
    · subst hne
      obtain ⟨result, hresult, hcount⟩ := gather_count_empty py hrow hkey
      rw [ReportedByOwnSource, if_pos rfl, hresult]
      constructor
      · rintro ⟨other, hother, hcard⟩
        rw [← Except.ok.inj hother, hcount] at hcard
        exact hcard.symm
      · exact fun hcard => ⟨result, rfl, hcount.trans hcard.symm⟩
    · obtain ⟨source, result, hsource, hresult, hcount⟩ := gather_count py hrow hkey hne
      rw [ReportedByOwnSource, if_neg hne, hresult, hsource]
      have hmem : (insert source (store.reportingSources key)).card =
          (store.reportingSources key).card ↔ source ∈ store.reportingSources key := by
        constructor
        · intro hcard
          by_contra hout
          rw [Finset.card_insert_of_notMem hout] at hcard
          omega
        · intro hin
          rw [Finset.insert_eq_of_mem hin]
      constructor
      · rintro ⟨other, hother, hcard⟩
        rw [← Except.ok.inj hother, hcount] at hcard
        exact ⟨source, hmem.mp hcard, rfl⟩
      · rintro ⟨other, hother, hsame⟩
        obtain rfl := Option.some.inj hsame
        exact ⟨result, rfl, hcount.trans (hmem.mpr hother)⟩
  constructor
  · intro h
    exact hcount_iff.mp h.count
  · intro h
    exact ⟨hcount_iff.mpr h, hinvisible⟩

/-- The award's own report, counted among the reporting sources. -/
theorem notManufactured_sample :
    NotManufactured Sample.textPy Sample.splitStore 2 (Sample.report 2 "award|example")
        "award|example" ↔
      ReportedByOwnSource Sample.splitStore (Sample.report 2 "award|example") "award|example" :=
  notManufactured_iff rfl rfl

/-- The list page that the Agent split an award from counts as a second report of it. -/
theorem agent_source_counted :
    ¬ ∀ (store : DiscoveryStore) (subjectId : DiscoveryId) (subject : Discovery) (key : String),
      store.discoveries.row subjectId = some subject →
      subject.normalizedIdentityKey = some key →
      NotManufactured Sample.textPy store subjectId subject key := by
  intro h
  obtain ⟨result, hresult, hcount⟩ := (h Sample.splitStore 3
    { Sample.report 1 "award|example" with splitFromDiscoveryId := some 1 } "award|example" rfl
    rfl).count
  have htwo : gatherCorroboration Sample.textPy Sample.splitStore 3
      { Sample.report 1 "award|example" with splitFromDiscoveryId := some 1 } =
        .ok ⟨2, none, none, []⟩ := rfl
  have hone : (Sample.splitStore.reportingSources "award|example").card = 1 := rfl
  rw [htwo] at hresult
  rw [← Except.ok.inj hresult, hone] at hcount
  exact absurd hcount (by decide)

end ScholarshipFinder
