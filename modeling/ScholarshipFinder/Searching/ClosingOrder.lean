import ScholarshipFinder.Api.SearchResults
import ScholarshipFinder.PythonIso
import ScholarshipFinder.Sample.Search
import ScholarshipFinder.Status.ReadPath

/-!
# The order in which results close

Results of one fit and one open status are sorted by the text of their deadlines, which shows the
clock of each deadline's own place, while a deadline ends at an instant.  They are in the order of
these instants exactly if, among them, no clock reading is earlier than another and ends later.
-/

namespace ScholarshipFinder

open Lib

/-- The instant at which the deadline of a result ends, by the facts of its cycle. -/
def cutoffOf (py : Py) (db : Db) (item : SearchResult) : Option Instant :=
  (db.cycles.row item.cycleId).bind fun row =>
    (deriveFacts py row.facts.orEmpty).toOption.bind fun derived =>
      (derived.deadline.cutoff py).toOption.join

/-- `item.status in {"open", "closing_soon"}` -/
def StatusDetail.isOpen (status : StatusDetail) : Bool := status = .opened || status = .closingSoon

/-- The results are of one fit and of one status, and this is an open one. -/
structure SameTier (a b : SearchResult) : Prop where
  fit : a.fit = b.fit
  status : a.status = b.status
  isOpen : a.status.isOpen = true

/-- The deadline of the first result shows the earlier clock reading; a fraction, an offset and the
cycles' ids decide between equal ones. -/
def EarlierClock (a b : SearchResult) : Prop :=
  ∃ d d', a.deadlineAt = some d ∧ b.deadlineAt = some d' ∧
    (d.clock < d'.clock ∨ d.clock = d'.clock ∧
      (d.restText < d'.restText ∨ d.restText = d'.restText ∧
        uuidText a.cycleId < uuidText b.cycleId))

/-- The results are ranked by when they close. -/
structure RankedByClosing (py : Py) (db : Db) (evaluatedAt : Instant)
    (ranked : List SearchResult) : Prop where
  total : ranked.Pairwise fun a b => sortKey py evaluatedAt a < sortKey py evaluatedAt b
  fit : ranked.Pairwise fun a b => b.fit = .confirmed → a.fit = .confirmed
  status : ranked.Pairwise fun a b => a.fit = b.fit → statusRank a.status ≤ statusRank b.status
  dated : ranked.Pairwise fun a b => SameTier a b → b.deadlineAt.isSome → a.deadlineAt.isSome
  known : ∀ item ∈ ranked, item.status.isOpen = true → item.deadlineAt.isSome →
    (cutoffOf py db item).isSome
  closing : ranked.Pairwise fun a b => SameTier a b →
    ∀ c ∈ cutoffOf py db a, ∀ c' ∈ cutoffOf py db b, c ≤ c'

variable {py : Py} {db : Db} {columns : CycleId → PublicColumns} {evaluatedAt : Instant}
  {profile : SearchProfile} {found : List (Option SearchResult)}

/-! ## Results -/

/-- What a result has of the facts of its cycle. -/
structure ResultOf (py : Py) (db : Db) (item : SearchResult) : Prop where
  derived : ∃ row derived, db.cycles.row item.cycleId = some row ∧
    deriveFacts py row.facts.orEmpty = .ok derived ∧ item.deadlineAt = derived.deadlineAt ∧
    (item.status.isOpen = true → ∃ cutoff, derived.deadline.cutoff py = .ok cutoff)

lemma searchResult_of {cycleId : CycleId} {row : ScholarshipCycle} {columns : PublicColumns}
    {decision : MatchDecision} {item : SearchResult} (hrow : db.cycles.row cycleId = some row)
    (h : searchResult py cycleId row columns decision evaluatedAt = .ok (some item)) :
    item.cycleId = cycleId ∧ ResultOf py db item := by
  obtain ⟨derived, hderived, h⟩ := exceptBind_ok h
  obtain ⟨status, hstatus, h⟩ := exceptBind_ok h
  obtain ⟨detail, hdetail, h⟩ := exceptBind_ok h
  split at h
  · cases h
  · obtain rfl := Option.some.inj (Except.ok.inj h)
    refine ⟨rfl, row, derived, hrow, hderived, rfl, fun hopen => ?_⟩
    change detail.isOpen = true at hopen
    cases status with
    | openVerified =>
      obtain ⟨cutoff, hcutoff, -⟩ := exceptBind_ok hdetail
      exact ⟨cutoff, hcutoff⟩
    | expectedToReopen =>
      obtain rfl := Except.ok.inj hdetail
      cases hopen
    | statusUnknown =>
      obtain rfl := Except.ok.inj hdetail
      cases hopen

lemma matchedResult_of {cycleId : CycleId} {item : SearchResult}
    (h : matchedResult py profile db columns evaluatedAt cycleId = .ok (some item)) :
    item.cycleId = cycleId ∧ ResultOf py db item := by
  unfold matchedResult at h
  split at h
  · cases h
  · next row hrow =>
    obtain ⟨decision, hdecision, h⟩ := exceptBind_ok h
    cases decision with
    | none => cases h
    | some decision => exact searchResult_of hrow h

/-- The results of a scan are of the cycles that it met, in their order. -/
lemma scan_sublist {ids : List CycleId}
    (h : ids.mapM (matchedResult py profile db columns evaluatedAt) = .ok found) :
    ((found.filterMap id).map (·.cycleId)).Sublist ids ∧
      ∀ item ∈ found.filterMap id, ResultOf py db item := by
  induction ids generalizing found with
  | nil =>
    obtain rfl := Except.ok.inj h
    simp
  | cons cycleId ids ih =>
    rw [List.mapM_cons] at h
    obtain ⟨result, hresult, h⟩ := exceptBind_ok h
    obtain ⟨rest, hrest, h⟩ := exceptBind_ok h
    obtain rfl := Except.ok.inj h
    obtain ⟨hsublist, hof⟩ := ih hrest
    cases result with
    | none => exact ⟨hsublist.cons cycleId, hof⟩
    | some item =>
      obtain ⟨rfl, hitem⟩ := matchedResult_of hresult
      refine ⟨hsublist.cons_cons _, fun other hother => ?_⟩
      rcases List.mem_cons.mp hother with rfl | hother
      · exact hitem
      · exact hof other hother

lemma ResultOf.cutoff {item : SearchResult} (h : ResultOf py db item)
    (hopen : item.status.isOpen = true) (hdated : item.deadlineAt.isSome) :
    (cutoffOf py db item).isSome := by
  obtain ⟨row, derived, hrow, hderived, hdeadline, hcutoff⟩ := h.derived
  obtain ⟨cutoff, hcutoff⟩ := hcutoff hopen
  have hsome : cutoff.isSome := by
    rw [hdeadline] at hdated
    obtain ⟨d, hd⟩ := Option.isSome_iff_exists.mp hdated
    have hderived : derived.deadline.deadlineAt = some d := hd
    rw [Deadline.cutoff, hderived] at hcutoff
    dsimp only at hcutoff
    cases hinstant : deadlineCutoff py d derived.deadline.precision derived.deadline.timezone with
    | error e =>
      rw [hinstant] at hcutoff
      cases hcutoff
    | ok c =>
      rw [hinstant] at hcutoff
      obtain rfl := Except.ok.inj hcutoff
      rfl
  have heq : cutoffOf py db item = cutoff := by
    rw [cutoffOf, hrow, Option.bind_some, hderived]
    change (derived.deadline.cutoff py).toOption.join = cutoff
    rw [hcutoff]
    rfl
  rw [heq]
  exact hsome

/-! ## Sorting -/

variable {a b : SearchResult} {matched scanned : List SearchResult}

/-- The place of a fit. -/
def fitRank (item : SearchResult) : ℕ := if item.fit = .confirmed then 0 else 1

lemma sortKey_lt_iff : sortKey py evaluatedAt a < sortKey py evaluatedAt b ↔
    fitRank a < fitRank b ∨ fitRank a = fitRank b ∧
      (statusRank a.status < statusRank b.status ∨ statusRank a.status = statusRank b.status ∧
        ((resultSortValue py a evaluatedAt).1 < (resultSortValue py b evaluatedAt).1 ∨
          (resultSortValue py a evaluatedAt).1 = (resultSortValue py b evaluatedAt).1 ∧
          ((resultSortValue py a evaluatedAt).2 < (resultSortValue py b evaluatedAt).2 ∨
            (resultSortValue py a evaluatedAt).2 = (resultSortValue py b evaluatedAt).2 ∧
              uuidText a.cycleId < uuidText b.cycleId))) := by
  rw [sortKey, sortKey, Prod.Lex.toLex_lt_toLex, Prod.Lex.toLex_lt_toLex,
    Prod.Lex.toLex_lt_toLex, Prod.Lex.toLex_lt_toLex]
  rfl

/-- The ids of the cycles are UUIDs, and no two results are of one cycle. -/
structure Distinct (matched : List SearchResult) : Prop where
  nodup : (matched.map (·.cycleId)).Nodup
  lt : ∀ item ∈ matched, item.cycleId < 2 ^ 128

lemma Distinct.eq_of_key (h : Distinct matched) (ha : a ∈ matched) (hb : b ∈ matched)
    (hkey : sortKey py evaluatedAt a = sortKey py evaluatedAt b) : a = b := by
  have hid : uuidText a.cycleId = uuidText b.cycleId := by
    have h := congrArg (fun key : SortKey => (ofLex (ofLex (ofLex (ofLex key).2).2).2).2) hkey
    exact h
  exact List.inj_on_of_nodup_map h.nodup ha hb (uuidText_inj (h.lt a ha) (h.lt b hb) hid)

lemma perm_rankResults : (rankResults py evaluatedAt matched).Perm matched :=
  List.perm_insertionSort _ _

lemma pairwise_rankResults (h : Distinct matched) :
    (rankResults py evaluatedAt matched).Pairwise fun a b =>
      sortKey py evaluatedAt a < sortKey py evaluatedAt b := by
  have hsorted : (rankResults py evaluatedAt matched).Pairwise fun a b =>
      sortKey py evaluatedAt a ≤ sortKey py evaluatedAt b := by
    refine @List.pairwise_insertionSort _ _ _ ⟨fun a b => ?_⟩ ⟨fun a b c => ?_⟩ matched
    · exact le_total _ _
    · exact le_trans
  have hne : (rankResults py evaluatedAt matched).Pairwise (· ≠ ·) :=
    perm_rankResults.nodup_iff.mpr h.nodup.of_map
  refine (hsorted.and hne).imp_of_mem fun ha hb h' => ?_
  rw [perm_rankResults.mem_iff] at ha hb
  exact lt_of_le_of_ne h'.1 fun hkey => h'.2 (h.eq_of_key ha hb hkey)

/-- The order does not depend on that of the scan. -/
lemma rankResults_perm (h : Distinct matched) (hperm : scanned.Perm matched) :
    rankResults py evaluatedAt scanned = rankResults py evaluatedAt matched := by
  have hscanned : Distinct scanned :=
    ⟨(hperm.map _).nodup_iff.mpr h.nodup, fun item hitem => h.lt item (hperm.mem_iff.mp hitem)⟩
  refine List.Perm.eq_of_pairwise ?_ (pairwise_rankResults hscanned) (pairwise_rankResults h)
    (perm_rankResults.trans (hperm.trans perm_rankResults.symm))
  intro a b _ _ hab hba
  exact absurd hab hba.not_gt

/-- Of two members in the order of their keys, the first comes first. -/
lemma pairwise_at {R : SearchResult → SearchResult → Prop}
    (h : (rankResults py evaluatedAt matched).Pairwise R) (hdistinct : Distinct matched)
    (ha : a ∈ matched) (hb : b ∈ matched)
    (hkey : sortKey py evaluatedAt a < sortKey py evaluatedAt b) : R a b := by
  have hsorted := @pairwise_rankResults py evaluatedAt _ hdistinct
  rw [← (@perm_rankResults py evaluatedAt matched).mem_iff] at ha hb
  obtain ⟨i, hi, rfl⟩ := List.getElem_of_mem ha
  obtain ⟨j, hj, rfl⟩ := List.getElem_of_mem hb
  rw [List.pairwise_iff_getElem] at h hsorted
  rcases lt_trichotomy i j with hlt | rfl | hgt
  · exact h i j hi hj hlt
  · exact absurd hkey (lt_irrefl _)
  · exact absurd (hsorted j i hj hi hgt) hkey.not_gt

/-! ## The clock -/

/-- A deadline that is read can be held by a `datetime`. -/
lemma deriveFacts_range (hiso : py.IsoLaws) {facts : Json} {derived : DerivedFacts}
    (h : deriveFacts py facts = .ok derived) {d : DateTime} (hd : derived.deadlineAt = some d) :
    0 ≤ d.wall ∧ d.wall < maxMicros := by
  cases facts with
  | obj items =>
    obtain ⟨derived', hderived', -, -, hread⟩ := deriveFacts_obj hiso items
    obtain rfl := Except.ok.inj (h.symm.trans hderived')
    obtain ⟨s, -, -, hs⟩ := (hread d).mp hd
    exact hiso.range s d hs
  | _ => cases h

lemma ResultOf.range (hiso : py.IsoLaws) {item : SearchResult} (h : ResultOf py db item)
    {d : DateTime} (hd : item.deadlineAt = some d) : 0 ≤ d.wall ∧ d.wall < maxMicros := by
  obtain ⟨row, derived, -, hderived, hdeadline, -⟩ := h.derived
  exact deriveFacts_range hiso hderived (hdeadline.symm.trans hd)

/-- An open result without a deadline, and one with a deadline. -/
lemma resultSortValue_open (hopen : a.status.isOpen = true) : resultSortValue py a evaluatedAt =
    ((if a.deadlineAt.isSome then 0 else 1), (a.deadlineAt.map py.isoformat).getD "") := by
  rw [StatusDetail.isOpen, Bool.or_eq_true, decide_eq_true_eq, decide_eq_true_eq] at hopen
  rw [resultSortValue, if_pos hopen]
  cases a.deadlineAt <;> rfl

lemma isoText_eq_iff {d d' : DateTime} (hd : 0 ≤ d.wall ∧ d.wall < maxMicros)
    (hd' : 0 ≤ d'.wall ∧ d'.wall < maxMicros) :
    d.isoText = d'.isoText ↔ d.clock = d'.clock ∧ d.restText = d'.restText := by
  constructor
  · intro heq
    have hlt : ¬ d.isoText < d'.isoText := by rw [heq]; exact lt_irrefl _
    have hgt : ¬ d'.isoText < d.isoText := by rw [heq]; exact lt_irrefl _
    rw [isoText_lt_iff hd hd', not_or] at hlt
    rw [isoText_lt_iff hd' hd, not_or] at hgt
    have hclock : d.clock = d'.clock := le_antisymm (not_lt.mp hgt.1) (not_lt.mp hlt.1)
    refine ⟨hclock, le_antisymm (not_lt.mp fun h => ?_) (not_lt.mp fun h => ?_)⟩
    · exact hgt.2 ⟨hclock.symm, h⟩
    · exact hlt.2 ⟨hclock, h⟩
  · rintro ⟨hclock, hrest⟩
    rw [DateTime.isoText, DateTime.isoText, hclock, hrest]

/-- In one tier, results with deadlines are sorted by the clock. -/
lemma sortKey_lt_iff_clock (hiso : py.IsoLaws) (ha : ResultOf py.withIsoformat db a)
    (hb : ResultOf py.withIsoformat db b) (htier : SameTier a b) (hdated : a.deadlineAt.isSome)
    (hdated' : b.deadlineAt.isSome) :
    sortKey py.withIsoformat evaluatedAt a < sortKey py.withIsoformat evaluatedAt b ↔
      EarlierClock a b := by
  obtain ⟨d, hd⟩ := Option.isSome_iff_exists.mp hdated
  obtain ⟨d', hd'⟩ := Option.isSome_iff_exists.mp hdated'
  have hiso' : py.withIsoformat.IsoLaws := ⟨hiso.refuse, hiso.range⟩
  have hrange := ha.range hiso' hd
  have hrange' := hb.range hiso' hd'
  have hopen' : b.status.isOpen = true := htier.status ▸ htier.isOpen
  have hfit : fitRank a = fitRank b := by rw [fitRank, fitRank, htier.fit]
  have htext : ∀ d : DateTime, py.withIsoformat.isoformat d = d.isoText := fun _ => rfl
  rw [sortKey_lt_iff, resultSortValue_open htier.isOpen, resultSortValue_open hopen', hd, hd',
    hfit, htier.status]
  simp only [lt_irrefl, false_or, true_and, Option.isSome_some, if_true, Option.map_some,
    Option.getD_some, htext, isoText_lt_iff hrange hrange', isoText_eq_iff hrange hrange']
  constructor
  · rintro ((hclock | ⟨hclock, hrest⟩) | ⟨⟨hclock, hrest⟩, hid⟩)
    · exact ⟨d, d', hd, hd', .inl hclock⟩
    · exact ⟨d, d', hd, hd', .inr ⟨hclock, .inl hrest⟩⟩
    · exact ⟨d, d', hd, hd', .inr ⟨hclock, .inr ⟨hrest, hid⟩⟩⟩
  · rintro ⟨e, e', he, he', h⟩
    obtain rfl := Option.some.inj (hd.symm.trans he)
    obtain rfl := Option.some.inj (hd'.symm.trans he')
    rcases h with hclock | ⟨hclock, hrest | ⟨hrest, hid⟩⟩
    · exact .inl (.inl hclock)
    · exact .inl (.inr ⟨hclock, hrest⟩)
    · exact .inr ⟨⟨hclock, hrest⟩, hid⟩

/-! ## The ranking -/

lemma fit_of_key_lt (h : sortKey py evaluatedAt a < sortKey py evaluatedAt b)
    (hb : b.fit = .confirmed) : a.fit = .confirmed := by
  have hle : fitRank a ≤ fitRank b := by
    rcases sortKey_lt_iff.mp h with hlt | ⟨heq, -⟩
    · exact hlt.le
    · exact heq.le
  by_contra ha
  rw [fitRank, fitRank, if_neg ha, if_pos hb] at hle
  omega

lemma status_of_key_lt (h : sortKey py evaluatedAt a < sortKey py evaluatedAt b)
    (hfit : a.fit = b.fit) : statusRank a.status ≤ statusRank b.status := by
  rcases sortKey_lt_iff.mp h with hlt | ⟨-, hlt | ⟨heq, -⟩⟩
  · rw [fitRank, fitRank, hfit] at hlt
    exact absurd hlt (lt_irrefl _)
  · exact hlt.le
  · exact heq.le

lemma dated_of_key_lt (h : sortKey py evaluatedAt a < sortKey py evaluatedAt b)
    (htier : SameTier a b) (hb : b.deadlineAt.isSome) : a.deadlineAt.isSome := by
  have hopen' : b.status.isOpen = true := htier.status ▸ htier.isOpen
  have hfit : fitRank a = fitRank b := by rw [fitRank, fitRank, htier.fit]
  rw [sortKey_lt_iff, hfit, htier.status, resultSortValue_open htier.isOpen,
    resultSortValue_open hopen', if_pos hb] at h
  by_contra ha
  rw [if_neg ha] at h
  simp at h

/-- The results of a search are ranked by when they close, in whatever order they are scanned,
exactly if in no tier an earlier clock reading ends later. -/
theorem ranked_by_closing_iff (hiso : py.IsoLaws)
    (hids : ∀ id ∈ publishedCycles db searchScanLimit, id < 2 ^ 128)
    (h : (publishedCycles db searchScanLimit).mapM
      (matchedResult py.withIsoformat profile db columns evaluatedAt) = .ok found) :
    (∀ scanned : List SearchResult, scanned.Perm (found.filterMap id) →
      rankResults py.withIsoformat evaluatedAt scanned =
          rankResults py.withIsoformat evaluatedAt (found.filterMap id) ∧
        RankedByClosing py.withIsoformat db evaluatedAt
          (rankResults py.withIsoformat evaluatedAt scanned)) ↔
      ∀ a ∈ found.filterMap id, ∀ b ∈ found.filterMap id, SameTier a b → EarlierClock a b →
        ∀ c ∈ cutoffOf py.withIsoformat db a, ∀ c' ∈ cutoffOf py.withIsoformat db b, c ≤ c' := by
  obtain ⟨hsublist, hof⟩ := scan_sublist h
  have hdistinct : Distinct (found.filterMap id) := by
    refine ⟨hsublist.nodup (nodup_publishedCycles db searchScanLimit), fun item hitem => ?_⟩
    exact hids _ (hsublist.subset (List.mem_map_of_mem hitem))
  constructor
  · intro hranked a ha b hb htier hclock
    obtain ⟨-, hclosing⟩ := hranked _ (List.Perm.refl _)
    obtain ⟨d, d', hd, hd', -⟩ := id hclock
    have hkey : sortKey py.withIsoformat evaluatedAt a < sortKey py.withIsoformat evaluatedAt b :=
      (sortKey_lt_iff_clock hiso (hof a ha) (hof b hb) htier (by rw [hd]; rfl)
        (by rw [hd']; rfl)).mpr hclock
    exact pairwise_at hclosing.closing hdistinct ha hb hkey htier
  · intro hcutoffs scanned hperm
    have heq := @rankResults_perm py.withIsoformat evaluatedAt _ _ hdistinct hperm
    have hsorted := @pairwise_rankResults py.withIsoformat evaluatedAt _ hdistinct
    have hmem : ∀ {item}, item ∈ rankResults py.withIsoformat evaluatedAt (found.filterMap id) ↔
        item ∈ found.filterMap id := perm_rankResults.mem_iff
    rw [heq]
    refine ⟨rfl, hsorted, hsorted.imp fit_of_key_lt, hsorted.imp status_of_key_lt,
      hsorted.imp dated_of_key_lt, fun item hitem => (hof item (hmem.mp hitem)).cutoff, ?_⟩
    refine hsorted.imp_of_mem fun {a b} ha hb hkey htier c hc c' hc' => ?_
    have ha' := hof a (hmem.mp ha)
    have hb' := hof b (hmem.mp hb)
    have hdated : ∀ {item : SearchResult} {c : Instant}, ResultOf py.withIsoformat db item →
        c ∈ cutoffOf py.withIsoformat db item → item.deadlineAt.isSome := by
      intro item c hitem hc
      obtain ⟨row, derived, hrow, hderived, hdeadline, -⟩ := hitem.derived
      rw [cutoffOf, hrow, Option.bind_some, hderived] at hc
      cases hnone : derived.deadlineAt with
      | some d => rw [hdeadline, hnone]; rfl
      | none =>
        have hmissing : derived.deadline.deadlineAt = none := hnone
        change c ∈ (derived.deadline.cutoff py.withIsoformat).toOption.join at hc
        rw [Deadline.cutoff, hmissing] at hc
        cases hc
    have hclock : EarlierClock a b :=
      (sortKey_lt_iff_clock hiso ha' hb' htier (hdated ha' hc) (hdated hb' hc')).mp hkey
    exact hcutoffs a (hmem.mp ha) b (hmem.mp hb) htier hclock c hc c' hc'

/-! ## Two offsets -/

namespace Sample

/-- 1 August 2024, 23:00 at five hours behind UTC. -/
def eveningBehind : DateTime := ⟨739098 * day + 23 * hour, some (-5 * hour)⟩

/-- 2 August 2024, 00:30 UTC. -/
def nextMorning : DateTime := ⟨739099 * day + 30 * minute, some 0⟩

/-- 3 August 2024, 00:30 UTC. -/
def thirdMorning : DateTime := ⟨739100 * day + 30 * minute, some 0⟩

/-- The runtime, with these timestamps. -/
def closingPy : Py := { searchPy with
  fromisoformat := fun s =>
    if s = "2024-08-01T23:00:00-05:00" then .ok eveningBehind
    else if s = "2024-08-02T00:30:00+00:00" then .ok nextMorning
    else if s = "2024-08-03T00:30:00+00:00" then .ok thirdMorning
    else valueError "Invalid isoformat string" }

lemma closingPy_isoLaws : closingPy.IsoLaws where
  refuse := by
    intro s e h
    change (if _ then _ else if _ then _ else if _ then _ else _) = Except.error e at h
    split at h
    · cases h
    split at h
    · cases h
    split at h
    · cases h
    cases h
    rfl
  range := by
    intro s d h
    change (if _ then _ else if _ then _ else if _ then _ else _) = Except.ok d at h
    split at h
    · cases h
      decide
    split at h
    · cases h
      decide
    split at h
    · cases h
      decide
    cases h

/-- An open call with this deadline. -/
def closingCycle (deadline : String) : ScholarshipCycle := { cycle with
  facts := .obj [("deadline_at", .str deadline), ("destinations", strings ["DE"]),
    ("levels", strings ["masters"])]
  statusValidUntil := none }

/-- Two open calls. -/
def closingDb (deadline deadline' : String) : Db :=
  { Sample.db cycle with
    cycles := (Table.empty.insert 1 (closingCycle deadline)).insert 2 (closingCycle deadline') }

def closingItem (cycleId : CycleId) (deadline : DateTime) : SearchResult :=
  { searchItem cycleId with
    deadlineAt := some deadline
    deadlinePrecision := some .datetime }

/-- What a search finds in such a database. -/
def closingMatches (deadline deadline' : String) : Except PyErr (List (Option SearchResult)) :=
  (publishedCycles (closingDb deadline deadline') searchScanLimit).mapM
    (matchedResult closingPy.withIsoformat searchFilters.profile (closingDb deadline deadline')
      (fun _ => ⟨"Award", "Example", "scholarship", none, false⟩) start)

lemma closingMatches_offsets :
    closingMatches "2024-08-01T23:00:00-05:00" "2024-08-02T00:30:00+00:00" =
      .ok [some (closingItem 1 eveningBehind), some (closingItem 2 nextMorning)] := by
  decide +kernel

lemma closingMatches_mornings :
    closingMatches "2024-08-02T00:30:00+00:00" "2024-08-03T00:30:00+00:00" =
      .ok [some (closingItem 1 nextMorning), some (closingItem 2 thirdMorning)] := by
  decide +kernel

end Sample

/-- A deadline of the evening, five hours behind, is ranked before the next morning's and ends
after it. -/
theorem offset_ranks_later_first :
    (Sample.closingMatches "2024-08-01T23:00:00-05:00" "2024-08-02T00:30:00+00:00").map
        (fun found => rankResults Sample.closingPy.withIsoformat Sample.start
          (found.filterMap id)) =
      .ok [Sample.closingItem 1 Sample.eveningBehind, Sample.closingItem 2 Sample.nextMorning] ∧
    ¬ RankedByClosing Sample.closingPy.withIsoformat
      (Sample.closingDb "2024-08-01T23:00:00-05:00" "2024-08-02T00:30:00+00:00") Sample.start
      [Sample.closingItem 1 Sample.eveningBehind, Sample.closingItem 2 Sample.nextMorning] := by
  refine ⟨?_, fun h => ?_⟩
  · rw [Sample.closingMatches_offsets]
    decide +kernel
  · have hlate : cutoffOf Sample.closingPy.withIsoformat
        (Sample.closingDb "2024-08-01T23:00:00-05:00" "2024-08-02T00:30:00+00:00")
        (Sample.closingItem 1 Sample.eveningBehind) = some (739099 * day + 4 * hour) := by
      decide +kernel
    have hearly : cutoffOf Sample.closingPy.withIsoformat
        (Sample.closingDb "2024-08-01T23:00:00-05:00" "2024-08-02T00:30:00+00:00")
        (Sample.closingItem 2 Sample.nextMorning) = some (739099 * day + 30 * minute) := by
      decide +kernel
    have hpair := (List.pairwise_cons.mp h.closing).1 _ (List.mem_singleton_self _)
      ⟨rfl, rfl, rfl⟩ _ hlate _ hearly
    exact absurd hpair (by decide)

/-- Deadlines of one offset are ranked as they end. -/
theorem one_offset_ranked :
    RankedByClosing Sample.closingPy.withIsoformat
      (Sample.closingDb "2024-08-02T00:30:00+00:00" "2024-08-03T00:30:00+00:00") Sample.start
      (rankResults Sample.closingPy.withIsoformat Sample.start
        [Sample.closingItem 2 Sample.thirdMorning, Sample.closingItem 1 Sample.nextMorning]) := by
  have hids : ∀ id ∈ publishedCycles
      (Sample.closingDb "2024-08-02T00:30:00+00:00" "2024-08-03T00:30:00+00:00") searchScanLimit,
      id < 2 ^ 128 := by
    decide +kernel
  have hearly : cutoffOf Sample.closingPy.withIsoformat
      (Sample.closingDb "2024-08-02T00:30:00+00:00" "2024-08-03T00:30:00+00:00")
      (Sample.closingItem 1 Sample.nextMorning) = some (739099 * day + 30 * minute) := by
    decide +kernel
  have hlate : cutoffOf Sample.closingPy.withIsoformat
      (Sample.closingDb "2024-08-02T00:30:00+00:00" "2024-08-03T00:30:00+00:00")
      (Sample.closingItem 2 Sample.thirdMorning) = some (739100 * day + 30 * minute) := by
    decide +kernel
  have hclock : ¬ EarlierClock (Sample.closingItem 2 Sample.thirdMorning)
      (Sample.closingItem 1 Sample.nextMorning) := by
    rintro ⟨d, d', hd, hd', h⟩
    obtain rfl := Option.some.inj hd
    obtain rfl := Option.some.inj hd'
    revert h
    decide +kernel
  have hranked := (ranked_by_closing_iff Sample.closingPy_isoLaws hids
    Sample.closingMatches_mornings).mpr
  refine (hranked ?_ _ (List.Perm.swap _ _ _)).2
  intro a ha b hb _ hearlier c hc c' hc'
  simp only [List.filterMap_cons, id, List.filterMap_nil, List.mem_cons, List.not_mem_nil,
    or_false] at ha hb
  rcases ha with rfl | rfl <;> rcases hb with rfl | rfl
  · exact (Option.some.inj (hc.symm.trans hc')).le
  · obtain rfl := Option.some.inj (hearly.symm.trans hc)
    obtain rfl := Option.some.inj (hlate.symm.trans hc')
    decide
  · exact absurd hearlier hclock
  · exact (Option.some.inj (hc.symm.trans hc')).le

end ScholarshipFinder
