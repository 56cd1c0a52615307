import ScholarshipFinder.Lib.Run
import ScholarshipFinder.Lib.Sorted
import ScholarshipFinder.Sample

/-!
# Due cycles that no sweep gets to

A sweep takes the due cycles with the smallest ids, as many as its batch limit allows.  A cycle
leaves the set of due ones only by an unchanged recheck, so cycles whose fetch fails are taken
again by every sweep.  In a run of sweeps a cycle is therefore rechecked exactly if at one of them
fewer than the batch limit of due cycles have a smaller id, and not by the length of the run.
-/

namespace ScholarshipFinder

open Lib

/-- One sweep of a run: what became of the database since the sweep before, the clock, and what
the network answers. -/
structure Sweep where
  meanwhile : Db → Db
  now : Instant
  fetches : CycleId → Fetch

variable (py : Py) (settings : Settings) (limit : Option ℕ)

/-- `batch_limit` -/
def batchLimit : ℕ := limit.getD settings.reverifyDueBatchLimit

/-- The database after a sweep. -/
def sweepStep (db : Db) (sweep : Sweep) : Db :=
  (reverifyDueCycles py settings limit sweep.now sweep.fetches (sweep.meanwhile db)).2

/-- What `is_reverify_due` answers for a cycle of the database. -/
def dueAnswer (now : Instant) (db : Db) (c : CycleId) : Except PyErr Bool :=
  match db.cycles.row c with
  | none => .ok false
  | some cycle => cycleIsDue py (freshnessConfig settings) now cycle

/-- The cycle is due. -/
def isDueAt (now : Instant) (db : Db) (c : CycleId) : Bool :=
  match dueAnswer py settings now db c with
  | .ok due => due
  | .error _ => false

/-- The cycles that the loop of a sweep reloads and hands to `_reverify_one_cycle`. -/
def rechecked (sourceId : SourceId) (now : Instant) (fetches : CycleId → Fetch) :
    List CycleId → Db → List CycleId
  | [], _ => []
  | c :: due, db =>
    let (turn, db) := recheckCycle py settings sourceId now c (fetches c) db
    if turn = .skipped then rechecked sourceId now fetches due db
    else c :: rechecked sourceId now fetches due db

/-- The cycles that a sweep selects and fetches. -/
def fetchedBy (now : Instant) (fetches : CycleId → Fetch) (db : Db) : List CycleId :=
  match officialSource db with
  | none => []
  | some sourceId =>
    match scanDue py (freshnessConfig settings) now (batchLimit settings limit) db
        (publishedCycles db publishedCycleScanLimit) [] with
    | .error _ => []
    | .ok due => rechecked py settings sourceId now fetches due db

/-- The due cycles with a smaller id, among those that a sweep scans. -/
def dueBefore (now : Instant) (db : Db) (c : CycleId) : List CycleId :=
  ((publishedCycles db publishedCycleScanLimit).filter (isDueAt py settings now db)).filter (· < c)

/-- A sweep can take its turn: the official source is there and active, and no cycle that it scans
makes the scan raise. -/
structure CanSweep (now : Instant) (db : Db) : Prop where
  source : (officialSource db).isSome
  scan : ∀ d ∈ publishedCycles db publishedCycleScanLimit,
    (dueBefore py settings now db d).length < batchLimit settings limit →
      (dueAnswer py settings now db d).toOption.isSome

/-- The sweep gets to the cycle: it is among the cycles scanned, it is due, and fewer than the
batch limit of due cycles have a smaller id. -/
structure InReach (now : Instant) (c : CycleId) (db : Db) : Prop where
  sweep : CanSweep py settings limit now db
  scanned : c ∈ publishedCycles db publishedCycleScanLimit
  due : isDueAt py settings now db c
  before : (dueBefore py settings now db c).length < batchLimit settings limit

/-- The cycle is published and due. -/
structure Due (now : Instant) (c : CycleId) (db : Db) : Prop where
  published : ∃ r, db.cycles.row c = some r ∧ db.isPublished r
  due : isDueAt py settings now db c

variable {py settings limit}

/-! ## The loop of a sweep -/

/-- The loop counts the cycles that it rechecks. -/
lemma foldl_checked (sourceId : SourceId) (now : Instant) (fetches : CycleId → Fetch)
    (due : List CycleId) (counts : ReverifyCounts) (db : Db) :
    (due.foldl (fun (p : ReverifyCounts × Db) c =>
      let result := recheckCycle py settings sourceId now c (fetches c) p.2
      (p.1.add result.1, result.2)) (counts, db)).1.checked =
      counts.checked + (rechecked py settings sourceId now fetches due db).length := by
  induction due generalizing counts db with
  | nil => rfl
  | cons c due ih =>
    rw [List.foldl_cons, rechecked, ih]
    rcases recheckCycle py settings sourceId now c (fetches c) db with ⟨turn, db'⟩
    cases turn with
    | skipped => rfl
    | failed =>
      dsimp only [ReverifyCounts.add]
      rw [if_neg (by decide), List.length_cons]
      omega
    | done outcome =>
      have hadd : (counts.add (.done outcome)).checked = counts.checked + 1 := by
        cases outcome <;> rfl
      dsimp only
      rw [hadd, if_neg (by simp), List.length_cons]
      omega

/-- The number of cycles fetched is the count `checked` of the sweep. -/
theorem checked_eq_length_fetchedBy {now : Instant} {fetches : CycleId → Fetch} {db : Db}
    {counts : ReverifyCounts}
    (h : (reverifyDueCycles py settings limit now fetches db).1 = .ok counts) :
    counts.checked = (fetchedBy py settings limit now fetches db).length := by
  rw [reverifyDueCycles] at h
  rw [fetchedBy, batchLimit]
  cases hsource : officialSource db with
  | none =>
    rw [hsource] at h
    rw [← Except.ok.inj h]
    rfl
  | some sourceId =>
    simp only [hsource] at h
    cases hscan : scanDue py (freshnessConfig settings) now
        (limit.getD settings.reverifyDueBatchLimit) db
        (publishedCycles db publishedCycleScanLimit) [] with
    | error e =>
      rw [hscan] at h
      cases h
    | ok due =>
      rw [hscan] at h
      rw [← Except.ok.inj h]
      exact (foldl_checked sourceId now fetches due ⟨0, 0, 0, 0⟩ db).trans (Nat.zero_add _)

lemma recheckCycle_ne_skipped (py : Py) (settings : Settings) (sourceId : SourceId)
    (now : Instant) (fetch : Fetch) {c : CycleId} {db : Db}
    (h : ∃ r, db.cycles.row c = some r ∧ db.isPublished r) :
    (recheckCycle py settings sourceId now c fetch db).1 ≠ .skipped := by
  obtain ⟨r, hr, hpub⟩ := h
  rw [recheckCycle, hr]
  simp only [hpub, if_true]
  rcases reverifyOneCycle py settings sourceId now c r fetch (Tx.start db) with ⟨_ | _, tx⟩ <;> simp

/-- As no turn touches the rows of other cycles, the loop rechecks all that it is given. -/
lemma rechecked_eq {sourceId : SourceId} {now : Instant} {fetches : CycleId → Fetch}
    {due : List CycleId} (hnodup : due.Nodup) {db : Db}
    (hpub : ∀ c ∈ due, ∃ r, db.cycles.row c = some r ∧ db.isPublished r) :
    rechecked py settings sourceId now fetches due db = due := by
  induction due generalizing db with
  | nil => rfl
  | cons c due ih =>
    obtain ⟨hc, hnodup⟩ := List.nodup_cons.mp hnodup
    have hturn := recheckCycle_ne_skipped py settings sourceId now (fetches c)
      (hpub c List.mem_cons_self)
    have hframe := recheckCycle_frame py settings sourceId now c (fetches c) db
    rw [rechecked]
    rcases hres : recheckCycle py settings sourceId now c (fetches c) db with ⟨turn, db'⟩
    rw [hres] at hturn hframe
    dsimp only
    rw [if_neg hturn, ih hnodup]
    intro d hd
    obtain ⟨r, hr, hpubr⟩ := hpub d (List.mem_cons_of_mem c hd)
    have hne : d ≠ c := fun h => hc (h ▸ hd)
    refine ⟨r, (hframe.other d hne).trans hr, ?_⟩
    rw [Db.isPublished, hframe.scholarships]
    exact hpubr

/-! ## The scan -/

lemma sorted_published (db : Db) :
    ((db.cycles.keys.insertionSort (· ≤ ·)).filter fun c =>
      (db.cycles.row c).any db.isPublished).Pairwise (· < ·) := by
  have hsorted : (db.cycles.keys.insertionSort (· ≤ ·)).Pairwise (· ≤ ·) :=
    List.pairwise_insertionSort (· ≤ ·) _
  have hnodup : (db.cycles.keys.insertionSort (· ≤ ·)).Nodup :=
    (db.cycles.keys.perm_insertionSort (· ≤ ·)).nodup_iff.mpr db.cycles.nodup
  have hstrict : (db.cycles.keys.insertionSort (· ≤ ·)).Pairwise (· < ·) :=
    (hsorted.and hnodup).imp fun h => lt_of_le_of_ne h.1 h.2
  exact hstrict.filter _

/-- The published cycles are scanned in the order of their ids. -/
lemma sorted_publishedCycles (db : Db) (n : ℕ) : (publishedCycles db n).Pairwise (· < ·) :=
  (sorted_published db).sublist (List.take_sublist _ _)

lemma scanDue_cons (now : Instant) (db : Db) (n : ℕ) (id : CycleId) (ids found : List CycleId) :
    scanDue py (freshnessConfig settings) now n db (id :: ids) found =
      (dueAnswer py settings now db id).bind fun due =>
        let found := if due then found ++ [id] else found
        if n ≤ found.length then .ok found
        else scanDue py (freshnessConfig settings) now n db ids found := by
  rw [scanDue, dueAnswer]
  cases db.cycles.row id with
  | none => rfl
  | some cycle => rfl

variable (py settings) in
/-- The scan takes the first due cycles, if none that it meets before it stops raises. -/
lemma scanDue_ok_iff (now : Instant) (db : Db) (due : List CycleId) {n : ℕ} {ids : List CycleId}
    (hids : ids.Pairwise (· < ·)) {found : List CycleId} (hfound : found.length < n) :
    scanDue py (freshnessConfig settings) now n db ids found = .ok due ↔
      (∀ d ∈ ids, found.length + ((ids.filter (isDueAt py settings now db)).filter (· < d)).length
          < n → (dueAnswer py settings now db d).toOption.isSome) ∧
        due = found ++ (ids.filter (isDueAt py settings now db)).take (n - found.length) := by
  induction ids generalizing found with
  | nil =>
    rw [scanDue, Except.ok.injEq, List.filter_nil, List.take_nil, List.append_nil, eq_comm]
    exact (and_iff_right fun d hd => absurd hd List.not_mem_nil).symm
  | cons id ids ih =>
    obtain ⟨hid, hids⟩ := List.pairwise_cons.mp hids
    -- no cycle of the list is before its head
    have hhead : ((id :: ids).filter (isDueAt py settings now db)).filter (· < id) = [] := by
      rw [List.filter_eq_nil_iff]
      intro d hd
      rcases List.mem_cons.mp (List.mem_of_mem_filter hd) with rfl | hd
      · simp
      · simpa using (hid d hd).le
    rw [scanDue_cons, List.forall_mem_cons, hhead, List.length_nil, Nat.add_zero]
    cases hanswer : dueAnswer py settings now db id with
    | error e =>
      constructor
      · intro h
        cases h
      · rintro ⟨⟨hfirst, -⟩, -⟩
        cases hfirst hfound
    | ok isDue =>
      have hfirst : found.length < n →
          (Except.ok isDue : Except PyErr Bool).toOption.isSome = true := fun _ => rfl
      have hdue : isDueAt py settings now db id = isDue := by rw [isDueAt, hanswer]
      cases isDue with
      | false =>
        rw [List.filter_cons_of_neg (by rw [hdue]; decide)]
        simp only [Except.bind, Bool.false_eq_true, if_false]
        rw [if_neg (by omega), ih hids hfound, and_iff_right (a := found.length < n → _) hfirst]
      | true =>
        rw [List.filter_cons_of_pos hdue]
        have hcount : ∀ d ∈ ids, ((id :: ids.filter (isDueAt py settings now db)).filter
            (· < d)).length = ((ids.filter (isDueAt py settings now db)).filter (· < d)).length + 1 := by
          intro d hd
          rw [List.filter_cons_of_pos (by simpa using hid d hd), List.length_cons]
        have hlength : (found ++ [id]).length = found.length + 1 := by simp
        simp only [Except.bind, if_true]
        have htake : n - found.length = (n - (found.length + 1)) + 1 := by omega
        rw [htake, List.take_succ_cons]
        by_cases hfull : n ≤ found.length + 1
        · -- the scan stops at this cycle
          rw [if_pos (by omega)]
          have hzero : n - (found.length + 1) = 0 := by omega
          rw [hzero, List.take_zero, Except.ok.injEq, eq_comm]
          refine (and_iff_right ⟨hfirst, fun d hd hlt => ?_⟩).symm
          rw [hcount d hd] at hlt
          omega
        · rw [if_neg (by omega), ih hids (by omega), hlength, List.append_assoc,
            List.singleton_append]
          refine and_congr_left fun _ => ?_
          constructor
          · intro h
            refine ⟨hfirst, fun d hd hlt => h d hd ?_⟩
            rw [hcount d hd] at hlt
            omega
          · rintro ⟨-, h⟩ d hd hlt
            refine h d hd ?_
            rw [hcount d hd]
            omega

/-- What the scan of a sweep answers. -/
lemma scanDue_published (hlimit : 1 ≤ batchLimit settings limit) {now : Instant} {db : Db}
    {due : List CycleId} :
    scanDue py (freshnessConfig settings) now (batchLimit settings limit) db
        (publishedCycles db publishedCycleScanLimit) [] = .ok due ↔
      (∀ d ∈ publishedCycles db publishedCycleScanLimit,
        (dueBefore py settings now db d).length < batchLimit settings limit →
          (dueAnswer py settings now db d).toOption.isSome) ∧
        due = ((publishedCycles db publishedCycleScanLimit).filter
          (isDueAt py settings now db)).take (batchLimit settings limit) := by
  have h := scanDue_ok_iff py settings now db due
    (sorted_publishedCycles db publishedCycleScanLimit) (List.length_nil.trans_lt hlimit)
  simpa only [dueBefore, List.length_nil, Nat.zero_add, Nat.sub_zero, List.nil_append] using h

/-- A sweep that can take its turn fetches the first due cycles. -/
lemma CanSweep.fetchedBy_eq (hlimit : 1 ≤ batchLimit settings limit) {now : Instant} {db : Db}
    (h : CanSweep py settings limit now db) (fetches : CycleId → Fetch) :
    fetchedBy py settings limit now fetches db =
      ((publishedCycles db publishedCycleScanLimit).filter (isDueAt py settings now db)).take
        (batchLimit settings limit) := by
  obtain ⟨sourceId, hsource⟩ := Option.isSome_iff_exists.mp h.source
  rw [fetchedBy, hsource]
  simp only [(scanDue_published hlimit).mpr ⟨h.scan, rfl⟩]
  refine rechecked_eq ?_ ?_
  · exact ((nodup_publishedCycles db _).filter _).sublist (List.take_sublist _ _)
  · intro c hc
    exact mem_publishedCycles (List.mem_of_mem_filter (List.mem_of_mem_take hc))

/-- Any other sweep fetches nothing. -/
lemma canSweep_of_fetchedBy (hlimit : 1 ≤ batchLimit settings limit) {now : Instant}
    {fetches : CycleId → Fetch} {db : Db} {c : CycleId}
    (h : c ∈ fetchedBy py settings limit now fetches db) : CanSweep py settings limit now db := by
  rw [fetchedBy] at h
  cases hsource : officialSource db with
  | none => simp [hsource] at h
  | some sourceId =>
    cases hdue : scanDue py (freshnessConfig settings) now (batchLimit settings limit) db
        (publishedCycles db publishedCycleScanLimit) [] with
    | error e => simp [hsource, hdue] at h
    | ok due => exact ⟨by rw [hsource]; rfl, ((scanDue_published hlimit).mp hdue).1⟩

/-- A sweep fetches exactly the cycles that it gets to. -/
theorem mem_fetchedBy (hlimit : 1 ≤ batchLimit settings limit) {now : Instant}
    {fetches : CycleId → Fetch} {db : Db} {c : CycleId} :
    c ∈ fetchedBy py settings limit now fetches db ↔ InReach py settings limit now c db := by
  have hsorted := (sorted_publishedCycles db publishedCycleScanLimit).filter
    (isDueAt py settings now db)
  constructor
  · intro h
    have hsweep := canSweep_of_fetchedBy hlimit h
    rw [hsweep.fetchedBy_eq hlimit, mem_take_iff_of_sorted hsorted, List.mem_filter] at h
    exact ⟨hsweep, h.1.1, h.1.2, h.2⟩
  · intro h
    rw [h.sweep.fetchedBy_eq hlimit, mem_take_iff_of_sorted hsorted, List.mem_filter]
    exact ⟨⟨h.scanned, h.due⟩, h.before⟩

/-! ## Runs of sweeps -/

variable (py settings limit) in
/-- The cycles of `D` are published and due at every sweep of the run. -/
def DueThroughout (D : Finset CycleId) (db : Db) (sweeps : List Sweep) : Prop :=
  EachStep (sweepStep py settings limit)
    (fun db sweep => ∀ c ∈ D, Due py settings sweep.now c (sweep.meanwhile db)) db sweeps

variable (py settings limit) in
/-- Every cycle of `D` is selected and fetched by a sweep of the run. -/
def NoneStarved (D : Finset CycleId) (db : Db) (sweeps : List Sweep) : Prop :=
  ∀ c ∈ D, SomeStep (sweepStep py settings limit)
    (fun db sweep => c ∈ fetchedBy py settings limit sweep.now sweep.fetches (sweep.meanwhile db))
    db sweeps

variable (py settings limit) in
/-- Every cycle of `D` comes, at some sweep of the run, to be among the first due ones. -/
def AllInReach (D : Finset CycleId) (db : Db) (sweeps : List Sweep) : Prop :=
  ∀ c ∈ D, SomeStep (sweepStep py settings limit)
    (fun db sweep => InReach py settings limit sweep.now c (sweep.meanwhile db)) db sweeps

variable (py settings limit) in
/-- At every sweep of the run the source is active, the scan meets every published cycle and
raises at none, and no cycle is due but those of `D`. -/
def OnlyDue (D : Finset CycleId) (db : Db) (sweeps : List Sweep) : Prop :=
  EachStep (sweepStep py settings limit)
    (fun db sweep => CanSweep py settings limit sweep.now (sweep.meanwhile db) ∧
      (∀ c r, (sweep.meanwhile db).cycles.row c = some r → (sweep.meanwhile db).isPublished r →
        c ∈ publishedCycles (sweep.meanwhile db) publishedCycleScanLimit) ∧
      ∀ c, Due py settings sweep.now c (sweep.meanwhile db) → c ∈ D) db sweeps

/-- The published cycles with a smaller id than a scanned one are scanned. -/
lemma scanned_of_lt {db : Db} {n : ℕ} {c d : CycleId} (hc : c ∈ publishedCycles db n)
    (hd : ∃ r, db.cycles.row d = some r ∧ db.isPublished r) (hlt : d < c) :
    d ∈ publishedCycles db n := by
  obtain ⟨r, hr, hpub⟩ := hd
  have hsorted := sorted_published db
  rw [publishedCycles, mem_take_iff_of_sorted hsorted] at hc ⊢
  refine ⟨?_, lt_of_le_of_lt ?_ hc.2⟩
  · rw [List.mem_filter, List.mem_insertionSort, db.cycles.mem_keys, hr]
    exact ⟨rfl, hpub⟩
  · exact (List.monotone_filter_right _ fun e he => by
      simp only [decide_eq_true_eq] at he ⊢
      exact he.trans hlt).length_le

/-- If the last cycle of `D` is in reach, all of `D` fits into one batch. -/
lemma card_le_of_inReach {D : Finset CycleId} {now : Instant} {db : Db} {c : CycleId} (hc : c ∈ D)
    (hlast : ∀ d ∈ D, d ≤ c) (hD : ∀ d ∈ D, Due py settings now d db)
    (h : InReach py settings limit now c db) : D.card ≤ batchLimit settings limit := by
  have hsubset : D.erase c ⊆ (dueBefore py settings now db c).toFinset := by
    intro d hd
    obtain ⟨hne, hd⟩ := Finset.mem_erase.mp hd
    have hlt : d < c := lt_of_le_of_ne (hlast d hd) hne
    rw [List.mem_toFinset, dueBefore, List.mem_filter, List.mem_filter]
    exact ⟨⟨scanned_of_lt h.scanned (hD d hd).published hlt, (hD d hd).due⟩, by simpa using hlt⟩
  have hcard : (D.erase c).card ≤ (dueBefore py settings now db c).length :=
    (Finset.card_le_card hsubset).trans (List.toFinset_card_le _)
  have hbefore := h.before
  rw [Finset.card_erase_of_mem hc] at hcard
  omega

/-- If no cycles are due but those of `D`, and these fit into one batch, all are in reach. -/
lemma inReach_of_card_le {D : Finset CycleId} {now : Instant} {db : Db} {c : CycleId} (hc : c ∈ D)
    (hsweep : CanSweep py settings limit now db)
    (hscanned : ∀ c r, db.cycles.row c = some r → db.isPublished r →
      c ∈ publishedCycles db publishedCycleScanLimit)
    (hdue : Due py settings now c db) (honly : ∀ c, Due py settings now c db → c ∈ D)
    (hcard : D.card ≤ batchLimit settings limit) : InReach py settings limit now c db := by
  obtain ⟨r, hr, hpub⟩ := hdue.published
  refine ⟨hsweep, hscanned c r hr hpub, hdue.due, ?_⟩
  have hsubset : (dueBefore py settings now db c).toFinset ⊆ D.erase c := by
    intro d hd
    rw [List.mem_toFinset, dueBefore, List.mem_filter, List.mem_filter] at hd
    obtain ⟨⟨hmem, hdue⟩, hlt⟩ := hd
    have hlt : d < c := by simpa using hlt
    exact Finset.mem_erase.mpr ⟨hlt.ne, honly d ⟨mem_publishedCycles hmem, hdue⟩⟩
  have hnodup : (dueBefore py settings now db c).Nodup :=
    ((nodup_publishedCycles db _).filter _).filter _
  have hlength : (dueBefore py settings now db c).length ≤ (D.erase c).card := by
    rw [← List.toFinset_card_of_nodup hnodup]
    exact Finset.card_le_card hsubset
  have hlt := Finset.card_erase_lt_of_mem hc
  omega

/-- Every due cycle is fetched exactly if each comes into reach at some sweep.  For that there may
be at most a batch of them, and if no other cycles are due this is enough. -/
theorem noneStarved_iff (hlimit : 1 ≤ batchLimit settings limit) (D : Finset CycleId) (db : Db)
    {sweeps : List Sweep}
    (hlength : sweeps.length =
      (D.card + batchLimit settings limit - 1) / batchLimit settings limit)
    (hdue : DueThroughout py settings limit D db sweeps) :
    (NoneStarved py settings limit D db sweeps ↔ AllInReach py settings limit D db sweeps) ∧
      (NoneStarved py settings limit D db sweeps → D.card ≤ batchLimit settings limit) ∧
      (OnlyDue py settings limit D db sweeps →
        (NoneStarved py settings limit D db sweeps ↔ D.card ≤ batchLimit settings limit)) := by
  have hreach : NoneStarved py settings limit D db sweeps ↔
      AllInReach py settings limit D db sweeps := by
    refine forall₂_congr fun c hc => ?_
    exact someStep_congr (fun _ _ _ => mem_fetchedBy hlimit) hdue
  have hfits : NoneStarved py settings limit D db sweeps → D.card ≤ batchLimit settings limit := by
    intro h
    rcases D.eq_empty_or_nonempty with rfl | hne
    · exact Nat.zero_le _
    · -- the last of the cycles is fetched too
      have hlast := D.max'_mem hne
      obtain ⟨db', sweep, hD, hmem⟩ := SomeStep.exists hdue (hreach.mp h _ hlast)
      exact card_le_of_inReach hlast (fun d hd => D.le_max' d hd) hD hmem
  refine ⟨hreach, hfits, fun honly => ⟨hfits, fun hcard => hreach.mpr fun c hc => ?_⟩⟩
  cases sweeps with
  | nil =>
    -- there is a sweep, as there is a due cycle
    have hpos : 0 < D.card := Finset.card_pos.mpr ⟨c, hc⟩
    have hone : 1 ≤ (D.card + batchLimit settings limit - 1) / batchLimit settings limit :=
      (Nat.one_le_div_iff hlimit).mpr (by omega)
    rw [← hlength, List.length_nil] at hone
    omega
  | cons sweep sweeps =>
    obtain ⟨⟨hsweep, hscanned, honly⟩, -⟩ := honly
    exact Or.inl (inReach_of_card_le hc hsweep hscanned (hdue.1 c hc) honly hcard)

/-! ## Two cycles whose pages are down -/

/-- A cycle that was never verified, so that it is due at any time. -/
def unverified : ScholarshipCycle := { Sample.cycle with lastVerifiedAt := none }

/-- Two such cycles. -/
def twoUnverified : Db := { Sample.db unverified with
  cycles := (Table.empty.insert 1 unverified).insert 2 unverified }

/-- A sweep during which nothing answers. -/
def deadSweep (now : Instant) : Sweep where
  meanwhile := id
  now := now
  fetches := fun _ =>
    ⟨.error ⟨.httpError, "unreachable"⟩, .error ⟨.httpError, "unreachable"⟩, now, now⟩

def deadSweeps : List Sweep :=
  [deadSweep (Sample.start + 24 * hour), deadSweep (Sample.start + 48 * hour)]

lemma dueThroughout_deadSweeps :
    DueThroughout Sample.py {} (some 1) {1, 2} twoUnverified deadSweeps := by
  refine ⟨?_, ?_, trivial⟩ <;> intro c hc <;> rw [Finset.mem_insert, Finset.mem_singleton] at hc <;>
    rcases hc with rfl | rfl <;> exact ⟨⟨_, rfl, rfl⟩, rfl⟩

/-- One fetch a sweep: both sweeps fetch the first cycle, and the second one is never fetched. -/
theorem second_cycle_starves :
    1 ≤ batchLimit {} (some 1) ∧
      deadSweeps.length = (({1, 2} : Finset CycleId).card + batchLimit {} (some 1) - 1) /
        batchLimit {} (some 1) ∧
      DueThroughout Sample.py {} (some 1) {1, 2} twoUnverified deadSweeps ∧
      ¬ NoneStarved Sample.py {} (some 1) {1, 2} twoUnverified deadSweeps := by
  refine ⟨by decide, by decide, dueThroughout_deadSweeps, fun h => ?_⟩
  rcases h 2 (by decide) with h | h | h
  · revert h
    decide +kernel
  · revert h
    decide +kernel
  · exact h

/-- The starving run, seen through the condition. -/
theorem noneStarved_deadSweeps :
    (NoneStarved Sample.py {} (some 1) {1, 2} twoUnverified deadSweeps ↔
        AllInReach Sample.py {} (some 1) {1, 2} twoUnverified deadSweeps) ∧
      (NoneStarved Sample.py {} (some 1) {1, 2} twoUnverified deadSweeps →
        ({1, 2} : Finset CycleId).card ≤ batchLimit {} (some 1)) ∧
      (OnlyDue Sample.py {} (some 1) {1, 2} twoUnverified deadSweeps →
        (NoneStarved Sample.py {} (some 1) {1, 2} twoUnverified deadSweeps ↔
          ({1, 2} : Finset CycleId).card ≤ batchLimit {} (some 1))) :=
  noneStarved_iff (by decide) {1, 2} twoUnverified (by decide) dueThroughout_deadSweeps

end ScholarshipFinder
