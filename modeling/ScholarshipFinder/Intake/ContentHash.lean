import ScholarshipFinder.Fetching.CanonicalUrl
import ScholarshipFinder.Intake.Lineages
import ScholarshipFinder.Sample.Intake

/-!
# What a content hash tells apart

The hash of a candidate is over its URL, its title and its excerpt, joined by newlines.  A canonical
URL has no newline, but the two texts may, and then the same text can be read as another title with
another excerpt.  A record whose text has one reading only is never dropped for another record, in
whatever state of the database it comes in.
-/

namespace ScholarshipFinder

open Lib UrlSplit IntakeStore

/-- Python and the database, with `urllib.parse`. -/
def IntakePy.withUrllib (py : IntakePy) (ipv6 : List Char → Bool) : IntakePy :=
  { py with toApprovalPy := { py.toApprovalPy with toPyText := { py.toPyText with
      toPy := py.toPy.withUrllib ipv6 } } }

/-! ## Readings of a text -/

/-- No other newline of the text has a stripped title before it and a stripped excerpt after it. -/
def HasOneReading (title excerpt : List Char) : Prop :=
  ∀ title' excerpt', title' ++ '\n' :: excerpt' = title ++ '\n' :: excerpt →
    strip title' = title' → strip excerpt' = excerpt' → title' = title

/-- A text whose only newline is the one between its parts. -/
lemma hasOneReading_of_notMem {title excerpt : List Char} (htitle : '\n' ∉ title)
    (hexcerpt : '\n' ∉ excerpt) : HasOneReading title excerpt := by
  intro title' excerpt' hsame _ _
  have hcount := congrArg (List.count '\n') hsame
  rw [List.count_append, List.count_append, List.count_cons_self, List.count_cons_self,
    List.count_eq_zero_of_not_mem htitle, List.count_eq_zero_of_not_mem hexcerpt] at hcount
  have htitle' : '\n' ∉ title' := List.count_eq_zero.mp (by omega)
  have hbefore := congrArg (before '\n') hsame
  rwa [before_append_cons htitle', before_append_cons htitle] at hbefore

/-! ## The text that is hashed -/

lemma toList_loop_eq (bytes : ByteArray) (i : ℕ) (acc : List UInt8) :
    ByteArray.toList.loop bytes i acc = acc.reverse ++ bytes.data.toList.drop i := by
  induction hleft : bytes.size - i generalizing i acc with
  | zero =>
    have hsize : ¬ i < bytes.size := by omega
    have hdrop : bytes.data.toList.drop i = [] :=
      List.drop_eq_nil_of_le (by rw [Array.length_toList]; exact not_lt.mp hsize)
    rw [ByteArray.toList.loop, if_neg hsize, hdrop, List.append_nil]
  | succ n ih =>
    have hsize : i < bytes.size := by omega
    have hlength : i < bytes.data.toList.length := by rwa [Array.length_toList]
    rw [ByteArray.toList.loop, if_pos hsize, ih (i + 1) _ (by omega), List.reverse_cons,
      List.append_assoc, List.singleton_append, List.drop_eq_getElem_cons hlength]
    have hget : bytes.get! i = bytes.data.toList[i] := by
      rw [Array.getElem_toList]
      exact getElem!_pos bytes.data i hsize
    rw [hget]

lemma toUTF8_toList_inj {s t : String} : s.toUTF8.toList = t.toUTF8.toList ↔ s = t := by
  have htoList : ∀ bytes : ByteArray, bytes.toList = bytes.data.toList := fun bytes =>
    toList_loop_eq bytes 0 []
  rw [htoList, htoList, Array.toList_inj, ← ByteArray.ext_iff]
  exact String.toByteArray_inj

lemma toList_joined (u title excerpt : String) : ("\n".intercalate [u, title, excerpt]).toList =
    u.toList ++ '\n' :: (title.toList ++ '\n' :: excerpt.toList) := by
  rw [String.toList_intercalate]
  simp [List.intercalate_cons_cons]

/-- Equal hashes are of the same URL and of one text. -/
lemma contentHash_eq_iff {py : Py} (hsha : py.sha256.Injective) {u u' : String}
    (title excerpt title' excerpt' : String) (hu : '\n' ∉ u.toList) (hu' : '\n' ∉ u'.toList) :
    contentHash py u' title' excerpt' = contentHash py u title excerpt ↔
      u' = u ∧ title'.toList ++ '\n' :: excerpt'.toList =
        title.toList ++ '\n' :: excerpt.toList := by
  rw [contentHash, contentHash, hsha.eq_iff, toUTF8_toList_inj, ← String.toList_inj, toList_joined,
    toList_joined]
  constructor
  · intro hsame
    have hbefore := congrArg (before '\n') hsame
    rw [before_append_cons hu', before_append_cons hu] at hbefore
    rw [hbefore] at hsame
    exact ⟨String.toList_inj.mp hbefore, (List.cons.inj (List.append_cancel_left hsame)).2⟩
  · rintro ⟨rfl, htexts⟩
    rw [htexts]

/-- A canonical URL has no newline. -/
lemma newline_notMem_canonical {py : Py} {ipv6 : List Char → Bool} (laws : py.LowerLaws)
    {value u : String} (h : canonicalizeUrl (py.withUrllib ipv6) value = .ok u) :
    '\n' ∉ u.toList := by
  obtain ⟨parts, port, haddress, hu⟩ := (canonicalizeUrl_ok_iff laws).mp h
  have hsound := sound_of_split haddress.split
  have hnetloc : IsHostPort py (netlocOf parts.scheme (hostOf py parts.netloc) port) :=
    isHostPort_netlocOf laws hsound parts.scheme
  have hstripped : isUnsafe '\n' = true := rfl
  rw [hu, canonicalText, written]
  intro hmem
  simp only [List.mem_append, List.mem_cons] at hmem
  rcases hmem with hmem | hmem | hmem | hmem | hmem | hmem | hmem
  · have hscheme := (webScheme_spec parts.scheme haddress.scheme).2.2.2 _ hmem
    rw [hstripped] at hscheme
    exact absurd hscheme.2.2.2.2 (by decide)
  · exact absurd hmem (by decide)
  · exact absurd hmem (by decide)
  · exact absurd hmem (by decide)
  · have hsafe := (hnetloc.safe _ hmem).2.1
    rw [hstripped] at hsafe
    cases hsafe
  · rcases mem_pathOf hmem with hslash | hpath
    · exact absurd hslash (by decide)
    · have hsafe := (hsound.path _ hpath).2.2
      rw [hstripped] at hsafe
      cases hsafe
  · split at hmem
    · cases hmem
    · rcases List.mem_cons.mp hmem with hmark | hmem
      · exact absurd hmark (by decide)
      · have hsafe := (mem_query hmem).2.2
        rw [hstripped] at hsafe
        cases hsafe

/-! ## Discoveries and the records they were made of -/

variable (py : IntakePy)

/-- The discovery was made of this candidate; a submission may put a heading before the excerpt. -/
structure MadeOf (d : Discovery) (candidate : DiscoveryCandidate) : Prop where
  hash : d.contentHash = candidate.contentHash
  title : d.rawTitle = some candidate.title
  excerpt : ∃ heading, d.rawExcerpt = excerptUnder py heading candidate.excerpt

/-- Every discovery was made of a record that was accepted. -/
def EachMade (store : IntakeStore) : Prop :=
  ∀ id d, store.discovery id = some d → ∃ url title excerpt candidate,
    prepareCandidate py.toPy url title excerpt = .ok candidate ∧ MadeOf py d candidate

/-- What the database goes through while feeds are imported, candidates submitted and discoveries
linked, one record after the other. -/
inductive IntakeMove (before : IntakeStore) : IntakeStore → Prop
  | record {runId : CrawlRunId} {startedAt : Instant} {record : FeedRecord}
      {answers : RecordAnswers} {bucket : Bucket} {after : IntakeStore}
      (h : importRecord py runId startedAt record answers before = .ok (bucket, after)) :
      IntakeMove before after
  | candidate {startedAt : Instant} {parent : DiscoveryContext} {candidate : CandidateSubmission}
      {answers : CandidateAnswers} {result : CandidateResult} {after : IntakeStore}
      (h : submitOne py startedAt parent candidate answers before = .ok (result, after)) :
      IntakeMove before after
  | link (id : DiscoveryId) (answers : LinkAnswers) :
      IntakeMove before (before.linkDiscovery py id answers).2
  | other {after : IntakeStore} (h : after.discovered = before.discovered) :
      IntakeMove before after

/-- The discovery has this content, but for a heading. -/
structure HasContent (store : IntakeStore) (id : DiscoveryId) (title excerpt : String) : Prop where
  row : ∃ d, store.discovery id = some d ∧ d.rawTitle = some title ∧
    ∃ heading stored, d.rawExcerpt = excerptUnder py heading stored ∧ stored.getD "" = excerpt

/-- The content of the record is its own: no other record has its hash, and it is not dropped for a
discovery with another title or excerpt, whatever was taken in before. -/
structure ToldApart (url title : String) (excerpt : Option String) : Prop where
  hash : ∀ candidate url' title' excerpt' candidate',
    prepareCandidate py.toPy url title excerpt = .ok candidate →
    prepareCandidate py.toPy url' title' excerpt' = .ok candidate' →
    candidate'.contentHash = candidate.contentHash →
      candidate'.normalizedUrl = candidate.normalizedUrl ∧ py.strip title' = py.strip title ∧
        py.strip (excerpt'.getD "") = py.strip (excerpt.getD "")
  imported : ∀ start store runId startedAt record answers after, EachMade py start →
    Relation.ReflTransGen (IntakeMove py) start store → record.url = url → record.title = title →
    record.excerpt = excerpt →
    importRecord py runId startedAt record answers store = .ok (.repeated, after) →
      ∃ id, HasContent py after id (py.strip title) (py.strip (excerpt.getD ""))
  submitted : ∀ start store startedAt parent candidate answers result after, EachMade py start →
    Relation.ReflTransGen (IntakeMove py) start store → candidateUrl parent candidate = url →
    candidate.title = title → candidate.excerpt = excerpt →
    submitOne py startedAt parent candidate answers store = .ok (result, after) →
    result.status = .duplicate →
      ∃ id, result.discoveryId = some id ∧
        HasContent py after id (py.strip title) (py.strip (excerpt.getD ""))

variable {py} {before after store start : IntakeStore}

/-! ## One move -/

/-- What one candidate does. -/
lemma submitOne_cases {startedAt : Instant} {parent : DiscoveryContext}
    {candidate : CandidateSubmission} {answers : CandidateAnswers} {result : CandidateResult}
    (h : submitOne py startedAt parent candidate answers before = .ok (result, after)) :
    (result.status = .rejected ∧ after = before) ∨
    ∃ prepared pageId seen, prepareCandidate py.toPy (candidateUrl parent candidate)
        candidate.title candidate.excerpt = .ok prepared ∧
      Seen parent.sourceId prepared.normalizedUrl answers.now before seen pageId ∧
      ((∃ existing, seen.findContent pageId prepared.contentHash = some existing ∧
          after = seen ∧ result.discoveryId = some existing) ∨
        result.status = .created ∧ Added answers.discoveryId
          (splitDiscovery py startedAt parent.discoveryId candidate prepared pageId)
          answers.normalizeJobId answers.linkJobId seen after) := by
  unfold submitOne at h
  split at h
  · split at h
    · cases h
      exact .inl ⟨rfl, rfl⟩
    · cases h
  · next prepared hprepared =>
    obtain ⟨⟨pageId, seen⟩, hpage, h⟩ := exceptBind_ok h
    refine .inr ⟨prepared, pageId, seen, hprepared, seePage_ok hpage, ?_⟩
    dsimp only at h
    unfold submitContent at h
    split at h
    · next existing hfound =>
      cases h
      exact .inl ⟨existing, hfound, rfl, rfl⟩
    · obtain ⟨added, hadded, h⟩ := exceptBind_ok h
      cases h
      exact .inr ⟨rfl, addDiscovery_ok hadded⟩

lemma EachMade.of_eq (h : EachMade py before)
    (heq : after.discovered.discoveries = before.discovered.discoveries) : EachMade py after := by
  intro id d hrow
  rw [ReviewStore.discovery, heq] at hrow
  exact h id d hrow

/-- What holds of a discovery when it is made, and goes by columns that a link keeps, holds of
every discovery after a move. -/
theorem IntakeMove.each {P : Discovery → Prop} (hmove : IntakeMove py before after)
    (horigin : ∀ d d', SameOrigin d d' → P d → P d')
    (hmade : ∀ d url title excerpt candidate,
      prepareCandidate py.toPy url title excerpt = .ok candidate → MadeOf py d candidate →
      d.normalizedIdentityKey =
        some (normalizeDiscovery py.toPyText py.toUnicodeText candidate.title).identityKey → P d)
    (h : ∀ id d, before.discovery id = some d → P d) :
    ∀ id d, after.discovery id = some d → P d := by
  have hadd : ∀ {seen after : IntakeStore} {id : DiscoveryId} {new : Discovery}
      {normalizeJobId linkJobId : JobId},
      seen.discovered.discoveries = before.discovered.discoveries →
      Added id new normalizeJobId linkJobId seen after → P new →
      ∀ other d, after.discovery other = some d → P d := by
    intro seen after id new normalizeJobId linkJobId hseen hadded hnew other d hrow
    rw [ReviewStore.discovery, hadded.discoveries, Table.row_insert] at hrow
    split at hrow
    · obtain rfl := Option.some.inj hrow
      exact hnew
    · rw [hseen] at hrow
      exact h other d hrow
  have hsame : ∀ {after : IntakeStore},
      after.discovered.discoveries = before.discovered.discoveries →
      ∀ id d, after.discovery id = some d → P d := by
    intro after heq id d hrow
    rw [ReviewStore.discovery, heq] at hrow
    exact h id d hrow
  cases hmove with
  | record hrecord =>
    cases importRecord_ok hrecord with
    | rejected => exact hsame rfl
    | repeated _ _ hseen _ => exact hsame hseen.discoveries
    | entered _ hcandidate hseen _ hadded =>
      exact hadd hseen.discoveries hadded
        (hmade _ _ _ _ _ hcandidate ⟨rfl, rfl, none, rfl⟩ rfl)
  | candidate hcandidate =>
    rcases submitOne_cases hcandidate with ⟨-, rfl⟩ |
      ⟨prepared, pageId, seen, hprepared, hseen, ⟨existing, -, rfl, -⟩ | ⟨-, hadded⟩⟩
    · exact h
    · exact hsame hseen.discoveries
    · exact hadd hseen.discoveries hadded
        (hmade _ _ _ _ _ hprepared ⟨rfl, rfl, _, rfl⟩ rfl)
  | link id answers =>
    obtain ⟨f, hkept, hrows, -⟩ := (linkDiscovery_linked py id answers before).rows
    intro other d hrow
    rw [hrows] at hrow
    split at hrow
    · obtain ⟨stored, hstored, rfl⟩ := Option.map_eq_some_iff.mp hrow
      exact horigin _ _ (hkept stored) (h other stored hstored)
    · exact h other d hrow
  | other heq => exact hsame (by rw [heq])

theorem EachMade.move (h : EachMade py before) (hmove : IntakeMove py before after) :
    EachMade py after := by
  refine hmove.each (fun d d' hsame => ?_) (fun d url title excerpt candidate hcandidate hmade _ =>
    ⟨url, title, excerpt, candidate, hcandidate, hmade⟩) h
  rintro ⟨url, title, excerpt, candidate, hcandidate, hmade⟩
  exact ⟨url, title, excerpt, candidate, hcandidate, hsame.hash.trans hmade.hash,
    hsame.title.trans hmade.title,
    hmade.excerpt.imp fun heading hexcerpt => hsame.excerpt.trans hexcerpt⟩

theorem EachMade.moves (h : EachMade py start)
    (hmoves : Relation.ReflTransGen (IntakeMove py) start store) : EachMade py store := by
  induction hmoves with
  | refl => exact h
  | tail _ hmove ih => exact ih.move hmove

/-! ## The operations are made of such moves -/

lemma importRecords_moves {runId : CrawlRunId} {startedAt : Instant}
    (batch : List (FeedRecord × RecordAnswers)) (counts : ImportCounts) (store : IntakeStore) :
    Relation.ReflTransGen (IntakeMove py) store
      (importRecords py runId startedAt batch counts store).2.2 := by
  induction batch generalizing counts store with
  | nil => exact .refl
  | cons e batch ih =>
    rw [importRecords]
    cases hrecord : importRecord py runId startedAt e.1 e.2 store with
    | error _ => exact .refl
    | ok recorded => exact .head (.record hrecord) (ih _ recorded.2)

lemma submitEach_moves {startedAt : Instant} {parent : DiscoveryContext}
    {batch : List (CandidateSubmission × CandidateAnswers)} {results : List CandidateResult}
    (h : submitEach py startedAt parent batch before = .ok (results, after)) :
    Relation.ReflTransGen (IntakeMove py) before after := by
  induction batch generalizing before results with
  | nil =>
    cases h
    exact .refl
  | cons e batch ih =>
    obtain ⟨⟨result, middle⟩, hcandidate, h⟩ := exceptBind_ok h
    obtain ⟨⟨rest, last⟩, heach, h⟩ := exceptBind_ok h
    cases h
    exact .head (.candidate hcandidate) (ih heach)

/-- Every operation takes the database through such moves. -/
theorem intakeStep_moves (store : IntakeStore) (op : IntakeOp) :
    Relation.ReflTransGen (IntakeMove py) store (intakeStep py store op) := by
  cases op with
  | importFeed runId startedAt finishedAt batch =>
    have hloop := @importRecords_moves py runId startedAt batch {}
      (store.startRun runId startedAt (batch.map Prod.fst))
    have hstart : IntakeMove py store (store.startRun runId startedAt (batch.map Prod.fst)) :=
      .other rfl
    unfold intakeStep importFeedRecords
    dsimp only
    split
    · exact .refl
    · split
      · split
        · exact .refl
        · exact (Relation.ReflTransGen.head hstart hloop).tail (.other rfl)
      · exact (Relation.ReflTransGen.head hstart hloop).tail (.other rfl)
  | submit startedAt parentId batch =>
    unfold intakeStep
    dsimp only
    split
    · next response after h =>
      unfold submitCandidates at h
      split at h
      · cases h
        exact .refl
      · split at h
        · obtain ⟨⟨results, worked⟩, heach, h⟩ := exceptBind_ok h
          cases h
          exact submitEach_moves heach
        · cases h
    · exact .refl
  | link id answers => exact .single (.link id answers)

/-! ## The result -/

lemma prepareCandidate_of_url {py : Py} {url normalizedUrl : String}
    (h : canonicalizeUrl py url = .ok normalizedUrl) (title : String) (excerpt : Option String) :
    ∃ candidate, prepareCandidate py url title excerpt = .ok candidate ∧
      candidate.normalizedUrl = normalizedUrl := by
  rw [prepareCandidate, h]
  exact ⟨_, rfl, rfl⟩

/-- The stored excerpt of a candidate, which may be absent. -/
lemma excerpt_of_candidate {py : Py} (hempty : py.strip "" = "") {url title : String}
    {excerpt : Option String} {candidate : DiscoveryCandidate}
    (h : prepareCandidate py url title excerpt = .ok candidate) :
    candidate.excerpt.getD "" = py.strip (excerpt.getD "") := by
  rw [(prepareCandidate_ok h).2.2.2]
  cases excerpt with
  | none => exact hempty.symm
  | some text =>
    by_cases htext : text = ""
    · simp [Option.filter, htext, hempty]
    · simp [Option.filter, htext]

/-- A discovery that is found by the hash of a record has its content, if no other record has the
hash. -/
lemma HasContent.of_found {url title : String} {excerpt : Option String}
    (hempty : py.strip "" = "")
    (hhash : ∀ candidate url' title' excerpt' candidate',
      prepareCandidate py.toPy url title excerpt = .ok candidate →
      prepareCandidate py.toPy url' title' excerpt' = .ok candidate' →
      candidate'.contentHash = candidate.contentHash →
        candidate'.normalizedUrl = candidate.normalizedUrl ∧ py.strip title' = py.strip title ∧
          py.strip (excerpt'.getD "") = py.strip (excerpt.getD ""))
    (hmade : EachMade py store) {candidate : DiscoveryCandidate}
    (hcandidate : prepareCandidate py.toPy url title excerpt = .ok candidate) {pageId : PageId}
    {id : DiscoveryId} (hfound : store.findContent pageId candidate.contentHash = some id) :
    HasContent py store id (py.strip title) (py.strip (excerpt.getD "")) := by
  obtain ⟨d, hrow, hmatch⟩ := Table.findKey_eq_some hfound
  rw [Bool.and_eq_true, decide_eq_true_eq, decide_eq_true_eq] at hmatch
  obtain ⟨url', title', excerpt', candidate', hcandidate', horigin⟩ := hmade id d hrow
  obtain ⟨-, htitle, hexcerpt⟩ := hhash _ _ _ _ _ hcandidate hcandidate'
    (horigin.hash.symm.trans hmatch.2)
  obtain ⟨heading, hheading⟩ := horigin.excerpt
  refine ⟨d, hrow, ?_, heading, candidate'.excerpt, hheading, ?_⟩
  · rw [horigin.title, (prepareCandidate_ok hcandidate').2.2.1, htitle]
  · rw [excerpt_of_candidate hempty hcandidate', hexcerpt]

lemma ToldApart.of_hash {url title : String} {excerpt : Option String}
    (hempty : py.strip "" = "")
    (hhash : ∀ candidate url' title' excerpt' candidate',
      prepareCandidate py.toPy url title excerpt = .ok candidate →
      prepareCandidate py.toPy url' title' excerpt' = .ok candidate' →
      candidate'.contentHash = candidate.contentHash →
        candidate'.normalizedUrl = candidate.normalizedUrl ∧ py.strip title' = py.strip title ∧
          py.strip (excerpt'.getD "") = py.strip (excerpt.getD "")) :
    ToldApart py url title excerpt where
  hash := hhash
  imported := by
    rintro start store runId startedAt record answers after hmade hmoves rfl rfl rfl himport
    have hrecorded := importRecord_ok himport
    generalize hbucket : Bucket.repeated = bucket at hrecorded
    cases hrecorded with
    | rejected => cases hbucket
    | repeated _ hcandidate hseen hfound =>
      exact ⟨_, .of_found hempty hhash ((hmade.moves hmoves).of_eq hseen.discoveries) hcandidate
        hfound⟩
    | entered => split at hbucket <;> cases hbucket
  submitted := by
    rintro start store startedAt parent candidate answers result after hmade hmoves rfl rfl rfl
      hsubmit hstatus
    rcases submitOne_cases hsubmit with ⟨hrejected, -⟩ | ⟨prepared, pageId, seen, hprepared, hseen,
      ⟨existing, hfound, rfl, hexisting⟩ | ⟨hcreated, -⟩⟩
    · rw [hrejected] at hstatus
      cases hstatus
    · exact ⟨existing, hexisting, .of_found hempty hhash
        ((hmade.moves hmoves).of_eq hseen.discoveries) hprepared hfound⟩
    · rw [hcreated] at hstatus
      cases hstatus

/-- A record that is accepted is told apart from all others, exactly if its text has one
reading. -/
theorem toldApart_iff {py : IntakePy} {ipv6 : List Char → Bool} (laws : py.LowerLaws)
    (hsha : py.sha256.Injective) {url title : String} {excerpt : Option String}
    {candidate : DiscoveryCandidate}
    (h : prepareCandidate (py.withUrllib ipv6).toPy url title excerpt = .ok candidate) :
    ToldApart (py.withUrllib ipv6) url title excerpt ↔
      HasOneReading (strip title.toList) (strip (excerpt.getD "").toList) := by
  have hstrip : ∀ s : String, (py.withUrllib ipv6).strip s = String.ofList (strip s.toList) :=
    fun _ => rfl
  have hsame : ∀ {url' title' excerpt' candidate'},
      prepareCandidate (py.withUrllib ipv6).toPy url' title' excerpt' = .ok candidate' →
      (candidate'.contentHash = candidate.contentHash ↔
        candidate'.normalizedUrl = candidate.normalizedUrl ∧
          strip title'.toList ++ '\n' :: strip (excerpt'.getD "").toList =
            strip title.toList ++ '\n' :: strip (excerpt.getD "").toList) := by
    intro url' title' excerpt' candidate' h'
    obtain ⟨hurl, hhash, -⟩ := prepareCandidate_ok h
    obtain ⟨hurl', hhash', -⟩ := prepareCandidate_ok h'
    have hsha' : (py.withUrllib ipv6).sha256.Injective := hsha
    rw [hhash, hhash', contentHash_eq_iff hsha' _ _ _ _ (newline_notMem_canonical laws hurl)
      (newline_notMem_canonical laws hurl')]
    simp only [hstrip, String.toList_ofList]
  constructor
  · intro hapart title' excerpt' htext htitle' hexcerpt'
    obtain ⟨candidate', hcandidate', hurl'⟩ := prepareCandidate_of_url (prepareCandidate_ok h).1
      (String.ofList title') (some (String.ofList excerpt'))
    have hhash : candidate'.contentHash = candidate.contentHash := by
      refine (hsame hcandidate').mpr ⟨hurl', ?_⟩
      rw [Option.getD_some, String.toList_ofList, String.toList_ofList, htitle', hexcerpt', htext]
    have htitle := (hapart.hash _ _ _ _ _ h hcandidate' hhash).2.1
    rwa [hstrip, hstrip, String.toList_ofList, htitle', ← String.toList_inj, String.toList_ofList,
      String.toList_ofList] at htitle
  · intro hreading
    refine .of_hash rfl ?_
    intro candidate₁ url' title' excerpt' candidate' h₁ h' hhash
    rw [h, Except.ok.injEq] at h₁
    subst h₁
    obtain ⟨hurl, htext⟩ := (hsame h').mp hhash
    have htitle := hreading _ _ htext (strip_strip _) (strip_strip _)
    rw [htitle] at htext
    have hexcerpt := (List.cons.inj (List.append_cancel_left htext)).2
    refine ⟨hurl, ?_, ?_⟩
    · rw [hstrip, hstrip, htitle]
    · rw [hstrip, hstrip, hexcerpt]

/-! ## One text, two records -/

namespace Sample

/-- The text of two records: a title with two lines, or an excerpt with two lines. -/
def ambiguousText : List UInt8 :=
  "https://award.example.org/\nAward\nMasters\nOpen".toUTF8.toList

/-- The text of a record without an excerpt. -/
def plainText : List UInt8 := "https://award.example.org/\nAward A\n".toUTF8.toList

/-- The digests of these texts, and some other text for every other one. -/
def injectiveDigest (content : List UInt8) : String :=
  if content = ambiguousText then
    "04fc152bc18421124919fc552c52e886bef4e86ae7b16208eb2609a72e76f20a"
  else if content = plainText then
    "b096debc74337faeab003e691710c8c4ec04197e3394a7c366648497c0f6dcfa"
  else String.ofList ('#' :: content.map fun byte => Char.ofNat byte.toNat)

lemma injectiveDigest_injective : injectiveDigest.Injective := by
  have hbyte : ∀ content : List UInt8,
      (content.map fun byte => Char.ofNat byte.toNat).map (fun c => UInt8.ofNat c.toNat) =
        content := by
    intro content
    rw [List.map_map]
    refine (List.map_congr_left fun byte _ => ?_).trans (List.map_id _)
    have hvalid : byte.toNat.isValidChar := Or.inl (by have := byte.toNat_lt; omega)
    simp [Char.toNat_ofNat, hvalid]
  have hother : ∀ content content' : List UInt8,
      String.ofList ('#' :: content.map fun byte => Char.ofNat byte.toNat) =
        String.ofList ('#' :: content'.map fun byte => Char.ofNat byte.toNat) →
      content = content' := by
    intro content content' hsame
    rw [← String.toList_inj, String.toList_ofList, String.toList_ofList] at hsame
    rw [← hbyte content, (List.cons.inj hsame).2, hbyte]
  have hhex : ∀ (digest : String) (content : List UInt8), '#' ∉ digest.toList →
      digest ≠ String.ofList ('#' :: content.map fun byte => Char.ofNat byte.toNat) := by
    rintro digest content hdigest rfl
    simp at hdigest
  intro content content' hsame
  unfold injectiveDigest at hsame
  split at hsame
  · next htext =>
    split at hsame
    · next htext' => rw [htext, htext']
    · split at hsame
      · exact absurd hsame (by decide)
      · exact absurd hsame (hhex _ _ (by decide))
  · split at hsame
    · next htext =>
      split at hsame
      · exact absurd hsame (by decide)
      · split at hsame
        · next htext' => rw [htext, htext']
        · exact absurd hsame (hhex _ _ (by decide))
    · split at hsame
      · exact absurd hsame.symm (hhex _ _ (by decide))
      · split at hsame
        · exact absurd hsame.symm (hhex _ _ (by decide))
        · exact hother _ _ hsame

/-- Python on ASCII text, with such a digest. -/
def hashPy : IntakePy :=
  { intakePy with toApprovalPy := { intakePy.toApprovalPy with
      toPyText := { intakePy.toPyText with
        toPy := { asciiPy with sha256 := injectiveDigest } } } }

lemma hashPy_lowerLaws : hashPy.LowerLaws where
  lower_lower := asciiPy_lowerLaws.lower_lower
  lower_eq_self := asciiPy_lowerLaws.lower_eq_self
  ascii := asciiPy_lowerLaws.ascii
  mem_lower := asciiPy_lowerLaws.mem_lower

/-- The database after a record was imported into an empty one. -/
def afterRecord (record : FeedRecord) : IntakeStore :=
  ((importRecord (hashPy.withUrllib fun _ => false) 1 Sample.start record (rowAnswers 1) emptyIntake).map
    Prod.snd).toOption.getD emptyIntake

end Sample

/-- A title with two lines is dropped for a record with another title and another excerpt. -/
theorem lines_are_joined :
    Sample.hashPy.sha256.Injective ∧
    (importRecord (Sample.hashPy.withUrllib fun _ => false) 1 Sample.start
        { Sample.feedRow "Award" with excerpt := some "Masters\nOpen" } (Sample.rowAnswers 1)
        Sample.emptyIntake).map (·.1) = .ok .imported ∧
    (importRecord (Sample.hashPy.withUrllib fun _ => false) 1 Sample.start
        { Sample.feedRow "Award\nMasters" with excerpt := some "Open" } (Sample.rowAnswers 2)
        (Sample.afterRecord { Sample.feedRow "Award" with excerpt := some "Masters\nOpen" })).map
          (·.1) = .ok .repeated ∧
    ¬ ToldApart (Sample.hashPy.withUrllib fun _ => false) Sample.awardUrl "Award\nMasters"
      (some "Open") := by
  refine ⟨Sample.injectiveDigest_injective, by decide +kernel, by decide +kernel, fun h => ?_⟩
  have htwoLines : prepareCandidate (Sample.hashPy.withUrllib fun _ => false).toPy Sample.awardUrl
      "Award\nMasters" (some "Open") = .ok ⟨Sample.awardUrl,
        Sample.injectiveDigest Sample.ambiguousText, "Award\nMasters", some "Open"⟩ := by
    decide +kernel
  have hother : prepareCandidate (Sample.hashPy.withUrllib fun _ => false).toPy Sample.awardUrl
      "Award" (some "Masters\nOpen") = .ok ⟨Sample.awardUrl,
        Sample.injectiveDigest Sample.ambiguousText, "Award", some "Masters\nOpen"⟩ := by
    decide +kernel
  have hsame := (h.hash _ _ _ _ _ htwoLines hother rfl).2.1
  exact absurd hsame (by decide +kernel)

/-- A record of one line and without an excerpt is told apart. -/
theorem plain_record_told_apart :
    ToldApart (Sample.hashPy.withUrllib fun _ => false) Sample.awardUrl "Award A" none := by
  have haccepted : prepareCandidate (Sample.hashPy.withUrllib fun _ => false).toPy Sample.awardUrl
      "Award A" none = .ok ⟨Sample.awardUrl, Sample.injectiveDigest Sample.plainText, "Award A",
        none⟩ := by
    decide +kernel
  exact (toldApart_iff Sample.hashPy_lowerLaws Sample.injectiveDigest_injective haccepted).mpr
    (hasOneReading_of_notMem (by decide +kernel) (by decide +kernel))

end ScholarshipFinder
