import ScholarshipFinder.Lib.Like
import ScholarshipFinder.Linking.Runs
import ScholarshipFinder.Sample.Intake
import ScholarshipFinder.Sample.Web

/-!
# Links by name

The linker looks for scholarships by `Scholarship.name.ilike(discovery.raw_title or "")`, with the
title as the pattern.  A title without wildcards and escapes is like the names that are the same in
lower case, so a discovery is linked to the only scholarship of its name.  A title that has one is
like another name as well, or is refused as a pattern.
-/

namespace ScholarshipFinder

open Lib Like IntakeStore

/-- What the database's `lower` does: the characters that it answers are lower case, a text of such
characters is its own, and it neither makes nor takes away wildcards and escapes. -/
structure LowerCase (lower : List Char → List Char) : Prop where
  lowered : ∀ s, ∀ c ∈ lower s, lower [c] = [c]
  fixed : ∀ s, (∀ c ∈ s, lower [c] = [c]) → lower s = s
  mem_meta : ∀ s c, isMeta c = true → (c ∈ lower s ↔ c ∈ s)

/-- The database, with `LIKE` on texts in lower case for `ILIKE`. -/
def IntakePy.withIlike (py : IntakePy) (lower : List Char → List Char) : IntakePy :=
  { py with ilike := fun name pattern =>
      match items (lower pattern.toList) with
      | none => .error ⟨.other, "LIKE pattern must not end with escape character"⟩
      | some pat => .ok (matchesItems pat (lower name.toList)) }

/-- The scholarship has this name, up to letter case. -/
def HasName (lower : List Char → List Char) (store : IntakeStore) (title : String)
    (id : ScholarshipId) : Prop :=
  ∃ shell, store.shells.row id = some shell ∧ lower shell.name.toList = lower title.toList

/-- The lookup of a title answers, and a run on a discovery with this title links it to nothing but
the only scholarship of its name. -/
structure LinksSameName (py : IntakePy) (lower : List Char → List Char) (title : String)
    (id : DiscoveryId) (answers : LinkAnswers) (store : IntakeStore) : Prop where
  looked : ∃ candidates, store.namedLike py title store.shells.keys = .ok candidates
  named : (store.linkDiscovery py id answers).1 = .ok .linked → ∃ d scholarshipId,
    (store.linkDiscovery py id answers).2.discovery id = some d ∧
      d.canonicalScholarshipId = some scholarshipId ∧ HasName lower store title scholarshipId ∧
      ∀ other, HasName lower store title other → other = scholarshipId

variable {py : IntakePy} {lower : List Char → List Char} {store : IntakeStore} {title : String}
  {id : DiscoveryId}

/-! ## The lookup -/

lemma LowerCase.plain (laws : LowerCase lower) :
    (∀ c ∈ lower title.toList, isMeta c = false) ↔ ∀ c ∈ title.toList, isMeta c = false := by
  constructor
  · intro h c hc
    by_contra hmeta
    rw [Bool.not_eq_false] at hmeta
    have hlower := h c ((laws.mem_meta _ c hmeta).mpr hc)
    rw [hmeta] at hlower
    cases hlower
  · intro h c hc
    by_contra hmeta
    rw [Bool.not_eq_false] at hmeta
    have htitle := h c ((laws.mem_meta _ c hmeta).mp hc)
    rw [hmeta] at htitle
    cases htitle

/-- The wildcards and the escape are lower case. -/
lemma LowerCase.meta (laws : LowerCase lower) {c : Char} (hc : isMeta c = true) :
    lower [c] = [c] :=
  laws.lowered [c] c ((laws.mem_meta [c] c hc).mpr (List.mem_singleton_self c))

/-- The candidates of a pattern that is not refused. -/
lemma namedLike_ok {pat : List Item} (hpat : items (lower title.toList) = some pat)
    (ids : List ScholarshipId) :
    ∃ candidates, store.namedLike (py.withIlike lower) title ids = .ok candidates ∧
      candidates.Sublist ids ∧ ∀ id, id ∈ candidates ↔ id ∈ ids ∧ ∃ shell,
        store.shells.row id = some shell ∧ matchesItems pat (lower shell.name.toList) = true := by
  induction ids with
  | nil => exact ⟨[], rfl, .slnil, by simp⟩
  | cons first ids ih =>
    obtain ⟨candidates, hcandidates, hsublist, hmem⟩ := ih
    rw [namedLike, hcandidates]
    cases hrow : store.shells.row first with
    | none =>
      refine ⟨candidates, rfl, hsublist.cons first, fun id => ?_⟩
      rw [hmem, List.mem_cons]
      refine ⟨fun ⟨hid, hshell⟩ => ⟨.inr hid, hshell⟩, ?_⟩
      rintro ⟨rfl | hid, hshell⟩
      · obtain ⟨shell, hshell, -⟩ := hshell
        rw [hrow] at hshell
        cases hshell
      · exact ⟨hid, hshell⟩
    | some shell =>
      have hilike : (py.withIlike lower).ilike shell.name title =
          .ok (matchesItems pat (lower shell.name.toList)) := by
        rw [IntakePy.withIlike]
        dsimp only
        rw [hpat]
      simp only [bind, Except.bind, hilike]
      by_cases hmatch : matchesItems pat (lower shell.name.toList) = true
      · refine ⟨first :: candidates, by rw [if_pos hmatch]; rfl, hsublist.cons_cons first,
          fun id => ?_⟩
        rw [List.mem_cons, List.mem_cons, hmem]
        constructor
        · rintro (rfl | ⟨hid, hshell⟩)
          · exact ⟨.inl rfl, shell, hrow, hmatch⟩
          · exact ⟨.inr hid, hshell⟩
        · rintro ⟨rfl | hid, hshell⟩
          · exact .inl rfl
          · exact .inr ⟨hid, hshell⟩
      · refine ⟨candidates, by rw [if_neg hmatch]; rfl, hsublist.cons first, fun id => ?_⟩
        rw [hmem, List.mem_cons]
        refine ⟨fun ⟨hid, hshell⟩ => ⟨.inr hid, hshell⟩, ?_⟩
        rintro ⟨rfl | hid, hshell⟩
        · obtain ⟨shell', hshell', hmatch'⟩ := hshell
          obtain rfl := Option.some.inj (hrow.symm.trans hshell')
          exact absurd hmatch' hmatch
        · exact ⟨hid, hshell⟩

/-- A pattern that ends in the escape character is refused where there is a scholarship. -/
lemma namedLike_error (hpat : items (lower title.toList) = none) {shell : ScholarshipShell}
    {first : ScholarshipId} (hrow : store.shells.row first = some shell) :
    ∀ candidates, store.namedLike (py.withIlike lower) title [first] ≠ .ok candidates := by
  intro candidates h
  have hilike : (py.withIlike lower).ilike shell.name title =
      .error ⟨.other, "LIKE pattern must not end with escape character"⟩ := by
    rw [IntakePy.withIlike]
    dsimp only
    rw [hpat]
  rw [namedLike, namedLike, hrow] at h
  simp only [bind, Except.bind, hilike] at h
  cases h

/-! ## Plain titles -/

lemma linksSameName_of_plain (laws : LowerCase lower)
    (hplain : ∀ c ∈ title.toList, isMeta c = false) {d : Discovery}
    (hrow : store.discovery id = some d) (htitle : d.rawTitle.getD "" = title)
    (answers : LinkAnswers) :
    LinksSameName (py.withIlike lower) lower title id answers store := by
  have hitems := items_plain (laws.plain.mpr hplain)
  obtain ⟨candidates, hcandidates, -, hmem⟩ :=
    @namedLike_ok py lower store title _ hitems store.shells.keys
  have hname : ∀ id, id ∈ candidates ↔ HasName lower store title id := by
    intro id
    rw [hmem, HasName, store.shells.mem_keys]
    constructor
    · rintro ⟨-, shell, hshell, hmatch⟩
      exact ⟨shell, hshell, matchesItems_chars.mp hmatch⟩
    · rintro ⟨shell, hshell, hsame⟩
      exact ⟨by rw [hshell]; rfl, shell, hshell, matchesItems_chars.mpr hsame⟩
  refine ⟨⟨candidates, hcandidates⟩, fun hlinked => ?_⟩
  have hrun := linkDiscovery_linked (py.withIlike lower) id answers store
  rw [hlinked] at hrun
  generalize hresult : (Except.ok LinkOutcome.linked : Except PyErr LinkOutcome) = result at hrun
  generalize (store.linkDiscovery (py.withIlike lower) id answers).2 = after at hrun
  cases hrun with
  | missing | duplicate | refused | interrupted => cases hresult
  | queued _ _ _ _ hother => exact absurd (Except.ok.inj hresult).symm hother
  | @linked d' scholarshipId hrow' hnone hnamed =>
    obtain rfl := Option.some.inj (hrow.symm.trans hrow')
    rw [htitle, hcandidates] at hnamed
    obtain rfl := Except.ok.inj hnamed
    refine ⟨_, scholarshipId, amend_discovery_self _ hrow, rfl,
      (hname _).mp (List.mem_singleton_self _), fun other hother => ?_⟩
    exact List.mem_singleton.mp ((hname other).mpr hother)

/-! ## Titles with wildcards -/

namespace Sample

/-- A scholarship of this name. -/
def shellNamed (name : String) : ScholarshipShell where
  providerId := 1
  slug := "named"
  name := name
  officialHomeUrl := awardUrl
  awardType := "scholarship"

/-- A discovery that nothing precedes. -/
def titled (title : String) (d : Discovery) : Discovery :=
  { d with rawTitle := some title, normalizedIdentityKey := none }

/-- A discovery with this title, and a scholarship of this name. -/
def titledStore (title name : String) : IntakeStore :=
  { importedPage.amend 1 (titled title) (fun _ => rfl) with
    shells := Table.empty.insert 1 (shellNamed name) }

lemma importedPage_first : (importedPage.discovery 1).isSome := by
  decide +kernel

lemma titledStore_discovery (title name : String) : ∃ d, (titledStore title name).discovery 1 =
    some d ∧ d.rawTitle = some title ∧ d.normalizedIdentityKey = none := by
  obtain ⟨d, hd⟩ := Option.isSome_iff_exists.mp importedPage_first
  exact ⟨titled title d, @amend_discovery_self _ _ (titled title) (fun _ => rfl) d hd, rfl, rfl⟩

lemma titledStore_shells (title name : String) :
    (titledStore title name).shells.row 1 = some (shellNamed name) :=
  Table.row_insert_self _ _ _

end Sample

/-- A name in lower case that is like a title with wildcards and is not its lower case. -/
lemma exists_other_name (laws : LowerCase lower) {pat : List Item}
    (hpat : items (lower title.toList) = some pat)
    (hmeta : ¬ ∀ c ∈ title.toList, isMeta c = false) :
    ∃ name : String, matchesItems pat (lower name.toList) = true ∧
      lower name.toList ≠ lower title.toList := by
  have hlower : lower (pat.map Item.sample) = pat.map Item.sample := by
    refine laws.fixed _ fun c hc => ?_
    rcases mem_sample hpat hc with hmem | hwild
    · exact laws.lowered _ c hmem
    · exact laws.meta hwild
  refine ⟨String.ofList (pat.map Item.sample), ?_, ?_⟩
  · rw [String.toList_ofList, hlower]
    exact matchesItems_sample pat
  · rw [String.toList_ofList, hlower]
    exact fun hsame => hmeta (laws.plain.mp (plain_of_sample_eq hpat hsame))

/-- The run on a discovery whose title is like the name of the one scholarship. -/
lemma titledStore_linked {pat : List Item} (hpat : items (lower title.toList) = some pat)
    {name : String} (hmatch : matchesItems pat (lower name.toList) = true)
    (answers : LinkAnswers) :
    ((Sample.titledStore title name).linkDiscovery (py.withIlike lower) 1 answers).1 =
      .ok .linked := by
  obtain ⟨d, hrow, htitle, hkey⟩ := Sample.titledStore_discovery title name
  have hnone : (Sample.titledStore title name).originalOf 1 d = none := by
    rw [originalOf, hkey]
  obtain ⟨candidates, hcandidates, hsublist, hmem⟩ :=
    @namedLike_ok py lower (Sample.titledStore title name) title _ hpat [1]
  have hone : candidates = [1] := by
    refine hsublist.eq_of_length_le ?_
    exact List.length_pos_of_mem ((hmem 1).mpr
      ⟨List.mem_singleton_self 1, _, Sample.titledStore_shells title name, hmatch⟩)
  subst hone
  have hkeys : (Sample.titledStore title name).shells.keys = [1] := rfl
  unfold IntakeStore.linkDiscovery
  rw [hrow]
  dsimp only
  rw [hnone, htitle, hkeys]
  dsimp only [Option.getD_some]
  rw [hcandidates]
  rfl

lemma not_linksSameName (laws : LowerCase lower) (answers : LinkAnswers)
    (hmeta : ¬ ∀ c ∈ title.toList, isMeta c = false) : ∃ name,
      ¬ LinksSameName (py.withIlike lower) lower title 1 answers (Sample.titledStore title name) := by
  cases hpat : items (lower title.toList) with
  | none =>
    refine ⟨"", fun h => ?_⟩
    obtain ⟨candidates, hcandidates⟩ := h.looked
    exact namedLike_error hpat (Sample.titledStore_shells title "") candidates hcandidates
  | some pat =>
    obtain ⟨name, hmatch, hother⟩ := exists_other_name laws hpat hmeta
    refine ⟨name, fun h => hother ?_⟩
    obtain ⟨d, scholarshipId, -, -, ⟨shell, hshell, hsame⟩, -⟩ :=
      h.named (titledStore_linked hpat hmatch answers)
    have hfirst : scholarshipId = 1 := by
      by_contra hne
      rw [Sample.titledStore, Table.row_insert_of_ne _ hne] at hshell
      cases hshell
    subst hfirst
    obtain rfl := Option.some.inj ((Sample.titledStore_shells title name).symm.trans hshell)
    exact hsame

/-- In every catalogue, discoveries with a title are linked to the only scholarship of that name,
exactly if the title has no wildcard and no escape. -/
theorem links_same_name_iff (laws : LowerCase lower) (title : String) :
    (∀ store id d answers, store.discovery id = some d → d.rawTitle.getD "" = title →
      LinksSameName (py.withIlike lower) lower title id answers store) ↔
        ∀ c ∈ title.toList, isMeta c = false := by
  constructor
  · intro h
    by_contra hmeta
    have answers := Sample.linkAnswers 1
    obtain ⟨name, hnot⟩ := @not_linksSameName py lower title laws answers hmeta
    obtain ⟨d, hrow, htitle, -⟩ := Sample.titledStore_discovery title name
    exact hnot (h _ 1 d answers hrow (by rw [htitle]; rfl))
  · intro hplain store id d answers hrow htitle
    exact linksSameName_of_plain laws hplain hrow htitle answers

/-! ## Two titles -/

namespace Sample

/-- `lower` on ASCII text. -/
def lowerText (text : List Char) : List Char := text.map Char.toLower

lemma isMeta_toLower_upper : ∀ n < 91, 65 ≤ n → isMeta (Char.ofNat n).toLower = false := by
  decide

lemma toLower_of_isMeta {c : Char} (hc : isMeta c.toLower = true) : c.toLower = c := by
  by_cases hupper : c.isUpper = true
  · obtain ⟨hlow, hhigh⟩ := isUpper_range hupper
    have hplain := isMeta_toLower_upper c.toNat hhigh hlow
    rw [Char.ofNat_toNat, hc] at hplain
    cases hplain
  · exact toLower_of_isUpper (by simpa using hupper)

lemma lowerText_lowerCase : LowerCase lowerText where
  lowered := by
    intro s c hc
    obtain ⟨d, -, rfl⟩ := List.mem_map.mp hc
    exact congrArg (fun c => [c]) (toLower_toLower d)
  fixed := by
    intro s hs
    have hchars : ∀ c ∈ s, c.toLower = id c := fun c hc => List.singleton_inj.mp (hs c hc)
    rw [lowerText, List.map_congr_left hchars, List.map_id]
  mem_meta := by
    intro s c hc
    constructor
    · intro hmem
      obtain ⟨d, hd, rfl⟩ := List.mem_map.mp hmem
      rwa [toLower_of_isMeta hc]
    · intro hmem
      refine List.mem_map.mpr ⟨c, hmem, ?_⟩
      simp only [isMeta, Bool.or_eq_true, decide_eq_true_eq] at hc
      rcases hc with (rfl | rfl) | rfl <;> rfl

end Sample

/-- One scholarship has the wildcard's name and another one is linked; and a title with a last
backslash is refused as a pattern. -/
theorem wildcard_links_another :
    ((Sample.titledStore "Award 100%" "Award 1000").linkDiscovery
      (Sample.intakePy.withIlike Sample.lowerText) 1 (Sample.linkAnswers 1)).1 = .ok .linked ∧
    ¬ LinksSameName (Sample.intakePy.withIlike Sample.lowerText) Sample.lowerText "Award 100%" 1
      (Sample.linkAnswers 1) (Sample.titledStore "Award 100%" "Award 1000") ∧
    ¬ LinksSameName (Sample.intakePy.withIlike Sample.lowerText) Sample.lowerText "Award\\" 1
      (Sample.linkAnswers 1) (Sample.titledStore "Award\\" "Award A") := by
  have hpat : items (Sample.lowerText "Award 100%".toList) =
      some ("award 100".toList.map .char ++ [.any]) := by
    decide
  have hlinked := @titledStore_linked Sample.intakePy _ _ _ hpat "Award 1000" (by decide)
    (Sample.linkAnswers 1)
  refine ⟨hlinked, fun h => ?_, fun h => ?_⟩
  · obtain ⟨d, scholarshipId, -, -, ⟨shell, hshell, hsame⟩, -⟩ := h.named hlinked
    have hfirst : scholarshipId = 1 := by
      by_contra hne
      rw [Sample.titledStore, Table.row_insert_of_ne _ hne] at hshell
      cases hshell
    subst hfirst
    obtain rfl := Option.some.inj ((Sample.titledStore_shells _ _).symm.trans hshell)
    exact absurd hsame (by decide)
  · obtain ⟨candidates, hcandidates⟩ := h.looked
    have hrefused : items (Sample.lowerText "Award\\".toList) = none := by
      decide
    exact namedLike_error hrefused (Sample.titledStore_shells _ _) candidates hcandidates

/-- A plain title is linked, and in every catalogue to its name. -/
theorem plain_title_links :
    ((Sample.titledStore "Award A" "AWARD A").linkDiscovery
      (Sample.intakePy.withIlike Sample.lowerText) 1 (Sample.linkAnswers 1)).1 = .ok .linked ∧
    ∀ store id d answers, store.discovery id = some d → d.rawTitle.getD "" = "Award A" →
      LinksSameName (Sample.intakePy.withIlike Sample.lowerText) Sample.lowerText "Award A" id
        answers store := by
  refine ⟨?_, (links_same_name_iff Sample.lowerText_lowerCase "Award A").mpr ?_⟩
  · have hpat : items (Sample.lowerText "Award A".toList) =
        some ("award a".toList.map .char) := by
      decide
    exact titledStore_linked hpat (by decide) (Sample.linkAnswers 1)
  · have hplain : "Award A".toList.all (!isMeta ·) = true := by
      decide
    simpa using List.all_eq_true.mp hplain

end ScholarshipFinder
