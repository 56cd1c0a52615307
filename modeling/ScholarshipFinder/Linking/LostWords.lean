import ScholarshipFinder.Intake.ContentHash
import ScholarshipFinder.Linking.IdentityKey

/-!
# Words that a key loses

The words of a title are its runs of letters and digits, of any script, and the key has the pieces
of them in `[a-z0-9]`.  A word of such characters is a piece of itself.  Every other word is lost,
or broken in pieces, so that titles with one key may have different words; what can differ is told
by these words alone.
-/

namespace ScholarshipFinder

open Lib Pattern IntakeStore

/-- The words of a title: the maximal runs of letters and digits after `fold` and `casefold`. -/
def titleWords (py : PyText) (unicode : UnicodeText) (title : String) : List (List Char) :=
  findAll (.many1 py.isalnum) (unicode.casefold (fold unicode title)).toList

/-- A word that is its own piece. -/
def isPlainWord (word : List Char) : Bool := word.all isTokenChar

/-- The pieces of the words that are not. -/
def brokenPieces (words : List (List Char)) : List (List Char) :=
  (words.filter (!isPlainWord ·)).flatMap (findAll (.many1 isTokenChar))

/-- The words that a key does not vouch for are in the other list as well: those with another
character, and those that are pieces of such words there. -/
def KeepsWords (words words' : List (List Char)) : Prop :=
  ∀ word ∈ words, isPlainWord word = false ∨ word ∈ brokenPieces words' → word ∈ words'

instance (words words' : List (List Char)) : Decidable (KeepsWords words words') :=
  inferInstanceAs (Decidable (∀ word ∈ words, _))

/-- The words of the first title are words of the second. -/
def Covers (py : PyText) (unicode : UnicodeText) (title title' : String) : Prop :=
  ∀ word ∈ titleWords py unicode title, word ∈ titleWords py unicode title'

/-- The key of every discovery is that of its title. -/
def KeyedByTitle (py : IntakePy) (store : IntakeStore) : Prop :=
  ∀ id d, store.discovery id = some d → d.normalizedIdentityKey =
    some (normalizeDiscovery py.toPyText py.toUnicodeText (d.rawTitle.getD "")).identityKey

/-- The run marks a discovery as a duplicate of another one. -/
structure MarksDuplicate (py : IntakePy) (store : IntakeStore) (id original : DiscoveryId)
    (d e : Discovery) : Prop where
  row : store.discovery id = some d
  other : store.discovery original = some e
  marks : ∃ answers, (store.linkDiscovery py id answers).1 = .ok .duplicatePending ∧
    ∃ d', (store.linkDiscovery py id answers).2.discovery id = some d' ∧
      d'.duplicateOfDiscoveryId = some original

variable {py : IntakePy} {unicode : UnicodeText} {data : Decomposition}
  {foldCase : Char → List Char} {before after start store : IntakeStore}

/-! ## Two titles with one key -/

/-- Letters and digits of a key are letters and digits. -/
lemma foldedWords_eq_pieces {py : PyText} (halnum : ∀ c, isTokenChar c = true → py.isalnum c = true)
    (title : String) : foldedWords unicode title =
      (titleWords py unicode title).flatMap (findAll (.many1 isTokenChar)) :=
  findAll_flatMap halnum

lemma pieces_of_plain {word : List Char} (hne : word ≠ []) (hplain : isPlainWord word = true) :
    findAll (.many1 isTokenChar) word = [word] :=
  findFrom_word hne (List.all_eq_true.mp hplain)

/-- Where the keys agree, only the words that they do not vouch for can be missing. -/
lemma covers_iff {py : PyText} (halnum : ∀ c, isTokenChar c = true → py.isalnum c = true)
    {title title' : String}
    (hsame : ∀ word, word ∈ foldedWords unicode title ↔ word ∈ foldedWords unicode title') :
    Covers py unicode title title' ↔
      KeepsWords (titleWords py unicode title) (titleWords py unicode title') := by
  constructor
  · intro h word hword _
    exact h word hword
  · intro h word hword
    cases hplain : isPlainWord word with
    | false => exact h word hword (.inl hplain)
    | true =>
      have hpieces := pieces_of_plain (mem_of_findAll hword).1 hplain
      have hfolded : word ∈ foldedWords unicode title := by
        rw [foldedWords_eq_pieces halnum, List.mem_flatMap]
        exact ⟨word, hword, by rw [hpieces]; exact List.mem_singleton_self word⟩
      rw [hsame, foldedWords_eq_pieces halnum, List.mem_flatMap] at hfolded
      obtain ⟨other, hother, hpiece⟩ := hfolded
      cases hplain' : isPlainWord other with
      | false =>
        refine h word hword (.inr (List.mem_flatMap.mpr ⟨other, ?_, hpiece⟩))
        exact List.mem_filter.mpr ⟨hother, by simp [hplain']⟩
      | true =>
        rw [pieces_of_plain (mem_of_findAll hother).1 hplain', List.mem_singleton] at hpiece
        rwa [hpiece]

/-- A key is empty exactly if there are no words in it. -/
lemma identityKey_eq_empty_iff {py : PyText} (laws : UnicodeLaws py unicode data foldCase)
    (title : String) : (normalizeDiscovery py unicode title).identityKey = "" ↔
      foldedWords unicode title = [] := by
  have hempty : foldedWords unicode "" = [] := by
    rw [foldedWords_eq laws]
    rfl
  have hkey : (normalizeDiscovery py unicode "").identityKey = "" := by
    change "|".intercalate (normalizeDiscovery py unicode "").tokens = ""
    rw [normalizeDiscovery_tokens laws, hempty]
    rfl
  rw [← hkey, identityKey_eq_iff laws, hempty, List.eq_nil_iff_forall_not_mem]
  simp

/-! ## Keys and titles -/

lemma KeyedByTitle.moves (h : KeyedByTitle py start)
    (hmoves : Relation.ReflTransGen (IntakeMove py) start store) : KeyedByTitle py store := by
  induction hmoves with
  | refl => exact h
  | tail _ hmove ih =>
    refine hmove.each (fun d d' hsame hkey => ?_) (fun d _ _ _ candidate _ hmade hkey => ?_) ih
    · rw [hsame.key, hkey, hsame.title]
    · rw [hkey, hmade.title]
      rfl

/-- The original has the key of the duplicate, and it is not empty. -/
lemma MarksDuplicate.sameKey {id original : DiscoveryId} {d e : Discovery}
    (h : MarksDuplicate py store id original d e) : ∃ key, key ≠ "" ∧
      d.normalizedIdentityKey = some key ∧ e.normalizedIdentityKey = some key := by
  obtain ⟨answers, hresult, d', hrow', hmark⟩ := h.marks
  have hrun := linkDiscovery_linked py id answers store
  rw [hresult] at hrun
  generalize hreturned : (Except.ok LinkOutcome.duplicatePending : Except PyErr LinkOutcome) =
    result at hrun
  generalize (store.linkDiscovery py id answers).2 = after at hrun hrow'
  cases hrun with
  | missing | refused | linked | interrupted => cases hreturned
  | @queued _ decision _ candidates _ _ _ _ hdecision =>
    have hqueued : (decideLink candidates).outcome = .duplicatePending := by
      rw [← hdecision]
      exact (Except.ok.inj hreturned).symm
    unfold decideLink at hqueued
    split at hqueued <;> cases hqueued
  | @duplicate stored found facts hrow horiginal =>
    obtain rfl := Option.some.inj (h.row.symm.trans hrow)
    obtain rfl := Option.some.inj ((amend_discovery_self _ hrow).symm.trans hrow')
    obtain rfl := Option.some.inj hmark
    obtain ⟨key, e', hkey, hne, he', hkey', -⟩ := (originalOf_precedes horiginal).row
    obtain rfl := Option.some.inj (h.other.symm.trans he')
    exact ⟨key, hne, hkey, hkey'⟩

/-- Two titles with one key have the same words exactly if the words that are not made of `[a-z0-9]`
are, and with them their pieces; and so a duplicate covers the title of its original. -/
theorem words_kept_iff (laws : UnicodeLaws py.toPyText py.toUnicodeText data foldCase)
    (halnum : ∀ c, isTokenChar c = true → py.isalnum c = true) :
    (∀ title title' : String,
      ((normalizeDiscovery py.toPyText py.toUnicodeText title).identityKey =
          (normalizeDiscovery py.toPyText py.toUnicodeText title').identityKey →
        (normalizeDiscovery py.toPyText py.toUnicodeText title).identityKey ≠ "" →
        Covers py.toPyText py.toUnicodeText title title' ∧
          Covers py.toPyText py.toUnicodeText title' title) ↔
      ((∀ word, word ∈ foldedWords py.toUnicodeText title ↔
          word ∈ foldedWords py.toUnicodeText title') →
        foldedWords py.toUnicodeText title ≠ [] →
        KeepsWords (titleWords py.toPyText py.toUnicodeText title)
            (titleWords py.toPyText py.toUnicodeText title') ∧
          KeepsWords (titleWords py.toPyText py.toUnicodeText title')
            (titleWords py.toPyText py.toUnicodeText title))) ∧
    ∀ start store id original d e, KeyedByTitle py start →
      Relation.ReflTransGen (IntakeMove py) start store →
      MarksDuplicate py store id original d e →
      (Covers py.toPyText py.toUnicodeText (e.rawTitle.getD "") (d.rawTitle.getD "") ↔
        KeepsWords (titleWords py.toPyText py.toUnicodeText (e.rawTitle.getD ""))
          (titleWords py.toPyText py.toUnicodeText (d.rawTitle.getD ""))) := by
  constructor
  · intro title title'
    rw [identityKey_eq_iff laws, ne_eq, identityKey_eq_empty_iff laws]
    refine forall_congr' fun hsame => forall_congr' fun _ => ?_
    rw [covers_iff halnum hsame, covers_iff halnum fun word => (hsame word).symm]
  · intro start store id original d e hstart hmoves hmarks
    have hkeyed := hstart.moves hmoves
    obtain ⟨key, -, hkey, hkey'⟩ := hmarks.sameKey
    rw [hkeyed id d hmarks.row] at hkey
    rw [hkeyed original e hmarks.other] at hkey'
    refine covers_iff halnum ((identityKey_eq_iff laws _ _).mp ?_)
    exact (Option.some.inj hkey').trans (Option.some.inj hkey).symm

/-! ## Two cities -/

namespace Sample

/-- The unified ideographs. -/
def isIdeograph (c : Char) : Bool := 0x4e00 ≤ c.toNat && c.toNat ≤ 0x9fff

/-- Python, with letters of two scripts. -/
def foreignPy : IntakePy :=
  { hashPy with
    toApprovalPy := { hashPy.toApprovalPy with toPyText := { hashPy.toPyText with
      isalnum := fun c => c.isAlphanum || isIdeograph c } }
    toUnicodeText := latinText }

lemma foreignPy_laws : UnicodeLaws foreignPy.toPyText foreignPy.toUnicodeText latin
    fun c => [c.toLower] where
  nfkd := latinLaws.nfkd
  combining := latinLaws.combining
  casefold := latinLaws.casefold
  mark := latinLaws.mark
  ascii := latinLaws.ascii
  blank := latinLaws.blank
  space := latinLaws.space
  notSpace := latinLaws.notSpace
  letter := latinLaws.letter
  strip := latinLaws.strip

lemma token_isAlphanum : ∀ n < 128, isTokenChar (Char.ofNat n) = true →
    (Char.ofNat n).isAlphanum = true := by
  decide

lemma foreignPy_isalnum (c : Char) (hc : isTokenChar c = true) : foreignPy.isalnum c = true := by
  have halnum := token_isAlphanum c.toNat (isTokenChar_ascii hc)
  rw [Char.ofNat_toNat] at halnum
  change (c.isAlphanum || isIdeograph c) = true
  rw [halnum hc, Bool.true_or]

/-- The database after two records on two pages. -/
def titledPages (title title' : String) : IntakeStore :=
  ((importRecord (foreignPy.withUrllib fun _ => false) 1 Sample.start (feedRow title) (rowAnswers 1)
      emptyIntake).toOption.bind fun first =>
    (importRecord (foreignPy.withUrllib fun _ => false) 1 Sample.start
      { feedRow title' with url := movedUrl } (rowAnswers 2) first.2).toOption.map Prod.snd).getD
        emptyIntake

/-- The columns of a discovery that the lookup of an original reads. -/
def markColumns (d : Discovery) : Option String × PageId × Option DiscoveryId :=
  (d.normalizedIdentityKey, d.sourcePageId, d.duplicateOfDiscoveryId)

end Sample

/-- A run that finds an original. -/
lemma linkDiscovery_of_original {id original : DiscoveryId} {d : Discovery}
    (hrow : store.discovery id = some d) (horiginal : store.originalOf id d = some original)
    (answers : LinkAnswers) : (store.linkDiscovery py id answers).1 = .ok .duplicatePending := by
  unfold IntakeStore.linkDiscovery
  rw [hrow]
  dsimp only
  rw [horiginal]

/-- Two awards of two cities have one key, and the later one is marked as a duplicate. -/
theorem city_is_lost :
    (normalizeDiscovery Sample.foreignPy.toPyText Sample.latinText "Stipendium 東京").identityKey =
      "stipendium" ∧
    (normalizeDiscovery Sample.foreignPy.toPyText Sample.latinText "Stipendium 京都").identityKey =
      "stipendium" ∧
    ¬ Covers Sample.foreignPy.toPyText Sample.latinText "Stipendium 東京" "Stipendium 京都" ∧
    ((Sample.titledPages "Stipendium 東京" "Stipendium 京都").linkDiscovery
      (Sample.foreignPy.withUrllib fun _ => false) 2 (Sample.linkAnswers 2)).1 =
        .ok .duplicatePending := by
  refine ⟨by decide +kernel, by decide +kernel, fun h => ?_, ?_⟩
  · have hmem : "東京".toList ∈
        titleWords Sample.foreignPy.toPyText Sample.latinText "Stipendium 東京" := by
      decide +kernel
    exact absurd (h _ hmem) (by decide +kernel)
  · have hkeys : (Sample.titledPages "Stipendium 東京"
        "Stipendium 京都").discovered.discoveries.keys = [1, 2] := by
      decide +kernel
    have hfirst : ((Sample.titledPages "Stipendium 東京" "Stipendium 京都").discovery 1).map
        Sample.markColumns = some (some "stipendium", 1, none) := by
      decide +kernel
    have hsecond : ((Sample.titledPages "Stipendium 東京" "Stipendium 京都").discovery 2).map
        Sample.markColumns = some (some "stipendium", 2, none) := by
      decide +kernel
    generalize Sample.titledPages "Stipendium 東京" "Stipendium 京都" = pages at hkeys hfirst hsecond
    obtain ⟨e, he, hcolumns⟩ := Option.map_eq_some_iff.mp hfirst
    obtain ⟨d, hd, hcolumns'⟩ := Option.map_eq_some_iff.mp hsecond
    simp only [Sample.markColumns, Prod.mk.injEq] at hcolumns hcolumns'
    have horiginal : pages.originalOf 2 d = some 1 := by
      rw [originalOf, hcolumns'.1, hkeys]
      simp [he, hd, isOriginal, hcolumns, hcolumns']
    exact linkDiscovery_of_original hd horiginal _

/-- Titles of one script keep their words. -/
theorem plain_titles_keep_words :
    (normalizeDiscovery Sample.foreignPy.toPyText Sample.latinText "Koç Award").identityKey =
      (normalizeDiscovery Sample.foreignPy.toPyText Sample.latinText "Award, Koc").identityKey ∧
    Covers Sample.foreignPy.toPyText Sample.latinText "Koç Award" "Award, Koc" ∧
    Covers Sample.foreignPy.toPyText Sample.latinText "Award, Koc" "Koç Award" := by
  have hkey : (normalizeDiscovery Sample.foreignPy.toPyText Sample.latinText
      "Koç Award").identityKey = "award|koc" := by
    decide +kernel
  have hkey' : (normalizeDiscovery Sample.foreignPy.toPyText Sample.latinText
      "Award, Koc").identityKey = "award|koc" := by
    decide +kernel
  have hkeep := ((words_kept_iff Sample.foreignPy_laws Sample.foreignPy_isalnum).1
    "Koç Award" "Award, Koc").mpr fun _ _ => ⟨by decide +kernel, by decide +kernel⟩
  have hne : (normalizeDiscovery Sample.foreignPy.toPyText Sample.latinText
      "Koç Award").identityKey ≠ "" := by
    rw [hkey]
    decide
  exact ⟨hkey.trans hkey'.symm, hkeep (hkey.trans hkey'.symm) hne⟩

end ScholarshipFinder
