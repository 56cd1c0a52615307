import ScholarshipFinder.Core.Sentry
import ScholarshipFinder.Lib.Language
import ScholarshipFinder.Sample.Text

/-!
# What a report of an error says

Whatever the event is, what is sent of it has no value under a key that looks like that of a
credential, and no text in it has an e-mail address.  The keys are sent as they are, so a key with
an address in it is sent with the address, and the data of a hint take the place of the event's
`extra`, so that what only the event says is lost.
-/

namespace ScholarshipFinder

open Lib

/-- A step from a value to one that it holds. -/
inductive PathStep
  | key (name : String)
  | index (place : ℕ)

/-- What is found in a value at the end of a path. -/
inductive At : Json → List PathStep → Json → Prop
  | here (value : Json) : At value [] value
  | item {items : List (String × Json)} {key : String} {value found : Json}
      {path : List PathStep} : (key, value) ∈ items → At value path found →
        At (.obj items) (.key key :: path) found
  | entry {values : List Json} {place : ℕ} {value found : Json} {path : List PathStep} :
      values[place]? = some value → At value path found →
        At (.arr values) (.index place :: path) found

section

variable (py : PyText)

/-- No part of the text is an e-mail address. -/
def NoEmail (s : String) : Prop := ∀ part ∈ (emailPattern py).language, ¬ part <:+: s.toList

/-- A path that goes by no key of a credential. -/
def OpenPath (path : List PathStep) : Prop := ∀ key, .key key ∈ path → isSecretKey py key = false

/-- A value that holds no others: nothing, a truth value, a number, an empty list or dict, or a
text, and in the text no e-mail address. -/
def PlainValue : Json → Prop
  | .str s => NoEmail py s
  | .arr values => values = []
  | .obj items => items = []
  | _ => True

/-- All that is said under the keys of credentials is that it was filtered out. -/
def SecretsOut (result : List (String × Json)) : Prop := ∀ path items key value,
  At (.obj result) path (.obj items) → (key, value) ∈ items → isSecretKey py key = true →
    value = .str "[Filtered]"

/-- No text has an e-mail address. -/
def TextsClean (result : List (String × Json)) : Prop := ∀ path s,
  At (.obj result) path (.str s) → NoEmail py s

/-- No key has an e-mail address. -/
def KeysClean (result : List (String × Json)) : Prop := ∀ path items key value,
  At (.obj result) path (.obj items) → (key, value) ∈ items → NoEmail py key

/-- Every plain value of the event that is under no key of a credential is where it was. -/
def PlainKept (event result : List (String × Json)) : Prop := ∀ path value, path ≠ [] →
  OpenPath py path → PlainValue py value → At (.obj event) path value → At (.obj result) path value

/-- The event with the data of the hint. -/
def reportedEvent (event : List (String × Json)) (hint : Option (List (String × Json))) :
    List (String × Json) :=
  match hintData hint with
  | some data => setItem event "extra" data
  | none => event

/-- The keys that are sent have no e-mail address. -/
def PlainKeys (event : List (String × Json)) : Prop := ∀ path items key value, OpenPath py path →
  At (.obj event) path (.obj items) → (key, value) ∈ items → NoEmail py key

/-- Every plain value of the event's own `extra` is in the data at the same place, but the data
may have a text with addresses where it has the same text without. -/
def HasExtra (event : List (String × Json)) (data : Json) : Prop := ∀ extra path value,
  ("extra", extra) ∈ event → OpenPath py path → PlainValue py value → At extra path value →
    At data path value ∨ ∃ s, At data path (.str s) ∧ value = .str (withoutEmails py s)

/-- Nothing sensitive is sent, and nothing else is lost. -/
structure Reported (event result : List (String × Json)) : Prop where
  secrets : SecretsOut py result
  texts : TextsClean py result
  keys : KeysClean py result
  kept : PlainKept py event result

end

/-- What is known of the characters of what is put in for an address, and of the key `extra`. -/
structure PyText.ReportLaws (py : PyText) : Prop where
  opening : py.isword '[' = false
  closing : py.isword ']' = false
  lower : py.lower "extra" = "extra"

variable {py : PyText}

/-! ## Addresses -/

lemma charIn_of_subset {signs more : String} {c : Char} (h : signs.toList ⊆ more.toList)
    (hc : charIn signs c = true) : charIn more c = true := by
  rw [charIn, decide_eq_true_eq] at hc ⊢
  exact h hc

/-- An address has an at sign, and otherwise word characters, letters and three signs. -/
lemma mem_email {part : List Char} (h : part ∈ (emailPattern py).language) : '@' ∈ part ∧
    ∀ c ∈ part, py.isword c = true ∨ charIn ".+-@" c = true ∨ isAsciiLetter c = true := by
  simp only [emailPattern, sequence, Pattern.mem_language_seq, Pattern.mem_language_many1,
    Pattern.mem_language_char] at h
  obtain ⟨user, ⟨-, huser⟩, -, ⟨-, ⟨sign, hsign, rfl⟩, -, ⟨domain, ⟨-, hdomain⟩, -,
    ⟨-, ⟨dot, hdot, rfl⟩, -, ⟨-, ⟨letter, hletter, rfl⟩, letters, ⟨-, hletters⟩, rfl⟩, rfl⟩,
    rfl⟩, rfl⟩, rfl⟩ := h
  rw [decide_eq_true_eq] at hsign hdot
  subst hsign hdot
  refine ⟨by simp, fun c hc => ?_⟩
  simp only [List.mem_append, List.mem_singleton] at hc
  rcases hc with hc | rfl | hc | rfl | rfl | hc
  · rcases Bool.or_eq_true_iff.mp (huser c hc) with hword | hsign
    · exact Or.inl hword
    · exact Or.inr (Or.inl (charIn_of_subset (by decide) hsign))
  · exact Or.inr (Or.inl rfl)
  · rcases Bool.or_eq_true_iff.mp (hdomain c hc) with hword | hsign
    · exact Or.inl hword
    · exact Or.inr (Or.inl (charIn_of_subset (by decide) hsign))
  · exact Or.inr (Or.inl rfl)
  · exact Or.inr (Or.inr hletter)
  · exact Or.inr (Or.inr (hletters c hc))

lemma noEmail_of_not_at {s : String} (h : '@' ∉ s.toList) : NoEmail py s :=
  fun _ hpart hmem => h (hmem.subset (mem_email hpart).1)

/-- A text without addresses stays as it is. -/
lemma withoutEmails_eq {s : String} (h : NoEmail py s) : withoutEmails py s = s := by
  rw [withoutEmails, Pattern.replaceAll_eq_self h, String.ofList_toList]

/-- No bracket is part of an address. -/
lemma PyText.ReportLaws.not_mem_email (laws : py.ReportLaws) {part : List Char}
    (h : part ∈ (emailPattern py).language) : '[' ∉ part ∧ ']' ∉ part := by
  constructor
  · intro hmem
    rcases (mem_email h).2 _ hmem with hword | hsign | hletter
    · rw [laws.opening] at hword
      cases hword
    · exact absurd hsign (by decide)
    · exact absurd hletter (by decide)
  · intro hmem
    rcases (mem_email h).2 _ hmem with hword | hsign | hletter
    · rw [laws.closing] at hword
      cases hword
    · exact absurd hsign (by decide)
    · exact absurd hletter (by decide)

/-- Where the addresses are replaced there are none, and none come to be. -/
theorem PyText.ReportLaws.noEmail (laws : py.ReportLaws) (s : String) :
    NoEmail py (withoutEmails py s) := by
  intro part hpart
  have hplain : (emailPattern py).Plain := by
    simp [emailPattern, sequence, Pattern.Plain]
  have hempty : [] ∉ (emailPattern py).language := fun h => List.not_mem_nil (mem_email h).1
  have htoken : "[email]".toList = '[' :: ("email".toList ++ [']']) := by decide
  rw [withoutEmails, String.toList_ofList, htoken]
  refine Pattern.not_mem_replaceAll hplain hempty (fun other hother => ?_) hpart
  obtain ⟨hopening, hclosing⟩ := laws.not_mem_email hother
  refine ⟨hopening, hclosing, fun hmem => ?_⟩
  exact absurd (hmem.subset (mem_email hother).1) (by decide)

/-! ## What is found in what is sent -/

lemma openPath_nil : OpenPath py [] := fun _ h => absurd h List.not_mem_nil

lemma openPath_key {key : String} {path : List PathStep} :
    OpenPath py (.key key :: path) ↔ isSecretKey py key = false ∧ OpenPath py path := by
  constructor
  · intro h
    exact ⟨h key List.mem_cons_self, fun name hname => h name (List.mem_cons_of_mem _ hname)⟩
  · rintro ⟨hkey, hpath⟩ name hname
    rcases List.mem_cons.mp hname with heq | hname
    · cases heq
      exact hkey
    · exact hpath name hname

lemma openPath_index {place : ℕ} {path : List PathStep} :
    OpenPath py (.index place :: path) ↔ OpenPath py path := by
  constructor
  · exact fun h name hname => h name (List.mem_cons_of_mem _ hname)
  · intro hpath name hname
    rcases List.mem_cons.mp hname with heq | hname
    · cases heq
    · exact hpath name hname

lemma at_nil {value found : Json} (h : At value [] found) : found = value := by
  cases h
  rfl

lemma scrub_obj {items : List (String × Json)} :
    scrub py (.obj items) = .obj (scrubItems py items) := by
  rw [scrub]

lemma scrub_arr {values : List Json} : scrub py (.arr values) = .arr (values.map (scrub py)) := by
  rw [scrub, scrubValues_eq]

/-- What is under no key of a credential is sent, filtered. -/
lemma at_scrub {value found : Json} {path : List PathStep} (h : At value path found)
    (hpath : OpenPath py path) : At (scrub py value) path (scrub py found) := by
  induction h with
  | here value => exact At.here _
  | @item items key value found path hmem _ ih =>
    obtain ⟨hkey, hrest⟩ := openPath_key.mp hpath
    rw [scrub_obj]
    refine At.item (mem_scrubItems.mpr ⟨value, hmem, rfl⟩) ?_
    rw [scrubAt, hkey]
    exact ih hrest
  | @entry values place value found path hplace _ ih =>
    rw [scrub_arr]
    refine At.entry ?_ (ih (openPath_index.mp hpath))
    rw [List.getElem?_map, hplace, Option.map_some]

/-- What is sent stood where it stands, or that something was there is all that is said. -/
lemma at_of_scrub {value found : Json} {path : List PathStep} (h : At (scrub py value) path found) :
    (OpenPath py path ∧ ∃ given, At value path given ∧ found = scrub py given) ∨
      (¬ OpenPath py path ∧ found = .str "[Filtered]") := by
  induction path generalizing value with
  | nil => exact Or.inl ⟨openPath_nil, value, At.here value, at_nil h⟩
  | cons step path ih =>
    cases value with
    | obj items =>
      rw [scrub_obj] at h
      cases h with
      | @item _ key sent _ _ hmem hrest =>
        obtain ⟨given, hgiven, rfl⟩ := mem_scrubItems.mp hmem
        cases hkey : isSecretKey py key with
        | true =>
          rw [scrubAt, hkey] at hrest
          cases hrest
          refine Or.inr ⟨fun hpath => ?_, rfl⟩
          rw [(openPath_key.mp hpath).1] at hkey
          cases hkey
        | false =>
          rw [scrubAt, hkey] at hrest
          rcases ih hrest with ⟨hpath, inner, hinner, hfound⟩ | ⟨hclosed, hfound⟩
          · exact Or.inl ⟨openPath_key.mpr ⟨hkey, hpath⟩, inner, At.item hgiven hinner, hfound⟩
          · exact Or.inr ⟨fun hpath => hclosed (openPath_key.mp hpath).2, hfound⟩
    | arr values =>
      rw [scrub_arr] at h
      cases h with
      | @entry _ place sent _ _ hplace hrest =>
        rw [List.getElem?_map, Option.map_eq_some_iff] at hplace
        obtain ⟨given, hgiven, rfl⟩ := hplace
        rcases ih hrest with ⟨hpath, inner, hinner, hfound⟩ | ⟨hclosed, hfound⟩
        · exact Or.inl ⟨openPath_index.mpr hpath, inner, At.entry hgiven hinner, hfound⟩
        · exact Or.inr ⟨fun hpath => hclosed (openPath_index.mp hpath), hfound⟩
    | null | bool b | int n | float repr | str s =>
      rw [scrub] at h
      · cases h
      all_goals simp

lemma scrub_eq_obj {value : Json} {items : List (String × Json)} (h : scrub py value = .obj items) :
    ∃ given, value = .obj given ∧ items = scrubItems py given := by
  cases value with
  | obj given =>
    rw [scrub_obj] at h
    exact ⟨given, rfl, (Json.obj.inj h).symm⟩
  | arr | null | bool | int | float | str => simp [scrub] at h

lemma scrub_eq_str {value : Json} {s : String} (h : scrub py value = .str s) :
    ∃ given, value = .str given ∧ s = withoutEmails py given := by
  cases value with
  | str given =>
    rw [scrub] at h
    exact ⟨given, rfl, (Json.str.inj h).symm⟩
  | arr | null | bool | int | float | obj => simp [scrub] at h

lemma scrub_plain {value : Json} (h : PlainValue py value) : scrub py value = value := by
  cases value with
  | str s => rw [scrub, withoutEmails_eq h]
  | arr values =>
    rw [PlainValue] at h
    rw [scrub_arr, h, List.map_nil]
  | obj items =>
    rw [PlainValue] at h
    rw [scrub_obj, h, scrubItems]
  | null | bool | int | float => simp [scrub]

/-- What becomes a plain value was that value, or a text with addresses. -/
lemma given_of_scrub_plain {given : Json} (h : PlainValue py (scrub py given)) :
    scrub py given = given ∨ ∃ s, given = .str s := by
  cases given with
  | str s => exact Or.inr ⟨s, rfl⟩
  | arr values =>
    rw [scrub_arr, PlainValue, List.map_eq_nil_iff] at h
    rw [h, scrub_arr, List.map_nil]
    exact Or.inl rfl
  | obj items =>
    rw [scrub_obj, scrubItems_eq, PlainValue, List.map_eq_nil_iff] at h
    rw [h, scrub_obj, scrubItems]
    exact Or.inl rfl
  | null | bool | int | float => exact Or.inl (by simp [scrub])

/-! ## The keys of credentials, the texts and the other keys -/

variable {event : List (String × Json)} {hint : Option (List (String × Json))}

lemma PyText.ReportLaws.extra_open (laws : py.ReportLaws) : isSecretKey py "extra" = false := by
  rw [isSecretKey, laws.lower]
  decide

/-- The data of the hint may be set before anything is filtered. -/
lemma PyText.ReportLaws.scrubEvent_eq (laws : py.ReportLaws) :
    scrubEvent py event hint = scrubItems py (reportedEvent event hint) := by
  rw [scrubEvent, reportedEvent]
  cases hintData hint with
  | none => rfl
  | some data => exact (scrubItems_setItem laws.extra_open).symm

/-- A dict that is sent was a dict with the same keys, and they are no keys of credentials on the
way to it. -/
lemma items_of_scrub {path : List PathStep} {items : List (String × Json)} {key : String}
    {value : Json} (h : At (.obj (scrubItems py event)) path (.obj items))
    (hmem : (key, value) ∈ items) : OpenPath py path ∧ ∃ given held,
      At (.obj event) path (.obj given) ∧ (key, held) ∈ given ∧ value = scrubAt py key held := by
  rw [← scrub_obj] at h
  rcases at_of_scrub h with ⟨hpath, found, hfound, hitems⟩ | ⟨-, hfiltered⟩
  · obtain ⟨given, rfl, rfl⟩ := scrub_eq_obj hitems.symm
    obtain ⟨held, hheld, hvalue⟩ := mem_scrubItems.mp hmem
    exact ⟨hpath, given, held, hfound, hheld, hvalue⟩
  · cases hfiltered

theorem secretsOut_scrubItems : SecretsOut py (scrubItems py event) := by
  intro path items key value h hmem hkey
  obtain ⟨-, given, held, -, -, rfl⟩ := items_of_scrub h hmem
  rw [scrubAt, if_pos hkey]

theorem PyText.ReportLaws.textsClean (laws : py.ReportLaws) :
    TextsClean py (scrubItems py event) := by
  intro path s h
  rw [← scrub_obj] at h
  rcases at_of_scrub h with ⟨-, found, -, hs⟩ | ⟨-, hfiltered⟩
  · obtain ⟨given, -, rfl⟩ := scrub_eq_str hs.symm
    exact laws.noEmail given
  · rw [Json.str.inj hfiltered]
    exact noEmail_of_not_at (by decide)

/-- The keys are sent as they are. -/
lemma keysClean_iff : KeysClean py (scrubItems py event) ↔ PlainKeys py event := by
  constructor
  · intro h path items key value hpath hitems hmem
    have hsent := at_scrub hitems hpath
    rw [scrub_obj, scrub_obj] at hsent
    exact h path _ key _ hsent (mem_scrubItems.mpr ⟨value, hmem, rfl⟩)
  · intro h path items key value hitems hmem
    obtain ⟨hpath, given, held, hgiven, hheld, -⟩ := items_of_scrub hitems hmem
    exact h path given key held hpath hgiven hheld

/-! ## What is kept -/

/-- Without the data of a hint, everything else is kept. -/
lemma kept_scrubItems : PlainKept py event (scrubItems py event) := by
  intro path value _ hpath hplain h
  have hsent := at_scrub h hpath
  rwa [scrub_obj, scrub_plain hplain] at hsent

lemma at_setItem {data : Json} {key : String} {path : List PathStep} {value : Json} :
    At (.obj (setItem event "extra" data)) (.key key :: path) value ↔
      (key = "extra" ∧ At data path value) ∨
        (key ≠ "extra" ∧ At (.obj event) (.key key :: path) value) := by
  constructor
  · intro h
    cases h with
    | item hmem hrest =>
      rcases mem_setItem.mp hmem with ⟨rfl, rfl⟩ | ⟨hne, hmem⟩
      · exact Or.inl ⟨rfl, hrest⟩
      · exact Or.inr ⟨hne, At.item hmem hrest⟩
  · rintro (⟨rfl, h⟩ | ⟨hne, h⟩)
    · exact At.item (mem_setItem.mpr (Or.inl ⟨rfl, rfl⟩)) h
    · cases h with
      | item hmem hrest => exact At.item (mem_setItem.mpr (Or.inr ⟨hne, hmem⟩)) hrest

/-- With the data of a hint, the event's own `extra` is kept as far as the data say the same. -/
lemma PyText.ReportLaws.kept_setItem (laws : py.ReportLaws) {data : Json} :
    PlainKept py event (scrubItems py (setItem event "extra" data)) ↔ HasExtra py event data := by
  constructor
  · intro h extra path value hextra hpath hplain hvalue
    have hopen : OpenPath py (.key "extra" :: path) := openPath_key.mpr ⟨laws.extra_open, hpath⟩
    have hsent := h _ value (List.cons_ne_nil _ _) hopen hplain (At.item hextra hvalue)
    rw [← scrub_obj] at hsent
    rcases at_of_scrub hsent with ⟨-, given, hgiven, rfl⟩ | ⟨hclosed, -⟩
    · rcases at_setItem.mp hgiven with ⟨-, hdata⟩ | ⟨hne, -⟩
      · rcases given_of_scrub_plain hplain with heq | ⟨s, rfl⟩
        · rw [heq]
          exact Or.inl hdata
        · exact Or.inr ⟨s, hdata, by rw [scrub]⟩
      · exact absurd rfl hne
    · exact absurd hopen hclosed
  · intro h path value hne hpath hplain hvalue
    rw [← scrub_obj]
    cases hvalue with
    | here => exact absurd rfl hne
    | @item _ key held _ path hmem hrest =>
      by_cases hkey : key = "extra"
      · subst hkey
        rcases h held path value hmem (openPath_key.mp hpath).2 hplain hrest with
          hdata | ⟨s, hdata, rfl⟩
        · have hset : At (.obj (setItem event "extra" data)) (.key "extra" :: path) value :=
            at_setItem.mpr (Or.inl ⟨rfl, hdata⟩)
          have hsent := at_scrub hset hpath
          rwa [scrub_plain hplain] at hsent
        · have hset : At (.obj (setItem event "extra" data)) (.key "extra" :: path) (.str s) :=
            at_setItem.mpr (Or.inl ⟨rfl, hdata⟩)
          have hsent := at_scrub hset hpath
          rwa [scrub] at hsent
      · have hset : At (.obj (setItem event "extra" data)) (.key key :: path) value :=
          at_setItem.mpr (Or.inr ⟨hkey, At.item hmem hrest⟩)
        have hsent := at_scrub hset hpath
        rwa [scrub_plain hplain] at hsent

/-- Nothing sensitive is sent and nothing else is lost, exactly if no key has an address in it and
the data of the hint, if there is a hint, have what the event's `extra` has. -/
theorem scrub_event_iff (laws : py.ReportLaws) (event : List (String × Json))
    (hint : Option (List (String × Json))) : Reported py event (scrubEvent py event hint) ↔
      PlainKeys py (reportedEvent event hint) ∧
        ∀ data, hintData hint = some data → HasExtra py event data := by
  have hkept : PlainKept py event (scrubEvent py event hint) ↔
      ∀ data, hintData hint = some data → HasExtra py event data := by
    rw [laws.scrubEvent_eq, reportedEvent]
    cases hintData hint with
    | none => simp [kept_scrubItems]
    | some data => simp [laws.kept_setItem]
  rw [← hkept, laws.scrubEvent_eq]
  constructor
  · exact fun h => ⟨keysClean_iff.mp h.keys, h.kept⟩
  · rintro ⟨hkeys, hkept⟩
    exact ⟨secretsOut_scrubItems, laws.textsClean, keysClean_iff.mpr hkeys, hkept⟩

lemma Sample.textPy_reportLaws : Sample.textPy.ReportLaws where
  opening := by decide
  closing := by decide
  lower := by
    show String.map Char.toLower "extra" = "extra"
    rw [← String.toList_inj, String.toList_map]
    decide

/-- A text and a token are sent without the address and without the token. -/
theorem report_of_text : Reported Sample.textPy
    [("message", .str "no answer to user@example.org"), ("token", .str "t0k3n")]
    (scrubEvent Sample.textPy
      [("message", .str "no answer to user@example.org"), ("token", .str "t0k3n")] none) := by
  refine (scrub_event_iff Sample.textPy_reportLaws _ none).mpr ⟨?_, fun _ h => nomatch h⟩
  intro path items key value _ h hmem
  cases h with
  | here =>
    rcases List.mem_cons.mp hmem with hitem | hmem
    · rw [(Prod.mk.inj hitem).1]
      exact noEmail_of_not_at (by decide)
    · rw [(Prod.mk.inj (List.mem_singleton.mp hmem)).1]
      exact noEmail_of_not_at (by decide)
  | item hitem hrest =>
    rcases List.mem_cons.mp hitem with hfirst | hsecond
    · rw [(Prod.mk.inj hfirst).2] at hrest
      cases hrest
    · rw [(Prod.mk.inj (List.mem_singleton.mp hsecond)).2] at hrest
      cases hrest

/-- With a hint, even one without data, the number in the event's `extra` is lost, and without one
an address that is a key is sent. -/
theorem extra_lost_and_key_sent :
    ¬ Reported Sample.textPy [("extra", .obj [("job", .int 7)])]
      (scrubEvent Sample.textPy [("extra", .obj [("job", .int 7)])]
        (some [("attachments", .arr [])])) ∧
    ¬ Reported Sample.textPy [("user@example.org", .int 7)]
      (scrubEvent Sample.textPy [("user@example.org", .int 7)] none) := by
  have laws := Sample.textPy_reportLaws
  constructor
  · intro h
    rw [laws.scrubEvent_eq] at h
    have hextra := laws.kept_setItem.mp h.kept _ [.key "job"] (.int 7) (List.mem_singleton.mpr rfl)
      (openPath_key.mpr ⟨by decide +kernel, openPath_nil⟩) trivial
      (At.item (List.mem_singleton.mpr rfl) (At.here _))
    rcases hextra with hdata | ⟨s, -, hs⟩
    · cases hdata with
      | item hmem => cases hmem
    · cases hs
  · intro h
    rw [laws.scrubEvent_eq] at h
    have hkey := keysClean_iff.mp h.keys [] _ "user@example.org" (.int 7) openPath_nil (At.here _)
      (List.mem_singleton.mpr rfl)
    refine hkey "user@example.org".toList ?_ (List.infix_refl _)
    refine ⟨"user".toList, ?_, "@example.org".toList, ⟨['@'], ⟨'@', rfl, rfl⟩, "example.org".toList,
      ⟨"example".toList, ?_, ".org".toList, ⟨['.'], ⟨'.', rfl, rfl⟩, "org".toList, ⟨['o'],
        ⟨'o', rfl, rfl⟩, "rg".toList, ?_, rfl⟩, rfl⟩, rfl⟩, rfl⟩, rfl⟩
    · exact Pattern.mem_language_many1.mpr ⟨by decide, List.all_eq_true.mp (by decide)⟩
    · exact Pattern.mem_language_many1.mpr ⟨by decide, List.all_eq_true.mp (by decide)⟩
    · exact Pattern.mem_language_many1.mpr ⟨by decide, List.all_eq_true.mp (by decide)⟩

end ScholarshipFinder
