import ScholarshipFinder.Domain.Extraction

/-!
# Reports of errors (`core/sentry.py`)

Before an event is sent, the values under keys that look like those of credentials are filtered out
of it, and the e-mail addresses in its texts are replaced.  The event is sent with the data of the
hint, if there is a hint.
-/

namespace ScholarshipFinder

open Lib

def secretMarkers : List String := ["authorization", "cookie", "token", "password", "secret",
  "signature", "api-key", "apikey", "credential"]

variable (py : PyText)

/-- `_EMAIL` -/
def emailPattern : Pattern :=
  sequence [.many1 fun c => py.isword c || charIn ".+-" c, .char (· = '@'),
    .many1 fun c => py.isword c || charIn ".-" c, .char (· = '.'), .char isAsciiLetter,
    .many1 isAsciiLetter]

/-- `_is_secret_key` -/
def isSecretKey (key : String) : Bool := secretMarkers.any (occursIn · (py.lower key))

/-- `_EMAIL.sub("[email]", value)` -/
def withoutEmails (s : String) : String :=
  String.ofList (Pattern.replaceAll (emailPattern py) (fun _ => "[email]".toList) s.toList)

mutual

/-- `_scrub` -/
def scrub : Json → Json
  | .obj items => .obj (scrubItems items)
  | .arr values => .arr (scrubValues values)
  | .str s => .str (withoutEmails py s)
  | value => value

def scrubValues : List Json → List Json
  | [] => []
  | value :: values => scrub value :: scrubValues values

def scrubItems : List (String × Json) → List (String × Json)
  | [] => []
  | (key, value) :: items =>
    (key, if isSecretKey py key then .str "[Filtered]" else scrub value) :: scrubItems items

end

/-- What a hint says, if there is one: `hint.get("data", {})` -/
def hintData : Option (List (String × Json)) → Option Json
  | some (entry :: hint) => some (((entry :: hint).lookup "data").getD (.obj []))
  | _ => none

/-- `scrub_event` -/
def scrubEvent (event : List (String × Json)) (hint : Option (List (String × Json))) :
    List (String × Json) :=
  let scrubbed := scrubItems py event
  match hintData hint with
  | some data => setItem scrubbed "extra" (scrub py data)
  | none => scrubbed

/-! ## Lemmas -/

variable {py} {items : List (String × Json)} {key : String} {value : Json}

lemma scrubValues_eq {values : List Json} : scrubValues py values = values.map (scrub py) := by
  induction values with
  | nil => rfl
  | cons value values ih =>
    rw [List.map_cons, ← ih]
    rfl

/-- What is sent of the value of a key. -/
def scrubAt (py : PyText) (key : String) (value : Json) : Json :=
  if isSecretKey py key then .str "[Filtered]" else scrub py value

lemma scrubItems_eq :
    scrubItems py items = items.map fun item => (item.1, scrubAt py item.1 item.2) := by
  induction items with
  | nil => rfl
  | cons item items ih =>
    rw [List.map_cons, ← ih]
    rfl

lemma mem_scrubItems : (key, value) ∈ scrubItems py items ↔
    ∃ given, (key, given) ∈ items ∧ value = scrubAt py key given := by
  rw [scrubItems_eq, List.mem_map]
  constructor
  · rintro ⟨⟨name, given⟩, hmem, hitem⟩
    obtain ⟨rfl, rfl⟩ := Prod.mk.inj hitem
    exact ⟨given, hmem, rfl⟩
  · rintro ⟨given, hmem, rfl⟩
    exact ⟨(key, given), hmem, rfl⟩

lemma lookup_scrubItems :
    (scrubItems py items).lookup key = (items.lookup key).map (scrubAt py key) := by
  rw [scrubItems_eq]
  induction items with
  | nil => rfl
  | cons item items ih =>
    rw [List.map_cons, List.lookup_cons, List.lookup_cons, ih]
    cases hkey : key == item.1 with
    | true => rw [eq_of_beq hkey]; rfl
    | false => rfl

/-- What is held under a key once it is set, and what is held under the others. -/
lemma mem_setItem {name : String} {held : Json} : (name, held) ∈ setItem items key value ↔
    (name = key ∧ held = value) ∨ (name ≠ key ∧ (name, held) ∈ items) := by
  rw [setItem]
  split
  · next hsome =>
    obtain ⟨old, hold⟩ := Option.isSome_iff_exists.mp hsome
    rw [List.mem_map]
    constructor
    · rintro ⟨⟨name', held'⟩, hmem, hitem⟩
      dsimp only at hitem
      split at hitem
      · obtain ⟨rfl, rfl⟩ := Prod.mk.inj hitem
        exact Or.inl ⟨rfl, rfl⟩
      · next hne =>
        obtain ⟨rfl, rfl⟩ := Prod.mk.inj hitem
        exact Or.inr ⟨hne, hmem⟩
    · rintro (⟨rfl, rfl⟩ | ⟨hne, hmem⟩)
      · obtain ⟨before, after, hitems, -⟩ := List.lookup_eq_some_iff.mp hold
        exact ⟨(name, old), by rw [hitems]; simp, if_pos rfl⟩
      · exact ⟨(name, held), hmem, if_neg hne⟩
  · next hnone =>
    have habsent := Option.not_isSome_iff_eq_none.mp hnone
    rw [List.mem_append, List.mem_singleton]
    constructor
    · rintro (hmem | hitem)
      · have hne := List.lookup_eq_none_iff.mp habsent (name, held) hmem
        exact Or.inr ⟨fun h => bne_iff_ne.mp hne h.symm, hmem⟩
      · exact Or.inl (Prod.mk.inj hitem)
    · rintro (⟨rfl, rfl⟩ | ⟨-, hmem⟩)
      · exact Or.inr rfl
      · exact Or.inl hmem

/-- What is filtered out may be filtered before or after an item is set. -/
lemma scrubItems_setItem (hkey : isSecretKey py key = false) :
    scrubItems py (setItem items key value) =
      setItem (scrubItems py items) key (scrub py value) := by
  have hat : scrubAt py key value = scrub py value := by
    rw [scrubAt, hkey]
    rfl
  rw [setItem, setItem, lookup_scrubItems, Option.isSome_map]
  split
  · rw [scrubItems_eq, scrubItems_eq, List.map_map, List.map_map]
    refine List.map_congr_left fun item _ => ?_
    rw [Function.comp_apply, Function.comp_apply]
    by_cases hitem : item.1 = key
    · rw [if_pos hitem, if_pos hitem, hat]
    · rw [if_neg hitem, if_neg hitem]
  · rw [scrubItems_eq, scrubItems_eq, List.map_append, List.map_singleton, hat]

end ScholarshipFinder
