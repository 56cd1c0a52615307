import ScholarshipFinder.Facts.RoundTrip
import ScholarshipFinder.Lib.Handled

/-!
# The checks of the builder, seen from a correction

A correction merges what it is sent into the stored arguments and builds the facts again.  Each
argument is checked in turn.  A value outside a vocabulary is refused, which the route answers, and
a `null` in place of a list is iterated, which it does not.
-/

namespace ScholarshipFinder

open Lib

variable (py : Py)

/-- Some of the values is not in the vocabulary. -/
def Unsupported (f : String → Except PyErr String) (values : Option (List String)) : Prop :=
  ∃ value e, value ∈ values.getD [] ∧ f value = .error e

/-- `ZoneInfo` raises an exception of this kind on the text. -/
def ZoneFails (timezone : Json) (kind : ExcClass → Prop) : Prop :=
  ∃ text e, timezone = .str text ∧ py.zoneInfo text = .error e ∧ kind e.cls

/-- The exceptions of `ZoneInfo` that the route answers. -/
def zoneAnswered (cls : ExcClass) : Prop := cls = .zoneInfoNotFoundError ∨ cls = .valueError

/-- The funding type is a text outside the vocabulary. -/
def FundingUnsupported (fundingType : Json) : Prop :=
  ∃ text e, fundingType = .str text ∧ text ≠ "" ∧ taxonomy.fundingType py text = .error e

/-- The checks of the builder on the arguments `x`, into which the request was merged. -/
def factsChecks (countries : CountryVocabulary) (c : UpdateCycleRequest) (x : CycleInputs) :
    List (Prop × Prop) := [
  (c.destinations = .null, Unsupported (countries.destination py) x.destinations),
  (c.levels = .null, Unsupported (taxonomy.degree py) x.levels),
  (c.origins = .null, Unsupported (countries.origin py) x.origins ∨
    x.originMode.eqStr "restricted" = true ∧ x.origins = some []),
  (c.fields = .null, Unsupported (taxonomy.field py) x.fields ∨
    x.fieldMode.eqStr "restricted" = true ∧ x.fields = some []),
  (ZoneFails py x.deadlineTimezone fun cls => ¬ zoneAnswered cls,
    ZoneFails py x.deadlineTimezone zoneAnswered),
  (False, FundingUnsupported py x.fundingType)]

variable {py} {countries : CountryVocabulary}

/-! ## What a request is merged into -/

section

variable {α β : Type} {c : Change α}

/-- A value that is sent or stored, where a `null` is not. -/
lemma Change.orStored_some {p : α → Prop} {stored : α} (hc : c ≠ .null)
    (hsent : ∀ a, c = .value a → p a) (hstored : p stored) :
    ∃ a, c.orStored (some stored) = some a ∧ p a := by
  cases c with
  | omitted => exact ⟨stored, rfl, hstored⟩
  | null => exact absurd rfl hc
  | value a => exact ⟨a, rfl, hsent a rfl⟩

/-- The same for a literal of the contract. -/
lemma Change.orStoredJson_value {toJson : α → Json} {g : β → α} {stored : β}
    (hc : c ≠ .null) (hsent : ∀ a, c = .value a → ∃ b, a = g b) :
    ∃ b, c.orStoredJson toJson (toJson (g stored)) = toJson (g b) := by
  cases c with
  | omitted => exact ⟨stored, rfl⟩
  | null => exact absurd rfl hc
  | value a =>
    obtain ⟨b, rfl⟩ := hsent a rfl
    exact ⟨b, rfl⟩

/-- A field that may be missing. -/
lemma Change.orStoredJson_optional {p : β → Prop} {toJson : α → Json} {g : β → α}
    {stored : Option β} (hsent : ∀ a, c = .value a → ∃ b, a = g b ∧ p b)
    (hstored : ∀ b ∈ stored, p b) :
    ∃ o : Option β, (∀ b ∈ o, p b) ∧
      c.orStoredJson toJson ((stored.map fun b => toJson (g b)).getD .null) =
        (o.map fun b => toJson (g b)).getD .null := by
  cases c with
  | omitted => exact ⟨stored, hstored, rfl⟩
  | null => exact ⟨none, nofun, rfl⟩
  | value a =>
    obtain ⟨b, rfl, hb⟩ := hsent a rfl
    refine ⟨some b, ?_, rfl⟩
    rintro b' ⟨⟩
    exact hb

end

/-! ## One check each -/

/-- The exceptions that the route answers with a status, after the cycle was found. -/
def answered (e : PyErr) : Prop := e.cls = .valueError

lemma mapM_error {f : String → Except PyErr String} {values : List String} {e : PyErr}
    (h : values.mapM f = .error e) : ∃ value ∈ values, f value = .error e := by
  induction values with
  | nil => cases h
  | cons value values ih =>
    rw [List.mapM_cons] at h
    cases hf : f value with
    | error e' =>
      rw [hf] at h
      obtain rfl := Except.error.inj h
      exact ⟨value, List.mem_cons_self, hf⟩
    | ok code =>
      cases hrest : values.mapM f with
      | error e' =>
        rw [hf, hrest] at h
        obtain rfl := Except.error.inj h
        obtain ⟨value', hmem, hvalue'⟩ := ih hrest
        exact ⟨value', List.mem_cons_of_mem _ hmem, hvalue'⟩
      | ok codes =>
        rw [hf, hrest] at h
        cases h

lemma mapM_supported {f : String → Except PyErr String} {values codes : List String}
    (h : values.mapM f = .ok codes) {value : String} (hvalue : value ∈ values) {e : PyErr} :
    f value ≠ .error e := by
  induction values generalizing codes with
  | nil => cases hvalue
  | cons head values ih =>
    rw [List.mapM_cons] at h
    obtain ⟨code, hcode, h⟩ := exceptBind_ok h
    obtain ⟨rest, hrest, -⟩ := exceptBind_ok h
    rcases List.mem_cons.mp hvalue with rfl | hvalue
    · rw [hcode]
      rintro ⟨⟩
    · exact ih hrest hvalue

/-- A set of codes breaks on a `null` and refuses what has no code. -/
lemma checks_codeSet {f : String → Except PyErr String}
    (hf : ∀ value e, f value = .error e → e.cls = .valueError) (c : Change (List String))
    (stored : List String) :
    Checks answered (codeSet f (c.orStored (some stored))) (c = .null)
      (Unsupported f (c.orStored (some stored))) := by
  have hsome : ∀ values (breaks : Prop), ¬ breaks →
      Checks answered (codeSet f (some values)) breaks (Unsupported f (some values)) := by
    intro values breaks hbreaks
    refine ⟨fun codes h => ⟨hbreaks, ?_⟩, fun e h => .inr ⟨hbreaks, ?_⟩⟩
    · obtain ⟨found, hfound, -⟩ := exceptBind_ok h
      rintro ⟨value, e, hvalue, he⟩
      exact mapM_supported hfound hvalue he
    · have hmap : values.mapM f = .error e := by
        cases hmap : values.mapM f with
        | error e' =>
          rw [codeSet, hmap] at h
          exact congrArg Except.error (Except.error.inj h)
        | ok found =>
          rw [codeSet, hmap] at h
          cases h
      obtain ⟨value, hvalue, he⟩ := mapM_error hmap
      exact ⟨⟨value, e, hvalue, he⟩, hf value e he⟩
  cases c with
  | omitted => exact hsome stored _ nofun
  | null =>
    refine ⟨nofun, fun e h => .inl ⟨rfl, ?_⟩⟩
    obtain rfl := Except.error.inj h
    rintro ⟨⟩
  | value values => exact hsome values _ nofun

lemma checks_timezone (text : Option String) :
    Checks answered (checkTimezone py (textOrNull text))
      (ZoneFails py (textOrNull text) fun cls => ¬ zoneAnswered cls)
      (ZoneFails py (textOrNull text) zoneAnswered) := by
  cases text with
  | none =>
    refine ⟨fun _ _ => ⟨?_, ?_⟩, nofun⟩
    · rintro ⟨text, e, htext, -⟩
      cases htext
    · rintro ⟨text, e, htext, -⟩
      cases htext
  | some text =>
    have hfails : ∀ kind e, py.zoneInfo text = .error e →
        (ZoneFails py (.str text) kind ↔ kind e.cls) := by
      intro kind e he
      constructor
      · rintro ⟨_, e', ⟨⟩, he', hkind⟩
        rw [he] at he'
        exact Except.error.inj he' ▸ hkind
      · exact fun hkind => ⟨text, e, rfl, he, hkind⟩
    show Checks answered (checkTimezone py (.str text)) (ZoneFails py (.str text) _)
      (ZoneFails py (.str text) _)
    cases hzone : py.zoneInfo text with
    | ok zone =>
      have hnot : ∀ kind, ¬ ZoneFails py (.str text) kind := by
        rintro kind ⟨_, e, ⟨⟩, he, -⟩
        rw [hzone] at he
        cases he
      refine ⟨fun _ _ => ⟨hnot _, hnot _⟩, fun e h => ?_⟩
      simp [checkTimezone, hzone] at h
    | error e =>
      rw [hfails _ e hzone, hfails _ e hzone]
      constructor
      · intro _ h
        simp only [checkTimezone, hzone] at h
        split at h <;> cases h
      · intro e' h
        simp only [checkTimezone, hzone] at h
        split at h
        · next hcls =>
          obtain rfl := Except.error.inj h
          exact .inr ⟨fun h => h (.inl hcls), .inl hcls, rfl⟩
        · next hcls =>
          obtain rfl := Except.error.inj h
          by_cases hvalue : e.cls = .valueError
          · exact .inr ⟨fun h => h (.inr hvalue), .inr hvalue, hvalue⟩
          · exact .inl ⟨fun h => h.elim hcls hvalue, hvalue⟩

lemma checks_fundingType (text : Option String) :
    Checks answered (checkFundingType py (textOrNull text)) False
      (FundingUnsupported py (textOrNull text)) := by
  have hnot : ∀ value : Json, (∀ text, value = .str text → text = "") →
      ¬ FundingUnsupported py value := by
    rintro value hempty ⟨text, e, htext, hne, -⟩
    exact hne (hempty text htext)
  cases text with
  | none => exact ⟨fun _ _ => ⟨not_false, hnot .null nofun⟩, nofun⟩
  | some text =>
    show Checks answered (checkFundingType py (.str text)) False (FundingUnsupported py (.str text))
    by_cases hempty : text = ""
    · subst hempty
      refine ⟨fun _ _ => ⟨not_false, hnot _ fun text htext => (Json.str.inj htext).symm⟩, ?_⟩
      intro e h
      cases h
    · have htruthy : (Json.str text).truthy = true := by simp [Json.truthy, hempty]
      simp only [checkFundingType, htruthy, if_true]
      cases hfound : taxonomy.fundingType py text with
      | ok code =>
        refine ⟨fun _ _ => ⟨not_false, ?_⟩, fun e h => by cases h⟩
        rintro ⟨_, e, ⟨⟩, -, he⟩
        rw [hfound] at he
        cases he
      | error e =>
        refine ⟨fun _ h => (by cases h), fun e' h => .inr ⟨not_false, ?_, ?_⟩⟩
        · exact ⟨text, e, rfl, hempty, hfound⟩
        · obtain rfl := Except.error.inj h
          unfold Taxonomy.fundingType at hfound
          split at hfound
          · cases hfound
          · obtain rfl := Except.error.inj hfound
            rfl

lemma lookup_answered {p : Prop} [Decidable p] {code msg : String} {e : PyErr}
    (h : (if p then Except.ok code else valueError msg) = .error e) : answered e := by
  split at h
  · cases h
  · obtain rfl := Except.error.inj h
    rfl

lemma origin_answered (value : String) (e : PyErr)
    (h : countries.origin py value = .error e) : answered e := lookup_answered h

lemma destination_answered (value : String) (e : PyErr)
    (h : countries.destination py value = .error e) : answered e := by
  cases horigin : countries.origin py value with
  | error e' =>
    rw [CountryVocabulary.destination, horigin] at h
    obtain rfl := Except.error.inj h
    exact origin_answered value _ horigin
  | ok code =>
    rw [CountryVocabulary.destination, horigin] at h
    exact lookup_answered h

lemma degree_answered (value : String) (e : PyErr)
    (h : taxonomy.degree py value = .error e) : answered e := lookup_answered h

lemma field_answered (value : String) (e : PyErr)
    (h : taxonomy.field py value = .error e) : answered e := lookup_answered h

/-- There are no codes exactly if there are no values. -/
lemma codeSet_eq_nil {f : String → Except PyErr String} {values : Option (List String)}
    {codes : List String} (h : codeSet f values = .ok codes) : codes = [] ↔ values = some [] := by
  cases values with
  | none => cases h
  | some values =>
    obtain ⟨found, hfound, h⟩ := exceptBind_ok h
    obtain rfl := Except.ok.inj h
    rw [sortedSet_eq_nil, Option.some_inj]
    cases values with
    | nil =>
      obtain rfl := Except.ok.inj hfound
      simp
    | cons value values =>
      rw [List.mapM_cons] at hfound
      obtain ⟨code, -, hfound⟩ := exceptBind_ok hfound
      obtain ⟨rest, -, hfound⟩ := exceptBind_ok hfound
      obtain rfl := Except.ok.inj hfound
      simp

/-- A refusal is answered, and what follows it is only reached past it. -/
lemma handled_refuse {α : Type} {p : Prop} [Decidable p] {msg : String}
    {rest : Unit → Except PyErr α} {Q : α → Prop} :
    Handled answered (if p then valueError msg >>= rest else rest ()) Q ↔
      p ∨ Handled answered (rest ()) Q := by
  by_cases hp : p
  · rw [if_pos hp]
    exact iff_of_true rfl (.inl hp)
  · rw [if_neg hp]
    exact (or_iff_right hp).symm

/-- The builder handles merged arguments exactly if its checks are passed; `P` is what is asked of
the dict that is built of them. -/
theorem buildCycleFacts_handled_iff {a : CycleArguments} {c : UpdateCycleRequest}
    (hdestinations : (a.toInputs.update c).destinations ≠ some [])
    (hlevels : (a.toInputs.update c).levels ≠ some []) {Q : Json → Prop} {P : Prop}
    (hQ : ∀ d, Built py countries (a.toInputs.update c) d → (Q d.toJson ↔ P)) :
    Handled answered (buildCycleFacts py countries (a.toInputs.update c)) Q ↔
      Guarded (factsChecks py countries c (a.toInputs.update c)) P := by
  have hlast : ∀ F, buildCycleFacts py countries (a.toInputs.update c) = .ok F → (Q F ↔ P) := by
    intro F hF
    obtain ⟨d, hd, rfl⟩ := buildCycleFacts_eq_ok_iff.mp hF
    exact hQ d hd
  rw [handled_congr hlast]
  obtain ⟨timezone, -, htimezone⟩ : ∃ o : Option String, (∀ b ∈ o, True) ∧
      (a.toInputs.update c).deadlineTimezone = textOrNull o :=
    Change.orStoredJson_optional (g := id) (fun text _ => ⟨text, rfl, trivial⟩) (by simp)
  obtain ⟨funding, -, hfunding⟩ : ∃ o : Option String, (∀ b ∈ o, True) ∧
      (a.toInputs.update c).fundingType = textOrNull o :=
    Change.orStoredJson_optional (g := id) (fun text _ => ⟨text, rfl, trivial⟩) (by simp)
  simp only [buildCycleFacts, factsChecks, handled_bind, handled_refuse]
  refine (checks_codeSet destination_answered _ _).handled_iff fun destinations hset => ?_
  rw [or_iff_right fun hnil => hdestinations ((codeSet_eq_nil hset).mp hnil)]
  refine (checks_codeSet degree_answered _ _).handled_iff fun levels hset => ?_
  rw [or_iff_right fun hnil => hlevels ((codeSet_eq_nil hset).mp hnil)]
  refine ((checks_codeSet origin_answered _ _).handled_iff fun origins hset => ?_).trans
    (and_congr_right fun _ => or_assoc.symm)
  refine or_congr (and_congr_right fun _ => codeSet_eq_nil hset) ?_
  refine ((checks_codeSet field_answered _ _).handled_iff fun fields hset => ?_).trans
    (and_congr_right fun _ => or_assoc.symm)
  refine or_congr (and_congr_right fun _ => codeSet_eq_nil hset) ?_
  rw [htimezone, hfunding]
  refine (checks_timezone timezone).handled_iff fun _ _ => ?_
  exact (checks_fundingType funding).handled_iff fun _ _ => Iff.rfl

end ScholarshipFinder
