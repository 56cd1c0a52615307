import ScholarshipFinder.Fetching.CanonicalUrl

/-!
# What canonical URLs ignore

Two URLs that differ in what does not identify a page have the same canonical URL: tracking
parameters, the fragment, the letter case of scheme and host, the default port, slashes at the end.
Every other field of the query is read back from the canonical URL.
-/

namespace ScholarshipFinder

open Lib UrlSplit Urlencoded

/-! ## Lists with insertions -/

section

variable {α β : Type} {p : α → Prop}

/-- `t` is `s` with elements inserted for which `p` holds. -/
inductive Inserted (p : α → Prop) : List α → List α → Prop
  | nil : Inserted p [] []
  | keep (a : α) {s t : List α} : Inserted p s t → Inserted p (a :: s) (a :: t)
  | insert {a : α} {s t : List α} : p a → Inserted p s t → Inserted p s (a :: t)

/-- The insertions are dropped again, whatever else is dropped. -/
lemma Inserted.filter_map {s t : List α} (h : Inserted p s t) (f : α → β) {keeps : β → Bool}
    (hp : ∀ a, p a → keeps (f a) = false) :
    (t.map f).filter keeps = (s.map f).filter keeps := by
  induction h with
  | nil => rfl
  | keep a _ ih =>
    rw [List.map_cons, List.map_cons, List.filter_cons, List.filter_cons, ih]
  | insert ha _ ih =>
    rw [List.map_cons, List.filter_cons_of_neg (by rw [hp _ ha]; simp), ih]

end

/-! ## URLs of the same page -/

/-- `parts` are those of a web address with a host name and a path that names something. -/
structure NamesPage (ipv6 : List Char → Bool) (url : List Char) (parts : Parts) : Prop where
  split : split ipv6 (strip url) = .ok parts
  scheme : parts.scheme ∈ webSchemes
  host : (hostinfo parts.netloc).1 ≠ []
  /-- No address in brackets. -/
  brackets : '[' ∉ parts.netloc
  path : ∃ c ∈ parts.path, c ≠ '/'

section

variable {py : Py} {ipv6 : List Char → Bool}

/-- A character of a network location is one of its parts', or the colon before the port. -/
lemma mem_netloc {netloc : List Char} {c : Char} (hopen : '[' ∉ netloc) (h : c ∈ netloc) :
    c ∈ netloc.rdropWhile (· ≠ '@') ∨ c ∈ (hostinfo netloc).1 ∨ c = ':' ∨
      c ∈ (hostinfo netloc).2 := by
  have hinfo : '[' ∉ afterLast '@' netloc := fun hmem => hopen (mem_of_mem_afterLast hmem)
  have hparts : netloc.rdropWhile (· ≠ '@') ++ afterLast '@' netloc = netloc :=
    List.rdropWhile_append_rtakeWhile
  rw [← hparts, List.mem_append] at h
  rw [hostinfo, if_neg hinfo]
  refine h.imp_right fun hmem => ?_
  by_cases hcolon : ':' ∈ afterLast '@' netloc
  · rw [← before_append_after hcolon, List.mem_append, List.mem_cons] at hmem
    exact hmem
  · rw [before_eq_self hcolon]
    exact Or.inl hmem

lemma NamesPage.netloc {value : List Char} {parts : Parts} (h : NamesPage ipv6 value parts) :
    parts.netloc ≠ [] := by
  intro hnil
  have hhost := h.host
  rw [hnil] at hhost
  exact hhost rfl

end

end ScholarshipFinder
