import ScholarshipFinder.Domain.Urls
import ScholarshipFinder.Lib.UrlSplit
import ScholarshipFinder.Lib.Urlencoded

/-!
# `urllib.parse` in the runtime

The runtime whose `str.strip` and `urllib.parse` are the functions of the libraries.  Lower case
needs the Unicode tables and stays open; `Py.LowerLaws` says what is used of it.
-/

namespace ScholarshipFinder

open Lib UrlSplit Urlencoded

/-- `str.lower`, on the characters of a text. -/
def Py.lowerChars (py : Py) (s : List Char) : List Char := (py.lower (String.ofList s)).toList

/-- The `ValueError` of a URL that is refused. -/
def urlError : UrlSplit.Error → PyErr
  | .invalidIPv6 => ⟨.valueError, "Invalid IPv6 URL"⟩
  | .invalidHost => ⟨.valueError, "Invalid address in brackets"⟩
  | .invalidNetloc =>
    ⟨.valueError, "netloc contains invalid characters under NFKC normalization"⟩
  | .invalidPort => ⟨.valueError, "Port could not be cast to integer value"⟩
  | .portOutOfRange => ⟨.valueError, "Port out of range 0-65535"⟩

/-- `SplitResult` -/
def splitResult (py : Py) (parts : Parts) : SplitResult where
  scheme := String.ofList parts.scheme
  netloc := String.ofList parts.netloc
  path := String.ofList parts.path
  query := String.ofList parts.query
  hostname := (hostname py.lowerChars parts.netloc).map String.ofList
  port := (port parts.netloc).mapError urlError

/-- The runtime, with `urllib.parse`; `ipv6` is what `ipaddress` takes for an IPv6 address. -/
def Py.withUrllib (py : Py) (ipv6 : List Char → Bool) : Py := { py with
  strip := fun s => String.ofList (UrlSplit.strip s.toList)
  urlsplit := fun url => ((UrlSplit.split ipv6 url.toList).map (splitResult py)).mapError urlError
  parseQsl := fun qs => .ok ((Urlencoded.parseQsl qs.toList).map fun pair =>
    (String.ofList pair.1, String.ofList pair.2))
  urlencode := fun pairs => String.ofList (Urlencoded.urlencode (pairs.map
    fun pair => (pair.1.toList, pair.2.toList)))
  urlunsplit := fun scheme netloc path query =>
    String.ofList (unsplit scheme.toList netloc.toList path.toList query.toList) }

/-- The characters that a network location is read by, which have no case. -/
def isSyntax (c : Char) : Bool :=
  isDelimiter c || isUnsafe c || expands c || c ∈ ['@', ':', '[', ']']

/-- What is used of `str.lower`. -/
structure Py.LowerLaws (py : Py) : Prop where
  lower_lower : ∀ s, py.lower (py.lower s) = py.lower s
  /-- A text is in lower case if each of its characters is. -/
  lower_eq_self : ∀ s, py.lower s = s ↔
    ∀ c ∈ s.toList, py.lower (String.singleton c) = String.singleton c
  ascii : ∀ c, isAscii c = true → c.isUpper = false →
    py.lower (String.singleton c) = String.singleton c
  /-- The lower case of other characters is not syntax. -/
  mem_lower : ∀ s c, isSyntax c = true → c ∈ (py.lower s).toList → c ∈ s.toList

namespace Py.LowerLaws

variable {py : Py} (laws : py.LowerLaws)
include laws

lemma lowerChars_lowerChars (s : List Char) : py.lowerChars (py.lowerChars s) = py.lowerChars s := by
  rw [lowerChars, lowerChars, String.ofList_toList, laws.lower_lower]

lemma lowerChars_eq_self {s : List Char} :
    py.lowerChars s = s ↔ ∀ c ∈ s, py.lower (String.singleton c) = String.singleton c := by
  have h := laws.lower_eq_self (String.ofList s)
  rw [String.toList_ofList] at h
  rw [← h, lowerChars]
  constructor
  · intro heq
    rw [← String.toList_inj, String.toList_ofList, heq]
  · intro heq
    rw [heq, String.toList_ofList]

/-- A part of a text in lower case is in lower case. -/
lemma lowerChars_of_subset {s t : List Char} (h : py.lowerChars s = s) (ht : t ⊆ s) :
    py.lowerChars t = t :=
  laws.lowerChars_eq_self.mpr fun c hc => laws.lowerChars_eq_self.mp h c (ht hc)

lemma mem_of_mem_lowerChars {s : List Char} {c : Char} (hc : isSyntax c = true)
    (h : c ∈ py.lowerChars s) : c ∈ s := by
  have hmem := laws.mem_lower (String.ofList s) c hc h
  rwa [String.toList_ofList] at hmem

lemma lowerChars_ascii {s : List Char}
    (h : ∀ c ∈ s, isAscii c = true ∧ c.isUpper = false) : py.lowerChars s = s :=
  laws.lowerChars_eq_self.mpr fun c hc => laws.ascii c (h c hc).1 (h c hc).2

end Py.LowerLaws

/-- What more is used of `str.lower`, where texts differ in letter case. -/
structure Py.CaseLaws (py : Py) : Prop extends py.LowerLaws where
  /-- Syntax has no case. -/
  mem_of_mem : ∀ s c, isSyntax c = true → c ∈ s.toList → c ∈ (py.lower s).toList
  /-- A percent sign is no letter, and no part of a word. -/
  percent : ∀ s t, py.lower (s ++ "%" ++ t) = py.lower s ++ "%" ++ py.lower t
  empty : ∀ s, py.lower s = "" → s = ""

namespace Py.CaseLaws

variable {py : Py} (laws : py.CaseLaws)
include laws

lemma mem_lowerChars {s : List Char} {c : Char} (hc : isSyntax c = true) :
    c ∈ py.lowerChars s ↔ c ∈ s := by
  constructor
  · exact laws.toLowerLaws.mem_of_mem_lowerChars hc
  · intro h
    exact laws.mem_of_mem (String.ofList s) c hc (by rwa [String.toList_ofList])

lemma lowerChars_percent (s t : List Char) :
    py.lowerChars (s ++ '%' :: t) = py.lowerChars s ++ '%' :: py.lowerChars t := by
  have htext : String.ofList (s ++ '%' :: t) = String.ofList s ++ "%" ++ String.ofList t := by
    rw [← String.toList_inj]
    simp
  rw [Py.lowerChars, htext, laws.percent]
  simp [Py.lowerChars]

lemma lowerChars_eq_nil {s : List Char} (h : py.lowerChars s = []) : s = [] := by
  have hempty : py.lower (String.ofList s) = "" := String.toList_eq_nil_iff.mp h
  have hs := laws.empty _ hempty
  rw [← String.toList_inj, String.toList_ofList] at hs
  exact hs

end Py.CaseLaws

end ScholarshipFinder
