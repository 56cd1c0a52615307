import ScholarshipFinder.Domain.FactMatching

/-!
# Identity keys (`domain/normalization.py`)

The identity key of a discovery is the sorted set of the words of its title, once the title is
reduced to base letters.
-/

namespace ScholarshipFinder

open Lib

/-- The Unicode tables that the folding of a title reads. -/
structure UnicodeText where
  /-- `unicodedata.normalize("NFKD", value)` -/
  nfkd : String → String
  /-- whether `unicodedata.combining` is not 0 -/
  combining : Char → Bool
  /-- `str.casefold` -/
  casefold : String → String

structure NormalizedDiscovery where
  title : String
  identityKey : String
  tokens : List String
deriving DecidableEq, Repr

/-- `_INVISIBLE`: characters that are invisible when rendered but split a word. -/
def invisible : List Char :=
  [Char.ofNat 0xad, Char.ofNat 0x200b, Char.ofNat 0x200c, Char.ofNat 0x200d, Char.ofNat 0xfeff]

/-- `_INDIVISIBLE`: letters that are not a base with a combining mark. -/
def indivisible : List (Char × String) := [
  ('ł', "l"), ('Ł', "L"), ('ø', "o"), ('Ø', "O"), ('đ', "d"), ('Đ', "D"), ('æ', "ae"), ('Æ', "AE"),
  ('œ', "oe"), ('Œ', "OE"), ('þ', "th"), ('Þ', "TH"), ('ð', "d"), ('Ð', "D"), ('ß', "ss")]

variable (py : PyText) (unicode : UnicodeText)

/-- Strip invisibles and reduce accented letters to their base form. -/
def fold (value : String) : String :=
  let visible := value.toList.filter fun c => !invisible.contains c
  let stripped := visible.flatMap fun c => ((indivisible.lookup c).map String.toList).getD [c]
  String.ofList ((unicode.nfkd (String.ofList stripped)).toList.filter fun c =>
    !unicode.combining c)

/-- `re.sub(r"\s+", " ", fold(value).strip()).casefold()` -/
def cleanText (value : String) : String :=
  unicode.casefold (String.ofList (Pattern.replaceAll (.many1 py.isspace) (fun _ => [' '])
    (py.strip (fold unicode value)).toList))

/-- `[a-z0-9]` -/
def isTokenChar (c : Char) : Bool := ('a' ≤ c && c ≤ 'z') || ('0' ≤ c && c ≤ '9')

def normalizeDiscovery (title : String) (provider : Option String := none) :
    NormalizedDiscovery :=
  let cleanTitle := cleanText py unicode title
  let cleanProvider := cleanText py unicode (provider.getD "")
  let words := Pattern.findAll (.many1 isTokenChar) (cleanProvider ++ " " ++ cleanTitle).toList
  let tokens := sortedSet (words.map String.ofList)
  { title := cleanTitle, identityKey := "|".intercalate tokens, tokens := tokens }

end ScholarshipFinder
