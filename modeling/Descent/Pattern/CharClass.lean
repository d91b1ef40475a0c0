import Descent.Pattern.Tree
import Descent.Unicode.Age
import Descent.Unicode.Case
import Descent.Unicode.Category
import Descent.Unicode.GraphemeBreak
import Descent.Unicode.Property
import Descent.Unicode.Script
import Descent.Unicode.SentenceBreak
import Descent.Unicode.WordBreak

/-!
# Classes of characters by name

* `CharClass.ascii`: the classes of ASCII characters that have a name in brackets
* `CharClass.digits`, `spaces`, `wordChars`: the classes that one letter names, over Unicode
* `CharClass.ofQuery?`: the characters that have a Unicode property
-/

namespace Descent.Pattern.CharClass

/-! ## ASCII -/

/-- A class of ASCII characters by its name; nothing under a name that is no class. -/
def ascii : String → CodeSet
  | "alnum" => .ofRanges [(0x30, 0x39), (0x41, 0x5a), (0x61, 0x7a)]
  | "alpha" => .ofRanges [(0x41, 0x5a), (0x61, 0x7a)]
  | "ascii" => .range 0 0x7f
  | "blank" => .ofRanges [(0x09, 0x09), (0x20, 0x20)]
  | "cntrl" => .ofRanges [(0, 0x1f), (0x7f, 0x7f)]
  | "digit" => .range 0x30 0x39
  | "graph" => .range 0x21 0x7e
  | "lower" => .range 0x61 0x7a
  | "print" => .range 0x20 0x7e
  | "punct" => .ofRanges [(0x21, 0x2f), (0x3a, 0x40), (0x5b, 0x60), (0x7b, 0x7e)]
  | "space" => .ofRanges [(0x09, 0x0d), (0x20, 0x20)]
  | "upper" => .range 0x41 0x5a
  | "word" => .ofRanges [(0x30, 0x39), (0x41, 0x5a), (0x5f, 0x5f), (0x61, 0x7a)]
  | "xdigit" => .ofRanges [(0x30, 0x39), (0x41, 0x46), (0x61, 0x66)]
  | _ => .empty

def asciiWord : CodeSet := ascii "word"

/-- The ASCII part of a class that one letter names. -/
def asciiShorthand : Shorthand → CodeSet
  | .digit => ascii "digit"
  | .space => ascii "space"
  | .word => ascii "word"

/-! ## Unicode -/

def digits : CodeSet := Category.members (· = .decimalNumber)

def spaces : CodeSet := Property.whiteSpace

/-- Letters, marks, decimal digits, connectors and joiners. -/
def wordChars : CodeSet :=
  (Category.members fun c => c.isMark || c = .decimalNumber || c = .connectorPunctuation).union
    (Property.alphabetic.union Property.joinControl)

def shorthand : Shorthand → CodeSet
  | .digit => digits
  | .space => spaces
  | .word => wordChars

def everything : CodeSet := .range 0 CodeSet.lastChar

/-! ## Properties -/

/-- Names are compared without case, blanks, hyphens and underscores, and without `is` in front. -/
def normalName (s : String) : String :=
  let keep (cs : List Char) : List Char :=
    (cs.filter fun c => c ≠ ' ' && c ≠ '_' && c ≠ '-' && c.toNat < 128).map Char.toLower
  match s.toList with
  | i :: s' :: rest =>
    if i.toLower = 'i' ∧ s'.toLower = 's' then
      if keep rest = ['c'] then "isc" else String.ofList (keep rest)
    else String.ofList (keep s.toList)
  | cs => String.ofList (keep cs)

/-- What a normal name stands for, among spellings. -/
def named? (names : List (String × String)) (name : String) : Option String :=
  (names.find? fun n => normalName n.1 = name).map (·.2)

/-- The spellings of the general categories and of the groups that they form, each with abbreviations. A pattern
cannot ask for surrogates, which are no characters. -/
def categoryNames : List (String × List String) :=
  [("other", ["Cc", "Cf", "Cn", "Co", "Cs"]), ("c", ["Cc", "Cf", "Cn", "Co", "Cs"]),
   ("control", ["Cc"]), ("cntrl", ["Cc"]), ("cc", ["Cc"]), ("format", ["Cf"]), ("cf", ["Cf"]),
   ("unassigned", ["Cn"]), ("cn", ["Cn"]), ("privateuse", ["Co"]), ("co", ["Co"]),
   ("letter", ["Ll", "Lm", "Lo", "Lt", "Lu"]), ("l", ["Ll", "Lm", "Lo", "Lt", "Lu"]),
   ("casedletter", ["Ll", "Lt", "Lu"]), ("lc", ["Ll", "Lt", "Lu"]),
   ("lowercaseletter", ["Ll"]), ("ll", ["Ll"]), ("modifierletter", ["Lm"]), ("lm", ["Lm"]),
   ("otherletter", ["Lo"]), ("lo", ["Lo"]), ("titlecaseletter", ["Lt"]), ("lt", ["Lt"]),
   ("uppercaseletter", ["Lu"]), ("lu", ["Lu"]),
   ("mark", ["Mc", "Me", "Mn"]), ("combiningmark", ["Mc", "Me", "Mn"]), ("m", ["Mc", "Me", "Mn"]),
   ("spacingmark", ["Mc"]), ("mc", ["Mc"]), ("enclosingmark", ["Me"]), ("me", ["Me"]),
   ("nonspacingmark", ["Mn"]), ("mn", ["Mn"]),
   ("number", ["Nd", "Nl", "No"]), ("n", ["Nd", "Nl", "No"]),
   ("decimalnumber", ["Nd"]), ("digit", ["Nd"]), ("nd", ["Nd"]), ("letternumber", ["Nl"]), ("nl", ["Nl"]),
   ("othernumber", ["No"]), ("no", ["No"]),
   ("punctuation", ["Pc", "Pd", "Pe", "Pf", "Pi", "Po", "Ps"]), ("punct", ["Pc", "Pd", "Pe", "Pf", "Pi", "Po", "Ps"]),
   ("p", ["Pc", "Pd", "Pe", "Pf", "Pi", "Po", "Ps"]),
   ("connectorpunctuation", ["Pc"]), ("pc", ["Pc"]), ("dashpunctuation", ["Pd"]), ("pd", ["Pd"]),
   ("closepunctuation", ["Pe"]), ("pe", ["Pe"]), ("finalpunctuation", ["Pf"]), ("pf", ["Pf"]),
   ("initialpunctuation", ["Pi"]), ("pi", ["Pi"]), ("otherpunctuation", ["Po"]), ("po", ["Po"]),
   ("openpunctuation", ["Ps"]), ("ps", ["Ps"]),
   ("symbol", ["Sc", "Sk", "Sm", "So"]), ("s", ["Sc", "Sk", "Sm", "So"]),
   ("currencysymbol", ["Sc"]), ("sc", ["Sc"]), ("modifiersymbol", ["Sk"]), ("sk", ["Sk"]),
   ("mathsymbol", ["Sm"]), ("sm", ["Sm"]), ("othersymbol", ["So"]), ("so", ["So"]),
   ("separator", ["Zl", "Zp", "Zs"]), ("z", ["Zl", "Zp", "Zs"]),
   ("lineseparator", ["Zl"]), ("zl", ["Zl"]), ("paragraphseparator", ["Zp"]), ("zp", ["Zp"]),
   ("spaceseparator", ["Zs"]), ("zs", ["Zs"])]

/-- The members of a general category, or of a group of them, by a normal name. -/
def category? (name : String) : Option CodeSet :=
  match name with
  | "any" => some everything
  | "ascii" => some (ascii "ascii")
  | "assigned" => some (Category.members (· ≠ .unassigned))
  | _ => (categoryNames.lookup name).map fun cs => Category.members fun c => cs.contains c.abbreviation

/-- The members of a script, by a normal name. -/
def script? (name : String) : Option CodeSet := (named? Script.names name).map Script.members

/-- The characters that have a binary property, by a normal name. -/
def property? (name : String) : Option CodeSet := (named? Property.names name).bind Property.members?

/-- Some abbreviations name a category although a property has them too. -/
def isCategoryFirst (name : String) : Bool := ["cf", "sc", "lc"].contains name

/-- The characters that a query asks for, if its names are known. -/
def ofQuery? : PropertyQuery → Option CodeSet
  | .named s =>
    let name := normalName s
    match if isCategoryFirst name then none else property? name with
    | some set => some set
    | none =>
      match category? name with
      | some set => some set
      | none => script? name
  | .valued p v =>
    let value := normalName v
    match normalName p with
    | "gc" | "generalcategory" => category? value
    | "sc" | "script" => script? value
    | "scx" | "scriptextensions" => (named? Script.names value).map Script.extended
    | "age" => (named? Age.names value).map Age.members
    | "gcb" | "graphemeclusterbreak" => (named? GraphemeBreak.names value).map GraphemeBreak.members
    | "wb" | "wordbreak" => (named? WordBreak.names value).map WordBreak.members
    | "sb" | "sentencebreak" => (named? SentenceBreak.names value).map SentenceBreak.members
    | _ => none

end Descent.Pattern.CharClass
