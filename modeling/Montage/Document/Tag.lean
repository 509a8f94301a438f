import Montage.Document.Date

/-! What a part of a document is: the tags that are known, and the one of a plain text,
which its spelling decides. -/

namespace Montage.Document

inductive Tag where
  | null
  | bool
  | int
  | float
  | text
  | binary
  | moment
  | list
  | map
  | orderedMap
  | pairs
  | set
  | merge
  | default
  | unknown
  deriving DecidableEq, Repr

namespace Tag

def family : String := "tag:yaml.org,2002:"

def known : List (String × Tag) :=
  [("null", null), ("bool", bool), ("int", int), ("float", float), ("str", text),
    ("binary", binary), ("timestamp", moment), ("seq", list), ("map", map),
    ("omap", orderedMap), ("pairs", pairs), ("set", set), ("merge", merge),
    ("value", default)]

def ofName (name : String) : Tag :=
  ((known.map fun (last, tag) => (family ++ last, tag)).lookup name).getD unknown

def isCollection : Tag → Bool
  | .list | .map | .orderedMap | .pairs | .set => true
  | _ => false

/-! ## Spellings -/

def isOneOf (words : List String) (text : List Char) : Bool :=
  words.contains (String.ofList text)

def areSome (kind : Char → Bool) (text : List Char) : Bool :=
  !text.isEmpty && text.all kind

def betweenColons : List Char → List (List Char)
  | [] => [[]]
  | ':' :: rest => [] :: betweenColons rest
  | char :: rest =>
      match betweenColons rest with
      | [] => [[char]]
      | first :: others => (char :: first) :: others

def isSign (char : Char) : Bool :=
  char = '+' || char = '-'

def unsigned (text : List Char) : List Char :=
  if text.head?.any isSign then text.drop 1 else text

def isDigitOrLine (char : Char) : Bool :=
  char.isDigit || char = '_'

def isDigits (text : List Char) : Bool :=
  text.head?.any Char.isDigit && text.all isDigitOrLine

def isSixtieth : List Char → Bool
  | [digit] => digit.isDigit
  | [tens, digit] => '0' ≤ tens && tens ≤ '5' && digit.isDigit
  | _ => false

def areSixtieths (pieces : List (List Char)) : Bool :=
  !pieces.isEmpty && pieces.all isSixtieth

def spellsInteger (text : List Char) : Bool :=
  match unsigned text with
  | ['0'] => true
  | '0' :: 'b' :: digits => areSome (fun char => char = '0' || char = '1' || char = '_') digits
  | '0' :: 'x' :: digits =>
      areSome (fun char => isDigitOrLine char || ('a' ≤ char && char ≤ 'f') ||
        ('A' ≤ char && char ≤ 'F')) digits
  | '0' :: digits => areSome (fun char => ('0' ≤ char && char ≤ '7') || char = '_') digits
  | body =>
      match betweenColons body with
      | first :: others => isDigits first && others.all isSixtieth
      | [] => false

def isPower : List Char → Bool
  | [] => true
  | mark :: sign :: digits =>
      (mark = 'e' || mark = 'E') && isSign sign && areSome Char.isDigit digits
  | _ => false

def isFraction (text : List Char) : Bool :=
  isPower (text.dropWhile isDigitOrLine)

/-- A number with a point, in decimal or in sixtieths, or an infinity or the undefined
number. A number that begins with its point has no sign and a digit after the point. -/
def spellsFloat (text : List Char) : Bool :=
  let body := unsigned text
  let whole := body.takeWhile (· != '.')
  let fraction := (body.dropWhile (· != '.')).drop 1
  let hasPoint := body.contains '.'
  let inDecimal := isDigits whole && isFraction fraction
  let fromPoint := whole.isEmpty && body == text && fraction.head?.any Char.isDigit &&
    isFraction fraction
  let inSixtieths := match betweenColons whole with
    | first :: others => isDigits first && areSixtieths others && fraction.all isDigitOrLine
    | [] => false
  (hasPoint && (inDecimal || fromPoint || inSixtieths)) ||
    isOneOf [".inf", ".Inf", ".INF"] body || isOneOf [".nan", ".NaN", ".NAN"] text

def spellsBool (text : List Char) : Bool :=
  isOneOf ["yes", "Yes", "YES", "no", "No", "NO", "true", "True", "TRUE", "false", "False",
    "FALSE", "on", "On", "ON", "off", "Off", "OFF"] text

def ofSpelling (text : List Char) : Tag :=
  let body := if text.getLast? = some '\n' then text.dropLast else text
  if spellsBool body then bool
  else if spellsFloat body then float
  else if spellsInteger body then int
  else if isOneOf ["<<"] body then merge
  else if isOneOf ["", "~", "null", "Null", "NULL"] body then null
  else if spellsMoment body then moment
  else if isOneOf ["="] body then default
  else if isOneOf ["!", "&", "*"] body then unknown
  else Tag.text

example : ofSpelling "1_0".toList = int ∧ ofSpelling "1e3".toList = text ∧
    ofSpelling "1:30.5".toList = float ∧ ofSpelling "2024-01-01".toList = moment := by
  decide +kernel

end Tag

end Montage.Document
