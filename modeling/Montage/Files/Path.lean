/-! Paths as texts: their parts, and what can be said of them without looking at files. -/

namespace Montage

/-- A path: what it starts from (nothing, the root, or the second root that two slashes
name) and the names on the way. Empty names and single points are left out. -/
structure Path where
  root : String
  parts : List String
  deriving DecidableEq, Repr

namespace Path

def pieces : List Char → List (List Char)
  | [] => [[]]
  | '/' :: rest => [] :: pieces rest
  | char :: rest =>
      match pieces rest with
      | [] => [[char]]
      | first :: more => (char :: first) :: more

def isPart (piece : List Char) : Bool :=
  !piece.isEmpty && piece != ['.']

/-- Exactly two slashes in front name a root of their own; any other number names the
root. -/
def rootOf (text : List Char) : String :=
  match (text.takeWhile (· == '/')).length with
  | 0 => ""
  | 2 => "//"
  | _ => "/"

def ofText (text : String) : Path where
  root := rootOf text.toList
  parts := ((pieces text.toList).filter isPart).map String.ofList

/-- The path as it is spelled: single points are kept, and a slash at the end counts as
one, so that only directories have what is behind them. -/
def ofSpelling (text : String) : Path where
  root := rootOf text.toList
  parts :=
    let names := (pieces text.toList).filter (!·.isEmpty)
    let last := if text.toList.getLast? = some '/' then [['.']] else []
    (names ++ last).map String.ofList

example : (ofSpelling "a/./b/").parts = ["a", ".", "b", "."] := by decide +kernel

def text (path : Path) : String :=
  let joined := path.root ++ "/".intercalate path.parts
  if joined.isEmpty then "." else joined

example : (ofText "//a/./b//c/").text = "//a/b/c" := by decide +kernel
example : (ofText "").text = "." := by decide +kernel

def parent (path : Path) : Path :=
  { path with parts := path.parts.dropLast }

def join (base path : Path) : Path :=
  if path.root.isEmpty then { base with parts := base.parts ++ path.parts } else path

def child (base : Path) (name : String) : Path :=
  base.join (ofText name)

def resolved (parts : List String) : List String :=
  parts.foldl (fun (reached : List String) part =>
    if part = ".." then reached.dropLast else reached ++ [part]) []

example : resolved ["a", "..", "..", "b", "c"] = ["b", "c"] := by decide

def absolute (path : Path) (workingPlace : List String) : List String :=
  if path.root.isEmpty then workingPlace ++ path.parts else path.parts

def resolve (path : Path) (workingPlace : List String) : Path where
  root := "/"
  parts := resolved (path.absolute workingPlace)

end Path

end Montage
