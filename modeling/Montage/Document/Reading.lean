import Montage.Document.Layout
import Montage.Document.Scalar

/-! The value of a document. -/

namespace Montage.Document

/-- What is in the way of a value, and how deep inside of collections. Values are made
level by level, so that what lies less deep is found first. -/
structure Objection where
  level : Nat
  fault : Fault

abbrev Made (α : Type) := Except Objection α

namespace Made

def refuse (level : Nat) (fault : Fault) : Made α :=
  .error ⟨level, fault⟩

def ofExcept (level : Nat) (result : Except Fault α) : Made α :=
  result.mapError (⟨level, ·⟩)

/-- Two values that are made one after the other. Of two objections the less deep one is
found, and the first of two on one level. -/
def both : Made α → Made β → Made (α × β)
  | .ok first, .ok second => .ok (first, second)
  | .error first, .error second => .error (if second.level < first.level then second else first)
  | .error first, .ok _ => .error first
  | .ok _, .error second => .error second

end Made

abbrev MadeEntry := Made Value × Made Value

def asKey (level : Nat) (key : Made Value) : Made Value :=
  match key with
  | .ok value => if value.isFixed then .ok value else Made.refuse level .unreadable
  | .error objection =>
      if level < objection.level then Made.refuse level .unreadable else .error objection

def asMap (level : Nat) (entries : List MadeEntry) : Made (List (Value × Value)) :=
  entries.foldl (fun made (key, value) =>
    (Made.both (Made.both made (asKey level key)) value).map fun ((map, key), value) =>
      Value.put key value map) (.ok [])

mutual
def textOf? : Node → Option String
  | .scalar _ text => some text
  | .sequence .. => none
  | .mapping _ entries => defaultOf? entries

def defaultOf? : List (Node × Node) → Option String
  | [] => none
  | (key, value) :: rest => if key.tag = .default then textOf? value else defaultOf? rest
end

def textValue (tag : Tag) (text : Option String) : Except Fault Value :=
  match tag, text with
  | _, none => .error .unreadable
  | .moment, some _ => .error (.misfit .wrongKind)
  | tag, some text => scalarValue tag text

mutual
def make (level : Nat) : Node → Made Value
  | .scalar tag text =>
      Made.ofExcept (if tag.isCollection then level + 1 else level) (scalarValue tag text)
  | .sequence tag items =>
      match tag with
      | .list => (makeAll (level + 1) items).map .list
      | .orderedMap | .pairs => (makeSingles (level + 1) items).map .list
      | .map | .set => Made.refuse (level + 1) .unreadable
      | _ => Made.refuse level .unreadable
  | .mapping tag entries =>
      match tag with
      | .map | .set => do
          let (merged, own) ← Made.ofExcept (level + 1) (makeEntries (level + 1) entries)
          let map ← asMap (level + 1) (merged ++ own)
          return if tag = .map then .map map else .set (map.map Prod.fst)
      | .list | .orderedMap | .pairs => Made.refuse (level + 1) .unreadable
      | _ => Made.ofExcept level (textValue tag (defaultOf? entries))

def makeAll (level : Nat) : List Node → Made (List Value)
  | [] => .ok []
  | node :: rest =>
      (Made.both (make level node) (makeAll level rest)).map fun (first, others) => first :: others

def makeSingles (level : Nat) : List Node → Made (List Value)
  | [] => .ok []
  | .mapping _ [(key, value)] :: rest =>
      let entry := Made.both (make level key) (make level value)
      (Made.both entry (makeSingles level rest)).map fun ((key, value), others) =>
        .tuple [key, value] :: others
  | _ :: _ => Made.refuse level .unreadable

def makeEntries (level : Nat) :
    List (Node × Node) → Except Fault (List MadeEntry × List MadeEntry)
  | [] => .ok ([], [])
  | (key, value) :: rest => do
      let taken ← if key.tag = .merge then takeIn level value else pure []
      let (merged, own) ← makeEntries level rest
      let entry : MadeEntry := match key with
        | .scalar .default text => (.ok (.text text), make level value)
        | _ => (make level key, make level value)
      if key.tag = .merge then return (taken ++ merged, own) else return (merged, entry :: own)

def takeIn (level : Nat) : Node → Except Fault (List MadeEntry)
  | .mapping _ entries => do
      let (merged, own) ← makeEntries level entries
      return merged ++ own
  | .sequence _ items => takeInAll level items
  | .scalar .. => .error .unreadable

/-- The entries of several mappings, those of the last one first. -/
def takeInAll (level : Nat) : List Node → Except Fault (List MadeEntry)
  | [] => .ok []
  | .mapping _ entries :: rest => do
      let (merged, own) ← makeEntries level entries
      return (← takeInAll level rest) ++ merged ++ own
  | _ :: _ => .error .unreadable
end

/-- The characters that a document may hold: no control characters but those that end
lines and the tab, and no code that is no character. -/
def isAllowed (char : Char) : Bool :=
  let code := char.toNat
  char = '\t' || char = '\n' || (0x20 ≤ code && code < 0x7f) || char = '\u0085' ||
    (0xa0 ≤ code && code ≠ 0xfffe && code ≠ 0xffff)

def withNewlines : List Char → List Char
  | '\r' :: '\n' :: rest => '\n' :: withNewlines rest
  | '\r' :: rest => '\n' :: withNewlines rest
  | char :: rest => char :: withNewlines rest
  | [] => []

def valueOf (text : String) : Except Fault Value := do
  let chars := withNewlines text.toList
  if !chars.all isAllowed then throw .unreadable
  match ← tree? (← tokens chars) with
  | some node => (make 0 node).mapError Objection.fault
  | none => return .null

end Montage.Document
