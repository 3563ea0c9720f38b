import Stencil.Value
import Stencil.Number.Shortest
import Stencil.Text.Hex
import Stencil.Unicode.Property

/-! The JSON text of a value, on one line or indented. Members are written in the order of their
names, so their order in the value does not show; numbers without a JSON form are written as
null. -/

namespace Stencil.Json

inductive Layout where
  | compact
  | pretty
deriving DecidableEq

namespace Layout

/-- What separates an opening bracket from the first item, items from each other, and the last item
from the closing bracket, besides the comma. -/
def lineBreak : Layout → Nat → List Char
  | compact, _ => []
  | pretty, level => '\n' :: List.replicate (2 * level) ' '

def colon : Layout → List Char
  | compact => [':']
  | pretty => [':', ' ']

end Layout

def escape (c : Char) : List Char :=
  if c = '"' then ['\\', '"']
  else if c = '\\' then ['\\', '\\']
  else if c = '\n' then ['\\', 'n']
  else if c = '\r' then ['\\', 'r']
  else if c = '\t' then ['\\', 't']
  else if Unicode.isControl c then '\\' :: 'u' :: Text.hex4 c.toNat
  else [c]

def quoted (s : String) : List Char :=
  '"' :: (s.toList.flatMap escape ++ ['"'])

def numeral (x : Float) : List Char :=
  if x.isFinite then Number.text x else "null".toList

def lines (layout : Layout) (level : Nat) : List (List Char) → List Char
  | [] => []
  | [text] => layout.lineBreak level ++ text
  | text :: rest => layout.lineBreak level ++ text ++ ',' :: lines layout level rest

def enclosed (layout : Layout) (level : Nat) (opening closing : Char) (texts : List (List Char)) :
    List Char :=
  if texts.isEmpty then [opening, closing]
  else opening :: (lines layout (level + 1) texts ++ layout.lineBreak level ++ [closing])

def byName {α : Type} (entries : List (String × α)) : List (String × α) :=
  entries.mergeSort fun a b => decide (a.1 ≤ b.1)

mutual

def print (layout : Layout) (level : Nat) : Value → List Char
  | .null => "null".toList
  | .bool b => (if b then "true" else "false").toList
  | .number x => numeral x
  | .string s => quoted s
  | .array items => enclosed layout level '[' ']' (printItems layout (level + 1) items)
  | .object members =>
    enclosed layout level '{' '}' <|
      (byName (printMembers layout (level + 1) members)).map fun (name, text) =>
        quoted name ++ layout.colon ++ text
termination_by structural value => value

def printItems (layout : Layout) (level : Nat) : List Value → List (List Char)
  | [] => []
  | value :: values => print layout level value :: printItems layout level values
termination_by structural values => values

def printMembers (layout : Layout) (level : Nat) :
    List (String × Value) → List (String × List Char)
  | [] => []
  | (name, value) :: rest => (name, print layout level value) :: printMembers layout level rest
termination_by structural members => members

end

def compact (value : Value) : String :=
  String.ofList (print .compact 0 value)

def pretty (value : Value) : String :=
  String.ofList (print .pretty 0 value)

end Stencil.Json
