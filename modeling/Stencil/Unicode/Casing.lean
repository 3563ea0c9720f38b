import Stencil.Unicode.CaseTables
import Stencil.Unicode.Property

/-! Capital and small forms of text, and the folding that ignores case. A small sigma at the end of
a word takes its final form. -/

namespace Stencil.Unicode

namespace CaseRun

def covers (run : CaseRun) (point : Nat) : Bool :=
  run.first ≤ point && point ≤ run.last && (point - run.first) % run.step == 0

def target (run : CaseRun) (point : Nat) : Nat :=
  (point + run.shift).toNat

end CaseRun

def shifted (runs : List CaseRun) (point : Nat) : Nat :=
  match runs.find? (·.covers point) with
  | some run => run.target point
  | none => point

def mapped (expansions : List (Nat × List Nat)) (runs : List CaseRun) (c : Char) : List Char :=
  match expansions.lookup c.toNat with
  | some points => points.map Char.ofNat
  | none => [Char.ofNat (shifted runs c.toNat)]

def upperOf (c : Char) : List Char :=
  mapped upperExpansions upperRuns c

def lowerOf (c : Char) : List Char :=
  mapped lowerExpansions lowerRuns c

def meetsCased (cs : List Char) : Bool :=
  match cs.dropWhile isCaseIgnorable with
  | [] => false
  | c :: _ => isCased c

/-- Small forms; `before` holds the characters already passed, nearest first. -/
def lowerAfter (before : List Char) : List Char → List Char
  | [] => []
  | c :: rest =>
    let small :=
      if c = 'Σ' then [if meetsCased before && !meetsCased rest then 'ς' else 'σ'] else lowerOf c
    small ++ lowerAfter (c :: before) rest

def toUpper (text : String) : String :=
  String.ofList (text.toList.flatMap upperOf)

def toLower (text : String) : String :=
  String.ofList (lowerAfter [] text.toList)

def fold (point : Nat) : Nat :=
  shifted foldRuns point

def caseVariants (point : Nat) : List Nat :=
  let representative := fold point
  let sources := foldRuns.filterMap fun run =>
    let source := ((representative : Int) - run.shift).toNat
    if run.covers source && run.target source == representative then some source else none
  representative :: sources

def trim (text : String) : String :=
  let inner := text.toList.dropWhile isWhiteSpace
  String.ofList (inner.reverse.dropWhile isWhiteSpace).reverse

end Stencil.Unicode
