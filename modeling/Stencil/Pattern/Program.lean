import Stencil.Pattern.Parser

/-! Patterns as programs. A program is a row of steps that is run from its front, and running past
its end is a match. Steps refer to each other by their distance, so the steps of a pattern do not
depend on where they stand. -/

namespace Stencil.Pattern

inductive Step where
  | read (members : CharSet)
  | check (condition : Anchor)
  | mark (slot : Nat)
  | jump (distance : Int)
  | branch (distance : Int) (prefersNext : Bool)

def takesText : Pattern → Bool
  | empty => false
  | oneOf _ => true
  | holds _ => false
  | seq first second => first.takesText || second.takesText
  | either first second => first.takesText && second.takesText
  | repeated item least _ _ => decide (0 < least) && item.takesText
  | group _ item => item.takesText

/-! The steps of repetitions, given those of the repeated item. -/

def stepsOfSome (item : List Step) (greedy : Bool) : List Step :=
  item ++ [.branch (-item.length) (!greedy)]

/-- An item that may take no text is tried once, and only then repeated. -/
def stepsOfMany (item : List Step) (itemTakesText greedy : Bool) : List Step :=
  .branch (item.length + 2) greedy ::
    if itemTakesText then item ++ [.jump (-(item.length + 1))] else stepsOfSome item greedy

def stepsOfTimes (item : List Step) (count : Nat) : List Step :=
  (List.replicate count item).flatten

def stepsOfAtMost (item : List Step) (greedy : Bool) : Nat → List Step
  | 0 => []
  | count + 1 =>
    .branch ((count + 1) * (item.length + 1)) greedy :: (item ++ stepsOfAtMost item greedy count)

def stepsOfRepeated (item : List Step) (itemTakesText : Bool) (least : Nat) (extra : Option Nat)
    (greedy : Bool) : List Step :=
  match extra, least with
  | some extra, least => stepsOfTimes item least ++ stepsOfAtMost item greedy extra
  | none, 0 => stepsOfMany item itemTakesText greedy
  | none, least + 1 => stepsOfTimes item least ++ stepsOfSome item greedy

def startSlot (index : Nat) : Nat := 2 * index

def endSlot (index : Nat) : Nat := 2 * index + 1

def steps : Pattern → List Step
  | empty => []
  | oneOf members => [.read members]
  | holds condition => [.check condition]
  | seq first second => first.steps ++ second.steps
  | either first second =>
    .branch (first.steps.length + 2) true ::
      (first.steps ++ .jump (second.steps.length + 1) :: second.steps)
  | repeated item least extra greedy =>
    stepsOfRepeated item.steps item.takesText least extra greedy
  | group index item => .mark (startSlot index) :: (item.steps ++ [.mark (endSlot index)])

def size : Pattern → Nat
  | empty => 0
  | oneOf _ => 1
  | holds _ => 1
  | seq first second => first.size + second.size
  | either first second => first.size + second.size + 2
  | repeated item least (some extra) _ => least * item.size + extra * (item.size + 1)
  | repeated item 0 none _ => item.size + 2
  | repeated item (least + 1) none _ => (least + 1) * item.size + 1
  | group _ item => item.size + 2

def maxSize : Nat := 327680

structure Compiled where
  program : Array Step
  names : List (String × Nat)

def compile (text : String) : Except PatternError Compiled := do
  let parsed ← parse text
  if maxSize < parsed.pattern.size then throw .tooLarge
  return ⟨parsed.pattern.steps.toArray, parsed.names⟩

end Stencil.Pattern
