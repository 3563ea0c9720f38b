import Stencil.Pattern.Program

/-! Running programs over a text. All threads of a run move on together, one character at a time, and
those that are preferred come first. Of all matches the leftmost one is found, and among those the
one whose thread is preferred. -/

namespace Stencil.Pattern

structure Gap where
  position : Nat
  before : Option Char
  after : Option Char

structure Thread where
  place : Nat
  start : Nat
  marks : List (Nat × Nat)

namespace Thread

def first (start : Nat) : Thread := ⟨0, start, []⟩

def next (thread : Thread) : Thread :=
  { thread with place := thread.place + 1 }

def move (thread : Thread) (distance : Int) : Thread :=
  { thread with place := (thread.place + distance).toNat }

def mark (thread : Thread) (slot position : Nat) : Thread :=
  { thread with marks := (slot, position) :: thread.marks }

end Thread

/-- The threads that wait for a character or have matched, last first, and all places of the program
that were passed on the way to them. -/
structure Reached where
  waiting : List Thread
  passed : List Nat

def Reached.pass (reached : Reached) (place : Nat) : Reached :=
  { reached with passed := place :: reached.passed }

def Reached.wait (reached : Reached) (thread : Thread) : Reached :=
  { reached with waiting := thread :: reached.waiting }

section

variable (program : Array Step)

/-- Follows a thread as far as it gets without a character. No place is passed twice, so the threads
that get there first are the ones that count, and the size of the program bounds the `fuel`. -/
def reach (gap : Gap) : Nat → Reached → Thread → Reached
  | 0, reached, _ => reached
  | fuel + 1, reached, thread =>
    if reached.passed.contains thread.place then reached
    else
      let passed := reached.pass thread.place
      match program[thread.place]? with
      | none => passed.wait thread
      | some (.read _) => passed.wait thread
      | some (.check condition) =>
        if condition.holds gap.before gap.after then reach gap fuel passed thread.next else passed
      | some (.mark slot) => reach gap fuel passed (thread.mark slot gap.position).next
      | some (.jump distance) => reach gap fuel passed (thread.move distance)
      | some (.branch distance prefersNext) =>
        if prefersNext then
          reach gap fuel (reach gap fuel passed thread.next) (thread.move distance)
        else reach gap fuel (reach gap fuel passed (thread.move distance)) thread.next

def settle (gap : Gap) (threads : List Thread) : List Thread :=
  (threads.foldl (reach program gap (program.size + 1)) ⟨[], []⟩).waiting.reverse

def hasMatched (thread : Thread) : Bool :=
  decide (program.size ≤ thread.place)

def read? (c : Char) (thread : Thread) : Option Thread :=
  match program[thread.place]? with
  | some (.read members) => if members c then some thread.next else none
  | _ => none

end

structure Match where
  start : Nat
  stop : Nat
  marks : List (Nat × Nat)

def Match.group? (found : Match) (index : Nat) : Option (Nat × Nat) := do
  if index = 0 then return (found.start, found.stop)
  return (← found.marks.lookup (startSlot index), ← found.marks.lookup (endSlot index))

/-- Runs threads on. A thread that has matched ends those behind it. As long as nothing is found,
every place of the text starts a thread of its own, which is preferred to none of the others. -/
def run (program : Array Step) (position : Nat) (threads : List Thread) (found : Option Match) :
    List Char → Option Match
  | [] => finished
  | c :: rest =>
    let moved := (threads.takeWhile fun thread => !hasMatched program thread).filterMap
      (read? program c)
    let threads := if finished.isNone then moved ++ [.first (position + 1)] else moved
    if threads.isEmpty then finished
    else
      let gap : Gap := ⟨position + 1, some c, rest.head?⟩
      run program (position + 1) (settle program gap threads) finished rest
where
  finished : Option Match :=
    match threads.find? (hasMatched program) with
    | some thread => some ⟨thread.start, position, thread.marks⟩
    | none => found

def search (program : Array Step) (position : Nat) (before : Option Char) (rest : List Char) :
    Option Match :=
  run program position (settle program ⟨position, before, rest.head?⟩ [.first position]) none rest

def Compiled.isMatch (compiled : Compiled) (text : String) : Bool :=
  (search compiled.program 0 none text.toList).isSome

end Stencil.Pattern
