/-! Places in a template source. -/

namespace Stencil.Source

/-- Line and column count from one, the offset counts characters from zero. -/
structure Position where
  line : Nat
  column : Nat
  offset : Nat
deriving DecidableEq

namespace Position

def start : Position := ⟨1, 1, 0⟩

def next (position : Position) (c : Char) : Position :=
  if c = '\n' then ⟨position.line + 1, 1, position.offset + 1⟩
  else ⟨position.line, position.column + 1, position.offset + 1⟩

def after (position : Position) (text : List Char) : Position :=
  text.foldl next position

def describe (position : Position) : String :=
  s!"line {position.line}, column {position.column}"

theorem after_append (position : Position) (first second : List Char) :
    position.after (first ++ second) = (position.after first).after second := by
  simp [after]

theorem offset_after (position : Position) (text : List Char) :
    (position.after text).offset = position.offset + text.length := by
  induction text generalizing position with
  | nil => simp [after]
  | cons c rest step =>
    have moved : (position.next c).offset = position.offset + 1 := by
      unfold next
      split <;> rfl
    have tail := step (position.next c)
    simp only [after, List.foldl_cons, List.length_cons] at tail ⊢
    omega

end Position

end Stencil.Source
