import Stencil.Unicode.Casing

/-! Search patterns: what a text has to look like at one place. -/

namespace Stencil

abbrev CharSet := Char → Bool

namespace CharSet

def range (first last : Char) : CharSet :=
  fun c => first ≤ c && c ≤ last

def ignoringCase (set : CharSet) : CharSet :=
  fun c => set c || (Unicode.caseVariants c.toNat).any fun point => set (Char.ofNat point)

end CharSet

inductive Anchor where
  | textStart
  | textEnd
  | lineStart
  | lineEnd
  | returnLineStart
  | returnLineEnd
  | wordBoundary (isWord : CharSet)
  | noWordBoundary (isWord : CharSet)
  | wordStart (isWord : CharSet)
  | wordEnd (isWord : CharSet)
  | wordStartHalf (isWord : CharSet)
  | wordEndHalf (isWord : CharSet)

inductive Pattern where
  | empty
  | oneOf (members : CharSet)
  | holds (condition : Anchor)
  | seq (first second : Pattern)
  | either (first second : Pattern)
  /-- At least `least` times; `extra` more times at most, without bound when it is missing. A greedy
  repetition prefers more times to fewer. -/
  | repeated (item : Pattern) (least : Nat) (extra : Option Nat) (greedy : Bool)
  | group (index : Nat) (item : Pattern)
deriving Inhabited

namespace Anchor

def holds (anchor : Anchor) (before after : Option Char) : Bool :=
  let isIn (isWord : CharSet) (c : Option Char) : Bool := (c.map isWord).getD false
  match anchor with
  | textStart => before.isNone
  | textEnd => after.isNone
  | lineStart => before.isNone || before == some '\n'
  | lineEnd => after.isNone || after == some '\n'
  | returnLineStart =>
    before.isNone || before == some '\n' || (before == some '\r' && after != some '\n')
  | returnLineEnd =>
    after.isNone || after == some '\r' || (after == some '\n' && before != some '\r')
  | wordBoundary isWord => isIn isWord before != isIn isWord after
  | noWordBoundary isWord => isIn isWord before == isIn isWord after
  | wordStart isWord => !isIn isWord before && isIn isWord after
  | wordEnd isWord => isIn isWord before && !isIn isWord after
  | wordStartHalf isWord => !isIn isWord before
  | wordEndHalf isWord => !isIn isWord after

end Anchor

end Stencil
