import Stencil.Proofs.Json.Grammar
import Stencil.Query.Grammar

/-! The grammar of queries: which texts mean which segments. -/

namespace Stencil.Query

open Json (Digits)
open Number (digitsValue)

def Spaces (text : List Char) : Prop :=
  ∀ c ∈ text, c = ' '

inductive IntegerText : List Char → Int → Prop
  | plain {digits} : Digits digits → fits (digitsValue digits) = true →
      IntegerText digits (digitsValue digits)
  | negative {digits} : Digits digits → fits (-digitsValue digits) = true →
      IntegerText ('-' :: digits) (-digitsValue digits)

inductive BoundText : List Char → Option Int → Prop
  | missing {spaces} : Spaces spaces → BoundText spaces none
  | given {before text n after} : Spaces before → IntegerText text n → Spaces after →
      BoundText (before ++ (text ++ after)) (some n)

inductive StepText : List Char → { step : Nat // 0 < step } → Prop
  | missing : StepText [] ⟨1, Nat.one_pos⟩
  | omitted {text} : BoundText text none → StepText (':' :: text) ⟨1, Nat.one_pos⟩
  | given {text step} : BoundText text (some (step.val : Int)) → StepText (':' :: text) step

/-- The characters of a name up to and including the closing quote. -/
inductive QuotedText (quote : Char) : List Char → List Char → Prop
  | close : QuotedText quote [quote] []
  | plain {c text name} : c ≠ quote → c ≠ '\\' → QuotedText quote text name →
      QuotedText quote (c :: text) (c :: name)
  | literal {c text name} : QuotedText quote text name →
      QuotedText quote ('\\' :: c :: text) (c :: name)

inductive SelectorText : List Char → Selector → Prop
  | wildcard : SelectorText ['*'] .wildcard
  | name {quote text name} : quote = '\x27' ∨ quote = '"' → QuotedText quote text name →
      SelectorText (quote :: text) (.name (String.ofList name))
  | index {text n} : IntegerText text n → SelectorText text (.index n)
  | slice {first last size start stop step} : BoundText first start → BoundText last stop →
      StepText size step → SelectorText (first ++ ':' :: (last ++ size)) (.slice start stop step)

inductive BracketText : List Char → List Selector → Prop
  | last {before text after selector} : Spaces before → SelectorText text selector →
      Spaces after → BracketText (before ++ (text ++ (after ++ [']']))) [selector]
  | more {before text after rest selector selectors} : Spaces before →
      SelectorText text selector → Spaces after → BracketText rest selectors →
      BracketText (before ++ (text ++ (after ++ ',' :: rest))) (selector :: selectors)

inductive DottedText : List Char → Selector → Prop
  | wildcard : DottedText ['*'] .wildcard
  | name {text} : text ≠ [] → (∀ c ∈ text, isMemberCharacter c = true) →
      DottedText text (.name (String.ofList text))

inductive SegmentText : List Char → Segment → Prop
  | dotted {text selector} : DottedText text selector →
      SegmentText ('.' :: text) (.child [selector])
  | deepDotted {text selector} : DottedText text selector →
      SegmentText ('.' :: '.' :: text) (.descendant [selector])
  | bracket {text selectors} : BracketText text selectors →
      SegmentText ('[' :: text) (.child selectors)
  | deepBracket {text selectors} : BracketText text selectors →
      SegmentText ('.' :: '.' :: '[' :: text) (.descendant selectors)

inductive SegmentsText : List Char → List Segment → Prop
  | nil : SegmentsText [] []
  | cons {text rest segment segments} : SegmentText text segment → SegmentsText rest segments →
      SegmentsText (text ++ rest) (segment :: segments)

end Stencil.Query
