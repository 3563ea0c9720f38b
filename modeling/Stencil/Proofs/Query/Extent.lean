import Mathlib
import Stencil.Proofs.Query.Segments
import Stencil.Proofs.Scanning

/-! How far a query goes in a template source. The scanner of tokens looks for its end without
reading the segments; it stops early at a member name behind dots that is no plain name, and
nowhere else. -/

namespace Stencil.Query

open Source (QueryPart queryLength isNameCharacter Lexed Position Token)

/-- The scanner goes on through a whole text, from one part of a query to another. -/
def Passes (part : QueryPart) (text : List Char) (last : QueryPart) : Prop :=
  text.foldlM QueryPart.step part = some last

theorem passes_nil {part last : QueryPart} : Passes part [] last ↔ part = last := by
  simp [Passes]

theorem passes_cons {part last : QueryPart} {c : Char} {text : List Char} :
    Passes part (c :: text) last ↔ ∃ next, part.step c = some next ∧ Passes next text last := by
  simp [Passes, List.foldlM_cons, Option.bind_eq_some_iff]

theorem passes_append {part last : QueryPart} {first second : List Char} :
    Passes part (first ++ second) last ↔
      ∃ middle, Passes part first middle ∧ Passes middle second last := by
  simp [Passes, List.foldlM_append, Option.bind_eq_some_iff]

theorem queryLength_cons (part : QueryPart) (c : Char) (rest : List Char) :
    queryLength part (c :: rest) = match part.step c with
      | none => some 0
      | some next => (queryLength next rest).map (· + 1) := by
  cases part <;> rfl

theorem Passes.queryLength_append {part last : QueryPart} {text : List Char}
    (passes : Passes part text last) (behind : List Char) :
    queryLength part (text ++ behind) = (queryLength last behind).map (· + text.length) := by
  induction text generalizing part with
  | nil =>
      obtain rfl := passes_nil.mp passes
      simp
  | cons c rest ih =>
      obtain ⟨next, step, passes⟩ := passes_cons.mp passes
      rw [List.cons_append, queryLength_cons, step]
      simp only [ih passes, Option.map_map]
      congr 1

def EndsQuery (text : List Char) : Prop :=
  ∀ c ∈ text.head?, c ≠ '.' ∧ c ≠ '*' ∧ c ≠ '[' ∧ isNameCharacter c = false

theorem EndsQuery.queryLength {text : List Char} (ends : EndsQuery text) :
    Source.queryLength .bare text = some 0 := by
  cases text with
  | nil => rfl
  | cons c rest =>
      obtain ⟨noDot, noStar, noBracket, noName⟩ := ends c rfl
      simp [queryLength_cons, QueryPart.step, noDot, noStar, noBracket, noName]

theorem endsQuery_of_step {part : QueryPart} {c : Char} (rest : List Char)
    (stuck : part.step c = none) : part = .bare ∧ EndsQuery (c :: rest) := by
  cases part with
  | bare =>
      refine ⟨rfl, ?_⟩
      intro d head
      cases head
      simp only [QueryPart.step] at stuck
      split at stuck
      next => cases stuck
      next noBracket =>
        split at stuck
        next => cases stuck
        next other =>
          simp only [not_or, Bool.not_eq_true] at other
          exact ⟨other.1, other.2.1, noBracket, other.2.2⟩
  | bracket =>
      simp only [QueryPart.step] at stuck
      split at stuck
      · cases stuck
      · split at stuck <;> cases stuck
  | quoted quote =>
      simp only [QueryPart.step] at stuck
      split at stuck
      · cases stuck
      · split at stuck <;> cases stuck
  | escaped quote => cases stuck

theorem passes_taken {part : QueryPart} {text : List Char} {length : Nat}
    (found : queryLength part text = some length) :
    ∃ used behind, text = used ++ behind ∧ used.length = length ∧ Passes part used .bare ∧
      EndsQuery behind := by
  induction text generalizing part length with
  | nil =>
      cases part with
      | bare =>
          cases found
          exact ⟨[], [], rfl, rfl, passes_nil.mpr rfl, by simp [EndsQuery]⟩
      | bracket => cases found
      | quoted quote => cases found
      | escaped quote => cases found
  | cons c rest ih =>
      rw [queryLength_cons] at found
      split at found
      next stuck =>
        cases found
        obtain ⟨rfl, ends⟩ := endsQuery_of_step rest stuck
        exact ⟨[], c :: rest, rfl, rfl, passes_nil.mpr rfl, ends⟩
      next next step =>
        obtain ⟨more, foundMore, rfl⟩ := Option.map_eq_some_iff.mp found
        obtain ⟨used, behind, rfl, rfl, passes, ends⟩ := ih foundMore
        exact ⟨c :: used, behind, rfl, rfl, passes_cons.mpr ⟨next, step, passes⟩, ends⟩

theorem passes_of_queryLength {part : QueryPart} {text : List Char} {length : Nat}
    (found : queryLength part text = some length) (whole : text.length ≤ length) :
    Passes part text .bare := by
  obtain ⟨used, behind, rfl, rfl, passes, _⟩ := passes_taken found
  rw [List.length_append] at whole
  rwa [List.length_eq_zero_iff.mp (by omega : behind.length = 0), List.append_nil]

def Silent (c : Char) : Prop :=
  c ≠ ']' ∧ c ≠ '\x27' ∧ c ≠ '"'

theorem passes_silent {text : List Char} (silent : ∀ c ∈ text, Silent c) :
    Passes .bracket text .bracket := by
  induction text with
  | nil => exact passes_nil.mpr rfl
  | cons c rest ih =>
      obtain ⟨noClose, noSingle, noDouble⟩ := silent c List.mem_cons_self
      have step : QueryPart.bracket.step c = some .bracket := by
        simp [QueryPart.step, noClose, noSingle, noDouble]
      exact passes_cons.mpr ⟨_, step, ih fun d member => silent d (List.mem_cons_of_mem c member)⟩

theorem Spaces.silent {spaces : List Char} (all : Spaces spaces) : ∀ c ∈ spaces, Silent c := by
  intro c member
  rw [all c member]
  exact ⟨by decide, by decide, by decide⟩

theorem silent_digit {c : Char} (digit : c.isDigit = true) : Silent c := by
  refine ⟨?_, ?_, ?_⟩ <;> rintro rfl <;> cases digit

theorem IntegerText.silent {text : List Char} {n : Int} (isInteger : IntegerText text n) :
    ∀ c ∈ text, Silent c := by
  cases isInteger with
  | plain digits _ => exact fun c member => silent_digit (digits.2 c member)
  | negative digits _ =>
      refine List.forall_mem_cons.mpr ⟨⟨by decide, by decide, by decide⟩, ?_⟩
      exact fun c member => silent_digit (digits.2 c member)

theorem BoundText.silent {text : List Char} {bound : Option Int} (isBound : BoundText text bound) :
    ∀ c ∈ text, Silent c := by
  cases isBound with
  | missing spaces => exact spaces.silent
  | given before isInteger after =>
      simp only [List.forall_mem_append]
      exact ⟨before.silent, isInteger.silent, after.silent⟩

theorem StepText.silent {text : List Char} {step : { step : Nat // 0 < step }}
    (isStep : StepText text step) : ∀ c ∈ text, Silent c := by
  have colon : Silent ':' := ⟨by decide, by decide, by decide⟩
  cases isStep with
  | missing => exact fun c member => absurd member List.not_mem_nil
  | omitted isBound => exact List.forall_mem_cons.mpr ⟨colon, isBound.silent⟩
  | given isBound => exact List.forall_mem_cons.mpr ⟨colon, isBound.silent⟩

theorem QuotedText.passes {quote : Char} {text name : List Char}
    (quoted : QuotedText quote text name) (noEscape : quote ≠ '\\') :
    Passes (.quoted quote) text .bracket := by
  induction quoted with
  | close => exact passes_cons.mpr ⟨.bracket, by simp [QueryPart.step], passes_nil.mpr rfl⟩
  | plain other plain _ ih =>
      exact passes_cons.mpr ⟨.quoted quote, by simp [QueryPart.step, other, plain], ih⟩
  | @literal c text name _ ih =>
      have opens : (QueryPart.quoted quote).step '\\' = some (.escaped quote) := by
        simp [QueryPart.step, Ne.symm noEscape]
      exact passes_cons.mpr ⟨_, opens, passes_cons.mpr ⟨.quoted quote, rfl, ih⟩⟩

theorem SelectorText.passes {text : List Char} {selector : Selector}
    (isSelector : SelectorText text selector) : Passes .bracket text .bracket := by
  cases isSelector with
  | wildcard => exact passes_cons.mpr ⟨.bracket, rfl, passes_nil.mpr rfl⟩
  | name isQuote quoted =>
      rcases isQuote with rfl | rfl
      · exact passes_cons.mpr ⟨_, rfl, quoted.passes (by decide)⟩
      · exact passes_cons.mpr ⟨_, rfl, quoted.passes (by decide)⟩
  | index isInteger => exact passes_silent isInteger.silent
  | slice isStart isStop isStep =>
      apply passes_silent
      simp only [List.forall_mem_append, List.forall_mem_cons]
      exact ⟨isStart.silent, ⟨by decide, by decide, by decide⟩, isStop.silent, isStep.silent⟩

/-- Quotes and what they enclose are the same to both readers, so they find the same bracket. -/
theorem BracketText.passes {text : List Char} {selectors : List Selector}
    (isBracket : BracketText text selectors) : Passes .bracket text .bare := by
  induction isBracket with
  | last before isSelector after =>
      have close : Passes .bracket [']'] .bare := passes_cons.mpr ⟨_, rfl, passes_nil.mpr rfl⟩
      exact passes_append.mpr ⟨_, passes_silent before.silent, passes_append.mpr
        ⟨_, isSelector.passes, passes_append.mpr ⟨_, passes_silent after.silent, close⟩⟩⟩
  | @more _ _ _ rest _ _ before isSelector after _ ih =>
      have comma : Passes .bracket (',' :: rest) .bare := passes_cons.mpr ⟨_, rfl, ih⟩
      exact passes_append.mpr ⟨_, passes_silent before.silent, passes_append.mpr
        ⟨_, isSelector.passes, passes_append.mpr ⟨_, passes_silent after.silent, comma⟩⟩⟩

def Dots (text : List Char) : Prop :=
  text = ['.'] ∨ text = ['.', '.']

def MemberName (name : List Char) : Prop :=
  name ≠ [] ∧ ∀ c ∈ name, isMemberCharacter c = true

def Plain (name : List Char) : Prop :=
  ∀ c ∈ name, isNameCharacter c = true

/-- Segments, dots, the name and more segments make up the text of a query. -/
def DottedName (text name : List Char) : Prop :=
  ∃ front dots behind before after, text = '$' :: (front ++ (dots ++ (name ++ behind))) ∧
    SegmentsText front before ∧ Dots dots ∧ MemberName name ∧ SegmentsText behind after

theorem Dots.passes {dots : List Char} (isDots : Dots dots) : Passes .bare dots .bare := by
  rcases isDots with rfl | rfl <;> rfl

theorem Plain.passes {name : List Char} (plain : Plain name) : Passes .bare name .bare := by
  induction name with
  | nil => exact passes_nil.mpr rfl
  | cons c rest ih =>
      have isName := plain c List.mem_cons_self
      have noBracket : c ≠ '[' := by
        rintro rfl
        cases isName
      have step : QueryPart.bare.step c = some .bare := by
        simp [QueryPart.step, noBracket, isName]
      exact passes_cons.mpr ⟨_, step, ih fun d member => plain d (List.mem_cons_of_mem c member)⟩

theorem plain_of_passes {name : List Char} {last : QueryPart}
    (members : ∀ c ∈ name, isMemberCharacter c = true) (passes : Passes .bare name last) :
    Plain name ∧ last = .bare := by
  induction name with
  | nil => exact ⟨fun c member => absurd member List.not_mem_nil, (passes_nil.mp passes).symm⟩
  | cons c rest ih =>
      have member := members c List.mem_cons_self
      have differs : ∀ d, isMemberCharacter d = false → c ≠ d := by
        rintro d other rfl
        rw [member] at other
        cases other
      obtain ⟨next, step, passes⟩ := passes_cons.mp passes
      simp only [QueryPart.step, differs '[' (by decide +kernel), differs '.' (by decide +kernel),
        differs '*' (by decide +kernel), false_or, if_false] at step
      split at step
      next isName =>
        cases step
        have others : ∀ d ∈ rest, isMemberCharacter d = true :=
          fun d inside => members d (List.mem_cons_of_mem c inside)
        obtain ⟨plain, ended⟩ := ih others passes
        exact ⟨List.forall_mem_cons.mpr ⟨isName, plain⟩, ended⟩
      next => cases step

theorem SegmentText.passes_or_named {text : List Char} {segment : Segment}
    (isSegment : SegmentText text segment) :
    Passes .bare text .bare ∨ ∃ dots name, text = dots ++ name ∧ Dots dots ∧ MemberName name := by
  cases isSegment with
  | @dotted name _ isDotted =>
      cases isDotted with
      | wildcard => exact Or.inl rfl
      | name some members => exact Or.inr ⟨['.'], name, rfl, Or.inl rfl, some, members⟩
  | @deepDotted name _ isDotted =>
      cases isDotted with
      | wildcard => exact Or.inl rfl
      | name some members => exact Or.inr ⟨['.', '.'], name, rfl, Or.inr rfl, some, members⟩
  | bracket isBracket => exact Or.inl (passes_cons.mpr ⟨_, rfl, isBracket.passes⟩)
  | deepBracket isBracket =>
      have opens : Passes .bare ['.', '.', '['] .bracket := rfl
      exact Or.inl (passes_append.mpr ⟨_, opens, isBracket.passes⟩)

theorem SegmentsText.passes {text : List Char} {segments : List Segment}
    (isSegments : SegmentsText text segments)
    (plain : ∀ name, DottedName ('$' :: text) name → Plain name) : Passes .bare text .bare := by
  induction isSegments with
  | nil => exact passes_nil.mpr rfl
  | @cons text rest segment segments isSegment isSegments ih =>
      have later : ∀ name, DottedName ('$' :: rest) name → Plain name := by
        rintro name ⟨front, dots, behind, before, after, same, isFront, found⟩
        obtain rfl := (List.cons.inj same).2
        refine plain name ⟨text ++ front, dots, behind, segment :: before, after, ?_,
          .cons isSegment isFront, found⟩
        rw [List.append_assoc]
      refine passes_append.mpr ⟨.bare, ?_, ih later⟩
      rcases isSegment.passes_or_named with passes | ⟨dots, name, rfl, isDots, isName⟩
      · exact passes
      · have found : DottedName ('$' :: (dots ++ name ++ rest)) name :=
          ⟨[], dots, rest, [], segments, by simp, .nil, isDots, isName, isSegments⟩
        exact passes_append.mpr ⟨_, isDots.passes, (plain name found).passes⟩

theorem SegmentsText.passes_to_bare {text : List Char} {segments : List Segment} {last : QueryPart}
    (isSegments : SegmentsText text segments) (passes : Passes .bare text last) :
    last = .bare := by
  induction isSegments with
  | nil => exact (passes_nil.mp passes).symm
  | cons isSegment _ ih =>
      obtain ⟨middle, first, rest⟩ := passes_append.mp passes
      apply ih
      rcases isSegment.passes_or_named with whole | ⟨dots, name, rfl, isDots, isName⟩
      · cases Option.some.inj (first.symm.trans whole)
        exact rest
      · obtain ⟨part, dotted, named⟩ := passes_append.mp first
        cases Option.some.inj (dotted.symm.trans isDots.passes)
        obtain ⟨_, rfl⟩ := plain_of_passes isName.2 named
        exact rest

theorem DottedName.plain {text name : List Char} {last : QueryPart}
    (found : DottedName ('$' :: text) name) (passes : Passes .bare text last) : Plain name := by
  obtain ⟨front, dots, behind, before, after, same, isFront, isDots, isName, _⟩ := found
  obtain rfl := (List.cons.inj same).2
  obtain ⟨_, first, passes⟩ := passes_append.mp passes
  cases isFront.passes_to_bare first
  obtain ⟨_, dotted, passes⟩ := passes_append.mp passes
  cases Option.some.inj (dotted.symm.trans isDots.passes)
  obtain ⟨_, named, _⟩ := passes_append.mp passes
  exact (plain_of_passes isName.2 named).1

theorem scan_dollar (rest : List Char) : Source.scan '$' rest = Source.scanQuery rest :=
  rfl

theorem lexFrom_query {rest behind : List Char} (passes : Passes .bare rest .bare)
    (ends : EndsQuery behind) (position : Position) :
    Source.lexFrom position ('$' :: (rest ++ behind)) =
      Lexed.behind [⟨.query (String.ofList ('$' :: rest)), '$' :: rest, position⟩]
        (Source.lexFrom (position.after ('$' :: rest)) behind) := by
  have length := passes.queryLength_append behind
  rw [ends.queryLength, Option.map_some, Nat.zero_add] at length
  have scanned : Source.scan '$' (rest ++ behind) =
      .ok (.query (String.ofList ('$' :: rest)), rest.length) := by
    rw [scan_dollar, Source.scanQuery, length]
    dsimp only
    rw [List.take_left]
  rw [Source.lexFrom_token position (by decide) scanned, List.take_left, List.drop_left]

theorem passes_of_lexFrom {rest : List Char} {position : Position}
    (alone : (Source.lexFrom position ('$' :: rest)).lexemes.map (·.token) =
      [.query (String.ofList ('$' :: rest))]) : Passes .bare rest .bare := by
  rw [Source.lexFrom_visible rest (by decide), Source.lexAt, scan_dollar, Source.scanQuery] at alone
  cases found : queryLength .bare rest with
  | none =>
      rw [found] at alone
      cases alone
  | some length =>
      rw [found] at alone
      have first := Token.query.inj (List.cons.inj alone).1
      have same := (List.cons.inj (String.ofList_injective first)).2
      exact passes_of_queryLength found ((List.take_eq_self_iff rest).mp same)

/-- The scanner of tokens and the reader of queries agree on where a query ends exactly if all
names behind dots are plain. Then the query is a token in front of anything that cannot continue
it. -/
theorem lex_query_iff {text : String} {query : Query} (compiled : compile text = .ok query) :
    (((Source.lex text).lexemes.map (·.token) = [.query text] ∧
        ∃ position, (Source.lex text).ending = .ok position) ↔
      ∀ name, DottedName text.toList name → Plain name) ∧
    ((∀ name, DottedName text.toList name → Plain name) → ∀ behind : String,
      EndsQuery behind.toList → Source.lex (text ++ behind) =
        Lexed.behind [⟨.query text, text.toList, .start⟩]
          (Source.lexFrom (Position.start.after text.toList) behind.toList)) := by
  obtain ⟨_, rest, cut, isSegments⟩ := (compile_eq_ok_iff text query).mp compiled
  have whole : text = String.ofList ('$' :: rest) := by rw [← cut, String.ofList_toList]
  have scanned : (∀ name, DottedName text.toList name → Plain name) → ∀ behind : List Char,
      EndsQuery behind → Source.lexFrom .start (text.toList ++ behind) =
        Lexed.behind [⟨.query text, text.toList, .start⟩]
          (Source.lexFrom (Position.start.after text.toList) behind) := by
    intro plain behind ends
    rw [cut] at plain ⊢
    rw [whole, List.cons_append]
    exact lexFrom_query (isSegments.passes plain) ends .start
  refine ⟨⟨?_, ?_⟩, ?_⟩
  · rintro ⟨alone, _⟩ name found
    rw [Source.lex, cut, whole] at alone
    rw [cut] at found
    exact found.plain (passes_of_lexFrom alone)
  · intro plain
    have run := scanned plain [] (by simp [EndsQuery])
    rw [List.append_nil, Source.lexFrom_nil] at run
    rw [Source.lex, run]
    exact ⟨rfl, _, rfl⟩
  · intro plain behind ends
    rw [Source.lex, String.toList_append]
    exact scanned plain behind.toList ends

theorem lex_query_iff_hyphen :
    (∃ query, compile "$..a['].\"']" = .ok query) ∧ EndsQuery "-b".toList ∧
    Source.lex ("$..a['].\"']" ++ "-b") =
      Lexed.behind [⟨.query "$..a['].\"']", "$..a['].\"']".toList, .start⟩]
        (Source.lexFrom ⟨1, 12, 11⟩ "-b".toList) ∧
    (∃ query, compile "$.a-b" = .ok query) ∧
    DottedName "$.a-b".toList "a-b".toList ∧ ¬Plain "a-b".toList ∧
    (Source.lex "$.a-b").lexemes.map (·.token) = [.query "$.a"] := by
  have word : DottedText ['a'] (.name "a") := .name (by decide) (List.all_eq_true.mp (by decide))
  have quotes : QuotedText '\x27' "].\"'".toList "].\"".toList :=
    .plain (by decide) (by decide) (.plain (by decide) (by decide)
      (.plain (by decide) (by decide) .close))
  have inner : BracketText ([] ++ ("'].\"'".toList ++ ([] ++ [']']))) [.name "].\""] :=
    .last spaces_nil (.name (Or.inl rfl) quotes) spaces_nil
  have quoted : SegmentsText "..a['].\"']".toList
      [.descendant [.name "a"], .child [.name "].\""]] :=
    .cons (.deepDotted word) (.cons (.bracket inner) .nil)
  have hyphen : MemberName "a-b".toList := ⟨by decide, List.all_eq_true.mp (by decide)⟩
  have named : SegmentsText ".a-b".toList [.child [.name "a-b"]] :=
    .cons (.dotted (.name hyphen.1 hyphen.2)) .nil
  have compiled := (compile_eq_ok_iff "$..a['].\"']" ⟨_, _⟩).mpr ⟨rfl, _, rfl, quoted⟩
  have compiledName := (compile_eq_ok_iff "$.a-b" ⟨_, _⟩).mpr ⟨rfl, _, rfl, named⟩
  have found : DottedName "$.a-b".toList "a-b".toList :=
    ⟨[], ['.'], [], [], [], rfl, .nil, Or.inl rfl, hyphen, .nil⟩
  have ends : EndsQuery "-b".toList := by
    intro c head
    cases head
    decide
  obtain ⟨same, scanned⟩ := lex_query_iff compiled
  have alone : (Source.lex "$..a['].\"']").lexemes.map (·.token) = [.query "$..a['].\"']"] := by cbv
  have ended : (Source.lex "$..a['].\"']").ending = .ok ⟨1, 12, 11⟩ := by cbv
  have broken : ¬Plain "a-b".toList := fun plain => absurd (plain '-' (by decide)) (by decide)
  refine ⟨⟨_, compiled⟩, ends, scanned (same.mp ⟨alone, _, ended⟩) "-b" ends, ⟨_, compiledName⟩,
    found, broken, ?_⟩
  cbv

end Stencil.Query
