import Mathlib
import Stencil.Proofs.Json.Reading
import Stencil.Proofs.Literals
import Stencil.Proofs.Members
import Stencil.Proofs.Parsing
import Stencil.Proofs.Scanning
import Stencil.Template.Basic

/-! JSON as a template. Every text of the grammar of JSON is a text of the grammar of templates, and
renders as the document it writes down. -/

namespace Stencil.Json

open Numbers (Number)
open Source (Lexeme Token Expr Scans IsToken Derives Field Enclosed startsTrivia)

variable {α β : Type}

theorem scans_blank {gap : List Char} (blank : Blank gap) (behind : List Char) :
    Scans gap behind (· = []) := by
  refine Source.scans_space behind fun c member => ?_
  have isBlank := blank c member
  simp only [Json.isBlank, Bool.or_eq_true, beq_iff_eq] at isBlank
  rcases isBlank with ((rfl | rfl) | rfl) | rfl <;> exact ⟨by decide, by decide⟩

theorem scans_punctuation {c : Char} {token : Token} (mark : Source.punctuation? c = some token)
    (visible : startsTrivia c = false) (behind : List Char) :
    Scans [c] behind (IsToken token [c]) := by
  refine Source.scans_token visible ?_
  simp only [Source.scan, mark]
  rfl

theorem scans_string {used content : List Char} (inner : Content used content)
    (behind : List Char) :
    Scans ('"' :: (used ++ ['"'])) behind
      (IsToken (.string (String.ofList content)) ('"' :: (used ++ ['"']))) := by
  refine Source.scans_token (by decide) ?_
  rw [List.append_assoc, List.singleton_append, (Source.StringText.of_content inner).scan behind]
  simp

theorem startsNumber_starts {used : List Char} (isNumber : NumberText used) (behind : List Char) :
    ∃ c rest, used = c :: rest ∧ Source.startsNumber c (rest ++ behind) = true := by
  obtain ⟨c, rest, rfl, digit | ⟨rfl, d, more, rfl, digit⟩⟩ := isNumber.starts
  · exact ⟨c, rest, rfl, by simp [Source.startsNumber, digit]⟩
  · exact ⟨'-', d :: more, rfl, by simp [Source.startsNumber, digit]⟩

theorem literal?_eq_some {text : List Char} {x : Float} :
    literal? text = some x ↔ Number.ofText? text = some x ∧ x.isFinite = true :=
  Option.filter_eq_some_iff

theorem scans_number {used behind : List Char} {x : Float} (isNumber : NumberText used)
    (meant : literal? used = some x) (stops : Stops behind) :
    Scans used behind (IsToken (.number x) used) := by
  obtain ⟨meant, finite⟩ := literal?_eq_some.mp meant
  have text := isNumber.scanned (stops_number stops)
  obtain ⟨c, rest, rfl, starts⟩ := startsNumber_starts isNumber behind
  refine Source.scans_token (Source.numeric_plain (Source.startsNumber_lead starts)).1 ?_
  rw [List.cons_append] at text
  simp only [Source.scan_number starts, Source.scanNumber, text, meant, finite]
  rfl

theorem scans_word {c : Char} {rest behind : List Char} {token : Token}
    (visible : startsTrivia c = false) (noMark : Source.punctuation? c = none)
    (noDollar : c ≠ '$') (noQuote : c ≠ '"')
    (noNumber : Source.startsNumber c (rest ++ behind) = false)
    (starts : Source.isNameStart c = true)
    (name : ∀ d ∈ rest, Source.isNameCharacter d = true)
    (means : Source.keyword (String.ofList (c :: rest)) = token) (stops : Stops behind) :
    Scans (c :: rest) behind (IsToken token (c :: rest)) := by
  have ends : Lacks Source.isNameCharacter behind := by
    intro d head
    have isEnd := stops d head
    simp only [endsWord, isBlank, Bool.or_eq_true, beq_iff_eq] at isEnd
    rcases isEnd with ((((((rfl | rfl) | rfl) | rfl) | rfl) | rfl)) | rfl <;> rfl
  have taken : (rest ++ behind).takeWhile Source.isNameCharacter = rest := by
    rw [List.takeWhile_append_of_pos name]
    cases behind with
    | nil => simp
    | cons d others => simp [ends d rfl]
  refine Source.scans_token visible ?_
  simp only [Source.scan, noMark, noDollar, noQuote, noNumber, starts, if_true, if_false,
    Source.scanName, taken, means]
  rfl

theorem scans_null {behind : List Char} (stops : Stops behind) :
    Scans ['n', 'u', 'l', 'l'] behind (IsToken .null ['n', 'u', 'l', 'l']) :=
  scans_word (by decide) rfl (by decide) (by decide) rfl rfl (List.all_eq_true.mp rfl)
    (by decide) stops

theorem scans_true {behind : List Char} (stops : Stops behind) :
    Scans ['t', 'r', 'u', 'e'] behind (IsToken (.bool true) ['t', 'r', 'u', 'e']) :=
  scans_word (by decide) rfl (by decide) (by decide) rfl rfl (List.all_eq_true.mp rfl)
    (by decide) stops

theorem scans_false {behind : List Char} (stops : Stops behind) :
    Scans ['f', 'a', 'l', 's', 'e'] behind (IsToken (.bool false) ['f', 'a', 'l', 's', 'e']) :=
  scans_word (by decide) rfl (by decide) (by decide) rfl rfl (List.all_eq_true.mp rfl)
    (by decide) stops

def ScansItems (Item : List Char → α → Prop) (TokenItem : List Lexeme → β → Prop) (f : α → β) :
    Prop :=
  ∀ used item behind, Item used item → Stops behind →
    Scans used behind fun lexemes => TokenItem lexemes (f item)

theorem scans_between {Tokens : List Lexeme → Prop} {lead used gap behind : List Char}
    (blankLead : Blank lead) (blankGap : Blank gap) (scans : Scans used (gap ++ behind) Tokens) :
    Scans (lead ++ (used ++ gap)) behind Tokens := by
  have front := scans_blank blankLead (used ++ gap ++ behind)
  refine (front.append (scans.append (scans_blank blankGap behind))).mono ?_
  rintro _ ⟨_, _, rfl, rfl, _, _, rfl, found, rfl⟩
  simpa using found

theorem separated_scans {Item : List Char → α → Prop} {TokenItem : List Lexeme → β → Prop}
    {f : α → β} (each : ScansItems Item TokenItem f) {used : List Char} {items : List α}
    (separated : Separated Item used items) {behind : List Char} (stops : Stops behind) :
    Scans used behind fun lexemes =>
      Source.Separated TokenItem lexemes (items.map f) := by
  induction separated with
  | one blankLead found blankGap =>
      have item := each _ _ _ found (stops.behindGap blankGap)
      exact (scans_between blankLead blankGap item).mono fun _ read => .one read
  | @more lead used gap others item items blankLead found blankGap _ ih =>
      have ends : Stops (gap ++ (',' :: (others ++ behind))) :=
        (stops_cons _ rfl).behindGap blankGap
      have first := scans_between blankLead blankGap (each _ _ _ found ends)
      have comma := scans_punctuation (c := ',') rfl (by decide) (others ++ behind)
      have all := first.append (comma.append ih)
      have regroup : lead ++ (used ++ (gap ++ ',' :: others)) =
          (lead ++ (used ++ gap)) ++ ([','] ++ others) := by simp
      rw [regroup]
      refine all.mono ?_
      rintro _ ⟨_, _, rfl, read, _, _, rfl, ⟨_, rfl⟩, rest⟩
      exact .more read rfl rest

theorem listed_scans {Item : List Char → α → Prop} {TokenItem : List Lexeme → β → Prop}
    {f : α → β} {close : Char} {closing : Token} {used : List Char} {items : List α}
    (listed : Listed Item close used items) (each : ScansItems Item TokenItem f)
    (mark : Source.punctuation? close = some closing) (visible : startsTrivia close = false)
    (ends : endsWord close = true) (behind : List Char) :
    Scans used behind fun lexemes => Enclosed TokenItem closing true lexemes (items.map f) := by
  have last := scans_punctuation mark visible behind
  cases listed with
  | empty blank =>
      refine ((scans_blank blank _).append last).mono ?_
      rintro _ ⟨_, _, rfl, rfl, _, rfl⟩
      exact .empty rfl
  | items separated =>
      have all := separated_scans each separated (stops_cons behind ends)
      refine (all.append last).mono ?_
      rintro _ ⟨_, _, rfl, read, _, rfl⟩
      exact .items read rfl

namespace Document

mutual

def toExpr : Document Float → Expr
  | null => .null
  | bool b => .bool b
  | number x => .number x
  | string s => .string s
  | array items => .array (toExprs items)
  | object members => .object (toFields members)
termination_by structural document => document

def toExprs : List (Document Float) → List Expr
  | [] => []
  | document :: rest => document.toExpr :: toExprs rest
termination_by structural documents => documents

def toFields : List (String × Document Float) → List (String × Annotated Expr)
  | [] => []
  | (name, document) :: rest => (name, ⟨none, document.toExpr⟩) :: toFields rest
termination_by structural members => members

end

def toField (member : String × Document Float) : String × Annotated Expr :=
  (member.1, ⟨none, member.2.toExpr⟩)

theorem toExprs_eq (items : List (Document Float)) : toExprs items = items.map toExpr := by
  induction items with
  | nil => rfl
  | cons item rest ih => rw [toExprs, List.map_cons, ih]

theorem toFields_eq (members : List (String × Document Float)) :
    toFields members = members.map toField := by
  induction members with
  | nil => rfl
  | cons member rest ih => rw [toFields, List.map_cons, ih]; rfl

mutual

theorem toExpr_depth : (document : Document Float) → document.toExpr.depth = document.depth
  | null => rfl
  | bool _ => rfl
  | number _ => rfl
  | string _ => rfl
  | array items => congrArg (· + 1) (toExprs_depth items)
  | object members => congrArg (· + 1) (toFields_depth members)
termination_by structural document => document

theorem toExprs_depth : (items : List (Document Float)) →
    Expr.depthItems (toExprs items) = depthItems items
  | [] => rfl
  | item :: rest => by
    rw [toExprs, Expr.depthItems, depthItems, toExpr_depth item, toExprs_depth rest]
termination_by structural items => items

theorem toFields_depth : (members : List (String × Document Float)) →
    Expr.depthFields (toFields members) = depthMembers members
  | [] => rfl
  | (_, document) :: rest => by
    rw [toFields, Expr.depthFields, depthMembers, toExpr_depth document, toFields_depth rest]
termination_by structural members => members

end

end Document

theorem member_scans {Value : List Char → Document Float → Prop}
    (each : ScansItems Value Derives Document.toExpr) :
    ScansItems (Member Value) (Field Derives) Document.toField := by
  rintro _ _ behind ⟨isContent, blankGap, blankLead, found⟩ stops
  rename_i inner content gap lead used document
  have value := (scans_blank blankLead _).append (each _ _ _ found stops)
  have colon := scans_punctuation (c := ':') rfl (by decide) (lead ++ used ++ behind)
  have gapColon := (scans_blank blankGap _).append (colon.append value)
  have all := (scans_string isContent _).append gapColon
  have regroup : '"' :: (inner ++ '"' :: (gap ++ ':' :: (lead ++ used))) =
      '"' :: (inner ++ ['"']) ++ (gap ++ ([':'] ++ (lead ++ used))) := by simp
  rw [regroup]
  refine all.mono ?_
  rintro _ ⟨_, _, rfl, ⟨_, rfl⟩, _, _, rfl, rfl, _, _, rfl, ⟨_, rfl⟩, _, _, rfl, rfl, read⟩
  exact .plain rfl rfl read

theorem scans_derives {used behind : List Char} {token : Token} {expr : Expr}
    (scans : Scans used behind (IsToken token used))
    (derives : ∀ lexeme : Lexeme, lexeme.token = token → Derives [lexeme] expr) :
    Scans used behind fun lexemes => Derives lexemes expr := by
  refine scans.mono ?_
  rintro _ ⟨start, rfl⟩
  exact derives _ rfl

def ScansAs (used : List Char) (document : Document Float) : Prop :=
  ∀ behind, Stops behind → Scans used behind fun lexemes => Derives lexemes document.toExpr

theorem written_scans {used : List Char} {document : Document Float}
    (written : Written literal? used document) : ScansAs used document := by
  refine written.induction ?null ?isTrue ?isFalse ?number ?string ?array ?object
  case null => exact fun _ stops => scans_derives (scans_null stops) fun _ => .null
  case isTrue => exact fun _ stops => scans_derives (scans_true stops) fun _ => .bool
  case isFalse => exact fun _ stops => scans_derives (scans_false stops) fun _ => .bool
  case number =>
    intro text x isNumber meant behind stops
    exact scans_derives (scans_number isNumber meant stops) fun _ => .number
  case string =>
    intro used content isContent behind _
    exact scans_derives (scans_string isContent behind) fun _ => .string
  case array =>
    intro body items listed behind _
    have opening := scans_punctuation (c := '[') rfl (by decide) (body ++ behind)
    have list := listed_scans listed (fun _ _ behind scans => scans behind) rfl (by decide) rfl behind
    refine (opening.append list).mono ?_
    rintro _ ⟨_, _, rfl, ⟨_, rfl⟩, enclosed⟩
    rw [← Document.toExprs_eq] at enclosed
    exact .array rfl enclosed
  case object =>
    intro body members listed behind _
    have opening := scans_punctuation (c := '{') rfl (by decide) (body ++ behind)
    have list := listed_scans listed (member_scans fun _ _ behind scans => scans behind) rfl
      (by decide) rfl behind
    refine (opening.append list).mono ?_
    rintro _ ⟨_, _, rfl, ⟨_, rfl⟩, enclosed⟩
    rw [← Document.toFields_eq] at enclosed
    exact .object rfl enclosed

theorem documentText_lexed {text : List Char} {document : Document Float}
    (written : DocumentText literal? text document) : ∃ lexemes next,
      Derives lexemes document.toExpr ∧ Source.lexFrom .start text = ⟨lexemes, .ok next⟩ := by
  have whole : Scans text [] fun lexemes => Derives lexemes document.toExpr := by
    cases written with
    | one blankLead found blankGap =>
        refine scans_between blankLead blankGap ?_
        exact written_scans found _ (stops_nil.behindGap blankGap)
  exact whole.lexed .start

theorem parse_written {text : String} {document : Document Float}
    (written : DocumentText literal? text.toList document)
    (shallow : document.depth ≤ Source.maxDepth) :
    Source.parse text = .ok document.toExpr := by
  obtain ⟨lexemes, next, derives, lexed⟩ := documentText_lexed written
  rw [← Source.lex] at lexed
  refine (Source.lexed_parse_iff (Source.lex text) _).mpr ⟨⟨next, by rw [lexed]⟩, ?_, ?_⟩
  · rw [lexed]
    exact derives
  · rw [Document.toExpr_depth]
    exact shallow

namespace Document

mutual

def toNode : Document Float → Node
  | null => .constant .null
  | bool b => .constant (.bool b)
  | number x => .constant (.number x)
  | string s => .constant (.string s)
  | array items => .array (toNodes items)
  | object members => .object (Members.ofList (toNodeFields members))
termination_by structural document => document

def toNodes : List (Document Float) → List Node
  | [] => []
  | document :: rest => document.toNode :: toNodes rest
termination_by structural documents => documents

def toNodeFields : List (String × Document Float) → List (String × Annotated Node)
  | [] => []
  | (name, document) :: rest => (name, ⟨none, document.toNode⟩) :: toNodeFields rest
termination_by structural members => members

end

theorem toNodeFields_eq (members : List (String × Document Float)) :
    toNodeFields members =
      Members.mapContents (fun document => ⟨none, document.toNode⟩) members := by
  induction members with
  | nil => rfl
  | cons member rest ih => rw [toNodeFields, ih]; rfl

mutual

theorem compile_toExpr (functions : Functions) :
    (document : Document Float) → Node.compile functions document.toExpr = .ok document.toNode
  | null => rfl
  | bool _ => rfl
  | number _ => rfl
  | string _ => rfl
  | array items => map_eq_ok.mpr ⟨_, compile_toExprs functions items, rfl⟩
  | object members => map_eq_ok.mpr ⟨_, compile_toFields functions members, rfl⟩
termination_by structural document => document

theorem compile_toExprs (functions : Functions) :
    (items : List (Document Float)) →
    Node.compileItems functions (toExprs items) = .ok (toNodes items)
  | [] => rfl
  | item :: rest => bind_eq_ok.mpr ⟨_, compile_toExpr functions item,
      bind_eq_ok.mpr ⟨_, compile_toExprs functions rest, rfl⟩⟩
termination_by structural items => items

theorem compile_toFields (functions : Functions) : (members : List (String × Document Float)) →
    Node.compileFields functions (toFields members) = .ok (toNodeFields members)
  | [] => rfl
  | (_, document) :: rest => bind_eq_ok.mpr ⟨_, compile_toExpr functions document,
      bind_eq_ok.mpr ⟨_, compile_toFields functions rest, rfl⟩⟩
termination_by structural members => members

end

def rendered (document : Document Float) : Value :=
  document.merged.valueBy .number

theorem rendered_object (members : List (String × Document Float)) :
    (object members).rendered =
      .object (Members.mapContents rendered (Members.ofList members)) := by
  rw [rendered, merged, mergedMembers_eq, Members.ofList_mapContents, valueBy, membersBy_eq,
    Members.mapContents_mapContents]
  rfl

theorem evaluateFields_mapContents (policy : MissingKeyPolicy) (input : Value)
    (members : List (String × Document Float))
    (each : ∀ member ∈ members, member.2.toNode.evaluate policy input = .ok member.2.rendered) :
    Node.evaluateFields policy
        (Members.mapContents (fun document => ⟨none, document.toNode⟩) members) input =
      .ok (Members.mapContents rendered members) := by
  induction members with
  | nil => rfl
  | cons member rest ih =>
      exact bind_eq_ok.mpr ⟨_, each member List.mem_cons_self, bind_eq_ok.mpr
        ⟨_, ih fun other inside => each other (List.mem_cons_of_mem _ inside), rfl⟩⟩

mutual

theorem evaluate_toNode (policy : MissingKeyPolicy) (input : Value) :
    (document : Document Float) → document.toNode.evaluate policy input = .ok document.rendered
  | null => rfl
  | bool _ => rfl
  | number _ => rfl
  | string _ => rfl
  | array items => map_eq_ok.mpr ⟨_, evaluate_toNodes policy input items, rfl⟩
  | object members => by
    have fields := evaluateFields_mapContents policy input (Members.ofList members)
      fun member inside => evaluate_members policy input members member (Members.mem_ofList inside)
    rw [← Members.ofList_mapContents, ← toNodeFields_eq] at fields
    rw [toNode, Node.evaluate, fields, rendered_object]
    have same := Members.ofList_distinct (Members.distinct_ofList members)
    rw [Except.map, Members.ofList_mapContents, same]
termination_by structural document => document

theorem evaluate_toNodes (policy : MissingKeyPolicy) (input : Value) :
    (items : List (Document Float)) →
    Node.evaluateItems policy (toNodes items) input = .ok (valuesBy .number (mergedItems items))
  | [] => rfl
  | item :: rest => bind_eq_ok.mpr ⟨_, evaluate_toNode policy input item,
      bind_eq_ok.mpr ⟨_, evaluate_toNodes policy input rest, rfl⟩⟩
termination_by structural items => items

theorem evaluate_members (policy : MissingKeyPolicy) (input : Value) :
    (members : List (String × Document Float)) →
      ∀ member ∈ members, member.2.toNode.evaluate policy input = .ok member.2.rendered
  | [] => fun _ inside => absurd inside List.not_mem_nil
  | (_, document) :: rest => fun member inside => by
    rcases List.mem_cons.mp inside with rfl | later
    · exact evaluate_toNode policy input document
    · exact evaluate_members policy input rest member later
termination_by structural members => members

end

end Document

theorem merged_object {ν : Type} (members : List (String × Document ν)) :
    ∃ result, (Document.object members).merged = .object result ∧
      Members.keys result = (Members.keys members).eraseDups ∧
      ∀ name, Members.get? name result =
        (Members.get? name members.reverse).map Document.merged := by
  refine ⟨Members.mapContents Document.merged (Members.ofList members), ?_, ?_, ?_⟩
  · rw [Document.merged, Document.mergedMembers_eq, Members.ofList_mapContents]
  · rw [Members.keys_mapContents, Members.keys_ofList]
  · intro name
    rw [Members.get?_mapContents, Members.get?_ofList]

theorem renders_written {text : String} {document : Document Float}
    (written : DocumentText literal? text.toList document)
    (shallow : document.depth ≤ Source.maxDepth)
    (functions : Functions) :
    ∃ template, Template.compile functions text = .ok template ∧ ∀ policy input,
      template.renderWith policy input = .ok document.rendered := by
  refine ⟨Template.ofNode document.toNode, ?_, fun policy input =>
    document.evaluate_toNode policy input⟩
  rw [Template.compile, parse_written written shallow]
  exact bind_eq_ok.mpr ⟨_, rfl, bind_eq_ok.mpr
    ⟨_, document.compile_toExpr functions, rfl⟩⟩

/-- The number that the library has for a literal is the one that a template reads in it. -/
def ReadAlike [Numbers] (literal : List Char) : Prop :=
  ∀ n, Numbers.ofText? literal = some n →
    ∃ x, Numbers.toFloat? n = some x ∧ literal? literal = some x

theorem written_alike [Numbers] {used : List Char} {written : Document Number}
    (found : Written Numbers.ofText? used written)
    (alike : ∀ tree, Written some used tree → tree.EveryNumber ReadAlike) :
    ∃ document, Written literal? used document ∧ document.depth = written.depth ∧
      document.rendered = written.merged.toValue := by
  obtain ⟨pairs, paired, every, rfl⟩ := found.literals
  have tree : Written some used (pairs.map Prod.fst) := by
    refine paired.map (every.mono fun pair _ literal same => ?_)
    obtain ⟨n, _, rfl⟩ := Option.map_eq_some_iff.mp same
    rfl
  -- each literal with the number that a template reads in it
  let read (pair : List Char × Number) : Float := (literal? pair.1).getD 0
  have meant : pairs.EveryNumber fun pair =>
      literal? pair.1 = some (read pair) ∧ Numbers.toFloat? pair.2 = some (read pair) := by
    refine (every.and (alike _ tree).of_map).mono fun pair ⟨found, alike⟩ => ?_
    obtain ⟨x, stored, same⟩ := alike pair.2 found
    simp only [read, same, stored, Option.getD_some, and_self]
  refine ⟨pairs.map read, paired.map (meant.mono fun pair meant literal same => ?_), ?_, ?_⟩
  · obtain ⟨n, _, rfl⟩ := Option.map_eq_some_iff.mp same
    exact meant.1
  · rw [Document.depth_map, Document.depth_map]
  · rw [Document.rendered, Document.map_merged, Document.map_merged, Document.toValue,
      Document.valueBy_map, Document.valueBy_map]
    refine Document.valueBy_congr (meant.merged.mono fun pair meant => ?_)
    rw [meant.2]
    rfl

theorem documentText_alike [Numbers] {text : List Char} {written : Document Number}
    (found : DocumentText Numbers.ofText? text written)
    (alike : ∀ tree, DocumentText some text tree → tree.EveryNumber ReadAlike) :
    ∃ document, DocumentText literal? text document ∧ document.depth = written.depth ∧
      document.rendered = written.merged.toValue := by
  obtain ⟨blankLead, found, blankGap⟩ := found
  obtain ⟨document, meant, same⟩ :=
    written_alike found fun tree isTree => alike tree (.one blankLead isTree blankGap)
  exact ⟨document, .one blankLead meant blankGap, same⟩

/-- Every JSON document is a template that ignores its input and renders as itself, provided that
its numbers are read alike. Of the members with one name the first one's place and the last one's
value count, for the decoder and for the template alike. -/
theorem compile_decoded [Numbers] [Decoder] (reads : ReadsTexts) (text : String)
    (document : Document Number) (decoded : decode text.toUTF8.toList = .ok document)
    (alike : ∀ tree, DocumentText some text.toList tree → tree.EveryNumber ReadAlike) :
    (∀ functions, ∃ template, Template.compile functions text = .ok template ∧
      ∀ policy input, template.renderWith policy input = .ok document.toValue ∧
        (template.withPolicy policy).render input = .ok document.toValue) ∧
    (∃ written, DocumentText Numbers.ofText? text.toList written ∧ written.merged = document) ∧
    ∀ members : List (String × Document Number), ∃ result,
      (Document.object members).merged = .object result ∧
      Members.keys result = (Members.keys members).eraseDups ∧
      ∀ name, Members.get? name result =
        (Members.get? name members.reverse).map Document.merged := by
  rw [toUTF8_toList, reads.decoded] at decoded
  obtain ⟨written, found, shallow, rfl⟩ := decoded
  refine ⟨?_, ⟨written, found, rfl⟩, merged_object⟩
  intro functions
  obtain ⟨document, meant, depth, same⟩ := documentText_alike found alike
  have deep : document.depth ≤ Source.maxDepth := by
    rw [depth]
    exact Nat.le_trans shallow (by decide)
  obtain ⟨template, compiled, renders⟩ := renders_written meant deep functions
  rw [same] at renders
  exact ⟨template, compiled, fun policy input => ⟨renders policy input, renders policy input⟩⟩

theorem compile_decoded_repeated :
    let text := "\x7b\"a\": \"\\u00e9\", \"\": [-0.0e1], \"a\": null\x7d"
    let value : Value := .object [("a", .null), ("", .array [.number (-0.0)])]
    (∃ document, decode text.toUTF8.toList = .ok document ∧ document.toValue = value) ∧
    (∀ tree, DocumentText some text.toList tree → tree.EveryNumber ReadAlike) ∧
    ∃ template, Template.compile [] text = .ok template ∧
      template.renderWith .errorOnMissing .null = .ok value := by
  intro text value
  let literal := "-0.0e1".toList
  let tree : Document (List Char) :=
    .object [("a", .string "é"), ("", .array [.number literal]), ("a", .null)]
  have isTree : DocumentText some text.toList tree := by
    refine ((@whole_eq_ok_iff ⟨_, some, fun _ => none, fun _ => none⟩ maxDepth _ _).mp ?_).1
    cbv
  have finite : (-0.0 : Float).isFinite = true := by decide +kernel
  have stored : Literal.ofText? literal = some ⟨-0.0, by decide +kernel⟩ := by decide +kernel
  have plain : literal? literal = some (-0.0) := by decide +kernel
  have every : ∀ {Good : List Char → Prop}, Good literal → tree.EveryNumber Good := by
    intro Good good
    have inner : Document.EveryNumber Good (.array [.number literal]) :=
      .array (List.forall_mem_singleton.mpr (.number good))
    exact .object (List.forall_mem_cons.mpr ⟨.string _, List.forall_mem_cons.mpr
      ⟨inner, List.forall_mem_singleton.mpr .null⟩⟩)
  have alike : ∀ other, DocumentText some text.toList other → other.EveryNumber ReadAlike := by
    intro other found
    rw [documentText_unique found isTree]
    refine every fun n found => ⟨-0.0, ?_, plain⟩
    cases found.symm.trans stored
    rfl
  have written : DocumentText Numbers.ofText? text.toList
      (tree.map fun _ => (⟨-0.0, finite⟩ : FiniteFloat)) :=
    isTree.map (every fun literal same => by cases same; exact stored)
  have shallow : (tree.map fun _ => (⟨-0.0, finite⟩ : FiniteFloat)).depth ≤ maxDepth := by
    rw [Document.depth_map]
    decide
  have decoded := (reader_readsTexts.decoded _ _).mpr ⟨_, written, shallow, rfl⟩
  rw [← toUTF8_toList] at decoded
  obtain ⟨compiled, _⟩ := compile_decoded reader_readsTexts text _ decoded alike
  obtain ⟨template, run, renders⟩ := compiled []
  exact ⟨⟨_, decoded, rfl⟩, alike, template, run, (renders .errorOnMissing .null).1⟩

example : ¬ReadAlike "3e23".toList := by
  intro alike
  have stored : Literal.ofText? "3e23".toList =
      some ⟨2.9999999999999997e23, by decide +kernel⟩ := by decide +kernel
  have nearest : literal? "3e23".toList = some 3e23 := by decide +kernel
  obtain ⟨x, kept, read⟩ := alike _ stored
  have kept : some 2.9999999999999997e23 = some x := kept
  have other : (3e23 : Float) ≠ 2.9999999999999997e23 := by decide +kernel
  rw [nearest, ← kept] at read
  exact other (Option.some.inj read)

end Stencil.Json
