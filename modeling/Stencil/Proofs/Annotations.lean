import Stencil.Proofs.Bare

/-! Annotations in a source. A template is the same with any of them taken out, but for its labels
and places, and these decide nothing. -/

namespace Stencil

open Source

namespace Source

section

variable (chosen : Position → Bool)

def Lexeme.isDropped (lexeme : Lexeme) : Bool :=
  decide (lexeme.token = .atSign) && chosen lexeme.start

def keptLexemes : List Lexeme → List Lexeme
  | mark :: label :: rest =>
    if mark.isDropped chosen then keptLexemes rest else mark :: keptLexemes (label :: rest)
  | lexemes => lexemes
termination_by structural lexemes => lexemes

/-- A text from some place on, with a space for each annotation that is dropped: for all from the
at sign to the end of the label. -/
def keptText (place : Nat) (text : List Char) : List Lexeme → List Char
  | mark :: label :: rest =>
    if mark.isDropped chosen then
      let behind := label.start.offset + label.text.length
      text.take (mark.start.offset - place) ++
        ' ' :: keptText behind (text.drop (behind - place)) rest
    else
      let behind := mark.start.offset + mark.text.length
      text.take (behind - place) ++ keptText behind (text.drop (behind - place)) (label :: rest)
  | _ => text
termination_by structural lexemes => lexemes

/-- The source with a space for each annotation at a chosen place. -/
def withoutAnnotations (source : String) : String :=
  String.ofList (keptText chosen 0 source.toList (lex source).lexemes)

end

variable {chosen : Position → Bool}

theorem keptText_stays {mark label : Lexeme} {rest : List Lexeme} {place : Nat}
    {gap text : List Char} (stays : mark.isDropped chosen = false)
    (starts : mark.start.offset = place + gap.length) :
    keptText chosen place (gap ++ (mark.text ++ text)) (mark :: label :: rest) =
      gap ++ (mark.text ++
        keptText chosen (mark.start.offset + mark.text.length) text (label :: rest)) := by
  have length : mark.start.offset + mark.text.length - place = (gap ++ mark.text).length := by
    rw [List.length_append]
    omega
  rw [← List.append_assoc, keptText]
  simp only [stays, Bool.false_eq_true, if_false, length]
  rw [List.take_left, List.drop_left, List.append_assoc]

theorem keptText_drops {mark label : Lexeme} {rest : List Lexeme} {place : Nat}
    {gap between text : List Char} (drops : mark.isDropped chosen = true)
    (starts : mark.start.offset = place + gap.length)
    (labelStarts : label.start.offset = mark.start.offset + mark.text.length + between.length) :
    keptText chosen place (gap ++ (mark.text ++ (between ++ (label.text ++ text))))
        (mark :: label :: rest) =
      gap ++ ' ' :: keptText chosen (label.start.offset + label.text.length) text rest := by
  have front : mark.start.offset - place = gap.length := by omega
  have length : label.start.offset + label.text.length - place =
      (gap ++ (mark.text ++ (between ++ label.text))).length := by
    simp only [List.length_append]
    omega
  have whole : gap ++ (mark.text ++ (between ++ (label.text ++ text))) =
      gap ++ (mark.text ++ (between ++ label.text)) ++ text := by simp
  rw [keptText]
  simp only [drops, if_true, front, length, List.take_left]
  rw [whole, List.drop_left]

theorem lexFrom_keptText (lexemes : List Lexeme) {position : Position} {source : List Char}
    {ending : Except LexError Position} (run : lexFrom position source = ⟨lexemes, ending⟩) :
    Interrupts (keptText chosen position.offset source lexemes) source ∧
      ∀ here, (lexFrom here (keptText chosen position.offset source lexemes)).outline =
        (tokensOf (keptLexemes chosen lexemes), causeOf ending) := by
  induction lexemes using keptLexemes.induct chosen generalizing position source with
  | case1 mark label rest drops ih =>
      obtain ⟨gap, tail, rfl, trivia, ⟨c, more, text, visible⟩, starts, later, _⟩ :=
        lexFrom_first run
      obtain ⟨between, behind, rfl, _, _, labelStarts, others, _⟩ := lexFrom_first later
      have offset : mark.start.offset = position.offset + gap.length := by
        rw [starts, Position.offset_after]
      have labelOffset : label.start.offset =
          mark.start.offset + mark.text.length + between.length := by
        rw [labelStarts, Position.offset_after, Position.offset_after]
      obtain ⟨_, scanned⟩ := ih others
      rw [Position.offset_after] at scanned
      rw [keptText_drops drops offset labelOffset]
      constructor
      · refine ⟨gap, _, _, rfl, rfl, ?_⟩
        rintro _ ⟨⟩
        decide
      · intro here
        have filler : Filler gap :=
          trivia.filler ⟨c, more ++ _, by rw [text, List.cons_append], visible⟩
        rw [lexFrom_gap here (filler.trivia _), lexFrom_space _ _ (by decide) (by decide),
          keptLexemes, if_pos drops]
        exact scanned _
  | case2 mark label rest stays ih =>
      obtain ⟨gap, tail, rfl, _, _, starts, later, replay⟩ := lexFrom_first run
      have offset : mark.start.offset = position.offset + gap.length := by
        rw [starts, Position.offset_after]
      obtain ⟨interrupts, scanned⟩ := ih later
      rw [Position.offset_after] at interrupts scanned
      rw [keptText_stays (Bool.eq_false_iff.mpr stays) offset]
      refine ⟨(interrupts.behind mark.text).behind gap, fun here => ?_⟩
      rw [outline_lexFrom here position, replay _ interrupts, behind_outline, scanned, keptLexemes,
        if_neg stays]
      rfl
  | case3 lexemes few =>
      have same : keptText chosen position.offset source lexemes = source ∧
          keptLexemes chosen lexemes = lexemes := by
        rcases lexemes with _ | ⟨mark, _ | ⟨label, rest⟩⟩
        · exact ⟨rfl, rfl⟩
        · exact ⟨rfl, rfl⟩
        · exact absurd rfl (few mark label rest)
      rw [same.1, same.2]
      refine ⟨.refl source, fun here => ?_⟩
      rw [outline_lexFrom here position, run]
      rfl

theorem lex_withoutAnnotations (source : String) :
    (lex (withoutAnnotations chosen source)).outline =
      (tokensOf (keptLexemes chosen (lex source).lexemes), causeOf (lex source).ending) := by
  have run : lexFrom .start source.toList = ⟨(lex source).lexemes, (lex source).ending⟩ := rfl
  rw [lex, withoutAnnotations, String.toList_ofList]
  exact (lexFrom_keptText _ run).2 .start

section

variable {α β : Type} {view : α → β}

/-- Whatever stands behind, something is still derived when annotations are dropped, and a view
does not tell it apart. -/
def Survives (chosen : Position → Bool) (Item : List Lexeme → α → Prop) (view : α → β)
    (used : List Lexeme) (item : α) : Prop :=
  ∀ rest, ∃ left other, keptLexemes chosen (used ++ rest) = left ++ keptLexemes chosen rest ∧
    Item left other ∧ view other = view item

theorem keptLexemes_stays {mark : Lexeme} (rest : List Lexeme)
    (stays : mark.isDropped chosen = false) :
    keptLexemes chosen (mark :: rest) = mark :: keptLexemes chosen rest := by
  cases rest with
  | nil => rfl
  | cons label rest => rw [keptLexemes, stays, if_neg Bool.false_ne_true]

theorem keptLexemes_token {lexeme : Lexeme} (rest : List Lexeme)
    (other : lexeme.token ≠ .atSign) :
    keptLexemes chosen (lexeme :: rest) = lexeme :: keptLexemes chosen rest :=
  keptLexemes_stays rest (by simp [Lexeme.isDropped, other])

theorem LabelToken.ne_atSign {token : Token} {text : String} (label : LabelToken token text) :
    token ≠ .atSign := by
  cases label <;> exact nofun

theorem Survives.single {Item : List Lexeme → α → Prop} {lexeme : Lexeme} {item : α}
    (derived : Item [lexeme] item) (other : lexeme.token ≠ .atSign) :
    Survives chosen Item view [lexeme] item :=
  fun rest => ⟨[lexeme], item, keptLexemes_token rest other, derived, rfl⟩

theorem Survives.one {Item : List Lexeme → α → Prop} {used : List Lexeme} {item : α}
    (first : Survives chosen Item view used item) :
    Survives chosen (Separated Item) (List.map view) used [item] := by
  intro rest
  obtain ⟨left, other, kept, again, same⟩ := first rest
  exact ⟨left, [other], kept, .one again, congrArg (fun item => [item]) same⟩

theorem Survives.more {Item : List Lexeme → α → Prop} {used others : List Lexeme} {comma : Lexeme}
    {item : α} {items : List α} (first : Survives chosen Item view used item)
    (isComma : comma.token = .comma)
    (more : Survives chosen (Separated Item) (List.map view) others items) :
    Survives chosen (Separated Item) (List.map view) (used ++ comma :: others) (item :: items) := by
  intro rest
  obtain ⟨left, other, kept, again, same⟩ := first (comma :: (others ++ rest))
  obtain ⟨behind, further, keptToo, againToo, sameToo⟩ := more rest
  refine ⟨left ++ comma :: behind, other :: further, ?_, .more again isComma againToo, ?_⟩
  · rw [List.append_assoc, List.cons_append, kept, keptLexemes_token _ (isComma ▸ nofun), keptToo,
      List.append_assoc, List.cons_append]
  · rw [List.map_cons, List.map_cons, same, sameToo]

theorem Survives.enclosed {Item : List Lexeme → α → Prop} {close : Token} {trailingComma : Bool}
    {used : List Lexeme} {items : List α}
    (enclosed : Enclosed Item close trailingComma used items) (other : close ≠ .atSign)
    (each : ∀ {front}, Separated Item front items →
      Survives chosen (Separated Item) (List.map view) front items) :
    Survives chosen (Enclosed Item close trailingComma) (List.map view) used items := by
  intro rest
  cases enclosed with
  | @empty last closed =>
      exact ⟨[last], [], keptLexemes_token rest (closed ▸ other), .empty closed, rfl⟩
  | @items front last _ separated closed =>
      obtain ⟨left, items, kept, again, same⟩ := each separated (last :: rest)
      refine ⟨left ++ [last], items, ?_, .items again closed, same⟩
      rw [List.append_assoc, List.singleton_append, kept, keptLexemes_token rest (closed ▸ other)]
      simp
  | @trailing front comma last _ separated allowed isComma closed =>
      obtain ⟨left, items, kept, again, same⟩ := each separated (comma :: last :: rest)
      refine ⟨left ++ [comma, last], items, ?_, .trailing again allowed isComma closed, same⟩
      rw [List.append_assoc, List.cons_append, List.singleton_append, kept,
        keptLexemes_token _ (isComma ▸ nofun), keptLexemes_token rest (closed ▸ other)]
      simp

end

theorem Survives.field {used : List Lexeme} {field : String × Annotated Expr}
    (read : Field Derives used field)
    (value : ∀ {back}, Derives back field.2.content →
      Survives chosen Derives Expr.bare back field.2.content) :
    Survives chosen (Field Derives) Expr.bareField used field := by
  intro rest
  cases read with
  | @plain key colon used name expr isKey isColon derives =>
      obtain ⟨left, other, kept, again, same⟩ := value derives rest
      refine ⟨key :: colon :: left, (name, ⟨none, other⟩), ?_, .plain isKey isColon again, ?_⟩
      · rw [List.cons_append, List.cons_append, keptLexemes_token _ (isKey ▸ nofun),
          keptLexemes_token _ (isColon ▸ nofun), kept]
        rfl
      · exact congrArg (fun content => (name, (⟨none, content⟩ : Annotated Expr))) same
  | @labelled mark label key colon used text name expr isMark isLabel isKey isColon derives =>
      obtain ⟨left, other, kept, again, same⟩ := value derives rest
      have behind : keptLexemes chosen (key :: colon :: (used ++ rest)) =
          key :: colon :: (left ++ keptLexemes chosen rest) := by
        rw [keptLexemes_token _ (isKey ▸ nofun), keptLexemes_token _ (isColon ▸ nofun), kept]
      have content := congrArg (fun content => (name, (⟨none, content⟩ : Annotated Expr))) same
      by_cases drops : mark.isDropped chosen = true
      · refine ⟨key :: colon :: left, (name, ⟨none, other⟩), ?_, .plain isKey isColon again,
          content⟩
        rw [List.cons_append, List.cons_append, keptLexemes, if_pos drops]
        exact behind
      · refine ⟨mark :: label :: key :: colon :: left, (name, ⟨some text, other⟩), ?_,
          .labelled isMark isLabel isKey isColon again, content⟩
        rw [List.cons_append, List.cons_append, keptLexemes_stays _ (Bool.eq_false_iff.mpr drops),
          keptLexemes_token _ isLabel.ne_atSign]
        exact congrArg (mark :: label :: ·) behind

mutual

theorem derives_survives : ∀ (expr : Expr) {used : List Lexeme}, Derives used expr →
    Survives chosen Derives Expr.bare used expr
  | .null, _, derives => by
      cases derives with
      | null token => exact .single (.null token) (token ▸ nofun)
  | .bool _, _, derives => by
      cases derives with
      | bool token => exact .single (.bool token) (token ▸ nofun)
  | .number _, _, derives => by
      cases derives with
      | number token => exact .single (.number token) (token ▸ nofun)
  | .string _, _, derives => by
      cases derives with
      | string token => exact .single (.string token) (token ▸ nofun)
  | .extractor _ _, _, derives => by
      cases derives with
      | extractor token => exact .single (.extractor token) (token ▸ nofun)
  | .array items, _, derives => by
      cases derives with
      | @array opening _ _ token enclosed =>
          intro rest
          obtain ⟨left, others, kept, again, same⟩ :=
            Survives.enclosed enclosed nofun (items_survive items) rest
          refine ⟨opening :: left, .array others, ?_, .array token again, ?_⟩
          · rw [List.cons_append, keptLexemes_token _ (token ▸ nofun), kept]
            rfl
          · rw [Expr.bare, Expr.bare, Expr.bareItems_eq, Expr.bareItems_eq, same]
  | .object fields, _, derives => by
      cases derives with
      | @object opening _ _ token enclosed =>
          intro rest
          obtain ⟨left, others, kept, again, same⟩ :=
            Survives.enclosed enclosed nofun (fields_survive fields) rest
          refine ⟨opening :: left, .object others, ?_, .object token again, ?_⟩
          · rw [List.cons_append, keptLexemes_token _ (token ▸ nofun), kept]
            rfl
          · rw [Expr.bare, Expr.bare, Expr.bareFields_eq, Expr.bareFields_eq, same]
  | .generator query template _, _, derives => by
      cases derives with
      | @generator word range opening used closing _ _ isWord isRange isOpening inner isClosing =>
          intro rest
          obtain ⟨left, other, kept, again, same⟩ :=
            derives_survives template inner (closing :: rest)
          refine ⟨word :: range :: opening :: (left ++ [closing]),
            .generator query other word.start, ?_, .generator isWord isRange isOpening again isClosing, ?_⟩
          · simp only [List.cons_append, List.append_assoc, List.nil_append]
            rw [keptLexemes_token _ (isWord ▸ nofun), keptLexemes_token _ (isRange ▸ nofun),
              keptLexemes_token _ (isOpening ▸ nofun), kept,
              keptLexemes_token _ (isClosing ▸ nofun)]
          · exact congrArg (Expr.generator query · .start) same
  | .call name args _, _, derives => by
      cases derives with
      | @call word opening _ _ _ isWord isOpening enclosed =>
          intro rest
          obtain ⟨left, others, kept, again, same⟩ :=
            Survives.enclosed enclosed nofun (items_survive args) rest
          refine ⟨word :: opening :: left, .call name others word.start, ?_,
            .call isWord isOpening again, ?_⟩
          · rw [List.cons_append, List.cons_append, keptLexemes_token _ (isWord ▸ nofun),
              keptLexemes_token _ (isOpening ▸ nofun), kept]
            rfl
          · rw [Expr.bare, Expr.bare, Expr.bareItems_eq, Expr.bareItems_eq, same]

theorem items_survive : ∀ (items : List Expr) {used : List Lexeme},
    Separated Derives used items →
      Survives chosen (Separated Derives) (List.map Expr.bare) used items
  | [], _, separated => nomatch separated
  | item :: rest, _, separated => by
      cases separated with
      | one first => exact (derives_survives item first).one
      | more first isComma others =>
          exact (derives_survives item first).more isComma (items_survive rest others)

theorem fields_survive : ∀ (fields : List (String × Annotated Expr)) {used : List Lexeme},
    Separated (Field Derives) used fields →
      Survives chosen (Separated (Field Derives)) (List.map Expr.bareField) used fields
  | [], _, separated => nomatch separated
  | (name, ⟨label, expr⟩) :: rest, _, separated => by
      have one : ∀ {used}, Field Derives used (name, ⟨label, expr⟩) →
          Survives chosen (Field Derives) Expr.bareField used (name, ⟨label, expr⟩) :=
        fun read => .field read (derives_survives expr)
      cases separated with
      | one first => exact (one first).one
      | more first isComma others =>
          exact (one first).more isComma (fields_survive rest others)

end

theorem parse_withoutAnnotations {source : String} {expr : Expr}
    (parsed : parse source = .ok expr) :
    ∃ twin, parse (withoutAnnotations chosen source) = .ok twin ∧ twin.bare = expr.bare := by
  obtain ⟨ended, derives, shallow⟩ := (lexed_parse_iff _ _).mp parsed
  obtain ⟨left, other, kept, again, same⟩ := @derives_survives chosen expr _ derives []
  have whole : keptLexemes chosen (lex source).lexemes = left := by
    rw [← List.append_nil (lex source).lexemes, kept]
    exact List.append_nil left
  have deep : other.depth ≤ maxDepth := by
    rw [← Expr.depth_bare, same, Expr.depth_bare]
    exact shallow
  -- these tokens have the places of the old source; the new source has the same ones elsewhere
  have read : Lexed.parse ⟨left, (lex source).ending⟩ = .ok other :=
    (lexed_parse_iff _ _).mpr ⟨ended, again, deep⟩
  have outline : Lexed.outline ⟨left, (lex source).ending⟩ =
      (lex (withoutAnnotations chosen source)).outline := by
    rw [lex_withoutAnnotations, whole]
    rfl
  have runs := parse_outline outline
  rw [read] at runs
  unfold parse
  cases run : (lex (withoutAnnotations chosen source)).parse with
  | error error =>
      rw [run] at runs
      cases runs
  | ok twin =>
      rw [run] at runs
      have alike : other.unplaced = twin.unplaced := Except.ok.inj runs
      exact ⟨twin, rfl, by rw [← Expr.bare_unplaced, ← alike, Expr.bare_unplaced, same]⟩

end Source

namespace Template

/-- Annotations never influence the result. A source that compiles does so with any of them taken
out, to a template that renders the same; one that parses and does not compile is rejected for the
same reason at the same construct. -/
theorem annotations_meaningless (functions : Functions) (chosen : Position → Bool)
    (source : String) :
    (∀ template, compile functions source = .ok template →
      ∃ twin, compile functions (withoutAnnotations chosen source) = .ok twin ∧
        ∀ policy input, twin.renderWith policy input = template.renderWith policy input) ∧
    ∀ expr error, parse source = .ok expr → compile functions source = .error error →
      ∃ twin other, parse (withoutAnnotations chosen source) = .ok twin ∧
        compile functions (withoutAnnotations chosen source) = .error other ∧
        other.unplaced = error.unplaced ∧
        ∃ (index : Nat) (part again : Expr), expr.parts[index]? = some part ∧
          twin.parts[index]? = some again ∧ again.bare = part.bare ∧
          part.position? = some error.position ∧ again.position? = some other.position := by
  constructor
  · intro template compiled
    obtain ⟨expr, parsed, node, made, rfl⟩ := compile_eq_ok.mp compiled
    obtain ⟨twin, reparsed, same⟩ := @parse_withoutAnnotations chosen _ _ parsed
    have alike := Node.compile_alike functions same
    rw [made] at alike
    rw [compile_parsed reparsed]
    generalize Node.compile functions twin = outcome at alike ⊢
    cases alike with
    | @ok other _ unlabelled =>
        refine ⟨ofNode other, rfl, fun policy input => ?_⟩
        change other.evaluate policy input = node.evaluate policy input
        rw [← Node.evaluate_unlabelled, unlabelled, Node.evaluate_unlabelled]
  · intro expr error parsed failed
    rw [compile_parsed parsed, map_eq_error] at failed
    obtain ⟨twin, reparsed, same⟩ := @parse_withoutAnnotations chosen _ _ parsed
    obtain ⟨other, again, unplaced, aligned⟩ := Node.compile_error_alike same failed
    refine ⟨twin, other, reparsed, ?_, unplaced, aligned⟩
    rw [compile_parsed reparsed, map_eq_error]
    exact again

theorem annotations_meaningless_keyword :
    (∃ template twin, compile [] "\x7b@range\"a\":$,@ b\"a\":$\x7d" = .ok template ∧
      compile [] "\x7b \"a\":$,@ b\"a\":$\x7d" = .ok twin ∧
      ∀ policy input, twin.renderWith policy input = template.renderWith policy input) ∧
    compile [] "\x7b@null#\n\"a\": f()\x7d" = .error (.unknownFunction "f" ⟨2, 6, 13⟩) ∧
    ∃ other, compile [] "\x7b #\n\"a\": f()\x7d" = .error other ∧
      other.unplaced = .unknownFunction "f" .start := by
  have first : withoutAnnotations (fun place => place.offset = 1)
      "\x7b@range\"a\":$,@ b\"a\":$\x7d" = "\x7b \"a\":$,@ b\"a\":$\x7d" := by cbv
  have sole : withoutAnnotations (fun _ => true) "\x7b@null#\n\"a\": f()\x7d" =
      "\x7b #\n\"a\": f()\x7d" := by cbv
  have parsed : parse "\x7b@null#\n\"a\": f()\x7d" =
      .ok (.object [("a", ⟨some "null", .call "f" [] ⟨2, 6, 13⟩⟩)]) := by cbv
  have failed : compile [] "\x7b@null#\n\"a\": f()\x7d" =
      .error (.unknownFunction "f" ⟨2, 6, 13⟩) := by cbv
  have compiled : compile [] "\x7b@range\"a\":$,@ b\"a\":$\x7d" =
      .ok (ofNode (.object [("a", ⟨some "b", .query ⟨"$", []⟩⟩)])) := by cbv
  obtain ⟨renders, _⟩ := annotations_meaningless [] (fun place => place.offset = 1)
    "\x7b@range\"a\":$,@ b\"a\":$\x7d"
  obtain ⟨twin, again, same⟩ := renders _ compiled
  rw [first] at again
  obtain ⟨_, fails⟩ := annotations_meaningless [] (fun _ => true) "\x7b@null#\n\"a\": f()\x7d"
  obtain ⟨_, other, _, rejected, unplaced, _⟩ := fails _ _ parsed failed
  rw [sole] at rejected
  exact ⟨⟨_, twin, compiled, again, same⟩, failed, other, rejected, unplaced⟩

end Template

end Stencil
