import Stencil.Source.Lexer
import Stencil.Source.Expr

/-! The grammar of templates over tokens, with the expression that each derivation stands for. -/

namespace Stencil.Source

variable {α : Type}

inductive Separated (Item : List Lexeme → α → Prop) : List Lexeme → List α → Prop
  | one {used item} : Item used item → Separated Item used [item]
  | more {used comma others item items} : Item used item → comma.token = .comma →
      Separated Item others items → Separated Item (used ++ comma :: others) (item :: items)

/-- What stands behind an opening token: items and the closing token. A comma may stand behind the
last item where that is allowed. -/
inductive Enclosed (Item : List Lexeme → α → Prop) (close : Token) (trailingComma : Bool) :
    List Lexeme → List α → Prop
  | empty {last} : last.token = close → Enclosed Item close trailingComma [last] []
  | items {used last items} : Separated Item used items → last.token = close →
      Enclosed Item close trailingComma (used ++ [last]) items
  | trailing {used comma last items} : Separated Item used items → trailingComma = true →
      comma.token = .comma → last.token = close →
      Enclosed Item close trailingComma (used ++ [comma, last]) items

inductive LabelToken : Token → String → Prop
  | name {text} : LabelToken (.name text) text
  | range : LabelToken .range "range"
  | true : LabelToken (.bool true) "true"
  | false : LabelToken (.bool false) "false"
  | null : LabelToken .null "null"

inductive Field (Value : List Lexeme → Expr → Prop) :
    List Lexeme → String × Annotated Expr → Prop
  | plain {key colon used name expr} : key.token = .string name → colon.token = .colon →
      Value used expr → Field Value (key :: colon :: used) (name, ⟨none, expr⟩)
  | labelled {mark label key colon used text name expr} : mark.token = .atSign →
      LabelToken label.token text → key.token = .string name → colon.token = .colon →
      Value used expr →
      Field Value (mark :: label :: key :: colon :: used) (name, ⟨some text, expr⟩)

/-- One value: the tokens it takes and the expression they stand for. -/
inductive Derives : List Lexeme → Expr → Prop
  | string {lexeme s} : lexeme.token = .string s → Derives [lexeme] (.string s)
  | number {lexeme x} : lexeme.token = .number x → Derives [lexeme] (.number x)
  | bool {lexeme b} : lexeme.token = .bool b → Derives [lexeme] (.bool b)
  | null {lexeme} : lexeme.token = .null → Derives [lexeme] .null
  | extractor {lexeme text} : lexeme.token = .query text →
      Derives [lexeme] (.extractor text lexeme.start)
  | object {opening body fields} : opening.token = .leftBrace →
      Enclosed (Field Derives) .rightBrace true body fields →
      Derives (opening :: body) (.object fields)
  | array {opening body items} : opening.token = .leftBracket →
      Enclosed Derives .rightBracket true body items → Derives (opening :: body) (.array items)
  | generator {word range opening used closing text template} : word.token = .range →
      range.token = .query text → opening.token = .leftBracket → Derives used template →
      closing.token = .rightBracket →
      Derives (word :: range :: opening :: (used ++ [closing]))
        (.generator text template word.start)
  | call {word opening body name args} : word.token = .name name →
      opening.token = .leftParen → Enclosed Derives .rightParen false body args →
      Derives (word :: opening :: body) (.call name args word.start)

/-! A condition on items can be taken out of a list of them. -/

theorem separated_and {Item : List Lexeme → α → Prop} {Good : α → Prop} {used : List Lexeme}
    {items : List α} :
    Separated (fun used item => Item used item ∧ Good item) used items ↔
      Separated Item used items ∧ ∀ item ∈ items, Good item := by
  constructor
  · intro separated
    induction separated with
    | one first => exact ⟨.one first.1, by simpa using first.2⟩
    | more first comma _ ih => exact ⟨.more first.1 comma ih.1, by simpa using ⟨first.2, ih.2⟩⟩
  · rintro ⟨separated, good⟩
    induction separated with
    | one first => exact .one ⟨first, good _ (by simp)⟩
    | more first comma _ ih =>
        exact .more ⟨first, good _ (by simp)⟩ comma
          (ih fun item member => good item (List.mem_cons_of_mem _ member))

theorem enclosed_and {Item : List Lexeme → α → Prop} {Good : α → Prop} {close : Token}
    {trailingComma : Bool} {used : List Lexeme} {items : List α} :
    Enclosed (fun used item => Item used item ∧ Good item) close trailingComma used items ↔
      Enclosed Item close trailingComma used items ∧ ∀ item ∈ items, Good item := by
  constructor
  · intro enclosed
    cases enclosed with
    | empty closed => exact ⟨.empty closed, by simp⟩
    | items separated closed =>
        have parts := separated_and.mp separated
        exact ⟨.items parts.1 closed, parts.2⟩
    | trailing separated allowed comma closed =>
        have parts := separated_and.mp separated
        exact ⟨.trailing parts.1 allowed comma closed, parts.2⟩
  · rintro ⟨enclosed, good⟩
    cases enclosed with
    | empty closed => exact .empty closed
    | items separated closed => exact .items (separated_and.mpr ⟨separated, good⟩) closed
    | trailing separated allowed comma closed =>
        exact .trailing (separated_and.mpr ⟨separated, good⟩) allowed comma closed

theorem field_and {Value : List Lexeme → Expr → Prop} {Good : Expr → Prop}
    {used : List Lexeme} {field : String × Annotated Expr} :
    Field (fun used expr => Value used expr ∧ Good expr) used field ↔
      Field Value used field ∧ Good field.2.content := by
  constructor
  · intro read
    cases read with
    | plain key colon value => exact ⟨.plain key colon value.1, value.2⟩
    | labelled mark label key colon value => exact ⟨.labelled mark label key colon value.1, value.2⟩
  · rintro ⟨read, good⟩
    cases read with
    | plain key colon value => exact .plain key colon ⟨value, good⟩
    | labelled mark label key colon value => exact .labelled mark label key colon ⟨value, good⟩

namespace Expr

mutual

def depth : Expr → Nat
  | array items => depthItems items + 1
  | object fields => depthFields fields + 1
  | generator _ template _ => template.depth + 1
  | call _ args _ => depthItems args + 1
  | _ => 0
termination_by structural expr => expr

def depthItems : List Expr → Nat
  | [] => 0
  | expr :: rest => max expr.depth (depthItems rest)
termination_by structural exprs => exprs

def depthFields : List (String × Annotated Expr) → Nat
  | [] => 0
  | (_, ⟨_, expr⟩) :: rest => max expr.depth (depthFields rest)
termination_by structural fields => fields

end

theorem depthItems_le (items : List Expr) (levels : Nat) :
    depthItems items ≤ levels ↔ ∀ item ∈ items, item.depth ≤ levels := by
  induction items with
  | nil => simp [depthItems]
  | cons item rest ih => simp only [depthItems, Nat.max_le, ih, List.forall_mem_cons]

theorem depthFields_le (fields : List (String × Annotated Expr)) (levels : Nat) :
    depthFields fields ≤ levels ↔ ∀ field ∈ fields, field.2.content.depth ≤ levels := by
  induction fields with
  | nil => simp [depthFields]
  | cons field rest ih => simp only [depthFields, Nat.max_le, ih, List.forall_mem_cons]

end Expr

/-- The word that a token carries; punctuation carries none. Keywords count as names, since they may
be labels. -/
def Token.word? : Token → Option Token
  | .string s => some (.string s)
  | .number x => some (.number x)
  | .bool b => some (.name (if b then "true" else "false"))
  | .null => some (.name "null")
  | .range => some (.name "range")
  | .query text => some (.query text)
  | .name text => some (.name text)
  | _ => none

def wordsOf (lexemes : List Lexeme) : List Token :=
  lexemes.filterMap (·.token.word?)

namespace Expr

mutual

def words : Expr → List Token
  | null => [.name "null"]
  | bool b => [.name (if b then "true" else "false")]
  | number x => [.number x]
  | string s => [.string s]
  | array items => wordsItems items
  | object fields => wordsFields fields
  | extractor query _ => [.query query]
  | generator query template _ => .name "range" :: .query query :: template.words
  | call name args _ => .name name :: wordsItems args
termination_by structural expr => expr

def wordsItems : List Expr → List Token
  | [] => []
  | expr :: rest => expr.words ++ wordsItems rest
termination_by structural exprs => exprs

def wordsFields : List (String × Annotated Expr) → List Token
  | [] => []
  | (name, ⟨label, expr⟩) :: rest =>
    (label.map Token.name).toList ++ .string name :: expr.words ++ wordsFields rest
termination_by structural fields => fields

end

def fieldWords : String × Annotated Expr → List Token
  | (name, ⟨label, expr⟩) => (label.map Token.name).toList ++ .string name :: expr.words

theorem wordsItems_eq (items : List Expr) : wordsItems items = items.flatMap words := by
  induction items with
  | nil => rfl
  | cons item rest ih => rw [wordsItems, List.flatMap_cons, ih]

theorem wordsFields_eq (fields : List (String × Annotated Expr)) :
    wordsFields fields = fields.flatMap fieldWords := by
  induction fields with
  | nil => rfl
  | cons field rest ih =>
      obtain ⟨name, label, expr⟩ := field
      simp only [wordsFields, List.flatMap_cons, fieldWords, ih]

end Expr

theorem wordsOf_append (first second : List Lexeme) :
    wordsOf (first ++ second) = wordsOf first ++ wordsOf second :=
  List.filterMap_append

theorem wordsOf_punctuation {lexeme : Lexeme} (rest : List Lexeme)
    (silent : lexeme.token.word? = none) : wordsOf (lexeme :: rest) = wordsOf rest :=
  List.filterMap_cons_none silent

theorem wordsOf_word {lexeme : Lexeme} {word : Token} (rest : List Lexeme)
    (carried : lexeme.token.word? = some word) :
    wordsOf (lexeme :: rest) = word :: wordsOf rest :=
  List.filterMap_cons_some carried

theorem Separated.wordsOf {Item : List Lexeme → α → Prop} {words : α → List Token}
    {used : List Lexeme} {items : List α} (separated : Separated Item used items)
    (each : ∀ used item, Item used item → wordsOf used = words item) :
    Source.wordsOf used = items.flatMap words := by
  induction separated with
  | one first => rw [each _ _ first, List.flatMap_singleton]
  | more first comma _ ih =>
      rw [wordsOf_append, wordsOf_punctuation _ (by rw [comma]; rfl), each _ _ first, ih,
        List.flatMap_cons]

theorem Enclosed.wordsOf {Item : List Lexeme → α → Prop} {words : α → List Token}
    {close : Token} {trailingComma : Bool} {used : List Lexeme} {items : List α}
    (enclosed : Enclosed Item close trailingComma used items) (silent : close.word? = none)
    (each : ∀ used item, Item used item → Source.wordsOf used = words item) :
    Source.wordsOf used = items.flatMap words := by
  cases enclosed with
  | empty closed => rw [wordsOf_punctuation _ (by rw [closed]; exact silent)]; rfl
  | items separated closed =>
      rw [wordsOf_append, wordsOf_punctuation _ (by rw [closed]; exact silent),
        separated.wordsOf each]
      exact List.append_nil _
  | trailing separated _ comma closed =>
      rw [wordsOf_append, wordsOf_punctuation _ (by rw [comma]; rfl),
        wordsOf_punctuation _ (by rw [closed]; exact silent), separated.wordsOf each]
      exact List.append_nil _

theorem LabelToken.word? {token : Token} {text : String} (label : LabelToken token text) :
    token.word? = some (.name text) := by
  cases label <;> rfl

theorem Field.wordsOf {Value : List Lexeme → Expr → Prop} {used : List Lexeme}
    {field : String × Annotated Expr} (read : Field Value used field)
    (each : ∀ used expr, Value used expr → Source.wordsOf used = expr.words) :
    Source.wordsOf used = Expr.fieldWords field := by
  cases read with
  | plain key colon value =>
      rw [wordsOf_word _ (by rw [key]; rfl), wordsOf_punctuation _ (by rw [colon]; rfl),
        each _ _ value]
      rfl
  | labelled mark label key colon value =>
      rw [wordsOf_punctuation _ (by rw [mark]; rfl), wordsOf_word _ label.word?,
        wordsOf_word _ (by rw [key]; rfl), wordsOf_punctuation _ (by rw [colon]; rfl),
        each _ _ value]
      rfl

/-- Nothing is lost, repeated or moved: the words of an expression are the words it was read from.
The induction is on the depth, because the grammar nests in lists of items. -/
theorem Derives.wordsOf {used : List Lexeme} {expr : Expr} (derives : Derives used expr) :
    wordsOf used = expr.words := by
  generalize depthEq : expr.depth = depth
  induction depth using Nat.strongRecOn generalizing used expr with
  | ind depth ih =>
      have each : ∀ used expr, Derives used expr ∧ expr.depth < depth →
          Source.wordsOf used = expr.words :=
        fun used expr read => ih expr.depth read.2 read.1 rfl
      cases derives with
      | string token => rw [wordsOf_word _ (by rw [token]; rfl)]; rfl
      | number token => rw [wordsOf_word _ (by rw [token]; rfl)]; rfl
      | bool token => rw [wordsOf_word _ (by rw [token]; rfl)]; rfl
      | null token => rw [wordsOf_word _ (by rw [token]; rfl)]; rfl
      | extractor token => rw [wordsOf_word _ (by rw [token]; rfl)]; rfl
      | @object _ _ fields opening enclosed =>
          have shallow : ∀ field ∈ fields, field.2.content.depth < depth := by
            intro field member
            have bound := (Expr.depthFields_le fields _).mp (Nat.le_refl _) field member
            simp only [Expr.depth] at depthEq
            omega
          have inner := enclosed_and.mpr ⟨enclosed, shallow⟩
          rw [wordsOf_punctuation _ (by rw [opening]; rfl),
            inner.wordsOf rfl fun used field read => (field_and.mpr read).wordsOf each]
          exact (Expr.wordsFields_eq fields).symm
      | @array _ _ items opening enclosed =>
          have shallow : ∀ item ∈ items, item.depth < depth := by
            intro item member
            have bound := (Expr.depthItems_le items _).mp (Nat.le_refl _) item member
            simp only [Expr.depth] at depthEq
            omega
          have inner := enclosed_and.mpr ⟨enclosed, shallow⟩
          rw [wordsOf_punctuation _ (by rw [opening]; rfl), inner.wordsOf rfl each]
          exact (Expr.wordsItems_eq items).symm
      | generator word range opening template closing =>
          simp only [Expr.depth] at depthEq
          rw [wordsOf_word _ (by rw [word]; rfl), wordsOf_word _ (by rw [range]; rfl),
            wordsOf_punctuation _ (by rw [opening]; rfl), wordsOf_append,
            wordsOf_punctuation _ (by rw [closing]; rfl), each _ _ ⟨template, by omega⟩]
          simp [Source.wordsOf, Expr.words]
      | @call _ _ _ _ args word opening enclosed =>
          have shallow : ∀ arg ∈ args, arg.depth < depth := by
            intro arg member
            have bound := (Expr.depthItems_le args _).mp (Nat.le_refl _) arg member
            simp only [Expr.depth] at depthEq
            omega
          have inner := enclosed_and.mpr ⟨enclosed, shallow⟩
          rw [wordsOf_word _ (by rw [word]; rfl), wordsOf_punctuation _ (by rw [opening]; rfl),
            inner.wordsOf rfl each, Expr.words, Expr.wordsItems_eq]

end Stencil.Source
