import Stencil.Number.Numeral
import Stencil.Proofs.Json.Document
import Stencil.Text.Escape
import Stencil.Text.Surrogate

/-! The grammar of JSON over characters, with the document that each text writes down. Which numbers
there are for literals is left open. A document may repeat names as its text does; the members that
count are left when it is merged. -/

namespace Stencil.Json

variable {α β μ ν : Type}

def isBlank (c : Char) : Bool :=
  c == ' ' || c == '\n' || c == '\t' || c == '\r'

def Blank (gap : List Char) : Prop :=
  ∀ c ∈ gap, isBlank c = true

theorem blank_nil : Blank [] := by
  simp [Blank]

theorem Blank.append {first second : List Char} (left : Blank first) (right : Blank second) :
    Blank (first ++ second) := by
  intro c member
  rcases List.mem_append.mp member with present | present
  · exact left c present
  · exact right c present

theorem Blank.behind {first second : List Char} (blank : Blank (first ++ second)) : Blank second :=
  fun c member => blank c (List.mem_append_right first member)

theorem blank_takeWhile (text : List Char) : Blank (text.takeWhile isBlank) :=
  fun _ member => List.all_eq_true.mp List.all_takeWhile _ member

def endsWord (c : Char) : Bool :=
  isBlank c || c == ',' || c == ']' || c == '}'

def Stops (behind : List Char) : Prop :=
  ∀ c ∈ behind.head?, endsWord c = true

theorem stops_nil : Stops [] := by
  simp [Stops]

theorem stops_cons {c : Char} (rest : List Char) (ends : endsWord c = true) :
    Stops (c :: rest) := by
  simpa [Stops] using ends

theorem Stops.behindGap {gap behind : List Char} (blank : Blank gap) (stops : Stops behind) :
    Stops (gap ++ behind) := by
  cases gap with
  | nil => exact stops
  | cons c rest =>
      have space := blank c List.mem_cons_self
      exact stops_cons _ (by simp [endsWord, space])

def isSurrogate (code : Nat) : Bool :=
  Text.isHighSurrogate code || Text.isLowSurrogate code

def HexQuad (digits : List Char) (code : Nat) : Prop :=
  digits.length = 4 ∧ (∀ c ∈ digits, Text.isHexDigit c = true) ∧ Text.hexNumber digits = code

/-- What follows a backslash, and the character it stands for. Characters above `U+FFFF` are pairs
of halves. -/
inductive Escape : List Char → Char → Prop
  | short {mark c} : Text.shortEscape? mark = some c → Escape [mark] c
  | code {digits code} : HexQuad digits code → isSurrogate code = false →
      Escape ('u' :: digits) (Char.ofNat code)
  | pair {first second high low} : HexQuad first high → Text.isHighSurrogate high = true →
      HexQuad second low → Text.isLowSurrogate low = true →
      Escape ('u' :: (first ++ '\\' :: 'u' :: second)) (Char.ofNat (Text.joinSurrogates high low))

inductive Content : List Char → List Char → Prop
  | nil : Content [] []
  | plain {c used content} : c ≠ '"' → c ≠ '\\' → 0x20 ≤ c.toNat → Content used content →
      Content (c :: used) (c :: content)
  | escape {escape c used content} : Escape escape c → Content used content →
      Content ('\\' :: (escape ++ used)) (c :: content)

def Digits (text : List Char) : Prop :=
  text ≠ [] ∧ ∀ c ∈ text, c.isDigit = true

def Whole (text : List Char) : Prop :=
  Digits text ∧ (text.head? = some '0' → text = ['0'])

inductive Fraction : List Char → Prop
  | none : Fraction []
  | some {digits} : Digits digits → Fraction ('.' :: digits)

inductive Exponent : List Char → Prop
  | none : Exponent []
  | some {mark sign digits} : mark = 'e' ∨ mark = 'E' → sign = [] ∨ sign = ['+'] ∨ sign = ['-'] →
      Digits digits → Exponent (mark :: (sign ++ digits))

inductive NumberText : List Char → Prop
  | parts {minus whole fraction exponent} : minus = [] ∨ minus = ['-'] → Whole whole →
      Fraction fraction → Exponent exponent →
      NumberText (minus ++ (whole ++ (fraction ++ exponent)))

/-- The number that a template reads in a literal. -/
def literal? (text : List Char) : Option Float :=
  (Number.ofText? text).filter Float.isFinite

inductive Separated (Item : List Char → α → Prop) : List Char → List α → Prop
  | one {lead used gap item} : Blank lead → Item used item → Blank gap →
      Separated Item (lead ++ (used ++ gap)) [item]
  | more {lead used gap others item items} : Blank lead → Item used item → Blank gap →
      Separated Item others items →
      Separated Item (lead ++ (used ++ (gap ++ ',' :: others))) (item :: items)

inductive Listed (Item : List Char → α → Prop) (close : Char) : List Char → List α → Prop
  | empty {gap} : Blank gap → Listed Item close (gap ++ [close]) []
  | items {used items} : Separated Item used items → Listed Item close (used ++ [close]) items

inductive Member (Value : List Char → α → Prop) : List Char → String × α → Prop
  | colon {name content gap lead used value} : Content name content → Blank gap → Blank lead →
      Value used value →
      Member Value ('"' :: (name ++ '"' :: (gap ++ ':' :: (lead ++ used))))
        (String.ofList content, value)

/-- A text without white space around it, and the document it writes down, given the numbers of its
literals. -/
inductive Written (number? : List Char → Option ν) : List Char → Document ν → Prop
  | null : Written number? ['n', 'u', 'l', 'l'] .null
  | isTrue : Written number? ['t', 'r', 'u', 'e'] (.bool true)
  | isFalse : Written number? ['f', 'a', 'l', 's', 'e'] (.bool false)
  | number {text n} : NumberText text → number? text = some n → Written number? text (.number n)
  | string {used content} : Content used content →
      Written number? ('"' :: (used ++ ['"'])) (.string (String.ofList content))
  | array {body items} : Listed (Written number?) ']' body items →
      Written number? ('[' :: body) (.array items)
  | object {body members} : Listed (Member (Written number?)) '}' body members →
      Written number? ('{' :: body) (.object members)

inductive DocumentText (number? : List Char → Option ν) : List Char → Document ν → Prop
  | one {lead used gap document} : Blank lead → Written number? used document → Blank gap →
      DocumentText number? (lead ++ (used ++ gap)) document

/-! A condition on items and a function of them can be taken out of a list of items. -/

theorem separated_image {Item : List Char → α → Prop} {Good : α → Prop} {f : α → β}
    {used : List Char} {results : List β} :
    Separated (fun used result => ∃ item, Item used item ∧ Good item ∧ f item = result)
        used results ↔
      ∃ items, Separated Item used items ∧ (∀ item ∈ items, Good item) ∧ items.map f = results := by
  constructor
  · intro separated
    induction separated with
    | one lead found gap =>
        obtain ⟨item, read, good, same⟩ := found
        exact ⟨[item], .one lead read gap, by simpa using good, by simpa using same⟩
    | more lead found gap _ ih =>
        obtain ⟨item, read, good, same⟩ := found
        obtain ⟨items, others, rest, same'⟩ := ih
        refine ⟨item :: items, .more lead read gap others, ?_, by simp [same, same']⟩
        simpa using ⟨good, rest⟩
  · rintro ⟨items, separated, good, rfl⟩
    induction separated with
    | one lead read gap => exact .one lead ⟨_, read, good _ (by simp), rfl⟩ gap
    | more lead read gap _ ih =>
        exact .more lead ⟨_, read, good _ (by simp), rfl⟩ gap
          (ih fun item member => good item (List.mem_cons_of_mem _ member))

theorem listed_image {Item : List Char → α → Prop} {Good : α → Prop} {f : α → β} {close : Char}
    {used : List Char} {results : List β} :
    Listed (fun used result => ∃ item, Item used item ∧ Good item ∧ f item = result) close
        used results ↔
      ∃ items, Listed Item close used items ∧ (∀ item ∈ items, Good item) ∧
        items.map f = results := by
  constructor
  · intro listed
    cases listed with
    | empty gap => exact ⟨[], .empty gap, by simp, rfl⟩
    | items separated =>
        obtain ⟨items, read, good, same⟩ := separated_image.mp separated
        exact ⟨items, .items read, good, same⟩
  · rintro ⟨items, listed, good, same⟩
    cases listed with
    | empty gap =>
        cases same
        exact .empty gap
    | items separated => exact .items (separated_image.mpr ⟨_, separated, good, same⟩)

theorem member_image {Value : List Char → α → Prop} {Good : α → Prop} {f : α → β}
    {used : List Char} {result : String × β} :
    Member (fun used result => ∃ item, Value used item ∧ Good item ∧ f item = result)
        used result ↔
      ∃ member, Member Value used member ∧ Good member.2 ∧ (member.1, f member.2) = result := by
  constructor
  · intro read
    cases read with
    | colon name gap lead found =>
        obtain ⟨item, value, good, same⟩ := found
        exact ⟨(_, item), .colon name gap lead value, good, by rw [same]⟩
  · rintro ⟨member, read, good, rfl⟩
    cases read with
    | colon name gap lead value => exact .colon name gap lead ⟨_, value, good, rfl⟩

theorem listed_member_image {Value : List Char → α → Prop} {Good : α → Prop} {f : α → β}
    {close : Char} {used : List Char} {results : List (String × β)} :
    Listed (Member fun used result => ∃ item, Value used item ∧ Good item ∧ f item = result) close
        used results ↔
      ∃ members, Listed (Member Value) close used members ∧ (∀ member ∈ members, Good member.2) ∧
        Members.mapContents f members = results := by
  have member : Member (fun used result => ∃ item, Value used item ∧ Good item ∧ f item = result) =
      fun used result => ∃ member, Member Value used member ∧ Good member.2 ∧
        (member.1, f member.2) = result := by
    funext used result
    exact propext member_image
  rw [member]
  exact listed_image

theorem listed_and {Item : List Char → α → Prop} {Good : α → Prop} {close : Char}
    {used : List Char} {items : List α} :
    Listed (fun used item => Item used item ∧ Good item) close used items ↔
      Listed Item close used items ∧ ∀ item ∈ items, Good item := by
  have image := @listed_image α α Item Good id close used items
  simpa using image

theorem listed_member_and {Value : List Char → α → Prop} {Good : α → Prop} {close : Char}
    {used : List Char} {members : List (String × α)} :
    Listed (Member fun used item => Value used item ∧ Good item) close used members ↔
      Listed (Member Value) close used members ∧ ∀ member ∈ members, Good member.2 := by
  have image := @listed_member_image α α Value Good id close used members
  simpa [Members.mapContents_id] using image

section

variable {Item Other : List Char → α → Prop}

theorem Separated.mono (each : ∀ used item, Item used item → Other used item) {used : List Char}
    {items : List α} (separated : Separated Item used items) : Separated Other used items := by
  induction separated with
  | one lead found gap => exact .one lead (each _ _ found) gap
  | more lead found gap _ ih => exact .more lead (each _ _ found) gap ih

theorem Listed.mono (each : ∀ used item, Item used item → Other used item) {close : Char}
    {used : List Char} {items : List α} (listed : Listed Item close used items) :
    Listed Other close used items := by
  cases listed with
  | empty gap => exact .empty gap
  | items separated => exact .items (separated.mono each)

theorem Member.mono (each : ∀ used item, Item used item → Other used item) (used : List Char)
    (member : String × α) (read : Member Item used member) : Member Other used member := by
  cases read with
  | colon name gap lead value => exact .colon name gap lead (each _ _ value)

end

/-- Induction with the items and the members that the text of a document lists. -/
theorem Written.induction {number? : List Char → Option ν} {motive : List Char → Document ν → Prop}
    (null : motive ['n', 'u', 'l', 'l'] .null) (isTrue : motive ['t', 'r', 'u', 'e'] (.bool true))
    (isFalse : motive ['f', 'a', 'l', 's', 'e'] (.bool false))
    (number : ∀ text n, NumberText text → number? text = some n → motive text (.number n))
    (string : ∀ used content, Content used content →
      motive ('"' :: (used ++ ['"'])) (.string (String.ofList content)))
    (array : ∀ body items, Listed motive ']' body items → motive ('[' :: body) (.array items))
    (object : ∀ body members, Listed (Member motive) '}' body members →
      motive ('{' :: body) (.object members))
    {text : List Char} {document : Document ν} (written : Written number? text document) :
    motive text document :=
  @Written.rec ν number? (fun text document _ => motive text document)
    (fun body items _ => Listed motive ']' body items)
    (fun body members _ => Listed (Member motive) '}' body members)
    (fun used items _ => Separated motive used items)
    (fun used members _ => Separated (Member motive) used members)
    (fun used member _ => Member motive used member)
    null isTrue isFalse (number _ _) (string _ _) (fun _ => array _ _) (fun _ => object _ _)
    .empty (fun _ => .items) .empty (fun _ => .items)
    (fun lead _ gap found => .one lead found gap)
    (fun lead _ gap _ found others => .more lead found gap others)
    (fun lead _ gap found => .one lead found gap)
    (fun lead _ gap _ found others => .more lead found gap others)
    (fun name gap lead _ value => .colon name gap lead value) _ _ written

def withLiteral (number? : List Char → Option ν) (literal : List Char) :
    Option (List Char × ν) :=
  (number? literal).map (literal, ·)

theorem Written.literals {number? : List Char → Option ν} {text : List Char}
    {document : Document ν} (written : Written number? text document) :
    ∃ pairs, Written (withLiteral number?) text pairs ∧
      (pairs.EveryNumber fun pair => number? pair.1 = some pair.2) ∧
      pairs.map Prod.snd = document := by
  refine written.induction (motive := fun text document => ∃ pairs,
      Written (withLiteral number?) text pairs ∧
        (pairs.EveryNumber fun pair => number? pair.1 = some pair.2) ∧
        pairs.map Prod.snd = document)
    ⟨_, .null, .null, rfl⟩ ⟨_, .isTrue, .bool true, rfl⟩ ⟨_, .isFalse, .bool false, rfl⟩ ?number
    (fun _ _ content => ⟨_, .string content, .string _, rfl⟩) ?array ?object
  case number =>
    intro text n isNumber meant
    have paired : withLiteral number? text = some (text, n) := by
      rw [withLiteral, meant]
      rfl
    exact ⟨_, .number isNumber paired, .number meant, rfl⟩
  case array =>
    intro body items listed
    obtain ⟨pairs, read, every, rfl⟩ := listed_image.mp listed
    exact ⟨_, .array read, .array every, Document.map_array _ _⟩
  case object =>
    intro body members listed
    obtain ⟨pairs, read, every, rfl⟩ := listed_member_image.mp listed
    exact ⟨_, .object read, .object every, Document.map_object _ _⟩

/-- Wherever a literal stands for the number, it stands for another one as well. -/
def Translates (number? : List Char → Option μ) (other? : List Char → Option ν) (f : μ → ν)
    (n : μ) : Prop :=
  ∀ literal, number? literal = some n → other? literal = some (f n)

theorem Written.map {number? : List Char → Option μ} {other? : List Char → Option ν} {f : μ → ν}
    {text : List Char} {document : Document μ} (written : Written number? text document)
    (each : document.EveryNumber (Translates number? other? f)) :
    Written other? text (document.map f) := by
  revert each
  refine written.induction (motive := fun text document =>
      document.EveryNumber (Translates number? other? f) → Written other? text (document.map f))
    (fun _ => .null) (fun _ => .isTrue) (fun _ => .isFalse) ?number
    (fun _ _ content _ => .string content) ?array ?object
  case number =>
    intro text n isNumber meant every
    cases every with
    | number translates => exact .number isNumber (translates text meant)
  case array =>
    intro body items listed every
    cases every with
    | array each =>
        rw [Document.map_array]
        have mapped := (listed_image (f := Document.map f)).mpr ⟨items, listed, each, rfl⟩
        exact .array (mapped.mono fun _ _ ⟨_, read, every, same⟩ => same ▸ read every)
  case object =>
    intro body members listed every
    cases every with
    | object each =>
        rw [Document.map_object]
        have mapped := (listed_member_image (f := Document.map f)).mpr ⟨members, listed, each, rfl⟩
        exact .object (mapped.mono (Member.mono fun _ _ ⟨_, read, every, same⟩ => same ▸ read every))

theorem DocumentText.map {number? : List Char → Option μ} {other? : List Char → Option ν}
    {f : μ → ν} {text : List Char} {document : Document μ}
    (written : DocumentText number? text document)
    (each : document.EveryNumber (Translates number? other? f)) :
    DocumentText other? text (document.map f) := by
  obtain ⟨blankLead, written, blankGap⟩ := written
  exact .one blankLead (written.map each) blankGap

end Stencil.Json
