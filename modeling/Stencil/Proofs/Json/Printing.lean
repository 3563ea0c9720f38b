import Mathlib.Data.List.Forall2
import Stencil.Proofs.Json.Decimals
import Stencil.Proofs.Json.Normal

/-! Printed values. Both layouts write the same document, so the document reader and the template
language give back what the text of a value shows of it. -/

namespace Stencil.Json

variable {ν : Type}

theorem isControl_iff (c : Char) : Unicode.isControl c = true ↔
    c.toNat < 0x20 ∨ (0x7f ≤ c.toNat ∧ c.toNat < 0xa0) := by
  simp [Unicode.isControl, Unicode.inCategories, Unicode.Category.flips, Unicode.controls,
    Unicode.within]

theorem hexValue?_digitChar {n : Nat} (small : n < 16) :
    Text.hexValue? n.digitChar = some n := by
  have all : ∀ digit : Fin 16, Text.hexValue? (Nat.digitChar digit) = some digit.val := by decide
  exact all ⟨n, small⟩

theorem hex_digits (n : Nat) : ∀ c ∈ Text.hex n, Text.isHexDigit c = true := by
  induction n using Nat.strongRecOn with
  | ind n ih =>
      intro c member
      rw [Text.hex, Nat.toDigits_eq_if (by decide)] at member
      split at member
      next small =>
        rw [List.mem_singleton.mp member, Text.isHexDigit, hexValue?_digitChar small]
        rfl
      next large =>
        rcases List.mem_append.mp member with higher | last
        · exact ih (n / 16) (by omega) c higher
        · rw [List.mem_singleton.mp last, Text.isHexDigit, hexValue?_digitChar (by omega)]
          rfl

theorem hexNumber_hex (n : Nat) : Text.hexNumber (Text.hex n) = n := by
  induction n using Nat.strongRecOn with
  | ind n ih =>
      rw [Text.hex, Nat.toDigits_eq_if (by decide)]
      split
      next small => simp [Text.hexNumber, hexValue?_digitChar small]
      next large =>
        have higher := ih (n / 16) (by omega)
        have last := hexValue?_digitChar (n := n % 16) (by omega)
        rw [Text.hex, Text.hexNumber] at higher
        rw [Text.hexNumber, List.foldl_append, higher]
        simp only [List.foldl_cons, List.foldl_nil, last, Option.getD_some]
        omega

theorem hexNumber_zeros (zeros : Nat) (digits : List Char) :
    Text.hexNumber (List.replicate zeros '0' ++ digits) = Text.hexNumber digits := by
  induction zeros with
  | zero => rfl
  | succ zeros ih => exact ih

theorem hex4_quad {code : Nat} (small : code < 0x10000) : HexQuad (Text.hex4 code) code := by
  have fits : (Text.hex code).length ≤ 4 :=
    (Nat.length_toDigits_le_iff (by decide) (by decide)).mpr small
  refine ⟨?_, ?_, ?_⟩
  · simp only [Text.hex4, List.length_append, List.length_replicate]
    omega
  · intro c member
    rcases List.mem_append.mp member with zero | digit
    · rw [List.eq_of_mem_replicate zero]
      rfl
    · exact hex_digits code c digit
  · rw [Text.hex4, hexNumber_zeros, hexNumber_hex]

theorem control_escape {c : Char} (control : Unicode.isControl c = true) :
    Escape ('u' :: Text.hex4 c.toNat) c := by
  have small : c.toNat < 0xa0 := by
    rcases (isControl_iff c).mp control with low | high
    · omega
    · exact high.2
  have whole : isSurrogate c.toNat = false := by
    simp only [isSurrogate, Text.isHighSurrogate, Text.isLowSurrogate, Bool.or_eq_false_iff,
      Bool.and_eq_false_iff, decide_eq_false_iff_not]
    omega
  have written := Escape.code (hex4_quad (by omega)) whole
  rw [Char.ofNat_toNat] at written
  exact written

theorem escape_content (c : Char) {used content : List Char} (behind : Content used content) :
    Content (escape c ++ used) (c :: content) := by
  unfold escape
  split
  next same => exact .escape (.short (congrArg some same.symm)) behind
  next noQuote =>
  split
  next same => exact .escape (.short (congrArg some same.symm)) behind
  next noBackslash =>
  split
  next same => exact .escape (.short (congrArg some same.symm)) behind
  next =>
  split
  next same => exact .escape (.short (congrArg some same.symm)) behind
  next =>
  split
  next same => exact .escape (.short (congrArg some same.symm)) behind
  next =>
  split
  next control => exact .escape (control_escape control) behind
  next visible =>
    have high : 0x20 ≤ c.toNat := by
      rw [isControl_iff] at visible
      omega
    exact .plain noQuote noBackslash high behind

theorem content_escape (content : List Char) : Content (content.flatMap escape) content := by
  induction content with
  | nil => exact .nil
  | cons c rest ih =>
      rw [List.flatMap_cons]
      exact escape_content c ih

theorem quoted_written {number? : List Char → Option ν} (s : String) :
    Written number? (quoted s) (.string s) := by
  have written : Written number? _ _ := .string (content_escape s.toList)
  rwa [String.ofList_toList] at written

theorem numeral_written (x : Float) :
    Written literal? (numeral x) ((if x.isFinite then some x else none).elim .null .number) := by
  unfold numeral
  split
  next finite =>
    exact .number (numberText_text finite) (literal?_eq_some.mpr ⟨ofText?_text finite, finite⟩)
  next => exact .null

theorem lineBreak_blank (layout : Layout) (level : Nat) : Blank (layout.lineBreak level) := by
  cases layout with
  | compact => exact blank_nil
  | pretty =>
      intro c member
      rcases List.mem_cons.mp member with rfl | space
      · rfl
      · rw [List.eq_of_mem_replicate space]
        rfl

section

variable {α : Type} {Item : List Char → α → Prop}

theorem lines_separated (layout : Layout) (level : Nat) {gap text : List Char}
    {texts : List (List Char)} {item : α} {items : List α} (blank : Blank gap)
    (first : Item text item) (others : List.Forall₂ Item texts items) :
    Separated Item (lines layout level (text :: texts) ++ gap) (item :: items) := by
  induction others generalizing text item with
  | nil =>
      rw [lines, List.append_assoc]
      exact .one (lineBreak_blank layout level) first blank
  | cons next others ih =>
      have rest := Separated.more (lineBreak_blank layout level) first blank_nil (ih next)
      rw [lines, List.append_assoc, List.append_assoc]
      · exact rest
      · exact List.cons_ne_nil _ _

theorem enclosed_listed (layout : Layout) (level : Nat) (opening close : Char)
    {texts : List (List Char)} {items : List α} (all : List.Forall₂ Item texts items) :
    ∃ body, enclosed layout level opening close texts = opening :: body ∧
      Listed Item close body items := by
  cases all with
  | nil => exact ⟨_, rfl, .empty blank_nil⟩
  | cons first others =>
      exact ⟨_, rfl, .items (lines_separated layout (level + 1)
        (lineBreak_blank layout level) first others)⟩

end

theorem colon_written {number? : List Char → Option ν} (layout : Layout) (name : String)
    {text : List Char} {document : Document ν} (written : Written number? text document) :
    Member (Written number?) (quoted name ++ layout.colon ++ text) (name, document) := by
  obtain ⟨lead, blank, colon⟩ : ∃ lead, Blank lead ∧ layout.colon = ':' :: lead := by
    cases layout with
    | compact => exact ⟨[], blank_nil, rfl⟩
    | pretty => exact ⟨[' '], by simp [Blank, isBlank], rfl⟩
  have member := Member.colon (content_escape name.toList) blank_nil blank written
  rw [String.ofList_toList] at member
  rw [colon, quoted, List.cons_append, List.cons_append, List.append_assoc, List.append_assoc]
  exact member

theorem forall₂_maps {α β γ : Type} {R : β → γ → Prop} {f : α → β} {g : α → γ} {items : List α}
    (each : ∀ item ∈ items, R (f item) (g item)) :
    List.Forall₂ R (items.map f) (items.map g) := by
  rw [List.forall₂_map_left_iff, List.forall₂_map_right_iff, List.forall₂_same]
  exact each

theorem printItems_eq (layout : Layout) (level : Nat) (items : List Value) :
    printItems layout level items = items.map (print layout level) := by
  induction items with
  | nil => rfl
  | cons item rest ih => rw [printItems, List.map_cons, ih]

theorem printMembers_eq (layout : Layout) (level : Nat) (members : List (String × Value)) :
    printMembers layout level members = Members.mapContents (print layout level) members := by
  induction members with
  | nil => rfl
  | cons member rest ih =>
      rw [printMembers, ih]
      rfl

inductive Labelled (layout : Layout) (Content : List Char → Document ν → Prop) :
    List Char → String × Document ν → Prop
  | colon {text document} (name : String) : Content text document →
      Labelled layout Content (quoted name ++ layout.colon ++ text) (name, document)

/-- What holds of the texts of leaves, and of texts in brackets if it holds of each, holds of the
text of every value. -/
theorem print_induction {layout : Layout} {motive : List Char → Document ν → Prop}
    {f : Float → Option ν} {Good : Float → Prop} (null : motive "null".toList .null)
    (bool : ∀ b, motive (if b then "true" else "false").toList (.bool b))
    (number : ∀ x, Good x → motive (numeral x) ((f x).elim .null .number))
    (string : ∀ s, motive (quoted s) (.string s))
    (array : ∀ level texts items, List.Forall₂ motive texts items →
      motive (enclosed layout level '[' ']' texts) (.array items))
    (object : ∀ level texts members, List.Forall₂ (Labelled layout motive) texts members →
      motive (enclosed layout level '\x7b' '\x7d' texts) (.object members))
    (level : Nat) {value : Value} (good : value.EveryNumber Good) :
    motive (print layout level value) (Document.printedBy f value) := by
  induction good generalizing level with
  | null => exact null
  | bool b => exact bool b
  | number good => exact number _ good
  | string s => exact string s
  | array _ ih =>
      rw [print, printItems_eq, Document.printedBy, Document.printedItems_eq]
      exact array _ _ _ (forall₂_maps fun item inside => ih item inside (level + 1))
  | object _ ih =>
      rw [print, printMembers_eq, byName_mapContents, Members.mapContents, List.map_map,
        Document.printedBy_object]
      refine object _ _ _ (forall₂_maps fun member sorted => ?_)
      exact .colon member.1 (ih member (mem_byName.mp sorted) (level + 1))

section

variable {number? : List Char → Option ν} {f : Float → Option ν} {value : Value}

theorem print_written (layout : Layout) (level : Nat)
    (meant : value.EveryNumber fun x => Written number? (numeral x) ((f x).elim .null .number)) :
    Written number? (print layout level value) (Document.printedBy f value) := by
  refine print_induction .null ?_ (fun _ meant => meant) quoted_written ?_ ?_ level meant
  · intro b
    cases b with
    | true => exact .isTrue
    | false => exact .isFalse
  · intro level texts items each
    obtain ⟨body, text, listed⟩ := enclosed_listed layout level '[' ']' each
    rw [text]
    exact .array listed
  · intro level texts members each
    have named : List.Forall₂ (Member (Written number?)) texts members :=
      each.imp fun _ _ ⟨name, written⟩ => colon_written layout name written
    obtain ⟨body, text, listed⟩ := enclosed_listed layout level '\x7b' '\x7d' named
    rw [text]
    exact .object listed

theorem documentText_printed {text : String}
    (meant : value.EveryNumber fun x => Written number? (numeral x) ((f x).elim .null .number))
    (printed : text ∈ [compact value, pretty value]) :
    DocumentText number? text.toList (Document.printedBy f value) := by
  obtain ⟨layout, rfl⟩ : ∃ layout, text = String.ofList (print layout 0 value) := by
    simp only [List.mem_cons, List.not_mem_nil, or_false] at printed
    rcases printed with rfl | rfl
    · exact ⟨.compact, rfl⟩
    · exact ⟨.pretty, rfl⟩
  rw [String.toList_ofList]
  have whole := DocumentText.one blank_nil (print_written layout 0 meant) blank_nil
  rw [List.append_nil] at whole
  exact whole

end

theorem printed_written {value : Value} {text : String}
    (printed : text ∈ [compact value, pretty value]) :
    DocumentText literal? text.toList (Document.printed value) :=
  documentText_printed (Value.everyNumber_of_forall numeral_written value) printed

theorem printed_rendered {value : Value} (distinct : value.KeysDistinct) :
    (Document.printed value).rendered = value.normal := by
  rw [Document.rendered, Document.printed, Document.merged_printedBy distinct]
  exact Document.printed_valueBy value

/-- The text that is printed for a number reads back as that number. -/
def ReadsBack [Numbers] (x : Float) : Prop :=
  ∃ n, Numbers.ofText? (Number.text x) = some n ∧ Numbers.toFloat? n = some x

def kept? [Numbers] (x : Float) : Option Numbers.Number :=
  if x.isFinite then Numbers.ofText? (Number.text x) else none

theorem kept?_written [Numbers] {x : Float} (back : x.isFinite = true → ReadsBack x) :
    Written Numbers.ofText? (numeral x) ((kept? x).elim .null .number) := by
  unfold numeral kept?
  split
  next finite =>
    obtain ⟨n, stored, _⟩ := back finite
    rw [stored]
    exact .number (numberText_text finite) stored
  next => exact .null

theorem kept?_toValue [Numbers] {x : Float} (back : x.isFinite = true → ReadsBack x) :
    ((kept? x).elim Document.null Document.number).toValue = (Value.number x).normal := by
  rw [Value.normal, kept?]
  split
  next finite =>
    obtain ⟨n, stored, same⟩ := back finite
    rw [stored, Option.elim_some, Document.toValue, Document.valueBy, same]
    rfl
  next => rfl

/-- What is printed reads back: as a document, provided that the texts of its numbers do, and as a
template whatever its functions and its input are. -/
theorem reads_printed [Numbers] [Decoder] (reads : ReadsTexts) (value : Value)
    (distinct : value.KeysDistinct) (text : String)
    (printed : text ∈ [compact value, pretty value]) :
    ((value.EveryNumber fun x => x.isFinite = true → ReadsBack x) → value.depth ≤ 127 →
      ∃ document, decode text.toUTF8.toList = .ok document ∧ document.toValue = value.normal) ∧
    (value.depth ≤ 128 → ∀ functions, ∃ template,
      Template.compile functions text = .ok template ∧ ∀ policy input,
        template.renderWith policy input = .ok value.normal ∧
          (template.withPolicy policy).render input = .ok value.normal) := by
  constructor
  · intro numbers shallow
    have written := documentText_printed (numbers.mono fun _ => kept?_written) printed
    refine ⟨Document.printedBy kept? value, ?_, ?_⟩
    · rw [toUTF8_toList, reads.decoded]
      exact ⟨_, written, Nat.le_trans (Document.printedBy_depth value) shallow,
        Document.merged_printedBy distinct⟩
    · exact Document.printedBy_valueBy (numbers.mono fun _ => kept?_toValue)
  · intro shallow functions
    have deep : (Document.printed value).depth ≤ Source.maxDepth :=
      Nat.le_trans (Document.printedBy_depth value) shallow
    obtain ⟨template, compiled, renders⟩ := renders_written (printed_written printed) deep functions
    rw [printed_rendered distinct] at renders
    exact ⟨template, compiled, fun policy input => ⟨renders policy input, renders policy input⟩⟩

def unsorted : Value :=
  .object [("b", .array [.number (0.0 / 0.0), .number 1.5, .string "\"\x85"]), ("a", .object [])]

theorem reads_printed_unsorted :
    unsorted.KeysDistinct ∧ unsorted.depth = 2 ∧
    (unsorted.EveryNumber fun x => x.isFinite = true → ReadsBack x) ∧
    (∃ document, decode (pretty unsorted).toUTF8.toList = .ok document ∧ document.toValue =
      .object [("a", .object []), ("b", .array [.null, .number 1.5, .string "\"\x85"])]) ∧
    ∃ template, Template.compile [] (pretty unsorted) = .ok template ∧
      template.renderWith .errorOnMissing .null =
        .ok (.object [("a", .object []), ("b", .array [.null, .number 1.5, .string "\"\x85"])]) := by
  have distinct : unsorted.KeysDistinct := by
    have inner : Value.KeysDistinct
        (.array [.number (0.0 / 0.0), .number 1.5, .string "\"\x85"]) := by
      apply Value.KeysDistinct.array
      simp [Value.KeysDistinct.number, Value.KeysDistinct.string]
    have empty : Value.KeysDistinct (.object []) :=
      .object List.nodup_nil fun _ inside => absurd inside List.not_mem_nil
    have names : ["b", "a"].Nodup := by decide
    exact .object names (List.forall_mem_cons.mpr ⟨inner, List.forall_mem_singleton.mpr empty⟩)
  have special : (0.0 / 0.0 : Float).isFinite = false := by decide +kernel
  have finite : (1.5 : Float).isFinite = true := by decide +kernel
  have normal : unsorted.normal =
      .object [("a", .object []), ("b", .array [.null, .number 1.5, .string "\"\x85"])] := by
    simp [unsorted, Value.normal, Value.normalItems, Value.normalMembers, special, finite,
      List.mergeSort]
  have back : ReadsBack 1.5 := by
    have stored : Literal.ofText? (Number.text 1.5) = some ⟨1.5, by decide +kernel⟩ := by
      decide +kernel
    exact ⟨_, stored, rfl⟩
  have numbers : unsorted.EveryNumber fun x => x.isFinite = true → ReadsBack x := by
    have inner : Value.EveryNumber (fun x => x.isFinite = true → ReadsBack x)
        (.array [.number (0.0 / 0.0), .number 1.5, .string "\"\x85"]) := by
      apply Value.EveryNumber.array
      simp only [List.forall_mem_cons, List.not_mem_nil, false_implies, implies_true, and_true]
      have vacuous : ¬(0.0 / 0.0 : Float).isFinite = true := by simp [special]
      exact ⟨.number fun finite => absurd finite vacuous, .number fun _ => back, .string _⟩
    have empty : Value.EveryNumber (fun x => x.isFinite = true → ReadsBack x) (.object []) :=
      .object fun _ inside => absurd inside List.not_mem_nil
    exact .object (List.forall_mem_cons.mpr ⟨inner, List.forall_mem_singleton.mpr empty⟩)
  obtain ⟨decoded, rendered⟩ :=
    reads_printed reader_readsTexts unsorted distinct (pretty unsorted) (by simp)
  obtain ⟨template, compiled, renders⟩ := rendered (by decide) []
  rw [normal] at decoded renders
  exact ⟨distinct, rfl, numbers, decoded numbers (by decide), template, compiled,
    (renders .errorOnMissing .null).1⟩

end Stencil.Json
