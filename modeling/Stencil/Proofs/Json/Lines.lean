import Stencil.Proofs.Json.Printing

/-! The lines of a text. Everything that is printed is visible, except for the line breaks of the
indented layout, so on one line there are no control characters. -/

namespace Stencil.Json

def Shown (layout : Layout) (text : List Char) : Prop :=
  ∀ c ∈ text, Unicode.isControl c = true → layout = .pretty ∧ c = '\n'

section

variable {layout : Layout} {first second text : List Char}

theorem shown_of_visible (visible : ∀ c ∈ text, Unicode.isControl c = false) :
    Shown layout text := by
  intro c member control
  rw [visible c member] at control
  cases control

theorem Shown.visible (shown : Shown .compact text) : ∀ c ∈ text, Unicode.isControl c = false := by
  intro c member
  apply Bool.eq_false_of_not_eq_true
  intro control
  cases (shown c member control).1

theorem shown_of_all (visible : (text.all fun c => !Unicode.isControl c) = true) :
    Shown layout text := by
  apply shown_of_visible
  intro c member
  simpa using List.all_eq_true.mp visible c member

theorem shown_nil : Shown layout [] :=
  shown_of_visible (by simp)

theorem shown_cons {c : Char} (visible : Unicode.isControl c = false) (shown : Shown layout text) :
    Shown layout (c :: text) := by
  intro d member control
  rcases List.mem_cons.mp member with rfl | later
  · rw [visible] at control
    cases control
  · exact shown d later control

theorem Shown.append (left : Shown layout first) (right : Shown layout second) :
    Shown layout (first ++ second) := by
  intro c member control
  rcases List.mem_append.mp member with present | present
  · exact left c present control
  · exact right c present control

theorem shown_flatMap {content : List Char} {f : Char → List Char}
    (each : ∀ c ∈ content, Shown layout (f c)) : Shown layout (content.flatMap f) := by
  intro c member control
  obtain ⟨d, inside, present⟩ := List.mem_flatMap.mp member
  exact each d inside c present control

theorem isControl_of_bounds {c : Char} (low : 0x20 ≤ c.toNat) (high : c.toNat < 0x7f) :
    Unicode.isControl c = false := by
  apply Bool.eq_false_of_not_eq_true
  rw [isControl_iff]
  omega

theorem hex4_shown (code : Nat) : Shown layout (Text.hex4 code) := by
  apply shown_of_visible
  intro c member
  rcases List.mem_append.mp member with zero | digit
  · rw [List.eq_of_mem_replicate zero]
    rfl
  · obtain ⟨low, high⟩ := isHexDigit_bounds (hex_digits code c digit)
    exact isControl_of_bounds (Nat.le_trans (by decide) low) (Nat.lt_of_le_of_lt high (by decide))

theorem escape_shown (c : Char) : Shown layout (escape c) := by
  have pair : ∀ mark, Unicode.isControl mark = false → Shown layout ['\\', mark] := by
    intro mark visible
    exact shown_cons rfl (shown_cons visible shown_nil)
  unfold escape
  split
  next => exact pair '"' rfl
  next =>
  split
  next => exact pair '\\' rfl
  next =>
  split
  next => exact pair 'n' rfl
  next =>
  split
  next => exact pair 'r' rfl
  next =>
  split
  next => exact pair 't' rfl
  next =>
  split
  next => exact shown_cons rfl (shown_cons rfl (hex4_shown c.toNat))
  next visible => exact shown_cons (Bool.eq_false_of_not_eq_true visible) shown_nil

theorem quoted_shown (s : String) : Shown layout (quoted s) := by
  apply shown_cons rfl
  apply Shown.append
  · exact shown_flatMap fun c _ => escape_shown c
  · exact shown_cons rfl shown_nil

theorem NumberText.shown {used : List Char} (isNumber : NumberText used) : Shown layout used := by
  apply shown_of_visible
  intro c member
  obtain ⟨low, high⟩ := isNumber.bounds c member
  exact isControl_of_bounds (by omega) (by omega)

theorem numeral_shown (x : Float) : Shown layout (numeral x) := by
  unfold numeral
  split
  next finite => exact (numberText_text finite).shown
  next => exact shown_of_all rfl

theorem lineBreak_shown (level : Nat) : Shown layout (layout.lineBreak level) := by
  cases layout with
  | compact => exact shown_nil
  | pretty =>
      intro c member control
      rcases List.mem_cons.mp member with rfl | space
      · exact ⟨rfl, rfl⟩
      · rw [List.eq_of_mem_replicate space] at control
        cases control

theorem lines_shown {α : Type} {Item : List Char → α → Prop} (level : Nat)
    {texts : List (List Char)} {items : List α} (all : List.Forall₂ Item texts items)
    (each : ∀ text item, Item text item → Shown layout text) :
    Shown layout (lines layout level texts) := by
  induction all with
  | nil => exact shown_nil
  | cons first others ih =>
      have line := (lineBreak_shown level).append (each _ _ first)
      cases others with
      | nil => exact line
      | cons next others => exact line.append (shown_cons rfl ih)

theorem enclosed_shown {α : Type} {Item : List Char → α → Prop} (level : Nat)
    {opening closing : Char} (opens : Unicode.isControl opening = false)
    (closes : Unicode.isControl closing = false) {texts : List (List Char)} {items : List α}
    (all : List.Forall₂ Item texts items) (each : ∀ text item, Item text item → Shown layout text) :
    Shown layout (enclosed layout level opening closing texts) := by
  have last : Shown layout [closing] := shown_cons closes shown_nil
  unfold enclosed
  split
  · exact shown_cons opens last
  · have body := (lines_shown (level + 1) all each).append (lineBreak_shown level)
    exact shown_cons opens (body.append last)

theorem colon_shown : Shown layout layout.colon := by
  cases layout <;> exact shown_of_all rfl

theorem print_shown (level : Nat) (value : Value) : Shown layout (print layout level value) := by
  refine print_induction (motive := fun text _ => Shown layout text)
    (f := fun x => if x.isFinite then some x else none) (shown_of_all rfl) ?_
    (fun x _ => numeral_shown x) quoted_shown ?_ ?_ level
    (Value.everyNumber_of_forall (fun _ => trivial) value)
  · intro b
    cases b <;> exact shown_of_all rfl
  · intro level texts items each
    exact enclosed_shown level rfl rfl each fun _ _ shown => shown
  · intro level texts members each
    refine enclosed_shown level rfl rfl each ?_
    rintro _ _ ⟨name, shown⟩
    exact ((quoted_shown name).append colon_shown).append shown

end

theorem compact_visible (value : Value) :
    ∀ c ∈ (compact value).toList, Unicode.isControl c = false := by
  rw [compact, String.toList_ofList]
  exact (print_shown 0 value).visible

end Stencil.Json
