import Stencil.Proofs.Query.Reading

/-! Brackets, segments and whole queries. A member name goes on as far as it can; no segment starts
with a character of one. -/

namespace Stencil.Query

open Json (Lacks)

theorem bracket_reads (text : List Char) (selectors : List Selector) (rest : List Char) :
    Reads (bracket text) selectors rest ↔
      ∃ first middle, Reads (selector (skipSpaces text)) first middle ∧
        ((skipSpaces middle = ']' :: rest ∧ selectors = [first]) ∨
          ∃ others more, skipSpaces middle = ',' :: others ∧ Reads (bracket others) more rest ∧
            selectors = first :: more) := by
  constructor
  · rintro ⟨step, run, rfl, rfl⟩
    rw [bracket] at run
    obtain ⟨spaced, spacedRun, run⟩ := bind_eq_ok.mp run
    refine ⟨spaced.result, spaced.rest, ⟨spaced, spacedRun, rfl, rfl⟩, ?_⟩
    dsimp only at run
    split at run
    next others comma =>
      obtain ⟨more, moreRun, same⟩ := bind_eq_ok.mp run
      cases same
      exact Or.inr ⟨others, more.result, comma, ⟨more, moreRun, rfl, rfl⟩, rfl⟩
    next others close =>
      cases run
      exact Or.inl ⟨close, rfl⟩
    next => cases run
  · rintro ⟨_, _, ⟨spaced, spacedRun, rfl, rfl⟩, follows⟩
    rw [bracket, spacedRun]
    simp only [bind, Except.bind]
    split
    next others comma =>
      change skipSpaces spaced.rest = ',' :: others at comma
      rcases follows with ⟨close, _⟩ | ⟨_, more, found, ⟨step, ran, rfl, rfl⟩, rfl⟩
      · rw [comma] at close
        cases close
      · rw [comma] at found
        cases found
        rw [ran]
        exact ⟨_, rfl, rfl, rfl⟩
    next others close =>
      change skipSpaces spaced.rest = ']' :: others at close
      rcases follows with ⟨found, rfl⟩ | ⟨_, _, found, _⟩
      · rw [close] at found
        cases found
        exact ⟨_, rfl, rfl, rfl⟩
      · rw [close] at found
        cases found
    next noComma noClose =>
      rcases follows with ⟨found, _⟩ | ⟨_, _, found, _⟩
      · exact absurd found (noClose _)
      · exact absurd found (noComma _)

theorem bracket_sound {text rest : List Char} {selectors : List Selector}
    (reads : Reads (bracket text) selectors rest) :
    ∃ used, text = used ++ rest ∧ BracketText used selectors := by
  induction text using bracket.induct generalizing selectors with
  | case1 text ih =>
      obtain ⟨first, middle, read, follows⟩ := (bracket_reads text selectors rest).mp reads
      obtain ⟨before, cut, spacesBefore⟩ := spaces_split text
      obtain ⟨used, after, front, isSelector, spacesAfter⟩ := selector_sound read
      obtain ⟨more, behind, spacesMore⟩ := spaces_split middle
      have spaces : Spaces (after ++ more) := by
        intro c member
        rcases List.mem_append.mp member with here | later
        · exact spacesAfter c here
        · exact spacesMore c later
      rw [front, behind] at cut
      rcases follows with ⟨close, rfl⟩ | ⟨others, selectors, comma, later, rfl⟩
      · refine ⟨before ++ (used ++ ((after ++ more) ++ [']'])), ?_,
          .last spacesBefore isSelector spaces⟩
        rw [cut, close]
        simp
      · obtain ⟨spaced, ran, rfl, rfl⟩ := read
        obtain ⟨tail, rfl, isBracket⟩ := ih spaced others comma later
        refine ⟨before ++ (used ++ ((after ++ more) ++ ',' :: tail)), ?_,
          .more spacesBefore isSelector spaces isBracket⟩
        rw [cut, comma]
        simp

theorem bracket_complete {text : List Char} {selectors : List Selector}
    (isBracket : BracketText text selectors) (behind : List Char) :
    Reads (bracket (text ++ behind)) selectors behind := by
  induction isBracket with
  | @last before text after selector spacesBefore isSelector spacesAfter =>
      have close : skipSpaces (after ++ ']' :: behind) = ']' :: behind := by
        rw [skipSpaces_append _ spacesAfter, skipSpaces_cons _ (by decide)]
      obtain ⟨middle, read, left⟩ :=
        selector_complete isSelector ⟨']', by decide, behind, close⟩
      have regroup : before ++ (text ++ (after ++ [']'])) ++ behind =
          before ++ (text ++ (after ++ ']' :: behind)) := by simp
      rw [← skipSpaces_append _ spacesBefore] at read
      rw [regroup, bracket_reads]
      exact ⟨selector, middle, read, Or.inl ⟨left.trans close, rfl⟩⟩
  | @more before text after rest selector selectors spacesBefore isSelector spacesAfter _ ih =>
      have comma : skipSpaces (after ++ ',' :: (rest ++ behind)) = ',' :: (rest ++ behind) := by
        rw [skipSpaces_append _ spacesAfter, skipSpaces_cons _ (by decide)]
      obtain ⟨middle, read, left⟩ :=
        selector_complete isSelector ⟨',', by decide, rest ++ behind, comma⟩
      have regroup : before ++ (text ++ (after ++ ',' :: rest)) ++ behind =
          before ++ (text ++ (after ++ ',' :: (rest ++ behind))) := by simp
      rw [← skipSpaces_append _ spacesBefore] at read
      rw [regroup, bracket_reads]
      exact ⟨selector, middle, read, Or.inr ⟨_, selectors, left.trans comma, ih, rfl⟩⟩

theorem dotted_sound {text rest : List Char} {selector : Selector}
    (reads : Reads (dotted text) selector rest) :
    ∃ used, text = used ++ rest ∧ DottedText used selector := by
  cases text with
  | nil =>
      obtain ⟨_, run, _⟩ := reads
      cases run
  | cons c text =>
      obtain ⟨step, run, rfl, rfl⟩ := reads
      unfold dotted at run
      dsimp only at run
      split at run
      next star =>
        cases run
        exact ⟨['*'], by rw [star]; rfl, .wildcard⟩
      next =>
        split at run
        next => cases run
        next some =>
          cases run
          exact ⟨(c :: text).takeWhile isMemberCharacter, List.takeWhile_append_dropWhile.symm,
            .name some (List.all_eq_true.mp List.all_takeWhile)⟩

theorem dotted_complete {text behind : List Char} {selector : Selector}
    (isDotted : DottedText text selector) (ends : Lacks isMemberCharacter behind) :
    Reads (dotted (text ++ behind)) selector behind := by
  cases isDotted with
  | wildcard => exact ⟨_, rfl, rfl, rfl⟩
  | name some all =>
      cases text with
      | nil => exact absurd rfl some
      | cons c text =>
          have noStar : c ≠ '*' := by
            rintro rfl
            exact absurd (all '*' List.mem_cons_self) (by decide +kernel)
          have taken := Json.takeWhile_lacks all ends
          have dropped := Json.dropWhile_lacks all ends
          rw [List.cons_append] at taken dropped ⊢
          unfold dotted
          dsimp only
          rw [if_neg noStar, if_neg (by rw [taken]; exact some)]
          exact ⟨_, rfl, congrArg (fun cs => Selector.name (String.ofList cs)) taken, dropped⟩

theorem readSegment_sound {c : Char} {text rest : List Char} {segment : Segment}
    (reads : Reads (readSegment c text) segment rest) :
    ∃ used, c :: text = used ++ rest ∧ SegmentText used segment := by
  unfold readSegment at reads
  split at reads
  next dot =>
    subst dot
    split at reads
    next =>
      obtain ⟨selectors, read, rfl⟩ := reads.of_map Segment.descendant fun _ => ⟨rfl, rfl⟩
      obtain ⟨used, rfl, isBracket⟩ := bracket_sound read
      exact ⟨'.' :: '.' :: '[' :: used, rfl, .deepBracket isBracket⟩
    next =>
      obtain ⟨one, read, rfl⟩ := reads.of_map (fun one => Segment.descendant [one])
        fun _ => ⟨rfl, rfl⟩
      obtain ⟨used, rfl, isDotted⟩ := dotted_sound read
      exact ⟨'.' :: '.' :: used, rfl, .deepDotted isDotted⟩
    next =>
      obtain ⟨one, read, rfl⟩ := reads.of_map (fun one => Segment.child [one])
        fun _ => ⟨rfl, rfl⟩
      obtain ⟨used, rfl, isDotted⟩ := dotted_sound read
      exact ⟨'.' :: used, rfl, .dotted isDotted⟩
  next =>
    split at reads
    next bracket =>
      obtain ⟨selectors, read, rfl⟩ := reads.of_map Segment.child fun _ => ⟨rfl, rfl⟩
      obtain ⟨used, rfl, isBracket⟩ := bracket_sound read
      exact ⟨c :: used, rfl, bracket ▸ .bracket isBracket⟩
    next =>
      obtain ⟨_, run, _⟩ := reads
      cases run

theorem DottedText.starts {text : List Char} {selector : Selector}
    (isDotted : DottedText text selector) (behind : List Char) :
    ∃ c rest, text ++ behind = c :: rest ∧ c ≠ '.' ∧ c ≠ '[' := by
  cases isDotted with
  | wildcard => exact ⟨'*', behind, rfl, by decide, by decide⟩
  | name some all =>
      cases text with
      | nil => exact absurd rfl some
      | cons c rest =>
          have member := all c List.mem_cons_self
          refine ⟨c, rest ++ behind, rfl, ?_, ?_⟩
          · rintro rfl
            exact absurd member (by decide +kernel)
          · rintro rfl
            exact absurd member (by decide +kernel)

theorem readSegment_dotted {text : List Char} (noDot : ∀ rest, text ≠ '.' :: rest) :
    readSegment '.' text = (dotted text).map fun step => step.map fun one => .child [one] := by
  unfold readSegment
  rw [if_pos rfl]
  split
  · exact absurd rfl (noDot _)
  · exact absurd rfl (noDot _)
  · rfl

theorem readSegment_deepDotted {c : Char} (rest : List Char) (noBracket : c ≠ '[') :
    readSegment '.' ('.' :: c :: rest) = (dotted (c :: rest)).map fun step =>
      (step.map fun one => .descendant [one]).behind '.' := by
  simp [readSegment, noBracket]

theorem readSegment_complete {text behind : List Char} {segment : Segment}
    (isSegment : SegmentText text segment) (ends : Lacks isMemberCharacter behind) :
    ∃ c rest, text ++ behind = c :: rest ∧ Reads (readSegment c rest) segment behind := by
  cases isSegment with
  | @dotted text selector isDotted =>
      obtain ⟨c, rest, same, noDot, _⟩ := isDotted.starts behind
      have read := dotted_complete isDotted ends
      refine ⟨'.', text ++ behind, rfl, ?_⟩
      rw [readSegment_dotted]
      · exact read.map (fun one => Segment.child [one]) fun _ => ⟨rfl, rfl⟩
      · intro others found
        rw [same] at found
        exact noDot (List.cons.inj found).1
  | @deepDotted text selector isDotted =>
      obtain ⟨c, rest, same, _, noBracket⟩ := isDotted.starts behind
      have read := dotted_complete isDotted ends
      refine ⟨'.', '.' :: (text ++ behind), rfl, ?_⟩
      rw [same] at read ⊢
      rw [readSegment_deepDotted rest noBracket]
      exact read.map (fun one => Segment.descendant [one]) fun _ => ⟨rfl, rfl⟩
  | @bracket text selectors isBracket =>
      refine ⟨'[', text ++ behind, rfl, ?_⟩
      exact (bracket_complete isBracket behind).map Segment.child fun _ => ⟨rfl, rfl⟩
  | @deepBracket text selectors isBracket =>
      refine ⟨'.', '.' :: '[' :: (text ++ behind), rfl, ?_⟩
      exact (bracket_complete isBracket behind).map Segment.descendant fun _ => ⟨rfl, rfl⟩

theorem SegmentsText.lacks_member {text : List Char} {segments : List Segment}
    (isSegments : SegmentsText text segments) : Lacks isMemberCharacter text := by
  have noDot : isMemberCharacter '.' = false := by decide +kernel
  have noBracket : isMemberCharacter '[' = false := by decide +kernel
  intro c head
  cases isSegments with
  | nil => cases head
  | cons isSegment _ =>
      cases isSegment with
      | dotted _ => cases head; exact noDot
      | deepDotted _ => cases head; exact noDot
      | bracket _ => cases head; exact noBracket
      | deepBracket _ => cases head; exact noDot

theorem readSegments_sound {text : List Char} {segments : List Segment}
    (run : readSegments text = .ok segments) : SegmentsText text segments := by
  induction text using readSegments.induct generalizing segments with
  | case1 =>
      rw [readSegments] at run
      cases run
      exact .nil
  | case2 c rest ih =>
      rw [readSegments] at run
      obtain ⟨first, firstRun, run⟩ := bind_eq_ok.mp run
      obtain ⟨more, moreRun, same⟩ := bind_eq_ok.mp run
      cases same
      obtain ⟨used, cut, isSegment⟩ := readSegment_sound ⟨first, firstRun, rfl, rfl⟩
      rw [cut]
      exact .cons isSegment (ih first moreRun)

theorem readSegments_complete {text : List Char} {segments : List Segment}
    (isSegments : SegmentsText text segments) : readSegments text = .ok segments := by
  induction isSegments with
  | nil => rw [readSegments]
  | cons isSegment isSegments ih =>
      obtain ⟨c, rest, same, first, firstRun, rfl, rfl⟩ :=
        readSegment_complete isSegment isSegments.lacks_member
      rw [same, readSegments]
      exact bind_eq_ok.mpr ⟨first, firstRun, bind_eq_ok.mpr ⟨_, ih, rfl⟩⟩

def QueryText (text : List Char) (segments : List Segment) : Prop :=
  ∃ rest, text = '$' :: rest ∧ SegmentsText rest segments

theorem compile_eq_ok_iff (text : String) (query : Query) :
    compile text = .ok query ↔ query.text = text ∧ QueryText text.toList query.segments := by
  constructor
  · intro compiled
    unfold compile at compiled
    dsimp only at compiled
    split at compiled
    next segments run =>
      cases compiled
      split at run
      next rest cut => exact ⟨rfl, rest, cut, readSegments_sound run⟩
      next => cases run
    next => cases compiled
  · rintro ⟨rfl, rest, cut, isSegments⟩
    unfold compile
    simp only [cut, readSegments_complete isSegments]

end Stencil.Query
