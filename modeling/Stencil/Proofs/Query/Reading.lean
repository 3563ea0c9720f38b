import Mathlib.Data.List.DropRight
import Stencil.Proofs.Json.Numbers
import Stencil.Proofs.Query.Grammar

/-! Queries are read as the grammar derives them. A reader that skips spaces leaves none of those
that stand behind, so what it leaves is compared without them. -/

namespace Stencil.Query

open Json (Digits Lacks)
open Number (digitsValue)

def Reads {α : Type} {text : List Char} (run : Except Fault (Step α text)) (result : α)
    (rest : List Char) : Prop :=
  ∃ step, run = .ok step ∧ step.result = result ∧ step.rest = rest

theorem Reads.of_map {α β : Type} {text other : List Char} {run : Except Fault (Step α text)}
    {f : Step α text → Step β other} {result : β} {rest : List Char}
    (reads : Reads (run.map f) result rest) (g : α → β)
    (keeps : ∀ step, (f step).result = g step.result ∧ (f step).rest = step.rest) :
    ∃ first, Reads run first rest ∧ g first = result := by
  obtain ⟨step, mapped, rfl, rfl⟩ := reads
  obtain ⟨first, ran, rfl⟩ := map_eq_ok.mp mapped
  obtain ⟨same, left⟩ := keeps first
  exact ⟨first.result, ⟨first, ran, rfl, left.symm⟩, same.symm⟩

theorem Reads.map {α β : Type} {text other : List Char} {run : Except Fault (Step α text)}
    {first : α} {rest : List Char} (read : Reads run first rest) (g : α → β)
    {f : Step α text → Step β other}
    (keeps : ∀ step, (f step).result = g step.result ∧ (f step).rest = step.rest) :
    Reads (run.map f) (g first) rest := by
  obtain ⟨step, ran, rfl, rfl⟩ := read
  obtain ⟨same, left⟩ := keeps step
  exact ⟨f step, map_eq_ok.mpr ⟨step, ran, rfl⟩, same, left⟩

theorem isSpace_iff (c : Char) : isSpace c = true ↔ c = ' ' := by
  simp [isSpace]

theorem spaces_nil : Spaces [] := by
  simp [Spaces]

theorem skipSpaces_append {spaces : List Char} (text : List Char) (all : Spaces spaces) :
    skipSpaces (spaces ++ text) = skipSpaces text :=
  List.dropWhile_append_of_pos fun c member => (isSpace_iff c).mpr (all c member)

theorem skipSpaces_cons {c : Char} (rest : List Char) (visible : c ≠ ' ') :
    skipSpaces (c :: rest) = c :: rest := by
  have noSpace : isSpace c = false := Bool.eq_false_iff.mpr (mt (isSpace_iff c).mp visible)
  simp [skipSpaces, noSpace]

theorem skipSpaces_skipSpaces (text : List Char) :
    skipSpaces (skipSpaces text) = skipSpaces text :=
  List.dropWhile_idempotent isSpace text

theorem spaces_split (text : List Char) :
    ∃ spaces, text = spaces ++ skipSpaces text ∧ Spaces spaces := by
  refine ⟨text.takeWhile isSpace, List.takeWhile_append_dropWhile.symm, fun c member => ?_⟩
  exact (isSpace_iff c).mp (List.mem_takeWhile_imp member)

def Follows (marks text : List Char) : Prop :=
  ∃ mark ∈ marks, ∃ rest, skipSpaces text = mark :: rest

theorem Follows.behind_spaces {marks spaces text : List Char} (all : Spaces spaces)
    (follows : Follows marks text) : Follows marks (spaces ++ text) := by
  rwa [Follows, skipSpaces_append text all]

theorem Follows.mono {marks more text : List Char} (follows : Follows marks text)
    (fewer : marks ⊆ more) : Follows more text := by
  obtain ⟨mark, member, rest, found⟩ := follows
  exact ⟨mark, fewer member, rest, found⟩

def integerEnds : List Char := [':', ',', ']']

def selectorEnds : List Char := [',', ']']

theorem Follows.integer {text : List Char} (follows : Follows selectorEnds text) :
    Follows integerEnds text :=
  follows.mono (by decide)

theorem selectorEnds_noColon {mark : Char} (member : mark ∈ selectorEnds) : mark ≠ ':' := by
  rintro rfl
  exact absurd member (by decide)

theorem integerEnds_cases {mark : Char} (member : mark ∈ integerEnds) :
    mark = ':' ∨ mark = ',' ∨ mark = ']' := by
  simpa [integerEnds] using member

theorem Follows.lacks_digit {text : List Char} (follows : Follows integerEnds text) :
    Lacks Char.isDigit text := by
  obtain ⟨mark, member, rest, found⟩ := follows
  obtain ⟨spaces, cut, all⟩ := spaces_split text
  rw [cut, found]
  cases spaces with
  | nil =>
      intro c head
      cases head
      rcases integerEnds_cases member with rfl | rfl | rfl <;> rfl
  | cons c spaces =>
      intro d head
      cases head
      rw [all c List.mem_cons_self]
      decide

theorem Follows.noInteger {text : List Char} (follows : Follows integerEnds text) :
    startsInteger (skipSpaces text) = false := by
  obtain ⟨mark, member, rest, found⟩ := follows
  rw [found]
  rcases integerEnds_cases member with rfl | rfl | rfl <;> rfl

theorem quotedName_close (quote : Char) (rest : List Char) :
    quotedName quote (quote :: rest) = .ok ⟨[], rest, Nat.le_succ _⟩ := by
  rw [quotedName.eq_def]
  simp only [if_true]

theorem quotedName_plain {quote c : Char} (rest : List Char) (other : c ≠ quote)
    (plain : c ≠ '\\') : quotedName quote (c :: rest) =
      (quotedName quote rest).map fun name => (name.map (c :: ·)).behind c := by
  rw [quotedName.eq_def]
  simp only [if_neg other, if_neg plain]

theorem quotedName_literal {quote : Char} (c : Char) (rest : List Char) (other : '\\' ≠ quote) :
    quotedName quote ('\\' :: c :: rest) = (quotedName quote rest).map fun name =>
      ((name.map (c :: ·)).behind c).behind '\\' := by
  rw [quotedName.eq_def]
  simp only [if_neg other, if_true]

theorem quotedName_sound {quote : Char} {text name rest : List Char}
    (reads : Reads (quotedName quote text) name rest) :
    ∃ used, text = used ++ rest ∧ QuotedText quote used name := by
  induction text using quotedName.induct quote generalizing name with
  | case1 =>
      obtain ⟨_, run, _⟩ := reads
      cases run
  | case2 behind =>
      obtain ⟨_, run, rfl, rfl⟩ := reads
      rw [quotedName_close] at run
      cases run
      exact ⟨[quote], rfl, .close⟩
  | case3 other =>
      obtain ⟨_, run, _⟩ := reads
      rw [quotedName.eq_def] at run
      simp only [if_neg other, if_true] at run
      cases run
  | case4 c behind other ih =>
      rw [quotedName_literal c behind other] at reads
      obtain ⟨name, read, rfl⟩ := reads.of_map (c :: ·) fun _ => ⟨rfl, rfl⟩
      obtain ⟨used, rfl, quoted⟩ := ih read
      exact ⟨'\\' :: c :: used, rfl, .literal quoted⟩
  | case5 c behind other plain ih =>
      rw [quotedName_plain behind other plain] at reads
      obtain ⟨name, read, rfl⟩ := reads.of_map (c :: ·) fun _ => ⟨rfl, rfl⟩
      obtain ⟨used, rfl, quoted⟩ := ih read
      exact ⟨c :: used, rfl, .plain other plain quoted⟩

theorem quotedName_complete {quote : Char} {text name : List Char}
    (quoted : QuotedText quote text name) (noEscape : quote ≠ '\\') (behind : List Char) :
    Reads (quotedName quote (text ++ behind)) name behind := by
  induction quoted with
  | close =>
      exact ⟨_, quotedName_close quote behind, rfl, rfl⟩
  | @plain c _ name other plain _ ih =>
      rw [List.cons_append, quotedName_plain _ other plain]
      exact ih.map (c :: ·) fun _ => ⟨rfl, rfl⟩
  | @literal c _ name _ ih =>
      rw [List.cons_append, List.cons_append, quotedName_literal _ _ (Ne.symm noEscape)]
      exact ih.map (c :: ·) fun _ => ⟨rfl, rfl⟩

theorem minus_cases (text : List Char) :
    ((minus text).result = ['-'] ∧ text = '-' :: (minus text).rest) ∨
      ((minus text).result = [] ∧ (minus text).rest = text) := by
  unfold minus
  split
  · exact Or.inl ⟨rfl, rfl⟩
  · exact Or.inr ⟨rfl, rfl⟩

def integerValue (text : List Char) : Int :=
  let magnitude : Int := digitsValue ((minus text).rest.takeWhile Char.isDigit)
  if (minus text).result = [] then magnitude else -magnitude

theorem integer_reads (text : List Char) (n : Int) (rest : List Char) :
    Reads (integer text) n rest ↔
      (minus text).rest.takeWhile Char.isDigit ≠ [] ∧ fits (integerValue text) = true ∧
        integerValue text = n ∧ skipSpaces ((minus text).rest.dropWhile Char.isDigit) = rest := by
  by_cases valid : (minus text).rest.takeWhile Char.isDigit ≠ [] ∧ fits (integerValue text) = true
  · have read : integer text = .ok _ := if_pos valid
    constructor
    · rintro ⟨step, run, same, left⟩
      rw [read] at run
      cases run
      exact ⟨valid.1, valid.2, same, left⟩
    · rintro ⟨_, _, same, left⟩
      exact ⟨_, read, same, left⟩
  · have failed : integer text = .error _ := if_neg valid
    constructor
    · rintro ⟨step, run, _⟩
      rw [failed] at run
      cases run
    · rintro ⟨some, inside, _⟩
      exact absurd ⟨some, inside⟩ valid

theorem integer_sound {text rest : List Char} {n : Int} (reads : Reads (integer text) n rest) :
    ∃ used after, text = used ++ (after ++ rest) ∧ IntegerText used n ∧ Spaces after := by
  obtain ⟨some, inside, rfl, rfl⟩ := (integer_reads text n rest).mp reads
  have isDigits := Json.digits_takeWhile _ some
  have cut := List.takeWhile_append_dropWhile (p := Char.isDigit) (l := (minus text).rest)
  obtain ⟨after, behind, spaces⟩ := spaces_split ((minus text).rest.dropWhile Char.isDigit)
  rw [behind] at cut
  rcases minus_cases text with ⟨signed, whole⟩ | ⟨plain, whole⟩
  · have value : integerValue text = -digitsValue ((minus text).rest.takeWhile Char.isDigit) := by
      simp [integerValue, signed]
    rw [value] at inside ⊢
    refine ⟨'-' :: (minus text).rest.takeWhile Char.isDigit, after, ?_,
      .negative isDigits inside, spaces⟩
    rw [List.cons_append, cut, ← whole]
  · have value : integerValue text = digitsValue ((minus text).rest.takeWhile Char.isDigit) := by
      simp [integerValue, plain]
    rw [value] at inside ⊢
    refine ⟨(minus text).rest.takeWhile Char.isDigit, after, ?_, .plain isDigits inside, spaces⟩
    rw [cut, whole]

theorem minus_digits {digits : List Char} (isDigits : Digits digits) (behind : List Char) :
    (minus (digits ++ behind)).result = [] ∧
      (minus (digits ++ behind)).rest = digits ++ behind := by
  rcases minus_cases (digits ++ behind) with ⟨_, whole⟩ | plain
  · obtain ⟨some, all⟩ := isDigits
    cases digits with
    | nil => exact absurd rfl some
    | cons c rest =>
        have digit := all c List.mem_cons_self
        rw [(List.cons.inj whole).1] at digit
        cases digit
  · exact plain

theorem integer_complete {text behind : List Char} {n : Int} (isInteger : IntegerText text n)
    (ends : Lacks Char.isDigit behind) :
    Reads (integer (text ++ behind)) n (skipSpaces behind) := by
  rw [integer_reads]
  cases isInteger with
  | plain isDigits inside =>
      obtain ⟨plain, whole⟩ := minus_digits isDigits behind
      rw [integerValue, whole, Json.takeWhile_lacks isDigits.2 ends,
        Json.dropWhile_lacks isDigits.2 ends, if_pos plain]
      exact ⟨isDigits.1, inside, rfl, rfl⟩
  | @negative digits isDigits inside =>
      have signed : (minus ('-' :: digits ++ behind)).result ≠ [] := List.cons_ne_nil _ _
      have whole : (minus ('-' :: digits ++ behind)).rest = digits ++ behind := rfl
      rw [integerValue, whole, Json.takeWhile_lacks isDigits.2 ends,
        Json.dropWhile_lacks isDigits.2 ends, if_neg signed]
      exact ⟨isDigits.1, inside, rfl, rfl⟩

theorem IntegerText.starts {text : List Char} {n : Int} (isInteger : IntegerText text n)
    (behind : List Char) :
    ∃ c rest, text ++ behind = c :: rest ∧ startsInteger (c :: rest) = true ∧ c ≠ ' ' := by
  cases isInteger with
  | plain isDigits _ =>
      obtain ⟨some, all⟩ := isDigits
      cases text with
      | nil => exact absurd rfl some
      | cons c rest =>
          have digit := all c List.mem_cons_self
          refine ⟨c, rest ++ behind, rfl, by simp [startsInteger, digit], ?_⟩
          rintro rfl
          cases digit
  | negative _ _ => exact ⟨'-', _, rfl, rfl, by decide⟩

theorem integer?_sound {text rest : List Char} {bound : Option Int}
    (reads : Reads (integer? text) bound rest) :
    ∃ used, text = used ++ rest ∧ BoundText used bound := by
  obtain ⟨before, cut, spaces⟩ := spaces_split text
  unfold integer? at reads
  dsimp only at reads
  split at reads
  next =>
    obtain ⟨n, read, rfl⟩ := reads.of_map some fun _ => ⟨rfl, rfl⟩
    obtain ⟨used, after, front, isInteger, behind⟩ := integer_sound read
    refine ⟨before ++ (used ++ after), ?_, .given spaces isInteger behind⟩
    rw [cut, front]
    simp
  next =>
    obtain ⟨_, run, rfl, rfl⟩ := reads
    cases run
    exact ⟨before, cut, .missing spaces⟩

theorem integer?_complete {text behind : List Char} {bound : Option Int}
    (isBound : BoundText text bound) (follows : Follows integerEnds behind) :
    Reads (integer? (text ++ behind)) bound (skipSpaces behind) := by
  unfold integer?
  dsimp only
  cases isBound with
  | missing spaces =>
      have start := skipSpaces_append behind spaces
      have none : startsInteger (skipSpaces (text ++ behind)) ≠ true := by
        rw [start, follows.noInteger]
        decide
      rw [if_neg none]
      exact ⟨_, rfl, rfl, start⟩
  | @given before integerText n after spaces isInteger behindSpaces =>
      obtain ⟨c, rest, same, starts, visible⟩ := isInteger.starts (after ++ behind)
      have start : skipSpaces (before ++ (integerText ++ after) ++ behind) =
          integerText ++ (after ++ behind) := by
        rw [List.append_assoc, skipSpaces_append _ spaces, List.append_assoc, same,
          skipSpaces_cons rest visible]
      have some : startsInteger (skipSpaces (before ++ (integerText ++ after) ++ behind)) =
          true := by
        rw [start, same, starts]
      have read : Reads (integer (skipSpaces (before ++ (integerText ++ after) ++ behind))) n
          (skipSpaces behind) := by
        rw [start, ← skipSpaces_append behind behindSpaces]
        exact integer_complete isInteger (follows.behind_spaces behindSpaces).lacks_digit
      rw [if_pos some]
      exact read.map Option.some fun _ => ⟨rfl, rfl⟩

theorem step?_other {c : Char} (rest : List Char) (noColon : c ≠ ':') :
    step? (c :: rest) = .ok ⟨none, c :: rest, Nat.le_refl _⟩ :=
  step?.eq_2 _ fun _ same => noColon (List.cons.inj same).1

theorem step?_sound {text rest : List Char} {given : Option Int}
    (reads : Reads (step? text) given rest) (step : { step : Nat // 0 < step })
    (same : step.val = (given.getD 1).toNat) :
    ∃ size, text = size ++ rest ∧ StepText size step := by
  have one : given = none → step = ⟨1, Nat.one_pos⟩ := by
    rintro rfl
    exact Subtype.ext same
  unfold step? at reads
  split at reads
  next =>
    obtain ⟨bound, read, rfl⟩ := reads.of_map id fun _ => ⟨rfl, rfl⟩
    obtain ⟨used, rfl, isBound⟩ := integer?_sound read
    refine ⟨':' :: used, rfl, ?_⟩
    cases bound with
    | none =>
        rw [one rfl]
        exact .omitted isBound
    | some n =>
        have positive := step.property
        have value : n = step.val := by
          simp only [id, Option.getD_some] at same
          omega
        subst value
        exact .given isBound
  next =>
    obtain ⟨_, run, rfl, rfl⟩ := reads
    cases run
    rw [one rfl]
    exact ⟨[], rfl, .missing⟩

theorem step?_complete {size behind : List Char} {step : { step : Nat // 0 < step }}
    (isStep : StepText size step) (follows : Follows selectorEnds behind) :
    ∃ given, Reads (step? (skipSpaces (size ++ behind))) given (skipSpaces behind) ∧
      (given.getD 1).toNat = step.val := by
  have further : ∀ {text bound}, BoundText text bound →
      Reads (step? (skipSpaces (':' :: text ++ behind))) bound (skipSpaces behind) := by
    intro text bound isBound
    rw [List.cons_append, skipSpaces_cons _ (by decide), step?]
    exact (integer?_complete isBound follows.integer).map id fun _ => ⟨rfl, rfl⟩
  cases isStep with
  | missing =>
      obtain ⟨mark, member, rest, found⟩ := follows
      refine ⟨none, ?_, rfl⟩
      rw [List.nil_append, found, step?_other rest (selectorEnds_noColon member)]
      exact ⟨_, rfl, rfl, rfl⟩
  | omitted isBound => exact ⟨none, further isBound, rfl⟩
  | given isBound => exact ⟨some step.val, further isBound, rfl⟩

theorem sliceFrom_sound {start : Option Int} {text rest : List Char} {selector : Selector}
    (reads : Reads (sliceFrom start text) selector rest) :
    ∃ last size stop step, text = last ++ (size ++ rest) ∧ BoundText last stop ∧
      StepText size step ∧ selector = .slice start stop step := by
  obtain ⟨result, run, rfl, rfl⟩ := reads
  obtain ⟨stop, stopRun, run⟩ := bind_eq_ok.mp run
  obtain ⟨step, stepRun, run⟩ := bind_eq_ok.mp run
  dsimp only at run
  split at run
  next positive =>
    cases run
    obtain ⟨last, cut, isStop⟩ := integer?_sound ⟨stop, stopRun, rfl, rfl⟩
    obtain ⟨size, behind, isStep⟩ := step?_sound ⟨step, stepRun, rfl, rfl⟩ ⟨_, positive⟩ rfl
    refine ⟨last, size, stop.result, ⟨_, positive⟩, ?_, isStop, isStep, rfl⟩
    rw [behind] at cut
    exact cut
  next => cases run

theorem sliceFrom_complete {start stop : Option Int} {step : { step : Nat // 0 < step }}
    {last size behind : List Char} (isStop : BoundText last stop) (isStep : StepText size step)
    (follows : Follows selectorEnds behind) :
    Reads (sliceFrom start (last ++ (size ++ behind))) (.slice start stop step)
      (skipSpaces behind) := by
  have next : Follows integerEnds (size ++ behind) := by
    cases isStep with
    | missing => exact follows.integer
    | omitted _ => exact ⟨':', by decide, _, skipSpaces_cons _ (by decide)⟩
    | given _ => exact ⟨':', by decide, _, skipSpaces_cons _ (by decide)⟩
  obtain ⟨stopped, stopRun, rfl, left⟩ := integer?_complete isStop next
  obtain ⟨given, stepped, same⟩ := step?_complete isStep follows
  rw [← left] at stepped
  obtain ⟨sized, sizeRun, rfl, ended⟩ := stepped
  have positive : 0 < (sized.result.getD 1).toNat := same ▸ step.property
  refine ⟨_, bind_eq_ok.mpr ⟨stopped, stopRun, bind_eq_ok.mpr ⟨sized, sizeRun, dif_pos positive⟩⟩,
    ?_, ended⟩
  exact congrArg (Selector.slice start stopped.result) (Subtype.ext same)

theorem indexOrSlice_other {first : Int} {c : Char} (rest : List Char) (noColon : c ≠ ':') :
    indexOrSlice first (c :: rest) = .ok ⟨.index first, c :: rest, Nat.le_refl _⟩ :=
  indexOrSlice.eq_2 first _ fun _ same => noColon (List.cons.inj same).1

theorem indexOrSlice_sound {first : Int} {text rest : List Char} {selector : Selector}
    (reads : Reads (indexOrSlice first text) selector rest) :
    (text = rest ∧ selector = .index first) ∨
      ∃ last size stop step, text = ':' :: (last ++ (size ++ rest)) ∧ BoundText last stop ∧
        StepText size step ∧ selector = .slice (some first) stop step := by
  unfold indexOrSlice at reads
  split at reads
  next =>
    obtain ⟨_, read, rfl⟩ := reads.of_map id fun _ => ⟨rfl, rfl⟩
    obtain ⟨last, size, stop, step, rfl, isStop, isStep, rfl⟩ := sliceFrom_sound read
    exact Or.inr ⟨last, size, stop, step, rfl, isStop, isStep, rfl⟩
  next =>
    obtain ⟨_, run, rfl, rfl⟩ := reads
    cases run
    exact Or.inl ⟨rfl, rfl⟩

theorem selector_integer {text rest : List Char} {found : Selector}
    (starts : startsInteger text = true) :
    Reads (selector text) found rest ↔
      ∃ n middle, Reads (integer text) n middle ∧ Reads (indexOrSlice n middle) found rest := by
  cases text with
  | nil => cases starts
  | cons c text =>
      have differs : ∀ d : Char, startsInteger [d] = false → c ≠ d := by
        rintro d none rfl
        exact absurd starts (Bool.eq_false_iff.mp none)
      simp only [selector, differs '*' rfl, differs '\x27' rfl, differs '"' rfl, differs '?' rfl,
        differs '(' rfl, differs ':' rfl, starts, or_self, if_false, if_true]
      constructor
      · rintro ⟨step, run, rfl, rfl⟩
        obtain ⟨first, firstRun, run⟩ := bind_eq_ok.mp run
        obtain ⟨second, secondRun, rfl⟩ := map_eq_ok.mp run
        exact ⟨first.result, first.rest, ⟨first, firstRun, rfl, rfl⟩, second, secondRun, rfl, rfl⟩
      · rintro ⟨_, _, ⟨first, firstRun, rfl, rfl⟩, second, secondRun, rfl, rfl⟩
        refine ⟨first.within second, bind_eq_ok.mpr ⟨first, firstRun, ?_⟩, rfl, rfl⟩
        exact map_eq_ok.mpr ⟨second, secondRun, rfl⟩

theorem selector_sound {text rest : List Char} {found : Selector}
    (reads : Reads (selector text) found rest) :
    ∃ used after, text = used ++ (after ++ rest) ∧ SelectorText used found ∧ Spaces after := by
  -- integers are looked for last, but no other selector starts like one
  by_cases starts : startsInteger text = true
  · obtain ⟨n, middle, read, further⟩ := (selector_integer starts).mp reads
    obtain ⟨used, after, rfl, isInteger, spaces⟩ := integer_sound read
    rcases indexOrSlice_sound further with
      ⟨rfl, rfl⟩ | ⟨last, size, stop, step, rfl, isStop, isStep, rfl⟩
    · exact ⟨used, after, rfl, .index isInteger, spaces⟩
    · refine ⟨used ++ after ++ ':' :: (last ++ size), [], by simp, ?_, spaces_nil⟩
      have isStart : BoundText ([] ++ (used ++ after)) (some n) :=
        .given spaces_nil isInteger spaces
      exact .slice isStart isStop isStep
  · cases text with
    | nil =>
        obtain ⟨_, run, _⟩ := reads
        cases run
    | cons c text =>
        unfold selector at reads
        dsimp only at reads
        split at reads
        next star =>
          obtain ⟨_, run, rfl, rfl⟩ := reads
          cases run
          exact ⟨['*'], [], by rw [star]; rfl, .wildcard, spaces_nil⟩
        next =>
          split at reads
          next quote =>
            obtain ⟨name, read, rfl⟩ := reads.of_map (fun cs => Selector.name (String.ofList cs))
              fun _ => ⟨rfl, rfl⟩
            obtain ⟨used, rfl, quoted⟩ := quotedName_sound read
            exact ⟨c :: used, [], rfl, .name quote quoted, spaces_nil⟩
          next =>
            split at reads
            next =>
              obtain ⟨_, run, _⟩ := reads
              cases run
            next =>
              split at reads
              next colon =>
                obtain ⟨_, read, rfl⟩ := reads.of_map id fun _ => ⟨rfl, rfl⟩
                obtain ⟨last, size, stop, step, rfl, isStop, isStep, rfl⟩ := sliceFrom_sound read
                refine ⟨':' :: (last ++ size), [], by rw [colon]; simp, ?_, spaces_nil⟩
                exact .slice (.missing spaces_nil) isStop isStep
              next =>
                obtain ⟨_, run, _⟩ := reads
                cases run

theorem selector_complete {text behind : List Char} {found : Selector}
    (isSelector : SelectorText text found) (follows : Follows selectorEnds behind) :
    ∃ rest, Reads (selector (skipSpaces (text ++ behind))) found rest ∧
      skipSpaces rest = skipSpaces behind := by
  cases isSelector with
  | wildcard =>
      rw [List.singleton_append, skipSpaces_cons _ (by decide)]
      exact ⟨behind, ⟨_, rfl, rfl, rfl⟩, rfl⟩
  | @name quote text name isQuote quoted =>
      have visible : quote ≠ ' ' := by
        rcases isQuote with rfl | rfl <;> decide
      have noEscape : quote ≠ '\\' := by
        rcases isQuote with rfl | rfl <;> decide
      have noStar : quote ≠ '*' := by
        rcases isQuote with rfl | rfl <;> decide
      have read := quotedName_complete quoted noEscape behind
      rw [List.cons_append, skipSpaces_cons _ visible, selector, if_neg noStar, if_pos isQuote]
      exact ⟨behind, read.map (fun cs => Selector.name (String.ofList cs)) fun _ => ⟨rfl, rfl⟩, rfl⟩
  | @index _ n isInteger =>
      obtain ⟨c, rest, same, starts, visible⟩ := isInteger.starts behind
      have read := integer_complete isInteger follows.integer.lacks_digit
      obtain ⟨mark, member, others, found⟩ := follows
      rw [same, skipSpaces_cons rest visible]
      rw [same, found] at read
      refine ⟨mark :: others, (selector_integer starts).mpr ⟨n, _, read, ?_⟩, ?_⟩
      · rw [indexOrSlice_other others (selectorEnds_noColon member)]
        exact ⟨_, rfl, rfl, rfl⟩
      · rw [← found, skipSpaces_skipSpaces]
  | @slice first last size start stop step isStart isStop isStep =>
      have tail : ∀ start, Reads (sliceFrom start (last ++ (size ++ behind)))
          (.slice start stop step) (skipSpaces behind) :=
        fun _ => sliceFrom_complete isStop isStep follows
      refine ⟨skipSpaces behind, ?_, skipSpaces_skipSpaces behind⟩
      rw [List.append_assoc, List.cons_append, List.append_assoc]
      cases isStart with
      | missing spaces =>
          rw [skipSpaces_append _ spaces, skipSpaces_cons _ (by decide)]
          exact (tail none).map id fun _ => ⟨rfl, rfl⟩
      | @given before integerText n after spaces isInteger afterSpaces =>
          have colon : Follows integerEnds (after ++ ':' :: (last ++ (size ++ behind))) :=
            Follows.behind_spaces afterSpaces ⟨':', by decide, _, skipSpaces_cons _ (by decide)⟩
          have read := integer_complete isInteger colon.lacks_digit
          obtain ⟨c, rest, same, starts, visible⟩ :=
            isInteger.starts (after ++ ':' :: (last ++ (size ++ behind)))
          rw [skipSpaces_append _ afterSpaces, skipSpaces_cons _ (by decide), same] at read
          rw [List.append_assoc, List.append_assoc, skipSpaces_append _ spaces, same,
            skipSpaces_cons rest visible]
          exact (selector_integer starts).mpr
            ⟨n, _, read, (tail (some n)).map id fun _ => ⟨rfl, rfl⟩⟩

end Stencil.Query
