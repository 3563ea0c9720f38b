import Stencil.Json.Stream
import Stencil.Proofs.Json.Decoder
import Stencil.Proofs.Json.Strings

/-! The reader of documents reads exactly the grammar. What it leaves has to start with something
that ends a number, because numbers are read as far as they go. -/

namespace Stencil.Json

open Numbers (Number)

variable {α : Type}

theorem isBlank_ascii (c : Char) (blank : isBlank c = true) : isAscii c = true := by
  simp only [isBlank, Bool.or_eq_true, beq_iff_eq] at blank
  rcases blank with ((rfl | rfl) | rfl) | rfl <;> rfl

theorem skipSpace_encode (text : List Char) :
    skipSpace (encode text) = encode (text.dropWhile isBlank) :=
  dropWhile_encode isBlank_ascii text

theorem skipSpace_eq_nil (text : List Char) : skipSpace (encode text) = [] ↔ Blank text := by
  rw [skipSpace_encode, encode_eq_nil, List.dropWhile_eq_nil_iff]
  rfl

theorem skipSpace_cut (text : List Char) :
    ∃ gap behind, text = gap ++ behind ∧ Blank gap ∧ skipSpace (encode text) = encode behind :=
  ⟨text.takeWhile isBlank, text.dropWhile isBlank, List.takeWhile_append_dropWhile.symm,
    blank_takeWhile text, skipSpace_encode text⟩

theorem dropWhile_blank {gap : List Char} (blank : Blank gap) (text : List Char) :
    (gap ++ text).dropWhile isBlank = text.dropWhile isBlank :=
  List.dropWhile_append_of_pos blank

abbrev Reading (α : Type) := List UInt8 → α → List UInt8 → Prop

/-- Readings of a grammar. White space in front may be skipped. -/
structure Spells (Reading : Reading α) (Item : List Char → α → Prop) : Prop where
  sound : ∀ text result rest, Reading (encode text) result rest →
    ∃ lead used behind, text = lead ++ (used ++ behind) ∧ Blank lead ∧ rest = encode behind ∧
      Item used result
  complete : ∀ used behind result, Item used result → Stops behind →
    Reading (encode (used ++ behind)) result (encode behind)

def Starts (close : Char) (first : Bool) (b : UInt8) (more start : List UInt8) : Prop :=
  if first then start = b :: more
  else charOf b = ',' ∧ start = skipSpace more ∧ ∃ c rest, start = c :: rest ∧ charOf c ≠ close

abbrev ListStep (ReadsItem : Reading α) (close : Char) (ReadsList : Bool → Reading (List α))
    (first : Bool) : Reading (List α) :=
  fun bytes results rest => ∃ b more, skipSpace bytes = b :: more ∧
    ((charOf b = close ∧ results = [] ∧ rest = more) ∨
      (charOf b ≠ close ∧ ∃ start result middle others, Starts close first b more start ∧
        ReadsItem start result middle ∧ ReadsList false middle others rest ∧
        results = result :: others))

def ListSteps (ReadsItem : Reading α) (close : Char) (ReadsList : Bool → Reading (List α)) : Prop :=
  ∀ first bytes results rest, ReadsList first bytes results rest ↔
    ListStep ReadsItem close ReadsList first bytes results rest

inductive Behind (Item : List Char → α → Prop) (close : Char) : List Char → List α → Prop
  | close {gap} : Blank gap → Behind Item close (gap ++ [close]) []
  | comma {gap used items} : Blank gap → Separated Item used items →
      Behind Item close (gap ++ ',' :: (used ++ [close])) items

theorem Behind.separated {Item : List Char → α → Prop} {close : Char} {lead used body : List Char}
    {item : α} {items : List α} (behind : Behind Item close body items) (blank : Blank lead)
    (first : Item used item) :
    ∃ all, Separated Item all (item :: items) ∧ lead ++ (used ++ body) = all ++ [close] := by
  cases behind with
  | @close gap blankGap =>
      exact ⟨lead ++ (used ++ gap), .one blank first blankGap, by simp⟩
  | @comma gap others _ blankGap separated =>
      exact ⟨lead ++ (used ++ (gap ++ ',' :: others)), .more blank first blankGap separated,
        by simp⟩

theorem Separated.behind {Item : List Char → α → Prop} (close : Char) {all : List Char}
    {items : List α} (separated : Separated Item all items) :
    ∃ lead used body item others, Blank lead ∧ Item used item ∧ Behind Item close body others ∧
      items = item :: others ∧ all ++ [close] = lead ++ (used ++ body) := by
  cases separated with
  | @one lead used gap item blank first blankGap =>
      exact ⟨lead, used, gap ++ [close], item, [], blank, first, .close blankGap, rfl, by simp⟩
  | @more lead used gap others item items blank first blankGap separated =>
      exact ⟨lead, used, gap ++ ',' :: (others ++ [close]), item, items, blank, first,
        .comma blankGap separated, rfl, by simp⟩

section

variable {ReadsItem : Reading α} {Item : List Char → α → Prop} {close : Char}
  {ReadsList : Bool → Reading (List α)}

/-- What stands behind an item is read. The text gets shorter with every comma. -/
theorem behind_sound (steps : ListSteps ReadsItem close ReadsList) (spells : Spells ReadsItem Item)
    (ascii : isAscii close = true) {text : List Char} {results : List α} {rest : List UInt8}
    (read : ReadsList false (encode text) results rest) :
    ∃ body behind, text = body ++ behind ∧ rest = encode behind ∧
      Behind Item close body results := by
  generalize sizeEq : text.length = size
  induction size using Nat.strongRecOn generalizing text results with
  | ind size ih =>
      obtain ⟨b, more, skipped, outcome⟩ := (steps _ _ _ _).mp read
      obtain ⟨gap, tail, rfl, blankGap, cut⟩ := skipSpace_cut text
      rw [cut] at skipped
      rcases outcome with ⟨closing, rfl, rfl⟩ | ⟨_, start, result, middle, others, starts, first,
        later, rfl⟩
      · obtain ⟨behind, rfl, rfl⟩ := encode_eq_cons skipped (by rw [closing]; exact ascii)
        exact ⟨gap ++ [close], behind, by simp [closing], rfl, .close blankGap⟩
      · obtain ⟨comma, rfl, _⟩ := starts
        obtain ⟨behind, rfl, rfl⟩ := encode_eq_cons skipped (by rw [comma]; rfl)
        obtain ⟨lead, tail, rfl, blankLead, cut⟩ := skipSpace_cut behind
        rw [cut] at first
        obtain ⟨lead', used, left, rfl, blank, rfl, item⟩ := spells.sound _ _ _ first
        have shorter : left.length < size := by
          rw [← sizeEq]
          simp
          omega
        obtain ⟨body, behind, rfl, rfl, tail⟩ := ih left.length shorter later rfl
        obtain ⟨all, separated, same⟩ := tail.separated (blankLead.append blank) item
        refine ⟨gap ++ ',' :: (all ++ [close]), behind, ?_, rfl, .comma blankGap separated⟩
        rw [← same, comma]
        simp

theorem listed_sound (steps : ListSteps ReadsItem close ReadsList) (spells : Spells ReadsItem Item)
    (ascii : isAscii close = true) {text : List Char} {results : List α} {rest : List UInt8}
    (read : ReadsList true (encode text) results rest) :
    ∃ body behind, text = body ++ behind ∧ rest = encode behind ∧
      Listed Item close body results := by
  obtain ⟨b, more, skipped, outcome⟩ := (steps _ _ _ _).mp read
  obtain ⟨gap, tail, rfl, blankGap, cut⟩ := skipSpace_cut text
  rw [cut] at skipped
  rcases outcome with ⟨closing, rfl, rfl⟩ | ⟨_, start, result, middle, others, starts, first,
    later, rfl⟩
  · obtain ⟨behind, rfl, rfl⟩ := encode_eq_cons skipped (by rw [closing]; exact ascii)
    exact ⟨gap ++ [close], behind, by simp [closing], rfl, .empty blankGap⟩
  · have startEq : start = encode tail := Eq.trans starts skipped.symm
    rw [startEq] at first
    obtain ⟨lead, used, left, rfl, blank, rfl, item⟩ := spells.sound _ _ _ first
    obtain ⟨body, behind, rfl, rfl, tail⟩ := behind_sound steps spells ascii later
    obtain ⟨all, separated, same⟩ := tail.separated (blankGap.append blank) item
    refine ⟨all ++ [close], behind, ?_, rfl, .items separated⟩
    rw [← same]
    simp

def Opens (Item : List Char → α → Prop) (close : Char) : Prop :=
  ∀ used item, Item used item →
    ∃ c rest, used = c :: rest ∧ isAscii c = true ∧ isBlank c = false ∧ c ≠ close

theorem skipSpace_visible {lead : List Char} {c : Char} (rest : List Char) (blank : Blank lead)
    (ascii : isAscii c = true) (visible : isBlank c = false) :
    skipSpace (encode (lead ++ c :: rest)) = UInt8.ofNat c.toNat :: encode rest := by
  rw [skipSpace_encode, dropWhile_blank blank, List.dropWhile_cons_of_neg (by simp [visible]),
    encode_cons_ascii _ ascii]

structure Closes (close : Char) : Prop where
  ascii : isAscii close = true
  visible : isBlank close = false
  noComma : close ≠ ','
  ends : endsWord close = true

theorem close_step (steps : ListSteps ReadsItem close ReadsList) (closes : Closes close)
    (first : Bool) {gap : List Char} (blank : Blank gap) (behind : List Char) :
    ReadsList first (encode (gap ++ close :: behind)) [] (encode behind) := by
  have skipped := skipSpace_visible behind blank closes.ascii closes.visible
  exact (steps _ _ _ _).mpr ⟨_, _, skipped, Or.inl ⟨charOf_ofNat closes.ascii, rfl, rfl⟩⟩

theorem first_step (steps : ListSteps ReadsItem close ReadsList) (spells : Spells ReadsItem Item)
    (opens : Opens Item close) {lead used tail : List Char} {item : α} {others : List α}
    {rest : List UInt8} (blank : Blank lead) (found : Item used item) (stops : Stops tail)
    (later : ReadsList false (encode tail) others rest) :
    ReadsList true (encode (lead ++ (used ++ tail))) (item :: others) rest := by
  have read := spells.complete used tail item found stops
  obtain ⟨c, more, rfl, ascii, visible, noClose⟩ := opens used item found
  rw [List.cons_append, encode_cons_ascii _ ascii] at read
  have skipped := skipSpace_visible (more ++ tail) blank ascii visible
  exact (steps _ _ _ _).mpr ⟨_, _, skipped, Or.inr
    ⟨by rwa [charOf_ofNat ascii], _, item, _, others, rfl, read, later, rfl⟩⟩

theorem comma_step (steps : ListSteps ReadsItem close ReadsList) (spells : Spells ReadsItem Item)
    (opens : Opens Item close) (closes : Closes close) {gap lead used tail : List Char} {item : α}
    {others : List α} {rest : List UInt8} (blankGap : Blank gap) (blank : Blank lead)
    (found : Item used item) (stops : Stops tail)
    (later : ReadsList false (encode tail) others rest) :
    ReadsList false (encode (gap ++ ',' :: (lead ++ (used ++ tail)))) (item :: others) rest := by
  have read := spells.complete used tail item found stops
  obtain ⟨c, more, rfl, ascii, visible, noClose⟩ := opens used item found
  rw [List.cons_append, encode_cons_ascii _ ascii] at read
  have skipped := skipSpace_visible (more ++ tail) blank ascii visible
  have commaSkipped := skipSpace_visible (c := ',') (lead ++ (c :: more ++ tail)) blankGap rfl rfl
  exact (steps _ _ _ _).mpr ⟨_, _, commaSkipped, Or.inr ⟨closes.noComma.symm, _, item, _, others,
    ⟨rfl, skipped.symm, _, _, rfl, by rwa [charOf_ofNat ascii]⟩, read, later, rfl⟩⟩

theorem separated_complete (steps : ListSteps ReadsItem close ReadsList)
    (spells : Spells ReadsItem Item) (opens : Opens Item close) (closes : Closes close)
    {used gap : List Char} {items : List α} (separated : Separated Item used items)
    (blank : Blank gap) (behind : List Char) :
    ReadsList false (encode (gap ++ ',' :: (used ++ close :: behind))) items (encode behind) := by
  induction separated generalizing gap with
  | @one lead used after item blankLead found blankAfter =>
      have later := close_step steps closes false blankAfter behind
      have stops := (stops_cons behind closes.ends).behindGap blankAfter
      have read := comma_step steps spells opens closes blank blankLead found stops later
      simpa using read
  | @more lead used after others item items blankLead found blankAfter _ ih =>
      have later := ih blankAfter
      have stops := (stops_cons (c := ',') (others ++ close :: behind) rfl).behindGap blankAfter
      have read := comma_step steps spells opens closes blank blankLead found stops later
      simpa using read

theorem behind_complete (steps : ListSteps ReadsItem close ReadsList)
    (spells : Spells ReadsItem Item) (opens : Opens Item close) (closes : Closes close)
    {body : List Char} {items : List α} (tail : Behind Item close body items)
    (behind : List Char) :
    Stops (body ++ behind) ∧ ReadsList false (encode (body ++ behind)) items (encode behind) := by
  cases tail with
  | close blank =>
      rw [List.append_assoc, List.singleton_append]
      exact ⟨(stops_cons behind closes.ends).behindGap blank,
        close_step steps closes false blank behind⟩
  | comma blank separated =>
      have read := separated_complete steps spells opens closes separated blank behind
      rw [List.append_assoc, List.cons_append, List.append_assoc, List.singleton_append]
      exact ⟨(stops_cons (c := ',') _ rfl).behindGap blank, read⟩

theorem listed_complete (steps : ListSteps ReadsItem close ReadsList)
    (spells : Spells ReadsItem Item) (opens : Opens Item close) (closes : Closes close)
    {body : List Char} {items : List α} (listed : Listed Item close body items)
    (behind : List Char) : ReadsList true (encode (body ++ behind)) items (encode behind) := by
  cases listed with
  | empty blank =>
      rw [List.append_assoc, List.singleton_append]
      exact close_step steps closes true blank behind
  | items separated =>
      obtain ⟨lead, used, tail, item, others, blank, found, after, rfl, same⟩ :=
        separated.behind close
      obtain ⟨stops, later⟩ := behind_complete steps spells opens closes after behind
      rw [same, List.append_assoc, List.append_assoc]
      exact first_step steps spells opens blank found stops later

theorem listed_spells (steps : ListSteps ReadsItem close ReadsList)
    (spells : Spells ReadsItem Item) (opens : Opens Item close) (closes : Closes close)
    (text : List Char) (results : List α) (rest : List UInt8) :
    ReadsList true (encode text) results rest ↔
      ∃ body behind, text = body ++ behind ∧ rest = encode behind ∧
        Listed Item close body results := by
  constructor
  · exact listed_sound steps spells closes.ascii
  · rintro ⟨body, behind, rfl, rfl, listed⟩
    exact listed_complete steps spells opens closes listed behind

end

theorem Starts.length_le {close : Char} {first : Bool} {b : UInt8} {bytes more start : List UInt8}
    (starts : Starts close first b more start) (skipped : skipSpace bytes = b :: more) :
    start.length ≤ bytes.length := by
  have spaced := length_skipSpace_le bytes
  have moreSpaced := length_skipSpace_le more
  rw [skipped, List.length_cons] at spaced
  unfold Starts at starts
  split at starts
  · subst starts
    exact spaced
  · obtain ⟨_, rfl, _⟩ := starts
    omega

theorem member_opens {Value : List Char → α → Prop} : Opens (Member Value) '}' := by
  intro used member read
  cases read
  exact ⟨_, _, rfl, rfl, rfl, by decide⟩

theorem closes_bracket : Closes ']' :=
  ⟨rfl, rfl, by decide, rfl⟩

theorem closes_brace : Closes '}' :=
  ⟨rfl, rfl, by decide, rfl⟩

theorem stops_number {behind : List Char} (stops : Stops behind) :
    Lacks continuesNumber behind := by
  intro c head
  have ends := stops c head
  simp only [endsWord, isBlank, Bool.or_eq_true, beq_iff_eq] at ends
  rcases ends with ((((((rfl | rfl) | rfl) | rfl) | rfl) | rfl)) | rfl <;> rfl

section

variable [Numbers]

theorem items_step {item : Reader (Document Number)} {first : Bool} {bytes rest : List UInt8}
    {results : List (Document Number)} (read : Reads (items item first) bytes results rest) :
    ListStep (Reads item) ']' (fun first => Reads (items item first)) first bytes results rest := by
  obtain ⟨read, run, rfl, rfl⟩ := read
  rw [items] at run
  dsimp only at run
  split at run
  next => cases run
  next b more skipped =>
    refine ⟨b, more, skipped, ?_⟩
    split at run
    next closing =>
      cases run
      exact Or.inl ⟨closing, rfl, rfl⟩
    next other =>
      obtain ⟨start, startRun, run⟩ := bind_eq_ok.mp run
      obtain ⟨result, itemRun, run⟩ := bind_eq_ok.mp run
      obtain ⟨later, laterRun, same⟩ := bind_eq_ok.mp run
      cases same
      refine Or.inr ⟨other, start.val, _, _, _, ?_, ⟨result, itemRun, rfl, rfl⟩,
        ⟨later, laterRun, rfl, rfl⟩, rfl⟩
      unfold Starts
      split at startRun
      next isFirst =>
        cases startRun
        rw [if_pos isFirst]
      next notFirst =>
        rw [if_neg notFirst]
        split at startRun
        next comma =>
          split at startRun
          next => cases startRun
          next c behind next =>
            split at startRun
            next => cases startRun
            next visible =>
              cases startRun
              exact ⟨comma, next.symm, c, behind, rfl, visible⟩
        next => cases startRun

theorem step_items {item : Reader (Document Number)} {first : Bool} {bytes rest : List UInt8}
    {results : List (Document Number)}
    (step : ListStep (Reads item) ']' (fun first => Reads (items item first)) first bytes results
      rest) : Reads (items item first) bytes results rest := by
  obtain ⟨b, more, skipped, outcome⟩ := step
  unfold Reads
  rw [items]
  dsimp only
  split
  next nothing =>
    rw [nothing] at skipped
    cases skipped
  next b more cut =>
    rw [cut] at skipped
    cases skipped
    rcases outcome with ⟨closing, rfl, rfl⟩ | ⟨other, start, _, _, _, starts,
      ⟨result, itemRun, rfl, rfl⟩, ⟨later, laterRun, rfl, rfl⟩, rfl⟩
    · rw [if_pos closing]
      exact ⟨_, rfl, rfl, rfl⟩
    · rw [if_neg other]
      have bound := starts.length_le cut
      refine ⟨_, bind_eq_ok.mpr ⟨⟨start, bound⟩, ?_, bind_eq_ok.mpr ⟨result, itemRun,
        bind_eq_ok.mpr ⟨later, laterRun, rfl⟩⟩⟩, rfl, rfl⟩
      unfold Starts at starts
      split at starts
      next isFirst =>
        subst starts
        rw [if_pos isFirst]
      next notFirst =>
        obtain ⟨comma, rfl, c, behind, next, visible⟩ := starts
        rw [if_neg notFirst, if_pos comma]
        split
        next nothing =>
          rw [nothing] at next
          cases next
        next d others cut =>
          rw [cut] at next
          cases next
          simp only [visible, if_false, cut]

theorem items_steps (item : Reader (Document Number)) :
    ListSteps (Reads item) ']' fun first => Reads (items item first) :=
  fun _ _ _ _ => ⟨items_step, step_items⟩

theorem memberValue_reads (item : Reader (Document Number)) (bytes : List UInt8)
    (document : Document Number)
    (rest : List UInt8) :
    Reads (memberValue item) bytes document rest ↔
      ∃ b more, skipSpace bytes = b :: more ∧ charOf b = ':' ∧ Reads item more document rest := by
  constructor
  · rintro ⟨read, run, rfl, rfl⟩
    simp only [memberValue] at run
    split at run
    next => cases run
    next b more skipped =>
      split at run
      next colon =>
        obtain ⟨value, valueRun, same⟩ := map_eq_ok.mp run
        cases same
        exact ⟨b, more, skipped, colon, value, valueRun, rfl, rfl⟩
      next => cases run
  · rintro ⟨b, more, skipped, colon, value, valueRun, rfl, rfl⟩
    unfold Reads
    simp only [memberValue]
    split
    next nothing =>
      rw [nothing] at skipped
      cases skipped
    next b more cut =>
      rw [cut] at skipped
      cases skipped
      rw [if_pos colon]
      exact ⟨_, map_eq_ok.mpr ⟨value, valueRun, rfl⟩, rfl, rfl⟩

def ReadsMember (item : Reader (Document Number)) : Reading (String × Document Number) :=
  fun start member rest => ∃ quote more middle, start = quote :: more ∧ charOf quote = '"' ∧
    Reads string more member.1 middle ∧ Reads (memberValue item) middle member.2 rest

theorem members_step {item : Reader (Document Number)} {first : Bool} {bytes rest : List UInt8}
    {results : List (String × Document Number)}
    (read : Reads (members item first) bytes results rest) :
    ListStep (ReadsMember item) '}' (fun first => Reads (members item first)) first bytes results
      rest := by
  obtain ⟨read, run, rfl, rfl⟩ := read
  rw [members] at run
  dsimp only at run
  split at run
  next => cases run
  next b more skipped =>
    refine ⟨b, more, skipped, ?_⟩
    split at run
    next closing =>
      cases run
      exact Or.inl ⟨closing, rfl, rfl⟩
    next other =>
      obtain ⟨start, startRun, run⟩ := bind_eq_ok.mp run
      obtain ⟨key, keyRun, run⟩ := bind_eq_ok.mp run
      obtain ⟨value, valueRun, run⟩ := bind_eq_ok.mp run
      obtain ⟨later, laterRun, same⟩ := bind_eq_ok.mp run
      cases same
      have found : ∀ quote, charOf quote = '"' →
          ReadsMember item (quote :: start.val) (key.result, value.result) value.rest :=
        fun quote isQuote => ⟨quote, _, _, rfl, isQuote, ⟨key, keyRun, rfl, rfl⟩,
          value, valueRun, rfl, rfl⟩
      suffices starts : ∃ quote, charOf quote = '"' ∧
          Starts '}' first b more (quote :: start.val) by
        obtain ⟨quote, isQuote, starts⟩ := starts
        exact Or.inr ⟨other, _, _, _, _, starts, found quote isQuote,
          ⟨later, laterRun, rfl, rfl⟩, rfl⟩
      unfold Starts
      split at startRun
      next isFirst =>
        split at startRun
        next isQuote =>
          cases startRun
          exact ⟨b, isQuote, by rw [if_pos isFirst]⟩
        next => cases startRun
      next notFirst =>
        split at startRun
        next comma =>
          split at startRun
          next => cases startRun
          next c behind next =>
            split at startRun
            next isQuote =>
              cases startRun
              refine ⟨c, isQuote, ?_⟩
              rw [if_neg notFirst]
              exact ⟨comma, next.symm, c, behind, rfl, by rw [isQuote]; decide⟩
            next => cases startRun
        next => cases startRun

theorem step_members {item : Reader (Document Number)} {first : Bool} {bytes rest : List UInt8}
    {results : List (String × Document Number)}
    (step : ListStep (ReadsMember item) '}' (fun first => Reads (members item first)) first bytes
      results rest) : Reads (members item first) bytes results rest := by
  obtain ⟨b, more, skipped, outcome⟩ := step
  unfold Reads
  rw [members]
  dsimp only
  split
  next nothing =>
    rw [nothing] at skipped
    cases skipped
  next b more cut =>
    rw [cut] at skipped
    cases skipped
    rcases outcome with ⟨closing, rfl, rfl⟩ | ⟨other, _, ⟨name, document⟩, _, _, starts,
      ⟨quote, start, _, rfl, isQuote, ⟨key, keyRun, rfl, rfl⟩, value, valueRun, rfl, rfl⟩,
      ⟨later, laterRun, rfl, rfl⟩, rfl⟩
    · rw [if_pos closing]
      exact ⟨_, rfl, rfl, rfl⟩
    · rw [if_neg other]
      have bound : start.length ≤ bytes.length :=
        Nat.le_of_succ_le (starts.length_le cut)
      refine ⟨_, bind_eq_ok.mpr ⟨⟨start, bound⟩, ?_, bind_eq_ok.mpr ⟨key, keyRun,
        bind_eq_ok.mpr ⟨value, valueRun, bind_eq_ok.mpr ⟨later, laterRun, rfl⟩⟩⟩⟩, rfl, rfl⟩
      unfold Starts at starts
      split at starts
      next isFirst =>
        cases starts
        rw [if_pos isFirst, if_pos isQuote]
      next notFirst =>
        obtain ⟨comma, next, _⟩ := starts
        rw [if_neg notFirst, if_pos comma]
        split
        next nothing =>
          rw [nothing] at next
          cases next
        next d others cut =>
          rw [cut] at next
          cases next
          rw [if_pos isQuote]

theorem members_steps (item : Reader (Document Number)) :
    ListSteps (ReadsMember item) '}' fun first => Reads (members item first) :=
  fun _ _ _ _ => ⟨members_step, step_members⟩

def Skips (item : Reader (Document Number)) : Prop :=
  ∀ lead text document rest, Blank lead →
    (Reads item (encode (lead ++ text)) document rest ↔ Reads item (encode text) document rest)

theorem member_spells {item : Reader (Document Number)} {Value : List Char → Document Number → Prop}
    (spells : Spells (Reads item) Value) (skips : Skips item) :
    Spells (ReadsMember item) (Member Value) := by
  constructor
  · rintro text ⟨name, document⟩ rest ⟨quote, more, middle, spelled, isQuote, key, value⟩
    obtain ⟨text, rfl, rfl⟩ := encode_eq_cons spelled (by rw [isQuote]; rfl)
    obtain ⟨_, behind, rfl, rfl, inner, content, rfl, isContent, rfl⟩ :=
      (string_recognizes _ _ _).mp key
    obtain ⟨b, more, skipped, colon, value⟩ := (memberValue_reads item _ _ _).mp value
    obtain ⟨gap, tail, rfl, blankGap, cut⟩ := skipSpace_cut behind
    obtain ⟨behind, rfl, rfl⟩ := encode_eq_cons (cut.symm.trans skipped) (by rw [colon]; rfl)
    obtain ⟨lead, used, behind, rfl, blankLead, rfl, found⟩ := spells.sound _ _ _ value
    refine ⟨[], '"' :: (inner ++ '"' :: (gap ++ ':' :: (lead ++ used))), behind, ?_, blank_nil,
      rfl, .colon isContent blankGap blankLead found⟩
    simp [isQuote, colon]
  · rintro _ behind _ ⟨isContent, blankGap, blankLead, found⟩ stops
    rename_i inner content gap lead used document
    have value := (skips lead _ document _ blankLead).mpr (spells.complete _ _ _ found stops)
    have skipped := skipSpace_visible (c := ':') (lead ++ (used ++ behind)) blankGap rfl rfl
    have key := (string_recognizes (inner ++ ['"'] ++ (gap ++ ':' :: (lead ++ (used ++ behind))))
      (String.ofList content) _).mpr ⟨_, _, rfl, rfl, inner, content, rfl, isContent, rfl⟩
    refine ⟨UInt8.ofNat '"'.toNat, _, _, ?_, rfl, key,
      (memberValue_reads item _ _ _).mpr ⟨_, _, skipped, rfl, value⟩⟩
    rw [← encode_cons_ascii _ rfl]
    simp

theorem word_reads {first : UInt8} {others : List UInt8} (document : Document Number)
    {expected : List Char} (narrow : ∀ c ∈ expected, isAscii c = true) (bytes : List UInt8)
    (bound : bytes.length ≤ others.length) (result : Document Number) (rest : List UInt8) :
    (∃ read : Read (Document Number) (first :: others),
      word document expected bytes bound = .ok read ∧
        read.result = result ∧ read.rest = rest) ↔
      bytes = encode expected ++ rest ∧ result = document := by
  induction expected generalizing bytes with
  | nil =>
      constructor
      · rintro ⟨read, run, rfl, rfl⟩
        cases run
        exact ⟨rfl, rfl⟩
      · rintro ⟨rfl, rfl⟩
        exact ⟨_, rfl, rfl, rfl⟩
  | cons c expected ih =>
      have ascii := narrow c List.mem_cons_self
      have later := ih fun d member => narrow d (List.mem_cons_of_mem _ member)
      rw [encode_cons_ascii _ ascii, List.cons_append]
      cases bytes with
      | nil => simp [word]
      | cons b bytes =>
          rw [word, List.cons.injEq, and_assoc, ← charOf_eq_iff ascii]
          split
          next same => simp only [later, same, true_and]
          next other => simp [other]

/-- What the reader sees of a text with `levels` arrays and objects left to nest. -/
def WrittenWithin (levels : Nat) (used : List Char) (document : Document Number) : Prop :=
  Written Numbers.ofText? used document ∧ document.depth ≤ levels

theorem listed_within {levels : Nat} {close : Char} {body : List Char}
    {items : List (Document Number)} :
    Listed (WrittenWithin levels) close body items ↔
      Listed (Written Numbers.ofText?) close body items ∧ Document.depthItems items ≤ levels := by
  rw [Document.depthItems_le]
  exact listed_and

theorem listed_memberWithin {levels : Nat} {close : Char} {body : List Char}
    {members : List (String × Document Number)} :
    Listed (Member (WrittenWithin levels)) close body members ↔
      Listed (Member (Written Numbers.ofText?)) close body members ∧
        Document.depthMembers members ≤ levels := by
  rw [Document.depthMembers_le]
  exact listed_member_and

theorem within_opens {levels : Nat} : Opens (WrittenWithin levels) ']' := by
  rintro used document ⟨written, _⟩
  obtain ⟨c, rest, same, ascii, visible, other, _⟩ := written.opens
  exact ⟨c, rest, same, ascii, visible, other⟩

def ReadsAt (nested : Option (Reader (Document Number))) : Reading (Document Number) :=
  fun bytes document rest => ∃ b more read, bytes = b :: more ∧ valueAt nested b more = .ok read ∧
    read.result = document ∧ read.rest = rest

def nestedReader : Nat → Option (Reader (Document Number))
  | 0 => none
  | deeper + 1 => some (value deeper)

theorem value_reads (levels : Nat) (bytes : List UInt8) (document : Document Number)
    (rest : List UInt8) :
    Reads (value levels) bytes document rest ↔
      ReadsAt (nestedReader levels) (skipSpace bytes) document rest := by
  constructor
  · rintro ⟨read, run, rfl, rfl⟩
    rw [value.eq_def] at run
    dsimp only at run
    split at run
    next => cases run
    next b more skipped =>
      obtain ⟨found, foundRun, same⟩ := map_eq_ok.mp run
      cases same
      exact ⟨b, more, found, skipped, by cases levels <;> exact foundRun, rfl, rfl⟩
  · rintro ⟨b, more, found, skipped, foundRun, rfl, rfl⟩
    unfold Reads
    rw [value.eq_def]
    dsimp only
    split
    next nothing =>
      rw [nothing] at skipped
      cases skipped
    next b more cut =>
      rw [cut] at skipped
      cases skipped
      exact ⟨_, map_eq_ok.mpr ⟨found, by cases levels <;> exact foundRun, rfl⟩, rfl, rfl⟩

theorem value_skips (levels : Nat) : Skips (value levels) := by
  intro lead text document rest blank
  rw [value_reads, value_reads, skipSpace_encode, skipSpace_encode, dropWhile_blank blank]

theorem array_spells {deeper : Nat} (spells : Spells (Reads (value deeper)) (WrittenWithin deeper))
    (text : List Char) (results : List (Document Number)) (rest : List UInt8) :
    Reads (items (value deeper) true) (encode text) results rest ↔
      ∃ body behind, text = body ++ behind ∧ rest = encode behind ∧
        Listed (WrittenWithin deeper) ']' body results :=
  listed_spells (items_steps _) spells within_opens closes_bracket text results rest

theorem object_spells {deeper : Nat} (spells : Spells (Reads (value deeper)) (WrittenWithin deeper))
    (text : List Char) (results : List (String × Document Number)) (rest : List UInt8) :
    Reads (members (value deeper) true) (encode text) results rest ↔
      ∃ body behind, text = body ++ behind ∧ rest = encode behind ∧
        Listed (Member (WrittenWithin deeper)) '}' body results :=
  listed_spells (members_steps _) (member_spells spells (value_skips deeper)) member_opens
    closes_brace text results rest

theorem word_within {levels : Nat} {b : UInt8} {more : List UInt8} {document : Document Number}
    {expected text : List Char} (written : Written Numbers.ofText? (charOf b :: expected) document)
    (flat : document.depth = 0)
    (narrow : ∀ c ∈ charOf b :: expected, isAscii c = true) (spelled : encode text = b :: more)
    {bound : more.length ≤ more.length} {read : Read (Document Number) (b :: more)}
    (run : word document expected more bound = .ok read) :
    ∃ used behind, text = used ++ behind ∧ read.rest = encode behind ∧
      WrittenWithin levels used read.result := by
  obtain ⟨front, result⟩ :=
    (word_reads document (fun c member => narrow c (List.mem_cons_of_mem _ member)) more bound _
      _).mp ⟨read, run, rfl, rfl⟩
  obtain ⟨text, rfl, rfl⟩ := encode_eq_cons spelled (narrow _ List.mem_cons_self)
  obtain ⟨behind, rfl, cut⟩ :=
    encode_eq_append (fun c member => narrow c (List.mem_cons_of_mem _ member)) front
  rw [result]
  exact ⟨charOf b :: expected, behind, rfl, cut, written, by omega⟩

theorem valueAt_sound {levels : Nat} (inner : ∀ deeper, levels = deeper + 1 →
      Spells (Reads (value deeper)) (WrittenWithin deeper))
    {text : List Char} {document : Document Number} {rest : List UInt8}
    (read : ReadsAt (nestedReader levels) (encode text) document rest) :
    ∃ used behind, text = used ++ behind ∧ rest = encode behind ∧
      WrittenWithin levels used document := by
  obtain ⟨b, more, read, spelled, run, rfl, rfl⟩ := read
  simp only [valueAt] at run
  split at run
  next isN =>
    exact word_within (isN ▸ .null) rfl (isN ▸ List.all_eq_true.mp rfl) spelled run
  next isT =>
    exact word_within (isT ▸ .isTrue) rfl (isT ▸ List.all_eq_true.mp rfl) spelled run
  next isF =>
    exact word_within (isF ▸ .isFalse) rfl (isF ▸ List.all_eq_true.mp rfl) spelled run
  next isQuote =>
    obtain ⟨content, contentRun, same⟩ := map_eq_ok.mp run
    cases same
    obtain ⟨text, rfl, rfl⟩ := encode_eq_cons spelled (by rw [isQuote]; rfl)
    obtain ⟨_, behind, rfl, cut, inner, characters, rfl, isContent, meant⟩ :=
      (string_recognizes _ _ _).mp ⟨content, contentRun, rfl, rfl⟩
    dsimp only
    rw [meant]
    exact ⟨'"' :: (inner ++ ['"']), behind, by simp [isQuote], cut, .string isContent, Nat.zero_le _⟩
  next isBracket =>
    cases levels with
    | zero => cases run
    | succ deeper =>
        obtain ⟨list, listRun, same⟩ := map_eq_ok.mp (mapError_eq_ok.mp run)
        cases same
        obtain ⟨text, rfl, rfl⟩ := encode_eq_cons spelled (by rw [isBracket]; rfl)
        obtain ⟨body, behind, rfl, cut, listed⟩ :=
          (array_spells (inner deeper rfl) _ _ _).mp ⟨list, listRun, rfl, rfl⟩
        obtain ⟨all, shallow⟩ := listed_within.mp listed
        exact ⟨'[' :: body, behind, by simp [isBracket], cut, .array all,
          Nat.succ_le_succ shallow⟩
  next isBrace =>
    cases levels with
    | zero => cases run
    | succ deeper =>
        obtain ⟨list, listRun, same⟩ := map_eq_ok.mp (mapError_eq_ok.mp run)
        cases same
        obtain ⟨text, rfl, rfl⟩ := encode_eq_cons spelled (by rw [isBrace]; rfl)
        obtain ⟨body, behind, rfl, cut, listed⟩ :=
          (object_spells (inner deeper rfl) _ _ _).mp ⟨list, listRun, rfl, rfl⟩
        obtain ⟨all, shallow⟩ := listed_memberWithin.mp listed
        exact ⟨'{' :: body, behind, by simp [isBrace], cut, .object all,
          Nat.succ_le_succ shallow⟩
  next =>
    split at run
    next =>
      obtain ⟨used, behind, n, rfl, cut, isNumber, meant, result⟩ := number_sound spelled run
      rw [result]
      exact ⟨used, behind, rfl, cut, .number isNumber meant, Nat.zero_le _⟩
    next => cases run

theorem readsAt_of {nested : Option (Reader (Document Number))} {c : Char} {text : List Char}
    {document : Document Number} {rest : List UInt8} (ascii : isAscii c = true)
    (read : ∃ read, valueAt nested (UInt8.ofNat c.toNat) (encode text) = .ok read ∧
      read.result = document ∧ read.rest = rest) :
    ReadsAt nested (encode (c :: text)) document rest := by
  obtain ⟨read, run, result⟩ := read
  exact ⟨_, _, read, encode_cons_ascii _ ascii, run, result⟩

theorem word_complete (b : UInt8) (document : Document Number) {word : List Char}
    (narrow : ∀ c ∈ word, isAscii c = true) (behind : List Char) :
    ∃ read : Read (Document Number) (b :: encode (word ++ behind)),
      Json.word document word (encode (word ++ behind)) (Nat.le_refl _) = .ok read ∧
        read.result = document ∧ read.rest = encode behind :=
  (word_reads document narrow _ _ _ _).mpr ⟨encode_append _ _, rfl⟩

theorem valueAt_number {nested : Option (Reader (Document Number))} {b : UInt8} {rest : List UInt8}
    (numeric : charOf b = '-' ∨ (charOf b).isDigit = true) :
    valueAt nested b rest = number b rest := by
  have other : ∀ c, c ≠ '-' → c.isDigit = false → charOf b ≠ c := by
    rintro c noMinus noDigit rfl
    rcases numeric with minus | digit
    · exact noMinus minus
    · rw [digit] at noDigit
      cases noDigit
  simp only [valueAt]
  split
  next same => exact absurd same (other _ (by decide) rfl)
  next same => exact absurd same (other _ (by decide) rfl)
  next same => exact absurd same (other _ (by decide) rfl)
  next same => exact absurd same (other _ (by decide) rfl)
  next same => exact absurd same (other _ (by decide) rfl)
  next same => exact absurd same (other _ (by decide) rfl)
  next => rw [if_pos numeric]

theorem valueAt_complete {levels : Nat} (inner : ∀ deeper, levels = deeper + 1 →
      Spells (Reads (value deeper)) (WrittenWithin deeper))
    {used behind : List Char} {document : Document Number}
    (within : WrittenWithin levels used document)
    (stops : NumberText used → Stops behind) :
    ReadsAt (nestedReader levels) (encode (used ++ behind)) document (encode behind) := by
  obtain ⟨found, shallow⟩ := within
  cases found with
  | null => exact readsAt_of rfl (word_complete _ _ (List.all_eq_true.mp rfl) behind)
  | isTrue => exact readsAt_of rfl (word_complete _ _ (List.all_eq_true.mp rfl) behind)
  | isFalse => exact readsAt_of rfl (word_complete _ _ (List.all_eq_true.mp rfl) behind)
  | @string inner content isContent =>
      obtain ⟨read, run, result, left⟩ := (string_recognizes _ _ _).mpr
        ⟨inner ++ ['"'], behind, rfl, rfl, inner, content, rfl, isContent, rfl⟩
      exact readsAt_of rfl ⟨_, map_eq_ok.mpr ⟨read, run, rfl⟩, congrArg Document.string result,
        left⟩
  | number isNumber meant =>
      obtain ⟨c, more, rfl, starts⟩ := isNumber.starts
      have ascii := isNumber.ascii c List.mem_cons_self
      have spelled := encode_cons_ascii (more ++ behind) ascii
      have ends := stops_number (stops isNumber)
      have read := number_complete isNumber meant ends spelled
      have numeric : c = '-' ∨ c.isDigit = true := starts.elim Or.inr fun minus => Or.inl minus.1
      refine readsAt_of ascii ?_
      rwa [valueAt_number (by rwa [charOf_ofNat ascii])]
  | array listed =>
      obtain ⟨deeper, rfl⟩ : ∃ deeper, levels = deeper + 1 := ⟨levels - 1, by
        simp only [Document.depth] at shallow
        omega⟩
      obtain ⟨read, run, result, left⟩ := (array_spells (inner deeper rfl) _ _ _).mpr
        ⟨_, behind, rfl, rfl, listed_within.mpr ⟨listed, Nat.le_of_succ_le_succ shallow⟩⟩
      exact readsAt_of rfl ⟨_, mapError_eq_ok.mpr (map_eq_ok.mpr ⟨read, run, rfl⟩),
        congrArg Document.array result, left⟩
  | object listed =>
      obtain ⟨deeper, rfl⟩ : ∃ deeper, levels = deeper + 1 := ⟨levels - 1, by
        simp only [Document.depth] at shallow
        omega⟩
      obtain ⟨read, run, result, left⟩ := (object_spells (inner deeper rfl) _ _ _).mpr
        ⟨_, behind, rfl, rfl, listed_memberWithin.mpr ⟨listed, Nat.le_of_succ_le_succ shallow⟩⟩
      exact readsAt_of rfl ⟨_, mapError_eq_ok.mpr (map_eq_ok.mpr ⟨read, run, rfl⟩),
        congrArg Document.object result, left⟩

theorem value_spells (levels : Nat) : Spells (Reads (value levels)) (WrittenWithin levels) := by
  have step : ∀ levels, (∀ deeper, levels = deeper + 1 →
      Spells (Reads (value deeper)) (WrittenWithin deeper)) →
      Spells (Reads (value levels)) (WrittenWithin levels) := by
    intro levels inner
    constructor
    · intro text document rest read
      obtain ⟨lead, tail, rfl, blank, cut⟩ := skipSpace_cut text
      rw [value_reads, cut] at read
      obtain ⟨used, behind, rfl, rfl, within⟩ := valueAt_sound inner read
      exact ⟨lead, used, behind, rfl, blank, rfl, within⟩
    · intro used behind document within stops
      have read := valueAt_complete inner within fun _ => stops
      obtain ⟨c, rest, rfl, ascii, visible, _⟩ := within_opens used document within
      have skipped := skipSpace_visible (rest ++ behind) blank_nil ascii visible
      rw [List.nil_append, ← encode_cons_ascii _ ascii] at skipped
      rw [value_reads, List.cons_append, skipped]
      exact read
  induction levels with
  | zero => exact step 0 fun deeper impossible => by cases impossible
  | succ levels ih => exact step (levels + 1) fun deeper same => by cases same; exact ih

theorem whole_eq_ok_iff (levels : Nat) (text : List Char) (document : Document Number) :
    Reader.whole levels (encode text) = .ok document ↔
      DocumentText Numbers.ofText? text document ∧ document.depth ≤ levels := by
  have spells := value_spells levels
  constructor
  · intro run
    unfold Reader.whole at run
    split at run
    next => cases run
    next read valueRun =>
      split at run
      next ended =>
        cases run
        obtain ⟨lead, used, behind, rfl, blankLead, cut, found, shallow⟩ :=
          spells.sound _ _ _ ⟨read, valueRun, rfl, rfl⟩
        rw [cut, skipSpace_eq_nil] at ended
        exact ⟨.one blankLead found ended, shallow⟩
      next => cases run
  · rintro ⟨⟨blankLead, found, blankGap⟩, shallow⟩
    rename_i lead used gap
    have stops : Stops gap := by
      have ends := stops_nil.behindGap blankGap
      rwa [List.append_nil] at ends
    obtain ⟨read, valueRun, result, left⟩ := (value_skips levels lead (used ++ gap) _ _
      blankLead).mpr (spells.complete used gap _ ⟨found, shallow⟩ stops)
    unfold Reader.whole
    rw [valueRun]
    dsimp only
    rw [left, if_pos ((skipSpace_eq_nil gap).mpr blankGap), result]

theorem reader_readsTexts : @ReadsTexts _ reader := by
  refine @ReadsTexts.mk _ reader fun text document => ?_
  change (Reader.whole maxDepth (encode text)).map Document.merged = .ok document ↔ _
  simp only [map_eq_ok, whole_eq_ok_iff, and_assoc]

end

theorem documentText_unique {ν : Type} {number? : List Char → Option ν} {text : List Char}
    {document other : Document ν} (written : DocumentText number? text document)
    (again : DocumentText number? text other) : document = other := by
  let numbers : Numbers := ⟨ν, number?, fun _ => none, fun _ => none⟩
  let levels := max document.depth other.depth
  have read := (@whole_eq_ok_iff numbers levels text document).mpr ⟨written, Nat.le_max_left _ _⟩
  have readToo := (@whole_eq_ok_iff numbers levels text other).mpr ⟨again, Nat.le_max_right _ _⟩
  exact Except.ok.inj (read.symm.trans readToo)

end Stencil.Json
