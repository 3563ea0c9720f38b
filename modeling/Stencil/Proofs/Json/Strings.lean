import Mathlib.Data.List.TakeWhile
import Stencil.Json.Reader
import Stencil.Proofs.Json.Grammar
import Stencil.Proofs.Json.Utf8
import Stencil.Proofs.Outcome
import Stencil.Source.Lexer

/-! String literals. The reader of documents reads exactly the strings of the grammar; the scanner
of templates reads them as well. -/

namespace Stencil.Json

variable {α : Type}

def Reads (reader : Reader α) (bytes : List UInt8) (result : α) (rest : List UInt8) : Prop :=
  ∃ read, reader bytes = .ok read ∧ read.result = result ∧ read.rest = rest

def Recognizes (reader : Reader α) (Item : List Char → α → Prop) : Prop :=
  ∀ text result rest, Reads reader (encode text) result rest ↔
    ∃ used behind, text = used ++ behind ∧ rest = encode behind ∧ Item used result

theorem isHexDigit_bounds {c : Char} (hex : Text.isHexDigit c = true) :
    '0'.toNat ≤ c.toNat ∧ c.toNat ≤ 'f'.toNat := by
  simp only [Text.isHexDigit, Text.hexValue?] at hex
  split at hex
  next digit =>
    obtain ⟨low, high⟩ := Char.isDigit_iff_toNat.mp digit
    exact ⟨low, Nat.le_trans high (by decide)⟩
  split at hex
  next small => exact ⟨Nat.le_trans (by decide) (Char.le_def.mp small.1), Char.le_def.mp small.2⟩
  split at hex
  next large =>
    exact ⟨Nat.le_trans (by decide) (Char.le_def.mp large.1),
      Nat.le_trans (Char.le_def.mp large.2) (by decide)⟩
  next => cases hex

theorem isHexDigit_ascii (c : Char) (hex : Text.isHexDigit c = true) : isAscii c = true := by
  have bound : c.toNat ≤ 102 := (isHexDigit_bounds hex).2
  simp only [isAscii, decide_eq_true_eq]
  omega

theorem HexQuad.ascii {digits : List Char} {code : Nat} (quad : HexQuad digits code) :
    ∀ c ∈ digits, isAscii c = true :=
  fun c member => isHexDigit_ascii c (quad.2.1 c member)

theorem hexQuad_front {digits : List Char} {code : Nat} (rest : List UInt8)
    (quad : HexQuad digits code) :
    ∃ bound, hexQuad (encode digits ++ rest) = .ok (code, ⟨rest, bound⟩) := by
  have four : (encode digits).length = 4 := by rw [length_encode quad.ascii, quad.1]
  have read : ascii ((encode digits ++ rest).take 4) = digits := by
    rw [← four, List.take_left, ascii_encode quad.ascii]
  have left : (encode digits ++ rest).drop 4 = rest := by rw [← four, List.drop_left]
  have size : ¬digits.length < 4 := by rw [quad.1]; decide
  have allHex : digits.all Text.isHexDigit = true := List.all_eq_true.mpr quad.2.1
  refine ⟨by simp, ?_⟩
  simp only [hexQuad, read, left, size, allHex, if_true, if_false, quad.2.2]

theorem hexQuad_sound {text : List Char} {code : Nat} {rest : List UInt8}
    {bound : rest.length ≤ (encode text).length}
    (run : hexQuad (encode text) = .ok (code, ⟨rest, bound⟩)) :
    ∃ digits behind, text = digits ++ behind ∧ rest = encode behind ∧ HexQuad digits code := by
  simp only [hexQuad] at run
  split at run
  next => cases run
  split at run
  next size digits =>
    cases run
    have allHex := List.all_eq_true.mp digits
    obtain ⟨behind, front, cut⟩ :=
      encode_take 4 text fun c member => isHexDigit_ascii c (allHex c member)
    have four : (ascii ((encode text).take 4)).length = 4 := by
      have most : (ascii ((encode text).take 4)).length ≤ 4 := by
        rw [ascii, List.length_map, List.length_take]
        exact Nat.min_le_left _ _
      omega
    exact ⟨_, behind, front, cut, four, allHex, rfl⟩
  next => cases run

theorem not_low_of_high {code : Nat} (high : Text.isHighSurrogate code = true) :
    Text.isLowSurrogate code = false := by
  simp only [Text.isHighSurrogate, Bool.and_eq_true, decide_eq_true_eq] at high
  simp only [Text.isLowSurrogate, Bool.and_eq_false_iff, decide_eq_false_iff_not]
  omega

theorem codeEscape_sound {text : List Char} {c : Char} {rest : List UInt8}
    {bound : rest.length ≤ (encode text).length}
    (run : codeEscape (encode text) = .ok (c, ⟨rest, bound⟩)) :
    ∃ used behind, text = used ++ behind ∧ rest = encode behind ∧ Escape ('u' :: used) c := by
  obtain ⟨⟨code, middle, middleBound⟩, firstRun, run⟩ := bind_eq_ok.mp run
  obtain ⟨first, behind, rfl, cut, quad⟩ := hexQuad_sound firstRun
  dsimp only at run
  split at run
  next => cases run
  next notLow =>
    split at run
    next high =>
      split at run
      next => cases run
      next => cases run
      next mark letter bytes _ =>
        split at run
        next => cases run
        next isMark =>
          split at run
          next => cases run
          next isLetter =>
            obtain ⟨⟨low, final, finalBound⟩, secondRun, run⟩ := bind_eq_ok.mp run
            dsimp only at run
            split at run
            next isLow =>
              simp only [pure, Except.pure, Except.ok.injEq, Prod.mk.injEq,
                Subtype.mk.injEq] at run
              obtain ⟨rfl, rfl⟩ := run
              have backslash : charOf mark = '\\' := Decidable.not_not.mp isMark
              have small : charOf letter = 'u' := Decidable.not_not.mp isLetter
              obtain ⟨others, rfl, marked⟩ := encode_eq_cons cut.symm (by rw [backslash]; rfl)
              obtain ⟨digits, rfl, rfl⟩ := encode_eq_cons marked.symm (by rw [small]; rfl)
              obtain ⟨second, rest, rfl, ends, lowQuad⟩ := hexQuad_sound secondRun
              refine ⟨first ++ '\\' :: 'u' :: second, rest, ?_, ends,
                .pair quad high lowQuad isLow⟩
              simp [backslash, small]
            next => cases run
    next notHigh =>
      cases run
      refine ⟨first, behind, rfl, cut, .code quad ?_⟩
      simp [isSurrogate, notHigh, notLow]

theorem codeEscape_front {used : List Char} {c : Char} (rest : List UInt8)
    (escape : Escape ('u' :: used) c) :
    ∃ bound, codeEscape (encode used ++ rest) = .ok (c, ⟨rest, bound⟩) := by
  cases escape with
  | short mark => simp [Text.shortEscape?] at mark
  | code quad whole =>
      obtain ⟨bound, run⟩ := hexQuad_front rest quad
      have neither := Bool.or_eq_false_iff.mp whole
      refine ⟨bound, bind_eq_ok.mpr ⟨_, run, ?_⟩⟩
      simp only [neither.1, neither.2]
      rfl
  | @pair first second high low quad isHigh lowQuad isLow =>
      have spelled : encode (first ++ '\\' :: 'u' :: second) ++ rest =
          encode first ++ (0x5c :: 0x75 :: (encode second ++ rest)) := by
        rw [encode_append, encode_cons_ascii _ rfl, encode_cons_ascii _ rfl, List.append_assoc]
        rfl
      obtain ⟨bound, run⟩ := hexQuad_front (0x5c :: 0x75 :: (encode second ++ rest)) quad
      obtain ⟨lowBound, lowRun⟩ := hexQuad_front rest lowQuad
      rw [spelled]
      refine ⟨by simp; omega, bind_eq_ok.mpr ⟨_, run, ?_⟩⟩
      have backslash : charOf 0x5c = '\\' := rfl
      have small : charOf 0x75 = 'u' := rfl
      simp only [not_low_of_high isHigh, isHigh, backslash, small, ne_eq, not_true, if_true,
        if_false, Bool.false_eq_true]
      refine bind_eq_ok.mpr ⟨_, lowRun, ?_⟩
      simp only [isLow, if_true]
      rfl

theorem shortEscape_ascii {mark c : Char} (short : Text.shortEscape? mark = some c) :
    isAscii mark = true := by
  unfold Text.shortEscape? at short
  split at short <;> first | rfl | cases short

theorem escaped_recognizes : Recognizes escaped Escape := by
  intro text c rest
  constructor
  · intro read
    cases spelled : encode text with
    | nil =>
        rw [spelled] at read
        obtain ⟨_, run, _⟩ := read
        cases run
    | cons mark bytes =>
        rw [spelled] at read
        obtain ⟨⟨c, rest, fewer⟩, run, rfl, rfl⟩ := read
        simp only [escaped] at run
        split at run
        next small =>
          obtain ⟨⟨c, behind, bound⟩, codeRun, same⟩ := map_eq_ok.mp run
          cases same
          obtain ⟨digits, rfl, rfl⟩ := encode_eq_cons spelled (by rw [small]; rfl)
          obtain ⟨used, behind, rfl, cut, escape⟩ := codeEscape_sound codeRun
          exact ⟨'u' :: used, behind, by simp [small], cut, escape⟩
        next =>
          split at run
          next c short =>
            cases run
            obtain ⟨behind, rfl, rfl⟩ := encode_eq_cons spelled (shortEscape_ascii short)
            exact ⟨[charOf mark], behind, rfl, rfl, .short short⟩
          next => cases run
  · rintro ⟨used, behind, rfl, rfl, escape⟩
    have code : ∀ digits, used = 'u' :: digits →
        Reads escaped (encode (used ++ behind)) c (encode behind) := by
      rintro digits rfl
      obtain ⟨bound, run⟩ := codeEscape_front (encode behind) escape
      rw [List.cons_append, encode_cons_ascii _ rfl, encode_append]
      have small : charOf (UInt8.ofNat 'u'.toNat) = 'u' := rfl
      unfold Reads
      simp only [escaped, small, if_true]
      exact ⟨_, map_eq_ok.mpr ⟨_, run, rfl⟩, rfl, rfl⟩
    cases escape with
    | @short mark _ short =>
        have other : mark ≠ 'u' := by
          rintro rfl
          cases short
        have first := charOf_ofNat (shortEscape_ascii short)
        rw [List.singleton_append, encode_cons_ascii _ (shortEscape_ascii short)]
        unfold Reads
        simp only [escaped, first, other, if_false, short]
        exact ⟨_, rfl, rfl, rfl⟩
    | code _ _ => exact code _ rfl
    | pair _ _ _ _ => exact code _ rfl

def PlainByte (b : UInt8) : Prop :=
  charOf b ≠ '"' ∧ charOf b ≠ '\\' ∧ ¬b < 0x20

theorem stringBytes_plain {b : UInt8} (plain : PlainByte b) (bytes result rest : List UInt8) :
    Reads stringBytes (b :: bytes) result rest ↔
      ∃ more, Reads stringBytes bytes more rest ∧ result = b :: more := by
  obtain ⟨noQuote, noBackslash, noControl⟩ := plain
  unfold Reads
  rw [stringBytes.eq_2]
  simp only [noQuote, noBackslash, noControl, if_false]
  constructor
  · rintro ⟨read, run, rfl, rfl⟩
    obtain ⟨more, moreRun, same⟩ := bind_eq_ok.mp run
    cases same
    exact ⟨more.result, ⟨more, moreRun, rfl, rfl⟩, rfl⟩
  · rintro ⟨_, ⟨more, moreRun, rfl, rfl⟩, rfl⟩
    exact ⟨_, bind_eq_ok.mpr ⟨more, moreRun, rfl⟩, rfl, rfl⟩

theorem plainByte_high {b : UInt8} (high : 0x80 ≤ b.toNat) : PlainByte b := by
  have other : ∀ c, isAscii c = true → charOf b ≠ c := by
    rintro c ascii rfl
    rw [isAscii, toNat_charOf, decide_eq_true_eq] at ascii
    omega
  refine ⟨other _ rfl, other _ rfl, ?_⟩
  rw [UInt8.lt_iff_toNat_lt]
  exact Nat.not_lt.mpr (Nat.le_trans (by decide) high)

theorem stringBytes_high {high : List UInt8} (all : ∀ b ∈ high, 0x80 ≤ b.toNat)
    (bytes result rest : List UInt8) :
    Reads stringBytes (high ++ bytes) result rest ↔
      ∃ more, Reads stringBytes bytes more rest ∧ result = high ++ more := by
  induction high generalizing result with
  | nil => simp
  | cons b high ih =>
      have tail := ih fun c member => all c (List.mem_cons_of_mem _ member)
      rw [List.cons_append, stringBytes_plain (plainByte_high (all b List.mem_cons_self))]
      constructor
      · rintro ⟨more, read, rfl⟩
        obtain ⟨others, found, rfl⟩ := (tail more).mp read
        exact ⟨others, found, rfl⟩
      · rintro ⟨more, read, rfl⟩
        exact ⟨high ++ more, (tail _).mpr ⟨more, read, rfl⟩, rfl⟩

theorem stringBytes_char {c : Char} (noQuote : c ≠ '"') (noBackslash : c ≠ '\\')
    (noControl : 0x20 ≤ c.toNat) (text : List Char) (result rest : List UInt8) :
    Reads stringBytes (encode (c :: text)) result rest ↔
      ∃ more, Reads stringBytes (encode text) more rest ∧
        result = String.utf8EncodeChar c ++ more := by
  cases ascii : isAscii c with
  | true =>
      have first := charOf_ofNat ascii
      have plain : PlainByte (UInt8.ofNat c.toNat) := by
        rw [PlainByte, UInt8.lt_iff_toNat_lt, ← toNat_charOf, first]
        exact ⟨noQuote, noBackslash, Nat.not_lt.mpr noControl⟩
      rw [encode_cons_ascii _ ascii, stringBytes_plain plain, utf8EncodeChar_ascii ascii]
      rfl
  | false =>
      rw [encode_cons]
      exact stringBytes_high (utf8EncodeChar_high ascii) _ _ _

theorem stringBytes_escape (text : List Char) (result rest : List UInt8) :
    Reads stringBytes (encode ('\\' :: text)) result rest ↔
      ∃ c middle more, Reads escaped (encode text) c middle ∧ Reads stringBytes middle more rest ∧
        result = String.utf8EncodeChar c ++ more := by
  have backslash : charOf (UInt8.ofNat '\\'.toNat) = '\\' := rfl
  have noQuote : '\\' ≠ '"' := by decide
  rw [encode_cons_ascii _ rfl]
  unfold Reads
  rw [stringBytes.eq_2]
  simp only [backslash, noQuote, if_true, if_false]
  constructor
  · rintro ⟨read, run, rfl, rfl⟩
    obtain ⟨first, firstRun, run⟩ := bind_eq_ok.mp run
    obtain ⟨more, moreRun, same⟩ := bind_eq_ok.mp run
    cases same
    exact ⟨_, _, _, ⟨first, firstRun, rfl, rfl⟩, ⟨more, moreRun, rfl, rfl⟩, rfl⟩
  · rintro ⟨_, _, _, ⟨first, firstRun, rfl, rfl⟩, ⟨more, moreRun, rfl, rfl⟩, rfl⟩
    exact ⟨_, bind_eq_ok.mpr ⟨first, firstRun, bind_eq_ok.mpr ⟨more, moreRun, rfl⟩⟩, rfl, rfl⟩

theorem stringBytes_close (text : List Char) (result rest : List UInt8) :
    Reads stringBytes (encode ('"' :: text)) result rest ↔ result = [] ∧ rest = encode text := by
  have quote : charOf (UInt8.ofNat '"'.toNat) = '"' := rfl
  rw [encode_cons_ascii _ rfl]
  unfold Reads
  rw [stringBytes.eq_2]
  simp only [quote, if_true]
  constructor
  · rintro ⟨read, run, rfl, rfl⟩
    cases run
    exact ⟨rfl, rfl⟩
  · rintro ⟨rfl, rfl⟩
    exact ⟨_, rfl, rfl, rfl⟩

theorem stringBytes_control {c : Char} (control : c.toNat < 0x20) (text : List Char)
    (result rest : List UInt8) : ¬Reads stringBytes (encode (c :: text)) result rest := by
  have ascii : isAscii c = true := decide_eq_true (Nat.lt_trans control (by decide))
  have first := charOf_ofNat ascii
  have below : UInt8.ofNat c.toNat < 0x20 := by
    rw [UInt8.lt_iff_toNat_lt, ← toNat_charOf, first]
    exact control
  have noQuote : c ≠ '"' := by rintro rfl; exact absurd control (by decide)
  have noBackslash : c ≠ '\\' := by rintro rfl; exact absurd control (by decide)
  rw [encode_cons_ascii _ ascii]
  rintro ⟨read, run, _⟩
  rw [stringBytes.eq_2] at run
  simp only [first, noQuote, noBackslash, below, if_true, if_false] at run
  cases run

theorem stringBytes_sound {text : List Char} {result rest : List UInt8}
    (read : Reads stringBytes (encode text) result rest) :
    ∃ used behind content, text = used ++ '"' :: behind ∧ rest = encode behind ∧
      Content used content ∧ result = encode content := by
  generalize sizeEq : text.length = size
  induction size using Nat.strongRecOn generalizing text result with
  | ind size ih =>
      cases text with
      | nil =>
          rw [encode_nil] at read
          obtain ⟨_, run, _⟩ := read
          rw [stringBytes.eq_1] at run
          cases run
      | cons c text =>
          by_cases quote : c = '"'
          · subst quote
            obtain ⟨rfl, rfl⟩ := (stringBytes_close text result rest).mp read
            exact ⟨[], text, [], rfl, rfl, .nil, rfl⟩
          by_cases backslash : c = '\\'
          · subst backslash
            obtain ⟨c, _, more, first, later, rfl⟩ := (stringBytes_escape text result rest).mp read
            obtain ⟨escape, middle, rfl, rfl, meant⟩ := (escaped_recognizes _ _ _).mp first
            obtain ⟨used, behind, content, rfl, ends, inner, rfl⟩ :=
              ih middle.length (by simp at sizeEq; omega) later rfl
            exact ⟨'\\' :: (escape ++ used), behind, c :: content, by simp, ends,
              .escape meant inner, (encode_cons c content).symm⟩
          by_cases control : c.toNat < 0x20
          · exact absurd read (stringBytes_control control text result rest)
          · have visible := Nat.le_of_not_lt control
            obtain ⟨more, later, rfl⟩ :=
              (stringBytes_char quote backslash visible text result rest).mp read
            obtain ⟨used, behind, content, rfl, ends, inner, rfl⟩ :=
              ih text.length (by simp at sizeEq; omega) later rfl
            exact ⟨c :: used, behind, c :: content, rfl, ends,
              .plain quote backslash visible inner, (encode_cons c content).symm⟩

theorem stringBytes_complete {used content : List Char} (inner : Content used content)
    (behind : List Char) :
    Reads stringBytes (encode (used ++ '"' :: behind)) (encode content) (encode behind) := by
  induction inner with
  | nil => exact (stringBytes_close behind _ _).mpr ⟨rfl, rfl⟩
  | plain quote backslash visible _ ih =>
      exact (stringBytes_char quote backslash visible _ _ _).mpr
        ⟨_, ih, encode_cons _ _⟩
  | @escape escape c used content meant _ ih =>
      rw [List.cons_append, List.append_assoc]
      refine (stringBytes_escape _ _ _).mpr ⟨c, _, _, ?_, ih, encode_cons _ _⟩
      exact (escaped_recognizes _ _ _).mpr ⟨escape, _, rfl, rfl, meant⟩

theorem string_recognizes : Recognizes string fun used s =>
    ∃ inner content, used = inner ++ ['"'] ∧ Content inner content ∧ s = String.ofList content := by
  intro text s rest
  constructor
  · rintro ⟨read, run, rfl, rfl⟩
    obtain ⟨bytes, bytesRun, run⟩ := bind_eq_ok.mp run
    obtain ⟨used, behind, content, rfl, ends, inner, spelled⟩ :=
      stringBytes_sound ⟨bytes, bytesRun, rfl, rfl⟩
    rw [spelled, textOf?_encode] at run
    cases run
    exact ⟨used ++ ['"'], behind, by simp, ends, used, content, rfl, inner, rfl⟩
  · rintro ⟨_, behind, rfl, rfl, used, content, rfl, inner, rfl⟩
    rw [List.append_assoc, List.singleton_append]
    obtain ⟨bytes, run, spelled, ends⟩ := stringBytes_complete inner behind
    refine ⟨⟨_, bytes.rest, bytes.fewer⟩, bind_eq_ok.mpr ⟨bytes, run, ?_⟩, rfl, ends⟩
    rw [spelled, textOf?_encode]
    rfl

theorem HexQuad.scanned {digits : List Char} {code : Nat} (quad : HexQuad digits code)
    (rest : List Char) : Source.hexQuad (digits ++ rest) = .ok code := by
  have front : (digits ++ rest).take 4 = digits := by rw [← quad.1, List.take_left]
  have all : digits.takeWhile Text.isHexDigit = digits :=
    List.takeWhile_eq_self_iff.mpr quad.2.1
  simp only [Source.hexQuad, front, all, quad.1, if_true, quad.2.2]

theorem Escape.unescaped {mark c : Char} {used : List Char} (escape : Escape (mark :: used) c)
    (rest : List Char) : Source.unescape mark (used ++ rest) = .ok (c, used.length) := by
  cases escape with
  | short short =>
      have other : mark ≠ 'u' := by
        rintro rfl
        cases short
      simp only [Source.unescape, other, if_false, short, List.length_nil]
  | code quad whole =>
      have neither := Bool.or_eq_false_iff.mp whole
      simp only [Source.unescape, if_true, Source.codeEscape, quad.scanned rest, neither.1,
        neither.2, quad.1]
      rfl
  | @pair first second high low quad isHigh lowQuad isLow =>
      have behind : (first ++ '\\' :: 'u' :: second ++ rest).drop 4 =
          '\\' :: 'u' :: (second ++ rest) := by
        rw [← quad.1, List.append_assoc, List.drop_left]
        rfl
      have digits : (first ++ '\\' :: 'u' :: second ++ rest).drop 6 = second ++ rest := by
        have cut := congrArg (List.drop 2) behind
        rwa [List.drop_drop] at cut
      have read : Source.hexQuad (first ++ '\\' :: 'u' :: second ++ rest) = .ok high := by
        rw [List.append_assoc]
        exact quad.scanned _
      have size : (first ++ '\\' :: 'u' :: second).length = 10 := by
        simp [quad.1, lowQuad.1]
      simp only [Source.unescape, if_true, Source.codeEscape, read, isHigh, behind, digits,
        lowQuad.scanned rest, isLow, size]
      rfl

end Stencil.Json
