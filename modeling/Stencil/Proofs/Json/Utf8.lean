import Stencil.Json.Reader

/-! Bytes of a text. ASCII characters are bytes of their own, and no byte of another character looks
like one of them. -/

namespace Stencil.Json

def encode (text : List Char) : List UInt8 :=
  text.flatMap String.utf8EncodeChar

@[simp] theorem encode_nil : encode [] = [] := rfl

@[simp] theorem encode_append (first second : List Char) :
    encode (first ++ second) = encode first ++ encode second :=
  List.flatMap_append

theorem encode_cons (c : Char) (rest : List Char) :
    encode (c :: rest) = String.utf8EncodeChar c ++ encode rest :=
  List.flatMap_cons

theorem toList_loop (bytes : ByteArray) (index : Nat) (read : List UInt8) :
    ByteArray.toList.loop bytes index read = read.reverse ++ bytes.data.toList.drop index := by
  generalize left : bytes.size - index = count
  induction count generalizing index read with
  | zero =>
      unfold ByteArray.toList.loop
      have passed : ¬index < bytes.size := by omega
      have nothing : bytes.data.toList.drop index = [] :=
        List.drop_eq_nil_of_le (by rw [Array.length_toList]; exact Nat.le_of_not_lt passed)
      rw [if_neg passed, nothing, List.append_nil]
  | succ count ih =>
      unfold ByteArray.toList.loop
      have inside : index < bytes.data.toList.length := by
        rw [Array.length_toList]
        change index < bytes.size
        omega
      have next : bytes.get! index = bytes.data.toList[index] := by
        rw [Array.length_toList] at inside
        exact getElem!_pos bytes.data index inside
      rw [if_pos (by omega), ih _ _ (by omega), List.drop_eq_getElem_cons inside, next]
      simp

theorem toUTF8_toList (text : String) : text.toUTF8.toList = encode text.toList := by
  have bytes : text.toUTF8 = (encode text.toList).toByteArray := by
    rw [String.toUTF8_eq_toByteArray, ← String.utf8Encode_toList]
    rfl
  rw [bytes, ByteArray.toList, toList_loop]
  simp

theorem textOf?_encode (text : List Char) : textOf? (encode text) = some (String.ofList text) := by
  have bytes : (⟨(encode text).toArray⟩ : ByteArray) = text.utf8Encode := by
    apply ByteArray.ext
    apply Array.toList_inj.mp
    simp [List.utf8Encode, encode]
  have valid : ByteArray.IsValidUTF8 text.utf8Encode := ByteArray.isValidUTF8_utf8Encode
  unfold textOf? String.fromUTF8?
  rw [bytes, dif_pos valid]
  apply congrArg some
  apply String.toByteArray_inj.mp
  rw [String.toByteArray_ofList]
  rfl

def isAscii (c : Char) : Bool :=
  c.toNat < 0x80

theorem utf8EncodeChar_ascii {c : Char} (ascii : isAscii c = true) :
    String.utf8EncodeChar c = [UInt8.ofNat c.toNat] := by
  have small : c.val.toNat ≤ 0x7f := by
    have bound : c.toNat < 0x80 := by simpa [isAscii] using ascii
    exact Nat.le_of_lt_succ bound
  simp only [String.utf8EncodeChar, small, if_true]
  rfl

theorem encode_cons_ascii {c : Char} (rest : List Char) (ascii : isAscii c = true) :
    encode (c :: rest) = UInt8.ofNat c.toNat :: encode rest := by
  rw [encode_cons, utf8EncodeChar_ascii ascii]
  rfl

theorem toNat_charOf (b : UInt8) : (charOf b).toNat = b.toNat := rfl

theorem charOf_ofNat {c : Char} (ascii : isAscii c = true) :
    charOf (UInt8.ofNat c.toNat) = c := by
  have bound : c.toNat < 0x80 := by simpa [isAscii] using ascii
  apply Char.toNat_inj.mp
  rw [toNat_charOf, UInt8.toNat_ofNat']
  omega

theorem utf8EncodeChar_high {c : Char} (foreign : isAscii c = false) :
    ∀ b ∈ String.utf8EncodeChar c, 0x80 ≤ b.toNat := by
  have large : ¬c.val.toNat ≤ 0x7f := by
    have bound : ¬c.toNat < 0x80 := by simpa [isAscii] using foreign
    intro small
    exact bound (Nat.lt_succ_of_le small)
  have byte : ∀ payload lead, 0x80 ≤ lead → payload + lead < 0x100 →
      0x80 ≤ (UInt8.ofNat (payload + lead)).toNat := by
    intro payload lead high bound
    rw [UInt8.toNat_ofNat']
    omega
  intro b member
  simp only [String.utf8EncodeChar, large, if_false] at member
  split at member
  · simp only [List.mem_cons, List.not_mem_nil, or_false] at member
    rcases member with rfl | rfl <;> exact byte _ _ (by omega) (by omega)
  split at member
  · simp only [List.mem_cons, List.not_mem_nil, or_false] at member
    rcases member with rfl | rfl | rfl <;> exact byte _ _ (by omega) (by omega)
  · simp only [List.mem_cons, List.not_mem_nil, or_false] at member
    rcases member with rfl | rfl | rfl | rfl <;> exact byte _ _ (by omega) (by omega)

/-- The first byte of a character is the character itself, or it is not ASCII. -/
theorem encode_cons_view (c : Char) (rest : List Char) :
    ∃ b bytes, encode (c :: rest) = b :: bytes ∧
      ((isAscii c = true ∧ charOf b = c ∧ bytes = encode rest) ∨
        (isAscii c = false ∧ isAscii (charOf b) = false)) := by
  cases ascii : isAscii c with
  | true =>
      exact ⟨UInt8.ofNat c.toNat, encode rest, encode_cons_ascii rest ascii,
        Or.inl ⟨rfl, charOf_ofNat ascii, rfl⟩⟩
  | false =>
      have high := utf8EncodeChar_high ascii
      rw [encode_cons]
      cases spelled : String.utf8EncodeChar c with
      | nil =>
          have size := congrArg List.length spelled
          rw [String.length_utf8EncodeChar] at size
          exact absurd size (Nat.ne_of_gt c.utf8Size_pos)
      | cons b more =>
          have bound := high b (by simp [spelled])
          refine ⟨b, more ++ encode rest, rfl, Or.inr ⟨rfl, ?_⟩⟩
          rw [isAscii, toNat_charOf]
          exact decide_eq_false (by omega)

theorem encode_eq_nil {text : List Char} : encode text = [] ↔ text = [] := by
  cases text with
  | nil => simp
  | cons c rest =>
      obtain ⟨b, bytes, spelled, _⟩ := encode_cons_view c rest
      simp [spelled]

theorem encode_eq_cons {text : List Char} {b : UInt8} {bytes : List UInt8}
    (spelled : encode text = b :: bytes) (ascii : isAscii (charOf b) = true) :
    ∃ rest, text = charOf b :: rest ∧ bytes = encode rest := by
  cases text with
  | nil => cases spelled
  | cons c rest =>
      obtain ⟨b', bytes', spelled', view⟩ := encode_cons_view c rest
      rw [spelled] at spelled'
      cases spelled'
      rcases view with ⟨_, rfl, rfl⟩ | ⟨_, foreign⟩
      · exact ⟨rest, rfl, rfl⟩
      · rw [ascii] at foreign
        cases foreign

theorem encode_eq_append {front text : List Char} {rest : List UInt8}
    (narrow : ∀ c ∈ front, isAscii c = true) (spelled : encode text = encode front ++ rest) :
    ∃ behind, text = front ++ behind ∧ rest = encode behind := by
  induction front generalizing text with
  | nil => exact ⟨text, rfl, spelled.symm⟩
  | cons c front ih =>
      have ascii := narrow c List.mem_cons_self
      rw [encode_cons_ascii _ ascii, List.cons_append] at spelled
      have first := charOf_ofNat ascii
      obtain ⟨others, rfl, cut⟩ := encode_eq_cons spelled (by rw [first]; exact ascii)
      obtain ⟨behind, rfl, rest⟩ :=
        ih (fun d member => narrow d (List.mem_cons_of_mem _ member)) cut.symm
      exact ⟨behind, by rw [first, List.cons_append], rest⟩

theorem charOf_eq_iff {b : UInt8} {c : Char} (ascii : isAscii c = true) :
    charOf b = c ↔ b = UInt8.ofNat c.toNat := by
  constructor
  · rintro rfl
    rw [toNat_charOf, UInt8.ofNat_toNat]
  · rintro rfl
    exact charOf_ofNat ascii

theorem ascii_encode {text : List Char} (narrow : ∀ c ∈ text, isAscii c = true) :
    ascii (encode text) = text := by
  induction text with
  | nil => rfl
  | cons c rest ih =>
      have first := narrow c List.mem_cons_self
      rw [encode_cons_ascii rest first, ascii, List.map_cons, charOf_ofNat first]
      exact congrArg (c :: ·) (ih fun d member => narrow d (List.mem_cons_of_mem _ member))

theorem length_encode {text : List Char} (narrow : ∀ c ∈ text, isAscii c = true) :
    (encode text).length = text.length := by
  have size := congrArg List.length (ascii_encode narrow)
  rwa [ascii, List.length_map] at size

theorem encode_take (count : Nat) (text : List Char)
    (narrow : ∀ c ∈ ascii ((encode text).take count), isAscii c = true) :
    ∃ behind, text = ascii ((encode text).take count) ++ behind ∧
      (encode text).drop count = encode behind := by
  induction count generalizing text with
  | zero => exact ⟨text, rfl, rfl⟩
  | succ count ih =>
      cases spelled : encode text with
      | nil => exact ⟨[], by simp [encode_eq_nil.mp spelled, ascii], rfl⟩
      | cons b bytes =>
          rw [spelled, List.take_succ_cons, ascii, List.map_cons] at narrow
          obtain ⟨rest, rfl, rfl⟩ := encode_eq_cons spelled (narrow _ List.mem_cons_self)
          obtain ⟨behind, front, cut⟩ :=
            ih rest fun c member => narrow c (List.mem_cons_of_mem _ member)
          exact ⟨behind, congrArg (charOf b :: ·) front, cut⟩

section

variable {p : Char → Bool}

theorem charOf_foreign {b : UInt8} (narrow : ∀ c, p c = true → isAscii c = true)
    (foreign : isAscii (charOf b) = false) : p (charOf b) = false := by
  cases holds : p (charOf b) with
  | true => rw [narrow _ holds] at foreign; cases foreign
  | false => rfl

theorem takeWhile_encode (narrow : ∀ c, p c = true → isAscii c = true) (text : List Char) :
    (encode text).takeWhile (fun b => p (charOf b)) = encode (text.takeWhile p) := by
  induction text with
  | nil => rfl
  | cons c rest ih =>
      obtain ⟨b, bytes, spelled, view⟩ := encode_cons_view c rest
      rw [spelled, List.takeWhile_cons, List.takeWhile_cons]
      rcases view with ⟨ascii, rfl, rfl⟩ | ⟨foreign, high⟩
      · cases holds : p (charOf b) with
        | true =>
            have byte : encode (charOf b :: rest.takeWhile p) = b :: encode (rest.takeWhile p) := by
              rw [encode_cons_ascii rest ascii, List.cons.injEq] at spelled
              rw [encode_cons_ascii _ ascii, spelled.1]
            simp only [if_true, ih, byte]
        | false => rfl
      · have outside : p c = false := by
          cases holds : p c with
          | true => rw [narrow c holds] at foreign; cases foreign
          | false => rfl
        simp [charOf_foreign narrow high, outside]

theorem dropWhile_encode (narrow : ∀ c, p c = true → isAscii c = true) (text : List Char) :
    (encode text).dropWhile (fun b => p (charOf b)) = encode (text.dropWhile p) := by
  have whole := congrArg encode (List.takeWhile_append_dropWhile (p := p) (l := text))
  rw [encode_append, ← takeWhile_encode narrow] at whole
  exact List.append_cancel_left
    (whole.trans List.takeWhile_append_dropWhile.symm).symm

end

end Stencil.Json
