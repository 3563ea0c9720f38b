import Stencil.Json.Decoder
import Stencil.Text.Escape
import Stencil.Text.Surrogate

/-! Reading JSON from bytes. Reading looks one byte ahead. Where it stops at a fault, the bytes that
are left matter to whoever goes on reading behind it. Members are read as they are written; those with
one name are merged afterwards. -/

namespace Stencil.Json

open Numbers (Number)

/-- Where reading stops. When a byte is `held`, the first of the rest was looked at already. -/
structure Halt where
  fault : Fault
  rest : List UInt8
  held : Bool

structure Read (α : Type) (bytes : List UInt8) where
  result : α
  rest : List UInt8
  fewer : rest.length < bytes.length

abbrev Reader (α : Type) := (bytes : List UInt8) → Except Halt (Read α bytes)

def truncated : Halt := ⟨.truncated, [], false⟩

def rejected (rest : List UInt8) : Halt := ⟨.malformed, rest, false⟩

def stopAt : List UInt8 → Halt
  | [] => truncated
  | rest => ⟨.malformed, rest, true⟩

def charOf (b : UInt8) : Char :=
  Char.ofUInt8 b

def isSpace (b : UInt8) : Bool :=
  charOf b == ' ' || charOf b == '\n' || charOf b == '\t' || charOf b == '\r'

def skipSpace (bytes : List UInt8) : List UInt8 :=
  bytes.dropWhile isSpace

theorem length_skipSpace_le (bytes : List UInt8) : (skipSpace bytes).length ≤ bytes.length :=
  (List.dropWhile_suffix isSpace).length_le

def isDigit (b : UInt8) : Bool :=
  (charOf b).isDigit

def ascii (bytes : List UInt8) : List Char :=
  bytes.map charOf

def hexQuad (bytes : List UInt8) : Except Halt (Nat × { rest : List UInt8 // rest.length ≤ bytes.length }) :=
  let digits := ascii (bytes.take 4)
  if digits.length < 4 then .error truncated
  else if digits.all Text.isHexDigit then .ok (Text.hexNumber digits, ⟨bytes.drop 4, by simp⟩)
  else .error (rejected (bytes.drop 4))

def codeEscape (bytes : List UInt8) :
    Except Halt (Char × { rest : List UInt8 // rest.length ≤ bytes.length }) := do
  let (code, ⟨rest, bound⟩) ← hexQuad bytes
  if Text.isLowSurrogate code then throw (rejected rest)
  else if Text.isHighSurrogate code then
    match rest, bound with
    | [], _ => throw truncated
    | [mark], _ => throw (if charOf mark = '\\' then truncated else rejected [])
    | mark :: letter :: behind, bound =>
      if charOf mark ≠ '\\' then throw (rejected (letter :: behind))
      else if charOf letter ≠ 'u' then throw (rejected behind)
      else
        let (low, ⟨rest, lowBound⟩) ← hexQuad behind
        if Text.isLowSurrogate low then
          return (Char.ofNat (Text.joinSurrogates code low), ⟨rest, by
            simp only [List.length_cons] at bound
            omega⟩)
        else throw (rejected rest)
  else return (Char.ofNat code, ⟨rest, bound⟩)

def escaped : Reader Char
  | [] => .error truncated
  | mark :: rest =>
    if charOf mark = 'u' then
      (codeEscape rest).map fun (c, ⟨behind, bound⟩) => ⟨c, behind, Nat.lt_succ_of_le bound⟩
    else
      match Text.shortEscape? (charOf mark) with
      | some c => .ok ⟨c, rest, by simp⟩
      | none => .error (rejected rest)

def stringBytes : Reader (List UInt8)
  | [] => .error truncated
  | b :: rest =>
    if charOf b = '"' then .ok ⟨[], rest, by simp⟩
    else if charOf b = '\\' then do
      let c ← escaped rest
      have := c.fewer
      let more ← stringBytes c.rest
      return ⟨String.utf8EncodeChar c.result ++ more.result, more.rest,
        by have := more.fewer; simp; omega⟩
    else if b < 0x20 then .error (rejected rest)
    else do
      let more ← stringBytes rest
      return ⟨b :: more.result, more.rest, by have := more.fewer; simp; omega⟩
termination_by bytes => bytes.length

def string : Reader String := fun bytes => do
  let content ← stringBytes bytes
  match textOf? content.result with
  | some text => return ⟨text, content.rest, content.fewer⟩
  | none => throw (rejected content.rest)

def wholeText : List UInt8 → Except Halt (List UInt8)
  | [] => .error truncated
  | b :: rest =>
    if charOf b = '0' then
      match rest with
      | [] => .ok [b]
      | next :: _ => if isDigit next then .error (stopAt rest) else .ok [b]
    else if isDigit b then .ok (b :: rest.takeWhile isDigit)
    else .error (rejected rest)

def fractionText : List UInt8 → Except Halt (List UInt8)
  | [] => .ok []
  | b :: rest =>
    if charOf b = '.' then
      let digits := rest.takeWhile isDigit
      if digits = [] then .error (stopAt rest) else .ok (b :: digits)
    else .ok []

def exponentText : List UInt8 → Except Halt (List UInt8)
  | [] => .ok []
  | mark :: rest =>
    if charOf mark = 'e' ∨ charOf mark = 'E' then
      let sign := (rest.take 1).filter fun b => charOf b == '+' || charOf b == '-'
      match rest.drop sign.length with
      | [] => .error truncated
      | first :: behind =>
        if isDigit first then .ok (mark :: (sign ++ first :: behind.takeWhile isDigit))
        else .error (rejected behind)
    else .ok []

def numberText (bytes : List UInt8) : Except Halt (List UInt8) := do
  let minus := (bytes.take 1).filter fun b => charOf b == '-'
  let whole ← wholeText (bytes.drop minus.length)
  let integer := minus ++ whole
  let fraction ← fractionText (bytes.drop integer.length)
  let decimal := integer ++ fraction
  let exponent ← exponentText (bytes.drop decimal.length)
  return decimal ++ exponent

/-- What is left of the digits of an exponent when it grows beyond 31 bits. -/
def excess? (exponent : Nat) : List UInt8 → Option (List UInt8)
  | [] => none
  | b :: rest =>
    let next := 10 * exponent + (b.toNat - 48)
    if 0x80000000 ≤ next then some rest else excess? next rest

/-- Where a number without a value is given up: inside its exponent if that is excessive, or else
behind the number. -/
def outOfRange (text behind : List UInt8) : Halt :=
  let exponent := (text.dropWhile fun b => charOf b != 'e' && charOf b != 'E').drop 1
  let digits := if (exponent.take 1).map charOf = ['+'] then exponent.drop 1 else exponent
  match if digits.all isDigit then excess? 0 digits else none with
  | some left => rejected (left ++ behind)
  | none => ⟨.malformed, behind, true⟩

theorem length_drop_lt (first : UInt8) (rest : List UInt8) (count : Nat) :
    (rest.drop count).length < (first :: rest).length := by
  rw [List.length_drop, List.length_cons]
  omega

variable [Numbers]

def number (first : UInt8) (rest : List UInt8) :
    Except Halt (Read (Document Number) (first :: rest)) := do
  let text ← numberText (first :: rest)
  let behind := rest.drop (text.length - 1)
  match Numbers.ofText? (ascii text) with
  | none => throw (outOfRange text behind)
  | some n => return ⟨.number n, behind, length_drop_lt first rest _⟩

def word {first : UInt8} {rest : List UInt8} (document : Document Number) :
    (expected : List Char) → (bytes : List UInt8) → (bound : bytes.length ≤ rest.length) →
      Except Halt (Read (Document Number) (first :: rest))
  | [], bytes, bound => .ok ⟨document, bytes, Nat.lt_succ_of_le bound⟩
  | _ :: _, [], _ => .error truncated
  | c :: expected, b :: bytes, bound =>
    if charOf b = c then word document expected bytes (Nat.le_of_succ_le bound)
    else .error (rejected bytes)

def items (item : Reader (Document Number)) (first : Bool) (bytes : List UInt8) :
    Except Halt (Read (List (Document Number)) bytes) :=
  have spaced := length_skipSpace_le bytes
  match _cut : skipSpace bytes with
  | [] => .error truncated
  | b :: rest =>
    have : rest.length < bytes.length := by
      have := congrArg List.length _cut
      simp only [List.length_cons] at this
      omega
    if charOf b = ']' then .ok ⟨[], rest, this⟩
    else do
      let start ← (
        if first then .ok ⟨b :: rest, Nat.succ_le_of_lt this⟩
        else if charOf b = ',' then
          match next : skipSpace rest with
          | [] => .error truncated
          | c :: behind =>
            if charOf c = ']' then .error (stopAt (c :: behind))
            else .ok ⟨c :: behind, by
              have := length_skipSpace_le rest
              rw [next] at this
              omega⟩
        else .error (stopAt (b :: rest)) :
          Except Halt { start : List UInt8 // start.length ≤ bytes.length })
      let value ← item start.val
      have : value.rest.length < bytes.length := Nat.lt_of_lt_of_le value.fewer start.property
      let more ← items item false value.rest
      return ⟨value.result :: more.result, more.rest, Nat.lt_trans more.fewer this⟩
termination_by bytes.length

def memberValue (item : Reader (Document Number)) : Reader (Document Number) := fun bytes =>
  have spaced := length_skipSpace_le bytes
  match cut : skipSpace bytes with
  | [] => .error truncated
  | b :: rest =>
    if charOf b = ':' then
      (item rest).map fun value => ⟨value.result, value.rest, by
        have := congrArg List.length cut
        have := value.fewer
        simp only [List.length_cons] at *
        omega⟩
    else .error (stopAt (b :: rest))

def members (item : Reader (Document Number)) (first : Bool) (bytes : List UInt8) :
    Except Halt (Read (List (String × Document Number)) bytes) :=
  have spaced := length_skipSpace_le bytes
  match _cut : skipSpace bytes with
  | [] => .error truncated
  | b :: rest =>
    have : rest.length < bytes.length := by
      have := congrArg List.length _cut
      simp only [List.length_cons] at this
      omega
    if charOf b = '}' then .ok ⟨[], rest, this⟩
    else do
      let start ← (
        if first then
          if charOf b = '"' then .ok ⟨rest, Nat.le_of_lt this⟩ else .error (stopAt (b :: rest))
        else if charOf b = ',' then
          match next : skipSpace rest with
          | [] => .error truncated
          | c :: behind =>
            if charOf c = '"' then .ok ⟨behind, by
              have := length_skipSpace_le rest
              rw [next] at this
              simp only [List.length_cons] at this
              omega⟩
            else .error (stopAt (c :: behind))
        else .error (stopAt (b :: rest)) :
          Except Halt { start : List UInt8 // start.length ≤ bytes.length })
      let key ← string start.val
      let value ← memberValue item key.rest
      have : value.rest.length < bytes.length :=
        Nat.lt_trans value.fewer (Nat.lt_of_lt_of_le key.fewer start.property)
      let more ← members item false value.rest
      return ⟨(key.result, value.result) :: more.result, more.rest, Nat.lt_trans more.fewer this⟩
termination_by bytes.length

/-- A fault inside an array does not keep its closing bracket, or a comma, from being taken. -/
def Halt.inArray (halt : Halt) : Halt :=
  match skipSpace halt.rest with
  | [] => ⟨halt.fault, [], false⟩
  | b :: rest =>
    if charOf b = ']' then ⟨halt.fault, rest, false⟩
    else if charOf b = ',' then ⟨halt.fault, skipSpace rest, true⟩
    else ⟨halt.fault, b :: rest, true⟩

def Halt.inObject (halt : Halt) : Halt :=
  match skipSpace halt.rest with
  | [] => ⟨halt.fault, [], false⟩
  | b :: rest =>
    if charOf b = '}' then ⟨halt.fault, rest, false⟩ else ⟨halt.fault, b :: rest, true⟩

def valueAt (nested : Option (Reader (Document Number))) (first : UInt8) (rest : List UInt8) :
    Except Halt (Read (Document Number) (first :: rest)) :=
  let behind {α : Type} (f : α → Document Number) (read : Read α rest) :
      Read (Document Number) (first :: rest) :=
    ⟨f read.result, read.rest, Nat.lt_succ_of_lt read.fewer⟩
  match charOf first with
  | 'n' => word .null ['u', 'l', 'l'] rest (Nat.le_refl _)
  | 't' => word (.bool true) ['r', 'u', 'e'] rest (Nat.le_refl _)
  | 'f' => word (.bool false) ['a', 'l', 's', 'e'] rest (Nat.le_refl _)
  | '"' => (string rest).map (behind .string)
  | '[' =>
    match nested with
    | none => .error (stopAt (first :: rest))
    | some item => ((items item true rest).map (behind .array)).mapError Halt.inArray
  | '{' =>
    match nested with
    | none => .error (stopAt (first :: rest))
    | some item =>
      ((members item true rest).map (behind .object)).mapError Halt.inObject
  | c =>
    if c = '-' ∨ c.isDigit then number first rest else .error (stopAt (first :: rest))

def value (levels : Nat) : Reader (Document Number) := fun bytes =>
  have spaced := length_skipSpace_le bytes
  match cut : skipSpace bytes with
  | [] => .error truncated
  | b :: rest =>
    let nested :=
      match levels with
      | 0 => none
      | deeper + 1 => some (value deeper)
    (valueAt nested b rest).map fun read =>
      ⟨read.result, read.rest, Nat.lt_of_lt_of_le read.fewer (cut ▸ spaced)⟩
termination_by structural levels

end Stencil.Json
