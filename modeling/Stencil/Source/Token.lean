import Stencil.Number.Shortest
import Stencil.Text.Escape

/-! The tokens of a template source. -/

namespace Stencil.Source

inductive Token where
  | number (x : Float)
  | string (s : String)
  | bool (b : Bool)
  | null
  | range
  | query (text : String)
  | name (text : String)
  | atSign
  | leftBracket
  | rightBracket
  | leftParen
  | rightParen
  | leftBrace
  | rightBrace
  | comma
  | colon
deriving DecidableEq

namespace Token

def describe : Token → String
  | number x => "number " ++ String.ofList (Number.text x)
  | string s => "string " ++ Text.quoted s
  | bool b => s!"'{b}'"
  | null => "'null'"
  | range => "'range'"
  | query text => s!"query '{text}'"
  | name text => s!"identifier '{text}'"
  | atSign => "'@'"
  | leftBracket => "'['"
  | rightBracket => "']'"
  | leftParen => "'('"
  | rightParen => "')'"
  | leftBrace => "'\x7b'"
  | rightBrace => "'\x7d'"
  | comma => "','"
  | colon => "':'"

end Token

end Stencil.Source
