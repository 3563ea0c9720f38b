import Stencil.Pattern.Basic

/-! Character sets that patterns name. -/

namespace Stencil.Pattern

def isAsciiWord (c : Char) : Bool :=
  c.isAlphanum || c == '_'

def isAsciiSpace (c : Char) : Bool :=
  c == ' ' || CharSet.range '\t' '\r' c

def letterClass? (unicode : Bool) : Char → Option CharSet
  | 'd' => some (if unicode then Unicode.isDecimalDigit else Char.isDigit)
  | 's' => some (if unicode then Unicode.isWhiteSpace else isAsciiSpace)
  | 'w' => some (if unicode then Unicode.isWordCharacter else isAsciiWord)
  | _ => none

def namedClass? (name : String) : Option CharSet :=
  match name with
  | "alnum" => some Char.isAlphanum
  | "alpha" => some Char.isAlpha
  | "ascii" => some (CharSet.range '\x00' '\x7f')
  | "blank" => some fun c => c == ' ' || c == '\t'
  | "cntrl" => some fun c => CharSet.range '\x00' '\x1f' c || c == '\x7f'
  | "digit" => some Char.isDigit
  | "graph" => some (CharSet.range '!' '~')
  | "lower" => some Char.isLower
  | "print" => some (CharSet.range ' ' '~')
  | "punct" => some fun c => CharSet.range '!' '~' c && !c.isAlphanum
  | "space" => some isAsciiSpace
  | "upper" => some Char.isUpper
  | "word" => some isAsciiWord
  | "xdigit" => some fun c => c.isDigit || CharSet.range 'a' 'f' c || CharSet.range 'A' 'F' c
  | _ => none

def categoriesNamed? (name : String) : Option (List Unicode.Category) :=
  match name with
  | "l" | "letter" => some Unicode.Category.letters
  | "lc" | "casedletter" => some [.uppercaseLetter, .lowercaseLetter, .titlecaseLetter]
  | "lu" | "uppercaseletter" => some [.uppercaseLetter]
  | "ll" | "lowercaseletter" => some [.lowercaseLetter]
  | "lt" | "titlecaseletter" => some [.titlecaseLetter]
  | "lm" | "modifierletter" => some [.modifierLetter]
  | "lo" | "otherletter" => some [.otherLetter]
  | "m" | "mark" | "combiningmark" => some Unicode.Category.marks
  | "mn" | "nonspacingmark" => some [.nonspacingMark]
  | "mc" | "spacingmark" => some [.spacingMark]
  | "me" | "enclosingmark" => some [.enclosingMark]
  | "n" | "number" => some Unicode.Category.numbers
  | "nd" | "digit" | "decimalnumber" => some [.decimalDigit]
  | "nl" | "letternumber" => some [.letterNumber]
  | "no" | "othernumber" => some [.otherNumber]
  | "p" | "punct" | "punctuation" => some Unicode.Category.punctuation
  | "pc" | "connectorpunctuation" => some [.connector]
  | "pd" | "dashpunctuation" => some [.dash]
  | "ps" | "openpunctuation" => some [.opener]
  | "pe" | "closepunctuation" => some [.closer]
  | "pi" | "initialpunctuation" => some [.initialQuote]
  | "pf" | "finalpunctuation" => some [.finalQuote]
  | "po" | "otherpunctuation" => some [.otherPunctuation]
  | "s" | "symbol" => some Unicode.Category.symbols
  | "sm" | "mathsymbol" => some [.mathSymbol]
  | "sc" | "currencysymbol" => some [.currencySymbol]
  | "sk" | "modifiersymbol" => some [.modifierSymbol]
  | "so" | "othersymbol" => some [.otherSymbol]
  | "z" | "separator" => some Unicode.Category.separators
  | "zs" | "spaceseparator" => some [.spaceSeparator]
  | "zl" | "lineseparator" => some [.lineSeparator]
  | "zp" | "paragraphseparator" => some [.paragraphSeparator]
  | "cc" | "cntrl" | "control" => some [.control]
  | "cf" | "format" => some [.format]
  | "co" | "privateuse" => some [.privateUse]
  | _ => none

/-- Names of properties are compared without case, spaces, dashes and underscores. -/
def plainName (name : List Char) : String :=
  String.ofList <| (name.filter fun c => c != ' ' && c != '-' && c != '_').map Char.toLower

def property? (name : List Char) : Option CharSet :=
  let plain := plainName name
  match plain with
  | "any" => some fun _ => true
  | "ascii" => some (CharSet.range '\x00' '\x7f')
  | "alphabetic" | "alpha" => some Unicode.isAlphabetic
  | "whitespace" | "wspace" | "space" => some Unicode.isWhiteSpace
  | "cased" => some Unicode.isCased
  | "caseignorable" | "ci" => some Unicode.isCaseIgnorable
  | "graphemeextend" | "grext" => some Unicode.extendsGrapheme
  | _ => (categoriesNamed? plain).map Unicode.inCategories

end Stencil.Pattern
