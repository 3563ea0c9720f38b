import Stencil.Unicode.Category
import Stencil.Unicode.DerivedTables

/-! The character properties that reading, printing and matching text rely on. -/

namespace Stencil.Unicode

def isWhiteSpace (c : Char) : Bool :=
  within whiteSpace c.toNat

def isControl (c : Char) : Bool :=
  inCategories [.control] c

def isAlphabetic (c : Char) : Bool :=
  inCategories (.letterNumber :: Category.letters) c || within otherAlphabetic c.toNat

def isAlphanumeric (c : Char) : Bool :=
  isAlphabetic c || inCategories Category.numbers c

def isDecimalDigit (c : Char) : Bool :=
  inCategories [.decimalDigit] c

def isWordCharacter (c : Char) : Bool :=
  isAlphabetic c || inCategories (.decimalDigit :: .connector :: Category.marks) c ||
    within [0x200c, 0x200e] c.toNat

/-- Characters that are displayed together with the one before them. -/
def extendsGrapheme (c : Char) : Bool :=
  inCategories [.nonspacingMark, .enclosingMark] c || within otherGraphemeExtend c.toNat

def isPrintable (c : Char) : Bool :=
  c == ' ' ||
    inCategories (Category.letters ++ Category.marks ++ Category.numbers ++ Category.punctuation ++
      Category.symbols) c

def isCased (c : Char) : Bool :=
  inCategories [.uppercaseLetter, .lowercaseLetter, .titlecaseLetter] c ||
    within otherCased c.toNat

def isCaseIgnorable (c : Char) : Bool :=
  inCategories [.nonspacingMark, .enclosingMark, .format, .modifierLetter, .modifierSymbol] c ||
    within otherCaseIgnorable c.toNat

theorem isWhiteSpace_newline : isWhiteSpace '\n' = true := by decide

end Stencil.Unicode
