import Stencil.Unicode.Letters
import Stencil.Unicode.Marks
import Stencil.Unicode.Numerals
import Stencil.Unicode.Punctuation
import Stencil.Unicode.Symbols
import Stencil.Unicode.Separators

/-! General categories. A table is the ascending list of the points at which membership flips, so
`[a, b, c]` stands for the code points from `a` up to `b` and those from `c` on. -/

namespace Stencil.Unicode

def within : List Nat → Nat → Bool
  | [], _ => false
  | flip :: rest, point => flip ≤ point && !within rest point

inductive Category where
  | uppercaseLetter | lowercaseLetter | titlecaseLetter | modifierLetter | otherLetter
  | nonspacingMark | spacingMark | enclosingMark
  | decimalDigit | letterNumber | otherNumber
  | connector | dash | opener | closer | initialQuote | finalQuote | otherPunctuation
  | mathSymbol | currencySymbol | modifierSymbol | otherSymbol
  | spaceSeparator | lineSeparator | paragraphSeparator
  | control | format | privateUse
deriving DecidableEq

namespace Category

def flips : Category → List Nat
  | uppercaseLetter => uppercaseLetters
  | lowercaseLetter => lowercaseLetters
  | titlecaseLetter => titlecaseLetters
  | modifierLetter => modifierLetters
  | otherLetter => otherLetters
  | nonspacingMark => nonspacingMarks
  | spacingMark => spacingMarks
  | enclosingMark => enclosingMarks
  | decimalDigit => decimalDigits
  | letterNumber => letterNumbers
  | otherNumber => otherNumbers
  | connector => connectors
  | dash => dashes
  | opener => openers
  | closer => closers
  | initialQuote => initialQuotes
  | finalQuote => finalQuotes
  | otherPunctuation => Unicode.otherPunctuation
  | mathSymbol => mathSymbols
  | currencySymbol => currencySymbols
  | modifierSymbol => modifierSymbols
  | otherSymbol => otherSymbols
  | spaceSeparator => spaceSeparators
  | lineSeparator => lineSeparators
  | paragraphSeparator => paragraphSeparators
  | control => controls
  | format => formats
  | privateUse => Unicode.privateUse

def letters : List Category :=
  [uppercaseLetter, lowercaseLetter, titlecaseLetter, modifierLetter, otherLetter]

def marks : List Category := [nonspacingMark, spacingMark, enclosingMark]

def numbers : List Category := [decimalDigit, letterNumber, otherNumber]

def punctuation : List Category :=
  [connector, dash, opener, closer, initialQuote, finalQuote, Category.otherPunctuation]

def symbols : List Category := [mathSymbol, currencySymbol, modifierSymbol, otherSymbol]

def separators : List Category := [spaceSeparator, lineSeparator, paragraphSeparator]

end Category

def inCategories (categories : List Category) (c : Char) : Bool :=
  categories.any fun category => within category.flips c.toNat

end Stencil.Unicode
