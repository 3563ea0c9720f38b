/-! The engine for search patterns, by what the standard functions use of it. -/

namespace Stencil.Pattern

/-- A text is compiled before it is used as a pattern, or refused with a reason. Replacing replaces
every match in a text. -/
class Engine where
  Regex : Type
  compile : (pattern : String) → Except String Regex
  isMatch : Regex → (text : String) → Bool
  replaceAll : Regex → (text replacement : String) → String

end Stencil.Pattern
