/-! Separators, controls and characters without a glyph, in the categories Zs, Zl, Zp, Cc, Cf and
Co. Each table lists, in ascending order, the code points at which membership flips. -/

namespace Stencil.Unicode

def spaceSeparators : List Nat := [
  0x20, 0x21, 0xa0, 0xa1, 0x1680, 0x1681, 0x2000, 0x200b, 0x202f, 0x2030, 0x205f, 0x2060, 0x3000,
  0x3001]

def lineSeparators : List Nat := [
  0x2028, 0x2029]

def paragraphSeparators : List Nat := [
  0x2029, 0x202a]

def controls : List Nat := [
  0x0, 0x20, 0x7f, 0xa0]

def formats : List Nat := [
  0xad, 0xae, 0x600, 0x606, 0x61c, 0x61d, 0x6dd, 0x6de, 0x70f, 0x710, 0x890, 0x892, 0x8e2, 0x8e3,
  0x180e, 0x180f, 0x200b, 0x2010, 0x202a, 0x202f, 0x2060, 0x2065, 0x2066, 0x2070, 0xfeff, 0xff00,
  0xfff9, 0xfffc, 0x110bd, 0x110be, 0x110cd, 0x110ce, 0x13430, 0x13440, 0x1bca0, 0x1bca4, 0x1d173,
  0x1d17b, 0xe0001, 0xe0002, 0xe0020, 0xe0080]

def privateUse : List Nat := [
  0xe000, 0xf900, 0xf0000, 0xffffe, 0x100000, 0x10fffe]

end Stencil.Unicode
