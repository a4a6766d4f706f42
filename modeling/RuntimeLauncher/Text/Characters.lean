import RuntimeLauncher.Text.Basic

/-! Kinds of characters: sets given by ranges of codes, the blank characters of Unicode (property
`White_Space`), and letters, whose lower case is taken as far as names made of ASCII letters are
concerned. -/
namespace RuntimeLauncher

/-- Whether a code lies in one of the ranges, which are given by their first and last code. -/
def inRanges (ranges : List (Nat × Nat)) (code : Nat) : Bool :=
  ranges.any fun range => range.1 ≤ code && code ≤ range.2

theorem inRanges_eq_true_iff {ranges : List (Nat × Nat)} {code : Nat} :
    inRanges ranges code = true ↔ ∃ range ∈ ranges, range.1 ≤ code ∧ code ≤ range.2 := by
  simp [inRanges, List.any_eq_true]

/-- The 25 characters of the property `White_Space`. -/
def isBlank (c : Char) : Bool :=
  let n := c.toNat
  (9 ≤ n && n ≤ 13) || n == 0x20 || n == 0x85 || n == 0xA0 || n == 0x1680 ||
    (0x2000 ≤ n && n ≤ 0x200A) || n == 0x2028 || n == 0x2029 || n == 0x202F ||
    n == 0x205F || n == 0x3000

namespace Text

def trimStart (t : Text) : Text := t.dropWhile isBlank

def trimEnd (t : Text) : Text := (t.reverse.dropWhile isBlank).reverse

def trim (t : Text) : Text := trimEnd (trimStart t)

def blank (t : Text) : Bool := t.all isBlank

end Text

theorem isBlank_of_isWhitespace {c : Char} (h : c.isWhitespace = true) : isBlank c = true := by
  simp only [Char.isWhitespace, Bool.or_eq_true, decide_eq_true_eq] at h
  rcases h with ((rfl | rfl) | rfl) | rfl <;> decide

def lowerAscii (c : Char) : Char := c.toLower

/-- The small letter of an ASCII capital or of the Kelvin sign, the one character outside ASCII
whose small letter is an ASCII character. Every other character is kept. -/
def lowerName (c : Char) : Char :=
  if c = '\u212a' then 'k' else c.toLower

namespace Text

def toLowerAscii (t : Text) : Text := t.map lowerAscii

def toLowerName (t : Text) : Text := t.map lowerName

end Text

end RuntimeLauncher
