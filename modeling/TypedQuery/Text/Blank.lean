/-!
Blank characters: the spaces, tabs, line breaks and separators that are stripped from the ends of
a text and that separate words. A zero-width space is not blank.
-/
set_option autoImplicit false

namespace TypedQuery

def blankRanges : List (Nat × Nat) := [
  (0x9, 0xd), (0x1c, 0x20), (0x85, 0x85), (0xa0, 0xa0), (0x1680, 0x1680), (0x2000, 0x200a),
  (0x2028, 0x2029), (0x202f, 0x202f), (0x205f, 0x205f), (0x3000, 0x3000)]

def inRanges (c : Char) (ranges : List (Nat × Nat)) : Bool :=
  ranges.any fun r => r.1 ≤ c.toNat && c.toNat ≤ r.2

def isBlank (c : Char) : Bool := inRanges c blankRanges

/-- Characters without the blanks at either end. -/
def trimBlanks (cs : List Char) : List Char :=
  ((cs.dropWhile isBlank).reverse.dropWhile isBlank).reverse

/-- A line break at the very end does not count. -/
def withoutFinalBreak (cs : List Char) : List Char :=
  if cs.getLast? = some '\n' then cs.dropLast else cs

/-- A text without the blanks at either end. -/
def trimmed (s : String) : String := String.ofList (trimBlanks s.toList)

def isBlankText (s : String) : Bool := s.toList.all isBlank

/-- The words of a text: its longest runs without a blank. -/
def wordsOf : List Char → List Char → List (List Char)
  | [], [] => []
  | [], word => [word.reverse]
  | c :: rest, word =>
    if isBlank c then
      if word.isEmpty then wordsOf rest [] else word.reverse :: wordsOf rest []
    else wordsOf rest (c :: word)

end TypedQuery
