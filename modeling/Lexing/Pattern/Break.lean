import Lexing.Pattern.CharSet
import Lexing.Unicode.Break
import Lexing.Unicode.Letter
import Lexing.Unicode.Ranges
import Lexing.Unicode.Script

/-!
# Classes of characters at breaks

Three properties say where a text may be divided: into clusters of characters that are seen as one,
into words, and into sentences. Each gives every character one class. The characters that play no
part in a division are left over, and their class cannot be asked for.
-/
set_option autoImplicit false

namespace Lexing.CharSet
open Unicode

def ofCodes (codes : List Nat) : CharSet := ⟨codes.foldr (fun n rs => insertRange n n rs) []⟩

def lineEnds : Ranges := [(0x0A, 0x0A), (0x0D, 0x0D)]

def joiner : Ranges := [(0x200D, 0x200D)]

def syriacAbbreviation : Ranges := [(0x70F, 0x70F)]

def clusterBreak? (name : String) : Option CharSet :=
  match name with
  | "cn" | "control" => some (unionWithout
      [control, format, lineSeparator, paragraphSeparator, otherDefaultIgnorable]
      (lineEnds :: joinControl :: otherLetter :: prependedConcatenationMark :: graphemeExtend))
  | "cr" => some (single '\r')
  | "ex" | "extend" => some (unionWithout (emojiModifier :: graphemeExtend) [joiner])
  | "l" => some ⟨leadingJamo⟩
  | "lf" => some (single '\n')
  | "lv" => some (ofCodes syllableRows)
  | "lvt" => some ⟨syllableRows.map fun n => (n + 1, n + 27)⟩
  | "pp" | "prepend" => some (unionOf [prependedConcatenationMark, leadingLetter])
  | "ri" | "regionalindicator" => some ⟨regionalIndicator⟩
  | "sm" | "spacingmark" => some (unionWithout [spacingMark, vowelSignLetter]
      (looseMark :: graphemeExtend))
  | "t" => some ⟨trailingJamo⟩
  | "v" => some ⟨vowelJamo⟩
  | "zwj" => some ⟨joiner⟩
  | _ => none

/-- The letters of words, but not of scripts with words of their own kind. -/
def wordLetters : CharSet :=
  (unionWithout [alphabetic, otherWordLetter]
    (ideographic :: katakanaWord :: unspacedLetter :: extendingMarks)).diff
      (inter ⟨Script.hebrew⟩ ⟨otherLetter⟩)

def wordNumbers : List Ranges := [decimalNumber, otherWordNumber]

def wordBreak? (name : String) : Option CharSet :=
  match name with
  | "cr" => some (single '\r')
  | "dq" | "doublequote" => some (ofCodes [0x22])
  | "ex" | "extendnumlet" => some ⟨[(0x5F, 0x5F), (0x202F, 0x202F), (0x203F, 0x2040),
      (0x2054, 0x2054), (0xFE33, 0xFE34), (0xFE4D, 0xFE4F), (0xFF3F, 0xFF3F)]⟩
  | "extend" => some (unionWithout (emojiModifier :: extendingMarks) [joiner])
  | "fo" | "format" => some (unionWithout [format]
      ([(0x200B, 0x200B)] :: joinControl :: prependedConcatenationMark :: graphemeExtend))
  | "hl" | "hebrewletter" => some (inter ⟨Script.hebrew⟩ ⟨otherLetter⟩)
  | "ka" | "katakana" => some ⟨katakanaWord⟩
  | "le" | "aletter" => some wordLetters
  | "lf" => some (single '\n')
  | "mb" | "midnumlet" => some (ofCodes [0x2E, 0x2018, 0x2019, 0x2024, 0xFE52, 0xFF07, 0xFF0E])
  | "ml" | "midletter" => some
      (ofCodes [0x3A, 0xB7, 0x387, 0x55F, 0x5F4, 0x2027, 0xFE13, 0xFE55, 0xFF1A])
  | "mn" | "midnum" => some (ofCodes [0x2C, 0x3B, 0x37E, 0x589, 0x60C, 0x60D, 0x66C, 0x7F8,
      0x2044, 0xFE50, 0xFE54, 0xFF0C, 0xFF1B])
  | "nl" | "newline" => some ⟨[(0x0B, 0x0C), (0x85, 0x85), (0x2028, 0x2029)]⟩
  | "nu" | "numeric" => some (unionOf wordNumbers)
  | "ri" | "regionalindicator" => some ⟨regionalIndicator⟩
  | "sq" | "singlequote" => some (ofCodes [0x27])
  | "wsegspace" => some ⟨[(0x20, 0x20), (0x1680, 0x1680), (0x2000, 0x2006), (0x2008, 0x200A),
      (0x205F, 0x205F), (0x3000, 0x3000)]⟩
  | "zwj" => some ⟨joiner⟩
  | _ => none

def sentenceSeparators : Ranges := [(0x85, 0x85), (0x2028, 0x2029)]

def stops : Ranges := [(0x2E, 0x2E), (0x2024, 0x2024), (0xFE52, 0xFE52), (0xFF0E, 0xFF0E)]

def sentenceLower : CharSet := unionWithout [lowercase] (georgianSmall :: graphemeExtend)

def sentenceUpper : CharSet := unionWithout [uppercase, titleLetter] [georgianCapital]

def sentenceBreak? (name : String) : Option CharSet :=
  match name with
  | "at" | "aterm" => some ⟨stops⟩
  | "cl" | "close" => some (unionOf [openPunctuation, closePunctuation, initialPunctuation,
      finalPunctuation, otherClosing])
  | "cr" => some (single '\r')
  | "ex" | "extend" => some (unionOf (joiner :: extendingMarks))
  | "fo" | "format" => some (union ⟨syriacAbbreviation⟩ (unionWithout [format]
      (joinControl :: prependedConcatenationMark :: graphemeExtend)))
  | "le" | "oletter" => some (union (ofCodes [0x5F3])
      (((unionWithout [alphabetic] extendingMarks).diff sentenceLower).diff sentenceUpper))
  | "lf" => some (single '\n')
  | "lo" | "lower" => some sentenceLower
  | "nu" | "numeric" => some (unionOf ([(0x66C, 0x66C)] :: wordNumbers))
  | "sc" | "scontinue" => some ⟨[(0x2C, 0x2D), (0x3A, 0x3B), (0x37E, 0x37E), (0x55D, 0x55D),
      (0x60C, 0x60D), (0x7F8, 0x7F8), (0x1802, 0x1802), (0x1808, 0x1808), (0x2013, 0x2014),
      (0x3001, 0x3001), (0xFE10, 0xFE11), (0xFE13, 0xFE14), (0xFE31, 0xFE32), (0xFE50, 0xFE51),
      (0xFE54, 0xFE55), (0xFE58, 0xFE58), (0xFE63, 0xFE63), (0xFF0C, 0xFF0D), (0xFF1A, 0xFF1B),
      (0xFF64, 0xFF64)]⟩
  | "se" | "sep" => some ⟨sentenceSeparators⟩
  | "sp" => some (unionWithout [blank] [lineEnds, sentenceSeparators])
  | "st" | "sterm" => some (unionWithout [sentenceTerminal] [stops])
  | "up" | "upper" => some sentenceUpper
  | _ => none

end Lexing.CharSet
