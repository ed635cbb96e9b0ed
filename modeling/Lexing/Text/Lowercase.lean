import Lexing.Text.Basic
import Lexing.Unicode.Lowercase

/-!
# Lower case of a text

Each character becomes its lower case. Two characters do not map one to one: the capital I with a
dot becomes an i and a combining dot, and a capital sigma becomes the final form where it ends a
word, which is where a cased letter comes before it and none comes after it, not counting the
characters that case ignores.
-/
set_option autoImplicit false

namespace Lexing.Text

def lowerOf (c : Char) : Char :=
  match Unicode.lowerRuns.find? fun r => r.covers c.toNat with
  | some r => Char.ofNat (r.image c.toNat)
  | none => c

def startsCased : Text → Bool
  | [] => false
  | c :: t =>
    if Unicode.caseIgnorable.has c.toNat then startsCased t else Unicode.cased.has c.toNat

/-- `before` holds the characters before, the nearest first. -/
def lowercaseAfter (before : Text) : Text → Text
  | [] => []
  | c :: t =>
    let low :=
      if c = 'Σ' then (if startsCased before && !startsCased t then ['ς'] else ['σ'])
      else if c = 'İ' then ['i', '\u0307']
      else [lowerOf c]
    low ++ lowercaseAfter (c :: before) t

def lowercase (t : Text) : Text := lowercaseAfter [] t

end Lexing.Text

namespace Lexing

def lowercaseString (s : String) : String := String.ofList (Text.lowercase s.toList)

end Lexing
