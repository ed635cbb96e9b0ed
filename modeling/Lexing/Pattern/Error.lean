/-!
# Why a text is not a pattern
-/
set_option autoImplicit false

namespace Lexing.Pattern

inductive Error
  | groupUnclosed
  | groupUnopened
  | groupName
  | groupNameRepeated
  | lookAround
  | flagUnknown
  | flagRepeated
  | flagDangling
  | nothingToRepeat
  | countUnclosed
  | countInvalid
  | escapeUnfinished
  | escapeUnknown
  | backReference
  | hexInvalid
  | boundaryUnknown
  | setUnclosed
  | setRange
  | setMember
  | propertyUnknown
  | needsUnicode
  | notText
  | tooDeep
  | tooLarge
deriving DecidableEq, Repr

namespace Error

def message : Error → String
  | groupUnclosed => "a group is not closed"
  | groupUnopened => "a group is closed that was not opened"
  | groupName => "a group has no valid name"
  | groupNameRepeated => "two groups have the same name"
  | lookAround => "looking ahead or behind is not supported"
  | flagUnknown => "there is no such flag"
  | flagRepeated => "a flag is given twice"
  | flagDangling => "no flag follows the minus sign"
  | nothingToRepeat => "there is nothing to repeat"
  | countUnclosed => "a repetition count is not closed"
  | countInvalid => "a repetition count is not valid"
  | escapeUnfinished => "an escape is not finished"
  | escapeUnknown => "there is no such escape"
  | backReference => "references to groups are not supported"
  | hexInvalid => "a hexadecimal escape names no character"
  | boundaryUnknown => "there is no such word boundary"
  | setUnclosed => "a set of characters is not closed"
  | setRange => "a range of characters is not valid"
  | setMember => "an escape cannot be in a set of characters"
  | propertyUnknown => "there is no such property"
  | needsUnicode => "the construct needs the Unicode flag"
  | notText => "the pattern could match a part of a character"
  | tooDeep => "the pattern is nested too deeply"
  | tooLarge => "the pattern takes too much room"

end Error

end Lexing.Pattern
