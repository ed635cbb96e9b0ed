import Lexing.Text.Basic
import Lexing.Unicode.Printable

/-!
# Quoted text

A text in double quotes on one line. Quotes and backslashes are escaped, and so is every character
that would not show as itself: one that is not printable, or one that joins the character before it.
-/
set_option autoImplicit false

namespace Lexing.Text

def isPrintable (c : Char) : Bool := Unicode.printable.has c.toNat

def isJoining (c : Char) : Bool := Unicode.joining.has c.toNat

def codePoint (c : Char) : Text := '\\' :: 'u' :: '\x7b' :: Nat.toDigits 16 c.toNat ++ ['\x7d']

def quotedChar (c : Char) : Text :=
  if c = '\x00' then ['\\', '0']
  else if c = '\t' then ['\\', 't']
  else if c = '\r' then ['\\', 'r']
  else if c = '\n' then ['\\', 'n']
  else if c = '"' then ['\\', '"']
  else if c = '\\' then ['\\', '\\']
  else if isJoining c then codePoint c
  else if isPrintable c then [c]
  else codePoint c

def quoted (t : Text) : Text := '"' :: t.flatMap quotedChar ++ ['"']

end Lexing.Text

namespace Lexing

def quotedString (s : String) : String := String.ofList (Text.quoted s.toList)

def bracketed (items : List String) : String := "[" ++ ", ".intercalate items ++ "]"

def quotedNames (names : List String) : String := bracketed (names.map quotedString)

end Lexing
