import Lexing.Text.Basic

/-!
# JSON values and their compact form

`Json.render` writes a value without blanks, the members of an object in their order. In strings it
escapes what has to be escaped and nothing else.
-/
set_option autoImplicit false

namespace Lexing

inductive Json
  | null
  | bool (b : Bool)
  | int (n : Int)
  | str (t : Text)
  | arr (items : List Json)
  | obj (members : List (String × Json))
deriving Inhabited

namespace Json

def ofString (s : String) : Json := .str s.toList

def ofStrings (ss : List String) : Json := .arr (ss.map ofString)

def ofOption {α : Type} (f : α → Json) : Option α → Json
  | none => .null
  | some a => f a

def hexPair (n : Nat) : Text := [Nat.digitChar (n / 16), Nat.digitChar (n % 16)]

def escapeChar (c : Char) : Text :=
  if c = '"' then ['\\', '"']
  else if c = '\\' then ['\\', '\\']
  else if c = '\x08' then ['\\', 'b']
  else if c = '\t' then ['\\', 't']
  else if c = '\n' then ['\\', 'n']
  else if c = '\x0C' then ['\\', 'f']
  else if c = '\r' then ['\\', 'r']
  else if c.toNat < 0x20 then ['\\', 'u', '0', '0'] ++ hexPair c.toNat
  else [c]

def renderText (t : Text) : Text := '"' :: t.flatMap escapeChar ++ ['"']

mutual

def renderList : Json → Text
  | .null => "null".toList
  | .bool true => "true".toList
  | .bool false => "false".toList
  | .int n => (toString n).toList
  | .str t => renderText t
  | .arr items => '[' :: renderItems items ++ [']']
  | .obj members => '\x7b' :: renderMembers members ++ ['\x7d']

def renderItems : List Json → Text
  | [] => []
  | [j] => renderList j
  | j :: js => renderList j ++ ',' :: renderItems js

def renderMembers : List (String × Json) → Text
  | [] => []
  | [(name, j)] => renderText name.toList ++ ':' :: renderList j
  | (name, j) :: ms => renderText name.toList ++ ':' :: renderList j ++ ',' :: renderMembers ms

end

def render (j : Json) : String := String.ofList j.renderList

end Json

end Lexing
