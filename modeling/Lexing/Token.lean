import Lexing.Kind.Basic
import Lexing.Text.Quoted

/-!
# Tokens and lexers

A token is a piece of a text with the offset at which it stands and a kind. A lexer has a name and
turns every text into a list of tokens. Lexers are expected to tile the text: `Tiles` says that the
tokens follow each other without gap or overlap, that none is empty, and that together they are the
text between two offsets.
-/
set_option autoImplicit false

namespace Lexing

structure Token where
  offset : Nat
  kind : Kind
  text : Text
deriving DecidableEq, Repr

namespace Token

def stop (t : Token) : Nat := t.offset + t.text.size

def shift (t : Token) (amount : Nat) : Token := { t with offset := t.offset + amount }

def shown (t : Token) : String :=
  "(" ++ toString t.offset ++ ", " ++ t.kind.shown ++ ", " ++
    String.ofList t.text.quoted ++ ")"

end Token

structure Lexer where
  name : String
  tokens : Text → List Token

/-- The tokens stand one after the other from `start` on, and none is empty. -/
def Contiguous : Nat → List Token → Prop
  | _, [] => True
  | start, t :: ts => t.offset = start ∧ t.text ≠ [] ∧ Contiguous t.stop ts

/-- The tokens are the whole of `text`, which starts at offset `start`. -/
def Tiles (start : Nat) (text : Text) (ts : List Token) : Prop :=
  Contiguous start ts ∧ ts.flatMap Token.text = text

/-- A lexer that loses, repeats and moves nothing. -/
def Lexer.Faithful (l : Lexer) : Prop := ∀ text, Tiles 0 text (l.tokens text)

end Lexing
