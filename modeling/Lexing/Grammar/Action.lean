import Lexing.Cursor
import Lexing.Match
import Lexing.Token

/-!
# Actions

What a rule does with the text that its pattern matched. The stack that delegated text starts from
is a list of state names in a grammar and a stack of resolved states in a machine, so an action has
the type of such stacks as a parameter.
-/
set_option autoImplicit false

namespace Lexing

/-- What lexes delegated text: the same grammar from the given stack, or another lexer. -/
inductive Delegate (α : Type)
  | self (stack : α)
  | lexer (l : Lexer)

inductive GroupAction (α : Type)
  | kind (k : Kind)
  | delegate (d : Delegate α)

structure View where
  cursor : Cursor String
  states : List String

/-- A group that took no part, or is empty, is passed over. A callback computes emissions from the
match. One that steers also changes the cursor, and where it leaves the cursor is where the run
goes on. -/
inductive Action (α : Type)
  | kind (k : Kind)
  | groups (actions : List (GroupAction α))
  | delegate (d : Delegate α)
  | callback (emit : Match → List Emission)
  | steer (emit : Match → View → List CursorEdit × List Emission)

namespace Action

variable {α : Type}

def readsGroups : Action α → Bool
  | kind _ | delegate _ => false
  | groups _ | callback _ | steer _ => true

end Action

end Lexing
