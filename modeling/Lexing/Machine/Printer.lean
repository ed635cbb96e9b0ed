import Lexing.Grammar.Basic
import Lexing.Machine.Basic

/-!
# Rules as text

How rules are written down on one line: those of a grammar with the states by name, and those of a
machine with the states by number.
-/
set_option autoImplicit false

namespace Lexing

namespace Delegate

variable {α : Type}

def shown (stackShown : α → String) : Delegate α → String
  | self stack => "This(" ++ stackShown stack ++ ")"
  | lexer l => "Lexer(" ++ l.name ++ ")"

end Delegate

namespace GroupAction

variable {α : Type}

def shown (stackShown : α → String) : GroupAction α → String
  | kind k => "Token(" ++ k.shown ++ ")"
  | delegate d => "Using(" ++ d.shown stackShown ++ ")"

end GroupAction

namespace Action

variable {α : Type}

def shown (stackShown : α → String) : Action α → String
  | kind k => "Token(" ++ k.shown ++ ")"
  | groups actions => "ByGroups(" ++ bracketed (actions.map (·.shown stackShown)) ++ ")"
  | delegate d => "Using(" ++ d.shown stackShown ++ ")"
  | callback _ => "Callback(..)"
  | steer _ => "Context(..)"

end Action

namespace Move

mutual

def shown : Move → String
  | stay => "Stay"
  | push state => "Push(" ++ quotedString state ++ ")"
  | pushTop => "PushSelf"
  | pop n => "Pop(" ++ toString n ++ ")"
  | seq moves => "Seq(" ++ bracketed (shownAll moves) ++ ")"
  | combined states => "Combined(" ++ quotedNames states ++ ")"

def shownAll : List Move → List String
  | [] => []
  | m :: ms => m.shown :: shownAll ms

end

end Move

namespace Machine

def shownRef (m : Machine) (s : StateRef) : String := "StateId(" ++ toString (m.number s) ++ ")"

def shownStack (m : Machine) (s : Stack StateRef) : String := bracketed (s.toList.map m.shownRef)

def shownEdit (m : Machine) : StackEdit StateRef → String
  | .push s => "Push(" ++ m.shownRef s ++ ")"
  | .pushTop => "PushTop"
  | .pop n => "Pop(" ++ toString n ++ ")"

def shownAction (m : Machine) : Option (Action (Stack StateRef)) → String
  | some action => action.shown m.shownStack
  | none => "Silent"

def shownRule (m : Machine) (r : Rule) : String :=
  "Rule \x7b pattern: " ++ r.pattern.shown ++ ", action: " ++ m.shownAction r.action ++
    ", transition: Transition \x7b ops: " ++ bracketed (r.edits.map m.shownEdit) ++ " \x7d \x7d"

end Machine

end Lexing
