import Lexing.Machine.Basic
import Lexing.Run.Cover

/-!
# Steps

One step tries the rules of the top state at the cursor, in order, and the first that matches
decides. It takes what it matched, or it takes nothing and changes the stack. When no rule matches,
when a step that took nothing left the stack as it was, or when too many steps in a row took
nothing, the next character becomes an error token.
-/
set_option autoImplicit false

namespace Lexing

/-- What a step changes: the cursor, and the number of steps just made that took nothing. -/
structure Config where
  cursor : Cursor StateRef
  idle : Nat
deriving DecidableEq, Repr

def maxIdle : Nat := 32

namespace Config

def start (text : Text) (stack : Stack StateRef) : Config := ⟨.start text stack, 0⟩

def recover (c : Cursor StateRef) : Config × List Token :=
  match c.remaining with
  | [] => (⟨c, 0⟩, [])
  | x :: _ => (⟨c.setPos (c.pos + x.utf8Size), 0⟩, [⟨c.pos, .error, [x]⟩])

/-- Judges a step that began at offset `start` with the stack `before`, after which the cursor is
`c`; `same` tells whether two stacks count as the same. -/
def settle (same : Stack StateRef → Stack StateRef → Bool) (idle start : Nat)
    (before : Stack StateRef) (c : Cursor StateRef) : Config × List Token :=
  if start < c.pos then (⟨c, 0⟩, [])
  else if same before c.stack || maxIdle ≤ idle then recover c
  else (⟨c, idle + 1⟩, [])

end Config

/-- How text that a machine delegates to itself is lexed from a given stack. -/
abbrev Nested := Text → Stack StateRef → List Token

def delegated (nested : Nested) (text : Text) (s : Span) (d : Delegate (Stack StateRef)) :
    List Token :=
  let tokens := match d with
    | .self stack => nested (text.slice s) stack
    | .lexer l => l.tokens (text.slice s)
  tokens.map (·.shift s.start)

def emitGroup (nested : Nested) (text : Text) (s : Span) :
    GroupAction (Stack StateRef) → List Token
  | .kind k => emitKind text s k
  | .delegate d => delegated nested text s d

def groupPieces {α : Type} (actions : List α) (groups : List (Option Span)) : List (Span × α) :=
  (actions.zip groups).filterMap fun (a, g) => g.map fun s => (s, a)

/-- The tokens of a match that is not empty, for an action that leaves the cursor alone. -/
def emitted (nested : Nested) (found : Match) : Option (Action (Stack StateRef)) → List Token
  | some (.kind k) => emitKind found.input found.span k
  | some (.groups actions) =>
    cover found.input (emitGroup nested found.input) found.stop found.start
      (groupPieces actions found.groups)
  | some (.delegate d) => delegated nested found.input found.span d
  | some (.callback emit) => coverEmissions found.input found.span (emit found)
  | some (.steer _) | none => []

namespace Machine

def view (m : Machine) (c : Cursor StateRef) : View := ⟨c.map m.nameOf, m.stateNames⟩

/-- The cursor after the edits of a callback, and never before the match. -/
def steered (m : Machine) (c : Cursor StateRef) (start : Nat) (edits : List CursorEdit) :
    Cursor StateRef :=
  let c := c.editAll (fun name => (m.resolve name).toOption) edits
  let c := if c.stop < start then c.setStop start else c
  if c.pos < start then c.setPos start else c

def apply (m : Machine) (same : Stack StateRef → Stack StateRef → Bool) (nested : Nested)
    (c : Config) (rule : Rule) (found : Match) : Config × List Token :=
  let before := c.cursor.stack
  match rule.action with
  | some (.steer emit) =>
    let (edits, emissions) := emit found (m.view c.cursor)
    let moved := m.steered c.cursor found.start edits
    let tokens := coverEmissions found.input ⟨found.start, moved.pos⟩ emissions
    let (c, more) := Config.settle same c.idle found.start before (moved.turn rule.edits)
    (c, tokens ++ more)
  | action =>
    if found.span.isEmpty then
      Config.settle same c.idle found.start before (c.cursor.turn rule.edits)
    else
      (⟨(c.cursor.setPos found.stop).turn rule.edits, 0⟩, emitted nested found action)

def firstMatch (m : Machine) (c : Cursor StateRef) : Option (Rule × Match) :=
  let spot := Pattern.Spot.ofText c.text c.pos c.stop
  (m.state c.stack.top).rules.findSome? fun rule =>
    (rule.pattern.matchAt c.text spot).map fun found => (rule, found)

def step (m : Machine) (same : Stack StateRef → Stack StateRef → Bool) (nested : Nested)
    (c : Config) : Config × List Token :=
  match m.firstMatch c.cursor with
  | some (rule, found) => m.apply same nested c rule found
  | none => Config.recover c.cursor

end Machine

end Lexing
