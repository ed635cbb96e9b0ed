import Lexing.Grammar.Action
import Lexing.Pattern.Basic

/-!
# Machines

A machine is a grammar with everything resolved: each named state is a flat list of rules, patterns
are compiled, and states are referred to by number. A combined state is known by the list of the
named states that it is made of. States are numbered: the named ones in the order of the grammar,
then the combined ones in the order of their first use.
-/
set_option autoImplicit false

namespace Lexing

inductive StateRef
  | named (index : Nat)
  | combined (parts : List Nat)
deriving DecidableEq, Repr

/-- A rule without an action only makes its stack edits. -/
structure Rule where
  pattern : Pattern
  action : Option (Action (Stack StateRef))
  edits : List (StackEdit StateRef)

structure State where
  name : String
  rules : List Rule

/-- `combined` lists the parts of every combined state that some rule pushes. -/
structure Machine where
  name : String
  states : List State
  combined : List (List Nat)
  root : Nat

namespace Rule

def isStay (r : Rule) : Bool := r.edits.isEmpty

def readsGroups (r : Rule) : Bool := r.action.any Action.readsGroups

end Rule

namespace Machine

def stateNames (m : Machine) : List String := m.states.map State.name

def index? (m : Machine) (name : String) : Option Nat := m.stateNames.idxOf? name

def named (m : Machine) (i : Nat) : State := m.states[i]?.getD ⟨"", []⟩

/-- The rules of all parts in order, under their names joined with plus signs. -/
def join (m : Machine) (parts : List Nat) : State :=
  ⟨"+".intercalate (parts.map fun i => (m.named i).name), parts.flatMap fun i => (m.named i).rules⟩

def state (m : Machine) : StateRef → State
  | .named i => m.named i
  | .combined parts => m.join parts

def number (m : Machine) : StateRef → Nat
  | .named i => i
  | .combined parts => m.states.length + m.combined.idxOf parts

def allStates (m : Machine) : List State := m.states ++ m.combined.map m.join

/-- The number of the combined state of the given named states, if some rule pushes it. -/
def combinedNumber? (m : Machine) (names : List String) : Option Nat := do
  let parts ← names.mapM m.index?
  return m.states.length + (← m.combined.idxOf? parts)

def nameOf (m : Machine) (s : StateRef) : String := (m.state s).name

end Machine

structure UnknownState where
  name : String
deriving DecidableEq, Repr

namespace UnknownState

def message (e : UnknownState) : String := "unknown state `" ++ e.name ++ "`"

end UnknownState

namespace Machine

def resolve (m : Machine) (name : String) : Except UnknownState StateRef :=
  match m.index? name with
  | some i => .ok (.named i)
  | none => .error ⟨name⟩

/-- The stack of the named states, the bottom one first; without names, the root state alone. -/
def stackOf (m : Machine) (names : List String) : Except UnknownState (Stack StateRef) := do
  let frames ← names.mapM m.resolve
  return (Stack.ofList? frames).getD (.single (.named m.root))

end Machine

end Lexing
