import Lexing.Grammar.Basic
import Lexing.Machine.Basic
import Lexing.Machine.Error

/-!
# Building machines

A machine is built in two passes. First every entry is resolved where it is written, so that a
defect is reported there; the first one decides. Then each state is expanded: an entry that stands
for another state is replaced by that state's expansion. A state that is met again while it is being
expanded is on a cycle.
-/
set_option autoImplicit false

namespace Lexing

structure Scope where
  states : List String
  root : Nat
  mode : PatternMode
  steering : Bool

/-- An entry when its names are resolved: a rule, or the place of another state's rules. -/
inductive Line
  | rule (r : Rule)
  | splice (target : Nat)

namespace Scope

def index (s : Scope) (state : String) : Except Defect Nat :=
  match s.states.idxOf? state with
  | some i => .ok i
  | none => .error (.unknownState state)

def delegate (s : Scope) : Delegate (List String) → Except Defect (Delegate (Stack StateRef))
  | .self names => do
    let frames ← names.mapM s.index
    return .self ((Stack.ofList? (frames.map .named)).getD (.single (.named s.root)))
  | .lexer l => .ok (.lexer l)

def groupAction (s : Scope) :
    GroupAction (List String) → Except Defect (GroupAction (Stack StateRef))
  | .kind k => .ok (.kind k)
  | .delegate d => return .delegate (← s.delegate d)

def action (s : Scope) : Action (List String) → Except Defect (Action (Stack StateRef))
  | .kind k => .ok (.kind k)
  | .groups actions => return .groups (← actions.mapM s.groupAction)
  | .delegate d => return .delegate (← s.delegate d)
  | .callback emit => .ok (.callback emit)
  | .steer emit => if s.steering then .ok (.steer emit) else .error .steering

mutual

def edits (s : Scope) : Move → Except Defect (List (StackEdit StateRef))
  | .stay => .ok []
  | .push state => return [.push (.named (← s.index state))]
  | .pushTop => .ok [.pushTop]
  | .pop n => if n = 0 then .error .zeroPop else .ok [.pop n]
  | .seq moves => s.allEdits moves
  | .combined names =>
    if names.isEmpty then .error .emptyCombined
    else return [.push (.combined (← names.mapM s.index))]

def allEdits (s : Scope) : List Move → Except Defect (List (StackEdit StateRef))
  | [] => .ok []
  | m :: ms => return (← s.edits m) ++ (← s.allEdits ms)

end

def pattern (s : Scope) (source : String) : Except Defect Pattern :=
  match Pattern.compile s.mode source with
  | .ok p => .ok p
  | .error e => .error (.invalidPattern e)

/-- A rule that takes nothing and changes nothing would be tried for ever. -/
def checked (r : Rule) : Except Defect Rule :=
  if r.isStay ∧ r.pattern.onlyMatchesEmpty then .error .zeroWidth else .ok r

/-- The lines of one entry. A place for inherited entries that was not filled has none. -/
def lines (s : Scope) : Entry → Except Defect (List Line)
  | .rule pattern action move => do
    let pattern ← s.pattern pattern
    let action ← s.action action
    let edits ← s.edits move
    return [.rule (← checked ⟨pattern, some action, edits⟩)]
  | .splice state => return [.splice (← s.index state)]
  | .inherit => .ok []
  | .fallback move => do
    let pattern ← s.pattern ""
    let edits ← s.edits move
    return [.rule (← checked ⟨pattern, none, edits⟩)]

def linesFrom (s : Scope) (index : Nat) : List Entry → Except (Nat × Defect) (List Line)
  | [] => .ok []
  | e :: es =>
    match s.lines e with
    | .error defect => .error (index, defect)
    | .ok ls => return ls ++ (← s.linesFrom (index + 1) es)

def definition (s : Scope) (d : Definition) : Except BuildFault (List Line) :=
  match s.linesFrom 0 d.entries with
  | .ok ls => .ok ls
  | .error (index, defect) => .error (.entry d.state index defect)

end Scope

namespace Line

def rule? : Line → Option Rule
  | rule r => some r
  | splice _ => none

end Line

def Rule.combined (r : Rule) : List (List Nat) :=
  r.edits.filterMap fun
    | .push (.combined parts) => some parts
    | _ => none

structure Interner where
  numbers : List (List Nat × Nat)
  parts : List (List Nat)

namespace Interner

def empty : Interner := ⟨[], []⟩

/-- The number of a combined state, next to `named` named ones. A state that was not met before
gets the number after all others. -/
def intern (named : Nat) (t : Interner) (parts : List Nat) : Nat × Interner :=
  match t.numbers.lookup parts with
  | some n => (n, t)
  | none =>
    let n := named + t.parts.length
    (n, ⟨(parts, n) :: t.numbers, t.parts ++ [parts]⟩)

def internAll (named : Nat) (t : Interner) : List (List Nat) → List Nat × Interner
  | [] => ([], t)
  | parts :: rest =>
    let (n, t) := t.intern named parts
    let (ns, t) := internAll named t rest
    (n :: ns, t)

end Interner

/-- The rules that a state stands for. `chain` leads to it from the state where the expansion began,
and `fresh` are the states that are not on the chain. The error is a cycle of states. -/
def expand (lines : Nat → List Line) (chain fresh : List Nat) (i : Nat) :
    Except (List Nat) (List Rule) :=
  if i ∈ fresh then do
    let parts ← (lines i).mapM fun
      | .rule r => .ok [r]
      | .splice target => expand lines (chain ++ [i]) (fresh.erase i) target
    return parts.flatten
  else .error (chain.dropWhile (· != i) ++ [i])
termination_by fresh.length
decreasing_by
  rename_i h
  have := List.length_pos_of_mem h
  rw [List.length_erase_of_mem h]
  omega

namespace Grammar

/-- The first faulty entry decides, and only then are the states expanded. -/
def resolve (g : Grammar) (s : Scope) : Except BuildFault Machine := do
  let lines ← g.definitions.mapM s.definition
  let indices := List.range g.definitions.length
  let name := fun i => g.states[i]?.getD ""
  match indices.mapM (expand (fun i => lines[i]?.getD []) [] indices) with
  | .error cycle => .error (.includeCycle (cycle.map name))
  | .ok rules =>
    let asked := (lines.flatten.filterMap Line.rule?).flatMap Rule.combined
    return {
      name := g.name
      states := g.states.zipWith State.mk rules
      combined := (Interner.empty.internAll g.definitions.length asked).2.parts
      root := s.root }

/-- Callbacks that steer the run are refused unless `steering` is set. -/
def build (g : Grammar) (steering : Bool) : Except BuildError Machine :=
  match g.states.idxOf? "root" with
  | none => .error ⟨g.name, .missingRoot⟩
  | some root =>
    match g.resolve ⟨g.states, root, g.mode, steering⟩ with
    | .ok m => .ok m
    | .error fault => .error ⟨g.name, fault⟩

end Grammar

end Lexing
