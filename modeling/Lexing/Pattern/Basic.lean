import Lexing.Match
import Lexing.Pattern.Layout
import Lexing.Pattern.Lowering
import Lexing.Pattern.Matcher
import Lexing.Pattern.Reader
import Lexing.Pattern.Starts
import Lexing.Text.Quoted

/-!
# Patterns

A pattern is a text that could be read as one, together with what it means. It matches at a place
of a text: assertions see the whole text, but only characters before the limit are taken.

Nearly all patterns are matched by an automaton. A pattern that stands for a few words can be
matched without one, and is so where that makes a difference: when the automaton would be too large,
and when the length of a match has no lower bound. So can a choice between very many words, of any
length.
-/
set_option autoImplicit false

namespace Lexing
open Pattern

structure PatternMode where
  multiLine : Bool
  ignoreCase : Bool
  dotAll : Bool
  ignoreBlanks : Bool
deriving DecidableEq, Repr

namespace PatternMode

def standard : PatternMode := ⟨true, false, false, false⟩

instance : Inhabited PatternMode := ⟨standard⟩

def flags (m : PatternMode) : Flags :=
  ⟨m.multiLine, m.ignoreCase, m.dotAll, m.ignoreBlanks, false, true, false⟩

def bits (m : PatternMode) : Nat :=
  m.multiLine.toNat + 2 * m.ignoreCase.toNat + 4 * m.dotAll.toNat + 8 * m.ignoreBlanks.toNat

end PatternMode

inductive Program
  | automaton (a : Automaton)
  | words (ws : List (List UInt8))
deriving Repr

namespace Program

/-- The words, if the node is a choice between very many words and nothing else. -/
def dictionary? (n : Node) : Option (List (List UInt8)) := do
  let ws ← n.words?
  if 3000 ≤ ws.length then some (ws.map fun w => w.flatMap String.utf8EncodeChar) else none

def ofNode (n : Node) : Except Error Program :=
  let fits := n.fits
  match if fits && n.minLength.isSome then none else n.literals?.or (dictionary? n) with
  | some ws => .ok (words ws)
  | none => if fits then .ok (automaton n.automaton) else .error .tooLarge

def beginsWith : List UInt8 → Text → Bool
  | bs, c :: t =>
    let cs := String.utf8EncodeChar c
    bs.isEmpty || cs.isPrefixOf bs && beginsWith (bs.drop cs.length) t
  | bs, [] => bs.isEmpty

/-- Single bytes are looked up at the place alone, whatever the limit is: up to three of them, and
those that are too many to be compared at once. -/
def isLookup (ws : List (List UInt8)) : Bool :=
  ws.all (·.length = 1) && (ws.length ≤ 3 || 17 ≤ ws.length)

/-- The end of the match at a place, and the groups passed. -/
def search (s : Spot) : Program → Option Automaton.Found
  | automaton a => a.search s
  | words ws =>
    (ws.find? fun w => beginsWith w s.rest && (isLookup ws || s.offset + w.length ≤ s.limit)).map
      fun w => ⟨s.offset + w.length, []⟩

end Program

structure Pattern where
  source : String
  minLength : Option Nat
  maxLength : Option Nat
  groups : Nat
  program : Program
deriving Repr

namespace Pattern

def compile (mode : PatternMode) (source : String) : Except Error Pattern := do
  let e ← Expr.read mode.ignoreBlanks source.toList
  let (n, _) ← e.lower mode.flags
  return ⟨source, n.minLength, n.maxLength, n.lastGroup, ← Program.ofNode n⟩

/-- Patterns are compared by what is written. -/
instance : BEq Pattern := ⟨fun p q => p.source == q.source⟩

def canMatchEmpty (p : Pattern) : Bool := p.minLength == some 0

def onlyMatchesEmpty (p : Pattern) : Bool := p.maxLength == some 0

/-- The match at a place of `input`; there is none when too little is left for it. -/
def matchAt (p : Pattern) (input : Text) (s : Spot) : Option Match :=
  if s.limit < s.offset + p.minLength.getD 0 then none
  else
    (p.program.search s).map fun found =>
      ⟨input, ⟨s.offset, found.stop⟩, found.groups p.groups⟩

/-- The end of the match that starts at `offset` and takes nothing from `limit` on. -/
def find? (p : Pattern) (t : Text) (offset limit : Nat) : Option Nat :=
  if t.isBoundary offset then
    (p.matchAt t (Spot.ofText t offset limit)).map Match.stop
  else none

def shown (p : Pattern) : String := "Pattern(" ++ quotedString p.source ++ ")"

end Pattern

end Lexing
