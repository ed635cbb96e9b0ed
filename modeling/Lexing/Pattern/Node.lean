import Lexing.Pattern.CharSet
import Lexing.Text.Basic

/-!
# Patterns after reading

A node is a pattern in which every flag has been applied. A group is kept only for its number, and
an assertion looks at the characters on both sides of a place without taking any.

Nodes are built in a normal form. Sequences and choices are flat, words that follow each other are
one word, and a set with a single member is a word. A choice of single characters is a set, and so
is a choice of sets. What all branches of a choice begin with is taken out of it, if every branch is
a sequence.

The bounds on the length of a match are lengths in bytes. A node that can match nothing at all has
no bounds, and neither has a node in normal form with such a part.
-/
set_option autoImplicit false

namespace Lexing.Pattern

inductive Assertion
  | textStart
  | textEnd
  | lineStart
  | lineEnd
  | returnLineStart
  | returnLineEnd
  | boundary (unicode : Bool)
  | notBoundary (unicode : Bool)
  | wordStart (unicode : Bool)
  | wordEnd (unicode : Bool)
  | wordStartHalf (unicode : Bool)
  | wordEndHalf (unicode : Bool)
deriving DecidableEq, Repr

inductive Node
  | empty
  | word (w : Text)
  | set (s : CharSet)
  | look (a : Assertion)
  | group (index : Nat) (body : Node)
  | seq (first second : Node)
  | alt (first second : Node)
  | loop (least : Nat) (most : Option Nat) (greedy : Bool) (body : Node)
deriving DecidableEq, Repr

namespace Node

def minLength : Node → Option Nat
  | empty => some 0
  | word w => some w.size
  | set s => s.minSize
  | look _ => some 0
  | group _ body => body.minLength
  | seq a b => do return (← a.minLength) + (← b.minLength)
  | alt a b => do return min (← a.minLength) (← b.minLength)
  | loop least _ _ body => body.minLength.map (least * ·)

def maxLength : Node → Option Nat
  | empty => some 0
  | word w => some w.size
  | set s => s.maxSize
  | look _ => some 0
  | group _ body => body.maxLength
  | seq a b => do return (← a.maxLength) + (← b.maxLength)
  | alt a b => do return max (← a.maxLength) (← b.maxLength)
  | loop _ most _ body => do return (← most) * (← body.maxLength)

def lastGroup : Node → Nat
  | group index body => max index body.lastGroup
  | seq a b => max a.lastGroup b.lastGroup
  | alt a b => max a.lastGroup b.lastGroup
  | loop _ _ _ body => body.lastGroup
  | _ => 0

def hasLook : Node → Bool
  | look _ => true
  | group _ body => body.hasLook
  | seq a b => a.hasLook || b.hasLook
  | alt a b => a.hasLook || b.hasLook
  | loop _ _ _ body => body.hasLook
  | _ => false

def elements : Node → List Node
  | empty => []
  | seq a b => a :: b.elements
  | n => [n]

def branches : Node → List Node
  | alt a b => a :: b.branches
  | n => [n]

def ofElements : List Node → Node
  | [] => empty
  | [n] => n
  | n :: ns => seq n (ofElements ns)

def ofBranches : List Node → Node
  | [] => set .empty
  | [n] => n
  | n :: ns => alt n (ofBranches ns)

def joinWords : List Node → List Node
  | [] => []
  | n :: ns =>
    match n, joinWords ns with
    | word v, word w :: rest => word (v ++ w) :: rest
    | n, rest => n :: rest

def concat (ns : List Node) : Node := ofElements (joinWords (ns.flatMap elements))

def ofSet (s : CharSet) : Node :=
  match s.single? with
  | some c => word [c]
  | none => set s

def characters? : List Node → Option CharSet
  | [] => some .empty
  | word [c] :: ns => (characters? ns).map (CharSet.single c).union
  | _ => none

def members? : List Node → Option CharSet
  | [] => some .empty
  | set s :: ns => (members? ns).map s.union
  | _ => none

/-- The first of some branches that matches, where nothing can be taken out of them. -/
def firstOfApart (bs : List Node) : Node :=
  if bs.length ≤ 1 then ofBranches bs
  else
    match characters? bs <|> members? bs with
    | some s => ofSet s
    | none => ofBranches bs

def commonStart : List Node → List Node → List Node
  | m :: ms, n :: ns => if m = n then m :: commonStart ms ns else []
  | _, _ => []

def sharedStart (bs : List Node) : List Node :=
  if bs.all (fun b => 2 ≤ b.elements.length) then
    match bs.map elements with
    | first :: second :: rest => (second :: rest).foldl commonStart first
    | _ => []
  else []

def firstOf (ns : List Node) : Node :=
  let bs := ns.flatMap branches
  let start := sharedStart bs
  if start.isEmpty then firstOfApart bs
  else
    let rests := bs.map fun b => concat (b.elements.drop start.length)
    concat (start ++ [firstOfApart (rests.flatMap branches)])

/-- Repeats `body`. What only ever matches the empty text is tried at most once, and a count of
zero leaves nothing of the body, not even its groups. -/
def repeated (least : Nat) (most : Option Nat) (greedy : Bool) (body : Node) : Node :=
  let once := body.maxLength = some 0
  let least := if once then min least 1 else least
  let most := if once then some (min (most.getD 1) 1) else most
  if least = 0 ∧ most = some 0 then empty
  else if least = 1 ∧ most = some 1 then body
  else loop least most greedy body

end Node

end Lexing.Pattern
