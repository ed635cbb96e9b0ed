import Lexing.Pattern.Node

/-!
# How matches begin

For many patterns one can list some bytes with which every match begins. A start is whole when it is
a match by itself. The lists are kept short: sets with many members and long products are given up,
repetitions are followed for a few rounds, and long starts are cut.

When all starts are whole the pattern stands for a few words and for nothing else, in the order in
which they are preferred. A start that begins with another one before it is never preferred, and is
dropped.
-/
set_option autoImplicit false

namespace Lexing.Pattern

/-- The first bytes of a match, or all of them. -/
structure Start where
  bytes : List UInt8
  whole : Bool
deriving DecidableEq, Repr

/-- The starts of a pattern, best first, or `none` when they were given up. -/
abbrev Starts := Option (List Start)

namespace Start

def ofText (w : Text) : Start := ⟨w.flatMap String.utf8EncodeChar, true⟩

def cut (n : Nat) (s : Start) : Start :=
  if n < s.bytes.length then ⟨s.bytes.take n, false⟩ else s

def merge (ss : List Start) : List Start :=
  ss.foldr (fun s rest =>
    match rest with
    | t :: rest' =>
      if s.bytes = t.bytes then ⟨s.bytes, s.whole && t.whole⟩ :: rest' else s :: rest
    | [] => [s]) []

/-- Drops every start that begins with one before it. -/
def preferred (ss : List Start) : List Start :=
  ss.foldl (fun kept s =>
    if kept.any fun t => t.bytes.isPrefixOf s.bytes then kept else kept ++ [s]) []

end Start

namespace Starts

def maxMembers : Nat := 10

def maxRounds : Nat := 10

def maxBytes : Nat := 100

def maxStarts : Nat := 250

def nothing : Starts := some [⟨[], true⟩]

/-- No start is whole, so that what follows makes no difference. -/
def isOpen (s : Starts) : Bool := Option.all (fun ss => ss.all fun t => !t.whole) s

def opened (s : Starts) : Starts :=
  Option.map (fun ss => ss.map fun t => { t with whole := false }) s

def cut (n : Nat) (ss : List Start) : Starts := some (ss.map (·.cut n))

def product (s t : Starts) : Starts :=
  match s, t with
  | none, _ => none
  | some ss, some ts =>
    if maxStarts < ss.length * ts.length then beyond ss
    else
      cut maxBytes (Start.merge (ss.flatMap fun a =>
        if a.whole then ts.map fun b => ⟨a.bytes ++ b.bytes, b.whole⟩ else [a]))
  | some ss, none => beyond ss
where
  beyond (ss : List Start) : Starts :=
    if ss.any fun a => a.bytes.isEmpty then none else opened (some ss)

def sum (s t : Starts) : Starts := do
  let ss ← s
  let ts ← t
  if ss.length + ts.length ≤ maxStarts then return Start.merge (ss ++ ts)
  else
    let ss := Start.merge (ss.map (·.cut 4))
    let ts := Start.merge (ts.map (·.cut 4))
    if ss.length + ts.length ≤ maxStarts then return Start.merge (ss ++ ts) else none

def power (s : Starts) : Nat → Starts
  | 0 => nothing
  | count + 1 =>
    let before := s.power count
    if before.isOpen then before else before.product s

def ofSet (s : CharSet) : Starts :=
  if maxMembers < s.ranges.foldl (fun n r => n + (r.2 + 1 - r.1)) 0 then none
  else some (s.ranges.flatMap fun r =>
    (List.range (r.2 + 1 - r.1)).map fun i => .ofText [Char.ofNat (r.1 + i)])

def repeated (least : Nat) (most : Option Nat) (greedy : Bool) (s : Starts) : Starts :=
  if least = 0 then
    let s := if most = some 1 then s else s.opened
    if greedy then s.sum nothing else nothing.sum s
  else
    let s := s.power (min least maxRounds)
    if most = some least ∧ least ≤ maxRounds then s else s.opened

/-- The starts of the elements of a sequence, as far as they matter. -/
def ofSequence (ss : List Starts) : Starts :=
  ss.foldl (fun s t => if s.isOpen then s else s.product t) nothing

def ofChoice (ss : List Starts) : Starts := ss.foldl sum (some [])

end Starts

inductive Parts
  | single (s : Starts)
  | sequence (ss : List Starts)
  | choice (ss : List Starts)

namespace Parts

def starts : Parts → Starts
  | single s => s
  | sequence ss => .ofSequence ss
  | choice ss => .ofChoice ss

def elements : Parts → List Starts
  | sequence ss => ss
  | p => [p.starts]

def branches : Parts → List Starts
  | choice ss => ss
  | p => [p.starts]

end Parts

namespace Node

def parts : Node → Parts
  | empty => .single .nothing
  | word w => .single (some [(Start.ofText w).cut Starts.maxBytes])
  | set s => .single (.ofSet s)
  | look _ => .single .nothing
  | group _ body => .single body.parts.starts
  | seq a b => .sequence (a.parts.starts :: b.parts.elements)
  | alt a b => .choice (a.parts.starts :: b.parts.branches)
  | loop least most greedy body => .single (body.parts.starts.repeated least most greedy)

end Node

/-- Bytes that are frequent in texts: those of the blanks, of usual marks, of most small letters,
and of everything beyond the basic Latin characters. -/
def isFrequent (b : UInt8) : Bool :=
  0x80 ≤ b || "\n\r (),-./0129:_abcdefghilmnoprstuvxy|".toList.any fun c => c.toNat = b.toNat

def commonBytes : List (List UInt8) → List UInt8
  | [] => []
  | w :: ws => ws.foldl (fun start w => ((start.zip w).takeWhile fun (a, b) => a = b).map (·.1)) w

namespace Start

/-- Whether many starts are better kept than cut: `tries` says after how many bytes to cut them and
how few must be left. -/
def areBest (ss : List Start) : List (Nat × Nat) → Bool
  | [] => true
  | (n, most) :: tries =>
    let ss := preferred (ss.map (·.cut n))
    if ss.length ≤ most then ss.all Start.whole || ss.any fun s => s.bytes.length ≤ 2
    else areBest ss tries

/-- Whether the starts are all that is looked for, or serve only to find where a match may begin:
with a rare byte at the common begin it is that byte, with a long common begin that begin, and many
starts may be cut. `given` is the number of starts before the superfluous ones were dropped. -/
def areAll (given : Nat) (ss : List Start) : Bool :=
  let words := ss.map Start.bytes
  let common := commonBytes words
  let rare := 1 < given && common.length ≤ 3 && common.head?.any fun b => !isFrequent b
  let long := 1 < ss.length &&
    (4 < common.length || 1 < common.length && 16 < ss.length)
  ss.all Start.whole && (words.all (·.length = 1) || !rare && !long &&
    (ss.length ≤ 10 || areBest ss [(5, 10), (4, 64), (3, 64)]))

end Start

def Node.literals? (n : Node) : Option (List (List UInt8)) := do
  let given ← n.parts.starts
  let kept := Start.preferred given
  if n.lastGroup = 0 ∧ !n.hasLook ∧ !kept.isEmpty ∧ given.all (!·.bytes.isEmpty) ∧
      Start.areAll given.length kept then
    some (kept.map Start.bytes)
  else none

end Lexing.Pattern
