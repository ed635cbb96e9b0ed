import Lexing.Pattern.ByteRanges
import Lexing.Pattern.Node

/-!
# The room that a pattern takes

A pattern is refused when it would take too much room. What counts is the room of an automaton that
reads bytes, of which there are two: one reads forward and records the groups, the other reads
backward. Neither is built here; their states are only counted, and the count stops at the limit.

The states are numbered, and parts of a set are shared by the numbers of their successors. A part
that can be shared is kept at the place that its hash gives, and drives out what was kept there.
-/
set_option autoImplicit false

namespace Lexing.Pattern

/-- The states so far, and the bytes that they need beyond the size of a state. -/
structure Room where
  states : Nat
  extra : Nat
deriving DecidableEq, Repr

namespace Room

def size (r : Room) : Nat := 32 * r.states + r.extra

def limit : Nat := 10 * Nat.pow 2 20

def add (states extra : Nat) (r : Room) : Option Room :=
  let r : Room := ⟨r.states + states, r.extra + extra⟩
  if limit < r.size then none else some r

def copies (put : Room → Option Room) : Nat → Room → Option Room
  | 0, r => some r
  | count + 1, r =>
    match put r with
    | some r => copies put count r
    | none => none

end Room

structure Sharing where
  room : Room
  slots : Array (Option (List Nat × Nat))

namespace Sharing

def start (room : Room) (slots : Nat) : Sharing := ⟨room, Array.replicate slots none⟩

def hash (part : List Nat) : UInt64 :=
  part.foldl (fun h n => (h ^^^ UInt64.ofNat n) * 1099511628211) 14695981039346656037

def state (s : Sharing) (part : List Nat) (extra : Nat) : Option (Nat × Sharing) :=
  let place := (hash part).toNat % s.slots.size
  match s.slots[place]?.join with
  | some (kept, n) => if kept = part then some (n, s) else fresh place
  | none => fresh place
where
  fresh (place : Nat) : Option (Nat × Sharing) :=
    let n := s.room.states
    (s.room.add 1 extra).map fun room => (n, ⟨room, s.slots.set! place (some (part, n))⟩)

def path (next : Nat) : List ByteRange → Sharing → Option Sharing
  | [], s => some s
  | (lo, hi) :: bs, s => do
    let (n, s) ← s.state [next, lo, hi] 0
    path n bs s

def paths (next : Nat) : List (List ByteRange) → Sharing → Option Sharing
  | [], s => some s
  | bs :: rest, s => do
    let s ← path next bs s
    let room ← s.room.add 0 4
    paths next rest { s with room }

abbrev Edges := List (ByteRange × Nat)

/-- A state that may get more edges; where the last of them leads is not known yet. -/
structure Unfinished where
  edges : Edges
  last : Option ByteRange

def Unfinished.close (u : Unfinished) (next : Nat) : Unfinished :=
  match u.last with
  | some b => ⟨u.edges ++ [(b, next)], none⟩
  | none => u

def edgesState (s : Sharing) (es : Edges) : Option (Nat × Sharing) :=
  s.state (es.flatMap fun ((lo, hi), next) => [lo, hi, next]) (8 * es.length)

/-- Finishes states, the last one first, until `kept` are left; the last edge of the first one leads
to `next`. -/
def finish (kept next : Nat) : List Unfinished → Sharing → Option (List Unfinished × Sharing)
  | [], s => some ([], s)
  | u :: us, s =>
    if us.length < kept then some (u.close next :: us, s)
    else do
      let (n, s) ← s.edgesState (u.close next).edges
      finish kept n us s

/-- How many states, counted from the start, have a last edge for the range at their place. -/
def agreeing : List ByteRange → List Unfinished → Nat
  | b :: bs, u :: us => if u.last = some b then agreeing bs us + 1 else 0
  | _, _ => 0

/-- Adds sequences in their order. Each goes along with the one before it as far as they agree. -/
def tree (final : Nat) : List (List ByteRange) → List Unfinished → Sharing → Option Sharing
  | [], us, s => do
    let (us, s) ← finish 1 final us s
    let (_, s) ← s.edgesState (us.head?.map Unfinished.edges |>.getD [])
    return s
  | bs :: rest, us, s => do
    let same := agreeing bs us.reverse
    let (us, s) ← finish (same + 1) final us s
    let us := match us, bs.drop same with
      | u :: us, b :: bs =>
        (bs.map fun b => ⟨[], some b⟩).reverse ++ { u with last := some b } :: us
      | us, _ => us
    tree final rest us s

end Sharing

inductive Direction
  | forward
  | backward
deriving DecidableEq, Repr

def layoutSet (d : Direction) (s : CharSet) (r : Room) : Option Room :=
  let sequences := ByteRange.sequences s.ranges
  match d with
  | .forward => do
    let final := r.states
    let s ← Sharing.tree final sequences [⟨[], none⟩] (.start (← r.add 1 0) 10000)
    return s.room
  | .backward => do
    let r ← r.add 2 0
    let s ← Sharing.paths (r.states - 1) sequences (.start r 1000)
    return s.room

/-- The words that go on from a state of their tree: those before the first word that ends there,
those between it and the next one that ends there, and so on. -/
def chunks : List (List UInt8) → List (List (List UInt8))
  | [] => [[]]
  | w :: ws =>
    match w, chunks ws with
    | [], rest => [] :: rest
    | w, chunk :: rest => (w :: chunk) :: rest
    | w, [] => [[w]]

def byFirst (ws : List (List UInt8)) : List (List (List UInt8)) :=
  let firsts := (ws.filterMap List.head?).eraseDups
  firsts.map fun b => ws.filterMap fun
    | c :: w => if c = b then some w else none
    | [] => none

def wordTree : Nat → List (List UInt8) → Room → Option Room
  | 0, _, r => some r
  | fuel + 1, ws, r => do
    let ws := match ws with
      | [] :: rest => [] :: rest.dropWhile List.isEmpty
      | ws => ws
    let parts := (chunks ws).map byFirst
    let ends := (parts.drop 1).length
    let r ← parts.flatten.foldlM (fun r next =>
      if next.all List.isEmpty then some r else wordTree fuel next r) r
    let r ← parts.foldlM (fun r part =>
      match part.length with
      | 0 => some r
      | 1 => r.add 1 4
      | n => r.add 1 (8 * n + 4)) r
    r.add 1 (4 * ends)

namespace Node

def words? : Node → Option (List Text)
  | word w => some [w]
  | alt (word w) b => b.words?.map (w :: ·)
  | _ => none

def layoutWords (d : Direction) (ws : List Text) (r : Room) : Option Room :=
  let bytes := ws.map fun w =>
    let bs := w.flatMap String.utf8EncodeChar
    match d with
    | .forward => bs
    | .backward => bs.reverse
  r.add 1 0 >>= wordTree ((bytes.map List.length).foldl max 0 + 1) bytes

def layoutBranch (before : Nat) (r : Room) : Option Room :=
  match before with
  | 0 => some r
  | 1 => r.add 2 8
  | _ => r.add 0 4

/-- Lays out a node; `before` is the number of branches before it in the same choice. -/
def layout (d : Direction) (before : Nat) (n : Node) (r : Room) : Option Room := do
  match n with
  | alt a b =>
    match if before = 0 then (alt a b).words? else none with
    | some ws => layoutWords d ws r
    | none =>
      let r ← layoutBranch before (← a.layout d 0 r)
      b.layout d (before + 1) r
  | empty => layoutBranch before (← r.add 1 0)
  | word w => layoutBranch before (← r.add w.size 0)
  | set s =>
    let r ← if s.isAscii then r.add 2 (8 * s.ranges.length) else layoutSet d s r
    layoutBranch before r
  | look _ => layoutBranch before (← r.add 1 0)
  | group _ body =>
    match d with
    | .forward => do
      let r ← body.layout d 0 (← r.add 1 0)
      layoutBranch before (← r.add 1 0)
    | .backward => layoutBranch before (← body.layout d 0 r)
  | seq a b =>
    match d with
    | .forward => do layoutBranch before (← b.layout d 0 (← a.layout d 0 r))
    | .backward => do layoutBranch before (← a.layout d 0 (← b.layout d 0 r))
  | loop 0 none _ body =>
    if body.minLength.getD 0 = 0 then layoutBranch before (← (← body.layout d 0 r).add 3 16)
    else layoutBranch before (← body.layout d 0 (← r.add 1 8))
  | loop least none _ body =>
    layoutBranch before (← (← r.copies (body.layout d 0) least).add 1 8)
  | loop 0 (some 1) _ body =>
    layoutBranch before (← (← body.layout d 0 (← r.add 1 8)).add 1 0)
  | loop least (some most) _ body =>
    let r ← if least = 0 then r.add 1 0 else r.copies (body.layout d 0) least
    if most ≤ least then layoutBranch before r
    else
      let r ← r.add 1 0
      layoutBranch before
        (← r.copies (fun r => r.add 1 8 >>= body.layout d 0) (most - least))

/-- Every match begins where `x` holds, as far as that can be told from the first elements. -/
def opensWith (x : Assertion) : Node → Bool
  | look y => x = y
  | group _ body => body.opensWith x
  | seq a b => a.opensWith x || a.maxLength == some 0 && b.opensWith x
  | alt a b => a.opensWith x && b.opensWith x
  | loop least _ _ body => least != 0 && body.opensWith x
  | _ => false

def closesWith (x : Assertion) : Node → Bool
  | look y => x = y
  | group _ body => body.closesWith x
  | seq a b => b.closesWith x || b.maxLength == some 0 && a.closesWith x
  | alt a b => a.closesWith x && b.closesWith x
  | loop least _ _ body => least != 0 && body.closesWith x
  | _ => false

/-- The whole automaton: a loop that passes over what is before a match, unless there can be nothing
before it, then the node, and a last state. Reading forward, the match itself is recorded. -/
def layoutAll (d : Direction) (n : Node) : Option Room := do
  let fixed := match d with
    | .forward => n.opensWith .textStart
    | .backward => n.closesWith .textEnd
  let recorded := match d with
    | .forward => 1
    | .backward => 0
  let start ← Room.add (if fixed then 1 else 3) (if fixed then 0 else 16) ⟨0, 0⟩
  let body ← n.layout d 0 (← start.add recorded 0)
  body.add (recorded + 1) 0

def setBound (s : CharSet) : Nat :=
  s.ranges.foldl (fun sum (lo, hi) =>
    sum + 164 * if lo / 64 = hi / 64 then 1 else if lo / 4096 = hi / 4096 then 5 else 16) 128

def roomBound : Node → Nat
  | word w => 80 * w.size
  | set s => setBound s
  | group _ body => body.roomBound + 64
  | seq a b => a.roomBound + b.roomBound
  | alt a b => a.roomBound + b.roomBound + 112
  | loop least most _ body => max least (most.getD 1) * (body.roomBound + 40) + 160
  | _ => 32

/-- Whether both automata stay within the limit. Small patterns do, and need no layout. -/
def fits (n : Node) : Bool :=
  n.roomBound + 300 ≤ Room.limit ||
    (n.layoutAll .backward).isSome && (n.layoutAll .forward).isSome

end Node

end Lexing.Pattern
