import Lexing.Pattern.Automaton
import Lexing.Unicode.Word

/-!
# Matching

A match starts at a given place and is the first one in order of preference: an earlier branch
before a later one, and one more round of a greedy loop before none.

The matcher goes through the text once and keeps a list of threads, best first. At every place
`Frontier.follow` goes from the threads through the states that take nothing, up to those that take
the next character. What happens after a state depends on the state and the place only, so a state
that is met again at one place is not followed again, and the number of threads stays bounded by
the number of states.
-/
set_option autoImplicit false

namespace Lexing.Pattern

/-- A place in a text: the character before it, the characters from it on, its offset, and the
offset up to which characters may be taken. -/
structure Spot where
  last : Option Char
  rest : Text
  offset : Nat
  limit : Nat

namespace Spot

def ofText (t : Text) (offset limit : Nat) : Spot :=
  let (last, rest) := t.split none offset
  ⟨last, rest, offset, limit⟩

end Spot

def isWordAt (unicode : Bool) : Option Char → Bool
  | none => false
  | some c => if unicode then isWord c else isAsciiWord c

namespace Assertion

def holds (last next : Option Char) : Assertion → Bool
  | textStart => last.isNone
  | textEnd => next.isNone
  | lineStart => last.isNone || last == some '\n'
  | lineEnd => next.isNone || next == some '\n'
  | returnLineStart =>
    last.isNone || last == some '\n' || (last == some '\r' && next != some '\n')
  | returnLineEnd =>
    next.isNone || next == some '\r' || (next == some '\n' && last != some '\r')
  | boundary u => isWordAt u last != isWordAt u next
  | notBoundary u => isWordAt u last == isWordAt u next
  | wordStart u => !isWordAt u last && isWordAt u next
  | wordEnd u => isWordAt u last && !isWordAt u next
  | wordStartHalf u => !isWordAt u last
  | wordEndHalf u => !isWordAt u next

end Assertion

structure Passage where
  mark : Mark
  offset : Nat
deriving DecidableEq, Repr

/-- A state to go on from, with the groups opened and closed on the way to it, latest first. -/
structure Thread where
  state : Nat
  passed : List Passage
deriving DecidableEq, Repr

structure Visits where
  rounds : Array Nat
  round : Nat

namespace Visits

def none (states : Nat) : Visits := ⟨Array.replicate states 0, 1⟩

def has (v : Visits) (state : Nat) : Bool := v.rounds[state]?.getD 0 == v.round

def add (v : Visits) (state : Nat) : Visits := { v with rounds := v.rounds.set! state v.round }

def clear (v : Visits) : Visits := { v with round := v.round + 1 }

end Visits

/-- What was found at one place: the states met, the threads behind the next character, last first,
and what the thread that has matched has passed. -/
structure Frontier where
  met : Visits
  waiting : List Thread
  matched : Option (List Passage)

namespace Frontier

def start (met : Visits) : Frontier := ⟨met, [], none⟩

/-- Follows the threads from the place between `last` and `next`, best first. Nothing is followed
once a thread has matched. -/
def follow (a : Automaton) (last next : Option Char) (offset : Nat) :
    Nat → List Thread → Frontier → Frontier
  | 0, _, f => f
  | _, [], f => f
  | fuel + 1, ⟨s, passed⟩ :: ts, f =>
    if f.met.has s then follow a last next offset fuel ts f
    else
      let f := { f with met := f.met.add s }
      match a.states[s]? with
      | none => follow a last next offset fuel ts f
      | some .accept => { f with matched := some passed }
      | some (.take set t) =>
        if next.any set.has then
          follow a last next offset fuel ts { f with waiting := ⟨t, passed⟩ :: f.waiting }
        else follow a last next offset fuel ts f
      | some (.look x t) =>
        if x.holds last next then follow a last next offset fuel (⟨t, passed⟩ :: ts) f
        else follow a last next offset fuel ts f
      | some (.mark m t) =>
        follow a last next offset fuel (⟨t, ⟨m, offset⟩ :: passed⟩ :: ts) f
      | some (.fork t u) =>
        follow a last next offset fuel (⟨t, passed⟩ :: ⟨u, passed⟩ :: ts) f

end Frontier

namespace Automaton

/-- The most threads that can be followed at one place: each state gives rise to two at most. -/
def fuel (a : Automaton) (ts : List Thread) : Nat := 2 * a.states.size + ts.length + 1

structure Found where
  stop : Nat
  passed : List Passage

/-- Takes one character after the other while there are threads; `best` is the match so far. -/
def advance (a : Automaton) (limit : Nat) (met : Visits) (ts : List Thread) (best : Option Found)
    (last : Option Char) (offset : Nat) (rest : Text) : Option Found :=
  let f := (Frontier.start met).follow a last rest.head? offset (a.fuel ts) ts
  let best := match f.matched with
    | some passed => some ⟨offset, passed⟩
    | none => best
  match rest with
  | [] => best
  | c :: rest =>
    if f.waiting.isEmpty || limit < offset + c.utf8Size then best
    else
      advance a limit f.met.clear f.waiting.reverse best (some c) (offset + c.utf8Size) rest

def search (a : Automaton) (s : Spot) : Option Found :=
  a.advance s.limit (.none a.states.size) [⟨a.entry, []⟩] none s.last s.offset s.rest

end Automaton

namespace Automaton.Found

def group? (f : Found) (i : Nat) : Option Span := do
  let stop ← f.passed.find? (·.mark = .closes i)
  let start ← f.passed.find? (·.mark = .opens i)
  return ⟨start.offset, stop.offset⟩

def groups (f : Found) (last : Nat) : List (Option Span) :=
  (List.range last).map fun i => f.group? (i + 1)

end Automaton.Found

end Lexing.Pattern
