import Lexing.Run.Step

/-!
# Runs

A run makes one step after the other until the cursor is at its end. It can be taken as a whole,
which gives a list of tokens, or token by token: the tokens of the last step that were not taken yet
are then pending, and the cursor may be ahead of the last token taken.

Text that a machine delegates to itself is lexed by a run of its own. Such runs are nested up to a
fixed depth, below which delegated text becomes one error token.
-/
set_option autoImplicit false

namespace Lexing

def maxNesting : Nat := 64

namespace Config

/-- No run makes more steps than this: a step that takes nothing raises the count of idle steps,
and a character is taken at the latest when that count is at its limit. -/
def stepBound (c : Config) : Nat := (maxIdle + 1) * (c.cursor.text.skip c.cursor.pos).length

end Config

namespace Machine

def drain (m : Machine) (same : Stack StateRef → Stack StateRef → Bool) (nested : Nested) :
    Nat → Config → List Token
  | 0, _ => []
  | fuel + 1, c =>
    if c.cursor.atEnd then []
    else
      let (c, tokens) := m.step same nested c
      tokens ++ drain m same nested fuel c

/-- The tokens of a whole run from the start of a text, with at most `levels` nested runs inside
each other. -/
def nestedTokens (m : Machine) (same : Stack StateRef → Stack StateRef → Bool) : Nat → Nested
  | 0, text, _ => [⟨0, .error, text⟩]
  | levels + 1, text, stack =>
    let c := Config.start text stack
    m.drain same (nestedTokens m same levels) c.stepBound c

def nested (m : Machine) : Nested := m.nestedTokens Stack.sameShape maxNesting

def tokens (m : Machine) (text : Text) : List Token :=
  m.nestedTokens Stack.sameShape (maxNesting + 1) text (.single (.named m.root))

def toLexer (m : Machine) : Lexer := ⟨m.name, m.tokens⟩

end Machine

structure Run where
  config : Config
  pending : List Token
deriving DecidableEq, Repr

namespace Run

def resume (c : Cursor StateRef) : Run := ⟨⟨c, 0⟩, []⟩

/-- Makes steps, but at most `fuel`, until a token is pending or the cursor is at its end. -/
def fill (m : Machine) : Nat → Run → Run
  | 0, r => r
  | fuel + 1, r =>
    if !r.pending.isEmpty || r.config.cursor.atEnd then r
    else
      let (c, tokens) := m.step Stack.sameShape m.nested r.config
      fill m fuel ⟨c, tokens⟩

def next (m : Machine) (r : Run) : Option Token × Run :=
  let r := r.fill m r.config.stepBound
  match r.pending with
  | [] => (none, r)
  | t :: ts => (some t, { r with pending := ts })

/-- At most `n` tokens, each with the run after it. When the tokens end before, the last run is the
one that found the end. -/
def take (m : Machine) : Nat → Run → List (Token × Run) × Run
  | 0, r => ([], r)
  | n + 1, r =>
    match r.next m with
    | (none, r) => ([], r)
    | (some t, r) =>
      let (rest, last) := take m n r
      ((t, r) :: rest, last)

end Run

end Lexing
