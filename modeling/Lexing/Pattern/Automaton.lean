import Lexing.Pattern.Node

/-!
# Automata

An automaton is what a matcher follows through a text. A state takes a character, or asks for
something at the place where it is, or leads to other states; the first way of a fork is preferred
to the second.

A node is laid out from its end: `Node.before` puts it before what is there already, so that every
state knows its successors. Only the fork at the end of a round of a loop leads back, and it is put
down before the body and completed after it.
-/
set_option autoImplicit false

namespace Lexing.Pattern

inductive Mark
  | opens (index : Nat)
  | closes (index : Nat)
deriving DecidableEq, Repr

namespace Automaton

inductive State
  | accept
  | take (set : CharSet) (next : Nat)
  | look (a : Assertion) (next : Nat)
  | mark (m : Mark) (next : Nat)
  | fork (first second : Nat)
deriving DecidableEq, Repr, Inhabited

def State.choose (greedy : Bool) (round leave : Nat) : State :=
  if greedy then fork round leave else fork leave round

end Automaton

open Automaton in
structure Automaton where
  states : Array State
  entry : Nat
deriving Repr

namespace Automaton

def done : Automaton := ⟨#[.accept], 0⟩

def enterBy (a : Automaton) (s : State) : Automaton :=
  let entry := a.states.size
  ⟨a.states.push s, entry⟩

def copies (put : Automaton → Automaton) : Nat → Automaton → Automaton
  | 0, a => a
  | count + 1, a => copies put count (put a)

/-- One more part that can be left out together with all that follow it; the automaton is left in
the state `leave`. -/
def optional (put : Automaton → Automaton) (greedy : Bool) (leave : Nat) (a : Automaton) :
    Automaton :=
  let body := put a
  body.enterBy (.choose greedy body.entry leave)

def rounds (put : Automaton → Automaton) (greedy : Bool) (a : Automaton) : Automaton :=
  let leave := a.entry
  let joint := a.states.size
  let body := put (a.enterBy (.fork leave leave))
  { body with states := body.states.set! joint (.choose greedy body.entry leave) }

end Automaton

/-- Puts a node before an automaton. A loop whose body takes something in every round begins in the
fork that ends its rounds. Otherwise it begins in a fork of its own: the one that ends a round must
not count as met when the body is entered and left at one place. -/
def Node.before : Node → Automaton → Automaton
  | empty, a => a
  | word w, a => w.foldr (fun c a => a.enterBy (.take (.single c) a.entry)) a
  | set s, a => a.enterBy (.take s a.entry)
  | look x, a => a.enterBy (.look x a.entry)
  | group i body, a =>
    let inner := body.before (a.enterBy (.mark (.closes i) a.entry))
    inner.enterBy (.mark (.opens i) inner.entry)
  | seq m n, a => m.before (n.before a)
  | alt m n, a =>
    let follow := a.entry
    let first := m.before a
    let start := first.entry
    let second := n.before { first with entry := follow }
    second.enterBy (.fork start second.entry)
  | loop 0 none greedy body, a =>
    let leave := a.entry
    let joint := a.states.size
    let rounds := a.rounds body.before greedy
    if body.minLength.getD 0 = 0 then rounds.enterBy (.choose greedy rounds.entry leave)
    else { rounds with entry := joint }
  | loop (least + 1) none greedy body, a =>
    Automaton.copies body.before least (a.rounds body.before greedy)
  | loop least (some most) greedy body, a =>
    let leave := a.entry
    Automaton.copies body.before least
      (Automaton.copies (Automaton.optional body.before greedy leave) (most - least) a)

def Node.automaton (n : Node) : Automaton := n.before .done

end Lexing.Pattern
