import Lexing.Kind.Basic
import Lexing.Text.Basic

/-!
# Matches and emissions

A match is the span that a pattern took from a text, with the spans of its groups. Group 0 is the
match itself. An emission asks for a token of some kind at some place; it need not fit the text.
-/
set_option autoImplicit false

namespace Lexing

structure Emission where
  offset : Nat
  kind : Kind
  length : Nat
deriving DecidableEq, Repr

namespace Emission

def farthest : Nat := Nat.pow 2 64 - 1

def span (e : Emission) : Span := ⟨e.offset, min (e.offset + e.length) farthest⟩

end Emission

/-- The groups from the first on; one that took no part has no span. -/
structure Match where
  input : Text
  span : Span
  groups : List (Option Span)
deriving DecidableEq, Repr

namespace Match

def start (m : Match) : Nat := m.span.start

def stop (m : Match) : Nat := m.span.stop

def text (m : Match) : Text := m.input.slice m.span

def groupCount (m : Match) : Nat := m.groups.length + 1

def groupSpan? (m : Match) : Nat → Option Span
  | 0 => some m.span
  | i + 1 => (m.groups[i]?).join

def groupText? (m : Match) (i : Nat) : Option Text := (m.groupSpan? i).map m.input.slice

def emitGroup? (m : Match) (i : Nat) (kind : Kind) : Option Emission :=
  match m.groupSpan? i with
  | some s => if s.isEmpty then none else some ⟨s.start, kind, s.size⟩
  | none => none

end Match

end Lexing
