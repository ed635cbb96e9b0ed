import Lexing.Match
import Lexing.Token

/-!
# Covering a span with pieces

The pieces asked for inside a span may overlap, leave it, be empty or cut a character. Those are
dropped, each piece is kept that begins where the last kept one ended or later, and what no piece
covers becomes plain text.
-/
set_option autoImplicit false

namespace Lexing

def gap (text : Text) (start stop : Nat) : List Token :=
  if start < stop then [⟨start, .text, text.slice ⟨start, stop⟩⟩] else []

def fits (text : Text) (start stop : Nat) (s : Span) : Bool :=
  !s.isEmpty && start ≤ s.start && s.stop ≤ stop && text.isBoundary s.start &&
    text.isBoundary s.stop

/-- The tokens of the span from `start` to `stop`, where `emit` gives those of a kept piece. -/
def cover {α : Type} (text : Text) (emit : Span → α → List Token) (stop : Nat) :
    Nat → List (Span × α) → List Token
  | start, [] => gap text start stop
  | start, (s, a) :: pieces =>
    if fits text start stop s then
      gap text start s.start ++ emit s a ++ cover text emit stop s.stop pieces
    else cover text emit stop start pieces

def emitKind (text : Text) (s : Span) (k : Kind) : List Token := [⟨s.start, k, text.slice s⟩]

def coverEmissions (text : Text) (s : Span) (es : List Emission) : List Token :=
  cover text (emitKind text) s.stop s.start (es.map fun e => (e.span, e.kind))

end Lexing
