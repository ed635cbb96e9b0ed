import Lexing.Token

/-!
# Splicing two lexers

A primary lexer marks text that it does not understand with a kind of its own, the needle. The
marked text is lexed by a secondary lexer, whose tokens take its place.

Marked tokens that stand next to each other form one run of marked text. Either each run is lexed on
its own, or the runs are put together, lexed as one text, and the tokens are cut where one run ends
and the next begins.
-/
set_option autoImplicit false

namespace Lexing

inductive SpliceMode
  | perSpan
  | contiguous
deriving DecidableEq, Repr

structure SplicedLexer where
  name : String
  primary : Lexer
  secondary : Lexer
  needle : Kind := .other
  mode : SpliceMode := .perSpan

namespace SpliceMode

def shown : SpliceMode → String
  | perSpan => "PerSpan"
  | contiguous => "Contiguous"

end SpliceMode

inductive Segment
  | kept (token : Token)
  | marked (offset : Nat) (text : Text)
deriving DecidableEq, Repr

def segments (needle : Kind) : List Token → List Segment
  | [] => []
  | t :: ts =>
    if t.kind = needle then
      match segments needle ts with
      | .marked offset text :: rest =>
        if t.stop = offset then .marked t.offset (t.text ++ text) :: rest
        else .marked t.offset t.text :: .marked offset text :: rest
      | rest => .marked t.offset t.text :: rest
    else .kept t :: segments needle ts

namespace Segment

def markedText : Segment → Text
  | kept _ => []
  | marked _ text => text

end Segment

/-- The offset where a run of marked tokens ends that has come to `stop`, and the tokens behind. -/
def runEnd (needle : Kind) (stop : Nat) : List Token → Nat × List Token
  | [] => (stop, [])
  | t :: ts =>
    if t.kind = needle ∧ t.offset = stop then runEnd needle t.stop ts else (stop, t :: ts)

theorem length_runEnd_le (needle : Kind) (stop : Nat) (ts : List Token) :
    (runEnd needle stop ts).2.length ≤ ts.length := by
  induction ts generalizing stop with
  | nil => exact Nat.le_refl _
  | cons t ts ih =>
    simp only [runEnd]
    split
    · exact Nat.le_succ_of_le (ih t.stop)
    · exact Nat.le_refl _

/-- Where the splicing of single runs is: what is left of the tokens of a run, the offset where the
run stands, and what is left of the primary lexer's tokens. -/
structure SpanStream where
  offset : Nat
  inner : List Token
  primary : List Token
deriving DecidableEq, Repr

namespace SplicedLexer

/-- The next token and the stream after it. A run is lexed when the stream comes to it. -/
def next (l : SplicedLexer) (text : Text) : SpanStream → Option (Token × SpanStream)
  | ⟨offset, t :: inner, primary⟩ => some (t.shift offset, ⟨offset, inner, primary⟩)
  | ⟨_, [], []⟩ => none
  | ⟨offset, [], t :: primary⟩ =>
    if t.kind = l.needle then
      let run := runEnd l.needle t.stop primary
      next l text ⟨t.offset, l.secondary.tokens (text.slice ⟨t.offset, run.1⟩), run.2⟩
    else some (t, ⟨offset, [], primary⟩)
termination_by s => s.primary.length
decreasing_by exact Nat.lt_succ_of_le (length_runEnd_le _ _ _)

theorem next_less {l : SplicedLexer} {text : Text} {s s' : SpanStream} {t : Token}
    (h : l.next text s = some (t, s')) :
    Prod.Lex (· < ·) (· < ·) (s'.primary.length, s'.inner.length)
      (s.primary.length, s.inner.length) := by
  fun_induction next l text s with
  | case1 offset t' inner primary =>
    cases h
    exact .right _ (Nat.lt_succ_self _)
  | case2 => cases h
  | case3 offset t' primary marked run ih =>
    have hle : run.2.length ≤ primary.length := length_runEnd_le _ _ _
    rcases Prod.lex_def.1 (ih h) with hless | ⟨heq, _⟩
    · exact .left _ _ (Nat.lt_of_lt_of_le hless (Nat.le_succ_of_le hle))
    · refine .left _ _ ?_
      change s'.primary.length < primary.length + 1
      change s'.primary.length = run.2.length at heq
      omega
  | case4 offset t' primary kept =>
    cases h
    exact .left _ _ (Nat.lt_succ_self _)

def drain (l : SplicedLexer) (text : Text) (s : SpanStream) : List Token :=
  match _ : l.next text s with
  | none => []
  | some (t, s') => t :: drain l text s'
termination_by (s.primary.length, s.inner.length)
decreasing_by exact next_less ‹_›

def perSpanTokens (l : SplicedLexer) (text : Text) : List Token :=
  l.drain text ⟨0, [], l.primary.tokens text⟩

end SplicedLexer

/-- The pieces of the tokens that fall into a run of the marked text, from `start` to `stop`, with
the run at `offset` in the text, and the tokens from the first one on that goes on behind the run.
-/
def takeRun (text : Text) (offset start stop : Nat) : List Token → List Token × List Token
  | [] => ([], [])
  | t :: ts =>
    let first := max t.offset start
    let last := min t.stop stop
    let place := offset + (first - start)
    let piece := if first < last then [⟨place, t.kind, text.slice ⟨place, place + (last - first)⟩⟩]
      else []
    if stop < t.stop then (piece, t :: ts)
    else
      let (pieces, rest) := takeRun text offset start stop ts
      (piece ++ pieces, rest)

/-- Puts the tokens of the marked text, which are given for all runs together, in the place of each
run; the text of the runs before begins at offset 0 and ends at `start`. -/
def weave (text : Text) : List Token → Nat → List Segment → List Token
  | _, _, [] => []
  | hosted, start, .kept t :: rest => t :: weave text hosted start rest
  | hosted, start, .marked offset run :: rest =>
    let stop := start + run.size
    let (pieces, hosted) := takeRun text offset start stop hosted
    pieces ++ weave text hosted stop rest

namespace SplicedLexer

def contiguousTokens (l : SplicedLexer) (text : Text) : List Token :=
  let parts := segments l.needle (l.primary.tokens text)
  weave text (l.secondary.tokens (parts.flatMap Segment.markedText)) 0 parts

def toLexer (l : SplicedLexer) : Lexer where
  name := l.name
  tokens text :=
    match l.mode with
    | .perSpan => l.perSpanTokens text
    | .contiguous => l.contiguousTokens text

end SplicedLexer

end Lexing
