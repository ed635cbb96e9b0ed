import Lexing.Proofs.Splice.Segments

/-!
# Runs that are lexed on their own

The stream of single runs gives the tokens of the primary lexer with each run replaced by what the
secondary lexer makes of it. That the stream pauses inside a run, and looks ahead for where a run
ends, cannot be seen in its tokens.
-/
set_option autoImplicit false

namespace Lexing

variable {text : Text} {p q : Nat}

theorem Placed.runEnd {ts : List Token} (h : Placed text p q ts) (needle : Kind) (stop : Nat) :
    Placed text p q (Lexing.runEnd needle stop ts).2 := by
  induction ts generalizing p stop with
  | nil => exact h
  | cons t ts ih =>
    obtain ⟨hle, hpart, htail⟩ := h
    simp only [Lexing.runEnd]
    split
    · exact (ih htail t.stop).mono (Nat.le_trans hle (Nat.le_of_lt hpart.lt)) (Nat.le_refl _)
    · exact ⟨hle, hpart, htail⟩

namespace SplicedLexer

variable {l : SplicedLexer} {s s' : SpanStream} {t : Token}

/-- What takes the place of a run. -/
def relex (l : SplicedLexer) : List Token → List Token
  | [] => []
  | t :: ts =>
    if t.kind = l.needle then (l.secondary.tokens (joined (t :: ts))).map (·.shift t.offset)
    else t :: ts

def relexed (l : SplicedLexer) : Segment → List Token
  | .kept t => [t]
  | .marked offset run => (l.secondary.tokens run).map (·.shift offset)

theorem flatMap_relexed (l : SplicedLexer) (ts : List Token) :
    (segments l.needle ts).flatMap l.relexed = (runs l.needle ts).flatMap l.relex := by
  induction ts using runs_induction l.needle with
  | nil => rfl
  | kept t ts ht ih =>
    rw [segments_of_kept ht, runs_of_kept ht, List.flatMap_cons, List.flatMap_cons, ih, relex,
      if_neg ht, relexed]
  | marked t ts ht ih =>
    rw [segments_of_marked ht, runs_of_marked ht, List.flatMap_cons, List.flatMap_cons, ih, relex,
      if_pos ht, relexed, joined_cons]

theorem drain_of_none (h : l.next text s = none) : l.drain text s = [] := by
  rw [drain]
  split
  · rfl
  · rename_i heq
    rw [h] at heq
    cases heq

theorem drain_of_some (h : l.next text s = some (t, s')) :
    l.drain text s = t :: l.drain text s' := by
  rw [drain]
  split
  · rename_i heq
    rw [h] at heq
    cases heq
  · rename_i heq
    rw [h] at heq
    cases heq
    rfl

theorem drain_congr (h : l.next text s = l.next text s') : l.drain text s = l.drain text s' := by
  cases hs' : l.next text s' with
  | none => rw [drain_of_none (h.trans hs'), drain_of_none hs']
  | some step => rw [drain_of_some (h.trans hs'), drain_of_some hs']

theorem drain_inner (offset : Nat) (inner primary : List Token) :
    l.drain text ⟨offset, inner, primary⟩ =
      inner.map (·.shift offset) ++ l.drain text ⟨offset, [], primary⟩ := by
  induction inner with
  | nil => rfl
  | cons t inner ih =>
    have hnext : l.next text ⟨offset, t :: inner, primary⟩ =
        some (t.shift offset, ⟨offset, inner, primary⟩) := by rw [next]
    rw [drain_of_some hnext, ih]
    rfl

/-- Between two runs it does not matter where the last one was. -/
theorem drain_eq_relex {ts : List Token} (h : Placed text p q ts) (offset : Nat) :
    l.drain text ⟨offset, [], ts⟩ = (runs l.needle ts).flatMap l.relex := by
  induction ts using runs_induction l.needle generalizing p offset with
  | nil => exact drain_of_none (by rw [next])
  | kept t ts ht ih =>
    have hnext : l.next text ⟨offset, [], t :: ts⟩ = some (t, ⟨offset, [], ts⟩) := by
      rw [next, if_neg ht]
    rw [drain_of_some hnext, ih h.2.2, runs_of_kept ht, List.flatMap_cons, relex, if_neg ht]
    rfl
  | marked t ts ht ih =>
    have hparts := segments_placed l.needle h
    rw [segments_of_marked ht] at hparts
    have hrun : t.text ++ joined (runTail l.needle t.stop ts) =
        text.slice ⟨t.offset, (runEnd l.needle t.stop ts).1⟩ := by
      have hstop : (runEnd l.needle t.stop ts).1 =
          Token.stop ⟨t.offset, l.needle, t.text ++ joined (runTail l.needle t.stop ts)⟩ := by
        rw [runEnd_fst]
        simp only [Token.stop, Text.size_append, Nat.add_assoc]
      rw [hstop]
      exact hparts.2.1.eq_slice
    have hnext : l.next text ⟨offset, [], t :: ts⟩ =
        l.next text ⟨t.offset, l.secondary.tokens (joined (t :: runTail l.needle t.stop ts)),
          (runEnd l.needle t.stop ts).2⟩ := by
      rw [next, if_pos ht, joined_cons, hrun]
    rw [drain_congr hnext, drain_inner, ih (h.2.2.runEnd l.needle t.stop), runs_of_marked ht,
      List.flatMap_cons, relex, if_pos ht]

theorem perSpanTokens_eq (h : Placed text p q (l.primary.tokens text)) :
    l.perSpanTokens text = (segments l.needle (l.primary.tokens text)).flatMap l.relexed := by
  rw [perSpanTokens, drain_eq_relex h, flatMap_relexed]

end SplicedLexer

end Lexing
