import Lexing.Proofs.Lexer.Composed
import Lexing.Proofs.Splice.Pieces

/-!
# Splicing is faithful to both lexers

A spliced text has the tokens of the primary lexer outside the marked text, and inside it those of
the secondary lexer: run by run the tokens of each run, or those of all runs put together, cut at
the borders of the runs. With at most one run there is nothing to cut, and both ways give the same.
-/
set_option autoImplicit false

namespace Lexing

variable {text : Text} {p q : Nat} {needle : Kind} {t : Token} {ts : List Token}

theorem distribute_of_kept {parts : List Segment} (h : parts.filterMap Segment.run? = [])
    (l : SplicedLexer) (start : Nat) : distribute ts start parts = parts.flatMap l.relexed := by
  induction parts generalizing start with
  | nil => rfl
  | cons x parts ih =>
    cases x with
    | kept t => exact congrArg (t :: ·) (ih h start)
    | marked offset run => cases h

theorem distribute_of_single {l : SplicedLexer} (hs : l.secondary.Faithful) {parts : List Segment}
    (h : (parts.filterMap Segment.run?).length ≤ 1) :
    distribute (l.secondary.tokens (parts.flatMap Segment.markedText)) 0 parts =
      parts.flatMap l.relexed := by
  induction parts with
  | nil => rfl
  | cons x parts ih =>
    cases x with
    | kept t => exact congrArg (t :: ·) (ih h)
    | marked offset run =>
      have hrest : parts.filterMap Segment.run? = [] :=
        List.length_eq_zero_iff.1 (Nat.le_zero.1 (Nat.le_of_succ_le_succ h))
      have htext : (Segment.marked offset run :: parts).flatMap Segment.markedText = run := by
        rw [List.flatMap_cons, ← Segment.flatten_runs, hrest]
        exact List.append_nil run
      rw [htext, distribute, Nat.zero_add, (hs run).placed_all.cut_all, distribute_of_kept hrest l,
        List.flatMap_cons, SplicedLexer.relexed]

def covers (ts : List Token) (p : Nat) : Bool := ts.any fun t => decide (t.offset ≤ p ∧ p < t.stop)

/-- The token with its offset counted in the text of the given tokens alone. -/
def Token.within (ts : List Token) (t : Token) : Token :=
  { t with offset := sizeBetween 0 t.offset ts }

/-- The segments stand where the marked tokens say: kept ones outside of them, and each offset of a
run is that offset of the marked text, of which `start` is behind already. -/
def Stands (marked : List Token) : Nat → List Segment → Prop
  | _, [] => True
  | start, .kept t :: rest => covers marked t.offset = false ∧ Stands marked start rest
  | start, .marked offset run :: rest =>
    (∀ d < run.size, covers marked (offset + d) = true ∧
      sizeBetween 0 (offset + d) marked = start + d) ∧ Stands marked (start + run.size) rest

theorem covers_append (xs ys : List Token) (p : Nat) :
    covers (xs ++ ys) p = (covers xs p || covers ys p) := List.any_append

theorem covers_eq_false (h : ∀ t ∈ ts, t.stop ≤ p ∨ p < t.offset) : covers ts p = false := by
  rw [covers, List.any_eq_false]
  intro t ht
  have := h t ht
  rw [decide_eq_true_eq]
  omega

theorem covers_middle {before after : List Token} (hbefore : ∀ u ∈ before, u.stop ≤ t.offset)
    (hafter : ∀ u ∈ after, t.stop ≤ u.offset) {d : Nat} (hd : d < t.text.size) :
    covers (before ++ [t] ++ after) (t.offset + d) = true ∧
      sizeBetween 0 (t.offset + d) (before ++ [t] ++ after) = (joined before).size + d := by
  have hin : t.offset + d < t.stop := Nat.add_lt_add_left hd _
  have hcovers : covers [t] (t.offset + d) = true := by
    simp only [covers, List.any_cons, List.any_nil, Bool.or_false, decide_eq_true_eq]
    omega
  have hthis : sizeBetween 0 (t.offset + d) [t] = d := by
    simp only [sizeBetween]
    omega
  have hbehind : sizeBetween 0 (t.offset + d) before = (joined before).size :=
    sizeBetween_of_stop_le fun u hu => Nat.le_add_right_of_le (hbefore u hu)
  have hahead : sizeBetween 0 (t.offset + d) after = 0 :=
    sizeBetween_of_le_offset fun u hu => Nat.le_trans (Nat.le_of_lt hin) (hafter u hu)
  constructor
  · rw [covers_append, covers_append, hcovers, Bool.or_true, Bool.true_or]
  · rw [sizeBetween_append, sizeBetween_append, hthis, hbehind, hahead, Nat.add_zero]

theorem Stands.cons {marked : List Token} {start : Nat} (ht : t.kind = needle)
    (hthis : ∀ d < t.text.size, covers marked (t.offset + d) = true ∧
      sizeBetween 0 (t.offset + d) marked = start + d)
    (hrest : Stands marked (start + t.text.size) (segments needle ts)) :
    Stands marked start (segments needle (t :: ts)) := by
  rw [segments, if_pos ht]
  split
  · rename_i offset run rest heq
    rw [heq] at hrest
    obtain ⟨hnext, hrest⟩ := hrest
    split
    · rename_i hstop
      refine ⟨fun d hd => ?_, ?_⟩
      · rcases Nat.lt_or_ge d t.text.size with hin | hout
        · exact hthis d hin
        · rw [Text.size_append] at hd
          have hoffset : offset + (d - t.text.size) = t.offset + d := by
            rw [← hstop, Token.stop]
            omega
          obtain ⟨hcovers, hsize⟩ := hnext (d - t.text.size) (by omega)
          rw [hoffset] at hcovers hsize
          exact ⟨hcovers, by omega⟩
      · rw [Text.size_append, ← Nat.add_assoc]
        exact hrest
    · exact ⟨hthis, hnext, hrest⟩
  · exact ⟨hthis, hrest⟩

theorem stands_segments (before : List Token) (h : Placed text p q ts)
    (hbefore : ∀ t ∈ before, t.stop ≤ p) :
    Stands (before ++ markedTokens needle ts) (joined before).size (segments needle ts) := by
  -- `before` are the marked tokens that were met already: they end before what is left begins
  induction ts generalizing p before with
  | nil => trivial
  | cons t ts ih =>
    obtain ⟨hle, hpart, htail⟩ := h
    have hlt := hpart.lt
    have hbehind : ∀ u ∈ before, u.stop ≤ t.offset := fun u hu => Nat.le_trans (hbefore u hu) hle
    have hahead : ∀ u ∈ markedTokens needle ts, t.stop ≤ u.offset := fun u hu =>
      htail.le_offset (List.mem_filter.1 hu).1
    by_cases ht : t.kind = needle
    · have hmarked : markedTokens needle (t :: ts) = [t] ++ markedTokens needle ts := by
        rw [markedTokens, List.filter_cons, if_pos (beq_iff_eq.2 ht)]
        rfl
      rw [hmarked, ← List.append_assoc]
      refine .cons ht (fun d hd => covers_middle hbehind hahead hd) ?_
      have hrest := ih (before ++ [t]) htail fun u hu => by
        rcases List.mem_append.1 hu with hu | hu
        · exact Nat.le_trans (hbehind u hu) (Nat.le_of_lt hlt)
        · rw [List.mem_singleton.1 hu]
      rwa [joined_append, Text.size_append, joined_cons, joined_nil, List.append_nil] at hrest
    · have hmarked : markedTokens needle (t :: ts) = markedTokens needle ts := by
        rw [markedTokens, List.filter_cons, if_neg (by simpa using ht)]
        rfl
      rw [hmarked, segments_of_kept ht]
      refine ⟨?_, ih before htail fun u hu => Nat.le_trans (hbehind u hu) (Nat.le_of_lt hlt)⟩
      rw [covers_append, covers_eq_false fun u hu => .inl (hbehind u hu),
        covers_eq_false fun u hu => .inr (Nat.lt_of_lt_of_le hlt (hahead u hu))]
      rfl

theorem cutTokens_within {marked : List Token} {offset start : Nat} {run : Text}
    (h : ∀ d < run.size, covers marked (offset + d) = true ∧
      sizeBetween 0 (offset + d) marked = start + d) (ts : List Token) :
    (∀ u ∈ cutTokens offset start (start + run.size) ts, covers marked u.offset = true) ∧
      (cutTokens offset start (start + run.size) ts).map (Token.within marked) =
        cutTokens start start (start + run.size) ts := by
  induction ts with
  | nil => exact ⟨fun u hu => absurd hu List.not_mem_nil, rfl⟩
  | cons t ts ih =>
    rw [cutTokens_cons, cutTokens_cons]
    split
    · rename_i hlt
      obtain ⟨hcovers, hsize⟩ := h (max t.offset start - start) (by omega)
      refine ⟨fun u hu => ?_, ?_⟩
      · rcases List.mem_cons.1 hu with rfl | hu
        · exact hcovers
        · exact ih.1 u hu
      · rw [List.map_cons, ih.2, Token.within, hsize]
    · exact ih

theorem distribute_stands {marked : List Token} {start : Nat} {parts : List Segment}
    (h : Stands marked start parts) (ts : List Token) :
    (distribute ts start parts).filter (fun t => !covers marked t.offset) =
        parts.filterMap Segment.kept? ∧
      ((distribute ts start parts).filter fun t => covers marked t.offset).map
          (Token.within marked) =
        cutAll ts start (ends start (parts.filterMap Segment.run?)) := by
  induction parts generalizing start with
  | nil => exact ⟨rfl, rfl⟩
  | cons x parts ih =>
    cases x with
    | kept t =>
      obtain ⟨hout, hrest⟩ := h
      obtain ⟨hkept, hcut⟩ := ih hrest
      rw [distribute, List.filter_cons, List.filter_cons, hout]
      exact ⟨congrArg (t :: ·) hkept, hcut⟩
    | marked offset run =>
      obtain ⟨hrun, hrest⟩ := h
      obtain ⟨hkept, hcut⟩ := ih hrest
      obtain ⟨hcovers, hwithin⟩ := cutTokens_within hrun ts
      have hnone : (cutTokens offset start (start + run.size) ts).filter
          (fun t => !covers marked t.offset) = [] := by
        rw [List.filter_eq_nil_iff]
        intro u hu
        rw [hcovers u hu]
        exact Bool.false_ne_true
      rw [distribute, List.filter_append, List.filter_append, hnone,
        List.filter_eq_self.2 hcovers, List.map_append, hwithin, hcut]
      exact ⟨hkept, rfl⟩

namespace SplicedLexer

theorem perSpan_tokens {l : SplicedLexer} (hp : l.primary.Faithful) (text : Text) :
    ({ l with mode := .perSpan } : SplicedLexer).toLexer.tokens text =
      (segments l.needle (l.primary.tokens text)).flatMap l.relexed :=
  perSpanTokens_eq (hp text).placed_all

theorem contiguous_tokens {l : SplicedLexer} (hp : l.primary.Faithful)
    (hs : l.secondary.Faithful) (text : Text) :
    ({ l with mode := .contiguous } : SplicedLexer).toLexer.tokens text =
      distribute (l.secondary.tokens
          ((segments l.needle (l.primary.tokens text)).flatMap Segment.markedText))
        0 (segments l.needle (l.primary.tokens text)) :=
  contiguousTokens_eq (hp text).placed_all (hs _).placed_all

/-- Run by run: every maximal run of marked tokens is replaced by what the secondary lexer makes of
it, and nothing else is changed. With at most one run, lexing all runs as one text is the same. -/
theorem perSpan_relexes_runs (l : SplicedLexer) (hp : l.primary.Faithful)
    (hs : l.secondary.Faithful) (text : Text) :
    let ts := l.primary.tokens text
    let perSpan := ({ l with mode := .perSpan } : SplicedLexer).toLexer.tokens text
    perSpan = (runs l.needle ts).flatMap l.relex ∧
      ((markedRuns l.needle ts).length ≤ 1 →
        ({ l with mode := .contiguous } : SplicedLexer).toLexer.tokens text = perSpan) := by
  intro ts perSpan
  have hperSpan : perSpan = (segments l.needle ts).flatMap l.relexed := perSpan_tokens hp text
  refine ⟨hperSpan.trans (flatMap_relexed l ts), fun hsingle => ?_⟩
  rw [← List.length_map joined, ← runs_segments] at hsingle
  rw [contiguous_tokens hp hs, hperSpan]
  exact distribute_of_single hs hsingle

/-- Which marks every letter outside of tags on its own. -/
def tags : Grammar :=
  (Grammar.empty "tags" .standard).define "root"
    [.rule "<[a-z]*>" (.kind .text) .stay, .rule "[a-z]" (.kind .other) .stay]

def words : Grammar :=
  (Grammar.empty "words" .standard).define "root" [.rule "[a-z]+" (.kind .text) .stay]

theorem faithful_of_kinds {g : Grammar} {m : Machine} (built : g.build false = .ok m)
    (h : ∀ a ∈ g.actions, ∃ k, a = .kind k) : m.toLexer.Faithful := by
  refine (Lexer.Composed.machine built (fun emit hmem => ?_) fun l hl => ?_).faithful
  · obtain ⟨k, hk⟩ := h _ hmem
    cases hk
  · obtain ⟨a, ha, hl⟩ := List.mem_flatMap.1 hl
    obtain ⟨k, rfl⟩ := h a ha
    cases hl

theorem faithful_tags {m : Machine} (built : tags.build false = .ok m) : m.toLexer.Faithful := by
  refine faithful_of_kinds built fun a ha => ?_
  change a ∈ [Action.kind .text, .kind .other] at ha
  simp only [List.mem_cons, List.not_mem_nil, or_false] at ha
  rcases ha with rfl | rfl <;> exact ⟨_, rfl⟩

theorem faithful_words {m : Machine} (built : words.build false = .ok m) :
    m.toLexer.Faithful := by
  refine faithful_of_kinds built fun a ha => ?_
  change a ∈ [Action.kind .text] at ha
  exact ⟨_, List.mem_singleton.1 ha⟩

theorem perSpan_relexes_runs_tags : ∃ m m', tags.build false = .ok m ∧ words.build false = .ok m' ∧
    ∀ mode, (⟨"tags+words", m.toLexer, m'.toLexer, .other, mode⟩ : SplicedLexer).toLexer.tokens
        ['<', '>', 'a', 'b', '<', '>'] =
      [⟨0, .text, ['<', '>']⟩, ⟨2, .text, ['a', 'b']⟩, ⟨4, .text, ['<', '>']⟩] := by
  have found : (tags.build false).toOption.any (fun m => (words.build false).toOption.any fun m' =>
      let l : SplicedLexer := ⟨"tags+words", m.toLexer, m'.toLexer, .other, .perSpan⟩
      let ts := m.tokens ['<', '>', 'a', 'b', '<', '>']
      decide ((runs .other ts).flatMap l.relex =
          [⟨0, .text, ['<', '>']⟩, ⟨2, .text, ['a', 'b']⟩, ⟨4, .text, ['<', '>']⟩] ∧
        (markedRuns .other ts).length ≤ 1)) = true := by decide +kernel
  obtain ⟨m, built, found⟩ := exists_of_any found
  obtain ⟨m', built', found⟩ := exists_of_any found
  obtain ⟨htokens, hsingle⟩ := of_decide_eq_true found
  obtain ⟨hruns, hsame⟩ := perSpan_relexes_runs
    ⟨"tags+words", m.toLexer, m'.toLexer, .other, .perSpan⟩
    (faithful_tags built) (faithful_words built') ['<', '>', 'a', 'b', '<', '>']
  refine ⟨m, m', built, built', fun mode => ?_⟩
  cases mode with
  | perSpan => exact hruns.trans htokens
  | contiguous => exact (hsame hsingle).trans (hruns.trans htokens)

/-- All runs as one text: the tokens that are not marked are kept, in order. The others, with their
offsets counted in the marked text, are the tokens of the secondary lexer, cut where a run ends. The
pieces of such a token are of its kind and give it back. -/
theorem contiguous_cuts_runs (l : SplicedLexer) (hp : l.primary.Faithful)
    (hs : l.secondary.Faithful) (text : Text) :
    let ts := l.primary.tokens text
    let marked := markedTokens l.needle ts
    let hosted := l.secondary.tokens (joined marked)
    let borders := ends 0 ((markedRuns l.needle ts).map joined)
    let out := ({ l with mode := .contiguous } : SplicedLexer).toLexer.tokens text
    Tiles 0 text out ∧
      out.filter (fun t => !covers marked t.offset) = ts.filter (fun t => t.kind != l.needle) ∧
      (out.filter fun t => covers marked t.offset).map (Token.within marked) =
        hosted.flatMap (Token.cutAt borders) ∧
      ∀ t ∈ hosted,
        rejoined? (t.cutAt borders) = some t ∧ ∀ u ∈ t.cutAt borders, u.kind = t.kind := by
  intro ts marked hosted borders out
  have hplaced : Placed text 0 text.size ts := (hp text).placed_all
  have hhosted : Placed (joined marked) 0 (Text.size (joined marked)) hosted :=
    (hs (joined marked)).placed_all
  have hborders : Borders (joined marked) 0 borders := by
    refine borders_ends [] ?_
    rw [← runs_segments, Segment.flatten_runs, markedText_segments]
    rfl
  have hout : out = distribute hosted 0 (segments l.needle ts) := by
    change out = distribute (l.secondary.tokens (joined (markedTokens l.needle ts))) 0 _
    rw [← markedText_segments]
    exact contiguous_tokens hp hs text
  have hstands : Stands marked 0 (segments l.needle ts) :=
    stands_segments [] hplaced fun t ht => absurd ht List.not_mem_nil
  obtain ⟨hkept, hcut⟩ := distribute_stands hstands hosted
  refine ⟨?_, ?_, ?_, fun t ht => ⟨?_, fun u hu => Token.kind_of_mem_cutAt hu⟩⟩
  · exact (contiguousTokens_spec l text hplaced (hs _).placed_all).2.2 ⟨hp text, hs _⟩
  · rw [hout, hkept, kept_segments]
  · rw [hout, hcut, runs_segments]
    exact cutAll_eq_flatMap hhosted (Text.boundary_zero _) (Nat.le_refl _) hborders
  · exact (hhosted.isPart ht).rejoined_cutAt fun b hb => (hborders.boundary b hb).2

/-- One word goes through a tag; its pieces have their places in the word. -/
theorem contiguous_cuts_runs_tags : ∃ m m', tags.build false = .ok m ∧ words.build false = .ok m' ∧
    let ts := m.tokens ['a', 'b', '<', '>', 'c']
    let l : SplicedLexer := ⟨"tags+words", m.toLexer, m'.toLexer, .other, .contiguous⟩
    m'.tokens (joined (markedTokens .other ts)) = [⟨0, .text, ['a', 'b', 'c']⟩] ∧
      ((l.toLexer.tokens ['a', 'b', '<', '>', 'c']).filter fun t =>
          covers (markedTokens .other ts) t.offset).map (Token.within (markedTokens .other ts)) =
        [⟨0, .text, ['a', 'b']⟩, ⟨2, .text, ['c']⟩] := by
  have found : (tags.build false).toOption.any (fun m => (words.build false).toOption.any fun m' =>
      let ts := m.tokens ['a', 'b', '<', '>', 'c']
      let hosted := m'.tokens (joined (markedTokens .other ts))
      decide (hosted = [⟨0, .text, ['a', 'b', 'c']⟩] ∧
        hosted.flatMap (Token.cutAt (ends 0 ((markedRuns .other ts).map joined))) =
          [⟨0, .text, ['a', 'b']⟩, ⟨2, .text, ['c']⟩])) = true := by decide +kernel
  obtain ⟨m, built, found⟩ := exists_of_any found
  obtain ⟨m', built', found⟩ := exists_of_any found
  obtain ⟨hhosted, hpieces⟩ := of_decide_eq_true found
  obtain ⟨_, _, hcut, _⟩ := contiguous_cuts_runs
    ⟨"tags+words", m.toLexer, m'.toLexer, .other, .contiguous⟩
    (faithful_tags built) (faithful_words built') ['a', 'b', '<', '>', 'c']
  exact ⟨m, m', built, built', hhosted, hcut.trans hpieces⟩

end SplicedLexer

end Lexing
