import Mathlib.Data.List.SplitBy
import Lexing.Proofs.Token.Tiling
import Lexing.Splice

/-!
# Runs of marked tokens

`runs` splits the tokens of a primary lexer into its maximal runs of adjacent marked tokens, with
each other token on its own. Both ways of splicing find these runs: a stream goes on with a run as
long as the next token belongs to it, and the segments are the runs with the text of each in one
piece. Marked runs are segments of the text just as the kept tokens are.
-/
set_option autoImplicit false

namespace Lexing

variable {text : Text} {p q : Nat} {needle : Kind} {t : Token} {ts : List Token}

/-- Both tokens are marked, and one begins where the other ends. -/
def adjacent (needle : Kind) (a b : Token) : Bool :=
  a.kind == needle && b.kind == needle && a.stop == b.offset

def runs (needle : Kind) (ts : List Token) : List (List Token) := ts.splitBy (adjacent needle)

def markedRuns (needle : Kind) (ts : List Token) : List (List Token) :=
  (runs needle ts).filter fun run => run.all fun t => t.kind == needle

def markedTokens (needle : Kind) (ts : List Token) : List Token :=
  ts.filter fun t => t.kind == needle

/-- The tokens that go on with a run that has come to `stop`. -/
def runTail (needle : Kind) (stop : Nat) : List Token → List Token
  | [] => []
  | t :: ts => if t.kind = needle ∧ t.offset = stop then t :: runTail needle t.stop ts else []

theorem runTail_append (needle : Kind) (stop : Nat) (ts : List Token) :
    runTail needle stop ts ++ (runEnd needle stop ts).2 = ts := by
  induction ts generalizing stop with
  | nil => rfl
  | cons t ts ih =>
    simp only [runTail, runEnd]
    split
    · rw [List.cons_append, ih]
    · rfl

theorem cons_runTail_append (needle : Kind) (t : Token) (ts : List Token) :
    (t :: runTail needle t.stop ts) ++ (runEnd needle t.stop ts).2 = t :: ts := by
  rw [List.cons_append, runTail_append]

theorem runEnd_fst (needle : Kind) (stop : Nat) (ts : List Token) :
    (runEnd needle stop ts).1 = stop + (joined (runTail needle stop ts)).size := by
  induction ts generalizing stop with
  | nil => rfl
  | cons t ts ih =>
    simp only [runTail, runEnd]
    split
    · rename_i hnext
      rw [ih, joined_cons, Text.size_append, ← Nat.add_assoc, ← hnext.2]
      rfl
    · rfl

theorem kind_of_mem_runTail {stop : Nat} (h : t ∈ runTail needle stop ts) : t.kind = needle := by
  induction ts generalizing stop with
  | nil => cases h
  | cons u ts ih =>
    simp only [runTail] at h
    split at h
    · rename_i hnext
      rcases List.mem_cons.1 h with rfl | h
      · exact hnext.1
      · exact ih h
    · cases h

theorem isChain_runTail (ht : t.kind = needle) (ts : List Token) :
    (t :: runTail needle t.stop ts).IsChain fun a b => adjacent needle a b := by
  induction ts generalizing t with
  | nil => exact List.isChain_singleton t
  | cons u ts ih =>
    simp only [runTail]
    split
    · rename_i hnext
      refine List.isChain_cons_cons.2 ⟨?_, ih hnext.1⟩
      simp only [adjacent, ht, hnext, beq_self_eq_true, Bool.and_self]
    · exact List.isChain_singleton t

theorem not_adjacent_runEnd (ht : t.kind = needle) (ts : List Token) :
    ∀ x ∈ (t :: runTail needle t.stop ts).getLast?, ∀ y ∈ (runEnd needle t.stop ts).2.head?,
      adjacent needle x y = false := by
  induction ts generalizing t with
  | nil =>
    intro x _ y hy
    cases hy
  | cons u ts ih =>
    simp only [runTail, runEnd]
    split
    · rename_i hnext
      rw [List.getLast?_cons_cons]
      exact ih hnext.1
    · rename_i hother
      intro x hx y hy
      rw [List.getLast?_singleton] at hx
      obtain rfl := Option.some.inj hx
      obtain rfl := Option.some.inj hy
      simp only [adjacent, Bool.and_eq_false_iff, beq_eq_false_iff_ne]
      by_contra hall
      push Not at hall
      exact hother ⟨hall.1.2, hall.2.symm⟩

theorem runs_of_marked (ht : t.kind = needle) (ts : List Token) :
    runs needle (t :: ts) =
      (t :: runTail needle t.stop ts) :: runs needle (runEnd needle t.stop ts).2 := by
  rw [runs, ← cons_runTail_append needle t ts, List.splitBy_append (not_adjacent_runEnd ht ts),
    List.splitBy_of_isChain (List.cons_ne_nil _ _) (isChain_runTail ht ts)]
  rfl

theorem runs_of_kept (ht : t.kind ≠ needle) (ts : List Token) :
    runs needle (t :: ts) = [t] :: runs needle ts := by
  have hother : ∀ x ∈ [t].getLast?, ∀ y ∈ ts.head?, adjacent needle x y = false := by
    intro x hx y _
    rw [List.getLast?_singleton] at hx
    obtain rfl := Option.some.inj hx
    simp only [adjacent, beq_eq_false_iff_ne.2 ht, Bool.false_and]
  rw [runs, ← List.singleton_append, List.splitBy_append hother,
    List.splitBy_of_isChain (List.cons_ne_nil _ _) (List.isChain_singleton t)]
  rfl

theorem runs_induction {motive : List Token → Prop} (needle : Kind) (nil : motive [])
    (kept : ∀ t ts, t.kind ≠ needle → motive ts → motive (t :: ts))
    (marked : ∀ t ts, t.kind = needle → motive (runEnd needle t.stop ts).2 → motive (t :: ts))
    (ts : List Token) : motive ts := by
  induction hn : ts.length using Nat.strongRecOn generalizing ts with
  | ind n ih =>
    cases ts with
    | nil => exact nil
    | cons t ts =>
      subst hn
      by_cases ht : t.kind = needle
      · exact marked t ts ht (ih _ (Nat.lt_succ_of_le (length_runEnd_le _ _ _)) _ rfl)
      · exact kept t ts ht (ih _ (Nat.lt_succ_self _) _ rfl)

theorem segments_of_kept (ht : t.kind ≠ needle) (ts : List Token) :
    segments needle (t :: ts) = .kept t :: segments needle ts := by
  rw [segments, if_neg ht]

theorem segments_of_marked (ht : t.kind = needle) (ts : List Token) :
    segments needle (t :: ts) =
      .marked t.offset (t.text ++ joined (runTail needle t.stop ts)) ::
        segments needle (runEnd needle t.stop ts).2 := by
  induction ts generalizing t with
  | nil => simp [segments, ht, runTail, runEnd]
  | cons u ts ih =>
    rw [segments, if_pos ht]
    by_cases hu : u.kind = needle
    · rw [ih hu]
      by_cases hnext : u.offset = t.stop
      · simp only [runTail, runEnd, hu, hnext, and_self, if_true, joined_cons]
      · simp only [runTail, runEnd, hnext, and_false, if_false, Ne.symm hnext, ih hu, joined_nil,
          List.append_nil]
    · simp only [segments_of_kept hu, runTail, runEnd, hu, false_and, if_false, joined_nil,
        List.append_nil]

theorem markedText_segments (needle : Kind) (ts : List Token) :
    (segments needle ts).flatMap Segment.markedText = joined (markedTokens needle ts) := by
  induction ts with
  | nil => rfl
  | cons t ts ih =>
    rw [markedTokens, List.filter_cons]
    by_cases ht : t.kind = needle
    · rw [if_pos (beq_iff_eq.2 ht), joined_cons, ← markedTokens, ← ih, segments, if_pos ht]
      split
      · rename_i offset run rest heq
        rw [heq]
        split
        · simp only [List.flatMap_cons, Segment.markedText, List.append_assoc]
        · simp only [List.flatMap_cons, Segment.markedText]
      · rfl
    · rw [if_neg (by simpa using ht), segments_of_kept ht]
      exact ih

/-- A segment as one token, with the needle as the kind of a marked run. -/
def Segment.token (needle : Kind) : Segment → Token
  | kept t => t
  | marked offset run => ⟨offset, needle, run⟩

theorem Token.IsPart.join {t : Token} {offset : Nat} {k k' : Kind} {run : Text}
    (h : t.IsPart text) (h' : Token.IsPart ⟨offset, k, run⟩ text) (heq : t.stop = offset) :
    Token.IsPart ⟨t.offset, k', t.text ++ run⟩ text := by
  subst heq
  have hstop : Token.stop ⟨t.offset, k', t.text ++ run⟩ = Token.stop ⟨t.stop, k, run⟩ := by
    simp only [Token.stop, Text.size_append, Nat.add_assoc]
  refine ⟨h.start, hstop ▸ h'.stop, ?_, ?_⟩
  · exact List.append_ne_nil_of_left_ne_nil h.ne_nil run
  · rw [hstop]
    have hparts := Text.slice_append_slice h.start h.stop h'.stop (Nat.le_of_lt h.lt)
      (Nat.le_of_lt h'.lt)
    rw [← h.eq_slice, ← h'.eq_slice] at hparts
    exact hparts

theorem Token.IsPart.of_text {t : Token} {k : Kind} (h : t.IsPart text) :
    Token.IsPart ⟨t.offset, k, t.text⟩ text :=
  ⟨h.start, h.stop, h.ne_nil, h.eq_slice⟩

theorem segments_placed (needle : Kind) {ts : List Token} (h : Placed text p q ts) :
    Placed text p q ((segments needle ts).map (Segment.token needle)) := by
  induction ts generalizing p with
  | nil => exact h
  | cons t ts ih =>
    obtain ⟨hle, hpart, htail⟩ := h
    have hrest := ih htail
    simp only [segments]
    split
    · split
      · rename_i offset run rest heq
        rw [heq] at hrest
        split
        · rename_i hstop
          obtain ⟨_, hnext, hthose⟩ := hrest
          refine ⟨hle, hpart.join hnext hstop, ?_⟩
          have hsame : Token.stop (Segment.token needle (.marked t.offset (t.text ++ run))) =
              Token.stop (Segment.token needle (.marked offset run)) := by
            simp only [Segment.token, Token.stop, Text.size_append, ← hstop, Nat.add_assoc]
          rw [hsame]
          exact hthose
        · exact ⟨hle, hpart.of_text, hrest⟩
      · exact ⟨hle, hpart.of_text, hrest⟩
    · exact ⟨hle, hpart, hrest⟩

theorem joined_segments (ts : List Token) :
    joined ((segments needle ts).map (Segment.token needle)) = joined ts := by
  induction ts with
  | nil => rfl
  | cons t ts ih =>
    rw [joined_cons, ← ih]
    simp only [segments]
    split
    · split
      · rename_i offset run rest heq
        rw [heq]
        split
        · simp only [List.map_cons, joined_cons, Segment.token, List.append_assoc]
        · rfl
      · rfl
    · rfl

theorem segments_tiles_iff {ts : List Token} (h : Placed text 0 text.size ts) :
    Tiles 0 text ((segments needle ts).map (Segment.token needle)) ↔ Tiles 0 text ts := by
  have hs := (segments_placed needle h).tiles_iff text.boundary_zero text.boundary_size
  have ht := h.tiles_iff text.boundary_zero text.boundary_size
  rw [Text.slice_all] at hs ht
  rw [hs, ht, joined_segments]

namespace Segment

def run? : Segment → Option Text
  | kept _ => none
  | marked _ run => some run

def kept? : Segment → Option Token
  | kept t => some t
  | marked _ _ => none

theorem flatten_runs (parts : List Segment) :
    (parts.filterMap run?).flatten = parts.flatMap markedText := by
  induction parts with
  | nil => rfl
  | cons x parts ih =>
    cases x with
    | kept t => exact ih
    | marked offset run => exact congrArg (run ++ ·) ih

end Segment

theorem runs_segments (needle : Kind) (ts : List Token) :
    (segments needle ts).filterMap Segment.run? = (markedRuns needle ts).map joined := by
  induction ts using runs_induction needle with
  | nil => rfl
  | kept t ts ht ih =>
    have hother : ([t].all fun u => u.kind == needle) = false := by simpa using ht
    rw [segments_of_kept ht, markedRuns, runs_of_kept ht, List.filter_cons, hother]
    exact ih
  | marked t ts ht ih =>
    have hall : ((t :: runTail needle t.stop ts).all fun u => u.kind == needle) = true := by
      rw [List.all_eq_true]
      intro u hu
      rcases List.mem_cons.1 hu with rfl | hu
      · exact beq_iff_eq.2 ht
      · exact beq_iff_eq.2 (kind_of_mem_runTail hu)
    rw [segments_of_marked ht, markedRuns, runs_of_marked ht, List.filter_cons, hall, if_pos rfl]
    exact congrArg (_ :: ·) ih

theorem kept_segments (needle : Kind) (ts : List Token) :
    (segments needle ts).filterMap Segment.kept? = ts.filter fun t => t.kind != needle := by
  induction ts using runs_induction needle with
  | nil => rfl
  | kept t ts ht ih =>
    rw [segments_of_kept ht, List.filter_cons, if_pos (by simpa using ht), ← ih]
    rfl
  | marked t ts ht ih =>
    have hnone : ((t :: runTail needle t.stop ts).filter fun u => u.kind != needle) = [] := by
      rw [List.filter_eq_nil_iff]
      intro u hu
      rcases List.mem_cons.1 hu with rfl | hu
      · simpa using ht
      · simpa using kind_of_mem_runTail hu
    rw [segments_of_marked ht, ← cons_runTail_append needle t ts, List.filter_append, hnone]
    exact ih

end Lexing
