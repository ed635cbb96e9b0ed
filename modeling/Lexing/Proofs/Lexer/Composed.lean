import Lexing.Proofs.Run.Tiling
import Lexing.Proofs.Splice.Tiling

/-!
# Composed lexers

A lexer is composed if it is a machine, all of whose delegates are composed, or is spliced from two
composed lexers. The tokens of a composed lexer are parts of the text, in order. They tile it unless
some callback in it moves the offset at which a run stops. Both go by induction on the composition
and, within a machine, on the levels of nested runs that are left.
-/
set_option autoImplicit false

namespace Lexing

def Lexer.Orderly (l : Lexer) : Prop := ∀ text, Placed text 0 text.size (l.tokens text)

/-- The lexer is put together from machines, with grammars that fulfil `p`, and spliced lexers. -/
inductive Lexer.Composed (p : Grammar → Prop) : Lexer → Prop
  | machine {g : Grammar} {steering : Bool} {m : Machine} (built : g.build steering = .ok m)
      (holds : p g) (delegates : ∀ l, .lexer l ∈ g.delegates → Composed p l) :
      Composed p m.toLexer
  | spliced {l : SplicedLexer} (primary : Composed p l.primary)
      (secondary : Composed p l.secondary) : Composed p l.toLexer

/-- What lexes a text: a run from a stack, with so many levels of runs inside it, or a lexer. -/
inductive Task
  | run (m : Machine) (levels : Nat) (stack : Stack StateRef)
  | lexer (l : Lexer)

def Task.tokens : Task → Text → List Token
  | run m levels stack, text => m.nestedTokens Stack.sameShape levels text stack
  | lexer l, text => l.tokens text

def Delegate.task (m : Machine) (levels : Nat) : Delegate (Stack StateRef) → Task
  | self stack => .run m levels stack
  | lexer l => .lexer l

variable {g : Grammar} {steering : Bool} {m : Machine} {levels : Nat} {text : Text} {s : Span}
  {d : Delegate (Stack StateRef)}

theorem delegated_eq (m : Machine) (levels : Nat) (text : Text) (s : Span)
    (d : Delegate (Stack StateRef)) :
    delegated (m.nestedTokens Stack.sameShape levels) text s d =
      ((d.task m levels).tokens (text.slice s)).map (·.shift s.start) := by
  cases d <;> rfl

theorem delegated_placed {start stop : Nat} (hs : s.Inside text start stop)
    (h : Placed (text.slice s) 0 (text.slice s).size ((d.task m levels).tokens (text.slice s))) :
    Placed text s.start s.stop (delegated (m.nestedTokens Stack.sameShape levels) text s d) := by
  rw [delegated_eq]
  exact h.moved hs.boundary_start hs.boundary_stop (Nat.le_of_lt hs.lt)

theorem delegated_tiles_iff :
    Tiles s.start (text.slice s) (delegated (m.nestedTokens Stack.sameShape levels) text s d) ↔
      Tiles 0 (text.slice s) ((d.task m levels).tokens (text.slice s)) := by
  rw [delegated_eq]
  exact tiles_moved

theorem Span.Inside.ne_nil {start stop : Nat} (h : s.Inside text start stop) :
    text.slice s ≠ [] := by
  have hlt := h.lt
  rw [Ne, Text.slice_eq_nil h.boundary_start h.boundary_stop (Nat.le_of_lt hlt)]
  omega

namespace Machine

/-- What holds of the lexers that a machine hands text to and of text that is cut off, and of a run
if it holds of all that the run can hand text to, holds of every run of the machine and of all that
its runs hand text to, by induction on the levels that are left. -/
theorem task_induction (m : Machine) {motive : Task → Text → Prop}
    (cut : ∀ stack text, text ≠ [] → motive (.run m 0 stack) text)
    (lexer : ∀ l text, m.HandsTo (.lexer l) → motive (.lexer l) text)
    (run : ∀ levels stack (text : Text),
      (∀ d text, m.HandsTo d → text ≠ [] → motive (d.task m levels) text) →
        motive (.run m (levels + 1) stack) text) :
    (∀ levels d text, m.HandsTo d → text ≠ [] → motive (d.task m levels) text) ∧
      ∀ levels stack text, motive (.run m (levels + 1) stack) text := by
  have htasks : ∀ levels d text, m.HandsTo d → text ≠ [] → motive (d.task m levels) text := by
    intro levels
    induction levels with
    | zero =>
      intro d text hd hne
      cases d with
      | self stack => exact cut stack text hne
      | lexer l => exact lexer l text hd
    | succ levels ih =>
      intro d text hd _
      cases d with
      | self stack => exact run levels stack text ih
      | lexer l => exact lexer l text hd
  exact ⟨htasks, fun levels stack text => run levels stack text (htasks levels)⟩

theorem run_placed (quiet : m.Quiet) (stack : Stack StateRef)
    (h : ∀ d (text : Text), m.HandsTo d → text ≠ [] →
      Placed text 0 text.size ((d.task m levels).tokens text)) :
    Placed text 0 text.size ((Task.run m (levels + 1) stack).tokens text) := by
  refine (nestedTokens_spec quiet fun s d hhands => ?_).1
  have hin := hhands.inside (Config.sound_start text stack)
  exact delegated_placed hin (h d _ hhands.handsTo hin.ne_nil)

theorem tasks_placed (built : g.build steering = .ok m)
    (orderly : ∀ l, .lexer l ∈ g.delegates → l.Orderly) :
    (∀ levels d (text : Text), m.HandsTo d → text ≠ [] →
      Placed text 0 text.size ((d.task m levels).tokens text)) ∧
      ∀ levels stack (text : Text),
        Placed text 0 text.size ((Task.run m (levels + 1) stack).tokens text) := by
  refine m.task_induction (motive := fun t text => Placed text 0 text.size (t.tokens text)) ?_ ?_ ?_
  · intro stack text hne
    exact (tiles_single .error hne).placed_all
  · intro l text hd
    exact orderly l (lexer_of_handsTo built hd) text
  · intro levels stack text h
    exact run_placed (quiet_of_build built) stack h

end Machine

theorem Lexer.Composed.orderly {p : Grammar → Prop} {l : Lexer} (h : l.Composed p) : l.Orderly := by
  induction h with
  | @machine g _ m built _ _ ih =>
    exact (Machine.tasks_placed built ih).2 maxNesting (.single (.named m.root))
  | @spliced l _ _ ih ih' =>
    intro text
    simp only [SplicedLexer.toLexer]
    split
    · exact (l.perSpanTokens_spec text (ih text) fun _ run _ => ih' run).1
    · exact (l.contiguousTokens_spec text (ih text) (ih' _)).1

namespace Machine

theorem run_tiles (built : g.build steering = .ok m) (keeps : g.KeepsStop) (stack : Stack StateRef)
    (h : ∀ d (text : Text), m.HandsTo d → text ≠ [] →
      Tiles 0 text ((d.task m levels).tokens text)) :
    Tiles 0 text ((Task.run m (levels + 1) stack).tokens text) := by
  have hs := Config.sound_start text stack
  refine (nestedTokens_spec (quiet_of_build built) fun s d hhands => ?_).2.2
    ⟨stop_last built keeps hs, fun s d hhands => ?_⟩
  · have hin := hhands.inside hs
    exact delegated_placed hin (h d _ hhands.handsTo hin.ne_nil).placed_all
  · exact delegated_tiles_iff.2 (h d _ hhands.handsTo (hhands.inside hs).ne_nil)

theorem tasks_tile (built : g.build steering = .ok m) (keeps : g.KeepsStop)
    (faithful : ∀ l, .lexer l ∈ g.delegates → l.Faithful) :
    (∀ levels d text, m.HandsTo d → text ≠ [] → Tiles 0 text ((d.task m levels).tokens text)) ∧
      ∀ levels stack text, Tiles 0 text ((Task.run m (levels + 1) stack).tokens text) := by
  refine m.task_induction (motive := fun t text => Tiles 0 text (t.tokens text)) ?_ ?_ ?_
  · intro stack text hne
    exact tiles_single .error hne
  · intro l text hd
    exact faithful l (lexer_of_handsTo built hd) text
  · intro levels stack text h
    exact run_tiles built keeps stack h

end Machine

theorem Lexer.Composed.faithful {l : Lexer} (h : l.Composed Grammar.KeepsStop) : l.Faithful := by
  induction h with
  | @machine g _ m built keeps _ ih =>
    exact (Machine.tasks_tile built keeps ih).2 maxNesting (.single (.named m.root))
  | @spliced l primary secondary ih ih' =>
    intro text
    simp only [SplicedLexer.toLexer]
    split
    · exact (l.perSpanTokens_spec text (primary.orderly text) fun _ run _ =>
        secondary.orderly run).2.2 ⟨ih text, fun _ run _ => ih' run⟩
    · exact (l.contiguousTokens_spec text (primary.orderly text) (secondary.orderly _)).2.2
        ⟨ih text, ih' _⟩

/-- Every lexer that is put together of machines and spliced lexers, in which no callback moves the
offset at which to stop, tiles every text. -/
theorem tokens_tile {l : Lexer} (h : l.Composed Grammar.KeepsStop) (text : Text) :
    Tiles 0 text (l.tokens text) ∧
      (∀ t ∈ l.tokens text, t.text ≠ [] ∧ t.text = text.slice ⟨t.offset, t.stop⟩) ∧
      ((l.tokens text).getLast?.map Token.stop).getD 0 = text.size ∧
      (text = [] → l.tokens text = []) := by
  have htiles := h.faithful text
  refine ⟨htiles, fun t ht => ?_, ?_, fun hnil => ?_⟩
  · have hpart := htiles.placed_all.isPart ht
    exact ⟨hpart.ne_nil, hpart.eq_slice⟩
  · rw [htiles.last_stop, Nat.zero_add]
  · subst hnil
    cases hts : l.tokens [] with
    | nil => rfl
    | cons t ts =>
      rw [hts] at htiles
      exact absurd (List.append_eq_nil_iff.1 htiles.2).1 htiles.1.2.1

/-- Which hands groups and whole matches to itself, and whose callback goes back. -/
def chained : Grammar :=
  ((Grammar.empty "chained" .standard).define "root"
    [.rule "(a)(b)" (.groups [.kind .other, .delegate (.self ["inner"])]) .stay,
      .rule "c+" (.delegate (.self ["inner", "inner"])) (.push "root")]).define "inner"
    [.rule "b" (.steer fun found _ => ([.setPos found.start, .stack (.pop 1)], [])) .stay]

theorem tokens_tile_chained : ∃ m, chained.build true = .ok m ∧ ∀ mode,
    let l : SplicedLexer := ⟨"twice", m.toLexer, m.toLexer, .other, mode⟩
    Tiles 0 ['a', 'b', 'c', 'c'] (l.toLexer.tokens ['a', 'b', 'c', 'c']) := by
  have ok : (chained.build true).isOk = true := by decide +kernel
  obtain ⟨m, built⟩ := exists_of_isOk ok
  have keeps : chained.KeepsStop := by
    intro emit hmem found view e he
    change Action.steer emit ∈ [Action.groups _, .delegate _, .steer _] at hmem
    simp only [List.mem_cons, reduceCtorEq, false_or, List.not_mem_nil, or_false,
      Action.steer.injEq] at hmem
    subst hmem
    simp only [List.mem_cons, List.not_mem_nil, or_false] at he
    rcases he with rfl | rfl <;> trivial
  have composed : m.toLexer.Composed Grammar.KeepsStop := by
    refine .machine built keeps fun l hl => ?_
    change Delegate.lexer l ∈ [Delegate.self _, .self _] at hl
    simp only [List.mem_cons, reduceCtorEq, List.not_mem_nil, or_false] at hl
  exact ⟨m, built, fun mode => (tokens_tile (.spliced composed composed) _).1⟩

end Lexing
