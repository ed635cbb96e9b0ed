import Lexing.Proofs.Lexer.Composed

/-!
# When delegated text is lexed as a whole

A run that a callback stops early leaves the rest of its text out, and the run that handed the text
on goes on behind all of it: what is left out is lost. `Whole` says that this does not happen, in no
run that is made for the text. It is what decides whether the tokens of delegated text tile it.
-/
set_option autoImplicit false

namespace Lexing

/-- No run that is made for the text stops before the end of what it was given. -/
inductive Task.Whole : Task → Text → Prop
  | cut {m : Machine} {stack : Stack StateRef} {text : Text} (full : text ≠ []) :
      Whole (.run m 0 stack) text
  | run {g : Grammar} {steering : Bool} {m : Machine} {levels : Nat} {stack : Stack StateRef}
      {text : Text} (built : g.build steering = .ok m)
      (stop : (m.last Stack.sameShape (m.nestedTokens Stack.sameShape levels)
        (Config.start text stack)).cursor.stop = text.size)
      (parts : ∀ s d, m.Hands Stack.sameShape (m.nestedTokens Stack.sameShape levels)
        (Config.start text stack) s d → Whole (d.task m levels) (text.slice s)) :
      Whole (.run m (levels + 1) stack) text
  | machine {m : Machine} {text : Text}
      (root : Whole (.run m (maxNesting + 1) (.single (.named m.root))) text) :
      Whole (.lexer m.toLexer) text
  | perSpan {l : SplicedLexer} {text : Text} (mode : l.mode = .perSpan)
      (primary : Whole (.lexer l.primary) text)
      (secondary : ∀ offset run, .marked offset run ∈ segments l.needle (l.primary.tokens text) →
        Whole (.lexer l.secondary) run) : Whole (.lexer l.toLexer) text
  | contiguous {l : SplicedLexer} {text : Text} (mode : l.mode = .contiguous)
      (primary : Whole (.lexer l.primary) text)
      (secondary : Whole (.lexer l.secondary)
        ((segments l.needle (l.primary.tokens text)).flatMap Segment.markedText)) :
      Whole (.lexer l.toLexer) text

theorem SplicedLexer.tokens_of_perSpan {l : SplicedLexer} (h : l.mode = .perSpan) (text : Text) :
    l.toLexer.tokens text = l.perSpanTokens text := by
  simp only [SplicedLexer.toLexer, h]

theorem SplicedLexer.tokens_of_contiguous {l : SplicedLexer} (h : l.mode = .contiguous)
    (text : Text) : l.toLexer.tokens text = l.contiguousTokens text := by
  simp only [SplicedLexer.toLexer, h]

theorem Task.Whole.tiles {t : Task} {text : Text} (h : t.Whole text) :
    Tiles 0 text (t.tokens text) := by
  induction h with
  | cut full => exact tiles_single .error full
  | @run g _ m levels stack text built stop _ ih =>
    have hs := Config.sound_start text stack
    have htiles : ∀ s d, m.Hands Stack.sameShape (m.nestedTokens Stack.sameShape levels)
        (Config.start text stack) s d → Tiles s.start (text.slice s)
          (delegated (m.nestedTokens Stack.sameShape levels) text s d) := fun s d hhands =>
      delegated_tiles_iff.2 (ih s d hhands)
    refine (Machine.nestedTokens_spec (Machine.quiet_of_build built) fun s d hhands => ?_).2.2
      ⟨stop, htiles⟩
    have hin := hhands.inside hs
    exact (htiles s d hhands).placed hin.boundary_start hin.boundary_stop (Nat.le_of_lt hin.lt)
  | machine _ ih => exact ih
  | @perSpan l text mode _ _ ih ih' =>
    change Tiles 0 text (l.toLexer.tokens text)
    rw [SplicedLexer.tokens_of_perSpan mode]
    exact (l.perSpanTokens_spec text (Tiles.placed_all ih) fun offset run hmem =>
      Tiles.placed_all (ih' offset run hmem)).2.2 ⟨ih, ih'⟩
  | @contiguous l text mode _ _ ih ih' =>
    change Tiles 0 text (l.toLexer.tokens text)
    rw [SplicedLexer.tokens_of_contiguous mode]
    exact (l.contiguousTokens_spec text (Tiles.placed_all ih) (Tiles.placed_all ih')).2.2 ⟨ih, ih'⟩

variable {g : Grammar} {steering : Bool} {m : Machine} {d : Delegate (Stack StateRef)}

theorem Machine.tasks_whole (built : g.build steering = .ok m)
    (orderly : ∀ l, .lexer l ∈ g.delegates → l.Orderly)
    (whole : ∀ l, .lexer l ∈ g.delegates → ∀ text, Tiles 0 text (l.tokens text) →
      (Task.lexer l).Whole text) :
    (∀ levels d text, m.HandsTo d → text ≠ [] → Tiles 0 text ((d.task m levels).tokens text) →
      (d.task m levels).Whole text) ∧
      ∀ levels stack text, Tiles 0 text ((Task.run m (levels + 1) stack).tokens text) →
        (Task.run m (levels + 1) stack).Whole text := by
  refine m.task_induction
    (motive := fun t text => Tiles 0 text (t.tokens text) → t.Whole text) ?_ ?_ ?_
  · intro stack text hne _
    exact .cut hne
  · intro l text hd htiles
    exact whole l (lexer_of_handsTo built hd) text htiles
  · intro levels stack text h htiles
    have hs := Config.sound_start text stack
    obtain ⟨stop, hparts⟩ := (nestedTokens_spec (quiet_of_build built) fun s d hhands => by
      have hin := hhands.inside hs
      exact delegated_placed hin
        ((tasks_placed built orderly).1 levels d _ hhands.handsTo hin.ne_nil)).2.1 htiles
    refine .run built stop fun s d hhands => ?_
    exact h d _ hhands.handsTo (hhands.inside hs).ne_nil
      (delegated_tiles_iff.1 (hparts s d hhands))

theorem Lexer.Composed.whole {p : Grammar → Prop} {l : Lexer} (h : l.Composed p) (text : Text)
    (htiles : Tiles 0 text (l.tokens text)) : (Task.lexer l).Whole text := by
  induction h generalizing text with
  | @machine g _ m built _ delegates ih =>
    refine .machine ((Machine.tasks_whole built (fun l hl => (delegates l hl).orderly) ih).2
      maxNesting (.single (.named m.root)) text htiles)
  | @spliced l primary secondary ih ih' =>
    cases mode : l.mode with
    | perSpan =>
      rw [SplicedLexer.tokens_of_perSpan mode] at htiles
      obtain ⟨hprimary, hruns⟩ := (l.perSpanTokens_spec text (primary.orderly text)
        fun _ run _ => secondary.orderly run).2.1 htiles
      exact .perSpan mode (ih text hprimary) fun offset run hmem =>
        ih' run (hruns offset run hmem)
    | contiguous =>
      rw [SplicedLexer.tokens_of_contiguous mode] at htiles
      obtain ⟨hprimary, hruns⟩ := (l.contiguousTokens_spec text (primary.orderly text)
        (secondary.orderly _)).2.1 htiles
      exact .contiguous mode (ih text hprimary) (ih' _ hruns)

/-- The tokens that are put in the place of delegated text are parts of it, in order. They tile it
exactly if it is lexed as a whole, which it is if no callback moves the offset at which to stop. -/
theorem delegated_tiles_iff_whole (built : g.build steering = .ok m)
    (composed : ∀ l, .lexer l ∈ g.delegates → l.Composed fun _ => True) (hd : m.HandsTo d)
    (levels : Nat) {text : Text} {s : Span} (hs : s.Inside text 0 text.size) :
    let ts := delegated (m.nestedTokens Stack.sameShape levels) text s d
    Placed text s.start s.stop ts ∧
      (Tiles s.start (text.slice s) ts ↔ (d.task m levels).Whole (text.slice s)) ∧
      (g.KeepsStop → (∀ l, .lexer l ∈ g.delegates → l.Composed Grammar.KeepsStop) →
        Tiles s.start (text.slice s) ts) := by
  intro ts
  have orderly : ∀ l, .lexer l ∈ g.delegates → l.Orderly := fun l hl => (composed l hl).orderly
  refine ⟨?_, ?_, fun keeps faithful => ?_⟩
  · exact delegated_placed hs ((Machine.tasks_placed built orderly).1 levels d _ hd hs.ne_nil)
  · refine delegated_tiles_iff.trans ⟨fun htiles => ?_, fun whole => whole.tiles⟩
    exact (Machine.tasks_whole built orderly fun l hl => (composed l hl).whole).1 levels d _ hd
      hs.ne_nil htiles
  · exact delegated_tiles_iff.2 ((Machine.tasks_tile built keeps fun l hl =>
      (faithful l hl).faithful).1 levels d _ hd hs.ne_nil)

/-- Which hands two letters to itself, where a callback stops behind the first. -/
def truncating : Grammar :=
  ((Grammar.empty "truncating" .standard).define "root"
    [.rule "ab" (.delegate (.self ["inner"])) .stay]).define "inner"
    [.rule "a" (.steer fun found _ => ([.setPos found.stop, .setStop found.stop], [])) .stay,
      .rule "b" (.kind .text) .stay]

theorem truncating_hands : ∃ m d, truncating.build true = .ok m ∧ m.HandsTo d ∧
    delegated m.nested ['a', 'b'] ⟨0, 2⟩ d = [⟨0, .text, ['a']⟩] := by
  have found : (truncating.build true).toOption.any (fun m => decide (
      (m.handed (.start ['a', 'b'] (.single (.named m.root)))).map (fun part =>
        (part.1, delegated m.nested ['a', 'b'] part.1 part.2)) =
          [(⟨0, 2⟩, [⟨0, .text, ['a']⟩])])) = true := by decide +kernel
  obtain ⟨m, built, h⟩ := exists_of_any found
  have hmem := List.mem_singleton.2 (rfl : ((⟨0, 2⟩, [⟨0, .text, ['a']⟩]) : Span × List Token) = _)
  rw [← of_decide_eq_true h] at hmem
  obtain ⟨⟨s, d⟩, hpart, heq⟩ := List.mem_map.1 hmem
  obtain ⟨rfl, htokens⟩ := Prod.mk.inj heq
  exact ⟨m, d, built, Machine.handsTo_of_handed hpart, htokens⟩

theorem truncating_not_tiles : ∃ m d, truncating.build true = .ok m ∧ m.HandsTo d ∧
    ¬ Tiles 0 ['a', 'b'] (delegated m.nested ['a', 'b'] ⟨0, 2⟩ d) := by
  obtain ⟨m, d, built, hd, htokens⟩ := truncating_hands
  refine ⟨m, d, built, hd, fun htiles => ?_⟩
  rw [htokens] at htiles
  exact absurd htiles.2 (by decide)

theorem truncating_not_whole : ∃ m d, truncating.build true = .ok m ∧ m.HandsTo d ∧
    ¬ (d.task m maxNesting).Whole ['a', 'b'] := by
  obtain ⟨m, d, built, hd, htokens⟩ := truncating_hands
  have composed : ∀ l, .lexer l ∈ truncating.delegates → l.Composed fun _ => True := by
    intro l hl
    change Delegate.lexer l ∈ [Delegate.self _] at hl
    simp only [List.mem_cons, reduceCtorEq, List.not_mem_nil, or_false] at hl
  have hs : Span.Inside ⟨0, 2⟩ ['a', 'b'] 0 (Text.size ['a', 'b']) :=
    ⟨Text.boundary_zero _, Text.boundary_size ['a', 'b'], by decide, by decide, by decide⟩
  obtain ⟨_, hiff, _⟩ := delegated_tiles_iff_whole built composed hd maxNesting hs
  refine ⟨m, d, built, hd, fun whole => ?_⟩
  have htiles := hiff.2 whole
  rw [Machine.nested] at htokens
  rw [htokens] at htiles
  exact absurd htiles.2 (by decide)

end Lexing
