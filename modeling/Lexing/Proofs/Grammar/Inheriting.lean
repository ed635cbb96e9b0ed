import Lexing.Proofs.Grammar.Entries

/-!
# Inheriting in layers

A grammar that inherits has its own states, and then those of the parent that it does not define
itself. What a state leads to depends only on what it leads to in the two grammars. Three grammars
can be put together from the bottom or from the top: the result is the same as long as the topmost
one marks at most one place in each of its states. Places that the other two have left open do no
harm.
-/
set_option autoImplicit false

namespace Lexing

def Entry.isInherit : Entry → Bool
  | inherit => true
  | rule _ _ _ | splice _ | fallback _ => false

namespace Grammar

theorem spliceInherited_of_unmarked {es : List Entry} (inherited : List Entry)
    (unmarked : es.countP Entry.isInherit = 0) : spliceInherited inherited es = es := by
  induction es with
  | nil => rfl
  | cons e es ih =>
    cases e with
    | inherit => simp [Entry.isInherit] at unmarked
    | rule | splice | fallback =>
      exact congrArg (List.cons _) (ih (by simpa [Entry.isInherit] using unmarked))

theorem spliceInherited_append {fs : List Entry} (inherited es : List Entry)
    (unmarked : fs.countP Entry.isInherit = 0) :
    spliceInherited inherited (es ++ fs) = spliceInherited inherited es ++ fs := by
  induction es with
  | nil => exact spliceInherited_of_unmarked inherited unmarked
  | cons e es ih =>
    cases e with
    | inherit => exact (List.append_assoc _ _ _).symm
    | rule | splice | fallback => exact congrArg (List.cons _) ih

theorem spliceInherited_spliceInherited {es : List Entry} (far near : List Entry)
    (once : es.countP Entry.isInherit ≤ 1) :
    spliceInherited (spliceInherited far near) es =
      spliceInherited far (spliceInherited near es) := by
  induction es with
  | nil => rfl
  | cons e es ih =>
    cases e with
    | inherit =>
      -- no place is left open behind `near`, so the first one is the first one in `near`
      have unmarked : es.countP Entry.isInherit = 0 := by
        simp only [List.countP_cons, Entry.isInherit, if_true] at once
        omega
      exact (spliceInherited_append far near unmarked).symm
    | rule | splice | fallback =>
      exact congrArg (List.cons _) (ih (by simpa [Entry.isInherit] using once))

def overlaid : Option (List Entry) → Option (List Entry) → Option (List Entry)
  | some inherited, some es => some (spliceInherited inherited es)
  | none, some es => some es
  | inherited?, none => inherited?

theorem overlaid_overlaid (far near own : Option (List Entry))
    (once : ∀ es, own = some es → es.countP Entry.isInherit ≤ 1) :
    overlaid (overlaid far near) own = overlaid far (overlaid near own) := by
  cases own with
  | none => cases far <;> cases near <;> rfl
  | some es =>
    cases near with
    | none => cases far <;> rfl
    | some near =>
      cases far with
      | none => rfl
      | some far => exact congrArg some (spliceInherited_spliceInherited far near (once es rfl))

theorem entries_inheritInto (parent : Grammar) (d : Definition) :
    some (inheritInto parent d).entries = overlaid (parent.entries? d.state) (some d.entries) := by
  unfold inheritInto
  split
  · rename_i inherited hinherited
    rw [hinherited]
    rfl
  · rename_i hnone
    rw [hnone]
    rfl

theorem states_inheriting (g parent : Grammar) :
    (g.inheriting parent).states = g.states ++ parent.states.filter (· ∉ g.states) := by
  have hadded : (g.added parent).map Definition.state = parent.states.filter (· ∉ g.states) := by
    change _ = (parent.definitions.map Definition.state).filter (· ∉ g.states)
    rw [added, List.filter_map]
    congr 2
    funext d
    simp only [List.contains_eq_mem, Function.comp_apply, decide_not]
  change (g.definitions.map (inheritInto parent) ++ g.added parent).map Definition.state = _
  rw [List.map_append, map_state_inheritInto, hadded, states]

theorem entries?_inheriting (g parent : Grammar) (state : String) :
    (g.inheriting parent).entries? state =
      overlaid (parent.entries? state) (g.entries? state) := by
  cases hown : g.entries? state with
  | some es =>
    have hmem : inheritInto parent ⟨state, es⟩ ∈ (g.inheriting parent).definitions :=
      List.mem_append_left _ (List.mem_map_of_mem (mem_of_entries? hown))
    rw [← entries_inheritInto parent ⟨state, es⟩, ← entries?_of_mem hmem, state_inheritInto]
  | none =>
    have hother := entries?_eq_none_iff.1 hown
    cases hparent : parent.entries? state with
    | some es =>
      have hmem : ⟨state, es⟩ ∈ (g.inheriting parent).definitions := by
        refine List.mem_append_right _ (List.mem_filter.2 ⟨mem_of_entries? hparent, ?_⟩)
        simpa using hother
      exact entries?_of_mem hmem
    | none =>
      have hneither := entries?_eq_none_iff.1 hparent
      refine entries?_eq_none_iff.2 fun hmem => ?_
      rw [states_inheriting, List.mem_append, List.mem_filter] at hmem
      rcases hmem with hmem | hmem
      · exact hother hmem
      · exact hneither hmem.1

theorem states_inheriting_inheriting (a b c : Grammar) :
    (c.inheriting (b.inheriting a)).states = ((c.inheriting b).inheriting a).states := by
  simp only [states_inheriting, List.filter_append, List.filter_filter, List.append_assoc,
    List.mem_append, List.mem_filter]
  congr 2
  refine List.filter_congr fun state _ => ?_
  by_cases hc : state ∈ c.states
  · simp [hc]
  · simp [hc]

/-- The grammars may be put together in either order, and no state is there twice. -/
theorem inheriting_assoc (a b c : Grammar)
    (once : ∀ d ∈ c.definitions, d.entries.countP Entry.isInherit ≤ 1) :
    c.inheriting (b.inheriting a) = (c.inheriting b).inheriting a ∧
      (c.inheriting (b.inheriting a)).states.Nodup ∧
      ((c.inheriting b).inheriting a).states.Nodup := by
  have heq : c.inheriting (b.inheriting a) = (c.inheriting b).inheriting a := by
    refine eq_of_entries? rfl rfl (states_inheriting_inheriting a b c) fun state => ?_
    simp only [entries?_inheriting]
    exact overlaid_overlaid _ _ _ fun es hes => once _ (mem_of_entries? hes)
  exact ⟨heq, Grammar.nodup _, Grammar.nodup _⟩

def bottomLayer : Grammar :=
  ((Grammar.empty "bottom" .standard).define "root"
    [.inherit, .rule "a" (.kind .text) .stay]).define "base" [.rule "b" (.kind .text) .stay]

def middleLayer : Grammar :=
  ((Grammar.empty "middle" .standard).define "rest" [.inherit, .inherit]).define "root"
    [.rule "c" (.kind .text) .stay, .inherit, .fallback (.pop 1), .inherit]

def topLayer : Grammar :=
  ((Grammar.empty "top" .standard).define "root"
    [.rule "d" (.kind .text) .stay, .inherit, .splice "base"]).define "rest" [.splice "own"]
    |>.define "own" [.inherit]

theorem inheriting_assoc_layers :
    (∀ d ∈ topLayer.definitions, d.entries.countP Entry.isInherit ≤ 1) ∧
      topLayer.inheriting (middleLayer.inheriting bottomLayer) =
        (topLayer.inheriting middleLayer).inheriting bottomLayer ∧
      (topLayer.inheriting (middleLayer.inheriting bottomLayer)).states.Nodup ∧
      ((topLayer.inheriting middleLayer).inheriting bottomLayer).states.Nodup := by
  have once : ∀ d ∈ topLayer.definitions, d.entries.countP Entry.isInherit ≤ 1 := by decide +kernel
  exact ⟨once, inheriting_assoc bottomLayer middleLayer topLayer once⟩

/-- A second place in the topmost grammar is left open, or is taken by the lowest one. -/
example :
    let twice := (Grammar.empty "twice" .standard).define "base" [.inherit, .inherit]
    let marks := fun g : Grammar => (g.entries? "base").map (·.countP Entry.isInherit)
    marks (twice.inheriting (bottomLayer.inheriting bottomLayer)) = some 1 ∧
      marks ((twice.inheriting bottomLayer).inheriting bottomLayer) = some 0 := by decide +kernel

end Grammar

end Lexing
