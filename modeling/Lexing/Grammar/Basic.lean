import Lexing.Grammar.Action
import Lexing.Pattern.Basic

/-!
# Grammars

A grammar gives each of its states a list of entries: rules, the entries of another state, the place
where inherited entries go, or a move that is made when nothing before it matched. States keep the
order in which they were first defined, and each name is defined once.

A grammar that inherits from a parent puts the parent's entries for a state in the place marked for
them, and takes over the states that it does not define itself.
-/
set_option autoImplicit false

namespace Lexing

/-- The state `combined names` has the rules of the named states, one after the other. -/
inductive Move
  | stay
  | push (state : String)
  | pushTop
  | pop (n : Nat)
  | seq (moves : List Move)
  | combined (states : List String)
deriving Repr

namespace Move

instance : Inhabited Move := ⟨stay⟩

def pushAll (states : List String) : Move := seq (states.map push)

mutual

def isStay : Move → Bool
  | stay => true
  | seq moves => allStay moves
  | push _ | pushTop | pop _ | combined _ => false

def allStay : List Move → Bool
  | [] => true
  | m :: ms => m.isStay && allStay ms

end

end Move

inductive Entry
  | rule (pattern : String) (action : Action (List String)) (move : Move)
  | splice (state : String)
  | inherit
  | fallback (move : Move)

structure Definition where
  state : String
  entries : List Entry

structure Grammar where
  name : String
  mode : PatternMode
  definitions : List Definition
  nodup : (definitions.map Definition.state).Nodup := by exact List.nodup_nil

namespace Grammar

def empty (name : String) (mode : PatternMode) : Grammar := ⟨name, mode, [], List.nodup_nil⟩

def states (g : Grammar) : List String := g.definitions.map Definition.state

def entries? (g : Grammar) (state : String) : Option (List Entry) :=
  (g.definitions.find? fun d => d.state == state).map Definition.entries

def redefine (state : String) (entries : List Entry) (ds : List Definition) : List Definition :=
  ds.map fun d => if d.state = state then ⟨state, entries⟩ else d

theorem map_state_redefine (state : String) (entries : List Entry) (ds : List Definition) :
    (redefine state entries ds).map Definition.state = ds.map Definition.state := by
  simp only [redefine, List.map_map]
  refine List.map_congr_left fun d _ => ?_
  simp only [Function.comp_apply]
  split
  · rename_i h
    exact h.symm
  · rfl

/-- Gives a state its entries. A state that was defined before keeps its place. -/
def define (g : Grammar) (state : String) (entries : List Entry) : Grammar :=
  if h : state ∈ g.states then
    { g with
      definitions := redefine state entries g.definitions
      nodup := by rw [map_state_redefine]; exact g.nodup }
  else
    { g with
      definitions := g.definitions ++ [⟨state, entries⟩]
      nodup := by
        rw [List.map_append, List.nodup_append]
        refine ⟨g.nodup, by simp, ?_⟩
        intro a ha b hb hab
        simp only [List.map_cons, List.map_nil, List.mem_singleton] at hb
        subst hb hab
        exact h ha }

/-- The parent's entries, in the first place that is marked for them. -/
def spliceInherited (inherited : List Entry) : List Entry → List Entry
  | [] => []
  | .inherit :: es => inherited ++ es
  | e :: es => e :: spliceInherited inherited es

def inheritInto (parent : Grammar) (d : Definition) : Definition :=
  match parent.entries? d.state with
  | some inherited => { d with entries := spliceInherited inherited d.entries }
  | none => d

theorem state_inheritInto (parent : Grammar) (d : Definition) :
    (inheritInto parent d).state = d.state := by
  unfold inheritInto
  split <;> rfl

theorem map_state_inheritInto (parent : Grammar) (ds : List Definition) :
    (ds.map (inheritInto parent)).map Definition.state = ds.map Definition.state := by
  rw [List.map_map]
  exact List.map_congr_left fun d _ => state_inheritInto parent d

def added (g parent : Grammar) : List Definition :=
  parent.definitions.filter fun d => !g.states.contains d.state

def inheriting (g parent : Grammar) : Grammar :=
  { g with
    definitions := g.definitions.map (inheritInto parent) ++ g.added parent
    nodup := by
      rw [List.map_append, map_state_inheritInto, List.nodup_append]
      refine ⟨g.nodup, ?_, ?_⟩
      · exact parent.nodup.sublist (List.filter_sublist.map _)
      · intro a ha b hb hab
        subst hab
        obtain ⟨d, hd, rfl⟩ := List.mem_map.1 hb
        have h := (List.mem_filter.1 hd).2
        simp only [Bool.not_eq_true', List.contains_eq_mem, decide_eq_false_iff_not] at h
        exact h ha }

end Grammar

end Lexing
