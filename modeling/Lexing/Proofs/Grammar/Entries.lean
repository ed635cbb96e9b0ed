import Mathlib.Data.List.Nodup
import Lexing.Grammar.Basic

/-!
# The entries of a state

A name leads to the entries of the one definition that has it. So a grammar is known by its name,
its mode, the order of its states and what each of them leads to. Other entries for a state are seen
under its name only.
-/
set_option autoImplicit false

namespace Lexing.Grammar

variable {g g' : Grammar} {state : String} {es : List Entry}

theorem eq_of_state {d d' : Definition} (hd : d ∈ g.definitions) (hd' : d' ∈ g.definitions)
    (h : d.state = d'.state) : d = d' :=
  List.inj_on_of_nodup_map g.nodup hd hd' h

theorem mem_of_entries? (h : g.entries? state = some es) : ⟨state, es⟩ ∈ g.definitions := by
  obtain ⟨d, hd, rfl⟩ := Option.map_eq_some_iff.1 h
  have hstate := List.find?_some hd
  rw [beq_iff_eq] at hstate
  subst hstate
  exact List.mem_of_find?_eq_some hd

theorem entries?_of_mem {d : Definition} (hd : d ∈ g.definitions) :
    g.entries? d.state = some d.entries := by
  cases h : g.entries? d.state with
  | none =>
    have hnone := List.find?_eq_none.1 (Option.map_eq_none_iff.1 h) d hd
    exact absurd (beq_self_eq_true d.state) hnone
  | some es =>
    have heq : ⟨d.state, es⟩ = d := eq_of_state (mem_of_entries? h) hd rfl
    exact congrArg some (congrArg Definition.entries heq)

theorem entries?_of_mem_states (h : state ∈ g.states) : ∃ es, g.entries? state = some es := by
  obtain ⟨d, hd, rfl⟩ := List.mem_map.1 h
  exact ⟨d.entries, entries?_of_mem hd⟩

theorem entries?_eq_none_iff : g.entries? state = none ↔ state ∉ g.states := by
  constructor
  · intro hnone hmem
    obtain ⟨es, hes⟩ := entries?_of_mem_states hmem
    rw [hnone] at hes
    cases hes
  · intro hmem
    cases hes : g.entries? state with
    | none => rfl
    | some es => exact absurd (List.mem_map.2 ⟨_, mem_of_entries? hes, rfl⟩) hmem

def redefined (state : String) (fs : List Entry) (d : Definition) : Definition :=
  if d.state = state then ⟨state, fs⟩ else d

theorem state_redefined (state : String) (fs : List Entry) (d : Definition) :
    (redefined state fs d).state = d.state := by
  unfold redefined
  split
  · rename_i h
    exact h.symm
  · rfl

theorem entries_redefined {R : List Entry → List Entry → Prop} {fs : List Entry}
    (h : g.entries? state = some es) (refl : ∀ es, R es es) (change : R es fs) {d : Definition}
    (hd : d ∈ g.definitions) : R d.entries (redefined state fs d).entries := by
  unfold redefined
  split
  · rename_i hstate
    obtain rfl := eq_of_state hd (mem_of_entries? h) hstate
    exact change
  · exact refl _

theorem define_of_entries? (h : g.entries? state = some es) (fs : List Entry) :
    (g.define state fs).name = g.name ∧ (g.define state fs).mode = g.mode ∧
      (g.define state fs).definitions = redefine state fs g.definitions := by
  have hmem : state ∈ g.states := List.mem_map.2 ⟨_, mem_of_entries? h, rfl⟩
  rw [define, dif_pos hmem]
  exact ⟨rfl, rfl, rfl⟩

theorem states_eq_of_map {f : Definition → Definition}
    (definitions : g'.definitions = g.definitions.map f) (state : ∀ d, (f d).state = d.state) :
    g'.states = g.states := by
  rw [states, definitions, List.map_map, states]
  exact List.map_congr_left fun d _ => state d

theorem definitions_eq (g : Grammar) :
    g.definitions = g.states.filterMap fun s => (g.entries? s).map (Definition.mk s) := by
  rw [states, List.filterMap_map]
  have hall : ∀ d ∈ g.definitions,
      ((fun s => (g.entries? s).map (Definition.mk s)) ∘ Definition.state) d = some d := by
    intro d hd
    simp only [Function.comp_apply, entries?_of_mem hd, Option.map_some]
  rw [List.filterMap_congr hall, List.filterMap_some]

theorem eq_of_entries? (hname : g.name = g'.name) (hmode : g.mode = g'.mode)
    (hstates : g.states = g'.states) (hentries : ∀ s, g.entries? s = g'.entries? s) : g = g' := by
  have hdefinitions : g.definitions = g'.definitions := by
    rw [definitions_eq g, definitions_eq g', hstates, funext hentries]
  cases g
  cases g'
  cases hname
  cases hmode
  cases hdefinitions
  rfl

end Lexing.Grammar
