import Lexing.Proofs.Except
import Lexing.Proofs.Machine.Interner

/-!
# What a machine is built from

A machine that was built comes with the lines of each state, and with the rules that each state was
expanded to. `Grammar.Built` says how these belong together. Every rule of every state, combined
states included, is a line of some entry of the grammar.
-/
set_option autoImplicit false

namespace Lexing

theorem mem_of_idxOf? {a : String} {l : List String} {i : Nat} (h : l.idxOf? a = some i) :
    a ∈ l :=
  List.isSome_idxOf?.1 (Option.isSome_of_eq_some h)

namespace Scope

theorem eq_of_checked {r r' : Rule} (h : checked r = .ok r') : r' = r := by
  simp only [checked] at h
  split at h
  · cases h
  · exact (Except.ok.inj h).symm

inductive Resolves (s : Scope) : Entry → List Line → Prop
  | rule {source : String} {a : Action (List String)} {move : Move} {p : Pattern}
      {b : Action (Stack StateRef)} {es : List (StackEdit StateRef)}
      (pattern : s.pattern source = .ok p) (action : s.action a = .ok b)
      (edits : s.edits move = .ok es) : Resolves s (.rule source a move) [.rule ⟨p, some b, es⟩]
  | splice {state : String} {target : Nat} (index : s.index state = .ok target) :
      Resolves s (.splice state) [.splice target]
  | inherit : Resolves s .inherit []
  | fallback {move : Move} {p : Pattern} {es : List (StackEdit StateRef)}
      (pattern : s.pattern "" = .ok p) (edits : s.edits move = .ok es) :
      Resolves s (.fallback move) [.rule ⟨p, none, es⟩]

variable {s : Scope}

theorem resolves_of_lines {e : Entry} {part : List Line} (h : s.lines e = .ok part) :
    s.Resolves e part := by
  cases e with
  | rule source a move =>
    obtain ⟨p, hp, h⟩ := bind_eq_ok.1 h
    obtain ⟨b, hb, h⟩ := bind_eq_ok.1 h
    obtain ⟨es, hes, h⟩ := bind_eq_ok.1 h
    obtain ⟨r, hr, h⟩ := bind_eq_ok.1 h
    cases h
    rw [eq_of_checked hr]
    exact .rule hp hb hes
  | splice state =>
    obtain ⟨target, htarget, h⟩ := bind_eq_ok.1 h
    cases h
    exact .splice htarget
  | inherit =>
    cases h
    exact .inherit
  | fallback move =>
    obtain ⟨p, hp, h⟩ := bind_eq_ok.1 h
    obtain ⟨es, hes, h⟩ := bind_eq_ok.1 h
    obtain ⟨r, hr, h⟩ := bind_eq_ok.1 h
    cases h
    rw [eq_of_checked hr]
    exact .fallback hp hes

theorem exists_of_linesFrom {index : Nat} {es : List Entry} {ls : List Line} {l : Line}
    (h : s.linesFrom index es = .ok ls) (hl : l ∈ ls) :
    ∃ e ∈ es, ∃ part, s.lines e = .ok part ∧ l ∈ part := by
  induction es generalizing index ls with
  | nil =>
    cases h
    cases hl
  | cons e es ih =>
    simp only [linesFrom] at h
    split at h
    · cases h
    · rename_i part hpart
      obtain ⟨rest, hrest, h⟩ := bind_eq_ok.1 h
      cases h
      rcases List.mem_append.1 hl with hl | hl
      · exact ⟨e, List.mem_cons_self, part, hpart, hl⟩
      · obtain ⟨e', he', hfound⟩ := ih hrest hl
        exact ⟨e', List.mem_cons_of_mem _ he', hfound⟩

theorem exists_of_definition {d : Definition} {ls : List Line} {l : Line}
    (h : s.definition d = .ok ls) (hl : l ∈ ls) :
    ∃ e ∈ d.entries, ∃ part, s.lines e = .ok part ∧ l ∈ part := by
  simp only [definition] at h
  split at h
  · rename_i ls' hls
    cases h
    exact exists_of_linesFrom hls hl
  · cases h

theorem mem_of_linesFrom {index : Nat} {es : List Entry} {ls : List Line}
    (h : s.linesFrom index es = .ok ls) {e : Entry} (he : e ∈ es) :
    ∃ part, s.lines e = .ok part ∧ ∀ l ∈ part, l ∈ ls := by
  induction es generalizing index ls with
  | nil => cases he
  | cons e' es ih =>
    simp only [linesFrom] at h
    split at h
    · cases h
    · rename_i part hpart
      obtain ⟨rest, hrest, h⟩ := bind_eq_ok.1 h
      cases h
      rcases List.mem_cons.1 he with rfl | he
      · exact ⟨part, hpart, fun l hl => List.mem_append_left _ hl⟩
      · obtain ⟨part', hpart', hmem⟩ := ih hrest he
        exact ⟨part', hpart', fun l hl => List.mem_append_right _ (hmem l hl)⟩

theorem mem_of_definition {d : Definition} {ls : List Line} (h : s.definition d = .ok ls)
    {e : Entry} (he : e ∈ d.entries) : ∃ part, s.lines e = .ok part ∧ ∀ l ∈ part, l ∈ ls := by
  simp only [definition] at h
  split at h
  · rename_i ls' hls
    cases h
    exact mem_of_linesFrom hls he
  · cases h

end Scope

theorem exists_of_expand {lines : Nat → List Line} {chain fresh : List Nat} {i : Nat}
    {rules : List Rule} {r : Rule} (h : expand lines chain fresh i = .ok rules) (hr : r ∈ rules) :
    ∃ j, Line.rule r ∈ lines j := by
  generalize hn : fresh.length = n
  induction n using Nat.strongRecOn generalizing chain fresh i rules with
  | ind n ih =>
    rw [expand] at h
    split at h
    · rename_i hi
      obtain ⟨parts, hparts, h⟩ := bind_eq_ok.1 h
      cases h
      obtain ⟨part, hpart, hr⟩ := List.mem_flatten.1 hr
      obtain ⟨line, hline, hok⟩ := exists_of_mapM hparts hpart
      cases line with
      | rule r' =>
        cases hok
        obtain rfl := List.mem_singleton.1 hr
        exact ⟨i, hline⟩
      | splice target =>
        have hlt : (fresh.erase i).length < n := by
          have := List.length_pos_of_mem hi
          rw [List.length_erase_of_mem hi]
          omega
        exact ih _ hlt hok hr rfl
    · cases h

def Grammar.scope (g : Grammar) (root : Nat) (steering : Bool) : Scope :=
  ⟨g.states, root, g.mode, steering⟩

/-- The machine comes of the grammar, by way of the lines of its states and of their expansions. -/
structure Grammar.Built (g : Grammar) (steering : Bool) (m : Machine) (lines : List (List Line))
    (rules : List (List Rule)) : Prop where
  name : m.name = g.name
  root : g.states.idxOf? "root" = some m.root
  resolved : g.definitions.mapM (g.scope m.root steering).definition = .ok lines
  expanded : (List.range g.definitions.length).mapM
    (expand (fun i => lines[i]?.getD []) [] (List.range g.definitions.length)) = .ok rules
  states : m.states = g.states.zipWith State.mk rules
  combined : m.combined = ((lines.flatten.filterMap Line.rule?).flatMap Rule.combined).eraseDups

namespace Grammar.Built

variable {g g' : Grammar} {steering : Bool} {m m' : Machine} {lines lines' : List (List Line)}
  {rules rules' : List (List Rule)}

theorem root_eq (built : g.Built steering m lines rules)
    (built' : g'.Built steering m' lines' rules') (states : g'.states = g.states) :
    m'.root = m.root := by
  have hroot := built'.root
  rw [states, built.root] at hroot
  exact (Option.some.inj hroot).symm

theorem scope_eq (built : g.Built steering m lines rules)
    (built' : g'.Built steering m' lines' rules') (states : g'.states = g.states)
    (mode : g'.mode = g.mode) : g'.scope m'.root steering = g.scope m.root steering := by
  rw [Grammar.scope, Grammar.scope, states, mode, built.root_eq built' states]

end Grammar.Built

namespace Machine

variable {g : Grammar} {steering : Bool} {m : Machine} {ref : StateRef} {r : Rule}

theorem exists_of_build (built : g.build steering = .ok m) :
    ∃ lines rules, g.Built steering m lines rules := by
  simp only [Grammar.build] at built
  split at built
  · cases built
  · rename_i root hroot
    split at built
    · rename_i m' hm
      cases built
      obtain ⟨lines, hlines, hm⟩ := bind_eq_ok.1 hm
      simp only at hm
      split at hm
      · cases hm
      · rename_i rules hrules
        cases hm
        exact ⟨lines, rules, rfl, hroot, hlines, hrules, rfl, Interner.parts_internAll _ _⟩
    · cases built

theorem exists_of_state (h : r ∈ (m.state ref).rules) : ∃ s ∈ m.states, r ∈ s.rules := by
  have hnamed : ∀ i, r ∈ (m.named i).rules → ∃ s ∈ m.states, r ∈ s.rules := by
    intro i hi
    simp only [named] at hi
    cases hs : m.states[i]? with
    | none =>
      rw [hs] at hi
      cases hi
    | some s =>
      rw [hs] at hi
      exact ⟨s, List.mem_of_getElem? hs, hi⟩
  cases ref with
  | named i => exact hnamed i h
  | combined parts =>
    obtain ⟨i, _, hi⟩ := List.mem_flatMap.1 h
    exact hnamed i hi

end Machine

theorem Grammar.Built.exists_entry {g : Grammar} {steering : Bool} {m : Machine}
    {lines : List (List Line)} {rules : List (List Rule)} {ref : StateRef} {r : Rule}
    (h : g.Built steering m lines rules) (hr : r ∈ (m.state ref).rules) :
    ∃ d ∈ g.definitions, ∃ e ∈ d.entries, ∃ part,
      (g.scope m.root steering).lines e = .ok part ∧ Line.rule r ∈ part ∧
        ∀ parts ∈ r.combined, parts ∈ m.combined := by
  obtain ⟨state, hstate, hr⟩ := Machine.exists_of_state hr
  rw [h.states, ← List.map_uncurry_zip_eq_zipWith] at hstate
  obtain ⟨⟨name, rules'⟩, hmem, rfl⟩ := List.mem_map.1 hstate
  obtain ⟨i, _, hi⟩ := exists_of_mapM h.expanded (List.of_mem_zip hmem).2
  obtain ⟨j, hj⟩ := exists_of_expand hi hr
  cases hls : lines[j]? with
  | none =>
    rw [hls] at hj
    cases hj
  | some ls =>
    rw [hls] at hj
    have hls := List.mem_of_getElem? hls
    obtain ⟨d, hd, hdef⟩ := exists_of_mapM h.resolved hls
    obtain ⟨e, he, part, hpart, hline⟩ := Scope.exists_of_definition hdef hj
    refine ⟨d, hd, e, he, part, hpart, hline, fun parts hparts => ?_⟩
    rw [h.combined, List.mem_eraseDups, List.mem_flatMap]
    exact ⟨r, List.mem_filterMap.2 ⟨_, List.mem_flatten.2 ⟨ls, hls, hj⟩, rfl⟩, hparts⟩

end Lexing
