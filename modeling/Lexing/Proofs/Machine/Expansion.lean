import Lexing.Proofs.Grammar.Entries
import Lexing.Proofs.Machine.Includes

/-!
# Expanded entries

The entries of a state stand for a list of rules and moves as they are written in the grammar: a
reference to a state is replaced by what the entries of that state stand for, and a place for
inherited entries by nothing. `Expands` says so without a chain of states, and a grammar gives at
most one such list. The rules of a machine are these entries, each resolved where it is written.
-/
set_option autoImplicit false

namespace Lexing

namespace Grammar

/-- What remains of entries when all references to states are followed, one inside the other. -/
inductive Expands (g : Grammar) : List Entry → List Entry → Prop
  | nil : Expands g [] []
  | rule {source : String} {a : Action (List String)} {move : Move} {es out : List Entry}
      (rest : Expands g es out) :
      Expands g (.rule source a move :: es) (.rule source a move :: out)
  | splice {d : Definition} {es inner out : List Entry} (mem : d ∈ g.definitions)
      (target : Expands g d.entries inner) (rest : Expands g es out) :
      Expands g (.splice d.state :: es) (inner ++ out)
  | inherit {es out : List Entry} (rest : Expands g es out) : Expands g (.inherit :: es) out
  | fallback {move : Move} {es out : List Entry} (rest : Expands g es out) :
      Expands g (.fallback move :: es) (.fallback move :: out)

variable {g : Grammar} {es fs out out' : List Entry}

theorem exists_of_getElem?_states {i : Nat} {name : String} (h : g.states[i]? = some name) :
    ∃ d, g.definitions[i]? = some d ∧ d.state = name := by
  rw [states, List.getElem?_map] at h
  exact Option.map_eq_some_iff.1 h

theorem Expands.unique (h : g.Expands es out) (h' : g.Expands es out') : out' = out := by
  induction h generalizing out' with
  | nil =>
    cases h'
    rfl
  | rule _ ih =>
    cases h' with
    | rule rest' => rw [ih rest']
  | @splice d es inner out mem _ _ ihtarget ihrest =>
    generalize he : Entry.splice d.state :: es = all at h'
    cases h' with
    | splice mem' target' rest' =>
      obtain ⟨hstate, rfl⟩ := List.cons.inj he
      obtain rfl := eq_of_state mem mem' (Entry.splice.inj hstate)
      rw [ihtarget target', ihrest rest']
    | _ => cases he
  | inherit _ ih =>
    cases h' with
    | inherit rest' => exact ih rest'
  | fallback _ ih =>
    cases h' with
    | fallback rest' => rw [ih rest']

theorem Expands.append (h : g.Expands es out) (h' : g.Expands fs out') :
    g.Expands (es ++ fs) (out ++ out') := by
  induction h with
  | nil => exact h'
  | rule _ ih => exact .rule ih
  | splice mem target _ _ ih =>
    rw [List.append_assoc]
    exact .splice mem target ih
  | inherit _ ih => exact .inherit ih
  | fallback _ ih => exact .fallback ih

theorem Expands.split (h : g.Expands (es ++ fs) out) :
    ∃ first second, out = first ++ second ∧ g.Expands es first ∧ g.Expands fs second := by
  induction es generalizing out with
  | nil => exact ⟨[], out, rfl, .nil, h⟩
  | cons e es ih =>
    rw [List.cons_append] at h
    cases h with
    | rule rest =>
      obtain ⟨first, second, rfl, hfirst, hsecond⟩ := ih rest
      exact ⟨_, second, rfl, .rule hfirst, hsecond⟩
    | splice mem target rest =>
      obtain ⟨first, second, rfl, hfirst, hsecond⟩ := ih rest
      exact ⟨_, second, (List.append_assoc _ _ _).symm, .splice mem target hfirst, hsecond⟩
    | inherit rest =>
      obtain ⟨first, second, rfl, hfirst, hsecond⟩ := ih rest
      exact ⟨first, second, rfl, .inherit hfirst, hsecond⟩
    | fallback rest =>
      obtain ⟨first, second, rfl, hfirst, hsecond⟩ := ih rest
      exact ⟨_, second, rfl, .fallback hfirst, hsecond⟩

end Grammar

section

variable {g : Grammar} {steering : Bool} {root : Nat} {lines : List (List Line)}

def Scope.Carries (s : Scope) (e : Entry) (r : Rule) : Prop := s.lines e = .ok [.rule r]

theorem Scope.rightUnique_carries {s : Scope} : Relator.RightUnique s.Carries := fun _ _ _ h h' =>
  Line.rule.inj (List.singleton_inj.1 (Except.ok.inj (h.symm.trans h')))

theorem Scope.carries_of_mem {s : Scope} {e : Entry} {part : List Line} {r : Rule}
    (h : s.lines e = .ok part) (hr : .rule r ∈ part) : s.Carries e r := by
  cases resolves_of_lines h with
  | rule pattern action edits =>
    obtain rfl := Line.rule.inj (List.mem_singleton.1 hr)
    exact h
  | splice index => cases List.mem_singleton.1 hr
  | inherit => cases hr
  | fallback pattern edits =>
    obtain rfl := Line.rule.inj (List.mem_singleton.1 hr)
    exact h

theorem Scope.linesFrom_of_definition {s : Scope} {d : Definition} {ls : List Line}
    (h : s.definition d = .ok ls) : s.linesFrom 0 d.entries = .ok ls := by
  simp only [definition] at h
  split at h
  · rename_i ls' hls
    cases h
    exact hls
  · cases h

namespace Grammar

theorem expands_of_linesFrom {f : Line → Except (List Nat) (List Rule)}
    (hrule : ∀ r part, f (.rule r) = .ok part → part = [r])
    (hsplice : ∀ j d part, g.definitions[j]? = some d → f (.splice j) = .ok part →
      ∃ es, g.Expands d.entries es ∧ List.Forall₂ (g.scope root steering).Carries es part)
    {index : Nat} {es : List Entry} {ls : List Line} {parts : List (List Rule)}
    (hls : (g.scope root steering).linesFrom index es = .ok ls) (hparts : ls.mapM f = .ok parts) :
    ∃ out, g.Expands es out ∧
      List.Forall₂ (g.scope root steering).Carries out parts.flatten := by
  induction es generalizing index ls parts with
  | nil =>
    cases hls
    cases hparts
    exact ⟨[], .nil, .nil⟩
  | cons e es ih =>
    simp only [Scope.linesFrom] at hls
    split at hls
    · cases hls
    · rename_i part hpart
      obtain ⟨rest, hrest, hls⟩ := bind_eq_ok.1 hls
      cases hls
      cases Scope.resolves_of_lines hpart with
      | rule pattern action edits =>
        obtain ⟨rules, others, rfl, hrules, hothers⟩ := mapM_cons_eq_ok.1 hparts
        obtain ⟨out, hout, hcarries⟩ := ih hrest hothers
        obtain rfl := hrule _ _ hrules
        exact ⟨_, .rule hout, .cons hpart hcarries⟩
      | @splice state target hindex =>
        obtain ⟨rules, others, rfl, hrules, hothers⟩ := mapM_cons_eq_ok.1 hparts
        obtain ⟨out, hout, hcarries⟩ := ih hrest hothers
        obtain ⟨d, hd, rfl⟩ := exists_of_getElem?_states (Scope.getElem?_of_index hindex)
        obtain ⟨inner, hinner, hpart⟩ := hsplice _ _ _ hd hrules
        exact ⟨_, .splice (List.mem_of_getElem? hd) hinner hout, List.rel_append hpart hcarries⟩
      | inherit =>
        obtain ⟨out, hout, hcarries⟩ := ih hrest hparts
        exact ⟨out, .inherit hout, hcarries⟩
      | fallback pattern edits =>
        obtain ⟨rules, others, rfl, hrules, hothers⟩ := mapM_cons_eq_ok.1 hparts
        obtain ⟨out, hout, hcarries⟩ := ih hrest hothers
        obtain rfl := hrule _ _ hrules
        exact ⟨_, .fallback hout, .cons hpart hcarries⟩

theorem expands_of_expand
    (h : g.definitions.mapM (g.scope root steering).definition = .ok lines) {chain fresh : List Nat}
    {i : Nat} {rules : List Rule} {d : Definition} (hd : g.definitions[i]? = some d)
    (hrules : expand (fun i => lines[i]?.getD []) chain fresh i = .ok rules) :
    ∃ es, g.Expands d.entries es ∧ List.Forall₂ (g.scope root steering).Carries es rules := by
  generalize hn : fresh.length = n
  induction n using Nat.strongRecOn generalizing chain fresh i rules d with
  | ind n ih =>
    rw [expand] at hrules
    split at hrules
    · rename_i hi
      obtain ⟨parts, hparts, hrules⟩ := bind_eq_ok.1 hrules
      cases hrules
      obtain ⟨ls, hls, hdefinition⟩ := getElem?_of_mapM h hd
      rw [hls] at hparts
      refine expands_of_linesFrom ?_ ?_ (Scope.linesFrom_of_definition hdefinition) hparts
      · intro r part hpart
        exact (Except.ok.inj hpart).symm
      · intro j d' part hd' hpart
        refine ih _ ?_ hd' hpart rfl
        have := List.length_pos_of_mem hi
        rw [List.length_erase_of_mem hi]
        omega
    · cases hrules

end Grammar

end

end Lexing
