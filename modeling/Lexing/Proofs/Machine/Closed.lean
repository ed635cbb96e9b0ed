import Lexing.Proofs.Machine.Origin
import Lexing.Proofs.Stack.Edits

/-!
# The states of a machine

A machine is closed: all states that its rules push, that its delegates start from or that a name
stands for are among its states, so their numbers are less than the number of states, and looking
one up by its number finds it.
-/
set_option autoImplicit false

namespace Lexing

namespace Machine

/-- The state is named in the machine, or combined by one of its rules. -/
def Has (m : Machine) : StateRef → Prop
  | .named i => i < m.states.length
  | .combined parts => parts ∈ m.combined

def state? (m : Machine) (s : StateRef) : Option State := m.allStates[m.number s]?

theorem number_lt {m : Machine} {s : StateRef} (h : m.Has s) :
    m.number s < m.allStates.length := by
  rw [allStates, List.length_append, List.length_map]
  cases s with
  | named i => exact Nat.lt_add_right _ h
  | combined parts => exact Nat.add_lt_add_left (List.idxOf_lt_length_iff.2 h) _

theorem state?_eq {m : Machine} {s : StateRef} (h : m.Has s) : m.state? s = some (m.state s) := by
  cases s with
  | named i =>
    change (m.states ++ m.combined.map m.join)[i]? = some (m.named i)
    rw [List.getElem?_append_left h, named, List.getElem?_eq_getElem h]
    rfl
  | combined parts =>
    have hlt := List.idxOf_lt_length_iff.2 h
    change (m.states ++ m.combined.map m.join)[m.states.length + m.combined.idxOf parts]? =
      some (m.join parts)
    rw [List.getElem?_append_right (Nat.le_add_right _ _), Nat.add_sub_cancel_left,
      List.getElem?_map, List.getElem?_eq_getElem hlt, List.getElem_idxOf hlt]
    rfl

theorem has_of_resolve {m : Machine} {name : String} {s : StateRef}
    (h : m.resolve name = .ok s) : m.Has s := by
  simp only [resolve] at h
  split at h
  · rename_i i hi
    cases h
    obtain ⟨hlt, _⟩ := List.idxOf?_eq_some_iff.1 hi
    rwa [stateNames, List.length_map] at hlt
  · cases h

/-- All states that rules push and delegates start from are states of the machine. -/
structure Closed (m : Machine) : Prop where
  root : m.Has (.named m.root)
  pushed : ∀ ref r s, r ∈ (m.state ref).rules → .push s ∈ r.edits → m.Has s
  started : ∀ stack s, m.HandsTo (.self stack) → s ∈ stack.toList → m.Has s

end Machine

namespace Scope

variable {s : Scope}

theorem getElem?_of_index {name : String} {i : Nat} (h : s.index name = .ok i) :
    s.states[i]? = some name := by
  simp only [index] at h
  split at h
  · rename_i j hj
    cases h
    obtain ⟨hlt, heq, _⟩ := List.idxOf?_eq_some_iff.1 hj
    exact List.getElem?_eq_some_iff.2 ⟨hlt, heq⟩
  · cases h

theorem lt_of_index {name : String} {i : Nat} (h : s.index name = .ok i) :
    i < s.states.length :=
  (List.getElem?_eq_some_iff.1 (getElem?_of_index h)).1

def Names (s : Scope) : StateRef → Prop
  | .named i => ∃ name, s.index name = .ok i
  | .combined parts => ∃ names : List String, names.mapM s.index = .ok parts

mutual

theorem names_of_edits : (move : Move) → {es : List (StackEdit StateRef)} → s.edits move = .ok es →
    ∀ {ref : StateRef}, .push ref ∈ es → s.Names ref
  | .stay, _, h, _, hr => by
    cases h
    cases hr
  | .push name, _, h, _, hr => by
    obtain ⟨i, hi, h⟩ := bind_eq_ok.1 h
    cases h
    cases List.mem_singleton.1 hr
    exact ⟨name, hi⟩
  | .pushTop, _, h, _, hr => by
    cases h
    cases List.mem_singleton.1 hr
  | .pop n, _, h, _, hr => by
    simp only [edits] at h
    split at h
    · cases h
    · cases h
      cases List.mem_singleton.1 hr
  | .seq moves, _, h, _, hr => names_of_allEdits moves h hr
  | .combined names, _, h, _, hr => by
    simp only [edits] at h
    split at h
    · cases h
    · obtain ⟨parts, hparts, h⟩ := bind_eq_ok.1 h
      cases h
      cases List.mem_singleton.1 hr
      exact ⟨names, hparts⟩

theorem names_of_allEdits : (moves : List Move) → {es : List (StackEdit StateRef)} →
    s.allEdits moves = .ok es → ∀ {ref : StateRef}, .push ref ∈ es → s.Names ref
  | [], _, h, _, hr => by
    cases h
    cases hr
  | move :: moves, _, h, _, hr => by
    obtain ⟨first, hfirst, h⟩ := bind_eq_ok.1 h
    obtain ⟨rest, hrest, h⟩ := bind_eq_ok.1 h
    cases h
    rcases List.mem_append.1 hr with hr | hr
    · exact names_of_edits move hfirst hr
    · exact names_of_allEdits moves hrest hr

end

theorem names_of_lines {e : Entry} {part : List Line} {r : Rule} (h : s.lines e = .ok part)
    (hr : Line.rule r ∈ part) {ref : StateRef} (href : .push ref ∈ r.edits) : s.Names ref := by
  cases resolves_of_lines h with
  | rule pattern action edits =>
    obtain rfl := Line.rule.inj (List.mem_singleton.1 hr)
    exact names_of_edits _ edits href
  | splice index => cases List.mem_singleton.1 hr
  | inherit => cases hr
  | fallback pattern edits =>
    obtain rfl := Line.rule.inj (List.mem_singleton.1 hr)
    exact names_of_edits _ edits href

end Scope

theorem Stack.toList_of_ofList? {σ : Type} {frames : List σ} {s : Stack σ}
    (h : Stack.ofList? frames = some s) : s.toList = frames := by
  simp only [Stack.ofList?] at h
  split at h
  · cases h
  · rename_i top below hrev
    cases h
    rw [Stack.toList, ← List.reverse_cons, ← hrev, List.reverse_reverse]

theorem Scope.named_of_delegate {s : Scope} {d : Delegate (List String)} {stack : Stack StateRef}
    (h : s.delegate d = .ok (.self stack)) {ref : StateRef} (href : ref ∈ stack.toList) :
    ref = .named s.root ∨ ∃ i, i < s.states.length ∧ ref = .named i := by
  cases d with
  | lexer l => cases h
  | self names =>
    obtain ⟨frames, hframes, h⟩ := bind_eq_ok.1 h
    cases h
    cases hstack : Stack.ofList? (frames.map StateRef.named) with
    | none =>
      rw [hstack] at href
      exact .inl (List.mem_singleton.1 href)
    | some stack =>
      rw [hstack, Option.getD_some, Stack.toList_of_ofList? hstack] at href
      obtain ⟨i, hi, rfl⟩ := List.mem_map.1 href
      obtain ⟨name, _, hname⟩ := exists_of_mapM hframes hi
      exact .inr ⟨i, Scope.lt_of_index hname, rfl⟩

section

variable {g : Grammar} {steering : Bool} {m : Machine} {lines : List (List Line)}
  {rules : List (List Rule)}

theorem Grammar.Built.length_states (h : g.Built steering m lines rules) :
    m.states.length = g.states.length := by
  have hrules := length_of_mapM h.expanded
  rw [List.length_range] at hrules
  rw [h.states, List.length_zipWith, hrules, Grammar.states, List.length_map, Nat.min_self]

namespace Machine

theorem closed_of_build (built : g.build steering = .ok m) : m.Closed := by
  obtain ⟨lines, rules, h⟩ := exists_of_build built
  have hroot : m.Has (.named m.root) := by
    change m.root < m.states.length
    rw [h.length_states]
    exact (List.idxOf?_eq_some_iff.1 h.root).1
  refine ⟨hroot, fun ref r s hr hs => ?_, fun stack s hhands hs => ?_⟩
  · obtain ⟨d, _, e, _, part, hpart, hline, hcombined⟩ := h.exists_entry hr
    cases s with
    | named i =>
      change i < m.states.length
      rw [h.length_states]
      obtain ⟨name, hname⟩ := Scope.names_of_lines hpart hline hs
      exact Scope.lt_of_index hname
    | combined parts => exact hcombined parts (List.mem_filterMap.2 ⟨_, hs, rfl⟩)
  · obtain ⟨d, hd, hok⟩ := exists_of_handsTo built hhands
    rcases Scope.named_of_delegate hok hs with rfl | ⟨i, hi, rfl⟩
    · exact hroot
    · change i < m.states.length
      rw [h.length_states]
      exact hi

end Machine

end

end Lexing
