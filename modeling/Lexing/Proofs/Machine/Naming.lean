import Lexing.Proofs.Machine.Expansion
import Lexing.Proofs.Machine.Defects

/-!
# Machines read back

A grammar refers to a state by its name, and to a combined state by the names of its parts. `target`
reads a state of a machine back to what a grammar would write for it. Read back in this way, a rule
of a machine has the action and the moves of the entry that it stands for, and the compiled pattern.
-/
set_option autoImplicit false

namespace Lexing

inductive Target
  | state (name : String)
  | combined (names : List String)
deriving DecidableEq, Repr

namespace Target

def shown : Target → String
  | state name => name
  | combined names => "+".intercalate names

def entries : Target → List Entry
  | state name => [.splice name]
  | combined names => names.map .splice

end Target

def Machine.target (m : Machine) : StateRef → Target
  | .named i => .state (m.named i).name
  | .combined parts => .combined (parts.map fun i => (m.named i).name)

namespace Move

def edit? : Move → Option (StackEdit Target)
  | push name => some (.push (.state name))
  | pushTop => some .pushTop
  | pop n => some (.pop n)
  | combined names => some (.push (.combined names))
  | stay | seq _ => none

def edits (move : Move) : List (StackEdit Target) := move.leaves.filterMap edit?

end Move

/-- Where a run starts that is asked for by names; without names it starts from the root state. -/
def startTargets (names : List String) : List Target :=
  (if names.isEmpty then ["root"] else names).map .state

section

variable {α β : Type} (f : α → β)

def Delegate.map : Delegate α → Delegate β
  | self stack => .self (f stack)
  | lexer l => .lexer l

def GroupAction.map : GroupAction α → GroupAction β
  | kind k => .kind k
  | delegate d => .delegate (d.map f)

def Action.map : Action α → Action β
  | kind k => .kind k
  | groups actions => .groups (actions.map (GroupAction.map f))
  | delegate d => .delegate (d.map f)
  | callback emit => .callback emit
  | steer emit => .steer emit

end

/-- The rule does what the entry says, with the states by name. -/
structure Rule.Means (g : Grammar) (m : Machine) (r : Rule) (e : Entry) : Prop where
  pattern : e.pattern?.map (Pattern.compile g.mode) = some (.ok r.pattern)
  action : r.action.map (Action.map fun stack => stack.toList.map m.target) =
    e.action?.map (Action.map startTargets)
  edits : some (r.edits.map (StackEdit.map m.target)) = e.move?.map Move.edits

namespace Scope

variable {s : Scope} {m : Machine}

theorem name_of_getElem? (names : m.stateNames = s.states) {i : Nat} {name : String}
    (h : s.states[i]? = some name) : (m.named i).name = name := by
  rw [← names, Machine.stateNames, List.getElem?_map] at h
  obtain ⟨state, hstate, rfl⟩ := Option.map_eq_some_iff.1 h
  rw [Machine.named, hstate]
  rfl

theorem name_of_index (names : m.stateNames = s.states) {i : Nat} {name : String}
    (h : s.index name = .ok i) : (m.named i).name = name :=
  name_of_getElem? names (getElem?_of_index h)

theorem target_of_delegate (names : m.stateNames = s.states) (root : (m.named s.root).name = "root")
    {d : Delegate (List String)} {d' : Delegate (Stack StateRef)} (h : s.delegate d = .ok d') :
    d'.map (fun stack => stack.toList.map m.target) = d.map startTargets := by
  cases d with
  | lexer l =>
    cases h
    rfl
  | self states =>
    obtain ⟨frames, hframes, h⟩ := bind_eq_ok.1 h
    cases h
    have htargets : (frames.map StateRef.named).map m.target = states.map .state := by
      rw [List.map_map]
      exact map_of_mapM (fun name i hi => congrArg Target.state (name_of_index names hi)) hframes
    have hempty := length_of_mapM hframes
    simp only [Delegate.map, startTargets]
    cases hstack : Stack.ofList? (frames.map StateRef.named) with
    | none =>
      obtain rfl : frames = [] := by
        simp only [Stack.ofList?] at hstack
        split at hstack
        · rename_i hrev
          rwa [List.reverse_eq_nil_iff, List.map_eq_nil_iff] at hrev
        · cases hstack
      obtain rfl := List.length_eq_zero_iff.1 hempty.symm
      rw [Option.getD_none, Stack.toList_single, List.map_singleton, Machine.target, root]
      rfl
    | some stack =>
      rw [Option.getD_some, Stack.toList_of_ofList? hstack, htargets]
      cases states with
      | nil =>
        obtain rfl := List.length_eq_zero_iff.1 hempty
        cases hstack
      | cons name states => rfl

theorem target_of_action (names : m.stateNames = s.states) (root : (m.named s.root).name = "root")
    {a : Action (List String)} {b : Action (Stack StateRef)} (h : s.action a = .ok b) :
    b.map (fun stack => stack.toList.map m.target) = a.map startTargets := by
  cases a with
  | kind k =>
    cases h
    rfl
  | groups actions =>
    obtain ⟨actions', hactions, h⟩ := bind_eq_ok.1 h
    cases h
    refine congrArg Action.groups (map_of_mapM (fun x y hxy => ?_) hactions)
    cases x with
    | kind k =>
      cases hxy
      rfl
    | delegate d =>
      obtain ⟨d', hd', hxy⟩ := bind_eq_ok.1 hxy
      cases hxy
      exact congrArg GroupAction.delegate (target_of_delegate names root hd')
  | delegate d =>
    obtain ⟨d', hd', h⟩ := bind_eq_ok.1 h
    cases h
    exact congrArg Action.delegate (target_of_delegate names root hd')
  | callback emit =>
    cases h
    rfl
  | steer emit =>
    simp only [action] at h
    split at h
    · cases h
      rfl
    · cases h

mutual

theorem target_of_edits (names : m.stateNames = s.states) : (move : Move) →
    {es : List (StackEdit StateRef)} → s.edits move = .ok es →
      es.map (StackEdit.map m.target) = move.edits
  | .stay, _, h => by
    cases h
    rfl
  | .push name, _, h => by
    obtain ⟨i, hi, h⟩ := bind_eq_ok.1 h
    cases h
    rw [List.map_singleton, StackEdit.map, Machine.target, name_of_index names hi]
    rfl
  | .pushTop, _, h => by
    cases h
    rfl
  | .pop n, _, h => by
    simp only [edits] at h
    split at h
    · cases h
    · cases h
      rfl
  | .seq moves, _, h => target_of_allEdits names moves h
  | .combined states, _, h => by
    simp only [edits] at h
    split at h
    · cases h
    · obtain ⟨parts, hparts, h⟩ := bind_eq_ok.1 h
      cases h
      have hstates : parts.map (fun i => (m.named i).name) = states.map id :=
        map_of_mapM (fun _ _ => name_of_index names) hparts
      rw [List.map_singleton, StackEdit.map, Machine.target, hstates, List.map_id]
      rfl

theorem target_of_allEdits (names : m.stateNames = s.states) : (moves : List Move) →
    {es : List (StackEdit StateRef)} → s.allEdits moves = .ok es →
      es.map (StackEdit.map m.target) = (Move.allLeaves moves).filterMap Move.edit?
  | [], _, h => by
    cases h
    rfl
  | move :: moves, _, h => by
    obtain ⟨first, hfirst, h⟩ := bind_eq_ok.1 h
    obtain ⟨rest, hrest, h⟩ := bind_eq_ok.1 h
    cases h
    rw [List.map_append, target_of_edits names move hfirst, target_of_allEdits names moves hrest,
      Move.allLeaves, List.filterMap_append]
    rfl

end

end Scope

theorem Rule.means_of_carries {g : Grammar} {root : Nat} {steering : Bool} {m : Machine} {e : Entry}
    {r : Rule} (names : m.stateNames = g.states) (hroot : (m.named root).name = "root")
    (h : (g.scope root steering).Carries e r) : r.Means g m e := by
  unfold Scope.Carries at h
  generalize hpart : [Line.rule r] = part at h
  cases Scope.resolves_of_lines h with
  | rule pattern action edits =>
    cases hpart
    refine ⟨?_, ?_, ?_⟩
    · exact congrArg some (Scope.compile_of_pattern pattern)
    · exact congrArg some (Scope.target_of_action names hroot action)
    · exact congrArg some (Scope.target_of_edits names _ edits)
  | splice index => cases hpart
  | inherit => cases hpart
  | fallback pattern edits =>
    cases hpart
    refine ⟨?_, rfl, ?_⟩
    · exact congrArg some (Scope.compile_of_pattern pattern)
    · exact congrArg some (Scope.target_of_edits names _ edits)

end Lexing
