import Mathlib.Data.List.DropRight
import Lexing.Proofs.Machine.Naming
import Lexing.Proofs.Stack.Edits

/-!
# What moves do to a stack

A move says what becomes of the frames of a stack, and a sequence of moves does so one move after
the other. The stack edits that a move is resolved to do the same to every stack, and there are none
of them exactly when the move says that the stack is left alone.
-/
set_option autoImplicit false

namespace Lexing

namespace Move

variable {σ : Type}

mutual

/-- What the move makes of the frames of a stack, the bottom one first. A state that it pushes is
on the stack as `frame` says. -/
def framesAfter (frame : Target → σ) : Move → List σ → List σ
  | stay, frames => frames
  | push name, frames => frames ++ [frame (.state name)]
  | pushTop, frames => frames ++ frames.getLast?.toList
  | pop n, frames => frames.rdrop (min n (frames.length - 1))
  | seq moves, frames => allFramesAfter frame moves frames
  | combined names, frames => frames ++ [frame (.combined names)]

def allFramesAfter (frame : Target → σ) : List Move → List σ → List σ
  | [], frames => frames
  | move :: moves, frames => allFramesAfter frame moves (framesAfter frame move frames)

end

end Move

def Scope.ref (s : Scope) : Target → StateRef
  | .state name => .named (s.states.idxOf name)
  | .combined names => .combined (names.map fun name => s.states.idxOf name)

namespace Stack

variable {σ : Type}

theorem applyAll_append (es fs : List (StackEdit σ)) (st : Stack σ) :
    st.applyAll (es ++ fs) = (st.applyAll es).applyAll fs :=
  List.foldl_append

theorem getLast?_toList (st : Stack σ) : st.toList.getLast? = some st.top :=
  List.getLast?_concat

theorem toList_pop_eq_rdrop (st : Stack σ) (n : Nat) :
    (st.pop n).toList = st.toList.rdrop (min n (st.toList.length - 1)) := by
  have hdepth : max (st.depth - n) 1 = st.depth - min n (st.depth - 1) := by
    rw [depth]
    omega
  rw [toList_pop, hdepth, List.rdrop, length_toList]

end Stack

namespace Scope

variable {s : Scope}

theorem idxOf_of_index {name : String} {i : Nat} (h : s.index name = .ok i) :
    s.states.idxOf name = i := by
  simp only [index] at h
  split at h
  · rename_i j hj
    cases h
    rw [List.idxOf_eq_getD_idxOf?, hj]
    rfl
  · cases h

theorem ref_of_mapM_index {names : List String} {parts : List Nat}
    (h : names.mapM s.index = .ok parts) : s.ref (.combined names) = .combined parts := by
  have hparts : parts.map id = names.map fun name => s.states.idxOf name :=
    map_of_mapM (fun _ _ hi => (idxOf_of_index hi).symm) h
  rw [List.map_id] at hparts
  rw [ref, hparts]

mutual

theorem toList_applyAll_edits : (move : Move) → {es : List (StackEdit StateRef)} →
    s.edits move = .ok es → ∀ st : Stack StateRef,
      (st.applyAll es).toList = move.framesAfter s.ref st.toList
  | .stay, _, h, st => by
    cases h
    rfl
  | .push name, _, h, st => by
    obtain ⟨i, hi, h⟩ := bind_eq_ok.1 h
    cases h
    change (st.push (.named i)).toList = st.toList ++ [.named (s.states.idxOf name)]
    rw [Stack.toList_push, idxOf_of_index hi]
  | .pushTop, _, h, st => by
    cases h
    change (st.push st.top).toList = st.toList ++ st.toList.getLast?.toList
    rw [Stack.toList_push, Stack.getLast?_toList, Option.toList_some]
  | .pop n, _, h, st => by
    simp only [edits] at h
    split at h
    · cases h
    · cases h
      exact st.toList_pop_eq_rdrop n
  | .seq moves, _, h, st => toList_applyAll_allEdits moves h st
  | .combined names, _, h, st => by
    simp only [edits] at h
    split at h
    · cases h
    · obtain ⟨parts, hparts, h⟩ := bind_eq_ok.1 h
      cases h
      change (st.push (.combined parts)).toList = st.toList ++ [s.ref (.combined names)]
      rw [Stack.toList_push, ref_of_mapM_index hparts]

theorem toList_applyAll_allEdits : (moves : List Move) → {es : List (StackEdit StateRef)} →
    s.allEdits moves = .ok es → ∀ st : Stack StateRef,
      (st.applyAll es).toList = Move.allFramesAfter s.ref moves st.toList
  | [], _, h, st => by
    cases h
    rfl
  | move :: moves, _, h, st => by
    obtain ⟨first, hfirst, h⟩ := bind_eq_ok.1 h
    obtain ⟨rest, hrest, h⟩ := bind_eq_ok.1 h
    cases h
    -- the rest of the sequence goes on with the stack that its first move leaves
    rw [Stack.applyAll_append, toList_applyAll_allEdits moves hrest,
      toList_applyAll_edits move hfirst]
    rfl

end

/-- The names in a move that is resolved stand for states. -/
theorem getElem?_of_edits {move : Move} {es : List (StackEdit StateRef)} (h : s.edits move = .ok es)
    {name : String} (hname : name ∈ move.names) : s.states[s.states.idxOf name]? = some name := by
  refine List.getElem?_idxOf ?_
  by_contra hunknown
  have hclean := (reports_edits move).clean es h (.unknownState name)
  exact hclean (exists_rejects_iff.2 (.inl ⟨name, hname, hunknown, rfl⟩))

/-- The edits of a move do to every stack what the move says, with the states that its names stand
for; they never empty it; and a rule with these edits stays where it is exactly if the move does. -/
theorem edits_simulate {move : Move} {es : List (StackEdit StateRef)} (h : s.edits move = .ok es)
    (st : Stack StateRef) :
    (st.applyAll es).toList = move.framesAfter s.ref st.toList ∧
      move.framesAfter s.ref st.toList ≠ [] ∧
      (∀ name ∈ move.names, s.states[s.states.idxOf name]? = some name) ∧
      ∀ pattern action, Rule.isStay ⟨pattern, action, es⟩ = move.isStay := by
  have hframes := toList_applyAll_edits move h st
  refine ⟨hframes, ?_, fun name hname => getElem?_of_edits h hname, fun _ _ => ?_⟩
  · rw [← hframes]
    exact Stack.toList_ne_nil _
  · exact isEmpty_edits move h

/-- A sequence in a sequence that takes off more frames than there are, and then builds on the one
that is left. -/
def rebuilding : Move :=
  .seq [.pushTop, .seq [.stay, .pop 7, .push "tags"], .seq [], .combined ["tags", "root"], .pushTop]

theorem edits_simulate_rebuilding :
    ∃ es, edits ⟨["root", "tags"], 0, .standard, false⟩ rebuilding = .ok es ∧
      (Stack.applyAll es ⟨.named 1, [.named 0]⟩).toList =
        [.named 0, .named 1, .combined [1, 0], .combined [1, 0]] ∧
      Rule.isStay ⟨⟨"", none, none, 0, .words []⟩, none, es⟩ = false := by
  have hedits : edits ⟨["root", "tags"], 0, .standard, false⟩ rebuilding =
      .ok [.pushTop, .pop 7, .push (.named 1), .push (.combined [1, 0]), .pushTop] := rfl
  obtain ⟨hframes, _, _, hstay⟩ := edits_simulate hedits ⟨.named 1, [.named 0]⟩
  exact ⟨_, hedits, hframes, hstay _ _⟩

end Scope

end Lexing
