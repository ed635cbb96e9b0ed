import Lexing.Proofs.Machine.Closed
import Lexing.Proofs.Run.Step

/-!
# Cursors that are reached

Callers make cursors and edit them, runs move them on, and the runs for delegated text start from
cursors of their own. Whatever is done, and in whatever order, the cursor stays valid and all states
on its stack stay states of the machine.
-/
set_option autoImplicit false

namespace Lexing

namespace Machine

/-- The cursor is valid, and the states on its stack are states of the machine. -/
structure Owns (m : Machine) (c : Cursor StateRef) : Prop where
  valid : c.Valid
  states : ∀ s ∈ c.stack.toList, m.Has s

def edited (m : Machine) (c : Cursor StateRef) (edits : List CursorEdit) : Cursor StateRef :=
  c.editAll (fun name => (m.resolve name).toOption) edits

variable {m : Machine} {c : Cursor StateRef}

theorem Owns.start (text : Text) {stack : Stack StateRef} (h : ∀ s ∈ stack.toList, m.Has s) :
    m.Owns (Cursor.start text stack) :=
  ⟨Cursor.valid_start text stack, h⟩

theorem Owns.setPos (h : m.Owns c) (p : Nat) : m.Owns (c.setPos p) :=
  ⟨h.valid.setPos p, h.states⟩

theorem Owns.setStop (h : m.Owns c) (p : Nat) : m.Owns (c.setStop p) :=
  ⟨h.valid.setStop p, h.states⟩

theorem Owns.turn (h : m.Owns c) {edits : List (StackEdit StateRef)}
    (pushed : ∀ s, .push s ∈ edits → m.Has s) : m.Owns (c.turn edits) := by
  refine ⟨h.valid.turn edits, fun s hs => ?_⟩
  rcases Stack.mem_of_mem_applyAll hs with hs | hs
  · exact h.states s hs
  · exact pushed s hs

theorem Owns.edit (h : m.Owns c) (e : CursorEdit) :
    m.Owns ((c.edit? (fun name => (m.resolve name).toOption) e).getD c) := by
  cases e with
  | setPos p => exact h.setPos p
  | setStop p => exact h.setStop p
  | stack e =>
    cases e with
    | push name =>
      cases hname : m.resolve name with
      | error unknown =>
        simp only [Cursor.edit?, StackEdit.mapM?, hname]
        exact h
      | ok state =>
        simp only [Cursor.edit?, StackEdit.mapM?, hname]
        refine h.turn fun s hs => ?_
        obtain rfl := StackEdit.push.inj (List.mem_singleton.1 hs)
        exact has_of_resolve hname
    | pushTop =>
      refine h.turn fun s hs => ?_
      cases List.mem_singleton.1 hs
    | pop n =>
      refine h.turn fun s hs => ?_
      cases List.mem_singleton.1 hs

theorem Owns.edited (h : m.Owns c) (edits : List CursorEdit) : m.Owns (m.edited c edits) :=
  List.foldlRecOn edits _ h fun _ hd e _ => hd.edit e

/-- A push under a name that stands for no state changes nothing. -/
theorem edited_of_unknown {name : String} (h : name ∉ m.stateNames) :
    m.edited c [.stack (.push name)] = c := by
  have hindex : m.index? name = none := by
    rw [index?, List.idxOf?_eq_none_iff]
    exact h
  simp only [Machine.edited, Cursor.editAll, List.foldl_cons, List.foldl_nil, Cursor.edit?,
    StackEdit.mapM?, resolve, hindex]
  rfl

theorem Owns.steered (h : m.Owns c) (start : Nat) (edits : List CursorEdit) :
    m.Owns (m.steered c start edits) := by
  have hedited := h.edited edits
  simp only [Machine.steered]
  rw [← Machine.edited]
  split
  · split
    · exact (hedited.setStop _).setPos _
    · exact hedited.setStop _
  · split
    · exact hedited.setPos _
    · exact hedited

theorem Owns.arrive (closed : m.Closed) (h : m.Owns c) {rule : Rule} {found : Match}
    (first : m.firstMatch c = some (rule, found)) : m.Owns (m.arrive c rule found) := by
  have pushed : ∀ s, .push s ∈ rule.edits → m.Has s := fun s hs =>
    closed.pushed _ rule s (firstMatch_spec first).1 hs
  unfold Machine.arrive
  split
  · exact (h.steered _ _).turn pushed
  · exact (h.setPos _).turn pushed

theorem Owns.recover (h : m.Owns c) : m.Owns (Config.recover c).1.cursor := by
  refine ⟨(Config.recover_leads h.valid).valid, ?_⟩
  rw [Config.recover_stack]
  exact h.states

theorem Owns.step (closed : m.Closed) {c : Config} (h : m.Owns c.cursor)
    (hgo : c.cursor.atEnd = false) (same : Stack StateRef → Stack StateRef → Bool)
    (nested : Nested) : m.Owns (m.step same nested c).1.cursor := by
  have outcome := m.step_outcome same nested h.valid hgo
  generalize m.step same nested c = result at outcome ⊢
  cases outcome with
  | moved first _ => exact h.arrive closed first
  | idled first _ _ _ => exact h.arrive closed first
  | stuck first _ _ => exact (h.arrive closed first).recover
  | unmatched _ => exact h.recover

theorem has_of_stackOf (closed : m.Closed) {names : List String} {stack : Stack StateRef}
    (h : m.stackOf names = .ok stack) {s : StateRef} (hs : s ∈ stack.toList) : m.Has s := by
  obtain ⟨frames, hframes, h⟩ := bind_eq_ok.1 h
  cases h
  cases hstack : Stack.ofList? frames with
  | none =>
    rw [hstack] at hs
    obtain rfl := List.mem_singleton.1 hs
    exact closed.root
  | some stack =>
    rw [hstack, Option.getD_some, Stack.toList_of_ofList? hstack] at hs
    obtain ⟨name, _, hname⟩ := exists_of_mapM hframes hs
    exact has_of_resolve hname

/-- The cursors that callers make, that the runs for delegated text start from, and that edits and
steps lead to. Within a step the stack edits of a rule are made one by one. -/
inductive Reached (m : Machine) : Cursor StateRef → Prop
  | fresh (text : Text) : Reached m (Cursor.start text (.single (.named m.root)))
  | opened (text : Text) {names : List String} {stack : Stack StateRef}
      (known : m.stackOf names = .ok stack) : Reached m (Cursor.start text stack)
  | nested (text : Text) {stack : Stack StateRef} (hands : m.HandsTo (.self stack)) :
      Reached m (Cursor.start text stack)
  | edited {c : Cursor StateRef} (before : Reached m c) (edits : List CursorEdit) :
      Reached m (m.edited c edits)
  | turned {c : Cursor StateRef} (before : Reached m c) {ref : StateRef} {r : Rule}
      {edits : List (StackEdit StateRef)} (rule : r ∈ (m.state ref).rules)
      (made : edits <+: r.edits) : Reached m (c.turn edits)
  | stepped {c : Cursor StateRef} (before : Reached m c) (go : c.atEnd = false)
      (same : Stack StateRef → Stack StateRef → Bool) (nested : Nested) (idle : Nat) :
      Reached m (m.step same nested ⟨c, idle⟩).1.cursor

theorem Reached.owns (closed : m.Closed) (h : m.Reached c) : m.Owns c := by
  induction h with
  | fresh text =>
    refine .start text fun s hs => ?_
    obtain rfl := List.mem_singleton.1 hs
    exact closed.root
  | opened text known => exact .start text fun s hs => has_of_stackOf closed known hs
  | nested text hands => exact .start text fun s hs => closed.started _ s hands hs
  | edited _ edits ih => exact ih.edited edits
  | turned _ rule made ih =>
    exact ih.turn fun s hs => closed.pushed _ _ s rule (made.subset hs)
  | stepped _ go same nested idle ih => exact ih.step closed go same nested

end Machine

end Lexing
