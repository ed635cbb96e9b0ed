import Lexing.Run.Basic

/-!
# Machines that runs cannot tell apart

A run asks a machine for its root, for the names of its states, and at each cursor for the first
rule that matches. Machines that are alike give the same answers, so they make the same steps, with
the same runs nested inside, and whatever can be observed of a run is the same. How the states that
are not named are numbered, or which rules never come first, is nothing that a run could find out.
-/
set_option autoImplicit false

namespace Lexing

/-- What can be observed of a run that starts from named states: at most `n` tokens, each with the
cursor after it, and the cursor where the run is left. The cursors have their states by name. -/
def Machine.observed (m : Machine) (text : Text) (names : List String) (n : Nat) :
    Except UnknownState (List (Token × Cursor String) × Cursor String) := do
  let stack ← m.stackOf names
  let (taken, last) := (Run.resume (.start text stack)).take m n
  return (taken.map fun (t, r) => (t, r.config.cursor.map m.nameOf),
    last.config.cursor.map m.nameOf)

theorem Machine.name_named (m : Machine) (i : Nat) :
    (m.named i).name = m.stateNames[i]?.getD "" := by
  rw [named, stateNames, List.getElem?_map]
  cases m.states[i]? <;> rfl

structure Machine.Alike (m m' : Machine) : Prop where
  root : m'.root = m.root
  stateNames : m'.stateNames = m.stateNames
  firstMatch : m'.firstMatch = m.firstMatch

namespace Machine.Alike

variable {m m' : Machine}

theorem nameOf (h : m.Alike m') : m'.nameOf = m.nameOf := by
  have hnamed : ∀ i, (m'.named i).name = (m.named i).name := fun i => by
    rw [name_named, name_named, h.stateNames]
  funext s
  cases s with
  | named i => exact hnamed i
  | combined parts =>
    change "+".intercalate (parts.map fun i => (m'.named i).name) = _
    rw [funext hnamed]
    rfl

theorem resolve (h : m.Alike m') : m'.resolve = m.resolve := by
  funext name
  simp only [Machine.resolve, index?, h.stateNames]

theorem stackOf (h : m.Alike m') : m'.stackOf = m.stackOf := by
  funext names
  simp only [Machine.stackOf, h.resolve, h.root]

theorem view (h : m.Alike m') : m'.view = m.view := by
  funext c
  simp only [Machine.view, h.nameOf, h.stateNames]

theorem steered (h : m.Alike m') : m'.steered = m.steered := by
  funext c start edits
  simp only [Machine.steered, h.resolve]

theorem apply (h : m.Alike m') : m'.apply = m.apply := by
  funext same nested c rule found
  simp only [Machine.apply, h.view, h.steered]

theorem step (h : m.Alike m') : m'.step = m.step := by
  funext same nested c
  simp only [Machine.step, h.firstMatch, h.apply]

theorem drain (h : m.Alike m') (same : Stack StateRef → Stack StateRef → Bool) (nested : Nested)
    (fuel : Nat) (c : Config) : m'.drain same nested fuel c = m.drain same nested fuel c := by
  induction fuel generalizing c with
  | zero => rfl
  | succ fuel ih => simp only [Machine.drain, h.step, ih]

theorem nestedTokens (h : m.Alike m') (same : Stack StateRef → Stack StateRef → Bool)
    (levels : Nat) : m'.nestedTokens same levels = m.nestedTokens same levels := by
  induction levels with
  | zero => rfl
  | succ levels ih =>
    funext text stack
    simp only [Machine.nestedTokens, ih, h.drain]

theorem nested (h : m.Alike m') : m'.nested = m.nested := h.nestedTokens _ _

theorem tokens (h : m.Alike m') : m'.tokens = m.tokens := by
  funext text
  rw [Machine.tokens, h.nestedTokens, h.root]
  rfl

theorem fill (h : m.Alike m') (fuel : Nat) (r : Run) : r.fill m' fuel = r.fill m fuel := by
  induction fuel generalizing r with
  | zero => rfl
  | succ fuel ih => simp only [Run.fill, h.step, h.nested, ih]

theorem next (h : m.Alike m') (r : Run) : r.next m' = r.next m := by
  rw [Run.next, Run.next, h.fill]

theorem take (h : m.Alike m') (n : Nat) (r : Run) : r.take m' n = r.take m n := by
  induction n generalizing r with
  | zero => rfl
  | succ n ih => simp only [Run.take, h.next, ih]

theorem observed (h : m.Alike m') (text : Text) (names : List String) (n : Nat) :
    m'.observed text names n = m.observed text names n := by
  simp only [Machine.observed, h.stackOf, h.nameOf, h.take]

end Machine.Alike

end Lexing
