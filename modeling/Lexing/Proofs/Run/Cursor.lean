import Lexing.Cursor
import Lexing.Proofs.Text.Boundary

/-!
# Valid cursors

In a valid cursor both offsets are boundaries of the text and the first is not beyond the second.
Cursors start valid and every edit keeps them so, in whatever order edits are made and whatever
offsets they ask for.
-/
set_option autoImplicit false

namespace Lexing

structure Cursor.Valid {σ : Type} (c : Cursor σ) : Prop where
  pos : c.text.Boundary c.pos
  stop : c.text.Boundary c.stop
  le : c.pos ≤ c.stop

/-- The edit leaves the offset at which to stop alone. -/
def CursorEdit.KeepsStop : CursorEdit → Prop
  | .setStop _ => False
  | .setPos _ | .stack _ => True

namespace Cursor

variable {σ : Type} {c : Cursor σ}

theorem valid_start (text : Text) (stack : Stack σ) : (Cursor.start text stack).Valid :=
  ⟨text.boundary_zero, text.boundary_size, Nat.zero_le _⟩

theorem Valid.setPos (h : c.Valid) (p : Nat) : (c.setPos p).Valid :=
  ⟨c.text.boundary_roundUp _, h.stop, Text.roundUp_le h.stop (Nat.min_le_right _ _)⟩

theorem Valid.setStop (h : c.Valid) (p : Nat) : (c.setStop p).Valid := by
  refine ⟨h.pos, ?_, Nat.le_max_right _ _⟩
  simp only [Cursor.setStop]
  rcases Nat.le_total (c.text.roundUp (min p c.text.size)) c.pos with hle | hle
  · rw [Nat.max_eq_right hle]
    exact h.pos
  · rw [Nat.max_eq_left hle]
    exact c.text.boundary_roundUp _

theorem Valid.turn (h : c.Valid) (edits : List (StackEdit σ)) : (c.turn edits).Valid :=
  ⟨h.pos, h.stop, h.le⟩

theorem pos_setPos {p : Nat} (hp : c.text.Boundary p) (hle : p ≤ c.stop) :
    (c.setPos p).pos = p := by
  simp only [Cursor.setPos]
  rw [Nat.min_eq_left hle, hp.roundUp_eq]

theorem setPos_self (h : c.Valid) : c.setPos c.pos = c := by
  simp only [Cursor.setPos]
  rw [Nat.min_eq_left h.le, h.pos.roundUp_eq]

theorem stop_setStop {p : Nat} (hp : c.text.Boundary p) (hle : c.pos ≤ p) :
    (c.setStop p).stop = p := by
  simp only [Cursor.setStop]
  rw [Nat.min_eq_left hp.le_size, hp.roundUp_eq, Nat.max_eq_left hle]

@[simp] theorem text_setPos (p : Nat) : (c.setPos p).text = c.text := rfl

@[simp] theorem stop_setPos (p : Nat) : (c.setPos p).stop = c.stop := rfl

@[simp] theorem stack_setPos (p : Nat) : (c.setPos p).stack = c.stack := rfl

@[simp] theorem text_setStop (p : Nat) : (c.setStop p).text = c.text := rfl

@[simp] theorem pos_setStop (p : Nat) : (c.setStop p).pos = c.pos := rfl

@[simp] theorem text_turn (edits : List (StackEdit σ)) : (c.turn edits).text = c.text := rfl

@[simp] theorem pos_turn (edits : List (StackEdit σ)) : (c.turn edits).pos = c.pos := rfl

@[simp] theorem stop_turn (edits : List (StackEdit σ)) : (c.turn edits).stop = c.stop := rfl

theorem Valid.edit (h : c.Valid) (resolve : String → Option σ) (e : CursorEdit) :
    ((c.edit? resolve e).getD c).Valid ∧ ((c.edit? resolve e).getD c).text = c.text := by
  cases e with
  | setPos p => exact ⟨h.setPos p, rfl⟩
  | setStop p => exact ⟨h.setStop p, rfl⟩
  | stack e =>
    simp only [Cursor.edit?]
    cases e.mapM? resolve with
    | none => exact ⟨h, rfl⟩
    | some e => exact ⟨h.turn [e], rfl⟩

theorem Valid.editAll (h : c.Valid) (resolve : String → Option σ) (edits : List CursorEdit) :
    (c.editAll resolve edits).Valid ∧ (c.editAll resolve edits).text = c.text := by
  refine List.foldlRecOn edits _ (motive := fun d : Cursor σ => d.Valid ∧ d.text = c.text)
    ⟨h, rfl⟩ ?_
  intro d hd e _
  obtain ⟨hv, ht⟩ := hd.1.edit resolve e
  exact ⟨hv, ht.trans hd.2⟩

theorem stop_editAll {resolve : String → Option σ} {edits : List CursorEdit}
    (h : ∀ e ∈ edits, e.KeepsStop) :
    (c.editAll resolve edits).stop = c.stop := by
  refine List.foldlRecOn edits _ (motive := fun d : Cursor σ => d.stop = c.stop) rfl ?_
  intro d hd e he
  rw [← hd]
  cases e with
  | setPos p => rfl
  | setStop p => exact (h _ he).elim
  | stack e =>
    simp only [Cursor.edit?]
    cases e.mapM? resolve <;> rfl

theorem atEnd_iff (h : c.Valid) : c.atEnd = true ↔ c.pos = c.stop := by
  have := h.le
  simp only [Cursor.atEnd, decide_eq_true_eq]
  omega

theorem lt_of_not_atEnd (h : c.atEnd = false) : c.pos < c.stop := by
  simpa [Cursor.atEnd] using h

theorem remaining_eq_nil (h : c.Valid) : c.remaining = [] ↔ c.pos = c.stop :=
  Text.slice_eq_nil h.pos h.stop h.le

end Cursor

end Lexing
