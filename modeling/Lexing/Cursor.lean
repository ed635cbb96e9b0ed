import Lexing.Stack
import Lexing.Text.Basic

/-!
# Cursors

Where a run is: the text, the offset of what comes next, the offset at which to stop, and the stack.
Every operation keeps both offsets on boundaries of the text, the first at most the second.
-/
set_option autoImplicit false

namespace Lexing

structure Cursor (σ : Type) where
  text : Text
  pos : Nat
  stop : Nat
  stack : Stack σ
deriving DecidableEq, Repr

inductive CursorEdit
  | setPos (pos : Nat)
  | setStop (stop : Nat)
  | stack (edit : StackEdit String)
deriving DecidableEq, Repr

namespace Cursor

variable {σ τ : Type}

def start (text : Text) (stack : Stack σ) : Cursor σ := ⟨text, 0, text.size, stack⟩

def atEnd (c : Cursor σ) : Bool := c.stop ≤ c.pos

def remaining (c : Cursor σ) : Text := c.text.slice ⟨c.pos, c.stop⟩

/-- Moves to the first boundary at or after `pos`, but not beyond `stop`. -/
def setPos (c : Cursor σ) (pos : Nat) : Cursor σ :=
  { c with pos := c.text.roundUp (min pos c.stop) }

/-- Stops at the first boundary at or after `stop`, but not before the current offset. -/
def setStop (c : Cursor σ) (stop : Nat) : Cursor σ :=
  { c with stop := max (c.text.roundUp (min stop c.text.size)) c.pos }

def turn (c : Cursor σ) (edits : List (StackEdit σ)) : Cursor σ :=
  { c with stack := c.stack.applyAll edits }

def map (f : σ → τ) (c : Cursor σ) : Cursor τ := ⟨c.text, c.pos, c.stop, c.stack.map f⟩

/-- Makes one change. Pushing a name that stands for no state is no change, and gives `none`. -/
def edit? (resolve : String → Option σ) (c : Cursor σ) : CursorEdit → Option (Cursor σ)
  | .setPos pos => some (c.setPos pos)
  | .setStop stop => some (c.setStop stop)
  | .stack e => (e.mapM? resolve).map fun e => c.turn [e]

/-- Makes the changes one after the other, without those that fail. -/
def editAll (resolve : String → Option σ) (c : Cursor σ) (edits : List CursorEdit) : Cursor σ :=
  edits.foldl (fun c e => (c.edit? resolve e).getD c) c

end Cursor

end Lexing
