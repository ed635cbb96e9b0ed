/-!
# Stacks

A stack of frames that is never empty: popping keeps the bottom frame, however many frames are to
go. A list of frames stands for a stack with the bottom frame first.
-/
set_option autoImplicit false

namespace Lexing

structure Stack (σ : Type) where
  top : σ
  below : List σ
deriving DecidableEq, Repr

namespace Stack

variable {σ τ : Type}

def single (frame : σ) : Stack σ := ⟨frame, []⟩

def toList (s : Stack σ) : List σ := s.below.reverse ++ [s.top]

def ofList? (frames : List σ) : Option (Stack σ) :=
  match frames.reverse with
  | [] => none
  | top :: below => some ⟨top, below⟩

def depth (s : Stack σ) : Nat := s.below.length + 1

def push (s : Stack σ) (frame : σ) : Stack σ := ⟨frame, s.top :: s.below⟩

/-- Takes frames off until `n` are gone or one is left. -/
def popFrom (top : σ) : List σ → Nat → Stack σ
  | [], _ => ⟨top, []⟩
  | next :: below, 0 => ⟨top, next :: below⟩
  | next :: below, n + 1 => popFrom next below n

def pop (s : Stack σ) (n : Nat) : Stack σ := popFrom s.top s.below n

def map (f : σ → τ) (s : Stack σ) : Stack τ := ⟨f s.top, s.below.map f⟩

/-- The same number of frames with the same one on top. -/
def sameShape [DecidableEq σ] (a b : Stack σ) : Bool := a.depth == b.depth && a.top == b.top

@[simp] theorem toList_single (frame : σ) : (single frame).toList = [frame] := rfl

@[simp] theorem toList_push (s : Stack σ) (frame : σ) :
    (s.push frame).toList = s.toList ++ [frame] := by
  simp [toList, push]

theorem toList_ne_nil (s : Stack σ) : s.toList ≠ [] := by simp [toList]

@[simp] theorem length_toList (s : Stack σ) : s.toList.length = s.depth := by
  simp [toList, depth]

@[simp] theorem ofList?_toList (s : Stack σ) : ofList? s.toList = some s := by
  simp [ofList?, toList]

@[simp] theorem pop_zero (s : Stack σ) : s.pop 0 = s := by
  obtain ⟨top, below⟩ := s
  cases below <;> rfl

theorem depth_popFrom (top : σ) (below : List σ) (n : Nat) :
    (popFrom top below n).depth = below.length - n + 1 := by
  induction below generalizing top n with
  | nil => simp [popFrom, depth]
  | cons next below ih =>
    cases n with
    | zero => simp [popFrom, depth]
    | succ n =>
      rw [popFrom, ih]
      simp only [List.length_cons]
      omega

theorem depth_pop (s : Stack σ) (n : Nat) : (s.pop n).depth = max (s.depth - n) 1 := by
  rw [pop, depth_popFrom, depth]
  omega

end Stack

inductive StackEdit (σ : Type)
  | push (frame : σ)
  | pushTop
  | pop (n : Nat)
deriving DecidableEq, Repr

namespace StackEdit

variable {σ τ : Type}

def apply : StackEdit σ → Stack σ → Stack σ
  | push frame, s => s.push frame
  | pushTop, s => s.push s.top
  | pop n, s => s.pop n

def map (f : σ → τ) : StackEdit σ → StackEdit τ
  | push frame => push (f frame)
  | pushTop => pushTop
  | pop n => pop n

def mapM? (f : σ → Option τ) : StackEdit σ → Option (StackEdit τ)
  | push frame => (f frame).map push
  | pushTop => some pushTop
  | pop n => some (pop n)

end StackEdit

def Stack.applyAll {σ : Type} (edits : List (StackEdit σ)) (s : Stack σ) : Stack σ :=
  edits.foldl (fun s e => e.apply s) s

end Lexing
