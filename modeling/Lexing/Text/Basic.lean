/-!
# Texts and byte offsets

A text is a list of characters, and every position in it is a byte offset into its UTF-8 form.
An offset is a boundary when a character, or the end of the text, stands there. Offsets that fall
inside a character are rounded up to the next boundary.
-/
set_option autoImplicit false

namespace Lexing

abbrev Text := List Char

structure Span where
  start : Nat
  stop : Nat
deriving DecidableEq, Repr

namespace Span

def isEmpty (s : Span) : Bool := s.stop ≤ s.start

def size (s : Span) : Nat := s.stop - s.start

end Span

namespace Text

def size : Text → Nat
  | [] => 0
  | c :: t => c.utf8Size + size t

def skip : Text → Nat → Text
  | [], _ => []
  | c :: t, p => if p = 0 then c :: t else skip t (p - c.utf8Size)

/-- The whole characters that fit into the first `n` bytes. -/
def fit : Text → Nat → Text
  | [], _ => []
  | c :: t, n => if c.utf8Size ≤ n then c :: fit t (n - c.utf8Size) else []

def slice (t : Text) (s : Span) : Text := (t.skip s.start).fit s.size

/-- The first boundary at or after `p`, and the size of the text when there is none. -/
def roundUp : Text → Nat → Nat
  | [], _ => 0
  | c :: t, p => if p = 0 then 0 else c.utf8Size + roundUp t (p - c.utf8Size)

def isBoundary (t : Text) (p : Nat) : Bool := t.roundUp p == p

/-- The character before offset `p` and the characters from `p` on; `last` is before the text. -/
def split (last : Option Char) : Text → Nat → Option Char × Text
  | [], _ => (last, [])
  | c :: t, p => if p = 0 then (last, c :: t) else split (some c) t (p - c.utf8Size)

def endsWithAt (t s : Text) (p : Nat) : Bool := s.isSuffixOf (t.fit p)

theorem utf8Size_pos (c : Char) : 0 < c.utf8Size := Char.utf8Size_pos c

@[simp] theorem size_nil : size [] = 0 := rfl

@[simp] theorem size_cons (c : Char) (t : Text) : size (c :: t) = c.utf8Size + size t := rfl

@[simp] theorem size_append (a b : Text) : size (a ++ b) = size a + size b := by
  induction a with
  | nil => simp
  | cons c a ih => simp [ih, Nat.add_assoc]

theorem size_eq_zero {t : Text} : size t = 0 ↔ t = [] := by
  cases t with
  | nil => simp
  | cons c t => simp; have := utf8Size_pos c; omega

@[simp] theorem skip_zero (t : Text) : skip t 0 = t := by cases t <;> simp [skip]

end Text

end Lexing
