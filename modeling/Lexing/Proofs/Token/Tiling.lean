import Lexing.Proofs.Text.Boundary
import Lexing.Token

/-!
# Tilings and placed tokens

Placed tokens are parts of a text that stand in order between two offsets; parts of the text may be
missing between them. They tile the text exactly if none is missing, which is a matter of their
size. So a list of tokens that is put together from placed ones tiles its text exactly if each of
its parts does.
-/
set_option autoImplicit false

namespace Lexing

namespace Token

/-- The token is a part of the text, at the place where it stands there. -/
structure IsPart (t : Token) (text : Text) : Prop where
  start : text.Boundary t.offset
  stop : text.Boundary t.stop
  ne_nil : t.text ≠ []
  eq_slice : t.text = text.slice ⟨t.offset, t.stop⟩

theorem IsPart.lt {t : Token} {text : Text} (h : t.IsPart text) : t.offset < t.stop := by
  have hne : Text.size t.text ≠ 0 := fun h' => h.ne_nil (Text.size_eq_zero.1 h')
  simp only [Token.stop]
  omega

@[simp] theorem stop_shift (t : Token) (n : Nat) : (t.shift n).stop = t.stop + n := by
  simp only [Token.stop, Token.shift]
  omega

@[simp] theorem offset_shift (t : Token) (n : Nat) : (t.shift n).offset = t.offset + n := rfl

@[simp] theorem text_shift (t : Token) (n : Nat) : (t.shift n).text = t.text := rfl

end Token

def joined (ts : List Token) : Text := ts.flatMap Token.text

@[simp] theorem joined_nil : joined [] = [] := rfl

@[simp] theorem joined_cons (t : Token) (ts : List Token) :
    joined (t :: ts) = t.text ++ joined ts := rfl

@[simp] theorem joined_append (xs ys : List Token) : joined (xs ++ ys) = joined xs ++ joined ys :=
  List.flatMap_append

@[simp] theorem joined_shift (ts : List Token) (n : Nat) :
    joined (ts.map (·.shift n)) = joined ts := by
  induction ts with
  | nil => rfl
  | cons t ts ih => rw [List.map_cons, joined_cons, joined_cons, ih, Token.text_shift]

theorem tiles_nil (p : Nat) : Tiles p [] [] := ⟨trivial, rfl⟩

theorem tiles_single {p : Nat} {text : Text} (k : Kind) (h : text ≠ []) :
    Tiles p text [⟨p, k, text⟩] :=
  ⟨⟨rfl, h, trivial⟩, by simp⟩

theorem contiguous_append {p : Nat} {xs ys : List Token} (hx : Contiguous p xs)
    (hy : Contiguous (p + (joined xs).size) ys) : Contiguous p (xs ++ ys) := by
  induction xs generalizing p with
  | nil => simpa using hy
  | cons t xs ih =>
    obtain ⟨rfl, hne, htail⟩ := hx
    refine ⟨rfl, hne, ih htail ?_⟩
    simpa only [joined_cons, Text.size_append, Token.stop, Nat.add_assoc] using hy

theorem Tiles.append {p : Nat} {a b : Text} {xs ys : List Token} (hx : Tiles p a xs)
    (hy : Tiles (p + a.size) b ys) : Tiles p (a ++ b) (xs ++ ys) := by
  obtain ⟨hcx, rfl⟩ := hx
  obtain ⟨hcy, rfl⟩ := hy
  exact ⟨contiguous_append hcx hcy, List.flatMap_append⟩

theorem contiguous_shift {p n : Nat} {ts : List Token} :
    Contiguous (p + n) (ts.map (·.shift n)) ↔ Contiguous p ts := by
  induction ts generalizing p with
  | nil => rfl
  | cons t ts ih =>
    simp only [List.map_cons, Contiguous, Token.offset_shift, Token.text_shift, Token.stop_shift,
      ih]
    rw [Nat.add_right_cancel_iff]

theorem tiles_shift {p n : Nat} {text : Text} {ts : List Token} :
    Tiles (p + n) text (ts.map (·.shift n)) ↔ Tiles p text ts := by
  have hj : (ts.map (·.shift n)).flatMap Token.text = ts.flatMap Token.text := joined_shift ts n
  rw [Tiles, Tiles, contiguous_shift, hj]

theorem Tiles.append_slice {text : Text} {p q r : Nat} {xs ys : List Token}
    (hp : text.Boundary p) (hq : text.Boundary q) (hr : text.Boundary r) (hpq : p ≤ q) (hqr : q ≤ r)
    (hx : Tiles p (text.slice ⟨p, q⟩) xs) (hy : Tiles q (text.slice ⟨q, r⟩) ys) :
    Tiles p (text.slice ⟨p, r⟩) (xs ++ ys) := by
  rw [← Text.slice_append_slice hp hq hr hpq hqr]
  refine hx.append ?_
  rw [Text.size_slice hp hq hpq, Nat.add_sub_cancel' hpq]
  exact hy

/-- The tokens are parts of the text, one after the other between two offsets. -/
def Placed (text : Text) : Nat → Nat → List Token → Prop
  | start, stop, [] => start ≤ stop
  | start, stop, t :: ts => start ≤ t.offset ∧ t.IsPart text ∧ Placed text t.stop stop ts

variable {text : Text} {p q r : Nat} {xs ys ts : List Token}

theorem Placed.le (h : Placed text p q ts) : p ≤ q := by
  induction ts generalizing p with
  | nil => exact h
  | cons t ts ih =>
    obtain ⟨hp, hpart, htail⟩ := h
    have := hpart.lt
    have := ih htail
    omega

theorem Placed.mono {p' q' : Nat} (h : Placed text p q ts) (hp : p' ≤ p) (hq : q ≤ q') :
    Placed text p' q' ts := by
  induction ts generalizing p p' with
  | nil => exact Nat.le_trans hp (Nat.le_trans h hq)
  | cons t ts ih => exact ⟨Nat.le_trans hp h.1, h.2.1, ih h.2.2 (Nat.le_refl _)⟩

theorem Placed.append (hx : Placed text p q xs) (hy : Placed text q r ys) :
    Placed text p r (xs ++ ys) := by
  induction xs generalizing p with
  | nil => exact hy.mono hx (Nat.le_refl _)
  | cons t xs ih => exact ⟨hx.1, hx.2.1, ih hx.2.2⟩

theorem Placed.size_le (h : Placed text p q ts) : (joined ts).size ≤ q - p := by
  induction ts generalizing p with
  | nil => exact Nat.zero_le _
  | cons t ts ih =>
    obtain ⟨hp, _, htail⟩ := h
    have hrest := ih htail
    have hq := htail.le
    simp only [Token.stop] at hrest hq
    simp only [joined_cons, Text.size_append]
    omega

theorem Tiles.placed (hp : text.Boundary p) (hq : text.Boundary q) (hpq : p ≤ q)
    (h : Tiles p (text.slice ⟨p, q⟩) ts) : Placed text p q ts := by
  induction ts generalizing p with
  | nil => exact hpq
  | cons t ts ih =>
    obtain ⟨⟨rfl, hne, hc⟩, hj⟩ := h
    change t.text ++ joined ts = _ at hj
    have hcut : Text.Boundary (text.slice ⟨t.offset, q⟩) t.text.size := ⟨_, _, hj.symm, rfl⟩
    have hstop : text.Boundary t.stop := hp.of_slice hq hpq hcut
    have hle : t.stop ≤ q := by
      have := hcut.le_size
      rw [Text.size_slice hp hq hpq] at this
      simp only [Token.stop]
      omega
    have hle' : t.offset ≤ t.stop := Nat.le_add_right _ _
    rw [← Text.slice_append_slice hp hstop hq hle' hle] at hj
    have hsize : t.text.size = (text.slice ⟨t.offset, t.stop⟩).size := by
      rw [Text.size_slice hp hstop hle', Token.stop, Nat.add_sub_cancel_left]
    obtain ⟨htext, hrest⟩ := Text.append_inj hj hsize
    exact ⟨Nat.le_refl _, ⟨hp, hstop, hne, htext⟩, ih hstop hle ⟨hc, hrest⟩⟩

theorem Placed.tiles_iff (hp : text.Boundary p) (hq : text.Boundary q) (h : Placed text p q ts) :
    Tiles p (text.slice ⟨p, q⟩) ts ↔ (joined ts).size = q - p := by
  constructor
  · intro ht
    rw [← Text.size_slice hp hq h.le, ← ht.2]
    rfl
  · intro hs
    induction ts generalizing p with
    | nil =>
      obtain rfl : p = q := by
        have := h.le
        simp only [joined_nil, Text.size_nil] at hs
        omega
      rw [Text.slice_self]
      exact tiles_nil p
    | cons t ts ih =>
      obtain ⟨hle, hpart, htail⟩ := h
      have hrest := htail.size_le
      have hq' := htail.le
      have hstop : t.stop = t.offset + t.text.size := rfl
      simp only [joined_cons, Text.size_append] at hs
      obtain rfl : p = t.offset := by omega
      have hlt := hpart.lt
      have hthis : Tiles t.offset (text.slice ⟨t.offset, t.stop⟩) [t] := by
        rw [← hpart.eq_slice]
        exact tiles_single t.kind hpart.ne_nil
      exact Tiles.append_slice hp hpart.stop hq (Nat.le_of_lt hlt) hq' hthis
        (ih hpart.stop htail (by omega))

theorem Placed.tiles_append_iff (hp : text.Boundary p) (hq : text.Boundary q)
    (hr : text.Boundary r) (hx : Placed text p q xs) (hy : Placed text q r ys) :
    Tiles p (text.slice ⟨p, r⟩) (xs ++ ys) ↔
      Tiles p (text.slice ⟨p, q⟩) xs ∧ Tiles q (text.slice ⟨q, r⟩) ys := by
  rw [(hx.append hy).tiles_iff hp hr, hx.tiles_iff hp hq, hy.tiles_iff hq hr, joined_append,
    Text.size_append]
  have hxs := hx.size_le
  have hys := hy.size_le
  have hpq := hx.le
  have hqr := hy.le
  omega

theorem Placed.shift {a b : Nat} (hp : text.Boundary p) (hq : text.Boundary q) (hpq : p ≤ q)
    (h : Placed (text.slice ⟨p, q⟩) a b ts) : Placed text (p + a) (p + b) (ts.map (·.shift p)) := by
  induction ts generalizing a with
  | nil => exact Nat.add_le_add_left h p
  | cons t ts ih =>
    obtain ⟨hle, hpart, htail⟩ := h
    refine ⟨?_, ?_, ?_⟩
    · rw [Token.offset_shift]
      omega
    · have hstop : (t.shift p).stop = p + t.stop := by rw [Token.stop_shift, Nat.add_comm]
      have hstart : (t.shift p).offset = p + t.offset := Nat.add_comm _ _
      refine ⟨?_, ?_, hpart.ne_nil, ?_⟩
      · rw [hstart]
        exact hp.of_slice hq hpq hpart.start
      · rw [hstop]
        exact hp.of_slice hq hpq hpart.stop
      · rw [hstop, hstart, Token.text_shift,
          ← Text.slice_slice hp hq hpq hpart.start hpart.stop (Nat.le_of_lt hpart.lt)]
        exact hpart.eq_slice
    · rw [Token.stop_shift, Nat.add_comm]
      exact ih htail

theorem Placed.moved (hp : text.Boundary p) (hq : text.Boundary q) (hpq : p ≤ q)
    (h : Placed (text.slice ⟨p, q⟩) 0 (text.slice ⟨p, q⟩).size ts) :
    Placed text p q (ts.map (·.shift p)) := by
  have hmoved := h.shift hp hq hpq
  rwa [Text.size_slice hp hq hpq, Nat.add_sub_cancel' hpq] at hmoved

theorem Token.IsPart.moved {t : Token} (h : t.IsPart text) (hts : Placed t.text 0 t.text.size ts) :
    Placed text t.offset t.stop (ts.map (·.shift t.offset)) := by
  rw [h.eq_slice] at hts
  exact hts.moved h.start h.stop (Nat.le_of_lt h.lt)

theorem tiles_moved {a : Text} : Tiles p a (ts.map (·.shift p)) ↔ Tiles 0 a ts := by
  have hshift : Tiles (0 + p) a (ts.map (·.shift p)) ↔ Tiles 0 a ts := tiles_shift
  rwa [Nat.zero_add] at hshift

theorem Placed.isPart {t : Token} (h : Placed text p q ts) (ht : t ∈ ts) : t.IsPart text := by
  induction ts generalizing p with
  | nil => cases ht
  | cons u ts ih =>
    obtain ⟨_, hpart, htail⟩ := h
    rcases List.mem_cons.1 ht with rfl | ht
    · exact hpart
    · exact ih htail ht

theorem Tiles.placed_all (h : Tiles 0 text ts) : Placed text 0 text.size ts :=
  Tiles.placed (text.boundary_zero) text.boundary_size (Nat.zero_le _)
    (by rw [Text.slice_all]; exact h)

theorem Tiles.last_stop {a : Text} (h : Tiles p a ts) :
    (ts.getLast?.map Token.stop).getD p = p + a.size := by
  obtain ⟨hc, rfl⟩ := h
  change _ = p + (joined ts).size
  induction ts generalizing p with
  | nil => rfl
  | cons t ts ih =>
    obtain ⟨rfl, _, htail⟩ := hc
    have hrest := ih htail
    rw [joined_cons, Text.size_append, ← Nat.add_assoc]
    change _ = t.stop + _
    rw [← hrest, List.getLast?_cons]
    cases ts.getLast? <;> rfl

theorem Tiles.length_le {a : Text} (h : Tiles p a ts) : ts.length ≤ a.size := by
  obtain ⟨hc, rfl⟩ := h
  change ts.length ≤ (joined ts).size
  induction ts generalizing p with
  | nil => exact Nat.zero_le _
  | cons t ts ih =>
    obtain ⟨_, hne, htail⟩ := hc
    have hrest := ih htail
    have hpos : Text.size t.text ≠ 0 := fun h => hne (Text.size_eq_zero.1 h)
    simp only [List.length_cons, joined_cons, Text.size_append]
    omega

end Lexing
