import Lexing.Text.Basic

/-!
# Boundaries and slices

A boundary is an offset at which some first part of the text ends. Between two boundaries lies a
part of the text, and it is what `slice` gives. Rounding up gives the first boundary that is not
before the offset.
-/
set_option autoImplicit false

namespace Lexing.Text

/-- Some first part of the text ends at offset `p`. -/
def Boundary (t : Text) (p : Nat) : Prop := ∃ a b : Text, t = a ++ b ∧ size a = p

variable {t : Text} {p q r : Nat}

theorem fit_zero (t : Text) : fit t 0 = [] := by
  cases t with
  | nil => rfl
  | cons c t =>
    have hc := utf8Size_pos c
    simp only [fit]
    rw [if_neg (by omega)]

theorem skip_append (a b : Text) : skip (a ++ b) (size a) = b := by
  induction a with
  | nil => simp
  | cons c a ih =>
    have hc := utf8Size_pos c
    simp only [List.cons_append, size_cons, skip]
    rw [if_neg (by omega), Nat.add_sub_cancel_left, ih]

theorem fit_append (a b : Text) : fit (a ++ b) (size a) = a := by
  induction a with
  | nil => exact fit_zero _
  | cons c a ih =>
    simp only [List.cons_append, size_cons, fit]
    rw [if_pos (by omega), Nat.add_sub_cancel_left, ih]

theorem append_inj {a b c d : Text} (h : a ++ b = c ++ d) (hs : size a = size c) :
    a = c ∧ b = d := by
  have hfit : fit (a ++ b) (size a) = fit (c ++ d) (size c) := by rw [h, hs]
  rw [fit_append, fit_append] at hfit
  subst hfit
  exact ⟨rfl, List.append_cancel_left h⟩

theorem slice_append (a b c : Text) : slice (a ++ (b ++ c)) ⟨size a, size a + size b⟩ = b := by
  simp only [slice, Span.size, skip_append, Nat.add_sub_cancel_left, fit_append]

theorem boundary_zero (t : Text) : Boundary t 0 := ⟨[], t, rfl, rfl⟩

theorem boundary_size (t : Text) : Boundary t (size t) := ⟨t, [], by simp, rfl⟩

theorem Boundary.le_size (h : Boundary t p) : p ≤ size t := by
  obtain ⟨a, b, rfl, rfl⟩ := h
  rw [size_append]
  omega

theorem Boundary.right {a b : Text} (hq : Boundary (a ++ b) q) (h : size a ≤ q) :
    Boundary b (q - size a) := by
  obtain ⟨x, y, heq, rfl⟩ := hq
  rcases List.append_eq_append_iff.1 heq with ⟨m, rfl, rfl⟩ | ⟨m, rfl, rfl⟩
  · exact ⟨m, y, rfl, by rw [size_append, Nat.add_sub_cancel_left]⟩
  · exact ⟨[], b, rfl, by rw [size_append, size_nil]; omega⟩

theorem Boundary.parts (hp : Boundary t p) (hq : Boundary t q) (h : p ≤ q) :
    ∃ a b c : Text, t = a ++ (b ++ c) ∧ size a = p ∧ size a + size b = q := by
  obtain ⟨a, u, rfl, rfl⟩ := hp
  obtain ⟨b, c, rfl, hb⟩ := hq.right h
  exact ⟨a, b, c, rfl, rfl, by omega⟩

theorem size_slice (hp : Boundary t p) (hq : Boundary t q) (h : p ≤ q) :
    size (t.slice ⟨p, q⟩) = q - p := by
  obtain ⟨a, b, c, rfl, rfl, rfl⟩ := hp.parts hq h
  rw [slice_append]
  omega

@[simp] theorem slice_self (t : Text) (p : Nat) : t.slice ⟨p, p⟩ = [] := by
  simp only [slice, Span.size, Nat.sub_self, fit_zero]

@[simp] theorem slice_all (t : Text) : t.slice ⟨0, size t⟩ = t := by
  simpa using slice_append [] t []

theorem slice_append_slice (hp : Boundary t p) (hq : Boundary t q) (hr : Boundary t r)
    (hpq : p ≤ q) (hqr : q ≤ r) : t.slice ⟨p, q⟩ ++ t.slice ⟨q, r⟩ = t.slice ⟨p, r⟩ := by
  obtain ⟨a, b, u, rfl, rfl, rfl⟩ := hp.parts hq hpq
  obtain ⟨c, d, rfl, hc⟩ := (hr.right (by omega)).right (by omega)
  obtain rfl : r = size a + (size b + size c) := by omega
  have first := slice_append a b (c ++ d)
  have second := slice_append (a ++ b) c d
  have whole := slice_append a (b ++ c) d
  simp only [List.append_assoc, size_append, Nat.add_assoc] at first second whole ⊢
  rw [first, second, whole]

theorem Boundary.max (hp : Boundary t p) (hq : Boundary t q) : Boundary t (max p q) := by
  rcases Nat.le_total p q with h | h
  · rwa [Nat.max_eq_right h]
  · rwa [Nat.max_eq_left h]

theorem Boundary.min (hp : Boundary t p) (hq : Boundary t q) : Boundary t (min p q) := by
  rcases Nat.le_total p q with h | h
  · rwa [Nat.min_eq_left h]
  · rwa [Nat.min_eq_right h]

theorem Boundary.of_slice (hp : Boundary t p) (hq : Boundary t q) (h : p ≤ q)
    (hr : Boundary (t.slice ⟨p, q⟩) r) : Boundary t (p + r) := by
  obtain ⟨a, b, c, rfl, rfl, rfl⟩ := hp.parts hq h
  rw [slice_append] at hr
  obtain ⟨x, y, rfl, rfl⟩ := hr
  exact ⟨a ++ x, y ++ c, by simp, by rw [size_append]⟩

theorem Boundary.to_slice (hp : Boundary t p) (hq : Boundary t q) (hr : Boundary t r)
    (hpr : p ≤ r) (hrq : r ≤ q) : Boundary (t.slice ⟨p, q⟩) (r - p) := by
  rw [← slice_append_slice hp hr hq hpr hrq]
  exact ⟨_, _, rfl, size_slice hp hr hpr⟩

theorem slice_slice (hp : Boundary t p) (hq : Boundary t q) (h : p ≤ q) {x y : Nat}
    (hx : Boundary (t.slice ⟨p, q⟩) x) (hy : Boundary (t.slice ⟨p, q⟩) y) (hxy : x ≤ y) :
    (t.slice ⟨p, q⟩).slice ⟨x, y⟩ = t.slice ⟨p + x, p + y⟩ := by
  obtain ⟨a, b, c, rfl, rfl, rfl⟩ := hp.parts hq h
  rw [slice_append] at hx hy ⊢
  obtain ⟨u, v, w, rfl, rfl, rfl⟩ := hx.parts hy hxy
  rw [slice_append]
  have whole := slice_append (a ++ u) v (w ++ c)
  simp only [List.append_assoc, size_append, Nat.add_assoc] at whole ⊢
  rw [whole]

theorem slice_eq_nil (hp : Boundary t p) (hq : Boundary t q) (h : p ≤ q) :
    t.slice ⟨p, q⟩ = [] ↔ p = q := by
  rw [← size_eq_zero, size_slice hp hq h]
  omega

theorem slice_eq_cons (hp : Boundary t p) (hq : Boundary t q) (h : p ≤ q) {c : Char} {u : Text}
    (hs : t.slice ⟨p, q⟩ = c :: u) :
    p + c.utf8Size ≤ q ∧ Boundary t (p + c.utf8Size) ∧ t.slice ⟨p, p + c.utf8Size⟩ = [c] := by
  have hsize := size_slice hp hq h
  have hcut : Boundary (t.slice ⟨p, q⟩) c.utf8Size := ⟨[c], u, hs, by simp⟩
  have hfirst : (t.slice ⟨p, q⟩).slice ⟨0, c.utf8Size⟩ = [c] := by
    rw [hs]
    simpa using slice_append [] [c] u
  rw [slice_slice hp hq h (boundary_zero _) hcut (Nat.zero_le _)] at hfirst
  rw [hs, size_cons] at hsize
  exact ⟨by omega, hp.of_slice hq h hcut, hfirst⟩

theorem skip_eq_slice (hp : Boundary t p) : t.skip p = t.slice ⟨p, size t⟩ := by
  obtain ⟨a, b, rfl, rfl⟩ := hp
  have h := slice_append a b []
  rw [List.append_nil] at h
  rw [size_append, h, skip_append]

theorem length_skip_lt (hp : Boundary t p) (hq : Boundary t q) (h : p < q) :
    (t.skip q).length < (t.skip p).length := by
  rw [skip_eq_slice hp, skip_eq_slice hq,
    ← slice_append_slice hp hq (boundary_size t) (Nat.le_of_lt h) hq.le_size, List.length_append]
  have hne : t.slice ⟨p, q⟩ ≠ [] := by
    rw [Ne, slice_eq_nil hp hq (Nat.le_of_lt h)]
    omega
  have := List.length_pos_iff.2 hne
  omega

theorem roundUp_append (a b : Text) : roundUp (a ++ b) (size a) = size a := by
  induction a with
  | nil => cases b <;> simp [roundUp]
  | cons c a ih =>
    have hc := utf8Size_pos c
    simp only [List.cons_append, size_cons, roundUp]
    rw [if_neg (by omega), Nat.add_sub_cancel_left, ih]

theorem Boundary.roundUp_eq (h : Boundary t p) : t.roundUp p = p := by
  obtain ⟨a, b, rfl, rfl⟩ := h
  exact roundUp_append a b

theorem boundary_roundUp (t : Text) (p : Nat) : Boundary t (t.roundUp p) := by
  induction t generalizing p with
  | nil => exact boundary_zero _
  | cons c t ih =>
    simp only [roundUp]
    split
    · exact boundary_zero _
    · obtain ⟨a, b, hab, hsize⟩ := ih (p - c.utf8Size)
      exact ⟨c :: a, b, by rw [List.cons_append, ← hab], by rw [size_cons, hsize]⟩

theorem isBoundary_iff : t.isBoundary p = true ↔ Boundary t p := by
  simp only [isBoundary, beq_iff_eq]
  exact ⟨fun h => h ▸ boundary_roundUp t p, Boundary.roundUp_eq⟩

theorem roundUp_le (hq : Boundary t q) (h : p ≤ q) : t.roundUp p ≤ q := by
  induction t generalizing p q with
  | nil => exact Nat.zero_le _
  | cons c t ih =>
    simp only [roundUp]
    split
    · exact Nat.zero_le _
    · obtain ⟨a, b, hab, rfl⟩ := hq
      cases a with
      | nil =>
        rw [size_nil] at h
        omega
      | cons d a =>
        rw [List.cons_append, List.cons.injEq] at hab
        obtain ⟨rfl, htail⟩ := hab
        have := ih (p := p - c.utf8Size) ⟨a, b, htail, rfl⟩ (by rw [size_cons] at h; omega)
        rw [size_cons]
        omega

end Lexing.Text
