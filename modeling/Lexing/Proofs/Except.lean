/-!
# Computations that can fail

How a computation made of others came to its result, or to its error: the first part that fails
decides. `Reports` says of a computation that it fails exactly when some error holds, and with one
that does.
-/
set_option autoImplicit false

namespace Lexing

section Except

variable {α β ε : Type}

theorem bind_eq_ok {x : Except ε α} {f : α → Except ε β} {b : β} :
    (x >>= f) = .ok b ↔ ∃ a, x = .ok a ∧ f a = .ok b := by
  cases x with
  | error e =>
    constructor
    · intro h
      cases h
    · rintro ⟨a, h, _⟩
      cases h
  | ok a =>
    constructor
    · intro h
      exact ⟨a, rfl, h⟩
    · rintro ⟨a', h, h'⟩
      cases h
      exact h'

theorem mapM_cons_eq_ok {f : α → Except ε β} {x : α} {xs : List α} {ys : List β} :
    (x :: xs).mapM f = .ok ys ↔ ∃ y zs, ys = y :: zs ∧ f x = .ok y ∧ xs.mapM f = .ok zs := by
  rw [List.mapM_cons, bind_eq_ok]
  constructor
  · rintro ⟨y, hy, h⟩
    obtain ⟨zs, hzs, h⟩ := bind_eq_ok.1 h
    cases h
    exact ⟨y, zs, rfl, hy, hzs⟩
  · rintro ⟨y, zs, rfl, hy, hzs⟩
    exact ⟨y, hy, bind_eq_ok.2 ⟨zs, hzs, rfl⟩⟩

theorem exists_of_mapM {f : α → Except ε β} {xs : List α} {ys : List β} {y : β}
    (h : xs.mapM f = .ok ys) (hy : y ∈ ys) : ∃ x ∈ xs, f x = .ok y := by
  induction xs generalizing ys with
  | nil =>
    cases h
    cases hy
  | cons x xs ih =>
    obtain ⟨z, zs, rfl, hz, hzs⟩ := mapM_cons_eq_ok.1 h
    rcases List.mem_cons.1 hy with rfl | hy
    · exact ⟨x, List.mem_cons_self, hz⟩
    · obtain ⟨x', hx', heq⟩ := ih hzs hy
      exact ⟨x', List.mem_cons_of_mem _ hx', heq⟩

theorem length_of_mapM {f : α → Except ε β} {xs : List α} {ys : List β}
    (h : xs.mapM f = .ok ys) : ys.length = xs.length := by
  induction xs generalizing ys with
  | nil =>
    cases h
    rfl
  | cons x xs ih =>
    obtain ⟨y, zs, rfl, _, hzs⟩ := mapM_cons_eq_ok.1 h
    rw [List.length_cons, List.length_cons, ih hzs]

theorem mapM_congr {f g : α → Except ε β} {xs : List α} (h : ∀ x ∈ xs, f x = g x) :
    xs.mapM f = xs.mapM g := by
  induction xs with
  | nil => rfl
  | cons x xs ih =>
    rw [List.mapM_cons, List.mapM_cons, h x List.mem_cons_self,
      ih fun x' hx' => h x' (List.mem_cons_of_mem _ hx')]

theorem map_of_mapM {γ : Type} {f : α → Except ε β} {p : β → γ} {q : α → γ}
    (hf : ∀ x y, f x = .ok y → p y = q x) {xs : List α} {ys : List β} (h : xs.mapM f = .ok ys) :
    ys.map p = xs.map q := by
  induction xs generalizing ys with
  | nil =>
    cases h
    rfl
  | cons x xs ih =>
    obtain ⟨y, zs, rfl, hy, hzs⟩ := mapM_cons_eq_ok.1 h
    rw [List.map_cons, List.map_cons, hf x y hy, ih hzs]

theorem exists_of_isOk {x : Except ε α} (h : x.isOk = true) : ∃ a, x = .ok a := by
  cases x with
  | error e => cases h
  | ok a => exact ⟨a, rfl⟩

theorem exists_of_any {x : Except ε α} {p : α → Bool} (h : x.toOption.any p = true) :
    ∃ a, x = .ok a ∧ p a = true := by
  cases x with
  | error e => cases h
  | ok a => exact ⟨a, rfl, h⟩

def failure? : Except ε α → Option ε
  | .error e => some e
  | .ok _ => none

theorem eq_of_failure? {x : Except ε α} {e : ε} (h : failure? x = some e) : x = .error e := by
  cases x with
  | error e' => exact congrArg Except.error (Option.some.inj h)
  | ok a => cases h

theorem bind_eq_error {x : Except ε α} {f : α → Except ε β} {e : ε} :
    (x >>= f) = .error e ↔ x = .error e ∨ ∃ a, x = .ok a ∧ f a = .error e := by
  cases x with
  | error e' =>
    constructor
    · intro h
      cases h
      exact .inl rfl
    · rintro (h | ⟨a, h, _⟩)
      · cases h
        rfl
      · cases h
  | ok a =>
    constructor
    · intro h
      exact .inr ⟨a, rfl, h⟩
    · rintro (h | ⟨a', h, h'⟩)
      · cases h
      · cases h
        exact h'

theorem ok_of_mapM {f : α → Except ε β} {xs : List α} {ys : List β} (h : xs.mapM f = .ok ys) :
    ∀ x ∈ xs, ∃ y, f x = .ok y := by
  induction xs generalizing ys with
  | nil =>
    intro x hx
    cases hx
  | cons x xs ih =>
    obtain ⟨y, zs, rfl, hy, hzs⟩ := mapM_cons_eq_ok.1 h
    intro x' hx'
    rcases List.mem_cons.1 hx' with rfl | hx'
    · exact ⟨y, hy⟩
    · exact ih hzs x' hx'

theorem getElem?_of_mapM {f : α → Except ε β} {xs : List α} {ys : List β}
    (h : xs.mapM f = .ok ys) {i : Nat} {x : α} (hx : xs[i]? = some x) :
    ∃ y, ys[i]? = some y ∧ f x = .ok y := by
  induction xs generalizing ys i with
  | nil => cases hx
  | cons x' xs ih =>
    obtain ⟨y, zs, rfl, hy, hzs⟩ := mapM_cons_eq_ok.1 h
    cases i with
    | zero =>
      obtain rfl := Option.some.inj hx
      exact ⟨y, rfl, hy⟩
    | succ i => exact ih hzs hx

theorem split_of_mapM_error {f : α → Except ε β} {xs : List α} {e : ε}
    (h : xs.mapM f = .error e) : ∃ before x after, xs = before ++ x :: after ∧
      (∀ x' ∈ before, ∃ y, f x' = .ok y) ∧ f x = .error e := by
  induction xs with
  | nil => cases h
  | cons x xs ih =>
    rw [List.mapM_cons] at h
    rcases bind_eq_error.1 h with h | ⟨y, hy, h⟩
    · refine ⟨[], x, xs, rfl, fun x' hx' => ?_, h⟩
      cases hx'
    · rcases bind_eq_error.1 h with h | ⟨ys, _, h⟩
      · obtain ⟨before, x', after, rfl, hbefore, hx'⟩ := ih h
        refine ⟨x :: before, x', after, rfl, fun x'' hx'' => ?_, hx'⟩
        rcases List.mem_cons.1 hx'' with rfl | hx''
        · exact ⟨y, hy⟩
        · exact hbefore x'' hx''
      · cases h

end Except

/-- An error of the computation is one that holds, and when it succeeds no error holds. -/
structure Reports {α ε : Type} (x : Except ε α) (holds : ε → Prop) : Prop where
  shown : ∀ e, x = .error e → holds e
  clean : ∀ a, x = .ok a → ∀ e, ¬ holds e

namespace Reports

variable {α β ε : Type} {x : Except ε α} {p q : ε → Prop}

theorem ok {a : α} (h : ∀ e, ¬ p e) : Reports (.ok a : Except ε α) p := by
  refine ⟨fun e he => ?_, fun _ _ => h⟩
  cases he

theorem error {e : ε} (h : p e) : Reports (.error e : Except ε α) p := by
  refine ⟨fun e' h' => ?_, fun a h' => ?_⟩
  · cases h'
    exact h
  · cases h'

theorem congr (h : Reports x p) (same : ∀ e, p e ↔ q e) : Reports x q :=
  ⟨fun e he => (same e).1 (h.shown e he), fun a ha e he => h.clean a ha e ((same e).2 he)⟩

theorem bind {f : α → Except ε β} (h : Reports x p) (hf : ∀ a, x = .ok a → Reports (f a) q) :
    Reports (x >>= f) fun e => p e ∨ q e := by
  refine ⟨fun e he => ?_, fun b hb e he => ?_⟩
  · rcases bind_eq_error.1 he with he | ⟨a, ha, he⟩
    · exact .inl (h.shown e he)
    · exact .inr ((hf a ha).shown e he)
  · obtain ⟨a, ha, hb⟩ := bind_eq_ok.1 hb
    rcases he with he | he
    · exact h.clean a ha e he
    · exact (hf a ha).clean b hb e he

theorem map (h : Reports x p) (f : α → β) : Reports (x >>= fun a => pure (f a)) p :=
  (h.bind fun _ _ => ok fun _ => id).congr fun _ => or_iff_left id

theorem mapM {f : α → Except ε β} {xs : List α} {p : α → ε → Prop}
    (h : ∀ a ∈ xs, Reports (f a) (p a)) : Reports (xs.mapM f) fun e => ∃ a ∈ xs, p a e := by
  refine ⟨fun e he => ?_, fun ys hys e he => ?_⟩
  · obtain ⟨before, a, after, rfl, _, ha⟩ := split_of_mapM_error he
    have hmem : a ∈ before ++ a :: after := List.mem_append_right _ List.mem_cons_self
    exact ⟨a, hmem, (h a hmem).shown e ha⟩
  · obtain ⟨a, hmem, ha⟩ := he
    obtain ⟨b, hb⟩ := ok_of_mapM hys a hmem
    exact (h a hmem).clean b hb e ha

theorem isOk_iff (h : Reports x p) : (∃ a, x = .ok a) ↔ ∀ e, ¬ p e := by
  constructor
  · rintro ⟨a, ha⟩
    exact h.clean a ha
  · intro hclean
    cases hx : x with
    | error e => exact absurd (h.shown e hx) (hclean e)
    | ok a => exact ⟨a, rfl⟩

end Reports

end Lexing
