import Mathlib.Data.List.DropRight
import Lexing.Options

/-!
# Expanded tabs

What tabs leave behind is spaces, and nothing else is changed. So a text without tabs stays as it
is, and at both ends of a text at most a tab has become a space. Columns are those of what is
written, and behind the spaces for a tab the column is a multiple of the width. This leaves a tab no
choice, so a text is expanded in one way only, and line by line.
-/
set_option autoImplicit false

namespace Lexing.Options

variable {size column : Nat} {t : Text}

/-- The number of characters since the last newline. -/
def lineColumn (t : Text) : Nat := (t.rtakeWhile (· != '\n')).length

theorem lineColumn_concat_newline (t : Text) : lineColumn (t ++ ['\n']) = 0 := by
  rw [lineColumn, List.rtakeWhile_concat_neg _ _ _ (by decide), List.length_nil]

theorem lineColumn_concat {c : Char} (h : c ≠ '\n') (t : Text) :
    lineColumn (t ++ [c]) = lineColumn t + 1 := by
  rw [lineColumn, List.rtakeWhile_concat_pos _ _ _ (by simpa using h), List.length_append]
  rfl

theorem lineColumn_spaces (t : Text) (n : Nat) :
    lineColumn (t ++ List.replicate n ' ') = lineColumn t + n := by
  induction n with
  | zero => rw [List.replicate_zero, List.append_nil, Nat.add_zero]
  | succ n ih =>
    rw [List.replicate_succ', ← List.append_assoc, lineColumn_concat (by decide), ih, Nat.add_assoc]

theorem exists_lineColumn (column : Nat) : ∃ written, lineColumn written = column :=
  ⟨List.replicate column ' ', (lineColumn_spaces [] column).trans (Nat.zero_add column)⟩

/-- How many spaces a tab becomes. -/
def toStop (size column : Nat) : Nat := size - column % size

/-- Between two multiples that are next to each other there is room for one way to the second. -/
theorem eq_toStop_iff (wide : 0 < size) {n : Nat} :
    n = toStop size column ↔ 1 ≤ n ∧ n ≤ size ∧ size ∣ column + n := by
  have hlt := Nat.mod_lt column wide
  have hdiv : size ∣ column + n ↔ size ∣ column % size + n := by
    rw [Nat.dvd_iff_mod_eq_zero, Nat.dvd_iff_mod_eq_zero, Nat.mod_add_mod]
  rw [hdiv, toStop]
  constructor
  · rintro rfl
    refine ⟨by omega, by omega, 1, ?_⟩
    rw [Nat.add_sub_of_le hlt.le, Nat.mul_one]
  · rintro ⟨hpos, hle, k, hk⟩
    obtain rfl : k = 1 := by
      have hlow : 0 < size * k := by omega
      have hhigh : size * k < size * 2 := by omega
      have := Nat.lt_of_mul_lt_mul_left hhigh
      have := Nat.pos_of_mul_pos_left hlow
      omega
    omega

theorem expandFrom_tab (size : Nat) (written t : Text) :
    expandFrom size (lineColumn written) ('\t' :: t) =
      List.replicate (toStop size (lineColumn written)) ' ' ++
        expandFrom size (lineColumn
          (written ++ List.replicate (toStop size (lineColumn written)) ' ')) t := by
  rw [lineColumn_spaces]
  rfl

theorem expandFrom_kept {c : Char} (h : c ≠ '\t') (size : Nat) (written t : Text) :
    expandFrom size (lineColumn written) (c :: t) =
      c :: expandFrom size (lineColumn (written ++ [c])) t := by
  rw [expandFrom, if_neg h]
  split
  next hline => rw [hline, lineColumn_concat_newline]
  next hline => rw [lineColumn_concat hline]

theorem expandFrom_append (size : Nat) (written s t : Text) :
    expandFrom size (lineColumn written) (s ++ t) =
      expandFrom size (lineColumn written) s ++
        expandFrom size (lineColumn (written ++ expandFrom size (lineColumn written) s)) t := by
  -- the column that is carried along is that of what is written, whatever was read
  induction s generalizing written with
  | nil => simp [expandFrom]
  | cons c s ih =>
    rw [List.cons_append]
    by_cases htab : c = '\t'
    · rw [htab, expandFrom_tab, expandFrom_tab, ih]
      simp only [List.append_assoc]
    · rw [expandFrom_kept htab, expandFrom_kept htab, ih]
      simp only [List.cons_append, List.append_assoc, List.nil_append]

theorem tab_notMem_expandFrom (size column : Nat) (t : Text) : '\t' ∉ expandFrom size column t := by
  obtain ⟨written, rfl⟩ := exists_lineColumn column
  induction t generalizing written with
  | nil => exact List.not_mem_nil
  | cons c t ih =>
    by_cases htab : c = '\t'
    · rw [htab, expandFrom_tab, List.mem_append, not_or]
      exact ⟨fun h => absurd (List.eq_of_mem_replicate h) (by decide), ih _⟩
    · rw [expandFrom_kept htab, List.mem_cons, not_or]
      exact ⟨Ne.symm htab, ih _⟩

theorem mem_of_mem_expandFrom {c : Char} (h : c ∈ expandFrom size column t) : c = ' ' ∨ c ∈ t := by
  obtain ⟨written, rfl⟩ := exists_lineColumn column
  induction t generalizing written with
  | nil => cases h
  | cons d t ih =>
    by_cases htab : d = '\t'
    · rw [htab, expandFrom_tab, List.mem_append] at h
      rcases h with h | h
      · exact .inl (List.eq_of_mem_replicate h)
      · exact (ih _ h).imp_right (List.mem_cons_of_mem d)
    · rw [expandFrom_kept htab, List.mem_cons] at h
      rcases h with rfl | h
      · exact .inr List.mem_cons_self
      · exact (ih _ h).imp_right (List.mem_cons_of_mem d)

theorem expandFrom_of_untabbed (untabbed : '\t' ∉ t) : expandFrom size column t = t := by
  obtain ⟨written, rfl⟩ := exists_lineColumn column
  induction t generalizing written with
  | nil => rfl
  | cons c t ih =>
    rw [List.mem_cons, not_or] at untabbed
    rw [expandFrom_kept (Ne.symm untabbed.1), ih untabbed.2]

theorem expandFrom_concat_newline (size column : Nat) (t : Text) :
    expandFrom size column (t ++ ['\n']) = expandFrom size column t ++ ['\n'] := by
  obtain ⟨written, rfl⟩ := exists_lineColumn column
  rw [expandFrom_append]
  rfl

def spaced (c : Char) : Char := if c = '\t' then ' ' else c

theorem spaced_eq_newline_iff {c : Char} : spaced c = '\n' ↔ c = '\n' := by
  unfold spaced
  split
  · rename_i hc
    simp [hc]
  · rfl

theorem expandFrom_cons (wide : 0 < size) (column : Nat) (c : Char) (t : Text) : ∃ n column',
    expandFrom size column (c :: t) =
      spaced c :: (List.replicate n (spaced c) ++ expandFrom size column' t) := by
  obtain ⟨written, rfl⟩ := exists_lineColumn column
  by_cases htab : c = '\t'
  · have hpos := ((eq_toStop_iff wide).1 (Eq.refl (toStop size (lineColumn written)))).1
    obtain ⟨n, hn⟩ := Nat.exists_eq_add_one.2 hpos
    refine ⟨n, lineColumn (written ++ List.replicate (n + 1) ' '), ?_⟩
    rw [htab, expandFrom_tab, hn]
    rfl
  · refine ⟨0, lineColumn (written ++ [c]), ?_⟩
    rw [expandFrom_kept htab, spaced, if_neg htab]
    rfl

theorem head?_expandFrom (wide : 0 < size) (column : Nat) (t : Text) :
    (expandFrom size column t).head? = t.head?.map spaced := by
  cases t with
  | nil => rfl
  | cons c t =>
    obtain ⟨n, column', h⟩ := expandFrom_cons wide column c t
    rw [h]
    rfl

theorem getLast?_expandFrom (wide : 0 < size) (column : Nat) (t : Text) :
    (expandFrom size column t).getLast? = t.getLast?.map spaced := by
  rcases List.eq_nil_or_concat t with rfl | ⟨s, c, rfl⟩
  · rfl
  · obtain ⟨written, rfl⟩ := exists_lineColumn column
    obtain ⟨n, column', hc⟩ := expandFrom_cons wide
      (lineColumn (written ++ expandFrom size (lineColumn written) s)) c []
    rw [List.concat_eq_append, expandFrom_append, hc]
    cases n with
    | zero => simp [expandFrom]
    | succ n => simp [expandFrom, List.getLast?_replicate, List.getLast?_cons]

/-- What comes out of a text behind what is already written: for a tab one space or more, but no
more than the width, and behind them the column is a multiple of it; any other character as it is.
-/
inductive Aligns (size : Nat) : Text → Text → Text → Prop
  | nil (written : Text) : Aligns size written [] []
  | tab {written t out : Text} {n : Nat} (pos : 1 ≤ n) (le : n ≤ size)
      (stop : size ∣ lineColumn (written ++ List.replicate n ' '))
      (rest : Aligns size (written ++ List.replicate n ' ') t out) :
      Aligns size written ('\t' :: t) (List.replicate n ' ' ++ out)
  | kept {written t out : Text} {c : Char} (plain : c ≠ '\t')
      (rest : Aligns size (written ++ [c]) t out) : Aligns size written (c :: t) (c :: out)

theorem aligns_expandFrom (wide : 0 < size) (written t : Text) :
    Aligns size written t (expandFrom size (lineColumn written) t) := by
  induction t generalizing written with
  | nil => exact .nil written
  | cons c t ih =>
    by_cases htab : c = '\t'
    · have hstop := (eq_toStop_iff wide).1 (Eq.refl (toStop size (lineColumn written)))
      rw [← lineColumn_spaces] at hstop
      rw [htab, expandFrom_tab]
      exact .tab hstop.1 hstop.2.1 hstop.2.2 (ih _)
    · rw [expandFrom_kept htab]
      exact .kept htab (ih _)

theorem Aligns.eq_expandFrom (wide : 0 < size) {written t out : Text}
    (h : Aligns size written t out) : out = expandFrom size (lineColumn written) t := by
  induction h with
  | nil written => rfl
  | tab pos le stop rest ih =>
    -- the stop leaves only one number of spaces
    rw [lineColumn_spaces] at stop
    obtain rfl := (eq_toStop_iff wide).2 ⟨pos, le, stop⟩
    rw [expandFrom_tab, ← ih]
  | kept plain rest ih => rw [expandFrom_kept plain, ← ih]

/-- No tab is left, and the text is the only one in which tabs lead to the stops and nothing else is
changed. A line is expanded as it would be alone. -/
theorem expandTabs_aligns (wide : 0 < size) (t : Text) :
    '\t' ∉ expandTabs size t ∧
      (∀ out, Aligns size [] t out ↔ out = expandTabs size t) ∧
      ∀ a b : Text, expandTabs size (a ++ '\n' :: b) =
        expandTabs size a ++ '\n' :: expandTabs size b := by
  refine ⟨tab_notMem_expandFrom size 0 t, fun out => ⟨fun h => h.eq_expandFrom wide, ?_⟩,
    fun a b => ?_⟩
  · rintro rfl
    exact aligns_expandFrom wide [] t
  · have happend := expandFrom_append size [] a ('\n' :: b)
    rw [List.nil_append, expandFrom_kept (by decide), lineColumn_concat_newline] at happend
    exact happend

/-- A letter of two bytes is one column wide. -/
theorem expandTabs_aligns_accented :
    0 < 4 ∧ expandTabs 4 "a\tb\n\té\t\td".toList = "a   b\n    é       d".toList ∧
      Aligns 4 [] "a\tb\n\té\t\td".toList "a   b\n    é       d".toList := by
  have wide : 0 < 4 := by decide
  have same : expandTabs 4 "a\tb\n\té\t\td".toList = "a   b\n    é       d".toList := by
    decide +kernel
  obtain ⟨-, only, -⟩ := expandTabs_aligns wide "a\tb\n\té\t\td".toList
  exact ⟨wide, same, (only _).2 same.symm⟩

end Lexing.Options
