import Lexing.Pattern.CharSet
import Lexing.Text.Basic

/-!
# Sets of characters and their ranges

The ranges of a set are in order and apart from each other. Adding a range keeps that, and the set
then holds what it held before and what lies in the range. So the ranges of a few characters are no
more than the characters, and the shortest member is the first one.
-/
set_option autoImplicit false

namespace Lexing

namespace Unicode.Ranges

/-- Every range holds something and ends before the later ones begin. -/
def Ordered : Ranges → Prop
  | [] => True
  | r :: rs => r.1 ≤ r.2 ∧ (∀ r' ∈ rs, r.2 < r'.1) ∧ Ordered rs

theorem Ordered.has_iff {rs : Ranges} (h : rs.Ordered) {n : Nat} :
    rs.has n = true ↔ ∃ r ∈ rs, r.1 ≤ n ∧ n ≤ r.2 := by
  induction rs with
  | nil => simp [has]
  | cons r rs ih =>
    obtain ⟨lo, hi⟩ := r
    obtain ⟨hle, hbefore, hrest⟩ := h
    simp only [has, Bool.and_eq_true, Bool.or_eq_true, decide_eq_true_eq, ih hrest,
      List.mem_cons, exists_eq_or_imp]
    constructor
    · rintro ⟨hlo, hhi | hin⟩
      · exact .inl ⟨hlo, hhi⟩
      · exact .inr hin
    · rintro (⟨hlo, hhi⟩ | ⟨r, hr, hin⟩)
      · exact ⟨hlo, .inl hhi⟩
      · have := hbefore r hr
        exact ⟨by omega, .inr ⟨r, hr, hin⟩⟩

end Unicode.Ranges

namespace CharSet
open Unicode

variable {lo hi : Nat} {rs : Ranges}

theorem lt_of_mem_insertRange {x : Nat} (hlo : x < lo) (hrs : ∀ r ∈ rs, x < r.1) :
    ∀ r ∈ insertRange lo hi rs, x < r.1 := by
  induction rs generalizing lo hi with
  | nil => simpa [insertRange] using hlo
  | cons r rs ih =>
    obtain ⟨a, b⟩ := r
    have ha : x < a := hrs (a, b) List.mem_cons_self
    have hrest : ∀ r ∈ rs, x < r.1 := fun r hr => hrs r (List.mem_cons_of_mem _ hr)
    simp only [insertRange]
    split
    · simpa [hlo, ha] using hrest
    · split
      · simpa [ha] using ih hlo hrest
      · exact ih (by omega) hrest

theorem ordered_insertRange (hle : lo ≤ hi) (h : rs.Ordered) : (insertRange lo hi rs).Ordered := by
  induction rs generalizing lo hi with
  | nil => exact ⟨hle, by simp, trivial⟩
  | cons r rs ih =>
    obtain ⟨a, b⟩ := r
    obtain ⟨hab, hbefore, hrest⟩ := h
    simp only [insertRange]
    split
    · rename_i hgap
      refine ⟨hle, fun r hr => ?_, hab, hbefore, hrest⟩
      rcases List.mem_cons.1 hr with rfl | hr
      · simp only
        omega
      · have := hbefore r hr
        simp only at this ⊢
        omega
    · split
      · rename_i hgap
        exact ⟨hab, lt_of_mem_insertRange (by simp only; omega) hbefore, ih hle hrest⟩
      · exact ih (by omega) hrest

theorem has_insertRange (hle : lo ≤ hi) (h : rs.Ordered) {n : Nat} :
    (insertRange lo hi rs).has n = true ↔ lo ≤ n ∧ n ≤ hi ∨ rs.has n = true := by
  rw [(ordered_insertRange hle h).has_iff, h.has_iff]
  induction rs generalizing lo hi with
  | nil => simp [insertRange]
  | cons r rs ih =>
    obtain ⟨a, b⟩ := r
    obtain ⟨hab, -, hrest⟩ := h
    simp only [insertRange]
    split
    · simp
    · split
      · simp only [List.mem_cons, exists_eq_or_imp, ih hle hrest]
        exact or_left_comm
      · rw [ih (by omega) hrest]
        simp only [List.mem_cons, exists_eq_or_imp, ← or_assoc]
        exact or_congr_left (by omega)

theorem length_insertRange (lo hi : Nat) (rs : Ranges) :
    (insertRange lo hi rs).length ≤ rs.length + 1 := by
  induction rs generalizing lo hi with
  | nil => exact Nat.le_refl _
  | cons r rs ih =>
    obtain ⟨a, b⟩ := r
    simp only [insertRange]
    split
    · exact Nat.le_refl _
    · split
      · exact Nat.succ_le_succ (ih lo hi)
      · exact Nat.le_succ_of_le (ih _ _)

variable {c d : Char} {s : CharSet}

theorem ordered_union_single (c : Char) (h : s.ranges.Ordered) :
    ((single c).union s).ranges.Ordered :=
  ordered_insertRange (Nat.le_refl _) h

theorem has_union_single (h : s.ranges.Ordered) :
    ((single c).union s).has d = true ↔ d = c ∨ s.has d = true := by
  have hsame : c.toNat ≤ d.toNat ∧ d.toNat ≤ c.toNat ↔ d = c := by
    rw [← Char.toNat_inj]
    omega
  rw [← hsame]
  exact has_insertRange (Nat.le_refl _) h

theorem utf8Size_eq_codeSize (c : Char) : c.utf8Size = codeSize c.toNat := by
  simp only [Char.utf8Size, codeSize, UInt32.le_iff_toNat_le]
  have hval : c.val.toNat = c.toNat := rfl
  grind

theorem codeSize_mono {m n : Nat} (h : m ≤ n) : codeSize m ≤ codeSize n := by
  unfold codeSize
  grind

theorem minSize_le (h : s.ranges.Ordered) (hc : s.has c = true) :
    ∃ n, s.minSize = some n ∧ n ≤ c.utf8Size := by
  obtain ⟨r, hr, hlo, -⟩ := h.has_iff.1 hc
  rw [utf8Size_eq_codeSize]
  cases hs : s.ranges with
  | nil =>
    rw [hs] at hr
    cases hr
  | cons r' rs =>
    refine ⟨codeSize r'.1, by rw [minSize, hs]; rfl, codeSize_mono ?_⟩
    rw [hs] at hr h
    rcases List.mem_cons.1 hr with rfl | hr
    · exact hlo
    · have := h.2.1 r hr
      have := h.1
      omega

end CharSet

end Lexing
