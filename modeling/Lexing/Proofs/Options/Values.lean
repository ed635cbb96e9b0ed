import Lexing.Proofs.Options.Staged

/-!
# What the value of an option says

A value can be read as a flag or as a count, and not every value can be read as both. `SaysFlag` and
`SaysCount` tell what is said, from the text of a word alone, and the readers of values agree with
them: they find what is said and refuse a value that says nothing.
-/
set_option autoImplicit false

namespace Lexing

namespace Options

variable {p : Char → Bool} {t core : Text}

theorem Trimmed.of_forall (h : ∀ c ∈ t, p c = false) : Trimmed p t :=
  ⟨fun c hc => h c (List.mem_of_head? hc), fun c hc => h c (List.mem_of_getLast? hc)⟩

theorem stripEnds_eq_iff : stripEnds p t = core ↔ Trimmed p core ∧ ∃ before after,
    t = before ++ core ++ after ∧ (∀ c ∈ before, p c = true) ∧ ∀ c ∈ after, p c = true := by
  constructor
  · rintro rfl
    refine ⟨trimmed_stripEnds p t, t.takeWhile p, (t.dropWhile p).rtakeWhile p, ?_, ?_, ?_⟩
    · rw [List.append_assoc, stripEnds, List.rdropWhile_append_rtakeWhile,
        List.takeWhile_append_dropWhile]
    · exact fun c => List.mem_takeWhile_imp
    · exact fun c => List.mem_rtakeWhile_imp
  · rintro ⟨trimmed, before, after, rfl, hbefore, hafter⟩
    rw [List.append_assoc, stripEnds, List.dropWhile_append_of_pos hbefore]
    by_cases hne : core = []
    · rw [hne, List.nil_append, List.dropWhile_eq_nil_iff.2 hafter]
      rfl
    · rw [trimmed.dropWhile_append hne, List.rdropWhile, List.reverse_append,
        List.dropWhile_append_of_pos (by simpa using hafter)]
      exact trimmed.rdropWhile_eq

end Options

namespace OptionValue

/-- What a value says where a flag is wanted. Words count in any case of their letters. -/
inductive SaysFlag : OptionValue → Bool → Prop
  | bool (b : Bool) : SaysFlag (.bool b) b
  | int (n : Int) : SaysFlag (.int n) (n != 0)
  | yes {w : String}
    (word : String.ofList (w.toList.map Char.toLower) ∈ ["1", "yes", "true", "on"]) :
    SaysFlag (.word w) true
  | no {w : String}
    (word : String.ofList (w.toList.map Char.toLower) ∈ ["0", "no", "false", "off"]) :
    SaysFlag (.word w) false

/-- What a value says where a count is wanted. The digits of a word may have a plus sign before them
and blanks on both sides. -/
inductive SaysCount : OptionValue → Nat → Prop
  | int (n : Nat) : SaysCount (.int n) n
  | word {w : String} {before sign digits after : Text}
    (text : w.toList = before ++ (sign ++ digits) ++ after)
    (blanks : ∀ c ∈ before ++ after, isBlank c = true) (plus : sign = [] ∨ sign = ['+'])
    (written : digits ≠ []) (decimal : ∀ c ∈ digits, c.isDigit = true) :
    SaysCount (.word w) (Nat.ofDigitChars 10 digits 0)

variable {v : OptionValue} {b : Bool} {n : Nat} {t : Text}

theorem boolOfWord?_eq_some_iff {w : String} :
    boolOfWord? w = some b ↔ SaysFlag (.word w) b := by
  constructor
  · intro h
    unfold boolOfWord? at h
    split at h
    case h_1 hword | h_2 hword | h_3 hword | h_4 hword =>
      cases h
      exact .yes (by simp [hword])
    case h_5 hword | h_6 hword | h_7 hword | h_8 hword =>
      cases h
      exact .no (by simp [hword])
    case h_9 => cases h
  · intro h
    unfold boolOfWord?
    cases h with
    | yes word =>
      simp only [List.mem_cons, List.not_mem_nil, or_false] at word
      rcases word with hword | hword | hword | hword <;> rw [hword] <;> rfl
    | no word =>
      simp only [List.mem_cons, List.not_mem_nil, or_false] at word
      rcases word with hword | hword | hword | hword <;> rw [hword] <;> rfl

theorem toBool?_eq_some_iff : v.toBool? = some b ↔ v.SaysFlag b := by
  cases v with
  | bool b' =>
    constructor
    · intro h
      obtain rfl := Option.some.inj h
      exact .bool _
    · intro h
      cases h
      rfl
  | int n =>
    constructor
    · intro h
      obtain rfl := Option.some.inj h
      exact .int n
    · intro h
      cases h
      rfl
  | word w => exact boolOfWord?_eq_some_iff

def decimal? (digits : Text) : Option Nat :=
  if !digits.isEmpty && digits.all Char.isDigit then some (Nat.ofDigitChars 10 digits 0) else none

theorem read_eq_decimal? (digits : Text) :
    (if digits.isEmpty ∨ digits.any (!·.isDigit) then none
      else some (digits.foldl (fun n c => n * 10 + (c.toNat - '0'.toNat)) 0)) =
      decimal? digits := by
  have hbad : (digits.isEmpty ∨ digits.any (!·.isDigit)) ↔
      ¬ (!digits.isEmpty && digits.all Char.isDigit) = true := by
    rw [List.any_eq_not_all_not]
    cases digits.isEmpty <;> simp
  simp only [decimal?, hbad, ite_not, Nat.ofDigitChars_eq_foldl, Nat.mul_comm 10]

theorem natOfText?_plus (digits : Text) : natOfText? ('+' :: digits) = decimal? digits :=
  read_eq_decimal? digits

theorem natOfText?_unsigned (h : t.head? ≠ some '+') : natOfText? t = decimal? t := by
  rw [← read_eq_decimal?]
  cases t with
  | nil => rfl
  | cons c t =>
    have hplus : c ≠ '+' := fun heq => h (congrArg some heq)
    simp only [natOfText?]
    split
    · rename_i heq
      exact absurd (List.cons.inj heq).1 hplus
    · rfl

theorem natOfText?_eq_some_iff : natOfText? t = some n ↔ ∃ sign digits, t = sign ++ digits ∧
    (sign = [] ∨ sign = ['+']) ∧ digits ≠ [] ∧ (∀ c ∈ digits, c.isDigit = true) ∧
    Nat.ofDigitChars 10 digits 0 = n := by
  have hread (digits : Text) : decimal? digits = some n ↔ digits ≠ [] ∧
      (∀ c ∈ digits, c.isDigit = true) ∧ Nat.ofDigitChars 10 digits 0 = n := by
    simp only [decimal?, Option.ite_none_right_eq_some, Option.some.injEq, Bool.and_eq_true,
      Bool.not_eq_true', List.isEmpty_eq_false_iff, List.all_eq_true, and_assoc]
  constructor
  · intro h
    by_cases hplus : t.head? = some '+'
    · obtain ⟨digits, rfl⟩ := List.head?_eq_some_iff.1 hplus
      rw [natOfText?_plus, hread] at h
      exact ⟨['+'], digits, rfl, .inr rfl, h⟩
    · rw [natOfText?_unsigned hplus, hread] at h
      exact ⟨[], t, rfl, .inl rfl, h⟩
  · rintro ⟨sign, digits, rfl, rfl | rfl, h⟩
    · have hplus : digits.head? ≠ some '+' := by
        intro hplus
        have hdigit := h.2.1 '+' (List.mem_of_head? hplus)
        cases hdigit
      rw [List.nil_append, natOfText?_unsigned hplus]
      exact (hread digits).2 h
    · rw [List.singleton_append, natOfText?_plus]
      exact (hread digits).2 h

theorem not_isBlank_of_isDigit {c : Char} (h : c.isDigit = true) : isBlank c = false := by
  have hlow : 48 ≤ c.toNat ∧ c.toNat ≤ 57 := by
    simp only [Char.isDigit, Bool.and_eq_true, decide_eq_true_eq] at h
    exact h
  simp only [isBlank, Unicode.blank, Unicode.Ranges.has, Bool.or_false, Bool.or_eq_false_iff,
    Bool.and_eq_false_imp, decide_eq_true_eq, decide_eq_false_iff_not, not_le]
  omega

theorem toNat?_eq_some_iff : v.toNat? = some n ↔ v.SaysCount n := by
  cases v with
  | bool b =>
    constructor
    · intro h
      cases h
    · intro h
      cases h
  | int i =>
    simp only [toNat?, Option.ite_none_left_eq_some, Int.not_lt, Option.some.injEq]
    constructor
    · rintro ⟨hpos, rfl⟩
      obtain ⟨n, rfl⟩ := Int.eq_ofNat_of_zero_le hpos
      exact .int n
    · intro h
      cases h
      exact ⟨Int.natCast_nonneg n, Int.toNat_natCast n⟩
  | word w =>
    change natOfText? (Options.stripEnds isBlank w.toList) = some n ↔ _
    rw [natOfText?_eq_some_iff]
    constructor
    · rintro ⟨sign, digits, hstrip, plus, hsome, hdigits, rfl⟩
      obtain ⟨-, before, after, htext, hbefore, hafter⟩ := Options.stripEnds_eq_iff.1 hstrip
      refine .word htext (fun c hc => ?_) plus hsome hdigits
      exact (List.mem_append.1 hc).elim (hbefore c) (hafter c)
    · intro h
      cases h with
      | @word _ before sign digits after text blanks plus hsome hdigits =>
        refine ⟨sign, digits, ?_, plus, hsome, hdigits, rfl⟩
        have trimmed : Options.Trimmed isBlank (sign ++ digits) := by
          refine .of_forall fun c hc => ?_
          rcases List.mem_append.1 hc with hc | hc
          · rcases plus with rfl | rfl
            · cases hc
            · rw [List.mem_singleton.1 hc]
              decide
          · exact not_isBlank_of_isDigit (hdigits c hc)
        exact Options.stripEnds_eq_iff.2 ⟨trimmed, before, after, text,
          fun c hc => blanks c (List.mem_append_left _ hc),
          fun c hc => blanks c (List.mem_append_right _ hc)⟩

end OptionValue

end Lexing
