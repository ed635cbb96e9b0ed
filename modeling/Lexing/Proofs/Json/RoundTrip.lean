import Lexing.Json.Basic
import Lexing.Json.Draft

/-!
# Written values are read back

The draft of a written value is the value itself, as long as every integer in it is one of 64 bits.
Strings go by their characters, each of which becomes one unit, and integers by their digits. Values
go by induction on the fuel of the reader, of which twice the length of the written text is enough,
with the text that follows left open; what may not follow is a character that would go on with a
number.
-/
set_option autoImplicit false

namespace Lexing

open Draft

namespace Json

def shortEscapes : List Char := ['\x08', '\t', '\n', '\x0C', '\r']

def unitOf (c : Char) : StringUnit :=
  if c.toNat < 0x20 ∧ c ∉ shortEscapes then .code c.toNat else .char c

theorem hexDigit?_digitChar {d : Nat} (h : d < 16) : hexDigit? (Nat.digitChar d) = some d := by
  have all : ∀ d < 16, hexDigit? (Nat.digitChar d) = some d := by decide
  exact all d h

theorem readUnits_hexPair (fuel : Nat) (us : List StringUnit) (t : Text) {n : Nat} (h : n < 256) :
    readUnits (fuel + 1) us (['\\', 'u', '0', '0'] ++ hexPair n ++ t) =
      readUnits fuel (.code n :: us) t := by
  have high := hexDigit?_digitChar (d := n / 16) (by omega)
  have low := hexDigit?_digitChar (d := n % 16) (by omega)
  have zero : hexDigit? '0' = some 0 := rfl
  have hn : n / 16 * 16 + n % 16 = n := by omega
  simp [readUnits, hexPair, high, low, zero, hn]

theorem readUnits_escapeChar (fuel : Nat) (us : List StringUnit) (t : Text) (c : Char) :
    readUnits (fuel + 1) us (escapeChar c ++ t) = readUnits fuel (unitOf c :: us) t := by
  rw [escapeChar]
  split
  next h => subst h; rfl
  next hquote =>
  split
  next h => subst h; rfl
  next hslash =>
  split
  next h => subst h; rfl
  next hb =>
  split
  next h => subst h; rfl
  next ht =>
  split
  next h => subst h; rfl
  next hn =>
  split
  next h => subst h; rfl
  next hf =>
  split
  next h => subst h; rfl
  next hr =>
  split
  next hlow =>
    have hunit : unitOf c = .code c.toNat :=
      if_pos ⟨hlow, by simp [shortEscapes, hb, ht, hn, hf, hr]⟩
    rw [hunit]
    exact readUnits_hexPair fuel us t (by omega)
  next hlow =>
    have hunit : unitOf c = .char c := if_neg fun h => hlow h.1
    rw [hunit]
    simp [readUnits, hslash, hlow]

theorem readUnits_flatMap (t rest : Text) {fuel : Nat} (us : List StringUnit)
    (h : t.length < fuel) : readUnits fuel us (t.flatMap escapeChar ++ '"' :: rest) =
      some (us.reverse ++ t.map unitOf, rest) := by
  induction t generalizing fuel us with
  | nil =>
    obtain ⟨fuel, rfl⟩ := Nat.exists_eq_add_one_of_ne_zero (Nat.ne_of_gt h)
    simp [readUnits]
  | cons c t ih =>
    obtain ⟨fuel, rfl⟩ := Nat.exists_eq_add_one_of_ne_zero (Nat.ne_of_gt (Nat.zero_lt_of_lt h))
    rw [List.flatMap_cons, List.append_assoc, readUnits_escapeChar, ih _ (Nat.lt_of_succ_lt_succ h)]
    simp

theorem joinUnits_code {us : List StringUnit} {t : Text} (ht : joinUnits us = some t) {n : Nat}
    (h : n < 0x20) : joinUnits (.code n :: us) = some (Char.ofNat n :: t) := by
  have high : isHighSurrogate n = false := by simp [isHighSurrogate]; omega
  have low : isLowSurrogate n = false := by simp [isLowSurrogate]; omega
  cases us with
  | nil => simpa [joinUnits, high, low] using ht
  | cons u us =>
    cases u with
    | char c =>
      rw [joinUnits, high, low, ht]
      · rfl
      · simp
    | code m =>
      rw [joinUnits, high, low, ht]
      rfl

theorem joinUnits_map (t : Text) : joinUnits (t.map unitOf) = some t := by
  induction t with
  | nil => rfl
  | cons c t ih =>
    rw [List.map_cons, unitOf]
    split
    next h => rw [joinUnits_code ih h.1, Char.ofNat_toNat]
    next => simp [joinUnits, ih]

theorem length_escapeChar_pos (c : Char) : 0 < (escapeChar c).length := by
  rw [escapeChar]
  repeat' split
  all_goals simp

theorem length_le_flatMap (t : Text) : t.length ≤ (t.flatMap escapeChar).length := by
  induction t with
  | nil => exact Nat.le_refl _
  | cons c t ih =>
    have hpos := length_escapeChar_pos c
    rw [List.flatMap_cons, List.length_append, List.length_cons]
    omega

theorem readString_flatMap (t rest : Text) :
    readString (t.flatMap escapeChar ++ '"' :: rest) = some (some t, rest) := by
  have hlen : t.length < (t.flatMap escapeChar ++ '"' :: rest).length + 1 := by
    have := length_le_flatMap t
    rw [List.length_append]
    omega
  rw [readString, readUnits_flatMap t rest [] hlen]
  simp [joinUnits_map]

theorem renderText_append (t rest : Text) :
    renderText t ++ rest = '"' :: (t.flatMap escapeChar ++ '"' :: rest) := by
  simp [renderText]

/-- The text does not go on with a number that ends before it. -/
def EndsNumber (rest : Text) : Prop :=
  ∀ c ∈ rest.head?, c.isDigit = false ∧ c ≠ '.' ∧ c ≠ 'e' ∧ c ≠ 'E'

theorem EndsNumber.of_head {c : Char} {t : Text}
    (h : c.isDigit = false ∧ c ≠ '.' ∧ c ≠ 'e' ∧ c ≠ 'E') : EndsNumber (c :: t) := by
  intro d hd
  obtain rfl := Option.some.inj hd
  exact h

theorem intPow_two (n : Nat) : Int.pow 2 n = Nat.pow 2 n := (Int.natCast_pow 2 n).symm

theorem natOf_toDigits (n : Nat) : natOf (Nat.toDigits 10 n) = n := by
  have h := Nat.ofDigitChars_ten_toDigits (n := n)
  rw [Nat.ofDigitChars_eq_foldl] at h
  simpa only [natOf, Nat.mul_comm] using h

theorem toDigits_of_head {n : Nat} (h : (Nat.toDigits 10 n).head? = some '0') :
    Nat.toDigits 10 n = ['0'] := by
  induction n using Nat.strongRecOn with
  | _ n ih =>
    rw [Nat.toDigits_eq_if (by decide)] at h ⊢
    split at h
    next hlt =>
      rw [if_pos hlt]
      simpa using h
    next hge =>
      have hhead : (Nat.toDigits 10 (n / 10)).head? = some '0' := by
        cases hds : Nat.toDigits 10 (n / 10) with
        | nil => exact absurd hds Nat.toDigits_ne_nil
        | cons d ds => simpa [hds] using h
      have hzero := congrArg natOf (ih (n / 10) (by omega) hhead)
      rw [natOf_toDigits] at hzero
      have : natOf ['0'] = 0 := rfl
      omega

theorem exists_toDigits (n : Nat) : ∃ d ds, Nat.toDigits 10 n = d :: ds ∧ d.isDigit = true := by
  cases h : Nat.toDigits 10 n with
  | nil => exact absurd h Nat.toDigits_ne_nil
  | cons d ds =>
    have hd : d ∈ Nat.toDigits 10 n := by rw [h]; exact List.mem_cons_self
    exact ⟨d, ds, rfl, Nat.isDigit_of_mem_toDigits (by decide) (by decide) hd⟩

theorem digitsOf_append {ds rest : Text} (hds : ∀ c ∈ ds, c.isDigit = true)
    (hrest : ∀ c ∈ rest.head?, c.isDigit = false) : digitsOf (ds ++ rest) = (ds, rest) := by
  rw [digitsOf, List.takeWhile_append_of_pos hds, List.dropWhile_append_of_pos hds]
  cases rest with
  | nil => simp
  | cons c rest => simp [hrest c rfl]

theorem readFraction_of_ends {rest : Text} (h : EndsNumber rest) :
    readFraction rest = some ([], rest) := by
  rw [readFraction.eq_def]
  split
  next t => exact absurd rfl (h '.' rfl).2.1
  next => rfl

theorem readExponent_of_ends {rest : Text} (h : EndsNumber rest) :
    readExponent rest = some (none, rest) := by
  cases rest with
  | nil => rfl
  | cons c rest =>
    obtain ⟨_, _, he, hE⟩ := h c rfl
    rw [readExponent.eq_def]
    exact if_neg (not_or.2 ⟨he, hE⟩)

theorem readNumber_toDigits (negative : Bool) {n : Nat} {rest : Text} (h : EndsNumber rest)
    (small : if negative then n ≠ 0 ∧ n ≤ Nat.pow 2 63 else n < Nat.pow 2 64) :
    readNumber negative (Nat.toDigits 10 n ++ rest) =
      some (.int (if negative then -(n : Int) else n), rest) := by
  have hdigits : ∀ c ∈ Nat.toDigits 10 n, c.isDigit = true := fun c hc =>
    Nat.isDigit_of_mem_toDigits (by decide) (by decide) hc
  have hfirst : ¬ ((Nat.toDigits 10 n).head? = some '0' ∧ Nat.toDigits 10 n ≠ ['0']) :=
    fun h => h.2 (toDigits_of_head h.1)
  rw [readNumber, digitsOf_append hdigits fun c hc => (h c hc).1]
  dsimp only
  rw [if_neg (not_or.2 ⟨by simp, hfirst⟩), readFraction_of_ends h]
  simp only [Option.bind_eq_bind, Option.bind_some, readExponent_of_ends h, natOf_toDigits]
  have hsmall : (if negative = true then decide (n ≠ 0 ∧ n ≤ Nat.pow 2 63)
      else decide (n < Nat.pow 2 64)) = true := by
    cases negative with
    | true => exact decide_eq_true small
    | false => exact decide_eq_true small
  rw [if_pos ⟨rfl, rfl, hsmall⟩]
  rfl

theorem renderList_int (n : Int) : renderList (.int n) =
    if n < 0 then '-' :: Nat.toDigits 10 n.natAbs else Nat.toDigits 10 n.natAbs := by
  rw [renderList, Int.toString_eq_repr, Int.repr_eq_if]
  split
  next h =>
    have habs : n.toNat = n.natAbs := by omega
    rw [if_neg (by omega), Nat.toList_repr, habs]
  next h =>
    have habs : (-n).toNat = n.natAbs := by omega
    rw [if_pos (by omega), String.toList_append, Nat.toList_repr, habs]
    rfl

mutual

def draft : Json → Draft
  | .null => .null
  | .bool b => .bool b
  | .int n => .num (.int n)
  | .str t => .str (some t)
  | .arr items => .arr (draftItems items)
  | .obj members => .obj (draftMembers members)

def draftItems : List Json → List Draft
  | [] => []
  | j :: js => draft j :: draftItems js

def draftMembers : List (String × Json) → List (Option Text × Draft)
  | [] => []
  | (name, j) :: ms => (some name.toList, draft j) :: draftMembers ms

end

mutual

def Fits : Json → Prop
  | .int n => -Int.pow 2 63 ≤ n ∧ n < Int.pow 2 64
  | .arr items => FitsItems items
  | .obj members => FitsMembers members
  | _ => True

def FitsItems : List Json → Prop
  | [] => True
  | j :: js => Fits j ∧ FitsItems js

def FitsMembers : List (String × Json) → Prop
  | [] => True
  | (_, j) :: ms => Fits j ∧ FitsMembers ms

end

theorem skipBlanks_cons {c : Char} (h : isBlank c = false) (t : Text) :
    skipBlanks (c :: t) = c :: t := by
  rw [skipBlanks, List.dropWhile_cons, if_neg (by simp [h])]

theorem not_isBlank_of_isDigit {c : Char} (h : c.isDigit = true) : isBlank c = false := by
  cases hblank : isBlank c with
  | false => rfl
  | true =>
    simp only [isBlank, Bool.or_eq_true, beq_iff_eq] at hblank
    rcases hblank with ((rfl | rfl) | rfl) | rfl <;> cases h

theorem renderItems_cons_cons (j j' : Json) (js : List Json) :
    renderItems (j :: j' :: js) = renderList j ++ ',' :: renderItems (j' :: js) := by
  rw [renderItems]
  exact List.cons_ne_nil j' js

theorem renderMembers_cons_cons (name : String) (j : Json) (m : String × Json)
    (ms : List (String × Json)) : renderMembers ((name, j) :: m :: ms) =
      renderText name.toList ++ ':' :: renderList j ++ ',' :: renderMembers (m :: ms) := by
  rw [renderMembers]
  exact List.cons_ne_nil m ms

theorem exists_renderList (j : Json) :
    ∃ c t, renderList j = c :: t ∧ isBlank c = false ∧ c ≠ ']' := by
  cases j with
  | null => exact ⟨_, _, rfl, by decide⟩
  | bool b => cases b <;> exact ⟨_, _, rfl, by decide⟩
  | int n =>
    rw [renderList_int]
    obtain ⟨d, ds, hds, hd⟩ := exists_toDigits n.natAbs
    split
    next => exact ⟨_, _, rfl, by decide⟩
    next =>
      refine ⟨d, ds, hds, not_isBlank_of_isDigit hd, ?_⟩
      rintro rfl
      cases hd
  | str t => exact ⟨_, _, rfl, by decide⟩
  | arr items => exact ⟨_, _, rfl, by decide⟩
  | obj members => exact ⟨_, _, rfl, by decide⟩

theorem exists_renderItems (j : Json) (js : List Json) :
    ∃ c t, renderItems (j :: js) = c :: t ∧ isBlank c = false ∧ c ≠ ']' := by
  obtain ⟨c, t, hct, h⟩ := exists_renderList j
  cases js with
  | nil => exact ⟨c, t, hct, h⟩
  | cons j' js =>
    refine ⟨c, t ++ ',' :: renderItems (j' :: js), ?_, h⟩
    rw [renderItems_cons_cons, hct, List.cons_append]

theorem exists_renderMembers (name : String) (j : Json) (ms : List (String × Json)) :
    ∃ t, renderMembers ((name, j) :: ms) = '"' :: t := by
  cases ms with
  | nil => exact ⟨_, by rw [renderMembers]; rfl⟩
  | cons m ms => exact ⟨_, by rw [renderMembers_cons_cons]; rfl⟩

theorem length_renderList_pos (j : Json) : 0 < (renderList j).length := by
  obtain ⟨c, t, hct, _⟩ := exists_renderList j
  rw [hct]
  exact Nat.succ_pos _

theorem readValue_digit (fuel : Nat) {c : Char} (h : c.isDigit = true) (t : Text) :
    readValue (fuel + 1) (c :: t) =
      leaf ((readNumber false (c :: t)).map fun p => (.num p.1, p.2)) := by
  have hne : ∀ x : Char, x.isDigit = false → c ≠ x := by
    rintro x hx rfl
    exact Bool.noConfusion (hx.symm.trans h)
  simp [readValue, skipBlanks_cons (not_isBlank_of_isDigit h), h, hne '[' rfl, hne '\x7b' rfl,
    hne '"' rfl, hne '-' rfl]

theorem readValue_int (fuel : Nat) {n : Int} (fits : -Int.pow 2 63 ≤ n ∧ n < Int.pow 2 64)
    {rest : Text} (ends : EndsNumber rest) :
    readValue (fuel + 1) (renderList (.int n) ++ rest) = (.num (.int n), some rest) := by
  rw [intPow_two, intPow_two] at fits
  rw [renderList_int]
  split
  next hneg =>
    have hread := readNumber_toDigits true (n := n.natAbs) ends (by rw [if_pos rfl]; omega)
    have habs : -(n.natAbs : Int) = n := by omega
    rw [if_pos rfl, habs] at hread
    rw [readValue, List.cons_append, skipBlanks_cons rfl]
    simp only [hread, leaf, Option.map_some]
  next hpos =>
    have hread := readNumber_toDigits false (n := n.natAbs) ends
      (by rw [if_neg Bool.false_ne_true]; omega)
    have habs : (n.natAbs : Int) = n := by omega
    rw [if_neg Bool.false_ne_true, habs] at hread
    obtain ⟨d, ds, hds, hd⟩ := exists_toDigits n.natAbs
    rw [hds, List.cons_append] at hread ⊢
    rw [readValue_digit fuel hd, hread]
    rfl

theorem readValue_bracket (fuel : Nat) {c : Char} {t : Text} (h : isBlank c = false ∧ c ≠ ']') :
    readValue (fuel + 1) ('[' :: c :: t) =
      (.arr (readItems fuel (c :: t)).1, (readItems fuel (c :: t)).2) := by
  have hopen : isBlank '[' = false := rfl
  simp [readValue, skipBlanks_cons hopen, skipBlanks_cons h.1, h.2]

theorem readValue_brace (fuel : Nat) (t : Text) :
    readValue (fuel + 1) ('\x7b' :: '"' :: t) =
      (.obj (readMembers fuel ('"' :: t)).1, (readMembers fuel ('"' :: t)).2) := by
  have hopen : isBlank '\x7b' = false := rfl
  have hquote : isBlank '"' = false := rfl
  simp [readValue, skipBlanks_cons hopen, skipBlanks_cons hquote]

theorem readItems_last {fuel : Nat} {t rest : Text} {d : Draft}
    (h : readValue fuel t = (d, some (']' :: rest))) :
    readItems (fuel + 1) t = ([d], some rest) := by
  rw [readItems, h]
  rfl

theorem readItems_more {fuel : Nat} {t rest : Text} {d : Draft} {read : List Draft × Option Text}
    (h : readValue fuel t = (d, some (',' :: rest))) (more : readItems fuel rest = read) :
    readItems (fuel + 1) t = (d :: read.1, read.2) := by
  rw [readItems, h, ← more]
  rfl

theorem readMembers_last {fuel : Nat} {name t rest : Text} {d : Draft}
    (h : readValue fuel t = (d, some ('\x7d' :: rest))) :
    readMembers (fuel + 1) (renderText name ++ ':' :: t) = ([(some name, d)], some rest) := by
  have hquote : isBlank '"' = false := rfl
  have hcolon : isBlank ':' = false := rfl
  have hclose : isBlank '\x7d' = false := rfl
  simp only [renderText_append, readMembers, skipBlanks_cons, hquote, hcolon, hclose,
    readString_flatMap, h]

theorem readMembers_more {fuel : Nat} {name t rest : Text} {d : Draft}
    {read : List (Option Text × Draft) × Option Text}
    (h : readValue fuel t = (d, some (',' :: rest))) (more : readMembers fuel rest = read) :
    readMembers (fuel + 1) (renderText name ++ ':' :: t) =
      ((some name, d) :: read.1, read.2) := by
  have hquote : isBlank '"' = false := rfl
  have hcolon : isBlank ':' = false := rfl
  have hcomma : isBlank ',' = false := rfl
  simp only [renderText_append, readMembers, skipBlanks_cons, hquote, hcolon, hcomma,
    readString_flatMap, h, more]

-- A bracket takes one unit of fuel from the value it opens, and every item and member another one.
-- Each of them writes a character of its own, so two units for each character are enough.
mutual

theorem readValue_renderList (j : Json) (fits : j.Fits) {fuel : Nat} {rest : Text}
    (enough : 2 * (renderList j).length ≤ fuel) (ends : EndsNumber rest) :
    readValue fuel (renderList j ++ rest) = (j.draft, some rest) := by
  have hpos := length_renderList_pos j
  obtain ⟨fuel, rfl⟩ : ∃ n, fuel = n + 1 := ⟨fuel - 1, by omega⟩
  cases j with
  | null => rfl
  | bool b => cases b <;> rfl
  | int n =>
    rw [Fits] at fits
    exact readValue_int fuel fits ends
  | str t =>
    rw [renderList, renderText_append, readValue, skipBlanks_cons rfl]
    simp only [readString_flatMap]
    rfl
  | arr items =>
    cases items with
    | nil => rfl
    | cons j js =>
      rw [Fits] at fits
      rw [renderList] at enough
      simp only [List.length_append, List.length_cons, List.length_nil] at enough
      have hitems : readItems fuel (renderItems (j :: js) ++ ']' :: rest) =
          (draftItems (j :: js), some rest) :=
        readItems_renderItems j js fits (by omega)
      obtain ⟨c, t, hct, h⟩ := exists_renderItems j js
      rw [renderList, List.append_assoc, List.cons_append, List.singleton_append]
      rw [hct, List.cons_append] at hitems ⊢
      rw [readValue_bracket fuel h, hitems]
      rfl
  | obj members =>
    cases members with
    | nil => rfl
    | cons m ms =>
      obtain ⟨name, j⟩ := m
      obtain ⟨t, ht⟩ := exists_renderMembers name j ms
      rw [Fits] at fits
      rw [renderList] at enough
      simp only [List.length_append, List.length_cons, List.length_nil] at enough
      have hmembers : readMembers fuel (renderMembers ((name, j) :: ms) ++ '\x7d' :: rest) =
          (draftMembers ((name, j) :: ms), some rest) :=
        readMembers_renderMembers name j ms fits (by omega)
      rw [renderList, List.append_assoc, List.cons_append, List.singleton_append]
      rw [ht, List.cons_append] at hmembers ⊢
      rw [readValue_brace, hmembers]
      rfl
termination_by fuel

theorem readItems_renderItems (j : Json) (js : List Json) (fits : FitsItems (j :: js))
    {fuel : Nat} {rest : Text} (enough : 2 * (renderItems (j :: js)).length < fuel) :
    readItems fuel (renderItems (j :: js) ++ ']' :: rest) =
      (draftItems (j :: js), some rest) := by
  obtain ⟨fuel, rfl⟩ : ∃ n, fuel = n + 1 := ⟨fuel - 1, by omega⟩
  rw [FitsItems] at fits
  cases js with
  | nil =>
    rw [renderItems] at enough ⊢
    exact readItems_last (readValue_renderList j fits.1 (by omega) (.of_head (by decide)))
  | cons j' js =>
    rw [renderItems_cons_cons] at enough ⊢
    simp only [List.length_append, List.length_cons] at enough
    rw [List.append_assoc, List.cons_append]
    exact readItems_more (readValue_renderList j fits.1 (by omega) (.of_head (by decide)))
      (readItems_renderItems j' js fits.2 (by omega))
termination_by fuel

theorem readMembers_renderMembers (name : String) (j : Json) (ms : List (String × Json))
    (fits : FitsMembers ((name, j) :: ms)) {fuel : Nat} {rest : Text}
    (enough : 2 * (renderMembers ((name, j) :: ms)).length < fuel) :
    readMembers fuel (renderMembers ((name, j) :: ms) ++ '\x7d' :: rest) =
      (draftMembers ((name, j) :: ms), some rest) := by
  obtain ⟨fuel, rfl⟩ : ∃ n, fuel = n + 1 := ⟨fuel - 1, by omega⟩
  rw [FitsMembers] at fits
  cases ms with
  | nil =>
    rw [renderMembers] at enough ⊢
    simp only [List.length_append, List.length_cons] at enough
    rw [List.append_assoc, List.cons_append]
    exact readMembers_last (readValue_renderList j fits.1 (by omega) (.of_head (by decide)))
  | cons m ms =>
    obtain ⟨name', j'⟩ := m
    rw [renderMembers_cons_cons] at enough ⊢
    simp only [List.length_append, List.length_cons] at enough
    simp only [List.append_assoc, List.cons_append]
    exact readMembers_more (readValue_renderList j fits.1 (by omega) (.of_head (by decide)))
      (readMembers_renderMembers name' j' ms fits.2 (by omega))
termination_by fuel

end

/-- What is written is read as a whole, and nothing is left. -/
theorem ofText_renderList (j : Json) (fits : j.Fits) : ofText j.renderList = (j.draft, true) := by
  have hread : readValue (2 * j.renderList.length + 2) (renderList j ++ []) = (j.draft, some []) :=
    readValue_renderList j fits (Nat.le_add_right ..) fun c hc => nomatch hc
  rw [List.append_nil] at hread
  rw [ofText, hread]
  rfl

end Json

end Lexing
