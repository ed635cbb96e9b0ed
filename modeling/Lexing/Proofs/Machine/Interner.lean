import Lexing.Machine.Build
import Mathlib.Data.List.Basic

/-!
# Numbers in the order of first use

An interner that has met some combined states holds each of them once, where it was met first, and
its number tells that place.
-/
set_option autoImplicit false

namespace Lexing.Interner

variable {named : Nat} {met : List (List Nat)} {t : Interner} {parts : List Nat}

theorem eraseDups_concat (met : List (List Nat)) (parts : List Nat) :
    (met ++ [parts]).eraseDups =
      if parts ∈ met then met.eraseDups else met.eraseDups ++ [parts] := by
  rw [List.eraseDups_append]
  split
  · rename_i h
    simp [List.removeAll, h]
  · rename_i h
    simp [List.removeAll, h, List.eraseDups_cons]

theorem idxOf_eraseDups_append (asked : List (List Nat)) (h : parts ∈ met) :
    (met ++ asked).eraseDups.idxOf parts = met.eraseDups.idxOf parts := by
  rw [List.eraseDups_append, List.idxOf_append_of_mem (List.mem_eraseDups.2 h)]

/-- What an interner holds that has met the given states one after the other. -/
structure Holds (named : Nat) (met : List (List Nat)) (t : Interner) : Prop where
  parts_eq : t.parts = met.eraseDups
  lookup_eq (parts : List Nat) : t.numbers.lookup parts =
    if parts ∈ met then some (named + met.eraseDups.idxOf parts) else none

theorem holds_empty (named : Nat) : empty.Holds named [] := ⟨rfl, fun _ => rfl⟩

namespace Holds

theorem intern_of_mem (h : t.Holds named met) (hmem : parts ∈ met) :
    t.intern named parts = (named + met.eraseDups.idxOf parts, t) := by
  rw [intern, h.lookup_eq, if_pos hmem]

theorem intern_of_not_mem (h : t.Holds named met) (hmem : parts ∉ met) :
    t.intern named parts = (named + met.eraseDups.length,
      ⟨(parts, named + met.eraseDups.length) :: t.numbers, met.eraseDups ++ [parts]⟩) := by
  rw [intern, h.lookup_eq, if_neg hmem, h.parts_eq]

/-- One more state is met: its number is returned, and all others keep theirs. -/
theorem step (h : t.Holds named met) (parts : List Nat) :
    (t.intern named parts).1 = named + (met ++ [parts]).eraseDups.idxOf parts ∧
      (t.intern named parts).2.Holds named (met ++ [parts]) := by
  by_cases hmem : parts ∈ met
  · have hmet : (met ++ [parts]).eraseDups = met.eraseDups := by
      rw [eraseDups_concat, if_pos hmem]
    rw [h.intern_of_mem hmem, hmet]
    refine ⟨rfl, h.parts_eq.trans hmet.symm, fun other => ?_⟩
    have hother : other ∈ met ++ [parts] ↔ other ∈ met := by
      rw [List.mem_append, List.mem_singleton, or_iff_left_of_imp fun heq => heq ▸ hmem]
    simp only [h.lookup_eq, hmet, hother]
  · have hmet : (met ++ [parts]).eraseDups = met.eraseDups ++ [parts] := by
      rw [eraseDups_concat, if_neg hmem]
    have hplace : (met ++ [parts]).eraseDups.idxOf parts = met.eraseDups.length := by
      rw [hmet, List.idxOf_append_of_notMem (fun hin => hmem (List.mem_eraseDups.1 hin)),
        List.idxOf_cons_self, Nat.add_zero]
    rw [h.intern_of_not_mem hmem]
    refine ⟨by rw [hplace], hmet.symm, fun other => ?_⟩
    rw [List.lookup_cons]
    by_cases heq : other = parts
    · subst heq
      simp only [beq_self_eq_true, List.mem_append, List.mem_singleton, or_true, if_true, hplace]
    · have hne : (other == parts) = false := beq_false_of_ne heq
      simp only [hne, h.lookup_eq, List.mem_append, List.mem_singleton, heq, or_false]
      split
      · rename_i hin
        rw [idxOf_eraseDups_append _ hin]
      · rfl

theorem run (h : t.Holds named met) (asked : List (List Nat)) :
    (t.internAll named asked).1 =
        asked.map (fun parts => named + (met ++ asked).eraseDups.idxOf parts) ∧
      (t.internAll named asked).2.Holds named (met ++ asked) := by
  induction asked generalizing met t with
  | nil => exact ⟨rfl, by rwa [List.append_nil]⟩
  | cons parts asked ih =>
    obtain ⟨hnumber, hnext⟩ := h.step parts
    obtain ⟨hnumbers, hlast⟩ := ih hnext
    have hmem : parts ∈ met ++ [parts] := List.mem_append_right _ List.mem_cons_self
    rw [← idxOf_eraseDups_append asked hmem] at hnumber
    rw [List.append_assoc, List.singleton_append] at hnumber hnumbers hlast
    refine ⟨?_, hlast⟩
    rw [List.map_cons, ← hnumber, ← hnumbers]
    rfl

end Holds

theorem parts_internAll (named : Nat) (asked : List (List Nat)) :
    (empty.internAll named asked).2.parts = asked.eraseDups :=
  ((holds_empty named).run asked).2.parts_eq

end Lexing.Interner
