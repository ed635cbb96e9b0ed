import Lexing.Proofs.Pattern.CharSet
import Lexing.Proofs.Pattern.Ends

/-!
# Choices between words

A choice between words is a set when all of them are single characters, and otherwise it has one
branch for each word. Either way its best end is behind the first word that stands at the place and
fits, and no word is shorter than the least length of a match.
-/
set_option autoImplicit false

namespace Lexing.Pattern

namespace Spot

variable {s : Spot} {w : Text}

def Stands (s : Spot) (w : Text) : Prop := w <+: s.rest ∧ s.offset + w.size ≤ s.limit

instance (s : Spot) (w : Text) : Decidable (s.Stands w) := inferInstanceAs (Decidable (_ ∧ _))

theorem past?_eq (w : Text) (h : s.offset ≤ s.limit) :
    (s.past? w).map Spot.offset = if s.Stands w then some (s.offset + w.size) else none := by
  induction w generalizing s with
  | nil => simp [past?, Stands, h]
  | cons c w ih =>
    obtain ⟨last, rest, offset, limit⟩ := s
    cases rest with
    | nil => simp [past?, Stands]
    | cons d rest =>
      by_cases hcd : d = c
      · subst hcd
        by_cases hlimit : limit < offset + d.utf8Size
        · have hno : ¬ offset + (d.utf8Size + Text.size w) ≤ limit := by omega
          simp [past?, next?, Stands, hlimit, hno]
        · have hrest := ih (s := ⟨some d, rest, offset + d.utf8Size, limit⟩)
            (Nat.le_of_not_lt hlimit)
          simpa [past?, next?, Stands, hlimit, Nat.add_assoc] using hrest
      · simp [past?, Stands, hcd, Ne.symm hcd]

end Spot

namespace Node

variable {s : Spot} {ws : List Text} {x : CharSet}

def ofWord : Text → Node
  | [] => empty
  | w => word w

def ofWords (ws : List Text) : Node := firstOfApart (ws.map ofWord)

theorem ends_ofWord (w : Text) (s : Spot) : (ofWord w).ends s = (s.past? w).toList := by
  cases w <;> rfl

structure Collects (x : CharSet) (ws : List Text) : Prop where
  ordered : x.ranges.Ordered
  length_le : x.ranges.length ≤ ws.length
  single : ∀ w ∈ ws, ∃ c, w = [c]
  has_iff : ∀ c, x.has c = true ↔ [c] ∈ ws

theorem collects_of_characters? (h : characters? (ws.map ofWord) = some x) : Collects x ws := by
  induction ws generalizing x with
  | nil =>
    obtain rfl := Option.some.inj h
    refine ⟨trivial, Nat.le_refl _, by simp, fun c => ?_⟩
    simp [CharSet.has, CharSet.empty, Unicode.Ranges.has]
  | cons w ws ih =>
    -- only for a word of a single character is there a set
    cases w with
    | nil => cases h
    | cons c w =>
      obtain rfl : w = [] := by
        cases w with
        | nil => rfl
        | cons d w => cases h
      obtain ⟨y, hy, rfl⟩ := Option.map_eq_some_iff.1 h
      obtain ⟨ordered, length_le, single, has_iff⟩ := ih hy
      refine ⟨CharSet.ordered_union_single c ordered, ?_, ?_, fun d => ?_⟩
      · exact Nat.le_trans (CharSet.length_insertRange _ _ _) (Nat.succ_le_succ length_le)
      · simpa using single
      · rw [CharSet.has_union_single ordered, has_iff]
        simp

theorem members?_ofWord (h : ws ≠ []) : members? (ws.map ofWord) = none := by
  match ws, h with
  | [] :: _, _ => rfl
  | (_ :: _) :: _, _ => rfl

theorem ofWords_cases (h : ws ≠ []) :
    (∃ x, Collects x ws ∧ ofWords ws = ofSet x) ∨ ofWords ws = ofBranches (ws.map ofWord) := by
  have hnone : (characters? (ws.map ofWord) <|> members? (ws.map ofWord)) =
      characters? (ws.map ofWord) := by
    rw [members?_ofWord h]
    cases characters? (ws.map ofWord) <;> rfl
  rw [ofWords, firstOfApart, hnone]
  split
  · exact .inr rfl
  · split
    · exact .inl ⟨_, collects_of_characters? ‹_›, rfl⟩
    · exact .inr rfl

theorem Collects.single? (h : Collects x ws) (hne : ws ≠ []) {c : Char}
    (hc : x.single? = some c) : ∀ d, x.has d = true ↔ d = c := by
  obtain ⟨w, hw⟩ := List.exists_mem_of_ne_nil ws hne
  obtain ⟨e, rfl⟩ := h.single w hw
  have he := (h.has_iff e).2 hw
  simp only [CharSet.single?] at hc
  split at hc
  · rename_i lo hi hranges
    split at hc
    · rename_i heq
      subst heq
      have hhas (d : Char) : x.has d = true ↔ d.toNat = lo := by
        simp only [CharSet.has, hranges, Unicode.Ranges.has, Bool.or_false, Bool.and_eq_true,
          decide_eq_true_eq]
        omega
      obtain rfl := Option.some.inj hc
      obtain rfl := (hhas e).1 he
      intro d
      rw [hhas, Char.ofNat_toNat, Char.toNat_inj]
    · cases hc
  · cases hc

theorem Collects.ends_ofSet (h : Collects x ws) (hne : ws ≠ []) (s : Spot) :
    (ofSet x).ends s = if s.rest.head?.any x.has then s.next?.toList else [] := by
  rw [ofSet]
  split
  · rename_i c hc
    have hhead : s.rest.head?.any x.has = true ↔ s.rest.head? = some c := by
      simp [Option.any_eq_true, h.single? hne hc]
    simp only [hhead, ends, Spot.past?]
    split
    · cases s.next? <;> rfl
    · rfl
  · rfl

theorem Collects.head_ends (h : Collects x ws) (hne : ws ≠ []) (s : Spot) :
    ((ofSet x).ends s).head?.map Spot.offset =
      (ws.find? fun w => s.Stands w).map fun w => s.offset + w.size := by
  rw [h.ends_ofSet hne]
  cases hfind : ws.find? fun w => s.Stands w with
  | some w =>
    obtain ⟨c, rfl⟩ := h.single w (List.mem_of_find?_eq_some hfind)
    have hc := (h.has_iff c).2 (List.mem_of_find?_eq_some hfind)
    have hstands := List.find?_some hfind
    obtain ⟨⟨rest, hrest⟩, hfits⟩ := of_decide_eq_true hstands
    have hlimit : ¬ s.limit < s.offset + c.utf8Size := Nat.not_lt.2 hfits
    simp [← hrest, Spot.next?, hc, hlimit]
  | none =>
    have hnone : ∀ w ∈ ws, ¬ s.Stands w := by simpa using hfind
    cases hrest : s.rest with
    | nil => rfl
    | cons c rest =>
      by_cases hc : x.has c = true
      · have hlimit : s.limit < s.offset + c.utf8Size := Nat.lt_of_not_le fun hle =>
          hnone [c] ((h.has_iff c).1 hc) ⟨⟨rest, hrest.symm⟩, hle⟩
        simp [hrest, Spot.next?, hc, hlimit]
      · simp [hc]

/-- What holds of the node of each word, and of a choice between two nodes of which it holds, holds
of the branches for some words. -/
theorem ofBranches_induction {P : List Text → Node → Prop} (one : ∀ w, P [w] (ofWord w))
    (more : ∀ w ws n, P ws n → P (w :: ws) (alt (ofWord w) n)) (hne : ws ≠ []) :
    P ws (ofBranches (ws.map ofWord)) := by
  induction ws with
  | nil => exact absurd rfl hne
  | cons w ws ih =>
    cases ws with
    | nil => exact one w
    | cons v ws => exact more w (v :: ws) _ (ih (List.cons_ne_nil v ws))

theorem head_ends_ofBranches (hne : ws ≠ []) (hs : s.offset ≤ s.limit) :
    ((ofBranches (ws.map ofWord)).ends s).head?.map Spot.offset =
      (ws.find? fun w => s.Stands w).map fun w => s.offset + w.size := by
  have hword (w : Text) : ((ofWord w).ends s).head?.map Spot.offset =
      if s.Stands w then some (s.offset + w.size) else none := by
    rw [ends_ofWord, ← Spot.past?_eq w hs]
    cases s.past? w <;> rfl
  refine ofBranches_induction (P := fun ws n => (n.ends s).head?.map Spot.offset =
    (ws.find? fun w => s.Stands w).map fun w => s.offset + w.size) (fun w => ?_)
    (fun w ws n ih => ?_) hne
  · rw [hword, List.find?_singleton]
    by_cases hw : s.Stands w <;> simp [hw]
  · rw [ends, List.head?_append, Option.map_or, hword, ih]
    by_cases hw : s.Stands w <;> simp [hw]

/-- The best end of a choice between words is behind the first word that stands here. -/
theorem head_ends_ofWords (hne : ws ≠ []) (hs : s.offset ≤ s.limit) :
    ((ofWords ws).ends s).head?.map Spot.offset =
      (ws.find? fun w => s.Stands w).map fun w => s.offset + w.size := by
  rcases ofWords_cases hne with ⟨x, hx, heq⟩ | heq
  · rw [heq, hx.head_ends hne s]
  · rw [heq, head_ends_ofBranches hne hs]

theorem loopsOverSets_ofWord (w : Text) : (ofWord w).LoopsOverSets := by
  cases w <;> exact trivial

theorem loopsOverSets_ofWords (hne : ws ≠ []) : (ofWords ws).LoopsOverSets := by
  rcases ofWords_cases hne with ⟨x, -, heq⟩ | heq
  · rw [heq, ofSet]
    split <;> exact trivial
  · rw [heq]
    exact ofBranches_induction (P := fun _ n => n.LoopsOverSets) loopsOverSets_ofWord
      (fun w _ _ ih => ⟨loopsOverSets_ofWord w, ih⟩) hne

theorem minLength_ofWord (w : Text) : (ofWord w).minLength = some w.size := by
  cases w <;> rfl

theorem Collects.minLength_ofSet (h : Collects x ws) (hne : ws ≠ []) :
    ∃ m, (ofSet x).minLength = some m ∧ ∀ w ∈ ws, m ≤ w.size := by
  rw [ofSet]
  split
  · rename_i c hc
    refine ⟨_, rfl, fun w hw => ?_⟩
    obtain ⟨d, rfl⟩ := h.single w hw
    obtain rfl := (h.single? hne hc d).1 ((h.has_iff d).2 hw)
    exact Nat.le_refl _
  · obtain ⟨w, hw⟩ := List.exists_mem_of_ne_nil ws hne
    obtain ⟨c, rfl⟩ := h.single w hw
    obtain ⟨m, hm, -⟩ := CharSet.minSize_le h.ordered ((h.has_iff c).2 hw)
    refine ⟨m, hm, fun v hv => ?_⟩
    obtain ⟨d, rfl⟩ := h.single v hv
    obtain ⟨m', hm', hle⟩ := CharSet.minSize_le h.ordered ((h.has_iff d).2 hv)
    obtain rfl := Option.some.inj (hm.symm.trans hm')
    simpa using hle

theorem minLength_ofBranches (hne : ws ≠ []) :
    ∃ w ∈ ws, (ofBranches (ws.map ofWord)).minLength = some w.size ∧ ∀ v ∈ ws, w.size ≤ v.size := by
  refine ofBranches_induction
    (P := fun ws n => ∃ w ∈ ws, n.minLength = some w.size ∧ ∀ v ∈ ws, w.size ≤ v.size)
    (fun w => ⟨w, List.mem_cons_self, minLength_ofWord w, by simp⟩) (fun w ws n ih => ?_) hne
  obtain ⟨u, hu, hmin, hle⟩ := ih
  have hboth : (alt (ofWord w) n).minLength = some (min w.size u.size) := by
    rw [minLength, minLength_ofWord, hmin]
    rfl
  rcases Nat.le_total w.size u.size with h | h
  · refine ⟨w, List.mem_cons_self, by rw [hboth, Nat.min_eq_left h], ?_⟩
    rw [List.forall_mem_cons]
    exact ⟨Nat.le_refl _, fun v hv => Nat.le_trans h (hle v hv)⟩
  · refine ⟨u, List.mem_cons_of_mem w hu, by rw [hboth, Nat.min_eq_right h], ?_⟩
    rw [List.forall_mem_cons]
    exact ⟨h, hle⟩

theorem minLength_ofWords (hne : ws ≠ []) :
    ∃ m, (ofWords ws).minLength = some m ∧ ∀ w ∈ ws, m ≤ w.size := by
  rcases ofWords_cases hne with ⟨x, hx, heq⟩ | heq
  · rw [heq]
    exact hx.minLength_ofSet hne
  · obtain ⟨w, -, hmin, hle⟩ := minLength_ofBranches hne
    exact ⟨w.size, heq ▸ hmin, hle⟩

end Node

end Lexing.Pattern
