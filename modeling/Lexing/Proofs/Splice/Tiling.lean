import Lexing.Proofs.Splice.Cuts
import Lexing.Proofs.Splice.Stream

/-!
# What spliced lexers tile

Marked runs are segments of the text just as the kept tokens are. Both ways of splicing put placed
tokens in the place of each run, so nothing is moved or repeated, and they leave text out only if
one of the two lexers does: the primary one of the text, or the secondary one of what it is given.
-/
set_option autoImplicit false

namespace Lexing

variable {text host : Text} {p q : Nat} {needle : Kind} {ts : List Token}

section Replace

variable {ι : Type} {part : ι → Token} {emit : ι → List Token} {parts : List ι}

theorem Placed.flatMap (h : Placed text p q (parts.map part))
    (hemit : ∀ x ∈ parts, Placed text (part x).offset (part x).stop (emit x)) :
    Placed text p q (parts.flatMap emit) := by
  induction parts generalizing p with
  | nil => exact h
  | cons x parts ih =>
    obtain ⟨hle, _, htail⟩ := h
    have hthis := (hemit x List.mem_cons_self).mono hle (Nat.le_refl _)
    exact hthis.append (ih htail fun y hy => hemit y (List.mem_cons_of_mem _ hy))

theorem size_flatMap (emit : ι → List Token)
    (hle : ∀ x ∈ parts, (joined (emit x)).size ≤ (part x).text.size) :
    (joined (parts.flatMap emit)).size ≤ (joined (parts.map part)).size ∧
      ((joined (parts.flatMap emit)).size = (joined (parts.map part)).size ↔
        ∀ x ∈ parts, (joined (emit x)).size = (part x).text.size) := by
  induction parts with
  | nil => exact ⟨Nat.le_refl _, fun _ x hx => absurd hx List.not_mem_nil, fun _ => rfl⟩
  | cons x parts ih =>
    obtain ⟨hrest, hiff⟩ := ih fun y hy => hle y (List.mem_cons_of_mem _ hy)
    have hthis := hle x List.mem_cons_self
    simp only [List.flatMap_cons, List.map_cons, joined_append, joined_cons, Text.size_append,
      List.forall_mem_cons, ← hiff]
    omega

/-- What is put in the place of parts tiles the text exactly if the parts do, and each is tiled. -/
theorem Placed.tiles_flatMap (h : Placed text 0 text.size (parts.map part))
    (hemit : ∀ x ∈ parts, Placed text (part x).offset (part x).stop (emit x)) :
    Tiles 0 text (parts.flatMap emit) ↔
      Tiles 0 text (parts.map part) ∧
        ∀ x ∈ parts, Tiles (part x).offset (part x).text (emit x) := by
  have hroom : ∀ x ∈ parts, (part x).stop - (part x).offset = (part x).text.size := fun x _ =>
    Nat.add_sub_cancel_left _ _
  have hpart : ∀ x ∈ parts, (part x).IsPart text := fun x hx => h.isPart (List.mem_map_of_mem hx)
  have heach : ∀ x ∈ parts, (Tiles (part x).offset (part x).text (emit x) ↔
      (joined (emit x)).size = (part x).text.size) := fun x hx => by
    have hiff := (hemit x hx).tiles_iff (hpart x hx).start (hpart x hx).stop
    rw [← (hpart x hx).eq_slice, hroom x hx] at hiff
    exact hiff
  obtain ⟨hle, hiff⟩ := size_flatMap emit fun x hx => by
    have := (hemit x hx).size_le
    rwa [hroom x hx] at this
  have hparts := h.size_le
  have htiles := h.tiles_iff text.boundary_zero text.boundary_size
  have hall := (h.flatMap hemit).tiles_iff text.boundary_zero text.boundary_size
  rw [Text.slice_all] at htiles hall
  have hsizes : (∀ x ∈ parts, Tiles (part x).offset (part x).text (emit x)) ↔
      (joined (parts.flatMap emit)).size = (joined (parts.map part)).size := by
    rw [hiff]
    exact forall₂_congr heach
  rw [hall, htiles, hsizes]
  omega

end Replace

namespace SplicedLexer

theorem perSpanTokens_spec (l : SplicedLexer) (text : Text)
    (hp : Placed text 0 text.size (l.primary.tokens text))
    (hs : ∀ offset run, .marked offset run ∈ segments l.needle (l.primary.tokens text) →
      Placed run 0 run.size (l.secondary.tokens run)) :
    Placed text 0 text.size (l.perSpanTokens text) ∧
      (Tiles 0 text (l.perSpanTokens text) ↔
        Tiles 0 text (l.primary.tokens text) ∧
          ∀ offset run, .marked offset run ∈ segments l.needle (l.primary.tokens text) →
            Tiles 0 run (l.secondary.tokens run)) := by
  have hparts := segments_placed l.needle hp
  have hpart : ∀ x ∈ segments l.needle (l.primary.tokens text),
      (x.token l.needle).IsPart text := fun x hx => hparts.isPart (List.mem_map_of_mem hx)
  have hemit : ∀ x ∈ segments l.needle (l.primary.tokens text),
      Placed text (x.token l.needle).offset (x.token l.needle).stop (l.relexed x) := by
    intro x hx
    have hpart := hpart x hx
    cases x with
    | kept t => exact ⟨Nat.le_refl _, hpart, Nat.le_refl _⟩
    | marked offset run => exact hpart.moved (hs offset run hx)
  rw [perSpanTokens_eq hp]
  refine ⟨hparts.flatMap hemit, ?_⟩
  refine (hparts.tiles_flatMap hemit).trans (and_congr (segments_tiles_iff hp) ?_)
  constructor
  · intro hall offset run hmem
    exact tiles_moved.1 (hall _ hmem)
  · intro hall x hx
    cases x with
    | kept t => exact tiles_single t.kind (hpart _ hx).ne_nil
    | marked offset run => exact tiles_moved.2 (hall offset run hx)

end SplicedLexer

/-- Between them, the cuts for all runs hold every token of the marked text once. `before` is the
text of the runs that are behind already. -/
theorem distribute_spec (before : Text) {parts : List Segment}
    (hh : Placed host 0 host.size ts) (heq : host = before ++ parts.flatMap Segment.markedText)
    (hp : Placed text p q (parts.map (Segment.token needle))) :
    Placed text p q (distribute ts before.size parts) ∧
      (joined (distribute ts before.size parts)).size +
          Text.size (parts.flatMap Segment.markedText) =
        (joined (parts.map (Segment.token needle))).size +
          sizeBetween before.size host.size ts := by
  induction parts generalizing p before with
  | nil =>
    rw [List.flatMap_nil, List.append_nil] at heq
    subst heq
    refine ⟨hp, ?_⟩
    rw [sizeBetween_self]
    rfl
  | cons x parts ih =>
    obtain ⟨hle, hpart, htail⟩ := hp
    cases x with
    | kept t =>
      obtain ⟨hrest, hsize⟩ := ih _ heq htail
      refine ⟨⟨hle, hpart, hrest⟩, ?_⟩
      simp only [distribute, List.flatMap_cons, Segment.markedText, List.nil_append, List.map_cons,
        joined_cons, Segment.token, Text.size_append] at hsize ⊢
      omega
    | marked offset run =>
      rw [List.flatMap_cons, Segment.markedText, ← List.append_assoc] at heq
      obtain ⟨hrest, hsize⟩ := ih _ heq htail
      have hne : run ≠ [] := hpart.ne_nil
      have hthere := Token.isPart_middle (k := needle) hne heq
      have hs : host.Boundary before.size := hthere.start
      have ht : host.Boundary (before.size + run.size) := hthere.stop
      have hrun : host.slice ⟨before.size, before.size + run.size⟩ = run := hthere.eq_slice.symm
      have hroom := ht.le_size
      have hcut := (hh.cut hs ht (Nat.le_add_right _ _)).mono (Nat.zero_le _) (Nat.le_refl _)
      rw [hrun, Nat.add_sub_cancel_left] at hcut
      have hmoved := hpart.moved hcut
      rw [Segment.token, ← cutTokens_eq_shift] at hmoved
      rw [Text.size_append] at hrest hsize
      refine ⟨(hmoved.mono hle (Nat.le_refl _)).append hrest, ?_⟩
      have hsizes := hh.size_cut hs ht (Nat.le_add_right _ _) offset
      have hadd := sizeBetween_add (Nat.le_add_right before.size run.size) hroom ts
      simp only [distribute, List.flatMap_cons, Segment.markedText, List.map_cons, joined_cons,
        joined_append, Segment.token, Text.size_append] at hsize ⊢
      omega

namespace SplicedLexer

theorem contiguousTokens_spec (l : SplicedLexer) (text : Text)
    (hp : Placed text 0 text.size (l.primary.tokens text))
    (hs : let runs := (segments l.needle (l.primary.tokens text)).flatMap Segment.markedText
      Placed runs 0 (Text.size runs) (l.secondary.tokens runs)) :
    Placed text 0 text.size (l.contiguousTokens text) ∧
      (Tiles 0 text (l.contiguousTokens text) ↔
        Tiles 0 text (l.primary.tokens text) ∧
          let runs := (segments l.needle (l.primary.tokens text)).flatMap Segment.markedText
          Tiles 0 runs (l.secondary.tokens runs)) := by
  obtain ⟨hall, hsize⟩ := distribute_spec [] hs rfl (segments_placed l.needle hp)
  rw [contiguousTokens_eq hp hs]
  refine ⟨hall, ?_⟩
  have htext := hall.tiles_iff text.boundary_zero text.boundary_size
  have hprimary := hp.tiles_iff text.boundary_zero text.boundary_size
  have hruns := hs.tiles_iff (Text.boundary_zero _) (Text.boundary_size _)
  have hroom := hp.size_le
  have hroom' := hs.size_le
  rw [Text.slice_all] at htext hprimary hruns
  rw [joined_segments, Text.size_nil, hs.sizeBetween_all] at hsize
  simp only [Text.size_nil] at htext
  rw [htext, hprimary, hruns]
  omega

end SplicedLexer

end Lexing
