import Lexing.Proofs.Token.Tiling
import Lexing.Run.Cover

/-!
# Covered spans are tiled

Whatever pieces are asked for, and in whatever order, the tokens that cover a span tile it as soon
as the tokens of every kept piece tile the piece.
-/
set_option autoImplicit false

namespace Lexing

variable {α : Type} {text : Text} {start stop : Nat}

def kept (text : Text) (stop : Nat) : Nat → List (Span × α) → List (Span × α)
  | _, [] => []
  | start, (s, a) :: pieces =>
    if fits text start stop s then (s, a) :: kept text stop s.stop pieces
    else kept text stop start pieces

structure Span.Inside (s : Span) (text : Text) (start stop : Nat) : Prop where
  boundary_start : text.Boundary s.start
  boundary_stop : text.Boundary s.stop
  start_le : start ≤ s.start
  lt : s.start < s.stop
  stop_le : s.stop ≤ stop

theorem fits_iff {s : Span} : fits text start stop s = true ↔ s.Inside text start stop := by
  simp only [fits, Span.isEmpty, Bool.and_eq_true, Bool.not_eq_true', decide_eq_false_iff_not,
    decide_eq_true_eq, Text.isBoundary_iff]
  constructor
  · rintro ⟨⟨⟨⟨hlt, hle⟩, hstop⟩, hb⟩, hb'⟩
    exact ⟨hb, hb', hle, by omega, hstop⟩
  · intro h
    have := h.lt
    exact ⟨⟨⟨⟨by omega, h.start_le⟩, h.stop_le⟩, h.boundary_start⟩, h.boundary_stop⟩

theorem kept_inside {pieces : List (Span × α)} {s : Span} {a : α}
    (h : (s, a) ∈ kept text stop start pieces) : s.Inside text start stop := by
  induction pieces generalizing start with
  | nil => cases h
  | cons piece pieces ih =>
    obtain ⟨s', a'⟩ := piece
    simp only [kept] at h
    split at h
    · rename_i hfit
      have hin := fits_iff.1 hfit
      rcases List.mem_cons.1 h with heq | htail
      · obtain ⟨rfl, rfl⟩ := Prod.mk.inj heq
        exact hin
      · have hin' := ih htail
        have := hin.start_le
        have := hin.lt
        have := hin'.start_le
        exact ⟨hin'.boundary_start, hin'.boundary_stop, by omega, hin'.lt, hin'.stop_le⟩
    · exact ih h

theorem mem_of_kept {pieces : List (Span × α)} {piece : Span × α}
    (h : piece ∈ kept text stop start pieces) : piece ∈ pieces := by
  induction pieces generalizing start with
  | nil => cases h
  | cons first pieces ih =>
    obtain ⟨s, a⟩ := first
    simp only [kept] at h
    split at h
    · rcases List.mem_cons.1 h with rfl | htail
      · exact List.mem_cons_self
      · exact List.mem_cons_of_mem _ (ih htail)
    · exact List.mem_cons_of_mem _ (ih h)

theorem gap_tiles (hp : text.Boundary start) (hq : text.Boundary stop) (h : start ≤ stop) :
    Tiles start (text.slice ⟨start, stop⟩) (gap text start stop) := by
  simp only [gap]
  split
  · rename_i hlt
    refine tiles_single _ fun hnil => ?_
    have := (Text.slice_eq_nil hp hq h).1 hnil
    omega
  · obtain rfl : start = stop := by omega
    rw [Text.slice_self]
    exact tiles_nil _

theorem gap_placed (hp : text.Boundary start) (hq : text.Boundary stop) (h : start ≤ stop) :
    Placed text start stop (gap text start stop) :=
  (gap_tiles hp hq h).placed hp hq h

/-- The tokens of a span are placed in it, and they tile it exactly if each kept piece is tiled. -/
theorem cover_spec {emit : Span → α → List Token} {pieces : List (Span × α)}
    (hp : text.Boundary start) (hq : text.Boundary stop) (h : start ≤ stop)
    (hplaced : ∀ s a, (s, a) ∈ kept text stop start pieces →
      Placed text s.start s.stop (emit s a)) :
    Placed text start stop (cover text emit stop start pieces) ∧
      (Tiles start (text.slice ⟨start, stop⟩) (cover text emit stop start pieces) ↔
        ∀ s a, (s, a) ∈ kept text stop start pieces →
          Tiles s.start (text.slice s) (emit s a)) := by
  induction pieces generalizing start with
  | nil =>
    refine ⟨gap_placed hp hq h, fun _ s a hmem => ?_, fun _ => gap_tiles hp hq h⟩
    cases hmem
  | cons piece pieces ih =>
    obtain ⟨s, a⟩ := piece
    simp only [cover, kept] at hplaced ⊢
    split
    · rename_i hfit
      obtain ⟨hs, ht, hle, hlt, hstop⟩ := fits_iff.1 hfit
      rw [if_pos hfit] at hplaced
      have hgap := gap_placed hp hs hle
      have hpiece := hplaced s a List.mem_cons_self
      obtain ⟨hrest, hiff⟩ := ih ht hstop fun s' a' hmem =>
        hplaced s' a' (List.mem_cons_of_mem _ hmem)
      have hfirst := hgap.append hpiece
      refine ⟨hfirst.append hrest, ?_⟩
      rw [hfirst.tiles_append_iff hp ht hq hrest, hgap.tiles_append_iff hp hs ht hpiece, hiff]
      constructor
      · rintro ⟨⟨_, hthis⟩, hthose⟩ s' a' hmem
        rcases List.mem_cons.1 hmem with heq | htail
        · obtain ⟨rfl, rfl⟩ := Prod.mk.inj heq
          exact hthis
        · exact hthose s' a' htail
      · intro hall
        exact ⟨⟨gap_tiles hp hs hle, hall s a List.mem_cons_self⟩,
          fun s' a' hmem => hall s' a' (List.mem_cons_of_mem _ hmem)⟩
    · rename_i hfit
      rw [if_neg hfit] at hplaced
      exact ih hp h hplaced

theorem emitKind_tiles {s : Span} (k : Kind) (h : s.Inside text start stop) :
    Tiles s.start (text.slice s) (emitKind text s k) := by
  refine tiles_single k fun hnil => ?_
  have hlt := h.lt
  have := (Text.slice_eq_nil h.boundary_start h.boundary_stop (Nat.le_of_lt hlt)).1 hnil
  omega

theorem emitKind_placed {s : Span} (k : Kind) (h : s.Inside text start stop) :
    Placed text s.start s.stop (emitKind text s k) :=
  (emitKind_tiles k h).placed h.boundary_start h.boundary_stop (Nat.le_of_lt h.lt)

theorem coverKinds_tiles (hp : text.Boundary start) (hq : text.Boundary stop) (h : start ≤ stop)
    (pieces : List (Span × Kind)) :
    Tiles start (text.slice ⟨start, stop⟩) (cover text (emitKind text) stop start pieces) := by
  refine (cover_spec hp hq h fun s k hmem => ?_).2.2 fun s k hmem => ?_
  · exact emitKind_placed k (kept_inside hmem)
  · exact emitKind_tiles k (kept_inside hmem)

theorem coverEmissions_tiles (hp : text.Boundary start) (hq : text.Boundary stop)
    (h : start ≤ stop) (es : List Emission) :
    Tiles start (text.slice ⟨start, stop⟩) (coverEmissions text ⟨start, stop⟩ es) :=
  coverKinds_tiles hp hq h _

theorem cover_congr {emit emit' : Span → α → List Token} {pieces : List (Span × α)}
    (h : ∀ s a, (s, a) ∈ kept text stop start pieces → emit s a = emit' s a) :
    cover text emit stop start pieces = cover text emit' stop start pieces := by
  induction pieces generalizing start with
  | nil => rfl
  | cons piece pieces ih =>
    obtain ⟨s, a⟩ := piece
    simp only [cover, kept] at h ⊢
    split
    · rename_i hfit
      rw [if_pos hfit] at h
      rw [h s a List.mem_cons_self, ih fun s' a' hmem => h s' a' (List.mem_cons_of_mem _ hmem)]
    · rename_i hfit
      rw [if_neg hfit] at h
      exact ih h

end Lexing
