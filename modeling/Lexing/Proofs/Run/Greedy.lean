import Mathlib.Data.List.Forall2
import Mathlib.Data.List.ReduceOption
import Lexing.Proofs.Run.Cover
import Lexing.Run.Step

/-!
# Pieces are taken greedily

Of the pieces asked for in a span, from the first to the last, each one is accepted that fits behind
the last one accepted. Every accepted piece gives one token, and every gap that they leave gives one
token of plain text. `Greedy` says which pieces these are without the scan that finds them.
-/
set_option autoImplicit false

namespace Lexing

variable {α : Type} {text : Text} {start stop : Nat}

/-- Where the last piece stops that is accepted before place `i`, or `start` if there is none. -/
def reach (start : Nat) (pieces : List (Span × α)) (accepted : List Nat) (i : Nat) : Nat :=
  (((accepted.filter (· < i)).filterMap (pieces[·]?)).getLast?.map fun p => p.1.stop).getD start

/-- The pieces at the given places, which are in order, are the ones that fit behind those accepted
before them. -/
structure Greedy (text : Text) (s : Span) (pieces : List (Span × α)) (accepted : List Nat) :
    Prop where
  ordered : accepted.Pairwise (· < ·)
  mem_iff : ∀ i, i ∈ accepted ↔ ∃ p, pieces[i]? = some p ∧
    p.1.Inside text (reach s.start pieces accepted i) s.stop

/-- A part of a span that no accepted piece takes from, with one of them, or the end of the span, at
either side. -/
structure IsGap (s : Span) (accepted : List (Span × α)) (a b : Nat) : Prop where
  lt : a < b
  start_le : s.start ≤ a
  left : a = s.start ∨ ∃ p ∈ accepted, p.1.stop = a
  right : b = s.stop ∨ ∃ p ∈ accepted, p.1.start = b
  free : ∀ p ∈ accepted, p.1.stop ≤ a ∨ b ≤ p.1.start

/-- What a token stands for: the piece at a place, or a gap. -/
def Comes (text : Text) (s : Span) (pieces : List (Span × Kind)) (accepted : List Nat) (t : Token) :
    Option Nat → Prop
  | some i => ∃ p, pieces[i]? = some p ∧ t = ⟨p.1.start, p.2, text.slice p.1⟩
  | none => t.kind = .text ∧ IsGap s (accepted.filterMap (pieces[·]?)) t.offset t.stop

/-- The tokens tile the span. They stand for the pieces that are accepted greedily, each once and in
their order, and for gaps. -/
def CoversGreedily (text : Text) (s : Span) (pieces : List (Span × Kind)) (ts : List Token) :
    Prop :=
  Tiles s.start (text.slice s) ts ∧
    ∃ accepted, Greedy text s pieces accepted ∧
      ∃ origins : List (Option Nat), origins.reduceOption = accepted ∧
        List.Forall₂ (Comes text s pieces accepted) ts origins

def keptAt (text : Text) (stop : Nat) : Nat → List (Span × α) → List Nat
  | _, [] => []
  | start, (s, _) :: pieces =>
    if fits text start stop s then 0 :: (keptAt text stop s.stop pieces).map (· + 1)
    else (keptAt text stop start pieces).map (· + 1)

theorem filterMap_skipped (places : List Nat) (p : Span × α) (pieces : List (Span × α)) :
    (places.map (· + 1)).filterMap ((p :: pieces)[·]?) = places.filterMap (pieces[·]?) :=
  List.filterMap_map

theorem filterMap_taken (places : List Nat) (p : Span × α) (pieces : List (Span × α)) :
    (0 :: places.map (· + 1)).filterMap ((p :: pieces)[·]?) =
      p :: places.filterMap (pieces[·]?) :=
  congrArg (List.cons p) (filterMap_skipped places p pieces)

theorem filterMap_keptAt (pieces : List (Span × α)) :
    (keptAt text stop start pieces).filterMap (pieces[·]?) = kept text stop start pieces := by
  induction pieces generalizing start with
  | nil => rfl
  | cons p pieces ih =>
    simp only [keptAt, kept]
    split
    · rw [filterMap_taken, ih]
    · rw [filterMap_skipped, ih]

theorem filter_succ (places : List Nat) (i : Nat) :
    (places.map (· + 1)).filter (· < i + 1) = (places.filter (· < i)).map (· + 1) := by
  rw [List.filter_map]
  congr 2
  funext j
  simp

theorem reach_zero (pieces : List (Span × α)) (places : List Nat) :
    reach start pieces places 0 = start := by
  simp [reach]

theorem reach_skipped (p : Span × α) (pieces : List (Span × α)) (places : List Nat) (i : Nat) :
    reach start (p :: pieces) (places.map (· + 1)) (i + 1) = reach start pieces places i := by
  rw [reach, filter_succ, filterMap_skipped, reach]

theorem reach_taken (p : Span × α) (pieces : List (Span × α)) (places : List Nat) (i : Nat) :
    reach start (p :: pieces) (0 :: places.map (· + 1)) (i + 1) =
      reach p.1.stop pieces places i := by
  have hfilter : (0 :: places.map (· + 1)).filter (· < i + 1) =
      0 :: (places.filter (· < i)).map (· + 1) := by
    rw [← filter_succ]
    exact List.filter_cons_of_pos (decide_eq_true (Nat.succ_pos i))
  rw [reach, hfilter, filterMap_taken, List.getLast?_cons, reach]
  cases ((places.filter (· < i)).filterMap (pieces[·]?)).getLast? <;> rfl

theorem pairwise_succ {places : List Nat} (h : places.Pairwise (· < ·)) :
    (places.map (· + 1)).Pairwise (· < ·) :=
  h.map _ fun _ _ => Nat.succ_lt_succ

theorem greedy_keptAt (pieces : List (Span × α)) :
    Greedy text ⟨start, stop⟩ pieces (keptAt text stop start pieces) := by
  -- a piece taken here is what its followers reach back to if none is taken between
  induction pieces generalizing start with
  | nil =>
    refine ⟨List.Pairwise.nil, fun i => ?_⟩
    simp [keptAt]
  | cons p pieces ih =>
    rw [keptAt]
    split
    · rename_i hfit
      obtain ⟨ordered, mem_iff⟩ := @ih p.1.stop
      refine ⟨List.pairwise_cons.2 ⟨?_, pairwise_succ ordered⟩, fun i => ?_⟩
      · intro j hj
        obtain ⟨k, _, rfl⟩ := List.mem_map.1 hj
        exact Nat.succ_pos k
      · cases i with
        | zero => simp [reach_zero, fits_iff.1 hfit]
        | succ i =>
          rw [reach_taken]
          simpa using mem_iff i
    · rename_i hfit
      obtain ⟨ordered, mem_iff⟩ := @ih start
      refine ⟨pairwise_succ ordered, fun i => ?_⟩
      cases i with
      | zero => simp [reach_zero, ← fits_iff, hfit]
      | succ i =>
        rw [reach_skipped]
        simpa using mem_iff i

def origins (text : Text) (stop : Nat) : Nat → List (Span × α) → List (Option Nat)
  | start, [] => if start < stop then [none] else []
  | start, (s, _) :: pieces =>
    if fits text start stop s then
      (if start < s.start then [none] else []) ++
        some 0 :: (origins text stop s.stop pieces).map (Option.map (· + 1))
    else (origins text stop start pieces).map (Option.map (· + 1))

theorem reduceOption_origins (pieces : List (Span × α)) :
    (origins text stop start pieces).reduceOption = keptAt text stop start pieces := by
  induction pieces generalizing start with
  | nil =>
    rw [origins]
    split <;> rfl
  | cons p pieces ih =>
    rw [origins, keptAt]
    split
    · have hgap :
          (if start < p.1.start then [none] else [] : List (Option Nat)).reduceOption = [] := by
        split <;> rfl
      rw [List.reduceOption_append, hgap, List.nil_append, List.reduceOption_cons_of_some,
        List.reduceOption_map, ih]
    · rw [List.reduceOption_map, ih]

theorem IsGap.behind {p : Span × α} {ps : List (Span × α)} {a b : Nat}
    (hin : p.1.Inside text start stop) (h : IsGap ⟨p.1.stop, stop⟩ ps a b) :
    IsGap ⟨start, stop⟩ (p :: ps) a b := by
  have hstart := hin.start_le
  have hlt := hin.lt
  have hle : p.1.stop ≤ a := h.start_le
  refine ⟨h.lt, ?_, .inr ?_, ?_, ?_⟩
  · change start ≤ a
    omega
  · rcases h.left with heq | ⟨q, hq, heq⟩
    · exact ⟨p, List.mem_cons_self, heq.symm⟩
    · exact ⟨q, List.mem_cons_of_mem p hq, heq⟩
  · exact h.right.imp_right fun ⟨q, hq, heq⟩ => ⟨q, List.mem_cons_of_mem p hq, heq⟩
  · intro q hq
    rcases List.mem_cons.1 hq with rfl | hq
    · exact .inl hle
    · exact h.free q hq

theorem isGap_before {p : Span × α} (pieces : List (Span × α)) (hin : p.1.Inside text start stop)
    (hlt : start < p.1.start) :
    IsGap ⟨start, stop⟩ (p :: kept text stop p.1.stop pieces) start p.1.start := by
  refine ⟨hlt, Nat.le_refl start, .inl rfl, .inr ⟨p, List.mem_cons_self, rfl⟩, fun q hq => .inr ?_⟩
  rcases List.mem_cons.1 hq with rfl | hq
  · exact Nat.le_refl _
  · have hafter : p.1.stop ≤ q.1.start := (kept_inside hq).start_le
    have := hin.lt
    omega

theorem forall₂_gap {R : Token → Option Nat → Prop} {a b : Nat}
    (h : a < b → R ⟨a, .text, text.slice ⟨a, b⟩⟩ none) :
    List.Forall₂ R (gap text a b) (if a < b then [none] else []) := by
  unfold gap
  split
  · rename_i hlt
    exact .cons (h hlt) .nil
  · exact .nil

section

variable {pieces : List (Span × Kind)} {p : Span × Kind} {places : List Nat} {t : Token}
  {origin : Option Nat}

theorem Comes.skipped (h : Comes text ⟨start, stop⟩ pieces places t origin) :
    Comes text ⟨start, stop⟩ (p :: pieces) (places.map (· + 1)) t (origin.map (· + 1)) := by
  cases origin with
  | some i => exact h
  | none =>
    refine ⟨h.1, ?_⟩
    rw [filterMap_skipped]
    exact h.2

theorem Comes.taken (hin : p.1.Inside text start stop)
    (h : Comes text ⟨p.1.stop, stop⟩ pieces places t origin) :
    Comes text ⟨start, stop⟩ (p :: pieces) (0 :: places.map (· + 1)) t (origin.map (· + 1)) := by
  cases origin with
  | some i => exact h
  | none =>
    refine ⟨h.1, ?_⟩
    rw [filterMap_taken]
    exact h.2.behind hin

theorem comes_gap {s : Span} {a b : Nat} (ha : text.Boundary a) (hb : text.Boundary b)
    (h : IsGap s (places.filterMap (pieces[·]?)) a b) :
    Comes text s pieces places ⟨a, .text, text.slice ⟨a, b⟩⟩ none := by
  have hstop : Token.stop ⟨a, .text, text.slice ⟨a, b⟩⟩ = b := by
    rw [Token.stop, Text.size_slice ha hb (Nat.le_of_lt h.lt)]
    exact Nat.add_sub_cancel' (Nat.le_of_lt h.lt)
  refine ⟨rfl, ?_⟩
  rw [hstop]
  exact h

end

theorem forall₂_comes (pieces : List (Span × Kind)) (hp : text.Boundary start)
    (hq : text.Boundary stop) :
    List.Forall₂ (Comes text ⟨start, stop⟩ pieces (keptAt text stop start pieces))
      (cover text (emitKind text) stop start pieces) (origins text stop start pieces) := by
  induction pieces generalizing start with
  | nil =>
    refine forall₂_gap fun hlt => comes_gap hp hq ?_
    exact ⟨hlt, Nat.le_refl start, .inl rfl, .inl rfl, fun p hp => absurd hp List.not_mem_nil⟩
  | cons p pieces ih =>
    rw [cover, origins, keptAt]
    split
    · rename_i hfit
      have hin := fits_iff.1 hfit
      rw [List.append_assoc]
      refine List.rel_append ?_ (.cons ⟨p, rfl, rfl⟩ ?_)
      · refine forall₂_gap fun hlt => comes_gap hp hin.boundary_start ?_
        rw [filterMap_taken, filterMap_keptAt]
        exact isGap_before pieces hin hlt
      · exact List.forall₂_map_right_iff.2 ((ih hin.boundary_stop).imp fun _ _ h => h.taken hin)
    · exact List.forall₂_map_right_iff.2 ((ih hp).imp fun _ _ h => h.skipped)

theorem cover_greedily (pieces : List (Span × Kind)) (hp : text.Boundary start)
    (hq : text.Boundary stop) (hle : start ≤ stop) :
    CoversGreedily text ⟨start, stop⟩ pieces (cover text (emitKind text) stop start pieces) :=
  ⟨coverKinds_tiles hp hq hle pieces, keptAt text stop start pieces, greedy_keptAt pieces,
    origins text stop start pieces, reduceOption_origins pieces, forall₂_comes pieces hp hq⟩

theorem groupPieces_map {β : Type} (f : α → β) (actions : List α) (groups : List (Option Span)) :
    groupPieces (actions.map f) groups =
      (groupPieces actions groups).map fun p => (p.1, f p.2) := by
  rw [groupPieces, groupPieces, List.zip_map_left, List.filterMap_map, List.map_filterMap]
  refine List.filterMap_congr fun pair _ => ?_
  obtain ⟨a, _ | s⟩ := pair <;> rfl

theorem cover_map {β : Type} (emit : Span → β → List Token) (f : α → β)
    (pieces : List (Span × α)) :
    cover text emit stop start (pieces.map fun p => (p.1, f p.2)) =
      cover text (fun s a => emit s (f a)) stop start pieces := by
  induction pieces generalizing start with
  | nil => rfl
  | cons p pieces ih => simp only [List.map_cons, cover, ih]

theorem cover_groups (nested : Nested) (kinds : List Kind) (groups : List (Option Span)) :
    cover text (emitGroup nested text) stop start (groupPieces (kinds.map .kind) groups) =
      cover text (emitKind text) stop start (groupPieces kinds groups) := by
  rw [groupPieces_map, cover_map]
  rfl

/-- What a callback emits, at any offsets and of any lengths, and the groups of a match that have
kinds, wherever they stand, are taken greedily. -/
theorem pieces_taken_greedily {s : Span} (hs : text.Boundary s.start) (ht : text.Boundary s.stop)
    (hle : s.start ≤ s.stop) :
    (∀ es : List Emission,
      CoversGreedily text s
        (es.map fun e => (⟨e.offset, min (e.offset + e.length) (Nat.pow 2 64 - 1)⟩, e.kind))
        (coverEmissions text s es)) ∧
      ∀ (nested : Nested) (found : Match) (kinds : List Kind),
        found.input = text → found.span = s →
          CoversGreedily text s (groupPieces kinds found.groups)
            (emitted nested found (some (.groups (kinds.map .kind)))) := by
  constructor
  · intro es
    exact cover_greedily _ hs ht hle
  · rintro nested found kinds rfl rfl
    change CoversGreedily _ _ _
      (cover _ _ _ _ (groupPieces (kinds.map GroupAction.kind) found.groups))
    rw [cover_groups]
    exact cover_greedily _ hs ht hle

/-- Of six emissions one fits: the others begin too early, cut a character, go back, go past the end
and are empty. Of two groups that took part the second one stands before the first. -/
theorem pieces_taken_greedily_scattered :
    let text : Text := ['a', 'é', 'b', 'c']
    let es : List Emission := [⟨0, .error, 1⟩, ⟨1, .error, 1⟩, ⟨3, .other, 1⟩, ⟨1, .error, 2⟩,
      ⟨4, .error, Nat.pow 2 64 - 1⟩, ⟨4, .error, 0⟩]
    let found : Match := ⟨text, ⟨1, 5⟩, [some ⟨4, 5⟩, none, some ⟨1, 3⟩]⟩
    let emptied : Nested := fun _ _ => []
    text.Boundary 1 ∧ text.Boundary 5 ∧ 1 ≤ 5 ∧
      coverEmissions text ⟨1, 5⟩ es =
        [⟨1, .text, ['é']⟩, ⟨3, .other, ['b']⟩, ⟨4, .text, ['c']⟩] ∧
      CoversGreedily text ⟨1, 5⟩
        (es.map fun e => (⟨e.offset, min (e.offset + e.length) (Nat.pow 2 64 - 1)⟩, e.kind))
        (coverEmissions text ⟨1, 5⟩ es) ∧
      emitted emptied found (some (.groups ([.other, .error, .error].map .kind))) =
        [⟨1, .text, ['é', 'b']⟩, ⟨4, .other, ['c']⟩] ∧
      CoversGreedily text ⟨1, 5⟩ (groupPieces [.other, .error, .error] found.groups)
        (emitted emptied found (some (.groups ([.other, .error, .error].map .kind)))) := by
  intro text es found emptied
  have hs : text.Boundary 1 := Text.isBoundary_iff.1 (by decide)
  have ht : text.Boundary 5 := Text.isBoundary_iff.1 (by decide)
  have hle : 1 ≤ 5 := by decide
  obtain ⟨emissions, groups⟩ := pieces_taken_greedily (s := ⟨1, 5⟩) hs ht hle
  exact ⟨hs, ht, hle, by decide +kernel, emissions es, by decide +kernel,
    groups emptied found _ rfl rfl⟩

end Lexing
