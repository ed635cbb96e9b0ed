import Lexing.Proofs.Splice.Segments

/-!
# Tokens of the marked text, run by run

The tokens of the marked text are given for all runs together, and the run that stands at an offset
takes what falls into it. The loop that does so goes through the runs and the tokens side by side:
tokens that end in a run are left behind, and one that goes on is met again in the next run. It
gives each run what `cutTokens` would, which goes through all tokens for every run.
-/
set_option autoImplicit false

namespace Lexing

variable {text host : Text} {p q : Nat} {needle : Kind}

/-- The parts of the tokens between two offsets, moved from the first offset to `offset`. -/
def cutTokens (offset start stop : Nat) (ts : List Token) : List Token :=
  ts.filterMap fun t =>
    let first := max t.offset start
    let last := min t.stop stop
    if first < last then
      some ⟨offset + (first - start), t.kind,
        t.text.slice ⟨first - t.offset, last - t.offset⟩⟩
    else none

/-- Puts the tokens of the marked text, which are given for all runs together, in the place of each
run; the text of the runs before begins at offset 0 and ends at `start`. -/
def distribute (hosted : List Token) : Nat → List Segment → List Token
  | _, [] => []
  | start, .kept t :: rest => t :: distribute hosted start rest
  | start, .marked offset text :: rest =>
    let stop := start + text.size
    cutTokens offset start stop hosted ++ distribute hosted stop rest

variable {offset start stop : Nat} {t : Token} {ts : List Token}

theorem cutTokens_append (offset start stop : Nat) (xs ys : List Token) :
    cutTokens offset start stop (xs ++ ys) =
      cutTokens offset start stop xs ++ cutTokens offset start stop ys :=
  List.filterMap_append

theorem cutTokens_cons (offset start stop : Nat) (t : Token) (ts : List Token) :
    cutTokens offset start stop (t :: ts) =
      if max t.offset start < min t.stop stop then
        ⟨offset + (max t.offset start - start), t.kind,
          t.text.slice ⟨max t.offset start - t.offset, min t.stop stop - t.offset⟩⟩ ::
            cutTokens offset start stop ts
      else cutTokens offset start stop ts := by
  simp only [cutTokens, List.filterMap_cons]
  split
  · rename_i heq
    split at heq
    · cases heq
    · rename_i h
      rw [if_neg h]
  · rename_i heq
    split at heq
    · rename_i h
      rw [if_pos h, ← Option.some.inj heq]
    · cases heq

theorem cutTokens_eq_nil (h : ∀ t ∈ ts, t.stop ≤ start ∨ stop ≤ t.offset) :
    cutTokens offset start stop ts = [] := by
  induction ts with
  | nil => rfl
  | cons t ts ih =>
    have hthis := h t List.mem_cons_self
    rw [cutTokens_cons, if_neg (by omega), ih fun u hu => h u (List.mem_cons_of_mem _ hu)]

theorem cutTokens_eq_shift (offset start stop : Nat) (ts : List Token) :
    cutTokens offset start stop ts = (cutTokens 0 start stop ts).map (·.shift offset) := by
  induction ts with
  | nil => rfl
  | cons t ts ih =>
    rw [cutTokens_cons, cutTokens_cons, ih]
    split
    · rw [List.map_cons, Token.shift, Nat.zero_add, Nat.add_comm offset]
    · rfl

theorem Placed.le_offset (h : Placed host p q ts) (ht : t ∈ ts) : p ≤ t.offset := by
  induction ts generalizing p with
  | nil => cases ht
  | cons u ts ih =>
    obtain ⟨hle, hpart, htail⟩ := h
    rcases List.mem_cons.1 ht with rfl | ht
    · exact hle
    · exact Nat.le_trans hle (Nat.le_trans (Nat.le_of_lt hpart.lt) (ih htail ht))

theorem Placed.stop_le (h : Placed host p q ts) (ht : t ∈ ts) : t.stop ≤ q := by
  induction ts generalizing p with
  | nil => cases ht
  | cons u ts ih =>
    obtain ⟨_, _, htail⟩ := h
    rcases List.mem_cons.1 ht with rfl | ht
    · exact htail.le
    · exact ih htail ht

theorem Token.IsPart.slice_text {a b : Nat} (h : t.IsPart host) (ha : host.Boundary a)
    (hb : host.Boundary b) (hta : t.offset ≤ a) (hab : a ≤ b) (hbt : b ≤ t.stop) :
    t.text.slice ⟨a - t.offset, b - t.offset⟩ = host.slice ⟨a, b⟩ := by
  have hin := h.lt
  have ha' := h.start.to_slice h.stop ha (by omega) (by omega)
  have hb' := h.start.to_slice h.stop hb (by omega) (by omega)
  rw [h.eq_slice, Text.slice_slice h.start h.stop (Nat.le_of_lt hin) ha' hb' (by omega),
    Nat.add_sub_cancel' (by omega), Nat.add_sub_cancel' (by omega)]

theorem Token.IsPart.cut {k : Kind} (h : t.IsPart host) (hs : host.Boundary start)
    (ht : host.Boundary stop) (hle : start ≤ stop) (hlt : max t.offset start < min t.stop stop) :
    Token.IsPart ⟨max t.offset start - start, k,
      t.text.slice ⟨max t.offset start - t.offset, min t.stop stop - t.offset⟩⟩
        (host.slice ⟨start, stop⟩) ∧
      (t.text.slice ⟨max t.offset start - t.offset, min t.stop stop - t.offset⟩).size =
        min t.stop stop - max t.offset start := by
  have hfirst := h.start.max hs
  have hlast := h.stop.min ht
  have hin := h.lt
  generalize hf : max t.offset start = first at hfirst hlt ⊢
  generalize hl : min t.stop stop = last at hlast hlt ⊢
  have hcut := h.slice_text hfirst hlast (by omega) (Nat.le_of_lt hlt) (by omega)
  have hsize := Text.size_slice hfirst hlast (Nat.le_of_lt hlt)
  rw [hcut]
  refine ⟨?_, hsize⟩
  have hstop : Token.stop ⟨first - start, k, host.slice ⟨first, last⟩⟩ = last - start := by
    simp only [Token.stop, hsize]
    omega
  have hb := hs.to_slice ht hfirst (by omega) (by omega)
  have hb' := hs.to_slice ht hlast (by omega) (by omega)
  refine ⟨hb, hstop ▸ hb', fun hnil => ?_, ?_⟩
  · rw [Text.slice_eq_nil hfirst hlast (Nat.le_of_lt hlt)] at hnil
    omega
  · rw [hstop, Text.slice_slice hs ht hle hb hb' (by omega), Nat.add_sub_cancel' (by omega),
      Nat.add_sub_cancel' (by omega)]

theorem Placed.cut (h : Placed host p q ts) (hs : host.Boundary start) (ht : host.Boundary stop)
    (hle : start ≤ stop) :
    Placed (host.slice ⟨start, stop⟩) (min p stop - start) (stop - start)
      (cutTokens 0 start stop ts) := by
  induction ts generalizing p with
  | nil =>
    change min p stop - start ≤ stop - start
    omega
  | cons t ts ih =>
    obtain ⟨hp, hpart, htail⟩ := h
    have hrest := ih htail
    have hin := hpart.lt
    rw [cutTokens_cons]
    split
    · rename_i hlt
      obtain ⟨hcut, hsize⟩ := hpart.cut (k := t.kind) hs ht hle hlt
      rw [Nat.zero_add]
      refine ⟨?_, hcut, hrest.mono ?_ (Nat.le_refl _)⟩
      · change min p stop - start ≤ max t.offset start - start
        omega
      · change max t.offset start - start + Text.size _ ≤ min t.stop stop - start
        rw [hsize]
        omega
    · exact hrest.mono (by omega) (Nat.le_refl _)

theorem Placed.cut_all (h : Placed host p q ts) (offset : Nat) :
    cutTokens offset 0 q ts = ts.map (·.shift offset) := by
  induction ts generalizing p with
  | nil => rfl
  | cons t ts ih =>
    obtain ⟨_, hpart, htail⟩ := h
    have hsize : t.stop - t.offset = t.text.size := Nat.add_sub_cancel_left _ _
    rw [cutTokens_cons, Nat.max_eq_left (Nat.zero_le _), Nat.min_eq_left htail.le, if_pos hpart.lt,
      ih htail, hsize, Nat.sub_self, Text.slice_all, Nat.sub_zero, Nat.add_comm]
    rfl

def sizeBetween (start stop : Nat) : List Token → Nat
  | [] => 0
  | t :: ts => (min t.stop stop - max t.offset start) + sizeBetween start stop ts

theorem sizeBetween_add {a b c : Nat} (hab : a ≤ b) (hbc : b ≤ c) (ts : List Token) :
    sizeBetween a b ts + sizeBetween b c ts = sizeBetween a c ts := by
  induction ts with
  | nil => rfl
  | cons t ts ih =>
    simp only [sizeBetween, Token.stop]
    omega

theorem sizeBetween_self (a : Nat) (ts : List Token) : sizeBetween a a ts = 0 := by
  induction ts with
  | nil => rfl
  | cons t ts ih =>
    simp only [sizeBetween]
    omega

theorem sizeBetween_append (a b : Nat) (xs ys : List Token) :
    sizeBetween a b (xs ++ ys) = sizeBetween a b xs + sizeBetween a b ys := by
  induction xs with
  | nil => exact (Nat.zero_add _).symm
  | cons t xs ih =>
    rw [List.cons_append, sizeBetween, sizeBetween, ih, Nat.add_assoc]

theorem sizeBetween_of_stop_le (h : ∀ t ∈ ts, t.stop ≤ p) :
    sizeBetween 0 p ts = (joined ts).size := by
  induction ts with
  | nil => rfl
  | cons t ts ih =>
    have hthis := h t List.mem_cons_self
    rw [sizeBetween, ih fun u hu => h u (List.mem_cons_of_mem _ hu), joined_cons, Text.size_append]
    simp only [Token.stop] at hthis ⊢
    omega

theorem sizeBetween_of_le_offset {a : Nat} (h : ∀ t ∈ ts, p ≤ t.offset) :
    sizeBetween a p ts = 0 := by
  induction ts with
  | nil => rfl
  | cons t ts ih =>
    have hthis := h t List.mem_cons_self
    rw [sizeBetween, ih fun u hu => h u (List.mem_cons_of_mem _ hu)]
    omega

theorem Placed.sizeBetween_all (h : Placed host p q ts) :
    sizeBetween 0 q ts = (joined ts).size :=
  sizeBetween_of_stop_le fun _ ht => h.stop_le ht

theorem Placed.size_cut (h : Placed host p q ts) (hs : host.Boundary start)
    (ht : host.Boundary stop) (hle : start ≤ stop) (offset : Nat) :
    (joined (cutTokens offset start stop ts)).size = sizeBetween start stop ts := by
  induction ts generalizing p with
  | nil => rfl
  | cons t ts ih =>
    obtain ⟨_, hpart, htail⟩ := h
    rw [cutTokens_cons]
    split
    · rename_i hlt
      obtain ⟨_, hsize⟩ := hpart.cut (k := t.kind) hs ht hle hlt
      rw [joined_cons, Text.size_append, hsize, ih htail]
      rfl
    · rename_i hlt
      rw [ih htail]
      simp only [sizeBetween]
      omega

theorem Token.isPart_middle {k : Kind} {before run after : Text} (hne : run ≠ [])
    (heq : host = before ++ run ++ after) : Token.IsPart ⟨before.size, k, run⟩ host := by
  subst heq
  have hstart : Text.Boundary (before ++ run ++ after) before.size :=
    ⟨before, run ++ after, List.append_assoc _ _ _, rfl⟩
  have hstop : Text.Boundary (before ++ run ++ after) (before.size + run.size) :=
    ⟨before ++ run, after, rfl, Text.size_append _ _⟩
  refine ⟨hstart, hstop, hne, ?_⟩
  rw [List.append_assoc]
  exact (Text.slice_append _ _ _).symm

theorem Placed.of_append {xs ys : List Token} (h : Placed host p q (xs ++ ys)) :
    Placed host p q ys := by
  induction xs generalizing p with
  | nil => exact h
  | cons t xs ih =>
    obtain ⟨hle, hpart, htail⟩ := h
    exact (ih htail).mono (Nat.le_trans hle (Nat.le_of_lt hpart.lt)) (Nat.le_refl _)

/-- A text that stands in two others: the same parts of it are found in both. -/
theorem slice_eq_slice {run : Text} {k : Kind} {a b : Nat}
    (hrun : Token.IsPart ⟨start, k, run⟩ host) (hplace : Token.IsPart ⟨offset, k, run⟩ text)
    (ha : host.Boundary a) (hb : host.Boundary b) (hsa : start ≤ a) (hab : a ≤ b)
    (hbs : b ≤ start + run.size) :
    host.slice ⟨a, b⟩ = text.slice ⟨offset + (a - start), offset + (b - start)⟩ := by
  have hboundary : ∀ c, host.Boundary c → start ≤ c → c ≤ start + run.size →
      text.Boundary (offset + (c - start)) := by
    intro c hc hsc hcs
    have hin := hrun.start.to_slice hrun.stop hc hsc hcs
    rw [← hrun.eq_slice] at hin
    refine hplace.start.of_slice hplace.stop (Nat.le_of_lt hplace.lt) ?_
    rw [← hplace.eq_slice]
    exact hin
  have hthere := hplace.slice_text (hboundary a ha hsa (by omega)) (hboundary b hb (by omega) hbs)
    (Nat.le_add_right _ _) (by omega) (by simp only [Token.stop]; omega)
  rw [← hrun.slice_text ha hb hsa hab hbs, ← hthere, Nat.add_sub_cancel_left,
    Nat.add_sub_cancel_left]

theorem takeRun_fst {run : Text} {k : Kind} (hrun : Token.IsPart ⟨start, k, run⟩ host)
    (hplace : Token.IsPart ⟨offset, k, run⟩ text) (h : Placed host p q ts) :
    (takeRun text offset start (start + run.size) ts).1 =
      cutTokens offset start (start + run.size) ts := by
  induction ts generalizing p with
  | nil => rfl
  | cons t ts ih =>
    obtain ⟨_, hpart, htail⟩ := h
    have hcut : max t.offset start < min t.stop (start + run.size) →
        text.slice ⟨offset + (max t.offset start - start), offset + (max t.offset start - start) +
            (min t.stop (start + run.size) - max t.offset start)⟩ =
          t.text.slice
            ⟨max t.offset start - t.offset, min t.stop (start + run.size) - t.offset⟩ := by
      intro hlt
      have hfirst : host.Boundary (max t.offset start) := hpart.start.max hrun.start
      have hlast : host.Boundary (min t.stop (start + run.size)) := hpart.stop.min hrun.stop
      have hstop : offset + (max t.offset start - start) +
          (min t.stop (start + run.size) - max t.offset start) =
            offset + (min t.stop (start + run.size) - start) := by omega
      have hthere := slice_eq_slice hrun hplace hfirst hlast (by omega) (Nat.le_of_lt hlt)
        (by omega)
      rw [hpart.slice_text hfirst hlast (by omega) (Nat.le_of_lt hlt) (by omega), hstop]
      exact hthere.symm
    have hbehind : start + run.size < t.stop →
        cutTokens offset start (start + run.size) ts = [] := by
      intro hlt
      refine cutTokens_eq_nil fun u hu => .inr ?_
      have := htail.le_offset hu
      omega
    rw [cutTokens_cons, takeRun]
    by_cases hlt : max t.offset start < min t.stop (start + run.size)
    · simp only [if_pos hlt, hcut hlt]
      split
      · rename_i hgoes
        rw [hbehind hgoes]
      · rw [← ih htail]
        rfl
    · simp only [if_neg hlt]
      split
      · rename_i hgoes
        rw [hbehind hgoes]
      · rw [← ih htail]
        rfl

theorem takeRun_snd (text : Text) (offset start stop : Nat) (ts : List Token) :
    ∃ behind, ts = behind ++ (takeRun text offset start stop ts).2 ∧
      ∀ t ∈ behind, t.stop ≤ stop := by
  induction ts with
  | nil => exact ⟨[], rfl, fun t ht => absurd ht List.not_mem_nil⟩
  | cons t ts ih =>
    rw [takeRun]
    split
    · exact ⟨[], rfl, fun t ht => absurd ht List.not_mem_nil⟩
    · rename_i hle
      obtain ⟨behind, heq, hstop⟩ := ih
      refine ⟨t :: behind, congrArg (t :: ·) heq, fun u hu => ?_⟩
      rcases List.mem_cons.1 hu with rfl | hu
      · exact Nat.le_of_not_lt hle
      · exact hstop u hu

theorem distribute_append {behind : List Token} (h : ∀ t ∈ behind, t.stop ≤ start)
    (ts : List Token) (parts : List Segment) :
    distribute (behind ++ ts) start parts = distribute ts start parts := by
  induction parts generalizing start with
  | nil => rfl
  | cons x parts ih =>
    cases x with
    | kept t => rw [distribute, distribute, ih h]
    | marked offset run =>
      rw [distribute, distribute, cutTokens_append, cutTokens_eq_nil fun t ht => .inl (h t ht),
        List.nil_append, ih fun t ht => Nat.le_trans (h t ht) (Nat.le_add_right _ _)]

/-- No token that a run needs was left behind before. `before` is the text of the runs that are
behind already. -/
theorem weave_eq_distribute (before : Text) {parts : List Segment} {a b : Nat}
    (hh : Placed host a b ts) (heq : host = before ++ parts.flatMap Segment.markedText)
    (hp : Placed text p q (parts.map (Segment.token needle))) :
    weave text ts before.size parts = distribute ts before.size parts := by
  induction parts generalizing p before ts with
  | nil => rfl
  | cons x parts ih =>
    obtain ⟨_, hpart, htail⟩ := hp
    cases x with
    | kept t => rw [weave, distribute, ih before hh heq htail]
    | marked offset run =>
      rw [List.flatMap_cons, Segment.markedText, ← List.append_assoc] at heq
      have hne : run ≠ [] := hpart.ne_nil
      have hrun := Token.isPart_middle (k := needle) hne heq
      obtain ⟨behind, hsplit, hstop⟩ :=
        takeRun_snd text offset before.size (before.size + run.size) ts
      have hfirst := takeRun_fst hrun hpart hh
      have hrest := ih (before ++ run) (hsplit ▸ hh).of_append heq htail
      rw [Text.size_append] at hrest
      rw [weave, distribute]
      change (takeRun text offset before.size (before.size + run.size) ts).1 ++ _ = _
      rw [hfirst, hrest, ← distribute_append hstop, ← hsplit]

theorem SplicedLexer.contiguousTokens_eq {l : SplicedLexer} {a b : Nat}
    (hp : Placed text p q (l.primary.tokens text))
    (hs : let marked := (segments l.needle (l.primary.tokens text)).flatMap Segment.markedText
      Placed marked a b (l.secondary.tokens marked)) :
    l.contiguousTokens text =
      distribute (l.secondary.tokens
          ((segments l.needle (l.primary.tokens text)).flatMap Segment.markedText))
        0 (segments l.needle (l.primary.tokens text)) :=
  weave_eq_distribute [] hs rfl (segments_placed l.needle hp)

end Lexing
