import Lexing.Pattern.Basic
import Mathlib.Data.List.Induction

/-!
# The starts of some words

Words as bytes determine the words, and a text begins with the bytes of a word where it begins with
the word. When words are tried in the order of their lengths, the list of their starts is given up,
or its first start is cut, or it holds every word and is short: a longer word that is cut comes
before all that are not, and words are only cut together when there are too many of them.
-/
set_option autoImplicit false

namespace Lexing.Pattern

theorem encodeChar_append_inj {c d : Char} {x y : List UInt8}
    (h : String.utf8EncodeChar c ++ x = String.utf8EncodeChar d ++ y) : c = d := by
  have hbytes := congrArg (fun bs : List UInt8 => bs.toByteArray.utf8DecodeChar? 0) h
  simpa only [List.toByteArray_append, ByteArray.utf8DecodeChar?_utf8EncodeChar_append,
    Option.some.injEq] using hbytes

theorem length_encode (w : Text) : (w.flatMap String.utf8EncodeChar).length = w.size := by
  induction w with
  | nil => rfl
  | cons c w ih =>
    rw [List.flatMap_cons, List.length_append, String.length_utf8EncodeChar, ih, Text.size_cons]

theorem encode_ne_nil (c : Char) (w : Text) : (c :: w).flatMap String.utf8EncodeChar ≠ [] := by
  intro h
  have hlength := congrArg List.length h
  rw [length_encode, Text.size_cons, List.length_nil] at hlength
  have := Text.utf8Size_pos c
  omega

theorem beginsWith_encode (w t : Text) :
    Program.beginsWith (w.flatMap String.utf8EncodeChar) t = true ↔ w <+: t := by
  induction w generalizing t with
  | nil => cases t <;> simp [Program.beginsWith]
  | cons d w ih =>
    have hne := encode_ne_nil d w
    cases t with
    | nil => simp [Program.beginsWith]
    | cons c t =>
      simp only [Program.beginsWith, Bool.or_eq_true, List.isEmpty_iff, hne, false_or,
        Bool.and_eq_true, List.isPrefixOf_iff_prefix, List.cons_prefix_cons]
      constructor
      · rintro ⟨⟨x, hx⟩, hrest⟩
        obtain rfl := encodeChar_append_inj (hx.trans List.flatMap_cons)
        rw [List.flatMap_cons, List.drop_left] at hrest
        exact ⟨rfl, (ih t).1 hrest⟩
      · rintro ⟨rfl, hrest⟩
        rw [List.flatMap_cons, List.drop_left]
        exact ⟨List.prefix_append _ _, (ih t).2 hrest⟩

theorem encode_injective : Function.Injective fun w : Text => w.flatMap String.utf8EncodeChar := by
  intro v w (h : v.flatMap String.utf8EncodeChar = w.flatMap String.utf8EncodeChar)
  have hv : v <+: w := (beginsWith_encode v w).1 (h ▸ (beginsWith_encode w w).2 List.prefix_rfl)
  have hw : w <+: v := (beginsWith_encode w v).1 (h ▸ (beginsWith_encode v v).2 List.prefix_rfl)
  exact hv.eq_of_length_le hw.length_le

/-- Words in the order in which they are tried: none after a shorter one, and none twice. -/
structure Descending (ws : List Text) : Prop where
  size_le : ws.Pairwise fun v w => w.size ≤ v.size
  nodup : ws.Nodup

theorem Descending.singleton (w : Text) : Descending [w] :=
  ⟨List.pairwise_singleton _ w, List.pairwise_singleton _ w⟩

theorem Descending.of_append {vs ws : List Text} (h : Descending (vs ++ ws)) : Descending vs :=
  ⟨(List.pairwise_append.1 h.size_le).1, (List.nodup_append.1 h.nodup).1⟩

namespace Start

variable {s : Start} {ss : List Start}

theorem merge_cons (s : Start) (ss : List Start) :
    merge (s :: ss) =
      match merge ss with
      | t :: rest =>
        if s.bytes = t.bytes then ⟨s.bytes, s.whole && t.whole⟩ :: rest else s :: merge ss
      | [] => [s] := rfl

theorem merge_eq_self (h : (ss.map bytes).Nodup) : merge ss = ss := by
  induction ss with
  | nil => rfl
  | cons s ss ih =>
    rw [List.map_cons, List.nodup_cons] at h
    have hss : merge ss = ss := ih h.2
    rw [merge_cons, hss]
    cases ss with
    | nil => rfl
    | cons t ss =>
      have hne : s.bytes ≠ t.bytes := fun heq => h.1 (heq ▸ List.mem_cons_self)
      exact if_neg hne

def Opened (ss : List Start) : Prop := ∃ s rest, ss = s :: rest ∧ s.whole = false

theorem Opened.append (h : Opened ss) (ts : List Start) : Opened (ss ++ ts) := by
  obtain ⟨s, rest, rfl, hs⟩ := h
  exact ⟨s, rest ++ ts, rfl, hs⟩

theorem Opened.merge (h : Opened ss) : Opened (merge ss) := by
  obtain ⟨s, rest, rfl, hs⟩ := h
  rw [merge_cons]
  cases Start.merge rest with
  | nil => exact ⟨s, [], rfl, hs⟩
  | cons t ts =>
    dsimp only
    split
    · exact ⟨_, ts, rfl, by simp [hs]⟩
    · exact ⟨s, t :: ts, rfl, hs⟩

theorem whole_cut (n : Nat) (h : s.whole = false) : (s.cut n).whole = false := by
  rw [cut]
  split
  · rfl
  · exact h

theorem Opened.cut (n : Nat) (h : Opened ss) : Opened (ss.map (·.cut n)) := by
  obtain ⟨s, rest, rfl, hs⟩ := h
  exact ⟨s.cut n, rest.map (·.cut n), rfl, whole_cut n hs⟩

theorem cut_ofText (n : Nat) (w : Text) (h : w.size ≤ n) : (ofText w).cut n = ofText w := by
  rw [cut, if_neg]
  rw [ofText, length_encode]
  exact Nat.not_lt.2 h

theorem whole_cut_ofText (n : Nat) (w : Text) (h : n < w.size) :
    ((ofText w).cut n).whole = false := by
  rw [cut, if_pos]
  rw [ofText, length_encode]
  exact h

theorem prefix_preferred (ss kept : List Start) :
    kept <+: ss.foldl (fun kept s =>
      if kept.any fun t => t.bytes.isPrefixOf s.bytes then kept else kept ++ [s]) kept := by
  induction ss generalizing kept with
  | nil => exact List.prefix_rfl
  | cons s ss ih =>
    refine List.IsPrefix.trans ?_ (ih _)
    dsimp only
    split
    · exact List.prefix_rfl
    · exact List.prefix_append _ _

theorem head_mem_preferred (s : Start) (ss : List Start) : s ∈ preferred (s :: ss) :=
  (prefix_preferred ss [s]).subset List.mem_cons_self

end Start

/-- What becomes of the starts of some words: they are given up, or the first of them is cut, or
all of them are whole, and then they are few and short. -/
inductive Listed (ws : List Text) : Starts → Prop
  | givenUp : Listed ws none
  | opened {ss : List Start} (h : Start.Opened ss) : Listed ws (some ss)
  | whole (few : ws.length ≤ Starts.maxStarts) (short : ∀ w ∈ ws, w.size ≤ Starts.maxBytes) :
    Listed ws (some (ws.map Start.ofText))

namespace Listed

variable {ws : List Text} {w : Text} {s : Starts} {ss : List Start}

theorem merge_whole (h : ws.Nodup) : Start.merge (ws.map Start.ofText) = ws.map Start.ofText := by
  refine Start.merge_eq_self ?_
  rw [List.map_map]
  exact List.Pairwise.map _ (fun _ _ hne heq => hne (encode_injective heq)) h

theorem sum_opened (h : Start.Opened ss) (ts : List Start) :
    Listed ws (Starts.sum (some ss) (some ts)) := by
  change Listed ws (if _ then _ else _)
  split
  · exact opened (h.append ts).merge
  · change Listed ws (if _ then _ else _)
    split
    · exact opened ((h.cut 4).merge.append _).merge
    · exact givenUp

/-- As many words as a list can have, and one more: the first word is cut, or nothing is. -/
theorem sum_full (hd : Descending (ws ++ [w])) (full : Starts.maxStarts < ws.length + 1) :
    Listed (ws ++ [w]) (Starts.sum (some (ws.map Start.ofText)) (some [Start.ofText w])) := by
  change Listed _ (if _ then _ else _)
  rw [if_neg (by simpa using full)]
  change Listed _ (if _ then _ else _)
  match ws, full, hd with
  | v :: ws, full, hd =>
    have hle : ∀ u ∈ v :: ws, u.size ≤ v.size := by
      rw [List.forall_mem_cons]
      exact ⟨Nat.le_refl _, fun u hu => (List.pairwise_cons.1 hd.of_append.size_le).1 u hu⟩
    by_cases hv : v.size ≤ 4
    · have hcut : ((v :: ws).map Start.ofText).map (·.cut 4) = (v :: ws).map Start.ofText := by
        rw [List.map_map]
        exact List.map_congr_left fun u hu => Start.cut_ofText 4 u (Nat.le_trans (hle u hu) hv)
      rw [hcut, merge_whole hd.of_append.nodup, if_neg (by simpa [Start.merge] using full)]
      exact givenUp
    · split
      · have hcut : Start.Opened (((v :: ws).map Start.ofText).map (·.cut 4)) :=
          ⟨_, _, rfl, Start.whole_cut_ofText 4 v (Nat.lt_of_not_le hv)⟩
        exact opened (hcut.merge.append _).merge
      · exact givenUp

theorem sum (h : Listed ws s) (hd : Descending (ws ++ [w])) :
    Listed (ws ++ [w]) (s.sum (some [(Start.ofText w).cut Starts.maxBytes])) := by
  cases h with
  | givenUp => exact givenUp
  | opened h => exact sum_opened h _
  | whole few short =>
    by_cases hw : w.size ≤ Starts.maxBytes
    · rw [Start.cut_ofText _ w hw]
      by_cases hroom : ws.length + 1 ≤ Starts.maxStarts
      · have hsum : Starts.sum (some (ws.map Start.ofText)) (some [Start.ofText w]) =
            some ((ws ++ [w]).map Start.ofText) := by
          refine (if_pos (by simpa using hroom)).trans ?_
          rw [← merge_whole hd.nodup, List.map_append]
          rfl
        rw [hsum]
        refine whole (by simpa using hroom) fun v hv => ?_
        rcases List.mem_append.1 hv with hv | hv
        · exact short v hv
        · rwa [List.mem_singleton.1 hv]
      · exact sum_full hd (Nat.lt_of_not_le hroom)
    · -- no word is longer than one before it, so this is the first one
      have hnil : ws = [] := by
        refine List.eq_nil_iff_forall_not_mem.2 fun v hv => hw (Nat.le_trans ?_ (short v hv))
        exact (List.pairwise_append.1 hd.size_le).2.2 v hv w List.mem_cons_self
      subst hnil
      exact opened ⟨_, [], rfl, Start.whole_cut_ofText _ w (Nat.lt_of_not_le hw)⟩

theorem ofChoice (hd : Descending ws) :
    Listed ws (Starts.ofChoice (ws.map fun w => some [(Start.ofText w).cut Starts.maxBytes])) := by
  induction ws using List.reverseRecOn with
  | nil => exact whole (Nat.zero_le _) (by simp)
  | append_singleton ws w ih =>
    rw [List.map_append, Starts.ofChoice, List.foldl_append]
    exact (ih hd.of_append).sum hd

theorem few_short {t : Start} (h : Listed ws s) (hs : s = some (t :: ss)) (ht : t.whole = true) :
    ws.length ≤ Starts.maxStarts ∧ ∀ w ∈ ws, w.size ≤ Starts.maxBytes := by
  cases h with
  | givenUp => cases hs
  | opened h =>
    obtain ⟨u, rest, rfl, hu⟩ := h
    cases hs
    exact absurd ht (by simp [hu])
  | whole few short => exact ⟨few, short⟩

end Listed

end Lexing.Pattern
