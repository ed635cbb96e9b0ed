import Lexing.Proofs.Pattern.Choice
import Lexing.Proofs.Pattern.Extent
import Lexing.Proofs.Pattern.Starts
import Mathlib.Data.List.Find

/-!
# Programs for choices between words

A choice between words takes no more room than a sum over the words. Where the words could be
matched without an automaton, they are so few and so short that the automaton fits, or so many that
they are looked up. Either way the first word that stands at a place is what is found there, and
nothing else than a lack of room can go wrong.
-/
set_option autoImplicit false

namespace Lexing.Pattern

namespace Room

theorem limit_eq : limit = 10485760 := by decide

theorem isSome_add_bind {α : Type} (states extra : Nat) (r : Room) (f : Room → Option α) :
    ((r.add states extra).bind f).isSome = true ↔
      32 * (r.states + states) + (r.extra + extra) ≤ limit ∧
        (f ⟨r.states + states, r.extra + extra⟩).isSome = true := by
  by_cases h : limit < 32 * (r.states + states) + (r.extra + extra)
  · simp [add, size, h]
  · simp [add, size, h, Nat.le_of_not_lt h]

end Room

namespace Node

variable {ws : List Text} {x : CharSet}

theorem foldl_le_add {α : Type} {f : Nat → α → Nat} {k : Nat} (h : ∀ sum a, f sum a ≤ sum + k)
    (as : List α) (sum : Nat) : as.foldl f sum ≤ sum + k * as.length := by
  induction as generalizing sum with
  | nil => exact Nat.le_refl _
  | cons a as ih =>
    have hone := h sum a
    have hrest := ih (f sum a)
    rw [List.foldl_cons, List.length_cons, Nat.mul_succ]
    omega

theorem setBound_le (s : CharSet) : setBound s ≤ 128 + 2624 * s.ranges.length := by
  refine foldl_le_add (fun sum r => ?_) s.ranges 128
  dsimp only
  split
  · omega
  · split <;> omega

def wordsBound (ws : List Text) : Nat := ws.foldr (fun w sum => 80 * w.size + 2624 + sum) 428

theorem wordsBound_cons (w : Text) (ws : List Text) :
    wordsBound (w :: ws) = 80 * w.size + 2624 + wordsBound ws := rfl

theorem length_le_wordsBound (ws : List Text) : 2624 * ws.length + 428 ≤ wordsBound ws := by
  induction ws with
  | nil => exact Nat.le_refl _
  | cons w ws ih =>
    rw [List.length_cons, wordsBound_cons]
    omega

theorem roomBound_ofSet (s : CharSet) :
    (ofSet s).roomBound ≤ max 320 (128 + 2624 * s.ranges.length) := by
  rw [ofSet]
  split
  · rename_i c _
    have := Char.utf8Size_le_four c
    simp only [roomBound, Text.size_cons, Text.size_nil]
    omega
  · exact Nat.le_trans (setBound_le s) (Nat.le_max_right _ _)

theorem roomBound_ofWord (w : Text) : (ofWord w).roomBound ≤ 80 * w.size + 32 := by
  cases w <;> simp [ofWord, roomBound]

theorem roomBound_ofWords (hne : ws ≠ []) : (ofWords ws).roomBound + 300 ≤ wordsBound ws := by
  rcases ofWords_cases hne with ⟨x, hx, heq⟩ | heq
  · have hset := roomBound_ofSet x
    have hlength := hx.length_le
    have hpos := List.length_pos_iff.2 hne
    have hbound := length_le_wordsBound ws
    rw [heq]
    omega
  · rw [heq]
    refine ofBranches_induction (P := fun ws n => n.roomBound + 300 ≤ wordsBound ws) (fun w => ?_)
      (fun w ws n ih => ?_) hne
    · have hword := roomBound_ofWord w
      have hrest := length_le_wordsBound []
      rw [wordsBound_cons]
      omega
    · have hword := roomBound_ofWord w
      rw [wordsBound_cons, roomBound]
      omega

theorem fits_of_roomBound {n : Node} (h : n.roomBound + 300 ≤ Room.limit) : n.fits = true := by
  rw [fits, decide_eq_true h, Bool.true_or]

/-- The most bytes of a word that fits by itself. -/
def maxWord : Nat := 327673

theorem fits_word {w : Text} : (word w).fits = true ↔ w.size ≤ maxWord := by
  have hadd (states extra : Nat) (r : Room) : (r.add states extra).isSome = true ↔
      32 * (r.states + states) + (r.extra + extra) ≤ Room.limit := by
    simpa using Room.isSome_add_bind states extra r some
  have hforward : (layoutAll .forward (word w)).isSome = true ↔ w.size ≤ maxWord := by
    simp only [layoutAll, opensWith, layout, layoutBranch, Option.bind_eq_bind,
      Bool.false_eq_true, if_false, Option.bind_fun_some, Room.isSome_add_bind, hadd,
      Room.limit_eq, maxWord]
    omega
  have hbackward : (layoutAll .backward (word w)).isSome = true ↔ w.size ≤ maxWord + 2 := by
    simp only [layoutAll, closesWith, layout, layoutBranch, Option.bind_eq_bind,
      Bool.false_eq_true, if_false, Option.bind_fun_some, Room.isSome_add_bind, hadd,
      Room.limit_eq, maxWord]
    omega
  simp only [fits, Bool.or_eq_true, Bool.and_eq_true, hforward, hbackward, decide_eq_true_eq,
    roomBound, Room.limit_eq, maxWord]
  omega

theorem fits_single {w : Text} : (ofWords [w]).fits = true ↔ w.size ≤ maxWord := by
  cases w with
  | nil => exact iff_of_true (fits_of_roomBound (by decide)) (Nat.zero_le _)
  | cons c w => exact fits_word

theorem exists_whole_of_literals? {n : Node} {vs : List (List UInt8)}
    (h : n.literals? = some vs) :
    ∃ s ss, n.parts.starts = some (s :: ss) ∧ s.whole = true := by
  simp only [literals?, Option.bind_eq_bind, Option.bind_eq_some_iff] at h
  obtain ⟨given, hgiven, hkept⟩ := h
  split at hkept
  · rename_i hall
    obtain ⟨-, -, hne, -, hbest⟩ := hall
    cases given with
    | nil => exact absurd hne (by decide)
    | cons s ss =>
      refine ⟨s, ss, hgiven, ?_⟩
      simp only [Start.areAll, Bool.and_eq_true, List.all_eq_true] at hbest
      exact hbest.1 s (Start.head_mem_preferred s ss)
  · cases hkept

theorem parts_ofBranches (hne : ws ≠ []) :
    (ofBranches (ws.map ofWord)).parts.starts =
      Starts.ofChoice (ws.map fun w => some [(Start.ofText w).cut Starts.maxBytes]) := by
  have hword (w : Text) :
      (ofWord w).parts.starts = some [(Start.ofText w).cut Starts.maxBytes] := by
    cases w <;> rfl
  refine (ofBranches_induction (P := fun ws n =>
    n.parts.branches = ws.map (fun w => some [(Start.ofText w).cut Starts.maxBytes]) ∧
    n.parts.starts = Starts.ofChoice (ws.map fun w => some [(Start.ofText w).cut Starts.maxBytes]))
    (fun w => ?_) (fun w ws n ih => ?_) hne).2
  · refine ⟨?_, hword w⟩
    cases w <;> rfl
  · have hbranches : (alt (ofWord w) n).parts.branches =
        (w :: ws).map (fun w => some [(Start.ofText w).cut Starts.maxBytes]) := by
      rw [List.map_cons, ← ih.1, ← hword w]
      rfl
    exact ⟨hbranches, congrArg Starts.ofChoice hbranches⟩

theorem length_ranges_le {ss : List Start} (hx : x.ranges.Ordered) (h : Starts.ofSet x = some ss) :
    x.ranges.length ≤ Starts.maxMembers := by
  have hfold (rs : Unicode.Ranges) (hrs : rs.Ordered) (n : Nat) :
      n + rs.length ≤ rs.foldl (fun n r => n + (r.2 + 1 - r.1)) n := by
    induction rs generalizing n with
    | nil => exact Nat.le_refl _
    | cons r rs ih =>
      have hle := hrs.1
      have hrest := ih hrs.2.2 (n + (r.2 + 1 - r.1))
      rw [List.length_cons, List.foldl_cons]
      omega
  rw [Starts.ofSet] at h
  split at h
  · cases h
  · rename_i hfew
    have := hfold x.ranges hx 0
    omega

theorem fits_ofSet {ss : List Start} (hx : x.ranges.Ordered)
    (h : (ofSet x).parts.starts = some ss) : (ofSet x).fits = true := by
  refine fits_of_roomBound ?_
  rw [ofSet] at h ⊢
  split at h
  · rename_i c _
    have := Char.utf8Size_le_four c
    simp only [roomBound, Text.size_cons, Text.size_nil, Room.limit_eq]
    omega
  · have hfew : x.ranges.length ≤ 10 := length_ranges_le hx h
    have hset := setBound_le x
    simp only [roomBound, Room.limit_eq]
    omega

theorem wordsBound_le {n : Nat} (h : ∀ w ∈ ws, w.size ≤ n) :
    wordsBound ws ≤ ws.length * (80 * n + 2624) + 428 := by
  induction ws with
  | nil => exact Nat.le_add_left 428 _
  | cons w ws ih =>
    obtain ⟨hw, hws⟩ := List.forall_mem_cons.1 h
    have hrest := ih hws
    have hone : 80 * w.size + 2624 ≤ 80 * n + 2624 := by omega
    rw [wordsBound_cons, List.length_cons, Nat.succ_mul ws.length]
    omega

theorem fits_ofWords (hne : ws ≠ []) (h : wordsBound ws ≤ Room.limit) : (ofWords ws).fits = true :=
  fits_of_roomBound (Nat.le_trans (roomBound_ofWords hne) h)

theorem fits_of_literals? {vs : List (List UInt8)} (hne : ws ≠ []) (hd : Descending ws)
    (h : (ofWords ws).literals? = some vs) : (ofWords ws).fits = true := by
  obtain ⟨s, ss, hstarts, hwhole⟩ := exists_whole_of_literals? h
  rcases ofWords_cases hne with ⟨x, hx, heq⟩ | heq
  · rw [heq] at hstarts ⊢
    exact fits_ofSet hx.ordered hstarts
  · rw [heq, parts_ofBranches hne] at hstarts
    obtain ⟨few, short⟩ := (Listed.ofChoice hd).few_short hstarts hwhole
    have hcount : ws.length ≤ 250 := few
    have hbound : wordsBound ws ≤ ws.length * (80 * 100 + 2624) + 428 := wordsBound_le short
    refine fits_ofWords hne ?_
    rw [Room.limit_eq]
    omega

theorem words?_ofBranches {vs : List Text} (hne : ws ≠ [])
    (h : (ofBranches (ws.map ofWord)).words? = some vs) : vs = ws := by
  refine ofBranches_induction (P := fun ws n => ∀ vs, n.words? = some vs → vs = ws) (fun w => ?_)
    (fun w ws n ih => ?_) hne vs h
  · cases w <;> simp [ofWord, words?]
  · cases w with
    | nil => simp [ofWord, words?]
    | cons c w =>
      simp only [ofWord, words?, Option.map_eq_some_iff]
      rintro vs ⟨us, hus, rfl⟩
      rw [ih us hus]

theorem words?_ofSet {vs : List Text} (h : (ofSet x).words? = some vs) : vs.length = 1 := by
  rw [ofSet] at h
  split at h
  · obtain rfl := Option.some.inj h
    rfl
  · cases h

end Node

end Lexing.Pattern

namespace Lexing.Program
open Pattern Pattern.Node

variable {ws : List Text} {p : Program} {s : Spot}

/-- A choice between words has its automaton if that fits. Otherwise very many words are looked up,
and fewer are refused. -/
theorem ofNode_cases (hne : ws ≠ []) (hd : Descending ws) :
    (ofWords ws).fits = true ∧ ofNode (ofWords ws) = .ok (automaton (ofWords ws).automaton) ∨
    (3000 ≤ ws.length ∧ ofWords ws = ofBranches (ws.map ofWord)) ∧
      ofNode (ofWords ws) = .ok (words (ws.map fun w => w.flatMap String.utf8EncodeChar)) ∨
    (ofWords ws).fits = false ∧ ofNode (ofWords ws) = .error .tooLarge := by
  obtain ⟨m, hm, -⟩ := minLength_ofWords hne
  by_cases hfits : (ofWords ws).fits = true
  · refine .inl ⟨hfits, ?_⟩
    unfold ofNode
    rw [hfits, hm]
    rfl
  · have hnone : (ofWords ws).literals? = none :=
      Option.eq_none_iff_forall_ne_some.2 fun vs hvs => hfits (fits_of_literals? hne hd hvs)
    rw [Bool.not_eq_true] at hfits
    unfold ofNode
    rw [hfits, hnone]
    cases hdict : dictionary? (ofWords ws) with
    | none => exact .inr (.inr ⟨rfl, rfl⟩)
    | some bs =>
      refine .inr (.inl ?_)
      simp only [dictionary?, Option.bind_eq_bind, Option.bind_eq_some_iff] at hdict
      obtain ⟨vs, hvs, hmany⟩ := hdict
      split at hmany
      · rename_i hlength
        obtain rfl := Option.some.inj hmany
        rcases ofWords_cases hne with ⟨x, -, heq⟩ | heq
        · rw [heq] at hvs
          have := words?_ofSet hvs
          omega
        · rw [heq] at hvs
          obtain rfl := words?_ofBranches hne hvs
          exact ⟨⟨hlength, heq⟩, rfl⟩
      · cases hmany

/-- A dictionary finds the first word that stands at a place. Single bytes are looked up whatever
the limit is, so they have to stand before it. -/
theorem search_words
    (hlookup : isLookup (ws.map fun w => w.flatMap String.utf8EncodeChar) = true →
      ∀ w ∈ ws, s.offset + w.size ≤ s.limit) :
    ((words (ws.map fun w => w.flatMap String.utf8EncodeChar)).search s).map
        Automaton.Found.stop =
      (ws.find? fun w => s.Stands w).map fun w => s.offset + w.size := by
  have hstands (w : Text) (hw : w ∈ ws) :
      (beginsWith (w.flatMap String.utf8EncodeChar) s.rest &&
        (isLookup (ws.map fun w => w.flatMap String.utf8EncodeChar) ||
          decide (s.offset + (w.flatMap String.utf8EncodeChar).length ≤ s.limit))) =
      decide (s.Stands w) := by
    rw [Bool.eq_iff_iff, length_encode]
    simp only [Bool.and_eq_true, Bool.or_eq_true, beginsWith_encode, decide_eq_true_eq]
    exact and_congr_right fun _ => or_iff_right_of_imp fun hl => hlookup hl w hw
  rw [search, List.find?_map, Option.map_map, Option.map_map, ← List.find?_congr hstands]
  refine congrArg (Option.map · _) (funext fun w => ?_)
  exact congrArg (s.offset + ·) (length_encode w)

theorem search_ofNode {m : Nat} (hne : ws ≠ []) (hd : Descending ws)
    (hm : (ofWords ws).minLength = some m) (hs : s.offset + m ≤ s.limit)
    (h : ofNode (ofWords ws) = .ok p) :
    (p.search s).map Automaton.Found.stop =
      (ws.find? fun w => s.Stands w).map fun w => s.offset + w.size := by
  rcases ofNode_cases hne hd with ⟨-, hauto⟩ | ⟨⟨-, heq⟩, hwords⟩ | ⟨-, herror⟩
  · obtain rfl := Except.ok.inj (hauto.symm.trans h)
    rw [search, Automaton.search_automaton (loopsOverSets_ofWords hne),
      head_ends_ofWords hne (by omega)]
  · obtain rfl := Except.ok.inj (hwords.symm.trans h)
    obtain ⟨v, hv, hmin, -⟩ := minLength_ofBranches hne
    have hmv : m = v.size := Option.some.inj (hm.symm.trans (heq ▸ hmin))
    -- where all words are single bytes, none is longer than the least
    refine search_words fun hl w hw => ?_
    have hone (u : Text) (hu : u ∈ ws) : u.size = 1 :=
      (length_encode u).symm.trans (length_of_isLookup hl (List.mem_map_of_mem hu))
    rw [hone w hw, ← hone v hv, ← hmv]
    exact hs
  · cases herror.symm.trans h

theorem error_ofNode {e : Error} (hne : ws ≠ []) (hd : Descending ws)
    (h : ofNode (ofWords ws) = .error e) : e = .tooLarge ∧ Room.limit < wordsBound ws := by
  rcases ofNode_cases hne hd with ⟨-, hauto⟩ | ⟨-, hwords⟩ | ⟨hfits, herror⟩
  · cases hauto.symm.trans h
  · cases hwords.symm.trans h
  · refine ⟨(Except.error.inj (herror.symm.trans h)).symm, Nat.lt_of_not_le fun hle => ?_⟩
    rw [fits_ofWords hne hle] at hfits
    cases hfits

theorem ofNode_single (w : Text) :
    ofNode (ofWords [w]) =
      if w.size ≤ maxWord then .ok (automaton (ofWords [w]).automaton) else .error .tooLarge := by
  rcases ofNode_cases (List.cons_ne_nil w []) (.singleton w) with ⟨hfits, hauto⟩ | ⟨⟨hmany, -⟩, -⟩ |
    ⟨hfits, herror⟩
  · rw [hauto, if_pos (fits_single.1 hfits)]
  · exact absurd hmany (by simp)
  · rw [herror, if_neg fun hle => ?_]
    rw [fits_single.2 hle] at hfits
    cases hfits

end Lexing.Program
