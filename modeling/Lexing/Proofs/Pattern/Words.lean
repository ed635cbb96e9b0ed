import Lexing.Proofs.Except
import Lexing.Proofs.Pattern.Literal
import Lexing.Proofs.Pattern.Room
import Lexing.Proofs.Text.Boundary
import Mathlib.Data.Char
import Mathlib.Data.List.Dedup
import Mathlib.Data.List.Lex

/-!
# What the pattern of some words matches

The words are sorted and every word is kept once, so the pattern depends on nothing but which words
there are. It matches the longest of them that stands at a place. Only one thing can go wrong: the
words may need too much room.
-/
set_option autoImplicit false

namespace Lexing.Pattern

variable {a b c : Text}

theorem wordBefore_iff : wordBefore a b = true ↔ b.size < a.size ∨ a.size = b.size ∧ a ≤ b := by
  have hlex : (b.lex a fun x y => decide (x.toNat < y.toNat)) = true ↔ b < a :=
    List.lex_eq_true_iff_lt
  rw [wordBefore]
  split
  · rename_i h
    rw [Bool.not_eq_true', ← Bool.not_eq_true, hlex, not_lt]
    simp [h]
  · rename_i h
    simp [h]

theorem wordBefore_trans (hab : wordBefore a b = true) (hbc : wordBefore b c = true) :
    wordBefore a c = true := by
  rw [wordBefore_iff] at *
  rcases hab with hab | ⟨hab, hle⟩ <;> rcases hbc with hbc | ⟨hbc, hle'⟩
  · exact .inl (hbc.trans hab)
  · exact .inl (hbc ▸ hab)
  · exact .inl (hab ▸ hbc)
  · exact .inr ⟨hab.trans hbc, hle.trans hle'⟩

theorem wordBefore_total (a b : Text) : (wordBefore a b || wordBefore b a) = true := by
  rw [Bool.or_eq_true, wordBefore_iff, wordBefore_iff]
  rcases Nat.lt_trichotomy a.size b.size with h | h | h
  · exact .inr (.inl h)
  · exact (le_total a b).imp (fun hle => .inr ⟨h, hle⟩) fun hle => .inr ⟨h.symm, hle⟩
  · exact .inl (.inl h)

theorem wordBefore_antisymm (hab : wordBefore a b = true) (hba : wordBefore b a = true) :
    a = b := by
  rw [wordBefore_iff] at *
  rcases hab with hab | ⟨hab, hle⟩
  · omega
  · rcases hba with hba | ⟨-, hle'⟩
    · omega
    · exact le_antisymm hle hle'

variable {words others : List String}

theorem pairwise_sortedWords (words : List String) :
    (sortedWords words).Pairwise (fun a b => wordBefore a b = true) ∧ (sortedWords words).Nodup :=
  nodup_dropRepeats wordBefore_antisymm
    (@List.pairwise_mergeSort _ wordBefore (fun _ _ _ => wordBefore_trans) wordBefore_total _)

theorem descending_sortedWords (words : List String) : Descending (sortedWords words) := by
  obtain ⟨hsorted, hnodup⟩ := pairwise_sortedWords words
  refine ⟨hsorted.imp fun h => ?_, hnodup⟩
  rcases wordBefore_iff.1 h with h | ⟨h, -⟩ <;> omega

theorem sortedWords_congr (h : ∀ w, w ∈ others ↔ w ∈ words) :
    sortedWords others = sortedWords words := by
  obtain ⟨hsorted, hnodup⟩ := pairwise_sortedWords words
  obtain ⟨hsorted', hnodup'⟩ := pairwise_sortedWords others
  refine List.Perm.eq_of_pairwise (fun _ _ _ _ => wordBefore_antisymm) hsorted' hsorted
    ((List.perm_ext_iff_of_nodup hnodup' hnodup).2 fun w => ?_)
  simp only [mem_sortedWords, List.mem_map, h]

/-- What the pattern of some words stands for, in the order in which it is tried. -/
def countedWords (mode : PatternMode) (words : List String) : List Text :=
  (sortedWords words).map (significant mode.ignoreBlanks)

variable {mode : PatternMode}

theorem sortedWords_ne_nil (hne : words ≠ []) : sortedWords words ≠ [] := by
  obtain ⟨w, hw⟩ := List.exists_mem_of_ne_nil words hne
  exact List.ne_nil_of_mem (mem_sortedWords.2 (List.mem_map_of_mem hw))

theorem countedWords_ne_nil (mode : PatternMode) (hne : words ≠ []) :
    countedWords mode words ≠ [] := by
  rw [countedWords, Ne, List.map_eq_nil_iff]
  exact sortedWords_ne_nil hne

theorem compile_ofWords (hcase : mode.ignoreCase = false) (hne : words ≠ []) :
    compile mode (ofWords words "" "") =
      Program.ofNode (.ofWords (countedWords mode words)) >>= fun program =>
        .ok ⟨ofWords words "" "", (Node.ofWords (countedWords mode words)).minLength,
          (Node.ofWords (countedWords mode words)).maxLength,
          (Node.ofWords (countedWords mode words)).lastGroup, program⟩ := by
  have hread := Expr.read_ofWords mode.ignoreBlanks (sortedWords_ne_nil hne)
  have hlower : (Expr.group (.plain []) (.ofWords (countedWords mode words))).lower mode.flags =
      .ok (.ofWords (countedWords mode words), mode.flags) := by
    rw [Expr.lower]
    change (Expr.lower mode.flags _ >>= _) = _
    rw [Expr.lower_ofWords hcase (countedWords_ne_nil mode hne)]
    rfl
  rw [compile, hread]
  change (Expr.lower mode.flags (.group (.plain []) (.ofWords (countedWords mode words))) >>= _) = _
  rw [hlower]
  rfl

theorem ofNode_of_compile {p : Pattern} (hcase : mode.ignoreCase = false) (hne : words ≠ [])
    (h : compile mode (ofWords words "" "") = .ok p) :
    Program.ofNode (.ofWords (countedWords mode words)) = .ok p.program ∧
      p.minLength = (Node.ofWords (countedWords mode words)).minLength := by
  rw [compile_ofWords hcase hne] at h
  obtain ⟨program, hprogram, hp⟩ := bind_eq_ok.1 h
  obtain rfl := Except.ok.inj hp
  exact ⟨hprogram, rfl⟩

theorem ofNode_error_of_compile {e : Error} (hcase : mode.ignoreCase = false) (hne : words ≠ [])
    (h : compile mode (ofWords words "" "") = .error e) :
    Program.ofNode (.ofWords (countedWords mode words)) = .error e := by
  rw [compile_ofWords hcase hne] at h
  rcases bind_eq_error.1 h with herror | ⟨_, -, hok⟩
  · exact herror
  · cases hok

theorem stands_ofText {t w : Text} {offset limit : Nat} :
    (Spot.ofText t offset limit).Stands w ↔ w <+: t.skip offset ∧ offset + w.size ≤ limit := by
  rw [← split_snd none]
  exact Iff.rfl

theorem find?_of_compile {p : Pattern} (hcase : mode.ignoreCase = false) (hne : words ≠ [])
    (hd : Descending (countedWords mode words)) (h : compile mode (ofWords words "" "") = .ok p)
    {t : Text} {offset : Nat} (ht : t.Boundary offset) (limit : Nat) :
    p.find? t offset limit =
      ((countedWords mode words).find? fun w => (Spot.ofText t offset limit).Stands w).map
        fun w => offset + w.size := by
  obtain ⟨hprogram, hmin⟩ := ofNode_of_compile hcase hne h
  obtain ⟨m, hm, hle⟩ := Node.minLength_ofWords (countedWords_ne_nil mode hne)
  rw [find?, if_pos (Text.isBoundary_iff.2 ht), matchAt, hmin, hm]
  change Option.map Match.stop (if limit < offset + m then _ else _) = _
  split
  · rename_i hlimit
    refine (Option.map_eq_none_iff.2 (List.find?_eq_none.2 fun w hw hstands => ?_)).symm
    have hfits := (stands_ofText.1 (of_decide_eq_true hstands)).2
    have := hle w hw
    omega
  · rename_i hlimit
    rw [Option.map_map]
    exact Program.search_ofNode (countedWords_ne_nil mode hne) hd hm (Nat.le_of_not_lt hlimit)
      hprogram

theorem countedWords_single (mode : PatternMode) (w : String) :
    countedWords mode [w] = [significant mode.ignoreBlanks w.toList] := by
  simp [countedWords, sortedWords, dropRepeats]

theorem compile_single (hcase : mode.ignoreCase = false) (w : String) :
    if Text.size (significant mode.ignoreBlanks w.toList) ≤ Node.maxWord then
      ∃ p, compile mode (ofWords [w] "" "") = .ok p
    else compile mode (ofWords [w] "" "") = .error .tooLarge := by
  rw [compile_ofWords hcase (List.cons_ne_nil w []), countedWords_single, Program.ofNode_single]
  split
  · exact ⟨_, rfl⟩
  · rfl

/-- The longest of the words that stand at `offset` and end by `limit` ends at `stop`. -/
def LongestEnds (words : List String) (t : Text) (offset limit stop : Nat) : Prop :=
  ∃ w ∈ words, w.toList <+: t.skip offset ∧ stop = offset + Text.size w.toList ∧ stop ≤ limit ∧
    ∀ v ∈ words, v.toList <+: t.skip offset → offset + Text.size v.toList ≤ limit →
      Text.size v.toList ≤ Text.size w.toList

theorem countedWords_standard (words : List String) :
    countedWords .standard words = sortedWords words := by
  have hall (w : Text) : significant PatternMode.standard.ignoreBlanks w = w :=
    (significant_eq_self false w).2 (.inl rfl)
  rw [countedWords, List.map_congr_left fun w _ => hall w, List.map_id']

theorem Descending.size_le_of_find? {ws : List Text} {P : Text → Bool} {v w : Text}
    (h : Descending ws) (hv : ws.find? P = some v) (hmem : w ∈ ws) (hw : P w = true) :
    w.size ≤ v.size := by
  obtain ⟨-, as, bs, rfl, hbefore⟩ := List.find?_eq_some_iff_append.1 hv
  rcases List.mem_append.1 hmem with ha | hb
  · have hnot := hbefore w ha
    rw [hw] at hnot
    cases hnot
  · rcases List.mem_cons.1 hb with rfl | hb
    · exact Nat.le_refl _
    · exact (List.pairwise_cons.1 (List.pairwise_append.1 h.size_le).2.1).1 w hb

theorem find?_sortedWords {t : Text} {offset limit stop : Nat} :
    ((sortedWords words).find? fun w => (Spot.ofText t offset limit).Stands w).map
        (fun w => offset + w.size) = some stop ↔ LongestEnds words t offset limit stop := by
  have hd := descending_sortedWords words
  constructor
  · intro h
    obtain ⟨u, hu, rfl⟩ := Option.map_eq_some_iff.1 h
    obtain ⟨w, hw, rfl⟩ := List.mem_map.1 (mem_sortedWords.1 (List.mem_of_find?_eq_some hu))
    have hstands := List.find?_some hu
    obtain ⟨hbegins, hfits⟩ := stands_ofText.1 (of_decide_eq_true hstands)
    refine ⟨w, hw, hbegins, rfl, hfits, fun v hv hstands' hlimit => ?_⟩
    exact hd.size_le_of_find? hu (mem_sortedWords.2 (List.mem_map_of_mem hv))
      (decide_eq_true (stands_ofText.2 ⟨hstands', hlimit⟩))
  · rintro ⟨w, hw, hbegins, rfl, hfits, hlongest⟩
    have hmem := mem_sortedWords.2 (List.mem_map_of_mem (f := String.toList) hw)
    have hstands : (Spot.ofText t offset limit).Stands w.toList := stands_ofText.2 ⟨hbegins, hfits⟩
    have hsome : ((sortedWords words).find? fun w =>
        (Spot.ofText t offset limit).Stands w).isSome = true :=
      List.find?_isSome.2 ⟨w.toList, hmem, decide_eq_true hstands⟩
    obtain ⟨u, hu⟩ := Option.isSome_iff_exists.1 hsome
    obtain ⟨v, hv, rfl⟩ := List.mem_map.1 (mem_sortedWords.1 (List.mem_of_find?_eq_some hu))
    have hfound := List.find?_some hu
    obtain ⟨hbegins', hfits'⟩ := stands_ofText.1 (of_decide_eq_true hfound)
    have hle := hd.size_le_of_find? hu hmem (decide_eq_true hstands)
    have hge := hlongest v hv hbegins' hfits'
    rw [hu, Option.map_some, Nat.le_antisymm hge hle]

theorem wordsBound_sortedWords (words : List String) :
    Node.wordsBound (sortedWords words) = Node.wordsBound (words.dedup.map String.toList) := by
  have hperm : (sortedWords words).Perm (words.dedup.map String.toList) := by
    refine (List.perm_ext_iff_of_nodup (pairwise_sortedWords words).2 ?_).2 fun w => ?_
    · exact words.nodup_dedup.map fun _ _ => String.toList_injective
    · simp only [mem_sortedWords, List.mem_map, List.mem_dedup]
  have hcomm (v w : Text) (sum : Nat) :
      80 * w.size + 2624 + (80 * v.size + 2624 + sum) =
        80 * v.size + 2624 + (80 * w.size + 2624 + sum) :=
    Nat.add_left_comm _ _ sum
  exact hperm.foldr_eq' (fun v _ w _ sum => hcomm v w sum) 428

/-- The pattern of some words depends on nothing but which words there are. It matches the longest
word that stands at a place, unless the words take too much room. -/
theorem ofWords_finds_longest (words : List String) (hne : words ≠ []) :
    (∀ others : List String, (∀ w, w ∈ others ↔ w ∈ words) →
      ofWords others "" "" = ofWords words "" "") ∧
    ((∃ p, compile .standard (ofWords words "" "") = .ok p ∧
        ∀ t offset limit stop, Text.Boundary t offset →
          (p.find? t offset limit = some stop ↔ LongestEnds words t offset limit stop)) ∨
      compile .standard (ofWords words "" "") = .error .tooLarge ∧
        Room.limit < Node.wordsBound (words.dedup.map String.toList)) := by
  refine ⟨fun others h => ?_, ?_⟩
  · change "" ++ "(?:" ++ String.ofList (joined (sortedWords others)) ++ ")" ++ "" = _
    rw [sortedWords_congr h]
    rfl
  · have hne' := countedWords_ne_nil .standard hne
    have hd : Descending (countedWords .standard words) :=
      countedWords_standard words ▸ descending_sortedWords words
    cases hcompile : compile .standard (ofWords words "" "") with
    | ok p =>
      refine .inl ⟨p, rfl, fun t offset limit stop ht => ?_⟩
      rw [find?_of_compile rfl hne hd hcompile ht, countedWords_standard]
      exact find?_sortedWords
    | error e =>
      have herror := ofNode_error_of_compile rfl hne hcompile
      obtain ⟨rfl, hroom⟩ := Program.error_ofNode hne' hd herror
      rw [countedWords_standard, wordsBound_sortedWords] at hroom
      exact .inr ⟨rfl, hroom⟩

theorem ofWords_finds_longest_int :
    ∃ p, compile .standard (ofWords ["in", "int", "in"] "" "") = .ok p ∧
      p.find? "int x".toList 0 5 = some 3 := by
  rcases (ofWords_finds_longest ["in", "int", "in"] (by decide)).2 with
    ⟨p, hp, hfind⟩ | ⟨-, hroom⟩
  · refine ⟨p, hp, (hfind _ 0 5 3 (Text.boundary_zero _)).2 ?_⟩
    exact ⟨"int", by decide, by decide, by decide, by decide, by decide⟩
  · exact absurd hroom (by decide)

def longWord : String := String.ofList (List.replicate 330000 'a')

theorem size_replicate (n : Nat) (c : Char) : Text.size (List.replicate n c) = n * c.utf8Size := by
  induction n with
  | zero => rw [List.replicate_zero, Text.size_nil, Nat.zero_mul]
  | succ n ih => rw [List.replicate_succ, Text.size_cons, ih, Nat.succ_mul, Nat.add_comm]

theorem compile_replicate {n : Nat} (h : Node.maxWord < n) :
    compile .standard (ofWords [String.ofList (List.replicate n 'a')] "" "") =
      .error .tooLarge := by
  have hall := (significant_eq_self false (List.replicate n 'a')).2 (.inl rfl)
  have hsize : Text.size (List.replicate n 'a') = n :=
    (size_replicate n 'a').trans (Nat.mul_one n)
  have hcompile := @compile_single .standard rfl (String.ofList (List.replicate n 'a'))
  rw [String.toList_ofList] at hcompile
  change if Text.size (significant false _) ≤ _ then _ else _ at hcompile
  rwa [hall, hsize, if_neg (Nat.not_le.2 h)] at hcompile

theorem longWord_refused :
    compile .standard (ofWords [longWord] "" "") = .error .tooLarge ∧
    ¬ ∃ p, compile .standard (ofWords [longWord] "" "") = .ok p ∧
        ∀ t offset limit stop, Text.Boundary t offset →
          (p.find? t offset limit = some stop ↔ LongestEnds [longWord] t offset limit stop) := by
  have hrefused : compile .standard (ofWords [longWord] "" "") = .error .tooLarge :=
    compile_replicate (by decide)
  refine ⟨hrefused, fun ⟨p, hp, _⟩ => ?_⟩
  cases hrefused.symm.trans hp

/-- The pattern matches the word where it stands, and nothing else. -/
def Takes (p : Pattern) (w : Text) : Prop :=
  ∀ t offset limit stop, Text.Boundary t offset →
    (p.find? t offset limit = some stop ↔
      w <+: t.skip offset ∧ stop = offset + w.size ∧ stop ≤ limit)

theorem Takes.unique {p : Pattern} {v w : Text} (hv : p.Takes v) (hw : p.Takes w) : v = w := by
  have hfound : p.find? w 0 w.size = some w.size :=
    (hw w 0 w.size w.size (Text.boundary_zero w)).2
      ⟨(Text.skip_zero w).symm ▸ List.prefix_rfl, (Nat.zero_add _).symm, Nat.le_refl _⟩
  obtain ⟨⟨rest, hrest⟩, hsize, -⟩ := (hv w 0 w.size w.size (Text.boundary_zero w)).1 hfound
  rw [Text.skip_zero] at hrest
  have hsame : v ++ rest = w ++ [] := by rw [hrest, List.append_nil]
  exact (Text.append_inj hsame (by omega)).1

theorem takes_of_compile {w : String} {p : Pattern} (hcase : mode.ignoreCase = false)
    (h : compile mode (ofWords [w] "" "") = .ok p) :
    p.Takes (significant mode.ignoreBlanks w.toList) := by
  intro t offset limit stop ht
  have hd : Descending (countedWords mode [w]) := by
    rw [countedWords_single]
    exact .singleton _
  rw [find?_of_compile hcase (List.cons_ne_nil w []) hd h ht, countedWords_single,
    List.find?_singleton]
  by_cases hstands : (Spot.ofText t offset limit).Stands (significant mode.ignoreBlanks w.toList)
  · obtain ⟨hbegins, hfits⟩ := stands_ofText.1 hstands
    rw [if_pos (decide_eq_true hstands), Option.map_some, Option.some.injEq]
    exact ⟨fun heq => ⟨hbegins, heq.symm, heq ▸ hfits⟩, fun h => h.2.1.symm⟩
  · rw [if_neg (by simpa using hstands)]
    refine iff_of_false (by simp) fun ⟨hbegins, hstop, hle⟩ => hstands ?_
    exact stands_ofText.2 ⟨hbegins, hstop ▸ hle⟩

/-- Whatever the other settings are, the pattern of one word takes what counts of it, unless that is
too long. So it takes the word itself exactly if no blank of it is lost. -/
theorem ofWords_takes (multiLine dotAll ignoreBlanks : Bool) (w : String) :
    (∃ p, compile ⟨multiLine, false, dotAll, ignoreBlanks⟩ (ofWords [w] "" "") = .ok p ∧
      Text.size (significant ignoreBlanks w.toList) ≤ Node.maxWord ∧
      p.Takes (significant ignoreBlanks w.toList) ∧
      (p.Takes w.toList ↔ ignoreBlanks = false ∨ ∀ c ∈ w.toList, isBlank c = false)) ∨
    compile ⟨multiLine, false, dotAll, ignoreBlanks⟩ (ofWords [w] "" "") = .error .tooLarge ∧
      Node.maxWord < Text.size (significant ignoreBlanks w.toList) := by
  have hcompile := @compile_single ⟨multiLine, false, dotAll, ignoreBlanks⟩ rfl w
  split at hcompile
  · rename_i hshort
    obtain ⟨p, hp⟩ := hcompile
    have htakes := takes_of_compile rfl hp
    refine .inl ⟨p, hp, hshort, htakes, ?_⟩
    rw [← significant_eq_self]
    exact ⟨fun h => htakes.unique h, fun h => h ▸ htakes⟩
  · rename_i hlong
    exact .inr ⟨hcompile, Nat.lt_of_not_le hlong⟩

theorem blank_lost :
    ∃ p, compile ⟨false, false, false, true⟩ (ofWords ["a b"] "" "") = .ok p ∧
      p.find? "a b".toList 0 3 = none := by
  have hcompile := @compile_single ⟨false, false, false, true⟩ rfl "a b"
  rw [if_pos (by decide)] at hcompile
  obtain ⟨p, hp⟩ := hcompile
  refine ⟨p, hp, Option.eq_none_iff_forall_ne_some.2 fun stop hstop => ?_⟩
  have hstands := ((takes_of_compile rfl hp) _ 0 3 stop (Text.boundary_zero _)).1 hstop
  exact absurd hstands.1 (by decide)

end Lexing.Pattern
