import Lexing.Pattern.Basic
import Lexing.Pattern.Words
import Lexing.Proofs.Pattern.Choice
import Mathlib.Data.List.Basic

/-!
# Reading the pattern of some words

The pattern of some words is read back as a choice between them, with nothing in it that is not a
character of a word. Where blanks do not count, those of the words do not count either: they are
not escaped.
-/
set_option autoImplicit false

namespace Lexing.Pattern

def significant (ignoreBlanks : Bool) (w : Text) : Text :=
  w.filter fun c => !(ignoreBlanks && isBlank c)

theorem significant_eq_self (b : Bool) (w : Text) :
    significant b w = w ↔ b = false ∨ ∀ c ∈ w, isBlank c = false := by
  rw [significant, List.filter_eq_self]
  cases b <;> simp

namespace Expr

def ofText (w : Text) : Expr := ofBranch (w.map fun c => .char ⟨c, false⟩)

def ofWords (ws : List Text) : Expr := ofBranches (ws.map ofText)

end Expr

namespace Reader

variable {c : Char} {fuel : Nat} {branches es : List Expr} {t u w : Text} {ws : List Text}

theorem not_isDigit_of_isMeta (h : isMeta c = true) : c.isDigit = false ∧ isBlank c = false := by
  simp only [isMeta, List.contains_iff_mem, List.mem_cons, List.not_mem_nil, or_false] at h
  rcases h with rfl | rfl | rfl | rfl | rfl | rfl | rfl | rfl | rfl | rfl | rfl | rfl | rfl | rfl |
    rfl | rfl | rfl | rfl <;> decide

theorem skip_of_ne (r : Reader) (hblank : (r.ignoreBlanks && isBlank c) = false) (hc : c ≠ '#') :
    { r with rest := c :: t }.skip = { r with rest := c :: t } := by
  obtain ⟨rest, b, groups, names⟩ := r
  cases b with
  | false => rfl
  | true => simp [skip, dropBlanks, hc, show isBlank c = false from hblank]

theorem skip_mark (r : Reader) (hblank : isBlank c = false) (hc : c ≠ '#') :
    { r with rest := c :: t }.skip = { r with rest := c :: t } :=
  skip_of_ne r (by rw [hblank, Bool.and_false]) hc

theorem readBranches_escaped (r : Reader) (h : isMeta c = true) :
    readBranches (fuel + 1) branches es { r with rest := '\\' :: c :: t } =
      readBranches fuel branches (.char ⟨c, false⟩ :: es) { r with rest := t } := by
  have hread : readEscape { r with rest := c :: t } =
      .ok (.literal ⟨c, false⟩, { r with rest := t }) := by
    simp [readEscape, isEscapable, h, (not_isDigit_of_isMeta h).1]
  rw [readBranches, skip_mark r (by decide) (by decide)]
  change (readEscape { r with rest := c :: t } >>= fun p =>
    readBranches fuel branches (p.1.toExpr :: es) p.2) = _
  rw [hread]
  rfl

theorem readBranches_plain (r : Reader) (h : isMeta c = false)
    (hblank : (r.ignoreBlanks && isBlank c) = false) :
    readBranches (fuel + 1) branches es { r with rest := c :: t } =
      readBranches fuel branches (.char ⟨c, false⟩ :: es) { r with rest := t } := by
  have hmark : c ≠ '#' := by
    rintro rfl
    exact absurd h (by decide)
  rw [readBranches, skip_of_ne r hblank hmark]
  -- every other case is about a character that means something
  split <;> rename_i heq <;> cases heq <;> first | rfl | exact absurd h (by decide)

theorem readBranches_blank (r : Reader) (hb : r.ignoreBlanks = true) (hc : isBlank c = true) :
    readBranches fuel branches es { r with rest := c :: t } =
      readBranches fuel branches es { r with rest := t } := by
  have hskip : { r with rest := c :: t }.skip = { r with rest := t }.skip := by
    simp [skip, dropBlanks, hb, hc]
  cases fuel with
  | zero => rfl
  | succ fuel => rw [readBranches, readBranches, hskip]

/-- Every character that counts is read as itself, and the others are passed. -/
theorem readBranches_escape (r : Reader) :
    readBranches (fuel + (significant r.ignoreBlanks w).length) branches es
        { r with rest := escape w ++ t } =
      readBranches fuel branches
        (((significant r.ignoreBlanks w).map fun c => .char ⟨c, false⟩).reverse ++ es)
        { r with rest := t } := by
  induction w generalizing es with
  | nil => rfl
  | cons c w ih =>
    by_cases hblank : (r.ignoreBlanks && isBlank c) = true
    · obtain ⟨hb, hc⟩ := Bool.and_eq_true_iff.1 hblank
      have hplain : isMeta c = false := by
        rw [← Bool.not_eq_true]
        exact fun h => absurd hc (by rw [(not_isDigit_of_isMeta h).2]; decide)
      have hescape : escape (c :: w) = c :: escape w := by simp [escape, hplain]
      have hkeeps : significant r.ignoreBlanks (c :: w) = significant r.ignoreBlanks w :=
        List.filter_cons_of_neg (by simp [hblank])
      rw [hescape, hkeeps, List.cons_append, readBranches_blank r hb hc, ih]
    · rw [Bool.not_eq_true] at hblank
      have hkeeps : significant r.ignoreBlanks (c :: w) = c :: significant r.ignoreBlanks w :=
        List.filter_cons_of_pos (by simp [hblank])
      rw [hkeeps, List.length_cons, ← Nat.add_assoc, List.map_cons, List.reverse_cons,
        List.append_assoc, List.singleton_append, ← ih]
      by_cases hmeta : isMeta c = true
      · have hescape : escape (c :: w) = '\\' :: c :: escape w := by simp [escape, hmeta]
        rw [hescape]
        exact readBranches_escaped r hmeta
      · have hescape : escape (c :: w) = c :: escape w := by simp [escape, hmeta]
        rw [hescape]
        exact readBranches_plain r (by simpa using hmeta) hblank

theorem readBranches_bar (r : Reader) :
    readBranches (fuel + 1) branches es { r with rest := '|' :: t } =
      readBranches fuel (Expr.ofBranch es.reverse :: branches) [] { r with rest := t } := by
  rw [readBranches, skip_mark r (by decide) (by decide)]
  rfl

theorem readBranches_close (r : Reader) :
    readBranches (fuel + 1) branches es { r with rest := ')' :: t } =
      .ok (closeBranches branches es, { r with rest := ')' :: t }) := by
  rw [readBranches, skip_mark r (by decide) (by decide)]
  rfl

theorem readBranches_end (r : Reader) :
    readBranches (fuel + 1) branches es { r with rest := [] } =
      .ok (closeBranches branches es, { r with rest := [] }) := by
  have hskip : { r with rest := [] }.skip = { r with rest := [] } := by simp [skip, dropBlanks]
  rw [readBranches, hskip]
  rfl

theorem readBranches_group (r : Reader) {body : Expr}
    (h : readBranches fuel [] [] { r with rest := u } = .ok (body, { r with rest := ')' :: t })) :
    readBranches (fuel + 1) branches es { r with rest := '(' :: '?' :: ':' :: u } =
      readBranches fuel branches (.group (.plain []) body :: es) { r with rest := t } := by
  have hopening : readOpening { r with rest := '?' :: ':' :: u } =
      .ok (.group (.plain []), { r with rest := u }) := by
    rw [readOpening, skip_mark r (by decide) (by decide)]
    rfl
  rw [readBranches, skip_mark r (by decide) (by decide)]
  refine (congrArg (· >>= _) hopening).trans ?_
  change (readBranches fuel [] [] { r with rest := u } >>= _) = _
  rw [h]
  rfl

theorem length_significant_le (b : Bool) (w : Text) :
    (significant b w).length ≤ (escape w).length := by
  refine Nat.le_trans (List.length_filter_le _ w) ?_
  induction w with
  | nil => exact Nat.le_refl _
  | cons c w ih =>
    have hone : 1 ≤ (if isMeta c then ['\\', c] else [c]).length := by split <;> simp
    rw [escape, List.flatMap_cons, List.length_append, ← escape, List.length_cons]
    omega

theorem readBranches_joined (r : Reader) (hne : ws ≠ []) (hfuel : (joined ws).length < fuel) :
    readBranches fuel branches [] { r with rest := joined ws ++ ')' :: t } =
      .ok (Expr.ofBranches (branches.reverse ++
          ws.map fun w => Expr.ofText (significant r.ignoreBlanks w)),
        { r with rest := ')' :: t }) := by
  induction ws generalizing fuel branches with
  | nil => exact absurd rfl hne
  | cons w ws ih =>
    have hlength := length_significant_le r.ignoreBlanks w
    have hbranch : (((significant r.ignoreBlanks w).map fun c =>
        Expr.char ⟨c, false⟩).reverse ++ []).reverse =
        (significant r.ignoreBlanks w).map fun c => Expr.char ⟨c, false⟩ := by simp
    cases ws with
    | nil =>
      have hone : joined [w] = escape w := by simp [joined]
      rw [hone] at hfuel ⊢
      obtain ⟨k, rfl⟩ := Nat.exists_eq_add_of_lt (Nat.lt_of_le_of_lt hlength hfuel)
      rw [Nat.add_assoc, Nat.add_comm, readBranches_escape, readBranches_close, closeBranches,
        hbranch]
      simp [Expr.ofText]
    | cons v ws =>
      have hmore : joined (w :: v :: ws) = escape w ++ '|' :: joined (v :: ws) := by
        simp [joined, List.intercalate]
      rw [hmore, List.length_append, List.length_cons] at hfuel
      obtain ⟨k, rfl⟩ : ∃ k, fuel = k + 1 + (significant r.ignoreBlanks w).length :=
        ⟨fuel - 1 - (significant r.ignoreBlanks w).length, by omega⟩
      rw [hmore, List.append_assoc, List.cons_append, readBranches_escape, readBranches_bar,
        hbranch, ih (List.cons_ne_nil v ws) (by omega)]
      simp [Expr.ofText]

end Reader

namespace Expr

variable {ws : List Text} {w : Text} {fs : Flags}

theorem listDepth_map_le {α : Type} {n : Nat} (f : α → Expr) (h : ∀ a, (f a).depth ≤ n)
    (as : List α) : listDepth (as.map f) ≤ n := by
  induction as with
  | nil => exact Nat.zero_le n
  | cons a as ih => exact Nat.max_le.2 ⟨h a, ih⟩

theorem depth_ofText_le (w : Text) : (ofText w).depth ≤ 1 := by
  match w with
  | [] => exact Nat.zero_le 1
  | [_] => exact Nat.zero_le 1
  | c :: d :: w =>
    exact Nat.succ_le_succ
      (listDepth_map_le (fun c => .char ⟨c, false⟩) (fun _ => Nat.le_refl 0) (c :: d :: w))

theorem depth_ofWords_le (ws : List Text) : (ofWords ws).depth ≤ 2 := by
  match ws with
  | [] => exact Nat.le_succ 1
  | [w] => exact Nat.le_succ_of_le (depth_ofText_le w)
  | v :: w :: ws => exact Nat.succ_le_succ (listDepth_map_le ofText depth_ofText_le (v :: w :: ws))

theorem read_ofWords (b : Bool) {words : List String} (hne : sortedWords words ≠ []) :
    read b (Pattern.ofWords words "" "").toList =
      .ok (.group (.plain []) (ofWords ((sortedWords words).map (significant b)))) := by
  have hbody : Reader.readBranches ((joined (sortedWords words)).length + 4) [] []
      ⟨joined (sortedWords words) ++ [')'], b, 0, []⟩ =
      .ok (ofWords ((sortedWords words).map (significant b)), ⟨[')'], b, 0, []⟩) := by
    rw [ofWords, List.map_map]
    exact Reader.readBranches_joined ⟨[], b, 0, []⟩ hne (by omega)
  have hread : Reader.readBranches ((Pattern.ofWords words "" "").toList.length + 1) [] []
      ⟨(Pattern.ofWords words "" "").toList, b, 0, []⟩ =
      .ok (.group (.plain []) (ofWords ((sortedWords words).map (significant b))),
        ⟨[], b, 0, []⟩) := by
    rw [toList_ofWords]
    simp only [List.length_cons, List.length_append, List.length_nil]
    refine (Reader.readBranches_group ⟨[], b, 0, []⟩ hbody).trans ?_
    rw [Reader.readBranches_end]
    rfl
  have hdepth : (group (.plain []) (ofWords ((sortedWords words).map (significant b)))).depth ≤
      maxDepth :=
    Nat.le_trans (Nat.succ_le_succ (depth_ofWords_le _)) (by decide)
  rw [read, hread]
  change (if _ then _ else _) = _
  exact if_pos hdepth

theorem lowerAll_map {α : Type} {f : α → Expr} {g : α → Node}
    (h : ∀ a, (f a).lower fs = .ok (g a, fs)) (as : List α) :
    lowerAll fs (as.map f) = .ok (as.map g, fs) := by
  induction as with
  | nil => rfl
  | cons a as ih =>
    rw [List.map_cons, lowerAll, h]
    change (lowerAll fs (as.map f) >>= _) = _
    rw [ih]
    rfl

theorem lower_char (hcase : fs.ignoreCase = false) (c : Char) :
    (char ⟨c, false⟩).lower fs = .ok (.word [c], fs) := by
  have hset : Node.ofSet (CharSet.single c) = .word [c] := by
    simp [Node.ofSet, CharSet.single?, CharSet.single, Char.ofNat_toNat]
  have hliteral : fs.literal ⟨c, false⟩ = .ok (.word [c]) := by
    simp [Flags.literal, Flags.closeCase, hcase, hset]
  rw [lower, hliteral]
  rfl

theorem joinWords_word {v w : Text} {ns rest : List Node}
    (h : Node.joinWords ns = .word w :: rest) :
    Node.joinWords (.word v :: ns) = .word (v ++ w) :: rest := by
  simp only [Node.joinWords, h]

theorem flatMap_eq_self {f : Node → List Node} {ns : List Node} (h : ∀ n ∈ ns, f n = [n]) :
    ns.flatMap f = ns :=
  (List.flatMap_congr h).trans (List.flatMap_singleton' ns)

theorem concat_characters (c : Char) (w : Text) :
    Node.concat ((c :: w).map fun c => .word [c]) = .word (c :: w) := by
  have hjoin (c : Char) (w : Text) :
      Node.joinWords ((c :: w).map fun c => .word [c]) = [.word (c :: w)] := by
    induction w generalizing c with
    | nil => rfl
    | cons d w ih =>
      have hrest := ih d
      rw [List.map_cons, joinWords_word hrest]
      rfl
  have helements (w : Text) : (w.map fun c => Node.word [c]).flatMap Node.elements =
      w.map fun c => Node.word [c] := by
    refine flatMap_eq_self fun n hn => ?_
    obtain ⟨c, -, rfl⟩ := List.mem_map.1 hn
    rfl
  rw [Node.concat, helements, hjoin]
  rfl

theorem lower_ofText (hcase : fs.ignoreCase = false) (w : Text) :
    (ofText w).lower fs = .ok (Node.ofWord w, fs) := by
  match w with
  | [] => rfl
  | [c] => exact lower_char hcase c
  | c :: d :: w =>
    have hall := lowerAll_map (lower_char hcase) (c :: d :: w)
    change (lowerAll fs ((c :: d :: w).map fun c => .char ⟨c, false⟩) >>= _) = _
    rw [hall]
    exact congrArg (fun n => Except.ok (n, fs)) (concat_characters c (d :: w))

theorem firstOf_words (ws : List Text) : Node.firstOf (ws.map Node.ofWord) = Node.ofWords ws := by
  have hbranches : (ws.map Node.ofWord).flatMap Node.branches = ws.map Node.ofWord := by
    refine flatMap_eq_self fun n hn => ?_
    obtain ⟨w, -, rfl⟩ := List.mem_map.1 hn
    cases w <;> rfl
  have hshared : Node.sharedStart (ws.map Node.ofWord) = [] := by
    cases ws with
    | nil => rfl
    | cons w ws =>
      refine if_neg ?_
      cases w <;> simp [Node.ofWord, Node.elements]
  rw [Node.firstOf, hbranches, hshared]
  rfl

theorem lower_ofWords (hcase : fs.ignoreCase = false) (hne : ws ≠ []) :
    (ofWords ws).lower fs = .ok (Node.ofWords ws, fs) := by
  match ws with
  | [w] => exact lower_ofText hcase w
  | v :: w :: ws =>
    have hall := lowerAll_map (lower_ofText hcase) (v :: w :: ws)
    change (lowerAll fs ((v :: w :: ws).map ofText) >>= _) = _
    rw [hall]
    exact congrArg (fun n => Except.ok (n, fs)) (firstOf_words (v :: w :: ws))

end Expr

end Lexing.Pattern
