import Mathlib.Data.List.DropRight
import Lexing.Proofs.Options.Tabs

/-!
# Preparing in stages

A text is prepared stage by stage: all line ends become newlines, both ends are stripped, tabs are
expanded, and a final newline is added where one is wanted and there is none. A newline behind the
text that stripping would leave is kept in place of one that is added later. Whether it is kept or
not, the later stages come to the same text.
-/
set_option autoImplicit false

namespace Lexing.Options

def joinLineEnds : Text → Text
  | [] => []
  | '\r' :: '\n' :: t => '\n' :: joinLineEnds t
  | c :: t => c :: joinLineEnds t

def newlines (t : Text) : Text := (joinLineEnds t).map fun c => if c = '\r' then '\n' else c

theorem normalize_eq_newlines (t : Text) : normalize t = newlines t := by
  unfold newlines
  fun_induction normalize t with
  | case1 => rfl
  | case2 t ih => simp [joinLineEnds, ih]
  | case3 c t hpair ih =>
    rw [joinLineEnds]
    · simp [ih]
    · exact hpair

theorem return_notMem_newlines (t : Text) : '\r' ∉ newlines t := by
  rw [newlines, List.mem_map]
  rintro ⟨c, _, hc⟩
  split at hc
  · cases hc
  · rename_i hne
    exact hne hc

theorem normalize_of_unreturned {t : Text} (unreturned : '\r' ∉ t) : normalize t = t := by
  fun_induction normalize t with
  | case1 => rfl
  | case2 t ih => simp at unreturned
  | case3 c t hpair ih =>
    rw [List.mem_cons, not_or] at unreturned
    rw [if_neg (Ne.symm unreturned.1), ih unreturned.2]

def stripEnds (p : Char → Bool) (t : Text) : Text := (t.dropWhile p).rdropWhile p

def bare (o : Options) (t : Text) : Text :=
  if o.stripBlanks then stripEnds isBlank t
  else if o.stripNewlines then stripEnds (· == '\n') t
  else t

structure Trimmed (p : Char → Bool) (t : Text) : Prop where
  head : ∀ c, t.head? = some c → p c = false
  last : ∀ c, t.getLast? = some c → p c = false

variable {o : Options} {p : Char → Bool} {t : Text}

namespace Trimmed

theorem nil (p : Char → Bool) : Trimmed p [] := ⟨nofun, nofun⟩

theorem of_none (h : ∀ c, p c = false) (t : Text) : Trimmed p t :=
  ⟨fun c _ => h c, fun c _ => h c⟩

theorem dropWhile_append (trimmed : Trimmed p t) (hne : t ≠ []) (s : Text) :
    (t ++ s).dropWhile p = t ++ s := by
  cases t with
  | nil => exact absurd rfl hne
  | cons c t => exact List.dropWhile_cons_of_neg (by simp [trimmed.head c rfl])

theorem rdropWhile_eq (trimmed : Trimmed p t) : t.rdropWhile p = t := by
  rw [List.rdropWhile_eq_self_iff]
  intro hne
  simp [trimmed.last _ (List.getLast?_eq_some_getLast hne)]

theorem stripEnds_eq (trimmed : Trimmed p t) : stripEnds p t = t := by
  by_cases hne : t = []
  · rw [hne]
    rfl
  · have hhead := trimmed.dropWhile_append hne []
    rw [List.append_nil] at hhead
    rw [stripEnds, hhead, trimmed.rdropWhile_eq]

theorem stripEnds_concat (trimmed : Trimmed p t) {c : Char} (hc : p c = true) :
    stripEnds p (t ++ [c]) = t := by
  by_cases hne : t = []
  · simp [hne, stripEnds, hc]
  · rw [stripEnds, trimmed.dropWhile_append hne, List.rdropWhile_concat_pos p t c hc,
      trimmed.rdropWhile_eq]

end Trimmed

theorem stripEnds_prefix_dropWhile (p : Char → Bool) (t : Text) : stripEnds p t <+: t.dropWhile p :=
  List.rdropWhile_prefix p _

theorem trimmed_stripEnds (p : Char → Bool) (t : Text) : Trimmed p (stripEnds p t) := by
  constructor
  · intro c hc
    -- what is left begins as the text does behind what was stripped before it
    obtain ⟨r, hr⟩ := stripEnds_prefix_dropWhile p t
    have hnot := List.head?_dropWhile_not p t
    rw [← hr, List.head?_append, hc] at hnot
    simpa using hnot
  · intro c hc
    have hne : stripEnds p t ≠ [] := by
      intro hnil
      rw [hnil] at hc
      cases hc
    rw [List.getLast?_eq_some_getLast hne] at hc
    obtain rfl := Option.some.inj hc
    have hnot : ¬ p ((stripEnds p t).getLast hne) := List.rdropWhile_last_not p _ hne
    simpa using hnot

theorem bare_eq_stripEnds (o : Options) (t : Text) : o.bare t = stripEnds o.strips t := by
  unfold bare
  by_cases hblanks : o.stripBlanks
  · have hstrips : o.strips = isBlank := by
      funext c
      simp [strips, hblanks]
    rw [if_pos hblanks, hstrips]
  · by_cases hlines : o.stripNewlines
    · have hstrips : o.strips = (· == '\n') := by
        funext c
        simp [strips, hblanks, hlines]
      rw [if_neg hblanks, if_pos hlines, hstrips]
    · have hstrips : o.strips = fun _ => false := by
        funext c
        simp [strips, hblanks, hlines]
      rw [if_neg hblanks, if_neg hlines, hstrips, (Trimmed.of_none (fun _ => rfl) t).stripEnds_eq]

theorem trimmed_bare (o : Options) (t : Text) : Trimmed o.strips (o.bare t) := by
  rw [bare_eq_stripEnds]
  exact trimmed_stripEnds o.strips t

theorem bare_of_trimmed (trimmed : Trimmed o.strips t) : o.bare t = t := by
  rw [bare_eq_stripEnds, trimmed.stripEnds_eq]

theorem bare_concat_newline (trimmed : Trimmed o.strips t) (strips : o.strips '\n' = true) :
    o.bare (t ++ ['\n']) = t := by
  rw [bare_eq_stripEnds, trimmed.stripEnds_concat strips]

theorem bare_prefix_dropWhile (o : Options) (t : Text) : o.bare t <+: t.dropWhile o.strips := by
  rw [bare_eq_stripEnds]
  exact stripEnds_prefix_dropWhile o.strips t

/-- A newline is wanted, and there is one behind the text that is left and none in its place. -/
structure KeepsNewline (o : Options) (t : Text) : Prop where
  wanted : o.ensureNewline = true
  missing : (o.bare t).getLast? ≠ some '\n'
  behind : o.bare t ++ ['\n'] <+: t.dropWhile o.strips

theorem strip_cases (o : Options) (t : Text) :
    (o.KeepsNewline t ∧ o.strip t = o.bare t ++ ['\n']) ∨
      (¬ o.KeepsNewline t ∧ o.strip t = o.bare t) := by
  obtain ⟨r, hr⟩ := bare_prefix_dropWhile o t
  have hbehind : ((t.dropWhile o.strips).drop (o.bare t).length).head? = some '\n' ↔
      o.bare t ++ ['\n'] <+: t.dropWhile o.strips := by
    rw [← hr, List.drop_left, List.prefix_append_right_inj]
    cases r <;> simp [eq_comm]
  have hkeeps : (o.ensureNewline && (o.bare t).getLast? != some '\n' &&
      ((t.dropWhile o.strips).drop (o.bare t).length).head? == some '\n') = true ↔
        o.KeepsNewline t := by
    simp only [Bool.and_eq_true, bne_iff_ne, beq_iff_eq, hbehind]
    exact ⟨fun h => ⟨h.1.1, h.1.2, h.2⟩, fun h => ⟨⟨h.wanted, h.missing⟩, h.behind⟩⟩
  have hstrip : o.strip t = if o.ensureNewline && (o.bare t).getLast? != some '\n' &&
      ((t.dropWhile o.strips).drop (o.bare t).length).head? == some '\n'
      then o.bare t ++ ['\n'] else o.bare t := by
    rw [bare_eq_stripEnds]
    rfl
  rw [hstrip]
  split
  · rename_i h
    exact .inl ⟨hkeeps.1 h, rfl⟩
  · rename_i h
    exact .inr ⟨fun keeps => h (hkeeps.2 keeps), rfl⟩

theorem strip_infix_self (o : Options) (t : Text) : o.strip t <:+: t := by
  have hsuffix := (List.dropWhile_suffix o.strips (l := t)).isInfix
  rcases strip_cases o t with ⟨keeps, h⟩ | ⟨_, h⟩
  · rw [h]
    exact keeps.behind.isInfix.trans hsuffix
  · rw [h]
    exact (bare_prefix_dropWhile o t).isInfix.trans hsuffix

def expanded (o : Options) (t : Text) : Text :=
  if 0 < o.tabSize then expandTabs o.tabSize t else t

def closed (o : Options) (t : Text) : Text :=
  if o.ensureNewline ∧ t.getLast? ≠ some '\n' then t ++ ['\n'] else t

def staged (o : Options) (t : Text) : Text := o.closed (o.expanded (o.bare (newlines t)))

theorem expanded_of_untabbed (untabbed : '\t' ∉ t) : o.expanded t = t := by
  unfold expanded
  split
  · exact expandFrom_of_untabbed untabbed
  · rfl

theorem expanded_concat_newline (o : Options) (t : Text) :
    o.expanded (t ++ ['\n']) = o.expanded t ++ ['\n'] := by
  unfold expanded
  split
  · exact expandFrom_concat_newline o.tabSize 0 t
  · rfl

theorem getLast?_expanded (o : Options) (t : Text) :
    (o.expanded t).getLast? = some '\n' ↔ t.getLast? = some '\n' := by
  unfold expanded
  split
  · rename_i wide
    rw [expandTabs, getLast?_expandFrom wide, Option.map_eq_some_iff]
    simp [spaced_eq_newline_iff]
  · rfl

theorem closed_of_last (h : t.getLast? = some '\n') : o.closed t = t :=
  if_neg fun wanted => wanted.2 h

theorem closed_concat_newline (o : Options) (t : Text) : o.closed (t ++ ['\n']) = t ++ ['\n'] :=
  closed_of_last List.getLast?_concat

/-- The newline that stripping keeps would be added again. -/
theorem closed_expanded_strip (o : Options) (t : Text) :
    o.closed (o.expanded (o.strip t)) = o.closed (o.expanded (o.bare t)) := by
  rcases strip_cases o t with ⟨keeps, h⟩ | ⟨_, h⟩
  · have missing : (o.expanded (o.bare t)).getLast? ≠ some '\n' :=
      fun h => keeps.missing ((getLast?_expanded o _).1 h)
    rw [h, expanded_concat_newline, closed_concat_newline, closed, if_pos ⟨keeps.wanted, missing⟩]
  · rw [h]

def strippedPart (o : Options) (t : Text) : Prepared :=
  if t.contains '\r' then .built (o.strip (normalize t)) else .part (o.strip t)

def expandedPart (o : Options) (p : Prepared) : Prepared :=
  if 0 < o.tabSize ∧ p.text.contains '\t' then .built (expandTabs o.tabSize p.text) else p

def closedPart (o : Options) (p : Prepared) : Prepared :=
  if o.ensureNewline ∧ p.text.getLast? ≠ some '\n' then .built (p.text ++ ['\n']) else p

theorem prepare_eq (o : Options) (t : Text) :
    o.prepare t = o.closedPart (o.expandedPart (o.strippedPart t)) := rfl

theorem text_strippedPart (o : Options) (t : Text) :
    (o.strippedPart t).text = o.strip (normalize t) := by
  unfold strippedPart
  split
  · rfl
  · rename_i h
    rw [normalize_of_unreturned (by simpa using h)]
    rfl

theorem text_expandedPart (o : Options) (p : Prepared) :
    (o.expandedPart p).text = o.expanded p.text := by
  by_cases wide : 0 < o.tabSize
  · by_cases htab : p.text.contains '\t'
    · rw [expandedPart, if_pos ⟨wide, htab⟩, expanded, if_pos wide]
      rfl
    · rw [expandedPart, if_neg (fun h => htab h.2), expanded_of_untabbed (by simpa using htab)]
  · rw [expandedPart, if_neg (fun h => wide h.1), expanded, if_neg wide]

theorem text_closedPart (o : Options) (p : Prepared) :
    (o.closedPart p).text = o.closed p.text := by
  unfold closedPart closed
  split <;> rfl

theorem text_prepare (o : Options) (t : Text) : (o.prepare t).text = o.staged t := by
  rw [prepare_eq, text_closedPart, text_expandedPart, text_strippedPart, closed_expanded_strip,
    normalize_eq_newlines]
  rfl

theorem getLast?_prepare (ensures : o.ensureNewline = true) (t : Text) :
    (o.prepare t).text.getLast? = some '\n' := by
  rw [prepare_eq, text_closedPart, closed]
  split
  · exact List.getLast?_concat
  · rename_i h
    by_contra hlast
    exact h ⟨ensures, hlast⟩

end Lexing.Options
