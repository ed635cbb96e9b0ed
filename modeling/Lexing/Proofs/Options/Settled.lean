import Lexing.Proofs.Options.Staged

/-!
# Texts that are prepared already

A text is settled when preparing it leaves nothing to do: it has no carriage return, no tab where
tabs are expanded, and is what stripping leaves, closed by a newline where one is wanted. The
settled texts are the prepared ones, and the ones that preparing does not change. Such a text is
handed on as it is, but for a newline alone that is stripped and added again.
-/
set_option autoImplicit false

namespace Lexing.Options

variable {o : Options} {t core : Text}

structure Settled (o : Options) (t : Text) : Prop where
  unreturned : '\r' ∉ t
  untabbed : 0 < o.tabSize → '\t' ∉ t
  ends : ∃ core, Trimmed o.strips core ∧ t = o.closed core

theorem mem_closed {c : Char} (h : c ∈ o.closed t) : c = '\n' ∨ c ∈ t := by
  unfold closed at h
  split at h
  · rcases List.mem_append.1 h with h | h
    · exact .inr h
    · exact .inl (List.mem_singleton.1 h)
  · exact .inr h

theorem mem_expanded {c : Char} (h : c ∈ o.expanded t) : c = ' ' ∨ c ∈ t := by
  unfold expanded at h
  split at h
  · exact mem_of_mem_expandFrom h
  · exact .inr h

theorem mem_of_mem_bare {c : Char} (h : c ∈ o.bare t) : c ∈ t :=
  (List.dropWhile_suffix _).subset ((bare_prefix_dropWhile o t).subset h)

theorem strips_spaced (o : Options) (c : Char) : o.strips (spaced c) = o.strips c := by
  unfold spaced
  split
  · rename_i htab
    subst htab
    have hblank : isBlank ' ' = isBlank '\t' := by decide
    simp [strips, hblank]
  · rfl

theorem Trimmed.expanded (trimmed : Trimmed o.strips t) : Trimmed o.strips (o.expanded t) := by
  unfold Options.expanded
  split
  · rename_i wide
    constructor
    · intro c hc
      rw [expandTabs, head?_expandFrom wide] at hc
      obtain ⟨d, hd, rfl⟩ := Option.map_eq_some_iff.1 hc
      rw [strips_spaced]
      exact trimmed.head d hd
    · intro c hc
      rw [expandTabs, getLast?_expandFrom wide] at hc
      obtain ⟨d, hd, rfl⟩ := Option.map_eq_some_iff.1 hc
      rw [strips_spaced]
      exact trimmed.last d hd
  · exact trimmed

theorem settled_staged (o : Options) (t : Text) : o.Settled (o.staged t) := by
  constructor
  case unreturned =>
    intro h
    rcases mem_closed h with h | h
    · cases h
    · rcases mem_expanded h with h | h
      · cases h
      · exact return_notMem_newlines t (mem_of_mem_bare h)
  case untabbed =>
    intro wide h
    rcases mem_closed h with h | h
    · cases h
    · rw [expanded, if_pos wide] at h
      exact tab_notMem_expandFrom _ _ _ h
  case ends => exact ⟨_, (trimmed_bare o _).expanded, rfl⟩

theorem strips_newline (o : Options) : o.strips '\n' = (o.stripBlanks || o.stripNewlines) := by
  have hblank : isBlank '\n' = true := by decide
  cases hblanks : o.stripBlanks <;> simp [strips, hblanks, hblank]

/-- Either newlines are stripped, or nothing is. -/
theorem strips_of_newline_kept (kept : o.strips '\n' = false) (c : Char) : o.strips c = false := by
  rw [strips_newline, Bool.or_eq_false_iff] at kept
  simp [strips, kept.1, kept.2]

theorem closed_bare_closed (trimmed : Trimmed o.strips core) :
    o.closed (o.bare (o.closed core)) = o.closed core := by
  by_cases hwanted : o.ensureNewline = true ∧ core.getLast? ≠ some '\n'
  · have hclosed : o.closed core = core ++ ['\n'] := if_pos hwanted
    rw [hclosed]
    cases hstrips : o.strips '\n' with
    | false =>
      have hall := Trimmed.of_none (strips_of_newline_kept hstrips) (core ++ ['\n'])
      rw [bare_of_trimmed hall, closed_concat_newline]
    | true => rw [bare_concat_newline trimmed hstrips, hclosed]
  · have hclosed : o.closed core = core := if_neg hwanted
    rw [hclosed, bare_of_trimmed trimmed, hclosed]

theorem Settled.staged_eq (settled : o.Settled t) : o.staged t = t := by
  have hnewlines : newlines t = t := by
    rw [← normalize_eq_newlines, normalize_of_unreturned settled.unreturned]
  have hexpanded : o.expanded (o.bare t) = o.bare t := by
    by_cases wide : 0 < o.tabSize
    · exact expanded_of_untabbed fun h => settled.untabbed wide (mem_of_mem_bare h)
    · exact if_neg wide
  obtain ⟨core, trimmed, hcore⟩ := settled.ends
  rw [staged, hnewlines, hexpanded, hcore, closed_bare_closed trimmed]

theorem staged_eq_self_iff : o.staged t = t ↔ o.Settled t := by
  constructor
  · intro h
    rw [← h]
    exact settled_staged o t
  · exact Settled.staged_eq

theorem prepare_prepare (o : Options) (t : Text) :
    (o.prepare (o.prepare t).text).text = (o.prepare t).text := by
  simp only [text_prepare]
  exact (settled_staged o t).staged_eq

theorem eq_strip_of_part {s : Text} (h : o.prepare t = .part s) : s = o.strip t := by
  rw [prepare_eq, closedPart] at h
  split at h
  · cases h
  · rw [expandedPart] at h
    split at h
    · cases h
    · rw [strippedPart] at h
      split at h
      · cases h
      · exact (Prepared.part.inj h).symm

theorem Settled.prepare_eq (settled : o.Settled t) :
    o.prepare t = o.closedPart (.part (o.strip t)) := by
  have hreturn : ¬ t.contains '\r' := by simpa using settled.unreturned
  have htab : ¬ (0 < o.tabSize ∧ (o.strip t).contains '\t') := by
    rintro ⟨wide, h⟩
    exact settled.untabbed wide ((strip_infix_self o t).subset (by simpa using h))
  rw [Options.prepare_eq, strippedPart, if_neg hreturn]
  exact congrArg o.closedPart (if_neg htab)

/-- Only a newline alone has nothing before it that could keep it from being stripped. -/
theorem eq_newline_of_strip (wanted : o.ensureNewline = true)
    (missing : (o.strip t).getLast? ≠ some '\n') (h : o.strip t ++ ['\n'] = t) :
    t = ['\n'] ∧ o.strips '\n' = true := by
  rcases strip_cases o t with ⟨_, hstrip⟩ | ⟨hkeeps, hstrip⟩
  · rw [hstrip] at missing
    exact absurd List.getLast?_concat missing
  · rw [hstrip] at missing h
    have hnil : o.bare t = [] := by
      by_contra hne
      have hhead := (trimmed_bare o t).dropWhile_append hne ['\n']
      rw [h] at hhead
      have behind : o.bare t ++ ['\n'] <+: t.dropWhile o.strips :=
        ⟨[], by rw [List.append_nil, h, hhead]⟩
      exact hkeeps ⟨wanted, missing, behind⟩
    rw [hnil] at h
    subst h
    refine ⟨rfl, ?_⟩
    cases hstrips : o.strips '\n' with
    | false =>
      rw [bare_of_trimmed (.of_none (strips_of_newline_kept hstrips) _)] at hnil
      cases hnil
    | true => rfl

theorem prepare_newline (wanted : o.ensureNewline = true) (strips : o.strips '\n' = true) :
    o.prepare ['\n'] = .built ['\n'] := by
  have settled : o.Settled ['\n'] :=
    ⟨by decide, fun _ => by decide, [], .nil _, (if_pos ⟨wanted, nofun⟩).symm⟩
  have hstrip : o.strip ['\n'] = [] := by
    have hbare : o.bare ['\n'] = [] := bare_concat_newline (.nil _) strips
    rcases strip_cases o ['\n'] with ⟨keeps, _⟩ | ⟨_, h⟩
    · have hbehind := keeps.behind
      simp [hbare, strips] at hbehind
    · rw [h, hbare]
  rw [settled.prepare_eq, hstrip]
  exact if_pos ⟨wanted, nofun⟩

/-- A part is a part of the given text, and a text that preparing does not change is handed on as it
is, but for a newline alone that is stripped and added again. -/
theorem prepare_eq_part_iff (o : Options) (t : Text) :
    (∀ s, o.prepare t = .part s → s <:+: t) ∧
      (o.prepare t = .part t ↔ (o.prepare t).text = t ∧
        ¬ (t = ['\n'] ∧ o.ensureNewline = true ∧ (o.stripBlanks || o.stripNewlines) = true)) := by
  refine ⟨fun s h => ?_, fun h => ⟨?_, ?_⟩, fun ⟨same, other⟩ => ?_⟩
  · rw [eq_strip_of_part h]
    exact strip_infix_self o t
  · rw [h]
    rfl
  · rintro ⟨rfl, wanted, strips⟩
    rw [prepare_newline wanted (by rw [strips_newline, strips])] at h
    cases h
  · have settled : o.Settled t := by
      rw [text_prepare] at same
      exact staged_eq_self_iff.1 same
    rw [settled.prepare_eq, closedPart] at same ⊢
    split at same
    · rename_i hopen
      obtain ⟨rfl, strips⟩ := eq_newline_of_strip hopen.1 hopen.2 same
      rw [strips_newline] at strips
      exact absurd ⟨rfl, hopen.1, strips⟩ other
    · rename_i hopen
      rw [if_neg hopen]
      exact congrArg Prepared.part same

/-- A newline alone is stripped, and a new one is put in its place. -/
theorem newline_built : (standard.prepare ['\n']).text = ['\n'] ∧
    (standard.prepare ['\n']).isPart = false := by decide

end Lexing.Options
