import Lexing.Catalogue.Standard
import Lexing.Proofs.Machine.Interning
import Lexing.Proofs.Options.Staged
import Lexing.Proofs.Pattern.Lines
import Lexing.Proofs.Run.Nesting
import Lexing.Proofs.Run.Shadowing

/-!
# Differences, line by line

Every rule of the lexer for differences takes one line, and the last one takes any. So a step at
the beginning of a line makes one token of that line, of the kind of the first rule whose words it
begins with, and the run is at the beginning of the next line again.
-/
set_option autoImplicit false

namespace Lexing
open Pattern Pattern.Node

/-- The kind of a line between differences, by what it begins with. -/
def lineKind (line : Text) : Kind :=
  match line with
  | '+' :: _ => ⟨["Generic", "Inserted"]⟩
  | '-' :: _ => ⟨["Generic", "Deleted"]⟩
  | '!' :: _ => ⟨["Generic", "Strong"]⟩
  | '@' :: _ => ⟨["Generic", "Subheading"]⟩
  | '=' :: _ => ⟨["Generic", "Heading"]⟩
  | _ =>
    if ["Index", "index", "diff"].any fun w => w.toList.isPrefixOf line then
      ⟨["Generic", "Heading"]⟩
    else .text

/-- The lines of a text that ends in a newline, each without its newline. -/
def linesOf (t : Text) : List Text := (t.splitOn '\n').dropLast

/-- One token for each of some lines, which stand one after the other from an offset on, each with
its newline. -/
def lineTokens : Nat → List Text → List Token
  | _, [] => []
  | offset, line :: lines =>
    ⟨offset, lineKind line, line ++ ['\n']⟩ :: lineTokens (offset + line.size + 1) lines

/-- A rule that takes lines: its pattern, as it is written and as it is read, the words that such a
line begins with, and the kind of the token. -/
structure LineRule where
  source : String
  node : Node
  words : List Text
  kind : Kind

namespace LineRule

def entry (r : LineRule) : Entry := .rule r.source (.kind r.kind) .stay

def begins (r : LineRule) (line : Text) : Bool := r.words.any (·.isPrefixOf line)

def leading (source : String) (c : Char) (kind : Kind) : LineRule :=
  ⟨source, seq (word [c]) restOfLine, [[c]], kind⟩

structure Sound (r : LineRule) : Prop where
  node : nodeOf .standard r.source = .ok r.node
  fits : r.node.fits = true
  short : ∃ k, r.node.minLength = some k ∧ ∀ w ∈ r.words, k ≤ w.size + 1
  takes : r.node.TakesLine r.words

def all : List LineRule :=
  [leading " .*\\n" ' ' ⟨["Text"]⟩, leading "\\+.*\\n" '+' ⟨["Generic", "Inserted"]⟩,
    leading "-.*\\n" '-' ⟨["Generic", "Deleted"]⟩, leading "!.*\\n" '!' ⟨["Generic", "Strong"]⟩,
    leading "@.*\\n" '@' ⟨["Generic", "Subheading"]⟩,
    ⟨"([Ii]ndex|diff).*\\n",
      seq (group 1 (alt (seq (set ⟨[(0x49, 0x49), (0x69, 0x69)]⟩) (word "ndex".toList))
        (word "diff".toList))) restOfLine,
      ["Index".toList, "index".toList, "diff".toList], ⟨["Generic", "Heading"]⟩⟩,
    leading "=.*\\n" '=' ⟨["Generic", "Heading"]⟩,
    ⟨".*\\n", restOfLine, [[]], ⟨["Text"]⟩⟩]

theorem takesLine_leading (source : String) {c : Char} (hc : '\n' ≠ c) (kind : Kind) :
    (leading source c kind).node.TakesLine (leading source c kind).words :=
  (spells_word [c]).takesLine fun _ hw hmem =>
    hc (List.mem_singleton.1 (List.mem_singleton.1 hw ▸ hmem))

theorem takesLine_of_mem_all : ∀ r ∈ all, r.node.TakesLine r.words := by
  have hpair (e : Char) : (CharSet.mk [(0x49, 0x49), (0x69, 0x69)]).has e = true ↔
      e = 'I' ∨ e = 'i' := by
    rw [← Char.toNat_inj, ← Char.toNat_inj]
    simp only [CharSet.has, Unicode.Ranges.has, Bool.or_false, Bool.or_eq_true, Bool.and_eq_true,
      decide_eq_true_eq]
    change _ ↔ e.toNat = 73 ∨ e.toNat = 105
    omega
  have hheading := ((spells_pair (by decide) hpair "ndex".toList).alt
    (spells_word "diff".toList)).group 1
  simp only [all, List.forall_mem_cons]
  refine ⟨takesLine_leading _ (by decide) _, takesLine_leading _ (by decide) _,
    takesLine_leading _ (by decide) _, takesLine_leading _ (by decide) _,
    takesLine_leading _ (by decide) _, hheading.takesLine (by decide),
    takesLine_leading _ (by decide) _, takesLine_restOfLine, ?_⟩
  intro r hr
  cases hr

theorem sound_of_mem_all : ∀ r ∈ all, r.Sound := by
  have hread : ∀ r ∈ all, (nodeOf .standard r.source).toOption = some r.node ∧
      r.node.fits = true ∧
      (r.node.minLength.any fun k => r.words.all fun w => k ≤ w.size + 1) = true := by
    decide +kernel
  intro r hr
  obtain ⟨hnode, fits, hshort⟩ := hread r hr
  obtain ⟨k, hk, hwords⟩ := (Option.any_eq_true _ _).1 hshort
  refine ⟨?_, fits, ⟨k, hk, fun w hw => of_decide_eq_true (List.all_eq_true.1 hwords w hw)⟩,
    takesLine_of_mem_all r hr⟩
  cases hn : nodeOf .standard r.source with
  | error e =>
    rw [hn] at hnode
    cases hnode
  | ok n =>
    rw [hn] at hnode
    exact congrArg Except.ok (Option.some.inj hnode)

variable {r : LineRule} {rs : List LineRule} {line more : Text} {s : Spot}

theorem Sound.matchAt_entry (h : r.Sound) (text : Text) (hs : s.InLine line more) :
    (r.entry.matchAt .standard text s).map Match.span =
      if r.begins line then some ⟨s.offset, s.offset + line.size + 1⟩ else none := by
  obtain ⟨k, hk, hwords⟩ := h.short
  obtain ⟨p, hp, hmatch⟩ := exists_compile_of_takesLine h.node h.fits hk hwords h.takes
  have hentry : r.entry.matchAt .standard text s = p.matchAt text s := by
    rw [Entry.matchAt, entry, Entry.pattern?, Option.bind_some, hp]
    rfl
  rw [hentry]
  exact hmatch text s line more hs

theorem firstEntry_eq (hrs : ∀ r ∈ rs, r.Sound) (text : Text) (hs : s.InLine line more) :
    (firstEntry .standard text s (rs.map entry)).map (fun p => (p.1, p.2.span)) =
      (rs.find? (·.begins line)).map fun r =>
        (r.entry, ⟨s.offset, s.offset + line.size + 1⟩) := by
  induction rs with
  | nil => rfl
  | cons r rs ih =>
    obtain ⟨hr, hrs⟩ := List.forall_mem_cons.1 hrs
    have hmatch := hr.matchAt_entry text hs
    rw [List.map_cons, firstEntry_cons, List.find?_cons]
    cases hbegins : r.begins line with
    | true =>
      rw [hbegins, if_pos rfl] at hmatch
      obtain ⟨found, hfound, hspan⟩ := Option.map_eq_some_iff.1 hmatch
      rw [hfound, ← hspan]
      rfl
    | false =>
      rw [hbegins, if_neg Bool.false_ne_true, Option.map_eq_none_iff] at hmatch
      rw [hmatch, Option.map_none, Option.none_or]
      exact ih hrs

theorem not_begins_leading {source : String} {c d : Char} {kind : Kind} (hne : c ≠ d) :
    (leading source d kind).begins (c :: line) = false := by
  simp [begins, leading, List.isPrefixOf_cons_cons, Ne.symm hne]

theorem map_kind_find? (line : Text) :
    (all.find? (·.begins line)).map LineRule.kind = some (lineKind line) := by
  unfold lineKind
  split
  case h_1 | h_2 | h_3 | h_4 | h_5 => rfl
  case h_6 hplus hminus hbang hat hequals =>
    cases line with
    | nil => rfl
    | cons c line =>
      by_cases hblank : c = ' '
      · subst hblank
        rfl
      · have hne {d : Char} (h : ∀ rest, c :: line = d :: rest → False) : c ≠ d :=
          fun heq => h line (heq ▸ rfl)
        simp only [all, List.find?_cons, not_begins_leading hblank,
          not_begins_leading (hne hplus), not_begins_leading (hne hminus),
          not_begins_leading (hne hbang), not_begins_leading (hne hat),
          not_begins_leading (hne hequals)]
        change Option.map kind (match (["Index", "index", "diff"].any fun w =>
          w.toList.isPrefixOf (c :: line)) with | true => some _ | false => some _) = _
        cases ["Index", "index", "diff"].any fun w => w.toList.isPrefixOf (c :: line) <;> rfl

end LineRule

namespace Grammar

theorem definitions_differences :
    differences.definitions = [⟨"root", LineRule.all.map LineRule.entry⟩] := rfl

theorem expands_entries (g : Grammar) (rs : List LineRule) :
    g.Expands (rs.map LineRule.entry) (rs.map LineRule.entry) := by
  induction rs with
  | nil => exact .nil
  | cons r rs ih => exact .rule ih

theorem rule_of_carries {s : Scope} {r : LineRule} {rule : Rule} (h : s.Carries r.entry rule) :
    rule.action = some (.kind r.kind) ∧ rule.edits = [] := by
  unfold Scope.Carries at h
  generalize hpart : [Line.rule rule] = part at h
  cases Scope.resolves_of_lines h with
  | rule pattern action edits =>
    cases hpart
    cases action
    cases edits
    exact ⟨rfl, rfl⟩

variable {m : Machine} {same : Stack StateRef → Stack StateRef → Bool} {nested : Nested}
  {before line more : Text}

theorem exists_carries (built : differences.build false = .ok m) :
    ∃ s : Scope, s.mode = .standard ∧
      List.Forall₂ s.Carries (LineRule.all.map LineRule.entry) (m.named m.root).rules := by
  obtain ⟨lines, rules, hm⟩ := Machine.exists_of_build built
  have hroot : m.root = 0 := Option.some.inj (hm.root.symm.trans rfl)
  obtain ⟨es, rs, hstate, hes, hcarries⟩ := hm.exists_state (i := 0)
    (congrArg (·[0]?) definitions_differences)
  obtain rfl := hes.unique (expands_entries differences LineRule.all)
  refine ⟨differences.scope m.root false, rfl, ?_⟩
  rw [hroot, Machine.named, hstate, Option.getD_some]
  exact hroot ▸ hcarries

theorem firstMatch_of_inLine (built : differences.build false = .ok m) {c : Cursor StateRef}
    (top : c.stack.top = .named m.root)
    (hline : (Spot.ofText c.text c.pos c.stop).InLine line more) :
    ∃ rule found, m.firstMatch c = some (rule, found) ∧
      found.span = ⟨c.pos, c.pos + line.size + 1⟩ ∧
      rule.action = some (.kind (lineKind line)) ∧ rule.edits = [] := by
  obtain ⟨s, hmode, hcarries⟩ := exists_carries built
  have hfirst := LineRule.firstEntry_eq LineRule.sound_of_mem_all c.text hline
  obtain ⟨r, hr, hkind⟩ := Option.map_eq_some_iff.1 (LineRule.map_kind_find? line)
  rw [hr, Option.map_some] at hfirst
  obtain ⟨⟨e, found⟩, hfound, heq⟩ := Option.map_eq_some_iff.1 hfirst
  obtain ⟨rfl, hspan⟩ := Prod.mk.inj heq
  obtain ⟨rule, -, hrule⟩ := exists_of_forall₂ hcarries
    (List.mem_map_of_mem (List.mem_of_find?_eq_some hr))
  obtain ⟨action, edits⟩ := rule_of_carries hrule
  refine ⟨rule, found, ?_, hspan, hkind ▸ action, edits⟩
  change firstRule c.text (Spot.ofText c.text c.pos c.stop) (m.state c.stack.top).rules = _
  rw [top]
  change firstRule c.text (Spot.ofText c.text c.pos c.stop) (m.named m.root).rules = _
  rw [Scope.firstRule_of_carries hcarries, hmode, hfound, Option.bind_some,
    Scope.rule?_of_carries hrule]
  rfl

def atRoot (m : Machine) (before left : Text) : Config :=
  ⟨⟨before ++ left, before.size, (before ++ left).size, .single (.named m.root)⟩, 0⟩

theorem sound_atRoot (m : Machine) (before left : Text) : (atRoot m before left).Sound := by
  refine ⟨⟨⟨before, left, rfl, rfl⟩, Text.boundary_size _, ?_⟩, Nat.zero_le _⟩
  rw [atRoot, Text.size_append]
  exact Nat.le_add_right _ _

theorem go_atRoot (m : Machine) (before line more : Text) :
    (atRoot m before (line ++ ['\n'] ++ more)).cursor.atEnd = false := by
  refine decide_eq_false (Nat.not_le.2 ?_)
  simp only [atRoot, Text.size_append, Text.size_cons]
  have hone : '\n'.utf8Size = 1 := rfl
  omega

theorem size_ended (line : Text) : Text.size (line ++ ['\n']) = line.size + 1 := by
  rw [Text.size_append]
  rfl

theorem inLine_atRoot (unbroken : '\n' ∉ line) :
    (Spot.ofText (before ++ (line ++ ['\n'] ++ more)) before.size
      (before ++ (line ++ ['\n'] ++ more)).size).InLine line more := by
  refine ⟨?_, unbroken, ?_⟩
  · refine (split_snd none _ _).trans ((Text.skip_append _ _).trans ?_)
    rw [List.append_assoc, List.singleton_append]
  · change before.size + line.size + 1 ≤ (before ++ (line ++ ['\n'] ++ more)).size
    rw [Text.size_append, Text.size_append, size_ended]
    omega

theorem step_of_line (built : differences.build false = .ok m) (unbroken : '\n' ∉ line) :
    m.step same nested (atRoot m before (line ++ ['\n'] ++ more)) =
      (atRoot m (before ++ (line ++ ['\n'])) more,
        [⟨before.size, lineKind line, line ++ ['\n']⟩]) := by
  have hsound := sound_atRoot m before (line ++ ['\n'] ++ more)
  obtain ⟨rule, found, hfirst, hspan, haction, hedits⟩ := firstMatch_of_inLine built
    (c := (atRoot m before (line ++ ['\n'] ++ more)).cursor) rfl (inLine_atRoot unbroken)
  have hstop : found.span.stop = (before ++ (line ++ ['\n'])).size := by
    rw [hspan, Text.size_append, size_ended]
    rfl
  have htext : before ++ (line ++ ['\n'] ++ more) = before ++ (line ++ ['\n']) ++ more :=
    (List.append_assoc _ _ _).symm
  have hwithin := Machine.firstMatch_within hfirst hsound.valid (go_atRoot m before line more)
  have hempty : found.span.isEmpty = false := by
    rw [hspan]
    exact decide_eq_false (Nat.not_le.2 (Nat.lt_succ_of_le (Nat.le_add_right _ _)))
  have hcursor : (atRoot m before (line ++ ['\n'] ++ more)).cursor.setPos found.span.stop =
      (atRoot m (before ++ (line ++ ['\n'])) more).cursor := by
    have hpos := Cursor.pos_setPos hwithin.boundary hwithin.stop_le
    change { (atRoot m before (line ++ ['\n'] ++ more)).cursor with
      pos := ((atRoot m before (line ++ ['\n'] ++ more)).cursor.setPos found.span.stop).pos } = _
    rw [hpos, hstop]
    simp only [atRoot, htext]
  have hslice : found.input.slice found.span = line ++ ['\n'] := by
    rw [hwithin.input, hspan]
    change Text.slice _ ⟨before.size, before.size + line.size + 1⟩ = _
    rw [Nat.add_assoc, ← size_ended]
    exact Text.slice_append before (line ++ ['\n']) more
  rw [Machine.step, hfirst]
  simp only [Machine.apply, haction, hempty, hedits, Bool.false_eq_true, if_false]
  change (Config.mk ((atRoot m before (line ++ ['\n'] ++ more)).cursor.setPos found.span.stop) 0,
    [Token.mk found.span.start (lineKind line) (found.input.slice found.span)]) = _
  rw [hcursor, hslice, hspan]
  rfl

theorem runTokens_of_lines (built : differences.build false = .ok m) {lines : List Text}
    (unbroken : ∀ line ∈ lines, '\n' ∉ line) (before : Text) :
    m.runTokens same nested (atRoot m before (lines.flatMap (· ++ ['\n']))) =
      lineTokens before.size lines := by
  induction lines generalizing before with
  | nil =>
    refine Machine.runTokens_of_atEnd (decide_eq_true ?_)
    simp only [atRoot, List.flatMap_nil, List.append_nil]
    exact Nat.le_refl _
  | cons line lines ih =>
    obtain ⟨hline, hlines⟩ := List.forall_mem_cons.1 unbroken
    have hgo := go_atRoot m before line (lines.flatMap (· ++ ['\n']))
    rw [List.flatMap_cons, Machine.runTokens_of_go (sound_atRoot _ _ _) hgo,
      Machine.advance_of_go hgo, step_of_line built hline, ih hlines, Text.size_append, size_ended]
    rfl

theorem splitOn_lines {lines : List Text} (unbroken : ∀ line ∈ lines, '\n' ∉ line) :
    (lines.flatMap (· ++ ['\n'])).splitOn '\n' = lines ++ [[]] := by
  induction lines with
  | nil => rfl
  | cons line lines ih =>
    obtain ⟨hline, hlines⟩ := List.forall_mem_cons.1 unbroken
    have hsplit : (line ++ '\n' :: lines.flatMap (· ++ ['\n'])).splitOn '\n' =
        line.splitOn '\n' ++ (lines.flatMap (· ++ ['\n'])).splitOn '\n' :=
      List.splitOn_append_cons_of_beq _ _ rfl
    rw [List.flatMap_cons, List.append_assoc, List.singleton_append, hsplit,
      List.splitOn_eq_singleton hline, ih hlines]
    rfl

theorem exists_lines {t : Text} (h : t = [] ∨ t.getLast? = some '\n') :
    ∃ lines : List Text, (∀ line ∈ lines, '\n' ∉ line) ∧ lines.flatMap (· ++ ['\n']) = t := by
  induction t with
  | nil => exact ⟨[], List.forall_mem_nil _, rfl⟩
  | cons c t ih =>
    have hclosed : (c :: t).getLast? = some '\n' := h.resolve_left (List.cons_ne_nil c t)
    by_cases hc : c = '\n'
    · subst hc
      have hrest : t = [] ∨ t.getLast? = some '\n' := by
        cases t with
        | nil => exact .inl rfl
        | cons d t => exact .inr hclosed
      obtain ⟨lines, unbroken, rfl⟩ := ih hrest
      exact ⟨[] :: lines, List.forall_mem_cons.2 ⟨List.not_mem_nil, unbroken⟩, rfl⟩
    · cases t with
      | nil => exact absurd (Option.some.inj hclosed) hc
      | cons d t =>
        obtain ⟨lines, unbroken, heq⟩ := ih (.inr hclosed)
        cases lines with
        | nil => cases heq
        | cons line lines =>
          obtain ⟨hline, hlines⟩ := List.forall_mem_cons.1 unbroken
          refine ⟨(c :: line) :: lines, List.forall_mem_cons.2 ⟨?_, hlines⟩, ?_⟩
          · rw [List.mem_cons, not_or]
            exact ⟨Ne.symm hc, hline⟩
          · rw [← heq]
            rfl

theorem linesOf_spec {t : Text} (h : t = [] ∨ t.getLast? = some '\n') :
    (∀ line ∈ linesOf t, '\n' ∉ line) ∧ (linesOf t).flatMap (· ++ ['\n']) = t := by
  obtain ⟨lines, unbroken, rfl⟩ := exists_lines h
  rw [linesOf, splitOn_lines unbroken, List.dropLast_concat]
  exact ⟨unbroken, rfl⟩

theorem lineKind_ne_error (line : Text) : lineKind line ≠ .error := by
  unfold lineKind
  split
  case h_6 => split <;> decide
  all_goals decide

theorem kind_ne_error_of_mem {offset : Nat} {lines : List Text} {token : Token}
    (h : token ∈ lineTokens offset lines) : token.kind ≠ .error := by
  induction lines generalizing offset with
  | nil => cases h
  | cons line lines ih =>
    rcases List.mem_cons.1 h with rfl | h
    · exact lineKind_ne_error line
    · exact ih h

/-- The lexer for differences makes one token of each line, of the kind that its beginning decides,
and no error. What is prepared with a newline ensured is a text of such lines. -/
theorem tokens_differences : ∃ m, differences.build false = .ok m ∧
    (∀ c, Catalogue.addGrammar c Catalogue.differencesInfo differences =
      .ok (c.register ⟨Catalogue.differencesInfo, m.toLexer⟩)) ∧
    (∀ t : Text, t = [] ∨ t.getLast? = some '\n' →
      (∀ line ∈ linesOf t, '\n' ∉ line) ∧ (linesOf t).flatMap (· ++ ['\n']) = t ∧
      m.tokens t = lineTokens 0 (linesOf t) ∧ ∀ token ∈ m.tokens t, token.kind ≠ .error) ∧
    ∀ (o : Options) (t : Text), o.ensureNewline = true →
      (o.prepare t).text.getLast? = some '\n' := by
  obtain ⟨m, built⟩ := exists_of_isOk
    (by decide +kernel : (differences.build false).isOk = true)
  refine ⟨m, built, fun c => ?_, fun t h => ?_, fun o t => (Options.getLast?_prepare · t)⟩
  · rw [Catalogue.addGrammar, built]
    rfl
  · obtain ⟨unbroken, joined⟩ := linesOf_spec h
    have hrun : m.runTokens Stack.sameShape m.nested
        (atRoot m [] ((linesOf t).flatMap (· ++ ['\n']))) = lineTokens 0 (linesOf t) :=
      runTokens_of_lines built unbroken []
    rw [joined] at hrun
    have htokens : m.tokens t = lineTokens 0 (linesOf t) := hrun
    refine ⟨unbroken, joined, htokens, fun token hmem => ?_⟩
    rw [htokens] at hmem
    exact kind_ne_error_of_mem hmem

/-- Neither a carriage return nor a tab ends a line, and an empty line is one too. -/
theorem tokens_differences_index : ∃ m, differences.build false = .ok m ∧
    m.tokens "index é\r\n\n+\t\n".toList =
      [⟨0, ⟨["Generic", "Heading"]⟩, "index é\r\n".toList⟩, ⟨10, .text, ['\n']⟩,
        ⟨11, ⟨["Generic", "Inserted"]⟩, "+\t\n".toList⟩] := by
  obtain ⟨m, built, -, htokens, -⟩ := tokens_differences
  exact ⟨m, built, (htokens _ (.inr rfl)).2.2.1⟩

end Grammar

end Lexing
