import Lexing.Proofs.Except
import Lexing.Proofs.Pattern.Choice

/-!
# Patterns that take a line

The end of such a pattern is a loop over everything but newlines, and a newline. Before a line there
is one way to match it: the loop goes to the newline, and none of the shorter runs is followed by
one. What the pattern begins with only decides whether it matches, so the best end is the end of the
line if the line begins with one of some words.
-/
set_option autoImplicit false

namespace Lexing.Pattern

structure Spot.InLine (s : Spot) (line more : Text) : Prop where
  rest : s.rest = line ++ '\n' :: more
  unbroken : '\n' ∉ line
  le : s.offset + line.size + 1 ≤ s.limit

def Spot.behindLine (s : Spot) (line more : Text) : Spot :=
  ⟨some '\n', more, s.offset + line.size + 1, s.limit⟩

def notNewline : CharSet := .complement ⟨[(0x0A, 0x0A)]⟩

theorem has_notNewline (c : Char) : notNewline.has c = true ↔ c ≠ '\n' := by
  have hranges : notNewline.ranges = [(0, 9), (11, 0xD7FF), (0xE000, 0x10FFFF)] := by decide
  have hnewline : c = '\n' ↔ c.toNat = 10 := Char.toNat_inj.symm
  have hvalid := c.valid
  simp only [UInt32.isValidChar, Nat.isValidChar] at hvalid
  change c.toNat < 0xD800 ∨ 0xDFFF < c.toNat ∧ c.toNat < 0x110000 at hvalid
  rw [Ne, hnewline, CharSet.has, hranges]
  simp only [Unicode.Ranges.has, Bool.or_false, Bool.or_eq_true, Bool.and_eq_true,
    decide_eq_true_eq]
  omega

namespace Node

def restOfLine : Node := .seq (.loop 0 none true (.set notNewline)) (.word ['\n'])

/-- The node matches some words and nothing else, the earlier ones first. -/
def Spells (n : Node) (ws : List Text) : Prop :=
  n.LoopsOverSets ∧ ∀ s, n.ends s = ws.flatMap fun w => (s.past? w).toList

/-- In a line that begins with one of the words the best end is behind the line, and in any other
there is none. -/
def TakesLine (n : Node) (ws : List Text) : Prop :=
  n.LoopsOverSets ∧ ∀ s line more, s.InLine line more →
    (n.ends s).head? = if ws.any (·.isPrefixOf line) then some (s.behindLine line more) else none

variable {s : Spot} {line more w : Text} {ws : List Text} {m n : Node}

theorem next?_of_inLine {c : Char} (h : s.InLine (c :: line) more) :
    ∃ s', s.next? = some s' ∧ s'.InLine line more ∧
      s'.behindLine line more = s.behindLine (c :: line) more := by
  obtain ⟨last, rest, offset, limit⟩ := s
  obtain ⟨rfl, unbroken, le⟩ := h
  simp only [Text.size_cons] at le
  have hfits : ¬ limit < offset + c.utf8Size := by omega
  refine ⟨⟨some c, line ++ '\n' :: more, offset + c.utf8Size, limit⟩, if_neg hfits,
    ⟨rfl, fun hmem => unbroken (List.mem_cons_of_mem c hmem), ?_⟩, ?_⟩
  · simp only
    omega
  · simp only [Spot.behindLine, Text.size_cons, Nat.add_assoc]

theorem past?_newline (h : s.InLine [] more) : s.past? ['\n'] = some (s.behindLine [] more) := by
  obtain ⟨last, rest, offset, limit⟩ := s
  obtain ⟨rfl, -, le⟩ := h
  have hone : '\n'.utf8Size = 1 := rfl
  have hfits : ¬ limit < offset + 1 := Nat.not_lt.2 le
  simp [Spot.past?, Spot.next?, Spot.behindLine, hone, hfits]

theorem past?_newline_of_cons {c : Char} (h : s.InLine (c :: line) more) :
    s.past? ['\n'] = none := by
  have hne : s.rest.head? ≠ some '\n' := by
    rw [h.rest]
    intro heq
    obtain rfl := Option.some.inj heq
    exact h.unbroken List.mem_cons_self
  exact if_neg hne

/-- Only the longest run is followed by a newline. -/
theorem ends_restOfLine (h : s.InLine line more) :
    restOfLine.ends s = [s.behindLine line more] := by
  change (s.runs notNewline).flatMap (fun s' => (s'.past? ['\n']).toList) = _
  induction line generalizing s with
  | nil =>
    have hruns : s.runs notNewline = [s] := by
      obtain ⟨last, rest, offset, limit⟩ := s
      obtain ⟨rfl, -, -⟩ := h
      have hnot : ¬ (notNewline.has '\n' = true ∧ offset + '\n'.utf8Size ≤ limit) :=
        fun hc => (has_notNewline _).1 hc.1 rfl
      change ite _ _ _ ++ _ = _
      rw [if_neg hnot]
      rfl
    rw [hruns, List.flatMap_singleton, past?_newline h]
    rfl
  | cons c line ih =>
    obtain ⟨s', hnext, hline, hbehind⟩ := next?_of_inLine h
    have hruns : s.runs notNewline = s'.runs notNewline ++ [s] := by
      obtain ⟨last, rest, offset, limit⟩ := s
      obtain ⟨rfl, hbroken, le⟩ := h
      simp only [Text.size_cons] at le
      have hfits : notNewline.has c = true ∧ offset + c.utf8Size ≤ limit := by
        refine ⟨(has_notNewline c).2 ?_, by omega⟩
        rintro rfl
        exact hbroken List.mem_cons_self
      obtain rfl := Option.some.inj ((if_neg (Nat.not_lt.2 hfits.2)).symm.trans hnext)
      change ite _ _ _ ++ _ = _
      rw [if_pos hfits]
      rfl
    rw [hruns, List.flatMap_append, ih hline, List.flatMap_singleton, past?_newline_of_cons h,
      hbehind]
    rfl

theorem ends_past? (h : s.InLine line more) (hw : '\n' ∉ w) :
    (s.past? w).toList.flatMap restOfLine.ends =
      if w.isPrefixOf line then [s.behindLine line more] else [] := by
  induction w generalizing s line with
  | nil =>
    rw [Spot.past?, Option.toList_some, List.flatMap_singleton, ends_restOfLine h]
    rfl
  | cons d w ih =>
    rw [List.mem_cons, not_or] at hw
    cases line with
    | nil =>
      have hne : ¬ s.rest.head? = some d := by
        rw [h.rest]
        exact fun heq => hw.1 (Option.some.inj heq)
      rw [Spot.past?, if_neg hne]
      rfl
    | cons c line =>
      have hhead : s.rest.head? = some d ↔ c = d := by
        rw [h.rest]
        exact Option.some_inj
      by_cases hcd : c = d
      · obtain ⟨s', hnext, hline, hbehind⟩ := next?_of_inLine h
        subst hcd
        rw [Spot.past?, if_pos (hhead.2 rfl), hnext, Option.bind_some, ih hline hw.2, hbehind,
          List.isPrefixOf_cons_cons_self]
      · rw [Spot.past?, if_neg (mt hhead.1 hcd), List.isPrefixOf_cons_cons]
        simp [Ne.symm hcd]

theorem spells_word (w : Text) : (word w).Spells [w] :=
  ⟨trivial, fun _ => (List.flatMap_singleton _ _).symm⟩

theorem Spells.group (h : n.Spells ws) (i : Nat) : (group i n).Spells ws := h

theorem Spells.alt {vs : List Text} (h : m.Spells vs) (h' : n.Spells ws) :
    (alt m n).Spells (vs ++ ws) := by
  refine ⟨⟨h.1, h'.1⟩, fun s => ?_⟩
  rw [ends, h.2, h'.2, List.flatMap_append]

theorem spells_pair {x : CharSet} {c d : Char} (hcd : c ≠ d)
    (hx : ∀ e, x.has e = true ↔ e = c ∨ e = d) (w : Text) :
    (seq (set x) (word w)).Spells [c :: w, d :: w] := by
  refine ⟨⟨trivial, trivial⟩, fun s => ?_⟩
  have hset : (set x).ends s = if s.rest.head?.any x.has then s.next?.toList else [] := rfl
  have hpast (e : Char) : (s.past? (e :: w)).toList =
      if s.rest.head? = some e then s.next?.toList.flatMap (word w).ends else [] := by
    rw [Spot.past?]
    split
    · cases s.next? with
      | none => rfl
      | some s' => exact (List.flatMap_singleton _ _).symm
    · rfl
  rw [ends, hset, List.flatMap_cons, List.flatMap_singleton, hpast, hpast]
  cases hhead : s.rest.head? with
  | none => rfl
  | some e =>
    by_cases hc : e = c
    · subst hc
      simp [(hx e).2 (.inl rfl), hcd]
    · by_cases hd : e = d
      · subst hd
        simp [(hx e).2 (.inr rfl), hc]
      · simp [hx, hc, hd]

theorem takesLine_restOfLine : restOfLine.TakesLine [[]] :=
  ⟨⟨trivial, trivial⟩, fun _ _ _ h => congrArg List.head? (ends_restOfLine h)⟩

theorem Spells.takesLine (h : n.Spells ws) (hws : ∀ w ∈ ws, '\n' ∉ w) :
    (seq n restOfLine).TakesLine ws := by
  have hhead (s : Spot) (line more : Text) (hs : s.InLine line more) :
      (ws.flatMap fun w => (s.past? w).toList.flatMap restOfLine.ends).head? =
        if ws.any (·.isPrefixOf line) then some (s.behindLine line more) else none := by
    clear h
    induction ws with
    | nil => rfl
    | cons w ws ih =>
      obtain ⟨hw, hws⟩ := List.forall_mem_cons.1 hws
      rw [List.flatMap_cons, ends_past? hs hw, List.any_cons, List.head?_append, ih hws]
      cases w.isPrefixOf line <;> rfl
  refine ⟨⟨h.1, takesLine_restOfLine.1⟩, fun s line more hs => ?_⟩
  rw [ends, h.2, List.flatMap_assoc]
  exact hhead s line more hs

end Node

variable {mode : PatternMode} {source : String} {n : Node} {ws : List Text}

def nodeOf (mode : PatternMode) (source : String) : Except Error Node := do
  let e ← Expr.read mode.ignoreBlanks source.toList
  let (n, _) ← e.lower mode.flags
  return n

theorem compile_of_nodeOf {k : Nat} (hnode : nodeOf mode source = .ok n) (fits : n.fits = true)
    (hk : n.minLength = some k) : Pattern.compile mode source =
      .ok ⟨source, some k, n.maxLength, n.lastGroup, .automaton n.automaton⟩ := by
  obtain ⟨e, hread, hnode⟩ := bind_eq_ok.1 hnode
  obtain ⟨⟨n', fs⟩, hlower, hnode⟩ := bind_eq_ok.1 hnode
  obtain rfl := Except.ok.inj hnode
  have hprogram : Program.ofNode n' = .ok (.automaton n'.automaton) := by
    unfold Program.ofNode
    rw [fits, hk]
    rfl
  refine bind_eq_ok.2 ⟨e, hread, bind_eq_ok.2 ⟨(n', fs), hlower, ?_⟩⟩
  refine bind_eq_ok.2 ⟨_, hprogram, ?_⟩
  rw [hk]
  rfl

/-- Compiled, the pattern matches where a line begins with one of the words, and takes the line. The
bound on its length never keeps it from that. -/
theorem exists_compile_of_takesLine {k : Nat} (hnode : nodeOf mode source = .ok n)
    (fits : n.fits = true) (hk : n.minLength = some k) (hws : ∀ w ∈ ws, k ≤ w.size + 1)
    (takes : n.TakesLine ws) :
    ∃ p, Pattern.compile mode source = .ok p ∧
      ∀ (t : Text) (s : Spot) (line more : Text), s.InLine line more →
        (p.matchAt t s).map Match.span =
          if ws.any (·.isPrefixOf line) then some ⟨s.offset, s.offset + line.size + 1⟩
          else none := by
  refine ⟨_, compile_of_nodeOf hnode fits hk, fun t s line more hs => ?_⟩
  have hsearch : (n.automaton.search s).map Automaton.Found.stop =
      if ws.any (·.isPrefixOf line) then some (s.offset + line.size + 1) else none := by
    rw [Automaton.search_automaton takes.1, takes.2 s line more hs]
    split <;> rfl
  have hlong : ws.any (·.isPrefixOf line) = true → ¬ s.limit < s.offset + k := by
    intro hany
    obtain ⟨w, hw, hprefix⟩ := List.any_eq_true.1 hany
    obtain ⟨rest, rfl⟩ := List.isPrefixOf_iff_prefix.1 hprefix
    have hle := hs.le
    have hkw := hws w hw
    rw [Text.size_append] at hle
    omega
  rw [Pattern.matchAt, Option.getD_some]
  by_cases hshort : s.limit < s.offset + k
  · rw [if_pos hshort, if_neg fun hany => hlong hany hshort]
    rfl
  · rw [if_neg hshort, Option.map_map]
    change (n.automaton.search s).map (Span.mk s.offset ∘ Automaton.Found.stop) = _
    rw [← Option.map_map, hsearch]
    split <;> rfl

end Lexing.Pattern
