import Lexing.Pattern.Basic
import Lexing.Proofs.Text.Boundary

/-!
# What a match takes

Whatever the program of a pattern is, a match takes whole characters from its place on, and none
beyond the limit.
-/
set_option autoImplicit false

namespace Lexing.Pattern

def Spot.Reaches (s : Spot) (stop : Nat) : Prop :=
  ∃ taken left : Text, s.rest = taken ++ left ∧ stop = s.offset + taken.size ∧ stop ≤ s.limit

namespace Automaton

theorem best_or_here {matched : Option (List Passage)} {best : Option Found} {offset : Nat}
    {f : Found}
    (h : (match matched with | some passed => some ⟨offset, passed⟩ | none => best) = some f) :
    best = some f ∨ f.stop = offset := by
  cases matched with
  | none => exact .inl h
  | some passed =>
    obtain rfl := Option.some.inj h
    exact .inr rfl

theorem map_stop_best {matched : Option (List Passage)} {best : Option Found} {offset : Nat} :
    Option.map Found.stop
        (match matched with | some passed => some ⟨offset, passed⟩ | none => best) =
      (matched.map fun _ => offset).or (best.map Found.stop) := by
  cases matched <;> rfl

theorem advance_reaches (a : Automaton) {limit : Nat} {met : Visits} {ts : List Thread}
    {best : Option Found} {last : Option Char} {offset : Nat} {rest : Text} {f : Found}
    (h : a.advance limit met ts best last offset rest = some f) (hl : offset ≤ limit) :
    best = some f ∨ Spot.Reaches ⟨last, rest, offset, limit⟩ f.stop := by
  induction rest generalizing met ts best last offset with
  | nil =>
    rcases best_or_here h with hb | hstop
    · exact .inl hb
    · exact .inr ⟨[], [], rfl, hstop, hstop ▸ hl⟩
  | cons c rest ih =>
    have hbest {matched : Option (List Passage)}
        (h' : (match matched with | some passed => some ⟨offset, passed⟩ | none => best) = some f) :
        best = some f ∨ Spot.Reaches ⟨last, c :: rest, offset, limit⟩ f.stop :=
      (best_or_here h').imp_right fun hstop => ⟨[], c :: rest, rfl, hstop, hstop ▸ hl⟩
    simp only [advance] at h
    split at h
    · exact hbest h
    · rename_i hgo
      simp only [Bool.or_eq_true, decide_eq_true_eq, not_or, Nat.not_lt] at hgo
      rcases ih h hgo.2 with hk | ⟨taken, left, hr, hs, hle⟩
      · exact hbest hk
      · refine .inr ⟨c :: taken, left, congrArg (c :: ·) hr, ?_, hle⟩
        simp only at hs
        rw [hs, Text.size_cons, Nat.add_assoc]

theorem search_reaches (a : Automaton) {s : Spot} {f : Found} (h : a.search s = some f)
    (hl : s.offset ≤ s.limit) : s.Reaches f.stop := by
  rcases a.advance_reaches h hl with hb | hr
  · cases hb
  · exact hr

end Automaton

theorem beginsWith_append {w : List UInt8} {t : Text} (h : Program.beginsWith w t = true) :
    ∃ taken left : Text, t = taken ++ left ∧ w.length = taken.size := by
  induction t generalizing w with
  | nil =>
    simp only [Program.beginsWith, List.isEmpty_iff] at h
    subst h
    exact ⟨[], [], rfl, rfl⟩
  | cons c t ih =>
    simp only [Program.beginsWith, Bool.or_eq_true, List.isEmpty_iff, Bool.and_eq_true,
      List.isPrefixOf_iff_prefix] at h
    rcases h with rfl | ⟨⟨v, rfl⟩, hrest⟩
    · exact ⟨[], c :: t, rfl, rfl⟩
    · rw [List.drop_left] at hrest
      obtain ⟨taken, left, rfl, hlen⟩ := ih hrest
      refine ⟨c :: taken, left, rfl, ?_⟩
      rw [List.length_append, String.length_utf8EncodeChar, hlen, Text.size_cons]

theorem length_of_isLookup {ws : List (List UInt8)} {w : List UInt8}
    (h : Program.isLookup ws = true) (hw : w ∈ ws) : w.length = 1 := by
  simp only [Program.isLookup, Bool.and_eq_true, List.all_eq_true, decide_eq_true_eq] at h
  exact h.1 w hw

/-- Words that are looked up are single bytes, so they do not pass a limit ahead. -/
theorem search_reaches (p : Program) {s : Spot} {f : Automaton.Found} (h : p.search s = some f)
    (hl : s.offset < s.limit) : s.Reaches f.stop := by
  cases p with
  | automaton a => exact a.search_reaches h (Nat.le_of_lt hl)
  | words ws =>
    obtain ⟨w, hw, rfl⟩ := Option.map_eq_some_iff.1 h
    have hmem := List.mem_of_find?_eq_some hw
    have hfound := List.find?_some hw
    simp only [Bool.and_eq_true, Bool.or_eq_true, decide_eq_true_eq] at hfound
    obtain ⟨taken, left, hr, hlen⟩ := beginsWith_append hfound.1
    refine ⟨taken, left, hr, by rw [hlen], ?_⟩
    rcases hfound.2 with hlook | hle
    · rw [length_of_isLookup hlook hmem]
      exact hl
    · exact hle

theorem split_snd (last : Option Char) (t : Text) (p : Nat) : (t.split last p).2 = t.skip p := by
  induction t generalizing last p with
  | nil => rfl
  | cons c t ih =>
    simp only [Text.split, Text.skip]
    split
    · rfl
    · exact ih _ _

structure Within (t : Text) (start stop : Nat) (found : Match) : Prop where
  input : found.input = t
  start_eq : found.span.start = start
  boundary : t.Boundary found.span.stop
  le : start ≤ found.span.stop
  stop_le : found.span.stop ≤ stop

theorem matchAt_within (p : Lexing.Pattern) {t : Text} {start stop : Nat} {found : Match}
    (h : p.matchAt t (Spot.ofText t start stop) = some found) (hs : t.Boundary start)
    (hlt : start < stop) : Within t start stop found := by
  simp only [Pattern.matchAt] at h
  split at h
  · cases h
  · obtain ⟨f, hf, rfl⟩ := Option.map_eq_some_iff.1 h
    obtain ⟨taken, left, hr, hstop, hle⟩ := search_reaches p.program hf hlt
    have hskip : t.skip start = taken ++ left := (split_snd none t start).symm.trans hr
    have hcut : Text.Boundary (t.slice ⟨start, t.size⟩) taken.size :=
      ⟨taken, left, by rw [← Text.skip_eq_slice hs, hskip], rfl⟩
    change f.stop = start + taken.size at hstop
    refine ⟨rfl, rfl, ?_, ?_, hle⟩
    · change t.Boundary f.stop
      rw [hstop]
      exact hs.of_slice t.boundary_size hs.le_size hcut
    · change start ≤ f.stop
      omega

theorem Automaton.search_done (s : Spot) : done.search s = some ⟨s.offset, []⟩ := by
  obtain ⟨last, rest, offset, limit⟩ := s
  cases rest with
  | nil => rfl
  | cons c rest => rfl

theorem program_of_compile {mode : PatternMode} {p : Lexing.Pattern}
    (h : Pattern.compile mode "" = .ok p) : p.program = .automaton .done := by
  obtain ⟨multiLine, ignoreCase, dotAll, ignoreBlanks⟩ := mode
  cases multiLine <;> cases ignoreCase <;> cases dotAll <;> cases ignoreBlanks <;>
    · cases h
      rfl

theorem isEmpty_of_matchAt {p : Lexing.Pattern} {t : Text} {s : Spot} {found : Match}
    (hp : p.program = .automaton .done) (h : p.matchAt t s = some found) :
    found.span.isEmpty = true := by
  simp only [Pattern.matchAt] at h
  split at h
  · cases h
  · obtain ⟨f, hf, rfl⟩ := Option.map_eq_some_iff.1 h
    rw [hp] at hf
    obtain rfl := Option.some.inj ((Automaton.search_done s).symm.trans hf)
    simp [Span.isEmpty]

/-- All that a run relies on of how a pattern is matched. Runs use these laws and nothing else of
the programs, so that another way to match needs them proved again and no more. -/
structure Laws (p : Lexing.Pattern) : Prop where
  within {t : Text} {start stop : Nat} {found : Match}
    (h : p.matchAt t (Spot.ofText t start stop) = some found) (hs : t.Boundary start)
    (hlt : start < stop) : Within t start stop found
  blank {mode : PatternMode} (written : Pattern.compile mode "" = .ok p) {t : Text} {s : Spot}
    {found : Match} (h : p.matchAt t s = some found) : found.span.isEmpty = true

theorem laws (p : Lexing.Pattern) : p.Laws where
  within h hs hlt := matchAt_within p h hs hlt
  blank written _ _ _ h := isEmpty_of_matchAt (program_of_compile written) h

end Lexing.Pattern
