import Lexing.Proofs.Machine.Origin
import Lexing.Proofs.Run.Nesting

/-!
# What a run tiles

The tokens of a run lie between where it began and where its last step came to. They tile that part
of the text exactly if every part that the run handed on is tiled. Whether the whole text is tiled
is then a matter of where the run stopped, and only a callback that moves the stop can make that
another place than the end.
-/
set_option autoImplicit false

namespace Lexing.Machine

variable {m : Machine} {same : Stack StateRef → Stack StateRef → Bool} {nested : Nested}
  {c : Config}

def last (m : Machine) (same : Stack StateRef → Stack StateRef → Bool) (nested : Nested)
    (c : Config) : Config :=
  m.after same nested c.stepBound c

theorem atEnd_last (m : Machine) (same : Stack StateRef → Stack StateRef → Bool)
    (nested : Nested) (h : c.Sound) : (m.last same nested c).cursor.atEnd = true :=
  atEnd_after m same nested h c.left_le

theorem last_leads (m : Machine) (same : Stack StateRef → Stack StateRef → Bool)
    (nested : Nested) (h : c.Sound) : c.cursor.Leads (m.last same nested c).cursor :=
  after_leads h.valid _

theorem last_of_atEnd (h : c.cursor.atEnd = true) : m.last same nested c = c := after_of_atEnd h _

theorem last_of_go (h : c.Sound) :
    m.last same nested c = m.last same nested (m.advance same nested c) := by
  have hend := atEnd_last m same nested h
  have hend' := atEnd_last m same nested (sound_advance m same nested h)
  have hlong : m.after same nested ((m.advance same nested c).stepBound + 1 + c.stepBound) c =
      m.last same nested c := after_of_le hend (Nat.le_add_left _ _)
  rw [← hlong, Nat.add_right_comm, after_succ]
  exact after_of_le hend' (Nat.le_add_right _ _)

/-- The run from a configuration hands a part of its text on. -/
def Hands (m : Machine) (same : Stack StateRef → Stack StateRef → Bool) (nested : Nested)
    (c : Config) (s : Span) (d : Delegate (Stack StateRef)) : Prop :=
  ∃ i, (m.after same nested i c).cursor.atEnd = false ∧
    (s, d) ∈ m.handed (m.after same nested i c).cursor

variable {s : Span} {d : Delegate (Stack StateRef)}

theorem not_hands_of_atEnd (h : c.cursor.atEnd = true) : ¬ m.Hands same nested c s d := by
  rintro ⟨i, hgo, _⟩
  rw [after_of_atEnd h, h] at hgo
  cases hgo

theorem hands_iff (hgo : c.cursor.atEnd = false) :
    m.Hands same nested c s d ↔
      (s, d) ∈ m.handed c.cursor ∨ m.Hands same nested (m.advance same nested c) s d := by
  constructor
  · rintro ⟨i, hi, hmem⟩
    cases i with
    | zero => exact .inl hmem
    | succ i => exact .inr ⟨i, hi, hmem⟩
  · rintro (hmem | ⟨i, hi, hmem⟩)
    · exact ⟨0, hgo, hmem⟩
    · exact ⟨i + 1, hi, hmem⟩

theorem Hands.inside (h : m.Hands same nested c s d) (hs : c.Sound) :
    s.Inside c.cursor.text 0 c.cursor.text.size := by
  obtain ⟨i, hgo, hmem⟩ := h
  have hl : c.cursor.Leads (m.after same nested i c).cursor := after_leads hs.valid i
  have hin := handed_inside hl.valid hgo hmem
  rw [hl.text] at hin
  exact ⟨hin.boundary_start, hin.boundary_stop, Nat.zero_le _, hin.lt, hin.boundary_stop.le_size⟩

theorem Hands.handsTo (h : m.Hands same nested c s d) : m.HandsTo d := by
  obtain ⟨i, _, hmem⟩ := h
  exact handsTo_of_handed hmem

theorem run_spec (quiet : m.Quiet) (h : c.Sound)
    (hplaced : ∀ s d, m.Hands same nested c s d →
      Placed c.cursor.text s.start s.stop (delegated nested c.cursor.text s d)) :
    Placed c.cursor.text c.cursor.pos (m.last same nested c).cursor.pos
        (m.runTokens same nested c) ∧
      (Tiles c.cursor.pos
          (c.cursor.text.slice ⟨c.cursor.pos, (m.last same nested c).cursor.pos⟩)
          (m.runTokens same nested c) ↔
        ∀ s d, m.Hands same nested c s d →
          Tiles s.start (c.cursor.text.slice s) (delegated nested c.cursor.text s d)) := by
  induction c, h using run_induction m same nested with
  | ended c _ hend =>
    rw [last_of_atEnd hend, runTokens_of_atEnd hend, Text.slice_self]
    exact ⟨Nat.le_refl _, fun _ s d hhands => absurd hhands (not_hands_of_atEnd hend),
      fun _ => tiles_nil _⟩
  | going c hs hgo ih =>
    have hnext : c.cursor.Leads (m.advance same nested c).cursor := advance_leads hs.valid
    have hend := last_leads m same nested (sound_advance m same nested hs)
    rw [← hnext.text] at hplaced ⊢
    obtain ⟨hrest, hrestIff⟩ := ih fun s d hhands => hplaced s d ((hands_iff hgo).2 (.inr hhands))
    rw [last_of_go hs, runTokens_of_go hs hgo]
    have hstep := step_spec m same nested hs.valid hgo
      fun s d hmem => hnext.text ▸ hplaced s d ((hands_iff hgo).2 (.inl hmem))
    rw [← advance_of_go hgo, ← hnext.text] at hstep
    obtain ⟨hfirst, hfirstIff⟩ := hstep
    refine ⟨hfirst.append hrest, ?_⟩
    rw [hfirst.tiles_append_iff (hnext.text ▸ hs.valid.pos) hnext.valid.pos
      (hend.text ▸ hend.valid.pos) hrest, hfirstIff quiet, hrestIff]
    constructor
    · rintro ⟨hthis, hthose⟩ s d hhands
      rcases (hands_iff hgo).1 hhands with hmem | hlater
      · exact hthis s d hmem
      · exact hthose s d hlater
    · intro hall
      exact ⟨fun s d hmem => hall s d ((hands_iff hgo).2 (.inl hmem)),
        fun s d hlater => hall s d ((hands_iff hgo).2 (.inr hlater))⟩

variable {g : Grammar} {steering : Bool}

theorem stop_arrive (built : g.build steering = .ok m) (keeps : g.KeepsStop)
    {c : Cursor StateRef} {rule : Rule} {found : Match}
    (first : m.firstMatch c = some (rule, found)) (hv : c.Valid) (hgo : c.atEnd = false) :
    (m.arrive c rule found).stop = c.stop := by
  rcases rule.steers_or with ⟨emit, hact⟩ | hns
  · have hmem := steer_of_rule built (firstMatch_spec first).1 hact
    have hedits : (c.editAll (fun name => (m.resolve name).toOption)
        (emit found (m.view c)).1).stop = c.stop :=
      Cursor.stop_editAll (keeps emit hmem found (m.view c))
    have hstart : found.start = c.pos := (firstMatch_within first hv hgo).start_eq
    have hle := hv.le
    simp only [arrive, hact, Cursor.stop_turn, steered, hstart, hedits]
    rw [if_neg (Nat.not_lt.2 hle)]
    split
    · exact hedits
    · exact hedits
  · rw [arrive_eq hns]
    rfl

theorem stop_step (built : g.build steering = .ok m) (keeps : g.KeepsStop) (hv : c.cursor.Valid)
    (hgo : c.cursor.atEnd = false) : (m.step same nested c).1.cursor.stop = c.cursor.stop := by
  have outcome := m.step_outcome same nested hv hgo
  generalize m.step same nested c = result at outcome ⊢
  cases outcome with
  | moved first _ => exact stop_arrive built keeps first hv hgo
  | idled first _ _ _ => exact stop_arrive built keeps first hv hgo
  | stuck first _ _ =>
    rw [Config.recover_stop]
    exact stop_arrive built keeps first hv hgo
  | unmatched _ => exact Config.recover_stop

theorem stop_last (built : g.build steering = .ok m) (keeps : g.KeepsStop) (h : c.Sound) :
    (m.last same nested c).cursor.stop = c.cursor.stop := by
  induction c, h using run_induction m same nested with
  | ended c _ hend => rw [last_of_atEnd hend]
  | going c h hgo ih =>
    rw [last_of_go h, ih, advance_of_go hgo]
    exact stop_step built keeps h.valid hgo

variable {text : Text} {stack : Stack StateRef} {levels : Nat}

/-- The tokens of a run are parts of its text. They tile it exactly if the run stops at its end and
all parts that it handed on are tiled. -/
theorem nestedTokens_spec (quiet : m.Quiet)
    (hplaced : ∀ s d,
      m.Hands same (m.nestedTokens same levels) (Config.start text stack) s d →
        Placed text s.start s.stop (delegated (m.nestedTokens same levels) text s d)) :
    Placed text 0 text.size (m.nestedTokens same (levels + 1) text stack) ∧
      (Tiles 0 text (m.nestedTokens same (levels + 1) text stack) ↔
        (m.last same (m.nestedTokens same levels) (Config.start text stack)).cursor.stop =
            text.size ∧
          ∀ s d, m.Hands same (m.nestedTokens same levels) (Config.start text stack) s d →
            Tiles s.start (text.slice s) (delegated (m.nestedTokens same levels) text s d)) := by
  have hs := Config.sound_start text stack
  have hl := last_leads m same (m.nestedTokens same levels) hs
  have hend := (Cursor.atEnd_iff hl.valid).1 (atEnd_last m same (m.nestedTokens same levels) hs)
  have hle : (m.last same (m.nestedTokens same levels) (Config.start text stack)).cursor.pos ≤
      text.size := by
    have hsize := hl.valid.pos.le_size
    rwa [hl.text] at hsize
  obtain ⟨hpl, hiff⟩ := run_spec quiet hs hplaced
  have hall := hpl.mono (Nat.le_refl _) hle
  rw [nestedTokens_succ, ← hend]
  generalize m.last same (m.nestedTokens same levels) (Config.start text stack) = e
    at hpl hiff hle ⊢
  change Placed text 0 e.cursor.pos _ at hpl
  change Tiles 0 (text.slice ⟨0, e.cursor.pos⟩) _ ↔ _ at hiff
  refine ⟨hall, ?_⟩
  constructor
  · intro ht
    have hsize := (hall.tiles_iff text.boundary_zero text.boundary_size).1 (by rwa [Text.slice_all])
    have hroom := hpl.size_le
    have heq : e.cursor.pos = text.size := by omega
    rw [heq, Text.slice_all] at hiff
    exact ⟨heq, hiff.1 ht⟩
  · rintro ⟨heq, hparts⟩
    rw [heq, Text.slice_all] at hiff
    exact hiff.2 hparts

end Lexing.Machine
