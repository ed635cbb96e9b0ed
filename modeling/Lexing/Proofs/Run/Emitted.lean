import Lexing.Proofs.Run.Step

/-!
# What a step emits

The tokens of a step are placed between the offset where it began and the one where it ended. They
leave text out only where text was handed on to another run or lexer that left it out.
-/
set_option autoImplicit false

namespace Lexing

variable {m : Machine} {same : Stack StateRef → Stack StateRef → Bool} {nested : Nested}

def GroupAction.delegate? {α : Type} : GroupAction α → Option (Delegate α)
  | kind _ => none
  | delegate d => some d

def Match.handed (found : Match) :
    Option (Action (Stack StateRef)) → List (Span × Delegate (Stack StateRef))
  | some (.delegate d) => [(found.span, d)]
  | some (.groups actions) =>
    (kept found.input found.stop found.start (groupPieces actions found.groups)).filterMap
      fun piece => piece.2.delegate?.map fun d => (piece.1, d)
  | some (.kind _) | some (.callback _) | some (.steer _) | none => []

def Machine.handed (m : Machine) (c : Cursor StateRef) :
    List (Span × Delegate (Stack StateRef)) :=
  match m.firstMatch c with
  | some (rule, found) => if found.span.isEmpty then [] else found.handed rule.action
  | none => []

def Machine.Quiet (m : Machine) : Prop :=
  ∀ (c : Cursor StateRef) (rule : Rule) (found : Match),
    m.firstMatch c = some (rule, found) → rule.action = none → found.span.isEmpty = true

variable {text : Text} {start stop : Nat}

theorem emitGroup_spec {s : Span} {a : GroupAction (Stack StateRef)}
    (hs : s.Inside text start stop)
    (hplaced : ∀ d, a.delegate? = some d → Placed text s.start s.stop (delegated nested text s d)) :
    Placed text s.start s.stop (emitGroup nested text s a) ∧
      (Tiles s.start (text.slice s) (emitGroup nested text s a) ↔
        ∀ d, a.delegate? = some d → Tiles s.start (text.slice s) (delegated nested text s d)) := by
  cases a with
  | kind k =>
    refine ⟨emitKind_placed k hs, fun _ d hd => ?_, fun _ => emitKind_tiles k hs⟩
    cases hd
  | delegate d =>
    refine ⟨hplaced d rfl, fun h d' hd => ?_, fun h => h d rfl⟩
    obtain rfl := Option.some.inj hd
    exact h

theorem mem_handed_groups {found : Match} {actions : List (GroupAction (Stack StateRef))}
    {s : Span} {d : Delegate (Stack StateRef)} :
    (s, d) ∈ found.handed (some (.groups actions)) ↔
      ∃ a, (s, a) ∈ kept found.input found.stop found.start (groupPieces actions found.groups) ∧
        a.delegate? = some d := by
  simp only [Match.handed, List.mem_filterMap, Option.map_eq_some_iff, Prod.mk.injEq, Prod.exists]
  constructor
  · rintro ⟨s', a, hmem, d', ha, rfl, rfl⟩
    exact ⟨a, hmem, ha⟩
  · rintro ⟨a, hmem, ha⟩
    exact ⟨s, a, hmem, d, ha, rfl, rfl⟩

theorem emitted_spec {found : Match} {action : Option (Action (Stack StateRef))}
    (hw : Pattern.Within text start stop found) (hfull : found.span.isEmpty = false)
    (hs : ∀ emit, action ≠ some (.steer emit))
    (hplaced : ∀ s d, (s, d) ∈ found.handed action →
      Placed text s.start s.stop (delegated nested text s d))
    (hb : text.Boundary start) :
    Placed text start found.stop (emitted nested found action) ∧
      (action ≠ none → (Tiles start (text.slice ⟨start, found.stop⟩) (emitted nested found action) ↔
        ∀ s d, (s, d) ∈ found.handed action →
          Tiles s.start (text.slice s) (delegated nested text s d))) := by
  obtain ⟨input, ⟨first, last⟩, groups⟩ := found
  obtain ⟨rfl, rfl, hbs, hle, hls⟩ := hw
  simp only [Span.isEmpty, decide_eq_false_iff_not, Nat.not_le] at hfull
  have hin : Span.Inside ⟨first, last⟩ input first last :=
    ⟨hb, hbs, Nat.le_refl _, hfull, Nat.le_refl _⟩
  match action with
  | none => exact ⟨Nat.le_of_lt hfull, fun h => absurd rfl h⟩
  | some (.steer emit) => exact absurd rfl (hs emit)
  | some (.kind k) =>
    refine ⟨emitKind_placed k hin, fun _ => ⟨fun _ s d hmem => ?_, fun _ => emitKind_tiles k hin⟩⟩
    cases hmem
  | some (.callback emit) =>
    have ht := coverEmissions_tiles hb hbs (Nat.le_of_lt hfull)
      (emit ⟨input, ⟨first, last⟩, groups⟩)
    refine ⟨ht.placed hb hbs (Nat.le_of_lt hfull), fun _ => ⟨fun _ s d hmem => ?_, fun _ => ht⟩⟩
    cases hmem
  | some (.delegate d) =>
    refine ⟨hplaced _ d (List.mem_singleton.2 rfl), fun _ => ⟨fun h s d' hmem => ?_, fun h => ?_⟩⟩
    · obtain ⟨rfl, rfl⟩ := Prod.mk.inj (List.mem_singleton.1 hmem)
      exact h
    · exact h _ d (List.mem_singleton.2 rfl)
  | some (.groups actions) =>
    have hgroup : ∀ s a, (s, a) ∈ kept input last first (groupPieces actions groups) →
        Placed input s.start s.stop (emitGroup nested input s a) ∧
          (Tiles s.start (input.slice s) (emitGroup nested input s a) ↔
            ∀ d, a.delegate? = some d →
              Tiles s.start (input.slice s) (delegated nested input s d)) := by
      intro s a hmem
      refine emitGroup_spec (kept_inside hmem) fun d hd => ?_
      exact hplaced s d (mem_handed_groups.2 ⟨a, hmem, hd⟩)
    obtain ⟨hpl, hiff⟩ := cover_spec hb hbs (Nat.le_of_lt hfull) fun s a hmem => (hgroup s a hmem).1
    refine ⟨hpl, fun _ => hiff.trans ⟨fun h s d hmem => ?_, fun h s a hmem => ?_⟩⟩
    · obtain ⟨a, hkept, hd⟩ := mem_handed_groups.1 hmem
      exact (hgroup s a hkept).2.1 (h s a hkept) d hd
    · exact (hgroup s a hmem).2.2 fun d hd => h s d (mem_handed_groups.2 ⟨a, hmem, hd⟩)

theorem handed_inside {c : Cursor StateRef} {s : Span} {d : Delegate (Stack StateRef)}
    (hv : c.Valid) (hgo : c.atEnd = false) (h : (s, d) ∈ m.handed c) :
    s.Inside c.text c.pos c.stop := by
  unfold Machine.handed at h
  split at h
  · rename_i rule found first
    have hw := Machine.firstMatch_within first hv hgo
    split at h
    · cases h
    · rename_i hfull
      have hle := hw.stop_le
      have hin := hw.input
      have hst := hw.start_eq
      unfold Match.handed at h
      split at h
      · obtain ⟨rfl, rfl⟩ := Prod.mk.inj (List.mem_singleton.1 h)
        simp only [Span.isEmpty, decide_eq_true_eq, Nat.not_le] at hfull
        exact ⟨hst ▸ hv.pos, hw.boundary, Nat.le_of_eq hst.symm, hfull, hle⟩
      · obtain ⟨a, hmem, _⟩ := mem_handed_groups.1 h
        have hk := kept_inside hmem
        rw [hin, Match.start, hst, Match.stop] at hk
        exact ⟨hk.boundary_start, hk.boundary_stop, hk.start_le, hk.lt, Nat.le_trans hk.stop_le hle⟩
      all_goals cases h
  · cases h

theorem handed_of_first {c : Cursor StateRef} {rule : Rule} {found : Match}
    (first : m.firstMatch c = some (rule, found)) :
    m.handed c = if found.span.isEmpty then [] else found.handed rule.action := by
  simp only [Machine.handed, first]

theorem handed_of_pos {c : Cursor StateRef} {rule : Rule} {found : Match}
    (first : m.firstMatch c = some (rule, found))
    (hw : Pattern.Within c.text c.pos c.stop found) (h : (m.arrive c rule found).pos = c.pos) :
    m.handed c = [] := by
  rw [handed_of_first first]
  split
  · rfl
  · rename_i hfull
    rcases rule.steers_or with ⟨emit, hact⟩ | hns
    · rw [hact]
      rfl
    · rw [Machine.pos_arrive hw hns, Match.stop] at h
      have := hw.start_eq
      simp only [Span.isEmpty, decide_eq_true_eq] at hfull
      omega

theorem yielded_spec {c : Cursor StateRef} {rule : Rule} {found : Match}
    (first : m.firstMatch c = some (rule, found)) (hv : c.Valid) (hgo : c.atEnd = false)
    (hplaced : ∀ s d, (s, d) ∈ m.handed c →
      Placed c.text s.start s.stop (delegated nested c.text s d)) :
    Placed c.text c.pos (m.arrive c rule found).pos (m.yielded nested c rule found) ∧
      (m.Quiet →
        (Tiles c.pos (c.text.slice ⟨c.pos, (m.arrive c rule found).pos⟩)
            (m.yielded nested c rule found) ↔
          ∀ s d, (s, d) ∈ m.handed c →
            Tiles s.start (c.text.slice s) (delegated nested c.text s d))) := by
  have hw := Machine.firstMatch_within first hv hgo
  have hl := Machine.firstMatch_leads first hv hgo
  have hb : c.text.Boundary (m.arrive c rule found).pos := hl.text ▸ hl.valid.pos
  have hself := handed_of_first first
  rcases rule.steers_or with ⟨emit, hact⟩ | hns
  · have ht : Tiles c.pos (c.text.slice ⟨c.pos, (m.arrive c rule found).pos⟩)
        (m.yielded nested c rule found) := by
      simp only [Machine.yielded, hact]
      rw [hw.input, Match.start, hw.start_eq]
      exact coverEmissions_tiles hv.pos hb hl.pos _
    refine ⟨ht.placed hv.pos hb hl.pos, fun _ => ⟨fun _ s d hmem => ?_, fun _ => ht⟩⟩
    rw [hself, hact] at hmem
    split at hmem <;> cases hmem
  · have hpos := m.pos_arrive hw hns
    rw [Machine.yielded_eq hns]
    split
    · rename_i hempty
      have hthere : found.stop = c.pos := by
        have := hw.le
        have := hw.start_eq
        simp only [Span.isEmpty, decide_eq_true_eq] at hempty
        simp only [Match.stop]
        omega
      rw [hself, if_pos hempty, hpos, hthere, Text.slice_self]
      exact ⟨Nat.le_refl _, fun _ => ⟨fun _ s d hmem => absurd hmem List.not_mem_nil,
        fun _ => tiles_nil _⟩⟩
    · rename_i hfull
      rw [hself, if_neg hfull] at hplaced ⊢
      obtain ⟨hpl, hiff⟩ := emitted_spec hw (Bool.eq_false_iff.2 hfull) hns hplaced hv.pos
      rw [hpos]
      refine ⟨hpl, fun quiet => hiff fun hnone => hfull ?_⟩
      exact quiet c rule found first hnone

/-- The tokens of a step lie between where it began and where it ended. They tile that exactly if
what it handed on is tiled. -/
theorem step_spec (m : Machine) (same : Stack StateRef → Stack StateRef → Bool) (nested : Nested)
    {c : Config} (hv : c.cursor.Valid) (hgo : c.cursor.atEnd = false)
    (hplaced : ∀ s d, (s, d) ∈ m.handed c.cursor →
      Placed c.cursor.text s.start s.stop (delegated nested c.cursor.text s d)) :
    Placed c.cursor.text c.cursor.pos (m.step same nested c).1.cursor.pos
        (m.step same nested c).2 ∧
      (m.Quiet →
        (Tiles c.cursor.pos
            (c.cursor.text.slice ⟨c.cursor.pos, (m.step same nested c).1.cursor.pos⟩)
            (m.step same nested c).2 ↔
          ∀ s d, (s, d) ∈ m.handed c.cursor →
            Tiles s.start (c.cursor.text.slice s) (delegated nested c.cursor.text s d))) := by
  have hrecover : ∀ {d : Cursor StateRef}, d.Valid → d.text = c.cursor.text →
      d.pos = c.cursor.pos → Tiles c.cursor.pos
        (c.cursor.text.slice ⟨c.cursor.pos, (Config.recover d).1.cursor.pos⟩)
        (Config.recover d).2 ∧
      Placed c.cursor.text c.cursor.pos (Config.recover d).1.cursor.pos (Config.recover d).2 := by
    intro d hd ht hp
    have htiles := Config.recover_tiles hd
    have hl := Config.recover_leads hd
    rw [← ht, ← hp]
    exact ⟨htiles, htiles.placed hd.pos (hl.text ▸ hl.valid.pos) hl.pos⟩
  have outcome := m.step_outcome same nested hv hgo
  generalize m.step same nested c = result at outcome ⊢
  cases outcome with
  | moved first _ => exact yielded_spec first hv hgo hplaced
  | idled first there _ _ =>
    rw [handed_of_pos first (Machine.firstMatch_within first hv hgo) there]
    refine ⟨Nat.le_of_eq there.symm, fun _ => ⟨fun _ s d hmem => absurd hmem List.not_mem_nil,
      fun _ => ?_⟩⟩
    rw [there, Text.slice_self]
    exact tiles_nil _
  | stuck first there _ =>
    have hl := Machine.firstMatch_leads first hv hgo
    obtain ⟨htiles, hpl⟩ := hrecover hl.valid hl.text there
    rw [handed_of_pos first (Machine.firstMatch_within first hv hgo) there]
    exact ⟨hpl, fun _ => ⟨fun _ s d hmem => absurd hmem List.not_mem_nil, fun _ => htiles⟩⟩
  | unmatched none =>
    obtain ⟨htiles, hpl⟩ := hrecover hv rfl rfl
    have hnil : m.handed c.cursor = [] := by simp only [Machine.handed, none]
    rw [hnil]
    exact ⟨hpl, fun _ => ⟨fun _ s d hmem => absurd hmem List.not_mem_nil, fun _ => htiles⟩⟩

theorem delegated_congr {nested' : Nested} {s : Span} {d : Delegate (Stack StateRef)}
    (h : ∀ stack, d = .self stack → nested (text.slice s) stack = nested' (text.slice s) stack) :
    delegated nested text s d = delegated nested' text s d := by
  cases d with
  | self stack => simp only [delegated, h stack rfl]
  | lexer l => rfl

theorem emitted_congr {nested' : Nested} {found : Match}
    {action : Option (Action (Stack StateRef))}
    (h : ∀ s stack, (s, .self stack) ∈ found.handed action →
      nested (found.input.slice s) stack = nested' (found.input.slice s) stack) :
    emitted nested found action = emitted nested' found action := by
  match action with
  | none | some (.steer _) | some (.kind _) | some (.callback _) => rfl
  | some (.delegate d) =>
    refine delegated_congr fun stack hd => h _ stack ?_
    rw [hd]
    exact List.mem_singleton.2 rfl
  | some (.groups actions) =>
    refine cover_congr fun s a hmem => ?_
    cases a with
    | kind k => rfl
    | delegate d =>
      refine delegated_congr fun stack hd => h s stack (mem_handed_groups.2 ⟨_, hmem, ?_⟩)
      rw [hd]
      rfl

/-- A step depends on the nested runs only in the text that it hands to them. -/
theorem step_congr {nested' : Nested} {c : Config} (hv : c.cursor.Valid)
    (hgo : c.cursor.atEnd = false)
    (h : ∀ s stack, (s, .self stack) ∈ m.handed c.cursor →
      nested (c.cursor.text.slice s) stack = nested' (c.cursor.text.slice s) stack) :
    m.step same nested c = m.step same nested' c := by
  unfold Machine.step
  split
  · rename_i rule found first
    have hw := Machine.firstMatch_within first hv hgo
    have hself := handed_of_first first
    unfold Machine.apply
    split
    · rfl
    · split
      · rfl
      · rename_i hfull
        rw [hself, if_neg hfull, ← hw.input] at h
        rw [emitted_congr h]
  · rfl

end Lexing
