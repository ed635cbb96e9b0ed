import Lexing.Proofs.Pattern.Extent
import Lexing.Proofs.Run.Cover
import Lexing.Proofs.Run.Cursor
import Lexing.Run.Step

/-!
# What a step can do

A step from a valid cursor has one of four outcomes. The rule that matched took the cursor further;
or it left the cursor in place and changed the stack, which is counted; or that counts as no
progress, and the next character becomes an error token; or no rule matched, with the same effect.
Whichever it is, the text stays the same, the cursor stays valid, and it does not go back.
-/
set_option autoImplicit false

namespace Lexing

variable {m : Machine} {same : Stack StateRef → Stack StateRef → Bool} {nested : Nested}

/-- `d` is a valid cursor in the same text, at the offset of `c` or after it. -/
structure Cursor.Leads (c d : Cursor StateRef) : Prop where
  valid : d.Valid
  text : d.text = c.text
  pos : c.pos ≤ d.pos

theorem Cursor.Leads.trans {c d e : Cursor StateRef} (h : c.Leads d) (h' : d.Leads e) :
    c.Leads e :=
  ⟨h'.valid, h'.text.trans h.text, Nat.le_trans h.pos h'.pos⟩

/-- A cursor as callers make it: at the start of a text, with some stack, and then edited. -/
def Machine.opened (m : Machine) (text : Text) (stack : Stack StateRef)
    (edits : List CursorEdit) : Cursor StateRef :=
  (Cursor.start text stack).editAll (fun name => (m.resolve name).toOption) edits

theorem Machine.opened_leads (m : Machine) (text : Text) (stack : Stack StateRef)
    (edits : List CursorEdit) : (Cursor.start text stack).Leads (m.opened text stack edits) := by
  obtain ⟨hv, ht⟩ := (Cursor.valid_start text stack).editAll
    (fun name => (m.resolve name).toOption) edits
  exact ⟨hv, ht, Nat.zero_le _⟩

theorem Rule.steers_or (rule : Rule) :
    (∃ emit, rule.action = some (.steer emit)) ∨ ∀ emit, rule.action ≠ some (.steer emit) := by
  by_cases h : ∃ emit, rule.action = some (.steer emit)
  · exact .inl h
  · exact .inr fun emit he => h ⟨emit, he⟩

namespace Machine

/-- Where the cursor is after the match, the callback and the stack edits of a rule. -/
def arrive (m : Machine) (c : Cursor StateRef) (rule : Rule) (found : Match) : Cursor StateRef :=
  match rule.action with
  | some (.steer emit) =>
    (m.steered c found.start (emit found (m.view c)).1).turn rule.edits
  | _ => (c.setPos found.stop).turn rule.edits

def yielded (m : Machine) (nested : Nested) (c : Cursor StateRef) (rule : Rule) (found : Match) :
    List Token :=
  match rule.action with
  | some (.steer emit) =>
    coverEmissions found.input ⟨found.start, (m.arrive c rule found).pos⟩
      (emit found (m.view c)).2
  | action => if found.span.isEmpty then [] else emitted nested found action

theorem steered_leads {c : Cursor StateRef} (h : c.Valid) (edits : List CursorEdit) :
    c.Leads (m.steered c c.pos edits) := by
  obtain ⟨hv, ht⟩ := h.editAll (fun name => (m.resolve name).toOption) edits
  have hb := h.pos
  have hle := h.pos.le_size
  simp only [steered]
  generalize c.editAll (fun name => (m.resolve name).toOption) edits = d at hv ht ⊢
  rw [← ht] at hb
  have hstop : ∃ e : Cursor StateRef, (if d.stop < c.pos then d.setStop c.pos else d) = e ∧
      e.Valid ∧ e.text = c.text ∧ c.pos ≤ e.stop := by
    refine ⟨_, rfl, ?_⟩
    split
    · rename_i hlt
      have hpos : d.pos ≤ c.pos := Nat.le_trans hv.le (Nat.le_of_lt hlt)
      exact ⟨hv.setStop _, ht, Nat.le_of_eq (Cursor.stop_setStop hb hpos).symm⟩
    · exact ⟨hv, ht, by omega⟩
  obtain ⟨e, he, hve, hte, hse⟩ := hstop
  rw [he]
  rw [ht, ← hte] at hb
  split
  · exact ⟨hve.setPos _, hte, Nat.le_of_eq (Cursor.pos_setPos hb hse).symm⟩
  · exact ⟨hve, hte, by omega⟩

theorem arrive_leads {c : Cursor StateRef} {rule : Rule} {found : Match} (h : c.Valid)
    (hw : Pattern.Within c.text c.pos c.stop found) : c.Leads (m.arrive c rule found) := by
  unfold arrive
  split
  · rename_i emit _
    have hl := m.steered_leads h (emit found (m.view c)).1
    rw [Match.start, hw.start_eq]
    exact ⟨hl.valid.turn _, hl.text, hl.pos⟩
  · refine ⟨(h.setPos _).turn _, rfl, ?_⟩
    rw [Cursor.pos_turn, Match.stop, Cursor.pos_setPos hw.boundary hw.stop_le]
    exact hw.le

theorem arrive_eq {c : Cursor StateRef} {rule : Rule} {found : Match}
    (hs : ∀ emit, rule.action ≠ some (.steer emit)) :
    m.arrive c rule found = (c.setPos found.stop).turn rule.edits := by
  unfold arrive
  split
  · rename_i emit hact
    exact absurd hact (hs emit)
  · rfl

theorem pos_arrive {c : Cursor StateRef} {rule : Rule} {found : Match}
    (hw : Pattern.Within c.text c.pos c.stop found)
    (hs : ∀ emit, rule.action ≠ some (.steer emit)) :
    (m.arrive c rule found).pos = found.stop := by
  rw [arrive_eq hs, Cursor.pos_turn, Match.stop, Cursor.pos_setPos hw.boundary hw.stop_le]

theorem yielded_eq {c : Cursor StateRef} {rule : Rule} {found : Match}
    (hs : ∀ emit, rule.action ≠ some (.steer emit)) :
    m.yielded nested c rule found =
      if found.span.isEmpty then [] else emitted nested found rule.action := by
  unfold yielded
  split
  · rename_i emit hact
    exact absurd hact (hs emit)
  · rfl

theorem firstMatch_spec {c : Cursor StateRef} {rule : Rule} {found : Match}
    (h : m.firstMatch c = some (rule, found)) : rule ∈ (m.state c.stack.top).rules ∧
      rule.pattern.matchAt c.text (Pattern.Spot.ofText c.text c.pos c.stop) = some found := by
  obtain ⟨r, hr, hsome⟩ := List.exists_of_findSome?_eq_some h
  obtain ⟨f, hf, heq⟩ := Option.map_eq_some_iff.1 hsome
  obtain ⟨rfl, rfl⟩ := Prod.mk.inj heq
  exact ⟨hr, hf⟩

theorem firstMatch_within {c : Cursor StateRef} {rule : Rule} {found : Match}
    (h : m.firstMatch c = some (rule, found)) (hv : c.Valid) (hgo : c.atEnd = false) :
    Pattern.Within c.text c.pos c.stop found :=
  rule.pattern.laws.within (firstMatch_spec h).2 hv.pos (Cursor.lt_of_not_atEnd hgo)

theorem firstMatch_leads {c : Cursor StateRef} {rule : Rule} {found : Match}
    (h : m.firstMatch c = some (rule, found)) (hv : c.Valid) (hgo : c.atEnd = false) :
    c.Leads (m.arrive c rule found) :=
  m.arrive_leads hv (firstMatch_within h hv hgo)

end Machine

inductive Machine.Outcome (m : Machine) (same : Stack StateRef → Stack StateRef → Bool)
    (nested : Nested) (c : Config) : Config × List Token → Prop
  | moved {rule : Rule} {found : Match} (first : m.firstMatch c.cursor = some (rule, found))
      (further : c.cursor.pos < (m.arrive c.cursor rule found).pos) :
      Outcome m same nested c
        (⟨m.arrive c.cursor rule found, 0⟩, m.yielded nested c.cursor rule found)
  | idled {rule : Rule} {found : Match} (first : m.firstMatch c.cursor = some (rule, found))
      (there : (m.arrive c.cursor rule found).pos = c.cursor.pos)
      (changed : same c.cursor.stack (m.arrive c.cursor rule found).stack = false)
      (allowed : c.idle < maxIdle) :
      Outcome m same nested c (⟨m.arrive c.cursor rule found, c.idle + 1⟩, [])
  | stuck {rule : Rule} {found : Match} (first : m.firstMatch c.cursor = some (rule, found))
      (there : (m.arrive c.cursor rule found).pos = c.cursor.pos)
      (blocked : same c.cursor.stack (m.arrive c.cursor rule found).stack = true ∨
        maxIdle ≤ c.idle) :
      Outcome m same nested c (Config.recover (m.arrive c.cursor rule found))
  | unmatched (none : m.firstMatch c.cursor = none) :
      Outcome m same nested c (Config.recover c.cursor)

theorem coverEmissions_self (text : Text) (p : Nat) (es : List Emission) :
    coverEmissions text ⟨p, p⟩ es = [] := by
  have hgap : gap text p p = [] := if_neg (Nat.lt_irrefl p)
  simp only [coverEmissions]
  generalize es.map (fun e => (e.span, e.kind)) = pieces
  induction pieces with
  | nil => exact hgap
  | cons piece pieces ih =>
    have hfit : fits text p p piece.1 = false := by
      rw [Bool.eq_false_iff, Ne, fits_iff]
      intro h
      have := h.start_le
      have := h.lt
      have := h.stop_le
      omega
    simp only [cover, hfit]
    exact ih

/-- Where a rule arrived is judged, and its tokens stand before those of the judgement. -/
theorem Machine.apply_eq {c : Config} {rule : Rule} {found : Match} (h : c.cursor.Valid)
    (hw : Pattern.Within c.cursor.text c.cursor.pos c.cursor.stop found) :
    m.apply same nested c rule found =
      let judged := Config.settle same c.idle c.cursor.pos c.cursor.stack
        (m.arrive c.cursor rule found)
      (judged.1, m.yielded nested c.cursor rule found ++ judged.2) := by
  have hstart : found.start = c.cursor.pos := hw.start_eq
  unfold Machine.apply
  split
  · rename_i emit hact
    simp only [arrive, yielded, hact, hstart, Cursor.pos_turn]
  · rename_i hns
    rw [arrive_eq hns, yielded_eq hns]
    split
    · rename_i hempty
      have hstop : found.stop = c.cursor.pos := by
        have := hw.le
        have := hw.start_eq
        simp only [Span.isEmpty, decide_eq_true_eq] at hempty
        simp only [Match.stop]
        omega
      rw [hstop, Cursor.setPos_self h, hstart]
      rfl
    · rename_i hfull
      have hlt : c.cursor.pos < ((c.cursor.setPos found.stop).turn rule.edits).pos := by
        rw [Cursor.pos_turn, Match.stop, Cursor.pos_setPos hw.boundary hw.stop_le]
        have := hw.start_eq
        simp only [Span.isEmpty, decide_eq_true_eq] at hfull
        omega
      simp only [Config.settle, if_pos hlt, List.append_nil]

theorem Machine.yielded_of_pos {c : Cursor StateRef} {rule : Rule} {found : Match}
    (hw : Pattern.Within c.text c.pos c.stop found) (h : (m.arrive c rule found).pos = c.pos) :
    m.yielded nested c rule found = [] := by
  have hstart : found.start = c.pos := hw.start_eq
  unfold yielded
  split
  · rw [h, hstart]
    exact coverEmissions_self _ _ _
  · rename_i hns
    rw [pos_arrive hw hns, Match.stop] at h
    have hempty : found.span.isEmpty = true := by
      have := hw.start_eq
      simp only [Span.isEmpty, decide_eq_true_eq]
      omega
    rw [if_pos hempty]

theorem Machine.step_outcome (m : Machine) (same : Stack StateRef → Stack StateRef → Bool)
    (nested : Nested) {c : Config} (h : c.cursor.Valid) (hgo : c.cursor.atEnd = false) :
    m.Outcome same nested c (m.step same nested c) := by
  unfold Machine.step
  split
  · rename_i rule found first
    have hw := firstMatch_within first h hgo
    have hle := (firstMatch_leads first h hgo).pos
    rw [apply_eq h hw]
    simp only [Config.settle]
    split
    · rename_i hlt
      rw [List.append_nil]
      exact .moved first hlt
    · rename_i hlt
      have there : (m.arrive c.cursor rule found).pos = c.cursor.pos := by omega
      rw [yielded_of_pos hw there]
      split
      · rename_i hblocked
        simp only [Bool.or_eq_true, decide_eq_true_eq] at hblocked
        exact .stuck first there hblocked
      · rename_i hfree
        simp only [Bool.or_eq_true, decide_eq_true_eq, not_or, Bool.not_eq_true,
          Nat.not_le] at hfree
        exact .idled first there hfree.1 hfree.2
  · rename_i none
    exact .unmatched none

namespace Config

variable {c : Cursor StateRef}

theorem recover_cases (h : c.Valid) :
    (c.pos = c.stop ∧ recover c = (⟨c, 0⟩, [])) ∨
      ∃ x : Char, c.pos + x.utf8Size ≤ c.stop ∧ c.text.Boundary (c.pos + x.utf8Size) ∧
        c.text.slice ⟨c.pos, c.pos + x.utf8Size⟩ = [x] ∧
        recover c = (⟨c.setPos (c.pos + x.utf8Size), 0⟩, [⟨c.pos, .error, [x]⟩]) := by
  unfold recover
  split
  · rename_i hnil
    exact .inl ⟨(Cursor.remaining_eq_nil h).1 hnil, rfl⟩
  · rename_i x rest hcons
    obtain ⟨hle, hb, hx⟩ := Text.slice_eq_cons h.pos h.stop h.le hcons
    exact .inr ⟨x, hle, hb, hx, rfl⟩

@[simp] theorem recover_idle : (recover c).1.idle = 0 := by
  unfold recover
  split <;> rfl

@[simp] theorem recover_stop : (recover c).1.cursor.stop = c.stop := by
  unfold recover
  split <;> rfl

@[simp] theorem recover_stack : (recover c).1.cursor.stack = c.stack := by
  unfold recover
  split <;> rfl

theorem recover_leads (h : c.Valid) : c.Leads (recover c).1.cursor := by
  rcases recover_cases h with ⟨_, heq⟩ | ⟨x, hle, hb, _, heq⟩
  · rw [heq]
    exact ⟨h, rfl, Nat.le_refl _⟩
  · rw [heq]
    refine ⟨h.setPos _, rfl, ?_⟩
    rw [Cursor.pos_setPos hb hle]
    exact Nat.le_add_right _ _

theorem recover_further (h : c.Valid) (hlt : c.pos < c.stop) :
    c.pos < (recover c).1.cursor.pos := by
  rcases recover_cases h with ⟨hend, _⟩ | ⟨x, hle, hb, _, heq⟩
  · omega
  · rw [heq, Cursor.pos_setPos hb hle]
    have := x.utf8Size_pos
    omega

theorem recover_tiles (h : c.Valid) :
    Tiles c.pos (c.text.slice ⟨c.pos, (recover c).1.cursor.pos⟩) (recover c).2 := by
  rcases recover_cases h with ⟨_, heq⟩ | ⟨x, hle, hb, hx, heq⟩
  · rw [heq, Text.slice_self]
    exact tiles_nil _
  · rw [heq, Cursor.pos_setPos hb hle, hx]
    exact tiles_single _ (List.cons_ne_nil _ _)

end Config

namespace Machine

variable {c : Config}

theorem step_leads (h : c.cursor.Valid) (hgo : c.cursor.atEnd = false) :
    c.cursor.Leads (m.step same nested c).1.cursor := by
  have outcome := m.step_outcome same nested h hgo
  generalize m.step same nested c = result at outcome ⊢
  cases outcome with
  | moved first _ => exact firstMatch_leads first h hgo
  | idled first _ _ _ => exact firstMatch_leads first h hgo
  | stuck first _ _ =>
    have hl := firstMatch_leads first h hgo
    exact hl.trans (Config.recover_leads hl.valid)
  | unmatched _ => exact Config.recover_leads h

/-- A step moves the cursor further, or ends the run, or counts itself. -/
theorem step_progress (h : c.cursor.Valid) (hgo : c.cursor.atEnd = false) :
    (c.cursor.pos < (m.step same nested c).1.cursor.pos ∧ (m.step same nested c).1.idle = 0) ∨
      (m.step same nested c).1.cursor.atEnd = true ∨
      ((m.step same nested c).1.cursor.pos = c.cursor.pos ∧ c.idle < maxIdle ∧
        (m.step same nested c).1.idle = c.idle + 1) := by
  have outcome := m.step_outcome same nested h hgo
  generalize m.step same nested c = result at outcome ⊢
  cases outcome with
  | moved _ further => exact .inl ⟨further, rfl⟩
  | idled _ there _ allowed => exact .inr (.inr ⟨there, allowed, rfl⟩)
  | @stuck rule found first there _ =>
    have hl := firstMatch_leads first h hgo
    rcases Config.recover_cases hl.valid with ⟨hend, heq⟩ | ⟨x, hle, hb, _, heq⟩
    · rw [heq]
      exact .inr (.inl ((Cursor.atEnd_iff hl.valid).2 hend))
    · refine .inl ⟨?_, Config.recover_idle⟩
      rw [heq, Cursor.pos_setPos hb hle, there]
      have := x.utf8Size_pos
      omega
  | unmatched _ =>
    exact .inl ⟨Config.recover_further h (Cursor.lt_of_not_atEnd hgo), Config.recover_idle⟩

end Machine

end Lexing
