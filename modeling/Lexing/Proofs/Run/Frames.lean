import Lexing.Proofs.Machine.Origin
import Lexing.Proofs.Run.Pulls
import Lexing.Proofs.Stack.Edits

/-!
# Comparing stacks frame by frame

A step that takes nothing is judged by the depth and the top of the stack, though edits can change
frames further down and leave both as they are. In a machine that is not steered the judgement is
exact nevertheless: such edits would be made in vain by the next step, which is stuck then. A run
that compares all frames makes that step before it gives the error token, and comes to the same
cursor.
-/
set_option autoImplicit false

namespace Lexing

namespace Stack

variable {σ : Type} [DecidableEq σ]

def sameFrames (a b : Stack σ) : Bool := decide (a = b)

theorem sameFrames_iff {a b : Stack σ} : sameFrames a b = true ↔ a = b := decide_eq_true_iff

theorem sameShape_iff {a b : Stack σ} :
    sameShape a b = true ↔ a.depth = b.depth ∧ a.top = b.top := by
  simp only [sameShape, Bool.and_eq_true, beq_iff_eq]

theorem sameShape_of_sameFrames {a b : Stack σ} (h : sameFrames a b = true) :
    sameShape a b = true := by
  rw [sameFrames_iff] at h
  exact sameShape_iff.2 ⟨congrArg depth h, congrArg top h⟩

end Stack

namespace Machine

variable {m : Machine} {same : Stack StateRef → Stack StateRef → Bool} {nested : Nested}

/-- The rules of the machine leave the cursor to the run. -/
def Plain (m : Machine) : Prop :=
  ∀ (c : Cursor StateRef) (rule : Rule) (found : Match),
    m.firstMatch c = some (rule, found) → ∀ emit, rule.action ≠ some (.steer emit)

theorem plain_of_build {g : Grammar} (built : g.build false = .ok m) : m.Plain :=
  fun _ _ _ first => ne_steer_of_plain built (firstMatch_spec first).1

section

variable {c : Cursor StateRef} {rule : Rule} {found : Match} {idle : Nat}

theorem firstMatch_turn {edits : List (StackEdit StateRef)}
    (top : c.stack.top = (c.turn edits).stack.top) :
    m.firstMatch (c.turn edits) = m.firstMatch c := by
  simp only [firstMatch, ← top, Cursor.text_turn, Cursor.pos_turn, Cursor.stop_turn]

theorem arrive_of_stop (h : c.Valid) (hs : ∀ emit, rule.action ≠ some (.steer emit))
    (hstop : found.stop = c.pos) : m.arrive c rule found = c.turn rule.edits := by
  rw [arrive_eq hs, hstop, Cursor.setPos_self h]

theorem step_of_there (h : c.Valid) (hgo : c.atEnd = false)
    (first : m.firstMatch c = some (rule, found)) (there : (m.arrive c rule found).pos = c.pos) :
    m.step same nested ⟨c, idle⟩ =
      if same c.stack (m.arrive c rule found).stack || maxIdle ≤ idle then
        Config.recover (m.arrive c rule found)
      else (⟨m.arrive c rule found, idle + 1⟩, []) := by
  have hw := firstMatch_within first h hgo
  simp only [step, first]
  rw [apply_eq h hw, yielded_of_pos hw there]
  simp only [Config.settle, there, Nat.lt_irrefl, if_false, List.nil_append]

theorem step_of_further (h : c.Valid) (hgo : c.atEnd = false)
    (first : m.firstMatch c = some (rule, found))
    (further : c.pos < (m.arrive c rule found).pos) :
    m.step same nested ⟨c, idle⟩ =
      (⟨m.arrive c rule found, 0⟩, m.yielded nested c rule found) := by
  have hw := firstMatch_within first h hgo
  simp only [step, first]
  rw [apply_eq h hw]
  simp only [Config.settle, further, if_true, List.append_nil]

/-- Edits that kept the depth and the top are made in vain by the next step. -/
theorem step_in_vain (h : c.Valid) (hgo : c.atEnd = false)
    (first : m.firstMatch c = some (rule, found))
    (hs : ∀ emit, rule.action ≠ some (.steer emit)) (hstop : found.stop = c.pos)
    (shape : Stack.sameShape c.stack (c.turn rule.edits).stack = true) :
    m.step Stack.sameFrames nested ⟨c.turn rule.edits, idle⟩ =
      Config.recover (c.turn rule.edits) := by
  have hv : (c.turn rule.edits).Valid := h.turn rule.edits
  obtain ⟨hdepth, htop⟩ := Stack.sameShape_iff.1 shape
  have hagain : (c.turn rule.edits).turn rule.edits = c.turn rule.edits := by
    have hidem := Stack.applyAll_applyAll rule.edits hdepth.symm
    simp only [Cursor.turn, hidem]
  have first' : m.firstMatch (c.turn rule.edits) = some (rule, found) :=
    (firstMatch_turn htop).trans first
  have harrive : m.arrive (c.turn rule.edits) rule found = c.turn rule.edits := by
    rw [arrive_of_stop hv hs hstop, hagain]
  rw [step_of_there hv hgo first' (congrArg Cursor.pos harrive), harrive,
    Stack.sameFrames_iff.2 rfl, Bool.true_or, if_pos rfl]

/-- Frame by frame a step is judged as by depth and top, or it is idle once more: then the next step
recovers from where the other recovers at once. -/
theorem step_sameFrames (plain : m.Plain) (nested : Nested) (idle : Nat) (h : c.Valid)
    (hgo : c.atEnd = false) :
    m.step Stack.sameFrames nested ⟨c, idle⟩ = m.step Stack.sameShape nested ⟨c, idle⟩ ∨
      ∃ d : Cursor StateRef, d.atEnd = false ∧
        m.step Stack.sameFrames nested ⟨c, idle⟩ = (⟨d, idle + 1⟩, []) ∧
        m.step Stack.sameFrames nested ⟨d, idle + 1⟩ = Config.recover d ∧
        m.step Stack.sameShape nested ⟨c, idle⟩ = Config.recover d := by
  cases first : m.firstMatch c with
  | none =>
    left
    simp only [step, first]
  | some result =>
    obtain ⟨rule, found⟩ := result
    have hl := firstMatch_leads first h hgo
    have hs := plain _ _ _ first
    rcases Nat.eq_or_lt_of_le hl.pos with there | further
    · have hstop : found.stop = c.pos :=
        (pos_arrive (firstMatch_within first h hgo) hs).symm.trans there.symm
      rw [step_of_there h hgo first there.symm, step_of_there h hgo first there.symm,
        arrive_of_stop h hs hstop]
      by_cases hframes : Stack.sameFrames c.stack (c.turn rule.edits).stack = true
      · left
        rw [hframes, Stack.sameShape_of_sameFrames hframes]
      · by_cases hshape : Stack.sameShape c.stack (c.turn rule.edits).stack = true
        · by_cases hlimit : maxIdle ≤ idle
          · left
            simp only [hlimit, decide_true, Bool.or_true]
          · -- the only place where the two judgements differ
            right
            refine ⟨c.turn rule.edits, hgo, ?_, step_in_vain h hgo first hs hstop hshape, ?_⟩
            · simp only [hframes, hlimit, decide_false, Bool.or_self, Bool.false_eq_true, if_false]
            · simp only [hshape, Bool.true_or, if_true]
        · left
          rw [Bool.not_eq_true] at hframes hshape
          rw [hframes, hshape]
    · left
      rw [step_of_further h hgo first further, step_of_further h hgo first further]

end

variable {c : Config}

theorem runTokens_sameFrames (plain : m.Plain) (nested : Nested) (h : c.Sound) :
    m.runTokens Stack.sameFrames nested c = m.runTokens Stack.sameShape nested c := by
  induction c, h using run_induction m Stack.sameShape nested with
  | ended c _ hend => rw [runTokens_of_atEnd hend, runTokens_of_atEnd hend]
  | going c h hgo ih =>
    rw [runTokens_of_go h hgo, runTokens_of_go h hgo, ← ih, advance_of_go hgo, advance_of_go hgo]
    rcases step_sameFrames plain nested c.idle h.valid hgo with
      heq | ⟨d, hgo', hidle, hvain, hrecover⟩
    · rw [heq]
    · have hnext := sound_advance m Stack.sameFrames nested h
      rw [advance_of_go hgo, hidle] at hnext
      rw [hidle, hrecover, List.nil_append, runTokens_of_go hnext hgo', advance_of_go hgo', hvain]

theorem nestedTokens_sameFrames (plain : m.Plain) (levels : Nat) :
    m.nestedTokens Stack.sameFrames levels = m.nestedTokens Stack.sameShape levels := by
  induction levels with
  | zero => rfl
  | succ levels ih =>
    funext text stack
    rw [nestedTokens_succ, nestedTokens_succ, ih]
    exact runTokens_sameFrames plain _ (Config.sound_start text stack)

end Machine

namespace Run

variable {m : Machine} {r r' last : Run} {o : Option Token} {pulled : List (Token × Run)} {n : Nat}

theorem pulls_sameFrames_iff (plain : m.Plain) (nested : Nested) (h : r.config.Sound) :
    Pulls m Stack.sameFrames nested r o r' ↔ Pulls m Stack.sameShape nested r o r' := by
  obtain ⟨c, ts⟩ := r
  change c.Sound at h
  induction c, h using Machine.run_induction m Stack.sameShape nested generalizing ts with
  | ended c _ hend =>
    cases ts with
    | nil => rw [pulls_ended_iff hend, pulls_ended_iff hend]
    | cons t ts => rw [pulls_pending_iff, pulls_pending_iff]
  | going c h hgo ih =>
    cases ts with
    | nil =>
      rw [Machine.advance_of_go hgo] at ih
      rw [pulls_step_iff hgo, pulls_step_iff hgo, ← ih]
      rcases Machine.step_sameFrames plain nested c.idle h.valid hgo with
        heq | ⟨d, hgo', hidle, hvain, hrecover⟩
      · rw [heq]
      · rw [hidle, hrecover, pulls_step_iff hgo', hvain]
    | cons t ts => rw [pulls_pending_iff, pulls_pending_iff]

/-- In a machine that is not steered, depth and top tell what all frames tell: the run that compares
the stacks frame by frame, in nested runs too, gives the same tokens, with the same cursor and the
same pending tokens after each. -/
theorem takes_sameFrames_iff {g : Grammar} {m : Machine} (built : g.build false = .ok m)
    (text : Text) (stack : Stack StateRef) (n : Nat) (pulled : List (Token × Run)) (last : Run) :
    Takes m Stack.sameFrames (m.nestedTokens Stack.sameFrames maxNesting) n
        (resume (.start text stack)) pulled last ↔
      take m n (resume (.start text stack)) = (pulled, last) := by
  have plain := Machine.plain_of_build built
  have hs : (resume (.start text stack)).config.Sound := Config.sound_start text stack
  rw [← takes_iff hs, Machine.nestedTokens_sameFrames plain maxNesting]
  constructor
  · intro h
    exact h.mono hs fun r o r' hr hp => (pulls_sameFrames_iff plain m.nested hr).1 hp
  · intro h
    exact h.mono hs fun r o r' hr hp => (pulls_sameFrames_iff plain m.nested hr).2 hp

/-- Which changes a frame below the top where it takes nothing. -/
def renewing : Grammar :=
  ((Grammar.empty "renewing" .standard).define "root"
    [.rule "a" (.kind .text) (.pushAll ["root", "inner"])]).define "inner"
    [.fallback (.seq [.pop 2, .push "inner", .push "inner"])]

theorem takes_sameFrames_renewing : ∃ m, renewing.build false = .ok m ∧
    let c := Cursor.start ['a', 'b', 'a'] (.single (.named m.root))
    let config := (take m 1 (resume c)).2.config
    m.step Stack.sameFrames m.nested config ≠ m.step Stack.sameShape m.nested config ∧
      Takes m Stack.sameFrames (m.nestedTokens Stack.sameFrames maxNesting) 4 (resume c)
        (take m 4 (resume c)).1 (take m 4 (resume c)).2 := by
  have found : (renewing.build false).toOption.any (fun m =>
      let c := Cursor.start ['a', 'b', 'a'] (.single (.named m.root))
      let config := (take m 1 (resume c)).2.config
      decide (m.step Stack.sameFrames m.nested config ≠
        m.step Stack.sameShape m.nested config)) = true := by decide +kernel
  obtain ⟨m, built, h⟩ := exists_of_any found
  exact ⟨m, built, of_decide_eq_true h, (takes_sameFrames_iff built _ _ _ _ _).2 rfl⟩

end Run

end Lexing
