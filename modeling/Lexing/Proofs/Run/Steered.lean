import Lexing.Proofs.Run.Frames
import Lexing.Proofs.Run.Termination

/-!
# Steps that change the stack in place

A step that leaves the offset is judged by the depth and the top of the stack that it leaves, and by
the number of steps made at the offset before. So edits by which a callback puts other frames below
the same top, as many as there were, count for nothing: the step gives an error token though the
stack is another one. No other step that changes the stack does.
-/
set_option autoImplicit false

namespace Lexing.Machine

variable {m : Machine} {same : Stack StateRef → Stack StateRef → Bool} {nested : Nested}
  {c : Cursor StateRef} {rule : Rule} {found : Match} {idle : Nat}

theorem idle_eq_card {c : Config} (h : c.Sound) (hzero : c.idle = 0) {i : Nat}
    (hgo : (m.after same nested i c).cursor.atEnd = false) :
    (m.after same nested i c).idle = ((Finset.range i).filter fun j =>
      (m.after same nested j c).cursor.pos = (m.after same nested i c).cursor.pos).card := by
  obtain ⟨f, hf, hidle, hpos, _⟩ := exists_first h hzero hgo
  have hsteps : ((Finset.range i).filter fun j =>
      (m.after same nested j c).cursor.pos = (m.after same nested i c).cursor.pos) =
        Finset.Ico f i := by
    ext j
    rw [Finset.mem_filter, Finset.mem_range, Finset.mem_Ico, and_comm]
    exact and_congr_left fun hj => hpos j (Nat.le_of_lt hj)
  rw [hidle, hsteps, Nat.card_Ico]

theorem step_eq_recover_iff (h : c.Valid) (hgo : c.atEnd = false)
    (first : m.firstMatch c = some (rule, found)) (there : (m.arrive c rule found).pos = c.pos) :
    m.step same nested ⟨c, idle⟩ = Config.recover (m.arrive c rule found) ↔
      same c.stack (m.arrive c rule found).stack = true ∨ maxIdle ≤ idle := by
  rw [step_of_there h hgo first there]
  split
  · rename_i hstuck
    simpa using hstuck
  · rename_i hfree
    constructor
    · intro heq
      have hidle := congrArg (fun result => result.1.idle) heq
      rw [Config.recover_idle] at hidle
      cases hidle
    · intro hstuck
      exact absurd (by simpa using hstuck) hfree

theorem step_eq_idle (h : c.Valid) (hgo : c.atEnd = false)
    (first : m.firstMatch c = some (rule, found)) (there : (m.arrive c rule found).pos = c.pos)
    (changed : same c.stack (m.arrive c rule found).stack = false) (allowed : idle < maxIdle) :
    m.step same nested ⟨c, idle⟩ = (⟨m.arrive c rule found, idle + 1⟩, []) := by
  rw [step_of_there h hgo first there, if_neg]
  simpa [changed] using allowed

/-- A step that leaves the offset, with a callback that steers or not, gives no token and is counted
if the depth or the top of the stack has changed and few steps were made there before; otherwise it
recovers. It goes by the whole stack exactly if a change of the stack within the limit shows in the
depth or the top. -/
theorem steered_step_judged (m : Machine) (text : Text) (stack : Stack StateRef)
    (edits : List CursorEdit) (nested : Nested) (i : Nat) (rule : Rule) (found : Match) :
    let run := fun i => m.after Stack.sameShape nested i ⟨m.opened text stack edits, 0⟩
    let before := (run i).cursor
    let after := m.arrive before rule found
    let step := m.step Stack.sameShape nested (run i)
    let waited := ((Finset.range i).filter fun j => (run j).cursor.pos = before.pos).card
    let shows := before.stack.depth ≠ after.stack.depth ∨ before.stack.top ≠ after.stack.top
    before.atEnd = false → m.firstMatch before = some (rule, found) → after.pos = before.pos →
      (shows → waited < maxIdle → step = (⟨after, waited + 1⟩, [])) ∧
      (step = Config.recover after ↔ ¬ shows ∨ maxIdle ≤ waited) ∧
      ((before.stack ≠ after.stack → waited < maxIdle → step = (⟨after, waited + 1⟩, [])) ∧
          (step = Config.recover after → before.stack = after.stack ∨ maxIdle ≤ waited) ↔
        (before.stack ≠ after.stack → waited < maxIdle → shows)) := by
  intro run before after step waited shows hgo first there
  have hopened := m.sound_opened text stack edits
  have hs : (run i).Sound := sound_after m Stack.sameShape nested hopened i
  have hwaited : (run i).idle = waited := idle_eq_card hopened rfl hgo
  have hshows : Stack.sameShape before.stack after.stack = true ↔ ¬ shows := by
    rw [Stack.sameShape_iff]
    simp only [shows, not_or, not_not]
  have hidles : shows → waited < maxIdle → step = (⟨after, waited + 1⟩, []) := by
    intro changed allowed
    have hsame : Stack.sameShape before.stack after.stack = false := by
      rw [Bool.eq_false_iff, Ne, hshows, not_not]
      exact changed
    rw [← hwaited] at allowed ⊢
    exact step_eq_idle hs.valid hgo first there hsame allowed
  have hrecovers : step = Config.recover after ↔ ¬ shows ∨ maxIdle ≤ waited := by
    rw [← hshows, ← hwaited]
    exact step_eq_recover_iff hs.valid hgo first there
  refine ⟨hidles, hrecovers, ?_, ?_⟩
  · rintro ⟨_, hwhole⟩ changed allowed
    -- a change that does not show leads to an error token, which the whole stack then excuses
    by_contra hhidden
    rcases hwhole (hrecovers.2 (.inl hhidden)) with heq | hlimit
    · exact changed heq
    · omega
  · intro hall
    refine ⟨fun changed allowed => hidles (hall changed allowed) allowed, fun hrecover => ?_⟩
    by_cases heq : before.stack = after.stack
    · exact .inl heq
    · right
      by_contra hlimit
      rcases hrecovers.1 hrecover with hhidden | hlimit'
      · exact hhidden (hall heq (by omega))
      · exact hlimit hlimit'

/-- Which puts another frame below the top at one place, and a further one on the top at another. -/
def reframing : Grammar :=
  ((((Grammar.empty "reframing" .standard).define "root"
    [.rule "a" (.kind .text) (.pushAll ["outer", "inner"])]).define "outer" []).define "other"
    []).define "inner"
    [.rule "bc" (.steer fun found _ => ([.stack (.pop 2), .stack (.push "other"),
        .stack (.push "inner"), .setStop (found.start + 1)], [])) .stay,
      .rule "dc" (.steer fun found _ =>
        ([.stack .pushTop, .setStop (found.start + 1)], [])) .stay,
      .rule "b" (.kind .other) .stay]

def Steers (m : Machine) (c : Cursor StateRef) (rule : Rule) (found : Match) : Prop :=
  c.atEnd = false ∧ m.firstMatch c = some (rule, found) ∧
    (∃ emit, rule.action = some (.steer emit)) ∧ (m.arrive c rule found).pos = c.pos

/-- Whether such a rule leads to a cursor with the property. -/
def steersTo (m : Machine) (c : Cursor StateRef) (p : Cursor StateRef → Bool) : Bool :=
  !c.atEnd && (m.firstMatch c).any fun (rule, found) =>
    (rule.action.any fun | .steer _ => true | _ => false) &&
      decide ((m.arrive c rule found).pos = c.pos) && p (m.arrive c rule found)

theorem exists_of_steersTo {p : Cursor StateRef → Bool} (h : m.steersTo c p = true) :
    ∃ rule found, m.Steers c rule found ∧ p (m.arrive c rule found) = true := by
  simp only [steersTo, Bool.and_eq_true, Bool.not_eq_true', Option.any_eq_true] at h
  obtain ⟨hgo, ⟨rule, found⟩, first, ⟨⟨action, hact, hsteer⟩, there⟩, hp⟩ := h
  refine ⟨rule, found, ⟨hgo, first, ?_, of_decide_eq_true there⟩, hp⟩
  cases action with
  | steer emit => exact ⟨emit, hact⟩
  | _ => cases hsteer

def reframed (m : Machine) (text : Text) : Config :=
  m.after Stack.sameShape m.nested 1 ⟨m.opened text (.single (.named m.root)) [], 0⟩

theorem steered_step_judged_deepening : ∃ m, reframing.build true = .ok m ∧
    let before := reframed m ['a', 'd', 'c']
    ∃ rule found, m.Steers before.cursor rule found ∧
      before.cursor.stack.depth ≠ (m.arrive before.cursor rule found).stack.depth ∧
      (m.step Stack.sameShape m.nested before).2 = [] ∧
      (m.step Stack.sameShape m.nested before).1.cursor.pos = before.cursor.pos := by
  have checked : (reframing.build true).toOption.any (fun m =>
      let before := (reframed m ['a', 'd', 'c']).cursor
      m.steersTo before fun d => decide (before.stack.depth ≠ d.stack.depth)) = true := by
    decide +kernel
  obtain ⟨m, built, h⟩ := exists_of_any checked
  obtain ⟨rule, found, ⟨hgo, first, steers, there⟩, hchanged⟩ := exists_of_steersTo h
  have changed := of_decide_eq_true hchanged
  obtain ⟨hidles, _⟩ := steered_step_judged m ['a', 'd', 'c'] (.single (.named m.root)) [] m.nested
    1 rule found hgo first there
  have hstep := hidles (.inl changed)
    (Nat.lt_of_le_of_lt (Finset.card_filter_le _ _) (by rw [Finset.card_range]; decide))
  refine ⟨m, built, rule, found, ⟨hgo, first, steers, there⟩, changed, ?_, ?_⟩
  · exact congrArg Prod.snd hstep
  · exact (congrArg (fun result => result.1.cursor.pos) hstep).trans there

/-- The callback has changed the stack, and no step was idle before, yet there is an error token. -/
theorem reframing_recovers : ∃ m, reframing.build true = .ok m ∧
    let before := reframed m ['a', 'b', 'c']
    ∃ rule found, m.Steers before.cursor rule found ∧
      before.cursor.stack ≠ (m.arrive before.cursor rule found).stack ∧ before.idle = 0 ∧
      (m.step Stack.sameShape m.nested before).2 = [⟨1, .error, ['b']⟩] := by
  have checked : (reframing.build true).toOption.any (fun m =>
      let before := reframed m ['a', 'b', 'c']
      m.steersTo before.cursor fun d => decide (before.cursor.stack ≠ d.stack ∧ before.idle = 0 ∧
        (m.step Stack.sameShape m.nested before).2 = [⟨1, .error, ['b']⟩])) = true := by
    decide +kernel
  obtain ⟨m, built, h⟩ := exists_of_any checked
  obtain ⟨rule, found, steers, hrecovers⟩ := exists_of_steersTo h
  exact ⟨m, built, rule, found, steers, of_decide_eq_true hrecovers⟩

end Lexing.Machine
