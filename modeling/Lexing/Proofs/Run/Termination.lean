import Lexing.Proofs.Run.Idle
import Lexing.Proofs.Run.Nesting

/-!
# Runs end

From every cursor that a caller can make, with every callback and whatever nested runs give, a run
ends within a bound that only depends on the characters left. With the runs nested in it, which are
runs from the start of a text themselves, it yields its tokens.
-/
set_option autoImplicit false

namespace Lexing.Machine

theorem sound_opened (m : Machine) (text : Text) (stack : Stack StateRef)
    (edits : List CursorEdit) : (Config.mk (m.opened text stack edits) 0).Sound :=
  ⟨(m.opened_leads text stack edits).valid, Nat.zero_le _⟩

/-- The steps of a run are the first `k` ones for some `k` within the bound. They never go back,
only few of them begin at one offset, and the limit on idle steps stops none but the last that it
allows at an offset, all of which were idle. The run yields its tokens, nested runs included. -/
theorem run_terminates (m : Machine) (text : Text) (stack : Stack StateRef)
    (edits : List CursorEdit) (nested : Nested) :
    let c : Config := ⟨m.opened text stack edits, 0⟩
    let run := fun i => m.after Stack.sameShape nested i c
    (∃ k, k ≤ (maxIdle + 1) * (text.slice ⟨c.cursor.pos, text.size⟩).length ∧
      ∀ i, (run i).cursor.atEnd = false ↔ i < k) ∧
    (Monotone fun i => (run i).cursor.pos) ∧
    (∀ p n, ((Finset.range n).filter fun i =>
      (run i).cursor.atEnd = false ∧ (run i).cursor.pos = p).card ≤ maxIdle + 1) ∧
    (∀ i d, (run i).cursor.atEnd = false → m.Idles Stack.sameShape (run i).cursor d →
      m.step Stack.sameShape nested (run i) = Config.recover d →
        maxIdle ≤ i ∧
        (∀ j, j ≤ i → ((run j).cursor.pos = (run i).cursor.pos ↔ i - maxIdle ≤ j)) ∧
        ∀ j, i - maxIdle ≤ j → j ≤ i → ∃ e, m.Idles Stack.sameShape (run j).cursor e) ∧
    ∀ ts, m.Yields Stack.sameShape 0 c ts ↔
      ts = m.drain Stack.sameShape m.nested c.stepBound c := by
  intro c run
  have hs : c.Sound := m.sound_opened text stack edits
  have ht : c.cursor.text = text := (m.opened_leads text stack edits).text
  refine ⟨?_, pos_after_mono m _ nested hs.valid, fun p n => card_steps_at_le hs rfl p n,
    fun i d hgo hidles hrec => limit_reached hs rfl hgo hidles hrec, fun ts => yields_iff hs⟩
  obtain ⟨k, hk, hend, hbefore⟩ := exists_last m Stack.sameShape nested hs
  refine ⟨k, ?_, fun i => ⟨fun hgo => ?_, hbefore i⟩⟩
  · have hbound : c.stepBound = (maxIdle + 1) * (text.slice ⟨c.cursor.pos, text.size⟩).length := by
      rw [Config.stepBound, Text.skip_eq_slice hs.valid.pos, ht]
    exact hbound ▸ Nat.le_trans hk c.left_le
  · refine Nat.lt_of_not_le fun hki => ?_
    have hend' : (run i).cursor.atEnd = true := by
      change (m.after Stack.sameShape nested i c).cursor.atEnd = true
      rw [after_of_le hend hki]
      exact hend
    rw [hend'] at hgo
    cases hgo

end Lexing.Machine
