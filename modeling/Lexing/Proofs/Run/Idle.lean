import Mathlib.Data.Finset.Max
import Mathlib.Order.Interval.Finset.Nat
import Lexing.Proofs.Run.Course

/-!
# Idle steps

The count of idle steps in a configuration is the number of steps made since the run came to its
offset. It stays within the limit, so a run begins few steps at one offset, and the limit stops it
only where all the steps it allows were idle.
-/
set_option autoImplicit false

namespace Lexing.Machine

variable {m : Machine} {same : Stack StateRef → Stack StateRef → Bool} {nested : Nested}
  {c : Config}

/-- The match, the callback and the stack edits of the step from `c` lead to `d`, at the same offset
but with a stack that counts as another one. -/
def Idles (m : Machine) (same : Stack StateRef → Stack StateRef → Bool) (c d : Cursor StateRef) :
    Prop :=
  ∃ rule found, m.firstMatch c = some (rule, found) ∧ m.arrive c rule found = d ∧
    d.pos = c.pos ∧ same c.stack d.stack = false

theorem step_of_idles {d : Cursor StateRef} (h : c.cursor.Valid) (hgo : c.cursor.atEnd = false)
    (hidles : m.Idles same c.cursor d) :
    (c.idle < maxIdle ∧ m.step same nested c = (⟨d, c.idle + 1⟩, [])) ∨
      (maxIdle ≤ c.idle ∧ m.step same nested c = Config.recover d) := by
  obtain ⟨rule, found, first, rfl, hpos, hchanged⟩ := hidles
  have outcome := m.step_outcome same nested h hgo
  generalize m.step same nested c = result at outcome ⊢
  cases outcome with
  | moved first' further =>
    obtain ⟨rfl, rfl⟩ := Prod.mk.inj (Option.some.inj (first.symm.trans first'))
    omega
  | idled first' _ _ allowed =>
    obtain ⟨rfl, rfl⟩ := Prod.mk.inj (Option.some.inj (first.symm.trans first'))
    exact .inl ⟨allowed, rfl⟩
  | stuck first' _ blocked =>
    obtain ⟨rfl, rfl⟩ := Prod.mk.inj (Option.some.inj (first.symm.trans first'))
    rw [hchanged] at blocked
    exact .inr ⟨blocked.resolve_left Bool.false_ne_true, rfl⟩
  | unmatched none =>
    rw [first] at none
    cases none

theorem idles_of_count (h : c.cursor.Valid) (hgo : c.cursor.atEnd = false)
    (hcount : (m.step same nested c).1.idle = c.idle + 1) : ∃ d, m.Idles same c.cursor d := by
  have outcome := m.step_outcome same nested h hgo
  generalize m.step same nested c = result at outcome hcount
  cases outcome with
  | moved _ _ => cases hcount
  | idled first there changed _ => exact ⟨_, _, _, first, rfl, there, changed⟩
  | stuck _ _ _ =>
    rw [Config.recover_idle] at hcount
    cases hcount
  | unmatched _ =>
    rw [Config.recover_idle] at hcount
    cases hcount

theorem pos_after_mono (m : Machine) (same : Stack StateRef → Stack StateRef → Bool)
    (nested : Nested) (h : c.cursor.Valid) :
    Monotone fun i => (m.after same nested i c).cursor.pos := by
  refine monotone_nat_of_le_succ fun i => ?_
  rw [after_succ_last]
  exact (advance_leads (after_leads h i).valid).pos

/-- The steps at one offset begin with some step `f`, from where on they are idle and counted. -/
theorem exists_first (h : c.Sound) (hzero : c.idle = 0) {i : Nat}
    (hgo : (m.after same nested i c).cursor.atEnd = false) :
    ∃ f, f ≤ i ∧ (m.after same nested i c).idle = i - f ∧
      (∀ j, j ≤ i → ((m.after same nested j c).cursor.pos = (m.after same nested i c).cursor.pos ↔
        f ≤ j)) ∧
      ∀ j, f ≤ j → j < i → ∃ d, m.Idles same (m.after same nested j c).cursor d := by
  induction i with
  | zero =>
    refine ⟨0, Nat.le_refl _, hzero, fun j hj => ?_, fun j _ hj => absurd hj (Nat.not_lt_zero j)⟩
    obtain rfl : j = 0 := by omega
    simp
  | succ i ih =>
    have hgo' := go_of_le hgo (Nat.le_succ i)
    have hs := sound_after m same nested h i
    have hmono := pos_after_mono m same nested h.valid
    rw [after_succ_last, advance_of_go hgo'] at hgo ⊢
    rcases step_progress hs.valid hgo' with ⟨further, hidle⟩ | hend | ⟨there, _, hcount⟩
    · refine ⟨i + 1, Nat.le_refl _, by rw [hidle, Nat.sub_self], fun j hj => ?_,
        fun j hfj hj => absurd hj (by omega)⟩
      rcases Nat.lt_or_eq_of_le hj with hlt | rfl
      · have := hmono (Nat.le_of_lt_succ hlt)
        simp only at this
        omega
      · rw [after_succ_last, advance_of_go hgo']
        simp
    · rw [hend] at hgo
      cases hgo
    · obtain ⟨f, hf, hidle, hpos, hall⟩ := ih hgo'
      refine ⟨f, by omega, by omega, fun j hj => ?_, fun j hfj hj => ?_⟩
      · rw [there]
        rcases Nat.lt_or_eq_of_le hj with hlt | rfl
        · exact hpos j (by omega)
        · rw [after_succ_last, advance_of_go hgo', there]
          simp
          omega
      · rcases Nat.lt_or_eq_of_le (Nat.le_of_lt_succ hj) with hlt | rfl
        · exact hall j hfj hlt
        · exact idles_of_count hs.valid hgo' hcount

/-- A run begins no more steps at one offset than one more than may be idle. -/
theorem card_steps_at_le (h : c.Sound) (hzero : c.idle = 0) (p n : Nat) :
    ((Finset.range n).filter fun i =>
      (m.after same nested i c).cursor.atEnd = false ∧
        (m.after same nested i c).cursor.pos = p).card ≤ maxIdle + 1 := by
  generalize hS : ((Finset.range n).filter fun i => (m.after same nested i c).cursor.atEnd = false ∧
    (m.after same nested i c).cursor.pos = p) = S
  rcases S.eq_empty_or_nonempty with rfl | hne
  · exact Nat.zero_le _
  · obtain ⟨i, hi, hmax⟩ := S.exists_max_image id hne
    have hmem : ∀ j ∈ S, (m.after same nested j c).cursor.atEnd = false ∧
        (m.after same nested j c).cursor.pos = p := fun j hj => by
      rw [← hS, Finset.mem_filter] at hj
      exact hj.2
    obtain ⟨f, hf, hidle, hpos, _⟩ := exists_first h hzero (hmem i hi).1
    have hbound := (sound_after m same nested h i).idle
    have hsub : S ⊆ Finset.Icc f i := by
      intro j hj
      have hji : j ≤ i := hmax j hj
      exact Finset.mem_Icc.2
        ⟨(hpos j hji).1 ((hmem j hj).2.trans (hmem i hi).2.symm), hji⟩
    calc
      S.card ≤ (Finset.Icc f i).card := Finset.card_le_card hsub
      _ = i + 1 - f := Nat.card_Icc f i
      _ ≤ maxIdle + 1 := by omega

/-- Where the limit stops an idle step, it is the last of as many idle steps at its offset as the
limit allows and one more. -/
theorem limit_reached (h : c.Sound) (hzero : c.idle = 0) {i : Nat}
    (hgo : (m.after same nested i c).cursor.atEnd = false) {d : Cursor StateRef}
    (hidles : m.Idles same (m.after same nested i c).cursor d)
    (hrecover : m.step same nested (m.after same nested i c) = Config.recover d) :
    maxIdle ≤ i ∧
      (∀ j, j ≤ i → ((m.after same nested j c).cursor.pos = (m.after same nested i c).cursor.pos ↔
        i - maxIdle ≤ j)) ∧
      ∀ j, i - maxIdle ≤ j → j ≤ i → ∃ e, m.Idles same (m.after same nested j c).cursor e := by
  have hs := sound_after m same nested h i
  obtain ⟨f, hf, hidle, hpos, hall⟩ := exists_first h hzero hgo
  have hlimit : (m.after same nested i c).idle = maxIdle := by
    rcases step_of_idles hs.valid hgo hidles with ⟨_, heq⟩ | ⟨hle, _⟩
    · have hcount := congrArg (fun r => r.1.idle) (hrecover.symm.trans heq)
      simp only [Config.recover_idle] at hcount
      omega
    · exact Nat.le_antisymm hs.idle hle
  obtain rfl : f = i - maxIdle := by omega
  refine ⟨by omega, hpos, fun j hfj hji => ?_⟩
  rcases Nat.lt_or_eq_of_le hji with hlt | rfl
  · exact hall j hfj hlt
  · exact ⟨d, hidles⟩

end Lexing.Machine
