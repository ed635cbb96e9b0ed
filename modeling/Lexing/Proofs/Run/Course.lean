import Mathlib.Logic.Function.Iterate
import Lexing.Proofs.Run.Emitted
import Lexing.Run.Basic

/-!
# The course of a run

A run goes from one configuration to the next until its cursor is at the end. Every step pays with
what is left: a count of characters, times one more than the idle steps allowed, less the idle steps
made. So a run ends within the bound on its steps, and the fuel of a run never decides its tokens.
-/
set_option autoImplicit false

namespace Lexing

/-- The cursor is valid, and no more steps than allowed were idle. -/
structure Config.Sound (c : Config) : Prop where
  valid : c.cursor.Valid
  idle : c.idle ≤ maxIdle

theorem Config.sound_start (text : Text) (stack : Stack StateRef) :
    (Config.start text stack).Sound :=
  ⟨Cursor.valid_start text stack, Nat.zero_le _⟩

namespace Machine

def advance (m : Machine) (same : Stack StateRef → Stack StateRef → Bool) (nested : Nested)
    (c : Config) : Config :=
  if c.cursor.atEnd then c else (m.step same nested c).1

def after (m : Machine) (same : Stack StateRef → Stack StateRef → Bool) (nested : Nested) (n : Nat)
    (c : Config) : Config :=
  (m.advance same nested)^[n] c

variable {m : Machine} {same : Stack StateRef → Stack StateRef → Bool} {nested : Nested}
  {c : Config}

@[simp] theorem after_zero : m.after same nested 0 c = c := rfl

theorem after_succ (n : Nat) :
    m.after same nested (n + 1) c = m.after same nested n (m.advance same nested c) := rfl

theorem after_succ_last (n : Nat) :
    m.after same nested (n + 1) c = m.advance same nested (m.after same nested n c) :=
  Function.iterate_succ_apply' _ _ _

theorem after_add (k n : Nat) :
    m.after same nested (k + n) c = m.after same nested k (m.after same nested n c) :=
  Function.iterate_add_apply _ _ _ _

theorem advance_of_atEnd (h : c.cursor.atEnd = true) : m.advance same nested c = c := if_pos h

theorem advance_of_go (h : c.cursor.atEnd = false) :
    m.advance same nested c = (m.step same nested c).1 := by
  rw [advance, h]
  rfl

theorem after_of_atEnd (h : c.cursor.atEnd = true) (n : Nat) : m.after same nested n c = c :=
  Function.iterate_fixed (advance_of_atEnd h) n

theorem after_of_le {k n : Nat} (h : (m.after same nested k c).cursor.atEnd = true) (hkn : k ≤ n) :
    m.after same nested n c = m.after same nested k c := by
  obtain ⟨j, rfl⟩ := Nat.exists_eq_add_of_le' hkn
  rw [after_add, after_of_atEnd h]

theorem go_of_le {k n : Nat} (h : (m.after same nested n c).cursor.atEnd = false) (hkn : k ≤ n) :
    (m.after same nested k c).cursor.atEnd = false := by
  rw [Bool.eq_false_iff]
  intro hend
  rw [after_of_le hend hkn, hend] at h
  cases h

theorem advance_leads (h : c.cursor.Valid) : c.cursor.Leads (m.advance same nested c).cursor := by
  cases hgo : c.cursor.atEnd with
  | true =>
    rw [advance_of_atEnd hgo]
    exact ⟨h, rfl, Nat.le_refl _⟩
  | false =>
    rw [advance_of_go hgo]
    exact step_leads h hgo

theorem after_leads (h : c.cursor.Valid) (n : Nat) :
    c.cursor.Leads (m.after same nested n c).cursor := by
  induction n with
  | zero => exact ⟨h, rfl, Nat.le_refl _⟩
  | succ n ih =>
    rw [after_succ_last]
    exact ih.trans (advance_leads ih.valid)

theorem sound_advance (m : Machine) (same : Stack StateRef → Stack StateRef → Bool)
    (nested : Nested) (h : c.Sound) : (m.advance same nested c).Sound := by
  refine ⟨(advance_leads h.valid).valid, ?_⟩
  cases hgo : c.cursor.atEnd with
  | true =>
    rw [advance_of_atEnd hgo]
    exact h.idle
  | false =>
    rw [advance_of_go hgo]
    have outcome := m.step_outcome same nested h.valid hgo
    generalize m.step same nested c = result at outcome ⊢
    cases outcome with
    | moved _ _ => exact Nat.zero_le _
    | idled _ _ _ allowed => exact allowed
    | stuck _ _ _ =>
      rw [Config.recover_idle]
      exact Nat.zero_le _
    | unmatched _ =>
      rw [Config.recover_idle]
      exact Nat.zero_le _

theorem sound_after (m : Machine) (same : Stack StateRef → Stack StateRef → Bool)
    (nested : Nested) (h : c.Sound) (n : Nat) : (m.after same nested n c).Sound := by
  induction n with
  | zero => exact h
  | succ n ih =>
    rw [after_succ_last]
    exact sound_advance m same nested ih

end Machine

def Config.left (c : Config) : Nat := c.stepBound - c.idle

theorem Config.left_le (c : Config) : c.left ≤ c.stepBound := Nat.sub_le _ _

theorem Config.idle_lt_stepBound {c : Config} (h : c.Sound) (hgo : c.cursor.atEnd = false) :
    c.idle < c.stepBound := by
  have hlt := Text.length_skip_lt h.valid.pos c.cursor.text.boundary_size
    (Nat.lt_of_lt_of_le (Cursor.lt_of_not_atEnd hgo) h.valid.stop.le_size)
  have hidle := h.idle
  have hle : maxIdle + 1 ≤ c.stepBound := Nat.le_mul_of_pos_right _ (by omega)
  omega

namespace Machine

variable {m : Machine} {same : Stack StateRef → Stack StateRef → Bool} {nested : Nested}
  {c : Config}

/-- A step that does not end the run is paid for. -/
theorem advance_left (m : Machine) (same : Stack StateRef → Stack StateRef → Bool)
    (nested : Nested) (h : c.Sound) (hgo : c.cursor.atEnd = false) :
    (m.advance same nested c).cursor.atEnd = true ∨ (m.advance same nested c).left < c.left := by
  have hl : c.cursor.Leads (m.advance same nested c).cursor := advance_leads h.valid
  have hpay := Config.idle_lt_stepBound h hgo
  have hidle := h.idle
  rw [advance_of_go hgo] at hl ⊢
  simp only [Config.left, Config.stepBound] at hpay ⊢
  rcases step_progress h.valid hgo with ⟨further, hzero⟩ | hend | ⟨there, allowed, hcount⟩
  · right
    have hb := hl.valid.pos
    rw [hl.text] at hb ⊢
    have hshort := Text.length_skip_lt h.valid.pos hb further
    have hmul := Nat.mul_le_mul_left (maxIdle + 1) hshort
    rw [hzero]
    rw [Nat.mul_succ] at hmul
    omega
  · exact .inl hend
  · right
    rw [hl.text, there, hcount]
    omega

theorem exists_last (m : Machine) (same : Stack StateRef → Stack StateRef → Bool)
    (nested : Nested) (h : c.Sound) : ∃ k, k ≤ c.left ∧
    (m.after same nested k c).cursor.atEnd = true ∧
    ∀ i, i < k → (m.after same nested i c).cursor.atEnd = false := by
  generalize hn : c.left = n
  induction n using Nat.strongRecOn generalizing c with
  | ind n ih =>
    cases hgo : c.cursor.atEnd with
    | true => exact ⟨0, Nat.zero_le _, hgo, fun i hi => absurd hi (Nat.not_lt_zero i)⟩
    | false =>
      have hpos : 0 < n := by
        have := Config.idle_lt_stepBound h hgo
        simp only [Config.left] at hn
        omega
      rcases advance_left m same nested h hgo with hend | hless
      · refine ⟨1, hpos, hend, fun i hi => ?_⟩
        obtain rfl : i = 0 := by omega
        exact hgo
      · obtain ⟨k, hk, hend, hbefore⟩ := ih _ (hn ▸ hless) (sound_advance m same nested h) rfl
        refine ⟨k + 1, by omega, hend, fun i hi => ?_⟩
        cases i with
        | zero => exact hgo
        | succ i => exact hbefore i (by omega)

theorem atEnd_after (m : Machine) (same : Stack StateRef → Stack StateRef → Bool)
    (nested : Nested) (h : c.Sound) {n : Nat} (hn : c.left ≤ n) :
    (m.after same nested n c).cursor.atEnd = true := by
  obtain ⟨k, hk, hend, _⟩ := exists_last m same nested h
  rw [after_of_le hend (Nat.le_trans hk hn)]
  exact hend

theorem drain_of_atEnd (h : c.cursor.atEnd = true) (n : Nat) : m.drain same nested n c = [] := by
  cases n with
  | zero => rfl
  | succ n => simp only [drain, h, if_true]

theorem drain_succ (h : c.cursor.atEnd = false) (n : Nat) :
    m.drain same nested (n + 1) c =
      (m.step same nested c).2 ++ m.drain same nested n (m.advance same nested c) := by
  rw [advance_of_go h]
  simp only [drain, h, Bool.false_eq_true, if_false]

/-- More fuel than the steps of a run changes nothing. -/
theorem drain_of_le {k n : Nat} (h : (m.after same nested k c).cursor.atEnd = true)
    (hkn : k ≤ n) : m.drain same nested n c = m.drain same nested k c := by
  induction k generalizing n c with
  | zero =>
    rw [after_zero] at h
    rw [drain_of_atEnd h, drain_of_atEnd h]
  | succ k ih =>
    obtain ⟨n, rfl⟩ := Nat.exists_eq_succ_of_ne_zero (by omega : n ≠ 0)
    cases hgo : c.cursor.atEnd with
    | true => rw [drain_of_atEnd hgo, drain_of_atEnd hgo]
    | false => rw [drain_succ hgo, drain_succ hgo, ih h (by omega)]

def runTokens (m : Machine) (same : Stack StateRef → Stack StateRef → Bool) (nested : Nested)
    (c : Config) : List Token :=
  m.drain same nested c.stepBound c

theorem drain_eq_runTokens (h : c.Sound) {n : Nat} (hn : c.left ≤ n) :
    m.drain same nested n c = m.runTokens same nested c := by
  have hend := atEnd_after m same nested h (Nat.le_refl _)
  rw [runTokens, drain_of_le hend hn, drain_of_le hend c.left_le]

theorem runTokens_of_atEnd (h : c.cursor.atEnd = true) : m.runTokens same nested c = [] :=
  drain_of_atEnd h _

theorem runTokens_of_go (h : c.Sound) (hgo : c.cursor.atEnd = false) :
    m.runTokens same nested c =
      (m.step same nested c).2 ++ m.runTokens same nested (m.advance same nested c) := by
  have hpay := Config.idle_lt_stepBound h hgo
  obtain ⟨n, hn⟩ := Nat.exists_eq_succ_of_ne_zero (by omega : c.stepBound ≠ 0)
  rw [runTokens, hn, drain_succ hgo]
  congr 1
  rcases advance_left m same nested h hgo with hend | hless
  · rw [drain_of_atEnd hend, runTokens_of_atEnd hend]
  · have := c.left_le
    exact drain_eq_runTokens (sound_advance m same nested h) (by omega)

/-- What holds at the end of runs, and before a step if it holds after it, holds of all
configurations. -/
theorem run_induction (m : Machine) (same : Stack StateRef → Stack StateRef → Bool)
    (nested : Nested) {motive : (c : Config) → c.Sound → Prop}
    (ended : ∀ (c : Config) (h : c.Sound), c.cursor.atEnd = true → motive c h)
    (going : ∀ (c : Config) (h : c.Sound), c.cursor.atEnd = false →
      motive (m.advance same nested c) (sound_advance m same nested h) → motive c h)
    (c : Config) (h : c.Sound) : motive c h := by
  generalize hn : c.left = n
  induction n using Nat.strongRecOn generalizing c with
  | ind n ih =>
    cases hgo : c.cursor.atEnd with
    | true => exact ended c h hgo
    | false =>
      have hnext := sound_advance m same nested h
      refine going c h hgo ?_
      rcases advance_left m same nested h hgo with hend | hless
      · exact ended _ hnext hend
      · exact ih _ (hn ▸ hless) _ hnext rfl

end Machine

end Lexing
