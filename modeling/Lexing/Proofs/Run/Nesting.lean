import Lexing.Proofs.Run.Course

/-!
# Nested runs

`Yields` says what the tokens of a run are without fuel and without a count of levels that are left:
a step follows the other until the end, and text that the machine hands to itself is lexed by a run
one level deeper, or is one error token where that would be too deep. Every run yields exactly the
tokens that are computed for it. So every run ends, with all the runs inside it.
-/
set_option autoImplicit false

namespace Lexing

/-- The tokens of a run from a configuration, `depth` runs inside each other. -/
inductive Machine.Yields (m : Machine) (same : Stack StateRef → Stack StateRef → Bool) :
    Nat → Config → List Token → Prop
  | ended {depth : Nat} {c : Config} (atEnd : c.cursor.atEnd = true) : Yields m same depth c []
  | step {depth : Nat} {c : Config} {nested : Nested} {ts : List Token}
      (go : c.cursor.atEnd = false)
      (deeper : ∀ s stack, (s, .self stack) ∈ m.handed c.cursor → depth < maxNesting →
        Yields m same (depth + 1) (Config.start (c.cursor.text.slice s) stack)
          (nested (c.cursor.text.slice s) stack))
      (cut : ∀ s stack, (s, .self stack) ∈ m.handed c.cursor → maxNesting ≤ depth →
        nested (c.cursor.text.slice s) stack = [⟨0, .error, c.cursor.text.slice s⟩])
      (rest : Yields m same depth (m.step same nested c).1 ts) :
      Yields m same depth c ((m.step same nested c).2 ++ ts)

namespace Machine

variable {m : Machine} {same : Stack StateRef → Stack StateRef → Bool} {c : Config} {depth : Nat}
  {ts : List Token}

theorem nestedTokens_succ (levels : Nat) (text : Text) (stack : Stack StateRef) :
    m.nestedTokens same (levels + 1) text stack =
      m.runTokens same (m.nestedTokens same levels) (Config.start text stack) := rfl

theorem yields_of_nested {nested : Nested} (h : c.Sound)
    (deeper : depth < maxNesting → ∀ text stack,
      m.Yields same (depth + 1) (Config.start text stack) (nested text stack))
    (cut : maxNesting ≤ depth → ∀ text stack, nested text stack = [⟨0, .error, text⟩]) :
    m.Yields same depth c (m.runTokens same nested c) := by
  induction c, h using run_induction m same nested with
  | ended c _ hend =>
    rw [runTokens_of_atEnd hend]
    exact .ended hend
  | going c h hgo hrest =>
    rw [runTokens_of_go h hgo]
    rw [advance_of_go hgo] at hrest ⊢
    exact .step hgo (fun s stack _ hlt => deeper hlt _ stack) (fun s stack _ hle => cut hle _ stack)
      hrest

theorem yields_runTokens (h : c.Sound) (levels : Nat) (hd : depth + levels = maxNesting) :
    m.Yields same depth c (m.runTokens same (m.nestedTokens same levels) c) := by
  induction levels generalizing depth c with
  | zero => exact yields_of_nested h (fun hlt => absurd hlt (by omega)) fun _ _ _ => rfl
  | succ levels ih =>
    refine yields_of_nested h (fun _ text stack => ?_) fun hle => absurd hle (by omega)
    exact ih (Config.sound_start text stack) (by omega)

/-- Yielded tokens are the computed ones: a step sees of the nested runs only what it hands on. -/
theorem eq_runTokens_of_yields (hy : m.Yields same depth c ts) (h : c.Sound)
    (hd : depth ≤ maxNesting) :
    ts = m.runTokens same (m.nestedTokens same (maxNesting - depth)) c := by
  induction hy with
  | ended hend => rw [runTokens_of_atEnd hend]
  | @step depth c nested ts go _ cut _ deeper ih =>
    have hstep : m.step same nested c =
        m.step same (m.nestedTokens same (maxNesting - depth)) c := by
      refine step_congr h.valid go fun s stack hmem => ?_
      rcases Nat.lt_or_ge depth maxNesting with hlt | hge
      · rw [deeper s stack hmem hlt (Config.sound_start _ _) hlt]
        have hlevels : maxNesting - depth = (maxNesting - (depth + 1)) + 1 := by omega
        rw [hlevels, nestedTokens_succ]
      · rw [cut s stack hmem hge]
        have hlevels : maxNesting - depth = 0 := by omega
        rw [hlevels]
        rfl
    have hnext := sound_advance m same nested h
    rw [advance_of_go go] at hnext
    rw [runTokens_of_go h go, advance_of_go go, ← hstep]
    exact congrArg _ (ih hnext hd)

theorem yields_iff (h : c.Sound) :
    m.Yields same 0 c ts ↔ ts = m.runTokens same (m.nestedTokens same maxNesting) c := by
  constructor
  · intro hy
    exact eq_runTokens_of_yields hy h (Nat.zero_le _)
  · rintro rfl
    exact yields_runTokens h maxNesting (Nat.zero_add _)

end Machine

end Lexing
