import Lexing.Proofs.Run.Pull

/-!
# Pulls

`Pulls` says without fuel what one pull from a run does: it hands out the first pending token, or
finds the end, or makes a step and tries again. `Takes` is several pulls in a row. Both are
functions of the run, and they are what `next` and `take` compute.

A step that gives tokens also restarts the count of idle steps. So a run from which all pending
tokens were taken has nothing that its cursor does not tell.
-/
set_option autoImplicit false

namespace Lexing

variable {m : Machine} {same : Stack StateRef → Stack StateRef → Bool} {nested : Nested}

namespace Run

inductive Pulls (m : Machine) (same : Stack StateRef → Stack StateRef → Bool) (nested : Nested) :
    Run → Option Token → Run → Prop
  | pending {c : Config} {t : Token} {ts : List Token} :
      Pulls m same nested ⟨c, t :: ts⟩ (some t) ⟨c, ts⟩
  | ended {c : Config} (atEnd : c.cursor.atEnd = true) : Pulls m same nested ⟨c, []⟩ none ⟨c, []⟩
  | step {c : Config} {o : Option Token} {r : Run} (go : c.cursor.atEnd = false)
      (rest : Pulls m same nested ⟨(m.step same nested c).1, (m.step same nested c).2⟩ o r) :
      Pulls m same nested ⟨c, []⟩ o r

/-- At most `n` tokens, each with the run after it, and the last run. -/
inductive Takes (m : Machine) (same : Stack StateRef → Stack StateRef → Bool) (nested : Nested) :
    Nat → Run → List (Token × Run) → Run → Prop
  | zero {r : Run} : Takes m same nested 0 r [] r
  | ended {n : Nat} {r last : Run} (pull : Pulls m same nested r none last) :
      Takes m same nested (n + 1) r [] last
  | token {n : Nat} {r r' last : Run} {t : Token} {pulled : List (Token × Run)}
      (pull : Pulls m same nested r (some t) r') (rest : Takes m same nested n r' pulled last) :
      Takes m same nested (n + 1) r ((t, r') :: pulled) last

variable {c : Config} {r r' last : Run} {o : Option Token} {t : Token} {ts : List Token}
  {pulled : List (Token × Run)} {k n : Nat}

theorem pulls_pending_iff :
    Pulls m same nested ⟨c, t :: ts⟩ o r ↔ o = some t ∧ r = ⟨c, ts⟩ := by
  constructor
  · intro h
    cases h
    exact ⟨rfl, rfl⟩
  · rintro ⟨rfl, rfl⟩
    exact .pending

theorem pulls_ended_iff (h : c.cursor.atEnd = true) :
    Pulls m same nested ⟨c, []⟩ o r ↔ o = none ∧ r = ⟨c, []⟩ := by
  constructor
  · intro hp
    cases hp with
    | ended _ => exact ⟨rfl, rfl⟩
    | step go _ =>
      rw [h] at go
      cases go
  · rintro ⟨rfl, rfl⟩
    exact .ended h

theorem pulls_step_iff (h : c.cursor.atEnd = false) :
    Pulls m same nested ⟨c, []⟩ o r ↔
      Pulls m same nested ⟨(m.step same nested c).1, (m.step same nested c).2⟩ o r := by
  constructor
  · intro hp
    cases hp with
    | ended atEnd =>
      rw [h] at atEnd
      cases atEnd
    | step _ rest => exact rest
  · intro hp
    exact .step h hp

theorem Pulls.unique {o' : Option Token} {s : Run} (h : Pulls m same nested r o r')
    (h' : Pulls m same nested r o' s) : o' = o ∧ s = r' := by
  induction h with
  | pending => exact pulls_pending_iff.1 h'
  | ended atEnd => exact (pulls_ended_iff atEnd).1 h'
  | step go _ ih => exact ih ((pulls_step_iff go).1 h')

theorem Takes.unique {pulled' : List (Token × Run)} {last' : Run}
    (h : Takes m same nested n r pulled last) (h' : Takes m same nested n r pulled' last') :
    pulled' = pulled ∧ last' = last := by
  induction h generalizing pulled' last' with
  | zero =>
    cases h'
    exact ⟨rfl, rfl⟩
  | ended pull =>
    cases h' with
    | ended pull' => exact ⟨rfl, (pull.unique pull').2⟩
    | token pull' _ => cases (pull.unique pull').1
  | token pull _ ih =>
    cases h' with
    | ended pull' => cases (pull.unique pull').1
    | token pull' rest' =>
      obtain ⟨ht, rfl⟩ := pull.unique pull'
      obtain rfl := Option.some.inj ht
      obtain ⟨rfl, rfl⟩ := ih rest'
      exact ⟨rfl, rfl⟩

theorem Pulls.sound (h : Pulls m same nested r o r') (hs : r.config.Sound) :
    r'.config.Sound := by
  induction h with
  | pending => exact hs
  | ended _ => exact hs
  | step go _ ih =>
    have hnext := Machine.sound_advance m same nested hs
    rw [Machine.advance_of_go go] at hnext
    exact ih hnext

theorem Pulls.ended_of_none (h : Pulls m same nested r none r') : r'.Ended := by
  generalize ho : (none : Option Token) = o at h
  induction h with
  | pending => cases ho
  | ended atEnd => exact ⟨rfl, atEnd⟩
  | step _ _ ih => exact ih ho

theorem Takes.sound (h : Takes m same nested n r pulled last) (hs : r.config.Sound) :
    last.config.Sound := by
  induction h with
  | zero => exact hs
  | ended pull => exact pull.sound hs
  | token pull _ ih => exact ih (pull.sound hs)

theorem Takes.of_ended (h : Takes m same nested n r pulled last) (he : r.Ended) :
    pulled = [] ∧ last = r := by
  obtain ⟨c, pending⟩ := r
  obtain ⟨rfl, atEnd⟩ := he
  cases h with
  | zero => exact ⟨rfl, rfl⟩
  | ended pull => exact ⟨rfl, ((pulls_ended_iff atEnd).1 pull).2⟩
  | token pull _ => cases ((pulls_ended_iff atEnd).1 pull).1

theorem Takes.mono {same' : Stack StateRef → Stack StateRef → Bool} {nested' : Nested}
    (h : Takes m same nested n r pulled last) (hs : r.config.Sound)
    (hpull : ∀ r o r', r.config.Sound → Pulls m same nested r o r' →
      Pulls m same' nested' r o r') : Takes m same' nested' n r pulled last := by
  induction h with
  | zero => exact .zero
  | ended pull => exact .ended (hpull _ _ _ hs pull)
  | token pull _ ih => exact .token (hpull _ _ _ hs pull) (ih (pull.sound hs))

theorem Takes.append {pulled' : List (Token × Run)} {last' : Run}
    (h : Takes m same nested k r pulled last) (h' : Takes m same nested n last pulled' last') :
    Takes m same nested (k + n) r (pulled ++ pulled') last' := by
  induction h with
  | zero =>
    rw [Nat.zero_add]
    exact h'
  | ended pull =>
    obtain ⟨rfl, rfl⟩ := h'.of_ended pull.ended_of_none
    rw [Nat.succ_add]
    exact .ended pull
  | token pull _ ih =>
    rw [Nat.succ_add]
    exact .token pull (ih h')

/-- While tokens are pending, no idle step was made since they were given. -/
def Recent (r : Run) : Prop := r.pending ≠ [] → r.config.idle = 0

theorem recent_step (m : Machine) (same : Stack StateRef → Stack StateRef → Bool)
    (nested : Nested) (hv : c.cursor.Valid) (hgo : c.cursor.atEnd = false) :
    Recent ⟨(m.step same nested c).1, (m.step same nested c).2⟩ := by
  intro htokens
  have outcome := m.step_outcome same nested hv hgo
  generalize m.step same nested c = result at outcome htokens ⊢
  cases outcome with
  | moved _ _ => rfl
  | idled _ _ _ _ => exact absurd rfl htokens
  | stuck _ _ _ => exact Config.recover_idle
  | unmatched _ => exact Config.recover_idle

theorem Pulls.idle_eq_zero (h : Pulls m same nested r (some t) r') (hs : r.config.Sound)
    (hr : r.Recent) : r'.config.idle = 0 := by
  generalize ho : some t = o at h
  induction h with
  | pending => exact hr (List.cons_ne_nil _ _)
  | ended _ => cases ho
  | @step c _ _ go _ ih =>
    have hnext := Machine.sound_advance m same nested hs
    rw [Machine.advance_of_go go] at hnext
    exact ih hnext (recent_step m same nested hs.valid go) ho

theorem Takes.idle_or_ended (h : Takes m same nested n r pulled last) (hs : r.config.Sound)
    (hzero : r.config.idle = 0) : last.config.idle = 0 ∨ last.Ended := by
  induction h with
  | zero => exact .inl hzero
  | ended pull => exact .inr pull.ended_of_none
  | token pull _ ih => exact ih (pull.sound hs) (pull.idle_eq_zero hs fun _ => hzero)

theorem pulls_fill (h : r.config.Sound) {fuel : Nat} (hfuel : r.config.left ≤ fuel)
    (hp : Pulls m Stack.sameShape m.nested (r.fill m fuel) o r') :
    Pulls m Stack.sameShape m.nested r o r' := by
  induction fuel generalizing r with
  | zero => exact hp
  | succ fuel ih =>
    obtain ⟨c, pending⟩ := r
    cases pending with
    | cons t ts => rwa [fill_of_pending (List.cons_ne_nil t ts)] at hp
    | nil =>
      cases hgo : c.cursor.atEnd with
      | true => rwa [fill_of_atEnd hgo] at hp
      | false =>
        rw [fill_succ rfl hgo] at hp
        rw [pulls_step_iff hgo, ← Machine.advance_of_go hgo]
        have hpaid := Machine.advance_left m Stack.sameShape m.nested h hgo
        change c.left ≤ fuel + 1 at hfuel
        change _ ∨ (m.advance Stack.sameShape m.nested c).left < c.left at hpaid
        rcases hpaid with hend | hless
        · rwa [fill_of_atEnd hend] at hp
        · refine ih (Machine.sound_advance m Stack.sameShape m.nested h) ?_ hp
          change (m.advance Stack.sameShape m.nested c).left ≤ fuel
          omega

theorem pulls_next (m : Machine) (h : r.config.Sound) :
    Pulls m Stack.sameShape m.nested r (r.next m).1 (r.next m).2 := by
  refine pulls_fill h r.config.left_le ?_
  have hready := fill_ready m h r.config.left_le
  simp only [next]
  generalize r.fill m r.config.stepBound = filled at hready ⊢
  obtain ⟨c, pending⟩ := filled
  cases pending with
  | cons t ts => exact .pending
  | nil => exact .ended (hready.resolve_left (absurd rfl))

theorem takes_take (m : Machine) (h : r.config.Sound) (n : Nat) :
    Takes m Stack.sameShape m.nested n r (take m n r).1 (take m n r).2 := by
  induction n generalizing r with
  | zero => exact .zero
  | succ n ih =>
    have hpull := pulls_next m h
    simp only [take]
    generalize r.next m = result at hpull ⊢
    obtain ⟨token, r'⟩ := result
    cases token with
    | none => exact .ended hpull
    | some t => exact .token hpull (ih (hpull.sound h))

theorem takes_iff (h : r.config.Sound) :
    Takes m Stack.sameShape m.nested n r pulled last ↔ take m n r = (pulled, last) := by
  constructor
  · intro ht
    obtain ⟨hpulled, hlast⟩ := ht.unique (takes_take m h n)
    exact Prod.ext hpulled hlast
  · intro heq
    have ht := takes_take m h n
    rwa [heq] at ht

end Run

end Lexing
