import Mathlib.Algebra.GroupWithZero.Nat
import Lexing.Proofs.Lexer.Composed
import Lexing.Proofs.Run.Pulls

/-!
# Stopping a run and resuming it

A run can be stopped where all tokens of its last step were taken, and its cursor is then all that
is needed to go on: the run that is resumed from the cursor gives the tokens that the stopped run
would have given, with the same runs after them. Where the last token taken ends at the cursor,
nothing is pending, as long as the lexers that the machine hands text to keep their tokens in it.
-/
set_option autoImplicit false

namespace Lexing

variable {m : Machine} {c : Cursor StateRef} {r r' last : Run} {t : Token}
  {pulled : List (Token × Run)} {n : Nat}

namespace Machine

/-- The tokens of a step lie between the offsets where it began and ended if the lexers that the
machine hands text to give parts of it, in order. -/
theorem step_placed {g : Grammar} {steering : Bool} (built : g.build steering = .ok m)
    (orderly : ∀ l, .lexer l ∈ g.delegates → l.Orderly) {c : Config} (hv : c.cursor.Valid)
    (hgo : c.cursor.atEnd = false) :
    Placed c.cursor.text c.cursor.pos (m.step Stack.sameShape m.nested c).1.cursor.pos
      (m.step Stack.sameShape m.nested c).2 := by
  refine (step_spec m Stack.sameShape m.nested hv hgo fun s d hmem => ?_).1
  have hin := handed_inside hv hgo hmem
  exact delegated_placed hin
    ((tasks_placed built orderly).1 maxNesting d _ (handsTo_of_handed hmem) hin.ne_nil)

end Machine

namespace Run

def Behind (r : Run) : Prop :=
  ∃ start, Placed r.config.cursor.text start r.config.cursor.pos r.pending

section

variable {g : Grammar} {steering : Bool} (built : g.build steering = .ok m)
  (orderly : ∀ l, .lexer l ∈ g.delegates → l.Orderly)
include built orderly

theorem Pulls.placed (h : Pulls m Stack.sameShape m.nested r (some t) r') (hs : r.config.Sound)
    (hb : r.Behind) :
    Placed r'.config.cursor.text t.stop r'.config.cursor.pos r'.pending := by
  generalize ho : some t = o at h
  induction h with
  | @pending c u us =>
    obtain rfl := Option.some.inj ho
    obtain ⟨_, _, _, hrest⟩ := hb
    exact hrest
  | ended _ => cases ho
  | @step c _ _ go _ ih =>
    have hnext := Machine.sound_advance m Stack.sameShape m.nested hs
    rw [Machine.advance_of_go go] at hnext
    have hl : c.cursor.Leads (m.step Stack.sameShape m.nested c).1.cursor :=
      Machine.step_leads hs.valid go
    have hstep := Machine.step_placed built orderly hs.valid go
    rw [← hl.text] at hstep
    exact ih hnext ⟨_, hstep⟩ ho

theorem Takes.placed (h : Takes m Stack.sameShape m.nested n r pulled last)
    (hs : r.config.Sound) (hb : r.Behind) (hlast : (pulled.map Prod.fst).getLast? = some t) :
    last.Ended ∨
      Placed last.config.cursor.text t.stop last.config.cursor.pos last.pending := by
  induction h with
  | zero => cases hlast
  | ended _ => cases hlast
  | @token n r r' last u pulled pull rest ih =>
    have hplaced := pull.placed built orderly hs hb
    cases pulled with
    | nil =>
      obtain rfl := Option.some.inj hlast
      cases rest with
      | zero => exact .inr hplaced
      | ended pull' => exact .inl pull'.ended_of_none
    | cons p pulled =>
      rw [List.map_cons, List.map_cons, List.getLast?_cons_cons] at hlast
      exact ih (pull.sound hs) ⟨_, hplaced⟩ hlast

theorem Takes.pending_eq_nil (h : Takes m Stack.sameShape m.nested n r pulled last)
    (hs : r.config.Sound) (hb : r.Behind) (hlast : (pulled.map Prod.fst).getLast? = some t)
    (hstop : t.stop = last.config.cursor.pos) : last.pending = [] := by
  rcases h.placed built orderly hs hb hlast with hended | hplaced
  · exact hended.pending
  · cases hpending : last.pending with
    | nil => rfl
    | cons u us =>
      rw [hpending] at hplaced
      obtain ⟨hle, hpart, hrest⟩ := hplaced
      have hlt := hpart.lt
      have hle' := hrest.le
      omega

end

theorem eq_resume (hp : r.pending = []) (hz : r.config.idle = 0) :
    r = resume r.config.cursor := by
  obtain ⟨⟨cursor, idle⟩, pending⟩ := r
  obtain rfl : pending = [] := hp
  obtain rfl : idle = 0 := hz
  rfl

theorem take_resume_eq (hs : r.config.Sound) (hp : r.pending = [])
    (hz : r.config.idle = 0 ∨ r.Ended) (n : Nat) :
    (take m n (resume r.config.cursor)).1 = (take m n r).1 ∧
      (take m n (resume r.config.cursor)).2.config.cursor = (take m n r).2.config.cursor := by
  rcases hz with hz | hended
  · rw [← eq_resume hp hz]
    exact ⟨rfl, rfl⟩
  · have hstopped : (resume r.config.cursor).Ended := ⟨rfl, hended.atEnd⟩
    have hsound : (resume r.config.cursor).config.Sound := ⟨hs.valid, Nat.zero_le _⟩
    obtain ⟨hnone, hlast⟩ := (takes_take m hs n).of_ended hended
    obtain ⟨hnone', hlast'⟩ := (takes_take m hsound n).of_ended hstopped
    rw [hnone, hnone', hlast, hlast']
    exact ⟨rfl, rfl⟩

theorem take_add (h : r.config.Sound) (k n : Nat) :
    take m (k + n) r =
      ((take m k r).1 ++ (take m n (take m k r).2).1, (take m n (take m k r).2).2) := by
  have hfirst := takes_take m h k
  exact (takes_iff h).1 (hfirst.append (takes_take m (hfirst.sound h) n))

/-- A run that is stopped after each of the given numbers of tokens and resumed from its cursor, and
from which `n` more tokens are taken in the end. -/
def stretches (m : Machine) (n : Nat) : List Nat → Cursor StateRef → List (Token × Run) × Run
  | [], c => take m n (resume c)
  | k :: ks, c =>
    let (pulled, r) := take m k (resume c)
    let (rest, last) := stretches m n ks r.config.cursor
    (pulled ++ rest, last)

/-- Wherever the run is stopped, nothing is pending. -/
def StopsClean (m : Machine) : List Nat → Cursor StateRef → Prop
  | [], _ => True
  | k :: ks, c =>
    let r := (take m k (resume c)).2
    r.pending = [] ∧ StopsClean m ks r.config.cursor

theorem stretches_eq {ks : List Nat} (hv : c.Valid) (clean : StopsClean m ks c) :
    (stretches m n ks c).1 = (take m (ks.sum + n) (resume c)).1 ∧
      (stretches m n ks c).2.config.cursor =
        (take m (ks.sum + n) (resume c)).2.config.cursor := by
  induction ks generalizing c with
  | nil =>
    rw [List.sum_nil, Nat.zero_add]
    exact ⟨rfl, rfl⟩
  | cons k ks ih =>
    have hs : (resume c).config.Sound := ⟨hv, Nat.zero_le _⟩
    have hfirst := takes_take m hs k
    have hsound := hfirst.sound hs
    have hz := hfirst.idle_or_ended hs rfl
    simp only [stretches, StopsClean] at clean ⊢
    obtain ⟨hp, hclean⟩ := clean
    obtain ⟨hrest, hcursor⟩ := ih hsound.valid hclean
    obtain ⟨htokens, hsame⟩ := take_resume_eq (m := m) hsound hp hz (ks.sum + n)
    rw [List.sum_cons, Nat.add_assoc, take_add hs, hrest, hcursor, htokens, hsame]
    exact ⟨rfl, rfl⟩

/-- From wherever a run begins, it may be stopped and resumed from its cursor any number of times,
as long as nothing is pending then: its tokens are those of the run that is not stopped, with the
same runs after them. Nothing is pending where the last token taken ends at the cursor. -/
theorem stretches_eq_take {g : Grammar} {m : Machine} (built : g.build true = .ok m)
    {c : Cursor StateRef} (valid : c.Valid) :
    (∀ ks n, StopsClean m ks c →
      (stretches m n ks c).1 = (take m (ks.sum + n) (resume c)).1 ∧
      (stretches m n ks c).2.config.cursor =
        (take m (ks.sum + n) (resume c)).2.config.cursor) ∧
    ((∀ l, .lexer l ∈ g.delegates → l.Orderly) → ∀ k t,
      ((take m k (resume c)).1.map Prod.fst).getLast? = some t →
        t.stop = (take m k (resume c)).2.config.cursor.pos →
          (take m k (resume c)).2.pending = []) := by
  refine ⟨fun ks n clean => stretches_eq valid clean, fun orderly k t hlast hstop => ?_⟩
  have hs : (resume c).config.Sound := ⟨valid, Nat.zero_le _⟩
  exact (takes_take m hs k).pending_eq_nil built orderly hs ⟨0, Nat.zero_le _⟩ hlast hstop

/-- Whose first rule gives two tokens in one step, of which it hands one on to itself. -/
def pairing : Grammar :=
  ((Grammar.empty "pairing" .standard).define "root"
    [.rule "(a)(b)" (.groups [.kind .other, .delegate (.self ["inner"])]) (.push "root"),
      .rule "c" (.steer fun found _ => ([.setPos found.stop], [])) .stay]).define "inner"
    [.rule "b" (.kind .text) .stay]

theorem stretches_eq_take_pairing : ∃ m, pairing.build true = .ok m ∧
    let c := m.opened ['x', 'a', 'b', 'c', 'a', 'b'] (.single (.named m.root)) [.setPos 1]
    StopsClean m [2, 1] c ∧
      (stretches m 3 [2, 1] c).1 = (take m 6 (resume c)).1 ∧
      (take m 1 (resume c)).2.pending ≠ [] ∧
      ∃ t, ((take m 2 (resume c)).1.map Prod.fst).getLast? = some t ∧
        t.stop = (take m 2 (resume c)).2.config.cursor.pos ∧
        (take m 2 (resume c)).2.pending = [] := by
  have found : (pairing.build true).toOption.any (fun m =>
      let c := m.opened ['x', 'a', 'b', 'c', 'a', 'b'] (.single (.named m.root)) [.setPos 1]
      decide ((take m 2 (resume c)).2.pending = [] ∧
        (take m 1 (resume (take m 2 (resume c)).2.config.cursor)).2.pending = [] ∧
        (take m 1 (resume c)).2.pending ≠ [] ∧
        ((take m 2 (resume c)).1.map Prod.fst).getLast? = some ⟨2, .text, ['b']⟩ ∧
        (take m 2 (resume c)).2.config.cursor.pos = 3)) = true := by decide +kernel
  obtain ⟨m, built, h⟩ := exists_of_any found
  obtain ⟨hfirst, hsecond, hearly, hlast, hpos⟩ := of_decide_eq_true h
  have orderly : ∀ l, .lexer l ∈ pairing.delegates → l.Orderly := by
    intro l hl
    change Delegate.lexer l ∈ [Delegate.self _] at hl
    simp only [List.mem_cons, reduceCtorEq, List.not_mem_nil, or_false] at hl
  obtain ⟨hall, hclean⟩ := stretches_eq_take built
    (m.opened_leads ['x', 'a', 'b', 'c', 'a', 'b'] (.single (.named m.root)) [.setPos 1]).valid
  have clean : StopsClean m [2, 1]
      (m.opened ['x', 'a', 'b', 'c', 'a', 'b'] (.single (.named m.root)) [.setPos 1]) :=
    ⟨hfirst, hsecond, trivial⟩
  exact ⟨m, built, clean, (hall [2, 1] 3 clean).1, hearly, _, hlast, hpos.symm,
    hclean orderly 2 _ hlast hpos.symm⟩

end Run

end Lexing
