import Lexing.Proofs.Pattern.Extent

/-!
# What the matcher finds

A state prefers an outcome at a place: the end of a match, or none. `Prefers` says which, by going
back to the second way of a fork whenever the first one fails. The matcher never goes back. It takes
all threads through the text together and follows a state only once at each place, but it finds the
same end.

The reason is that a state that is met again at a place adds nothing: what it prefers was found
before, at this place or by a thread that waits for the next character. This needs that the state
was followed to the end when it is met again, which holds when no way leads back to a state unless
it takes a character.
-/
set_option autoImplicit false

namespace Lexing.Pattern

namespace Visits

variable {v : Visits} {n i j : Nat}

structure Sound (v : Visits) (n : Nat) : Prop where
  size_eq : v.rounds.size = n
  round_pos : 0 < v.round
  le_round : ∀ i : Nat, v.rounds[i]?.getD 0 ≤ v.round

def unmet (v : Visits) : Nat := v.rounds.countP (· != v.round)

theorem sound_none (n : Nat) : (none n).Sound n := by
  refine ⟨Array.size_replicate, Nat.one_pos, fun i => ?_⟩
  change (Array.replicate n 0)[i]?.getD 0 ≤ 1
  rw [Array.getElem?_replicate]
  split <;> simp

theorem not_has_none (n i : Nat) : (none n).has i = false := by
  change ((Array.replicate n 0)[i]?.getD 0 == 1) = false
  rw [Array.getElem?_replicate]
  split <;> rfl

theorem Sound.clear (h : v.Sound n) : v.clear.Sound n :=
  ⟨h.size_eq, Nat.succ_pos _, fun i => Nat.le_succ_of_le (h.le_round i)⟩

theorem Sound.not_has_clear (h : v.Sound n) (i : Nat) : v.clear.has i = false := by
  have hle := h.le_round i
  simp only [has, Visits.clear, beq_eq_false_iff_ne]
  omega

theorem Sound.getElem?_add (h : v.Sound n) (hi : i < n) (j : Nat) :
    (v.add i).rounds[j]?.getD 0 = if j = i then v.round else v.rounds[j]?.getD 0 := by
  have hi : i < v.rounds.size := h.size_eq ▸ hi
  simp only [add, Array.set!_eq_setIfInBounds, Array.getElem?_setIfInBounds]
  by_cases hij : i = j
  · simp [← hij, hi]
  · rw [if_neg hij, if_neg (Ne.symm hij)]

theorem Sound.add (h : v.Sound n) (hi : i < n) : (v.add i).Sound n := by
  refine ⟨by simp [Visits.add, h.size_eq], h.round_pos, fun j => ?_⟩
  rw [h.getElem?_add hi]
  split
  · exact Nat.le_refl _
  · exact h.le_round j

theorem Sound.has_add (h : v.Sound n) (hi : i < n) :
    (v.add i).has j = true ↔ j = i ∨ v.has j = true := by
  rw [has, h.getElem?_add hi, has]
  by_cases hij : j = i
  · simp [hij, Visits.add]
  · simp [hij, Visits.add]

theorem Sound.unmet_add (h : v.Sound n) (hi : i < n) (hmet : v.has i = false) :
    (v.add i).unmet + 1 = v.unmet := by
  have hi : i < v.rounds.size := h.size_eq ▸ hi
  have hne : (v.rounds[i] != v.round) = true := by
    simpa [has, hi] using hmet
  have hpos : 0 < v.rounds.countP (· != v.round) :=
    Array.countP_pos_iff.2 ⟨v.rounds[i], Array.getElem_mem hi, hne⟩
  change (v.rounds.set! i v.round).countP (· != v.round) + 1 = v.rounds.countP (· != v.round)
  rw [Array.set!_eq_setIfInBounds, Array.setIfInBounds, dif_pos hi, Array.countP_set]
  simp only [hne, if_true, bne_self_eq_false, Bool.false_eq_true, if_false]
  omega

end Visits

def Spot.next? (s : Spot) : Option Spot :=
  match s.rest with
  | [] => none
  | c :: rest =>
    if s.limit < s.offset + c.utf8Size then none
    else some ⟨some c, rest, s.offset + c.utf8Size, s.limit⟩

namespace Automaton

/-- The outcome that a state prefers at a place: an offset at which the match ends, or `none`. -/
inductive Prefers (a : Automaton) : Nat → Spot → Option Nat → Prop
  | accept {i : Nat} {s : Spot} (state : a.states[i]? = some .accept) :
    Prefers a i s (some s.offset)
  | take {i j : Nat} {s s' : Spot} {set : CharSet} {r : Option Nat}
    (state : a.states[i]? = some (.take set j)) (has : s.rest.head?.any set.has = true)
    (next : s.next? = some s') (rest : Prefers a j s' r) : Prefers a i s r
  | refuse {i j : Nat} {s : Spot} {set : CharSet} (state : a.states[i]? = some (.take set j))
    (stuck : s.rest.head?.any set.has = true → s.next? = none) : Prefers a i s none
  | look {i j : Nat} {s : Spot} {x : Assertion} {r : Option Nat}
    (state : a.states[i]? = some (.look x j)) (holds : x.holds s.last s.rest.head? = true)
    (rest : Prefers a j s r) : Prefers a i s r
  | miss {i j : Nat} {s : Spot} {x : Assertion} (state : a.states[i]? = some (.look x j))
    (fails : x.holds s.last s.rest.head? = false) : Prefers a i s none
  | mark {i j : Nat} {s : Spot} {m : Mark} {r : Option Nat}
    (state : a.states[i]? = some (.mark m j)) (rest : Prefers a j s r) : Prefers a i s r
  | fork {i j k : Nat} {s : Spot} {q r : Option Nat} (state : a.states[i]? = some (.fork j k))
    (first : Prefers a j s q) (second : Prefers a k s r) : Prefers a i s (q.or r)

/-- The outcome of the first thread that has one. -/
inductive Tries (a : Automaton) (s : Spot) : List Thread → Option Nat → Prop
  | nil : Tries a s [] none
  | cons {i : Nat} {passed : List Passage} {ts : List Thread} {q r : Option Nat}
    (first : a.Prefers i s q) (others : Tries a s ts r) : Tries a s (⟨i, passed⟩ :: ts) (q.or r)

variable {a : Automaton} {s : Spot} {i : Nat} {q r w : Option Nat} {ts us : List Thread}

theorem Prefers.unique (h : a.Prefers i s q) (h' : a.Prefers i s r) : q = r := by
  induction h generalizing r with
  | accept state =>
    cases h' <;> simp_all
  | take state has next rest ih =>
    cases h' with
    | take state' has' next' rest' =>
      simp only [state, Option.some.injEq, State.take.injEq] at state'
      obtain ⟨rfl, rfl⟩ := state'
      rw [next, Option.some.injEq] at next'
      exact ih (next' ▸ rest')
    | _ => simp_all
  | refuse state stuck => cases h' <;> simp_all
  | look state holds rest ih =>
    cases h' with
    | look state' holds' rest' =>
      simp only [state, Option.some.injEq, State.look.injEq] at state'
      exact ih (state'.2 ▸ rest')
    | _ => simp_all
  | miss state fails => cases h' <;> simp_all
  | mark state rest ih =>
    cases h' with
    | mark state' rest' =>
      simp only [state, Option.some.injEq, State.mark.injEq] at state'
      exact ih (state'.2 ▸ rest')
    | _ => simp_all
  | fork state first second ihFirst ihSecond =>
    cases h' with
    | fork state' first' second' =>
      simp only [state, Option.some.injEq, State.fork.injEq] at state'
      rw [ihFirst (state'.1 ▸ first'), ihSecond (state'.2 ▸ second')]
    | _ => simp_all

theorem Tries.append {ts us : List Thread} (h : a.Tries s ts q) (h' : a.Tries s us r) :
    a.Tries s (ts ++ us) (q.or r) := by
  induction h with
  | nil => exact h'
  | cons first others ih =>
    rw [Option.or_assoc]
    exact .cons first ih

/-- No way leads back to a state unless it takes a character: other ways lead down. -/
structure Ranked (a : Automaton) (rank : Nat → Nat) : Prop where
  look : ∀ {i j : Nat} {x : Assertion}, a.states[i]? = some (.look x j) → rank j < rank i
  mark : ∀ {i j : Nat} {m : Mark}, a.states[i]? = some (.mark m j) → rank j < rank i
  fork : ∀ {i j k : Nat}, a.states[i]? = some (.fork j k) → rank j < rank i ∧ rank k < rank i

def State.leads? (s : Spot) (passed : List Passage) : State → Option (List Thread)
  | .look x j => some (if x.holds s.last s.rest.head? then [⟨j, passed⟩] else [])
  | .mark m j => some [⟨j, ⟨m, s.offset⟩ :: passed⟩]
  | .fork j k => some [⟨j, passed⟩, ⟨k, passed⟩]
  | _ => none

theorem Ranked.lt_of_leads? {rank : Nat → Nat} (h : a.Ranked rank) {st : State}
    (state : a.states[i]? = some st) {passed : List Passage}
    (leads : st.leads? s passed = some ts) : ∀ t ∈ ts, rank t.state < rank i := by
  cases st with
  | accept => cases leads
  | take set j => cases leads
  | look x j =>
    obtain rfl := Option.some.inj leads
    intro t ht
    split at ht
    · rw [List.mem_singleton.1 ht]
      exact h.look state
    · cases ht
  | mark m j =>
    obtain rfl := Option.some.inj leads
    intro t ht
    rw [List.mem_singleton.1 ht]
    exact h.mark state
  | fork j k =>
    obtain rfl := Option.some.inj leads
    intro t ht
    rw [List.mem_cons, List.mem_singleton] at ht
    rcases ht with rfl | rfl
    · exact (h.fork state).1
    · exact (h.fork state).2

theorem length_of_leads? {st : State} {passed : List Passage}
    (leads : st.leads? s passed = some ts) : ts.length ≤ 2 := by
  cases st with
  | accept => cases leads
  | take set j => cases leads
  | look x j =>
    obtain rfl := Option.some.inj leads
    split <;> simp
  | mark m j =>
    obtain rfl := Option.some.inj leads
    simp
  | fork j k =>
    obtain rfl := Option.some.inj leads
    simp

theorem Prefers.cases_state (h : a.Prefers i s r) (passed : List Passage) :
    a.states[i]? = some .accept ∧ r = some s.offset ∨
      (∃ set j, a.states[i]? = some (.take set j) ∧
        (s.rest.head?.any set.has = true ∧ (s.next? = none → r = none) ∧
          (∀ s', s.next? = some s' → a.Prefers j s' r) ∨
        s.rest.head?.any set.has = false ∧ r = none)) ∨
      ∃ st ts, a.states[i]? = some st ∧ st.leads? s passed = some ts ∧ a.Tries s ts r := by
  cases h with
  | accept state => exact .inl ⟨state, rfl⟩
  | @take i j _ _ set _ state has next rest =>
    refine .inr (.inl ⟨set, j, state, .inl ⟨has, fun h => ?_, fun s' h => ?_⟩⟩)
    · rw [next] at h
      cases h
    · rw [next] at h
      exact Option.some.inj h ▸ rest
  | @refuse i j _ set state stuck =>
    refine .inr (.inl ⟨set, j, state, ?_⟩)
    cases has : s.rest.head?.any set.has with
    | false => exact .inr ⟨rfl, rfl⟩
    | true =>
      refine .inl ⟨rfl, fun _ => rfl, fun s' h => ?_⟩
      rw [stuck has] at h
      cases h
  | look state holds rest =>
    refine .inr (.inr ⟨_, _, state, rfl, ?_⟩)
    rw [if_pos holds, ← Option.or_none (o := r)]
    exact .cons rest .nil
  | miss state fails =>
    refine .inr (.inr ⟨_, _, state, rfl, ?_⟩)
    rw [if_neg (by simp [fails])]
    exact .nil
  | mark state rest =>
    refine .inr (.inr ⟨_, _, state, rfl, ?_⟩)
    rw [← Option.or_none (o := r)]
    exact .cons rest .nil
  | @fork i j k _ q r state first second =>
    refine .inr (.inr ⟨_, _, state, rfl, ?_⟩)
    rw [← Option.or_none (o := r)]
    exact .cons first (.cons second .nil)

section Place

variable {last next : Option Char} {offset fuel : Nat} {f : Frontier} {passed : List Passage}

open Frontier

theorem follow_met (hmet : f.met.has i = true) :
    follow a last next offset (fuel + 1) (⟨i, passed⟩ :: ts) f =
      follow a last next offset fuel ts f := by
  rw [follow, if_pos hmet]

theorem follow_accept (hmet : f.met.has i = false) (state : a.states[i]? = some .accept) :
    follow a last next offset (fuel + 1) (⟨i, passed⟩ :: ts) f =
      { f with met := f.met.add i, matched := some passed } := by
  rw [follow, if_neg (by simp [hmet])]
  simp only [state]

theorem follow_take {set : CharSet} {j : Nat} (hmet : f.met.has i = false)
    (state : a.states[i]? = some (.take set j)) :
    follow a last next offset (fuel + 1) (⟨i, passed⟩ :: ts) f =
      follow a last next offset fuel ts { f with
        met := f.met.add i
        waiting := if next.any set.has then ⟨j, passed⟩ :: f.waiting else f.waiting } := by
  rw [follow, if_neg (by simp [hmet])]
  simp only [state]
  split <;> rfl

theorem follow_leads {st : State} {ts us : List Thread} (hmet : f.met.has i = false)
    (state : a.states[i]? = some st) (leads : st.leads? s passed = some ts) :
    follow a s.last s.rest.head? s.offset (fuel + 1) (⟨i, passed⟩ :: us) f =
      follow a s.last s.rest.head? s.offset fuel (ts ++ us) { f with met := f.met.add i } := by
  rw [follow, if_neg (by simp [hmet])]
  simp only [state]
  cases st with
  | accept => cases leads
  | take set j => cases leads
  | look x j =>
    obtain rfl := Option.some.inj leads
    dsimp only
    split <;> rfl
  | mark m j =>
    obtain rfl := Option.some.inj leads
    rfl
  | fork j k =>
    obtain rfl := Option.some.inj leads
    rfl

end Place

/-- What the waiting threads come to behind the next character. -/
structure Awaits (a : Automaton) (s : Spot) (f : Frontier) (w : Option Nat) : Prop where
  taken : ∀ s', s.next? = some s' → a.Tries s' f.waiting.reverse w
  stuck : s.next? = none → w = none

/-- No thread has matched yet, and what the states met below the rank `k` prefer is among the
outcomes of the waiting threads. -/
structure Going (a : Automaton) (rank : Nat → Nat) (k : Nat) (s : Spot) (f : Frontier)
    (w : Option Nat) : Prop where
  matched : f.matched = none
  sound : f.met.Sound a.states.size
  awaits : a.Awaits s f w
  accounted : ∀ {i : Nat} {r : Option Nat}, f.met.has i = true → rank i < k → a.Prefers i s r →
    w.or r = w

/-- A thread has matched here. The waiting threads come before it, and it is the last. -/
structure Stopped (a : Automaton) (s : Spot) (f : Frontier) (best : Option Nat) : Prop where
  sound : f.met.Sound a.states.size
  matched : f.matched.isSome = true
  exists_awaits : ∃ w, a.Awaits s f w ∧ best = w.or (some s.offset)

/-- Following `ts` before `us` comes to `best`: either `us` is left to be followed, or a thread of
`ts` has matched. Only states of ranks below `k` are met on the way. -/
def Passes (a : Automaton) (rank : Nat → Nat) (k : Nat) (s : Spot) (ts us : List Thread)
    (f : Frontier) (fuel : Nat) (best : Option Nat) : Prop :=
  (∃ f' fuel', f.follow a s.last s.rest.head? s.offset fuel (ts ++ us) =
      f'.follow a s.last s.rest.head? s.offset fuel' us ∧
    a.Going rank k s f' best ∧ 2 * f'.met.unmet + us.length < fuel' ∧
    ∀ j, f'.met.has j = true → f.met.has j = true ∨ rank j < k) ∨
  a.Stopped s (f.follow a s.last s.rest.head? s.offset fuel (ts ++ us)) best

theorem or_absorbs {x : Option Nat} (h : w.or x = w) (r : Option Nat) :
    (w.or r).or x = w.or r := by
  cases w with
  | some n => rfl
  | none =>
    obtain rfl : x = none := h
    exact Option.or_none

theorem Awaits.push {f : Frontier} {set : CharSet} {j : Nat} {passed : List Passage} {met : Visits}
    (h : a.Awaits s f w)
    (hr : s.rest.head?.any set.has = true ∧ (s.next? = none → r = none) ∧
      (∀ s', s.next? = some s' → a.Prefers j s' r) ∨
        s.rest.head?.any set.has = false ∧ r = none) :
    a.Awaits s { f with
      met := met
      waiting := if s.rest.head?.any set.has then ⟨j, passed⟩ :: f.waiting else f.waiting }
      (w.or r) := by
  rcases hr with ⟨has, stuck, taken⟩ | ⟨has, rfl⟩
  · rw [if_pos has]
    refine ⟨fun s' next => ?_, fun next => by rw [h.stuck next, stuck next]; rfl⟩
    rw [List.reverse_cons, ← Option.or_none (o := r)]
    exact (h.taken s' next).append (.cons (taken s' next) .nil)
  · rw [if_neg (by simp [has]), Option.or_none]
    exact ⟨h.taken, h.stuck⟩

variable {rank : Nat → Nat} {k fuel : Nat} {f f' : Frontier} {passed : List Passage} {t : Thread}
  {best : Option Nat}

theorem Prefers.lt_size (h : a.Prefers i s r) : i < a.states.size := by
  have hsome : a.states[i]?.isSome = true := by
    cases h <;> simp_all
  simpa using hsome

/-- A state that is met now is not yet accounted for; those below it are. -/
theorem Going.enter (h : a.Going rank k s f w) (hi : i < a.states.size) (hik : rank i < k)
    (hmatched : f'.matched = none) (hmet : f'.met = f.met.add i)
    (awaits : a.Awaits s f' (w.or r)) : a.Going rank (rank i) s f' (w.or r) where
  matched := hmatched
  sound := hmet ▸ h.sound.add hi
  awaits := awaits
  accounted := by
    intro j x hj hlt hx
    rw [hmet, h.sound.has_add hi] at hj
    rcases hj with rfl | hold
    · exact absurd hlt (Nat.lt_irrefl _)
    · exact or_absorbs (h.accounted hold (Nat.lt_trans hlt hik) hx) r

theorem Going.leave (h : a.Going rank k s f w) (hr : a.Prefers i s r)
    (h' : a.Going rank (rank i) s f' (w.or r))
    (fresh : ∀ j, f'.met.has j = true → (f.met.add i).has j = true ∨ rank j < rank i) :
    a.Going rank k s f' (w.or r) where
  matched := h'.matched
  sound := h'.sound
  awaits := h'.awaits
  accounted := by
    intro j x hmet hj hx
    rcases fresh j hmet with hmet' | hlt
    · rcases (h.sound.has_add hr.lt_size).1 hmet' with rfl | hold
      · rw [hx.unique hr, Option.or_assoc, Option.or_self]
      · exact or_absorbs (h.accounted hold hj hx) r
    · exact h'.accounted hmet hlt hx

theorem Stopped.or (h : a.Stopped s f best) (r : Option Nat) : a.Stopped s f (best.or r) := by
  obtain ⟨sound, matched, w, awaits, rfl⟩ := h
  refine ⟨sound, matched, w, awaits, ?_⟩
  rw [Option.or_assoc, Option.some_or]

theorem Passes.cons (first : a.Passes rank k s [t] (ts ++ us) f fuel best)
    (others : ∀ f' fuel', a.Going rank k s f' best →
      2 * f'.met.unmet + (ts ++ us).length < fuel' →
      a.Passes rank k s ts us f' fuel' (best.or r)) :
    a.Passes rank k s (t :: ts) us f fuel (best.or r) := by
  rcases first with ⟨f', fuel', heq, hgo, hfuel, hfresh⟩ | hstop
  · rcases others f' fuel' hgo hfuel with ⟨g, fuel'', heq', hgo', hfuel', hfresh'⟩ | hstop
    · refine .inl ⟨g, fuel'', heq.trans heq', hgo', hfuel', fun j hj => ?_⟩
      rcases hfresh' j hj with hj' | hlt
      · exact hfresh j hj'
      · exact .inr hlt
    · exact .inr (heq.symm ▸ hstop)
  · exact .inr (hstop.or r)

theorem passes_single (hrank : a.Ranked rank)
    (below : ∀ {ts : List Thread} {r w : Option Nat} {f : Frontier} {fuel : Nat},
      a.Tries s ts r → (∀ t ∈ ts, rank t.state < rank i) → a.Going rank (rank i) s f w →
      2 * f.met.unmet + (ts ++ us).length < fuel →
      a.Passes rank (rank i) s ts us f fuel (w.or r))
    (hr : a.Prefers i s r) (hik : rank i < k) (hgo : a.Going rank k s f w)
    (hfuel : 2 * f.met.unmet + us.length + 1 < fuel + 1) :
    a.Passes rank k s [⟨i, passed⟩] us f (fuel + 1) (w.or r) := by
  have hi := hr.lt_size
  cases hmet : f.met.has i with
  | true =>
    rw [hgo.accounted hmet hik hr]
    exact .inl ⟨f, fuel, follow_met hmet, hgo, by omega, fun j hj => .inl hj⟩
  | false =>
    have hless := hgo.sound.unmet_add hi hmet
    have hfresh (j : Nat) (hj : (f.met.add i).has j = true) : f.met.has j = true ∨ rank j < k :=
      ((hgo.sound.has_add hi).1 hj).symm.imp_right fun h : j = i => h ▸ hik
    rcases hr.cases_state passed with
      ⟨state, rfl⟩ | ⟨set, j, state, hset⟩ | ⟨st, ts, state, leads, htries⟩
    · refine .inr ?_
      rw [List.singleton_append, follow_accept hmet state]
      exact ⟨hgo.sound.add hi, rfl, w, ⟨hgo.awaits.taken, hgo.awaits.stuck⟩, rfl⟩
    · refine .inl ⟨_, fuel, follow_take hmet state, ?_, by simp only; omega,
        fun j hj => hfresh j hj⟩
      exact hgo.leave hr (hgo.enter hi hik hgo.matched rfl (hgo.awaits.push hset))
        fun j hj => .inl hj
    · have awaits : a.Awaits s { f with met := f.met.add i } (w.or none) := by
        rw [Option.or_none]
        exact ⟨hgo.awaits.taken, hgo.awaits.stuck⟩
      have enter : a.Going rank (rank i) s { f with met := f.met.add i } w := by
        rw [← Option.or_none (o := w)]
        exact hgo.enter hi hik hgo.matched rfl awaits
      have htwo := length_of_leads? leads
      have hsub : a.Passes rank (rank i) s ts us _ fuel (w.or r) :=
        below htries (hrank.lt_of_leads? state leads) enter
          (by simp only [List.length_append]; omega)
      have hstep : f.follow a s.last s.rest.head? s.offset (fuel + 1) ([⟨i, passed⟩] ++ us) = _ :=
        follow_leads hmet state leads
      rcases hsub with ⟨f', fuel', heq, hgo', hfuel', hfresh'⟩ | hstop
      · refine .inl ⟨f', fuel', hstep.trans heq, hgo.leave hr hgo' hfresh', hfuel', fun j hj => ?_⟩
        rcases hfresh' j hj with hj' | hlt
        · exact hfresh j hj'
        · exact .inr (Nat.lt_trans hlt hik)
      · exact .inr (hstep.symm ▸ hstop)

theorem passes_tries (hrank : a.Ranked rank) (us : List Thread) (htries : a.Tries s ts r)
    (hbelow : ∀ t ∈ ts, rank t.state < k) (hgo : a.Going rank k s f w)
    (hfuel : 2 * f.met.unmet + (ts ++ us).length < fuel) :
    a.Passes rank k s ts us f fuel (w.or r) := by
  induction k using Nat.strongRecOn generalizing ts us r w f fuel with
  | _ k ih =>
    induction htries generalizing w f fuel with
    | nil =>
      rw [Option.or_none]
      exact .inl ⟨f, fuel, rfl, hgo, hfuel, fun j hj => .inl hj⟩
    | @cons i passed ts q r first others ihOthers =>
      have hik : rank i < k := hbelow _ List.mem_cons_self
      obtain ⟨fuel, rfl⟩ := Nat.exists_eq_succ_of_ne_zero (Nat.ne_of_gt (Nat.zero_lt_of_lt hfuel))
      simp only [List.cons_append, List.length_cons] at hfuel
      rw [← Option.or_assoc]
      refine Passes.cons (passes_single hrank (ih (rank i) hik _) first hik hgo (by omega)) ?_
      intro f' fuel' hgo' hfuel'
      exact ihOthers (fun t ht => hbelow t (List.mem_cons_of_mem _ ht)) hgo' hfuel'

theorem unmet_le (h : f.met.Sound a.states.size) : f.met.unmet ≤ a.states.size :=
  h.size_eq ▸ Array.countP_le_size

theorem exists_rank_lt (rank : Nat → Nat) (ts : List Thread) :
    ∃ k, ∀ t ∈ ts, rank t.state < k := by
  induction ts with
  | nil => exact ⟨0, fun t ht => by cases ht⟩
  | cons t ts ih =>
    obtain ⟨k, hk⟩ := ih
    refine ⟨max (rank t.state + 1) k, fun u hu => ?_⟩
    rcases List.mem_cons.1 hu with rfl | hu
    · exact Nat.lt_of_lt_of_le (Nat.lt_succ_self _) (Nat.le_max_left _ _)
    · exact Nat.lt_of_lt_of_le (hk u hu) (Nat.le_max_right _ _)

theorem follow_tries (hrank : a.Ranked rank) (htries : a.Tries s ts r) {met : Visits}
    (sound : met.Sound a.states.size) (unmet : ∀ i, met.has i = false) :
    let f := (Frontier.start met).follow a s.last s.rest.head? s.offset (a.fuel ts) ts
    f.met.Sound a.states.size ∧
      ∃ w, a.Awaits s f w ∧ r = w.or (f.matched.map fun _ => s.offset) := by
  intro f
  obtain ⟨k, hbelow⟩ := exists_rank_lt rank ts
  have hgo : a.Going rank k s (.start met) none :=
    { matched := rfl
      sound := sound
      awaits := ⟨fun _ _ => .nil, fun _ => rfl⟩
      accounted := fun hmet _ _ => by
        simp only [Frontier.start, unmet] at hmet
        cases hmet }
  have hfuel : 2 * (Frontier.start met).met.unmet + (ts ++ []).length < a.fuel ts := by
    have hle := unmet_le (f := .start met) sound
    simp only [List.append_nil, fuel]
    omega
  have hpasses := passes_tries hrank [] htries hbelow hgo hfuel
  simp only [Passes, List.append_nil, Option.none_or] at hpasses
  rcases hpasses with ⟨f', fuel', heq, hgo', -, -⟩ | ⟨sound', matched, w, awaits, rfl⟩
  · obtain rfl : f = f' := heq.trans (by cases fuel' <;> rfl)
    refine ⟨hgo'.sound, r, hgo'.awaits, ?_⟩
    rw [hgo'.matched, Option.map_none, Option.or_none]
  · refine ⟨sound', w, awaits, ?_⟩
    obtain ⟨passed, hpassed⟩ := Option.isSome_iff_exists.1 matched
    change f.matched = some passed at hpassed
    rw [hpassed, Option.map_some]

theorem Awaits.eq_none (h : a.Awaits s f w) (hempty : f.waiting = []) : w = none := by
  cases hnext : s.next? with
  | none => exact h.stuck hnext
  | some s' =>
    have htries := h.taken s' hnext
    rw [hempty, List.reverse_nil] at htries
    cases htries
    rfl

/-- From one place to the next, the waiting threads go on and the last match is kept. -/
theorem advance_tries (hrank : a.Ranked rank) {limit : Nat} {met : Visits} {best : Option Found}
    {last : Option Char} {offset : Nat} {rest : Text}
    (htries : a.Tries ⟨last, rest, offset, limit⟩ ts r) (sound : met.Sound a.states.size)
    (unmet : ∀ i, met.has i = false) :
    (a.advance limit met ts best last offset rest).map Found.stop =
      r.or (best.map Found.stop) := by
  induction rest generalizing met ts best last offset r with
  | nil =>
    obtain ⟨-, w, awaits, rfl⟩ := follow_tries hrank htries sound unmet
    obtain rfl := awaits.stuck rfl
    rw [Option.none_or]
    exact map_stop_best
  | cons c rest ih =>
    obtain ⟨sound', w, awaits, rfl⟩ := follow_tries hrank htries sound unmet
    rw [Option.or_assoc]
    simp only [advance]
    split
    · rename_i hend
      obtain rfl : w = none := by
        rcases Bool.or_eq_true _ _ ▸ hend with hempty | hlimit
        · exact awaits.eq_none (List.isEmpty_iff.1 hempty)
        · exact awaits.stuck (if_pos (of_decide_eq_true hlimit))
      rw [Option.none_or]
      exact map_stop_best
    · rename_i hgo
      simp only [Bool.or_eq_true, decide_eq_true_eq, not_or] at hgo
      rw [ih (awaits.taken _ (if_neg hgo.2)) sound'.clear sound'.not_has_clear]
      exact congrArg w.or map_stop_best

theorem search_of_prefers (hrank : a.Ranked rank) (h : a.Prefers a.entry s r) :
    (a.search s).map Found.stop = r := by
  have htries : a.Tries s [⟨a.entry, []⟩] (r.or none) := .cons h .nil
  rw [search, advance_tries hrank htries (Visits.sound_none _) (Visits.not_has_none _),
    Option.or_none]
  exact Option.or_none

end Automaton

end Lexing.Pattern
