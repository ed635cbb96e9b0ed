import Lexing.Proofs.Pattern.Preferred

/-!
# The ends of a pattern

`Node.ends` lists the places where a match of a pattern can end, best first: it says what a pattern
means that repeats nothing but sets, one equation for each kind of node. The automaton of such a
pattern finds the first of them. A node is laid out before what follows it, so the statement is
about any automaton that it is put before: from the new entry the preferred outcome is the first one
that comes from an end of the node.
-/
set_option autoImplicit false

namespace Lexing

section FindSome

variable {α β γ : Type}

theorem findSome?_toList (o : Option α) (f : α → Option β) : o.toList.findSome? f = o.bind f := by
  cases o with
  | none => rfl
  | some x => exact List.findSome?_singleton

theorem findSome?_flatMap (xs : List α) (g : α → List β) (f : β → Option γ) :
    (xs.flatMap g).findSome? f = xs.findSome? fun x => (g x).findSome? f := by
  induction xs with
  | nil => rfl
  | cons x xs ih =>
    rw [List.flatMap_cons, List.findSome?_append, ih, List.findSome?_cons]
    cases (g x).findSome? f <;> rfl

end FindSome

theorem CharSet.has_single {c d : Char} : (CharSet.single c).has d = true ↔ d = c := by
  simp only [has, single, Unicode.Ranges.has, Bool.or_false, Bool.and_eq_true, decide_eq_true_eq]
  rw [← Char.toNat_inj]
  omega

namespace Pattern

def Spot.past? : Text → Spot → Option Spot
  | [], s => some s
  | c :: w, s => if s.rest.head? = some c then s.next?.bind (past? w) else none

/-- The places behind members of the set, from the farthest back to the first, where no member was
taken. -/
def Spot.runsFrom (x : CharSet) (limit : Nat) : Option Char → Nat → Text → List Spot
  | last, offset, [] => [⟨last, [], offset, limit⟩]
  | last, offset, c :: rest =>
    (if x.has c = true ∧ offset + c.utf8Size ≤ limit then
      runsFrom x limit (some c) (offset + c.utf8Size) rest
    else []) ++ [⟨last, c :: rest, offset, limit⟩]

def Spot.runs (x : CharSet) (s : Spot) : List Spot := runsFrom x s.limit s.last s.offset s.rest

namespace Node

/-- Nothing is repeated but sets, and those as often as they can be. -/
def LoopsOverSets : Node → Prop
  | group _ n => n.LoopsOverSets
  | seq m n => m.LoopsOverSets ∧ n.LoopsOverSets
  | alt m n => m.LoopsOverSets ∧ n.LoopsOverSets
  | loop 0 none true (set _) => True
  | loop _ _ _ _ => False
  | _ => True

/-- Where a match from here can end, best first. Loops over anything but sets are left out. -/
def ends : Node → Spot → List Spot
  | empty, s => [s]
  | word w, s => (s.past? w).toList
  | set x, s => if s.rest.head?.any x.has then s.next?.toList else []
  | look x, s => if x.holds s.last s.rest.head? then [s] else []
  | group _ n, s => n.ends s
  | seq m n, s => (m.ends s).flatMap n.ends
  | alt m n, s => m.ends s ++ n.ends s
  | loop 0 none true (set x), s => s.runs x
  | loop _ _ _ _, _ => []

end Node

namespace Automaton

variable {a b c : Automaton} {i : Nat} {s : Spot} {r : Option Nat} {K : Spot → Option Nat}

def Extends (b a : Automaton) : Prop := ∃ more, b.states = a.states ++ more

theorem extends_refl (a : Automaton) : a.Extends a := ⟨#[], (Array.append_empty).symm⟩

theorem Extends.trans (h : c.Extends b) (h' : b.Extends a) : c.Extends a := by
  obtain ⟨more, hmore⟩ := h
  obtain ⟨more', hmore'⟩ := h'
  exact ⟨more' ++ more, by rw [hmore, hmore', Array.append_assoc]⟩

theorem extends_enterBy (a : Automaton) (st : State) : (a.enterBy st).Extends a :=
  ⟨#[st], Array.push_eq_append⟩

theorem Extends.getElem? (h : b.Extends a) {st : State} (state : a.states[i]? = some st) :
    b.states[i]? = some st := by
  obtain ⟨more, hmore⟩ := h
  have hi : i < a.states.size := (Array.getElem?_eq_some_iff.1 state).1
  rw [hmore, Array.getElem?_append_left hi, state]

theorem Extends.size_le (h : b.Extends a) : a.states.size ≤ b.states.size := by
  obtain ⟨more, hmore⟩ := h
  rw [hmore, Array.size_append]
  omega

theorem Prefers.mono (h : a.Prefers i s r) (hext : b.Extends a) : b.Prefers i s r := by
  induction h with
  | accept state => exact .accept (hext.getElem? state)
  | take state has next _ ih => exact .take (hext.getElem? state) has next ih
  | refuse state stuck => exact .refuse (hext.getElem? state) stuck
  | look state holds _ ih => exact .look (hext.getElem? state) holds ih
  | miss state fails => exact .miss (hext.getElem? state) fails
  | mark state _ ih => exact .mark (hext.getElem? state) ih
  | fork state _ _ ihFirst ihSecond => exact .fork (hext.getElem? state) ihFirst ihSecond

theorem getElem?_enterBy (a : Automaton) (st : State) :
    (a.enterBy st).states[(a.enterBy st).entry]? = some st :=
  Array.getElem?_push_size

/-- No way leads back to a state unless it takes a character: the states have ranks that go down,
and those yet to be added would rank above them in their order. -/
structure LeadsDown (a : Automaton) : Prop where
  entry_lt : a.entry < a.states.size
  exists_rank : ∃ rank, a.Ranked rank ∧ (∀ i < a.states.size, rank i < a.states.size) ∧
    ∀ i ≥ a.states.size, rank i = i

def State.Below (n : Nat) : State → Prop
  | .look _ j => j < n
  | .mark _ j => j < n
  | .fork j k => j < n ∧ k < n
  | _ => True

theorem leadsDown_done : done.LeadsDown := by
  have hstate {i : Nat} {st : State} (h : done.states[i]? = some st) : st = .accept := by
    have hmem := Array.mem_of_getElem? h
    simpa [done] using hmem
  refine ⟨Nat.one_pos, id, ⟨fun h => ?_, fun h => ?_, fun h => ?_⟩, fun _ hi => hi, fun _ _ => rfl⟩
  · cases hstate h
  · cases hstate h
  · cases hstate h

theorem LeadsDown.enter_at (h : a.LeadsDown) {entry : Nat} (he : entry < a.states.size) :
    LeadsDown { a with entry } := by
  obtain ⟨rank, ranked, below, above⟩ := h.exists_rank
  exact ⟨he, rank, ⟨ranked.look, ranked.mark, ranked.fork⟩, below, above⟩

theorem LeadsDown.enterBy (h : a.LeadsDown) {st : State} (hst : st.Below a.states.size) :
    (a.enterBy st).LeadsDown := by
  obtain ⟨rank, ranked, below, above⟩ := h.exists_rank
  have hstate {i : Nat} {x : State} (hx : (a.enterBy st).states[i]? = some x) :
      a.states[i]? = some x ∨ i = a.states.size ∧ x = st := by
    change (a.states.push st)[i]? = some x at hx
    rw [Array.getElem?_push] at hx
    split at hx
    · exact .inr ⟨‹_›, (Option.some.inj hx).symm⟩
    · exact .inl hx
  have hlast {j : Nat} (hj : j < a.states.size) : rank j < rank a.states.size := by
    rw [above _ (Nat.le_refl _)]
    exact below j hj
  have hsize : (a.enterBy st).states.size = a.states.size + 1 := Array.size_push _
  refine ⟨hsize ▸ Nat.lt_succ_self _, rank, ⟨fun hx => ?_, fun hx => ?_, fun hx => ?_⟩,
    fun i hi => ?_, fun i hi => ?_⟩
  · rcases hstate hx with hold | ⟨rfl, rfl⟩
    · exact ranked.look hold
    · exact hlast hst
  · rcases hstate hx with hold | ⟨rfl, rfl⟩
    · exact ranked.mark hold
    · exact hlast hst
  · rcases hstate hx with hold | ⟨rfl, rfl⟩
    · exact ranked.fork hold
    · exact ⟨hlast hst.1, hlast hst.2⟩
  · rw [hsize] at hi ⊢
    by_cases hlt : i < a.states.size
    · exact Nat.lt_succ_of_lt (below i hlt)
    · rw [above i (Nat.le_of_not_lt hlt)]
      exact hi
  · rw [ge_iff_le, hsize] at hi
    exact above i (Nat.le_of_succ_le hi)

theorem prefers_take (set : CharSet) (h : ∀ s, a.Prefers a.entry s (K s)) (s : Spot) :
    (a.enterBy (.take set a.entry)).Prefers (a.enterBy (.take set a.entry)).entry s
      (if s.rest.head?.any set.has then s.next?.bind K else none) := by
  have state := a.getElem?_enterBy (.take set a.entry)
  split
  · rename_i has
    cases next : s.next? with
    | none => exact .refuse state fun _ => next
    | some s' => exact .take state has next ((h s').mono (a.extends_enterBy _))
  · rename_i has
    exact .refuse state fun h => absurd h has

theorem leadsDown_word (w : Text) (ha : a.LeadsDown) :
    ((Node.word w).before a).LeadsDown ∧ ((Node.word w).before a).Extends a := by
  induction w with
  | nil => exact ⟨ha, a.extends_refl⟩
  | cons c w ih => exact ⟨ih.1.enterBy trivial, (extends_enterBy _ _).trans ih.2⟩

/-- What is laid out for rounds over a set: the fork between one more round and leaving, and the
state that takes a member and goes back to the fork. -/
theorem rounds_set (x : CharSet) (a : Automaton) :
    a.rounds (Node.set x).before true =
      ⟨a.states ++ #[.fork (a.states.size + 1) a.entry, .take x a.states.size],
        a.states.size + 1⟩ := by
  have hset (first second third : State) :
      ((a.states.push first).push second).setIfInBounds a.states.size third =
        a.states ++ #[third, second] := by
    rw [← Array.toList_inj, Array.toList_setIfInBounds]
    simp only [Array.toList_push, List.append_assoc, Array.toList_append]
    rw [← Array.length_toList, List.set_append_right _ _ (Nat.le_refl _), Nat.sub_self]
    rfl
  rw [rounds, Node.before]
  simp only [Automaton.enterBy, State.choose, Array.set!_eq_setIfInBounds, hset, Array.size_push,
    if_true]

theorem getElem?_rounds (x : CharSet) (a : Automaton) (i : Nat) :
    (a.rounds (Node.set x).before true).states[i]? =
      if i = a.states.size then some (.fork (a.states.size + 1) a.entry)
      else if i = a.states.size + 1 then some (.take x a.states.size)
      else a.states[i]? := by
  rw [rounds_set, Array.getElem?_append]
  split
  · rw [if_neg (by omega), if_neg (by omega)]
  · rename_i hge
    obtain ⟨k, rfl⟩ := Nat.exists_eq_add_of_le (Nat.le_of_not_lt hge)
    rw [Nat.add_sub_cancel_left, Array.getElem?_eq_none (Nat.le_add_right _ _)]
    match k with
    | 0 => exact (if_pos rfl).symm
    | 1 => exact ((if_neg (Nat.succ_ne_self _)).trans (if_pos rfl)).symm
    | k + 2 =>
      rw [if_neg (by omega), if_neg (by omega)]
      rfl

theorem extends_rounds (x : CharSet) (a : Automaton) :
    (a.rounds (Node.set x).before true).Extends a := by
  rw [rounds_set]
  exact ⟨_, rfl⟩

/-- The state that takes a member may rank lowest: only the fork leads to it. -/
theorem LeadsDown.rounds (h : a.LeadsDown) (x : CharSet) :
    (a.rounds (Node.set x).before true).LeadsDown := by
  obtain ⟨rank, ranked, below, above⟩ := h.exists_rank
  have hsize : (a.rounds (Node.set x).before true).states.size = a.states.size + 2 := by
    rw [rounds_set, Array.size_append]
    rfl
  have hpos : 0 < a.states.size := Nat.zero_lt_of_lt h.entry_lt
  have hlast := above _ (Nat.le_refl a.states.size)
  have hold {i : Nat} {st : State} (hi : (a.rounds (Node.set x).before true).states[i]? = some st) :
      i = a.states.size ∧ st = .fork (a.states.size + 1) a.entry ∨
        i = a.states.size + 1 ∧ st = .take x a.states.size ∨
        i < a.states.size ∧ a.states[i]? = some st := by
    rw [getElem?_rounds] at hi
    split at hi
    · exact .inl ⟨‹_›, (Option.some.inj hi).symm⟩
    · split at hi
      · exact .inr (.inl ⟨‹_›, (Option.some.inj hi).symm⟩)
      · exact .inr (.inr ⟨(Array.getElem?_eq_some_iff.1 hi).1, hi⟩)
  let rank' (i : Nat) : Nat := if i = a.states.size + 1 then 0 else rank i
  have hlow {i : Nat} (hi : i ≤ a.states.size) : rank' i = rank i := if_neg (by omega)
  have hle (i : Nat) : rank' i ≤ rank i := by
    simp only [rank']
    split <;> omega
  have hkeep {i j : Nat} (hi : i < a.states.size) (hlt : rank j < rank i) : rank' j < rank' i := by
    rw [hlow (Nat.le_of_lt hi)]
    exact Nat.lt_of_le_of_lt (hle j) hlt
  refine ⟨?_, rank', ⟨fun hx => ?_, fun hx => ?_, fun hx => ?_⟩, fun i hi => ?_, fun i hi => ?_⟩
  · rw [hsize, rounds_set]
    exact Nat.lt_succ_self _
  · rcases hold hx with ⟨-, hst⟩ | ⟨-, hst⟩ | ⟨hi, hx⟩
    · cases hst
    · cases hst
    · exact hkeep hi (ranked.look hx)
  · rcases hold hx with ⟨-, hst⟩ | ⟨-, hst⟩ | ⟨hi, hx⟩
    · cases hst
    · cases hst
    · exact hkeep hi (ranked.mark hx)
  · rcases hold hx with ⟨rfl, hst⟩ | ⟨-, hst⟩ | ⟨hi, hx⟩
    · cases hst
      rw [hlow (Nat.le_refl _), hlow (Nat.le_of_lt h.entry_lt), hlast]
      refine ⟨?_, below _ h.entry_lt⟩
      rw [show rank' (a.states.size + 1) = 0 from if_pos rfl]
      exact hpos
    · cases hst
    · exact ⟨hkeep hi (ranked.fork hx).1, hkeep hi (ranked.fork hx).2⟩
  · rw [hsize] at hi ⊢
    by_cases hlt : i < a.states.size
    · exact Nat.lt_of_le_of_lt (hle i) (Nat.lt_of_lt_of_le (below i hlt) (Nat.le_add_right _ 2))
    · have hrank := above i (Nat.le_of_not_lt hlt)
      have := hle i
      omega
  · rw [ge_iff_le, hsize] at hi
    exact (if_neg (by omega)).trans (above i (by omega))

/-- The two ways of the fork: from the state that takes a member come the ends of the longer runs,
and the run that ends here comes last. -/
theorem exists_prefers_round (x : CharSet) (h : ∀ s, a.Prefers a.entry s (K s)) (s : Spot) :
    ∃ q, (a.rounds (Node.set x).before true).Prefers (a.states.size + 1) s q ∧
      (s.runs x).findSome? K = q.or (K s) := by
  have hfork : (a.rounds (Node.set x).before true).states[a.states.size]? =
      some (.fork (a.states.size + 1) a.entry) := by
    rw [getElem?_rounds, if_pos rfl]
  have htake : (a.rounds (Node.set x).before true).states[a.states.size + 1]? =
      some (.take x a.states.size) := by
    rw [getElem?_rounds, if_neg (Nat.succ_ne_self _), if_pos rfl]
  obtain ⟨last, rest, offset, limit⟩ := s
  induction rest generalizing last offset with
  | nil =>
    refine ⟨none, .refuse htake fun has => ?_, List.findSome?_singleton⟩
    cases has
  | cons c rest ih =>
    by_cases hc : x.has c = true ∧ offset + c.utf8Size ≤ limit
    · obtain ⟨q, hq, hruns⟩ := ih (some c) (offset + c.utf8Size)
      have hleave := (h ⟨some c, rest, offset + c.utf8Size, limit⟩).mono (extends_rounds x a)
      refine ⟨_, .take htake hc.1 (if_neg (Nat.not_lt.2 hc.2)) (.fork hfork hq hleave), ?_⟩
      change List.findSome? K (ite _ _ _ ++ [_]) = _
      rw [if_pos hc, List.findSome?_append, List.findSome?_singleton]
      exact congrArg (Option.or · _) hruns
    · refine ⟨none, .refuse htake fun has => if_pos ?_, ?_⟩
      · exact Nat.lt_of_not_le fun hle => hc ⟨has, hle⟩
      · change List.findSome? K (ite _ _ _ ++ [_]) = _
        rw [if_neg hc]
        exact List.findSome?_singleton

theorem before_loop_set (x : CharSet) (a : Automaton) :
    ((Node.loop 0 none true (.set x)).before a).Extends (a.rounds (Node.set x).before true) ∧
      ((Node.loop 0 none true (.set x)).before a).states[
        ((Node.loop 0 none true (.set x)).before a).entry]? =
          some (.fork (a.states.size + 1) a.entry) := by
  have hentry : (a.rounds (Node.set x).before true).entry = a.states.size + 1 := by rw [rounds_set]
  simp only [Node.before]
  split
  · rw [← hentry]
    exact ⟨extends_enterBy _ _, getElem?_enterBy _ _⟩
  · refine ⟨extends_refl _, ?_⟩
    change (a.rounds (Node.set x).before true).states[a.states.size]? = _
    rw [getElem?_rounds, if_pos rfl]

theorem leadsDown_loop_set (ha : a.LeadsDown) (x : CharSet) :
    ((Node.loop 0 none true (.set x)).before a).LeadsDown := by
  have hrounds := ha.rounds x
  have hsize := (extends_rounds x a).size_le
  simp only [Node.before]
  split
  · exact hrounds.enterBy ⟨hrounds.entry_lt, Nat.lt_of_lt_of_le ha.entry_lt hsize⟩
  · refine hrounds.enter_at ?_
    rw [rounds_set, Array.size_append]
    exact Nat.lt_add_of_pos_right Nat.two_pos

theorem prefers_loop_set (x : CharSet) (h : ∀ s, a.Prefers a.entry s (K s)) (s : Spot) :
    ((Node.loop 0 none true (.set x)).before a).Prefers
      ((Node.loop 0 none true (.set x)).before a).entry s ((s.runs x).findSome? K) := by
  obtain ⟨hext, hfork⟩ := before_loop_set x a
  obtain ⟨q, hq, hruns⟩ := exists_prefers_round x h s
  rw [hruns]
  exact .fork hfork (hq.mono hext) ((h s).mono (hext.trans (extends_rounds x a)))

theorem leadsDown_before {n : Node} (hn : n.LoopsOverSets) (ha : a.LeadsDown) :
    (n.before a).LeadsDown ∧ (n.before a).Extends a := by
  induction n generalizing a with
  | empty => exact ⟨ha, a.extends_refl⟩
  | word w => exact leadsDown_word w ha
  | set x => exact ⟨ha.enterBy trivial, a.extends_enterBy _⟩
  | look x => exact ⟨ha.enterBy ha.entry_lt, a.extends_enterBy _⟩
  | group i n ih =>
    have hclose : (a.enterBy (.mark (.closes i) a.entry)).LeadsDown := ha.enterBy ha.entry_lt
    obtain ⟨hdown, hext⟩ := ih hn hclose
    exact ⟨hdown.enterBy hdown.entry_lt,
      (extends_enterBy _ _).trans (hext.trans (a.extends_enterBy _))⟩
  | seq m n ihm ihn =>
    obtain ⟨hdown, hext⟩ := ihn hn.2 ha
    obtain ⟨hdown', hext'⟩ := ihm hn.1 hdown
    exact ⟨hdown', hext'.trans hext⟩
  | alt m n ihm ihn =>
    obtain ⟨hdown, hext⟩ := ihm hn.1 ha
    obtain ⟨hdown', hext'⟩ :=
      ihn hn.2 (hdown.enter_at (Nat.lt_of_lt_of_le ha.entry_lt hext.size_le))
    exact ⟨hdown'.enterBy ⟨Nat.lt_of_lt_of_le hdown.entry_lt hext'.size_le, hdown'.entry_lt⟩,
      (extends_enterBy _ _).trans (Extends.trans hext' hext)⟩
  | loop least most greedy n =>
    match least, most, greedy, n, hn with
    | 0, none, true, .set x, _ =>
      exact ⟨leadsDown_loop_set ha x, (before_loop_set x a).1.trans (extends_rounds x a)⟩

theorem prefers_word (w : Text) (h : ∀ s, a.Prefers a.entry s (K s)) (s : Spot) :
    ((Node.word w).before a).Prefers ((Node.word w).before a).entry s
      ((s.past? w).bind K) := by
  induction w generalizing s with
  | nil => exact h s
  | cons c w ih =>
    have hhead : s.rest.head?.any (CharSet.single c).has = true ↔ s.rest.head? = some c := by
      simp [Option.any_eq_true, CharSet.has_single]
    have hstep := prefers_take (.single c) ih s
    simp only [hhead] at hstep
    change Prefers _ _ s (Option.bind (if _ then _ else _) K)
    split at hstep
    · rename_i heq
      rw [if_pos heq, Option.bind_assoc]
      exact hstep
    · rename_i hne
      rw [if_neg hne]
      exact hstep

/-- A node comes to the first outcome that what follows it has at one of its ends. -/
theorem prefers_before {n : Node} (hn : n.LoopsOverSets) (ha : a.LeadsDown)
    (h : ∀ s, a.Prefers a.entry s (K s)) (s : Spot) :
    (n.before a).Prefers (n.before a).entry s ((n.ends s).findSome? K) := by
  induction n generalizing a K s with
  | empty =>
    rw [Node.ends, List.findSome?_singleton]
    exact h s
  | word w =>
    rw [Node.ends, findSome?_toList]
    exact prefers_word w h s
  | set x =>
    have hstep := prefers_take x h s
    rw [Node.ends]
    split at hstep
    · rw [if_pos ‹_›, findSome?_toList]
      exact hstep
    · rw [if_neg ‹_›]
      exact hstep
  | look x =>
    have state := a.getElem?_enterBy (.look x a.entry)
    rw [Node.ends]
    split
    · rename_i holds
      rw [List.findSome?_singleton]
      exact .look state holds ((h s).mono (a.extends_enterBy _))
    · rename_i holds
      exact .miss state (by simpa using holds)
  | group i n ih =>
    have hcloses (s : Spot) : (a.enterBy (.mark (.closes i) a.entry)).Prefers
        (a.enterBy (.mark (.closes i) a.entry)).entry s (K s) :=
      .mark (a.getElem?_enterBy _) ((h s).mono (a.extends_enterBy _))
    have hdown : (a.enterBy (.mark (.closes i) a.entry)).LeadsDown := ha.enterBy ha.entry_lt
    have hinner := ih hn hdown hcloses s
    exact .mark (getElem?_enterBy _ _) (hinner.mono (extends_enterBy _ _))
  | seq m n ihm ihn =>
    have hsecond := ihn hn.2 ha h
    have hfirst := ihm hn.1 (leadsDown_before hn.2 ha).1 hsecond s
    rw [Node.ends, findSome?_flatMap]
    exact hfirst
  | alt m n ihm ihn =>
    obtain ⟨hdown, hext⟩ := leadsDown_before hn.1 ha
    have hback := hdown.enter_at (Nat.lt_of_lt_of_le ha.entry_lt hext.size_le)
    have hext' := (leadsDown_before hn.2 hback).2
    have hfirst := (ihm hn.1 ha h s).mono (b := n.before { m.before a with entry := a.entry }) hext'
    have hsecond := ihn hn.2 hback (fun s => (h s).mono hext) s
    rw [Node.ends, List.findSome?_append]
    exact .fork (getElem?_enterBy _ _) (hfirst.mono (extends_enterBy _ _))
      (hsecond.mono (extends_enterBy _ _))
  | loop least most greedy n =>
    match least, most, greedy, n, hn with
    | 0, none, true, .set x, _ => exact prefers_loop_set x h s

theorem search_automaton {n : Node} (hn : n.LoopsOverSets) (s : Spot) :
    (n.automaton.search s).map Found.stop = (n.ends s).head?.map Spot.offset := by
  have hdone (s : Spot) : done.Prefers done.entry s (some s.offset) := .accept rfl
  have hends := prefers_before hn leadsDown_done hdone s
  obtain ⟨rank, ranked, -, -⟩ := (leadsDown_before hn leadsDown_done).1.exists_rank
  rw [Node.automaton, search_of_prefers ranked hends]
  cases n.ends s <;> rfl

end Automaton

end Pattern

end Lexing
