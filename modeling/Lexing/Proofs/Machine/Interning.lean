import Lexing.Proofs.Machine.Denotation

/-!
# The numbers of combined states

A combined state is known by the names of its parts in their order. Each list of names that some
entry of a grammar combines has one number, which every rule pushes that comes of such an entry, and
different lists have different numbers. The numbers follow those of the named states, in the order
in which the entries first ask for the lists.
-/
set_option autoImplicit false

namespace Lexing

section

variable {α β : Type} {R : α → β → Prop}

theorem exists_of_forall₂ {xs : List α} {ys : List β} {x : α} (h : List.Forall₂ R xs ys)
    (hx : x ∈ xs) : ∃ y ∈ ys, R x y := by
  induction h with
  | nil => cases hx
  | cons hxy _ ih =>
    rcases List.mem_cons.1 hx with rfl | hx
    · exact ⟨_, List.mem_cons_self, hxy⟩
    · obtain ⟨y, hy, hr⟩ := ih hx
      exact ⟨y, List.mem_cons_of_mem _ hy, hr⟩

theorem idxOf?_eq_some_iff_of_nodup [BEq α] [LawfulBEq α] {xs : List α} {x : α} {k : Nat}
    (nodup : xs.Nodup) : xs.idxOf? x = some k ↔ xs[k]? = some x := by
  rw [List.idxOf?_eq_some_iff, List.getElem?_eq_some_iff]
  constructor
  · rintro ⟨hk, heq, _⟩
    exact ⟨hk, heq⟩
  · rintro ⟨hk, heq⟩
    refine ⟨hk, heq, fun j hj hfound => ?_⟩
    have := (List.Nodup.getElem_inj_iff nodup).1 (hfound.trans heq.symm)
    omega

end

theorem Rule.mem_combined_iff {r : Rule} {parts : List Nat} :
    parts ∈ r.combined ↔ ∃ j : Nat, r.edits[j]? = some (.push (.combined parts)) := by
  rw [Rule.combined, List.mem_filterMap]
  constructor
  · rintro ⟨edit, hedit, heq⟩
    split at heq
    · obtain rfl := Option.some.inj heq
      exact List.getElem?_of_mem hedit
    · cases heq
  · rintro ⟨j, hj⟩
    exact ⟨_, List.mem_of_getElem? hj, rfl⟩

namespace Grammar

variable {g : Grammar} {steering : Bool} {m : Machine} {lines : List (List Line)}
  {rules : List (List Rule)}

theorem Expands.mem_of_move {es out : List Entry} (h : g.Expands es out) {e : Entry} {move : Move}
    (he : e ∈ es) (moves : e.move? = some move) : e ∈ out := by
  induction h with
  | nil => cases he
  | rule _ ih =>
    rcases List.mem_cons.1 he with rfl | he
    · exact List.mem_cons_self
    · exact List.mem_cons_of_mem _ (ih he)
  | splice _ _ _ _ ih =>
    rcases List.mem_cons.1 he with rfl | he
    · cases moves
    · exact List.mem_append_right _ (ih he)
  | inherit _ ih =>
    rcases List.mem_cons.1 he with rfl | he
    · cases moves
    · exact ih he
  | fallback _ ih =>
    rcases List.mem_cons.1 he with rfl | he
    · exact List.mem_cons_self
    · exact List.mem_cons_of_mem _ (ih he)

namespace Built

theorem exists_mem_rules (h : g.Built steering m lines rules) {d : Definition}
    (hd : d ∈ g.definitions) {e : Entry} (he : e ∈ d.entries) {r : Rule}
    (hcarries : (g.scope m.root steering).Carries e r) : ∃ place, r ∈ (m.state place).rules := by
  obtain ⟨i, hi⟩ := List.getElem?_of_mem hd
  obtain ⟨es, rs, hstate, hes, hrules⟩ := h.exists_state hi
  have hmeans := Rule.means_of_carries h.stateNames h.rootName hcarries
  obtain ⟨move, moves, _⟩ := Option.map_eq_some_iff.1 hmeans.edits.symm
  obtain ⟨r', hr', hcarries'⟩ := exists_of_forall₂ hrules (hes.mem_of_move he moves)
  obtain rfl := Scope.rightUnique_carries hcarries hcarries'
  refine ⟨.named i, ?_⟩
  rw [Machine.state, Machine.named, hstate]
  exact hr'

end Built

end Grammar

/-- Some entry of the grammar combines the named states at some place of its moves, and at that
place the rule of the entry pushes the state with the given number. -/
inductive Machine.Interns (m : Machine) (g : Grammar) (steering : Bool) (names : List String) :
    Nat → Prop
  | push {d : Definition} {e : Entry} {move : Move} {place ref : StateRef} {r : Rule} {j : Nat}
      (definition : d ∈ g.definitions) (entry : e ∈ d.entries)
      (carries : (g.scope m.root steering).Carries e r) (mem : r ∈ (m.state place).rules)
      (moves : e.move? = some move) (written : move.edits[j]? = some (.push (.combined names)))
      (pushed : r.edits[j]? = some (.push ref)) : Interns m g steering names (m.number ref)

namespace Grammar

variable {g : Grammar} {steering : Bool} {m : Machine} {lines : List (List Line)}
  {rules : List (List Rule)} {names : List String} {id : Nat}

theorem mem_entry_combined_iff {e : Entry} :
    names ∈ e.combined ↔ ∃ move, e.move? = some move ∧ .combined names ∈ move.leaves := by
  simp only [Entry.combined, List.mem_filterMap, List.mem_flatMap, Option.mem_toList, Move.edits]
  constructor
  · rintro ⟨edit, ⟨move, moves, leaf, hleaf, hedit⟩, heq⟩
    refine ⟨move, moves, ?_⟩
    split at heq
    · obtain rfl := Option.some.inj heq
      cases leaf with
      | combined names' =>
        obtain rfl := Target.combined.inj (StackEdit.push.inj (Option.some.inj hedit))
        exact hleaf
      | push name => cases hedit
      | pushTop => cases hedit
      | pop n => cases hedit
      | stay => cases hedit
      | seq moves => cases hedit
    · cases heq
  · rintro ⟨move, moves, hleaf⟩
    exact ⟨_, ⟨move, moves, _, hleaf, rfl⟩, rfl⟩

theorem mem_combined_iff : names ∈ g.combined ↔
    ∃ d ∈ g.definitions, ∃ e ∈ d.entries, ∃ move,
      e.move? = some move ∧ .combined names ∈ move.leaves := by
  simp only [Grammar.combined, List.mem_eraseDups, List.mem_flatMap, mem_entry_combined_iff]
  constructor
  · rintro ⟨e, ⟨d, hd, he⟩, h⟩
    exact ⟨d, hd, e, he, h⟩
  · rintro ⟨d, hd, e, he, h⟩
    exact ⟨e, ⟨d, hd, he⟩, h⟩

namespace Built

theorem mapM_index? (h : g.Built steering m lines rules) {parts : List Nat} :
    names.mapM m.index? = some parts ↔
      names.mapM (g.scope m.root steering).index = .ok parts := by
  have hindex : ∀ name i, m.index? name = some i ↔
      (g.scope m.root steering).index name = .ok i := by
    intro name i
    rw [Machine.index?, h.stateNames, Scope.index, states_scope]
    cases g.states.idxOf? name <;> simp
  induction names generalizing parts with
  | nil => simp [pure, Except.pure]
  | cons name names ih =>
    rw [mapM_cons_eq_ok, List.mapM_cons]
    simp only [Option.bind_eq_bind, Option.bind_eq_some_iff, Option.pure_def, Option.some.injEq, ih,
      hindex]
    constructor
    · rintro ⟨i, hi, others, hothers, rfl⟩
      exact ⟨i, others, rfl, hi, hothers⟩
    · rintro ⟨i, others, rfl, hi, hothers⟩
      exact ⟨i, hi, others, hothers, rfl⟩

theorem getElem?_combined (h : g.Built steering m lines rules) {k : Nat} :
    g.combined[k]? = some names ↔ ∃ parts, m.combined[k]? = some parts ∧
      names.mapM (g.scope m.root steering).index = .ok parts := by
  rw [← h.combined_names, List.getElem?_map, Option.map_eq_some_iff]
  refine exists_congr fun parts => and_congr_right fun hparts => ?_
  obtain ⟨names', hnames'⟩ :=
    h.exists_names (h.mem_combined_iff.1 (List.mem_of_getElem? hparts))
  constructor
  · rintro rfl
    rwa [h.partNames_of_index hnames']
  · exact h.partNames_of_index

theorem number_eq_of_getElem? (h : g.Built steering m lines rules) {k : Nat} {parts : List Nat}
    (hparts : m.combined[k]? = some parts) :
    m.number (.combined parts) = g.definitions.length + k := by
  obtain ⟨hk, rfl⟩ := List.getElem?_eq_some_iff.1 hparts
  rw [Machine.number, h.length_definitions, List.Nodup.idxOf_getElem h.nodup_combined k hk]

theorem combinedNumber?_eq_some_iff (h : g.Built steering m lines rules) :
    m.combinedNumber? names = some id ↔
      ∃ k, g.combined[k]? = some names ∧ id = g.definitions.length + k := by
  simp only [Machine.combinedNumber?, Option.bind_eq_bind, Option.bind_eq_some_iff,
    Option.pure_def, Option.some.injEq, h.mapM_index?, h.getElem?_combined, h.length_definitions,
    idxOf?_eq_some_iff_of_nodup h.nodup_combined]
  constructor
  · rintro ⟨parts, hparts, k, hk, rfl⟩
    exact ⟨k, ⟨parts, hk, hparts⟩, rfl⟩
  · rintro ⟨k, ⟨parts, hk, hparts⟩, rfl⟩
    exact ⟨parts, hparts, k, hk, rfl⟩

theorem edits_of_carries (h : g.Built steering m lines rules) {e : Entry} {move : Move} {r : Rule}
    (hcarries : (g.scope m.root steering).Carries e r) (moves : e.move? = some move) :
    move.edits = r.edits.map (StackEdit.map m.target) := by
  have hedits := (Rule.means_of_carries h.stateNames h.rootName hcarries).edits
  rw [moves] at hedits
  exact (Option.some.inj hedits).symm

theorem combined_of_pushed (h : g.Built steering m lines rules) {d : Definition}
    (hd : d ∈ g.definitions) {e : Entry} (he : e ∈ d.entries) {r : Rule}
    (hcarries : (g.scope m.root steering).Carries e r) {j : Nat} {parts : List Nat}
    (pushed : r.edits[j]? = some (.push (.combined parts))) :
    ∃ k : Nat, m.combined[k]? = some parts ∧ g.combined[k]? = some (m.partNames parts) := by
  have hasked : parts ∈ r.combined := Rule.mem_combined_iff.2 ⟨j, pushed⟩
  obtain ⟨k, hk⟩ := List.getElem?_of_mem
    (h.mem_combined_iff.2 (h.mem_asked_iff.2 ⟨d, hd, e, he, r, hcarries, hasked⟩))
  refine ⟨k, hk, ?_⟩
  rw [← h.combined_names, List.getElem?_map, hk]
  rfl

theorem interns_iff (h : g.Built steering m lines rules) :
    m.Interns g steering names id ↔
      ∃ k, g.combined[k]? = some names ∧ id = g.definitions.length + k := by
  constructor
  · intro hinterns
    cases hinterns with
    | @push d e move place ref r j hd he hcarries _ moves written pushed =>
      rw [h.edits_of_carries hcarries moves, List.getElem?_map, pushed] at written
      have htarget : m.target ref = .combined names :=
        StackEdit.push.inj (Option.some.inj written)
      cases ref with
      | named i => cases htarget
      | combined parts =>
        obtain rfl := Target.combined.inj htarget
        obtain ⟨k, hparts, hk⟩ := h.combined_of_pushed hd he hcarries pushed
        exact ⟨k, hk, h.number_eq_of_getElem? hparts⟩
  · rintro ⟨k, hk, rfl⟩
    obtain ⟨parts, hparts, hnames⟩ := h.getElem?_combined.1 hk
    obtain ⟨d, hd, e, he, r, hcarries, hasked⟩ :=
      h.mem_asked_iff.1 (h.mem_combined_iff.1 (List.mem_of_getElem? hparts))
    obtain ⟨j, pushed⟩ := Rule.mem_combined_iff.1 hasked
    obtain ⟨place, hr⟩ := h.exists_mem_rules hd he hcarries
    have hmeans := Rule.means_of_carries h.stateNames h.rootName hcarries
    obtain ⟨move, moves, _⟩ := Option.map_eq_some_iff.1 hmeans.edits.symm
    rw [← h.number_eq_of_getElem? hparts]
    refine .push hd he hcarries hr moves ?_ pushed
    rw [h.edits_of_carries hcarries moves, List.getElem?_map, pushed,
      ← h.partNames_of_index hnames]
    rfl

/-- The interner that meets what the rules push, in the order in which they are written, ends with
the combined states of the machine. It returned the numbers that the rules have for them, and it
answers for every list of names as the machine does. -/
theorem interned (h : g.Built steering m lines rules) :
    let pass := Interner.empty.internAll g.definitions.length (asked lines.flatten)
    pass.2.parts = m.combined ∧
      pass.1 = (asked lines.flatten).map (fun parts => m.number (.combined parts)) ∧
      ∀ names parts, names.mapM m.index? = some parts →
        m.combinedNumber? names = pass.2.numbers.lookup parts := by
  intro pass
  obtain ⟨hnumbers, hlast⟩ :=
    (Interner.holds_empty g.definitions.length).run (asked lines.flatten)
  have hnumber : ∀ parts, m.number (.combined parts) =
      g.definitions.length + (asked lines.flatten).eraseDups.idxOf parts := by
    intro parts
    rw [Machine.number, h.length_definitions, h.combined]
    rfl
  refine ⟨hlast.parts_eq.trans h.combined.symm, ?_, fun names parts hparts => ?_⟩
  · simp only [hnumber]
    exact hnumbers
  · have hanswer : m.combinedNumber? names =
        (m.combined.idxOf? parts).map (m.states.length + ·) := by
      rw [Machine.combinedNumber?, hparts, Option.bind_eq_bind, Option.bind_some]
      cases m.combined.idxOf? parts <;> rfl
    have hlookup := hlast.lookup_eq parts
    rw [List.nil_append, ← hnumber] at hlookup
    refine hanswer.trans (Eq.trans ?_ hlookup.symm)
    split
    · rename_i hmem
      have hplace := List.getElem?_idxOf (h.mem_combined_iff.2 hmem)
      rw [(idxOf?_eq_some_iff_of_nodup h.nodup_combined).2 hplace]
      rfl
    · rename_i hmem
      have hnone : m.combined.idxOf? parts = none :=
        List.idxOf?_eq_none_iff.2 fun hin => hmem (h.mem_combined_iff.1 hin)
      rw [hnone]
      rfl

end Built

theorem place_eq_iff {names' : List String} {k k' : Nat} (hk : g.combined[k]? = some names)
    (hk' : g.combined[k']? = some names') : k = k' ↔ names = names' := by
  obtain ⟨_, rfl⟩ := List.getElem?_eq_some_iff.1 hk
  obtain ⟨_, rfl⟩ := List.getElem?_eq_some_iff.1 hk'
  exact (List.Nodup.getElem_inj_iff (nodup_eraseDups _)).symm

/-- Rules push the same combined state exactly if their entries combine the same states in the same
order. A list of names has a number exactly if some entry combines it, and then it is the one that
the rules push. The numbers are those after the named states, in the order of first use. -/
theorem combined_states_interned (built : g.build steering = .ok m) :
    (∀ names id names' id', m.Interns g steering names id → m.Interns g steering names' id' →
        (id = id' ↔ names = names')) ∧
      (∀ names id, m.combinedNumber? names = some id ↔ m.Interns g steering names id) ∧
      (∀ names, (∃ id, m.combinedNumber? names = some id) ↔
        ∃ d ∈ g.definitions, ∃ e ∈ d.entries, ∃ move,
          e.move? = some move ∧ .combined names ∈ move.leaves) ∧
      (∀ k names, m.combinedNumber? names = some (g.definitions.length + k) ↔
        g.combined[k]? = some names) ∧
      (∀ names id, m.combinedNumber? names = some id → g.definitions.length ≤ id) ∧
      ∀ name i, m.index? name = some i → i < g.definitions.length := by
  obtain ⟨lines, rules, h⟩ := Machine.exists_of_build built
  refine ⟨?_, fun names id => ?_, fun names => ?_, fun k names => ?_, ?_, fun name i hi => ?_⟩
  · intro names id names' id' hid hid'
    obtain ⟨k, hk, rfl⟩ := h.interns_iff.1 hid
    obtain ⟨k', hk', rfl⟩ := h.interns_iff.1 hid'
    rw [Nat.add_left_cancel_iff]
    exact place_eq_iff hk hk'
  · rw [h.combinedNumber?_eq_some_iff, h.interns_iff]
  · rw [← mem_combined_iff, List.mem_iff_getElem?]
    simp only [h.combinedNumber?_eq_some_iff]
    constructor
    · rintro ⟨_, k, hk, _⟩
      exact ⟨k, hk⟩
    · rintro ⟨k, hk⟩
      exact ⟨_, k, hk, rfl⟩
  · rw [h.combinedNumber?_eq_some_iff]
    constructor
    · rintro ⟨k', hk', heq⟩
      obtain rfl := Nat.add_left_cancel heq
      exact hk'
    · intro hk
      exact ⟨k, hk, rfl⟩
  · intro names id hid
    obtain ⟨k, _, rfl⟩ := h.combinedNumber?_eq_some_iff.1 hid
    exact Nat.le_add_right _ _
  · obtain ⟨hlt, _⟩ := List.idxOf?_eq_some_iff.1 hi
    rwa [h.stateNames, states, List.length_map] at hlt

/-- Two entries combine the same states in one order, and one of them also in the other order. -/
theorem combined_states_interned_layered : ∃ m, layered.build false = .ok m ∧
    m.combinedNumber? ["digits", "words"] = some 3 ∧
    m.combinedNumber? ["words", "digits"] = some 4 ∧
    (∀ id, m.Interns layered false ["digits", "words"] id ↔ id = 3) ∧
    ∀ id, m.combinedNumber? ["words"] ≠ some id := by
  have hok : (layered.build false).isOk = true := by decide +kernel
  obtain ⟨m, built⟩ := exists_of_isOk hok
  obtain ⟨_, hinterns, hasked, hnumber, _⟩ := combined_states_interned built
  have hfirst : m.combinedNumber? ["digits", "words"] = some (3 + 0) := (hnumber 0 _).2 rfl
  have hsecond : m.combinedNumber? ["words", "digits"] = some (3 + 1) := (hnumber 1 _).2 rfl
  refine ⟨m, built, hfirst, hsecond, fun id => ?_, fun id hid => ?_⟩
  · rw [← hinterns, hfirst]
    exact ⟨fun h => (Option.some.inj h).symm, fun h => congrArg some h.symm⟩
  · have hnone : ["words"] ∉ layered.combined := by decide
    exact hnone (mem_combined_iff.2 ((hasked _).1 ⟨id, hid⟩))

end Grammar

end Lexing
