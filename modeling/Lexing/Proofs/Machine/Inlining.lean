import Lexing.Proofs.Machine.Denotation
import Lexing.Proofs.Machine.WellFormed

/-!
# References written out

A reference to a state may be replaced by the entries of that state. The grammar that this gives is
well formed if the first one is, and its machine has the same states: expanded, the entries of each
state are what they were. It has the same combined states too, though perhaps under other numbers,
since the entries may ask for them in another order.
-/
set_option autoImplicit false

namespace Lexing

namespace Grammar

/-- Entries with at most one reference replaced by the entries of the state that it refers to. -/
inductive WritesOut (g : Grammar) : List Entry → List Entry → Prop
  | same {es : List Entry} : WritesOut g es es
  | splice {d : Definition} {above below : List Entry} (mem : d ∈ g.definitions) :
      WritesOut g (above ++ .splice d.state :: below) (above ++ d.entries ++ below)

/-- Each state has the entries that it has in `g`, or a reference in them is written out. -/
structure Inlined (g g' : Grammar) (inline : Definition → Definition) : Prop where
  mode : g'.mode = g.mode
  definitions : g'.definitions = g.definitions.map inline
  state : ∀ d, (inline d).state = d.state
  entries : ∀ d ∈ g.definitions, g.WritesOut d.entries (inline d).entries

variable {g g' : Grammar} {steering : Bool} {es es' fs out : List Entry} {a b : String}

theorem WritesOut.expands (h : g.WritesOut es es') (hes : g.Expands es' out) :
    g.Expands es out := by
  cases h with
  | same => exact hes
  | splice mem =>
    obtain ⟨front, last, rfl, hfront, hlast⟩ := hes.split
    obtain ⟨first, inner, rfl, hfirst, hinner⟩ := hfront.split
    rw [List.append_assoc]
    exact hfirst.append (.splice mem hinner hlast)

theorem WritesOut.mem {e : Entry} (h : g.WritesOut es es') (he : e ∈ es') :
    e ∈ es ∨ ∃ d ∈ g.definitions, .splice d.state ∈ es ∧ e ∈ d.entries := by
  cases h with
  | same => exact .inl he
  | @splice d above below mem =>
    simp only [List.mem_append, List.mem_cons] at he ⊢
    rcases he with (he | he) | he
    · exact .inl (.inl he)
    · exact .inr ⟨d, mem, .inr (.inl rfl), he⟩
    · exact .inl (.inr (.inr he))

theorem WritesOut.mem_of_ne {e : Entry} (h : g.WritesOut es es') (he : e ∈ es)
    (hne : ∀ state, e ≠ .splice state) : e ∈ es' := by
  cases h with
  | same => exact he
  | splice mem =>
    simp only [List.mem_append, List.mem_cons] at he ⊢
    rcases he with he | he | he
    · exact .inl (.inl he)
    · exact absurd he (hne _)
    · exact .inr he

namespace Inlined

variable {inline : Definition → Definition}

theorem states (h : g.Inlined g' inline) : g'.states = g.states :=
  states_eq_of_map h.definitions h.state

theorem expands (h : g.Inlined g' inline) (hes : g'.Expands es out) : g.Expands es out := by
  induction hes with
  | nil => exact .nil
  | rule _ ih => exact .rule ih
  | splice mem _ _ ihtarget ihrest =>
    rw [h.definitions] at mem
    obtain ⟨d, hd, rfl⟩ := List.mem_map.1 mem
    rw [h.state]
    exact .splice hd ((h.entries d hd).expands ihtarget) ihrest
  | inherit _ ih => exact .inherit ih
  | fallback _ ih => exact .fallback ih

theorem includes (h : g.Inlined g' inline) (hab : g'.Includes a b) :
    Relation.TransGen g.Includes a b := by
  obtain ⟨d', hd', rfl, hb⟩ := hab
  rw [h.definitions] at hd'
  obtain ⟨d, hd, rfl⟩ := List.mem_map.1 hd'
  rw [h.state]
  rcases (h.entries d hd).mem hb with hb | ⟨t, ht, hsplice, hb⟩
  · exact .single ⟨d, hd, rfl, hb⟩
  · exact .tail (.single ⟨d, hd, rfl, hsplice⟩) ⟨t, ht, rfl, hb⟩

theorem acyclic (h : g.Inlined g' inline) (acyclic : g.Acyclic) : g'.Acyclic := by
  intro a hcycle
  exact acyclic a (Relation.TransGen.closed (fun _ _ => h.includes) _ _ hcycle)

theorem exists_entry (h : g.Inlined g' inline) {d' : Definition} (hd' : d' ∈ g'.definitions)
    {e : Entry} (he : e ∈ d'.entries) : ∃ d ∈ g.definitions, e ∈ d.entries := by
  rw [h.definitions] at hd'
  obtain ⟨d, hd, rfl⟩ := List.mem_map.1 hd'
  rcases (h.entries d hd).mem he with he | ⟨t, ht, _, he⟩
  · exact ⟨d, hd, he⟩
  · exact ⟨t, ht, he⟩

theorem wellFormed (h : g.Inlined g' inline) (wf : g.WellFormed steering) :
    g'.WellFormed steering := by
  refine ⟨?_, fun d' hd' e he => ?_, h.acyclic wf.acyclic⟩
  · rw [h.states]
    exact wf.root
  · obtain ⟨d, hd, he⟩ := h.exists_entry hd' he
    exact (wf.sound d hd e he).of_eq h.states h.mode

variable {m m' : Machine} {lines lines' : List (List Line)} {rules rules' : List (List Rule)}

theorem machine_states (h : g.Inlined g' inline) (built : g.Built steering m lines rules)
    (built' : g'.Built steering m' lines' rules') : m'.states = m.states := by
  refine List.ext_getElem? fun i => ?_
  cases hd : g.definitions[i]? with
  | none =>
    have hlength : g.states.length ≤ i := by
      rw [Grammar.states, List.length_map]
      exact List.getElem?_eq_none_iff.1 hd
    rw [List.getElem?_eq_none (by rwa [built'.length_states, h.states]),
      List.getElem?_eq_none (by rwa [built.length_states])]
  | some d =>
    have hd' : g'.definitions[i]? = some (inline d) := by
      rw [h.definitions, List.getElem?_map, hd]
      rfl
    obtain ⟨es, rs, hstate, hes, hcarries⟩ := built.exists_state hd
    obtain ⟨es', rs', hstate', hes', hcarries'⟩ := built'.exists_state hd'
    obtain rfl := hes.unique ((h.entries d (List.mem_of_getElem? hd)).expands (h.expands hes'))
    rw [built.scope_eq built' h.states h.mode] at hcarries'
    obtain rfl := List.right_unique_forall₂' Scope.rightUnique_carries hcarries hcarries'
    rw [hstate, hstate', h.state]

/-- The same combined states are asked for, be it in another order. -/
theorem combined_perm (h : g.Inlined g' inline) (built : g.Built steering m lines rules)
    (built' : g'.Built steering m' lines' rules') : m'.combined.Perm m.combined := by
  refine (List.perm_ext_iff_of_nodup built'.nodup_combined built.nodup_combined).2 fun parts => ?_
  rw [built.mem_combined_iff, built.mem_asked_iff, built'.mem_combined_iff, built'.mem_asked_iff,
    built.scope_eq built' h.states h.mode]
  constructor
  · rintro ⟨d', hd', e, he, r, hr⟩
    obtain ⟨d, hd, he⟩ := h.exists_entry hd' he
    exact ⟨d, hd, e, he, r, hr⟩
  · rintro ⟨d, hd, e, he, r, hcarries, hparts⟩
    have hne : ∀ state, e ≠ .splice state := by
      rintro state rfl
      cases Scope.resolves_of_lines hcarries
    refine ⟨inline d, ?_, e, (h.entries d hd).mem_of_ne he hne, r, hcarries, hparts⟩
    rw [h.definitions]
    exact List.mem_map_of_mem hd

end Inlined

theorem WellFormed.entries?_of_splice (wf : g.WellFormed steering) (ha : g.entries? a = some es)
    (hb : .splice b ∈ es) : ∃ inner, g.entries? b = some inner := by
  refine entries?_of_mem_states ?_
  by_contra hunknown
  exact wf.sound _ (mem_of_entries? ha) _ hb _ (.unknownState (List.mem_singleton.2 rfl) hunknown)

theorem inlined_define {above below inner : List Entry}
    (ha : g.entries? a = some (above ++ .splice b :: below)) (hb : g.entries? b = some inner) :
    g.Inlined (g.define a (above ++ inner ++ below))
      fun d => if d.state = a then ⟨a, above ++ inner ++ below⟩ else d := by
  obtain ⟨_, hmode, hdefinitions⟩ := define_of_entries? ha (above ++ inner ++ below)
  refine ⟨hmode, hdefinitions, state_redefined _ _, fun d hd => ?_⟩
  exact entries_redefined ha (fun _ => .same) (.splice (mem_of_entries? hb)) hd

end Grammar

end Lexing
