import Lexing.Proofs.Grammar.Inheriting
import Lexing.Proofs.Machine.WellFormed

/-!
# Where a defect is reported

An entry of a grammar that inherits was written in the grammar itself or in its parent, at an index
of its own there. A defect is reported with the index that the entry has after inheriting. For an
entry that was written in the grammar itself this is the index that it was written at, unless the
parent's entries have come in above it: then their number is added to it, and the place that they
have taken is no longer counted.
-/
set_option autoImplicit false

namespace Lexing

/-- Where an entry was written: in the grammar that inherits, or in its parent. -/
inductive Place
  | own (index : Nat)
  | parent (index : Nat)
deriving DecidableEq, Repr

namespace Grammar

def spliceAt {α : Type} (marked : α → Bool) (inherited : List α) : List α → List α
  | [] => []
  | x :: xs => if marked x then inherited ++ xs else x :: spliceAt marked inherited xs

theorem spliceAt_of_marked {α : Type} {marked : α → Bool} {x : α} (h : marked x = true)
    (inherited xs : List α) : spliceAt marked inherited (x :: xs) = inherited ++ xs := if_pos h

theorem spliceAt_of_unmarked {α : Type} {marked : α → Bool} {x : α} (h : ¬ marked x = true)
    (inherited xs : List α) :
    spliceAt marked inherited (x :: xs) = x :: spliceAt marked inherited xs := if_neg h

theorem map_spliceAt {α β : Type} (f : α → β) (marked : β → Bool) (inherited xs : List α) :
    (spliceAt (fun x => marked (f x)) inherited xs).map f =
      spliceAt marked (inherited.map f) (xs.map f) := by
  induction xs with
  | nil => rfl
  | cons x xs ih =>
    by_cases hx : marked (f x)
    · simp [spliceAt, hx]
    · simp [spliceAt, hx, ih]

theorem mem_spliceAt {α : Type} {marked : α → Bool} {inherited xs : List α} {x : α}
    (h : x ∈ spliceAt marked inherited xs) : x ∈ inherited ∨ x ∈ xs := by
  induction xs with
  | nil => cases h
  | cons y xs ih =>
    by_cases hy : marked y
    · rw [spliceAt_of_marked hy] at h
      exact (List.mem_append.1 h).imp_right (List.mem_cons_of_mem y)
    · rw [spliceAt_of_unmarked hy] at h
      rcases List.mem_cons.1 h with rfl | h
      · exact .inr List.mem_cons_self
      · exact (ih h).imp_right (List.mem_cons_of_mem y)

theorem spliceInherited_eq_spliceAt (inherited es : List Entry) :
    spliceInherited inherited es = spliceAt Entry.isInherit inherited es := by
  induction es with
  | nil => rfl
  | cons e es ih =>
    cases e with
    | inherit => rfl
    | rule | splice | fallback => exact congrArg (List.cons _) ih

def placed (place : Nat → Place) (first : Nat) (es : List Entry) : List (Entry × Place) :=
  (es.zipIdx first).map fun (e, i) => (e, place i)

theorem placed_cons (place : Nat → Place) (first : Nat) (e : Entry) (es : List Entry) :
    placed place first (e :: es) = (e, place first) :: placed place (first + 1) es := rfl

theorem map_fst_placed (place : Nat → Place) (first : Nat) (es : List Entry) :
    (placed place first es).map Prod.fst = es := by
  rw [placed, List.map_map]
  exact List.zipIdx_map_fst first es

theorem length_placed (place : Nat → Place) (first : Nat) (es : List Entry) :
    (placed place first es).length = es.length := by
  simp [placed]

theorem of_getElem?_placed {place : Nat → Place} {first i : Nat} {es : List Entry} {e : Entry}
    {p : Place} (h : (placed place first es)[i]? = some (e, p)) :
    es[i]? = some e ∧ p = place (first + i) := by
  have hmap : (placed place first es)[i]? = es[i]?.map fun e => (e, place (first + i)) := by
    simp [placed, Function.comp_def]
  rw [hmap, Option.map_eq_some_iff] at h
  obtain ⟨_, he, heq⟩ := h
  cases heq
  exact ⟨he, rfl⟩

theorem of_mem_placed {place : Nat → Place} {es : List Entry} {e : Entry} {p : Place}
    (h : (e, p) ∈ placed place 0 es) : ∃ k, es[k]? = some e ∧ p = place k := by
  obtain ⟨k, hk⟩ := List.mem_iff_getElem?.1 h
  obtain ⟨he, hp⟩ := of_getElem?_placed hk
  rw [Nat.zero_add] at hp
  exact ⟨k, he, hp⟩

def isOpen (w : Entry × Place) : Bool := w.1.isInherit

theorem isOpen_iff {place : Place} {e : Entry} : isOpen (e, place) = true ↔ e = .inherit := by
  cases e <;> simp [isOpen, Entry.isInherit]

/-- The entries of a state after inheriting, each with the place where it was written. -/
def written (g parent : Grammar) (state : String) : List (Entry × Place) :=
  match parent.entries? state, g.entries? state with
  | some inherited, some es =>
    spliceAt isOpen (placed .parent 0 inherited) (placed .own 0 es)
  | some inherited, none => placed .parent 0 inherited
  | none, some es => placed .own 0 es
  | none, none => []

/-- The entry stands in the grammar, or in its parent, where the place says. -/
def HasAt (g parent : Grammar) (state : String) (e : Entry) : Place → Prop
  | .own k => ∃ es, g.entries? state = some es ∧ es[k]? = some e
  | .parent k => ∃ es, parent.entries? state = some es ∧ es[k]? = some e

variable {g parent : Grammar} {state : String} {e : Entry}

theorem map_fst_written {es : List Entry} (h : (g.inheriting parent).entries? state = some es) :
    (g.written parent state).map Prod.fst = es := by
  rw [entries?_inheriting] at h
  unfold written
  generalize g.entries? state = own? at h ⊢
  cases hparent : parent.entries? state with
  | none =>
    rw [hparent] at h
    cases own? with
    | none => cases h
    | some own =>
      obtain rfl := Option.some.inj h
      exact map_fst_placed _ _ _
  | some inherited =>
    rw [hparent] at h
    cases own? with
    | none =>
      obtain rfl := Option.some.inj h
      exact map_fst_placed _ _ _
    | some own =>
      obtain rfl := Option.some.inj h
      refine (map_spliceAt Prod.fst Entry.isInherit _ _).trans ?_
      rw [map_fst_placed, map_fst_placed, spliceInherited_eq_spliceAt]

theorem hasAt_of_mem_written {place : Place} (h : (e, place) ∈ g.written parent state) :
    g.HasAt parent state e place := by
  unfold written at h
  split at h
  · rename_i inherited es hinherited hes
    rcases mem_spliceAt h with h | h
    · obtain ⟨k, hk, rfl⟩ := of_mem_placed h
      exact ⟨inherited, hinherited, hk⟩
    · obtain ⟨k, hk, rfl⟩ := of_mem_placed h
      exact ⟨es, hes, hk⟩
  · rename_i inherited hinherited _
    obtain ⟨k, hk, rfl⟩ := of_mem_placed h
    exact ⟨inherited, hinherited, hk⟩
  · rename_i es _ hes
    obtain ⟨k, hk, rfl⟩ := of_mem_placed h
    exact ⟨es, hes, hk⟩
  · cases h

/-- Entries below the filled place are moved by what has come in, less the place itself. -/
theorem index_of_spliceAt {inherited es : List Entry} {first i j : Nat}
    (h : (spliceAt isOpen (placed .parent 0 inherited) (placed .own first es))[i]? =
      some (e, .own j)) :
    ∃ k, j = first + k ∧ (.inherit ∈ es.take k → i + 1 = k + inherited.length) ∧
      (.inherit ∉ es.take k → i = k) := by
  -- in the tail the own indices are counted from one more
  induction es generalizing first i with
  | nil => cases h
  | cons d es ih =>
    rw [placed_cons] at h
    by_cases hd : d = .inherit
    · rw [spliceAt_of_marked (isOpen_iff.2 hd)] at h
      by_cases hi : i < inherited.length
      · rw [List.getElem?_append_left (by rwa [length_placed])] at h
        cases (of_getElem?_placed h).2
      · rw [List.getElem?_append_right (by rw [length_placed]; omega), length_placed] at h
        obtain rfl := Place.own.inj (of_getElem?_placed h).2
        refine ⟨i - inherited.length + 1, by omega, fun _ => by omega, fun hnone => ?_⟩
        exact absurd (hd ▸ List.mem_cons_self) hnone
    · rw [spliceAt_of_unmarked (mt isOpen_iff.1 hd)] at h
      cases i with
      | zero =>
        obtain ⟨_, rfl⟩ := by simpa using h
        exact ⟨0, rfl, nofun, fun _ => rfl⟩
      | succ i =>
        obtain ⟨k, rfl, hbelow, habove⟩ := ih h
        refine ⟨k + 1, by omega, fun hmem => ?_, fun hnone => ?_⟩
        · rcases List.mem_cons.1 hmem with hmem | hmem
          · exact absurd hmem.symm hd
          · have := hbelow hmem
            omega
        · have := habove fun hmem => hnone (List.mem_cons_of_mem d hmem)
          omega

/-- The parent's entries have come in above the entry that the grammar has at index `k`. -/
structure FilledAbove (g parent : Grammar) (state : String) (k : Nat) (inherited : List Entry) :
    Prop where
  inherits : parent.entries? state = some inherited
  marked : ∃ es, g.entries? state = some es ∧ .inherit ∈ es.take k

theorem index_of_written {i k : Nat} (h : (g.written parent state)[i]? = some (e, .own k)) :
    (∀ inherited, g.FilledAbove parent state k inherited → i + 1 = k + inherited.length) ∧
      ((∀ inherited, ¬ g.FilledAbove parent state k inherited) → i = k) := by
  unfold written at h
  split at h
  · rename_i inherited es hinherited hes
    obtain ⟨k', hk, hbelow, habove⟩ := index_of_spliceAt h
    rw [Nat.zero_add] at hk
    subst hk
    constructor
    · intro inherited' filled
      obtain rfl := Option.some.inj (hinherited.symm.trans filled.inherits)
      obtain ⟨es', hes', hmem⟩ := filled.marked
      obtain rfl := Option.some.inj (hes.symm.trans hes')
      exact hbelow hmem
    · intro hnone
      exact habove fun hmem => hnone inherited ⟨hinherited, es, hes, hmem⟩
  · cases (of_getElem?_placed h).2
  · rename_i es hinherited hes
    obtain rfl := Place.own.inj (of_getElem?_placed h).2
    refine ⟨fun inherited filled => ?_, fun _ => (Nat.zero_add i).symm⟩
    have hsome := filled.inherits
    rw [hinherited] at hsome
    cases hsome
  · cases h

theorem getElem?_of_faulty {g : Grammar} {steering : Bool} {index : Nat} {defect : Defect}
    (h : g.Faulty steering (.entry state index defect)) : ∃ es e, g.entries? state = some es ∧
      es[index]? = some e ∧ e.Shows g steering defect := by
  generalize hfault : BuildFault.entry state index defect = fault at h
  cases h with
  | missingRoot => cases hfault
  | @entry before after d above below e defect' _ definitions entries _ _ shows =>
    obtain ⟨rfl, rfl, rfl⟩ := BuildFault.entry.inj hfault
    have hmem : d ∈ g.definitions := by
      rw [definitions]
      exact List.mem_append_right _ List.mem_cons_self
    refine ⟨d.entries, e, entries?_of_mem hmem, ?_, shows⟩
    rw [entries, List.getElem?_append_right (Nat.le_refl _), Nat.sub_self]
    rfl
  | includeCycle => cases hfault

/-- A defect is reported with the index that its entry has after inheriting. For an entry that the
grammar has itself that is the index it has there, unless the parent's entries have come in above it
and are not just one. -/
theorem reported_index {steering : Bool} {name : String} {index : Nat} {defect : Defect}
    (failed : (g.inheriting parent).build steering = .error ⟨name, .entry state index defect⟩) :
    ∃ e place, (g.written parent state)[index]? = some (e, place) ∧
      g.HasAt parent state e place ∧ e.Shows (g.inheriting parent) steering defect ∧
      ∀ k, place = .own k →
        (∀ inherited, g.FilledAbove parent state k inherited →
          index + 1 = k + inherited.length) ∧
        (index = k ↔ ∀ inherited, g.FilledAbove parent state k inherited →
          inherited.length = 1) := by
  obtain ⟨es, e, hes, he, shows⟩ := getElem?_of_faulty (faulty_of_build failed).2
  rw [← map_fst_written hes, List.getElem?_map, Option.map_eq_some_iff] at he
  obtain ⟨⟨_, place⟩, hplace, rfl⟩ := he
  refine ⟨_, place, hplace, hasAt_of_mem_written (List.mem_of_getElem? hplace), shows, ?_⟩
  rintro k rfl
  obtain ⟨hfilled, hunfilled⟩ := index_of_written hplace
  refine ⟨hfilled, fun hk inherited filled => ?_, fun hone => ?_⟩
  · have := hfilled inherited filled
    omega
  · by_cases hany : ∃ inherited, g.FilledAbove parent state k inherited
    · obtain ⟨inherited, filled⟩ := hany
      have := hfilled inherited filled
      have := hone inherited filled
      omega
    · exact hunfilled fun inherited filled => hany ⟨inherited, filled⟩

def heir : Grammar :=
  (Grammar.empty "heir" .standard).define "root"
    [.rule "a" (.kind .text) .stay, .inherit, .splice "nowhere"]

def estate : Grammar :=
  (Grammar.empty "estate" .standard).define "root"
    [.rule "b" (.kind .text) .stay, .rule "c" (.kind .text) .stay]

theorem reported_index_heir :
    (heir.inheriting estate).build false =
      .error ⟨"heir", .entry "root" 3 (.unknownState "nowhere")⟩ ∧
    ∃ e, heir.HasAt estate "root" e (.own 2) ∧
      e.Shows (heir.inheriting estate) false (.unknownState "nowhere") ∧
      ∃ inherited, heir.FilledAbove estate "root" 2 inherited ∧ 3 + 1 = 2 + inherited.length := by
  have failed : (heir.inheriting estate).build false =
      .error ⟨"heir", .entry "root" 3 (.unknownState "nowhere")⟩ := by rfl
  obtain ⟨e, place, hplace, hasAt, shows, hindex⟩ := reported_index failed
  have hown : place = .own 2 := (congrArg Prod.snd (Option.some.inj hplace)).symm
  subst hown
  have filled : heir.FilledAbove estate "root" 2 _ :=
    ⟨rfl, _, rfl, List.mem_cons_of_mem _ List.mem_cons_self⟩
  exact ⟨failed, e, hasAt, shows, _, filled, (hindex 2 rfl).1 _ filled⟩

/-- The entry stands at index 2 in the grammar that it was written in, and 3 is reported. -/
theorem heir_misreported :
    (heir.inheriting estate).build false =
      .error ⟨"heir", .entry "root" 3 (.unknownState "nowhere")⟩ ∧
    (heir.written estate "root")[3]? = some (.splice "nowhere", .own 2) ∧
    ∃ es, heir.entries? "root" = some es ∧ es[2]? = some (.splice "nowhere") :=
  ⟨rfl, rfl, _, rfl, rfl⟩

end Grammar

end Lexing
