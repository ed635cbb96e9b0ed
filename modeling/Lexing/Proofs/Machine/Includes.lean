import Mathlib.Data.List.Chain
import Mathlib.Data.List.Nodup
import Lexing.Proofs.Machine.Closed

/-!
# Cycles of states

States stand for the rules of other states, and expanding them follows these references. A state
that was expanded is on no cycle: every state that it refers to, by however many steps, was still
fresh when it was met. A state that was met again leads back to itself, and the error is the way
from it to itself, on which no other state is met twice. So all states are expanded exactly when no
state refers to itself by some steps.
-/
set_option autoImplicit false

namespace Lexing

section Expand

def Splices (lines : Nat → List Line) (i j : Nat) : Prop := .splice j ∈ lines i

variable {lines : Nat → List Line} {chain fresh : List Nat} {i j : Nat} {rules : List Rule}
  {cycle : List Nat}

theorem expand_ok (h : expand lines chain fresh i = .ok rules) :
    i ∈ fresh ∧ ∀ j, Splices lines i j →
      ∃ part, expand lines (chain ++ [i]) (fresh.erase i) j = .ok part := by
  rw [expand] at h
  split at h
  · rename_i hi
    obtain ⟨parts, hparts, _⟩ := bind_eq_ok.1 h
    exact ⟨hi, fun j hj => ok_of_mapM hparts _ hj⟩
  · cases h

theorem mem_fresh_of_expand (h : expand lines chain fresh i = .ok rules)
    (hj : Relation.ReflTransGen (Splices lines) i j) : j ∈ fresh := by
  induction hj using Relation.ReflTransGen.head_induction_on generalizing chain fresh rules with
  | refl => exact (expand_ok h).1
  | head hstep _ ih =>
    obtain ⟨part, hpart⟩ := (expand_ok h).2 _ hstep
    exact List.mem_of_mem_erase (ih hpart)

theorem not_transGen_of_expand (h : expand lines chain fresh i = .ok rules)
    (nodup : fresh.Nodup) : ¬ Relation.TransGen (Splices lines) i i := by
  intro hcycle
  obtain ⟨k, hstep, hrest⟩ := Relation.TransGen.head'_iff.1 hcycle
  obtain ⟨part, hpart⟩ := (expand_ok h).2 k hstep
  exact nodup.not_mem_erase (mem_fresh_of_expand hpart hrest)

theorem dropWhile_of_mem (h : i ∈ chain) : ∃ rest, chain.dropWhile (· != i) = i :: rest := by
  induction chain with
  | nil => cases h
  | cons k chain ih =>
    by_cases hk : k = i
    · subst hk
      exact ⟨chain, List.dropWhile_cons_of_neg (by simp)⟩
    · obtain ⟨rest, hrest⟩ := ih ((List.mem_cons.1 h).resolve_left (Ne.symm hk))
      exact ⟨rest, by rw [List.dropWhile_cons_of_pos (by simpa using hk), hrest]⟩

/-- The states on the chain lead to the state `i`. They and the fresh ones are together the first
`n` states, each of them once. -/
structure OnWay (lines : Nat → List Line) (n : Nat) (chain fresh : List Nat) (i : Nat) : Prop where
  leads : (chain ++ [i]).IsChain (Splices lines)
  all : (chain ++ fresh).Perm (List.range n)

namespace OnWay

variable {n : Nat}

theorem start (lines : Nat → List Line) (n i : Nat) : OnWay lines n [] (List.range n) i :=
  ⟨List.isChain_singleton i, .refl _⟩

theorem step (h : OnWay lines n chain fresh i) (hi : i ∈ fresh) (hstep : Splices lines i j) :
    OnWay lines n (chain ++ [i]) (fresh.erase i) j := by
  refine ⟨List.isChain_append.2 ⟨h.leads, List.isChain_singleton _, fun x hx y hy => ?_⟩, ?_⟩
  · rw [List.getLast?_concat] at hx
    obtain rfl := Option.some.inj hx
    obtain rfl := Option.some.inj hy
    exact hstep
  · rw [List.append_assoc, List.singleton_append]
    exact ((List.perm_cons_erase hi).symm.append_left chain).trans h.all

theorem nodup (h : OnWay lines n chain fresh i) : chain.Nodup :=
  (List.nodup_append.1 (h.all.nodup_iff.2 List.nodup_range)).1

theorem lt_of_mem (h : OnWay lines n chain fresh i) (hj : j ∈ chain) : j < n :=
  List.mem_range.1 (h.all.mem_iff.1 (List.mem_append_left _ hj))

theorem mem_chain (h : OnWay lines n chain fresh i) (hi : i < n) (hmet : i ∉ fresh) : i ∈ chain :=
  (List.mem_append.1 (h.all.mem_iff.2 (List.mem_range.2 hi))).resolve_right hmet

end OnWay

/-- A state that is met again is on the chain, which leads from it to itself and holds no state
twice. -/
theorem cycle_of_expand_error {n : Nat} (hlines : ∀ i j, Splices lines i j → j < n)
    (h : expand lines chain fresh i = .error cycle) (hi : i < n)
    (way : OnWay lines n chain fresh i) :
    ∃ a middle, cycle = a :: middle ++ [a] ∧ cycle.IsChain (Splices lines) ∧
      (a :: middle).Nodup ∧ ∀ k ∈ a :: middle, k < n := by
  generalize hlen : fresh.length = l
  induction l using Nat.strongRecOn generalizing chain fresh i with
  | ind l ih =>
    rw [expand] at h
    split at h
    · -- a fresh state: the error is that of a state it refers to, with this one on the chain
      rename_i hmem
      rcases bind_eq_error.1 h with h | ⟨parts, _, h⟩
      · obtain ⟨before, line, after, hsplit, _, hline⟩ := split_of_mapM_error h
        cases line with
        | rule r => cases hline
        | splice target =>
          have hstep : Splices lines i target := by
            rw [Splices, hsplit]
            exact List.mem_append_right _ List.mem_cons_self
          have hlt : (fresh.erase i).length < l := by
            have := List.length_pos_of_mem hmem
            rw [List.length_erase_of_mem hmem]
            omega
          exact ih _ hlt hline (hlines i target hstep) (way.step hmem hstep) rfl
      · cases h
    · -- a state that is not fresh is on the chain, which leads from it to where it is met again
      rename_i hmet
      obtain ⟨rest, hrest⟩ := dropWhile_of_mem (way.mem_chain hi hmet)
      cases h
      have hsuffix : i :: rest <:+ chain := hrest ▸ List.dropWhile_suffix _
      rw [hrest]
      refine ⟨i, rest, rfl, ?_, way.nodup.sublist hsuffix.sublist, fun k hk => ?_⟩
      · obtain ⟨front, rfl⟩ := hsuffix
        exact way.leads.suffix ⟨front, (List.append_assoc _ _ _).symm⟩
      · exact way.lt_of_mem (hsuffix.subset hk)

end Expand

namespace Scope

variable {s : Scope} {j : Nat}

theorem splice_of_lines {e : Entry} {part : List Line} (h : s.lines e = .ok part)
    (hj : .splice j ∈ part) : ∃ name, e = .splice name ∧ s.index name = .ok j := by
  cases resolves_of_lines h with
  | rule pattern action edits => cases List.mem_singleton.1 hj
  | splice index =>
    obtain rfl := Line.splice.inj (List.mem_singleton.1 hj)
    exact ⟨_, rfl, index⟩
  | inherit => cases hj
  | fallback pattern edits => cases List.mem_singleton.1 hj

end Scope

namespace Grammar

/-- State `a` has an entry that stands for the rules of state `b`. -/
def Includes (g : Grammar) (a b : String) : Prop :=
  ∃ d ∈ g.definitions, d.state = a ∧ .splice b ∈ d.entries

/-- No state refers to itself, by however many steps. -/
def Acyclic (g : Grammar) : Prop := ∀ a, ¬ Relation.TransGen g.Includes a a

variable {g : Grammar} {steering : Bool} {root : Nat} {lines : List (List Line)}

theorem idxOf_states {i : Nat} {name : String} (h : g.states[i]? = some name) :
    g.states.idxOf name = i := by
  obtain ⟨hlt, rfl⟩ := List.getElem?_eq_some_iff.1 h
  exact g.nodup.idxOf_getElem i hlt

theorem name_injective {i j : Nat} (hi : i < g.definitions.length) (hj : j < g.definitions.length)
    (h : g.states[i]?.getD "" = g.states[j]?.getD "") : i = j := by
  have hlength : g.states.length = g.definitions.length := List.length_map _
  rw [← hlength] at hi hj
  rw [List.getElem?_eq_getElem hi, List.getElem?_eq_getElem hj] at h
  exact (List.Nodup.getElem_inj_iff g.nodup).1 h

theorem getElem?_states {i : Nat} {d : Definition} (h : g.definitions[i]? = some d) :
    g.states[i]? = some d.state := by
  rw [states, List.getElem?_map, h]
  rfl

theorem exists_of_splices
    (h : g.definitions.mapM (g.scope root steering).definition = .ok lines) {i j : Nat}
    (hij : Splices (fun i => lines[i]?.getD []) i j) :
    ∃ d name, g.definitions[i]? = some d ∧ .splice name ∈ d.entries ∧
      g.states[j]? = some name := by
  simp only [Splices] at hij
  cases hls : lines[i]? with
  | none =>
    rw [hls] at hij
    cases hij
  | some ls =>
    rw [hls, Option.getD_some] at hij
    have hi : i < g.definitions.length := by
      rw [← length_of_mapM h]
      exact (List.getElem?_eq_some_iff.1 hls).1
    have hd : g.definitions[i]? = some g.definitions[i] := List.getElem?_eq_getElem hi
    obtain ⟨ls', hls', hok⟩ := getElem?_of_mapM h hd
    obtain rfl := Option.some.inj (hls.symm.trans hls')
    obtain ⟨e, he, part, hpart, hline⟩ := Scope.exists_of_definition hok hij
    obtain ⟨name, rfl, hindex⟩ := Scope.splice_of_lines hpart hline
    exact ⟨_, name, hd, he, Scope.getElem?_of_index hindex⟩

theorem includes_of_splices
    (h : g.definitions.mapM (g.scope root steering).definition = .ok lines) {i j : Nat}
    (hij : Splices (fun i => lines[i]?.getD []) i j) :
    g.Includes (g.states[i]?.getD "") (g.states[j]?.getD "") := by
  obtain ⟨d, name, hd, he, hname⟩ := exists_of_splices h hij
  rw [getElem?_states hd, hname]
  exact ⟨d, List.mem_of_getElem? hd, rfl, he⟩

theorem lt_of_splices (h : g.definitions.mapM (g.scope root steering).definition = .ok lines)
    {i j : Nat} (hij : Splices (fun i => lines[i]?.getD []) i j) : j < g.definitions.length := by
  obtain ⟨d, name, _, _, hname⟩ := exists_of_splices h hij
  have hlt := (List.getElem?_eq_some_iff.1 hname).1
  rwa [states, List.length_map] at hlt

theorem splices_of_includes
    (h : g.definitions.mapM (g.scope root steering).definition = .ok lines) {a b : String}
    (hab : g.Includes a b) :
    Splices (fun i => lines[i]?.getD []) (g.states.idxOf a) (g.states.idxOf b) := by
  obtain ⟨d, hd, rfl, he⟩ := hab
  obtain ⟨i, hi⟩ := List.getElem?_of_mem hd
  obtain ⟨ls, hls, hok⟩ := getElem?_of_mapM h hi
  obtain ⟨part, hpart, hmem⟩ := Scope.mem_of_definition hok he
  obtain ⟨j, hj, hpart⟩ := bind_eq_ok.1 hpart
  cases hpart
  have hname : g.states[j]? = some b := Scope.getElem?_of_index hj
  rw [idxOf_states (getElem?_states hi), idxOf_states hname, Splices, hls]
  exact hmem _ (List.mem_singleton.2 rfl)

theorem acyclic_of_expand
    (h : g.definitions.mapM (g.scope root steering).definition = .ok lines)
    {rules : List (List Rule)} (hrules : (List.range g.definitions.length).mapM
      (expand (fun i => lines[i]?.getD []) [] (List.range g.definitions.length)) = .ok rules) :
    g.Acyclic := by
  intro a hcycle
  have hindices : Relation.TransGen (Splices fun i => lines[i]?.getD []) (g.states.idxOf a)
      (g.states.idxOf a) :=
    Relation.TransGen.lift g.states.idxOf (fun _ _ => splices_of_includes h) _ _ hcycle
  obtain ⟨k, _, hlast⟩ := Relation.TransGen.tail'_iff.1 hindices
  obtain ⟨part, hpart⟩ := ok_of_mapM hrules _ (List.mem_range.2 (lt_of_splices h hlast))
  exact not_transGen_of_expand hpart List.nodup_range hindices

/-- When some state is not expanded, the error is a way from a state to itself, on which no other
state is met twice. -/
theorem cycle_of_expand
    (h : g.definitions.mapM (g.scope root steering).definition = .ok lines)
    {cycle : List Nat} (hcycle : (List.range g.definitions.length).mapM
      (expand (fun i => lines[i]?.getD []) [] (List.range g.definitions.length)) = .error cycle) :
    ∃ a middle, cycle.map (fun i => g.states[i]?.getD "") = a :: middle ++ [a] ∧
      (a :: middle ++ [a]).IsChain g.Includes ∧ (a :: middle).Nodup := by
  obtain ⟨before, i, after, hsplit, _, herror⟩ := split_of_mapM_error hcycle
  have hi : i ∈ List.range g.definitions.length := by
    rw [hsplit]
    exact List.mem_append_right _ List.mem_cons_self
  obtain ⟨a, middle, rfl, hchain, hnodup, hlt⟩ := cycle_of_expand_error
    (fun _ _ => lt_of_splices h) herror (List.mem_range.1 hi) (.start _ _ i)
  have hnames := List.isChain_map_of_isChain (fun i => g.states[i]?.getD "")
    (fun _ _ => includes_of_splices h) hchain
  have hdistinct : ((a :: middle).map fun i => g.states[i]?.getD "").Nodup :=
    List.Nodup.map_on (fun j hj k hk => name_injective (hlt j hj) (hlt k hk)) hnodup
  rw [List.map_append, List.map_cons, List.map_singleton] at hnames ⊢
  rw [List.map_cons] at hdistinct
  exact ⟨_, _, rfl, hnames, hdistinct⟩

theorem not_acyclic {a : String} {middle : List String}
    (h : (a :: middle ++ [a]).IsChain g.Includes) : ¬ g.Acyclic := by
  intro acyclic
  refine acyclic a ?_
  cases middle with
  | nil => exact .single (List.isChain_cons_cons.1 h).1
  | cons b middle =>
    obtain ⟨hstep, hrest⟩ := List.isChain_cons_cons.1 h
    refine .head' hstep (List.relationReflTransGen_of_exists_isChain_cons (middle ++ [a]) hrest ?_)
    exact List.getLast_append_singleton (b :: middle)

end Grammar

end Lexing
