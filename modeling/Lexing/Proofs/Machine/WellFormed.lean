import Lexing.Proofs.Grammar.Entries
import Lexing.Proofs.Machine.Defects
import Lexing.Proofs.Machine.Includes

/-!
# Which grammars are machines

A grammar is a machine exactly when it has a root state, no entry shows a defect, and no state
refers to itself. When it is none, the fault that is reported is there: the missing root before all
others, then the first entry with a defect, and a cycle only when no entry has one. The cycle leads
from a state to itself and through no state twice before. Whether callbacks may steer makes no
difference to a grammar without such callbacks.
-/
set_option autoImplicit false

namespace Lexing

namespace Scope

variable {s : Scope}

theorem split_of_linesFrom_error {index i : Nat} {es : List Entry} {defect : Defect}
    (h : s.linesFrom index es = .error (i, defect)) : ∃ above e below,
      es = above ++ e :: below ∧ i = index + above.length ∧
        (∀ e' ∈ above, ∃ part, s.lines e' = .ok part) ∧ s.lines e = .error defect := by
  induction es generalizing index with
  | nil => cases h
  | cons e es ih =>
    simp only [linesFrom] at h
    split at h
    · rename_i defect' hdefect
      cases h
      refine ⟨[], e, es, rfl, rfl, fun e' he' => ?_, hdefect⟩
      cases he'
    · rename_i part hpart
      rcases bind_eq_error.1 h with h | ⟨rest, _, h⟩
      · obtain ⟨above, e', below, rfl, rfl, habove, he'⟩ := ih h
        refine ⟨e :: above, e', below, rfl, ?_, fun e'' he'' => ?_, he'⟩
        · rw [List.length_cons]
          omega
        · rcases List.mem_cons.1 he'' with rfl | he''
          · exact ⟨part, hpart⟩
          · exact habove e'' he''
      · cases h

theorem split_of_definition_error {d : Definition} {fault : BuildFault}
    (h : s.definition d = .error fault) : ∃ above e below defect,
      d.entries = above ++ e :: below ∧ fault = .entry d.state above.length defect ∧
        (∀ e' ∈ above, ∃ part, s.lines e' = .ok part) ∧ s.lines e = .error defect := by
  simp only [definition] at h
  split at h
  · cases h
  · rename_i i defect hlines
    cases h
    obtain ⟨above, e, below, hsplit, rfl, habove, he⟩ := split_of_linesFrom_error hlines
    exact ⟨above, e, below, defect, hsplit, by rw [Nat.zero_add], habove, he⟩

end Scope

namespace Grammar

structure WellFormed (g : Grammar) (steering : Bool) : Prop where
  root : "root" ∈ g.states
  sound : ∀ d ∈ g.definitions, ∀ e ∈ d.entries, e.Sound g steering
  acyclic : g.Acyclic

inductive Faulty (g : Grammar) (steering : Bool) : BuildFault → Prop
  | missingRoot (none : "root" ∉ g.states) : Faulty g steering .missingRoot
  | entry {before after : List Definition} {d : Definition} {above below : List Entry} {e : Entry}
      {defect : Defect} (root : "root" ∈ g.states)
      (definitions : g.definitions = before ++ d :: after)
      (entries : d.entries = above ++ e :: below)
      (earlier : ∀ d' ∈ before, ∀ e' ∈ d'.entries, e'.Sound g steering)
      (higher : ∀ e' ∈ above, e'.Sound g steering) (shows : e.Shows g steering defect) :
      Faulty g steering (.entry d.state above.length defect)
  | includeCycle {a : String} {middle : List String} (root : "root" ∈ g.states)
      (sound : ∀ d ∈ g.definitions, ∀ e ∈ d.entries, e.Sound g steering)
      (chain : (a :: middle ++ [a]).IsChain g.Includes) :
      Faulty g steering (.includeCycle (a :: middle ++ [a]))

variable {g : Grammar} {steering : Bool} {root : Nat}

theorem not_wellFormed_of_faulty {fault : BuildFault} (h : g.Faulty steering fault) :
    ¬ g.WellFormed steering := by
  intro wf
  cases h with
  | missingRoot none => exact none wf.root
  | @entry _ _ d _ _ e _ _ definitions entries _ _ shows =>
    refine wf.sound d ?_ e ?_ _ shows
    · rw [definitions]
      exact List.mem_append_right _ List.mem_cons_self
    · rw [entries]
      exact List.mem_append_right _ List.mem_cons_self
  | includeCycle _ _ chain => exact not_acyclic chain wf.acyclic

theorem sound_of_lines {e : Entry} (h : ∃ part, (g.scope root steering).lines e = .ok part) :
    e.Sound g steering :=
  (Scope.reports_lines e).isOk_iff.1 h

theorem faulty_of_definitions (hroot : "root" ∈ g.states) {fault : BuildFault}
    (h : g.definitions.mapM (g.scope root steering).definition = .error fault) :
    g.Faulty steering fault := by
  obtain ⟨before, d, after, hdefs, hbefore, hd⟩ := split_of_mapM_error h
  obtain ⟨above, e, below, defect, hentries, rfl, habove, he⟩ := Scope.split_of_definition_error hd
  refine .entry hroot hdefs hentries (fun d' hd' e' he' => ?_)
    (fun e' he' => sound_of_lines (habove e' he')) ((Scope.reports_lines e).shown _ he)
  obtain ⟨ls, hls⟩ := hbefore d' hd'
  obtain ⟨part, hpart, _⟩ := Scope.mem_of_definition hls he'
  exact sound_of_lines ⟨part, hpart⟩

theorem sound_of_definitions {lines : List (List Line)}
    (h : g.definitions.mapM (g.scope root steering).definition = .ok lines) :
    ∀ d ∈ g.definitions, ∀ e ∈ d.entries, e.Sound g steering := by
  intro d hd e he
  obtain ⟨ls, hls⟩ := ok_of_mapM h d hd
  obtain ⟨part, hpart, _⟩ := Scope.mem_of_definition hls he
  exact sound_of_lines ⟨part, hpart⟩

theorem wellFormed_of_build {m : Machine} (built : g.build steering = .ok m) :
    g.WellFormed steering := by
  obtain ⟨lines, rules, h⟩ := Machine.exists_of_build built
  exact ⟨mem_of_idxOf? h.root, sound_of_definitions h.resolved,
    acyclic_of_expand h.resolved h.expanded⟩

theorem cases_of_resolve {s : Scope} {fault : BuildFault} (h : g.resolve s = .error fault) :
    g.definitions.mapM s.definition = .error fault ∨
      ∃ lines cycle, g.definitions.mapM s.definition = .ok lines ∧
        (List.range g.definitions.length).mapM (expand (fun i => lines[i]?.getD []) []
          (List.range g.definitions.length)) = .error cycle ∧
        fault = .includeCycle (cycle.map fun i => g.states[i]?.getD "") := by
  rcases bind_eq_error.1 h with hlines | ⟨lines, hlines, hrest⟩
  · exact .inl hlines
  · simp only at hrest
    split at hrest
    · rename_i cycle hcycle
      cases hrest
      exact .inr ⟨lines, cycle, hlines, hcycle, rfl⟩
    · cases hrest

theorem cases_of_build {err : BuildError} (h : g.build steering = .error err) :
    err.grammar = g.name ∧ (("root" ∉ g.states ∧ err.fault = .missingRoot) ∨
      ∃ root, "root" ∈ g.states ∧ g.resolve (g.scope root steering) = .error err.fault) := by
  simp only [build] at h
  split at h
  · rename_i hnone
    cases h
    exact ⟨rfl, .inl ⟨List.idxOf?_eq_none_iff.1 hnone, rfl⟩⟩
  · rename_i root hroot
    split at h
    · cases h
    · rename_i fault hfault
      cases h
      exact ⟨rfl, .inr ⟨root, mem_of_idxOf? hroot, hfault⟩⟩

theorem faulty_of_build {err : BuildError} (h : g.build steering = .error err) :
    err.grammar = g.name ∧ g.Faulty steering err.fault := by
  obtain ⟨hname, ⟨hnone, hfault⟩ | ⟨root, hroot, hresolve⟩⟩ := cases_of_build h
  · rw [hfault]
    exact ⟨hname, .missingRoot hnone⟩
  · refine ⟨hname, ?_⟩
    rcases cases_of_resolve hresolve with hlines | ⟨lines, cycle, hlines, hcycle, hfault⟩
    · exact faulty_of_definitions hroot hlines
    · obtain ⟨a, middle, hnames, hchain, _⟩ := cycle_of_expand hlines hcycle
      rw [hfault, hnames]
      exact .includeCycle hroot (sound_of_definitions hlines) hchain

theorem exists_of_wellFormed (wf : g.WellFormed steering) : ∃ m, g.build steering = .ok m := by
  cases hbuild : g.build steering with
  | ok m => exact ⟨m, rfl⟩
  | error err => exact absurd wf (not_wellFormed_of_faulty (faulty_of_build hbuild).2)

end Grammar

namespace Scope

variable {s s' : Scope}

theorem index_congr (h : s.states = s'.states) : s.index = s'.index := by
  funext name
  simp only [index, h]

mutual

theorem edits_congr (h : s.states = s'.states) : (move : Move) → s.edits move = s'.edits move
  | .stay => rfl
  | .push state => by simp only [edits, index_congr h]
  | .pushTop => rfl
  | .pop n => rfl
  | .seq moves => allEdits_congr h moves
  | .combined names => by simp only [edits, index_congr h]

theorem allEdits_congr (h : s.states = s'.states) : (moves : List Move) →
    s.allEdits moves = s'.allEdits moves
  | [] => rfl
  | move :: moves => by simp only [allEdits, edits_congr h move, allEdits_congr h moves]

end

theorem lines_congr {g : Grammar} {root : Nat} {e : Entry}
    (h : ∀ emit, e.action? ≠ some (.steer emit)) :
    (g.scope root true).lines e = (g.scope root false).lines e := by
  have hedits : ∀ move, (g.scope root true).edits move = (g.scope root false).edits move :=
    fun move => edits_congr (by rfl) move
  cases e with
  | rule source a move =>
    have haction : (g.scope root true).action a = (g.scope root false).action a := by
      cases a with
      | steer emit => exact absurd rfl (h emit)
      | _ => rfl
    simp only [lines, haction, hedits]
    rfl
  | splice state => rfl
  | inherit => rfl
  | fallback move =>
    simp only [lines, hedits]
    rfl

theorem linesFrom_congr {es : List Entry} (h : ∀ e ∈ es, s.lines e = s'.lines e) (index : Nat) :
    s.linesFrom index es = s'.linesFrom index es := by
  induction es generalizing index with
  | nil => rfl
  | cons e es ih =>
    simp only [linesFrom, h e List.mem_cons_self,
      ih fun e' he' => h e' (List.mem_cons_of_mem _ he')]

end Scope

namespace Grammar

variable {g : Grammar}

theorem build_eq_of_not_steering (h : ∀ emit, .steer emit ∉ g.actions) :
    g.build true = g.build false := by
  have hdefs : ∀ root, g.definitions.mapM (g.scope root true).definition =
      g.definitions.mapM (g.scope root false).definition := by
    intro root
    refine mapM_congr fun d hd => ?_
    have hlines : ∀ e ∈ d.entries, (g.scope root true).lines e = (g.scope root false).lines e := by
      refine fun e he => Scope.lines_congr fun emit hemit => h emit ?_
      exact List.mem_flatMap.2 ⟨d, hd, List.mem_filterMap.2 ⟨e, he, hemit⟩⟩
    simp only [Scope.definition, Scope.linesFrom_congr hlines]
  have hresolve : ∀ root, g.resolve (g.scope root true) = g.resolve (g.scope root false) := by
    intro root
    simp only [resolve, hdefs]
    rfl
  simp only [scope] at hresolve
  simp only [build, hresolve]

/-- A grammar is a machine exactly when it is well formed; else the fault that is reported is there
and none before it; and support for steering matters only to grammars that steer. -/
theorem build_spec (g : Grammar) (steering : Bool) :
    ((∃ m, g.build steering = .ok m) ↔ g.WellFormed steering) ∧
      (∀ err, g.build steering = .error err →
        err.grammar = g.name ∧ g.Faulty steering err.fault) ∧
      ((∀ emit, .steer emit ∉ g.actions) → g.build true = g.build false) := by
  refine ⟨⟨?_, ?_⟩, fun err => faulty_of_build, build_eq_of_not_steering⟩
  · rintro ⟨m, built⟩
    exact wellFormed_of_build built
  · intro wf
    cases hbuild : g.build steering with
    | ok m => exact ⟨m, rfl⟩
    | error err => exact absurd wf (not_wellFormed_of_faulty (faulty_of_build hbuild).2)

/-- With a cycle, a name that stands for no state, and in a later state a move that pops none. -/
def overlapping : Grammar :=
  ((Grammar.empty "overlapping" .standard).define "root"
    [.splice "inner", .rule "a" (.groups [.delegate (.self ["none"])]) .stay]).define "inner"
    [.splice "root", .rule "b" (.kind .text) (.seq [.stay, .pop 0])]

theorem build_spec_overlapping :
    overlapping.Faulty false (.entry "root" 1 (.unknownState "none")) ∧
      ¬ overlapping.WellFormed false := by
  have hbuild : overlapping.build false =
      .error ⟨"overlapping", .entry "root" 1 (.unknownState "none")⟩ := by rfl
  obtain ⟨hiff, hfault, _⟩ := build_spec overlapping false
  refine ⟨(hfault _ hbuild).2, fun wf => ?_⟩
  obtain ⟨m, built⟩ := hiff.2 wf
  rw [hbuild] at built
  cases built

/-- A cycle that is reported is one: each state on it refers to the next one, it ends where it
begins, and it passes no other state twice. -/
theorem reported_cycle_simple {g : Grammar} {steering : Bool} {name : String} {chain : List String}
    (h : g.build steering = .error ⟨name, .includeCycle chain⟩) :
    2 ≤ chain.length ∧ chain.head? = chain.getLast? ∧ chain.dropLast.Nodup ∧
      ∀ (k : Nat) (a b : String), chain[k]? = some a → chain[k + 1]? = some b →
        ∃ es, g.entries? a = some es ∧ .splice b ∈ es := by
  obtain ⟨_, ⟨_, hfault⟩ | ⟨root, _, hresolve⟩⟩ := cases_of_build h
  · cases hfault
  · rcases cases_of_resolve hresolve with hlines | ⟨lines, cycle, hlines, hcycle, hfault⟩
    · -- a defect is reported as an entry, never as a cycle
      obtain ⟨_, d, _, _, _, hd⟩ := split_of_mapM_error hlines
      obtain ⟨_, _, _, _, _, hfault, _⟩ := Scope.split_of_definition_error hd
      cases hfault
    · obtain ⟨a, middle, hnames, hchain, hnodup⟩ := cycle_of_expand hlines hcycle
      obtain rfl := (BuildFault.includeCycle.inj hfault).trans hnames
      refine ⟨?_, ?_, ?_, fun k b c hb hc => ?_⟩
      · rw [List.length_append, List.length_cons, List.length_singleton]
        omega
      · rw [List.getLast?_concat]
        rfl
      · rw [List.dropLast_concat]
        exact hnodup
      · obtain ⟨_, rfl⟩ := List.getElem?_eq_some_iff.1 hb
        obtain ⟨hk, rfl⟩ := List.getElem?_eq_some_iff.1 hc
        obtain ⟨d, hd, hstate, hsplice⟩ := hchain.getElem k hk
        exact ⟨d.entries, hstate ▸ entries?_of_mem hd, hsplice⟩

/-- The state that the search starts from leads to the cycle and is not on it. -/
def encircling : Grammar :=
  (((Grammar.empty "encircling" .standard).define "root"
    [.rule "a" (.kind .text) .stay, .splice "first"]).define "first"
    [.splice "last", .splice "second"]).define "second" [.inherit, .splice "third"]
    |>.define "third" [.splice "first"] |>.define "last" [.rule "b" (.kind .text) .stay]

theorem reported_cycle_simple_encircling :
    encircling.build true =
      .error ⟨"encircling", .includeCycle ["first", "second", "third", "first"]⟩ ∧
    ∃ es, encircling.entries? "third" = some es ∧ .splice "first" ∈ es := by
  have hbuild : encircling.build true =
      .error ⟨"encircling", .includeCycle ["first", "second", "third", "first"]⟩ :=
    eq_of_failure? (by decide +kernel)
  exact ⟨hbuild, (reported_cycle_simple hbuild).2.2.2 2 _ _ rfl rfl⟩

end Grammar

end Lexing
