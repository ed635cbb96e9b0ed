import Lexing.Proofs.Machine.Naming

/-!
# What a machine stands for

A machine says of every state what the grammar says. The named states come first, in the order of
the grammar, and have the rules of their expanded entries. After them come the combined states, in
the order in which the entries first ask for them, and have the rules of their parts one after the
other. Every state that a rule pushes or a delegate starts from is one of these.
-/
set_option autoImplicit false

namespace Lexing

section

variable {α β : Type} [BEq α] [BEq β]

theorem eraseDups_induction {motive : List α → Prop} (nil : motive [])
    (cons : ∀ x xs, motive (xs.filter fun y => !y == x) → motive (x :: xs)) (xs : List α) :
    motive xs := by
  induction hn : xs.length using Nat.strongRecOn generalizing xs with
  | ind n ih =>
    cases xs with
    | nil => exact nil
    | cons x xs =>
      refine cons x xs (ih _ ?_ _ rfl)
      have := List.length_filter_le (fun y => !y == x) xs
      rw [List.length_cons] at hn
      omega

variable [LawfulBEq α] [LawfulBEq β]

theorem nodup_eraseDups (xs : List α) : xs.eraseDups.Nodup := by
  induction xs using eraseDups_induction with
  | nil => exact List.nodup_nil
  | cons x xs ih =>
    rw [List.eraseDups_cons]
    refine List.nodup_cons.2 ⟨?_, ih⟩
    simp

theorem eraseDups_map {f : α → β} {xs : List α} (hf : ∀ x ∈ xs, ∀ y ∈ xs, f x = f y → x = y) :
    (xs.map f).eraseDups = xs.eraseDups.map f := by
  induction xs using eraseDups_induction with
  | nil => rfl
  | cons x xs ih =>
    have hkept : (xs.map f).filter (fun y => !y == f x) = (xs.filter fun y => !y == x).map f := by
      rw [List.filter_map]
      refine congrArg _ (List.filter_congr fun y hy => ?_)
      have heq : (f y == f x) = (y == x) := by
        rw [Bool.eq_iff_iff, beq_iff_eq, beq_iff_eq]
        refine ⟨fun h => ?_, fun h => by rw [h]⟩
        exact hf y (List.mem_cons_of_mem x hy) x List.mem_cons_self h
      simp only [Function.comp_apply, heq]
    have hmem : ∀ y, y ∈ xs.filter (fun y => !y == x) → y ∈ x :: xs := fun y hy =>
      List.mem_cons_of_mem x (List.mem_filter.1 hy).1
    rw [List.map_cons, List.eraseDups_cons, List.eraseDups_cons, hkept, List.map_cons,
      ih fun y hy z hz => hf y (hmem y hy) z (hmem z hz)]

end

def Entry.combined (e : Entry) : List (List String) :=
  (e.move?.toList.flatMap Move.edits).filterMap fun
    | .push (.combined names) => some names
    | _ => none

/-- The combined states that a grammar asks for, in the order of their first use. -/
def Grammar.combined (g : Grammar) : List (List String) :=
  ((g.definitions.flatMap Definition.entries).flatMap Entry.combined).eraseDups

def Machine.partNames (m : Machine) (parts : List Nat) : List String :=
  parts.map fun i => (m.named i).name

theorem Rule.Means.combined {g : Grammar} {m : Machine} {r : Rule} {e : Entry} (h : r.Means g m e) :
    r.combined.map m.partNames = e.combined := by
  have hedits := h.edits
  cases hmove : e.move? with
  | none =>
    rw [hmove] at hedits
    cases hedits
  | some move =>
    rw [hmove] at hedits
    rw [Entry.combined, hmove, Option.toList_some, List.flatMap_singleton,
      ← Option.some.inj hedits, List.filterMap_map, Rule.combined, List.map_filterMap]
    refine List.filterMap_congr fun edit _ => ?_
    cases edit with
    | push ref => cases ref <;> rfl
    | pushTop => rfl
    | pop n => rfl

def asked (ls : List Line) : List (List Nat) := (ls.filterMap Line.rule?).flatMap Rule.combined

theorem asked_append (xs ys : List Line) : asked (xs ++ ys) = asked xs ++ asked ys := by
  rw [asked, List.filterMap_append, List.flatMap_append]
  rfl

section

variable {g : Grammar} {root : Nat} {steering : Bool} {m : Machine}

theorem asked_of_lines (names : m.stateNames = g.states) (hroot : (m.named root).name = "root")
    {e : Entry} {part : List Line} (h : (g.scope root steering).lines e = .ok part) :
    (asked part).map m.partNames = e.combined := by
  cases hr : Scope.resolves_of_lines h with
  | rule pattern action edits =>
    have hmeans := Rule.means_of_carries names hroot h
    rw [← hmeans.combined, asked]
    simp [Line.rule?]
  | splice index => rfl
  | inherit => rfl
  | fallback pattern edits =>
    have hmeans := Rule.means_of_carries names hroot h
    rw [← hmeans.combined, asked]
    simp [Line.rule?]

theorem asked_of_linesFrom (names : m.stateNames = g.states) (hroot : (m.named root).name = "root")
    {index : Nat} {es : List Entry} {ls : List Line}
    (h : (g.scope root steering).linesFrom index es = .ok ls) :
    (asked ls).map m.partNames = es.flatMap Entry.combined := by
  induction es generalizing index ls with
  | nil =>
    cases h
    rfl
  | cons e es ih =>
    simp only [Scope.linesFrom] at h
    split at h
    · cases h
    · rename_i part hpart
      obtain ⟨rest, hrest, h⟩ := bind_eq_ok.1 h
      cases h
      rw [asked_append, List.map_append, asked_of_lines names hroot hpart, ih hrest,
        List.flatMap_cons]

theorem asked_of_definitions (names : m.stateNames = g.states)
    (hroot : (m.named root).name = "root") {lines : List (List Line)}
    (h : g.definitions.mapM (g.scope root steering).definition = .ok lines) :
    (asked lines.flatten).map m.partNames =
      (g.definitions.flatMap Definition.entries).flatMap Entry.combined := by
  have heach : lines.map (fun ls => (asked ls).map m.partNames) =
      g.definitions.map fun d => d.entries.flatMap Entry.combined :=
    map_of_mapM (fun d ls hls =>
      asked_of_linesFrom names hroot (Scope.linesFrom_of_definition hls)) h
  have hflat : ∀ ls : List (List Line), asked ls.flatten = ls.flatMap asked := by
    intro ls
    induction ls with
    | nil => rfl
    | cons l ls ih => rw [List.flatten_cons, asked_append, ih, List.flatMap_cons]
  rw [hflat, List.map_flatMap, List.flatMap_def, heach, ← List.flatMap_def, List.flatMap_assoc]

end

namespace Grammar

variable {g : Grammar} {steering : Bool} {m : Machine} {lines : List (List Line)}
  {rules : List (List Rule)}

/-- The rules are those of the entries, which expand in one way only. -/
def Denotes (g : Grammar) (m : Machine) (entries : List Entry) (rules : List Rule) : Prop :=
  ∃ es, (∀ es', g.Expands entries es' ↔ es' = es) ∧
    List.Forall₂ (fun e r => r.Means g m e) es rules

namespace Built

theorem length_definitions (h : g.Built steering m lines rules) :
    m.states.length = g.definitions.length := by
  rw [h.length_states, Grammar.states, List.length_map]

theorem stateNames (h : g.Built steering m lines rules) : m.stateNames = g.states := by
  have hrules := length_of_mapM h.expanded
  rw [List.length_range] at hrules
  rw [Machine.stateNames, h.states, ← List.map_uncurry_zip_eq_zipWith, List.map_map]
  refine List.map_fst_zip ?_
  rw [hrules, Grammar.states, List.length_map]

theorem rootName (h : g.Built steering m lines rules) : (m.named m.root).name = "root" := by
  obtain ⟨hlt, hroot, _⟩ := List.idxOf?_eq_some_iff.1 h.root
  exact Scope.name_of_getElem? (s := g.scope m.root steering) h.stateNames
    (List.getElem?_eq_some_iff.2 ⟨hlt, hroot⟩)

theorem exists_state (h : g.Built steering m lines rules) {i : Nat} {d : Definition}
    (hd : g.definitions[i]? = some d) : ∃ es rs, m.states[i]? = some ⟨d.state, rs⟩ ∧
      g.Expands d.entries es ∧ List.Forall₂ (g.scope m.root steering).Carries es rs := by
  have hi : (List.range g.definitions.length)[i]? = some i :=
    List.getElem?_range (List.getElem?_eq_some_iff.1 hd).1
  obtain ⟨rs, hrs, hexpand⟩ := getElem?_of_mapM h.expanded hi
  obtain ⟨es, hes, hcarries⟩ := expands_of_expand h.resolved hd hexpand
  refine ⟨es, rs, ?_, hes, hcarries⟩
  rw [h.states, List.getElem?_zipWith, getElem?_states hd, hrs]

theorem exists_parts (h : g.Built steering m lines rules) {names : List String} {parts : List Nat}
    (hparts : names.mapM (g.scope m.root steering).index = .ok parts) :
    ∃ es, g.Expands (names.map .splice) es ∧
      List.Forall₂ (g.scope m.root steering).Carries es
        (parts.flatMap fun i => (m.named i).rules) := by
  induction names generalizing parts with
  | nil =>
    cases hparts
    exact ⟨[], .nil, .nil⟩
  | cons name names ih =>
    obtain ⟨i, others, rfl, hi, hothers⟩ := mapM_cons_eq_ok.1 hparts
    obtain ⟨rest, hrest, hcarries⟩ := ih hothers
    obtain ⟨d, hd, rfl⟩ := exists_of_getElem?_states (Scope.getElem?_of_index hi)
    obtain ⟨es, rs, hstate, hes, hthese⟩ := h.exists_state hd
    have hrules : (m.named i).rules = rs := by rw [Machine.named, hstate, Option.getD_some]
    refine ⟨es ++ rest, .splice (List.mem_of_getElem? hd) hes hrest, ?_⟩
    rw [List.flatMap_cons, hrules]
    exact List.rel_append hthese hcarries

theorem denotes (h : g.Built steering m lines rules) {entries es : List Entry} {rs : List Rule}
    (hes : g.Expands entries es)
    (hcarries : List.Forall₂ (g.scope m.root steering).Carries es rs) :
    g.Denotes m entries rs := by
  refine ⟨es, fun es' => ⟨fun hes' => hes.unique hes', fun heq => heq ▸ hes⟩, ?_⟩
  exact hcarries.imp fun e r => Rule.means_of_carries h.stateNames h.rootName

theorem mem_asked_iff (h : g.Built steering m lines rules) {parts : List Nat} :
    parts ∈ asked lines.flatten ↔ ∃ d ∈ g.definitions, ∃ e ∈ d.entries, ∃ r,
      (g.scope m.root steering).Carries e r ∧ parts ∈ r.combined := by
  constructor
  · intro hparts
    obtain ⟨r, hr, hparts⟩ := List.mem_flatMap.1 hparts
    obtain ⟨line, hline, hrule⟩ := List.mem_filterMap.1 hr
    obtain ⟨ls, hls, hline⟩ := List.mem_flatten.1 hline
    obtain ⟨d, hd, hdefinition⟩ := exists_of_mapM h.resolved hls
    obtain ⟨e, he, part, hpart, hline⟩ := Scope.exists_of_definition hdefinition hline
    refine ⟨d, hd, e, he, r, ?_, hparts⟩
    cases line with
    | splice target => cases hrule
    | rule r' =>
      obtain rfl := Option.some.inj hrule
      exact Scope.carries_of_mem hpart hline
  · rintro ⟨d, hd, e, he, r, hcarries, hparts⟩
    obtain ⟨i, hi⟩ := List.getElem?_of_mem hd
    obtain ⟨ls, hls, hdefinition⟩ := getElem?_of_mapM h.resolved hi
    obtain ⟨part, hpart, hmem⟩ := Scope.mem_of_definition hdefinition he
    obtain rfl := Except.ok.inj (hpart.symm.trans hcarries)
    have hline := List.mem_flatten.2
      ⟨ls, List.mem_of_getElem? hls, hmem _ (List.mem_singleton.2 rfl)⟩
    exact List.mem_flatMap.2 ⟨r, List.mem_filterMap.2 ⟨_, hline, rfl⟩, hparts⟩

theorem mem_combined_iff (h : g.Built steering m lines rules) {parts : List Nat} :
    parts ∈ m.combined ↔ parts ∈ asked lines.flatten := by
  rw [h.combined]
  exact List.mem_eraseDups

theorem nodup_combined (h : g.Built steering m lines rules) : m.combined.Nodup := by
  rw [h.combined]
  exact nodup_eraseDups _

theorem exists_names (h : g.Built steering m lines rules) {parts : List Nat}
    (hparts : parts ∈ asked lines.flatten) :
    ∃ names : List String, names.mapM (g.scope m.root steering).index = .ok parts := by
  obtain ⟨_, _, e, _, r, hcarries, hparts⟩ := h.mem_asked_iff.1 hparts
  obtain ⟨edit, hedit, heq⟩ := List.mem_filterMap.1 hparts
  split at heq
  · obtain rfl := Option.some.inj heq
    exact Scope.names_of_lines hcarries (List.mem_singleton.2 rfl) hedit
  · cases heq

theorem partNames_of_index (h : g.Built steering m lines rules) {names : List String}
    {parts : List Nat} (hparts : names.mapM (g.scope m.root steering).index = .ok parts) :
    m.partNames parts = names := by
  have hmap : m.partNames parts = names.map id :=
    map_of_mapM (fun _ _ => Scope.name_of_index h.stateNames) hparts
  rw [hmap, List.map_id]

theorem combined_names (h : g.Built steering m lines rules) :
    m.combined.map m.partNames = g.combined := by
  rw [Grammar.combined, ← asked_of_definitions h.stateNames h.rootName h.resolved, eraseDups_map,
    h.combined]
  · rfl
  · intro parts hparts parts' hparts' heq
    obtain ⟨names, hnames⟩ := h.exists_names hparts
    obtain ⟨names', hnames'⟩ := h.exists_names hparts'
    rw [h.partNames_of_index hnames, h.partNames_of_index hnames'] at heq
    subst heq
    exact Except.ok.inj (hnames.symm.trans hnames')

theorem join_denotes (h : g.Built steering m lines rules) {parts : List Nat}
    (hparts : parts ∈ m.combined) : ∃ rs,
      m.join parts = ⟨"+".intercalate (m.partNames parts), rs⟩ ∧
        g.Denotes m ((m.partNames parts).map .splice) rs := by
  obtain ⟨names, hnames⟩ := h.exists_names (h.mem_combined_iff.1 hparts)
  obtain ⟨es, hes, hcarries⟩ := h.exists_parts hnames
  rw [h.partNames_of_index hnames]
  refine ⟨_, ?_, h.denotes hes hcarries⟩
  rw [← h.partNames_of_index hnames]
  rfl

theorem state_denotes (h : g.Built steering m lines rules) {ref : StateRef} (href : m.Has ref) :
    ∃ rs, m.state ref = ⟨(m.target ref).shown, rs⟩ ∧ g.Denotes m (m.target ref).entries rs := by
  cases ref with
  | named i =>
    have hlt : i < g.definitions.length := by
      rw [← h.length_definitions]
      exact href
    have hd := List.getElem?_eq_getElem hlt
    obtain ⟨es, rs, hi, hes, hcarries⟩ := h.exists_state hd
    have hnamed : m.named i = ⟨g.definitions[i].state, rs⟩ := by
      rw [Machine.named, hi, Option.getD_some]
    have hsplice := Expands.splice (List.mem_of_getElem? hd) hes .nil
    rw [List.append_nil] at hsplice
    rw [Machine.state, Machine.target, hnamed]
    exact ⟨rs, rfl, h.denotes hsplice hcarries⟩
  | combined parts => exact h.join_denotes href

end Built

/-- A machine is what its grammar describes, state by state and number by number. -/
theorem build_denotes (built : g.build steering = .ok m) :
    m.allStates.length = g.definitions.length + g.combined.length ∧
      (∀ (i : Nat) (d : Definition), g.definitions[i]? = some d → ∃ rs,
        m.allStates[i]? = some ⟨d.state, rs⟩ ∧ g.Denotes m d.entries rs) ∧
      (∀ (k : Nat) (names : List String), g.combined[k]? = some names → ∃ rs,
        m.allStates[g.definitions.length + k]? = some ⟨"+".intercalate names, rs⟩ ∧
          g.Denotes m (names.map .splice) rs) ∧
      m.Closed ∧
      ∀ ref, m.Has ref → ∃ rs, m.allStates[m.number ref]? = some ⟨(m.target ref).shown, rs⟩ ∧
        g.Denotes m (m.target ref).entries rs := by
  obtain ⟨lines, rules, h⟩ := Machine.exists_of_build built
  have hlength := h.length_definitions
  refine ⟨?_, fun i d hd => ?_, fun k names hk => ?_, Machine.closed_of_build built,
    fun ref href => ?_⟩
  · rw [Machine.allStates, List.length_append, List.length_map, hlength, ← h.combined_names,
      List.length_map]
  · obtain ⟨es, rs, hstate, hes, hcarries⟩ := h.exists_state hd
    refine ⟨rs, ?_, h.denotes hes hcarries⟩
    rw [Machine.allStates, List.getElem?_append_left (List.getElem?_eq_some_iff.1 hstate).1, hstate]
  · rw [← h.combined_names, List.getElem?_map] at hk
    obtain ⟨parts, hparts, rfl⟩ := Option.map_eq_some_iff.1 hk
    obtain ⟨rs, hjoin, hdenotes⟩ := h.join_denotes (List.mem_of_getElem? hparts)
    refine ⟨rs, ?_, hdenotes⟩
    rw [Machine.allStates, ← hlength, List.getElem?_append_right (Nat.le_add_right _ _),
      Nat.add_sub_cancel_left, List.getElem?_map, hparts, Option.map_some, hjoin]
  · obtain ⟨rs, hstate, hdenotes⟩ := h.state_denotes href
    exact ⟨rs, (Machine.state?_eq href).trans (congrArg some hstate), hdenotes⟩

/-- States that refer to states, are combined in two orders, and start runs of their own. -/
def layered : Grammar :=
  (((Grammar.empty "layered" .standard).define "root"
    [.splice "words", .inherit, .rule "(b)(c)" (.groups [.delegate (.self ["digits"])])
      (.seq [.combined ["digits", "words"], .pop 2]), .splice "words"]).define "words"
    [.rule "a" (.delegate (.self [])) .pushTop, .splice "digits"]).define "digits"
    [.fallback (.seq [.combined ["words", "digits"], .combined ["digits", "words"]])]

theorem build_denotes_layered : ∃ m, layered.build false = .ok m ∧
    m.allStates.length = 5 ∧
    (∃ rs, m.allStates[0]? = some ⟨"root", rs⟩ ∧ rs.length = 5) ∧
    ∃ rs, m.allStates[4]? = some ⟨"words+digits", rs⟩ ∧ rs.length = 3 := by
  have hok : (layered.build false).isOk = true := by decide +kernel
  obtain ⟨m, built⟩ := exists_of_isOk hok
  obtain ⟨hlength, hnamed, hcombined, _⟩ := build_denotes built
  have hdigits : layered.Expands [.splice "digits"] _ :=
    .splice (d := layered.definitions[2]) (List.getElem_mem _) (.fallback .nil) .nil
  have hwords : layered.Expands [.splice "words"] _ :=
    .splice (d := layered.definitions[1]) (List.getElem_mem _) (.rule hdigits) .nil
  refine ⟨m, built, hlength, ?_, ?_⟩
  · obtain ⟨rs, hstate, es, hes, hmeans⟩ := hnamed 0 _ rfl
    have hroot : layered.Expands (layered.definitions[0]).entries _ :=
      hwords.append (.inherit (.rule hwords))
    obtain rfl := (hes _).1 hroot
    exact ⟨rs, hstate, hmeans.length_eq.symm⟩
  · obtain ⟨rs, hstate, es, hes, hmeans⟩ := hcombined 1 ["words", "digits"] rfl
    obtain rfl := (hes _).1 (hwords.append hdigits)
    exact ⟨rs, hstate, hmeans.length_eq.symm⟩

end Grammar

end Lexing
