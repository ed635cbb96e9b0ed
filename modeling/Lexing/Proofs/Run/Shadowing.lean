import Lexing.Proofs.Machine.Denotation
import Lexing.Proofs.Machine.WellFormed
import Lexing.Proofs.Run.Alike

/-!
# Entries that are never reached

Of the entries of a state the first that matches decides. So an entry behind one with the same
pattern is never reached, wherever the entries of its state are taken over or combined with others,
and it can be left out: the grammar is still well formed, and nothing else is observed of any run.
The combined states that only the entry asked for are gone, and others may have other numbers.
-/
set_option autoImplicit false

namespace Lexing

section

variable {mode : PatternMode} {text : Text} {spot : Pattern.Spot}

def Entry.matchAt (mode : PatternMode) (text : Text) (spot : Pattern.Spot) (e : Entry) :
    Option Match :=
  (e.pattern?.bind fun source => (Pattern.compile mode source).toOption).bind fun p =>
    p.matchAt text spot

def firstEntry (mode : PatternMode) (text : Text) (spot : Pattern.Spot) (es : List Entry) :
    Option (Entry × Match) :=
  es.findSome? fun e => (e.matchAt mode text spot).map fun found => (e, found)

theorem firstEntry_append (es fs : List Entry) :
    firstEntry mode text spot (es ++ fs) =
      (firstEntry mode text spot es).or (firstEntry mode text spot fs) :=
  List.findSome?_append

theorem firstEntry_cons (e : Entry) (es : List Entry) :
    firstEntry mode text spot (e :: es) =
      ((e.matchAt mode text spot).map fun found => (e, found)).or
        (firstEntry mode text spot es) := by
  rw [firstEntry, List.findSome?_cons]
  cases e.matchAt mode text spot <;> rfl

theorem firstEntry_of_hidden {above middle below : List Entry} {e e' : Entry}
    (pattern : e'.pattern? = e.pattern?) :
    firstEntry mode text spot (above ++ e :: middle ++ below) =
      firstEntry mode text spot (above ++ e :: middle ++ e' :: below) := by
  have hmatch : e'.matchAt mode text spot = e.matchAt mode text spot := by
    rw [Entry.matchAt, pattern]
    rfl
  simp only [List.append_assoc, List.cons_append, firstEntry_append, firstEntry_cons, hmatch]
  cases e.matchAt mode text spot with
  | none => rfl
  | some found => rfl

end

namespace Grammar

/-- Entries with at most one left out, which has the pattern of one that stands before it. -/
inductive LeavesOut : List Entry → List Entry → Prop
  | same {es : List Entry} : LeavesOut es es
  | hidden {above middle below : List Entry} {e e' : Entry} {source : String}
      (pattern : e.pattern? = some source) (pattern' : e'.pattern? = some source) :
      LeavesOut (above ++ e :: middle ++ e' :: below) (above ++ e :: middle ++ below)

/-- Each state has the entries that it has in `g`, or a hidden one of them is left out. -/
structure Thinned (g g' : Grammar) (thin : Definition → Definition) : Prop where
  mode : g'.mode = g.mode
  definitions : g'.definitions = g.definitions.map thin
  state : ∀ d, (thin d).state = d.state
  entries : ∀ d ∈ g.definitions, LeavesOut d.entries (thin d).entries

variable {g g' : Grammar} {steering : Bool} {es es' out out' : List Entry} {a b : String}

theorem LeavesOut.mem {e : Entry} (h : LeavesOut es es') (he : e ∈ es') : e ∈ es := by
  cases h with
  | same => exact he
  | hidden _ _ =>
    rcases List.mem_append.1 he with he | he
    · exact List.mem_append_left _ he
    · exact List.mem_append_right _ (List.mem_cons_of_mem _ he)

theorem Expands.eq_cons_of_pattern {e : Entry} {source : String} (h : g.Expands (e :: es) out)
    (pattern : e.pattern? = some source) : ∃ rest, out = e :: rest ∧ g.Expands es rest := by
  cases h with
  | rule rest => exact ⟨_, rfl, rest⟩
  | splice _ _ _ => cases pattern
  | inherit _ => cases pattern
  | fallback rest => exact ⟨_, rfl, rest⟩

theorem LeavesOut.expands (h : LeavesOut es es') (hes : g.Expands es out) :
    ∃ out', g.Expands es' out' ∧ LeavesOut out out' := by
  cases h with
  | same => exact ⟨out, hes, .same⟩
  | hidden pattern pattern' =>
    obtain ⟨front, last, rfl, hfront, hlast⟩ := hes.split
    obtain ⟨first, inner, rfl, hfirst, hinner⟩ := hfront.split
    obtain ⟨between, rfl, _⟩ := hinner.eq_cons_of_pattern pattern
    obtain ⟨rest, rfl, hrest⟩ := hlast.eq_cons_of_pattern pattern'
    exact ⟨_, (hfirst.append hinner).append hrest, .hidden pattern pattern'⟩

theorem LeavesOut.firstEntry_eq {mode : PatternMode} {text : Text} {spot : Pattern.Spot}
    (h : LeavesOut es es') : firstEntry mode text spot es' = firstEntry mode text spot es := by
  cases h with
  | same => rfl
  | hidden pattern pattern' => exact firstEntry_of_hidden (pattern'.trans pattern.symm)

namespace Thinned

variable {thin : Definition → Definition}

theorem states (h : g.Thinned g' thin) : g'.states = g.states :=
  states_eq_of_map h.definitions h.state

/-- Expanded in the one grammar and in the other, entries come to the same first match. -/
theorem firstEntry_eq (h : g.Thinned g' thin) {mode : PatternMode} {text : Text}
    {spot : Pattern.Spot} (hes : g'.Expands es out') (hes' : g.Expands es out) :
    firstEntry mode text spot out' = firstEntry mode text spot out := by
  induction hes generalizing out with
  | nil =>
    cases hes'
    rfl
  | rule _ ih =>
    cases hes' with
    | rule rest =>
      rw [firstEntry_cons, firstEntry_cons, ih rest]
  | @splice d' es inner' rest' mem _ _ ihtarget ihrest =>
    rw [h.definitions] at mem
    obtain ⟨d, hd, rfl⟩ := List.mem_map.1 mem
    generalize hsplice : Entry.splice (thin d).state = e at hes'
    cases hes' with
    | @splice d₁ _ inner _ hd₁ target rest =>
      obtain rfl := eq_of_state hd hd₁ ((h.state d).symm.trans (Entry.splice.inj hsplice))
      obtain ⟨thinned, hthinned, hleft⟩ := (h.entries d hd).expands target
      rw [firstEntry_append, firstEntry_append, ihtarget hthinned, hleft.firstEntry_eq, ihrest rest]
    | _ => cases hsplice
  | inherit _ ih =>
    cases hes' with
    | inherit rest => exact ih rest
  | fallback _ ih =>
    cases hes' with
    | fallback rest =>
      rw [firstEntry_cons, firstEntry_cons, ih rest]

theorem includes (h : g.Thinned g' thin) (hab : g'.Includes a b) : g.Includes a b := by
  obtain ⟨d', hd', rfl, hb⟩ := hab
  rw [h.definitions] at hd'
  obtain ⟨d, hd, rfl⟩ := List.mem_map.1 hd'
  exact ⟨d, hd, (h.state d).symm, (h.entries d hd).mem hb⟩

theorem wellFormed (h : g.Thinned g' thin) (wf : g.WellFormed steering) :
    g'.WellFormed steering := by
  refine ⟨?_, fun d' hd' e he => ?_, fun a hcycle => ?_⟩
  · rw [h.states]
    exact wf.root
  · rw [h.definitions] at hd'
    obtain ⟨d, hd, rfl⟩ := List.mem_map.1 hd'
    exact (wf.sound d hd e ((h.entries d hd).mem he)).of_eq h.states h.mode
  · exact wf.acyclic a (Relation.TransGen.lift id (fun _ _ => h.includes) _ _ hcycle)

end Thinned

end Grammar

section

variable {text : Text} {spot : Pattern.Spot}

def firstRule (text : Text) (spot : Pattern.Spot) (rs : List Rule) : Option (Rule × Match) :=
  rs.findSome? fun r => (r.pattern.matchAt text spot).map fun found => (r, found)

theorem firstRule_cons (r : Rule) (rs : List Rule) :
    firstRule text spot (r :: rs) =
      ((r.pattern.matchAt text spot).map fun found => (r, found)).or (firstRule text spot rs) := by
  rw [firstRule, List.findSome?_cons]
  cases r.pattern.matchAt text spot <;> rfl

theorem firstRule_flatMap {α : Type} (f : α → List Rule) (xs : List α) :
    firstRule text spot (xs.flatMap f) = xs.findSome? fun x => firstRule text spot (f x) := by
  induction xs with
  | nil => rfl
  | cons x xs ih =>
    have happend : firstRule text spot (f x ++ xs.flatMap f) =
        (firstRule text spot (f x)).or (firstRule text spot (xs.flatMap f)) :=
      List.findSome?_append
    rw [List.flatMap_cons, happend, ih, List.findSome?_cons]
    cases firstRule text spot (f x) <;> rfl

end

namespace Scope

variable {s : Scope} {text : Text} {spot : Pattern.Spot}

def rule? (s : Scope) (e : Entry) : Option Rule :=
  match s.lines e with
  | .ok [.rule r] => some r
  | _ => none

theorem rule?_of_carries {e : Entry} {r : Rule} (h : s.Carries e r) : s.rule? e = some r := by
  unfold Carries at h
  rw [rule?, h]

theorem matchAt_of_carries {e : Entry} {r : Rule} (h : s.Carries e r) :
    e.matchAt s.mode text spot = r.pattern.matchAt text spot := by
  unfold Carries at h
  generalize hpart : [Line.rule r] = part at h
  cases resolves_of_lines h with
  | rule pattern _ _ =>
    cases hpart
    simp only [Entry.matchAt, Entry.pattern?, Option.bind_some, compile_of_pattern pattern]
    rfl
  | splice _ => cases hpart
  | inherit => cases hpart
  | fallback pattern _ =>
    cases hpart
    simp only [Entry.matchAt, Entry.pattern?, Option.bind_some, compile_of_pattern pattern]
    rfl

theorem firstRule_of_carries {es : List Entry} {rs : List Rule}
    (h : List.Forall₂ s.Carries es rs) :
    firstRule text spot rs =
      (firstEntry s.mode text spot es).bind fun p => (s.rule? p.1).map fun r => (r, p.2) := by
  induction h with
  | nil => rfl
  | @cons e r _ _ hcarries _ ih =>
    rw [firstRule_cons, firstEntry_cons, matchAt_of_carries hcarries, ih]
    cases r.pattern.matchAt text spot with
    | none => rfl
    | some found =>
      change some (r, found) = (s.rule? e).map fun r => (r, found)
      rw [rule?_of_carries hcarries]
      rfl

end Scope

namespace Grammar

variable {g g' : Grammar} {thin : Definition → Definition} {steering : Bool} {m m' : Machine}
  {lines lines' : List (List Line)} {rules rules' : List (List Rule)}

theorem Thinned.firstRule_named (h : g.Thinned g' thin) (built : g.Built steering m lines rules)
    (built' : g'.Built steering m' lines' rules') (text : Text) (spot : Pattern.Spot) (i : Nat) :
    firstRule text spot (m'.named i).rules = firstRule text spot (m.named i).rules := by
  cases hd : g.definitions[i]? with
  | none =>
    have hlength : g.definitions.length ≤ i := List.getElem?_eq_none_iff.1 hd
    have hlength' : g'.definitions.length ≤ i := by rwa [h.definitions, List.length_map]
    rw [Machine.named, Machine.named, List.getElem?_eq_none (by rwa [built'.length_definitions]),
      List.getElem?_eq_none (by rwa [built.length_definitions])]
  | some d =>
    have hd' : g'.definitions[i]? = some (thin d) := by
      rw [h.definitions, List.getElem?_map, hd]
      rfl
    obtain ⟨es, rs, hstate, hes, hcarries⟩ := built.exists_state hd
    obtain ⟨es', rs', hstate', hes', hcarries'⟩ := built'.exists_state hd'
    obtain ⟨thinned, hthinned, hleft⟩ := (h.entries d (List.mem_of_getElem? hd)).expands hes
    rw [built.scope_eq built' h.states h.mode] at hcarries'
    rw [Machine.named, hstate', Machine.named, hstate, Option.getD_some, Option.getD_some,
      Scope.firstRule_of_carries hcarries', Scope.firstRule_of_carries hcarries,
      h.firstEntry_eq hes' hthinned, hleft.firstEntry_eq]

theorem Thinned.firstRule_state (h : g.Thinned g' thin) (built : g.Built steering m lines rules)
    (built' : g'.Built steering m' lines' rules') (text : Text) (spot : Pattern.Spot)
    (ref : StateRef) :
    firstRule text spot (m'.state ref).rules = firstRule text spot (m.state ref).rules := by
  cases ref with
  | named i => exact h.firstRule_named built built' text spot i
  | combined parts =>
    change firstRule text spot (parts.flatMap fun i => (m'.named i).rules) =
      firstRule text spot (parts.flatMap fun i => (m.named i).rules)
    rw [firstRule_flatMap, firstRule_flatMap, funext (h.firstRule_named built built' text spot)]

theorem Thinned.alike (h : g.Thinned g' thin) (built : g.build steering = .ok m)
    (built' : g'.build steering = .ok m') : m.Alike m' := by
  obtain ⟨lines, rules, hm⟩ := Machine.exists_of_build built
  obtain ⟨lines', rules', hm'⟩ := Machine.exists_of_build built'
  refine ⟨hm.root_eq hm' h.states, ?_, ?_⟩
  · rw [hm'.stateNames, hm.stateNames, h.states]
  · funext c
    exact h.firstRule_state hm hm' c.text _ c.stack.top

theorem thinned_define {a source : String} {above middle below : List Entry} {e e' : Entry}
    (ha : g.entries? a = some (above ++ e :: middle ++ e' :: below))
    (pattern : e.pattern? = some source) (pattern' : e'.pattern? = some source) :
    g.Thinned (g.define a (above ++ e :: middle ++ below))
      (redefined a (above ++ e :: middle ++ below)) := by
  obtain ⟨_, hmode, hdefinitions⟩ := define_of_entries? ha (above ++ e :: middle ++ below)
  refine ⟨hmode, hdefinitions, state_redefined _ _, fun d hd => ?_⟩
  exact entries_redefined ha (fun _ => .same) (.hidden pattern pattern') hd

/-- An entry that stands behind one with the same pattern can be left out: the grammar is a machine
as before, and nothing else is observed of any run. -/
theorem observed_of_hidden {a source : String} {above middle below : List Entry} {e e' : Entry}
    (built : g.build steering = .ok m)
    (entries : g.entries? a = some (above ++ e :: middle ++ e' :: below))
    (pattern : e.pattern? = some source) (pattern' : e'.pattern? = some source) :
    ∃ m', (g.define a (above ++ e :: middle ++ below)).build steering = .ok m' ∧
      m'.stateNames = m.stateNames ∧
      (∀ text, m'.tokens text = m.tokens text) ∧
      (∀ text names n, m'.observed text names n = m.observed text names n) ∧
      ∀ (r : Run) n, r.take m' n = r.take m n := by
  have hthinned := thinned_define entries pattern pattern'
  obtain ⟨m', built'⟩ := exists_of_wellFormed (hthinned.wellFormed (wellFormed_of_build built))
  have alike := hthinned.alike built built'
  refine ⟨m', built', alike.stateNames, fun text => ?_, alike.observed, fun r n => alike.take n r⟩
  rw [alike.tokens]

/-- The hidden entry, which is taken over into another state, is the only one that asks for the
first combined state. -/
def eclipsed : Grammar :=
  ((Grammar.empty "eclipsed" .standard).define "marks"
    [.rule "a" (.kind .text) .pushTop, .rule "b" (.delegate (.self ["marks"])) (.pop 1),
      .rule "a" (.groups []) (.combined ["marks", "root"]), .fallback (.pop 1)]).define "root"
    [.splice "marks", .rule "c" (.kind .text) (.combined ["root", "marks"])]

theorem observed_of_hidden_eclipsed : ∃ m m',
    eclipsed.build false = .ok m ∧ m.combined = [[0, 1], [1, 0]] ∧
      (eclipsed.define "marks" [.rule "a" (.kind .text) .pushTop,
        .rule "b" (.delegate (.self ["marks"])) (.pop 1), .fallback (.pop 1)]).build false =
          .ok m' ∧
      m'.combined = [[1, 0]] ∧
      ∀ text names n, m'.observed text names n = m.observed text names n := by
  have hok : (eclipsed.build false).toOption.any
      (fun m => m.combined == [[0, 1], [1, 0]]) = true := by decide +kernel
  have hok' : ((eclipsed.define "marks" [.rule "a" (.kind .text) .pushTop,
      .rule "b" (.delegate (.self ["marks"])) (.pop 1), .fallback (.pop 1)]).build
        false).toOption.any (fun m => m.combined == [[1, 0]]) = true := by decide +kernel
  obtain ⟨m, built, hcombined⟩ := exists_of_any hok
  obtain ⟨m', built', hcombined'⟩ := exists_of_any hok'
  have hentries : eclipsed.entries? "marks" = some ([] ++ .rule "a" (.kind .text) .pushTop ::
      [.rule "b" (.delegate (.self ["marks"])) (.pop 1)] ++
        .rule "a" (.groups []) (.combined ["marks", "root"]) :: [.fallback (.pop 1)]) := rfl
  obtain ⟨m'', built'', _, _, hobserved, _⟩ := observed_of_hidden built hentries rfl rfl
  obtain rfl := Except.ok.inj (built''.symm.trans built')
  exact ⟨m, m'', built, eq_of_beq hcombined, built', eq_of_beq hcombined', hobserved⟩

end Grammar

end Lexing
