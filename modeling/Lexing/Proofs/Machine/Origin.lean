import Lexing.Proofs.Machine.Built
import Lexing.Proofs.Run.Emitted

/-!
# Where the rules of a machine come from

Every rule of every state of a machine, combined states included, stands for an entry of the
grammar. It has the action of that entry, with the names resolved, or none if the entry only makes a
move. So what the actions of a grammar hand text to, and how they steer, is also what its machine
does.
-/
set_option autoImplicit false

namespace Lexing

def Action.delegates {α : Type} : Action α → List (Delegate α)
  | kind _ => []
  | groups actions => actions.filterMap GroupAction.delegate?
  | delegate d => [d]
  | callback _ => []
  | steer _ => []

def Entry.action? : Entry → Option (Action (List String))
  | rule _ action _ => some action
  | splice _ => none
  | inherit => none
  | fallback _ => none

namespace Grammar

def actions (g : Grammar) : List (Action (List String)) :=
  g.definitions.flatMap fun d => d.entries.filterMap Entry.action?

def delegates (g : Grammar) : List (Delegate (List String)) := g.actions.flatMap Action.delegates

/-- No callback moves the offset at which to stop. -/
def KeepsStop (g : Grammar) : Prop :=
  ∀ emit, Action.steer emit ∈ g.actions → ∀ found view, ∀ e ∈ (emit found view).1, e.KeepsStop

end Grammar

inductive Rule.From (g : Grammar) (s : Scope) (r : Rule) : Prop
  | entry {a : Action (List String)} {b : Action (Stack StateRef)} (mem : a ∈ g.actions)
      (resolved : s.action a = .ok b) (action : r.action = some b) : From g s r
  | fallback (pattern : s.pattern "" = .ok r.pattern) (action : r.action = none) : From g s r

namespace Scope

variable {s : Scope}

theorem rule_of_lines {g : Grammar} {e : Entry} {ls : List Line} {r : Rule}
    (he : ∀ a, e.action? = some a → a ∈ g.actions) (h : s.lines e = .ok ls)
    (hr : Line.rule r ∈ ls) : r.From g s := by
  cases resolves_of_lines h with
  | rule pattern action edits =>
    obtain rfl := Line.rule.inj (List.mem_singleton.1 hr)
    exact .entry (he _ rfl) action rfl
  | splice index => cases List.mem_singleton.1 hr
  | inherit => cases hr
  | fallback pattern edits =>
    obtain rfl := Line.rule.inj (List.mem_singleton.1 hr)
    exact .fallback pattern rfl

end Scope

namespace Machine

variable {g : Grammar} {steering : Bool} {m : Machine} {ref : StateRef} {r : Rule}

theorem rule_from (built : g.build steering = .ok m) (hr : r ∈ (m.state ref).rules) :
    r.From g (g.scope m.root steering) := by
  obtain ⟨lines, rules, h⟩ := exists_of_build built
  obtain ⟨d, hd, e, he, part, hpart, hr, _⟩ := h.exists_entry hr
  refine Scope.rule_of_lines (fun a ha => ?_) hpart hr
  exact List.mem_flatMap.2 ⟨d, hd, List.mem_filterMap.2 ⟨e, he, ha⟩⟩

end Machine

namespace Scope

variable {s : Scope} {a : Action (List String)} {b : Action (Stack StateRef)}

theorem compile_of_pattern {source : String} {p : Lexing.Pattern}
    (h : s.pattern source = .ok p) : Pattern.compile s.mode source = .ok p := by
  simp only [pattern] at h
  split at h
  · rename_i hp
    cases h
    exact hp
  · cases h

theorem exists_delegate {d : Delegate (Stack StateRef)} (h : s.action a = .ok b)
    (hd : d ∈ b.delegates) : ∃ d' ∈ a.delegates, s.delegate d' = .ok d := by
  cases a with
  | kind k =>
    cases h
    cases hd
  | groups actions =>
    obtain ⟨actions', hactions, h⟩ := bind_eq_ok.1 h
    cases h
    obtain ⟨x, hx, hxd⟩ := List.mem_filterMap.1 hd
    obtain ⟨y, hy, hok⟩ := exists_of_mapM hactions hx
    cases y with
    | kind k =>
      cases hok
      cases hxd
    | delegate d' =>
      obtain ⟨d'', hd'', hok⟩ := bind_eq_ok.1 hok
      cases hok
      obtain rfl := Option.some.inj hxd
      exact ⟨d', List.mem_filterMap.2 ⟨_, hy, rfl⟩, hd''⟩
  | delegate d' =>
    obtain ⟨d'', hd'', h⟩ := bind_eq_ok.1 h
    cases h
    obtain rfl := List.mem_singleton.1 hd
    exact ⟨d', List.mem_singleton.2 rfl, hd''⟩
  | callback emit =>
    cases h
    cases hd
  | steer emit =>
    simp only [action] at h
    split at h
    · cases h
      cases hd
    · cases h

theorem eq_of_delegate {d : Delegate (List String)} {l : Lexer}
    (h : s.delegate d = .ok (.lexer l)) : d = .lexer l := by
  cases d with
  | self names =>
    obtain ⟨frames, _, h⟩ := bind_eq_ok.1 h
    cases h
  | lexer l' =>
    cases h
    rfl

theorem eq_of_action {emit : Match → View → List CursorEdit × List Emission}
    (h : s.action a = .ok (.steer emit)) : a = .steer emit := by
  cases a with
  | kind k => cases h
  | groups actions =>
    obtain ⟨_, _, h⟩ := bind_eq_ok.1 h
    cases h
  | delegate d =>
    obtain ⟨_, _, h⟩ := bind_eq_ok.1 h
    cases h
  | callback emit' => cases h
  | steer emit' =>
    simp only [action] at h
    split at h
    · cases h
      rfl
    · cases h

end Scope

def Machine.HandsTo (m : Machine) (d : Delegate (Stack StateRef)) : Prop :=
  ∃ ref r a, r ∈ (m.state ref).rules ∧ r.action = some a ∧ d ∈ a.delegates

namespace Machine

variable {g : Grammar} {steering : Bool} {m : Machine}

theorem handsTo_of_handed {c : Cursor StateRef} {s : Span} {d : Delegate (Stack StateRef)}
    (h : (s, d) ∈ m.handed c) : m.HandsTo d := by
  unfold handed at h
  split at h
  · rename_i rule found first
    have hr := (firstMatch_spec first).1
    split at h
    · cases h
    · cases hact : rule.action with
      | none =>
        rw [hact] at h
        cases h
      | some a =>
        rw [hact] at h
        refine ⟨_, rule, a, hr, hact, ?_⟩
        cases a with
        | kind k => cases h
        | groups actions =>
          obtain ⟨x, hx, hd⟩ := mem_handed_groups.1 h
          have hx := mem_of_kept hx
          obtain ⟨⟨y, group⟩, hy, heq⟩ := List.mem_filterMap.1 hx
          obtain ⟨s', _, heq⟩ := Option.map_eq_some_iff.1 heq
          obtain ⟨rfl, rfl⟩ := Prod.mk.inj heq
          exact List.mem_filterMap.2 ⟨y, (List.of_mem_zip hy).1, hd⟩
        | delegate d' =>
          obtain ⟨rfl, rfl⟩ := Prod.mk.inj (List.mem_singleton.1 h)
          exact List.mem_singleton.2 rfl
        | callback emit => cases h
        | steer emit => cases h
  · cases h

theorem exists_of_handsTo (built : g.build steering = .ok m) {d : Delegate (Stack StateRef)}
    (h : m.HandsTo d) : ∃ d' ∈ g.delegates, (g.scope m.root steering).delegate d' = .ok d := by
  obtain ⟨ref, r, b, hr, hb, hd⟩ := h
  cases rule_from built hr with
  | entry mem resolved action =>
    obtain rfl := Option.some.inj (hb.symm.trans action)
    obtain ⟨d', hd', hok⟩ := Scope.exists_delegate resolved hd
    exact ⟨d', List.mem_flatMap.2 ⟨_, mem, hd'⟩, hok⟩
  | fallback _ action =>
    rw [hb] at action
    cases action

theorem lexer_of_handsTo (built : g.build steering = .ok m) {l : Lexer}
    (h : m.HandsTo (.lexer l)) : Delegate.lexer l ∈ g.delegates := by
  obtain ⟨d, hd, hok⟩ := exists_of_handsTo built h
  obtain rfl := Scope.eq_of_delegate hok
  exact hd

theorem handed_eq_nil (built : g.build steering = .ok m) (none : g.delegates = [])
    (c : Cursor StateRef) : m.handed c = [] := by
  refine List.eq_nil_iff_forall_not_mem.2 fun part hpart => ?_
  obtain ⟨d, hd, _⟩ := exists_of_handsTo built (handsTo_of_handed (s := part.1) hpart)
  rw [none] at hd
  cases hd

theorem steer_of_rule (built : g.build steering = .ok m) {ref : StateRef} {r : Rule}
    (hr : r ∈ (m.state ref).rules) {emit : Match → View → List CursorEdit × List Emission}
    (h : r.action = some (.steer emit)) : Action.steer emit ∈ g.actions := by
  cases rule_from built hr with
  | entry mem resolved action =>
    obtain rfl := Option.some.inj (h.symm.trans action)
    obtain rfl := Scope.eq_of_action resolved
    exact mem
  | fallback _ action =>
    rw [h] at action
    cases action

theorem ne_steer_of_plain (built : g.build false = .ok m) {ref : StateRef} {r : Rule}
    (hr : r ∈ (m.state ref).rules) (emit : Match → View → List CursorEdit × List Emission) :
    r.action ≠ some (.steer emit) := by
  intro h
  cases rule_from built hr with
  | entry _ resolved action =>
    obtain rfl := Option.some.inj (h.symm.trans action)
    obtain rfl := Scope.eq_of_action resolved
    cases resolved
  | fallback _ action =>
    rw [h] at action
    cases action

theorem quiet_of_build (built : g.build steering = .ok m) : m.Quiet := by
  intro c rule found first hnone
  obtain ⟨hr, hfound⟩ := firstMatch_spec first
  cases rule_from built hr with
  | entry _ _ action =>
    rw [hnone] at action
    cases action
  | fallback pattern _ => exact rule.pattern.laws.blank (Scope.compile_of_pattern pattern) hfound

end Machine

end Lexing
