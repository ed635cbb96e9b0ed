import Lexing.Proofs.Machine.Origin

/-!
# What is wrong with an entry

An entry shows a defect by itself: it names a state that there is none of, its pattern is invalid,
it would take nothing and change nothing, it pops no states or combines none, or it steers where
that is not supported. An entry is resolved exactly when it shows no defect, and the error is one
that it shows. Of a whole grammar the first entry with a defect is reported.
-/
set_option autoImplicit false

namespace Lexing

namespace Move

mutual

/-- The moves that a move is made of, without the sequences. -/
def leaves : Move → List Move
  | stay => [stay]
  | push state => [push state]
  | pushTop => [pushTop]
  | pop n => [pop n]
  | seq moves => allLeaves moves
  | combined states => [combined states]

def allLeaves : List Move → List Move
  | [] => []
  | m :: ms => m.leaves ++ allLeaves ms

end

def pushed : Move → List String
  | push state => [state]
  | combined states => states
  | stay | pushTop | pop _ | seq _ => []

def names (m : Move) : List String := m.leaves.flatMap pushed

end Move

def Delegate.names : Delegate (List String) → List String
  | self names => names
  | lexer _ => []

def Action.names (a : Action (List String)) : List String := a.delegates.flatMap Delegate.names

namespace Entry

def names : Entry → List String
  | rule _ a move => a.names ++ move.names
  | splice state => [state]
  | inherit => []
  | fallback move => move.names

def pattern? : Entry → Option String
  | rule source _ _ => some source
  | splice _ => none
  | inherit => none
  | fallback _ => some ""

def move? : Entry → Option Move
  | rule _ _ move => some move
  | splice _ => none
  | inherit => none
  | fallback move => some move

/-- What is wrong with an entry of the grammar, wherever it stands. -/
inductive Shows (g : Grammar) (steering : Bool) (e : Entry) : Defect → Prop
  | unknownState {name : String} (mem : name ∈ e.names) (unknown : name ∉ g.states) :
      Shows g steering e (.unknownState name)
  | invalidPattern {source : String} {error : Pattern.Error} (pattern : e.pattern? = some source)
      (invalid : Pattern.compile g.mode source = .error error) :
      Shows g steering e (.invalidPattern error)
  | zeroWidth {source : String} {p : Pattern} {move : Move} (pattern : e.pattern? = some source)
      (valid : Pattern.compile g.mode source = .ok p) (empty : p.onlyMatchesEmpty = true)
      (moves : e.move? = some move) (stays : move.isStay = true) : Shows g steering e .zeroWidth
  | zeroPop {move : Move} (moves : e.move? = some move) (mem : .pop 0 ∈ move.leaves) :
      Shows g steering e .zeroPop
  | emptyCombined {move : Move} (moves : e.move? = some move) (mem : .combined [] ∈ move.leaves) :
      Shows g steering e .emptyCombined
  | steering {emit : Match → View → List CursorEdit × List Emission} (plain : steering = false)
      (acts : e.action? = some (.steer emit)) : Shows g steering e .steering

def Sound (g : Grammar) (steering : Bool) (e : Entry) : Prop :=
  ∀ defect, ¬ e.Shows g steering defect

/-- What an entry shows depends on the names of the states and on how patterns are read. -/
theorem Sound.of_eq {g g' : Grammar} {steering : Bool} {e : Entry} (sound : e.Sound g steering)
    (states : g'.states = g.states) (mode : g'.mode = g.mode) : e.Sound g' steering := by
  intro defect hshows
  refine sound defect ?_
  cases hshows with
  | unknownState mem unknown =>
    rw [states] at unknown
    exact .unknownState mem unknown
  | invalidPattern pattern invalid =>
    rw [mode] at invalid
    exact .invalidPattern pattern invalid
  | zeroWidth pattern valid empty moves stays =>
    rw [mode] at valid
    exact .zeroWidth pattern valid empty moves stays
  | zeroPop moves mem => exact .zeroPop moves mem
  | emptyCombined moves mem => exact .emptyCombined moves mem
  | steering plain acts => exact .steering plain acts

end Entry

@[simp] theorem Grammar.mode_scope (g : Grammar) (root : Nat) (steering : Bool) :
    (g.scope root steering).mode = g.mode := rfl

@[simp] theorem Grammar.states_scope (g : Grammar) (root : Nat) (steering : Bool) :
    (g.scope root steering).states = g.states := rfl

namespace Scope

def Lacks (s : Scope) (names : List String) (defect : Defect) : Prop :=
  ∃ name ∈ names, name ∉ s.states ∧ defect = .unknownState name

variable {s : Scope}

theorem lacks_append {xs ys : List String} {d : Defect} :
    s.Lacks (xs ++ ys) d ↔ s.Lacks xs d ∨ s.Lacks ys d := by
  simp only [Lacks, List.mem_append, or_and_right, exists_or]

theorem lacks_flatMap {α : Type} {xs : List α} {f : α → List String} {d : Defect} :
    s.Lacks (xs.flatMap f) d ↔ ∃ x ∈ xs, s.Lacks (f x) d := by
  simp only [Lacks, List.mem_flatMap]
  constructor
  · rintro ⟨name, ⟨x, hx, hname⟩, h⟩
    exact ⟨x, hx, name, hname, h⟩
  · rintro ⟨x, hx, name, hname, h⟩
    exact ⟨name, ⟨x, hx, hname⟩, h⟩

theorem not_lacks_nil (d : Defect) : ¬ s.Lacks [] d := by
  rintro ⟨name, hname, _⟩
  cases hname

theorem reports_index (name : String) :
    Reports (s.index name) fun d => name ∉ s.states ∧ d = .unknownState name := by
  simp only [index]
  cases hi : s.states.idxOf? name with
  | none => exact .error ⟨List.idxOf?_eq_none_iff.1 hi, rfl⟩
  | some i => exact .ok fun d h => h.1 (mem_of_idxOf? hi)

theorem reports_delegate (d : Delegate (List String)) :
    Reports (s.delegate d) (s.Lacks d.names) := by
  cases d with
  | self names => exact (Reports.mapM fun name _ => reports_index name).map _
  | lexer l => exact .ok not_lacks_nil

theorem reports_groupAction (a : GroupAction (List String)) :
    Reports (s.groupAction a) fun defect => ∃ d, a.delegate? = some d ∧ s.Lacks d.names defect := by
  cases a with
  | kind k =>
    refine .ok fun defect h => ?_
    obtain ⟨d, hd, _⟩ := h
    cases hd
  | delegate d =>
    refine ((reports_delegate d).map _).congr fun defect => ⟨fun h => ⟨d, rfl, h⟩, ?_⟩
    rintro ⟨d', hd', h⟩
    obtain rfl := Option.some.inj hd'
    exact h

def Forbids (s : Scope) (a : Action (List String)) (d : Defect) : Prop :=
  s.steering = false ∧ (∃ emit, a = .steer emit) ∧ d = .steering

theorem not_forbids {a : Action (List String)} (h : ∀ emit, a ≠ .steer emit) (d : Defect) :
    ¬ s.Forbids a d := by
  rintro ⟨_, ⟨emit, rfl⟩, _⟩
  exact h emit rfl

theorem reports_action (a : Action (List String)) :
    Reports (s.action a) fun d => s.Lacks a.names d ∨ s.Forbids a d := by
  have plain : ∀ {b : Action (List String)} {x : Except Defect (Action (Stack StateRef))},
      (∀ emit, b ≠ .steer emit) → Reports x (s.Lacks b.names) →
        Reports x fun d => s.Lacks b.names d ∨ s.Forbids b d := fun hb h =>
    h.congr fun d => (or_iff_left (not_forbids hb d)).symm
  cases a with
  | kind k => exact plain nofun (.ok not_lacks_nil)
  | groups actions =>
    refine plain nofun ?_
    refine ((Reports.mapM fun a _ => reports_groupAction a).map _).congr fun d => ?_
    simp only [Action.names, Action.delegates, lacks_flatMap, List.mem_filterMap]
    constructor
    · rintro ⟨a, ha, d', hd', h⟩
      exact ⟨d', ⟨a, ha, hd'⟩, h⟩
    · rintro ⟨d', ⟨a, ha, hd'⟩, h⟩
      exact ⟨a, ha, d', hd', h⟩
  | delegate d =>
    refine plain nofun (((reports_delegate d).map _).congr fun defect => ?_)
    simp only [Action.names, Action.delegates, List.flatMap_cons, List.flatMap_nil, List.append_nil]
  | callback emit => exact plain nofun (.ok not_lacks_nil)
  | steer emit =>
    simp only [action]
    split
    · rename_i hsteering
      refine .ok fun d h => ?_
      rcases h with h | ⟨hplain, _⟩
      · exact not_lacks_nil d h
      · rw [hsteering] at hplain
        cases hplain
    · rename_i hplain
      exact .error (.inr ⟨Bool.eq_false_iff.2 hplain, ⟨emit, rfl⟩, rfl⟩)

theorem reports_pattern (source : String) :
    Reports (s.pattern source) fun d =>
      ∃ error, Pattern.compile s.mode source = .error error ∧ d = .invalidPattern error := by
  simp only [pattern]
  cases Pattern.compile s.mode source with
  | error error => exact .error ⟨error, rfl, rfl⟩
  | ok p =>
    refine .ok fun d h => ?_
    obtain ⟨error, herror, _⟩ := h
    cases herror

theorem reports_checked (r : Rule) :
    Reports (checked r) fun d =>
      r.isStay = true ∧ r.pattern.onlyMatchesEmpty = true ∧ d = .zeroWidth := by
  simp only [checked]
  split
  · rename_i h
    exact .error ⟨h.1, h.2, rfl⟩
  · rename_i h
    exact .ok fun d h' => h ⟨h'.1, h'.2.1⟩

def Rejects (s : Scope) (leaf : Move) (d : Defect) : Prop :=
  s.Lacks leaf.pushed d ∨ (leaf = .pop 0 ∧ d = .zeroPop) ∨
    (leaf = .combined [] ∧ d = .emptyCombined)

theorem rejects_single {leaf : Move} {d : Defect} :
    (∃ l ∈ [leaf], s.Rejects l d) ↔ s.Rejects leaf d := by
  simp only [List.mem_singleton, exists_eq_left]

theorem not_rejects {leaf : Move} (hpushed : leaf.pushed = []) (hpop : leaf ≠ .pop 0)
    (hcombined : leaf ≠ .combined []) (d : Defect) : ¬ ∃ l ∈ [leaf], s.Rejects l d := by
  rw [rejects_single, Rejects, hpushed]
  rintro (h | ⟨h, _⟩ | ⟨h, _⟩)
  · exact not_lacks_nil d h
  · exact hpop h
  · exact hcombined h

mutual

theorem reports_edits : (move : Move) →
    Reports (s.edits move) fun d => ∃ leaf ∈ move.leaves, s.Rejects leaf d
  | .stay => .ok (not_rejects rfl nofun nofun)
  | .push state => by
    refine ((reports_index state).map _).congr fun d => ?_
    rw [Move.leaves, rejects_single]
    simp only [Rejects, Lacks, Move.pushed, List.mem_singleton, exists_eq_left, reduceCtorEq,
      false_and, or_false]
  | .pushTop => .ok (not_rejects rfl nofun nofun)
  | .pop n => by
    simp only [edits]
    split
    · rename_i hzero
      subst hzero
      exact .error (rejects_single.2 (.inr (.inl ⟨rfl, rfl⟩)))
    · rename_i hn
      exact .ok (not_rejects rfl (fun h => hn (Move.pop.inj h)) nofun)
  | .seq moves => reports_allEdits moves
  | .combined names => by
    simp only [edits]
    split
    · rename_i hempty
      rw [List.isEmpty_iff] at hempty
      subst hempty
      exact .error (rejects_single.2 (.inr (.inr ⟨rfl, rfl⟩)))
    · rename_i hnames
      rw [List.isEmpty_iff] at hnames
      refine ((Reports.mapM fun name _ => reports_index name).map _).congr fun d => ?_
      rw [Move.leaves, rejects_single]
      refine ⟨.inl, ?_⟩
      rintro (h | ⟨h, _⟩ | ⟨h, _⟩)
      · exact h
      · cases h
      · exact absurd (Move.combined.inj h) hnames

theorem reports_allEdits : (moves : List Move) →
    Reports (s.allEdits moves) fun d => ∃ leaf ∈ Move.allLeaves moves, s.Rejects leaf d
  | [] => by
    refine .ok fun d h => ?_
    obtain ⟨leaf, hleaf, _⟩ := h
    cases hleaf
  | move :: moves => by
    refine ((reports_edits move).bind fun _ _ => (reports_allEdits moves).map _).congr fun d => ?_
    simp only [Move.allLeaves, List.mem_append, or_and_right, exists_or]

end

mutual

theorem isEmpty_edits : (move : Move) → {es : List (StackEdit StateRef)} →
    s.edits move = .ok es → es.isEmpty = move.isStay
  | .stay, _, h => by
    cases h
    rfl
  | .push _, _, h => by
    obtain ⟨i, _, h⟩ := bind_eq_ok.1 h
    cases h
    rfl
  | .pushTop, _, h => by
    cases h
    rfl
  | .pop n, _, h => by
    simp only [edits] at h
    split at h
    · cases h
    · cases h
      rfl
  | .seq moves, _, h => isEmpty_allEdits moves h
  | .combined names, _, h => by
    simp only [edits] at h
    split at h
    · cases h
    · obtain ⟨parts, _, h⟩ := bind_eq_ok.1 h
      cases h
      rfl

theorem isEmpty_allEdits : (moves : List Move) → {es : List (StackEdit StateRef)} →
    s.allEdits moves = .ok es → es.isEmpty = Move.allStay moves
  | [], _, h => by
    cases h
    rfl
  | move :: moves, _, h => by
    obtain ⟨first, hfirst, h⟩ := bind_eq_ok.1 h
    obtain ⟨rest, hrest, h⟩ := bind_eq_ok.1 h
    cases h
    rw [Move.allStay, ← isEmpty_edits move hfirst, ← isEmpty_allEdits moves hrest]
    cases first <;> rfl

end

theorem exists_rejects_iff {move : Move} {d : Defect} :
    (∃ leaf ∈ move.leaves, s.Rejects leaf d) ↔
      s.Lacks move.names d ∨ (.pop 0 ∈ move.leaves ∧ d = .zeroPop) ∨
        (.combined [] ∈ move.leaves ∧ d = .emptyCombined) := by
  rw [Move.names, lacks_flatMap]
  constructor
  · rintro ⟨leaf, hleaf, h | ⟨rfl, h⟩ | ⟨rfl, h⟩⟩
    · exact .inl ⟨leaf, hleaf, h⟩
    · exact .inr (.inl ⟨hleaf, h⟩)
    · exact .inr (.inr ⟨hleaf, h⟩)
  · rintro (⟨leaf, hleaf, h⟩ | ⟨hleaf, h⟩ | ⟨hleaf, h⟩)
    · exact ⟨leaf, hleaf, .inl h⟩
    · exact ⟨_, hleaf, .inr (.inl ⟨rfl, h⟩)⟩
    · exact ⟨_, hleaf, .inr (.inr ⟨rfl, h⟩)⟩

def Stalls (s : Scope) (source : String) (move : Move) (d : Defect) : Prop :=
  move.isStay = true ∧
    (∃ p, Pattern.compile s.mode source = .ok p ∧ p.onlyMatchesEmpty = true) ∧ d = .zeroWidth

theorem reports_stalls {source : String} {p : Pattern} {move : Move}
    {es : List (StackEdit StateRef)} (hp : s.pattern source = .ok p) (hes : s.edits move = .ok es)
    (action : Option (Action (Stack StateRef))) :
    Reports (checked ⟨p, action, es⟩) (s.Stalls source move) := by
  refine (reports_checked _).congr fun d => ?_
  have hcompile := compile_of_pattern hp
  rw [Rule.isStay, isEmpty_edits move hes]
  constructor
  · rintro ⟨hstay, hempty, h⟩
    exact ⟨hstay, ⟨p, hcompile, hempty⟩, h⟩
  · rintro ⟨hstay, ⟨p', hp', hempty⟩, h⟩
    obtain rfl := Except.ok.inj (hcompile.symm.trans hp')
    exact ⟨hstay, hempty, h⟩

theorem shows_iff {g : Grammar} {steering : Bool} {e : Entry} {d : Defect} (root : Nat) :
    e.Shows g steering d ↔
      (g.scope root steering).Lacks e.names d ∨
        (∃ source, e.pattern? = some source ∧
          ((∃ error, Pattern.compile g.mode source = .error error ∧ d = .invalidPattern error) ∨
            ∃ move, e.move? = some move ∧ (g.scope root steering).Stalls source move d)) ∨
        (∃ move, e.move? = some move ∧ ((.pop 0 ∈ move.leaves ∧ d = .zeroPop) ∨
          (.combined [] ∈ move.leaves ∧ d = .emptyCombined))) ∨
        ∃ a, e.action? = some a ∧ (g.scope root steering).Forbids a d := by
  constructor
  · intro h
    cases h with
    | unknownState mem unknown => exact .inl ⟨_, mem, unknown, rfl⟩
    | invalidPattern pattern invalid => exact .inr (.inl ⟨_, pattern, .inl ⟨_, invalid, rfl⟩⟩)
    | zeroWidth pattern valid empty moves stays =>
      exact .inr (.inl ⟨_, pattern, .inr ⟨_, moves, stays, ⟨_, valid, empty⟩, rfl⟩⟩)
    | zeroPop moves mem => exact .inr (.inr (.inl ⟨_, moves, .inl ⟨mem, rfl⟩⟩))
    | emptyCombined moves mem => exact .inr (.inr (.inl ⟨_, moves, .inr ⟨mem, rfl⟩⟩))
    | steering plain acts => exact .inr (.inr (.inr ⟨_, acts, plain, ⟨_, rfl⟩, rfl⟩))
  · rintro (⟨name, mem, unknown, rfl⟩ | ⟨source, pattern, ⟨error, invalid, rfl⟩ |
      ⟨move, moves, stays, ⟨p, valid, empty⟩, rfl⟩⟩ | ⟨move, moves, ⟨mem, rfl⟩ | ⟨mem, rfl⟩⟩ |
      ⟨a, acts, plain, ⟨emit, rfl⟩, rfl⟩)
    · exact .unknownState mem unknown
    · exact .invalidPattern pattern invalid
    · exact .zeroWidth pattern valid empty moves stays
    · exact .zeroPop moves mem
    · exact .emptyCombined moves mem
    · exact .steering plain acts

/-- An entry is resolved exactly when it shows no defect, and an error is one that it shows. -/
theorem reports_lines {g : Grammar} {root : Nat} {steering : Bool} (e : Entry) :
    Reports ((g.scope root steering).lines e) (e.Shows g steering) := by
  cases e with
  | rule source a move =>
    refine ((reports_pattern source).bind fun p hp => (reports_action a).bind fun b _ =>
      (reports_edits move).bind fun es hes => (reports_stalls hp hes _).map _).congr fun d => ?_
    rw [exists_rejects_iff, shows_iff root]
    simp only [Grammar.mode_scope, Entry.names, Entry.pattern?, Entry.move?, Entry.action?,
      lacks_append, Option.some.injEq, exists_eq_left']
    grind
  | splice state =>
    refine ((reports_index state).map _).congr fun d => ?_
    rw [shows_iff root]
    simp only [Entry.names, Entry.pattern?, Entry.move?, Entry.action?, Lacks, List.mem_singleton,
      Grammar.states_scope, exists_eq_left, reduceCtorEq, false_and, exists_false, or_false]
  | inherit =>
    refine .ok fun d h => ?_
    rw [shows_iff root] at h
    simp only [Entry.names, Entry.pattern?, Entry.move?, Entry.action?, not_lacks_nil, reduceCtorEq,
      false_and, exists_false, or_false] at h
  | fallback move =>
    refine ((reports_pattern "").bind fun p hp =>
      (reports_edits move).bind fun es hes => (reports_stalls hp hes _).map _).congr fun d => ?_
    rw [exists_rejects_iff, shows_iff root]
    simp only [Grammar.mode_scope, Entry.names, Entry.pattern?, Entry.move?, Entry.action?,
      Option.some.injEq, exists_eq_left', reduceCtorEq, false_and, exists_false, or_false]
    grind

end Scope

end Lexing
