import Lexing.Proofs.Run.Reached
import Lexing.Run.Basic

/-!
# Steps that check what they access

The steps of a run cut pieces out of the text and look states up by number. Here is each of them
once more, with every access checked: a slice must lie between two boundaries of the text in the
right order, and a number must be that of a state. From a cursor that the machine owns no check
fails, in the step and in all runs inside it, and the checked step is the step.
-/
set_option autoImplicit false

namespace Lexing

def Text.slice? (t : Text) (s : Span) : Option Text :=
  if s.start ≤ s.stop ∧ t.isBoundary s.start ∧ t.isBoundary s.stop then some (t.slice s) else none

theorem Text.slice?_eq {t : Text} {p q : Nat} (hp : t.Boundary p) (hq : t.Boundary q)
    (h : p ≤ q) : t.slice? ⟨p, q⟩ = some (t.slice ⟨p, q⟩) :=
  if_pos ⟨h, Text.isBoundary_iff.2 hp, Text.isBoundary_iff.2 hq⟩

theorem Span.Inside.slice?_eq {s : Span} {text : Text} {start stop : Nat}
    (h : s.Inside text start stop) : text.slice? s = some (text.slice s) :=
  Text.slice?_eq h.boundary_start h.boundary_stop (Nat.le_of_lt h.lt)

section Cover

def gap? (text : Text) (start stop : Nat) : Option (List Token) :=
  if start < stop then (text.slice? ⟨start, stop⟩).map fun piece => [⟨start, .text, piece⟩]
  else some []

def emitKind? (text : Text) (s : Span) (k : Kind) : Option (List Token) :=
  (text.slice? s).map fun piece => [⟨s.start, k, piece⟩]

def cover? {α : Type} (text : Text) (emit : Span → α → Option (List Token)) (stop : Nat) :
    Nat → List (Span × α) → Option (List Token)
  | start, [] => gap? text start stop
  | start, (s, a) :: pieces =>
    if fits text start stop s then do
      let before ← gap? text start s.start
      let piece ← emit s a
      let rest ← cover? text emit stop s.stop pieces
      return before ++ piece ++ rest
    else cover? text emit stop start pieces

def coverEmissions? (text : Text) (s : Span) (es : List Emission) : Option (List Token) :=
  cover? text (emitKind? text) s.stop s.start (es.map fun e => (e.span, e.kind))

variable {α : Type} {text : Text} {start stop : Nat}

theorem gap?_eq (hp : text.Boundary start) (hq : text.Boundary stop) :
    gap? text start stop = some (gap text start stop) := by
  simp only [gap?, gap]
  split
  · rename_i hlt
    rw [Text.slice?_eq hp hq (Nat.le_of_lt hlt)]
    rfl
  · rfl

theorem emitKind?_eq {s : Span} (k : Kind) (h : s.Inside text start stop) :
    emitKind? text s k = some (emitKind text s k) := by
  rw [emitKind?, h.slice?_eq]
  rfl

theorem cover?_eq {emit? : Span → α → Option (List Token)} {emit : Span → α → List Token}
    {pieces : List (Span × α)} (hp : text.Boundary start) (hq : text.Boundary stop)
    (h : ∀ s a, (s, a) ∈ kept text stop start pieces → emit? s a = some (emit s a)) :
    cover? text emit? stop start pieces = some (cover text emit stop start pieces) := by
  induction pieces generalizing start with
  | nil => exact gap?_eq hp hq
  | cons piece pieces ih =>
    obtain ⟨s, a⟩ := piece
    simp only [kept] at h
    simp only [cover?, cover]
    split
    · rename_i hfit
      have hin := fits_iff.1 hfit
      rw [if_pos hfit] at h
      rw [gap?_eq hp hin.boundary_start, h s a List.mem_cons_self,
        ih hin.boundary_stop fun s' a' hmem => h s' a' (List.mem_cons_of_mem _ hmem)]
      rfl
    · rename_i hfit
      rw [if_neg hfit] at h
      exact ih hp h

theorem coverEmissions?_eq (hp : text.Boundary start) (hq : text.Boundary stop)
    (es : List Emission) :
    coverEmissions? text ⟨start, stop⟩ es = some (coverEmissions text ⟨start, stop⟩ es) :=
  cover?_eq hp hq fun _ k hmem => emitKind?_eq k (kept_inside hmem)

end Cover

/-- How delegated text is lexed, if all access on the way is in range. -/
abbrev Nested? := Text → Stack StateRef → Option (List Token)

def delegated? (nested : Nested?) (text : Text) (s : Span) (d : Delegate (Stack StateRef)) :
    Option (List Token) := do
  let piece ← text.slice? s
  let tokens ← match d with
    | .self stack => nested piece stack
    | .lexer l => some (l.tokens piece)
  return tokens.map (·.shift s.start)

def emitGroup? (nested : Nested?) (text : Text) (s : Span) :
    GroupAction (Stack StateRef) → Option (List Token)
  | .kind k => emitKind? text s k
  | .delegate d => delegated? nested text s d

def emitted? (nested : Nested?) (found : Match) :
    Option (Action (Stack StateRef)) → Option (List Token)
  | some (.kind k) => emitKind? found.input found.span k
  | some (.groups actions) =>
    cover? found.input (emitGroup? nested found.input) found.stop found.start
      (groupPieces actions found.groups)
  | some (.delegate d) => delegated? nested found.input found.span d
  | some (.callback emit) => coverEmissions? found.input found.span (emit found)
  | some (.steer _) | none => some []

section Emitted

variable {text : Text} {start stop : Nat} {nested? : Nested?} {nested : Nested}

theorem delegated?_eq {s : Span} {d : Delegate (Stack StateRef)} (hs : s.Inside text start stop)
    (h : ∀ stack, d = .self stack →
      nested? (text.slice s) stack = some (nested (text.slice s) stack)) :
    delegated? nested? text s d = some (delegated nested text s d) := by
  rw [delegated?, hs.slice?_eq]
  cases d with
  | self stack =>
    simp only [Option.bind_eq_bind, Option.bind_some, h stack rfl]
    rfl
  | lexer l => rfl

theorem emitted?_eq {found : Match} {action : Option (Action (Stack StateRef))}
    (hw : Pattern.Within text start stop found) (hb : text.Boundary start)
    (hfull : found.span.isEmpty = false)
    (h : ∀ s stack, (s, .self stack) ∈ found.handed action →
      nested? (text.slice s) stack = some (nested (text.slice s) stack)) :
    emitted? nested? found action = some (emitted nested found action) := by
  obtain ⟨input, ⟨first, last⟩, groups⟩ := found
  obtain ⟨rfl, rfl, hbs, hle, hls⟩ := hw
  simp only [Span.isEmpty, decide_eq_false_iff_not, Nat.not_le] at hfull
  have hin : Span.Inside ⟨first, last⟩ input first last :=
    ⟨hb, hbs, Nat.le_refl _, hfull, Nat.le_refl _⟩
  match action with
  | none | some (.steer _) => rfl
  | some (.kind k) => exact emitKind?_eq k hin
  | some (.callback emit) => exact coverEmissions?_eq hb hbs _
  | some (.delegate d) =>
    refine delegated?_eq hin fun stack hd => h _ stack ?_
    rw [hd]
    exact List.mem_singleton.2 rfl
  | some (.groups actions) =>
    refine cover?_eq hb hbs fun s a hmem => ?_
    cases a with
    | kind k => exact emitKind?_eq k (kept_inside hmem)
    | delegate d =>
      refine delegated?_eq (kept_inside hmem) fun stack hd => ?_
      refine h s stack (mem_handed_groups.2 ⟨_, hmem, ?_⟩)
      rw [hd]
      rfl

end Emitted

namespace Machine

variable (m : Machine) (same : Stack StateRef → Stack StateRef → Bool)

def recover? (c : Cursor StateRef) : Option (Config × List Token) := do
  match ← c.text.slice? ⟨c.pos, c.stop⟩ with
  | [] => return (⟨c, 0⟩, [])
  | x :: _ =>
    let _ ← m.state? c.stack.top
    let one ← c.text.slice? ⟨c.pos, c.pos + x.utf8Size⟩
    return (⟨c.setPos (c.pos + x.utf8Size), 0⟩, [⟨c.pos, .error, one⟩])

def settle? (idle start : Nat) (before : Stack StateRef) (c : Cursor StateRef) :
    Option (Config × List Token) :=
  if start < c.pos then some (⟨c, 0⟩, [])
  else if same before c.stack || maxIdle ≤ idle then m.recover? c
  else some (⟨c, idle + 1⟩, [])

def view? (c : Cursor StateRef) : Option View := do
  let top ← m.state? c.stack.top
  let below ← c.stack.below.mapM m.state?
  return ⟨⟨c.text, c.pos, c.stop, ⟨top.name, below.map State.name⟩⟩, m.stateNames⟩

def applied? (nested : Nested?) (c : Config) (rule : Rule) (found : Match) :
    Option (Config × List Token) :=
  let before := c.cursor.stack
  match rule.action with
  | some (.steer emit) => do
    let view ← m.view? c.cursor
    let (edits, emissions) := emit found view
    let moved := m.steered c.cursor found.start edits
    let tokens ← coverEmissions? found.input ⟨found.start, moved.pos⟩ emissions
    let (c, more) ← m.settle? same c.idle found.start before (moved.turn rule.edits)
    return (c, tokens ++ more)
  | action =>
    if found.span.isEmpty then
      m.settle? same c.idle found.start before (c.cursor.turn rule.edits)
    else do
      let tokens ← emitted? nested found action
      return (⟨(c.cursor.setPos found.stop).turn rule.edits, 0⟩, tokens)

def firstMatch? (c : Cursor StateRef) : Option (Option (Rule × Match)) := do
  let state ← m.state? c.stack.top
  let _ ← c.text.slice? ⟨c.pos, c.stop⟩
  let spot := Pattern.Spot.ofText c.text c.pos c.stop
  return state.rules.findSome? fun rule =>
    (rule.pattern.matchAt c.text spot).map fun found => (rule, found)

def step? (nested : Nested?) (c : Config) : Option (Config × List Token) := do
  match ← m.firstMatch? c.cursor with
  | some (rule, found) => m.applied? same nested c rule found
  | none => m.recover? c.cursor

def drain? (nested : Nested?) : Nat → Config → Option (List Token)
  | 0, _ => some []
  | fuel + 1, c =>
    if c.cursor.atEnd then some []
    else do
      let (c, tokens) ← m.step? same nested c
      let rest ← drain? nested fuel c
      return tokens ++ rest

def nestedTokens? : Nat → Nested?
  | 0, text, _ => some [⟨0, .error, text⟩]
  | levels + 1, text, stack =>
    let c := Config.start text stack
    m.drain? same (nestedTokens? levels) c.stepBound c

end Machine

namespace Machine

variable {m : Machine} {same : Stack StateRef → Stack StateRef → Bool} {nested? : Nested?}
  {nested : Nested}

section

variable {c : Cursor StateRef}

theorem Owns.state?_top (h : m.Owns c) : m.state? c.stack.top = some (m.state c.stack.top) :=
  state?_eq (h.states _ c.stack.top_mem_toList)

theorem Owns.recover?_eq (h : m.Owns c) : m.recover? c = some (Config.recover c) := by
  have hv := h.valid
  rw [recover?, Text.slice?_eq hv.pos hv.stop hv.le]
  change _ = some (match c.text.slice ⟨c.pos, c.stop⟩ with | [] => _ | x :: _ => _)
  simp only [Option.bind_eq_bind, Option.bind_some]
  split
  · rfl
  · rename_i x rest hcons
    obtain ⟨_, hb, hx⟩ := Text.slice_eq_cons hv.pos hv.stop hv.le hcons
    rw [h.state?_top, Text.slice?_eq hv.pos hb (Nat.le_add_right _ _), hx]
    rfl

theorem Owns.settle?_eq (h : m.Owns c) (idle start : Nat) (before : Stack StateRef) :
    m.settle? same idle start before c = some (Config.settle same idle start before c) := by
  simp only [settle?, Config.settle]
  split
  · rfl
  · split
    · exact h.recover?_eq
    · rfl

theorem mapM_state? {refs : List StateRef} (h : ∀ s ∈ refs, m.Has s) :
    refs.mapM m.state? = some (refs.map m.state) := by
  induction refs with
  | nil => rfl
  | cons s refs ih =>
    rw [List.mapM_cons, state?_eq (h s List.mem_cons_self),
      ih fun s hs => h s (List.mem_cons_of_mem _ hs)]
    rfl

theorem Owns.view?_eq (h : m.Owns c) : m.view? c = some (m.view c) := by
  have hbelow : ∀ s ∈ c.stack.below, m.Has s := fun s hs =>
    h.states s (List.mem_append_left _ (List.mem_reverse.2 hs))
  rw [view?, h.state?_top, mapM_state? hbelow]
  simp only [Option.bind_eq_bind, Option.bind_some, List.map_map]
  rfl

theorem Owns.firstMatch?_eq (h : m.Owns c) : m.firstMatch? c = some (m.firstMatch c) := by
  rw [firstMatch?, h.state?_top, Text.slice?_eq h.valid.pos h.valid.stop h.valid.le]
  rfl

end

variable {c : Config}

theorem applied?_of_plain {rule : Rule} {found : Match}
    (hs : ∀ emit, rule.action ≠ some (.steer emit)) :
    m.applied? same nested? c rule found =
      if found.span.isEmpty then
        m.settle? same c.idle found.start c.cursor.stack (c.cursor.turn rule.edits)
      else (emitted? nested? found rule.action).map fun tokens =>
        (⟨(c.cursor.setPos found.stop).turn rule.edits, 0⟩, tokens) := by
  unfold applied?
  split
  · rename_i emit hact
    exact absurd hact (hs emit)
  · rw [Option.map_eq_bind]
    rfl

theorem apply_of_plain {rule : Rule} {found : Match}
    (hs : ∀ emit, rule.action ≠ some (.steer emit)) :
    m.apply same nested c rule found =
      if found.span.isEmpty then
        Config.settle same c.idle found.start c.cursor.stack (c.cursor.turn rule.edits)
      else
        (⟨(c.cursor.setPos found.stop).turn rule.edits, 0⟩, emitted nested found rule.action) := by
  unfold apply
  split
  · rename_i emit hact
    exact absurd hact (hs emit)
  · rfl

theorem Owns.applied?_eq (closed : m.Closed) (h : m.Owns c.cursor) (hgo : c.cursor.atEnd = false)
    {rule : Rule} {found : Match} (first : m.firstMatch c.cursor = some (rule, found))
    (hnested : ∀ text stack, m.HandsTo (.self stack) →
      nested? text stack = some (nested text stack)) :
    m.applied? same nested? c rule found = some (m.apply same nested c rule found) := by
  have hv := h.valid
  have hw := firstMatch_within first hv hgo
  have hstart : found.start = c.cursor.pos := hw.start_eq
  have pushed : ∀ s, .push s ∈ rule.edits → m.Has s := fun s hs =>
    closed.pushed _ rule s (firstMatch_spec first).1 hs
  rcases rule.steers_or with ⟨emit, hact⟩ | hns
  · have hl := m.steered_leads hv (emit found (m.view c.cursor)).1
    have hb : c.cursor.text.Boundary
        (m.steered c.cursor c.cursor.pos (emit found (m.view c.cursor)).1).pos :=
      hl.text ▸ hl.valid.pos
    simp only [applied?, apply, hact, h.view?_eq, hw.input, hstart, Option.bind_eq_bind,
      Option.bind_some]
    rw [coverEmissions?_eq hv.pos hb, Option.bind_some, ((h.steered _ _).turn pushed).settle?_eq]
    rfl
  · rw [applied?_of_plain hns, apply_of_plain hns]
    split
    · exact (h.turn pushed).settle?_eq _ _ _
    · rename_i hfull
      -- only what the rule hands on is lexed by a nested run, and from a stack of the machine
      have hparts : ∀ s stack, (s, .self stack) ∈ found.handed rule.action →
          nested? (c.cursor.text.slice s) stack = some (nested (c.cursor.text.slice s) stack) := by
        intro s stack hmem
        refine hnested _ stack (handsTo_of_handed (c := c.cursor) (s := s) ?_)
        rw [handed_of_first first, if_neg hfull]
        exact hmem
      rw [emitted?_eq hw hv.pos (Bool.eq_false_iff.2 hfull) hparts]
      rfl

theorem Owns.step?_eq (closed : m.Closed) (h : m.Owns c.cursor) (hgo : c.cursor.atEnd = false)
    (hnested : ∀ text stack, m.HandsTo (.self stack) →
      nested? text stack = some (nested text stack)) :
    m.step? same nested? c = some (m.step same nested c) := by
  simp only [step?, Machine.step, h.firstMatch?_eq, Option.bind_eq_bind, Option.bind_some]
  cases first : m.firstMatch c.cursor with
  | none => exact h.recover?_eq
  | some result => exact h.applied?_eq closed hgo first hnested

theorem Owns.drain?_eq (closed : m.Closed) (h : m.Owns c.cursor)
    (hnested : ∀ text stack, m.HandsTo (.self stack) →
      nested? text stack = some (nested text stack)) (fuel : Nat) :
    m.drain? same nested? fuel c = some (m.drain same nested fuel c) := by
  induction fuel generalizing c with
  | zero => rfl
  | succ fuel ih =>
    simp only [drain?, drain]
    split
    · rfl
    · rename_i hgo
      rw [Bool.not_eq_true] at hgo
      rw [h.step?_eq closed hgo hnested]
      simp only [Option.bind_eq_bind, Option.bind_some]
      rw [ih (h.step closed hgo same nested)]
      rfl

/-- In a run from states of the machine all access is in range, and in the runs inside it. -/
theorem nestedTokens?_eq (closed : m.Closed) (same : Stack StateRef → Stack StateRef → Bool)
    (levels : Nat) (text : Text) {stack : Stack StateRef} (h : ∀ s ∈ stack.toList, m.Has s) :
    m.nestedTokens? same levels text stack = some (m.nestedTokens same levels text stack) := by
  induction levels generalizing text stack with
  | zero => rfl
  | succ levels ih =>
    have howns : m.Owns (Config.start text stack).cursor := .start text h
    exact howns.drain?_eq closed (fun text' stack' hands =>
      ih text' fun s hs => closed.started stack' s hands hs) _

/-- Wherever callers and runs come to, the offsets are boundaries of the text in the right order,
the stack has a frame, and every frame is the number of a state. A push that fails changes nothing,
and a step accesses nothing out of range. -/
theorem reached_in_range {g : Grammar} {steering : Bool} {m : Machine}
    (built : g.build steering = .ok m) {c : Cursor StateRef} (reached : m.Reached c) :
    (c.pos ≤ c.stop ∧ c.stop ≤ c.text.size) ∧
      (c.text.isBoundary c.pos = true ∧ c.text.isBoundary c.stop = true) ∧
      c.stack.toList ≠ [] ∧ (∀ s ∈ c.stack.toList, m.number s < m.allStates.length) ∧
      (∀ name, name ∉ m.stateNames → m.edited c [.stack (.push name)] = c) ∧
      ∀ same levels idle, c.atEnd = false →
        m.step? same (m.nestedTokens? same levels) ⟨c, idle⟩ =
          some (m.step same (m.nestedTokens same levels) ⟨c, idle⟩) := by
  have closed := closed_of_build built
  have howns := reached.owns closed
  have hv := howns.valid
  refine ⟨⟨hv.le, hv.stop.le_size⟩, ⟨Text.isBoundary_iff.2 hv.pos, Text.isBoundary_iff.2 hv.stop⟩,
    c.stack.toList_ne_nil, fun s hs => number_lt (howns.states s hs),
    fun name hname => edited_of_unknown hname, fun same levels idle hgo => ?_⟩
  refine Owns.step?_eq (c := ⟨c, idle⟩) closed howns hgo fun text stack hands => ?_
  exact nestedTokens?_eq closed same levels text fun s hs => closed.started stack s hands hs

/-- Whose first rule hands text on to itself and pushes a combined state. -/
def linking : Grammar :=
  ((Grammar.empty "linking" .standard).define "root"
    [.rule "é" (.delegate (.self ["root", "inner"])) (.combined ["inner", "root"])]).define "inner"
    [.rule "x" (.steer fun _ _ => ([.setStop 0, .setPos 0, .stack (.push "inner")], [])) .pushTop]

theorem reached_in_range_linking : ∃ m, linking.build true = .ok m ∧ ∃ c, m.Reached c ∧
    c.atEnd = false ∧ StateRef.combined [1, 0] ∈ c.stack.toList ∧
      (∀ s ∈ c.stack.toList, m.number s < m.allStates.length) ∧
      m.step? Stack.sameShape (m.nestedTokens? Stack.sameShape maxNesting) ⟨c, 0⟩ =
        some (m.step Stack.sameShape m.nested ⟨c, 0⟩) := by
  have found : (linking.build true).toOption.any (fun m =>
      (m.stackOf ["root", "inner"]).toOption.any fun stack =>
        let c := m.edited (Cursor.start ['é', 'é', 'x'] stack)
          [.setPos 1, .stack (.push "none"), .stack (.pop (2 ^ 64 - 1))]
        let next := (m.step Stack.sameShape m.nested ⟨c, 0⟩).1.cursor
        decide (c.atEnd = false ∧ next.atEnd = false ∧
          StateRef.combined [1, 0] ∈ next.stack.toList)) = true := by decide +kernel
  obtain ⟨m, built, h⟩ := exists_of_any found
  obtain ⟨stack, known, h⟩ := exists_of_any h
  obtain ⟨hgo, hnext, hmem⟩ := of_decide_eq_true h
  have reached := ((Reached.opened ['é', 'é', 'x'] known).edited
    [.setPos 1, .stack (.push "none"), .stack (.pop (2 ^ 64 - 1))]).stepped hgo Stack.sameShape
      m.nested 0
  obtain ⟨_, _, _, hnumber, _, hstep⟩ := reached_in_range built reached
  exact ⟨m, built, _, reached, hnext, hmem, hnumber, hstep Stack.sameShape maxNesting 0 hnext⟩

end Machine

end Lexing
