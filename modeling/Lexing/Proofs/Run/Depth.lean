import Lexing.Proofs.Run.Tiling

/-!
# Runs at a depth

How deeply a run is nested shows only where it hands text on that would be nested too deeply. A run
in which that does not happen, nor in a run nested in it, gives the tokens that it gives on its own.
Another lexer that text is handed to counts its own runs, whatever the depth.
-/
set_option autoImplicit false

namespace Lexing.Machine

variable {m : Machine} {same : Stack StateRef → Stack StateRef → Bool} {nested nested' : Nested}
  {c : Config} {text : Text} {stack : Stack StateRef} {s : Span} {depth depth' : Nat}

theorem step_config (nested nested' : Nested) :
    (m.step same nested c).1 = (m.step same nested' c).1 := by
  unfold step
  split
  · unfold apply
    split
    · rfl
    · split <;> rfl
  · rfl

theorem after_config (nested nested' : Nested) (n : Nat) :
    m.after same nested n c = m.after same nested' n c := by
  have hadvance : m.advance same nested = m.advance same nested' := by
    funext c
    unfold advance
    rw [step_config nested nested']
  rw [after, after, hadvance]

theorem hands_congr (nested nested' : Nested) {d : Delegate (Stack StateRef)}
    (h : m.Hands same nested c s d) : m.Hands same nested' c s d := by
  obtain ⟨i, hgo, hmem⟩ := h
  rw [after_config nested nested'] at hgo hmem
  exact ⟨i, hgo, hmem⟩

theorem runTokens_congr (h : c.Sound)
    (agree : ∀ s inner, m.Hands same nested c s (.self inner) →
      nested (c.cursor.text.slice s) inner = nested' (c.cursor.text.slice s) inner) :
    m.runTokens same nested c = m.runTokens same nested' c := by
  induction c, h using run_induction m same nested with
  | ended c _ hend => rw [runTokens_of_atEnd hend, runTokens_of_atEnd hend]
  | going c h hgo ih =>
    have hstep : m.step same nested c = m.step same nested' c :=
      step_congr h.valid hgo fun s inner hmem => agree s inner ((hands_iff hgo).2 (.inl hmem))
    have htext : (m.advance same nested c).cursor.text = c.cursor.text :=
      (advance_leads h.valid).text
    rw [htext] at ih
    have hrest := ih fun s inner hlater => agree s inner ((hands_iff hgo).2 (.inr hlater))
    rw [runTokens_of_go h hgo, runTokens_of_go h hgo, hrest, advance_of_go hgo, advance_of_go hgo,
      hstep]

def nestedAt (m : Machine) (depth : Nat) : Nested :=
  m.nestedTokens Stack.sameShape (maxNesting - depth)

/-- The tokens of a run at the given depth, from the start of a text. -/
def runAt (m : Machine) (depth : Nat) (text : Text) (stack : Stack StateRef) : List Token :=
  m.runTokens Stack.sameShape (m.nestedAt depth) (Config.start text stack)

theorem nestedAt_of_lt (h : depth < maxNesting) (text : Text) (stack : Stack StateRef) :
    m.nestedAt depth text stack = m.runAt (depth + 1) text stack := by
  have hlevels : maxNesting - depth = maxNesting - (depth + 1) + 1 := by omega
  rw [nestedAt, hlevels, nestedTokens_succ]
  rfl

theorem nestedAt_of_le (h : maxNesting ≤ depth) (text : Text) (stack : Stack StateRef) :
    m.nestedAt depth text stack = [⟨0, .error, text⟩] := by
  rw [nestedAt, Nat.sub_eq_zero_of_le h]
  rfl

theorem tokens_eq_runAt (m : Machine) (text : Text) :
    m.tokens text = m.runAt 0 text (.single (.named m.root)) := rfl

def Nests (m : Machine) (text : Text) (stack : Stack StateRef) (s : Span)
    (inner : Stack StateRef) : Prop :=
  m.Hands Stack.sameShape m.nested (Config.start text stack) s (.self inner)

/-- In a run at the given depth, or in one nested in it, text is cut off. -/
inductive MeetsCut (m : Machine) : Nat → Text → Stack StateRef → Prop
  | here {depth : Nat} {text : Text} {stack inner : Stack StateRef} {s : Span}
      (nests : m.Nests text stack s inner) (deep : maxNesting ≤ depth) :
      MeetsCut m depth text stack
  | inside {depth : Nat} {text : Text} {stack inner : Stack StateRef} {s : Span}
      (nests : m.Nests text stack s inner) (deeper : MeetsCut m (depth + 1) (text.slice s) inner) :
      MeetsCut m depth text stack

theorem MeetsCut.mono (h : m.MeetsCut depth text stack) (hle : depth ≤ depth') :
    m.MeetsCut depth' text stack := by
  induction h generalizing depth' with
  | here nests deep => exact .here nests (Nat.le_trans deep hle)
  | inside nests _ ih => exact .inside nests (ih (Nat.succ_le_succ hle))

def handedFrom (m : Machine) : Nat → Config → List (Span × Delegate (Stack StateRef))
  | 0, _ => []
  | fuel + 1, c =>
    if c.cursor.atEnd then []
    else m.handed c.cursor ++ handedFrom m fuel (m.advance Stack.sameShape m.nested c)

theorem mem_handedFrom {fuel : Nat} {part : Span × Delegate (Stack StateRef)} :
    part ∈ m.handedFrom fuel c ↔ ∃ i, i < fuel ∧
      (m.after Stack.sameShape m.nested i c).cursor.atEnd = false ∧
        part ∈ m.handed (m.after Stack.sameShape m.nested i c).cursor := by
  induction fuel generalizing c with
  | zero => simp [handedFrom]
  | succ fuel ih =>
    cases hgo : c.cursor.atEnd with
    | true =>
      constructor
      · intro hmem
        simp [handedFrom, hgo] at hmem
      · rintro ⟨i, _, hi, _⟩
        rw [after_of_atEnd hgo, hgo] at hi
        cases hi
    | false =>
      simp only [handedFrom, hgo, Bool.false_eq_true, if_false, List.mem_append, ih]
      constructor
      · rintro (hmem | ⟨i, hi, hmem⟩)
        · exact ⟨0, Nat.succ_pos fuel, hgo, hmem⟩
        · exact ⟨i + 1, Nat.succ_lt_succ hi, hmem⟩
      · rintro ⟨i, hi, hmem⟩
        cases i with
        | zero => exact .inl hmem.2
        | succ i => exact .inr ⟨i, Nat.lt_of_succ_lt_succ hi, hmem⟩

def nestedParts (m : Machine) (text : Text) (stack : Stack StateRef) :
    List (Span × Stack StateRef) :=
  let c := Config.start text stack
  (m.handedFrom c.stepBound c).filterMap fun
    | (s, .self inner) => some (s, inner)
    | (_, .lexer _) => none

theorem mem_nestedParts {inner : Stack StateRef} :
    (s, inner) ∈ m.nestedParts text stack ↔ m.Nests text stack s inner := by
  let c := Config.start text stack
  have hself : (s, inner) ∈ m.nestedParts text stack ↔
      (s, .self inner) ∈ m.handedFrom c.stepBound c := by
    simp only [nestedParts, List.mem_filterMap]
    constructor
    · rintro ⟨⟨s', d⟩, hmem, heq⟩
      cases d with
      | self inner' =>
        cases heq
        exact hmem
      | lexer l => cases heq
    · intro hmem
      exact ⟨_, hmem, rfl⟩
  rw [hself, mem_handedFrom]
  constructor
  · rintro ⟨i, _, hmem⟩
    exact ⟨i, hmem⟩
  · rintro ⟨i, hgo, hmem⟩
    refine ⟨i, Nat.lt_of_not_le fun hle => ?_, hgo, hmem⟩
    have hend := atEnd_last m Stack.sameShape m.nested (Config.sound_start text stack)
    rw [last, go_of_le hgo hle] at hend
    cases hend

/-- Whether text is cut off in a run below which so many levels are left. -/
def findsCut (m : Machine) : Nat → Text → Stack StateRef → Bool
  | 0, text, stack => !(m.nestedParts text stack).isEmpty
  | levels + 1, text, stack =>
    (m.nestedParts text stack).any fun (s, inner) => findsCut m levels (text.slice s) inner

theorem findsCut_iff :
    m.findsCut (maxNesting - depth) text stack = true ↔ m.MeetsCut depth text stack := by
  generalize hlevels : maxNesting - depth = levels
  induction levels generalizing depth text stack with
  | zero =>
    have hdeep : maxNesting ≤ depth := by omega
    rw [findsCut, Bool.not_eq_true', List.isEmpty_eq_false_iff_exists_mem]
    constructor
    · rintro ⟨⟨s, inner⟩, hmem⟩
      exact .here (mem_nestedParts.1 hmem) hdeep
    · rintro (⟨nests, _⟩ | ⟨nests, _⟩)
      · exact ⟨_, mem_nestedParts.2 nests⟩
      · exact ⟨_, mem_nestedParts.2 nests⟩
  | succ levels ih =>
    have hlevels' : maxNesting - (depth + 1) = levels := by omega
    rw [findsCut, List.any_eq_true]
    constructor
    · rintro ⟨⟨s, inner⟩, hmem, hcut⟩
      exact .inside (mem_nestedParts.1 hmem) ((ih hlevels').1 hcut)
    · rintro (⟨_, hdeep⟩ | ⟨nests, deeper⟩)
      · omega
      · exact ⟨_, mem_nestedParts.2 nests, (ih hlevels').2 deeper⟩

instance (m : Machine) (depth : Nat) (text : Text) (stack : Stack StateRef) :
    Decidable (m.MeetsCut depth text stack) :=
  decidable_of_iff _ findsCut_iff

theorem runAt_eq (uncut : ¬ m.MeetsCut depth text stack) (hle : depth' ≤ depth) :
    m.runAt depth text stack = m.runAt depth' text stack := by
  -- on the levels left at the greater depth; the lesser one only has more
  generalize hlevels : maxNesting - depth = levels
  induction levels generalizing depth depth' text stack with
  | zero =>
    refine runTokens_congr (Config.sound_start text stack) fun s inner hands => ?_
    have nests : m.Nests text stack s inner := hands_congr _ _ hands
    exact absurd (.here nests (by omega)) uncut
  | succ levels ih =>
    refine runTokens_congr (Config.sound_start text stack) fun s inner hands => ?_
    have nests : m.Nests text stack s inner := hands_congr _ _ hands
    have shallow : depth < maxNesting := by omega
    change m.nestedAt depth (text.slice s) inner = m.nestedAt depth' (text.slice s) inner
    rw [nestedAt_of_lt shallow, nestedAt_of_lt (Nat.lt_of_le_of_lt hle shallow)]
    exact ih (fun deeper => uncut (.inside nests deeper)) (Nat.succ_le_succ hle) (by omega)

/-- Text that a run hands to its own machine, and that is not cut off, is lexed as by a run that is
not nested. -/
theorem delegated_eq_runAt_zero (m : Machine) (depth : Nat) (text : Text) (s : Span)
    (stack : Stack StateRef) (shallow : depth < maxNesting)
    (uncut : ¬ m.MeetsCut (depth + 1) (text.slice s) stack) :
    delegated (m.nestedAt depth) text s (.self stack) =
        (m.runAt 0 (text.slice s) stack).map (·.shift s.start) ∧
      ¬ m.MeetsCut 0 (text.slice s) stack := by
  refine ⟨?_, fun cut => uncut (cut.mono (Nat.zero_le _))⟩
  change (m.nestedAt depth (text.slice s) stack).map (·.shift s.start) = _
  rw [nestedAt_of_lt shallow, runAt_eq uncut (Nat.zero_le _)]

def parenthesized : Grammar :=
  (Grammar.empty "parenthesized" .standard).define "root"
    [.rule "\\((.*)\\)" (.groups [.delegate (.self ["root"])]) .stay,
      .rule "x" (.kind .other) .stay]

/-- Two runs inside the first one are the most that there is room for at this depth. -/
theorem delegated_eq_runAt_zero_parenthesized : ∃ m, parenthesized.build false = .ok m ∧
    let text : Text := ['x', '(', '(', 'x', ')', ')']
    let stack := Stack.single (.named m.root)
    61 < maxNesting ∧ ¬ m.MeetsCut 62 (text.slice ⟨1, 6⟩) stack ∧
      m.MeetsCut 63 (text.slice ⟨1, 6⟩) stack ∧
      delegated (m.nestedAt 61) text ⟨1, 6⟩ (.self stack) =
        (m.runAt 0 (text.slice ⟨1, 6⟩) stack).map (·.shift 1) ∧
      ¬ m.MeetsCut 0 (text.slice ⟨1, 6⟩) stack := by
  have found : (parenthesized.build false).toOption.any (fun m =>
      let text : Text := ['(', '(', 'x', ')', ')']
      decide (¬ m.MeetsCut 62 text (.single (.named m.root)) ∧
        m.MeetsCut 63 text (.single (.named m.root)))) = true := by decide +kernel
  obtain ⟨m, built, h⟩ := exists_of_any found
  obtain ⟨uncut, cut⟩ := of_decide_eq_true h
  exact ⟨m, built, by decide, uncut, cut,
    delegated_eq_runAt_zero m 61 _ ⟨1, 6⟩ _ (by decide) uncut⟩

end Lexing.Machine
