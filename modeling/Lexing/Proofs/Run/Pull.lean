import Lexing.Proofs.Run.Tiling

/-!
# Runs taken token by token

A run that is taken token by token is ahead of its last token by what is pending. The tokens taken
and the pending ones together tile what the run took so far, after every pull, and when the tokens
end the run is at its stop. This is said of machines that hand nothing on, where it holds whatever
callbacks do with the cursor.
-/
set_option autoImplicit false

namespace Lexing

variable {m : Machine} {c : Cursor StateRef} {r : Run} {taken : List Token}

/-- The run began at `c`. The tokens taken since then and those pending tile what it took. -/
structure Run.Tiled (c : Cursor StateRef) (taken : List Token) (r : Run) : Prop where
  began : c.Valid
  sound : r.config.Sound
  leads : c.Leads r.config.cursor
  tiles : Tiles c.pos (c.text.slice ⟨c.pos, r.config.cursor.pos⟩) (taken ++ r.pending)

structure Run.Ended (r : Run) : Prop where
  pending : r.pending = []
  atEnd : r.config.cursor.atEnd = true

namespace Machine

theorem step_tiles (quiet : m.Quiet) (hnone : ∀ c, m.handed c = [])
    (same : Stack StateRef → Stack StateRef → Bool) (nested : Nested) {c : Config}
    (hv : c.cursor.Valid) (hgo : c.cursor.atEnd = false) :
    Tiles c.cursor.pos
      (c.cursor.text.slice ⟨c.cursor.pos, (m.step same nested c).1.cursor.pos⟩)
      (m.step same nested c).2 := by
  have hmem : ∀ s d, (s, d) ∉ m.handed c.cursor := fun s d => by
    rw [hnone]
    exact List.not_mem_nil
  refine ((step_spec m same nested hv hgo fun s d h => absurd h (hmem s d)).2 quiet).2 ?_
  intro s d h
  exact absurd h (hmem s d)

end Machine

namespace Run

theorem tiled_resume (h : c.Valid) : (resume c).Tiled c [] := by
  refine ⟨h, ⟨h, Nat.zero_le _⟩, ⟨h, rfl, Nat.le_refl _⟩, ?_⟩
  change Tiles c.pos (c.text.slice ⟨c.pos, c.pos⟩) []
  rw [Text.slice_self]
  exact tiles_nil _

theorem fill_of_pending (h : r.pending ≠ []) (fuel : Nat) : r.fill m fuel = r := by
  have hfull : r.pending.isEmpty = false := by simpa using h
  cases fuel with
  | zero => rfl
  | succ fuel => simp only [fill, hfull, Bool.not_false, Bool.true_or, if_true]

theorem fill_of_atEnd (h : r.config.cursor.atEnd = true) (fuel : Nat) : r.fill m fuel = r := by
  cases fuel with
  | zero => rfl
  | succ fuel => simp only [fill, h, Bool.or_true, if_true]

theorem fill_succ (hp : r.pending = []) (hgo : r.config.cursor.atEnd = false) (fuel : Nat) :
    r.fill m (fuel + 1) = Run.fill m fuel
      ⟨m.advance Stack.sameShape m.nested r.config,
        (m.step Stack.sameShape m.nested r.config).2⟩ := by
  rw [Machine.advance_of_go hgo]
  simp only [fill, hp, hgo, List.isEmpty_nil, Bool.not_true, Bool.or_self, Bool.false_eq_true,
    if_false]

theorem fill_ready (m : Machine) (h : r.config.Sound) {fuel : Nat} (hfuel : r.config.left ≤ fuel) :
    (r.fill m fuel).pending ≠ [] ∨ (r.fill m fuel).config.cursor.atEnd = true := by
  induction fuel generalizing r with
  | zero =>
    right
    cases hgo : r.config.cursor.atEnd with
    | true => exact hgo
    | false =>
      have := Config.idle_lt_stepBound h hgo
      simp only [Config.left] at hfuel
      omega
  | succ fuel ih =>
    by_cases hp : r.pending = []
    · cases hgo : r.config.cursor.atEnd with
      | true =>
        rw [fill_of_atEnd hgo]
        exact .inr hgo
      | false =>
        rw [fill_succ hp hgo]
        rcases Machine.advance_left m Stack.sameShape m.nested h hgo with hend | hless
        · rw [fill_of_atEnd hend]
          exact .inr hend
        · refine ih (Machine.sound_advance m Stack.sameShape m.nested h) ?_
          change (m.advance Stack.sameShape m.nested r.config).left ≤ fuel
          omega
    · rw [fill_of_pending hp]
      exact .inl hp

theorem Tiled.extend {e : Config} {ts : List Token} (h : r.Tiled c taken) (hp : r.pending = [])
    (hl : r.config.cursor.Leads e.cursor) (he : e.Sound)
    (hts : Tiles r.config.cursor.pos
      (r.config.cursor.text.slice ⟨r.config.cursor.pos, e.cursor.pos⟩) ts) :
    Tiled c taken ⟨e, ts⟩ := by
  have hfirst := h.tiles
  rw [hp, List.append_nil] at hfirst
  rw [h.leads.text] at hts
  have hb : c.text.Boundary r.config.cursor.pos := h.leads.text ▸ h.leads.valid.pos
  have hl' := h.leads.trans hl
  have hb' : c.text.Boundary e.cursor.pos := hl'.text ▸ hl'.valid.pos
  exact ⟨h.began, he, hl', hfirst.append_slice h.began.pos hb hb' h.leads.pos hl.pos hts⟩

section

variable (quiet : m.Quiet) (hnone : ∀ c, m.handed c = [])
include quiet hnone

theorem Tiled.fill (h : r.Tiled c taken) (fuel : Nat) : (r.fill m fuel).Tiled c taken := by
  induction fuel generalizing r with
  | zero => exact h
  | succ fuel ih =>
    by_cases hp : r.pending = []
    · cases hgo : r.config.cursor.atEnd with
      | true =>
        rw [fill_of_atEnd hgo]
        exact h
      | false =>
        rw [fill_succ hp hgo]
        have hstep := Machine.step_tiles quiet hnone Stack.sameShape m.nested h.sound.valid hgo
        rw [← Machine.advance_of_go hgo] at hstep
        exact ih (h.extend hp (Machine.advance_leads h.sound.valid)
          (Machine.sound_advance m Stack.sameShape m.nested h.sound) hstep)
    · rw [fill_of_pending hp]
      exact h

theorem Tiled.next (h : r.Tiled c taken) :
    (r.next m).2.Tiled c (taken ++ (r.next m).1.toList) ∧
      ((r.next m).1 = none → (r.next m).2.Ended) := by
  have hfilled := h.fill quiet hnone r.config.stepBound
  have hready := fill_ready m h.sound r.config.left_le
  simp only [Run.next]
  split
  · rename_i hp
    refine ⟨?_, fun _ => ⟨hp, hready.resolve_left (absurd hp)⟩⟩
    rw [Option.toList_none, List.append_nil]
    exact hfilled
  · rename_i t ts hp
    refine ⟨⟨hfilled.began, hfilled.sound, hfilled.leads, ?_⟩, fun hno => by cases hno⟩
    rw [Option.toList_some, List.append_assoc, List.singleton_append]
    have htiles := hfilled.tiles
    rwa [hp] at htiles

theorem Tiled.take (h : r.Tiled c taken) (n : Nat) :
    (Run.take m n r).2.Tiled c (taken ++ (Run.take m n r).1.map Prod.fst) ∧
      ((Run.take m n r).1.length < n → (Run.take m n r).2.Ended) ∧
      ∀ before t r' after, (Run.take m n r).1 = before ++ (t, r') :: after →
        r'.Tiled c (taken ++ before.map Prod.fst ++ [t]) := by
  induction n generalizing r taken with
  | zero =>
    refine ⟨?_, fun hlt => absurd hlt (Nat.lt_irrefl _), fun before t r' after heq => ?_⟩
    · simp only [Run.take, List.map_nil, List.append_nil]
      exact h
    · cases before <;> cases heq
  | succ n ih =>
    obtain ⟨hnext, hnone'⟩ := h.next quiet hnone
    simp only [Run.take]
    generalize r.next m = pulled at hnext hnone' ⊢
    obtain ⟨token, r₁⟩ := pulled
    cases token with
    | none =>
      simp only [Option.toList_none, List.append_nil] at hnext
      refine ⟨?_, fun _ => hnone' rfl, fun before t r' after heq => ?_⟩
      · simp only [List.map_nil, List.append_nil]
        exact hnext
      · cases before <;> cases heq
    | some t =>
      obtain ⟨hlast, hend, heach⟩ := ih hnext
      simp only [Option.toList_some, List.append_assoc, List.singleton_append] at hlast heach
      refine ⟨hlast, fun hlt => hend (Nat.lt_of_succ_lt_succ hlt), fun before t' r' after heq => ?_⟩
      cases before with
      | nil =>
        obtain ⟨hfirst, _⟩ := List.cons.inj heq
        obtain ⟨rfl, rfl⟩ := Prod.mk.inj hfirst
        simpa using hnext
      | cons p before =>
        obtain ⟨rfl, hrest⟩ := List.cons.inj heq
        simpa using heach before t' r' after hrest

end

/-- Whatever the callbacks do, and wherever a caller lets the run begin and stop: after every pull,
the tokens pulled and those pending tile what the run took, and when the tokens end, which they do,
the run is at its stop and the tokens pulled are all there is up to it. -/
theorem pulled_tiles {g : Grammar} {m : Machine} (built : g.build true = .ok m)
    (none : g.delegates = []) (text : Text) (stack : Stack StateRef) (edits : List CursorEdit) :
    let c := m.opened text stack edits
    (∀ n, let pulled := (Run.take m n (resume c)).1
      let last := (Run.take m n (resume c)).2
      last.config.cursor.text = text ∧
      Tiles c.pos (text.slice ⟨c.pos, last.config.cursor.pos⟩)
        (pulled.map Prod.fst ++ last.pending) ∧
      (∀ before t r after, pulled = before ++ (t, r) :: after →
        Tiles c.pos (text.slice ⟨c.pos, r.config.cursor.pos⟩)
          (before.map Prod.fst ++ t :: r.pending)) ∧
      (pulled.length < n → last.config.cursor.pos = last.config.cursor.stop ∧
        Tiles c.pos (text.slice ⟨c.pos, last.config.cursor.stop⟩) (pulled.map Prod.fst))) ∧
    ∃ n, (Run.take m n (resume c)).1.length < n := by
  intro c
  have hl : (Cursor.start text stack).Leads c := m.opened_leads text stack edits
  have ht : c.text = text := hl.text
  have htiled := (tiled_resume hl.valid).take (Machine.quiet_of_build built)
    (Machine.handed_eq_nil built none)
  simp only [List.nil_append] at htiled
  refine ⟨fun n => ?_, text.size + 1, ?_⟩
  · obtain ⟨hlast, hend, heach⟩ := htiled n
    refine ⟨hlast.leads.text.trans ht, ht ▸ hlast.tiles, fun before t r after heq => ?_,
      fun hlt => ?_⟩
    · have htiles := (heach before t r after heq).tiles
      rw [List.append_assoc, List.singleton_append] at htiles
      exact ht ▸ htiles
    · have hended := hend hlt
      have hstop := (Cursor.atEnd_iff hlast.sound.valid).1 hended.atEnd
      have htiles := hlast.tiles
      rw [hended.pending, List.append_nil, hstop] at htiles
      exact ⟨hstop, ht ▸ htiles⟩
  · obtain ⟨hlast, _, _⟩ := htiled (text.size + 1)
    have hcount := hlast.tiles.length_le
    have hb : c.text.Boundary (Run.take m (text.size + 1) (resume c)).2.config.cursor.pos :=
      hlast.leads.text ▸ hlast.leads.valid.pos
    have hsize := hb.le_size
    rw [Text.size_slice hlast.began.pos hb hlast.leads.pos, List.length_append,
      List.length_map] at hcount
    rw [ht] at hsize
    change (Run.take m (text.size + 1) (resume c)).1.length < text.size + 1
    omega

/-- Whose callback asks to go back to the start, and to stop there. -/
def retreating : Grammar :=
  (Grammar.empty "retreating" .standard).define "root"
    [.rule "b" (.steer fun found _ => ([.setStop 0, .setPos 0], [⟨found.start, .error, 9⟩])) .stay,
      .rule "a" (.kind .text) (.push "root")]

theorem pulled_tiles_retreating : retreating.delegates = [] ∧
    ∃ m, retreating.build true = .ok m ∧
      let c := m.opened ['a', 'a', 'b', 'a'] (.single (.named m.root)) [.setPos 1]
      ∃ n, (Run.take m n (resume c)).1.length < n ∧
        Tiles c.pos (Text.slice ['a', 'a', 'b', 'a']
            ⟨c.pos, (Run.take m n (resume c)).2.config.cursor.stop⟩)
          ((Run.take m n (resume c)).1.map Prod.fst) := by
  have none : retreating.delegates = [] := rfl
  have ok : (retreating.build true).isOk = true := by decide +kernel
  obtain ⟨m, built⟩ := exists_of_isOk ok
  obtain ⟨hall, n, hn⟩ := pulled_tiles built none ['a', 'a', 'b', 'a'] (.single (.named m.root))
    [.setPos 1]
  exact ⟨none, m, built, n, hn, ((hall n).2.2.2 hn).2⟩

end Run

end Lexing
