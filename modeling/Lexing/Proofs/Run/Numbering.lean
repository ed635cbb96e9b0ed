import Lexing.Proofs.Machine.Inlining
import Lexing.Proofs.Run.Alike

/-!
# Runs and the order of combined states

A run looks up states, and callbacks see their names, but nothing in a run depends on the order of
the combined states, which decides their numbers. So a run of a machine that has them in another
order makes the same steps, with the same runs nested inside it.

This is the case when a reference to a state is written out: what can be observed of any run stays
as it was.
-/
set_option autoImplicit false

namespace Lexing

def Machine.reordered (m : Machine) (combined : List (List Nat)) : Machine :=
  { m with combined := combined }

namespace Machine

variable (m : Machine) (combined : List (List Nat))

theorem alike_reordered : m.Alike (m.reordered combined) := ⟨rfl, rfl, rfl⟩

theorem tokens_reordered : (m.reordered combined).tokens = m.tokens :=
  (m.alike_reordered combined).tokens

theorem observed_reordered (text : Text) (names : List String) (n : Nat) :
    (m.reordered combined).observed text names n = m.observed text names n :=
  (m.alike_reordered combined).observed text names n

end Machine

namespace Grammar

variable {g g' : Grammar} {steering : Bool} {m m' : Machine}

theorem Inlined.eq_reordered {inline : Definition → Definition} (h : g.Inlined g' inline)
    (name : g'.name = g.name) (built : g.build steering = .ok m)
    (built' : g'.build steering = .ok m') :
    m' = m.reordered m'.combined ∧ m'.combined.Perm m.combined := by
  obtain ⟨lines, rules, hm⟩ := Machine.exists_of_build built
  obtain ⟨lines', rules', hm'⟩ := Machine.exists_of_build built'
  refine ⟨?_, h.combined_perm hm hm'⟩
  have hname := hm'.name.trans (name.trans hm.name.symm)
  have hstates := h.machine_states hm hm'
  have hroot := hm.root_eq hm' h.states
  obtain ⟨name', states', combined', root'⟩ := m'
  obtain rfl : name' = m.name := hname
  obtain rfl : states' = m.states := hstates
  obtain rfl : root' = m.root := hroot
  rfl

/-- A reference to a state that is replaced by the entries of that state gives a machine with the
same states, up to the order of the combined ones, and runs in which nothing else is observed. -/
theorem observed_of_inlining {a b : String} {above below : List Entry}
    (built : g.build steering = .ok m)
    (entries : g.entries? a = some (above ++ .splice b :: below)) :
    ∃ inner m', g.entries? b = some inner ∧
      (g.define a (above ++ inner ++ below)).build steering = .ok m' ∧
      m'.states = m.states ∧ m'.combined.Perm m.combined ∧
      (∀ text, m'.tokens text = m.tokens text) ∧
      ∀ text names n, m'.observed text names n = m.observed text names n := by
  have wf := wellFormed_of_build built
  obtain ⟨inner, hinner⟩ := wf.entries?_of_splice entries
    (List.mem_append_right above List.mem_cons_self)
  have hinlined := inlined_define entries hinner
  obtain ⟨m', built'⟩ := exists_of_wellFormed (hinlined.wellFormed wf)
  obtain ⟨heq, hperm⟩ := hinlined.eq_reordered (define_of_entries? entries _).1 built built'
  refine ⟨inner, m', hinner, built', ?_, hperm, fun text => ?_, fun text names n => ?_⟩
  · rw [heq]
    rfl
  · rw [heq, Machine.tokens_reordered]
  · rw [heq, Machine.observed_reordered]

/-- Written out, the reference asks for the second combined state before the first. -/
def crossing : Grammar :=
  ((Grammar.empty "crossing" .standard).define "root"
    [.splice "marks", .rule "a" (.kind .text) (.combined ["root", "marks"])]).define "marks"
    [.rule "b" (.kind .text) (.combined ["marks", "root"])]

theorem observed_of_inlining_crossing : ∃ m m',
    crossing.build false = .ok m ∧ m.combined = [[0, 1], [1, 0]] ∧
      (crossing.define "root" [.rule "b" (.kind .text) (.combined ["marks", "root"]),
        .rule "a" (.kind .text) (.combined ["root", "marks"])]).build false = .ok m' ∧
      m'.combined = [[1, 0], [0, 1]] ∧
      ∀ text names n, m'.observed text names n = m.observed text names n := by
  have hok : (crossing.build false).toOption.any
      (fun m => m.combined == [[0, 1], [1, 0]]) = true := by decide +kernel
  have hok' : ((crossing.define "root" [.rule "b" (.kind .text) (.combined ["marks", "root"]),
      .rule "a" (.kind .text) (.combined ["root", "marks"])]).build false).toOption.any
        (fun m => m.combined == [[1, 0], [0, 1]]) = true := by decide +kernel
  obtain ⟨m, built, hcombined⟩ := exists_of_any hok
  obtain ⟨m', built', hcombined'⟩ := exists_of_any hok'
  have hentries : crossing.entries? "root" = some ([] ++ .splice "marks" ::
      [.rule "a" (.kind .text) (.combined ["root", "marks"])]) := rfl
  obtain ⟨inner, m'', hinner, built'', _, _, _, hobserved⟩ := observed_of_inlining built hentries
  obtain rfl := Option.some.inj hinner
  obtain rfl := Except.ok.inj (built''.symm.trans built')
  exact ⟨m, m'', built, eq_of_beq hcombined, built', eq_of_beq hcombined', hobserved⟩

end Grammar

end Lexing
