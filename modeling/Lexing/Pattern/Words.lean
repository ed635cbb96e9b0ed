import Lexing.Pattern.Reader

/-!
# Patterns for words

A choice of words is tried from the longest to the shortest, so that no word hides a longer one
that it begins.
-/
set_option autoImplicit false

namespace Lexing.Pattern

def escape (w : Text) : Text := w.flatMap fun c => if isMeta c then ['\\', c] else [c]

/-- Longer words first, and words of the same length in the order of their characters. -/
def wordBefore (a b : Text) : Bool :=
  if a.size = b.size then !b.lex a fun x y => x.toNat < y.toNat else b.size < a.size

def dropRepeats : List Text → List Text
  | a :: b :: ws => if a = b then dropRepeats (b :: ws) else a :: dropRepeats (b :: ws)
  | ws => ws

/-- The pattern of any of the words, between two patterns that are taken as they are. -/
def ofWords (words : List String) (before after : String) : String :=
  let sorted := dropRepeats ((words.map String.toList).mergeSort wordBefore)
  before ++ "(?:" ++ String.ofList (['|'].intercalate (sorted.map escape)) ++ ")" ++ after

def joined (ws : List Text) : Text := ['|'].intercalate (ws.map escape)

def sortedWords (words : List String) : List Text :=
  dropRepeats ((words.map String.toList).mergeSort wordBefore)

variable {words : List String}

theorem toList_ofWords (words : List String) :
    (ofWords words "" "").toList = '(' :: '?' :: ':' :: (joined (sortedWords words) ++ [')']) := by
  simp [ofWords, sortedWords, joined]

theorem mem_dropRepeats {w : Text} (ws : List Text) : w ∈ dropRepeats ws ↔ w ∈ ws := by
  fun_induction dropRepeats ws with
  | case1 b ws ih => simp [ih]
  | case2 a b ws _ ih => simp [ih]
  | case3 ws => rfl

theorem mem_sortedWords {w : Text} : w ∈ sortedWords words ↔ w ∈ words.map String.toList := by
  rw [sortedWords, mem_dropRepeats, List.mem_mergeSort]

/-- Equal words of a sorted list follow each other. -/
theorem nodup_dropRepeats {r : Text → Text → Prop} (antisymm : ∀ {a b}, r a b → r b a → a = b)
    {ws : List Text} (h : ws.Pairwise r) :
    (dropRepeats ws).Pairwise r ∧ (dropRepeats ws).Nodup := by
  fun_induction dropRepeats ws with
  | case1 b ws ih => exact ih h.of_cons
  | case2 a b ws hne ih =>
    obtain ⟨hbefore, hrest⟩ := List.pairwise_cons.1 h
    obtain ⟨hsorted, hnodup⟩ := ih hrest
    refine ⟨List.pairwise_cons.2 ⟨fun w hw => hbefore w ((mem_dropRepeats _).1 hw), hsorted⟩,
      List.nodup_cons.2 ⟨fun ha => hne ?_, hnodup⟩⟩
    rcases List.mem_cons.1 ((mem_dropRepeats _).1 ha) with heq | hmem
    · exact heq
    · exact antisymm (hbefore b List.mem_cons_self) ((List.pairwise_cons.1 hrest).1 a hmem)
  | case3 ws hshort =>
    match ws with
    | [] => exact ⟨.nil, .nil⟩
    | [w] => exact ⟨List.pairwise_singleton _ w, List.pairwise_singleton _ w⟩
    | a :: b :: ws => exact absurd rfl (hshort a b ws)

end Lexing.Pattern
