import Lexing.Proofs.Kind.Dotted
import Mathlib.Data.List.Induction
import Mathlib.Data.List.TakeWhile
import Mathlib.Logic.Relation

/-!
# The tree of kinds and their order

That a kind is below another one can be said in three ways: by the paths, by the list of ancestors,
and by going up from parent to parent. In the order of kinds everything below a kind comes after it,
and nothing else comes in between. So in a sorted list the kinds below a given one are neighbours.
-/
set_option autoImplicit false

namespace Lexing

section

variable {α : Type} {cmp : α → α → Ordering} {xs ys zs : List α}

theorem isLE_compareLex_of_prefix [Std.ReflCmp cmp] (h : xs <+: ys) :
    (List.compareLex cmp xs ys).isLE = true := by
  induction xs generalizing ys with
  | nil =>
    cases ys with
    | nil => rfl
    | cons y ys => rfl
  | cons x xs ih =>
    obtain ⟨rest, rfl⟩ := h
    have hself : cmp x x = .eq := Std.ReflCmp.compare_self
    rw [List.cons_append, List.compareLex_cons_cons, hself]
    exact ih (List.prefix_append xs rest)

/-- What lies between a list and one that begins with it begins with it, too: up to its end neither
side of the first difference is left. -/
theorem prefix_of_between [Std.OrientedCmp cmp] [Std.LawfulEqCmp cmp]
    (above : (List.compareLex cmp xs ys).isLE = true)
    (under : (List.compareLex cmp ys zs).isLE = true) (h : xs <+: zs) : xs <+: ys := by
  induction xs generalizing ys zs with
  | nil => exact List.nil_prefix
  | cons x xs ih =>
    obtain ⟨rest, rfl⟩ := h
    cases ys with
    | nil =>
      rw [List.compareLex_cons_nil] at above
      cases above
    | cons y ys =>
      rw [List.compareLex_cons_cons, Ordering.isLE_then_iff_or] at above
      rw [List.cons_append, List.compareLex_cons_cons, Ordering.isLE_then_iff_or] at under
      have hxy : cmp x y = .eq := by
        rcases above with hlt | ⟨heq, _⟩
        · have hgt : cmp y x = .gt := Std.OrientedCmp.gt_iff_lt.2 hlt
          rw [hgt] at under
          rcases under with h | ⟨h, _⟩ <;> cases h
        · exact heq
      obtain rfl := Std.LawfulEqCmp.eq_of_compare hxy
      rw [hxy] at above
      have hyx : cmp x x = .eq := hxy
      rw [hyx] at under
      obtain ⟨more, hmore⟩ := ih (by simpa using above) (by simpa using under)
        (List.prefix_append xs rest)
      exact ⟨more, by rw [List.cons_append, hmore]⟩

theorem exists_middle {r : α → α → Prop} {p : α → Bool} (sorted : xs.Pairwise r)
    (convex : ∀ x y z, p x = true → r x y → r y z → p z = true → p y = true) :
    ∃ before inside after, xs = before ++ inside ++ after ∧ (∀ x ∈ inside, p x = true) ∧
      (∀ x ∈ before, p x = false) ∧ ∀ x ∈ after, p x = false := by
  have hsplit : xs = xs.takeWhile (!p ·) ++ xs.dropWhile (!p ·) :=
    List.takeWhile_append_dropWhile.symm
  generalize hrest : xs.dropWhile (!p ·) = rest at hsplit
  have hsorted : rest.Pairwise r := hrest ▸ sorted.sublist (List.dropWhile_sublist _)
  refine ⟨xs.takeWhile (!p ·), rest.takeWhile p, rest.dropWhile p, ?_, ?_, ?_, ?_⟩
  · rw [List.append_assoc, List.takeWhile_append_dropWhile]
    exact hsplit
  · exact fun x => List.mem_takeWhile_imp
  · intro x hx
    simpa using List.mem_takeWhile_imp hx
  · intro z hz
    cases hafter : rest.dropWhile p with
    | nil =>
      rw [hafter] at hz
      cases hz
    | cons y ys =>
      have hy : p y = false := by
        have hhead := List.head?_dropWhile_not p rest
        rwa [hafter] at hhead
      rw [hafter] at hz
      rcases List.mem_cons.1 hz with rfl | hz
      · exact hy
      · -- The first element behind the left part has the property, so it is not behind the gap.
        cases rest with
        | nil => cases hafter
        | cons x rest =>
          have hx : p x = true := by
            have hhead := List.head?_dropWhile_not (!p ·) xs
            rw [hrest] at hhead
            simpa using hhead
          rw [List.dropWhile_cons_of_pos hx] at hafter
          have hyz : (y :: ys).Sublist rest := hafter ▸ List.dropWhile_sublist p
          obtain ⟨hfirst, hothers⟩ := List.pairwise_cons.1 hsorted
          have hlater := List.pairwise_cons.1 (hothers.sublist hyz)
          rw [Bool.eq_false_iff]
          intro hpz
          rw [convex x y z hx (hfirst y (hyz.subset List.mem_cons_self)) (hlater.1 z hz) hpz] at hy
          cases hy

end

namespace Kind

variable {a x y : Kind}

theorem eq_of_path (h : x.path = y.path) : x = y := by
  cases x
  cases y
  exact congrArg Kind.mk h

theorem isBelow_iff : x.isBelow a = true ↔ a.path <+: x.path := List.isPrefixOf_iff_prefix

theorem isBelow_refl (x : Kind) : x.isBelow x = true := isBelow_iff.2 List.prefix_rfl

theorem isBelow_trans (hxy : x.isBelow y = true) (hya : y.isBelow a = true) :
    x.isBelow a = true :=
  isBelow_iff.2 ((isBelow_iff.1 hya).trans (isBelow_iff.1 hxy))

theorem isBelow_antisymm (hxy : x.isBelow y = true) (hyx : y.isBelow x = true) : x = y :=
  eq_of_path ((isBelow_iff.1 hyx).eq_of_length_le (isBelow_iff.1 hxy).length_le)

theorem mem_ancestors_iff : a ∈ x.ancestors ↔ x.isBelow a = true := by
  rw [isBelow_iff, ancestors, List.mem_map]
  constructor
  · rintro ⟨n, _, rfl⟩
    exact List.take_prefix n x.path
  · intro h
    refine ⟨a.path.length, List.mem_range.2 (Nat.lt_succ_of_le h.length_le), ?_⟩
    rw [← List.prefix_iff_eq_take.1 h]

theorem parent?_eq_some_iff : x.parent? = some y ↔ ∃ name, x.path = y.path ++ [name] := by
  obtain ⟨path⟩ := x
  obtain ⟨path'⟩ := y
  rcases List.eq_nil_or_concat path with rfl | ⟨start, last, rfl⟩
  · simp [parent?, isRoot]
  · have hparent : (⟨start ++ [last]⟩ : Kind).parent? = some ⟨start⟩ := by simp [parent?, isRoot]
    rw [List.concat_eq_append, hparent, Option.some.injEq, Kind.mk.injEq]
    exact ⟨fun h => ⟨last, by rw [h]⟩, fun ⟨_, h⟩ => (List.append_inj' h rfl).1⟩

theorem reaches_iff :
    Relation.ReflTransGen (fun x y : Kind => x.parent? = some y) x a ↔ x.isBelow a = true := by
  constructor
  · intro h
    induction h with
    | refl => exact isBelow_refl x
    | tail _ hparent ih =>
      obtain ⟨name, hname⟩ := parent?_eq_some_iff.1 hparent
      exact isBelow_trans ih (isBelow_iff.2 ⟨[name], hname.symm⟩)
  · intro h
    obtain ⟨path⟩ := x
    obtain ⟨rest, rfl⟩ : ∃ rest, a.path ++ rest = path := isBelow_iff.1 h
    clear h
    induction rest using List.reverseRecOn with
    | nil => rw [List.append_nil]
    | append_singleton rest name ih =>
      refine .head (parent?_eq_some_iff.2 ⟨name, ?_⟩) ih
      exact (List.append_assoc a.path rest [name]).symm

instance : Std.TransCmp order where
  eq_swap {a b} := by
    change List.compareLex compare a.path b.path = (List.compareLex compare b.path a.path).swap
    exact Std.OrientedCmp.eq_swap
  isLE_trans {a b c} hab hbc := by
    change (List.compareLex compare a.path c.path).isLE = true
    change (List.compareLex compare a.path b.path).isLE = true at hab
    change (List.compareLex compare b.path c.path).isLE = true at hbc
    exact Std.TransCmp.isLE_trans hab hbc

theorem isLE_order_of_isBelow (h : x.isBelow a = true) : (a.order x).isLE = true :=
  isLE_compareLex_of_prefix (isBelow_iff.1 h)

theorem order_ne_lt_of_isBelow (h : x.isBelow a = true) : x.order a ≠ .lt := by
  have hle := isLE_order_of_isBelow h
  intro hlt
  have hgt : a.order x = .gt := Std.OrientedCmp.gt_iff_lt.2 hlt
  rw [hgt] at hle
  cases hle

theorem isBelow_of_between (hax : (a.order x).isLE = true) (hxy : (x.order y).isLE = true)
    (h : y.isBelow a = true) : x.isBelow a = true :=
  isBelow_iff.2 (prefix_of_between hax hxy (isBelow_iff.1 h))

theorem segments_append_dot (p q : String) :
    segments (p ++ "." ++ q) = segments p ++ segments q := by
  have hsplit : (p.toList ++ '.' :: q.toList).splitOn '.' =
      p.toList.splitOn '.' ++ q.toList.splitOn '.' :=
    List.splitOn_append_cons_of_beq _ _ rfl
  have hlist : (p ++ "." ++ q).toList = p.toList ++ '.' :: q.toList := by
    simp [String.toList_append]
  rw [segments, hlist, hsplit, List.filter_append, List.map_append]
  rfl

theorem isBelow_child (a : Kind) (name : String) : (a.child name).isBelow a = true :=
  isBelow_iff.2 (List.prefix_append a.path (segments name))

theorem child_dotted (a : Kind) (p q : String) :
    a.child (p ++ "." ++ q) = (a.child p).child q := by
  simp only [child, segments_append_dot, List.append_assoc]

theorem segments_of_isSegment {s : String} (h : IsSegment s) : segments s = [s] := by
  have hsplit : s.toList.splitOn '.' = [s.toList] := List.splitOn_eq_singleton h.2
  simp [segments, hsplit, h.1]

theorem Made.child_eq_ofSegments (made : a.Made) (name : String) :
    a.child name = Kind.ofSegments (a.path ++ [name]) := by
  have hkept : a.path.flatMap segments = a.path := by
    rw [List.flatMap_def,
      List.map_congr_left fun s hs => segments_of_isSegment (made.proper s hs), ← List.flatMap_def]
    exact List.flatMap_singleton' a.path
  rw [Kind.ofSegments, List.flatMap_append, hkept, List.flatMap_singleton]
  rfl

/-- Being below is a partial order, and in the order of kinds what is below a kind is an interval
that nothing in it comes before. -/
theorem isBelow_interval (a : Kind) :
    (a.isBelow a = true ∧
      (∀ x y : Kind, x.isBelow y = true → y.isBelow a = true → x.isBelow a = true) ∧
      ∀ x : Kind, x.isBelow a = true → a.isBelow x = true → x = a) ∧
    (∀ x : Kind, (x.isBelow a = true ↔ a ∈ x.ancestors) ∧
      (x.isBelow a = true ↔
        Relation.ReflTransGen (fun x y : Kind => x.parent? = some y) x a)) ∧
    (∀ x : Kind, x.isBelow a = true → x.order a ≠ .lt) ∧
    (∀ x y : Kind, (a.order x).isLE = true → (x.order y).isLE = true → y.isBelow a = true →
      x.isBelow a = true) ∧
    (∀ kinds : List Kind, kinds.Pairwise (fun x y => (x.order y).isLE = true) →
      ∃ before inside after, kinds = before ++ inside ++ after ∧
        (∀ x ∈ inside, x.isBelow a = true) ∧ (∀ x ∈ before, x.isBelow a = false) ∧
        ∀ x ∈ after, x.isBelow a = false) ∧
    (∀ name : String, (a.child name).isBelow a = true ∧
      (a.Made → a.child name = ofSegments (a.path ++ [name]))) ∧
    ∀ p q : String, a.child (p ++ "." ++ q) = (a.child p).child q := by
  refine ⟨⟨isBelow_refl a, fun x y => isBelow_trans, fun x => isBelow_antisymm⟩,
    fun x => ⟨mem_ancestors_iff.symm, reaches_iff.symm⟩, fun x => order_ne_lt_of_isBelow,
    fun x y => isBelow_of_between, fun kinds sorted => ?_,
    fun name => ⟨isBelow_child a name, fun made => made.child_eq_ofSegments name⟩,
    child_dotted a⟩
  refine exists_middle sorted fun x y z hx hxy hyz hz => ?_
  refine isBelow_of_between ?_ hyz hz
  exact Std.TransCmp.isLE_trans (isLE_order_of_isBelow hx) hxy

/-- A sorted list. Segments are compared one by one, so what is below `Name` comes before the kind
whose first segment goes on with a dash. -/
def listed : List Kind :=
  [⟨[]⟩, ⟨["Literal", "Number"]⟩, ⟨["Name"]⟩, ⟨["Name", "Builtin"]⟩,
    ⟨["Name", "Builtin", "Pseudo"]⟩, ⟨["Name", "Über"]⟩, ⟨["Name-Builtin"]⟩,
    ⟨["Name-Builtin", "Name"]⟩]

theorem isBelow_interval_name :
    (listed.Pairwise fun x y => (x.order y).isLE = true) ∧
      (∃ before inside after, listed = before ++ inside ++ after ∧
        (∀ x ∈ inside, x.isBelow ⟨["Name"]⟩ = true) ∧
        (∀ x ∈ before, x.isBelow ⟨["Name"]⟩ = false) ∧
        ∀ x ∈ after, x.isBelow ⟨["Name"]⟩ = false) ∧
      Made ⟨["Name"]⟩ ∧
      child ⟨["Name"]⟩ "Builtin..Pseudo." = ofSegments ["Name", "Builtin..Pseudo."] := by
  have sorted : listed.Pairwise fun x y => (x.order y).isLE = true := by decide +kernel
  have made : Made ⟨["Name"]⟩ := (by decide +kernel : ofDotted "Name" = ⟨["Name"]⟩) ▸ .ofDotted _
  obtain ⟨-, -, -, -, together, children, -⟩ := isBelow_interval ⟨["Name"]⟩
  exact ⟨sorted, together listed sorted, made, (children _).2 made⟩

end Kind

end Lexing
