import Lexing.Kind.Standard
import Lexing.Proofs.Kind.Order

/-!
# Short names

The standard kinds have short names, and the root is one of them. The short name of a kind is found
by going up to the nearest standard kind, and it goes on from that name, segment by segment, in the
order of the path. So a kind that is not standard has the short name of its parent and one segment
more.
-/
set_option autoImplicit false

namespace Lexing.Kind

variable {k above : Kind} {short segment : String} {s : StandardKind} {rest : List String}

theorem standardShort?_of_mem (h : s ∈ standard) : s.kind.standardShort? = some s.short := by
  have hlisted : ∀ s ∈ standard, s.kind.standardShort? = some s.short := by decide +kernel
  exact hlisted s h

theorem exists_of_standardShort? (h : k.standardShort? = some short) :
    ∃ s ∈ standard, s.kind = k := by
  obtain ⟨s, hfind, -⟩ := Option.map_eq_some_iff.1 h
  exact ⟨s, List.mem_of_find?_eq_some hfind, by simpa using List.find?_some hfind⟩

theorem standardShort?_eq_none_iff : k.standardShort? = none ↔ k.isStandard = false := by
  rw [isStandard, Option.isSome_eq_false_iff, Option.isNone_iff_eq_none]

/-- From a kind, with the text for the segments already passed, one gets to a short name: the kind
is standard, or there is nothing above it, or one gets there from its parent. -/
inductive Climbs : Kind → String → String → Prop
  | found {k : Kind} {short : String} (known : k.standardShort? = some short) (tail : String) :
      Climbs k tail (short ++ tail)
  | top {k : Kind} (unknown : k.standardShort? = none) (ends : k.path = []) (tail : String) :
      Climbs k tail tail
  | up {k above : Kind} {segment tail name : String} (unknown : k.standardShort? = none)
      (parent : k.path = above.path ++ [segment])
      (rest : Climbs above ("-" ++ segment ++ tail) name) : Climbs k tail name

theorem shortFrom_known (h : k.standardShort? = some short) (tail : String) :
    shortFrom k.path.reverse tail = short ++ tail := by
  rw [shortFrom.eq_def, List.reverse_reverse, h]

theorem shortFrom_top (unknown : k.standardShort? = none) (ends : k.path = []) (tail : String) :
    shortFrom k.path.reverse tail = tail := by
  rw [shortFrom.eq_def, List.reverse_reverse, unknown, ends]
  rfl

theorem shortFrom_up (unknown : k.standardShort? = none) (parent : k.path = above.path ++ [segment])
    (tail : String) :
    shortFrom k.path.reverse tail = shortFrom above.path.reverse ("-" ++ segment ++ tail) := by
  rw [shortFrom.eq_def, List.reverse_reverse, unknown, parent, List.reverse_append]
  rfl

theorem induction_up {p : Kind → Prop}
    (known : ∀ k short, k.standardShort? = some short → p k)
    (up : ∀ k above segment, k.standardShort? = none → k.path = above.path ++ [segment] →
      p above → p k) (k : Kind) : p k := by
  obtain ⟨path⟩ := k
  induction path using List.reverseRecOn with
  | nil => exact known root "" (by decide)
  | append_singleton path segment ih =>
    cases hshort : standardShort? ⟨path ++ [segment]⟩ with
    | some short => exact known _ short hshort
    | none => exact up _ ⟨path⟩ segment hshort rfl ih

theorem exists_climbs (k : Kind) (tail : String) : ∃ name, Climbs k tail name := by
  induction k using induction_up generalizing tail with
  | known k short known => exact ⟨_, .found known tail⟩
  | up k above segment unknown parent ih =>
    obtain ⟨name, hname⟩ := ih ("-" ++ segment ++ tail)
    exact ⟨name, .up unknown parent hname⟩

theorem Climbs.eq_shortFrom {tail name : String} (h : Climbs k tail name) :
    name = shortFrom k.path.reverse tail := by
  induction h with
  | found known tail => rw [shortFrom_known known]
  | top unknown ends tail => rw [shortFrom_top unknown ends]
  | up unknown parent rest ih => rw [ih, shortFrom_up unknown parent]

theorem climbs_iff {tail name : String} :
    Climbs k tail name ↔ name = shortFrom k.path.reverse tail := by
  refine ⟨Climbs.eq_shortFrom, ?_⟩
  rintro rfl
  obtain ⟨name, hname⟩ := exists_climbs k tail
  exact hname.eq_shortFrom ▸ hname

theorem short_known (h : k.standardShort? = some short) : k.short = short :=
  (shortFrom_known h "").trans String.append_empty

theorem shortFrom_eq (k : Kind) (tail : String) :
    shortFrom k.path.reverse tail = k.short ++ tail := by
  induction k using induction_up generalizing tail with
  | known k short known => rw [shortFrom_known known, short_known known]
  | up k above segment unknown parent ih =>
    rw [Kind.short, shortFrom_up unknown parent, shortFrom_up unknown parent, ih, ih]
    simp only [String.append_empty, String.append_assoc]

theorem short_up (unknown : k.standardShort? = none) (parent : k.path = above.path ++ [segment]) :
    k.short = above.short ++ "-" ++ segment := by
  rw [short, shortFrom_up unknown parent, shortFrom_eq, String.append_empty, String.append_assoc]

/-- Of the standard kinds whose path the path of `k` begins with, `s` has the longest one, and the
path goes on with `rest`. -/
structure Nearest (s : StandardKind) (k : Kind) (rest : List String) : Prop where
  listed : s ∈ standard
  path : k.path = s.kind.path ++ rest
  longest : ∀ s' ∈ standard, s'.kind.path <+: k.path → s'.kind.path <+: s.kind.path

theorem Nearest.down (near : Nearest s above rest) (unknown : k.standardShort? = none)
    (parent : k.path = above.path ++ [segment]) : Nearest s k (rest ++ [segment]) := by
  refine ⟨near.listed, by rw [parent, near.path, List.append_assoc], fun s' hmem hbegins => ?_⟩
  rw [parent, List.prefix_concat_iff, ← parent] at hbegins
  rcases hbegins with hsame | habove
  · -- it would be the kind itself, which is not listed
    have hknown := standardShort?_of_mem hmem
    rw [eq_of_path hsame, unknown] at hknown
    cases hknown
  · exact near.longest s' hmem habove

theorem exists_nearest (k : Kind) : ∃ s rest, Nearest s k rest := by
  induction k using induction_up with
  | known k short known =>
    obtain ⟨s, hmem, rfl⟩ := exists_of_standardShort? known
    exact ⟨s, [], hmem, (List.append_nil _).symm, fun s' _ hbegins => hbegins⟩
  | up k above segment unknown parent ih =>
    obtain ⟨s, rest, near⟩ := ih
    exact ⟨s, rest ++ [segment], near.down unknown parent⟩

theorem Nearest.unknown (near : Nearest s k (rest ++ [segment])) : k.standardShort? = none := by
  rw [Option.eq_none_iff_forall_ne_some]
  intro short hshort
  obtain ⟨s', hmem, hkind⟩ := exists_of_standardShort? hshort
  have hle := (near.longest s' hmem (hkind ▸ List.prefix_rfl)).length_le
  rw [hkind, near.path, List.length_append, List.length_append] at hle
  simp only [List.length_singleton] at hle
  omega

theorem Nearest.up (near : Nearest s k (rest ++ [segment])) :
    Nearest s ⟨s.kind.path ++ rest⟩ rest := by
  refine ⟨near.listed, rfl, fun s' hmem hbegins => near.longest s' hmem (hbegins.trans ?_)⟩
  rw [near.path, ← List.append_assoc]
  exact List.prefix_append _ _

theorem Nearest.short_eq (near : Nearest s k rest) :
    k.short = "-".intercalate (s.short :: rest) := by
  induction rest using List.reverseRecOn generalizing k with
  | nil =>
    obtain rfl : k = s.kind := eq_of_path (near.path.trans (List.append_nil _))
    rw [short_known (standardShort?_of_mem near.listed), String.intercalate_singleton]
  | append_singleton rest segment ih =>
    rw [short_up near.unknown (near.path.trans (List.append_assoc _ _ _).symm), ih near.up,
      ← List.cons_append, String.intercalate_append_of_ne_nil (by simp) (by simp),
      String.intercalate_singleton]

/-- The short name goes on from that of the nearest standard kind with each segment below it, and
that of a kind that is not standard from that of its parent. Going up ends, and with this name. -/
theorem short_extends_nearest (k : Kind) :
    (∃ s rest, Nearest s k rest) ∧
      (∀ s rest, Nearest s k rest → k.short = "-".intercalate (s.short :: rest)) ∧
      (∀ c : String, c ≠ "" → '.' ∉ c.toList → (k.child c).isStandard = false →
        (k.child c).short = k.short ++ "-" ++ c) ∧
      ∀ name, Climbs k "" name ↔ name = k.short := by
  refine ⟨exists_nearest k, fun s rest => Nearest.short_eq, fun c hne hdot hother => ?_,
    fun name => climbs_iff⟩
  have hpath : (k.child c).path = k.path ++ [c] := by
    rw [child, segments_of_isSegment ⟨hne, hdot⟩]
  exact short_up (standardShort?_eq_none_iff.2 hother) hpath

/-- `Name.Builtin.Pseudo` is standard, but it is not above what has another segment in between. -/
theorem short_extends_nearest_builtin :
    Nearest ⟨"NAME_BUILTIN", ⟨["Name", "Builtin"]⟩, "nb"⟩ ⟨["Name", "Builtin", "Wide"]⟩ ["Wide"] ∧
      (⟨["Name", "Builtin", "Wide"]⟩ : Kind).short = "nb-Wide" ∧
      "Pseudo" ≠ "" ∧ '.' ∉ "Pseudo".toList ∧
      (child ⟨["Name", "Builtin", "Wide"]⟩ "Pseudo").isStandard = false ∧
      (child ⟨["Name", "Builtin", "Wide"]⟩ "Pseudo").short = "nb-Wide-Pseudo" := by
  have near : Nearest ⟨"NAME_BUILTIN", ⟨["Name", "Builtin"]⟩, "nb"⟩
      ⟨["Name", "Builtin", "Wide"]⟩ ["Wide"] := ⟨by decide +kernel, rfl, by decide +kernel⟩
  have hdot : '.' ∉ "Pseudo".toList := by decide
  have hother : (child ⟨["Name", "Builtin", "Wide"]⟩ "Pseudo").isStandard = false := by
    decide +kernel
  obtain ⟨-, above, below, -⟩ := short_extends_nearest ⟨["Name", "Builtin", "Wide"]⟩
  have hshort : (⟨["Name", "Builtin", "Wide"]⟩ : Kind).short = "nb-Wide" := above _ _ near
  refine ⟨near, hshort, by decide, hdot, hother, ?_⟩
  rw [below "Pseudo" (by decide) hdot hother, hshort]
  rfl

end Lexing.Kind
