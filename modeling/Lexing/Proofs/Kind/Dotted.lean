import Lexing.Kind.Basic

/-!
# Kinds and their dotted form

Every kind that is made has proper segments only, so its dotted form can be split into them again.
Reading the dotted form does more than splitting: a leading `Token` is dropped, and a leading
`String` or `Number` is put below `Literal`. So the kinds that are read back are those that start
with none of the three. The displayed form has the `Token` to be dropped, and is read back unless
one of the other two comes first; of a kind that was read, neither does.
-/
set_option autoImplicit false

namespace Lexing.Kind

def IsSegment (s : String) : Prop := s ≠ "" ∧ '.' ∉ s.toList

instance (s : String) : Decidable (IsSegment s) := inferInstanceAs (Decidable (_ ∧ _))

def Proper (k : Kind) : Prop := ∀ s ∈ k.path, IsSegment s

/-- A kind that can be made: read from a dotted form, given by names, or below another one. -/
inductive Made : Kind → Prop
  | ofDotted (s : String) : Made (ofDotted s)
  | ofSegments (names : List String) : Made (ofSegments names)
  | child {k : Kind} (name : String) (made : Made k) : Made (k.child name)

/-- The first segment stands for something else when a dotted form is read. -/
def Reserved (k : Kind) : Prop :=
  k.path.head? = some "Token" ∨ k.path.head? = some "String" ∨ k.path.head? = some "Number"

instance (k : Kind) : Decidable k.Reserved := inferInstanceAs (Decidable (_ ∨ _))

theorem not_mem_of_mem_splitOn {c : Char} {t part : List Char} (h : part ∈ t.splitOn c) :
    c ∉ part := by
  induction t generalizing part with
  | nil =>
    rw [List.splitOn_nil, List.mem_singleton] at h
    subst h
    exact List.not_mem_nil
  | cons x t ih =>
    rw [List.splitOn_cons_eq_if_modifyHead] at h
    split at h
    next =>
      rcases List.mem_cons.1 h with rfl | h
      · exact List.not_mem_nil
      · exact ih h
    next hne =>
      cases hparts : t.splitOn c with
      | nil => exact absurd hparts (List.splitOn_ne_nil c t)
      | cons first parts =>
        rw [hparts, List.modifyHead_cons, List.mem_cons] at h
        rcases h with rfl | h
        · have hfirst : c ∉ first := ih (by rw [hparts]; exact List.mem_cons_self)
          rw [List.mem_cons, not_or]
          exact ⟨fun heq => hne (by simp [heq]), hfirst⟩
        · exact ih (by rw [hparts]; exact List.mem_cons_of_mem _ h)

theorem isSegment_of_mem_segments {s part : String} (h : part ∈ segments s) : IsSegment part := by
  obtain ⟨l, hl, rfl⟩ := List.mem_map.1 h
  obtain ⟨hmem, hne⟩ := List.mem_filter.1 hl
  refine ⟨fun heq => ?_, ?_⟩
  · have : l = [] := by simpa using congrArg String.toList heq
    simp [this] at hne
  · rw [String.toList_ofList]
    exact not_mem_of_mem_splitOn hmem

theorem segments_dotted {k : Kind} (h : k.Proper) : segments k.dotted = k.path := by
  rw [segments, dotted, String.toList_intercalate]
  by_cases hnil : k.path = []
  · rw [hnil]
    rfl
  · have hdots : ∀ l ∈ k.path.map String.toList, '.' ∉ l := by
      intro l hl
      obtain ⟨s, hs, rfl⟩ := List.mem_map.1 hl
      exact (h s hs).2
    have hfull : ∀ l ∈ k.path.map String.toList, (!l.isEmpty) = true := by
      intro l hl
      obtain ⟨s, hs, rfl⟩ := List.mem_map.1 hl
      simpa using (h s hs).1
    change (((['.'].intercalate (k.path.map String.toList)).splitOn '.').filter _).map _ = _
    rw [List.splitOn_intercalate '.' hdots (by simpa using hnil), List.filter_eq_self.2 hfull,
      List.map_map]
    simp

theorem mem_of_mem_dropTokenName {path : List String} {s : String} (h : s ∈ dropTokenName path) :
    s ∈ path := by
  rw [dropTokenName.eq_def] at h
  split at h
  next rest => exact List.mem_cons_of_mem _ h
  next => exact h

theorem mem_of_mem_underLiteral {path : List String} {s : String} (h : s ∈ underLiteral path) :
    s = "Literal" ∨ s ∈ path := by
  rw [underLiteral.eq_def] at h
  split at h
  next rest => exact List.mem_cons.1 h
  next rest => exact List.mem_cons.1 h
  next => exact .inr h

theorem proper_ofDotted (s : String) : (ofDotted s).Proper := by
  intro part hpart
  rcases mem_of_mem_underLiteral hpart with rfl | hpart
  · decide
  · exact isSegment_of_mem_segments (mem_of_mem_dropTokenName hpart)

theorem Made.proper {k : Kind} (h : k.Made) : k.Proper := by
  induction h with
  | ofDotted s => exact proper_ofDotted s
  | ofSegments names =>
    intro part hpart
    obtain ⟨name, _, hmem⟩ := List.mem_flatMap.1 hpart
    exact isSegment_of_mem_segments hmem
  | child name _ ih =>
    intro part hpart
    rcases List.mem_append.1 hpart with hpart | hpart
    · exact ih part hpart
    · exact isSegment_of_mem_segments hpart

theorem ofDotted_dotted {k : Kind} (h : k.Proper) :
    ofDotted k.dotted = ⟨underLiteral (dropTokenName k.path)⟩ := by
  rw [ofDotted, segments_dotted h]

theorem underLiteral_of_head {path : List String}
    (h : path.head? ≠ some "String" ∧ path.head? ≠ some "Number") : underLiteral path = path := by
  rw [underLiteral.eq_def]
  split
  next rest => exact absurd rfl h.1
  next rest => exact absurd rfl h.2
  next => rfl

theorem underLiteral_dropTokenName {k : Kind} (h : ¬ k.Reserved) :
    underLiteral (dropTokenName k.path) = k.path := by
  obtain ⟨path⟩ := k
  have hdrop : dropTokenName path = path := by
    rw [dropTokenName.eq_def]
    split
    next rest => exact absurd (.inl rfl) h
    next => rfl
  rw [hdrop]
  exact underLiteral_of_head
    ⟨fun hhead => h (.inr (.inl hhead)), fun hhead => h (.inr (.inr hhead))⟩

theorem not_reserved_underLiteral (path : List String) :
    (underLiteral path).head? ≠ some "String" ∧ (underLiteral path).head? ≠ some "Number" := by
  rw [underLiteral.eq_def]
  split
  next rest => exact ⟨by simp, by simp⟩
  next rest => exact ⟨by simp, by simp⟩
  next hstring hnumber =>
    refine ⟨fun h => ?_, fun h => ?_⟩
    · obtain ⟨rest, heq⟩ := List.head?_eq_some_iff.1 h
      exact hstring rest heq
    · obtain ⟨rest, heq⟩ := List.head?_eq_some_iff.1 h
      exact hnumber rest heq

theorem underLiteral_dropTokenName_ne (rest : List String) :
    underLiteral (dropTokenName ("Token" :: rest)) ≠ "Token" :: rest := by
  change underLiteral rest ≠ "Token" :: rest
  rw [underLiteral.eq_def]
  split
  next => simp
  next => simp
  next => exact fun h => absurd (congrArg List.length h) (by simp)

/-- A proper kind is read back from its dotted form unless its first segment is one of the three
that stand for something else there. -/
theorem ofDotted_dotted_eq_iff {k : Kind} (h : k.Proper) :
    ofDotted k.dotted = k ↔ ¬ k.Reserved := by
  rw [ofDotted_dotted h]
  constructor
  · intro heq
    have hpath : underLiteral (dropTokenName k.path) = k.path := congrArg Kind.path heq
    have hnot := not_reserved_underLiteral (dropTokenName k.path)
    rw [hpath] at hnot
    rintro (htoken | hstring | hnumber)
    · obtain ⟨rest, hcons⟩ := List.head?_eq_some_iff.1 htoken
      rw [hcons] at hpath
      exact underLiteral_dropTokenName_ne rest hpath
    · exact hnot.1 hstring
    · exact hnot.2 hnumber
  · intro hfree
    rw [underLiteral_dropTokenName hfree]

theorem segments_display {k : Kind} (h : k.Proper) : segments k.display = "Token" :: k.path := by
  have hproper : Proper ⟨"Token" :: k.path⟩ := by
    intro part hpart
    rcases List.mem_cons.1 hpart with rfl | hpart
    · decide
    · exact h part hpart
  exact segments_dotted hproper

theorem ofDotted_display_eq_iff {k : Kind} (h : k.Proper) :
    ofDotted k.display = k ↔ k.path.head? ≠ some "String" ∧ k.path.head? ≠ some "Number" := by
  have hread : ofDotted k.display = ⟨underLiteral k.path⟩ := by
    rw [ofDotted, segments_display h]
    rfl
  rw [hread]
  constructor
  · intro heq
    have hpath : underLiteral k.path = k.path := congrArg Kind.path heq
    rw [← hpath]
    exact not_reserved_underLiteral k.path
  · intro hhead
    rw [underLiteral_of_head hhead]

/-- What was read is in a normal form, in which it is read back from what is displayed. -/
theorem ofDotted_display (s : String) :
    (∀ part ∈ (ofDotted s).path, part ≠ "" ∧ '.' ∉ part.toList) ∧
      (ofDotted s).path.head? ≠ some "String" ∧ (ofDotted s).path.head? ≠ some "Number" ∧
      ofDotted (ofDotted s).display = ofDotted s ∧
      ∀ s' : String, ofDotted s = ofDotted s' ↔ (ofDotted s).display = (ofDotted s').display := by
  have hback : ∀ s, ofDotted (ofDotted s).display = ofDotted s := fun s =>
    (ofDotted_display_eq_iff (proper_ofDotted s)).2 (not_reserved_underLiteral _)
  obtain ⟨hstring, hnumber⟩ := not_reserved_underLiteral (dropTokenName (segments s))
  refine ⟨proper_ofDotted s, hstring, hnumber, hback s, fun s' => ⟨fun h => by rw [h], fun h => ?_⟩⟩
  rw [← hback s, h, hback s']

example : (ofDotted "..Token.Token.String").display = "Token.Token.String" ∧
    (ofDotted "String..Token").display = "Token.Literal.String.Token" := by decide +kernel

end Lexing.Kind
