import Lexing.Proofs.Catalogue.ShortName
import Mathlib.Data.List.TakeWhile

/-!
# What file name patterns stand for

A path is cut at its last separator and a name at its last dot, so what stands before the last
separator makes no difference, and neither do earlier dots. A pattern stands for its own extension,
or for one extension for each character between the first opening and the last closing bracket; what
is around the brackets is kept as it is. That gives extensions without wildcards exactly if there is
one class at most and no wildcard around it or in it.
-/
set_option autoImplicit false

namespace Lexing

namespace FileName

theorem eq_of_dropWhile {p : Char → Bool} {t rest : List Char} {c : Char}
    (h : t.dropWhile p = c :: rest) : t = t.takeWhile p ++ c :: rest ∧ p c = false := by
  have hsplit := List.takeWhile_append_dropWhile (p := p) (l := t)
  have hc := List.head?_dropWhile_not p t
  rw [h] at hsplit hc
  exact ⟨hsplit.symm, hc⟩

theorem splitLast?_eq_some_iff {p : Char → Bool} {t before after : List Char} :
    splitLast? p t = some (before, after) ↔
      ∃ c, p c = true ∧ t = before ++ c :: after ∧ ∀ d ∈ after, p d = false := by
  constructor
  · intro h
    simp only [splitLast?] at h
    split at h
    · cases h
    · rename_i c rest hdrop
      obtain ⟨heq, hc⟩ := eq_of_dropWhile hdrop
      simp only [Option.some.injEq, Prod.mk.injEq] at h
      obtain ⟨rfl, rfl⟩ := h
      refine ⟨c, by simpa using hc, ?_, fun d hd => ?_⟩
      · simpa using congrArg List.reverse heq
      · simpa using List.mem_takeWhile_imp (List.mem_reverse.1 hd)
  · rintro ⟨c, hc, rfl, hafter⟩
    have hskip : ∀ d ∈ after.reverse, (!p d) = true := fun d hd => by
      simp [hafter d (List.mem_reverse.1 hd)]
    simp only [splitLast?, List.reverse_append, List.reverse_cons, List.append_assoc]
    rw [List.dropWhile_append_of_pos hskip, List.takeWhile_append_of_pos hskip]
    simp [hc]

theorem splitLast?_eq_none_iff {p : Char → Bool} {t : List Char} :
    splitLast? p t = none ↔ ∀ c ∈ t, p c = false := by
  simp only [splitLast?]
  split
  next h => simpa [List.dropWhile_eq_nil_iff] using h
  next c rest h =>
    obtain ⟨heq, hc⟩ := eq_of_dropWhile h
    have hmem : c ∈ t := by
      rw [← List.mem_reverse, heq]
      exact List.mem_append_right _ List.mem_cons_self
    refine iff_of_false (by simp) fun hall => ?_
    simp [hall c hmem] at hc

/-- A name of a directory as it stands before a name in it, or nothing. -/
def IsDirectory (dir : List Char) : Prop := dir = [] ∨ ∃ d c, isSeparator c = true ∧ dir = d ++ [c]

theorem baseName_append {dir : List Char} (hdir : IsDirectory dir) (path : List Char) :
    baseName (dir ++ path) = baseName path := by
  rcases hdir with rfl | ⟨d, c, hc, rfl⟩
  · rfl
  · cases hpath : splitLast? isSeparator path with
    | none =>
      have hwhole : splitLast? isSeparator (d ++ [c] ++ path) = some (d, path) :=
        splitLast?_eq_some_iff.2 ⟨c, hc, by simp, splitLast?_eq_none_iff.1 hpath⟩
      rw [baseName, baseName, hpath, hwhole]
    | some parts =>
      obtain ⟨s, hs, heq, hafter⟩ := splitLast?_eq_some_iff.1 hpath
      have hwhole : splitLast? isSeparator (d ++ [c] ++ path) =
          some (d ++ [c] ++ parts.1, parts.2) :=
        splitLast?_eq_some_iff.2 ⟨s, hs, by simp [heq], hafter⟩
      rw [baseName, baseName, hpath, hwhole]

theorem baseName_of_unseparated {name : List Char} (h : ∀ c ∈ name, isSeparator c = false) :
    baseName name = name := by
  rw [baseName, splitLast?_eq_none_iff.2 h]

theorem unseparated_baseName (path : List Char) : ∀ c ∈ baseName path, isSeparator c = false := by
  rw [baseName]
  split
  next h =>
    obtain ⟨_, _, _, hafter⟩ := splitLast?_eq_some_iff.1 h
    exact hafter
  next h => exact splitLast?_eq_none_iff.1 h

theorem extension?_eq_some_iff {path ext : List Char} :
    extension? path = some ext ↔ ∃ stem rest, baseName path = stem ++ '.' :: rest ∧
      '.' ∉ rest ∧ stem ≠ [] ∧ rest ≠ [] ∧ ext = '.' :: rest := by
  rw [extension?]
  constructor
  · intro h
    split at h
    · rename_i stem rest hsplit
      obtain ⟨c, hc, heq, hafter⟩ := splitLast?_eq_some_iff.1 hsplit
      obtain rfl := eq_of_beq hc
      simp only [Bool.or_eq_true, List.isEmpty_iff] at h
      split at h
      · cases h
      · rename_i hne
        rw [not_or] at hne
        refine ⟨stem, rest, heq, fun hdot => ?_, hne.1, hne.2, (Option.some.inj h).symm⟩
        simpa using hafter '.' hdot
    · cases h
  · rintro ⟨stem, rest, heq, hdot, hstem, hrest, rfl⟩
    have hsplit : splitLast? (· == '.') (baseName path) = some (stem, rest) :=
      splitLast?_eq_some_iff.2 ⟨'.', rfl, heq, fun d hd => by
        simpa using fun h : d = '.' => hdot (h ▸ hd)⟩
    rw [hsplit]
    simp [hstem, hrest]

def Plain (t : List Char) : Prop := ∀ c ∈ t, c ∉ ['*', '?', '[', ']']

theorem plain_append {a b : List Char} : Plain (a ++ b) ↔ Plain a ∧ Plain b := by
  simp only [Plain, List.mem_append, or_imp, forall_and]

theorem plain_cons {c : Char} {t : List Char} :
    Plain (c :: t) ↔ c ∉ ['*', '?', '[', ']'] ∧ Plain t := by
  simp only [Plain, List.forall_mem_cons]

theorem plain_iff {t : List Char} : t.any ['*', '?', '[', ']'].contains = false ↔ Plain t := by
  simp [Plain]

/-- The first opening bracket, the last closing one, and what is before, between and after them. -/
structure Bracketed (ext head members tail : List Char) : Prop where
  ext_eq : ext = head ++ '[' :: (members ++ ']' :: tail)
  first : '[' ∉ head
  last : ']' ∉ tail
  nonempty : members ≠ []

theorem bracket?_eq_some_iff {ext head members tail : List Char} :
    bracket? ext = some (head, members, tail) ↔ Bracketed ext head members tail := by
  constructor
  · intro h
    simp only [bracket?] at h
    split at h
    · cases h
    · rename_i c inner hdrop
      obtain ⟨hsplit, hc⟩ := eq_of_dropWhile hdrop
      obtain rfl : c = '[' := by simpa using hc
      split at h
      · rename_i members' tail' hlast
        obtain ⟨d, hd, heq, hafter⟩ := splitLast?_eq_some_iff.1 hlast
        obtain rfl := eq_of_beq hd
        split at h
        · cases h
        · rename_i hne
          simp only [Option.some.injEq, Prod.mk.injEq] at h
          obtain ⟨rfl, rfl, rfl⟩ := h
          refine ⟨by rwa [← heq], fun hmem => ?_, fun hmem => ?_, by simpa using hne⟩
          · simpa using List.mem_takeWhile_imp hmem
          · simpa using hafter ']' hmem
      · cases h
  · rintro ⟨rfl, first, last, nonempty⟩
    have hhead : ∀ c ∈ head, (c != '[') = true := fun c hc => by
      simpa using fun h : c = '[' => first (h ▸ hc)
    have hlast : splitLast? (· == ']') (members ++ ']' :: tail) = some (members, tail) :=
      splitLast?_eq_some_iff.2 ⟨']', rfl, rfl, fun d hd => by
        simpa using fun h : d = ']' => last (h ▸ hd)⟩
    simp only [bracket?]
    rw [List.dropWhile_append_of_pos hhead, List.takeWhile_append_of_pos hhead]
    simp [hlast, nonempty]

theorem Bracketed.not_plain {ext head members tail : List Char}
    (h : Bracketed ext head members tail) : ¬ Plain ext := by
  intro hplain
  rw [h.ext_eq, plain_append, plain_cons] at hplain
  exact hplain.2.1 (by decide)

theorem mem_extensions {pattern e : List Char} :
    e ∈ extensions pattern ↔ ∃ ext, extension? pattern = some ext ∧
      (Plain ext ∧ e = ext ∨ ∃ head members tail, Bracketed ext head members tail ∧
        ∃ c ∈ members, e = head ++ c :: tail) := by
  simp only [extensions]
  cases hext : extension? pattern with
  | none => simp
  | some ext =>
    simp only [Option.some.injEq, exists_eq_left']
    cases hbracket : bracket? ext with
    | none =>
      have hnone {head members tail : List Char} : ¬ Bracketed ext head members tail := by
        rw [← bracket?_eq_some_iff, hbracket]
        exact Option.some_ne_none _ ∘ Eq.symm
      by_cases hplain : Plain ext
      · simp [plain_iff.2 hplain, hplain, hnone]
      · have hany : ext.any ['*', '?', '[', ']'].contains = true := by
          rwa [← plain_iff, Bool.not_eq_false] at hplain
        simp [hany, hplain, hnone]
    | some parts =>
      obtain ⟨head, members, tail⟩ := parts
      have hparts := bracket?_eq_some_iff.1 hbracket
      simp only [List.mem_map]
      constructor
      · rintro ⟨c, hc, rfl⟩
        exact .inr ⟨head, members, tail, hparts, c, hc, rfl⟩
      · rintro (⟨hplain, -⟩ | ⟨head', members', tail', hparts', c, hc, rfl⟩)
        · exact absurd hplain hparts.not_plain
        · rw [bracket?_eq_some_iff.2 hparts'] at hbracket
          simp only [Option.some.injEq, Prod.mk.injEq] at hbracket
          obtain ⟨rfl, rfl, rfl⟩ := hbracket
          exact ⟨c, hc, rfl⟩

theorem Bracketed.head_of_dot {rest head members tail : List Char}
    (h : Bracketed ('.' :: rest) head members tail) :
    ∃ start, head = '.' :: start ∧ rest = start ++ '[' :: (members ++ ']' :: tail) := by
  have heq := h.ext_eq
  cases head with
  | nil => cases heq
  | cons d start =>
    rw [List.cons_append, List.cons.injEq] at heq
    exact ⟨start, by rw [heq.1], heq.2⟩

theorem exists_rest_of_mem_extensions {pattern e : List Char} (h : e ∈ extensions pattern) :
    ∃ rest, e = '.' :: rest ∧ rest ≠ [] ∧ ∀ c ∈ rest, c ≠ '.' ∧ isSeparator c = false := by
  obtain ⟨ext, hext, h⟩ := mem_extensions.1 h
  obtain ⟨stem, rest, hbase, hdot, -, hne, rfl⟩ := extension?_eq_some_iff.1 hext
  have hrest : ∀ c ∈ rest, c ≠ '.' ∧ isSeparator c = false := fun c hc => by
    refine ⟨fun h => hdot (h ▸ hc), unseparated_baseName pattern c ?_⟩
    rw [hbase]
    exact List.mem_append_right _ (List.mem_cons_of_mem _ hc)
  rcases h with ⟨-, rfl⟩ | ⟨head, members, tail, hparts, c, hc, rfl⟩
  · exact ⟨rest, rfl, hne, hrest⟩
  · obtain ⟨start, rfl, rfl⟩ := hparts.head_of_dot
    refine ⟨start ++ c :: tail, rfl, by simp, fun d hd => hrest d ?_⟩
    simp only [List.mem_append, List.mem_cons] at hd ⊢
    rcases hd with hd | rfl | hd
    · exact .inl hd
    · exact .inr (.inr (.inl hc))
    · exact .inr (.inr (.inr (.inr hd)))

/-- The extension begins with a dot and has no wildcard. It is that of the pattern, or a character
of the only class in brackets stands in the place of that class. -/
structure StandsFor (pattern e : List Char) : Prop where
  dotted : e.head? = some '.'
  plain : Plain e
  origin : ∃ ext, extension? pattern = some ext ∧
    (e = ext ∨ ∃ head members tail, ext = head ++ '[' :: (members ++ ']' :: tail) ∧
      (∀ part ∈ [head, members, tail], '[' ∉ part ∧ ']' ∉ part) ∧
      ∃ c ∈ members, e = head ++ c :: tail)

theorem plain_of_standsFor {pattern ext head members tail : List Char}
    (hext : extension? pattern = some ext) (hparts : Bracketed ext head members tail)
    (h : ∀ e ∈ extensions pattern, StandsFor pattern e) : Plain (head ++ members ++ tail) := by
  have hplain (c : Char) (hc : c ∈ members) : Plain (head ++ c :: tail) :=
    (h _ (mem_extensions.2 ⟨ext, hext, .inr ⟨head, members, tail, hparts, c, hc, rfl⟩⟩)).plain
  obtain ⟨c, hc⟩ := List.exists_mem_of_ne_nil members hparts.nonempty
  have hsides := hplain c hc
  rw [plain_append, plain_cons] at hsides
  rw [plain_append, plain_append]
  refine ⟨⟨hsides.1, fun d hd => ?_⟩, hsides.2.2⟩
  have hmember := hplain d hd
  rw [plain_append, plain_cons] at hmember
  exact hmember.2.1

/-- What the extensions of a pattern are, and when they are all what the pattern stands for: if its
extension has a class in brackets, there must be no wildcard or further bracket before, in or after
that class. -/
theorem extensions_stand_iff (pattern : List Char) :
    (∀ e, e ∈ extensions pattern ↔ ∃ ext, extension? pattern = some ext ∧
      (Plain ext ∧ e = ext ∨ ∃ head members tail, Bracketed ext head members tail ∧
        ∃ c ∈ members, e = head ++ c :: tail)) ∧
    (∀ e ∈ extensions pattern, e.head? = some '.') ∧
    ((∀ e ∈ extensions pattern, StandsFor pattern e) ↔
      ∀ ext head members tail, extension? pattern = some ext →
        Bracketed ext head members tail → Plain (head ++ members ++ tail)) := by
  have dotted {e : List Char} (he : e ∈ extensions pattern) : e.head? = some '.' := by
    obtain ⟨rest, rfl, -⟩ := exists_rest_of_mem_extensions he
    rfl
  refine ⟨fun e => mem_extensions, fun e => dotted, fun h ext head members tail hext hparts =>
    plain_of_standsFor hext hparts h, fun h e he => ?_⟩
  obtain ⟨ext, hext, ⟨hplain, rfl⟩ | ⟨head, members, tail, hparts, c, hc, rfl⟩⟩ :=
    mem_extensions.1 he
  · exact ⟨dotted he, hplain, e, hext, .inl rfl⟩
  · have hplain := h ext head members tail hext hparts
    rw [plain_append, plain_append] at hplain
    have unbracketed {part : List Char} (hpart : Plain part) : '[' ∉ part ∧ ']' ∉ part :=
      ⟨fun hmem => hpart _ hmem (by decide), fun hmem => hpart _ hmem (by decide)⟩
    refine ⟨dotted he, ?_, ext, hext, .inr ⟨head, members, tail, hparts.ext_eq, ?_, c, hc, rfl⟩⟩
    · exact plain_append.2 ⟨hplain.1.1, plain_cons.2 ⟨hplain.1.2 c hc, hplain.2⟩⟩
    · simpa using ⟨unbracketed hplain.1.1, unbracketed hplain.1.2, unbracketed hplain.2⟩

theorem wildcard_kept :
    ".c*".toList ∈ extensions "*.[ch]*".toList ∧ ¬ StandsFor "*.[ch]*".toList ".c*".toList := by
  refine ⟨by decide, fun h => ?_⟩
  exact h.plain '*' (by decide) (by decide)

theorem extension?_append {dir : List Char} (hdir : IsDirectory dir) (path : List Char) :
    extension? (dir ++ path) = extension? path := by
  rw [extension?, extension?, baseName_append hdir]

theorem unseparated_of_stem {pattern stem e : List Char} (he : e ∈ extensions pattern)
    (unseparated : ∀ c ∈ stem, isSeparator c = false) :
    ∀ c ∈ stem ++ e, isSeparator c = false := by
  obtain ⟨rest, rfl, -, hrest⟩ := exists_rest_of_mem_extensions he
  intro c hc
  rw [List.mem_append, List.mem_cons] at hc
  rcases hc with hc | rfl | hc
  · exact unseparated c hc
  · decide
  · exact (hrest c hc).2

theorem extension?_of_stem {pattern stem e : List Char} (he : e ∈ extensions pattern)
    (hstem : stem ≠ []) (unseparated : ∀ c ∈ stem, isSeparator c = false) :
    extension? (stem ++ e) = some e := by
  have hbase := baseName_of_unseparated (unseparated_of_stem he unseparated)
  obtain ⟨rest, rfl, hne, hrest⟩ := exists_rest_of_mem_extensions he
  exact extension?_eq_some_iff.2 ⟨stem, rest, hbase, fun h => (hrest '.' h).1 rfl, hstem, hne, rfl⟩

end FileName

namespace Catalogue
open FileName hiding extensions

theorem byFilename?_append {dir : List Char} (hdir : IsDirectory dir) (c : Catalogue)
    (path : List Char) :
    c.byFilename? (String.ofList (dir ++ path)) = c.byFilename? (String.ofList path) := by
  simp only [byFilename?, String.toList_ofList]
  rw [baseName_append hdir, extension?_append hdir]

theorem mem_info_extensions {i : LexerInfo} {pattern : String} {e : List Char}
    (hpattern : pattern ∈ i.filenames) (he : e ∈ FileName.extensions pattern.toList) :
    String.ofList e ∈ i.extensions :=
  List.mem_flatMap.2 ⟨pattern, hpattern, List.mem_map_of_mem he⟩

/-- The directory of a file never matters, whatever the catalogue is. And whatever a registered
pattern stands for is found by the name of a file in any directory: by the whole name if that was
registered, and otherwise by the extension. -/
theorem byFilename?_of_extension :
    (∀ (c : Catalogue) (dir path : List Char), IsDirectory dir →
      c.byFilename? (String.ofList (dir ++ path)) = c.byFilename? (String.ofList path)) ∧
    ∀ es : List CatalogueEntry, ∀ entry ∈ es, ∀ pattern ∈ entry.info.filenames,
      ∀ e ∈ FileName.extensions pattern.toList, ∀ dir stem : List Char, IsDirectory dir →
        stem ≠ [] → (∀ x ∈ stem, isSeparator x = false) →
        let literal := (es.filter fun x => String.ofList (stem ++ e) ∈ x.info.literalNames).getLast?
        let extended := (es.filter fun x => String.ofList e ∈ x.info.extensions).getLast?
        extension? (stem ++ e) = some e ∧
          (empty.registerAll es).byFilename? (String.ofList (dir ++ (stem ++ e))) =
            literal.or extended ∧
          extended.isSome := by
  refine ⟨fun c dir path hdir => byFilename?_append hdir c path, ?_⟩
  intro es entry registered pattern hpattern e he dir stem hdir hstem unseparated literal extended
  have hext := extension?_of_stem he hstem unseparated
  refine ⟨hext, ?_, ?_⟩
  · have entries : (empty.registerAll es).entries = es := entries_registerAll empty es
    rw [byFilename?_append hdir, (indexed_empty.registerAll es).byFilename?_eq, entries,
      String.toList_ofList, baseName_of_unseparated (unseparated_of_stem he unseparated), hext]
    rfl
  · rw [List.getLast?_isSome]
    exact List.ne_nil_of_mem
      (List.mem_filter.2 ⟨registered, decide_eq_true (mem_info_extensions hpattern he)⟩)

def recipeEntry : CatalogueEntry := ⟨⟨"Recipe", [], ["Makefile.in"], []⟩, oneToken "recipe"⟩

def templateEntry : CatalogueEntry := ⟨⟨"Template", [], ["*.[io]n"], []⟩, oneToken "template"⟩

/-- Its pattern has no extension, so none is known where it is alone. -/
def makeEntry : CatalogueEntry := ⟨⟨"Make", [], ["Makefile"], []⟩, oneToken "make"⟩

theorem byFilename?_of_extension_makefile :
    let c := empty.registerAll [recipeEntry, templateEntry]
    let c' := empty.registerAll [makeEntry]
    IsDirectory "src\\".toList ∧ ".in".toList ∈ FileName.extensions "*.[io]n".toList ∧
      c.byFilename? "src\\Makefile.in" = some recipeEntry ∧
      c.byFilename? "src\\rules.in" = some templateEntry ∧
      c'.byFilename? "src\\Makefile" = some makeEntry ∧
      c'.byFilename? "src\\rules.in" = none := by
  intro c c'
  have he : ".in".toList ∈ FileName.extensions "*.[io]n".toList := by decide
  have registered : templateEntry ∈ [recipeEntry, templateEntry] := .tail _ (.head _)
  have hdir : IsDirectory "src\\".toList := .inr ⟨"src".toList, '\\', rfl, rfl⟩
  obtain ⟨anywhere, found⟩ := byFilename?_of_extension
  have inSources := found _ _ registered _ List.mem_cons_self _ he "src\\".toList
  have makefile := inSources "Makefile".toList hdir (by decide) (by simp [isSeparator])
  have rules := inSources "rules".toList hdir (by decide) (by simp [isSeparator])
  have indexed : c'.Indexed := indexed_empty.registerAll [makeEntry]
  have alone : c'.byFilename? "Makefile" = some makeEntry := indexed.byFilename?_eq "Makefile"
  have unknown : c'.byFilename? "rules.in" = none := indexed.byFilename?_eq "rules.in"
  exact ⟨hdir, he, makefile.2.1, rules.2.1, (anywhere c' _ "Makefile".toList hdir).trans alone,
    (anywhere c' _ "rules.in".toList hdir).trans unknown⟩

end Catalogue

end Lexing
