import Lexing.Proofs.Catalogue.Lookup
import Lexing.Proofs.Catalogue.Select
import Lexing.Wire.Respond

/-!
# When a short name leads back

The short name of an entry is one of its keys, so asking for it finds some entry. It need not be the
same one: a key that several entries go by leads to the one that prevails, which is the last that
has the key for its name, or else the first that is called by it.
-/
set_option autoImplicit false

namespace Lexing

namespace LexerInfo

/-- The key, which is in lower case, is the name, an alias or a bare extension when case does not
count. -/
def GoesBy (i : LexerInfo) (key : String) : Prop :=
  lowercaseString i.name = key ∨ i.IsCalled key

theorem goesBy_shortName (i : LexerInfo) : i.GoesBy (lowercaseString i.shortName) := by
  cases h : i.aliases with
  | nil => exact .inl (by rw [shortName, h]; rfl)
  | cons a as =>
    refine .inr (.inl ⟨a, ?_, ?_⟩)
    · rw [h]
      exact List.mem_cons_self
    · rw [shortName, h]
      rfl

end LexerInfo

/-- Of the entries that go by the key, the one between `before` and `after` has the best right to
it: no later one has it for a name, and no earlier one goes by it unless it is the entry's own
name. -/
def Prevails (before : List CatalogueEntry) (e : CatalogueEntry) (after : List CatalogueEntry)
    (key : String) : Prop :=
  (∀ e' ∈ after, lowercaseString e'.info.name ≠ key) ∧
    (lowercaseString e.info.name = key ∨ ∀ e' ∈ before, ¬ e'.info.GoesBy key)

variable {es : List CatalogueEntry} {e : CatalogueEntry} {key : String}

theorem lastNamed?_eq_find? (es : List CatalogueEntry) (key : String) :
    lastNamed? es key = es.reverse.find? fun e => lowercaseString e.info.name = key := by
  rw [lastNamed?, List.getLast?_filter]

theorem lastNamed?_eq_none_iff :
    lastNamed? es key = none ↔ ∀ e ∈ es, lowercaseString e.info.name ≠ key := by
  simp [lastNamed?_eq_find?]

theorem lastNamed?_eq_some_iff :
    lastNamed? es key = some e ↔ lowercaseString e.info.name = key ∧
      ∃ before after, es = before ++ e :: after ∧
        ∀ e' ∈ after, lowercaseString e'.info.name ≠ key := by
  rw [lastNamed?_eq_find?, List.find?_eq_some_iff_append, decide_eq_true_eq]
  refine and_congr_right fun _ => ⟨?_, ?_⟩
  · rintro ⟨after, before, heq, hafter⟩
    refine ⟨before.reverse, after.reverse, ?_, fun e' he' => ?_⟩
    · rw [← List.reverse_reverse es, heq]
      simp
    · simpa using hafter e' (List.mem_reverse.1 he')
  · rintro ⟨before, after, rfl, hafter⟩
    refine ⟨after.reverse, before.reverse, by simp, fun e' he' => ?_⟩
    simpa using hafter e' (List.mem_reverse.1 he')

theorem firstCalled?_eq_some_iff :
    firstCalled? es key = some e ↔ e.info.IsCalled key ∧
      ∃ before after, es = before ++ e :: after ∧ ∀ e' ∈ before, ¬ e'.info.IsCalled key := by
  rw [firstCalled?, List.find?_eq_some_iff_append, decide_eq_true_eq]
  simp

theorem Catalogue.Indexed.find?_eq_some_iff {c : Catalogue} (h : c.Indexed) {key : String} :
    c.find? key = some e ↔ e.info.GoesBy (lowercaseString key) ∧
      ∃ before after, c.entries = before ++ e :: after ∧
        Prevails before e after (lowercaseString key) := by
  rw [h.find?_eq, Option.or_eq_some_iff, lastNamed?_eq_some_iff, lastNamed?_eq_none_iff,
    firstCalled?_eq_some_iff]
  constructor
  · rintro (⟨hname, before, after, heq, hafter⟩ | ⟨hnone, hcalled, before, after, heq, hbefore⟩)
    · exact ⟨.inl hname, before, after, heq, hafter, .inl hname⟩
    · rw [heq] at hnone
      refine ⟨.inr hcalled, before, after, heq, fun e' he' => ?_, .inr fun e' he' hgoes => ?_⟩
      · exact hnone e' (List.mem_append_right _ (List.mem_cons_of_mem _ he'))
      · exact hgoes.elim (hnone e' (List.mem_append_left _ he')) (hbefore e' he')
  · rintro ⟨hgoes, before, after, heq, hafter, hbefore⟩
    by_cases hname : lowercaseString e.info.name = lowercaseString key
    · exact .inl ⟨hname, before, after, heq, hafter⟩
    · have hbefore := hbefore.resolve_left hname
      refine .inr ⟨fun e' he' => ?_, hgoes.resolve_left hname, before, after, heq,
        fun e' he' hcalled => hbefore e' he' (.inr hcalled)⟩
      rw [heq, List.mem_append, List.mem_cons] at he'
      rcases he' with he' | rfl | he'
      · exact fun h => hbefore e' he' (.inl h)
      · exact hname
      · exact hafter e' he'

namespace Catalogue

theorem Indexed.exists_find? {c : Catalogue} (h : c.Indexed) {key : String} (he : e ∈ c.entries)
    (hgoes : e.info.GoesBy (lowercaseString key)) : ∃ e', c.find? key = some e' := by
  rw [← Option.isSome_iff_exists, ← Option.ne_none_iff_isSome, h.find?_eq, Ne,
    Option.or_eq_none_iff, lastNamed?_eq_none_iff, firstCalled?, List.find?_eq_none]
  rintro ⟨hnamed, hcalled⟩
  exact hgoes.elim (hnamed e he) fun hcall => hcalled e he (decide_eq_true hcall)

theorem select_lexer_eq_ok_iff {c : Catalogue} {name : String} :
    c.select { lexer := some name } = .ok e ↔ c.find? name = some e := by
  rw [select_eq_ok_iff]
  constructor
  · rintro ⟨found⟩
    exact found
  · exact .name

/-- The short name of what a query selects always leads to an entry that goes by it. That is the
selected entry itself exactly if it prevails, and so it is if no other entry goes by that name. -/
theorem shortName_leads_back_iff {es : List CatalogueEntry} {q : LexerQuery} {e : CatalogueEntry}
    (found : (empty.registerAll es).select q = .ok e) :
    let c := empty.registerAll es
    let key := lowercaseString e.info.shortName
    let again := c.select { lexer := some e.info.shortName }
    c.handle (.lexerNameFor q) = .ok (.lexerName e.info.shortName) ∧
      (∃ e' ∈ es, again = .ok e' ∧ e'.info.GoesBy key) ∧
      (again = .ok e ↔ ∃ before after, es = before ++ e :: after ∧ Prevails before e after key) ∧
      ((∀ e' ∈ es, e'.info.GoesBy key → e' = e) → again = .ok e) := by
  intro c key again
  have indexed : c.Indexed := indexed_empty.registerAll es
  have entries : c.entries = es := entries_registerAll empty es
  have own : e.info.GoesBy key := e.info.goesBy_shortName
  obtain ⟨e', hagain⟩ := indexed.exists_find? (select_eq_ok_iff.1 found).mem own
  obtain ⟨hgoes, before, after, heq, _⟩ := indexed.find?_eq_some_iff.1 hagain
  have hmem : e' ∈ es := by
    rw [← entries, heq]
    exact List.mem_append_right _ List.mem_cons_self
  have hselect : again = .ok e' := select_lexer_eq_ok_iff.2 hagain
  refine ⟨?_, ⟨e', hmem, hselect, hgoes⟩, ?_, fun only => ?_⟩
  · change (do return Response.lexerName (← (c.select q).mapError _).info.shortName) = _
    rw [found]
    rfl
  · rw [select_lexer_eq_ok_iff, indexed.find?_eq_some_iff, entries]
    exact and_iff_right own
  · rw [hselect, only e' hmem hgoes]

def oneToken (name : String) : Lexer := ⟨name, fun t => if t = [] then [] else [⟨0, .text, t⟩]⟩

def sourceEntry : CatalogueEntry := ⟨⟨"Source", ["c"], ["*.[ch]"], []⟩, oneToken "source"⟩

/-- Its extension is the later one of two, and its alias is called for by the earlier one. -/
def headerEntry : CatalogueEntry := ⟨⟨"Header", ["h"], ["*.h"], []⟩, oneToken "header"⟩

theorem select_filename_of_extension {es : List CatalogueEntry} {path : String}
    (unknown : (es.filter fun e =>
      String.ofList (FileName.baseName path.toList) ∈ e.info.literalNames).getLast? = none)
    (ext : ((FileName.extension? path.toList).bind fun ext =>
      (es.filter fun e => String.ofList ext ∈ e.info.extensions).getLast?) = some e) :
    (empty.registerAll es).select { filename := some path } = .ok e := by
  refine select_eq_ok_iff.2 (.filename ?_)
  have entries : (empty.registerAll es).entries = es := entries_registerAll empty es
  rw [(indexed_empty.registerAll es).byFilename?_eq, entries, unknown, ext, Option.none_or]

theorem shortName_leads_back_source :
    let c := empty.registerAll [sourceEntry, headerEntry]
    c.select { filename := some "main.c" } = .ok sourceEntry ∧
      c.select { lexer := some sourceEntry.info.shortName } = .ok sourceEntry := by
  intro c
  have found : c.select { filename := some "main.c" } = .ok sourceEntry :=
    select_filename_of_extension rfl rfl
  refine ⟨found, (shortName_leads_back_iff found).2.2.1.2 ⟨[], [headerEntry], rfl, ?_, .inr ?_⟩⟩
  · decide +kernel
  · intro e' he'
    cases he'

/-- The name that is given for a header finds the lexer for sources. -/
theorem header_leads_away :
    let c := empty.registerAll [sourceEntry, headerEntry]
    c.select { filename := some "main.h" } = .ok headerEntry ∧
      c.select { lexer := some headerEntry.info.shortName } ≠ .ok headerEntry := by
  intro c
  have other : c.find? "h" = some sourceEntry := (indexed_empty.registerAll _).find?_eq "h"
  refine ⟨select_filename_of_extension rfl rfl, fun h => ?_⟩
  have same := Option.some.inj (other.symm.trans (select_lexer_eq_ok_iff.1 h))
  exact absurd (congrArg (fun e => e.info.name) same) (by decide)

end Catalogue

end Lexing
