import Lexing.Catalogue.Basic

/-!
# What a query selects

Of the keys of a query the first that is given decides, and no other is asked. `Finds` and `Misses`
say so key by key; one of them holds of every query, and what is found is an entry of the catalogue.
-/
set_option autoImplicit false

namespace Lexing.Catalogue

inductive Finds (c : Catalogue) : LexerQuery → CatalogueEntry → Prop
  | name {name : String} {mimetype filename : Option String} {e : CatalogueEntry}
      (found : c.find? name = some e) : Finds c ⟨some name, mimetype, filename⟩ e
  | mimetype {mimetype : String} {filename : Option String} {e : CatalogueEntry}
      (found : c.byMimetype? mimetype = some e) : Finds c ⟨none, some mimetype, filename⟩ e
  | filename {filename : String} {e : CatalogueEntry}
      (found : c.byFilename? filename = some e) : Finds c ⟨none, none, some filename⟩ e

/-- The first key of the query leads to no entry, or the query has no key. -/
inductive Misses (c : Catalogue) : LexerQuery → SelectionError → Prop
  | name {name : String} {mimetype filename : Option String} (missing : c.find? name = none) :
      Misses c ⟨some name, mimetype, filename⟩ (.name name)
  | mimetype {mimetype : String} {filename : Option String}
      (missing : c.byMimetype? mimetype = none) :
      Misses c ⟨none, some mimetype, filename⟩ (.mimetype mimetype)
  | filename {filename : String} (missing : c.byFilename? filename = none) :
      Misses c ⟨none, none, some filename⟩ (.filename filename)
  | nothing : Misses c ⟨none, none, none⟩ .emptyQuery

variable {c : Catalogue} {q : LexerQuery} {e : CatalogueEntry} {err : SelectionError}

theorem Finds.select_eq (h : c.Finds q e) : c.select q = .ok e := by
  cases h with
  | name found => rw [select, found]; rfl
  | mimetype found => rw [select, found]; rfl
  | filename found => rw [select, found]; rfl

theorem Misses.select_eq (h : c.Misses q err) : c.select q = .error err := by
  cases h with
  | name missing => rw [select, missing]; rfl
  | mimetype missing => rw [select, missing]; rfl
  | filename missing => rw [select, missing]; rfl
  | nothing => rfl

theorem finds_or_misses (c : Catalogue) (q : LexerQuery) :
    (∃ e, c.Finds q e) ∨ ∃ err, c.Misses q err := by
  obtain ⟨lexer, mimetype, filename⟩ := q
  cases lexer with
  | some name =>
    cases h : c.find? name with
    | some e => exact .inl ⟨e, .name h⟩
    | none => exact .inr ⟨_, .name h⟩
  | none =>
    cases mimetype with
    | some mimetype =>
      cases h : c.byMimetype? mimetype with
      | some e => exact .inl ⟨e, .mimetype h⟩
      | none => exact .inr ⟨_, .mimetype h⟩
    | none =>
      cases filename with
      | some filename =>
        cases h : c.byFilename? filename with
        | some e => exact .inl ⟨e, .filename h⟩
        | none => exact .inr ⟨_, .filename h⟩
      | none => exact .inr ⟨_, .nothing⟩

theorem select_eq_ok_iff : c.select q = .ok e ↔ c.Finds q e := by
  refine ⟨fun h => ?_, Finds.select_eq⟩
  rcases c.finds_or_misses q with ⟨e', hfinds⟩ | ⟨err, hmisses⟩
  · rw [hfinds.select_eq] at h
    exact Except.ok.inj h ▸ hfinds
  · rw [hmisses.select_eq] at h
    cases h

theorem mem_of_lookup {t : KeyTable} {key : String} (h : c.lookup t key = some e) :
    e ∈ c.entries := by
  obtain ⟨slot, _, he⟩ := Option.bind_eq_some_iff.1 h
  exact List.mem_of_getElem? he

theorem mem_of_byFilename {path : String} (h : c.byFilename? path = some e) : e ∈ c.entries := by
  rw [byFilename?] at h
  split at h
  next e' hname =>
    obtain rfl := Option.some.inj h
    exact mem_of_lookup hname
  next =>
    obtain ⟨ext, _, hext⟩ := Option.bind_eq_some_iff.1 h
    exact mem_of_lookup hext

theorem Finds.mem (h : c.Finds q e) : e ∈ c.entries := by
  cases h with
  | name found => exact mem_of_lookup found
  | mimetype found => exact mem_of_lookup found
  | filename found => exact mem_of_byFilename found

end Lexing.Catalogue
