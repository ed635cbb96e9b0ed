import Lexing.Catalogue.Basic

/-!
# What a catalogue finds

Registering an entry changes what a key leads to in one of two ways: its keys lead to it from now
on, or only those of them that led nowhere. So a table of the first sort leads to the last entry
with a key, and one of the second sort to the first. The table that is asked without regard to case
is filled in both ways; there the last entry with the name counts, and only if there is none, the
first that goes by the key in another way. A step lemma says what one registration preserves.
-/
set_option autoImplicit false

namespace Lexing

def bareExtension (ext : String) : String := String.ofList (ext.toList.dropWhile (· == '.'))

namespace LexerInfo

/-- The key, which is in lower case, is an alias or a bare extension when case does not count. -/
def IsCalled (i : LexerInfo) (key : String) : Prop :=
  (∃ a ∈ i.aliases, lowercaseString a = key) ∨
    ∃ x ∈ i.extensions, lowercaseString (bareExtension x) = key

instance (i : LexerInfo) (key : String) : Decidable (i.IsCalled key) :=
  inferInstanceAs (Decidable (_ ∨ _))

theorem mem_looseKeys {i : LexerInfo} {key : String} : key ∈ i.looseKeys ↔ i.IsCalled key := by
  rw [looseKeys, List.mem_append, List.mem_map, List.mem_map]
  rfl

end LexerInfo

namespace KeyTable

variable {t : KeyTable} {es : List CatalogueEntry}

theorem getElem?_putAll (t : KeyTable) (keys : List String) (slot : Nat) (key : String) :
    (t.putAll keys slot)[key]? = if key ∈ keys then some slot else t[key]? := by
  induction keys generalizing t with
  | nil => rfl
  | cons k keys ih =>
    change (putAll (t.insert k slot) keys slot)[key]? = _
    rw [ih, Std.HashMap.getElem?_insert]
    by_cases hmem : key ∈ keys
    · rw [if_pos hmem, if_pos (List.mem_cons_of_mem _ hmem)]
    · rw [if_neg hmem]
      by_cases heq : k = key
      · simp [heq]
      · rw [if_neg (by simpa using heq), if_neg]
        simpa [eq_comm, hmem] using heq

theorem getElem?_insertIfNew (t : KeyTable) (k : String) (slot : Nat) (key : String) :
    (t.insertIfNew k slot)[key]? = t[key]?.or (if key = k then some slot else none) := by
  rw [Std.HashMap.getElem?_insertIfNew]
  by_cases heq : key = k
  · subst heq
    by_cases hmem : key ∈ t
    · obtain ⟨old, hold⟩ := Option.isSome_iff_exists.1 (Std.HashMap.mem_iff_isSome_getElem?.1 hmem)
      rw [if_neg fun h => h.2 hmem, hold]
      rfl
    · have hnone : t[key]? = none := by simp [hmem]
      rw [if_pos ⟨BEq.rfl, hmem⟩, hnone, if_pos rfl]
      rfl
  · rw [if_neg fun h => heq (eq_of_beq h.1).symm, if_neg heq, Option.or_none]

theorem getElem?_putNew (t : KeyTable) (keys : List String) (slot : Nat) (key : String) :
    (t.putNew keys slot)[key]? = t[key]?.or (if key ∈ keys then some slot else none) := by
  induction keys generalizing t with
  | nil =>
    change t[key]? = t[key]?.or none
    rw [Option.or_none]
  | cons k keys ih =>
    change (putNew (t.insertIfNew k slot) keys slot)[key]? = _
    rw [ih, getElem?_insertIfNew, Option.or_assoc]
    by_cases heq : key = k
    · simp [heq]
    · simp [heq]

def Bounded (t : KeyTable) (n : Nat) : Prop :=
  ∀ (key : String) (slot : Nat), t[key]? = some slot → slot < n

def target? (t : KeyTable) (es : List CatalogueEntry) (key : String) : Option CatalogueEntry :=
  t[key]?.bind fun slot => es[slot]?

theorem bounded_empty : Bounded ∅ 0 := by
  intro key slot h
  rw [Std.HashMap.getElem?_empty] at h
  cases h

theorem Bounded.putAll (h : t.Bounded es.length) (keys : List String) :
    (t.putAll keys es.length).Bounded (es.length + 1) := by
  intro key slot hslot
  rw [getElem?_putAll] at hslot
  split at hslot
  · obtain rfl := Option.some.inj hslot
    exact Nat.lt_succ_self _
  · exact Nat.lt_succ_of_lt (h key slot hslot)

theorem Bounded.putNew {n : Nat} (h : t.Bounded (n + 1)) (keys : List String) :
    (t.putNew keys n).Bounded (n + 1) := by
  intro key slot hslot
  rw [getElem?_putNew, Option.or_eq_some_iff] at hslot
  rcases hslot with hslot | ⟨_, hslot⟩
  · exact h key slot hslot
  · split at hslot
    · obtain rfl := Option.some.inj hslot
      exact Nat.lt_succ_self _
    · cases hslot

theorem Bounded.target?_append (h : t.Bounded es.length) (e : CatalogueEntry) (key : String) :
    t.target? (es ++ [e]) key = t.target? es key := by
  rw [target?, target?]
  cases hslot : t[key]? with
  | none => rfl
  | some slot => exact List.getElem?_append_left (h key slot hslot)

theorem Bounded.target?_putAll (h : t.Bounded es.length) (e : CatalogueEntry) (keys : List String)
    (key : String) : (t.putAll keys es.length).target? (es ++ [e]) key =
      if key ∈ keys then some e else t.target? es key := by
  rw [target?, getElem?_putAll]
  split
  · exact List.getElem?_concat_length
  · exact h.target?_append e key

theorem Bounded.target?_putNew (h : t.Bounded es.length) (keys : List String) (key : String)
    {n : Nat} {e : CatalogueEntry} (he : es[n]? = some e) : (t.putNew keys n).target? es key =
      (t.target? es key).or (if key ∈ keys then some e else none) := by
  rw [target?, target?, getElem?_putNew]
  cases hslot : t[key]? with
  | none =>
    rw [Option.none_or, Option.bind_none, Option.none_or]
    split
    · exact he
    · rfl
  | some slot =>
    have hlt := h key slot hslot
    simp [hlt]

theorem getLast?_filter_concat (p : CatalogueEntry → Bool) (es : List CatalogueEntry)
    (e : CatalogueEntry) :
    ((es ++ [e]).filter p).getLast? = if p e then some e else (es.filter p).getLast? := by
  rw [List.filter_append]
  by_cases h : p e
  · simp [h]
  · simp [h]

/-- Each key leads to the last of the entries that have it. -/
structure LeadsToLast (t : KeyTable) (keys : CatalogueEntry → List String)
    (es : List CatalogueEntry) : Prop where
  bounded : t.Bounded es.length
  target?_eq : ∀ key, t.target? es key = (es.filter fun e => key ∈ keys e).getLast?

theorem leadsToLast_empty (keys : CatalogueEntry → List String) : LeadsToLast ∅ keys [] :=
  ⟨bounded_empty, fun _ => by rw [target?, Std.HashMap.getElem?_empty]; rfl⟩

theorem LeadsToLast.register {keys : CatalogueEntry → List String} (h : t.LeadsToLast keys es)
    (e : CatalogueEntry) : (t.putAll (keys e) es.length).LeadsToLast keys (es ++ [e]) := by
  refine ⟨?_, fun key => ?_⟩
  · rw [List.length_append]
    exact h.bounded.putAll (keys e)
  · rw [h.bounded.target?_putAll, h.target?_eq, getLast?_filter_concat]
    simp only [decide_eq_true_eq]

end KeyTable

/-- The last entry whose name in lower case is the key. -/
def lastNamed? (es : List CatalogueEntry) (key : String) : Option CatalogueEntry :=
  (es.filter fun e => lowercaseString e.info.name = key).getLast?

/-- The first entry that the key calls by an alias or an extension. -/
def firstCalled? (es : List CatalogueEntry) (key : String) : Option CatalogueEntry :=
  es.find? fun e => e.info.IsCalled key

theorem lastNamed?_concat (es : List CatalogueEntry) (e : CatalogueEntry) (key : String) :
    lastNamed? (es ++ [e]) key =
      if lowercaseString e.info.name = key then some e else lastNamed? es key := by
  rw [lastNamed?, KeyTable.getLast?_filter_concat]
  simp only [decide_eq_true_eq]
  rfl

theorem firstCalled?_concat (es : List CatalogueEntry) (e : CatalogueEntry) (key : String) :
    firstCalled? (es ++ [e]) key =
      (firstCalled? es key).or (if e.info.IsCalled key then some e else none) := by
  rw [firstCalled?, List.find?_append, List.find?_singleton]
  simp only [decide_eq_true_eq]
  rfl

namespace KeyTable

variable {t : KeyTable} {es : List CatalogueEntry}

/-- Each key leads to the last of the entries with that name, or else to the first that is called
by it. -/
structure LeadsToBest (t : KeyTable) (es : List CatalogueEntry) : Prop where
  bounded : t.Bounded es.length
  target?_eq : ∀ key, t.target? es key = (lastNamed? es key).or (firstCalled? es key)

theorem leadsToBest_empty : LeadsToBest ∅ [] :=
  ⟨bounded_empty, fun _ => by rw [target?, Std.HashMap.getElem?_empty]; rfl⟩

/-- The name of the new entry is put in first, so it counts before the entry's other keys as well as
before all that the table held. -/
theorem LeadsToBest.register (h : t.LeadsToBest es) (e : CatalogueEntry) :
    (KeyTable.putNew (t.insert (lowercaseString e.info.name) es.length) e.info.looseKeys
      es.length).LeadsToBest (es ++ [e]) := by
  have named := h.bounded.putAll [lowercaseString e.info.name]
  refine ⟨?_, fun key => ?_⟩
  · rw [List.length_append]
    exact named.putNew _
  · have hlen : (es ++ [e]).length = es.length + 1 := List.length_append
    rw [← hlen] at named
    refine (named.target?_putNew _ key List.getElem?_concat_length).trans ?_
    rw [h.bounded.target?_putAll, h.target?_eq, lastNamed?_concat, firstCalled?_concat]
    simp only [List.mem_singleton, LexerInfo.mem_looseKeys, eq_comm]
    split
    · simp
    · rw [Option.or_assoc]

end KeyTable

namespace Catalogue

def tables (c : Catalogue) : List KeyTable :=
  [c.anyCase, c.names, c.aliases, c.extensions, c.filenames, c.mimetypes]

structure Indexed (c : Catalogue) : Prop where
  anyCase : c.anyCase.LeadsToBest c.entries
  names : c.names.LeadsToLast (fun e => [e.info.name]) c.entries
  aliases : c.aliases.LeadsToLast (fun e => e.info.aliases) c.entries
  extensions : c.extensions.LeadsToLast (fun e => e.info.extensions) c.entries
  filenames : c.filenames.LeadsToLast (fun e => e.info.literalNames) c.entries
  mimetypes : c.mimetypes.LeadsToLast (fun e => e.info.mimetypes) c.entries

variable {c : Catalogue}

theorem indexed_empty : empty.Indexed where
  anyCase := KeyTable.leadsToBest_empty
  names := KeyTable.leadsToLast_empty _
  aliases := KeyTable.leadsToLast_empty _
  extensions := KeyTable.leadsToLast_empty _
  filenames := KeyTable.leadsToLast_empty _
  mimetypes := KeyTable.leadsToLast_empty _

theorem Indexed.register (h : c.Indexed) (e : CatalogueEntry) : (c.register e).Indexed where
  anyCase := h.anyCase.register e
  names := h.names.register e
  aliases := h.aliases.register e
  extensions := h.extensions.register e
  filenames := h.filenames.register e
  mimetypes := h.mimetypes.register e

theorem Indexed.registerAll (h : c.Indexed) (es : List CatalogueEntry) :
    (c.registerAll es).Indexed := by
  induction es generalizing c with
  | nil => exact h
  | cons e es ih => exact ih (h.register e)

theorem entries_registerAll (c : Catalogue) (es : List CatalogueEntry) :
    (c.registerAll es).entries = c.entries ++ es := by
  induction es generalizing c with
  | nil => exact (List.append_nil _).symm
  | cons e es ih =>
    change ((c.register e).registerAll es).entries = _
    rw [ih, register, List.append_assoc]
    rfl

theorem Indexed.bounded (h : c.Indexed) {t : KeyTable} (ht : t ∈ c.tables) :
    t.Bounded c.entries.length := by
  simp only [tables, List.mem_cons, List.not_mem_nil, or_false] at ht
  rcases ht with rfl | rfl | rfl | rfl | rfl | rfl
  · exact h.anyCase.bounded
  · exact h.names.bounded
  · exact h.aliases.bounded
  · exact h.extensions.bounded
  · exact h.filenames.bounded
  · exact h.mimetypes.bounded

theorem Indexed.find?_eq (h : c.Indexed) (key : String) :
    c.find? key = (lastNamed? c.entries (lowercaseString key)).or
      (firstCalled? c.entries (lowercaseString key)) :=
  h.anyCase.target?_eq _

theorem Indexed.byFilename?_eq (h : c.Indexed) (path : String) :
    c.byFilename? path =
      ((c.entries.filter fun e =>
          String.ofList (FileName.baseName path.toList) ∈ e.info.literalNames).getLast?).or
        ((FileName.extension? path.toList).bind fun ext =>
          (c.entries.filter fun e => String.ofList ext ∈ e.info.extensions).getLast?) := by
  have literal (key : String) : c.lookup c.filenames key = _ := h.filenames.target?_eq key
  have extension (key : String) : c.byExtension? key = _ := h.extensions.target?_eq key
  rw [byFilename?, literal]
  simp only [extension]
  split
  next e he => rw [he, Option.some_or]
  next hnone => rw [hnone, Option.none_or]

/-- What a catalogue finds is decided by the entries in the order of their registration, whatever
keys they share. -/
theorem registerAll_lookups (es : List CatalogueEntry) (key : String) :
    let c := empty.registerAll es
    c.entries = es ∧
      c.byName? key = (es.filter fun e => e.info.name = key).getLast? ∧
      c.byAlias? key = (es.filter fun e => key ∈ e.info.aliases).getLast? ∧
      c.byMimetype? key = (es.filter fun e => key ∈ e.info.mimetypes).getLast? ∧
      c.byExtension? key = (es.filter fun e => key ∈ e.info.extensions).getLast? ∧
      c.find? key = ((es.filter fun e =>
          lowercaseString e.info.name = lowercaseString key).getLast?).or
        (es.find? fun e => e.info.IsCalled (lowercaseString key)) ∧
      ∀ t ∈ c.tables, ∀ (k : String) (slot : Nat), t[k]? = some slot → slot < c.entries.length := by
  intro c
  have indexed : c.Indexed := indexed_empty.registerAll es
  have entries : c.entries = es := entries_registerAll empty es
  refine ⟨entries, ?_, ?_, ?_, ?_, ?_, fun t ht => indexed.bounded ht⟩
  · have named : c.byName? key = _ := indexed.names.target?_eq key
    rw [named, entries]
    simp only [List.mem_singleton, eq_comm]
  · exact entries ▸ indexed.aliases.target?_eq key
  · exact entries ▸ indexed.mimetypes.target?_eq key
  · exact entries ▸ indexed.extensions.target?_eq key
  · exact entries ▸ indexed.find?_eq key

end Catalogue

end Lexing
