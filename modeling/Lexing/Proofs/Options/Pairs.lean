import Lexing.Proofs.Except
import Lexing.Proofs.Options.Values

/-!
# Options from pairs

Every pair of a known name and a value that says something sets the field of that name and leaves
the other fields alone. So the last pair with a name decides its field, and pairs with different
names can change places. The first pair that sets nothing decides the error, whatever comes after
it.
-/
set_option autoImplicit false

namespace Lexing.Options

inductive Setting
  | flag (b : Bool)
  | count (n : Nat)
deriving DecidableEq, Repr

def setting? (o : Options) : String → Option Setting
  | "stripnl" => some (.flag o.stripNewlines)
  | "stripall" => some (.flag o.stripBlanks)
  | "ensurenl" => some (.flag o.ensureNewline)
  | "tabsize" => some (.count o.tabSize)
  | _ => none

def put (o : Options) : String → Setting → Options
  | "stripnl", .flag b => { o with stripNewlines := b }
  | "stripall", .flag b => { o with stripBlanks := b }
  | "ensurenl", .flag b => { o with ensureNewline := b }
  | "tabsize", .count n => { o with tabSize := n }
  | _, _ => o

def flagNames : List String := ["stripnl", "stripall", "ensurenl"]

/-- The value is valid for the name, and this is what it sets the field to. -/
inductive Sets : String → OptionValue → Setting → Prop
  | flag {name : String} {v : OptionValue} {b : Bool} (known : name ∈ flagNames)
    (said : v.SaysFlag b) : Sets name v (.flag b)
  | count {v : OptionValue} {n : Nat} (said : v.SaysCount n) (le : n ≤ maxTabSize) :
    Sets "tabsize" v (.count n)

def Fits (p : String × OptionValue) : Prop := ∃ s, Sets p.1 p.2 s

def fault (name : String) (v : OptionValue) : OptionError :=
  if name ∈ flagNames then .notBool name v.shown
  else if name = "tabsize" then .notInt name v.shown
  else .unknown name

/-- The same pairs in another order, in which those with the same name keep theirs. -/
def Reordered (pairs pairs' : List (String × OptionValue)) : Prop :=
  ∀ name, pairs'.filter (·.1 = name) = pairs.filter (·.1 = name)

variable {o o' : Options} {name other : String} {v : OptionValue} {s : Setting} {b : Bool} {n : Nat}
  {pairs pairs' before after : List (String × OptionValue)}

theorem ext_setting? (h : ∀ name, o.setting? name = o'.setting? name) : o = o' := by
  have hlines := h "stripnl"
  have hblanks := h "stripall"
  have hensure := h "ensurenl"
  have htabs := h "tabsize"
  simp only [setting?, Option.some.injEq, Setting.flag.injEq, Setting.count.injEq] at *
  cases o
  cases o'
  simp_all

theorem mem_flagNames : name ∈ flagNames ↔ name = "stripnl" ∨ name = "stripall" ∨
    name = "ensurenl" := by
  simp only [flagNames, List.mem_cons, List.not_mem_nil, or_false]

theorem setting?_put (h : Sets name v s) (other : String) :
    (o.put name s).setting? other = if other = name then some s else o.setting? other := by
  cases h with
  | flag known said =>
    rcases mem_flagNames.1 known with rfl | rfl | rfl
    all_goals
      unfold setting?
      split <;> simp_all [put]
  | count said le =>
    unfold setting?
    split <;> simp_all [put]

theorem Sets.unique {s' : Setting} (h : Sets name v s) (h' : Sets name v s') : s = s' := by
  cases h with
  | flag known said =>
    cases h' with
    | flag _ said' =>
      rw [← OptionValue.toBool?_eq_some_iff] at said said'
      rw [Option.some.inj (said.symm.trans said')]
    | count _ _ => exact absurd known (by decide)
  | count said le =>
    cases h' with
    | flag known _ => exact absurd known (by decide)
    | count said' _ =>
      rw [← OptionValue.toNat?_eq_some_iff] at said said'
      rw [Option.some.inj (said.symm.trans said')]

theorem readBool_cases (name : String) (v : OptionValue) :
    (∃ b, v.SaysFlag b ∧ readBool name v = .ok b) ∨
      (∀ b, ¬ v.SaysFlag b) ∧ readBool name v = .error (.notBool name v.shown) := by
  unfold readBool
  cases hread : v.toBool? with
  | some b => exact .inl ⟨b, OptionValue.toBool?_eq_some_iff.1 hread, rfl⟩
  | none =>
    refine .inr ⟨fun b hsaid => ?_, rfl⟩
    rw [OptionValue.toBool?_eq_some_iff.2 hsaid] at hread
    cases hread

theorem readTabSize_cases (name : String) (v : OptionValue) :
    (∃ n, v.SaysCount n ∧ n ≤ maxTabSize ∧ readTabSize name v = .ok n) ∨
      (∀ n, v.SaysCount n → ¬ n ≤ maxTabSize) ∧
        readTabSize name v = .error (.notInt name v.shown) := by
  unfold readTabSize
  cases hread : v.toNat? with
  | some n =>
    have hsaid := OptionValue.toNat?_eq_some_iff.1 hread
    by_cases hle : n ≤ maxTabSize
    · exact .inl ⟨n, hsaid, hle, if_pos hle⟩
    · refine .inr ⟨fun m hm => ?_, if_neg hle⟩
      rw [OptionValue.toNat?_eq_some_iff.2 hm, Option.some.injEq] at hread
      rwa [hread]
  | none =>
    refine .inr ⟨fun n hsaid => ?_, rfl⟩
    rw [OptionValue.toNat?_eq_some_iff.2 hsaid] at hread
    cases hread

theorem set_flag (known : name ∈ flagNames) :
    o.set name v = readBool name v >>= fun b => .ok (o.put name (.flag b)) := by
  rcases mem_flagNames.1 known with rfl | rfl | rfl
  all_goals rfl

theorem set_unknown (hflag : name ∉ flagNames) (htabs : name ≠ "tabsize") :
    o.set name v = .error (.unknown name) := by
  unfold Options.set
  split <;> simp_all [flagNames]

theorem set_cases (o : Options) (name : String) (v : OptionValue) :
    (∃ s, Sets name v s ∧ o.set name v = .ok (o.put name s)) ∨
      ¬ Fits (name, v) ∧ o.set name v = .error (fault name v) := by
  by_cases hflag : name ∈ flagNames
  · rw [set_flag hflag, fault, if_pos hflag]
    rcases readBool_cases name v with ⟨b, said, hread⟩ | ⟨silent, hread⟩
    · exact .inl ⟨.flag b, .flag hflag said, by rw [hread]; rfl⟩
    · refine .inr ⟨?_, by rw [hread]; rfl⟩
      rintro ⟨s, hs⟩
      cases hs with
      | flag _ said => exact silent _ said
      | count _ _ => exact absurd hflag (by decide)
  · by_cases htabs : name = "tabsize"
    · subst htabs
      change (∃ s, _ ∧ readTabSize "tabsize" v >>= _ = _) ∨ _ ∧ readTabSize "tabsize" v >>= _ = _
      rcases readTabSize_cases "tabsize" v with ⟨n, said, hle, hread⟩ | ⟨silent, hread⟩
      · exact .inl ⟨.count n, .count said hle, by rw [hread]; rfl⟩
      · refine .inr ⟨?_, by rw [hread]; rfl⟩
        rintro ⟨s, hs⟩
        cases hs with
        | flag known _ => exact hflag known
        | count said hle => exact silent _ said hle
    · refine .inr ⟨?_, ?_⟩
      · rintro ⟨s, hs⟩
        change Sets name v s at hs
        cases hs with
        | flag known _ => exact hflag known
        | count _ _ => exact htabs rfl
      · rw [set_unknown hflag htabs, fault, if_neg hflag, if_neg htabs]

theorem exists_of_set (h : o.set name v = .ok o') : ∃ s, Sets name v s ∧ o.put name s = o' := by
  rcases set_cases o name v with ⟨s, hs, hset⟩ | ⟨-, hset⟩
  · exact ⟨s, hs, Except.ok.inj (hset.symm.trans h)⟩
  · cases hset.symm.trans h

theorem setting?_of_set (h : o.set name v = .ok o') :
    Sets name v s ↔ o'.setting? name = some s := by
  obtain ⟨s', hs', rfl⟩ := exists_of_set h
  rw [setting?_put hs', if_pos rfl, Option.some.injEq]
  constructor
  · intro hs
    exact hs'.unique hs
  · rintro rfl
    exact hs'

theorem setting?_of_set_ne (h : o.set name v = .ok o') (hne : name ≠ other) :
    o'.setting? other = o.setting? other := by
  obtain ⟨s, hs, rfl⟩ := exists_of_set h
  rw [setting?_put hs, if_neg hne.symm]

theorem tabSize_of_set (h : o.set name v = .ok o') (hle : o.tabSize ≤ maxTabSize) :
    o'.tabSize ≤ maxTabSize := by
  obtain ⟨s, hs, rfl⟩ := exists_of_set h
  cases hs with
  | flag known _ =>
    rcases mem_flagNames.1 known with rfl | rfl | rfl
    all_goals exact hle
  | count _ hn => exact hn

theorem setAll_append (o : Options) (before after : List (String × OptionValue)) :
    o.setAll (before ++ after) = o.setAll before >>= fun o' => o'.setAll after := by
  induction before generalizing o with
  | nil => rfl
  | cons p before ih =>
    change (o.set p.1 p.2 >>= fun o' => o'.setAll (before ++ after)) =
      (o.set p.1 p.2 >>= fun o' => o'.setAll before) >>= fun o' => o'.setAll after
    cases o.set p.1 p.2 with
    | error e => rfl
    | ok o' => exact ih o'

theorem setAll_induct {P : Options → Prop} (h : o.setAll pairs = .ok o') (start : P o)
    (step : ∀ p ∈ pairs, ∀ a b : Options, a.set p.1 p.2 = .ok b → P a → P b) : P o' := by
  induction pairs generalizing o with
  | nil =>
    cases h
    exact start
  | cons p pairs ih =>
    obtain ⟨o₁, hset, h⟩ := bind_eq_ok.1 h
    exact ih h (step p List.mem_cons_self _ _ hset start)
      fun q hq => step q (List.mem_cons_of_mem _ hq)

theorem setting?_of_setAll (h : o.setAll pairs = .ok o') (hname : ∀ p ∈ pairs, p.1 ≠ name) :
    o'.setting? name = o.setting? name :=
  setAll_induct (P := fun a => a.setting? name = o.setting? name) h rfl
    fun p hp _ _ hset ha => (setting?_of_set_ne hset (hname p hp)).trans ha

theorem setting?_of_last (h : o.setAll (before ++ (name, v) :: after) = .ok o')
    (hafter : ∀ p ∈ after, p.1 ≠ name) : Sets name v s ↔ o'.setting? name = some s := by
  rw [setAll_append] at h
  obtain ⟨o₁, -, h⟩ := bind_eq_ok.1 h
  obtain ⟨o₂, hset, h⟩ := bind_eq_ok.1 h
  rw [setting?_of_setAll h hafter]
  exact setting?_of_set hset

theorem exists_setAll (h : ∀ p ∈ pairs, Fits p) (o : Options) : ∃ o', o.setAll pairs = .ok o' := by
  induction pairs generalizing o with
  | nil => exact ⟨o, rfl⟩
  | cons p pairs ih =>
    rcases set_cases o p.1 p.2 with ⟨s, -, hset⟩ | ⟨misfit, -⟩
    · obtain ⟨o', ho'⟩ := ih (fun q hq => h q (List.mem_cons_of_mem _ hq)) (o.put p.1 s)
      exact ⟨o', bind_eq_ok.2 ⟨_, hset, ho'⟩⟩
    · exact absurd (h p List.mem_cons_self) misfit

theorem setAll_of_misfit (hbefore : ∀ p ∈ before, Fits p) (misfit : ¬ Fits (name, v)) :
    o.setAll (before ++ (name, v) :: after) = .error (fault name v) := by
  obtain ⟨o', ho'⟩ := exists_setAll hbefore o
  rw [setAll_append, bind_eq_error]
  refine .inr ⟨o', ho', bind_eq_error.2 (.inl ?_)⟩
  rcases set_cases o' name v with ⟨s, hs, -⟩ | ⟨-, hset⟩
  · exact absurd ⟨s, hs⟩ misfit
  · exact hset

theorem fits_or_misfit (pairs : List (String × OptionValue)) :
    (∀ p ∈ pairs, Fits p) ∨ ∃ before name v after, pairs = before ++ (name, v) :: after ∧
      (∀ p ∈ before, Fits p) ∧ ¬ Fits (name, v) := by
  induction pairs with
  | nil =>
    left
    intro p hp
    cases hp
  | cons p pairs ih =>
    by_cases hp : Fits p
    · rcases ih with hall | ⟨before, name, v, after, rfl, hbefore, misfit⟩
      · exact .inl (List.forall_mem_cons.2 ⟨hp, hall⟩)
      · exact .inr ⟨p :: before, name, v, after, rfl, List.forall_mem_cons.2 ⟨hp, hbefore⟩, misfit⟩
    · refine .inr ⟨[], p.1, p.2, pairs, rfl, fun q hq => ?_, hp⟩
      cases hq

theorem Reordered.mem_iff (h : Reordered pairs pairs') (p : String × OptionValue) :
    p ∈ pairs' ↔ p ∈ pairs := by
  have hmem (ps : List (String × OptionValue)) : p ∈ ps ↔ p ∈ ps.filter (·.1 = p.1) := by
    rw [List.mem_filter, decide_eq_true rfl, and_iff_left rfl]
  rw [hmem pairs', hmem pairs, h p.1]

theorem reordered_swap {p q : String × OptionValue} (hne : p.1 ≠ q.1)
    (before after : List (String × OptionValue)) :
    Reordered (before ++ p :: q :: after) (before ++ q :: p :: after) := by
  intro name
  by_cases hp : p.1 = name
  · have hq : q.1 ≠ name := fun hq => hne (hp.trans hq.symm)
    simp only [List.filter_append, List.filter_cons, hp, hq, decide_true, decide_false, if_true]
    rfl
  · simp only [List.filter_append, List.filter_cons, hp, decide_false]
    rfl

theorem setting?_filter {a a' b b' : Options} (heq : a.setting? name = b.setting? name)
    (ha : a.setAll pairs = .ok a') (hb : b.setAll (pairs.filter (·.1 = name)) = .ok b') :
    a'.setting? name = b'.setting? name := by
  induction pairs generalizing a b with
  | nil =>
    cases ha
    cases hb
    exact heq
  | cons p pairs ih =>
    obtain ⟨a₁, hset, ha⟩ := bind_eq_ok.1 ha
    by_cases hname : p.1 = name
    · simp only [List.filter_cons, hname, decide_true, if_true] at hb
      obtain ⟨b₁, hset', hb⟩ := bind_eq_ok.1 hb
      refine ih ?_ ha hb
      subst hname
      ext s
      rw [← setting?_of_set hset, setting?_of_set hset']
    · simp only [List.filter_cons, hname, decide_false] at hb
      exact ih ((setting?_of_set_ne hset hname).trans heq) ha hb

theorem setAll_of_reordered (h : o.setAll pairs = .ok o') (hfits : ∀ p ∈ pairs, Fits p)
    (same : Reordered pairs pairs') : o.setAll pairs' = .ok o' := by
  obtain ⟨o'', h''⟩ := exists_setAll (fun p hp => hfits p ((same.mem_iff p).1 hp)) o
  have heq : o'' = o' := by
    refine ext_setting? fun name => ?_
    obtain ⟨a, ha⟩ := exists_setAll
      (fun p hp => hfits p (List.mem_of_mem_filter hp) : ∀ p ∈ pairs.filter (·.1 = name), Fits p) o
    rw [setting?_filter rfl h'' ((same name).symm ▸ ha), setting?_filter rfl h ha]
  rw [← heq, h'']

/-- Pairs make options exactly when all of them fit. Then the last pair with a name decides its
field, a field that no pair names is the standard one, and only the order of pairs with one name
matters. Otherwise the error is that of the first pair that does not fit. -/
theorem ofPairs_spec (pairs : List (String × OptionValue)) :
    ((∃ o, ofPairs pairs = .ok o) ↔ ∀ p ∈ pairs, Fits p) ∧
      (∀ o, ofPairs pairs = .ok o →
        (∀ before name v after, pairs = before ++ (name, v) :: after →
          (∀ p ∈ after, p.1 ≠ name) → ∀ s, Sets name v s ↔ o.setting? name = some s) ∧
        (∀ name, (∀ p ∈ pairs, p.1 ≠ name) → o.setting? name = standard.setting? name) ∧
        o.tabSize ≤ maxTabSize ∧
        ∀ pairs', Reordered pairs pairs' → ofPairs pairs' = .ok o) ∧
      ∀ e, ofPairs pairs = .error e ↔ ∃ before name v after, pairs = before ++ (name, v) :: after ∧
        (∀ p ∈ before, Fits p) ∧ ¬ Fits (name, v) ∧ e = fault name v := by
  have hfits (o : Options) (h : ofPairs pairs = .ok o) : ∀ p ∈ pairs, Fits p := by
    rcases fits_or_misfit pairs with hall | ⟨before, name, v, after, rfl, hbefore, misfit⟩
    · exact hall
    · cases (setAll_of_misfit hbefore misfit).symm.trans h
  refine ⟨⟨?_, ?_⟩, fun o h => ⟨?_, ?_, ?_, ?_⟩, fun e => ⟨?_, ?_⟩⟩
  · rintro ⟨o, h⟩
    exact hfits o h
  · intro hall
    exact exists_setAll hall standard
  · rintro before name v after rfl hafter s
    exact setting?_of_last h hafter
  · intro name hname
    exact setting?_of_setAll h hname
  · exact setAll_induct h (by decide) fun p _ _ _ hset => tabSize_of_set hset
  · intro pairs' same
    exact setAll_of_reordered h (hfits o h) same
  · intro h
    rcases fits_or_misfit pairs with hall | ⟨before, name, v, after, rfl, hbefore, misfit⟩
    · obtain ⟨o, ho⟩ := exists_setAll hall standard
      cases ho.symm.trans h
    · have herror := (setAll_of_misfit hbefore misfit).symm.trans h
      exact ⟨before, name, v, after, rfl, hbefore, misfit, (Except.error.inj herror).symm⟩
  · rintro ⟨before, name, v, after, rfl, hbefore, misfit, rfl⟩
    exact setAll_of_misfit hbefore misfit

/-- The later size counts, in whichever place the other name stands, and a bad word is reported
although a good one comes after it. -/
theorem ofPairs_spec_overridden :
    ofPairs [("stripnl", .word "OFF"), ("tabsize", .word " +8"), ("tabsize", .int 4)] =
        .ok ⟨false, false, true, 4⟩ ∧
      ofPairs [("tabsize", .word " +8"), ("stripnl", .word "OFF"), ("tabsize", .int 4)] =
        .ok ⟨false, false, true, 4⟩ ∧
      ofPairs [("stripall", .int 1), ("stripnl", .word "maybe"), ("stripnl", .bool true)] =
        .error (.notBool "stripnl" (quotedString "maybe")) := by
  have hfirst : ofPairs [("stripnl", .word "OFF"), ("tabsize", .word " +8"), ("tabsize", .int 4)] =
      .ok ⟨false, false, true, 4⟩ := by
    rfl
  refine ⟨hfirst, ?_, ?_⟩
  · exact ((ofPairs_spec _).2.1 _ hfirst).2.2.2 _ (reordered_swap (by decide) [] _)
  · refine ((ofPairs_spec _).2.2 _).2 ⟨[("stripall", .int 1)], _, _, _, rfl, ?_, ?_, rfl⟩
    · intro p hp
      rw [List.mem_singleton.1 hp]
      exact ⟨.flag true, .flag (by decide) (.int 1)⟩
    · rintro ⟨s, hs⟩
      generalize "stripnl" = name at hs
      cases hs with
      | flag _ said => cases OptionValue.toBool?_eq_some_iff.2 said
      | count said _ => cases OptionValue.toNat?_eq_some_iff.2 said

end Lexing.Options
