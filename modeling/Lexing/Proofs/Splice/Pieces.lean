import Lexing.Proofs.Splice.Cuts

/-!
# Tokens cut at borders

What all runs together take of the tokens of the marked text are these tokens, one after the other,
each cut at the borders of runs that fall inside it. The pieces of a token are of its kind and tile
its place, so that nothing but the cuts is new.
-/
set_option autoImplicit false

namespace Lexing

variable {host : Text} {p q : Nat} {t u : Token} {ts : List Token} {bs : List Nat}

/-- The token cut at those of the offsets that fall inside it. -/
def Token.cutAt : List Nat → Token → List Token
  | [], t => [t]
  | b :: bs, t =>
    if t.offset < b ∧ b < t.stop then
      ⟨t.offset, t.kind, t.text.slice ⟨0, b - t.offset⟩⟩ ::
        cutAt bs ⟨b, t.kind, t.text.slice ⟨b - t.offset, t.text.size⟩⟩
    else cutAt bs t

theorem Token.kind_of_mem_cutAt (h : u ∈ t.cutAt bs) : u.kind = t.kind := by
  induction bs generalizing t with
  | nil =>
    obtain rfl := List.mem_singleton.1 h
    rfl
  | cons b bs ih =>
    rw [cutAt] at h
    split at h
    · rcases List.mem_cons.1 h with rfl | h
      · rfl
      · have hkind := ih h
        exact hkind
    · exact ih h

theorem Token.cutAt_eq_self (h : ∀ b ∈ bs, t.stop ≤ b) : t.cutAt bs = [t] := by
  induction bs with
  | nil => rfl
  | cons b bs ih =>
    have hthis := h b List.mem_cons_self
    rw [cutAt, if_neg (by omega), ih fun c hc => h c (List.mem_cons_of_mem _ hc)]

theorem Token.isPart_slice {a b : Nat} (k : Kind) (ha : host.Boundary a) (hb : host.Boundary b)
    (hab : a < b) : Token.IsPart ⟨a, k, host.slice ⟨a, b⟩⟩ host ∧
      Token.stop ⟨a, k, host.slice ⟨a, b⟩⟩ = b := by
  have hsize := Text.size_slice ha hb (Nat.le_of_lt hab)
  have hstop : Token.stop ⟨a, k, host.slice ⟨a, b⟩⟩ = b := by
    simp only [Token.stop, hsize]
    omega
  refine ⟨⟨ha, ?_, fun hnil => ?_, ?_⟩, hstop⟩
  · rw [hstop]
    exact hb
  · rw [Text.slice_eq_nil ha hb (Nat.le_of_lt hab)] at hnil
    omega
  · rw [hstop]

/-- What an offset inside a token makes of it: two pieces, the second of which is a part as well. -/
structure Token.Halves (host : Text) (b : Nat) (t : Token) : Prop where
  size : t.offset + (t.text.slice ⟨0, b - t.offset⟩).size = b
  joined : t.text.slice ⟨0, b - t.offset⟩ ++ t.text.slice ⟨b - t.offset, t.text.size⟩ = t.text
  part : Token.IsPart ⟨b, t.kind, t.text.slice ⟨b - t.offset, t.text.size⟩⟩ host
  stop : Token.stop ⟨b, t.kind, t.text.slice ⟨b - t.offset, t.text.size⟩⟩ = t.stop

theorem Token.IsPart.halves {b : Nat} (h : t.IsPart host) (hb : host.Boundary b)
    (hlt : t.offset < b) (hgt : b < t.stop) : t.Halves host b := by
  have hfirst := h.slice_text h.start hb (Nat.le_refl _) (Nat.le_of_lt hlt) (Nat.le_of_lt hgt)
  have hlast := h.slice_text hb h.stop (Nat.le_of_lt hlt) (Nat.le_of_lt hgt) (Nat.le_refl _)
  have hsize : t.stop - t.offset = t.text.size := Nat.add_sub_cancel_left _ _
  rw [Nat.sub_self] at hfirst
  rw [hsize] at hlast
  obtain ⟨hpart, hstop⟩ := Token.isPart_slice t.kind hb h.stop hgt
  rw [← hlast] at hpart hstop
  refine ⟨?_, ?_, hpart, hstop⟩
  · rw [hfirst, Text.size_slice h.start hb (Nat.le_of_lt hlt)]
    omega
  · rw [hfirst, hlast, Text.slice_append_slice h.start hb h.stop (Nat.le_of_lt hlt)
      (Nat.le_of_lt hgt)]
    exact h.eq_slice.symm

theorem Token.IsPart.tiles_cutAt (h : t.IsPart host) (hbs : ∀ b ∈ bs, host.Boundary b) :
    Tiles t.offset t.text (t.cutAt bs) := by
  induction bs generalizing t with
  | nil => exact tiles_single t.kind h.ne_nil
  | cons b bs ih =>
    have hrest : ∀ c ∈ bs, host.Boundary c := fun c hc => hbs c (List.mem_cons_of_mem _ hc)
    rw [cutAt]
    split
    · rename_i hinside
      have halves := h.halves (hbs b List.mem_cons_self) hinside.1 hinside.2
      have hne : t.text.slice ⟨0, b - t.offset⟩ ≠ [] := fun hnil => by
        have := halves.size
        rw [hnil, Text.size_nil] at this
        omega
      have hlast : Tiles (t.offset + (t.text.slice ⟨0, b - t.offset⟩).size)
          (t.text.slice ⟨b - t.offset, t.text.size⟩)
          (cutAt bs ⟨b, t.kind, t.text.slice ⟨b - t.offset, t.text.size⟩⟩) := by
        rw [halves.size]
        exact ih halves.part hrest
      have htiles := (tiles_single t.kind hne).append hlast
      rwa [halves.joined] at htiles
    · exact ih h hrest

/-- Pieces put together into one token again. -/
def rejoined? : List Token → Option Token
  | [] => none
  | t :: ts => some ⟨t.offset, t.kind, joined (t :: ts)⟩

theorem Token.IsPart.rejoined_cutAt (h : t.IsPart host) (hbs : ∀ b ∈ bs, host.Boundary b) :
    rejoined? (t.cutAt bs) = some t := by
  obtain ⟨hcontiguous, htext⟩ := h.tiles_cutAt hbs
  cases hpieces : t.cutAt bs with
  | nil =>
    rw [hpieces] at htext
    exact absurd htext.symm h.ne_nil
  | cons u us =>
    have hkind : u.kind = t.kind := Token.kind_of_mem_cutAt (hpieces ▸ List.mem_cons_self)
    rw [hpieces] at hcontiguous htext
    rw [rejoined?, hkind, hcontiguous.1, joined, htext]

/-- The offsets at which the texts end that stand one after the other from `start` on. -/
def ends (start : Nat) : List Text → List Nat
  | [] => []
  | t :: ts => (start + t.size) :: ends (start + t.size) ts

def Borders (host : Text) : Nat → List Nat → Prop
  | start, [] => host.size ≤ start
  | start, b :: bs => start ≤ b ∧ host.Boundary b ∧ Borders host b bs

theorem borders_ends (before : Text) {parts : List Text} (h : host = before ++ parts.flatten) :
    Borders host before.size (ends before.size parts) := by
  induction parts generalizing before with
  | nil =>
    rw [List.flatten_nil, List.append_nil] at h
    subst h
    exact Nat.le_refl _
  | cons t parts ih =>
    rw [List.flatten_cons, ← List.append_assoc] at h
    have hrest := ih (before ++ t) h
    rw [Text.size_append] at hrest
    exact ⟨Nat.le_add_right _ _, ⟨before ++ t, parts.flatten, h, Text.size_append _ _⟩, hrest⟩

variable {start : Nat}

theorem Borders.boundary (h : Borders host start bs) : ∀ b ∈ bs, start ≤ b ∧ host.Boundary b := by
  induction bs generalizing start with
  | nil => exact fun b hb => absurd hb List.not_mem_nil
  | cons c bs ih =>
    obtain ⟨hle, hboundary, hrest⟩ := h
    intro b hb
    rcases List.mem_cons.1 hb with rfl | hb
    · exact ⟨hle, hboundary⟩
    · exact ⟨Nat.le_trans hle (ih hrest b hb).1, (ih hrest b hb).2⟩

/-- What runs that end at the given offsets, one after the other from `start` on, take of the
tokens. -/
def cutAll (ts : List Token) (start : Nat) : List Nat → List Token
  | [] => []
  | b :: bs => cutTokens start start b ts ++ cutAll ts b bs

theorem cutAll_nil (start : Nat) (bs : List Nat) : cutAll [] start bs = [] := by
  induction bs generalizing start with
  | nil => rfl
  | cons b bs ih => exact ih b

theorem cutAll_eq_nil (hbs : Borders host start bs) (h : ∀ t ∈ ts, t.stop ≤ start) :
    cutAll ts start bs = [] := by
  induction bs generalizing start with
  | nil => rfl
  | cons b bs ih =>
    rw [cutAll, cutTokens_eq_nil fun t ht => .inl (h t ht), List.nil_append,
      ih hbs.2.2 fun t ht => Nat.le_trans (h t ht) hbs.1]

/-- A run that takes of later tokens leaves nothing of this one. -/
theorem cutAll_cons (hbs : Borders host start bs) (h : ∀ u ∈ ts, t.stop ≤ u.offset) :
    cutAll (t :: ts) start bs = cutAll [t] start bs ++ cutAll ts start bs := by
  induction bs generalizing start with
  | nil => rfl
  | cons b bs ih =>
    rw [cutAll, cutAll, cutAll, ← List.singleton_append, cutTokens_append, List.singleton_append,
      ih hbs.2.2]
    rcases Nat.le_total t.stop b with hle | hle
    · have hnone : cutAll [t] b bs = [] := cutAll_eq_nil hbs.2.2 fun u hu => by
        rwa [List.mem_singleton.1 hu]
      rw [hnone, List.nil_append, List.append_nil, List.append_assoc]
    · have hnone : cutTokens start start b ts = [] :=
        cutTokens_eq_nil fun u hu => .inr (Nat.le_trans hle (h u hu))
      rw [hnone, List.append_nil, List.nil_append, List.append_assoc]

theorem cutAll_congr (ht : t.IsPart host) (hu : u.IsPart host) (hkind : u.kind = t.kind)
    (hstop : u.stop = t.stop) (htu : t.offset ≤ u.offset) (hstart : host.Boundary start)
    (hus : u.offset ≤ start) (hbs : Borders host start bs) :
    cutAll [u] start bs = cutAll [t] start bs := by
  induction bs generalizing start with
  | nil => rfl
  | cons b bs ih =>
    obtain ⟨hle, hboundary, hrest⟩ := hbs
    have hmax : max u.offset start = max t.offset start := by omega
    rw [cutAll, cutAll, ih hboundary (Nat.le_trans hus hle) hrest, cutTokens_cons, cutTokens_cons,
      hkind, hstop, hmax]
    split
    · rename_i hlt
      have hfirst := ht.start.max hstart
      have hlast := ht.stop.min hboundary
      rw [ht.slice_text hfirst hlast (by omega) (Nat.le_of_lt hlt) (by omega),
        hu.slice_text hfirst hlast (by omega) (Nat.le_of_lt hlt) (by omega)]
    · rfl

theorem cutAll_single (h : t.IsPart host) (hstart : host.Boundary start) (hle : start ≤ t.offset)
    (hbs : Borders host start bs) : cutAll [t] start bs = t.cutAt bs := by
  induction bs generalizing start t with
  | nil =>
    have := h.stop.le_size
    have := h.lt
    have : host.size ≤ start := hbs
    omega
  | cons b bs ih =>
    obtain ⟨hsb, hboundary, hrest⟩ := hbs
    have hlt := h.lt
    rw [cutAll, Token.cutAt, cutTokens_cons, Nat.max_eq_left hle, Nat.add_sub_cancel' hle]
    rcases Nat.lt_or_ge t.offset b with hin | hbefore
    · rcases Nat.lt_or_ge b t.stop with hgoes | hends
      · -- the run takes the first half, and the later runs take the other
        have halves := h.halves hboundary hin hgoes
        have hlater : cutAll [t] b bs = _ :=
          (cutAll_congr h halves.part rfl halves.stop (Nat.le_of_lt hin) hboundary (Nat.le_refl _)
            hrest).symm
        rw [if_pos (And.intro hin hgoes), Nat.min_eq_right (Nat.le_of_lt hgoes), if_pos hin, hlater,
          ih halves.part hboundary (Nat.le_refl _) hrest, Nat.sub_self]
        rfl
      · -- the run takes the whole token
        have hsize : t.stop - t.offset = t.text.size := Nat.add_sub_cancel_left _ _
        have hlater : cutAll [t] b bs = [] := cutAll_eq_nil hrest fun u hu => by
          rwa [List.mem_singleton.1 hu]
        have hself := Token.cutAt_eq_self (t := t) fun c hc =>
          Nat.le_trans hends (hrest.boundary c hc).1
        rw [Nat.min_eq_left hends, if_pos hlt, if_neg (by omega), hlater, hself, hsize,
          Nat.sub_self, Text.slice_all]
        rfl
    · -- the token begins behind the run
      rw [if_neg (by omega), if_neg (by omega), ih h hboundary hbefore hrest]
      rfl

theorem cutAll_eq_flatMap (h : Placed host p q ts) (hstart : host.Boundary start) (hle : start ≤ p)
    (hbs : Borders host start bs) : cutAll ts start bs = ts.flatMap (Token.cutAt bs) := by
  induction ts generalizing p with
  | nil => exact cutAll_nil start bs
  | cons t ts ih =>
    obtain ⟨hp, hpart, htail⟩ := h
    have hthis := Nat.le_trans hle hp
    have hlater := Nat.le_trans hthis (Nat.le_of_lt hpart.lt)
    rw [cutAll_cons hbs fun u hu => htail.le_offset hu, cutAll_single hpart hstart hthis hbs,
      ih htail hlater, List.flatMap_cons]

end Lexing
