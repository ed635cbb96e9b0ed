import Lexing.Stack

/-!
# How far stack edits reach down

Edits never look below the least depth that the stack comes to while they are made, and which depth
that is depends on the depth alone. So what they leave of a stack with as many frames as before is
what they would leave of it once more: they are made in vain the second time. A frame of the stack
that they leave was there before, or they pushed it.
-/
set_option autoImplicit false

namespace Lexing

namespace StackEdit

variable {σ : Type}

def depthAfter : StackEdit σ → Nat → Nat
  | push _, depth => depth + 1
  | pushTop, depth => depth + 1
  | pop n, depth => max (depth - n) 1

/-- The least depth of a stack of the given depth while the edits are made. -/
def lowest : List (StackEdit σ) → Nat → Nat
  | [], depth => depth
  | e :: es, depth => min depth (lowest es (e.depthAfter depth))

theorem lowest_le (es : List (StackEdit σ)) (depth : Nat) : lowest es depth ≤ depth := by
  cases es with
  | nil => exact Nat.le_refl _
  | cons e es => exact Nat.min_le_left _ _

@[simp] theorem depth_apply (e : StackEdit σ) (s : Stack σ) :
    (e.apply s).depth = e.depthAfter s.depth := by
  cases e with
  | push frame => rfl
  | pushTop => rfl
  | pop n => exact s.depth_pop n

end StackEdit

namespace Stack

variable {σ : Type}

theorem toList_popFrom (top : σ) (below : List σ) (n : Nat) :
    (popFrom top below n).toList =
      (toList ⟨top, below⟩).take (max (below.length + 1 - n) 1) := by
  induction below generalizing top n with
  | nil => simp [popFrom, toList]
  | cons next below ih =>
    cases n with
    | zero =>
      have hall : (toList ⟨top, next :: below⟩).length = below.length + 1 + 1 := by
        rw [length_toList]
        rfl
      change toList ⟨top, next :: below⟩ = _
      rw [Nat.sub_zero, List.length_cons, Nat.max_eq_left (by omega), ← hall, List.take_length]
    | succ n =>
      have hone : max (below.length + 1 + 1 - (n + 1)) 1 = max (below.length + 1 - n) 1 := by omega
      have hle : max (below.length + 1 - n) 1 ≤ (toList ⟨next, below⟩).length := by
        rw [length_toList, depth]
        change _ ≤ below.length + 1
        omega
      have hpush : toList ⟨top, next :: below⟩ = toList ⟨next, below⟩ ++ [top] :=
        toList_push ⟨next, below⟩ top
      rw [popFrom, ih, List.length_cons, hone, hpush, List.take_append_of_le_length hle]

theorem toList_pop (s : Stack σ) (n : Nat) :
    (s.pop n).toList = s.toList.take (max (s.depth - n) 1) :=
  toList_popFrom s.top s.below n

theorem toList_injective {s t : Stack σ} (h : s.toList = t.toList) : s = t :=
  Option.some.inj (by rw [← ofList?_toList s, h, ofList?_toList t])

theorem take_depth_toList (s : Stack σ) : s.toList.take s.depth = s.toList := by
  rw [← length_toList, List.take_length]

theorem take_toList_apply (e : StackEdit σ) (s : Stack σ) {k : Nat} (hk : k ≤ s.depth)
    (hk' : k ≤ e.depthAfter s.depth) : (e.apply s).toList.take k = s.toList.take k := by
  have hlen : k ≤ s.toList.length := by rwa [length_toList]
  cases e with
  | push frame =>
    change (s.push frame).toList.take k = _
    rw [toList_push, List.take_append_of_le_length hlen]
  | pushTop =>
    change (s.push s.top).toList.take k = _
    rw [toList_push, List.take_append_of_le_length hlen]
  | pop n =>
    change k ≤ max (s.depth - n) 1 at hk'
    change (s.pop n).toList.take k = _
    rw [toList_pop, List.take_take, Nat.min_eq_left hk']

theorem take_toList_applyAll (es : List (StackEdit σ)) (s : Stack σ) {k : Nat}
    (hk : k ≤ StackEdit.lowest es s.depth) : (applyAll es s).toList.take k = s.toList.take k := by
  induction es generalizing s with
  | nil => rfl
  | cons e es ih =>
    have hkd : k ≤ s.depth := Nat.le_trans hk (Nat.min_le_left _ _)
    have hkl : k ≤ StackEdit.lowest es (e.depthAfter s.depth) :=
      Nat.le_trans hk (Nat.min_le_right _ _)
    change (applyAll es (e.apply s)).toList.take k = _
    rw [ih (e.apply s) (by rwa [StackEdit.depth_apply]), take_toList_apply e s hkd]
    exact Nat.le_trans hkl (StackEdit.lowest_le _ _)

/-- What the edits leave depends on the depth and on the frames below the least depth. -/
theorem applyAll_congr (es : List (StackEdit σ)) {s t : Stack σ} (hd : s.depth = t.depth)
    (h : s.toList.take (StackEdit.lowest es s.depth) =
      t.toList.take (StackEdit.lowest es s.depth)) : applyAll es s = applyAll es t := by
  induction es generalizing s t with
  | nil =>
    change s.toList.take s.depth = t.toList.take s.depth at h
    rw [take_depth_toList, hd, take_depth_toList] at h
    exact toList_injective h
  | cons e es ih =>
    change applyAll es (e.apply s) = applyAll es (e.apply t)
    rw [StackEdit.lowest] at h
    rcases Nat.le_total (StackEdit.lowest es (e.depthAfter s.depth)) s.depth with hle | hle
    · rw [Nat.min_eq_right hle] at h
      have hlow := StackEdit.lowest_le es (e.depthAfter s.depth)
      refine ih (by rw [StackEdit.depth_apply, StackEdit.depth_apply, hd]) ?_
      rw [StackEdit.depth_apply, take_toList_apply e s hle hlow,
        take_toList_apply e t (hd ▸ hle) (hd ▸ hlow), h]
    · -- the edits never go below the frames that are there, so all of them agree
      rw [Nat.min_eq_left hle, take_depth_toList, hd, take_depth_toList] at h
      rw [toList_injective h]

/-- Edits that keep the depth of a stack change nothing the second time. -/
theorem applyAll_applyAll (es : List (StackEdit σ)) {s : Stack σ}
    (h : (applyAll es s).depth = s.depth) : applyAll es (applyAll es s) = applyAll es s := by
  refine applyAll_congr es h ?_
  rw [h]
  exact take_toList_applyAll es s (Nat.le_refl _)

theorem top_mem_toList (s : Stack σ) : s.top ∈ s.toList :=
  List.mem_append_right _ (List.mem_singleton.2 rfl)

theorem mem_of_mem_apply {e : StackEdit σ} {s : Stack σ} {frame : σ}
    (h : frame ∈ (e.apply s).toList) : frame ∈ s.toList ∨ e = .push frame := by
  cases e with
  | push f =>
    change frame ∈ (s.push f).toList at h
    rw [toList_push, List.mem_append, List.mem_singleton] at h
    exact h.imp_right fun heq => by rw [heq]
  | pushTop =>
    change frame ∈ (s.push s.top).toList at h
    rw [toList_push, List.mem_append, List.mem_singleton] at h
    rcases h with h | rfl
    · exact .inl h
    · exact .inl s.top_mem_toList
  | pop n =>
    change frame ∈ (s.pop n).toList at h
    rw [toList_pop] at h
    exact .inl (List.mem_of_mem_take h)

theorem mem_of_mem_applyAll {es : List (StackEdit σ)} {s : Stack σ} {frame : σ}
    (h : frame ∈ (s.applyAll es).toList) : frame ∈ s.toList ∨ .push frame ∈ es := by
  induction es generalizing s with
  | nil => exact .inl h
  | cons e es ih =>
    rcases ih h with h | h
    · rcases mem_of_mem_apply h with h | rfl
      · exact .inl h
      · exact .inr List.mem_cons_self
    · exact .inr (List.mem_cons_of_mem _ h)

end Stack

end Lexing
