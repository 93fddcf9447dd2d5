import Mathlib.Data.List.Basic

/-!
# Numbered queues

Items that join a queue get increasing numbers, and a counter serves the item whose number it is.
`Numbered` is the invariant of such a queue. By `Numbered.front` the counter's item, among those
that joined, is the front of the queue; `add` and `serve` keep the invariant. A counter that was not
moved after serving an item is stuck, and `serve_stuck` accounts for that.
-/

namespace ZeroPostgres

/-- The items that have joined, of which the first `served` were served. The numbers of these are
below the counter, unless it is stuck, and the numbers of the others are not; the next item gets the
number `next`. -/
structure Numbered {α : Type} (number : α → Nat) (items : List α) (served counter next : Nat)
    (stuck : Prop) : Prop where
  counter_le : counter ≤ next
  served_le : served ≤ items.length
  sorted : items.Pairwise fun x y => number x < number y
  lt_next : ∀ x ∈ items, number x < next
  behind : ∀ x ∈ items.take served, number x < counter ∨ stuck
  ahead : ∀ x ∈ items.drop served, counter ≤ number x

namespace Numbered

variable {α : Type} {number : α → Nat} {items : List α} {x : α} {served counter next next' : Nat}
variable {stuck stuck' : Prop}

theorem empty (h : counter ≤ next) : Numbered number [] 0 counter next stuck :=
  ⟨h, Nat.le_refl 0, .nil, by simp, by simp, by simp⟩

theorem mono (h : Numbered number items served counter next stuck) (hnext : next ≤ next')
    (hstuck : stuck → stuck') : Numbered number items served counter next' stuck' :=
  ⟨Nat.le_trans h.counter_le hnext, h.served_le, h.sorted,
    fun x hx => Nat.lt_of_lt_of_le (h.lt_next x hx) hnext,
    fun x hx => (h.behind x hx).imp_right hstuck, h.ahead⟩

/-- An item joins with the next number. -/
theorem add (h : Numbered number items served counter next stuck) (hx : number x = next) :
    Numbered number (items ++ [x]) served counter (next + 1) stuck := by
  refine ⟨Nat.le_succ_of_le h.counter_le, ?_, ?_, ?_, ?_, ?_⟩
  · rw [List.length_append]
    exact Nat.le_add_right_of_le h.served_le
  · refine List.pairwise_append.mpr ⟨h.sorted, List.pairwise_singleton _ _, fun y hy z hz => ?_⟩
    rw [List.mem_singleton.mp hz, hx]
    exact h.lt_next y hy
  · intro y hy
    rcases List.mem_append.mp hy with hy | hy
    · exact Nat.lt_succ_of_lt (h.lt_next y hy)
    · rw [List.mem_singleton.mp hy, hx]
      exact Nat.lt_succ_self next
  · rw [List.take_append_of_le_length h.served_le]
    exact h.behind
  · rw [List.drop_append_of_le_length h.served_le]
    intro y hy
    rcases List.mem_append.mp hy with hy | hy
    · exact h.ahead y hy
    · rw [List.mem_singleton.mp hy, hx]
      exact h.counter_le

/-- The item whose number the counter is stands in front. -/
theorem front (h : Numbered number items served counter next stuck) (hx : x ∈ items)
    (hnumber : number x = counter) (hstuck : ¬ stuck) : (items.drop served).head? = some x := by
  rw [← List.take_append_drop served items] at hx
  rcases List.mem_append.mp hx with hx | hx
  · have hlt := (h.behind x hx).resolve_right hstuck
    omega
  · have hsorted := h.sorted.drop (i := served)
    have hahead := h.ahead
    cases hrest : items.drop served with
    | nil =>
      rw [hrest] at hx
      cases hx
    | cons y ys =>
      rw [hrest] at hx hsorted hahead
      rcases List.mem_cons.mp hx with rfl | hx
      · rfl
      · have hlt := (List.pairwise_cons.mp hsorted).1 x hx
        have hle := hahead y List.mem_cons_self
        omega

/-- The items around the front. -/
theorem split_front (hx : (items.drop served).head? = some x) :
    served < items.length ∧ items.take (served + 1) = items.take served ++ [x] ∧
      items.drop served = x :: items.drop (served + 1) := by
  rw [List.head?_drop] at hx
  obtain ⟨hlt, hget⟩ := List.getElem?_eq_some_iff.mp hx
  refine ⟨hlt, ?_, ?_⟩
  · rw [List.take_add_one, hx]
    rfl
  · rw [← hget]
    exact List.drop_eq_getElem_cons hlt

/-- The front is served and the counter moves on. -/
theorem serve (h : Numbered number items served counter next stuck)
    (hx : (items.drop served).head? = some x) (hnumber : number x = counter) :
    Numbered number items (served + 1) (counter + 1) next stuck := by
  obtain ⟨hlt, htake, hdrop⟩ := split_front hx
  have hsorted := h.sorted.drop (i := served)
  rw [hdrop] at hsorted
  refine ⟨?_, hlt, h.sorted, h.lt_next, ?_, ?_⟩
  · rw [← hnumber]
    refine h.lt_next x (List.mem_of_mem_drop (i := served) ?_)
    rw [hdrop]
    exact List.mem_cons_self
  · rw [htake]
    intro y hy
    rcases List.mem_append.mp hy with hy | hy
    · exact (h.behind y hy).imp_left Nat.lt_succ_of_lt
    · rw [List.mem_singleton.mp hy, hnumber]
      exact .inl (Nat.lt_succ_self counter)
  · intro y hy
    rw [← hnumber]
    exact (List.pairwise_cons.mp hsorted).1 y hy

/-- The front is served and the counter is stuck. -/
theorem serve_stuck (h : Numbered number items served counter next stuck)
    (hx : (items.drop served).head? = some x) (hstuck : stuck') :
    Numbered number items (served + 1) counter next stuck' := by
  obtain ⟨hlt, -, hdrop⟩ := split_front hx
  refine ⟨h.counter_le, hlt, h.sorted, h.lt_next, fun _ _ => .inr hstuck, fun y hy => ?_⟩
  refine h.ahead y ?_
  rw [hdrop]
  exact List.mem_cons_of_mem x hy

end Numbered

end ZeroPostgres
