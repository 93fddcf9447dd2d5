import Mathlib.Data.List.Basic

/-!
# Lists cut into chunks

`List.toChunks` as `slice::chunks`, for a chunk size that is not zero: the chunks put together are
the list again (`flatten_toChunks`), all are full but the last, and none is empty
(`toChunks_full`).
-/

namespace ZeroPostgres.Chunks

variable {α : Type} {n : Nat}

/-- The loop puts what it has collected in front of what is left. -/
theorem flatten_go (xs : List α) (chunk : Array α) (chunks : Array (List α)) :
    (List.toChunks.go n xs chunk chunks).flatten =
      chunks.toList.flatten ++ (chunk.toList ++ xs) := by
  induction xs generalizing chunk chunks with
  | nil => simp [List.toChunks.go]
  | cons x xs ih =>
    rw [List.toChunks.go]
    by_cases hfull : (chunk.size == n) = true
    · rw [if_pos hfull, ih]
      simp
    · rw [if_neg hfull, ih]
      simp

theorem toChunks_cons (hn : 0 < n) (x : α) (xs : List α) :
    (x :: xs).toChunks n = List.toChunks.go n xs #[x] #[] := by
  cases n with
  | zero => exact absurd hn (Nat.lt_irrefl 0)
  | succ n => rfl

theorem flatten_toChunks (hn : 0 < n) (l : List α) : (l.toChunks n).flatten = l := by
  cases l with
  | nil => rw [List.toChunks, List.flatten_nil]
  | cons x xs =>
    rw [toChunks_cons hn, flatten_go]
    rfl

/-- All chunks but the last have the size, and the last is not empty. -/
def Full (n : Nat) (chunks : List (List α)) : Prop :=
  ∃ front last, chunks = front ++ [last] ∧ (∀ chunk ∈ front, chunk.length = n) ∧
    0 < last.length ∧ last.length ≤ n

theorem full_go (xs : List α) {chunk : Array α} {chunks : Array (List α)} (hpos : 0 < chunk.size)
    (hle : chunk.size ≤ n) (hchunks : ∀ c ∈ chunks.toList, c.length = n) :
    Full n (List.toChunks.go n xs chunk chunks) := by
  induction xs generalizing chunk chunks with
  | nil =>
    exact ⟨chunks.toList, chunk.toList, by simp [List.toChunks.go], hchunks, by simpa, by simpa⟩
  | cons x xs ih =>
    rw [List.toChunks.go]
    by_cases hfull : (chunk.size == n) = true
    · rw [if_pos hfull]
      have hsize : chunk.size = n := by simpa using hfull
      refine ih (by simp) (by simp; omega) ?_
      intro c hc
      rw [Array.toList_push, List.mem_append, List.mem_singleton] at hc
      rcases hc with hc | rfl
      · exact hchunks c hc
      · simpa using hsize
    · rw [if_neg hfull]
      have hsize : chunk.size ≠ n := by simpa using hfull
      refine ih (by simp) ?_ hchunks
      rw [Array.size_push]
      omega

theorem toChunks_full (hn : 0 < n) {l : List α} (hl : l ≠ []) : Full n (l.toChunks n) := by
  cases l with
  | nil => exact absurd rfl hl
  | cons x xs =>
    rw [toChunks_cons hn]
    exact full_go xs (by simp) (show 1 ≤ n from hn) (by simp)

end ZeroPostgres.Chunks
