import Mathlib.Data.List.Basic

/-!
# Byte streams that arrive in chunks

A `Source` is a stream as its reader meets it: the chunks that arrive, none of them empty. A read
gives what is there of the next chunk, as far as there is room for it; reading nothing means that
the stream has ended. `read_spec` and `readExact_spec` say what is read in terms of the bytes that
remain, the chunks put together.
-/

namespace ZeroPostgres

/-- The chunks still to arrive. -/
structure Source where
  chunks : List (List UInt8)
  nonempty : ∀ chunk ∈ chunks, chunk ≠ []

namespace Source

/-- The bytes still to arrive. -/
def remaining (s : Source) : List UInt8 := s.chunks.flatten

/-- One read with room for so many bytes. -/
def read (room : Nat) : Source → List UInt8 × Source
  | ⟨[], h⟩ => ([], ⟨[], h⟩)
  | ⟨chunk :: chunks, h⟩ =>
    if hroom : chunk.length ≤ room then
      (chunk, ⟨chunks, fun c hc => h c (List.mem_cons_of_mem _ hc)⟩)
    else
      (chunk.take room, ⟨chunk.drop room :: chunks, by
        intro c hc
        rcases List.mem_cons.mp hc with rfl | hc
        · rwa [Ne, List.drop_eq_nil_iff]
        · exact h c (List.mem_cons_of_mem _ hc)⟩)

/-- Read until so many bytes are there, or the stream ends. Every read but the last gives a byte, so
that the number of bytes bounds the reads. -/
def readMore : Nat → Nat → Source → List UInt8 × Source
  | 0, _, s => ([], s)
  | fuel + 1, n, s =>
    if n = 0 then ([], s)
    else
      let r := s.read n
      if r.1 = [] then r
      else
        let more := readMore fuel (n - r.1.length) r.2
        (r.1 ++ more.1, more.2)

/-- Read exactly so many bytes, fewer where the stream ends. -/
def readExact (n : Nat) (s : Source) : List UInt8 × Source := readMore n n s

variable {room n : Nat} (s : Source)

/-- What is read and what remains are the bytes there were, and only at the end is nothing read. -/
theorem read_spec (hroom : 0 < room) :
    (s.read room).1 ++ (s.read room).2.remaining = s.remaining ∧
      (s.read room).1.length ≤ room ∧ ((s.read room).1 = [] ↔ s.remaining = []) := by
  obtain ⟨_ | ⟨chunk, chunks⟩, h⟩ := s
  · exact ⟨rfl, Nat.zero_le _, Iff.rfl⟩
  · have hne : chunk ≠ [] := h chunk List.mem_cons_self
    have hremaining : remaining ⟨chunk :: chunks, h⟩ = chunk ++ chunks.flatten := rfl
    rw [hremaining, read]
    split
    · next hroom => exact ⟨rfl, hroom, by simp [hne]⟩
    · have htake : chunk.take room ≠ [] := by simp [hne, Nat.ne_of_gt hroom]
      refine ⟨?_, List.length_take_le _ _, by simp [hne, htake]⟩
      show chunk.take room ++ (chunk.drop room :: chunks).flatten = _
      rw [List.flatten_cons, ← List.append_assoc, List.take_append_drop]

theorem readMore_spec {fuel : Nat} (hfuel : n ≤ fuel) :
    (readMore fuel n s).1 = s.remaining.take n ∧
      (readMore fuel n s).2.remaining = s.remaining.drop n := by
  induction fuel generalizing n s with
  | zero =>
    obtain rfl : n = 0 := Nat.le_zero.mp hfuel
    exact ⟨rfl, rfl⟩
  | succ fuel ih =>
    rw [readMore]
    by_cases hn : n = 0
    · subst hn
      exact ⟨rfl, rfl⟩
    rw [if_neg hn]
    obtain ⟨hsplit, hlen, hend⟩ := s.read_spec (Nat.pos_of_ne_zero hn)
    dsimp only
    split
    · next hnil =>
      have hempty := hend.mp hnil
      rw [hnil, hempty, List.nil_append] at hsplit
      rw [hempty, hsplit, hnil, List.take_nil, List.drop_nil]
      exact ⟨rfl, rfl⟩
    · next hne =>
      have hpos := List.length_pos_iff.mpr hne
      obtain ⟨htake, hdrop⟩ := ih (s.read n).2 (by omega : n - (s.read n).1.length ≤ fuel)
      rw [← hsplit, htake, hdrop, List.take_append, List.drop_append, List.take_of_length_le hlen,
        List.drop_of_length_le hlen, List.nil_append]
      exact ⟨rfl, rfl⟩

theorem readExact_spec :
    (s.readExact n).1 = s.remaining.take n ∧ (s.readExact n).2.remaining = s.remaining.drop n :=
  s.readMore_spec (Nat.le_refl n)

end Source

end ZeroPostgres
