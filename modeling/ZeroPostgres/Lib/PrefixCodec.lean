import ZeroPostgres.Lib.BigEndian

/-!
# Prefix codecs

A `PrefixCodec` is a reader that takes one value off the front of a byte list, together with the
writer it undoes: the reader succeeds exactly where the list begins with what is written of a valid
value. Writers are total, so that they can be compared with a program that writes invalid values
too. The law passes through pairs, counted and terminated lists, restrictions and length fields.
-/

namespace ZeroPostgres

/-- A writer, the values it writes so that they can be read, and the reader. -/
structure PrefixCodec (α : Type) where
  write : α → List UInt8
  Valid : α → Prop
  read : List UInt8 → Option (α × List UInt8)
  read_iff : ∀ {data a rest}, read data = some (a, rest) ↔ Valid a ∧ data = write a ++ rest

namespace PrefixCodec

variable {α β : Type}

/-- What is written is read back when it is valid, and then exactly. -/
theorem read_write_iff (c : PrefixCodec α) {a : α} {rest : List UInt8} :
    c.read (c.write a ++ rest) = some (a, rest) ↔ c.Valid a := by
  simp [c.read_iff]

/-- An unsigned number of `w` bytes. -/
def word (w : Nat) : PrefixCodec Nat where
  write := BigEndian.bytes w
  Valid n := n < 256 ^ w
  read data := if data.length < w then none else some (BigEndian.nat (data.take w), data.drop w)
  read_iff := by
    intro data n rest
    constructor
    · intro h
      split at h
      · cases h
      · next hlen =>
        simp only [Option.some.injEq, Prod.mk.injEq] at h
        obtain ⟨rfl, rfl⟩ := h
        have htake : (data.take w).length = w := List.length_take_of_le (Nat.le_of_not_lt hlen)
        have hlt := BigEndian.nat_lt (data.take w)
        have hbytes := BigEndian.bytes_nat (data.take w)
        rw [htake] at hlt hbytes
        exact ⟨hlt, by rw [hbytes, List.take_append_drop]⟩
    · rintro ⟨hn, rfl⟩
      have hlen := BigEndian.length_bytes w n
      rw [if_neg (by simp), List.take_left' hlen, List.drop_left' hlen,
        BigEndian.nat_bytes_of_lt hn]

/-- Bytes up to a null byte. -/
def zeroTerminated : PrefixCodec (List UInt8) where
  write bs := bs ++ [0]
  Valid bs := 0 ∉ bs
  read data :=
    match data.dropWhile (· != 0) with
    | [] => none
    | _ :: rest => some (data.takeWhile (· != 0), rest)
  read_iff := by
    intro data bs rest
    induction data generalizing bs with
    | nil => simp
    | cons b data ih =>
      by_cases hb : b = 0
      · subst hb
        cases bs with
        | nil => simp
        | cons b bs =>
          simp only [List.dropWhile_cons, List.takeWhile_cons, bne_self_eq_false,
            Bool.false_eq_true, if_false, Option.some.injEq, Prod.mk.injEq, reduceCtorEq,
            false_and, false_iff, List.cons_append, List.cons.injEq, not_and]
          intro hmem hb
          exact absurd (hb ▸ List.mem_cons_self) hmem
      · cases bs with
        | nil =>
          simp only [List.dropWhile_cons, List.takeWhile_cons, bne_iff_ne, ne_eq, hb,
            not_false_eq_true, if_true, List.nil_append, List.cons_append, List.cons.injEq,
            false_and, and_false, iff_false]
          split <;> simp
        | cons b' bs =>
          have hstep := @ih bs
          simp only [List.dropWhile_cons, List.takeWhile_cons, bne_iff_ne, ne_eq, hb,
            not_false_eq_true, if_true, List.cons_append, List.cons.injEq, List.mem_cons, not_or]
          split at hstep
          · next hdrop =>
            simp only [reduceCtorEq, false_iff] at hstep ⊢
            rintro ⟨⟨-, hmem⟩, -, hdata⟩
            exact hstep ⟨hmem, hdata⟩
          · next hdrop =>
            simp only [Option.some.injEq, Prod.mk.injEq, List.cons.injEq] at hstep ⊢
            constructor
            · rintro ⟨⟨rfl, htake⟩, hrest⟩
              obtain ⟨hmem, hdata⟩ := hstep.mp ⟨htake, hrest⟩
              exact ⟨⟨fun h => hb h.symm, hmem⟩, rfl, hdata⟩
            · rintro ⟨⟨-, hmem⟩, rfl, hdata⟩
              obtain ⟨htake, hrest⟩ := hstep.mpr ⟨hmem, hdata⟩
              exact ⟨⟨rfl, htake⟩, hrest⟩

/-- One value and then another. -/
def pair (c : PrefixCodec α) (d : PrefixCodec β) : PrefixCodec (α × β) where
  write p := c.write p.1 ++ d.write p.2
  Valid p := c.Valid p.1 ∧ d.Valid p.2
  read data :=
    (c.read data).bind fun r => (d.read r.2).map fun r' => ((r.1, r'.1), r'.2)
  read_iff := by
    rintro data ⟨a, b⟩ rest
    simp only [Option.bind_eq_some_iff, Option.map_eq_some_iff, Prod.exists, Prod.mk.injEq,
      c.read_iff, d.read_iff]
    constructor
    · rintro ⟨a, mid, ⟨ha, rfl⟩, b, rest, ⟨hb, rfl⟩, ⟨rfl, rfl⟩, rfl⟩
      exact ⟨⟨ha, hb⟩, (List.append_assoc ..).symm⟩
    · rintro ⟨⟨ha, hb⟩, rfl⟩
      exact ⟨a, _, ⟨ha, List.append_assoc ..⟩, b, rest, ⟨hb, rfl⟩, ⟨rfl, rfl⟩, rfl⟩

/-- Valid values that also pass a check of the reader. -/
def restrict (c : PrefixCodec α) (p : α → Prop) [DecidablePred p] : PrefixCodec α where
  write := c.write
  Valid a := c.Valid a ∧ p a
  read data := (c.read data).filter fun r => p r.1
  read_iff := by
    intro data a rest
    simp only [Option.filter_eq_some_iff, c.read_iff, decide_eq_true_eq]
    constructor
    · rintro ⟨⟨ha, hdata⟩, hp⟩
      exact ⟨⟨ha, hp⟩, hdata⟩
    · rintro ⟨⟨ha, hp⟩, hdata⟩
      exact ⟨⟨ha, hdata⟩, hp⟩

/-- Values in another form: `decode` finds the one that is written as a valid value, if any. -/
def via (c : PrefixCodec α) (decode : α → Option β) (encode : β → α)
    (h : ∀ {a b}, c.Valid a → (decode a = some b ↔ a = encode b)) : PrefixCodec β where
  write b := c.write (encode b)
  Valid b := c.Valid (encode b)
  read data := (c.read data).bind fun r => (decode r.1).map fun b => (b, r.2)
  read_iff := by
    intro data b rest
    simp only [Option.bind_eq_some_iff, Option.map_eq_some_iff, Prod.exists, Prod.mk.injEq,
      c.read_iff]
    constructor
    · rintro ⟨a, rest, ⟨ha, hdata⟩, b, hb, rfl, rfl⟩
      obtain rfl := (h ha).mp hb
      exact ⟨ha, hdata⟩
    · rintro ⟨hb, hdata⟩
      exact ⟨encode b, rest, ⟨hb, hdata⟩, b, (h hb).mpr rfl, rfl, rfl⟩

/-! ### Lists -/

/-- A number of values, one after the other. -/
def readMany (c : PrefixCodec α) : Nat → List UInt8 → Option (List α × List UInt8)
  | 0, data => some ([], data)
  | n + 1, data =>
    (c.read data).bind fun r => (c.readMany n r.2).map fun r' => (r.1 :: r'.1, r'.2)

theorem readMany_iff (c : PrefixCodec α) {n : Nat} {data rest : List UInt8} {as : List α} :
    c.readMany n data = some (as, rest) ↔
      as.length = n ∧ (∀ a ∈ as, c.Valid a) ∧ data = as.flatMap c.write ++ rest := by
  induction n generalizing data as rest with
  | zero =>
    cases as with
    | nil => simp [readMany]
    | cons a as => simp [readMany]
  | succ n ih =>
    cases as with
    | nil => simp [readMany, Option.bind_eq_some_iff]
    | cons a as =>
      simp only [readMany, Option.bind_eq_some_iff, Option.map_eq_some_iff, Prod.exists,
        Prod.mk.injEq, List.cons.injEq, c.read_iff, ih, List.length_cons, List.forall_mem_cons,
        List.flatMap_cons, List.append_assoc]
      constructor
      · rintro ⟨a, mid, ⟨ha, rfl⟩, as, rest, ⟨hn, has, rfl⟩, ⟨rfl, rfl⟩, rfl⟩
        exact ⟨by omega, ⟨ha, has⟩, rfl⟩
      · rintro ⟨hn, ⟨ha, has⟩, rfl⟩
        exact ⟨a, _, ⟨ha, rfl⟩, as, rest, ⟨by omega, has, rfl⟩, ⟨rfl, rfl⟩, rfl⟩

/-- A list behind the number of its elements in `w` bytes. -/
def counted (w : Nat) (c : PrefixCodec α) : PrefixCodec (List α) where
  write as := BigEndian.bytes w as.length ++ as.flatMap c.write
  Valid as := as.length < 256 ^ w ∧ ∀ a ∈ as, c.Valid a
  read data := ((word w).read data).bind fun r => c.readMany r.1 r.2
  read_iff := by
    intro data as rest
    simp only [Option.bind_eq_some_iff, Prod.exists, readMany_iff, (word w).read_iff]
    constructor
    · rintro ⟨n, mid, ⟨hn, rfl⟩, rfl, has, rfl⟩
      exact ⟨⟨hn, has⟩, (List.append_assoc ..).symm⟩
    · rintro ⟨⟨hn, has⟩, rfl⟩
      exact ⟨as.length, _, ⟨hn, List.append_assoc ..⟩, rfl, has, rfl⟩

/-- Values up to a null byte, none of them beginning with one. -/
def readUntilZero (c : PrefixCodec α) : Nat → List UInt8 → Option (List α × List UInt8)
  | 0, _ => none
  | fuel + 1, data =>
    match data with
    | [] => none
    | b :: rest =>
      if b = 0 then some ([], rest)
      else (c.read (b :: rest)).bind fun r =>
        (c.readUntilZero fuel r.2).map fun r' => (r.1 :: r'.1, r'.2)

/-- A value is written with a first byte that is not null. -/
def Marked (c : PrefixCodec α) : Prop := ∀ {a}, c.Valid a → ∃ b bs, c.write a = b :: bs ∧ b ≠ 0

theorem readUntilZero_iff (c : PrefixCodec α) (hc : c.Marked) {fuel : Nat} {data rest : List UInt8}
    {as : List α} (hfuel : data.length < fuel) :
    c.readUntilZero fuel data = some (as, rest) ↔
      (∀ a ∈ as, c.Valid a) ∧ data = as.flatMap c.write ++ 0 :: rest := by
  induction fuel generalizing data as with
  | zero => exact absurd hfuel (Nat.not_lt_zero _)
  | succ fuel ih =>
    cases data with
    | nil => simp [readUntilZero]
    | cons b data =>
      cases as with
      | nil =>
        by_cases hb : b = 0
        · simp [readUntilZero, hb]
        · simp [readUntilZero, hb, Option.bind_eq_some_iff]
      | cons a as =>
        have hzero : ∀ mid, c.Valid a → (0 :: data : List UInt8) ≠ c.write a ++ mid := by
          intro mid ha heq
          obtain ⟨b, bs, hwrite, hb⟩ := hc ha
          rw [hwrite] at heq
          cases heq
          exact hb rfl
        have hshort : ∀ mid, c.Valid a → b :: data = c.write a ++ mid → mid.length < fuel := by
          intro mid ha heq
          obtain ⟨b, bs, hwrite, -⟩ := hc ha
          have hlen := congrArg List.length heq
          simp only [hwrite, List.length_append, List.length_cons] at hlen hfuel
          omega
        by_cases hb : b = 0
        · subst hb
          simp only [readUntilZero, if_true, Option.some.injEq, Prod.mk.injEq, reduceCtorEq,
            false_and, false_iff, not_and, List.forall_mem_cons, List.flatMap_cons,
            List.append_assoc]
          rintro ⟨ha, -⟩
          exact hzero _ ha
        · simp only [readUntilZero, hb, if_false, Option.bind_eq_some_iff, Option.map_eq_some_iff,
            Prod.exists, Prod.mk.injEq, List.cons.injEq, c.read_iff, List.forall_mem_cons,
            List.flatMap_cons, List.append_assoc]
          constructor
          · rintro ⟨a, mid, ⟨ha, hdata⟩, as, rest, hread, ⟨rfl, rfl⟩, rfl⟩
            obtain ⟨has, rfl⟩ := (ih (hshort mid ha hdata)).mp hread
            exact ⟨⟨ha, has⟩, hdata⟩
          · rintro ⟨⟨ha, has⟩, hdata⟩
            exact ⟨a, _, ⟨ha, hdata⟩, as, rest, (ih (hshort _ ha hdata)).mpr ⟨has, rfl⟩,
              ⟨rfl, rfl⟩, rfl⟩

/-- A list that ends at a null byte. -/
def untilZero (c : PrefixCodec α) (hc : c.Marked) : PrefixCodec (List α) where
  write as := as.flatMap c.write ++ [0]
  Valid as := ∀ a ∈ as, c.Valid a
  read data := c.readUntilZero (data.length + 1) data
  read_iff := by
    intro data as rest
    rw [readUntilZero_iff c hc (Nat.lt_succ_self _), List.append_assoc, List.singleton_append]

/-! ### Length fields -/

/-- Bytes behind a length of four bytes that counts itself and them. -/
def block : PrefixCodec (List UInt8) where
  write body := BigEndian.bytes 4 (4 + body.length) ++ body
  Valid body := 4 + body.length < 2 ^ 31
  read data :=
    let length := BigEndian.int (data.take 4)
    let body := data.drop 4
    if data.length < 4 ∨ length < 4 ∨ (body.length : Int) < length - 4 then none
    else some (body.take (length.toNat - 4), body.drop (length.toNat - 4))
  read_iff := by
    intro data body rest
    constructor
    · intro h
      dsimp only at h
      split at h
      · cases h
      · next hlen =>
        obtain ⟨n, hn⟩ : ∃ n : Nat, BigEndian.int (data.take 4) = (n : Int) :=
          ⟨_, (Int.toNat_of_nonneg (by omega)).symm⟩
        have htake : (data.take 4).length = 4 := List.length_take_of_le (by omega)
        obtain ⟨hlt, hbytes⟩ := BigEndian.int_eq_natCast_iff.mp hn
        rw [htake] at hlt hbytes
        rw [hn] at h hlen
        simp only [Option.some.injEq, Prod.mk.injEq, Int.toNat_natCast] at h
        obtain ⟨rfl, rfl⟩ := h
        have hbody : ((data.drop 4).take (n - 4)).length = n - 4 := by
          rw [List.length_take]
          omega
        have hn4 : 4 + (n - 4) = n := by omega
        rw [hbody, hn4, ← hbytes, List.append_assoc, List.take_append_drop, List.take_append_drop]
        exact ⟨by omega, rfl⟩
    · rintro ⟨hlt, rfl⟩
      have hlen := BigEndian.length_bytes 4 (4 + body.length)
      have hint : BigEndian.int (BigEndian.bytes 4 (4 + body.length)) =
          (4 + body.length : Nat) := by
        rw [BigEndian.int_eq_natCast_iff, hlen]
        exact ⟨by omega, rfl⟩
      simp only [List.append_assoc, List.take_left' hlen, List.drop_left' hlen, hint,
        Int.toNat_natCast, Nat.add_sub_cancel_left, List.take_left' rfl, List.drop_left' rfl]
      rw [if_neg]
      simp only [List.length_append, hlen]
      omega

/-- A length of four bytes that counts itself and a value, the value being all that it counts. -/
def delimited (c : PrefixCodec α) : PrefixCodec α where
  write a := BigEndian.bytes 4 (4 + (c.write a).length) ++ c.write a
  Valid a := c.Valid a ∧ 4 + (c.write a).length < 2 ^ 31
  read data :=
    let length := BigEndian.int (data.take 4)
    let body := data.drop 4
    if data.length < 4 ∨ length < 4 ∨ (body.length : Int) < length - 4 then none
    else match c.read (body.take (length.toNat - 4)) with
      | some (a, []) => some (a, body.drop (length.toNat - 4))
      | _ => none
  read_iff := by
    intro data a rest
    -- the value is read from the bytes of a block
    have hblock : ∀ body rest, c.read body = some (a, []) ∧ block.read data = some (body, rest) ↔
        (c.Valid a ∧ 4 + (c.write a).length < 2 ^ 31) ∧
          (body = c.write a ∧ data = block.write (c.write a) ++ rest) := by
      intro body rest
      rw [c.read_iff, block.read_iff, List.append_nil]
      constructor
      · rintro ⟨⟨hvalid, rfl⟩, hlt, hdata⟩
        exact ⟨⟨hvalid, hlt⟩, rfl, hdata⟩
      · rintro ⟨⟨hvalid, hlt⟩, rfl, hdata⟩
        exact ⟨⟨hvalid, rfl⟩, hlt, hdata⟩
    constructor
    · intro h
      dsimp only at h
      split at h
      · cases h
      · next hlen =>
        split at h
        · next a' hread =>
          simp only [Option.some.injEq, Prod.mk.injEq] at h
          obtain ⟨rfl, rfl⟩ := h
          obtain ⟨hvalid, -, hdata⟩ := (hblock _ _).mp ⟨hread, if_neg hlen⟩
          exact ⟨hvalid, hdata⟩
        · cases h
    · rintro ⟨hvalid, hdata⟩
      obtain ⟨hread, hdata⟩ := (hblock _ rest).mpr ⟨hvalid, rfl, hdata⟩
      dsimp only [block] at hdata ⊢
      split at hdata
      · cases hdata
      · next hlen =>
        simp only [Option.some.injEq, Prod.mk.injEq] at hdata
        obtain ⟨hbody, hrest⟩ := hdata
        rw [if_neg hlen, hbody, hread, hrest]

/-- One byte. -/
def byte : PrefixCodec UInt8 where
  write b := [b]
  Valid _ := True
  read
    | [] => none
    | b :: data => some (b, data)
  read_iff := by
    intro data b rest
    cases data with
    | nil => simp
    | cons b' data => simp

/-- A value behind a byte that says what it is. -/
def tagged (tag : UInt8) (c : PrefixCodec α) : PrefixCodec α where
  write a := tag :: c.write a
  Valid := c.Valid
  read
    | [] => none
    | b :: data => if b = tag then c.read data else none
  read_iff := by
    intro data a rest
    cases data with
    | nil => simp
    | cons b data =>
      by_cases hb : b = tag
      · simp [hb, c.read_iff]
      · simp [hb]

end PrefixCodec

end ZeroPostgres
