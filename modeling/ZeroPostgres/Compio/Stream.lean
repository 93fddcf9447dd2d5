import ZeroPostgres.Lib.Act
import ZeroPostgres.Lib.BigEndian
import ZeroPostgres.Lib.ByteSource
import ZeroPostgres.Protocol.Codec

/-!
# The buffered stream of the compio client

`src/src/compio/stream.rs:22–176`. Reads go to a buffer of fixed capacity, from which messages are
cut; the part that was cut is overwritten when the buffer is filled again, and the rest of a message
larger than the buffer is read past it. `Sound` is the invariant of the buffer. The bytes nobody has
cut yet, those in the buffer and those still to arrive, are what a reader without a buffer would go
on with: `run_eq` says that both return the same, whatever the chunks.
-/

namespace ZeroPostgres

/-- The kinds of `std::io::Error` a stream reports. -/
inductive IoError where
  | unexpectedEof
  | other (text : String)
deriving DecidableEq, Repr

/-- `READ_BUF_CAPACITY`. -/
def readBufCapacity : Nat := 8192

/-- `struct Stream`; the capacity of the buffer is `readBufCapacity`. -/
structure CompioStream where
  inner : Source
  readBuf : Bytes
  readPos : Nat

namespace CompioStream

/-- `tcp` and `unix`. -/
def new (inner : Source) : CompioStream := ⟨inner, [], 0⟩

/-- `available`. -/
def available (s : CompioStream) : Nat := s.readBuf.length - s.readPos

/-- `Vec::copy_within`. -/
def copyWithin (buf : Bytes) (src count dest : Nat) : Bytes :=
  buf.take dest ++ (buf.drop src).take count ++ buf.drop (dest + count)

/-- Move the unconsumed bytes to the front, lines 92–98. -/
def compact (s : CompioStream) : CompioStream :=
  if 0 < s.readPos then
    { s with
      readBuf := (copyWithin s.readBuf s.readPos s.available 0).take s.available
      readPos := 0 }
  else s

/-- `fill_buf`. -/
def fillBuf : Act IoError CompioStream Unit := do
  Act.modify compact
  let s ← Act.get
  let (bytes, inner) := s.inner.read (readBufCapacity - s.readBuf.length)
  Act.modify fun s => { s with inner, readBuf := s.readBuf ++ bytes }
  if bytes = [] then Act.fail .unexpectedEof

/-- The loop of `ensure`. -/
def ensureLoop : Nat → Nat → Act IoError CompioStream Unit
  | 0, n => do
    let s ← Act.get
    if s.available < n then Act.halt
  | fuel + 1, n => do
    let s ← Act.get
    if s.available < n then do
      fillBuf
      ensureLoop fuel n

/-- `ensure`. Every round adds a byte or fails. -/
def ensure (n : Nat) : Act IoError CompioStream Unit := ensureLoop n n

/-- An index into the buffer, which panics out of bounds. -/
def byteAt (pos : Nat) : Act IoError CompioStream UInt8 := fun s =>
  match s.readBuf[pos]? with
  | some b => (.ok b, s)
  | none => (.halt, s)

/-- `read_u8`. -/
def readU8 : Act IoError CompioStream UInt8 := do
  ensure 1
  let s ← Act.get
  let byte ← byteAt s.readPos
  Act.modify fun s => { s with readPos := s.readPos + 1 }
  return byte

/-- `read_exact_raw` into what is left of a slice. -/
def readExactRaw (n : Nat) : Act IoError CompioStream Bytes := do
  let s ← Act.get
  let (bytes, inner) := s.inner.readExact n
  Act.modify fun s => { s with inner }
  if bytes.length < n then Act.fail .unexpectedEof
  return bytes

/-- The payload, lines 143–173: from the buffer what is there, the rest past it. -/
def readPayload (payloadLen : Nat) : Act IoError CompioStream Bytes :=
  if payloadLen = 0 then return []
  else do
    let s ← Act.get
    let fromBuf := min s.available payloadLen
    let copied := (s.readBuf.drop s.readPos).take fromBuf
    Act.modify fun s => { s with readPos := s.readPos + fromBuf }
    if 0 < payloadLen - fromBuf then do
      let rest ← readExactRaw (payloadLen - fromBuf)
      return copied ++ rest
    else return copied

/-- `read_message`: the type byte and the payload it leaves in the buffer set. -/
def readMessage : Act IoError CompioStream (UInt8 × Bytes) := do
  ensure 5
  let s ← Act.get
  let typeByte ← byteAt s.readPos
  match s.readBuf.drop (s.readPos + 1) with
  | a :: b :: c :: d :: _ => do
    let length := BigEndian.nat [a, b, c, d]
    Act.modify fun s => { s with readPos := s.readPos + 5 }
    let payload ← readPayload (length - 4)
    return (typeByte, payload)
  | _ => Act.fail (.other "protocol: header shorter than 5 bytes")

/-! ### The buffer -/

/-- The position is inside the buffer, and the buffer within its capacity. -/
structure Sound (s : CompioStream) : Prop where
  pos_le : s.readPos ≤ s.readBuf.length
  length_le : s.readBuf.length ≤ readBufCapacity

/-- The bytes nobody has consumed. -/
def unread (s : CompioStream) : Bytes := s.readBuf.drop s.readPos ++ s.inner.remaining

theorem sound_new (inner : Source) : (new inner).Sound := ⟨Nat.le_refl 0, Nat.zero_le _⟩

variable {s : CompioStream} {n : Nat}

theorem length_unread (s : CompioStream) :
    s.unread.length = s.available + s.inner.remaining.length := by
  rw [unread, List.length_append, List.length_drop, available]

/-- Compacting keeps the unconsumed bytes of the buffer. -/
theorem compact_eq (s : CompioStream) : s.compact = ⟨s.inner, s.readBuf.drop s.readPos, 0⟩ := by
  rw [compact]
  split
  · have hlen : (s.readBuf.drop s.readPos).length = s.available := by
      rw [List.length_drop, available]
    have hfront : (s.readBuf.drop s.readPos).take s.available = s.readBuf.drop s.readPos :=
      List.take_of_length_le (Nat.le_of_eq hlen)
    have hcopied : (copyWithin s.readBuf s.readPos s.available 0).take s.available =
        s.readBuf.drop s.readPos := by
      rw [copyWithin, List.take_zero, List.nil_append, hfront, List.take_append_of_le_length
        (Nat.le_of_eq hlen.symm), hfront]
    rw [hcopied]
  · next hpos =>
    have hzero : s.readPos = 0 := by omega
    rw [hzero, List.drop_zero, ← hzero]

/-- Filling appends what one read gives, which is nothing only at the end of the stream. -/
theorem fillBuf_eq (s : CompioStream) :
    fillBuf s =
      let r := s.inner.read (readBufCapacity - s.available)
      (if r.1 = [] then .err .unexpectedEof else .ok (),
        ⟨r.2, s.readBuf.drop s.readPos ++ r.1, 0⟩) := by
  have hlen : (s.readBuf.drop s.readPos).length = s.available := by
    rw [List.length_drop, available]
  simp only [fillBuf, Act.bind_run, Act.modify_run, Act.get_run, compact_eq, hlen]
  split <;> rfl

/-- Filling a buffer that has room keeps the bytes in order; it adds one at least, or there are none
left to add. -/
theorem fillBuf_spec (hroom : s.available < readBufCapacity) :
    ∃ s', s'.Sound ∧ s'.unread = s.unread ∧
      ((fillBuf s = (.ok (), s') ∧ s.available < s'.available) ∨
        (fillBuf s = (.err .unexpectedEof, s') ∧ s.unread.length = s.available)) := by
  have hfill := fillBuf_eq s
  have hlen : (s.readBuf.drop s.readPos).length = s.available := by
    rw [List.length_drop, available]
  obtain ⟨hsplit, hle, hend⟩ := s.inner.read_spec (Nat.sub_pos_of_lt hroom)
  dsimp only at hfill
  generalize s.inner.read (readBufCapacity - s.available) = r at *
  have hlong : (s.readBuf.drop s.readPos ++ r.1).length = s.available + r.1.length := by
    rw [List.length_append, hlen]
  have hsound : Sound ⟨r.2, s.readBuf.drop s.readPos ++ r.1, 0⟩ :=
    ⟨Nat.zero_le _, by rw [hlong]; omega⟩
  have hunread : unread ⟨r.2, s.readBuf.drop s.readPos ++ r.1, 0⟩ = s.unread := by
    rw [unread, List.drop_zero, List.append_assoc, hsplit, unread]
  refine ⟨_, hsound, hunread, ?_⟩
  by_cases hnil : r.1 = []
  · rw [if_pos hnil] at hfill
    refine .inr ⟨hfill, ?_⟩
    rw [length_unread, hend.mp hnil, List.length_nil, Nat.add_zero]
  · rw [if_neg hnil] at hfill
    have hpos := List.length_pos_iff.mpr hnil
    refine .inl ⟨hfill, ?_⟩
    show s.available < (s.readBuf.drop s.readPos ++ r.1).length - 0
    rw [hlong]
    omega

/-- The loop ends with so many bytes in the buffer, or at the end of the stream with fewer left. -/
theorem ensureLoop_spec (hn : n ≤ readBufCapacity) {fuel : Nat} (hs : s.Sound)
    (hfuel : n ≤ s.available + fuel) :
    ∃ s', s'.Sound ∧ s'.unread = s.unread ∧
      ((ensureLoop fuel n s = (.ok (), s') ∧ n ≤ s'.available) ∨
        (ensureLoop fuel n s = (.err .unexpectedEof, s') ∧ s.unread.length < n)) := by
  induction fuel generalizing s with
  | zero =>
    refine ⟨s, hs, rfl, .inl ⟨?_, by omega⟩⟩
    simp only [ensureLoop, Act.bind_run, Act.get_run]
    rw [if_neg (by omega)]
    rfl
  | succ fuel ih =>
    simp only [ensureLoop, Act.bind_run, Act.get_run]
    by_cases hshort : s.available < n
    · simp only [if_pos hshort, Act.bind_run]
      obtain ⟨s₁, hs₁, hunread₁, ⟨hfill, hmore⟩ | ⟨hfill, hend⟩⟩ :=
        fillBuf_spec (show s.available < readBufCapacity by omega)
      · obtain ⟨s₂, hs₂, hunread₂, hloop⟩ := ih hs₁ (by omega)
        rw [hfill]
        rw [hunread₁] at hunread₂ hloop
        exact ⟨s₂, hs₂, hunread₂, hloop⟩
      · rw [hfill]
        exact ⟨s₁, hs₁, hunread₁, .inr ⟨rfl, by omega⟩⟩
    · rw [if_neg hshort]
      exact ⟨s, hs, rfl, .inl ⟨rfl, by omega⟩⟩

theorem ensure_spec (hn : n ≤ readBufCapacity) (hs : s.Sound) :
    ∃ s', s'.Sound ∧ s'.unread = s.unread ∧
      ((ensure n s = (.ok (), s') ∧ n ≤ s'.available) ∨
        (ensure n s = (.err .unexpectedEof, s') ∧ s.unread.length < n)) :=
  ensureLoop_spec hn hs (Nat.le_add_left n _)

/-! ### Reading without a buffer -/

/-- The next byte of what is unread. -/
def parseU8 : Act IoError Bytes UInt8
  | [] => (.err .unexpectedEof, [])
  | b :: rest => (.ok b, rest)

/-- The next message. A header that is not complete stays where it is, a payload that is not
complete is lost with what is there of it. -/
def parseMessage : Act IoError Bytes (UInt8 × Bytes)
  | typeByte :: a :: b :: c :: d :: rest =>
    let payloadLen := BigEndian.nat [a, b, c, d] - 4
    if payloadLen ≤ rest.length then
      (.ok (typeByte, rest.take payloadLen), rest.drop payloadLen)
    else (.err .unexpectedEof, [])
  | bs => (.err .unexpectedEof, bs)

/-- On every sound buffer, whatever the chunks to come, a read does what a read without a buffer
does on the bytes that are unread. -/
def Refines {α : Type} (x : Act IoError CompioStream α) (y : Act IoError Bytes α) : Prop :=
  ∀ s : CompioStream, s.Sound →
    (x s).2.Sound ∧ (x s).1 = (y s.unread).1 ∧ (x s).2.unread = (y s.unread).2

/-- The bytes in the buffer are the first of those unread. -/
theorem unread_eq (s : CompioStream) :
    s.unread = s.readBuf.drop s.readPos ++ s.inner.remaining := rfl

theorem byteAt_spec (havail : 0 < s.available) :
    ∃ b, s.unread.head? = some b ∧ byteAt s.readPos s = (.ok b, s) := by
  have hlt : s.readPos < s.readBuf.length := by
    rw [available] at havail
    omega
  refine ⟨s.readBuf[s.readPos], ?_, ?_⟩
  · rw [unread_eq, List.drop_eq_getElem_cons hlt]
    rfl
  · rw [byteAt, List.getElem?_eq_getElem hlt]

/-- Moving the position consumes as many bytes. -/
theorem advance_spec {k : Nat} (hs : s.Sound) (hk : k ≤ s.available) :
    Sound { s with readPos := s.readPos + k } ∧
      unread { s with readPos := s.readPos + k } = s.unread.drop k := by
  have hlt : s.readPos + k ≤ s.readBuf.length := by
    have hpos := hs.pos_le
    rw [available] at hk
    omega
  refine ⟨⟨hlt, hs.length_le⟩, ?_⟩
  have hlen : k ≤ (s.readBuf.drop s.readPos).length := by rwa [List.length_drop, ← available]
  rw [unread_eq, unread_eq, List.drop_append_of_le_length hlen, List.drop_drop]

theorem readU8_refines : Refines readU8 parseU8 := by
  intro s hs
  obtain ⟨s₁, hs₁, hunread, ⟨hensure, havail⟩ | ⟨hensure, hshort⟩⟩ :=
    ensure_spec (show 1 ≤ readBufCapacity by decide) hs
  · obtain ⟨b, hhead, hbyte⟩ := byteAt_spec havail
    obtain ⟨hs₂, hunread₂⟩ := advance_spec hs₁ havail
    obtain ⟨rest, hrest⟩ := List.head?_eq_some_iff.mp hhead
    have hrun : readU8 s = (.ok b, { s₁ with readPos := s₁.readPos + 1 }) := by
      simp only [readU8, Act.bind_run, hensure, Act.get_run, hbyte, Act.modify_run]
      rfl
    rw [hrun, ← hunread, hrest]
    refine ⟨hs₂, rfl, ?_⟩
    rw [hunread₂, hrest]
    rfl
  · have hrun : readU8 s = (.err .unexpectedEof, s₁) := by
      simp only [readU8, Act.bind_run, hensure]
    have hnil : s.unread = [] := List.eq_nil_of_length_eq_zero (by omega)
    rw [hrun, hnil]
    exact ⟨hs₁, rfl, hunread.trans hnil⟩

/-- Reading past the buffer, once it is empty, reads what is left of the stream. -/
theorem readExactRaw_spec (hs : s.Sound) (hempty : s.available = 0) :
    ∃ s', s'.Sound ∧ s'.unread = s.unread.drop n ∧
      readExactRaw n s = (if n ≤ s.unread.length then .ok (s.unread.take n)
        else .err .unexpectedEof, s') := by
  have hnil : s.readBuf.drop s.readPos = [] := by
    rw [List.drop_eq_nil_iff]
    rw [available] at hempty
    omega
  have hunread : s.unread = s.inner.remaining := by rw [unread_eq, hnil, List.nil_append]
  obtain ⟨htake, hdrop⟩ := s.inner.readExact_spec (n := n)
  refine ⟨{ s with inner := (s.inner.readExact n).2 }, ⟨hs.pos_le, hs.length_le⟩, ?_, ?_⟩
  · rw [unread_eq, hunread, ← hdrop]
    show s.readBuf.drop s.readPos ++ _ = _
    rw [hnil, List.nil_append]
  · simp only [readExactRaw, Act.bind_run, Act.get_run, Act.modify_run, htake, List.length_take,
      hunread]
    by_cases hn : n ≤ s.inner.remaining.length
    · rw [if_neg (by omega), if_pos hn]
      rfl
    · rw [if_pos (by omega), if_neg hn]
      rfl

theorem readPayload_spec (hs : s.Sound) :
    ∃ s', s'.Sound ∧ s'.unread = s.unread.drop n ∧
      readPayload n s = (if n ≤ s.unread.length then .ok (s.unread.take n)
        else .err .unexpectedEof, s') := by
  by_cases hn : n = 0
  · subst hn
    exact ⟨s, hs, rfl, rfl⟩
  have hfrom : min s.available n ≤ s.available := Nat.min_le_left _ _
  have hlen := length_unread s
  obtain ⟨hs₁, hunread₁⟩ := advance_spec hs hfrom
  have hcopied : (s.readBuf.drop s.readPos).take (min s.available n) =
      s.unread.take (min s.available n) := by
    rw [unread_eq, List.take_append_of_le_length (by rwa [List.length_drop, ← available])]
  simp only [readPayload, if_neg hn, Act.bind_run, Act.get_run, Act.modify_run, hcopied]
  by_cases hrest : 0 < n - min s.available n
  · -- the buffer is empty now, and the rest is read past it
    have hempty : available { s with readPos := s.readPos + min s.available n } = 0 := by
      simp only [available] at *
      omega
    obtain ⟨s₂, hs₂, hunread₂, hrun⟩ := readExactRaw_spec hs₁ hempty (n := n - min s.available n)
    have hsum : min s.available n + (n - min s.available n) = n := by omega
    rw [hunread₁, List.drop_drop, hsum] at hunread₂
    refine ⟨s₂, hs₂, hunread₂, ?_⟩
    simp only [if_pos hrest, Act.bind_run, hrun, hunread₁, List.length_drop]
    by_cases hfits : n ≤ s.unread.length
    · rw [if_pos (by omega), if_pos hfits]
      dsimp only
      rw [← List.take_add, hsum]
      rfl
    · rw [if_neg (by omega), if_neg hfits]
  · have hall : min s.available n = n := by omega
    rw [hall] at hs₁ hunread₁
    refine ⟨_, hs₁, hunread₁, ?_⟩
    rw [hall, if_neg (by omega), if_pos (by omega)]
    rfl

/-- A complete header is in the buffer, and is where the code looks for it. -/
theorem header_spec (havail : 5 ≤ s.available) :
    ∃ typeByte a b c d tail, s.readBuf.drop s.readPos = typeByte :: a :: b :: c :: d :: tail ∧
      s.readBuf.drop (s.readPos + 1) = a :: b :: c :: d :: tail ∧
      byteAt s.readPos s = (.ok typeByte, s) := by
  obtain ⟨typeByte, hhead, hbyte⟩ := byteAt_spec (show 0 < s.available by omega)
  have hlen : 5 ≤ (s.readBuf.drop s.readPos).length := by rwa [List.length_drop, ← available]
  match hdrop : s.readBuf.drop s.readPos, hlen with
  | t :: a :: b :: c :: d :: tail, _ =>
    rw [unread_eq, hdrop, List.cons_append, List.head?_cons, Option.some.injEq] at hhead
    subst hhead
    refine ⟨t, a, b, c, d, tail, rfl, ?_, hbyte⟩
    rw [← List.drop_drop, hdrop]
    rfl

theorem readMessage_refines : Refines readMessage parseMessage := by
  intro s hs
  obtain ⟨s₁, hs₁, hunread, ⟨hensure, havail⟩ | ⟨hensure, hshort⟩⟩ :=
    ensure_spec (show 5 ≤ readBufCapacity by decide) hs
  · obtain ⟨typeByte, a, b, c, d, tail, hheader, hlength, hbyte⟩ := header_spec havail
    obtain ⟨hs₂, hunread₂⟩ := advance_spec hs₁ havail
    have hbytes : s.unread = typeByte :: a :: b :: c :: d :: (tail ++ s₁.inner.remaining) := by
      rw [← hunread, unread_eq, hheader]
      rfl
    have hrest : unread { s₁ with readPos := s₁.readPos + 5 } = tail ++ s₁.inner.remaining := by
      rw [hunread₂, hunread, hbytes]
      rfl
    obtain ⟨s₃, hs₃, hunread₃, hpayload⟩ :=
      readPayload_spec hs₂ (n := BigEndian.nat [a, b, c, d] - 4)
    rw [hrest] at hunread₃ hpayload
    simp only [readMessage, Act.bind_run, hensure, Act.get_run, hbyte, hlength, Act.modify_run,
      hpayload, hbytes, parseMessage]
    by_cases hfits : BigEndian.nat [a, b, c, d] - 4 ≤ (tail ++ s₁.inner.remaining).length
    · simp only [if_pos hfits]
      exact ⟨hs₃, rfl, hunread₃⟩
    · simp only [if_neg hfits]
      refine ⟨hs₃, trivial, ?_⟩
      rw [hunread₃, List.drop_of_length_le (Nat.le_of_not_le hfits)]
  · have hrun : readMessage s = (.err .unexpectedEof, s₁) := by
      simp only [readMessage, Act.bind_run, hensure]
    have hparse : parseMessage s.unread = (.err .unexpectedEof, s.unread) := by
      match hbytes : s.unread, hshort with
      | [], _ | [_], _ | [_, _], _ | [_, _, _], _ | [_, _, _, _], _ => rfl
    rw [hrun, hparse]
    exact ⟨hs₁, rfl, hunread⟩

/-! ### Runs of reads -/

/-- A read of the client. -/
inductive Call where
  | readMessage | readU8
deriving DecidableEq, Repr

/-- What a read returns. -/
inductive Item where
  | message (typeByte : UInt8) (payload : Bytes)
  | byte (b : UInt8)
deriving DecidableEq, Repr

/-- A read with these two operations. -/
def Call.perform {σ : Type} (message : Act IoError σ (UInt8 × Bytes)) (byte : Act IoError σ UInt8) :
    Call → Act IoError σ Item
  | readMessage => do
    let m ← message
    return .message m.1 m.2
  | readU8 => do
    let b ← byte
    return .byte b

/-- The reads one after the other, whatever the ones before returned. -/
def run {σ : Type} (message : Act IoError σ (UInt8 × Bytes)) (byte : Act IoError σ UInt8) :
    List Call → σ → List (Outcome IoError Item) × σ
  | [], s => ([], s)
  | call :: calls, s =>
    let r := call.perform message byte s
    let rest := run message byte calls r.2
    (r.1 :: rest.1, rest.2)

/-- `sync::Stream::read_exact`, `src/src/sync/stream.rs:91–99`, on the bytes to come. -/
def syncReadExact (n : Nat) : Act IoError Bytes Bytes := fun bs =>
  if n ≤ bs.length then (.ok (bs.take n), bs.drop n) else (.err .unexpectedEof, [])

/-- `sync::Stream::read_message`, `src/src/sync/stream.rs:73–89`; `read_u8` is `parseU8`. -/
def syncReadMessage : Act IoError Bytes (UInt8 × Bytes) := do
  let typeByte ← parseU8
  let lengthBytes ← syncReadExact 4
  let payload ← syncReadExact (BigEndian.nat lengthBytes - 4)
  return (typeByte, payload)

/-- The results up to the first that is not a value. -/
def untilFailure {ε α : Type} : List (Outcome ε α) → List (Outcome ε α)
  | .ok a :: rest => .ok a :: untilFailure rest
  | o :: _ => [o]
  | [] => []

theorem Refines.map {α β : Type} {x : Act IoError CompioStream α} {y : Act IoError Bytes α}
    (h : Refines x y) (f : α → β) :
    Refines (x >>= fun a => pure (f a)) (y >>= fun a => pure (f a)) := by
  intro s hs
  obtain ⟨hs', hvalue, hunread⟩ := h s hs
  rw [Act.bind_run, Act.bind_run]
  generalize x s = r at *
  generalize y s.unread = q at *
  obtain ⟨o, s'⟩ := r
  obtain ⟨o', bs⟩ := q
  obtain rfl : o = o' := hvalue
  cases o
  · exact ⟨hs', rfl, hunread⟩
  · exact ⟨hs', rfl, hunread⟩
  · exact ⟨hs', rfl, hunread⟩

theorem perform_refines (call : Call) :
    Refines (call.perform readMessage readU8) (call.perform parseMessage parseU8) := by
  cases call with
  | readMessage => exact readMessage_refines.map fun m => Item.message m.1 m.2
  | readU8 => exact readU8_refines.map Item.byte

/-- A run of reads from a sound buffer returns what a run without a buffer does, and leaves the same
bytes unread. -/
theorem run_eq (calls : List Call) {s : CompioStream} (hs : s.Sound) :
    (run readMessage readU8 calls s).1 = (run parseMessage parseU8 calls s.unread).1 ∧
      (run readMessage readU8 calls s).2.unread =
        (run parseMessage parseU8 calls s.unread).2 := by
  induction calls generalizing s with
  | nil => exact ⟨rfl, rfl⟩
  | cons call calls ih =>
    obtain ⟨hs', hvalue, hunread⟩ := perform_refines call s hs
    obtain ⟨hvalues, hrest⟩ := ih hs'
    rw [hunread] at hvalues hrest
    refine ⟨?_, hrest⟩
    rw [run, run]
    exact congr (congrArg _ hvalue) hvalues

/-- The blocking stream reads the same message, or fails too. -/
theorem syncReadMessage_cases (bs : Bytes) :
    (∃ m rest, parseMessage bs = (.ok m, rest) ∧ syncReadMessage bs = (.ok m, rest)) ∨
      ((parseMessage bs).1 = .err .unexpectedEof ∧
        (syncReadMessage bs).1 = .err .unexpectedEof) := by
  match bs with
  | [] | [_] | [_, _] | [_, _, _] | [_, _, _, _] => exact .inr ⟨rfl, rfl⟩
  | t :: a :: b :: c :: d :: rest =>
    have hlength : syncReadExact 4 (a :: b :: c :: d :: rest) = (.ok [a, b, c, d], rest) := by
      rw [syncReadExact, if_pos (by simp)]
      rfl
    have hsync : syncReadMessage (t :: a :: b :: c :: d :: rest) =
        (syncReadExact (BigEndian.nat [a, b, c, d] - 4) >>= fun payload => pure (t, payload))
          rest := by
      simp only [syncReadMessage, Act.bind_run, parseU8, hlength]
    rw [hsync, parseMessage, Act.bind_run, syncReadExact]
    by_cases hfits : BigEndian.nat [a, b, c, d] - 4 ≤ rest.length
    · simp only [if_pos hfits]
      exact .inl ⟨_, _, rfl, rfl⟩
    · simp only [if_neg hfits]
      exact .inr ⟨trivial, trivial⟩

/-- Up to the first failure the blocking stream returns the same. -/
theorem untilFailure_run (calls : List Call) (bs : Bytes) :
    untilFailure (run parseMessage parseU8 calls bs).1 =
      untilFailure (run syncReadMessage parseU8 calls bs).1 := by
  induction calls generalizing bs with
  | nil => rfl
  | cons call calls ih =>
    have hcall : (∃ item rest, call.perform parseMessage parseU8 bs = (.ok item, rest) ∧
          call.perform syncReadMessage parseU8 bs = (.ok item, rest)) ∨
        ((call.perform parseMessage parseU8 bs).1 = .err .unexpectedEof ∧
          (call.perform syncReadMessage parseU8 bs).1 = .err .unexpectedEof) := by
      cases call with
      | readMessage =>
        simp only [Call.perform, Act.bind_run]
        rcases syncReadMessage_cases bs with ⟨m, rest, hparse, hsync⟩ | ⟨hparse, hsync⟩
        · rw [hparse, hsync]
          exact .inl ⟨_, _, rfl, rfl⟩
        · generalize parseMessage bs = r at *
          generalize syncReadMessage bs = q at *
          obtain ⟨o, rest⟩ := r
          obtain ⟨o', rest'⟩ := q
          obtain rfl : o = .err .unexpectedEof := hparse
          obtain rfl : o' = .err .unexpectedEof := hsync
          exact .inr ⟨rfl, rfl⟩
      | readU8 =>
        cases bs with
        | nil => exact .inr ⟨rfl, rfl⟩
        | cons b rest => exact .inl ⟨_, _, rfl, rfl⟩
    rw [run, run]
    rcases hcall with ⟨item, rest, hparse, hsync⟩ | ⟨hparse, hsync⟩
    · rw [hparse, hsync]
      exact congrArg (Outcome.ok item :: ·) (ih rest)
    · rw [hparse, hsync]
      rfl

/-- Whatever chunks a stream arrives in and whatever is read of it in which order, the buffered
stream returns what a reader of the whole stream returns, and leaves what that one leaves; and up to
the first read that the stream is too short for, it returns what the blocking client's does. -/
theorem buffered_framing (source : Source) (calls : List Call) :
    (run readMessage readU8 calls (new source)).1 =
      (run parseMessage parseU8 calls source.remaining).1 ∧
    (run readMessage readU8 calls (new source)).2.unread =
      (run parseMessage parseU8 calls source.remaining).2 ∧
    untilFailure (run readMessage readU8 calls (new source)).1 =
      untilFailure (run syncReadMessage parseU8 calls source.remaining).1 := by
  obtain ⟨hvalues, hunread⟩ := run_eq calls (sound_new source)
  have hstart : (new source).unread = source.remaining := List.nil_append _
  rw [hstart] at hvalues hunread
  refine ⟨hvalues, hunread, ?_⟩
  rw [hvalues, untilFailure_run]

end CompioStream

end ZeroPostgres
