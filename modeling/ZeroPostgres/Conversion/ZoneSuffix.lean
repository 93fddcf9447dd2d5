import ZeroPostgres.Conversion.ReferenceCrates
import ZeroPostgres.Startup.Scram

/-!
# Timestamps with a zone in text

`from_text` of `chrono::NaiveDateTime`, `src/src/conversion/chrono.rs:128–147`, and of
`time::PrimitiveDateTime`, `src/src/conversion/time.rs:108–131`. Both cut the text at its first sign
if that comes after the date. The first sign is the one between the year and the month, so nothing
is ever cut, and the parsers of the crates, which are parameters here, meet the offset.
-/

namespace ZeroPostgres

/-! ### Cutting at a sign -/

/-- `s.find(['+', '-'])`, the offset in bytes. -/
def findSign : List Char → Option Nat
  | [] => none
  | c :: cs => if c = '+' ∨ c = '-' then some 0 else (findSign cs).map (· + c.utf8Size)

/-- `&s[..pos]`. -/
def sliceTo : Nat → List Char → List Char
  | _, [] => []
  | 0, _ => []
  | pos + 1, c :: cs => c :: sliceTo (pos + 1 - c.utf8Size) cs

/-- The text without the suffix of the zone: "make sure it's not the date separator". -/
def stripZone (cs : List Char) : List Char :=
  match (findSign cs).filter (10 < ·) with
  | some pos => sliceTo pos cs
  | none => cs

variable {cs z : List Char} {pos : Nat}

theorem findSign_append (h : findSign cs = some pos) : findSign (cs ++ z) = some pos := by
  induction cs generalizing pos with
  | nil => cases h
  | cons c cs ih =>
    rw [List.cons_append]
    unfold findSign at h ⊢
    split at h
    · next hsign => rw [if_pos hsign, h]
    · next hsign =>
      obtain ⟨p, hp, hpos⟩ := Option.map_eq_some_iff.mp h
      rw [if_neg hsign, ih hp, Option.map_some, hpos]

theorem findSign_isSome (h : '-' ∈ cs) : ∃ pos, findSign cs = some pos := by
  induction cs with
  | nil => cases h
  | cons c cs ih =>
    unfold findSign
    split
    · exact ⟨0, rfl⟩
    · next hsign =>
      have hmem : '-' ∈ cs := (List.mem_cons.mp h).resolve_left fun hc => hsign (.inr hc.symm)
      obtain ⟨pos, hpos⟩ := ih hmem
      exact ⟨pos + c.utf8Size, by rw [hpos, Option.map_some]⟩

/-- No sign is left in front of the first one. -/
theorem dash_not_mem_sliceTo (h : findSign cs = some pos) : '-' ∉ sliceTo pos cs := by
  induction cs generalizing pos with
  | nil => cases h
  | cons c cs ih =>
    have hsize := c.utf8Size_pos
    unfold findSign at h
    split at h
    · cases h
      exact List.not_mem_nil
    · next hsign =>
      obtain ⟨p, hp, rfl⟩ := Option.map_eq_some_iff.mp h
      obtain ⟨k, hk⟩ : ∃ k, p + c.utf8Size = k + 1 := ⟨p + c.utf8Size - 1, by omega⟩
      have hslice : sliceTo (p + c.utf8Size) (c :: cs) = c :: sliceTo p cs := by
        rw [hk, sliceTo, ← hk, Nat.add_sub_cancel]
      rw [hslice, List.mem_cons, not_or]
      exact ⟨fun hc => hsign (.inr hc.symm), ih hp⟩

/-- A text that has its dash after cutting was not cut, and is not cut with anything behind it. -/
theorem stripZone_append (h : '-' ∈ stripZone cs) :
    stripZone cs = cs ∧ stripZone (cs ++ z) = cs ++ z := by
  have hnone : (findSign cs).filter (10 < ·) = none := by
    cases hfilter : (findSign cs).filter (10 < ·) with
    | none => rfl
    | some pos =>
      have hsign := (Option.filter_eq_some_iff.mp hfilter).1
      rw [stripZone, hfilter] at h
      exact absurd h (dash_not_mem_sliceTo hsign)
  have hsame : stripZone cs = cs := by rw [stripZone, hnone]
  rw [hsame] at h
  obtain ⟨pos, hpos⟩ := findSign_isSome h
  rw [hpos] at hnone
  exact ⟨hsame, by rw [stripZone, findSign_append hpos, hnone]⟩

/-! ### The decoders -/

/-- The parsers of a crate for a date and a time, with a fraction of the second and without, and
what it prints of bytes that are no text. -/
structure TimestampParsers (α : Type) where
  withFraction : List Char → Except String α
  withoutFraction : List Char → Except String α
  utf8Error : Bytes → String

/-- Both implementations of `from_text`, for the name the type has in errors. -/
def timestampFromText {α : Type} (typeName : String) (parsers : TimestampParsers α) (target : Oid)
    (bs : Bytes) : Parsed α :=
  if target ≠ oid.timestamp ∧ target ≠ oid.timestamptz then
    .err (.decode ("cannot decode oid " ++ toString target ++ " as " ++ typeName))
  else
    match fromUtf8 bs with
    | none => .err (.decode ("invalid UTF-8: " ++ parsers.utf8Error bs))
    | some s =>
      match parsers.withFraction (stripZone s.toList) with
      | .ok t => .ok t
      | .error _ =>
        match parsers.withoutFraction (stripZone s.toList) with
        | .ok t => .ok t
        | .error e => .err (.decode ("invalid timestamp: " ++ e))

/-- `NaiveDateTime::from_text`. -/
def naiveDateTimeFromText (c : Chrono) (parsers : TimestampParsers c.NaiveDateTime) :
    Oid → Bytes → Parsed c.NaiveDateTime :=
  timestampFromText "NaiveDateTime" parsers

/-- `PrimitiveDateTime::from_text`. -/
def primitiveDateTimeFromText (c : TimeCrate) (parsers : TimestampParsers c.PrimitiveDateTime) :
    Oid → Bytes → Parsed c.PrimitiveDateTime :=
  timestampFromText "Timestamp" parsers

/-- An offset from UTC as the server writes it: a sign, hours, and minutes where there are any. -/
def IsOffset (z : List Char) : Prop :=
  ∃ sign h₁ h₂, (sign = '+' ∨ sign = '-') ∧ h₁.isDigit = true ∧ h₂.isDigit = true ∧
    (z = [sign, h₁, h₂] ∨
      ∃ m₁ m₂, m₁.isDigit = true ∧ m₂.isDigit = true ∧ z = [sign, h₁, h₂, ':', m₁, m₂])

namespace TimestampParsers

variable {α : Type} (parsers : TimestampParsers α)

/-- One of the parsers takes the text. -/
def Takes (text : List Char) : Prop :=
  ∃ t, parsers.withFraction text = .ok t ∨ parsers.withoutFraction text = .ok t

/-- What is known of the parsers: the formats have a dash after the year, and what is left of a
text after the seconds is refused. -/
structure Lawful : Prop where
  dash : ∀ {text}, parsers.Takes text → '-' ∈ text
  trailing : ∀ {text z}, parsers.Takes text → IsOffset z → ¬ parsers.Takes (text ++ z)

variable {parsers} {typeName : String} {target : Oid} {s z : String} {t : α}

theorem takes_of_ok (h : timestampFromText typeName parsers target (utf8 s) = .ok t) :
    parsers.Takes (stripZone s.toList) := by
  rw [timestampFromText, fromUtf8_utf8] at h
  split at h
  · cases h
  dsimp only at h
  split at h
  · next t' hok => exact ⟨t', .inl hok⟩
  split at h
  · next t' hok => exact ⟨t', .inr hok⟩
  · cases h

theorem err_of_not_takes (h : ¬ parsers.Takes (stripZone s.toList)) :
    ∃ text, timestampFromText typeName parsers target (utf8 s) = .err (.decode text) := by
  rw [timestampFromText, fromUtf8_utf8]
  split
  · exact ⟨_, rfl⟩
  dsimp only
  split
  · next t' hok => exact absurd ⟨t', .inl hok⟩ h
  split
  · next t' hok => exact absurd ⟨t', .inr hok⟩ h
  · exact ⟨_, rfl⟩

/-- A text that decodes does not with an offset behind it. -/
theorem Lawful.err_of_offset (hparsers : parsers.Lawful)
    (h : timestampFromText typeName parsers oid.timestamp (utf8 s) = .ok t)
    (hz : IsOffset z.toList) :
    ∃ text, timestampFromText typeName parsers oid.timestamptz (utf8 (s ++ z)) =
      .err (.decode text) := by
  have htakes := takes_of_ok h
  obtain ⟨hsame, hlonger⟩ := stripZone_append (z := z.toList) (hparsers.dash htakes)
  apply err_of_not_takes
  rw [String.toList_append, hlonger]
  rw [hsame] at htakes
  exact hparsers.trailing htakes hz

end TimestampParsers

/-- With either crate, no timestamp that decodes for TIMESTAMP decodes for TIMESTAMPTZ once it has
the suffix of a zone. -/
theorem zone_suffix_never {crates : Crates}
    {chrono : TimestampParsers crates.chrono.NaiveDateTime} (hchrono : chrono.Lawful)
    {time : TimestampParsers crates.time.PrimitiveDateTime} (htime : time.Lawful) {s z : String}
    (hz : IsOffset z.toList) :
    (∀ t, naiveDateTimeFromText crates.chrono chrono oid.timestamp (utf8 s) = .ok t →
      naiveDateTimeFromText crates.chrono chrono oid.timestamptz (utf8 (s ++ z)) ≠
        naiveDateTimeFromText crates.chrono chrono oid.timestamp (utf8 s)) ∧
    (∀ t, primitiveDateTimeFromText crates.time time oid.timestamp (utf8 s) = .ok t →
      primitiveDateTimeFromText crates.time time oid.timestamptz (utf8 (s ++ z)) ≠
        primitiveDateTimeFromText crates.time time oid.timestamp (utf8 s)) := by
  constructor
  · intro t ht heq
    obtain ⟨text, herr⟩ := hchrono.err_of_offset ht hz
    rw [naiveDateTimeFromText] at *
    rw [ht, herr] at heq
    cases heq
  · intro t ht heq
    obtain ⟨text, herr⟩ := htime.err_of_offset ht hz
    rw [primitiveDateTimeFromText] at *
    rw [ht, herr] at heq
    cases heq

/-- Parsers that take one text, of which the format with a fraction takes it or not. -/
def onlyText {α : Type} (text : List Char) (fraction : Bool) (t : α) : TimestampParsers α where
  withFraction cs := if fraction = true ∧ cs = text then .ok t else .error "input"
  withoutFraction cs := if cs = text then .ok t else .error "trailing input"
  utf8Error _ := ""

theorem onlyText_lawful {α : Type} {text : List Char} (hdash : '-' ∈ text) (fraction : Bool)
    (t : α) : (onlyText text fraction t).Lawful := by
  have htakes : ∀ {cs}, (onlyText text fraction t).Takes cs → cs = text := by
    rintro cs ⟨t', h | h⟩
    · simp only [onlyText] at h
      split at h
      · next heq => exact heq.2
      · cases h
    · simp only [onlyText] at h
      split at h
      · next heq => exact heq
      · cases h
  refine ⟨fun h => htakes h ▸ hdash, fun {cs z} h hz hlonger => ?_⟩
  have hnil : z = [] := by
    have heq := htakes hlonger
    rw [htakes h] at heq
    exact List.append_right_eq_self.mp heq
  subst hnil
  obtain ⟨sign, h₁, h₂, -, -, -, hz | ⟨m₁, m₂, -, -, hz⟩⟩ := hz
  · cases hz
  · cases hz

theorem morningSecs_lt : 37845 < 86400 := by decide

theorem morningFrac_lt : 0 < 2000000000 := by decide

/-- 2024-01-15 10:30:45 in either crate. -/
def morning : Reference.NaiveDateTime :=
  ⟨Reference.sampleDate, ⟨37845, 0, morningSecs_lt, morningFrac_lt⟩⟩

def morningPrimitive : Reference.PrimitiveDateTime :=
  ⟨⟨2460325, by decide, by decide⟩, ⟨10, 30, 45, 0, by decide, by decide, by decide, by decide⟩⟩

theorem zone_suffix_never_utc :
    naiveDateTimeFromText Reference.chrono (onlyText "2024-01-15 10:30:45".toList true morning)
        oid.timestamptz (utf8 "2024-01-15 10:30:45+00") ≠
      naiveDateTimeFromText Reference.chrono (onlyText "2024-01-15 10:30:45".toList true morning)
        oid.timestamp (utf8 "2024-01-15 10:30:45") :=
  (@zone_suffix_never Reference.crates _
    (onlyText_lawful (show '-' ∈ "2024-01-15 10:30:45".toList by decide) true morning) _
    (onlyText_lawful (show '-' ∈ "2024-01-15 10:30:45".toList by decide) false morningPrimitive)
    "2024-01-15 10:30:45" "+00" ⟨'+', '0', '0', .inl rfl, rfl, rfl, .inl rfl⟩).1 morning
    (by decide +kernel)

/-- The timestamp itself decodes; with the suffix of UTC behind it the parsers are given all of
the text. -/
theorem zone_suffix_stays :
    naiveDateTimeFromText Reference.chrono (onlyText "2024-01-15 10:30:45".toList true morning)
        oid.timestamp (utf8 "2024-01-15 10:30:45") = .ok morning ∧
    naiveDateTimeFromText Reference.chrono (onlyText "2024-01-15 10:30:45".toList true morning)
        oid.timestamptz (utf8 "2024-01-15 10:30:45+00") =
      .err (.decode "invalid timestamp: trailing input") ∧
    primitiveDateTimeFromText Reference.time
        (onlyText "2024-01-15 10:30:45".toList false morningPrimitive)
        oid.timestamp (utf8 "2024-01-15 10:30:45") = .ok morningPrimitive ∧
    primitiveDateTimeFromText Reference.time
        (onlyText "2024-01-15 10:30:45".toList false morningPrimitive)
        oid.timestamptz (utf8 "2024-01-15 10:30:45+00") =
      .err (.decode "invalid timestamp: trailing input") := by
  refine ⟨?_, ?_, ?_, ?_⟩ <;> decide +kernel

end ZeroPostgres
