import Translucency.Json.Text

/-!
# Strings as a script writes them

A script of the window manager writes JSON strings with the least escaping: the quote, the backslash
and the control characters, and nothing else (`Json.minimalChar`). Line separators beyond ASCII are
among what it leaves alone, which is what the reading of whole lines stumbles over.

Reading goes by one step for each character (`readString_minimalChar`). From that a whole string
reads back, whatever stands behind it (`string?_minimal`), and a string that was cut off anywhere
before its closing quote does not read at all (`string?_of_prefix`).
-/

namespace Translucency.Json

open Text

/-! ## Writing -/

/-- The letter that stands after a backslash for a character, if there is one. -/
def shortEscape? : Char → Option Char
  | '"' => some '"'
  | '\\' => some '\\'
  | '\x08' => some 'b'
  | '\t' => some 't'
  | '\n' => some 'n'
  | '\x0c' => some 'f'
  | '\r' => some 'r'
  | _ => none

/-- One character of a string that is written with the least escaping. -/
def minimalChar (c : Char) : List Char :=
  match shortEscape? c with
  | some e => ['\\', e]
  | none => if c.toNat < 0x20 then unitText c.toNat else [c]

/-- A string that is written with the least escaping, without its quotes. -/
def minimal (s : List Char) : List Char := s.flatMap minimalChar

theorem escaped?_of_shortEscape? {c e : Char} (h : shortEscape? c = some e) :
    escaped? e = some c := by
  unfold shortEscape? at h
  split at h <;> cases h <;> rfl

/-- A character is written in one of three ways. -/
theorem minimalChar_cases (c : Char) :
    (∃ e, escaped? e = some c ∧ minimalChar c = ['\\', e]) ∨
      (c.toNat < 0x20 ∧ minimalChar c = unitText c.toNat) ∨
      (0x20 ≤ c.toNat ∧ minimalChar c = [c]) := by
  unfold minimalChar
  cases hshort : shortEscape? c with
  | some e => exact .inl ⟨e, escaped?_of_shortEscape? hshort, rfl⟩
  | none =>
    by_cases hcontrol : c.toNat < 0x20
    · exact .inr (.inl ⟨hcontrol, if_pos hcontrol⟩)
    · exact .inr (.inr ⟨Nat.le_of_not_lt hcontrol, if_neg hcontrol⟩)

theorem minimalChar_ne_nil (c : Char) : minimalChar c ≠ [] := by
  obtain ⟨e, -, h⟩ | ⟨-, h⟩ | ⟨-, h⟩ := minimalChar_cases c
  · simp [h]
  · simp [h, unitText]
  · simp [h]

/-! ## Units -/

theorem hexValue?_hexDigit {n : Nat} (h : n < 16) : hexValue? (hexDigit n) = some n := by
  have hall : ∀ n < 16, hexValue? (hexDigit n) = some n := by decide
  exact hall n h

theorem unit?_hexText {n : Nat} (h : n < 0x10000) (rest : List Char) :
    unit? (hexText 4 n ++ rest) = some (n, rest) := by
  have htext : hexText 4 n = [hexDigit (n / 4096 % 16), hexDigit (n / 256 % 16),
      hexDigit (n / 16 % 16), hexDigit (n % 16)] := by
    simp [hexText, List.range_succ]
  have hvalue : ((n / 4096 % 16 * 16 + n / 256 % 16) * 16 + n / 16 % 16) * 16 + n % 16 = n := by
    omega
  rw [htext]
  simp only [List.cons_append, List.nil_append, unit?]
  rw [hexValue?_hexDigit (by omega), hexValue?_hexDigit (by omega), hexValue?_hexDigit (by omega),
    hexValue?_hexDigit (by omega)]
  simp [hvalue]

/-! ## Reading -/

/-- A character outside of the escapes stands for itself. -/
theorem readString_plain {c : Char} (hquote : c ≠ '"') (hslash : c ≠ '\\')
    (hcontrol : ¬ c.toNat < 0x20) (fuel : Nat) (s : List Char) :
    readString (fuel + 1) (c :: s) = (readString fuel s).map fun r => (c :: r.1, r.2) := by
  have hnone : ¬ (c.toNat < 0x20 ∨ c = '\\') := by
    rintro (h | h)
    · exact hcontrol h
    · exact hslash h
  rw [readString]
  · rw [if_neg hnone]
    cases readString fuel s <;> rfl
  · exact hquote
  · exact fun rest h => absurd h hslash
  · exact fun e rest h => absurd h hslash

/-- A letter after a backslash stands for one character. -/
theorem readString_escaped {c e : Char} (he : escaped? e = some c) (fuel : Nat) (s : List Char) :
    readString (fuel + 1) ('\\' :: e :: s) =
      (readString fuel s).map fun r => (c :: r.1, r.2) := by
  rw [readString]
  · rw [he]
    cases readString fuel s <;> rfl
  · rintro rfl
    cases he

/-- So do the units after theirs. -/
theorem readString_units {c : Char} {units rest : List Char}
    (h : unitsChar? units = some (c, rest)) (fuel : Nat) :
    readString (fuel + 1) ('\\' :: 'u' :: units) =
      (readString fuel rest).map fun r => (c :: r.1, r.2) := by
  rw [readString, h]
  simp only [Option.bind_eq_bind, Option.bind_some]
  cases readString fuel rest <;> rfl

/-- A unit that is no half of a pair stands alone. -/
theorem unitsChar?_hexText {n : Nat} (hn : n < 0x10000) (hhigh : isHigh n = false)
    (hlow : isLow n = false) (s : List Char) :
    unitsChar? (hexText 4 n ++ s) = some (Char.ofNat n, s) := by
  unfold unitsChar?
  rw [unit?_hexText hn]
  simp [hhigh, unitChar, hlow]

theorem readString_unitText {n : Nat} (hn : n < 0x10000) (hhigh : isHigh n = false)
    (hlow : isLow n = false) (fuel : Nat) (s : List Char) :
    readString (fuel + 1) (unitText n ++ s) =
      (readString fuel s).map fun r => (Char.ofNat n :: r.1, r.2) := by
  rw [unitText, List.cons_append, List.cons_append,
    readString_units (unitsChar?_hexText hn hhigh hlow s)]

/-- One written character is one step of reading. -/
theorem readString_minimalChar (c : Char) (fuel : Nat) (s : List Char) :
    readString (fuel + 1) (minimalChar c ++ s) =
      (readString fuel s).map fun r => (c :: r.1, r.2) := by
  unfold minimalChar
  cases hshort : shortEscape? c with
  | some e => exact readString_escaped (escaped?_of_shortEscape? hshort) fuel s
  | none =>
    have hquote : c ≠ '"' := by
      rintro rfl
      cases hshort
    have hslash : c ≠ '\\' := by
      rintro rfl
      cases hshort
    by_cases hcontrol : c.toNat < 0x20
    · have hhigh : isHigh c.toNat = false := by
        rw [isHigh, Bool.and_eq_false_iff, decide_eq_false_iff_not]
        omega
      have hlow : isLow c.toNat = false := by
        rw [isLow, Bool.and_eq_false_iff, decide_eq_false_iff_not]
        omega
      simp only [if_pos hcontrol]
      rw [readString_unitText (by omega) hhigh hlow, Char.ofNat_toNat]
    · simp only [if_neg hcontrol]
      exact readString_plain hquote hslash hcontrol fuel s

/-- Whoever writes character by character, each as one step of reading, is read back. -/
theorem string?_flatMap {write : Char → List Char} (hne : ∀ c, write c ≠ [])
    (hstep : ∀ c fuel s, readString (fuel + 1) (write c ++ s) =
      (readString fuel s).map fun r => (c :: r.1, r.2)) (s rest : List Char) :
    string? (s.flatMap write ++ '"' :: rest) = some (s, rest) := by
  -- A step takes one unit of fuel for one character, and its text is never shorter than that.
  have hread : ∀ fuel, s.length < fuel →
      readString fuel (s.flatMap write ++ '"' :: rest) = some (s, rest) := by
    induction s with
    | nil =>
      intro fuel hfuel
      cases fuel with
      | zero => omega
      | succ fuel => rfl
    | cons c s ih =>
      intro fuel hfuel
      cases fuel with
      | zero => omega
      | succ fuel =>
        rw [List.flatMap_cons, List.append_assoc, hstep, ih fuel (by simpa using hfuel)]
        rfl
  have hlength : s.length ≤ (s.flatMap write).length := by
    clear hread
    induction s with
    | nil => exact Nat.le_refl 0
    | cons c s ih =>
      have hpos := List.length_pos_iff.2 (hne c)
      rw [List.flatMap_cons, List.length_append, List.length_cons]
      omega
  apply hread
  rw [List.length_append]
  omega

/-- **A written string reads back**, whatever stands behind its closing quote. -/
theorem string?_minimal (s rest : List Char) :
    string? (minimal s ++ '"' :: rest) = some (s, rest) :=
  string?_flatMap minimalChar_ne_nil readString_minimalChar s rest

/-! ## Strings that were cut off -/

theorem unit?_of_length_lt {s : List Char} (h : s.length < 4) : unit? s = none := by
  match s, h with
  | [], _ => rfl
  | [_], _ => rfl
  | [_, _], _ => rfl
  | [_, _, _], _ => rfl

/-- A unit that was cut off before its last digit does not read. -/
theorem readString_of_cut_unitText {n : Nat} {cut : List Char} (h : cut <+: unitText n)
    (hne : cut ≠ unitText n) (fuel : Nat) : readString fuel cut = none := by
  cases fuel with
  | zero => rfl
  | succ fuel =>
    -- Nothing is left, or the backslash, or the backslash with its letter and some digits.
    rw [unitText, List.prefix_cons_iff] at h
    obtain rfl | ⟨rest, rfl, h⟩ := h
    · rfl
    rw [List.prefix_cons_iff] at h
    obtain rfl | ⟨digits, rfl, h⟩ := h
    · simp [readString]
    have hlength : digits.length < 4 := by
      have hle := h.length_le
      have hfour : (hexText 4 n).length = 4 := by simp [hexText]
      have hnot : digits.length ≠ 4 := fun heq => hne (by rw [h.eq_of_length (by omega), unitText])
      omega
    have hunits : unitsChar? digits = none := by
      unfold unitsChar?
      rw [unit?_of_length_lt hlength]
      rfl
    rw [readString, hunits]
    rfl

/-- What was cut off within one written character does not read. -/
theorem readString_of_cut {c : Char} {cut : List Char} (h : cut <+: minimalChar c)
    (hne : cut ≠ minimalChar c) (fuel : Nat) : readString fuel cut = none := by
  cases fuel with
  | zero => rfl
  | succ fuel =>
    obtain ⟨e, -, hc⟩ | ⟨-, hc⟩ | ⟨-, hc⟩ := minimalChar_cases c
    · rw [hc] at h hne
      simp only [List.prefix_cons_iff, List.prefix_nil] at h
      obtain rfl | ⟨-, rfl, rfl | ⟨-, rfl, rfl⟩⟩ := h
      · rfl
      · simp [readString]
      · exact absurd rfl hne
    · rw [hc] at h hne
      exact readString_of_cut_unitText h hne _
    · rw [hc] at h hne
      simp only [List.prefix_cons_iff, List.prefix_nil] at h
      obtain rfl | ⟨-, rfl, rfl⟩ := h
      · rfl
      · exact absurd rfl hne

/-- **A string that was cut off before its closing quote does not read.** -/
theorem string?_of_prefix {s cut : List Char} (h : cut <+: minimal s) : string? cut = none := by
  have hread : ∀ fuel cut, cut <+: minimal s → readString fuel cut = none := by
    clear h
    induction s with
    | nil =>
      intro fuel cut h
      rw [List.prefix_nil.1 h]
      cases fuel <;> rfl
    | cons c s ih =>
      intro fuel cut h
      cases fuel with
      | zero => rfl
      | succ fuel =>
        rw [minimal, List.flatMap_cons, ← minimal] at h
        -- The cut lies behind the first written character, or within it.
        by_cases hwhole : minimalChar c <+: cut
        · obtain ⟨rest, rfl⟩ := hwhole
          rw [List.prefix_append_right_inj] at h
          rw [readString_minimalChar, ih fuel rest h]
          rfl
        · have hcut : cut <+: minimalChar c :=
            (List.prefix_or_prefix_of_prefix h (List.prefix_append ..)).resolve_right hwhole
          exact readString_of_cut hcut (fun heq => hwhole (heq ▸ List.prefix_refl _)) _
  exact hread _ _ h

end Translucency.Json
