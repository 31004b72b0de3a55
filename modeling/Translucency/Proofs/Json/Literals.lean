import Translucency.Json.Reader
import Translucency.Proofs.Json.Strings

/-!
# String literals that go into a script

Where a string is put into the source text of a script, it is written as a JSON string in printable
ASCII. Two readers look at that literal. One gives its value, and that has to be the string. The
other, which is a script's, has to find where the literal ends before it knows anything of values:
at the first quote that no backslash stands before (`untilQuote`). If it found another quote than
the one that was meant, the rest of the string would be part of the script.

A character is written in one of four ways (`writtenChar_cases`), and both readers take it in one
step. For the value there is more to it beyond sixteen bits, where a character is written as a pair
of units and has to be one character again (`readString_pair`). For the end it is enough to know that
quotes and backslashes are all behind a backslash.
-/

namespace Translucency.Json

open Text

/-! ## The four ways to write a character -/

/-- Whether a character is one of printable ASCII. -/
def isPlainAscii (c : Char) : Bool := 0x20 ≤ c.toNat && c.toNat ≤ 0x7e

/-- The units of a pair. -/
def highUnit (c : Char) : Nat := 0xd800 + (c.toNat - 0x10000) / 0x400

def lowUnit (c : Char) : Nat := 0xdc00 + (c.toNat - 0x10000) % 0x400

theorem writtenChar_of_shortEscape? {c e : Char} (h : shortEscape? c = some e) :
    writtenChar c = ['\\', e] := by
  unfold shortEscape? at h
  split at h <;> cases h <;> rfl

theorem writtenChar_of_shortEscape?_eq_none {c : Char} (h : shortEscape? c = none) :
    writtenChar c =
      if isPlainAscii c then [c]
      else if c.toNat < 0x10000 then unitText c.toNat
      else unitText (highUnit c) ++ unitText (lowUnit c) := by
  have hne : ∀ d e, shortEscape? d = some e → c ≠ d := by
    rintro d e hd rfl
    rw [hd] at h
    cases h
  have hquote := hne '"' '"' rfl
  have hslash := hne '\\' '\\' rfl
  have hescape : ¬ (c = '"' ∨ c = '\\') := not_or.2 ⟨hquote, hslash⟩
  rw [writtenChar]
  simp only [if_neg hescape, if_neg (hne '\n' 'n' rfl), if_neg (hne '\r' 'r' rfl),
    if_neg (hne '\t' 't' rfl), if_neg (hne '\x08' 'b' rfl), if_neg (hne '\x0c' 'f' rfl),
    isPlainAscii, Bool.and_eq_true, decide_eq_true_eq, highUnit, lowUnit]

theorem writtenChar_cases (c : Char) :
    (∃ e, shortEscape? c = some e ∧ writtenChar c = ['\\', e]) ∨
      (c ≠ '"' ∧ c ≠ '\\' ∧ isPlainAscii c = true ∧ writtenChar c = [c]) ∨
      (c.toNat < 0x10000 ∧ writtenChar c = unitText c.toNat) ∨
      (0x10000 ≤ c.toNat ∧ writtenChar c = unitText (highUnit c) ++ unitText (lowUnit c)) := by
  cases hshort : shortEscape? c with
  | some e => exact .inl ⟨e, rfl, writtenChar_of_shortEscape? hshort⟩
  | none =>
    have hwritten := writtenChar_of_shortEscape?_eq_none hshort
    by_cases hplain : isPlainAscii c = true
    · rw [if_pos hplain] at hwritten
      refine .inr (.inl ⟨?_, ?_, hplain, hwritten⟩)
      · rintro rfl
        cases hshort
      · rintro rfl
        cases hshort
    · rw [if_neg hplain] at hwritten
      by_cases hsmall : c.toNat < 0x10000
      · exact .inr (.inr (.inl ⟨hsmall, by rw [hwritten, if_pos hsmall]⟩))
      · exact .inr (.inr (.inr ⟨Nat.le_of_not_lt hsmall, by rw [hwritten, if_neg hsmall]⟩))

theorem writtenChar_ne_nil (c : Char) : writtenChar c ≠ [] := by
  obtain ⟨e, -, h⟩ | ⟨-, -, -, h⟩ | ⟨-, h⟩ | ⟨-, h⟩ := writtenChar_cases c
  · simp [h]
  · simp [h]
  · simp [h, unitText]
  · simp [h, unitText]

/-! ## The value -/

/-- No character is half of a pair. -/
theorem not_half (c : Char) : isHigh c.toNat = false ∧ isLow c.toNat = false := by
  have hvalid : c.toNat < 0xd800 ∨ 0xdfff < c.toNat ∧ c.toNat < 0x110000 := c.valid
  rw [isHigh, isLow, Bool.and_eq_false_iff, Bool.and_eq_false_iff, decide_eq_false_iff_not,
    decide_eq_false_iff_not, decide_eq_false_iff_not, decide_eq_false_iff_not]
  omega

/-- A character beyond sixteen bits is written as a pair that gives it again. -/
theorem pairChar_units {c : Char} (h : 0x10000 ≤ c.toNat) :
    isHigh (highUnit c) = true ∧ isLow (lowUnit c) = true ∧
      pairChar (highUnit c) (lowUnit c) = c := by
  have hvalid : c.toNat < 0xd800 ∨ 0xdfff < c.toNat ∧ c.toNat < 0x110000 := c.valid
  have hpoint : 0x10000 + (highUnit c - 0xd800) * 0x400 + (lowUnit c - 0xdc00) = c.toNat := by
    unfold highUnit lowUnit
    omega
  refine ⟨?_, ?_, ?_⟩
  · rw [isHigh, Bool.and_eq_true, decide_eq_true_eq, decide_eq_true_eq, highUnit]
    omega
  · rw [isLow, Bool.and_eq_true, decide_eq_true_eq, decide_eq_true_eq, lowUnit]
    omega
  · rw [pairChar, hpoint, Char.ofNat_toNat]

/-- Two units that belong together are one character. -/
theorem readString_pair {high low : Nat} (hhigh : isHigh high = true) (hlow : isLow low = true)
    (fuel : Nat) (s : List Char) :
    readString (fuel + 1) (unitText high ++ unitText low ++ s) =
      (readString fuel s).map fun r => (pairChar high low :: r.1, r.2) := by
  have hranges : high < 0x10000 ∧ low < 0x10000 := by
    rw [isHigh, Bool.and_eq_true, decide_eq_true_eq, decide_eq_true_eq] at hhigh
    rw [isLow, Bool.and_eq_true, decide_eq_true_eq, decide_eq_true_eq] at hlow
    omega
  have hunits : unitsChar? (hexText 4 high ++ (unitText low ++ s)) =
      some (pairChar high low, s) := by
    unfold unitsChar?
    rw [unit?_hexText hranges.1]
    simp only [unitText, List.cons_append, Option.bind_eq_bind, Option.bind_some, hhigh, if_true,
      unit?_hexText hranges.2, hlow]
  rw [List.append_assoc, unitText, List.cons_append, List.cons_append, readString_units hunits]

/-- One written character is one step of reading. -/
theorem readString_writtenChar (c : Char) (fuel : Nat) (s : List Char) :
    readString (fuel + 1) (writtenChar c ++ s) =
      (readString fuel s).map fun r => (c :: r.1, r.2) := by
  obtain ⟨e, he, h⟩ | ⟨hquote, hslash, hplain, h⟩ | ⟨hsmall, h⟩ | ⟨hlarge, h⟩ :=
    writtenChar_cases c
  · rw [h]
    exact readString_escaped (escaped?_of_shortEscape? he) fuel s
  · rw [isPlainAscii, Bool.and_eq_true, decide_eq_true_eq] at hplain
    rw [h]
    exact readString_plain hquote hslash (Nat.not_lt_of_le hplain.1) fuel s
  · obtain ⟨hhigh, hlow⟩ := not_half c
    rw [h, readString_unitText hsmall hhigh hlow, Char.ofNat_toNat]
  · obtain ⟨hhigh, hlow, hpair⟩ := pairChar_units hlarge
    rw [h, readString_pair hhigh hlow, hpair]

/-- **The value of a literal is the string that was written**, and there is nothing else in it. -/
theorem read?_written (s : List Char) : read? (written s) = some (.text (String.ofList s)) := by
  have hstring : string? (s.flatMap writtenChar ++ ['"']) = some (s, []) :=
    string?_flatMap writtenChar_ne_nil readString_writtenChar s []
  have hvalue (room fuel : Nat) :
      readValue room (fuel + 1) (written s) = .ok (.text (String.ofList s), []) := by
    rw [written, List.cons_append, readValue]
    · rw [scalar?, hstring]
      rfl
    · exact nofun
    · exact nofun
  have hspaces : skipSpaces (written s) = written s := rfl
  rw [read?, read, hspaces, hvalue]
  rfl

example : written "\x7ba\"\u2028😀".toList =
    "\"\x7ba\\\"\\u2028\\ud83d\\ude00\"".toList := by decide

/-- Different strings have different literals. -/
theorem written_inj {s t : List Char} : written s = written t ↔ s = t := by
  refine ⟨fun h => ?_, fun h => by rw [h]⟩
  have hvalue := read?_written s
  rw [h, read?_written t] at hvalue
  injection hvalue with hvalue
  injection hvalue with hvalue
  exact (String.ofList_injective hvalue).symm

/-! ## The characters -/

theorem isPlainAscii_hexText {width n : Nat} :
    ∀ c ∈ hexText width n, isPlainAscii c = true ∧ c ≠ '"' ∧ c ≠ '\\' := by
  have hall : ∀ k < 16, isPlainAscii (hexDigit k) = true ∧ hexDigit k ≠ '"' ∧ hexDigit k ≠ '\\' := by
    decide
  intro c hc
  obtain ⟨place, -, rfl⟩ := List.mem_map.1 hc
  exact hall _ (Nat.mod_lt _ (by decide))

theorem isPlainAscii_of_shortEscape? {c e : Char} (h : shortEscape? c = some e) :
    isPlainAscii e = true := by
  unfold shortEscape? at h
  split at h <;> cases h <;> rfl

theorem isPlainAscii_unitText (n : Nat) : ∀ c ∈ unitText n, isPlainAscii c = true := by
  rw [unitText, List.forall_mem_cons, List.forall_mem_cons]
  exact ⟨rfl, rfl, fun c hc => (isPlainAscii_hexText c hc).1⟩

theorem isPlainAscii_writtenChar (c : Char) : ∀ d ∈ writtenChar c, isPlainAscii d = true := by
  obtain ⟨e, he, h⟩ | ⟨-, -, hplain, h⟩ | ⟨-, h⟩ | ⟨-, h⟩ := writtenChar_cases c
  · rw [h, List.forall_mem_cons, List.forall_mem_singleton]
    exact ⟨rfl, isPlainAscii_of_shortEscape? he⟩
  · rwa [h, List.forall_mem_singleton]
  · rw [h]
    exact isPlainAscii_unitText _
  · rw [h, List.forall_mem_append]
    exact ⟨isPlainAscii_unitText _, isPlainAscii_unitText _⟩

theorem isPlainAscii_written (s : List Char) : ∀ d ∈ written s, isPlainAscii d = true := by
  rw [written, List.cons_append, List.forall_mem_cons, List.forall_mem_append,
    List.forall_mem_singleton]
  refine ⟨rfl, fun d hd => ?_, rfl⟩
  obtain ⟨c, -, hd⟩ := List.mem_flatMap.1 hd
  exact isPlainAscii_writtenChar c d hd

/-! ## The end -/

/-- What stands before the first quote that no backslash takes, and what follows that quote. -/
def untilQuote : List Char → Option (List Char × List Char)
  | [] => none
  | '"' :: rest => some ([], rest)
  | '\\' :: e :: rest => (untilQuote rest).map fun r => ('\\' :: e :: r.1, r.2)
  | c :: rest => (untilQuote rest).map fun r => (c :: r.1, r.2)

theorem untilQuote_escaped (e : Char) (s : List Char) :
    untilQuote ('\\' :: e :: s) = (untilQuote s).map fun r => ('\\' :: e :: r.1, r.2) := rfl

theorem untilQuote_append {t : List Char} (h : ∀ c ∈ t, c ≠ '"' ∧ c ≠ '\\') (s : List Char) :
    untilQuote (t ++ s) = (untilQuote s).map fun r => (t ++ r.1, r.2) := by
  induction t with
  | nil => simp
  | cons c t ih =>
    obtain ⟨⟨hquote, hslash⟩, ht⟩ := List.forall_mem_cons.1 h
    rw [List.cons_append, untilQuote]
    · rw [ih ht, Option.map_map]
      rfl
    · exact hquote
    · exact fun e rest hc => absurd hc hslash

theorem untilQuote_unitText (n : Nat) (s : List Char) :
    untilQuote (unitText n ++ s) = (untilQuote s).map fun r => (unitText n ++ r.1, r.2) := by
  have hdigits := untilQuote_append (t := hexText 4 n)
    (fun c hc => (isPlainAscii_hexText c hc).2) s
  rw [unitText, List.cons_append, List.cons_append, untilQuote_escaped, hdigits, Option.map_map]
  rfl

/-- One written character is passed over as a whole. -/
theorem untilQuote_writtenChar (c : Char) (s : List Char) :
    untilQuote (writtenChar c ++ s) = (untilQuote s).map fun r => (writtenChar c ++ r.1, r.2) := by
  obtain ⟨e, -, h⟩ | ⟨hquote, hslash, -, h⟩ | ⟨-, h⟩ | ⟨-, h⟩ := writtenChar_cases c
  · rw [h]
    exact untilQuote_escaped e s
  · rw [h]
    refine untilQuote_append ?_ s
    rw [List.forall_mem_singleton]
    exact ⟨hquote, hslash⟩
  · rw [h]
    exact untilQuote_unitText _ s
  · rw [h, List.append_assoc, untilQuote_unitText, untilQuote_unitText, Option.map_map]
    simp only [Function.comp_def, List.append_assoc]

/-- **A literal ends at its own closing quote**, whatever stands behind it. -/
theorem untilQuote_written (s rest : List Char) :
    untilQuote (s.flatMap writtenChar ++ '"' :: rest) = some (s.flatMap writtenChar, rest) := by
  induction s with
  | nil => rfl
  | cons c s ih =>
    rw [List.flatMap_cons, List.append_assoc, untilQuote_writtenChar, ih]
    rfl

end Translucency.Json
