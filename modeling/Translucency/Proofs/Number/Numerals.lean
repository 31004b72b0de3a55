import Mathlib.Algebra.Group.Nat.Defs
import Translucency.Number.Numeral

/-!
# Decimal numerals

The reading of an integer allows digits of every script, blanks around it and underscores in it. For
plain ASCII digits none of that matters (`plain_of_signed`), and the reading gives the value of the
digits (`integer?_of_digits`), or its negation behind a minus sign (`integer?_of_minus`), as long as
they are not too many. The decimal text of a number is made of such digits, and they are not too
many exactly if the number is short, so it reads back then (`integer?_toString`,
`integer?_toString_int`).
-/

namespace Translucency.Numeral

open Text

/-! ## The value of digits -/

/-- Digits stand for a number below the power of ten that has one digit more. -/
theorem value_lt {ds : List Char} (h : ∀ c ∈ ds, c.isDigit = true) :
    value ds < 10 ^ ds.length := by
  -- The fold has read digits before these, so the bound is proved for any number to start from.
  have hfold : ∀ (ds : List Char) (acc : Nat), (∀ c ∈ ds, c.isDigit = true) →
      ds.foldl (fun n c => 10 * n + (c.toNat - '0'.toNat)) acc < (acc + 1) * 10 ^ ds.length := by
    intro ds
    induction ds with
    | nil =>
      intro acc _
      simp
    | cons c ds ih =>
      intro acc h
      have hc : c.toNat - '0'.toNat ≤ 9 := by
        obtain ⟨-, hnine⟩ := Char.isDigit_iff_toNat.1 (h c (List.mem_cons_self ..))
        have heq : '9'.toNat = '0'.toNat + 9 := rfl
        omega
      have hrest := ih (10 * acc + (c.toNat - '0'.toNat)) fun d hd =>
        h d (List.mem_cons_of_mem c hd)
      have hstep : (10 * acc + (c.toNat - '0'.toNat) + 1) * 10 ^ ds.length ≤
          (acc + 1) * 10 * 10 ^ ds.length :=
        Nat.mul_le_mul_right _ (by omega)
      rw [List.foldl_cons, List.length_cons, Nat.pow_succ, Nat.mul_comm (10 ^ ds.length) 10,
        ← Nat.mul_assoc]
      exact Nat.lt_of_lt_of_le hrest hstep
  have := hfold ds 0 h
  rwa [Nat.zero_add, Nat.one_mul] at this

/-! ## Reading digits -/

/-- An ASCII digit is the digit of its value. -/
theorem decimalValue?_of_isDigit {c : Char} (hc : c.isDigit = true) :
    decimalValue? c = some (c.toNat - '0'.toNat) := by
  obtain ⟨hzero, hnine⟩ := Char.isDigit_iff_toNat.1 hc
  have heq : '9'.toNat = '0'.toNat + 9 := rfl
  have hzero' : '0'.toNat = 0x30 := rfl
  have hfound : (decide (0x30 ≤ c.toNat) && decide (c.toNat < 0x30 + 10)) = true := by
    rw [Bool.and_eq_true, decide_eq_true_eq, decide_eq_true_eq]
    omega
  obtain ⟨rest, hrest⟩ : ∃ rest, decimalZeros = 0x30 :: rest := ⟨_, rfl⟩
  rw [decimalValue?, hrest, List.find?_cons]
  simp only [hfound]
  rfl

theorem digitIn?_of_isDigit {c : Char} (hc : c.isDigit = true) :
    digitIn? 10 c = some (c.toNat - '0'.toNat) := by
  obtain ⟨hzero, hnine⟩ := Char.isDigit_iff_toNat.1 hc
  have heq : '9'.toNat = '0'.toNat + 9 := rfl
  have hrange : '0' ≤ c ∧ c ≤ '9' := ⟨hzero, hnine⟩
  unfold digitIn? hexValue?
  rw [if_pos hrange, Option.filter_some, if_pos (by rw [decide_eq_true_eq]; omega)]

theorem digits?_of_digits {ds : List Char} (h : ∀ c ∈ ds, c.isDigit = true) (acc : Nat) :
    digits? 10 acc ds =
      some (ds.foldl (fun n c => 10 * n + (c.toNat - '0'.toNat)) acc) := by
  induction ds generalizing acc with
  | nil => rfl
  | cons c ds ih =>
    have hc := h c (List.mem_cons_self ..)
    have hunderscore : c ≠ '_' := by
      rintro rfl
      cases hc
    rw [digits?, digitIn?_of_isDigit hc]
    · simp only [Option.bind_eq_bind, Option.bind_some, List.foldl_cons]
      rw [ih (fun d hd => h d (List.mem_cons_of_mem c hd)), Nat.mul_comm]
    · rintro d s rfl
      exact absurd rfl hunderscore

theorem isBlank_of_isDigit {c : Char} (hc : c.isDigit = true) : isBlank c = false := by
  obtain ⟨hzero, hnine⟩ := Char.isDigit_iff_toNat.1 hc
  have hall : ∀ n ≤ 57, 48 ≤ n → blankSpans.covers n = false := by decide
  exact hall c.toNat hnine hzero

/-- Nothing is to be done to make ASCII digits and minus signs plain. -/
theorem plain_of_signed {s : List Char} (h : ∀ c ∈ s, c.isDigit = true ∨ c = '-') :
    plain s = s := by
  have hmargin : ∀ {s : List Char}, (∀ c ∈ s, c.isDigit = true ∨ c = '-') →
      s.dropWhile isMargin = s := by
    intro s h
    cases s with
    | nil => rfl
    | cons c s =>
      obtain hc | rfl := h c (List.mem_cons_self ..)
      · simp [isMargin, isBlank_of_isDigit hc]
      · rfl
  have hreverse : ∀ c ∈ s.reverse, c.isDigit = true ∨ c = '-' :=
    fun c hc => h c (List.mem_reverse.1 hc)
  simp only [plain, hmargin h, hmargin hreverse, List.reverse_reverse]
  refine (List.map_congr_left fun c hc => ?_).trans (List.map_id s)
  obtain hdigit | rfl := h c hc
  · obtain ⟨hzero, hnine⟩ := Char.isDigit_iff_toNat.1 hdigit
    simp only [decimalValue?_of_isDigit hdigit]
    rw [Nat.add_sub_cancel' hzero, Char.ofNat_toNat]
    rfl
  · rfl

theorem wholeDigits?_of_digits {ds : List Char} (h : ∀ c ∈ ds, c.isDigit = true) (hne : ds ≠ []) :
    wholeDigits? 10 ds = some (value ds) := by
  cases ds with
  | nil => exact absurd rfl hne
  | cons c ds =>
    have hc := h c (List.mem_cons_self ..)
    rw [wholeDigits?, digitIn?_of_isDigit hc]
    simp only [Option.bind_eq_bind, Option.bind_some]
    rw [digits?_of_digits fun d hd => h d (List.mem_cons_of_mem c hd)]
    simp [value]

/-- Decimal numerals have no mark of their base. -/
theorem dropBaseMark_ten (s : List Char) : dropBaseMark 10 s = s := by
  unfold dropBaseMark
  split
  · next hletter => cases hletter
  · rfl

/-- Of ASCII digits each one counts. -/
theorem isTooLong_of_digits {ds : List Char} (h : ∀ c ∈ ds, c.isDigit = true) :
    isTooLong 10 ds = decide (digitLimit < ds.length) := by
  have hall : ds.countP (· != '_') = ds.length := by
    rw [List.countP_eq_length]
    intro c hc
    rw [bne_iff_ne]
    rintro rfl
    exact absurd (h _ hc) (by decide)
  rw [isTooLong, hall]
  rfl

/-- **ASCII digits are read as their value**, unless they are too many. -/
theorem integer?_of_digits {ds : List Char} (h : ∀ c ∈ ds, c.isDigit = true) (hne : ds ≠ []) :
    integer? 10 ds = if digitLimit < ds.length then none else some (value ds : Int) := by
  have hsign : splitSign ds = (false, ds) := by
    unfold splitSign
    split
    · exact absurd (h '-' (List.mem_cons_self ..)) (by decide)
    · exact absurd (h '+' (List.mem_cons_self ..)) (by decide)
    · rfl
  simp only [integer?, plain_of_signed fun c hc => .inl (h c hc), hsign, dropBaseMark_ten,
    wholeDigits?_of_digits h hne, isTooLong_of_digits h, decide_eq_true_eq]
  rfl

/-- A minus sign before ASCII digits negates their value. -/
theorem integer?_of_minus {ds : List Char} (h : ∀ c ∈ ds, c.isDigit = true) (hne : ds ≠ []) :
    integer? 10 ('-' :: ds) = if digitLimit < ds.length then none else some (-(value ds : Int)) := by
  have hsigned : ∀ c ∈ '-' :: ds, c.isDigit = true ∨ c = '-' :=
    List.forall_mem_cons.2 ⟨.inr rfl, fun c hc => .inl (h c hc)⟩
  simp only [integer?, plain_of_signed hsigned, splitSign, dropBaseMark_ten,
    wholeDigits?_of_digits h hne, isTooLong_of_digits h, decide_eq_true_eq]
  rfl

theorem toList_toString (n : Nat) : (toString n).toList = Nat.toDigits 10 n := by
  simp [Nat.repr_eq_ofList_toDigits]

theorem isDigit_of_mem_toString {n : Nat} {c : Char} (hc : c ∈ (toString n).toList) :
    c.isDigit = true := by
  rw [toList_toString] at hc
  exact Nat.isDigit_of_mem_toDigits (by decide) (by decide) hc

theorem toString_ne_nil (n : Nat) : (toString n).toList ≠ [] := by
  rw [toList_toString]
  exact Nat.toDigits_ne_nil

theorem value_toString (n : Nat) : value (toString n).toList = n := by
  rw [toList_toString]
  exact Nat.ofDigitChars_toDigits (by decide) (by decide)

/-- The limit to what is read is the limit to what is written. -/
theorem digitLimit_lt_length_toString (n : Nat) :
    digitLimit < (toString n).toList.length ↔ isShort (n : Int) = false := by
  rw [toList_toString, ← Nat.not_le, Nat.length_toDigits_le_iff (by decide) (by decide), isShort,
    Int.natAbs_natCast, decide_eq_false_iff_not, Nat.pow_eq]

/-- The decimal text of a number reads back if the number is short. -/
theorem integer?_toString (n : Nat) :
    integer? 10 (toString n).toList = if isShort (n : Int) then some (n : Int) else none := by
  rw [integer?_of_digits (fun c => isDigit_of_mem_toString) (toString_ne_nil n), value_toString]
  simp only [digitLimit_lt_length_toString]
  cases isShort (n : Int) <;> rfl

/-- The text of an integer is that of a natural number, or a minus sign and such a text. -/
theorem toList_toString_int (n : Int) :
    (∃ m : Nat, n = m ∧ (toString n).toList = (toString m).toList) ∨
      ∃ m : Nat, n = -(m : Int) ∧ (toString n).toList = '-' :: (toString m).toList := by
  cases n with
  | ofNat m => exact .inl ⟨m, rfl, rfl⟩
  | negSucc m =>
    refine .inr ⟨m + 1, rfl, ?_⟩
    show (("-" ++ toString (m + 1) : String)).toList = _
    rw [String.toList_append]
    rfl

/-- The decimal text of an integer reads back if the integer is short. -/
theorem integer?_toString_int (n : Int) :
    integer? 10 (toString n).toList = if isShort n then some n else none := by
  obtain ⟨m, rfl, htext⟩ | ⟨m, rfl, htext⟩ := toList_toString_int n
  · rw [htext, integer?_toString]
  · have hshort : isShort (-(m : Int)) = isShort (m : Int) := by rw [isShort, isShort, Int.natAbs_neg]
    rw [htext, integer?_of_minus (fun c => isDigit_of_mem_toString) (toString_ne_nil m),
      value_toString, hshort]
    simp only [digitLimit_lt_length_toString]
    cases isShort (m : Int) <;> rfl

/-- The decimal text of an integer holds digits and a minus sign only. -/
theorem of_mem_toString_int {n : Int} {c : Char} (hc : c ∈ (toString n).toList) :
    c.isDigit = true ∨ c = '-' := by
  obtain ⟨m, -, htext⟩ | ⟨m, -, htext⟩ := toList_toString_int n
  · exact .inl (isDigit_of_mem_toString (htext ▸ hc))
  · rw [htext] at hc
    exact (List.mem_cons.1 hc).symm.imp_left isDigit_of_mem_toString

end Translucency.Numeral
