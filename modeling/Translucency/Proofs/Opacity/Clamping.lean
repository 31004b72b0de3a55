import Translucency.Opacity.Clamp
import Translucency.Proofs.Act
import Translucency.Proofs.Number.Reading
import Translucency.Proofs.Printing

/-!
# What percentage a value stands for

The opacity may be configured by any value, and something sensible has to come of it. A value that
is read as a finite number stands for that number, limited to what is allowed; a boolean, although
it is read as one or zero, and everything that is not read as a finite number stand for the default
(`Opacity.Stands`). Which values are read as numbers, and as which, is said here without the reader
(`Value.ReadsAs`): by the grammar of numerals for texts and bytes, and by rounding for integers.

Two kinds of values are left over. An integer beyond the floating point numbers is not read as an
infinite one, which would stand for the default, nor is it refused as a text that spells nothing is.
Reading it is a mishap of its own that nobody on the way handles, and the opacity is never computed.
And a value that stands for the default is printed into the log before the default is taken, so a
collection that cannot be printed ends it as well. `Opacity.clamp_returns_iff` says that there is no
other exception.
-/

namespace Translucency

/-! ## Values that are read as numbers -/

namespace Value

/-- The values that are read as floating point numbers, and the numbers. -/
inductive ReadsAs : Value → Binary64 → Prop
  | bool (b : Bool) : ReadsAs (.bool b) (.ofInt (if b then 1 else 0))
  | int {n : Int} {x : Binary64} (h : Binary64.Rounds (n < 0) n.natAbs 1 x)
    (hfinite : x.isFinite = true) : ReadsAs (.int n) x
  | float (x : Binary64) : ReadsAs (.float x) x
  | text {s : String} {x : Binary64} (h : Numeral.Spells s.toList x) : ReadsAs (.text s) x
  | bytes {b : List UInt8} {x : Binary64} (hascii : ∀ c ∈ b, c.toNat < 128)
    (h : Numeral.Spells (b.map fun c => Char.ofNat c.toNat) x) : ReadsAs (.bytes b) x

/-- Whether a value is an integer beyond the floating point numbers. -/
def IsTooLarge (v : Value) : Prop := ∃ n, v = .int n ∧ Binary64.firstTooLarge ≤ n.natAbs

theorem toBinary64_int (n : Int) : (Value.int n).toBinary64 =
    if n.natAbs < Binary64.firstTooLarge then .ok (.ofInt n) else .error .tooLarge := by
  simp only [toBinary64, Binary64.isFinite_ofInt_iff]

/-- No numeral holds a character that is neither one of a number nor a blank. -/
theorem question_notMem_of_spells {s : List Char} {x : Binary64} (h : Numeral.Spells s x) :
    '?' ∉ s := by
  obtain ⟨left, text, right, rfl, hleft, hright, htext⟩ := h
  have hmargin : Numeral.isMargin '?' = false := by decide
  simp only [List.mem_append, not_or]
  refine ⟨fun h => ?_, fun h => ?_, fun h => ?_⟩
  · rw [hleft _ h] at hmargin
    cases hmargin
  · rcases htext.isFloatChar _ h with ⟨v, hv⟩ | hmark
    · cases hv
    · revert hmark
      decide
  · rw [hright _ h] at hmargin
    cases hmargin

/-- A byte beyond ASCII stands in no numeral. -/
theorem spells_ascii_iff {b : List UInt8} {x : Binary64} :
    Numeral.Spells (b.map fun c => if c.toNat < 128 then Char.ofNat c.toNat else '?') x ↔
      (∀ c ∈ b, c.toNat < 128) ∧ Numeral.Spells (b.map fun c => Char.ofNat c.toNat) x := by
  by_cases hascii : ∀ c ∈ b, c.toNat < 128
  · have hmap : (b.map fun c => if c.toNat < 128 then Char.ofNat c.toNat else '?') =
        b.map fun c => Char.ofNat c.toNat :=
      List.map_congr_left fun c hc => if_pos (hascii c hc)
    rw [hmap, and_iff_right hascii]
  · refine iff_of_false (fun h => hascii fun c hc => ?_) fun h => hascii h.1
    by_contra hlarge
    exact question_notMem_of_spells h (List.mem_map.2 ⟨c, hc, if_neg hlarge⟩)

/-- A value is read as a number exactly if the number is the one it is to be read as. -/
theorem toBinary64_eq_ok_iff {v : Value} {x : Binary64} : v.toBinary64 = .ok x ↔ v.ReadsAs x := by
  constructor
  · intro h
    cases v with
    | bool b => exact Except.ok.inj h ▸ .bool b
    | int n =>
      rw [toBinary64_int] at h
      split at h
      · next hlt =>
        rw [← Except.ok.inj h]
        exact .int ((Binary64.rounds_iff (by decide)).2 rfl) ((Binary64.isFinite_ofInt_iff n).2 hlt)
      · cases h
    | float y =>
      cases h
      exact .float x
    | text s =>
      simp only [toBinary64] at h
      split at h
      · next y hread =>
        cases h
        exact .text ((Numeral.float?_eq_some_iff ..).1 hread)
      · cases h
    | bytes b =>
      simp only [toBinary64] at h
      split at h
      · next y hread =>
        cases h
        obtain ⟨hascii, hspells⟩ := spells_ascii_iff.1 ((Numeral.float?_eq_some_iff ..).1 hread)
        exact .bytes hascii hspells
      · cases h
    | null | moment | list | set | map => cases h
  · -- One case for each kind of value that is read at all.
    rintro (b | ⟨hrounds, hfinite⟩ | y | hspells | ⟨hascii, hspells⟩)
    · rfl
    · have hx : x = .ofInt _ := (Binary64.rounds_iff (by decide)).1 hrounds
      rw [hx, Binary64.isFinite_ofInt_iff] at hfinite
      rw [toBinary64_int, if_pos hfinite, hx]
    · rfl
    · simp only [toBinary64, (Numeral.float?_eq_some_iff ..).2 hspells]
    · simp only [toBinary64,
        (Numeral.float?_eq_some_iff ..).2 (spells_ascii_iff.2 ⟨hascii, hspells⟩)]

/-- The one mishap that is none of the value's kind or spelling. -/
theorem toBinary64_eq_tooLarge_iff {v : Value} :
    v.toBinary64 = .error .tooLarge ↔ v.IsTooLarge := by
  constructor
  · intro h
    cases v with
    | int n =>
      rw [toBinary64_int] at h
      split at h
      · cases h
      · next hlarge => exact ⟨n, rfl, Nat.le_of_not_lt hlarge⟩
    | text s =>
      simp only [toBinary64] at h
      split at h <;> cases h
    | bytes b =>
      simp only [toBinary64] at h
      split at h <;> cases h
    | null | bool | float | moment | list | set | map => cases h
  · rintro ⟨n, rfl, hlarge⟩
    rw [toBinary64_int, if_neg (Nat.not_lt.2 hlarge)]

end Value

namespace Opacity

open Binary64

/-! ## Percentages -/

/-- The size of the percentage that a value stands for, in grains: its own if it is no boolean and
is read as a finite number, limited to what is allowed, and seventy in every other case. -/
inductive Stands (v : Value) : Int → Prop
  | read {negative : Bool} {rank : Fin 0x7ff0000000000000} (hbool : ∀ b, v ≠ .bool b)
    (h : v.ReadsAs (.finite negative rank)) :
    Stands v (max (30 * one) (min (100 * one) (signedGrains negative rank)))
  | default (h : ∀ negative rank, v.ReadsAs (.finite negative rank) → ∃ b, v = .bool b) :
    Stands v (70 * one)

theorem hasSize_percent : (percent 30).hasSize (30 * one) = true ∧
    (percent 70).hasSize (70 * one) = true ∧ (percent 100).hasSize (100 * one) = true := by
  decide +kernel

/-- A finite number is limited by its size. -/
theorem hasSize_limit (negative : Bool) (rank : Fin 0x7ff0000000000000) :
    (limit (.finite negative rank)).hasSize
      (max (30 * one) (min (100 * one) (signedGrains negative rank))) = true := by
  obtain ⟨hleast, -, hgreatest⟩ := hasSize_percent
  have hbelow : (Binary64.finite negative rank).below (leastPercent * one) =
      decide (signedGrains negative rank < 30 * one) := rfl
  have habove : (Binary64.finite negative rank).above (greatestPercent * one) =
      decide (100 * one < signedGrains negative rank) := rfl
  have hself : (Binary64.finite negative rank).hasSize (signedGrains negative rank) = true :=
    beq_self_eq_true _
  rw [limit, hbelow, habove]
  simp only [decide_eq_true_eq]
  -- The two comparisons are those of the larger and of the smaller number.
  generalize signedGrains negative rank = size at hself ⊢
  split_ifs with hlow hhigh
  · have hsize : max (30 * (one : Int)) (min (100 * one) size) = 30 * one := by omega
    rw [hsize]
    exact hleast
  · have hsize : max (30 * (one : Int)) (min (100 * one) size) = 100 * one := by omega
    rw [hsize]
    exact hgreatest
  · have hsize : max (30 * (one : Int)) (min (100 * one) size) = size := by omega
    rw [hsize]
    exact hself

/-- An opacity lies between the numbers nearest to 0.30 and to 1. -/
def InRange (x : Binary64) : Prop :=
  ∃ rank, x = .finite false rank ∧ nearestRank 30 100 ≤ rank ∧ rank ≤ nearestRank 100 100

theorem Stands.bounds {v : Value} {size : Int} (h : Stands v size) :
    30 * one ≤ size ∧ size ≤ 100 * one := by
  have hpos : (0 : Int) ≤ one := Int.natCast_nonneg _
  cases h with
  | read => omega
  | default => omega

theorem inRange_divNat {p : Binary64} {size : Int} (hp : p.hasSize size = true)
    (hlow : 30 * one ≤ size) (hhigh : size ≤ 100 * one) : InRange (p.divNat 100) := by
  cases p with
  | nan => cases hp
  | infinity => cases hp
  | finite negative rank =>
    have hsize : signedGrains negative rank = size := beq_iff_eq.1 hp
    have hpos : (0 : Int) < one := by decide +kernel
    cases negative with
    | true =>
      -- A size with a sign is not positive.
      have hneg : size = -(grains rank : Int) := hsize.symm
      omega
    | false =>
      have hgrains : (grains rank : Int) = size := hsize
      -- Rounding keeps the order, so it is enough to round the two ends.
      have hmin : nearestRank (30 * one) (one * 100) = nearestRank 30 100 := by decide +kernel
      have hmax : nearestRank (100 * one) (one * 100) = nearestRank 100 100 := by decide +kernel
      have hfinite : nearestRank 100 100 < 0x7ff0000000000000 := by decide +kernel
      have hlower := nearestRank_mono (show 30 * one ≤ grains rank by omega) (one * 100)
      have hupper := nearestRank_mono (show grains rank ≤ 100 * one by omega) (one * 100)
      rw [hmin] at hlower
      rw [hmax] at hupper
      have hlt := Nat.lt_of_le_of_lt hupper hfinite
      refine ⟨⟨_, hlt⟩, ?_, hlower, hupper⟩
      rw [divNat, ofRatio, dif_pos hlt]

/-! ## Values that are printed -/

section Printing

variable {v : Value} {room : Nat}

/-- Only a collection can be too much to print, if it is no integer beyond the floating point
numbers. -/
theorem isPrintable_of_ne_collection (hlarge : ¬ v.IsTooLarge)
    (hlist : ∀ items, v ≠ .list items) (hset : ∀ items, v ≠ .set items)
    (hmap : ∀ entries, v ≠ .map entries) : v.IsPrintable room := by
  rw [← Value.obstacle?_eq_none_iff]
  cases v with
  | int n =>
    have hlt : n.natAbs < firstTooLarge := Nat.lt_of_not_le fun h => hlarge ⟨n, rfl, h⟩
    simp [Value.obstacle?, Numeral.isShort_of_lt hlt]
  | list items => exact absurd rfl (hlist items)
  | set items => exact absurd rfl (hset items)
  | map entries => exact absurd rfl (hmap entries)
  | null | bool | float | text | bytes | moment => simp [Value.obstacle?]

/-- What is read as a number can be printed. -/
theorem isPrintable_of_readsAs {x : Binary64} (h : v.ReadsAs x) : v.IsPrintable room := by
  have hread := Value.toBinary64_eq_ok_iff.2 h
  refine isPrintable_of_ne_collection (fun hlarge => ?_) ?_ ?_ ?_
  · rw [Value.toBinary64_eq_tooLarge_iff.2 hlarge] at hread
    cases hread
  all_goals
    rintro parts rfl
    cases h

end Printing

/-! ## The computation -/

variable {σ : Type}

section Reading

variable {v : Value} {x : Binary64} {room : Nat}

theorem run_replace_of_isPrintable (flaw : String) (h : v.IsPrintable room) (s : σ) :
    ∃ log, (replace room flaw v).run s = ⟨.ok (percent defaultPercent), s, log⟩ := by
  simp only [replace, Value.quote_of_isPrintable h]
  exact ⟨_, rfl⟩

theorem run_replace_of_obstacle (flaw : String) {fault : Fault}
    (h : v.obstacle? room = some fault) (s : σ) :
    (replace room flaw v).run s = ⟨.error fault, s, []⟩ := by
  simp only [replace, Value.quote_of_obstacle h]
  rfl

theorem run_readPercent_of_finite (h : (configured v).toBinary64 = .ok x) (hx : x.isFinite = true)
    (room : Nat) (s : σ) : (readPercent v room).run s = ⟨.ok x, s, []⟩ := by
  simp only [readPercent, h, hx]
  rfl

theorem run_readPercent_of_tooLarge (h : (configured v).toBinary64 = .error .tooLarge) (s : σ) :
    (readPercent v room).run s = ⟨.error (.mishap .tooLarge), s, []⟩ := by
  simp only [readPercent, h]
  rfl

/-- What is neither read as a finite number nor too large for one is replaced. -/
theorem exists_readPercent_eq_replace (room : Nat) (hlarge : (configured v).toBinary64 ≠ .error .tooLarge)
    (hno : ∀ x, (configured v).toBinary64 = .ok x → x.isFinite = false) :
    ∃ flaw, (readPercent v room : Act σ Binary64) = replace room flaw (configured v) := by
  cases h : (configured v).toBinary64 with
  | ok x =>
    simp only [readPercent, h, hno x h]
    exact ⟨_, rfl⟩
  | error mishap =>
    cases mishap with
    | tooLarge => exact absurd h hlarge
    | _ =>
      simp only [readPercent, h]
      exact ⟨_, rfl⟩

end Reading

theorem configured_eq {v : Value} (hnull : v ≠ .null) (hbool : ∀ b, v ≠ .bool b) :
    configured v = v := by
  cases v with
  | null => exact absurd rfl hnull
  | bool b => exact absurd rfl (hbool b)
  | _ => rfl

/-- Where there is no finite number to read, the default is taken, without a word if the value
configures nothing and by way of the log otherwise. -/
theorem run_readPercent_of_default {v : Value} (hv : ¬ v.IsTooLarge)
    (hno : ∀ negative rank, v.ReadsAs (.finite negative rank) → ∃ b, v = .bool b) (room : Nat) :
    (∀ s : σ, (readPercent v room).run s = ⟨.ok (percent defaultPercent), s, []⟩) ∧
        v.IsPrintable room ∨
      ∃ flaw, (readPercent v room : Act σ Binary64) = replace room flaw v := by
  have hseventy : (Value.int defaultPercent).toBinary64 = .ok (percent defaultPercent) := by
    rw [Value.toBinary64_int, if_pos (by decide +kernel)]
    rfl
  -- Null and booleans are replaced before anything is read.
  by_cases hnothing : v = .null ∨ ∃ b, v = .bool b
  · have hconfigured : configured v = .int defaultPercent := by
      obtain rfl | ⟨b, rfl⟩ := hnothing <;> rfl
    refine .inl ⟨run_readPercent_of_finite (by rw [hconfigured, hseventy]) (by decide +kernel) room, ?_⟩
    refine isPrintable_of_ne_collection hv ?_ ?_ ?_
    all_goals
      rintro parts rfl
      simp at hnothing
  · obtain ⟨hnull, hbool⟩ := not_or.1 hnothing
    have hself := configured_eq hnull (not_exists.1 hbool)
    have hreplace := exists_readPercent_eq_replace (σ := σ) (v := v) room
    rw [hself] at hreplace
    refine .inr (hreplace ?_ fun x hread => ?_)
    · exact fun hread => hv (Value.toBinary64_eq_tooLarge_iff.1 hread)
    · cases x with
      | finite negative rank => exact absurd (hno _ _ (Value.toBinary64_eq_ok_iff.1 hread)) hbool
      | nan => rfl
      | infinity => rfl

/-- The percentage that is computed is the one that the value stands for. -/
theorem exists_run_readPercent {v : Value} {room : Nat} (hv : ¬ v.IsTooLarge)
    (hprint : v.IsPrintable room) (s : σ) :
    ∃ x log, (readPercent v room).run s = ⟨.ok x, s, log⟩ ∧
      ∃ size, Stands v size ∧ (limit x).hasSize size = true := by
  by_cases hno : ∀ negative rank, v.ReadsAs (.finite negative rank) → ∃ b, v = .bool b
  · have hdefault : ∃ log, (readPercent v room).run s = ⟨.ok (percent defaultPercent), s, log⟩ := by
      obtain ⟨hrun, -⟩ | ⟨flaw, hreplace⟩ := run_readPercent_of_default (σ := σ) hv hno room
      · exact ⟨[], hrun s⟩
      · rw [hreplace]
        exact run_replace_of_isPrintable flaw hprint s
    obtain ⟨log, hrun⟩ := hdefault
    exact ⟨_, log, hrun, _, .default hno, by decide +kernel⟩
  · simp only [not_forall] at hno
    obtain ⟨negative, rank, hread, hbool⟩ := hno
    have hself := configured_eq (by rintro rfl; cases hread) (not_exists.1 hbool)
    have hrun := run_readPercent_of_finite
      (by rw [hself]; exact Value.toBinary64_eq_ok_iff.2 hread) rfl room s
    exact ⟨_, [], hrun, _, .read (not_exists.1 hbool) hread, hasSize_limit negative rank⟩

/-- An integer beyond the floating point numbers has no opacity. -/
theorem run_clamp_of_tooLarge {v : Value} (hv : v.IsTooLarge) (room : Nat) (s : σ) :
    (clamp v room).run s = ⟨.error (.mishap .tooLarge), s, []⟩ := by
  have hself : configured v = v := by
    obtain ⟨n, rfl, -⟩ := hv
    rfl
  have hread := Value.toBinary64_eq_tooLarge_iff.2 hv
  rw [clamp, Act.run_bind_eq_of_error (run_readPercent_of_tooLarge (by rw [hself, hread]) s)]

/-- Nor has a collection that cannot be printed. -/
theorem run_clamp_of_obstacle {v : Value} {room : Nat} {fault : Fault} (hv : ¬ v.IsTooLarge)
    (hfault : v.obstacle? room = some fault) (s : σ) :
    (clamp v room).run s = ⟨.error fault, s, []⟩ := by
  have hprint : ¬ v.IsPrintable room := by
    rw [← Value.obstacle?_eq_none_iff, hfault]
    exact nofun
  have hno (negative rank) (hread : v.ReadsAs (.finite negative rank)) : ∃ b, v = .bool b :=
    absurd (isPrintable_of_readsAs hread) hprint
  obtain ⟨-, hprint'⟩ | ⟨flaw, hreplace⟩ := run_readPercent_of_default (σ := σ) hv hno room
  · exact absurd hprint' hprint
  · rw [clamp, hreplace, Act.run_bind_eq_of_error (run_replace_of_obstacle flaw hfault s)]

/-- Any other value has one: the percentage that it stands for, divided by a hundred. -/
theorem exists_run_clamp {v : Value} {room : Nat} (hv : ¬ v.IsTooLarge)
    (hprint : v.IsPrintable room) (s : σ) :
    ∃ (p : Binary64) (size : Int) (log : List Record), Stands v size ∧ p.hasSize size = true ∧
      InRange (p.divNat 100) ∧ (clamp v room).run s = ⟨.ok (p.divNat 100), s, log⟩ := by
  obtain ⟨x, log, hrun, size, hstands, hsize⟩ := exists_run_readPercent hv hprint s
  obtain ⟨hlow, hhigh⟩ := hstands.bounds
  refine ⟨limit x, size, log, hstands, hsize, inRange_divNat hsize hlow hhigh, ?_⟩
  rw [clamp, Act.run_bind_eq hrun]
  simp

/-- **Which values have an opacity.** For every value that is no integer beyond the floating point
numbers and that can be printed, and for no other, an opacity is computed: the percentage that the
value stands for, divided by a hundred, which gives a number between 0.30 and 1. For such an integer
the computation ends in a mishap, and otherwise in whatever stops the printing. -/
theorem clamp_returns_iff (v : Value) (room : Nat) (s : σ) :
    ((∃ (p : Binary64) (size : Int) (log : List Record), Stands v size ∧ p.hasSize size = true ∧
      InRange (p.divNat 100) ∧ (clamp v room).run s = ⟨.ok (p.divNat 100), s, log⟩) ↔
        ¬ v.IsTooLarge ∧ v.IsPrintable room) ∧
    ∀ fault, (clamp v room).run s = ⟨.error fault, s, []⟩ ↔
      v.IsTooLarge ∧ fault = .mishap .tooLarge ∨
        ¬ v.IsTooLarge ∧ v.obstacle? room = some fault := by
  by_cases hv : v.IsTooLarge
  · rw [run_clamp_of_tooLarge hv]
    refine ⟨iff_of_false ?_ fun h => h.1 hv, fun fault => ?_⟩
    · rintro ⟨p, size, log, -, -, -, hrun⟩
      cases hrun
    · simp only [hv, not_true_eq_false, false_and, true_and, or_false, Outcome.mk.injEq,
        Except.error.injEq, and_true]
      exact eq_comm
  · cases hobstacle : v.obstacle? room with
    | some fault =>
      have hprint : ¬ v.IsPrintable room := by
        rw [← Value.obstacle?_eq_none_iff, hobstacle]
        exact nofun
      rw [run_clamp_of_obstacle hv hobstacle]
      refine ⟨iff_of_false ?_ fun h => hprint h.2, fun fault => ?_⟩
      · rintro ⟨p, size, log, -, -, -, hrun⟩
        cases hrun
      · simp [hv]
    | none =>
      have hprint := (Value.obstacle?_eq_none_iff room v).1 hobstacle
      obtain ⟨p, size, log, hstands, hsize, hrange, hrun⟩ := exists_run_clamp hv hprint s
      refine ⟨iff_of_true ⟨p, size, log, hstands, hsize, hrange, hrun⟩ ⟨hv, hprint⟩, fun fault => ?_⟩
      simp [hrun, hv]

/-- A one with four hundred zeros is an integer without an opacity. -/
theorem not_clamp_ten_pow_400 :
    ¬ ∃ x log, (clamp (.int (Nat.pow 10 400 : Nat)) : Act Unit Binary64).run () =
      ⟨.ok x, (), log⟩ := by
  rintro ⟨x, log, hrun⟩
  rw [run_clamp_of_tooLarge ⟨_, rfl, by decide +kernel⟩] at hrun
  cases hrun

end Opacity

end Translucency
