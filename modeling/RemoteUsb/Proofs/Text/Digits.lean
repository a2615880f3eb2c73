import Mathlib.Data.Bool.AllAny
import Mathlib.Data.List.Induction
import Mathlib.Tactic.IntervalCases
import RemoteUsb.Text.Digits

/-! Numerals, as their digits make them, and the numbers that they are read as. -/

namespace RemoteUsb.Text

/-! ## Digits -/

/-- The digits, each at the place of its value. -/
def digits : List Char := "0123456789abcdef".toList

def capitalDigits : List Char := "0123456789ABCDEF".toList

/-- The character is a digit of the base, and has the value. -/
def IsDigit (base : Nat) (c : Char) (d : Nat) : Prop :=
  d < base ∧ (digits[d]? = some c ∨ capitalDigits[d]? = some c)

theorem digit?_of_isDigit {base : Nat} (hbase : base ≤ 16) {c : Char} {d : Nat} (h : IsDigit base c d) :
    digit? base c = some d := by
  obtain ⟨hd, hc⟩ := h
  have hd16 : d < 16 := Nat.lt_of_lt_of_le hd hbase
  have hvalue : digit? 16 c = some d := by
    interval_cases d <;> (rcases hc with hc | hc <;> cases hc <;> rfl)
  unfold digit? at hvalue ⊢
  rw [Option.filter_eq_some_iff] at hvalue ⊢
  exact ⟨hvalue.1, decide_eq_true hd⟩

theorem isDigit_of_digit? {base : Nat} {c : Char} {d : Nat} (h : digit? base c = some d) :
    IsDigit base c d := by
  -- the three rows of digits, by code point
  have hdecimal : ∀ n < 58, 48 ≤ n → digits[n - 48]? = some (Char.ofNat n) := by decide
  have hsmall : ∀ n < 103, 97 ≤ n → digits[n - 97 + 10]? = some (Char.ofNat n) := by decide
  have hcapital : ∀ n < 71, 65 ≤ n → capitalDigits[n - 65 + 10]? = some (Char.ofNat n) := by decide
  have hc : some (Char.ofNat c.toNat) = some c := congrArg some (Char.ofNat_toNat c)
  unfold digit? at h
  obtain ⟨hvalue, hd⟩ := Option.filter_eq_some_iff.mp h
  refine ⟨of_decide_eq_true hd, ?_⟩
  split at hvalue
  case isTrue hrow =>
    obtain rfl := Option.some.inj hvalue
    exact .inl ((hdecimal c.toNat (Nat.lt_succ_of_le hrow.2) hrow.1).trans hc)
  split at hvalue
  case isTrue hrow =>
    obtain rfl := Option.some.inj hvalue
    exact .inl ((hsmall c.toNat (Nat.lt_succ_of_le hrow.2) hrow.1).trans hc)
  split at hvalue
  case isTrue hrow =>
    obtain rfl := Option.some.inj hvalue
    exact .inr ((hcapital c.toNat (Nat.lt_succ_of_le hrow.2) hrow.1).trans hc)
  cases hvalue

/-- A digit is read as its value. -/
theorem digit?_eq_some {base : Nat} (hbase : base ≤ 16) {c : Char} {d : Nat} :
    digit? base c = some d ↔ IsDigit base c d :=
  ⟨isDigit_of_digit?, digit?_of_isDigit hbase⟩

/-! ## Numerals -/

/-- A row of digits, and the number that it stands for. -/
inductive Numeral (base : Nat) : List Char → Nat → Prop where
  | digit {c : Char} {d : Nat} (_ : IsDigit base c d) : Numeral base [c] d
  | snoc {cs : List Char} {n : Nat} {c : Char} {d : Nat} (_ : Numeral base cs n) (_ : IsDigit base c d) :
    Numeral base (cs ++ [c]) (n * base + d)

/-- A numeral after a sign, or without one. -/
inductive Signed (base : Nat) : List Char → Int → Prop where
  | bare {cs : List Char} {n : Nat} (_ : Numeral base cs n) : Signed base cs n
  | plus {cs : List Char} {n : Nat} (_ : Numeral base cs n) : Signed base ('+' :: cs) n
  | minus {cs : List Char} {n : Nat} (_ : Numeral base cs n) : Signed base ('-' :: cs) (-n)

theorem readDigits?_append (base n : Nat) (cs ds : List Char) :
    readDigits? base n (cs ++ ds) = (readDigits? base n cs).bind (readDigits? base · ds) := by
  induction cs generalizing n with
  | nil => rfl
  | cons c cs ih =>
    simp only [List.cons_append, readDigits?, Option.bind_assoc, ih]

theorem readDigits?_snoc (base : Nat) (cs : List Char) (c : Char) :
    readDigits? base 0 (cs ++ [c]) =
      (readDigits? base 0 cs).bind fun n => (digit? base c).map (n * base + ·) := by
  rw [readDigits?_append]
  congr
  funext n
  cases h : digit? base c <;> simp [readDigits?, h]

theorem Numeral.ne_nil {base : Nat} {cs : List Char} {n : Nat} (h : Numeral base cs n) : cs ≠ [] := by
  cases h <;> simp

theorem Numeral.read {base : Nat} (hbase : base ≤ 16) {cs : List Char} {n : Nat} (h : Numeral base cs n) :
    readDigits? base 0 cs = some n := by
  induction h with
  | digit hd => simp [readDigits?, (digit?_eq_some hbase).mpr hd]
  | snoc _ hd ih => simp [readDigits?_snoc, ih, (digit?_eq_some hbase).mpr hd]

theorem numeral_of_read {base : Nat} {cs : List Char} :
    ∀ {n : Nat}, cs ≠ [] → readDigits? base 0 cs = some n → Numeral base cs n := by
  induction cs using List.reverseRecOn with
  | nil => exact fun h => absurd rfl h
  | append_singleton cs c ih =>
    intro n _ h
    rw [readDigits?_snoc, Option.bind_eq_some_iff] at h
    obtain ⟨high, hhigh, hlast⟩ := h
    obtain ⟨d, hd, rfl⟩ := Option.map_eq_some_iff.mp hlast
    have hdigit := isDigit_of_digit? hd
    by_cases hnil : cs = []
    · subst hnil
      obtain rfl : 0 = high := Option.some.inj hhigh
      simpa using Numeral.digit hdigit
    · exact .snoc (ih hnil hhigh) hdigit

/-- Exactly the numerals are read, as what they stand for. -/
theorem readNatural?_eq_some {base : Nat} (hbase : base ≤ 16) {cs : List Char} {n : Nat} :
    readNatural? base cs = some n ↔ Numeral base cs n := by
  cases cs with
  | nil => exact ⟨nofun, fun h => absurd rfl h.ne_nil⟩
  | cons c cs => exact ⟨numeral_of_read (List.cons_ne_nil c cs), fun h => h.read hbase⟩

theorem Numeral.mem {base : Nat} {cs : List Char} {n : Nat} (h : Numeral base cs n) :
    ∀ c ∈ cs, c ∈ digits ++ capitalDigits := by
  have hdigit {c : Char} {d : Nat} (h : IsDigit base c d) : c ∈ digits ++ capitalDigits :=
    List.mem_append.mpr (h.2.imp List.mem_of_getElem? List.mem_of_getElem?)
  induction h with
  | digit hd => simpa using hdigit hd
  | snoc _ hd ih =>
    intro c hc
    rcases List.mem_append.mp hc with hc | hc
    · exact ih c hc
    · exact List.mem_singleton.mp hc ▸ hdigit hd

/-! ## Numerals that are written -/

theorem isDigit_digitChar {d : Nat} (h : d < 16) : IsDigit 16 (Nat.digitChar d) d := by
  have hsmall : ∀ d < 16, digits[d]? = some (Nat.digitChar d) := by decide
  exact ⟨h, .inl (hsmall d h)⟩

theorem numeral_toDigits (n : Nat) : Numeral 16 (Nat.toDigits 16 n) n := by
  induction n using Nat.strongRecOn with
  | ind n ih =>
    rw [Nat.toDigits_eq_if (by decide)]
    split
    case isTrue h => exact .digit (isDigit_digitChar h)
    case isFalse h =>
      have hlast := isDigit_digitChar (Nat.mod_lt n (show 16 > 0 by decide))
      have := Numeral.snoc (ih (n / 16) (by omega)) hlast
      rwa [Nat.div_add_mod'] at this

/-- Zeros in front make no difference. -/
theorem Numeral.zeroPad {cs : List Char} {n : Nat} (h : Numeral 16 cs n) (width : Nat) :
    Numeral 16 (zeroPad width cs) n := by
  have hzero {cs : List Char} {n : Nat} (h : Numeral 16 cs n) : Numeral 16 ('0' :: cs) n := by
    have hdigit : Numeral 16 ['0'] 0 := .digit ⟨by decide, .inl rfl⟩
    induction h with
    | @digit c d hd => simpa using hdigit.snoc hd
    | snoc _ hd ih => exact ih.snoc hd
  unfold Text.zeroPad
  induction width - cs.length with
  | zero => exact h
  | succ k ih => exact hzero ih

theorem numeral_hexDigits (width n : Nat) : Numeral 16 (hexDigits width n) n :=
  (numeral_toDigits n).zeroPad width

/-! ## Signs -/

/-- A numeral does not begin with a sign. -/
theorem Numeral.unsigned {base : Nat} {c : Char} {cs : List Char} {n : Nat} (h : Numeral base (c :: cs) n) :
    c ≠ '-' ∧ c ≠ '+' := by
  have hsigns : ∀ c ∈ digits ++ capitalDigits, c ≠ '-' ∧ c ≠ '+' :=
    List.all_iff_forall_prop.mp (by decide)
  exact hsigns c (h.mem c List.mem_cons_self)

theorem readInteger?_minus (base : Nat) (cs : List Char) :
    readInteger? base ('-' :: cs) = (readNatural? base cs).map fun n => -Int.ofNat n := by
  cases h : readNatural? base cs <;> simp [readInteger?, h]

theorem readInteger?_plus (base : Nat) (cs : List Char) :
    readInteger? base ('+' :: cs) = (readNatural? base cs).map Int.ofNat := by
  cases h : readNatural? base cs <;> simp [readInteger?, h]

theorem readInteger?_bare (base : Nat) {c : Char} (h : c ≠ '-' ∧ c ≠ '+') (cs : List Char) :
    readInteger? base (c :: cs) = (readNatural? base (c :: cs)).map Int.ofNat := by
  cases hn : readNatural? base (c :: cs) <;> simp [readInteger?, h, hn]

theorem readInteger?_eq_some {base : Nat} (hbase : base ≤ 16) {cs : List Char} {v : Int} :
    readInteger? base cs = some v ↔ Signed base cs v := by
  constructor
  · intro h
    cases cs with
    | nil => cases h
    | cons c cs =>
      by_cases hminus : c = '-'
      · rw [hminus, readInteger?_minus, Option.map_eq_some_iff] at h
        obtain ⟨n, hn, rfl⟩ := h
        exact hminus ▸ .minus ((readNatural?_eq_some hbase).mp hn)
      by_cases hplus : c = '+'
      · rw [hplus, readInteger?_plus, Option.map_eq_some_iff] at h
        obtain ⟨n, hn, rfl⟩ := h
        exact hplus ▸ .plus ((readNatural?_eq_some hbase).mp hn)
      · rw [readInteger?_bare base ⟨hminus, hplus⟩, Option.map_eq_some_iff] at h
        obtain ⟨n, hn, rfl⟩ := h
        exact .bare ((readNatural?_eq_some hbase).mp hn)
  · intro h
    cases h with
    | @bare cs n h =>
      cases cs with
      | nil => exact absurd rfl h.ne_nil
      | cons c cs =>
        rw [readInteger?_bare base h.unsigned, (readNatural?_eq_some hbase).mpr h]
        rfl
    | plus h =>
      rw [readInteger?_plus, (readNatural?_eq_some hbase).mpr h]
      rfl
    | minus h =>
      rw [readInteger?_minus, (readNatural?_eq_some hbase).mpr h]
      rfl

/-- The numeral stands for a number of 64 bits with a sign. -/
structure Word (base : Nat) (cs : List Char) (v : Int) : Prop where
  signed : Signed base cs v
  fits : -(2 : Int) ^ 63 ≤ v ∧ v < 2 ^ 63

/-- Exactly the numerals of 64 bits are read. -/
theorem readInt64?_eq_some {base : Nat} (hbase : base ≤ 16) {cs : List Char} {v : Int} :
    readInt64? base cs = some v ↔ Word base cs v := by
  unfold readInt64?
  rw [Option.filter_eq_some_iff, readInteger?_eq_some hbase, decide_eq_true_eq]
  exact ⟨fun h => ⟨h.1, h.2⟩, fun h => ⟨h.signed, h.fits⟩⟩

end RemoteUsb.Text
