import ScreenPages.Proofs.Rereading

/-!
# Natural numbers are read back

A natural number is written in decimal digits without a leading zero, unless it is zero itself, so
the digits are scanned as one numeral.  Reading takes the digits into a significand as long as this
stays below `2 ^ 64`.  It does so up to the last digit if the number does, since the significand
only grows.

## Main definitions

* `Json.Numeral.digits`, `Json.Numeral.ofNat` — the digits and the numeral of a natural number.

## Main results

* `Json.Number.scan_natural` — the text of a natural number is scanned as its numeral.
* `Json.Numeral.value?_ofNat` — **a numeral of 64 bits has the number as its value.**
* `Json.Decoder.natural_doc` — a natural number of 64 bits is read from its document.
-/

namespace ScreenPages.Json

open Text (Symbol symbols)

namespace Numeral

/-! ### Digits -/

/-- The value of a decimal digit. -/
def digitOf (c : Char) : Nat := c.toNat - '0'.toNat

/-- The values of the decimal digits of a natural number in the order in which they are written. -/
def digits (n : Nat) : List Nat := (Decimal.digitChars n).map digitOf

/-- A natural number as it is written. -/
def ofNat (n : Nat) : Numeral := ⟨false, digits n, [], none⟩

theorem digits_of_lt {n : Nat} (h : n < 10) : digits n = [n] := by
  rw [digits, Decimal.digitChars, Nat.toDigits_of_lt_base h, List.map_singleton]
  exact congrArg ([·]) (Nat.toNat_digitChar_sub_48_of_lt_ten h)

theorem digits_of_le {n : Nat} (h : 10 ≤ n) : digits n = digits (n / 10) ++ [n % 10] := by
  rw [digits, digits, Decimal.digitChars, Nat.toDigits_of_base_le (by omega) h, List.map_append]
  exact congrArg (_ ++ [·]) (Nat.toNat_digitChar_sub_48_of_lt_ten (Nat.mod_lt n (by omega)))

theorem digits_ne_nil (n : Nat) : digits n ≠ [] := by
  simp [digits, Decimal.digitChars, Nat.toDigits_ne_nil]

/-- The digits of a number write the number. -/
theorem ofDigits_digits (n : Nat) : ofDigits (digits n) = n := by
  induction n using Nat.strongRecOn with
  | ind n ih =>
    by_cases h : n < 10
    · rw [digits_of_lt h]
      exact Nat.zero_add n
    · have hlow := ih (n / 10) (by omega)
      rw [ofDigits] at hlow ⊢
      rw [digits_of_le (by omega), List.foldl_append, hlow, List.foldl_cons, List.foldl_nil]
      omega

/-- A leading zero stands alone. -/
theorem eq_nil_of_digits_eq_zero_cons {n : Nat} {ds : List Nat} (h : digits n = 0 :: ds) :
    ds = [] := by
  induction n using Nat.strongRecOn generalizing ds with
  | ind n ih =>
    by_cases hn : n < 10
    · rw [digits_of_lt hn] at h
      exact (List.cons.inj h).2.symm
    · obtain ⟨d, low, hlow⟩ := List.exists_cons_of_ne_nil (digits_ne_nil (n / 10))
      rw [digits_of_le (by omega), hlow, List.cons_append, List.cons.injEq] at h
      obtain ⟨rfl, -⟩ := h
      -- the digits in front of the last one would be those of zero
      have hzero := ofDigits_digits (n / 10)
      rw [hlow, ih (n / 10) (by omega) hlow] at hzero
      change 0 = n / 10 at hzero
      omega

/-! ### The value of a numeral -/

theorem le_foldl_digits (ds : List Nat) (significand : Nat) :
    significand ≤ ds.foldl (fun n d => n * 10 + d) significand := by
  induction ds generalizing significand with
  | nil => exact Nat.le_refl _
  | cons d ds ih =>
    have hle := ih (significand * 10 + d)
    rw [List.foldl_cons]
    omega

/-- All digits go into the significand if what they write has 64 bits. -/
theorem takeDigits_eq {ds : List Nat} {significand : Nat}
    (h : ds.foldl (fun n d => n * 10 + d) significand < Nat.pow 2 64) :
    takeDigits significand ds = (ds.foldl (fun n d => n * 10 + d) significand, 0) := by
  induction ds generalizing significand with
  | nil => rfl
  | cons d ds ih =>
    rw [List.foldl_cons] at h ⊢
    have hlt : significand * 10 + d < Nat.pow 2 64 :=
      Nat.lt_of_le_of_lt (le_foldl_digits ds _) h
    rw [takeDigits, if_pos hlt, ih h]

/-- **A numeral of 64 bits has the number as its value.** -/
theorem value?_ofNat {n : Nat} (h : n < Nat.pow 2 64) : (ofNat n).value? = some (.natural n) := by
  have htake : takeDigits 0 (digits n) = (n, 0) := by
    have hn := ofDigits_digits n
    rw [ofDigits] at hn
    rw [takeDigits_eq (by rwa [hn]), hn]
  simp [value?, ofNat, htake]

end Numeral

/-! ### Scanning -/

namespace Token

/-- A text of digits is scanned to its end. -/
theorem scanDigits_map {cs : List Char} (h : ∀ c ∈ cs, c.isDigit = true) :
    scanDigits (cs.map .char) = (cs.map Numeral.digitOf, []) := by
  induction cs with
  | nil => rfl
  | cons c cs ih =>
    obtain ⟨hc, hcs⟩ := List.forall_mem_cons.mp h
    have hdigit : digitValue? (.char c) = some (Numeral.digitOf c) := if_pos hc
    rw [List.map_cons, List.map_cons, scanDigits, hdigit, ih hcs]

/-- A digit does not stand for a blank. -/
theorem isBlank_of_digit {s : Symbol} (h : (digitValue? s).isSome = true) : isBlank s = false := by
  cases hs : isBlank s with
  | false => rfl
  | true =>
    cases s with
    | looseByte => cases hs
    | char c =>
      simp only [isBlank, Bool.or_eq_true, decide_eq_true_eq] at hs
      rcases hs with ((rfl | rfl) | rfl) | rfl <;> cases h

end Token

open Token (scan digitValue? scanNumber)

/-- The digits of a natural number are scanned as a number. -/
theorem Token.scanNumber_digitChars (n : Nat) :
    scanNumber false ((Decimal.digitChars n).map .char) = (.number (.ofNat n), []) := by
  have hdigits : Token.scanDigits ((Decimal.digitChars n).map .char) = (Numeral.digits n, []) :=
    Token.scanDigits_map fun c hc => Nat.isDigit_of_mem_toDigits (by omega) (by omega) hc
  rw [scanNumber, hdigits, Numeral.ofNat]
  split
  · rename_i h
    exact absurd (congrArg Prod.fst h) (Numeral.digits_ne_nil n)
  · rename_i h
    cases Numeral.eq_nil_of_digits_eq_zero_cons (congrArg Prod.fst h)
  · rename_i h
    cases congrArg Prod.snd h
  · rename_i h
    cases h
    rfl

namespace Number

/-- **The text of a natural number is scanned as its numeral.** -/
theorem scan_natural (n : Nat) : scan (symbols (natural n).text) = [.number (.ofNat n)] := by
  have hscan := Token.scanNumber_digitChars n
  rw [text, symbols, String.toList_ofList]
  generalize hcs : Decimal.digitChars n = cs at hscan ⊢
  cases cs with
  | nil => exact absurd hcs Nat.toDigits_ne_nil
  | cons c cs =>
    have hc : c.isDigit = true :=
      Nat.isDigit_of_mem_toDigits (by omega) (by omega) (hcs ▸ List.mem_cons_self : c ∈ _)
    have hdigit : (digitValue? (.char c)).isSome = true := by simp [digitValue?, hc]
    have hone : Token.scanOne (.char c) (cs.map .char) = (.number (.ofNat n), []) :=
      (Token.scanOne_of_digit hdigit).trans hscan
    rw [List.map_cons, Token.scan_of_not_isBlank (Token.isBlank_of_digit hdigit), hone]
    rfl

/-- The text of a natural number is a numeral. -/
theorem legible_natural (n : Nat) : (natural n).Legible := ⟨_, scan_natural n⟩

end Number

/-! ### Reading -/

/-- The document of a natural number is its numeral. -/
theorem Value.doc_ofNat (n : Nat) : (Value.ofNat n).doc = .number (.ofNat n) := by
  rw [Value.ofNat, Value.doc, Number.scan_natural]
  rfl

namespace Decoder

variable {n : Nat}

/-- **A natural number of 64 bits is read from its document.** -/
theorem natural_doc (expected : String) (limit : Nat) (h : n < Nat.pow 2 64) :
    natural expected limit (Value.ofNat n).doc = .ok n := by
  simp only [Value.doc_ofNat, natural, Numeral.value, Numeral.value?_ofNat h]
  rfl

/-- A natural number of 64 bits is read as a value. -/
theorem value_doc_ofNat (limit : Nat) (h : n < Nat.pow 2 64) :
    value limit (Value.ofNat n).doc = .ok (.number (.natural n)) := by
  simp only [Value.doc_ofNat, value, Numeral.value, Numeral.value?_ofNat h]
  rfl

end Decoder

end ScreenPages.Json
