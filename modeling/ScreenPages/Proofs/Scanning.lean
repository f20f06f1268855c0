import Mathlib.Tactic.SplitIfs
import ScreenPages.Json.Decode

/-!
# Scanning what has been written

Scanning takes one token after the other from the front of a text.  A string that is written with
its escapes is taken as a whole and stands for the characters that were written.  A numeral goes
on as long as there are characters that can belong to it, so it is taken as it is when it stands
alone, provided that what follows it begins with none of these.

## Main definitions

* `Json.Token.piecesOf` — the pieces that are scanned of a written string.
* `Json.Token.Delimits` — what follows does not go on with a numeral.

## Main results

* `Json.Token.scanWith_eq_scan` — scanning takes no more steps than there are symbols.
* `Json.Token.scan_textChars`, `Json.Piece.content_piecesOf` — a written string is scanned as one
  token with the string as its content.
* `Json.Token.scan_append_of_number` — a numeral is scanned before other tokens as it is alone.
-/

namespace ScreenPages.Json

open Text (Symbol symbols)

namespace Token

variable {s : Symbol} {ss rest : List Symbol}

/-! ### What is left of a text -/

theorem length_scanText_le (ss : List Symbol) : (scanText ss).2.2.length ≤ ss.length := by
  fun_induction scanText ss <;> simp_all <;> omega

theorem length_scanDigits_le (ss : List Symbol) : (scanDigits ss).2.length ≤ ss.length := by
  fun_induction scanDigits ss <;> simp_all; omega

theorem length_scanExponentDigits_le (negative : Bool) (whole fraction : List Nat) (below : Bool)
    (ss : List Symbol) :
    (scanExponentDigits negative whole fraction below ss).2.length ≤ ss.length := by
  have := length_scanDigits_le ss
  rw [scanExponentDigits]
  split <;> simp_all

theorem length_scanExponent_le (negative : Bool) (whole fraction : List Nat) (ss : List Symbol) :
    (scanExponent negative whole fraction ss).2.length ≤ ss.length := by
  fun_cases scanExponent negative whole fraction ss
  all_goals first
    | exact Nat.le_refl _
    | exact Nat.le_trans (length_scanExponentDigits_le ..) (by simp; try omega)

/-- A number takes at least a symbol. -/
theorem length_scanNumber_lt (negative : Bool) (s : Symbol) (ss : List Symbol) :
    (scanNumber negative (s :: ss)).2.length ≤ ss.length := by
  have hdigits : ∀ ds rest, scanDigits (s :: ss) = (ds, rest) → ds ≠ [] →
      rest.length ≤ ss.length := by
    intro ds rest h hne
    rw [scanDigits] at h
    split at h
    · cases h
      exact length_scanDigits_le ss
    · cases h
      exact absurd rfl hne
  rw [scanNumber]
  split
  · simp
  · simp
  · rename_i whole rest hne _ h
    have hrest := hdigits _ _ h hne
    have hfraction := length_scanDigits_le rest
    split
    · simp
    · rename_i fraction rest' _ h'
      have hexponent := length_scanExponent_le negative whole fraction rest'
      rw [h'] at hfraction
      simp only [List.length_cons] at hrest hfraction
      omega
  · rename_i whole rest hne _ _ h
    exact Nat.le_trans (length_scanExponent_le ..) (hdigits _ _ h hne)

theorem length_scanWord_le (spelling : List Char) (ss : List Symbol) :
    ∀ rest, scanWord spelling ss = .ok rest → rest.length ≤ ss.length := by
  intro rest h
  induction spelling generalizing ss with
  | nil => cases h; exact Nat.le_refl _
  | cons w ws ih =>
    cases ss with
    | nil => cases h
    | cons s ss =>
      rw [scanWord] at h
      split at h
      · exact Nat.le_succ_of_le (ih _ h)
      · cases h

theorem length_word_le (spelling : List Char) (ss : List Symbol) (t : Token) :
    (match scanWord spelling ss with
      | .ok rest => (t, rest)
      | .error fault => (.brokenWord fault, [])).2.length ≤ ss.length := by
  split
  · rename_i rest h
    exact length_scanWord_le spelling ss rest h
  · exact Nat.zero_le _

/-- What follows a token is no longer than what follows its first symbol. -/
theorem length_scanOne_le (s : Symbol) (ss : List Symbol) :
    (scanOne s ss).2.length ≤ ss.length := by
  fun_cases scanOne s ss
  case case7 => exact length_word_le _ ss _
  case case8 => exact length_word_le _ ss _
  case case9 => exact length_word_le _ ss _
  case case10 pieces rest h =>
    have htext := length_scanText_le ss
    rwa [h] at htext
  case case12 =>
    cases ss with
    | nil => simp [scanNumber, scanDigits]
    | cons s ss => exact Nat.le_succ_of_le (length_scanNumber_lt true s ss)
  case case13 => exact length_scanNumber_lt false s ss
  all_goals simp

/-! ### The tokens of a text, one after the other -/

/-- A text needs as much fuel as it has symbols. -/
theorem scanWith_eq_scan {fuel : Nat} (h : ss.length ≤ fuel) : scanWith fuel ss = scan ss := by
  have hfuel : ∀ m n (ss : List Symbol), ss.length ≤ m → ss.length ≤ n →
      scanWith m ss = scanWith n ss := by
    intro m
    induction m with
    | zero =>
      intro n ss hm _
      rw [List.length_eq_zero_iff.mp (Nat.le_zero.mp hm)]
      cases n <;> rfl
    | succ m ih =>
      intro n ss hm hn
      cases ss with
      | nil => cases n <;> rfl
      | cons s ss =>
        obtain ⟨n, rfl⟩ : ∃ k, n = k + 1 := ⟨n - 1, by simp at hn; omega⟩
        have hrest := length_scanOne_le s ss
        simp only [List.length_cons] at hm hn
        rw [scanWith, scanWith, ih n ss (by omega) (by omega)]
        simp only [ih n (scanOne s ss).2 (by omega) (by omega)]
  exact hfuel _ _ ss h (Nat.le_refl _)

theorem scan_nil : scan [] = [] := rfl

theorem scan_of_isBlank (h : isBlank s = true) : scan (s :: ss) = scan ss := by
  rw [scan, List.length_cons, scanWith, if_pos h]
  rfl

theorem scan_of_not_isBlank (h : isBlank s = false) :
    scan (s :: ss) = (scanOne s ss).1 :: scan (scanOne s ss).2 := by
  rw [scan, List.length_cons, scanWith, h]
  simp only [Bool.false_eq_true, if_false, scanWith_eq_scan (length_scanOne_le s ss)]

@[simp] theorem scan_leftBracket : scan (.char '[' :: ss) = .leftBracket :: scan ss :=
  scan_of_not_isBlank rfl

@[simp] theorem scan_rightBracket : scan (.char ']' :: ss) = .rightBracket :: scan ss :=
  scan_of_not_isBlank rfl

@[simp] theorem scan_leftBrace : scan (.char '\x7b' :: ss) = .leftBrace :: scan ss :=
  scan_of_not_isBlank rfl

@[simp] theorem scan_rightBrace : scan (.char '\x7d' :: ss) = .rightBrace :: scan ss :=
  scan_of_not_isBlank rfl

@[simp] theorem scan_comma : scan (.char ',' :: ss) = .comma :: scan ss :=
  scan_of_not_isBlank rfl

@[simp] theorem scan_colon : scan (.char ':' :: ss) = .colon :: scan ss :=
  scan_of_not_isBlank rfl

/-! ### Strings -/

/-- How a character of a string is scanned. -/
def pieceOf (c : Char) : Piece :=
  if c.toNat < 0x20 ∧ c ≠ '\x08' ∧ c ≠ '\x0c' ∧ c ≠ '\n' ∧ c ≠ '\r' ∧ c ≠ '\t' then .unit c.toNat
  else .symbol (.char c)

/-- The pieces that the text of a string is scanned into. -/
def piecesOf (s : String) : List Piece := s.toList.map pieceOf

/-- The hexadecimal digits of a control character write its code. -/
theorem unit?_hexDigit {n : Nat} (h : n < 0x20) :
    unit? (.char '0') (.char '0') (.char (Value.hexDigit (n / 16)))
      (.char (Value.hexDigit (n % 16))) = some n := by
  revert n
  decide

/-- A character that needs no escape stands for itself. -/
theorem scanText_char {c : Char} (hquote : c ≠ '"') (hbackslash : c ≠ '\\')
    (hcontrol : ¬ c.toNat < 0x20) :
    scanText (.char c :: rest) = (.symbol (.char c) :: (scanText rest).1, (scanText rest).2) := by
  rw [scanText.eq_def]
  simp [hquote, hbackslash, isControl, hcontrol]

/-- A character of a string is scanned as its piece. -/
theorem scanText_textChar (c : Char) :
    scanText ((Value.textChar c).map .char ++ rest) =
      (pieceOf c :: (scanText rest).1, (scanText rest).2) := by
  rw [Value.textChar]
  split_ifs with hquote hbackslash hb hf hn hr ht hcontrol
  · subst hquote; rfl
  · subst hbackslash; rfl
  · subst hb; rfl
  · subst hf; rfl
  · subst hn; rfl
  · subst hr; rfl
  · subst ht; rfl
  · have hunit := unit?_hexDigit hcontrol
    have hpiece : pieceOf c = .unit c.toNat := if_pos ⟨hcontrol, hb, hf, hn, hr, ht⟩
    simp only [List.map_cons, List.map_nil, List.cons_append, List.nil_append, scanText, hunit,
      hpiece]
  · have hpiece : pieceOf c = .symbol (.char c) := if_neg fun h => hcontrol h.1
    rw [hpiece]
    exact scanText_char hquote hbackslash hcontrol

/-- **The text of a string is scanned as a string.** -/
theorem scan_textChars (s : String) :
    scan ((Value.textChars s).map .char ++ rest) = .text (piecesOf s) :: scan rest := by
  have htext (cs : List Char) : scanText ((cs.flatMap Value.textChar ++ ['"']).map .char ++ rest)
      = (cs.map pieceOf, none, rest) := by
    induction cs with
    | nil => rfl
    | cons c cs ih =>
      rw [List.flatMap_cons, List.append_assoc, List.map_append, List.append_assoc,
        scanText_textChar, ih]
      rfl
  have hone : scanOne (.char '"') ((s.toList.flatMap Value.textChar ++ ['"']).map .char ++ rest)
      = (.text (piecesOf s), rest) := by
    rw [scanOne, htext]
    rfl
  rw [Value.textChars, List.map_cons, List.cons_append, scan_of_not_isBlank rfl, hone]

end Token

namespace Piece

/-- A unit below the surrogates is a character by itself. -/
theorem decode_unit {n : Nat} (h : n < 0xD800) (ps : List Piece) :
    decode none (unit n :: ps) = (decode none ps).map (.char (Char.ofNat n) :: ·) := by
  have hlow : isLowSurrogate n = false := by simp [isLowSurrogate]; omega
  have hhigh : isHighSurrogate n = false := by simp [isHighSurrogate]; omega
  cases ps with
  | nil => simp [decode, hlow, hhigh]
  | cons p ps => cases p <;> simp [decode, hlow, hhigh]

/-- A piece of a string is its character. -/
theorem decode_pieceOf (c : Char) (ps : List Piece) :
    decode none (Token.pieceOf c :: ps) = (decode none ps).map (.char c :: ·) := by
  rw [Token.pieceOf]
  split
  · rename_i h
    rw [decode_unit (by omega), Char.ofNat_toNat]
  · rfl

/-- **The pieces of a string have its content.** -/
theorem content_piecesOf (s : String) : content (Token.piecesOf s) = .ok s := by
  have hdecode (cs : List Char) : decode none (cs.map Token.pieceOf) = .ok (cs.map .char) := by
    induction cs with
    | nil => rfl
    | cons c cs ih => rw [List.map_cons, decode_pieceOf, ih]; rfl
  have hcharacters := Text.charactersOnly?_symbols s
  rw [symbols] at hcharacters
  rw [content, Token.piecesOf, hdecode]
  simp only [bind, Except.bind, hcharacters]
  rfl

end Piece

/-! ### Numbers -/

namespace Token

/-- What may follow a number: nothing, or what separates and closes values. -/
def Delimits (ss : List Symbol) : Prop :=
  ∀ s ∈ ss.head?, s ∈ [Symbol.char ',', .char ']', .char '\x7d', .char '\n']

theorem Delimits.nil : Delimits [] := by simp [Delimits]

theorem Delimits.comma : Delimits (.char ',' :: ss) := by simp [Delimits]

theorem Delimits.rightBracket : Delimits (.char ']' :: ss) := by simp [Delimits]

theorem Delimits.rightBrace : Delimits (.char '\x7d' :: ss) := by simp [Delimits]

variable {negative below : Bool} {whole fraction : List Nat} {n : Numeral} {left : List Symbol}

/-- The digits at the front of a text end where it is delimited. -/
theorem scanDigits_append (hrest : Delimits rest) (ss : List Symbol) :
    scanDigits (ss ++ rest) = ((scanDigits ss).1, (scanDigits ss).2 ++ rest) := by
  induction ss with
  | nil =>
    cases rest with
    | nil => rfl
    | cons s rest =>
      have hs : digitValue? s = none := by
        have := hrest s rfl
        simp only [List.mem_cons, List.not_mem_nil, or_false] at this
        rcases this with rfl | rfl | rfl | rfl <;> rfl
      simp [scanDigits, hs]
  | cons s ss ih =>
    rw [List.cons_append, scanDigits, scanDigits]
    cases digitValue? s with
    | none => rfl
    | some d => simp [ih]

/-- A complete exponent ends where the text is delimited. -/
theorem scanExponentDigits_append (hrest : Delimits rest)
    (h : scanExponentDigits negative whole fraction below ss = (.number n, left)) :
    scanExponentDigits negative whole fraction below (ss ++ rest) = (.number n, left ++ rest) := by
  rw [scanExponentDigits, scanDigits_append hrest]
  rw [scanExponentDigits] at h
  generalize scanDigits ss = scanned at h ⊢
  obtain ⟨ds, after⟩ := scanned
  cases ds with
  | nil => cases h
  | cons d ds => cases h; rfl

/-- A number without an exponent ends where the text is delimited. -/
theorem scanExponent_of_delimits (hrest : Delimits rest) :
    scanExponent negative whole fraction rest
      = (.number ⟨negative, whole, fraction, none⟩, rest) := by
  cases rest with
  | nil => rfl
  | cons s rest =>
    have := hrest s rfl
    simp only [List.mem_cons, List.not_mem_nil, or_false] at this
    rcases this with rfl | rfl | rfl | rfl <;> rfl

theorem scanExponent_append (hrest : Delimits rest)
    (h : scanExponent negative whole fraction ss = (.number n, left)) :
    scanExponent negative whole fraction (ss ++ rest) = (.number n, left ++ rest) := by
  revert h
  fun_cases scanExponent negative whole fraction ss with
  | case1 ss => exact scanExponentDigits_append hrest
  | case2 ss => exact scanExponentDigits_append hrest
  | case3 ss hplus hminus =>
    intro h
    cases ss with
    | nil => cases h
    | cons s ss =>
      rw [← scanExponentDigits_append hrest h]
      simp_all [scanExponent]
  | case4 ss => exact scanExponentDigits_append hrest
  | case5 ss => exact scanExponentDigits_append hrest
  | case6 ss hplus hminus =>
    intro h
    cases ss with
    | nil => cases h
    | cons s ss =>
      rw [← scanExponentDigits_append hrest h]
      simp_all [scanExponent]
  | case7 =>
    rintro ⟨⟩
    cases left with
    | nil => exact scanExponent_of_delimits hrest
    | cons s ss => simp_all [scanExponent]

/-- **A complete number ends where the text is delimited.** -/
theorem scanNumber_append (hrest : Delimits rest)
    (h : scanNumber negative ss = (.number n, left)) :
    scanNumber negative (ss ++ rest) = (.number n, left ++ rest) := by
  revert h
  fun_cases scanNumber negative ss with
  | case1 => rintro ⟨⟩
  | case2 => rintro ⟨⟩
  | case3 => rintro ⟨⟩
  | case4 whole after hwhole hzero hdigits fraction left' hfraction hdigits' =>
    intro h
    rw [← scanExponent_append hrest h]
    simp_all [scanNumber, scanDigits_append hrest]
  | case5 whole after hwhole hzero hdot hdigits =>
    intro h
    rw [← scanExponent_append hrest h]
    cases after with
    | nil =>
      cases rest with
      | nil => simp_all [scanNumber]
      | cons s rest =>
        have hpoint : s ≠ .char '.' := by
          rintro rfl
          exact absurd (hrest _ rfl) (by decide)
        simp_all [scanNumber, scanDigits_append hrest]
    | cons s after => simp_all [scanNumber, scanDigits_append hrest]

/-- A digit starts a number. -/
theorem scanOne_of_digit (h : (digitValue? s).isSome = true) :
    scanOne s ss = scanNumber false (s :: ss) := by
  fun_cases scanOne s ss with
  | case13 => rfl
  | case14 =>
    rename_i hdigit
    exact absurd h hdigit
  | _ => cases h

/-- A word is no number. -/
theorem word_ne_number (spelling : List Char) (ss : List Symbol) (t : Token)
    (ht : ∀ n, t ≠ .number n) :
    (match scanWord spelling ss with
      | .ok rest => (t, rest)
      | .error fault => (.brokenWord fault, [])) ≠ (.number n, left) := by
  split
  · intro h
    exact ht n (congrArg Prod.fst h)
  · rintro ⟨⟩

/-- A number that starts with a symbol ends where the text is delimited. -/
theorem scanOne_append (hrest : Delimits rest) (h : scanOne s ss = (.number n, left)) :
    scanOne s (ss ++ rest) = (.number n, left ++ rest) := by
  revert h
  fun_cases scanOne s ss with
  | case7 => exact fun h => absurd h (word_ne_number _ ss _ nofun)
  | case8 => exact fun h => absurd h (word_ne_number _ ss _ nofun)
  | case9 => exact fun h => absurd h (word_ne_number _ ss _ nofun)
  | case12 => exact scanNumber_append hrest
  | case13 =>
    rename_i hdigit
    intro h
    rw [scanOne_of_digit hdigit]
    exact scanNumber_append hrest h
  | _ => rintro ⟨⟩

/-- What is left of a text without any more tokens is passed over. -/
theorem scan_append_of_nil (h : scan ss = []) : scan (ss ++ rest) = scan rest := by
  induction ss with
  | nil => rfl
  | cons s ss ih =>
    cases hblank : isBlank s with
    | true =>
      rw [scan_of_isBlank hblank] at h
      rw [List.cons_append, scan_of_isBlank hblank, ih h]
    | false =>
      rw [scan_of_not_isBlank hblank] at h
      cases h

/-- **A number by itself is the same number where the text goes on delimited.** -/
theorem scan_append_of_number (hrest : Delimits rest) (h : scan ss = [.number n]) :
    scan (ss ++ rest) = .number n :: scan rest := by
  induction ss with
  | nil => cases h
  | cons s ss ih =>
    cases hblank : isBlank s with
    | true =>
      rw [scan_of_isBlank hblank] at h
      rw [List.cons_append, scan_of_isBlank hblank, ih h]
    | false =>
      rw [scan_of_not_isBlank hblank] at h
      obtain ⟨hnumber, hleft⟩ := List.cons.inj h
      have hone : scanOne s ss = (.number n, (scanOne s ss).2) := by rw [← hnumber]
      rw [List.cons_append, scan_of_not_isBlank hblank, scanOne_append hrest hone]
      simp only [scan_append_of_nil hleft]

end Token

end ScreenPages.Json
