import Mathlib.Data.List.Infix
import ScreenPages.Template

/-!
# Cutting a text into literals and places

A template is read from a text in which placeholders mark the places of its variables: the
identifiers of the variables in upper case between braces.  A brace opens each placeholder,
and inside of it there is none, so no placeholder begins within another.  For this reason
there is only one way to cut a text at placeholders such that none is left in a literal, and
it does not matter that placeholders are taken from the left.

## Main definitions

* `Template.literals` — the literals of a template, before, between and after its places.
* `Template.Plain` — a text has no placeholder.
* `Template.Cuts` — a text is cut into literals and places, and no literal has a placeholder.

## Main results

* `Variable.ofPlaceholder?_eq_some_iff` — reading a placeholder undoes writing it.
* `Template.ofParts_parts_eq_iff` — the parts of a text are the only way to cut it.
* `Template.ofText_eq_ok_iff` — the template of a text is the only one that cuts it, uses no
  variable twice, and is built by the engine.
* `Template.ofText_eq_repeated_iff`, `Template.ofText_eq_unbuilt_iff` — when a text is refused.
-/

namespace ScreenPages

/-! ### Digits and groups of digits -/

namespace Uuid

theorem ofUpperDigit?_eq_some_iff {c : Char} {d : Fin 16} :
    ofUpperDigit? c = some d ↔ upperDigit d = c := by
  unfold ofUpperDigit?
  constructor
  · intro h
    have hd := List.find?_some h
    exact beq_iff_eq.mp hd
  · rintro rfl
    revert d
    decide

theorem readDigits_eq_some_iff {n : Nat} {cs rest : List Char} {ds : List (Fin 16)} :
    readDigits ofUpperDigit? n cs = some (ds, rest) ↔
      ds.length = n ∧ cs = ds.map upperDigit ++ rest := by
  induction n generalizing cs ds rest with
  | zero =>
    rw [readDigits, Option.some.injEq, Prod.mk.injEq, List.length_eq_zero_iff]
    constructor
    · rintro ⟨rfl, rfl⟩
      exact ⟨rfl, rfl⟩
    · rintro ⟨rfl, rfl⟩
      exact ⟨rfl, rfl⟩
  | succ n ih =>
    cases cs with
    | nil => cases ds <;> simp [readDigits]
    | cons c cs =>
      rw [readDigits]
      simp only [Option.bind_eq_bind, Option.bind_eq_some_iff, Prod.exists, Option.pure_def,
        Option.some.injEq, Prod.mk.injEq, ofUpperDigit?_eq_some_iff, ih]
      constructor
      · rintro ⟨d, rfl, es, rest, ⟨rfl, rfl⟩, rfl, rfl⟩
        exact ⟨rfl, rfl⟩
      · rintro ⟨hlength, hcs⟩
        obtain ⟨d, es, rfl⟩ := List.exists_cons_of_length_eq_add_one hlength
        obtain ⟨rfl, rfl⟩ := List.cons_eq_cons.mp hcs
        exact ⟨d, rfl, es, rest, ⟨Nat.succ.inj hlength, rfl⟩, rfl, rfl⟩

/-- A hyphen is put behind the first group, unless it is the only one. -/
theorem hyphenate_append {n m : Nat} {ns : List Nat} {cs ds : List Char} (h : cs.length = n) :
    hyphenate (n :: m :: ns) (cs ++ ds) = cs ++ '-' :: hyphenate (m :: ns) ds := by
  simp only [hyphenate, List.take_left' h, List.drop_left' h]

/-- Reading groups of digits undoes putting hyphens between them. -/
theorem readGroups_eq_some_iff {ns : List Nat} {cs rest : List Char} {ds : List (Fin 16)} :
    readGroups ofUpperDigit? ns cs = some (ds, rest) ↔
      ds.length = ns.foldr (· + ·) 0 ∧ cs = hyphenate ns (ds.map upperDigit) ++ rest := by
  induction ns generalizing cs ds rest with
  | nil => exact readDigits_eq_some_iff (n := 0)
  | cons n ns ih =>
    cases ns with
    | nil =>
      rw [readGroups, hyphenate, List.foldr_cons, List.foldr_nil, Nat.add_zero]
      exact readDigits_eq_some_iff
    | cons m ns =>
      simp only [readGroups]
      rw [List.foldr_cons]
      constructor
      · -- the digits of the first group are read, and a hyphen has to follow
        intro h
        obtain ⟨⟨es, cs'⟩, hes, hnext⟩ := Option.bind_eq_some_iff.mp h
        obtain ⟨rfl, rfl⟩ := readDigits_eq_some_iff.mp hes
        simp only at hnext
        split at hnext
        case h_2 => cases hnext
        case h_1 =>
          obtain ⟨⟨fs, cs''⟩, hfs, hlast⟩ := Option.bind_eq_some_iff.mp hnext
          obtain ⟨hlength, rfl⟩ := ih.mp hfs
          cases hlast
          refine ⟨by rw [List.length_append, hlength], ?_⟩
          rw [List.map_append, hyphenate_append (List.length_map _), List.append_assoc,
            List.cons_append]
      · rintro ⟨hlength, rfl⟩
        obtain ⟨es, fs, rfl, rfl⟩ : ∃ es fs, es ++ fs = ds ∧ es.length = n :=
          ⟨ds.take n, ds.drop n, List.take_append_drop n ds, by rw [List.length_take]; omega⟩
        have hfs : fs.length = (m :: ns).foldr (· + ·) 0 := by
          rw [List.length_append] at hlength
          exact Nat.add_left_cancel hlength
        rw [List.map_append, hyphenate_append (List.length_map _), List.append_assoc,
          List.cons_append, readDigits_eq_some_iff.mpr ⟨rfl, rfl⟩]
        simp only [Option.bind_eq_bind, Option.bind_some, ih.mpr ⟨hfs, rfl⟩, Option.pure_def]

/-- Hyphens are all that is put between groups. -/
theorem mem_hyphenate {c : Char} {ns : List Nat} {cs : List Char} (h : c ∈ hyphenate ns cs) :
    c = '-' ∨ c ∈ cs := by
  induction ns generalizing cs with
  | nil => exact .inr h
  | cons n ns ih =>
    cases ns with
    | nil => exact .inr h
    | cons m ns =>
      simp only [hyphenate, List.mem_append, List.mem_cons] at h
      rcases h with h | h | h
      · exact .inr (List.mem_of_mem_take h)
      · exact .inl h
      · exact (ih h).imp_right List.mem_of_mem_drop

end Uuid

/-! ### Placeholders -/

namespace Variable

open Uuid

/-- **Reading a placeholder undoes writing it.** -/
theorem ofPlaceholder?_eq_some_iff {v : Variable} {cs rest : List Char} :
    ofPlaceholder? cs = some (v, rest) ↔ cs = v.placeholderChars ++ rest := by
  have hgroups : groups.foldr (· + ·) 0 = 32 := rfl
  constructor
  · intro h
    unfold ofPlaceholder? at h
    split at h
    case h_2 => cases h
    case h_1 =>
      obtain ⟨⟨ds, cs'⟩, hds, hnext⟩ := Option.bind_eq_some_iff.mp h
      obtain ⟨-, rfl⟩ := readGroups_eq_some_iff.mp hds
      simp only at hnext
      split at hnext
      case h_2 => cases hnext
      case h_1 =>
        obtain ⟨w, hw, hlast⟩ := Option.bind_eq_some_iff.mp hnext
        unfold ofDigits? at hw
        split at hw
        · cases hw
          cases hlast
          simp [placeholderChars]
        · cases hw
  · rintro rfl
    have hread : readGroups ofUpperDigit? groups
        (hyphenate groups (v.digits.map upperDigit) ++ ('\x7d' :: rest)) =
          some (v.digits, '\x7d' :: rest) :=
      readGroups_eq_some_iff.mpr ⟨v.length_digits.trans hgroups.symm, rfl⟩
    have hv : ofDigits? v.digits = some v := dif_pos v.length_digits
    simp only [placeholderChars, List.cons_append, List.append_assoc, List.nil_append]
    simp [ofPlaceholder?, hread, hv]

theorem ofPlaceholder?_eq_none_iff {cs : List Char} :
    ofPlaceholder? cs = none ↔ ∀ v : Variable, ¬ v.placeholderChars <+: cs := by
  rw [Option.eq_none_iff_forall_ne_some]
  constructor
  · rintro h v ⟨rest, rfl⟩
    exact h (v, rest) (ofPlaceholder?_eq_some_iff.mpr rfl)
  · rintro h ⟨v, rest⟩ hread
    exact h v ⟨rest, (ofPlaceholder?_eq_some_iff.mp hread).symm⟩

/-- Placeholders at the same place of a text are the same. -/
theorem placeholderChars_append_inj {v w : Variable} {cs ds : List Char}
    (h : v.placeholderChars ++ cs = w.placeholderChars ++ ds) : v = w := by
  have hv := ofPlaceholder?_eq_some_iff.mpr h
  rw [ofPlaceholder?_eq_some_iff.mpr rfl] at hv
  cases hv
  rfl

/-- No placeholder begins inside another. -/
theorem brace_notMem_tail_placeholderChars (v : Variable) :
    '\x7b' ∉ v.placeholderChars.tail := by
  have hdigit : ∀ d : Fin 16, upperDigit d ≠ '\x7b' := by decide
  intro hmem
  rw [placeholderChars, List.tail_cons, List.mem_append, List.mem_singleton] at hmem
  rcases hmem with hmem | hmem
  · rcases mem_hyphenate hmem with hmem | hmem
    · exact absurd hmem (by decide)
    · obtain ⟨d, -, hd⟩ := List.mem_map.mp hmem
      exact hdigit d hd
  · exact absurd hmem (by decide)

/-- A placeholder that begins in a literal ends in it, if what follows the literal is another
placeholder or nothing. -/
theorem placeholderChars_prefix_of_append {v : Variable} {literal rest : List Char}
    (hliteral : literal ≠ []) (hrest : ∀ c ∈ rest.head?, c = '\x7b')
    (h : v.placeholderChars <+: literal ++ rest) : v.placeholderChars <+: literal := by
  have hfront := List.prefix_append literal rest
  rcases List.prefix_or_prefix_of_prefix h hfront with hshort | ⟨more, hmore⟩
  · exact hshort
  · cases more with
    | nil =>
      rw [← hmore, List.append_nil]
    | cons c more =>
      exfalso
      -- the placeholder goes on where the other one begins
      rw [← hmore, List.prefix_append_right_inj] at h
      have hc : c = '\x7b' := by
        obtain ⟨cs, rfl⟩ := h
        exact hrest c rfl
      refine brace_notMem_tail_placeholderChars v ?_
      rw [← hmore, List.tail_append_of_ne_nil hliteral, hc]
      exact List.mem_append_right _ List.mem_cons_self

end Variable

/-! ### The parts of a text -/

namespace Template

/-- The literals of a template, before, between and after its places. -/
def literals (t : Template) : List (List Char) := t.places.map Prod.fst ++ [t.tail]

/-- No literal of a template has a placeholder in it. -/
def Free (t : Template) : Prop :=
  ∀ literal ∈ t.literals, ∀ v : Variable, ¬ v.placeholderChars <:+: literal

/-- A text is cut into literals and places by a template: written out it is the text, and all
placeholders of the text are at its places. -/
structure Cuts (t : Template) (s : String) : Prop where
  text : t.text = s
  free : t.Free

theorem chars_consChar (c : Char) (t : Template) : (t.consChar c).chars = c :: t.chars := by
  obtain ⟨_ | ⟨⟨literal, v⟩, places⟩, tail⟩ := t
  · rfl
  · rfl

theorem chars_place (v : Variable) (t : Template) :
    (Template.mk (([], v) :: t.places) t.tail).chars = v.placeholderChars ++ t.chars := by
  simp [chars]

/-- Every template is made of parts. -/
theorem exists_ofParts_eq (t : Template) : ∃ ps, ofParts ps = t := by
  obtain ⟨places, tail⟩ := t
  induction places with
  | nil =>
    induction tail with
    | nil => exact ⟨[], rfl⟩
    | cons c tail ih =>
      obtain ⟨ps, hps⟩ := ih
      exact ⟨.char c :: ps, by rw [ofParts, hps, consChar]⟩
  | cons place places ih =>
    obtain ⟨literal, v⟩ := place
    induction literal with
    | nil =>
      obtain ⟨ps, hps⟩ := ih
      exact ⟨.place v :: ps, by rw [ofParts, hps]⟩
    | cons c literal ih =>
      obtain ⟨ps, hps⟩ := ih
      exact ⟨.char c :: ps, by rw [ofParts, hps, consChar]⟩

theorem free_nil : (Template.mk [] []).Free := by
  intro literal hmem v hinfix
  rw [List.mem_singleton.mp hmem] at hinfix
  exact absurd (List.infix_nil.mp hinfix) (List.cons_ne_nil _ _)

theorem free_place {v : Variable} {t : Template} :
    (Template.mk (([], v) :: t.places) t.tail).Free ↔ t.Free := by
  constructor
  · intro h literal hmem
    exact h literal (List.mem_cons_of_mem _ hmem)
  · intro h literal hmem
    rcases List.mem_cons.mp hmem with rfl | hmem
    · intro w hinfix
      exact absurd (List.infix_nil.mp hinfix) (List.cons_ne_nil _ _)
    · exact h literal hmem

/-- The first literal of a template, and what follows it: a placeholder or nothing. -/
theorem exists_literals_eq (t : Template) : ∃ literal literals rest,
    t.literals = literal :: literals ∧ t.chars = literal ++ rest ∧
      (∀ c ∈ rest.head?, c = '\x7b') ∧
      ∀ c, (t.consChar c).literals = (c :: literal) :: literals := by
  obtain ⟨_ | ⟨⟨literal, v⟩, places⟩, tail⟩ := t
  · refine ⟨tail, [], [], rfl, (List.append_nil _).symm, ?_, fun _ => rfl⟩
    intro c hc
    cases hc
  · refine ⟨literal, places.map Prod.fst ++ [tail], v.placeholderChars ++ chars ⟨places, tail⟩,
      rfl, ?_, ?_, fun _ => rfl⟩
    · simp [chars]
    · intro c hc
      exact (Option.mem_some.mp hc).symm

/-- A character in front of a template brings a placeholder into its literals exactly if one
begins with it. -/
theorem free_consChar {c : Char} {t : Template} :
    (t.consChar c).Free ↔ t.Free ∧ ∀ v : Variable, ¬ v.placeholderChars <+: c :: t.chars := by
  obtain ⟨literal, literals, rest, hliterals, hchars, hrest, hcons⟩ := exists_literals_eq t
  have hfront (v : Variable) : v.placeholderChars <+: c :: t.chars ↔
      v.placeholderChars <+: c :: literal := by
    rw [hchars]
    constructor
    · exact Variable.placeholderChars_prefix_of_append (List.cons_ne_nil c literal) hrest
    · intro h
      exact h.trans (List.prefix_append (c :: literal) rest)
  simp only [Free, hcons c, hliterals, List.forall_mem_cons, List.infix_cons_iff, hfront, not_or,
    forall_and]
  tauto

/-- What is made of the parts of a text cuts it. -/
theorem chars_ofParts_partsWith {fuel : Nat} {cs : List Char} (h : cs.length ≤ fuel) :
    (ofParts (partsWith fuel cs)).chars = cs ∧ (ofParts (partsWith fuel cs)).Free := by
  induction fuel generalizing cs with
  | zero =>
    obtain rfl := List.eq_nil_of_length_eq_zero (Nat.le_zero.mp h)
    exact ⟨rfl, free_nil⟩
  | succ fuel ih =>
    cases cs with
    | nil => exact ⟨rfl, free_nil⟩
    | cons c cs =>
      rw [partsWith]
      cases hread : Variable.ofPlaceholder? (c :: cs) with
      | some found =>
        -- the placeholder becomes a place, and what is left is shorter than the text
        obtain ⟨v, rest⟩ := found
        have hcs := Variable.ofPlaceholder?_eq_some_iff.mp hread
        have hrest : rest.length ≤ fuel := by
          have hlength := congrArg List.length hcs
          rw [List.length_append, Variable.placeholderChars, List.length_cons] at hlength
          rw [List.length_cons] at h hlength
          omega
        obtain ⟨hchars, hfree⟩ := ih hrest
        simp only [ofParts]
        rw [chars_place, hchars, free_place]
        exact ⟨hcs.symm, hfree⟩
      | none =>
        -- no placeholder begins here, so the character does not bring one into the literal
        obtain ⟨hchars, hfree⟩ := ih (Nat.le_of_succ_le_succ h)
        simp only [ofParts]
        rw [chars_consChar, free_consChar, hchars]
        exact ⟨rfl, hfree, Variable.ofPlaceholder?_eq_none_iff.mp hread⟩

/-- A template without placeholders in its literals is made of the parts of its text. -/
theorem ofParts_partsWith_of_free {fuel : Nat} {t : Template} (hfree : t.Free)
    (h : t.chars.length ≤ fuel) : ofParts (partsWith fuel t.chars) = t := by
  obtain ⟨ps, rfl⟩ := exists_ofParts_eq t
  induction ps generalizing fuel with
  | nil => cases fuel <;> rfl
  | cons part ps ih =>
    cases part with
    | char c =>
      rw [ofParts, free_consChar] at hfree
      rw [ofParts, chars_consChar] at h ⊢
      obtain ⟨hrest, hfront⟩ := hfree
      cases fuel with
      | zero => cases h
      | succ fuel =>
        rw [partsWith, Variable.ofPlaceholder?_eq_none_iff.mpr hfront]
        simp only [ofParts, ih hrest (Nat.le_of_succ_le_succ h)]
    | place v =>
      rw [ofParts, free_place] at hfree
      rw [ofParts, chars_place] at h ⊢
      cases fuel with
      | zero => cases h
      | succ fuel =>
        have hread : Variable.ofPlaceholder? (v.placeholderChars ++ (ofParts ps).chars) =
            some (v, (ofParts ps).chars) := Variable.ofPlaceholder?_eq_some_iff.mpr rfl
        have hrest : (ofParts ps).chars.length ≤ fuel := by
          rw [List.length_append, Variable.placeholderChars, List.length_cons] at h
          omega
        rw [Variable.placeholderChars, List.cons_append] at hread ⊢
        rw [partsWith, hread]
        simp only [ofParts, ih hfree hrest]

/-- **The parts of a text are the only way to cut it.** -/
theorem ofParts_parts_eq_iff {cs : List Char} {t : Template} :
    ofParts (parts cs) = t ↔ t.chars = cs ∧ t.Free := by
  constructor
  · rintro rfl
    exact chars_ofParts_partsWith le_rfl
  · rintro ⟨rfl, hfree⟩
    exact ofParts_partsWith_of_free hfree le_rfl

/-! ### Reading a template -/

theorem firstRepeated_eq_none_iff {seen vs : List Variable} :
    firstRepeated seen vs = none ↔ (∀ v ∈ vs, v ∉ seen) ∧ vs.Nodup := by
  induction vs generalizing seen with
  | nil => simp [firstRepeated]
  | cons v vs ih =>
    rw [firstRepeated]
    by_cases hseen : v ∈ seen
    · simp [hseen]
    · rw [if_neg hseen, ih]
      simp only [List.mem_cons, not_or, List.nodup_cons, forall_eq_or_imp]
      constructor
      · rintro ⟨hvs, hnodup⟩
        exact ⟨⟨hseen, fun w hw => (hvs w hw).2⟩, fun hv => (hvs v hv).1 rfl, hnodup⟩
      · rintro ⟨⟨-, hvs⟩, hv, hnodup⟩
        exact ⟨fun w hw => ⟨fun h => hv (h ▸ hw), hvs w hw⟩, hnodup⟩

/-- Nothing is repeated exactly if all variables are different. -/
theorem firstRepeated_nil_eq_none_iff {vs : List Variable} :
    firstRepeated [] vs = none ↔ vs.Nodup := by
  simp [firstRepeated_eq_none_iff]

theorem text_eq_iff {t : Template} {s : String} : t.text = s ↔ t.chars = s.toList := by
  rw [text]
  constructor
  · rintro rfl
    exact (String.toList_ofList).symm
  · intro h
    rw [h, String.ofList_toList]

theorem cuts_iff {t : Template} {s : String} : t.Cuts s ↔ ofParts (parts s.toList) = t := by
  rw [ofParts_parts_eq_iff, ← text_eq_iff]
  exact ⟨fun h => ⟨h.text, h.free⟩, fun h => ⟨h.1, h.2⟩⟩

/-- There is only one way to cut a text. -/
theorem Cuts.unique {t u : Template} {s : String} (h : t.Cuts s) (h' : u.Cuts s) : t = u := by
  rw [← cuts_iff.mp h, ← cuts_iff.mp h']

variable {engine : Engine}

theorem refusal?_eq_some_iff {t : Template} {reason : String} :
    t.refusal? = some reason ↔ t.places ≠ [] ∧ Engine.refusal? t = some reason := by
  cases hplaces : t.places <;> simp [refusal?, hplaces]

theorem refusal?_eq_none_iff {t : Template} :
    t.refusal? = none ↔ t.places = [] ∨ Engine.refusal? t = none := by
  cases hplaces : t.places <;> simp [refusal?, hplaces]

/-- **The template of a text is the only one that cuts it**, uses no variable twice, and is built
by the engine. -/
theorem ofText_eq_ok_iff {s : String} {t : Template} :
    ofText s = .ok t ↔ t.Cuts s ∧ t.binders.Nodup ∧ t.refusal? = none := by
  rw [cuts_iff, ← firstRepeated_nil_eq_none_iff, ofText]
  constructor
  · intro h
    cases hrepeated : firstRepeated [] (ofParts (parts s.toList)).binders with
    | some v =>
      rw [hrepeated] at h
      cases h
    | none =>
      cases hrefusal : (ofParts (parts s.toList)).refusal? with
      | some reason =>
        rw [hrepeated, hrefusal] at h
        cases h
      | none =>
        rw [hrepeated, hrefusal] at h
        cases h
        exact ⟨rfl, hrepeated, hrefusal⟩
  · rintro ⟨rfl, hrepeated, hrefusal⟩
    rw [hrepeated, hrefusal]

/-- A text is refused for the first variable that is repeated in it. -/
theorem ofText_eq_repeated_iff {s source : String} {v : Variable} :
    ofText s = .error (.repeated source v) ↔
      source = s ∧ firstRepeated [] (ofParts (parts s.toList)).binders = some v := by
  rw [ofText]
  cases firstRepeated [] (ofParts (parts s.toList)).binders with
  | some w => simp [eq_comm]
  | none => cases (ofParts (parts s.toList)).refusal? <;> simp

/-- A text in which nothing is repeated is refused for the reason that the engine gives. -/
theorem ofText_eq_unbuilt_iff {s source reason : String} :
    ofText s = .error (.unbuilt source reason) ↔ source = s ∧
      (ofParts (parts s.toList)).binders.Nodup ∧
        (ofParts (parts s.toList)).refusal? = some reason := by
  rw [ofText, ← firstRepeated_nil_eq_none_iff]
  cases firstRepeated [] (ofParts (parts s.toList)).binders with
  | some w => simp
  | none => cases (ofParts (parts s.toList)).refusal? <;> simp [eq_comm]

/-! ### Plain texts -/

/-- A text has no placeholder. -/
def Plain (s : String) : Prop := ∀ v : Variable, ¬ v.placeholderChars <:+: s.toList

/-- A plain text is a template of its own. -/
theorem ofText_plain {s : String} (h : Plain s) : ofText s = .ok ⟨[], s.toList⟩ := by
  rw [ofText_eq_ok_iff]
  refine ⟨⟨text_eq_iff.mpr rfl, ?_⟩, List.nodup_nil, rfl⟩
  intro literal hliteral
  rw [List.mem_singleton.mp hliteral]
  exact h

/-- A text without a brace is plain. -/
theorem plain_of_notMem {s : String} (h : '\x7b' ∉ s.toList) : Plain s := by
  intro v hv
  exact h (hv.subset List.mem_cons_self)

/-- A text is plain if no placeholder is read at any place of it. -/
theorem plain_iff {s : String} :
    Plain s ↔ ∀ cs ∈ s.toList.tails, Variable.ofPlaceholder? cs = none := by
  simp only [Plain, List.mem_tails, Variable.ofPlaceholder?_eq_none_iff,
    List.infix_iff_prefix_suffix, not_exists, not_and]
  constructor
  · exact fun h cs hcs v hv => h v cs hv hcs
  · exact fun h v cs hv hcs => h cs hcs v hv

end Template

end ScreenPages
