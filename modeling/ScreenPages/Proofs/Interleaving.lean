import ScreenPages.Proofs.Matching

/-!
# Templates written with placeholders

A template is usually written by a program: literals are put together with the placeholders of
variables.  The literals may hold anything but a placeholder, also braces, digits and the
beginnings or ends of placeholders.  What is written in this way reads as it was meant, as long
as no variable is used twice and the engine builds an expression for it: no placeholder is found
in it but those that were put there, since one that begins in a literal would have to go on over
the brace of the next.

## Main definitions

* `Template.interleave` — a literal, and texts with a literal behind each.
* `Template.written` — a literal, and placeholders with a literal behind each.
* `Template.ofLiterals` — the template that is meant by it.

## Main results

* `Template.firstRepeated_eq_some_iff` — the variable that is said to be used twice.
* `Template.exists_take_of_written_eq` — the placeholders of a written text.
* `Template.ofText_written` — a written text reads as it was meant.
* `Template.not_forall_exists_ofText_written` — an engine may refuse one with different variables.
-/

namespace ScreenPages.Template

variable {first : String} {rest : List (Variable × String)}

/-- A literal, and texts with a literal behind each. -/
def interleave (first : String) : List (String × String) → String
  | [] => first
  | (text, literal) :: rest => first ++ (text ++ interleave literal rest)

/-- A literal, and placeholders with a literal behind each. -/
def written (first : String) (rest : List (Variable × String)) : String :=
  interleave first (rest.map fun p => (p.1.placeholder, p.2))

/-- The template with these literals between its variables. -/
def ofLiterals (first : String) : List (Variable × String) → Template
  | [] => ⟨[], first.toList⟩
  | (v, literal) :: rest =>
    ⟨(first.toList, v) :: (ofLiterals literal rest).places, (ofLiterals literal rest).tail⟩

/-! ### The template that is meant -/

theorem binders_ofLiterals (first : String) (rest : List (Variable × String)) :
    (ofLiterals first rest).binders = rest.map Prod.fst := by
  induction rest generalizing first with
  | nil => rfl
  | cons p rest ih => exact congrArg (p.1 :: ·) (ih p.2)

theorem literals_ofLiterals (first : String) (rest : List (Variable × String)) :
    (ofLiterals first rest).literals = (first :: rest.map Prod.snd).map String.toList := by
  induction rest generalizing first with
  | nil => rfl
  | cons p rest ih => exact congrArg (first.toList :: ·) (ih p.2)

theorem toList_written_cons (first literal : String) (v : Variable)
    (rest : List (Variable × String)) :
    (written first ((v, literal) :: rest)).toList
      = first.toList ++ (v.placeholderChars ++ (written literal rest).toList) := by
  simp only [written, List.map_cons, interleave, String.toList_append, Variable.placeholder,
    String.toList_ofList]

theorem places_ofLiterals_eq_nil_iff : (ofLiterals first rest).places = [] ↔ rest = [] := by
  cases rest with
  | nil => simp [ofLiterals]
  | cons p rest => simp [ofLiterals]

theorem chars_ofLiterals (first : String) (rest : List (Variable × String)) :
    (ofLiterals first rest).chars = (written first rest).toList := by
  induction rest generalizing first with
  | nil => rfl
  | cons p rest ih =>
    rw [toList_written_cons, ← ih]
    simp [ofLiterals, chars]

/-- The literals of the template that is meant are plain if those that were put together are. -/
theorem free_ofLiterals (hplain : ∀ s ∈ first :: rest.map Prod.snd, Plain s) :
    (ofLiterals first rest).Free := by
  intro literal hmem v hv
  rw [literals_ofLiterals] at hmem
  obtain ⟨s, hs, rfl⟩ := List.mem_map.mp hmem
  exact hplain s hs v hv

/-- The parts of a written text are those that it was put together from. -/
theorem ofParts_parts_written (hplain : ∀ s ∈ first :: rest.map Prod.snd, Plain s) :
    ofParts (parts (written first rest).toList) = ofLiterals first rest :=
  ofParts_parts_eq_iff.mpr ⟨chars_ofLiterals first rest, free_ofLiterals hplain⟩

/-- The text with some values between the literals is spelled with these values. -/
theorem solution_ofLiterals (first : String) {rest : List (Variable × String)}
    {values : List String} (h : values.length = rest.length) :
    (ofLiterals first rest).Solution (interleave first (values.zip (rest.map Prod.snd)))
      values := by
  unfold Solution
  induction rest generalizing first values with
  | nil =>
    obtain rfl := List.eq_nil_of_length_eq_zero h
    exact .tail
  | cons p rest ih =>
    obtain ⟨value, values, rfl⟩ := List.exists_cons_of_length_eq_add_one h
    have hrest := ih p.2 (Nat.succ.inj h)
    simp only [List.map_cons, List.zip_cons_cons, interleave, String.toList_append, ofLiterals]
    rw [← List.append_assoc]
    exact .place hrest

/-! ### The variable that is used twice -/

/-- The first variable that repeats one that was seen or that comes before it. -/
theorem firstRepeated_eq_some_iff {seen vs : List Variable} {v : Variable} :
    firstRepeated seen vs = some v ↔ ∃ before after, vs = before ++ v :: after ∧
      before.Nodup ∧ (∀ w ∈ before, w ∉ seen) ∧ (v ∈ seen ∨ v ∈ before) := by
  induction vs generalizing seen with
  | nil => simp [firstRepeated]
  | cons u vs ih =>
    rw [firstRepeated]
    by_cases hu : u ∈ seen
    · rw [if_pos hu, Option.some.injEq]
      constructor
      · rintro rfl
        exact ⟨[], vs, rfl, List.nodup_nil, by simp, .inl hu⟩
      · rintro ⟨before, after, hvs, -, hbefore, -⟩
        -- nothing comes before a variable that was seen
        cases before with
        | nil => exact (List.cons_eq_cons.mp hvs).1
        | cons w before =>
          obtain ⟨rfl, -⟩ := List.cons_eq_cons.mp hvs
          exact absurd hu (hbefore u List.mem_cons_self)
    · rw [if_neg hu, ih]
      constructor
      · rintro ⟨before, after, rfl, hnodup, hbefore, hv⟩
        simp only [List.mem_cons, not_or] at hbefore hv
        refine ⟨u :: before, after, rfl, List.nodup_cons.mpr ⟨fun h => (hbefore u h).1 rfl, hnodup⟩,
          ?_, ?_⟩
        · exact List.forall_mem_cons.mpr ⟨hu, fun w hw => (hbefore w hw).2⟩
        · rw [List.mem_cons]
          tauto
      · rintro ⟨before, after, hvs, hnodup, hbefore, hv⟩
        cases before with
        | nil =>
          obtain ⟨rfl, -⟩ := List.cons_eq_cons.mp hvs
          simp only [List.not_mem_nil, or_false] at hv
          exact absurd hv hu
        | cons w before =>
          obtain ⟨rfl, rfl⟩ := List.cons_eq_cons.mp hvs
          obtain ⟨hw, hnodup⟩ := List.nodup_cons.mp hnodup
          refine ⟨before, after, rfl, hnodup, ?_, ?_⟩
          · intro x hx
            rw [List.mem_cons, not_or]
            exact ⟨fun h => hw (h ▸ hx), hbefore x (List.mem_cons_of_mem _ hx)⟩
          · rw [List.mem_cons] at hv ⊢
            tauto

/-! ### The placeholders of a written text -/

/-- A placeholder that begins behind the beginning of another one begins behind its end. -/
theorem exists_eq_append_of_placeholder {v w : Variable} {front cs post : List Char}
    (hfront : front ≠ []) (h : v.placeholderChars ++ cs = front ++ (w.placeholderChars ++ post)) :
    ∃ more, front = v.placeholderChars ++ more ∧ cs = more ++ (w.placeholderChars ++ post) := by
  rcases List.append_eq_append_iff.mp h with ⟨more, hmore, hcs⟩ | ⟨more, hmore, hcs⟩
  · exact ⟨more, hmore, hcs⟩
  · -- it would begin inside, or right behind, and there is a brace inside only in front
    cases more with
    | nil => exact ⟨[], by rw [hmore, List.append_nil, List.append_nil], hcs.symm⟩
    | cons c more =>
      exfalso
      have hc : c = '\x7b' := (List.cons_eq_cons.mp hcs).1.symm
      refine Variable.brace_notMem_tail_placeholderChars v ?_
      rw [hmore, List.tail_append_of_ne_nil hfront, hc]
      exact List.mem_append_right _ List.mem_cons_self

/-- **The placeholders of a written text are those that were put there**: one that begins
anywhere in it is the next one after some of the literals and placeholders. -/
theorem exists_take_of_written_eq (hplain : ∀ s ∈ first :: rest.map Prod.snd, Plain s)
    {w : Variable} {pre post : List Char}
    (h : (written first rest).toList = pre ++ (w.placeholderChars ++ post)) :
    ∃ k, (rest.map Prod.fst)[k]? = some w ∧ pre = (written first (rest.take k)).toList := by
  induction rest generalizing first pre with
  | nil =>
    -- there is nothing but a literal
    refine absurd ⟨pre, post, ?_⟩ (hplain first List.mem_cons_self w)
    rw [List.append_assoc]
    exact h.symm
  | cons p rest ih =>
    obtain ⟨v, literal⟩ := p
    rw [toList_written_cons] at h
    rcases List.append_eq_append_iff.mp h with ⟨front, rfl, hfront⟩ | ⟨inside, hfirst, hinside⟩
    · by_cases hempty : front = []
      · -- it begins where the first placeholder does
        subst hempty
        refine ⟨0, ?_, by rw [List.append_nil]; rfl⟩
        rw [List.nil_append] at hfront
        rw [Variable.placeholderChars_append_inj hfront]
        rfl
      · obtain ⟨more, rfl, hrest⟩ := exists_eq_append_of_placeholder hempty hfront
        obtain ⟨k, hk, rfl⟩ := ih (fun s hs => hplain s (List.mem_cons_of_mem _ hs)) hrest
        exact ⟨k + 1, hk, (toList_written_cons ..).symm⟩
    · by_cases hempty : inside = []
      · -- the literal ends right in front of it
        subst hempty
        rw [List.nil_append] at hinside
        rw [List.append_nil] at hfirst
        refine ⟨0, ?_, hfirst.symm⟩
        rw [Variable.placeholderChars_append_inj hinside.symm]
        rfl
      · -- it begins in the literal, and so it ends in it
        exfalso
        have hbegins : w.placeholderChars
            <+: inside ++ (v.placeholderChars ++ (written literal rest).toList) := ⟨post, hinside⟩
        have hends : w.placeholderChars <+: inside :=
          Variable.placeholderChars_prefix_of_append hempty
            (fun c hc => (Option.mem_some.mp hc).symm) hbegins
        refine hplain first List.mem_cons_self w (hends.isInfix.trans ?_)
        exact hfirst ▸ (List.suffix_append pre inside).isInfix

/-! ### Reading a written text -/

section

variable {engine : Engine}

/-- It is refused for a variable exactly if this is the first one that was used before. -/
theorem ofText_written_eq_repeated_iff (hplain : ∀ s ∈ first :: rest.map Prod.snd, Plain s)
    {source : String} {v : Variable} :
    ofText (written first rest) = .error (.repeated source v) ↔ source = written first rest ∧
      ∃ before after, rest.map Prod.fst = before ++ v :: after ∧ before.Nodup ∧ v ∈ before := by
  rw [ofText_eq_repeated_iff, ofParts_parts_written hplain, binders_ofLiterals,
    firstRepeated_eq_some_iff]
  simp

/-- It is refused by the engine exactly if no variable is used twice, and the engine gets it and
does not build it. -/
theorem ofText_written_eq_unbuilt_iff (hplain : ∀ s ∈ first :: rest.map Prod.snd, Plain s)
    {source reason : String} :
    ofText (written first rest) = .error (.unbuilt source reason) ↔ source = written first rest ∧
      (rest.map Prod.fst).Nodup ∧ rest ≠ [] ∧
        Engine.refusal? (ofLiterals first rest) = some reason := by
  rw [ofText_eq_unbuilt_iff, ofParts_parts_written hplain, binders_ofLiterals,
    refusal?_eq_some_iff, Ne, places_ofLiterals_eq_nil_iff]

end

/-- With a single variable there is only one way to take a text apart, so that its value is what
is captured. -/
theorem capture_ofLiterals_singleton (first literal value : String) (v : Variable) :
    (ofLiterals first [(v, literal)]).capture (interleave first [(value, literal)])
      = some [⟨v, value⟩] := by
  have hlength : [value].length = [(v, literal)].length := rfl
  have hsolution : (ofLiterals first [(v, literal)]).Solution
      (interleave first [(value, literal)]) [value] := solution_ofLiterals first hlength
  refine capture_eq_some_iff.mpr ⟨rfl, hsolution, ?_⟩
  intro others hothers
  unfold Solution at hothers
  generalize hcs : (interleave first [(value, literal)]).toList = cs at hothers
  cases hothers with
  | @place _ _ _ other _ _ hrest =>
    cases hrest
    simp only [interleave, String.toList_append] at hcs
    rw [List.append_assoc, List.append_cancel_left_eq] at hcs
    have hvalue : value = other := String.toList_inj.mp (List.append_cancel_right hcs)
    rw [hvalue]
    exact .same .nil

section

variable {engine : Engine}

/-- **A written text reads as it was meant.**  Its literals may hold anything but placeholders.
It is refused for a variable exactly if one is used twice, and then for the first one that was
used before.  Otherwise it is refused exactly if it has a placeholder and the engine does not build
its expression, and then for the reason that the engine gives.  If it is not refused, its variables
are those that were put there, in order, and it matches every text with some values between the
literals.  The value of a single variable is what is captured.  No placeholder occurs in it, over
the end of a literal or anywhere else, but those that were put there. -/
theorem ofText_written (hplain : ∀ s ∈ first :: rest.map Prod.snd, Plain s) :
    ((∃ source v, ofText (written first rest) = .error (.repeated source v)) ↔
        ¬ (rest.map Prod.fst).Nodup) ∧
      (∀ source v, ofText (written first rest) = .error (.repeated source v) →
        source = written first rest ∧ ∃ before after,
          rest.map Prod.fst = before ++ v :: after ∧ before.Nodup ∧ v ∈ before) ∧
      (∀ source reason, ofText (written first rest) = .error (.unbuilt source reason) ↔
        source = written first rest ∧ (rest.map Prod.fst).Nodup ∧ rest ≠ [] ∧
          Engine.refusal? (ofLiterals first rest) = some reason) ∧
      ((rest.map Prod.fst).Nodup → rest = [] ∨ Engine.refusal? (ofLiterals first rest) = none →
        ∃ t, ofText (written first rest) = .ok t ∧ t.binders = rest.map Prod.fst ∧
          (∀ values : List String, values.length = rest.length →
            t.accepts (interleave first (values.zip (rest.map Prod.snd))) = true) ∧
          ∀ v literal value, rest = [(v, literal)] →
            t.capture (interleave first [(value, literal)]) = some [⟨v, value⟩]) ∧
      ∀ (w : Variable) (pre post : List Char),
        (written first rest).toList = pre ++ (w.placeholderChars ++ post) →
          ∃ k, (rest.map Prod.fst)[k]? = some w ∧
            pre = (written first (rest.take k)).toList := by
  refine ⟨?_, fun _ _ => (ofText_written_eq_repeated_iff hplain).mp,
    fun _ _ => ofText_written_eq_unbuilt_iff hplain, ?_, fun w pre post =>
      exists_take_of_written_eq hplain⟩
  · rw [← firstRepeated_nil_eq_none_iff, ← Ne, Option.ne_none_iff_exists']
    simp [ofText_eq_repeated_iff, ofParts_parts_written hplain, binders_ofLiterals]
  · intro hnodup hbuilt
    rw [← places_ofLiterals_eq_nil_iff, ← refusal?_eq_none_iff] at hbuilt
    have hread : ofText (written first rest) = .ok (ofLiterals first rest) := ofText_eq_ok_iff.mpr
      ⟨cuts_iff.mpr (ofParts_parts_written hplain), by rwa [binders_ofLiterals], hbuilt⟩
    refine ⟨ofLiterals first rest, hread, binders_ofLiterals first rest, ?_, ?_⟩
    · intro values hvalues
      exact isSome_capture_iff.mpr ⟨values, solution_ofLiterals first hvalues⟩
    · rintro v literal value rfl
      exact capture_ofLiterals_singleton first literal value v

end

/-- A placeholder without its last brace, to be followed by another placeholder. -/
def brokenFront : String := "\x7b11111111-1111-1111-1111-111111111111"

/-- Placeholders with a brace between them, and the end of a placeholder behind them. -/
def brokenRest : List (Variable × String) :=
  [(ones, "\x7b"), (twos, "22222222-2222-2222-2222-222222222222\x7d")]

/-- Pieces of placeholders in front of placeholders and behind them are not taken for any. -/
theorem ofText_written_broken :
    (∀ s ∈ brokenFront :: brokenRest.map Prod.snd, Plain s) ∧
      (∃ t, ofText (written brokenFront brokenRest) = .ok t ∧ t.binders = [ones, twos]) ∧
      ∃ source, ofText (written brokenFront (brokenRest ++ [(ones, "")])) =
        .error (.repeated source ones) := by
  have hplain : ∀ s ∈ brokenFront :: (brokenRest ++ [(ones, "")]).map Prod.snd, Plain s := by
    simp only [plain_iff]
    decide +kernel
  have hshort : ∀ s ∈ brokenFront :: brokenRest.map Prod.snd, Plain s := by
    intro s hs
    refine hplain s ?_
    rw [List.map_append, ← List.cons_append]
    exact List.mem_append_left _ hs
  obtain ⟨-, -, -, hread, -⟩ := ofText_written hshort
  obtain ⟨hrefused, hfirst, -⟩ := ofText_written hplain
  have hbuilt : Engine.refusal? (ofLiterals brokenFront brokenRest) = none := by decide +kernel
  obtain ⟨t, ht, hbinders, -⟩ := hread (by decide) (.inr hbuilt)
  obtain ⟨source, v, hv⟩ := hrefused.mpr (by decide)
  obtain ⟨-, before, after, hsplit, -, hmem⟩ := hfirst source v hv
  refine ⟨hshort, ⟨t, ht, hbinders⟩, source, ?_⟩
  suffices h : v = ones by rw [hv, h]
  -- the first two are different, so it is the third
  match before, hsplit, hmem with
  | [x], hsplit, hmem =>
    obtain ⟨rfl, hbinder, -⟩ : ones = x ∧ twos = v ∧ [ones] = after := by
      simpa [brokenRest] using hsplit
    rw [← hbinder] at hmem
    exact absurd hmem (by decide)
  | x :: y :: before, hsplit, hmem =>
    obtain ⟨-, -, hrest⟩ : ones = x ∧ twos = y ∧ [ones] = before ++ v :: after := by
      simpa [brokenRest] using hsplit
    exact (List.mem_singleton.mp (hrest ▸ List.mem_append_right _ List.mem_cons_self))

/-- The engine of running programs refuses what is beyond its limit. -/
theorem exists_refusal?_eq_some_iff {t : Template} :
    (∃ reason, Engine.refusal? t = some reason) ↔ Engine.sizeLimit < t.expressionSize := by
  simp [Engine.refusal?]

/-- A long literal. -/
def longFront (n : Nat) : String := String.ofList (List.replicate n 'a')

theorem plain_longFront (n : Nat) : Plain (longFront n) := by
  refine plain_of_notMem ?_
  rw [longFront, String.toList_ofList, List.mem_replicate]
  exact fun h => absurd h.2 (by decide)

theorem utf8ByteSize_longFront (n : Nat) : (longFront n).utf8ByteSize = n := by
  induction n with
  | zero => rfl
  | succ n ih =>
    have hmore : longFront (n + 1) = String.singleton 'a' ++ longFront n := by
      rw [longFront, List.replicate_succ, String.ofList_cons, longFront]
    rw [hmore, String.utf8ByteSize_append, String.utf8ByteSize_singleton, ih, Nat.add_comm]
    rfl

theorem expressionSize_longFront (n : Nat) :
    (ofLiterals (longFront n) [(ones, "")]).expressionSize = 32 * n + 1024 := by
  simp [expressionSize, literalChars, ofLiterals, utf8ByteSize_longFront]

/-- A text with 450000 letters in front of its only placeholder is refused. -/
theorem not_forall_exists_ofText_written :
    ¬ ∀ (first : String) (rest : List (Variable × String)),
      (∀ s ∈ first :: rest.map Prod.snd, Plain s) → (rest.map Prod.fst).Nodup →
        ∃ t, ofText (written first rest) = .ok t := by
  intro h
  have hplain : ∀ s ∈ longFront 450000 :: [(ones, "")].map Prod.snd, Plain s := by
    rw [List.forall_mem_cons]
    exact ⟨plain_longFront 450000, List.forall_mem_singleton.mpr (plain_of_notMem (by decide))⟩
  have hlong : Engine.sizeLimit < (ofLiterals (longFront 450000) [(ones, "")]).expressionSize := by
    rw [expressionSize_longFront]
    decide
  obtain ⟨reason, hreason⟩ := exists_refusal?_eq_some_iff.mpr hlong
  obtain ⟨t, ht⟩ := h (longFront 450000) [(ones, "")] hplain (by decide)
  have hrefused := (ofText_written_eq_unbuilt_iff hplain).mpr
    ⟨rfl, by decide, List.cons_ne_nil _ _, hreason⟩
  rw [ht] at hrefused
  cases hrefused

end ScreenPages.Template
