import Mathlib.Data.List.Nodup
import ScreenPages.Captured
import ScreenPages.Proofs.Cutting

/-!
# The greediest match of a template

A text matches a template if it is spelled by it with some values in its places.  There may
be many ways to choose them.  The one that counts gives the first place the longest value for
which there is some way to choose the others, the second the longest after that, and so on.

The literals are looked for from the right end, each at its last occurrence in what is left.
Of all ways to spell the end of a text this leaves the most in front, and with it the longest
value for the place before; so what is chosen from the right is the greediest from the left.

## Main definitions

* `Template.Spells`, `Template.Solution` — a text is spelled with some values in the places.
* `Template.AsGreedy` — where two choices of values first differ, one has the longer value.
* `Template.Greediest` — the choice of values that is as greedy as every other.
* `Template.substitute` — the text of a template with other texts for its placeholders.

## Main results

* `Captured.get?_record` — the value of a variable is that of the last capture of it.
* `Template.exists_fill_of_spells` — no way to spell the end of a text leaves more in front
  than the one that is found.
* `Template.capture_eq_some_iff` — the values of a match are the greediest.
* `Template.capture_greediest` — a text that is read as a template matches what it spells, and
  the greediest values are captured.
-/

namespace ScreenPages

/-! ### Captured values -/

namespace Captured

theorem get?_put (c : Captured) (x : Capture) (v : Variable) :
    (c.put x).get? v = if x.binder = v then some x.value else c.get? v := by
  unfold get? put
  by_cases hv : x.binder = v
  · rw [if_pos hv, List.find?_cons_of_pos (by exact beq_iff_eq.mpr hv), Option.map_some]
  · rw [if_neg hv, List.find?_cons_of_neg (by rw [beq_iff_eq]; exact hv), List.find?_filter]
    congr 2
    funext e
    -- of the variable that is looked for nothing was taken away
    by_cases he : e.1 = v
    · have hne : ¬ v = x.binder := fun h => hv h.symm
      simp [he, hne]
    · simp [he]

/-- The value of a variable after some captures is that of the last one of it. -/
theorem get?_record (c : Captured) (captures : List Capture) (v : Variable) :
    (c.record captures).get? v =
      ((captures.reverse.find? fun x => x.binder = v).map Capture.value).or (c.get? v) := by
  unfold record
  induction captures generalizing c with
  | nil => rfl
  | cons x captures ih =>
    rw [List.foldl_cons, ih, get?_put, List.reverse_cons, List.find?_append]
    cases captures.reverse.find? fun x => x.binder = v with
    | some y => rfl
    | none =>
      by_cases hv : x.binder = v
      · simp [hv]
      · simp [hv]

/-- If no variable is captured twice, the value of each is the one that is captured. -/
theorem read_record_of_mem {captures : List Capture} {x : Capture} (c : Captured)
    (hnodup : (captures.map Capture.binder).Nodup) (hx : x ∈ captures) :
    (c.record captures).read x.binder = x.value := by
  have hfind : captures.reverse.find? (fun y => y.binder = x.binder) = some x := by
    cases hy : captures.reverse.find? fun y => y.binder = x.binder with
    | none =>
      have hnone := List.find?_eq_none.mp hy x (List.mem_reverse.mpr hx)
      exact absurd (decide_eq_true rfl) hnone
    | some y =>
      have hmem : y ∈ captures := List.mem_reverse.mp (List.mem_of_find?_eq_some hy)
      have hfound := List.find?_some hy
      have hbinder : y.binder = x.binder := of_decide_eq_true hfound
      rw [List.inj_on_of_nodup_map hnodup hmem hx hbinder]
  rw [read, get?_record, hfind, Option.map_some, Option.some_or, Option.getD_some]

end Captured

namespace Template

variable {tail cs : List Char} {places : List (List Char × Variable)} {values others : List String}

section

variable {engine : Template.Engine}

/-- A text is spelled by literals, each with a value behind it, and a tail. -/
inductive Spells (tail : List Char) :
    List (List Char × Variable) → List String → List Char → Prop
  | tail : Spells tail [] [] tail
  | place {literal : List Char} {v : Variable} {places : List (List Char × Variable)}
      {value : String} {values : List String} {cs : List Char}
      (rest : Spells tail places values cs) :
      Spells tail ((literal, v) :: places) (value :: values) (literal ++ value.toList ++ cs)

theorem Spells.place_ofList {v : Variable} (h : Spells tail places values cs)
    (literal value : List Char) :
    Spells tail ((literal, v) :: places) (String.ofList value :: values)
      (literal ++ value ++ cs) := by
  have hplace : Spells tail ((literal, v) :: places) (String.ofList value :: values)
      (literal ++ (String.ofList value).toList ++ cs) := .place h
  rw [String.toList_ofList] at hplace
  exact hplace

/-- A text is spelled by a template with these values in its places. -/
def Solution (t : Template) (s : String) (values : List String) : Prop :=
  Spells t.tail t.places values s.toList

/-- Some values are as greedy as others: where they first differ, they have the longer one. -/
inductive AsGreedy : List String → List String → Prop
  | nil : AsGreedy [] []
  | longer {value other : String} {values others : List String}
      (h : other.length < value.length) : AsGreedy (value :: values) (other :: others)
  | same {value : String} {values others : List String} (h : AsGreedy values others) :
      AsGreedy (value :: values) (value :: others)

/-- Of all values with which a template spells a text, these have the longest first, then the
longest second, and so on. -/
structure Greediest (t : Template) (s : String) (values : List String) : Prop where
  solution : t.Solution s values
  greedy : ∀ others, t.Solution s others → AsGreedy values others

theorem AsGreedy.antisymm (h : AsGreedy values others) (h' : AsGreedy others values) :
    values = others := by
  induction h with
  | nil => rfl
  | longer hlonger =>
    exfalso
    cases h' with
    | longer hlonger' => exact lt_asymm hlonger hlonger'
    | same => exact lt_irrefl _ hlonger
  | same _ ih =>
    cases h' with
    | longer hlonger => exact absurd hlonger (lt_irrefl _)
    | same h' => rw [ih h']

/-- There is only one greediest choice. -/
theorem Greediest.unique {t : Template} {s : String} (h : t.Greediest s values)
    (h' : t.Greediest s others) : values = others :=
  (h.greedy _ h'.solution).antisymm (h'.greedy _ h.solution)

/-! ### Finding one literal -/

theorem after?_eq_some_iff {literal cs rest : List Char} :
    after? literal cs = some rest ↔ cs = literal ++ rest := by
  induction literal generalizing cs with
  | nil => rw [after?, Option.some.injEq, List.nil_append]
  | cons l ls ih =>
    cases cs with
    | nil => simp [after?]
    | cons c cs =>
      rw [after?, List.cons_append, List.cons_eq_cons]
      by_cases hl : l = c
      · rw [if_pos hl, ih]
        exact ⟨fun h => ⟨hl.symm, h⟩, fun h => h.2⟩
      · rw [if_neg hl]
        exact ⟨fun h => (nomatch h), fun h => absurd h.1.symm hl⟩

theorem before?_eq_some_iff {literal cs front : List Char} :
    before? literal cs = some front ↔ cs = front ++ literal := by
  unfold before?
  constructor
  · intro h
    split at h
    case isTrue hsuffix =>
      obtain ⟨before, rfl⟩ := List.isSuffixOf_iff_suffix.mp hsuffix
      rw [List.length_append, Nat.add_sub_cancel, List.take_left] at h
      rw [Option.some.inj h]
    case isFalse => cases h
  · rintro rfl
    rw [if_pos (List.isSuffixOf_iff_suffix.mpr (List.suffix_append front literal)),
      List.length_append, Nat.add_sub_cancel, List.take_left]

/-- Where a text is cut there is the literal. -/
theorem eq_of_cut?_eq_some {literal cs front rest : List Char}
    (h : cut? literal cs = some (front, rest)) : cs = front ++ literal ++ rest := by
  induction cs generalizing front with
  | nil =>
    obtain ⟨rest', hrest, heq⟩ := Option.map_eq_some_iff.mp h
    cases heq
    exact after?_eq_some_iff.mp hrest
  | cons c cs ih =>
    rw [cut?] at h
    cases hcut : cut? literal cs with
    | some r =>
      obtain ⟨front', rest'⟩ := r
      rw [hcut] at h
      cases h
      rw [ih hcut, List.cons_append, List.cons_append]
    | none =>
      rw [hcut] at h
      obtain ⟨rest', hrest, heq⟩ := Option.map_eq_some_iff.mp h
      cases heq
      exact after?_eq_some_iff.mp hrest

/-- A text is cut at a literal in it, and behind no other occurrence of the literal is one
that leaves more in front. -/
theorem exists_cut?_eq_some (front literal rest : List Char) :
    ∃ r, cut? literal (front ++ literal ++ rest) = some r ∧ front <+: r.1 := by
  induction front with
  | nil =>
    have hafter : after? literal (literal ++ rest) = some rest := after?_eq_some_iff.mpr rfl
    rw [List.nil_append]
    cases hcs : literal ++ rest with
    | nil =>
      rw [hcs] at hafter
      exact ⟨([], rest), by rw [cut?, hafter, Option.map_some], List.nil_prefix⟩
    | cons c cs =>
      rw [hcs] at hafter
      rw [cut?]
      -- a later occurrence goes before this one
      cases hcut : cut? literal cs with
      | some r => exact ⟨_, rfl, List.nil_prefix⟩
      | none => exact ⟨([], rest), by rw [hafter, Option.map_some], List.nil_prefix⟩
  | cons c front ih =>
    obtain ⟨r, hr, hfront⟩ := ih
    refine ⟨(c :: r.1, r.2), ?_, List.cons_prefix_cons.mpr ⟨rfl, hfront⟩⟩
    rw [List.cons_append, List.cons_append, cut?, hr]

/-! ### Filling the places from the right -/

/-- What is found spells the end of the text. -/
theorem spells_of_fill {front : List Char} {captures : List Capture}
    (h : fill tail places cs = some (front, captures)) :
    captures.map Capture.binder = places.map Prod.snd ∧
      ∃ rest, cs = front ++ rest ∧ Spells tail places (captures.map Capture.value) rest := by
  induction places generalizing front captures with
  | nil =>
    obtain ⟨front', hbefore, heq⟩ := Option.map_eq_some_iff.mp h
    cases heq
    exact ⟨rfl, tail, before?_eq_some_iff.mp hbefore, .tail⟩
  | cons place places ih =>
    obtain ⟨literal, v⟩ := place
    obtain ⟨⟨text, captures'⟩, hfill, hnext⟩ := Option.bind_eq_some_iff.mp h
    obtain ⟨⟨front', value⟩, hcut, hlast⟩ := Option.bind_eq_some_iff.mp hnext
    cases hlast
    obtain ⟨hbinders, rest, rfl, hrest⟩ := ih hfill
    refine ⟨by rw [List.map_cons, List.map_cons, hbinders], literal ++ value ++ rest, ?_, ?_⟩
    · rw [eq_of_cut?_eq_some hcut]
      simp only [List.append_assoc]
    · exact hrest.place_ofList literal value

/-- **No way to spell the end of a text leaves more in front** than the one that is found: by
induction on the way, from the right end. -/
theorem exists_fill_of_spells (h : Spells tail places values cs) (front : List Char) :
    ∃ r, fill tail places (front ++ cs) = some r ∧ front <+: r.1 := by
  induction h generalizing front with
  | tail =>
    have hbefore : before? tail (front ++ tail) = some front := before?_eq_some_iff.mpr rfl
    exact ⟨(front, []), by rw [fill, hbefore, Option.map_some], List.prefix_rfl⟩
  | @place literal v places value values cs _ ih =>
    obtain ⟨⟨text, captures⟩, hfill, more, rfl⟩ := ih (front ++ literal ++ value.toList)
    -- the literal is at hand in what the places behind it leave
    obtain ⟨r, hcut, hfront⟩ := exists_cut?_eq_some front literal (value.toList ++ more)
    refine ⟨(r.1, ⟨v, String.ofList r.2⟩ :: captures), ?_, hfront⟩
    simp only [List.append_assoc] at hfill hcut ⊢
    rw [fill, hfill]
    simp only [Option.bind_eq_bind, Option.bind_some, hcut, Option.pure_def]

/-- A value that ends where the places behind it begin is the longest, and if another is as
long, the places behind both begin in the same place. -/
theorem asGreedy_cons {before value : List Char} {other : String} {captures : List Capture}
    (h : Spells tail places others cs)
    (hfill : fill tail places (before ++ (other.toList ++ cs)) = some (before ++ value, captures))
    (hrest : ∀ front captures, fill tail places (front ++ cs) = some (front, captures) →
      AsGreedy (captures.map Capture.value) others) :
    AsGreedy (String.ofList value :: captures.map Capture.value) (other :: others) := by
  -- the places behind it cannot begin further to the right than they were found to
  have hvalue : other.toList <+: value := by
    obtain ⟨r, hr, hprefix⟩ := exists_fill_of_spells h (before ++ other.toList)
    rw [List.append_assoc, hfill] at hr
    cases hr
    exact (List.prefix_append_right_inj before).mp hprefix
  rcases hvalue.length_le.lt_or_eq with hlt | heq
  · refine .longer ?_
    rw [String.length_ofList]
    exact hlt
  · obtain rfl := hvalue.eq_of_length heq
    rw [← List.append_assoc] at hfill
    rw [String.ofList_toList]
    exact .same (hrest _ _ hfill)

/-- What is found is as greedy as every other way to spell the same end of a text. -/
theorem asGreedy_of_fill {front : List Char} {captures : List Capture}
    (h : Spells tail places others cs)
    (hfill : fill tail places (front ++ cs) = some (front, captures)) :
    AsGreedy (captures.map Capture.value) others := by
  induction h generalizing front captures with
  | tail =>
    obtain ⟨front', -, heq⟩ := Option.map_eq_some_iff.mp hfill
    cases heq
    exact .nil
  | @place literal v places other others cs hrest ih =>
    obtain ⟨⟨text, captures'⟩, htext, hnext⟩ := Option.bind_eq_some_iff.mp hfill
    obtain ⟨⟨front', value⟩, hcut, hlast⟩ := Option.bind_eq_some_iff.mp hnext
    cases hlast
    rw [eq_of_cut?_eq_some hcut, List.append_assoc, ← List.append_assoc] at htext
    exact asGreedy_cons hrest htext fun _ _ => ih

/-! ### A whole match -/

/-- What is captured is a solution, and as greedy as every other. -/
theorem greediest_of_capture {t : Template} {s : String} {captures : List Capture}
    (h : t.capture s = some captures) :
    captures.map Capture.binder = t.binders ∧ t.Greediest s (captures.map Capture.value) := by
  obtain ⟨_ | ⟨⟨literal, v⟩, places⟩, tail⟩ := t
  · -- without a place the text has to be the literal itself
    simp only [capture] at h
    split at h
    case isTrue heq =>
      cases h
      refine ⟨rfl, ?_, ?_⟩
      · rw [Solution, heq]
        exact .tail
      · intro others hothers
        cases hothers
        exact .nil
    case isFalse => cases h
  · obtain ⟨⟨text, captures'⟩, hfill, hnext⟩ := Option.bind_eq_some_iff.mp h
    obtain ⟨value, hafter, hlast⟩ := Option.bind_eq_some_iff.mp hnext
    cases hlast
    obtain rfl := after?_eq_some_iff.mp hafter
    obtain ⟨hbinders, rest, hs, hrest⟩ := spells_of_fill hfill
    refine ⟨?_, ?_, ?_⟩
    · rw [binders, List.map_cons, List.map_cons, hbinders]
    · unfold Solution
      rw [hs]
      exact hrest.place_ofList literal value
    · -- the first place begins at the same character in every solution
      intro others hothers
      unfold Solution at hothers
      generalize hcs : s.toList = cs at hothers hfill
      cases hothers with
      | place hothers =>
        rw [List.append_assoc] at hfill
        exact asGreedy_cons hothers hfill fun _ _ => asGreedy_of_fill hothers

/-- If a text is spelled at all then something is captured. -/
theorem exists_capture_eq_some {t : Template} {s : String} (h : t.Solution s values) :
    ∃ captures, t.capture s = some captures := by
  unfold Solution at h
  generalize hcs : s.toList = cs at h
  obtain ⟨_ | ⟨⟨literal, v⟩, places⟩, tail⟩ := t
  · cases h
    exact ⟨[], if_pos hcs⟩
  · cases h with
    | @place _ _ _ value _ _ hrest =>
      obtain ⟨⟨text, captures⟩, hfill, more, rfl⟩ :=
        exists_fill_of_spells hrest (literal ++ value.toList)
      have hafter : after? literal (literal ++ (value.toList ++ more)) =
          some (value.toList ++ more) := after?_eq_some_iff.mpr rfl
      refine ⟨⟨v, String.ofList (value.toList ++ more)⟩ :: captures, ?_⟩
      simp only [List.append_assoc] at hfill hcs
      simp only [capture, hcs, hfill, Option.bind_eq_bind, Option.bind_some, hafter,
        Option.pure_def]

/-- **A text matches exactly if there is a way to spell it.** -/
theorem isSome_capture_iff {t : Template} {s : String} :
    (t.capture s).isSome ↔ ∃ values, t.Solution s values := by
  rw [Option.isSome_iff_exists]
  constructor
  · rintro ⟨captures, hcaptures⟩
    exact ⟨_, (greediest_of_capture hcaptures).2.solution⟩
  · rintro ⟨values, hvalues⟩
    exact exists_capture_eq_some hvalues

/-- Captures are told by their variables and their values. -/
theorem eq_of_map_binder_of_map_value {captures captures' : List Capture}
    (hbinders : captures.map Capture.binder = captures'.map Capture.binder)
    (hvalues : captures.map Capture.value = captures'.map Capture.value) :
    captures = captures' := by
  induction captures generalizing captures' with
  | nil => exact (List.map_eq_nil_iff.mp hbinders.symm).symm
  | cons capture captures ih =>
    cases captures' with
    | nil => cases hbinders
    | cons capture' captures' =>
      obtain ⟨hbinder, hbinders⟩ := List.cons_eq_cons.mp hbinders
      obtain ⟨hvalue, hvalues⟩ := List.cons_eq_cons.mp hvalues
      rw [ih hbinders hvalues]
      obtain ⟨v, value⟩ := capture
      obtain ⟨v', value'⟩ := capture'
      cases hbinder
      cases hvalue
      rfl

/-- **The values of a match are the greediest.** -/
theorem capture_eq_some_iff {t : Template} {s : String} {captures : List Capture} :
    t.capture s = some captures ↔
      captures.map Capture.binder = t.binders ∧ t.Greediest s (captures.map Capture.value) := by
  constructor
  · exact greediest_of_capture
  · rintro ⟨hbinders, hgreediest⟩
    obtain ⟨captures', h⟩ := exists_capture_eq_some hgreediest.solution
    obtain ⟨hbinders', hgreediest'⟩ := greediest_of_capture h
    rw [h, eq_of_map_binder_of_map_value (hbinders.trans hbinders'.symm)
      (hgreediest.unique hgreediest')]

/-! ### Substituting the values -/

/-- The text of a template with other texts in place of its placeholders. -/
def substitute (t : Template) (value : Variable → String) : String :=
  String.ofList (t.places.flatMap (fun p => p.1 ++ (value p.2).toList) ++ t.tail)

theorem substitute_placeholder (t : Template) : t.substitute Variable.placeholder = t.text := by
  simp only [substitute, Variable.placeholder, String.toList_ofList, text, chars]

/-- A text is spelled by putting the values of a solution in place of the placeholders. -/
theorem Spells.substitute_eq {value : Variable → String} (h : Spells tail places values cs)
    {captures : List Capture} (hbinders : captures.map Capture.binder = places.map Prod.snd)
    (hvalues : captures.map Capture.value = values)
    (hvalue : ∀ x ∈ captures, value x.binder = x.value) :
    places.flatMap (fun p => p.1 ++ (value p.2).toList) ++ tail = cs := by
  induction h generalizing captures with
  | tail => rfl
  | place _ ih =>
    cases captures with
    | nil => cases hbinders
    | cons x captures =>
      obtain ⟨hbinder, hbinders'⟩ := List.cons_eq_cons.mp hbinders
      obtain ⟨rfl, hvalues'⟩ := List.cons_eq_cons.mp hvalues
      have hx := hvalue x List.mem_cons_self
      have hrest := ih hbinders' hvalues' fun y hy => hvalue y (List.mem_cons_of_mem _ hy)
      rw [List.flatMap_cons, ← hbinder, hx, List.append_assoc, hrest]

/-- Putting what was captured in place of the placeholders gives the text back. -/
theorem substitute_read_record {t : Template} {s : String} {captures : List Capture}
    (hnodup : t.binders.Nodup) (h : t.capture s = some captures) :
    t.substitute (({} : Captured).record captures).read = s := by
  obtain ⟨hbinders, hgreediest⟩ := greediest_of_capture h
  have hdistinct : (captures.map Capture.binder).Nodup := hbinders ▸ hnodup
  have hs := hgreediest.solution.substitute_eq hbinders rfl
    fun x hx => Captured.read_record_of_mem {} hdistinct hx
  rw [substitute, hs, String.ofList_toList]

/-- **A text that is read as a template is cut at its placeholders, and the template matches
exactly what it spells**: the literals with some text in each place between them, and itself
if there is no place.  What is captured are the variables in order with the greediest values
that spell the matched text, so that putting these values in place of the placeholders gives
the text back. -/
theorem capture_greediest {source : String} {t : Template} (h : ofText source = .ok t)
    (s : String) :
    (t.Cuts source ∧ ∀ u : Template, u.Cuts source → u = t) ∧
      (∀ captures, t.capture s = some captures ↔
        captures.map Capture.binder = t.binders ∧
          t.Greediest s (captures.map Capture.value)) ∧
      ((t.capture s).isSome ↔ ∃ values, t.Solution s values) ∧
      (t.places = [] → ((t.capture s).isSome ↔ s = source)) ∧
      t.substitute Variable.placeholder = source ∧
      (∀ captures, t.capture s = some captures →
        t.substitute (({} : Captured).record captures).read = s) ∧
      t.accepts s = (t.capture s).isSome := by
  obtain ⟨hcuts, hnodup, -⟩ := ofText_eq_ok_iff.mp h
  refine ⟨⟨hcuts, fun u hu => hu.unique hcuts⟩, fun _ => capture_eq_some_iff,
    isSome_capture_iff, ?_, ?_, fun _ => substitute_read_record hnodup, rfl⟩
  · -- without a place the tail is the whole text
    intro hplaces
    have htail : t.tail = source.toList := by
      have hchars := text_eq_iff.mp hcuts.text
      rw [chars, hplaces, List.flatMap_nil, List.nil_append] at hchars
      exact hchars
    simp only [capture, hplaces, htail, String.toList_inj]
    split
    case isTrue heq => exact iff_of_true rfl heq
    case isFalse hne => exact iff_of_false (by decide) hne
  · rw [substitute_placeholder, hcuts.text]

end

/-- The variable all of whose digits are the same. -/
def repeated (d : Fin 16) : Variable := ⟨List.replicate 32 d, List.length_replicate⟩

/-- A variable for samples. -/
def ones : Variable := repeated ⟨1, by decide⟩

/-- Another variable for samples. -/
def twos : Variable := repeated ⟨2, by decide⟩

/-- Two variables with a hyphen between them and behind them. -/
def hyphenated : Template :=
  ⟨[([], repeated ⟨0, by decide⟩), (['-'], repeated ⟨1, by decide⟩)], ['-']⟩

/-- Of the ways to take a text with several hyphens apart the one with the longest first value
counts. -/
theorem capture_greediest_hyphenated : ofText hyphenated.text = .ok hyphenated ∧
    hyphenated.Greediest "a\nb--c-" ["a\nb-", "c"] ∧
    hyphenated.Solution "a\nb--c-" ["a\nb", "-c"] ∧ hyphenated.capture "a\nb--c" = none := by
  have hread : ofText hyphenated.text = .ok hyphenated := by decide +kernel
  obtain ⟨-, hcapture, -⟩ := capture_greediest hread "a\nb--c-"
  have hvalues := (hcapture [⟨repeated ⟨0, by decide⟩, "a\nb-"⟩,
    ⟨repeated ⟨1, by decide⟩, "c"⟩]).mp (by decide +kernel)
  exact ⟨hread, hvalues.2, .place (.place .tail), by decide +kernel⟩

end Template

end ScreenPages
