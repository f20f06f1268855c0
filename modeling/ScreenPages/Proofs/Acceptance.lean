import ScreenPages.Proofs.Declared
import ScreenPages.Proofs.Polling
import ScreenPages.Proofs.Reporting

/-!
# Which page files are accepted

A page file is accepted if its text is JSON that declares a page, no deeper than readers go, no
label and no value uses a variable twice, and the engine builds an expression for each of them that
uses one.  This is decided in several passes: the declaration is
read, then the templates of all elements in document order, and when the page is looked for they are
read once more, element by element and with a preview of the children.  All of them come to the same:
after a page was accepted, no check of it fails.

## Main definitions

* `Template.bindersIn` — the variables of a text, as often as it uses them.
* `Template.Readable` — a text is a template.
* `PageFile.occurrences` — the variables of a page in document order.
* `PageFile.Accepted` — what is known of a page that was accepted.

## Main results

* `List.pairwise_idxOf_eraseDups` — repetitions are taken away in the order of first occurrence.
* `PageFile.exists_ofText_iff` — which texts are accepted.
* `PageFile.accepted_of_ofText` — what is known of the page.
* `PageFile.ofText_decides` — **page files are accepted exactly if they can be checked**.
* `PageFile.not_forall_accepted` — without the limit this is wrong.
-/

/-- **Repetitions are taken away in the order of first occurrence.** -/
theorem List.pairwise_idxOf_eraseDups {α : Type} [BEq α] [LawfulBEq α] (l : List α) :
    l.eraseDups.Pairwise fun a b => l.idxOf a < l.idxOf b := by
  induction l using List.reverseRecOn with
  | nil => simp
  | append_singleton l a ih =>
    have hbefore : l.eraseDups.Pairwise fun x y => (l ++ [a]).idxOf x < (l ++ [a]).idxOf y := by
      refine ih.imp_of_mem fun hx hy h => ?_
      rw [mem_eraseDups] at hx hy
      rwa [idxOf_append_of_mem hx, idxOf_append_of_mem hy]
    rw [eraseDups_append]
    by_cases ha : a ∈ l
    · have hnone : [a].removeAll l = [] := by simp [removeAll, ha]
      rw [hnone, eraseDups_nil, append_nil]
      exact hbefore
    · have hsome : ([a].removeAll l).eraseDups = [a] := by simp [removeAll, ha, eraseDups_cons]
      rw [hsome, pairwise_append]
      refine ⟨hbefore, pairwise_singleton _ a, fun x hx y hy => ?_⟩
      rw [mem_eraseDups] at hx
      rw [mem_singleton.mp hy, idxOf_append_of_mem hx, idxOf_append_of_notMem ha]
      exact Nat.lt_add_right _ (idxOf_lt_length_of_mem hx)

namespace ScreenPages

open Json

section

variable {engine : Template.Engine}

/-! ### The variables of a page -/

namespace Template

/-- The variables of a text in order, each as often as the text uses it. -/
def bindersIn (s : String) : List Variable := (ofParts (parts s.toList)).binders

theorem binders_eq_bindersIn {s : String} {t : Template} (h : ofText s = .ok t) :
    t.binders = bindersIn s := by
  rw [bindersIn, cuts_iff.mp (ofText_eq_ok_iff.mp h).1]

/-- A text is a template: it uses no variable twice, and if it uses one at all, the engine builds
an expression for its parts. -/
structure Readable [Template.Engine] (s : String) : Prop where
  nodup : (bindersIn s).Nodup
  built : bindersIn s = [] ∨ Engine.refusal? (ofParts (parts s.toList)) = none

/-- **The texts that are read are the templates.** -/
theorem exists_ofText_iff {s : String} : (∃ t, ofText s = .ok t) ↔ Readable s := by
  have hbuilt : (ofParts (parts s.toList)).refusal? = none ↔
      bindersIn s = [] ∨ Engine.refusal? (ofParts (parts s.toList)) = none := by
    rw [refusal?_eq_none_iff, bindersIn, binders, List.map_eq_nil_iff]
  constructor
  · rintro ⟨t, ht⟩
    obtain ⟨hcuts, hnodup, hrefusal⟩ := ofText_eq_ok_iff.mp ht
    obtain rfl := cuts_iff.mp hcuts
    exact ⟨hnodup, hbuilt.mp hrefusal⟩
  · intro h
    exact ⟨_, ofText_eq_ok_iff.mpr ⟨cuts_iff.mpr rfl, h.nodup, hbuilt.mpr h.built⟩⟩

theorem flatMap_binders {sources : List String} {ts : List Template}
    (h : List.Forall₂ (fun s t => ofText s = .ok t) sources ts) :
    ts.flatMap binders = sources.flatMap bindersIn := by
  induction h with
  | nil => rfl
  | cons ht _ ih => rw [List.flatMap_cons, List.flatMap_cons, ih, binders_eq_bindersIn ht]

/-- Several templates can be read if each of them can. -/
theorem exists_mapM_ofText {sources : List String} (h : ∀ s ∈ sources, Readable s) :
    ∃ ts, sources.mapM ofText = .ok ts := by
  cases hread : sources.mapM ofText with
  | ok ts => exact ⟨ts, rfl⟩
  | error a =>
    obtain ⟨s, hs, hfault⟩ := Except.exists_of_mapM_eq_error hread
    obtain ⟨t, ht⟩ := exists_ofText_iff.mpr (h s hs)
    rw [hfault] at ht
    cases ht

end Template

/-- A text is a template of some elements if it is the label or the value of one of them, or of one
below them. -/
theorem Element.mem_patterns_iff {es : List Element} {source : String} :
    source ∈ patterns es ↔ ∃ e ∈ flattenList es, e.label = some source ∨ e.value = some source := by
  simp [patterns]

/-- A check of a page whose templates can be read does not fail. -/
theorem Session.exists_check_eq_ok {s : Session} {n : Nat}
    (h : ∃ xs, Expectation.ofElements (s.page n).body.elements = .ok xs) :
    ∃ c, (s.check n).1 = .ok c := by
  obtain ⟨xs, hxs⟩ := exists_ofElements_lookAt h
  exact ⟨_, by rw [check_eq hxs]⟩

end

namespace PageFile

variable {text : String} {p : PageFile}

section

variable {engine : Template.Engine}

/-- The variables that a page uses in document order, in each label before the value, and each as
often as it is used. -/
def occurrences (p : PageFile) : List Variable :=
  (Element.patterns p.elements).flatMap Template.bindersIn

/-- The variables of an accepted page are listed as they first occur. -/
theorem binders_eq (h : ofText text = .ok p) : p.binders = p.occurrences.eraseDups := by
  obtain ⟨-, ts, hts⟩ := ofText_eq_ok h
  rw [binders, hts, occurrences]
  exact congrArg List.eraseDups
    (Template.flatMap_binders (Except.forall₂_of_mapM_eq_ok hts))

/-! ### Acceptance -/

/-- **A text is accepted if it declares a page that can be read**, and is no deeper than readers
go. -/
theorem exists_ofText_iff : (∃ p, ofText text = .ok p) ↔
    ∃ v q, Holds text v ∧ v.depth ≤ nestingLimit ∧ Declares v q ∧
      ∀ source ∈ Element.patterns q.elements, Template.Readable source := by
  constructor
  · rintro ⟨p, hp⟩
    obtain ⟨hread, ts, hts⟩ := ofText_eq_ok hp
    obtain ⟨v, hv, hdepth, hdeclares⟩ := (reads_decoder nestingLimit).run_sound hread
    refine ⟨v, p, hv, hdepth, hdeclares, fun source hsource => ?_⟩
    obtain ⟨t, -, ht⟩ := (Except.forall₂_of_mapM_eq_ok hts).flip.exists_of_mem_right source hsource
    exact Template.exists_ofText_iff.mp ⟨t, ht⟩
  · rintro ⟨v, q, hv, hdepth, hdeclares, hreadable⟩
    obtain ⟨p, hp⟩ := (reads_decoder nestingLimit).run_complete hv hdepth hdeclares
    obtain ⟨w, hw, -, hdeclares'⟩ := (reads_decoder nestingLimit).run_sound hp
    obtain rfl := hv.unique hw
    rw [hdeclares.patterns_eq hdeclares'] at hreadable
    obtain ⟨ts, hts⟩ : ∃ ts, p.templates = .ok ts := Template.exists_mapM_ofText hreadable
    exact ⟨p, by simp only [ofText, hp, Except.mapError, bind, Except.bind, hts]; rfl⟩

/-- What is known of a page that was accepted, and of the value that declares it. -/
structure Accepted [Template.Engine] (v : Value) (p : PageFile) : Prop where
  /-- The page has the name, the application and the elements of the declaration, each element with
  the kind, the attributes and the children of its own. -/
  declared : Declares v p
  /-- The elements have identities of their own. -/
  nodup_identities : (Element.identities p.elements).Nodup
  not_dynamic : .dynamic ∉ Element.identities p.elements
  /-- The templates of all elements can be read. -/
  readable : ∃ xs, Expectation.ofElements p.elements = .ok xs
  /-- A check of the page does not fail, whatever the session and the device have come to. -/
  checks : ∀ (s : Session) (n : Nat), (s.page n).body.elements = p.elements →
    ∃ c, (s.check n).1 = .ok c
  /-- The page lists the variables that it uses, each once. -/
  nodup_binders : p.binders.Nodup
  mem_binders_iff : ∀ w, w ∈ p.binders ↔ ∃ e ∈ Element.flattenList p.elements,
    ∃ source, (e.label = some source ∨ e.value = some source) ∧ w ∈ Template.bindersIn source
  /-- The variables are listed as they first occur. -/
  order : p.binders.Pairwise fun a b => p.occurrences.idxOf a < p.occurrences.idxOf b

/-- **What is known of a page that was accepted.** -/
theorem accepted_of_ofText (h : ofText text = .ok p) : ∃ v, Holds text v ∧ Accepted v p := by
  obtain ⟨v, hv, -, hdeclares⟩ := (reads_decoder nestingLimit).run_sound (ofText_eq_ok h).1
  have hreadable := exists_ofElements h
  refine ⟨v, hv, hdeclares, (nodup_identities h).1, (nodup_identities h).2, hreadable, ?_,
    nodup_binders p, fun w => ?_, ?_⟩
  · intro s n hbody
    exact Session.exists_check_eq_ok (hbody ▸ hreadable)
  · rw [binders_eq h, List.mem_eraseDups, occurrences, List.mem_flatMap]
    simp only [Element.mem_patterns_iff]
    constructor
    · rintro ⟨source, ⟨e, he, hsource⟩, hw⟩
      exact ⟨e, he, source, hsource, hw⟩
    · rintro ⟨e, he, source, hsource, hw⟩
      exact ⟨source, ⟨e, he, hsource⟩, hw⟩
  · rw [binders_eq h]
    exact List.pairwise_idxOf_eraseDups p.occurrences

/-- **Page files are accepted exactly if they can be checked.** -/
theorem ofText_decides (text : String) :
    ((∃ p, ofText text = .ok p) ↔
      ∃ v q, Holds text v ∧ v.depth ≤ nestingLimit ∧ Declares v q ∧
        ∀ source ∈ Element.patterns q.elements, Template.Readable source) ∧
    ∀ p, ofText text = .ok p → ∃ v, Holds text v ∧ Accepted v p :=
  ⟨exists_ofText_iff, fun _ h => accepted_of_ofText h⟩

end

/-- A page file with a cell, given as a list of its fields, and a button below it.  The button uses
the variable of the cell again, after another one. -/
def mixedText : String :=
  "\x7b\"name\": \"Cart\", \"elements\": [[\"Cell\", null, \"Total "
    ++ Variable.placeholder Template.ones ++ "\", null, [\x7b\"value\": \""
    ++ Variable.placeholder Template.twos ++ "/" ++ Variable.placeholder Template.ones
    ++ "\", \"type\": \"Button\"\x7d]]]\x7d"

/-- The page file with a cell and a button is accepted, and lists the variable of the cell first. -/
theorem ofText_decides_mixed :
    ∃ p v, ofText mixedText = .ok p ∧ Holds mixedText v ∧ Accepted v p ∧
      p.binders = [Template.ones, Template.twos] := by
  have hread : (ofText mixedText).toOption.map binders = some [Template.ones, Template.twos] := by
    decide +kernel
  obtain ⟨p, hp, hbinders⟩ := Option.map_eq_some_iff.mp hread
  have hp := Except.toOption_eq_some_iff.mp hp
  obtain ⟨v, hv, haccepted⟩ := (ofText_decides mixedText).2 p hp
  exact ⟨p, v, hp, hv, haccepted, hbinders⟩

/-! ### Deep pages -/

/-- The declaration of a cell with as many cells inside each other below it. -/
def cellsJson : Nat → Value
  | 0 => .object [("type", .text "Cell")]
  | n + 1 => .object [("type", .text "Cell"), ("children", .array [cellsJson n])]

/-- The declaration of a page with cells inside each other. -/
def deepJson (n : Nat) : Value :=
  .object [("name", .text "Deep"), ("elements", .array [cellsJson n])]

/-- Cells inside each other. -/
def cells : Nat → Element
  | 0 => { identity := .dynamic, kind := .cell }
  | n + 1 => { identity := .dynamic, kind := .cell, children := [cells n] }

theorem depth_deepJson (n : Nat) : (deepJson n).depth = 2 * n + 3 := by
  have hcells : (cellsJson n).depth = 2 * n + 1 := by
    induction n with
    | zero => rfl
    | succ n ih =>
      simp only [cellsJson, Value.depth, Value.depthOfFields, Value.depthOfItems, ih]
      omega
  simp only [deepJson, Value.depth, Value.depthOfFields, Value.depthOfItems, hcells]
  omega

theorem numbers_deepJson (n : Nat) : (deepJson n).numbers = [] := by
  have hcells : (cellsJson n).numbers = [] := by
    induction n with
    | zero => rfl
    | succ n ih =>
      simp only [cellsJson, Value.numbers, Value.numbersOfFields, Value.numbersOfItems, ih,
        List.append_nil]
  simp only [deepJson, Value.numbers, Value.numbersOfFields, Value.numbersOfItems, hcells,
    List.append_nil]

theorem holds_deepJson (n : Nat) : Holds (deepJson n).compact (deepJson n) :=
  Holds.compact fun m hm => by
    rw [numbers_deepJson] at hm
    cases hm

/-- Cells inside each other are declared. -/
theorem declares_cellsJson : (n : Nat) → Element.Declares (cellsJson n) (cells n)
  | 0 => .intro (.object (by decide) (by decide)) ⟨rfl, rfl, rfl, rfl, rfl⟩ .nil
  | n + 1 => .intro (.object (by simp) (by simp [Element.keys])) ⟨rfl, rfl, rfl, rfl, rfl⟩
    (.cons (declares_cellsJson n) .nil)

/-- The page with cells inside each other. -/
def deep (n : Nat) : PageFile := ⟨"Deep", none, [cells n]⟩

theorem declares_deepJson (n : Nat) : Declares (deepJson n) (deep n) :=
  ⟨_, .object (by simp) (by simp [keys]), _, ⟨rfl, rfl, rfl⟩, .cons (declares_cellsJson n) .nil⟩

theorem patterns_cells (n : Nat) : Element.patterns [cells n] = [] := by
  induction n with
  | zero => rfl
  | succ n ih =>
    rw [cells, Element.patterns_cons, ih]
    rfl

/-- No template is used in a page with cells inside each other. -/
theorem forall_mem_patterns_deep (n : Nat) (P : String → Prop) :
    ∀ source ∈ Element.patterns (deep n).elements, P source := by
  rw [deep, patterns_cells]
  exact List.forall_mem_nil _

section

variable {engine : Template.Engine}

/-- **Of the pages with cells inside each other those with at most 63 cells are accepted**, though
all of them are declared. -/
theorem exists_ofText_deepJson_iff (n : Nat) :
    (∃ p, ofText (deepJson n).compact = .ok p) ↔ n ≤ 62 := by
  rw [exists_ofText_iff]
  constructor
  · rintro ⟨v, q, hv, hdepth, -, -⟩
    obtain rfl := (holds_deepJson n).unique hv
    rw [depth_deepJson, nestingLimit] at hdepth
    omega
  · intro hn
    refine ⟨deepJson n, deep n, holds_deepJson n, ?_, declares_deepJson n,
      forall_mem_patterns_deep n _⟩
    rw [depth_deepJson, nestingLimit]
    omega

end

/-- A page with 64 cells inside each other is declared and uses no variable at all, but it is not
accepted. -/
theorem not_forall_accepted :
    ¬ ∀ text, (∃ p, ofText text = .ok p) ↔
      ∃ v q, Holds text v ∧ Declares v q ∧
        ∀ source ∈ Element.patterns q.elements, (Template.bindersIn source).Nodup := by
  intro h
  have haccepted := (h (deepJson 63).compact).mpr
    ⟨deepJson 63, deep 63, holds_deepJson 63, declares_deepJson 63, forall_mem_patterns_deep 63 _⟩
  have := (exists_ofText_deepJson_iff 63).mp haccepted
  omega

end PageFile

end ScreenPages
