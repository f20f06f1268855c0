import ScreenPages.Proofs.Search

/-!
# Reading what elements ask for

The elements of a page are read before they are looked for: each label and each value is a
template, and a template that uses a variable twice, or that the engine does not build, is
refused.  Reading fails with the fault of one of these templates, and with no other.  So whether
it succeeds is a matter of the templates one by one, at whatever depth they are used.

## Main results

* `Matcher.ofElement_eq_error` — an element is refused because of its label or its value.
* `Expectation.ofElements_eq_error` — elements are refused because of one of their templates.
* `Expectation.exists_ofElements_iff` — elements are read exactly if all their templates are.
-/

namespace ScreenPages

variable {engine : Template.Engine}

/-! ### The templates of elements -/

namespace Element

/-- The templates of an element come before those of the elements below it. -/
theorem patterns_cons (e : Element) (es : List Element) :
    patterns (e :: es)
      = (e.label.toList ++ e.value.toList) ++ (patterns e.children ++ patterns es) := by
  simp [patterns, flattenList_cons]

/-- A text is a template of some elements if the first one uses it, or one below it does, or one
of the others. -/
theorem mem_patterns_cons {e : Element} {es : List Element} {source : String} :
    source ∈ patterns (e :: es) ↔
      e.label = some source ∨ e.value = some source ∨ source ∈ patterns e.children ∨
        source ∈ patterns es := by
  simp [patterns_cons]

/-- The own templates of an element in a list are templates of the list. -/
theorem mem_patterns_of_mem {e : Element} {es : List Element} (he : e ∈ es) {source : String}
    (h : e.label = some source ∨ e.value = some source) : source ∈ patterns es := by
  induction es with
  | nil => cases he
  | cons x es ih =>
    rw [mem_patterns_cons]
    rcases List.mem_cons.mp he with rfl | he
    · rcases h with h | h
      · exact .inl h
      · exact .inr (.inl h)
    · exact .inr (.inr (.inr (ih he)))

end Element

/-! ### One element -/

/-- The wording of an ambiguity is about the text that was read. -/
theorem Template.source_eq_of_ofText_eq_error {source : String} {a : Ambiguity}
    (h : ofText source = .error a) : a.source = source := by
  simp only [ofText] at h
  split at h
  · cases h
    rfl
  · split at h
    · cases h
      rfl
    · cases h

namespace Matcher

/-- An optional template is refused because of its text. -/
theorem templateOf?_eq_error {source : Option String} {a : Template.Ambiguity}
    (h : templateOf? source = .error a) :
    source = some a.source ∧ Template.ofText a.source = .error a := by
  cases source with
  | none => cases h
  | some s =>
    cases hread : Template.ofText s with
    | ok t => simp [templateOf?, hread, Except.map] at h
    | error b =>
      simp only [templateOf?, hread, Except.map, Except.error.injEq] at h
      subst h
      rw [Template.source_eq_of_ofText_eq_error hread]
      exact ⟨rfl, hread⟩

/-- If an optional template is read, its text can be read. -/
theorem exists_ofText_of_templateOf? {source : Option String} {t : Option Template}
    (h : templateOf? source = .ok t) {s : String} (hs : source = some s) :
    ∃ t, Template.ofText s = .ok t := by
  subst hs
  cases hread : Template.ofText s with
  | ok t => exact ⟨t, rfl⟩
  | error a => simp [templateOf?, hread, Except.map] at h

/-- **An element is refused because of its label or its value.** -/
theorem ofElement_eq_error {e : Element} {a : Template.Ambiguity} (h : ofElement e = .error a) :
    (e.label = some a.source ∨ e.value = some a.source) ∧
      Template.ofText a.source = .error a := by
  unfold ofElement at h
  rcases Except.eq_error_or_of_bind_eq_error h with hlabel | ⟨label, -, h⟩
  · obtain ⟨hsource, hread⟩ := templateOf?_eq_error hlabel
    exact ⟨.inl hsource, hread⟩
  · rcases Except.eq_error_or_of_bind_eq_error h with hvalue | ⟨value, -, h⟩
    · obtain ⟨hsource, hread⟩ := templateOf?_eq_error hvalue
      exact ⟨.inr hsource, hread⟩
    · cases h

end Matcher

/-! ### Elements at every depth -/

namespace Expectation

/-- An element is refused because of what it asks of its node, or a child of it asks of its own,
or because of what is below it. -/
theorem ofElement_eq_error {e : Element} {a : Template.Ambiguity} (h : ofElement e = .error a) :
    Matcher.ofElement e = .error a ∨ (∃ c ∈ e.children, Matcher.ofElement c = .error a) ∨
      ofElements e.children = .error a := by
  obtain ⟨identity, kind, identifier, label, value, children⟩ := e
  rw [ofElement] at h
  rcases Except.eq_error_or_of_bind_eq_error h with hown | ⟨own, -, h⟩
  · exact .inl hown
  · rcases Except.eq_error_or_of_bind_eq_error h with hpreview | ⟨preview, -, h⟩
    · exact .inr (.inl (Except.exists_of_mapM_eq_error hpreview))
    · rcases Except.eq_error_or_of_bind_eq_error h with hbelow | ⟨below, -, h⟩
      · exact .inr (.inr hbelow)
      · cases h

/-- **Elements are refused because of one of their templates**, and with its fault. -/
theorem ofElements_eq_error : (es : List Element) → {a : Template.Ambiguity} →
    ofElements es = .error a →
      a.source ∈ Element.patterns es ∧ Template.ofText a.source = .error a
  | [], a, h => by
    rw [ofElements] at h
    cases h
  | ⟨identity, kind, identifier, label, value, children⟩ :: es, a, h => by
    rw [Element.mem_patterns_cons]
    rw [ofElements] at h
    rcases Except.eq_error_or_of_bind_eq_error h with hx | ⟨x, -, h⟩
    · rcases ofElement_eq_error hx with hown | ⟨c, hc, hpreview⟩ | hbelow
      · obtain ⟨hsource, hread⟩ := Matcher.ofElement_eq_error hown
        refine ⟨?_, hread⟩
        rcases hsource with hlabel | hvalue
        · exact .inl hlabel
        · exact .inr (.inl hvalue)
      · obtain ⟨hsource, hread⟩ := Matcher.ofElement_eq_error hpreview
        exact ⟨.inr (.inr (.inl (Element.mem_patterns_of_mem hc hsource))), hread⟩
      · obtain ⟨hsource, hread⟩ := ofElements_eq_error children hbelow
        exact ⟨.inr (.inr (.inl hsource)), hread⟩
    · rcases Except.eq_error_or_of_bind_eq_error h with hes | ⟨xs, -, h⟩
      · obtain ⟨hsource, hread⟩ := ofElements_eq_error es hes
        exact ⟨.inr (.inr (.inr hsource)), hread⟩
      · cases h

/-- If elements are read, all of their templates can be. -/
theorem exists_ofText_of_ofElements : (es : List Element) → {xs : List Expectation} →
    ofElements es = .ok xs → ∀ source ∈ Element.patterns es, ∃ t, Template.ofText source = .ok t
  | [], xs, _, source, hsource => by simp [Element.patterns] at hsource
  | ⟨identity, kind, identifier, label, value, children⟩ :: es, xs, h, source, hsource => by
    obtain ⟨y, ys, -, hy, hys⟩ := ofElements_cons_eq_ok h
    obtain ⟨-, hown, -, hbelow⟩ := ofElement_eq_ok hy
    obtain ⟨-, -, hlabel, hvalue⟩ := Matcher.ofElement_eq_ok hown
    rw [Element.mem_patterns_cons] at hsource
    rcases hsource with hsource | hsource | hsource | hsource
    · exact Matcher.exists_ofText_of_templateOf? hlabel hsource
    · exact Matcher.exists_ofText_of_templateOf? hvalue hsource
    · exact exists_ofText_of_ofElements children hbelow source hsource
    · exact exists_ofText_of_ofElements es hys source hsource

/-- **Elements are read exactly if all of their templates can be**, at every depth. -/
theorem exists_ofElements_iff {es : List Element} :
    (∃ xs, ofElements es = .ok xs) ↔
      ∀ source ∈ Element.patterns es, ∃ t, Template.ofText source = .ok t := by
  constructor
  · rintro ⟨xs, hxs⟩
    exact exists_ofText_of_ofElements es hxs
  · intro hall
    cases hread : ofElements es with
    | ok xs => exact ⟨xs, rfl⟩
    | error a =>
      obtain ⟨hsource, hfault⟩ := ofElements_eq_error es hread
      obtain ⟨t, ht⟩ := hall a.source hsource
      rw [hfault] at ht
      cases ht

/-- Elements that are read are the elements of what is read. -/
theorem map_element_of_ofElements {es : List Element} {xs : List Expectation}
    (h : ofElements es = .ok xs) : xs.map element = es := by
  induction es generalizing xs with
  | nil => rw [ofElements_nil_eq_ok h, List.map_nil]
  | cons e es ih =>
    obtain ⟨y, ys, rfl, hy, hys⟩ := ofElements_cons_eq_ok h
    rw [List.map_cons, (ofElement_eq_ok hy).1, ih hys]

end Expectation

end ScreenPages
