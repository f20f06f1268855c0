import ScreenPages.Page
import ScreenPages.Proofs.Search

/-!
# The names of elements do not matter

A pass looks at the attributes of the declared elements and at how they are nested.  The
identities are carried along, into the notes, the resolution and the list of what is missing,
and nothing is decided by them.  So if a body is declared with other identities, what is
found is the same with other identities.

The rule of placement does not look at identities either: renamed elements have the places that the
elements have, and are missing where they are.

A body that declares its elements anew gives them the identities that are to be given next.  If
more identities have been given in between, they are all greater by the same number.

## Main definitions

* `Expectation.mapIdentity`, `Notes.mapIdentity`, `Resolution.mapIdentity` — what is read from
  renamed elements, noted of them and found of them.
* `Finding.mapIdentity`, `Outcomes.mapIdentity` — what becomes of renamed elements.
* `Identity.Before` — an identity that was given before the next one to be given.
* `Identity.later` — the identities when some more were given in between.

## Main results

* `Expectation.ofElements_mapIdentityList` — renamed elements are read as before.
* `Expectation.seek_mapIdentity` — renamed elements are looked for as before.
* `Resolution.ofPage_mapIdentity` — what is found of a renamed page.
* `Assigned.mapIdentity` — renamed elements get the places that the elements get.
* `Page.Body.lookAt_add` — the elements of a body when more identities were given.
-/

namespace ScreenPages

variable {engine : Template.Engine}

/-! ### Renamed elements -/

namespace Element

theorem mapIdentityList_eq_map (f : Identity → Identity) (es : List Element) :
    mapIdentityList f es = es.map (mapIdentity f) := by
  induction es with
  | nil => rw [mapIdentityList, List.map_nil]
  | cons e es ih => rw [mapIdentityList, ih, List.map_cons]

mutual

theorem mapIdentity_mapIdentity (f g : Identity → Identity) :
    (e : Element) → mapIdentity g (mapIdentity f e) = mapIdentity (g ∘ f) e
  | ⟨identity, kind, identifier, label, value, children⟩ => by
    simp only [mapIdentity, mapIdentityList_mapIdentityList f g children, Function.comp_apply]

/-- Elements that are renamed twice are renamed at once. -/
theorem mapIdentityList_mapIdentityList (f g : Identity → Identity) :
    (es : List Element) →
      mapIdentityList g (mapIdentityList f es) = mapIdentityList (g ∘ f) es
  | [] => by simp only [mapIdentityList]
  | e :: es => by
    simp only [mapIdentityList, mapIdentity_mapIdentity f g e,
      mapIdentityList_mapIdentityList f g es]

end

mutual

theorem flatten_mapIdentity (f : Identity → Identity) :
    (e : Element) → (mapIdentity f e).flatten = e.flatten.map (mapIdentity f)
  | ⟨identity, kind, identifier, label, value, children⟩ => by
    simp only [mapIdentity, flatten, List.map_cons, flattenList_mapIdentityList f children]

/-- What is in or below renamed elements is renamed. -/
theorem flattenList_mapIdentityList (f : Identity → Identity) :
    (es : List Element) →
      flattenList (mapIdentityList f es) = (flattenList es).map (mapIdentity f)
  | [] => by simp only [mapIdentityList, flattenList, List.map_nil]
  | e :: es => by
    simp only [mapIdentityList, flattenList, List.map_append, flatten_mapIdentity f e,
      flattenList_mapIdentityList f es]

end

/-- What templates some elements use does not depend on their identities. -/
theorem patterns_mapIdentityList (f : Identity → Identity) (es : List Element) :
    patterns (mapIdentityList f es) = patterns es := by
  rw [patterns, patterns, flattenList_mapIdentityList, List.flatMap_map]
  congr 1
  funext e
  cases e
  rfl

@[simp] theorem identity_mapIdentity (f : Identity → Identity) (e : Element) :
    (e.mapIdentity f).identity = f e.identity := by
  cases e; rfl

@[simp] theorem children_mapIdentity (f : Identity → Identity) (e : Element) :
    (e.mapIdentity f).children = mapIdentityList f e.children := by
  cases e; rfl

theorem identities_mapIdentityList (f : Identity → Identity) (es : List Element) :
    identities (mapIdentityList f es) = (identities es).map f := by
  rw [identities, identities, flattenList_mapIdentityList, List.map_map, List.map_map]
  congr 1
  funext e
  exact identity_mapIdentity f e

mutual

theorem mapIdentity_congr {f g : Identity → Identity} :
    (e : Element) → (∀ i ∈ e.flatten.map identity, f i = g i) → mapIdentity f e = mapIdentity g e
  | ⟨identity, kind, identifier, label, value, children⟩, h => by
    simp only [flatten, List.map_cons, List.forall_mem_cons] at h
    simp only [mapIdentity, h.1, mapIdentityList_congr children h.2]

/-- Elements are renamed alike by renamings that agree on their identities. -/
theorem mapIdentityList_congr {f g : Identity → Identity} :
    (es : List Element) → (∀ i ∈ identities es, f i = g i) →
      mapIdentityList f es = mapIdentityList g es
  | [], _ => by simp only [mapIdentityList]
  | e :: es, h => by
    simp only [identities, flattenList, List.map_append, List.forall_mem_append] at h
    simp only [mapIdentityList, mapIdentity_congr e h.1, mapIdentityList_congr es h.2]

end

end Element

/-! ### Reading renamed elements -/

/-- What an element asks of its node does not depend on its identity. -/
theorem Matcher.ofElement_mapIdentity [Template.Engine] (f : Identity → Identity) (e : Element) :
    ofElement (e.mapIdentity f) = ofElement e := by
  cases e; rfl

namespace Expectation

mutual

/-- An expectation whose identities are replaced at every depth. -/
def mapIdentity (f : Identity → Identity) : Expectation → Expectation
  | ⟨element, own, preview, children⟩ =>
    ⟨element.mapIdentity f, own, preview, mapIdentityList f children⟩

/-- Several expectations whose identities are replaced at every depth. -/
def mapIdentityList (f : Identity → Identity) : List Expectation → List Expectation
  | [] => []
  | x :: xs => mapIdentity f x :: mapIdentityList f xs

end

@[simp] theorem isEmpty_mapIdentityList (f : Identity → Identity) (xs : List Expectation) :
    (mapIdentityList f xs).isEmpty = xs.isEmpty := by
  cases xs <;> rfl

@[simp] theorem element_mapIdentity (f : Identity → Identity) (x : Expectation) :
    (x.mapIdentity f).element = x.element.mapIdentity f := by
  cases x; rfl

mutual

theorem ofElement_mapIdentity (f : Identity → Identity) :
    (e : Element) → ofElement (e.mapIdentity f) = (ofElement e).map (mapIdentity f)
  | ⟨identity, kind, identifier, label, value, children⟩ => by
    have hown := Matcher.ofElement_mapIdentity f
      ⟨identity, kind, identifier, label, value, children⟩
    have hpreview : (Element.mapIdentityList f children).mapM Matcher.ofElement
        = children.mapM Matcher.ofElement := by
      rw [Element.mapIdentityList_eq_map, List.mapM_map]
      congr 1
      funext e
      exact Matcher.ofElement_mapIdentity f e
    rw [Element.mapIdentity] at hown ⊢
    rw [ofElement, ofElement, hown, hpreview, ofElements_mapIdentityList f children]
    -- the first fault that is met is the same, and without one the parts are put together
    cases Matcher.ofElement ⟨identity, kind, identifier, label, value, children⟩ with
    | error a => rfl
    | ok own =>
      cases children.mapM Matcher.ofElement with
      | error a => rfl
      | ok preview =>
        cases ofElements children with
        | error a => rfl
        | ok below => rfl

/-- **Renamed elements are read as before.** -/
theorem ofElements_mapIdentityList (f : Identity → Identity) :
    (es : List Element) →
      ofElements (Element.mapIdentityList f es) = (ofElements es).map (mapIdentityList f)
  | [] => by
    simp only [Element.mapIdentityList, ofElements, Except.map, mapIdentityList]
  | e :: es => by
    rw [Element.mapIdentityList, ofElements, ofElements, ofElement_mapIdentity f e,
      ofElements_mapIdentityList f es]
    cases ofElement e with
    | error a => rfl
    | ok x =>
      cases ofElements es with
      | error a => rfl
      | ok xs => rfl

end

end Expectation

/-! ### Looking for renamed elements -/

namespace Notes

variable (f : Identity → Identity)

/-- Notes on renamed elements. -/
def mapIdentity (n : Notes) : Notes :=
  ⟨n.sightings.map fun x => { x with identity := f x.identity }, n.captures⟩

@[simp] theorem mapIdentity_empty : mapIdentity f {} = {} := rfl

/-- The number of earlier sightings with a path does not depend on what was sighted. -/
theorem occurrences_map (xs : List Sighting) (path : List Step) :
    occurrences (xs.map fun x => { x with identity := f x.identity }) path
      = occurrences xs path := by
  rw [occurrences, occurrences, List.countP_map]
  rfl

theorem mapIdentity_add (n : Notes) (s : Snapshot) (i : Identity) (p : Nat)
    (captures : List Capture) :
    (n.add s i p captures).mapIdentity f = (n.mapIdentity f).add s (f i) p captures := by
  simp only [add, mapIdentity, List.map_append, List.map_cons, List.map_nil, occurrences_map]

theorem mapIdentity_cut (n : Notes) (sightings captures : Nat) :
    (n.cut sightings captures).mapIdentity f = (n.mapIdentity f).cut sightings captures := by
  simp only [cut, mapIdentity, List.map_take]

@[simp] theorem length_sightings_mapIdentity (n : Notes) :
    (n.mapIdentity f).sightings.length = n.sightings.length := by
  simp [mapIdentity]

@[simp] theorem captures_mapIdentity (n : Notes) : (n.mapIdentity f).captures = n.captures := rfl

end Notes

namespace Expectation

variable (f : Identity → Identity) (s : Snapshot)

mutual

/-- **Renamed elements are looked for as before.** -/
theorem seek_mapIdentity (start stop bound : Nat) (n : Notes) :
    (x : Expectation) →
      (x.mapIdentity f).seek s start stop bound (n.mapIdentity f)
        = ((x.seek s start stop bound n).1, (x.seek s start stop bound n).2.mapIdentity f)
  | ⟨element, own, preview, children⟩ => by
    rw [mapIdentity, seek, seek]
    simp only
    cases own.first s (List.range' (max start bound) (stop - max start bound)) with
    | none => rfl
    | some candidate =>
      obtain ⟨p, captures⟩ := candidate
      have hall := seekAll_mapIdentity (p + 1) (s.stop p) (Snapshot.index p)
        (n.add s element.identity p captures) children
      simp only [isEmpty_mapIdentityList, Element.identity_mapIdentity, ← Notes.mapIdentity_add,
        Notes.length_sightings_mapIdentity, Notes.captures_mapIdentity, hall]
      generalize seekAll s (p + 1) (s.stop p) (Snapshot.index p)
        (n.add s element.identity p captures) children = answer
      obtain ⟨verified, later⟩ := answer
      -- there is nothing below, or the preview refuses the node, or the children were looked for
      cases children.isEmpty with
      | true => rfl
      | false =>
        cases preview.all fun m => m.occursBelow s p with
        | false => simp [Notes.mapIdentity_cut]
        | true => cases verified <;> simp [Notes.mapIdentity_cut]

/-- Renamed elements are looked for in a row as before. -/
theorem seekAll_mapIdentity (start stop bound : Nat) (n : Notes) :
    (xs : List Expectation) →
      seekAll s start stop bound (n.mapIdentity f) (mapIdentityList f xs)
        = ((seekAll s start stop bound n xs).1,
            (seekAll s start stop bound n xs).2.mapIdentity f)
  | [] => by simp only [mapIdentityList, seekAll]
  | x :: xs => by
    rw [mapIdentityList, seekAll, seekAll, seek_mapIdentity start stop bound n x]
    generalize x.seek s start stop bound n = answer
    obtain ⟨_ | index, later⟩ := answer
    · rfl
    · exact seekAll_mapIdentity start stop index later xs

end

/-- The elements at the top of a renamed page are looked for as before. -/
theorem seekEach_mapIdentity (xs : List Expectation) (bound : Nat) (n : Notes) :
    seekEach s bound (n.mapIdentity f) (mapIdentityList f xs)
      = (Element.mapIdentityList f (seekEach s bound n xs).1,
          (seekEach s bound n xs).2.mapIdentity f) := by
  induction xs generalizing bound n with
  | nil => rfl
  | cons x xs ih =>
    rw [mapIdentityList, seekEach, seekEach, seek_mapIdentity f s 0 s.size bound n x]
    generalize x.seek s 0 s.size bound n = answer
    obtain ⟨_ | index, later⟩ := answer
    · simp only [ih, Element.mapIdentityList, element_mapIdentity]
    · exact ih index later

/-- The elements of renamed expectations are renamed. -/
theorem map_element_mapIdentityList (xs : List Expectation) :
    (mapIdentityList f xs).map element = Element.mapIdentityList f (xs.map element) := by
  induction xs with
  | nil => rfl
  | cons x xs ih =>
    rw [mapIdentityList, List.map_cons, List.map_cons, ih, Element.mapIdentityList,
      element_mapIdentity]

end Expectation

namespace Resolution

/-- What was found and what not, of renamed elements. -/
def mapIdentity (f : Identity → Identity) (r : Resolution) : Resolution :=
  ⟨r.resolved.map fun x => (f x.1, x.2), r.captures, Element.mapIdentityList f r.missing⟩

/-- **What is found of a renamed page** is found of the page, and where and with which values is
the same. -/
theorem ofPage_mapIdentity (f : Identity → Identity) (xs : List Expectation)
    (screen : Option Node) :
    ofPage (Expectation.mapIdentityList f xs) screen = (ofPage xs screen).mapIdentity f := by
  cases screen with
  | none => simp only [ofPage, mapIdentity, Expectation.map_element_mapIdentityList, List.map_nil]
  | some root =>
    have hsearch := Expectation.seekEach_mapIdentity f (Snapshot.ofTree root) xs 0 {}
    rw [Notes.mapIdentity_empty] at hsearch
    simp only [ofPage, search, hsearch, mapIdentity, Notes.mapIdentity, List.map_map]
    rfl

/-- An element is found where it is found under its new name, if no other has this name. -/
theorem location_mapIdentity {f : Identity → Identity} (hf : Function.Injective f)
    (r : Resolution) (i : Identity) : (r.mapIdentity f).location (f i) = r.location i := by
  have hname : ((fun x => x.1 == f i) ∘ fun x : Identity × Location => (f x.1, x.2))
      = fun x => x.1 == i := by
    funext x
    exact decide_eq_decide.mpr hf.eq_iff
  rw [location, location, mapIdentity, List.find?_map, hname, Option.map_map]
  rfl

end Resolution

/-! ### The places of renamed elements -/

/-- What an element asks of its node does not depend on its identity. -/
theorem Element.matches_mapIdentity {f : Identity → Identity} {e : Element} {step : Step}
    {captures : List Capture} :
    (e.mapIdentity f).Matches step captures ↔ e.Matches step captures := by
  cases e
  constructor
  · intro h
    exact ⟨h.kind, h.identifier, h.texts⟩
  · intro h
    exact ⟨h.kind, h.identifier, h.texts⟩

/-- The first node in a scope that is as an element asks does not depend on its identity. -/
theorem Snapshot.first_mapIdentity {s : Snapshot} {f : Identity → Identity} {e : Element}
    {lo hi p : Nat} {captures : List Capture} :
    s.First lo hi (e.mapIdentity f) p captures ↔ s.First lo hi e p captures := by
  have hshows : ∀ q c, s.Shows q (e.mapIdentity f) c ↔ s.Shows q e c := by
    intro q c
    simp only [Shows, Element.matches_mapIdentity]
  constructor
  · intro h
    exact ⟨h.le, h.lt, (hshows p captures).mp h.shows,
      fun q hle hlt c hc => h.least q hle hlt c ((hshows q c).mpr hc)⟩
  · intro h
    exact ⟨h.le, h.lt, (hshows p captures).mpr h.shows,
      fun q hle hlt c hc => h.least q hle hlt c ((hshows q c).mp hc)⟩

namespace Finding

mutual

/-- A finding whose identities are replaced at every depth. -/
def mapIdentity (f : Identity → Identity) : Finding → Finding
  | ⟨identity, position, captures, children⟩ =>
    ⟨f identity, position, captures, mapIdentityList f children⟩

/-- Several findings whose identities are replaced at every depth. -/
def mapIdentityList (f : Identity → Identity) : List Finding → List Finding
  | [] => []
  | g :: gs => mapIdentity f g :: mapIdentityList f gs

end

@[simp] theorem position_mapIdentity (f : Identity → Identity) (g : Finding) :
    (g.mapIdentity f).position = g.position := by
  cases g; rfl

end Finding

/-- What became of renamed elements at the top of a page. -/
def Outcomes.mapIdentity (f : Identity → Identity) (os : Outcomes) : Outcomes :=
  os.map fun o => (o.1.mapIdentity f, o.2.map (Finding.mapIdentity f))

section Places

variable {s : Snapshot} {lo hi bound : Nat} {es : List Element} {fs : List Finding} {os : Outcomes}

/-- Renamed elements have the places that the elements have. -/
theorem Placed.mapIdentity (f : Identity → Identity) (h : Placed s lo hi es fs) :
    Placed s lo hi (Element.mapIdentityList f es) (Finding.mapIdentityList f fs) := by
  induction h with
  | nil => exact .nil
  | @cons lo hi p e captures below fs es first children rest ih_children ih_rest =>
    rw [Element.mapIdentityList, Finding.mapIdentityList, Finding.mapIdentity,
      ← Element.identity_mapIdentity f e]
    apply Placed.cons (Snapshot.first_mapIdentity.mpr first) _ ih_rest
    rw [Element.children_mapIdentity]
    exact ih_children

/-- If one of some elements has no place, one of the renamed elements has none. -/
theorem Gap.mapIdentity (f : Identity → Identity) (h : Gap s lo hi es) :
    Gap s lo hi (Element.mapIdentityList f es) := by
  induction h with
  | @nowhere lo hi e es none =>
    rw [Element.mapIdentityList]
    apply Gap.nowhere
    intro p hle hlt c hshows
    simp only [Snapshot.Shows, Element.matches_mapIdentity] at hshows
    exact none p hle hlt c hshows
  | @within lo hi p e captures es first children ih =>
    rw [Element.mapIdentityList]
    apply Gap.within (Snapshot.first_mapIdentity.mpr first)
    rw [Element.children_mapIdentity]
    exact ih
  | @behind lo hi p e captures below es first children rest ih =>
    rw [Element.mapIdentityList]
    have hplaced := children.mapIdentity f
    rw [← Element.children_mapIdentity] at hplaced
    exact .behind (Snapshot.first_mapIdentity.mpr first) hplaced ih

/-- **Renamed elements at the top of a page get the places that the elements get.** -/
theorem Assigned.mapIdentity (f : Identity → Identity) (h : Assigned s bound os) :
    Assigned s bound (os.mapIdentity f) := by
  induction h with
  | nil => exact .nil
  | @cons bound e outcome rest found missing behind ih =>
    cases outcome with
    | none => exact .cons_gap ((missing.mp rfl).mapIdentity f) ih
    | some g =>
      refine .cons_placed (((found g).mp rfl).mapIdentity f) ?_
      rw [Finding.position_mapIdentity]
      exact ih

end Places

namespace Outcomes

variable (f : Identity → Identity) (os : Outcomes)

theorem map_fst_mapIdentity :
    (os.mapIdentity f).map Prod.fst = Element.mapIdentityList f (os.map Prod.fst) := by
  rw [mapIdentity, Element.mapIdentityList_eq_map, List.map_map, List.map_map]
  rfl

/-- The renamed elements that are missing are those whose elements are. -/
theorem missing_mapIdentity :
    (os.mapIdentity f).missing = Element.mapIdentityList f os.missing := by
  rw [mapIdentity, missing, missing, Element.mapIdentityList_eq_map, List.filter_map,
    List.map_map, List.map_map]
  simp [Function.comp_def]

/-- The places do not depend on what they are for. -/
theorem map_position_mapIdentity :
    (os.mapIdentity f).map (fun o => o.2.map Finding.position)
      = os.map fun o => o.2.map Finding.position := by
  simp [mapIdentity, Function.comp_def]

end Outcomes

/-! ### Identities that are given later -/

namespace Identity

/-- Whether an identity was given before the next one to be given; the dynamic one always was. -/
def Before (next : Nat) : Identity → Prop
  | dynamic => True
  | declared n => n < next

instance (next : Nat) : (i : Identity) → Decidable (i.Before next)
  | dynamic => .isTrue trivial
  | declared n => inferInstanceAs (Decidable (n < next))

/-- The identity that is given in place of another if `d` more were given before it, from `next`
on. -/
def later (next d : Nat) : Identity → Identity
  | dynamic => dynamic
  | declared n => if n < next then declared n else declared (n + d)

variable {next d n : Nat} {i : Identity}

theorem Before.mono (h : i.Before next) {next' : Nat} (hle : next ≤ next') : i.Before next' := by
  cases i with
  | dynamic => trivial
  | declared n => exact Nat.lt_of_lt_of_le h hle

/-- What was given before stays as it is. -/
theorem later_of_before (h : i.Before next) : i.later next d = i := by
  cases i with
  | dynamic => rfl
  | declared n => exact if_pos h

theorem later_declared_of_le (h : next ≤ n) :
    (declared n).later next d = declared (n + d) :=
  if_neg (Nat.not_lt.mpr h)

@[simp] theorem later_dynamic : dynamic.later next d = dynamic := rfl

/-- Different identities stay different. -/
theorem later_injective (next d : Nat) : Function.Injective (later next d) := by
  intro i j h
  cases i with
  | dynamic =>
    cases j with
    | dynamic => rfl
    | declared n =>
      rw [later_dynamic, later] at h
      split at h <;> cases h
  | declared m =>
    cases j with
    | dynamic =>
      rw [later_dynamic, later] at h
      split at h <;> cases h
    | declared n =>
      rw [later, later] at h
      split at h <;> split at h <;> simp only [declared.injEq] at h ⊢ <;> omega

/-- What was not given yet is not given before its time if it is given later. -/
theorem not_before_later (h : ¬ i.Before next) : ¬ (i.later next d).Before (next + d) := by
  cases i with
  | dynamic => exact absurd trivial h
  | declared n =>
    simp only [Before, Nat.not_lt] at h
    rw [later_declared_of_le h]
    simp only [Before]
    omega

/-- Nothing is given later as one of the identities that are given now. -/
theorem later_ne (h : ¬ i.Before next) (h' : i.Before (next + d)) (j : Identity) :
    j.later next d ≠ i := by
  rintro rfl
  by_cases hj : j.Before next
  · rw [later_of_before hj] at h
    exact h hj
  · exact not_before_later hj h'

/-- An identity that is not declared anew is kept. -/
theorem renew_of_not_mem {old : List Identity} (h : i ∉ old) : i.renew old n = i := by
  rw [renew, List.idxOf?_eq_none_iff.mpr h]

/-- An identity that is declared anew was not given before. -/
theorem not_before_renew {old : List Identity} (h : i ∈ old) : ¬ (i.renew old n).Before n := by
  cases hk : old.idxOf? i with
  | none => exact absurd h (List.idxOf?_eq_none_iff.mp hk)
  | some k => simp [renew, hk, Before]

/-- A new identity is given later if more were given before it. -/
theorem renew_add {old : List Identity} (hi : i.Before next) (hle : next ≤ n) :
    i.renew old (n + d) = (i.renew old n).later next d := by
  rw [renew, renew]
  cases old.idxOf? i with
  | none => exact (later_of_before hi).symm
  | some k =>
    simp only
    rw [later_declared_of_le (Nat.le_add_right_of_le hle)]
    congr 1
    omega

/-- A new identity is one of those that are given next, and any other is kept. -/
theorem renew_before {old : List Identity} (hi : i.Before next) (hle : next ≤ n) :
    (i.renew old n).Before (n + old.length) := by
  rw [renew]
  cases hk : old.idxOf? i with
  | none => exact hi.mono (by omega)
  | some k =>
    have hlt : k < old.length := by
      rw [List.idxOf?_eq_some_iff] at hk
      exact hk.1
    exact Nat.add_lt_add_left hlt n

end Identity

namespace Page.Body

/-- **The elements of a body when more identities were given** are the same, but for the
identities that are given next. -/
theorem lookAt_add {b : Page.Body} {next n : Nat} (d : Nat)
    (h : ∀ i ∈ Element.identities b.elements, i.Before next) (hle : next ≤ n) :
    b.lookAt (n + d) = Element.mapIdentityList (Identity.later next d) (b.lookAt n) := by
  rw [lookAt, lookAt, Element.mapIdentityList_mapIdentityList]
  refine Element.mapIdentityList_congr b.elements ?_
  intro i hi
  exact Identity.renew_add (h i hi) hle

/-- All that a body declares was given before or is given now. -/
theorem before_of_mem_lookAt {b : Page.Body} {next n : Nat}
    (h : ∀ i ∈ Element.identities b.elements, i.Before next) (hle : next ≤ n)
    {i : Identity} (hi : i ∈ Element.identities (b.lookAt n)) :
    i.Before (n + b.renewed.length) := by
  rw [lookAt, Element.identities_mapIdentityList] at hi
  obtain ⟨j, hj, rfl⟩ := List.mem_map.mp hi
  exact Identity.renew_before (h j hj) hle

end Page.Body

end ScreenPages
