import Mathlib.Data.Nat.Find
import ScreenPages.Proofs.Accepted
import ScreenPages.Resolution

/-!
# The rule of placement

Which nodes a page gets, said without the search: an element gets the first node in its scope
that matches it by itself, its children get nodes below that node by the same rule, and an
element has no place if there is no such node or if one of its children has no place below
it.  A scope is a range of positions, the whole screen for the elements at the top and the
subtree of a node for those below it; an element that has a place moves the lower end of the
scope behind its node.

## Main definitions

* `Element.Matches` — what an element asks of a node, and the values it captures.
* `Snapshot.First` — the first node in a scope that matches an element.
* `Finding` — an element with its node and the findings for its children.
* `Placed` — some elements in order have places in a scope.
* `Gap` — one of some elements has no place in a scope.
* `Assigned` — each element at the top of a page has its place, or has none.

## Main results

* `Matcher.capture_eq_some_iff` — a matcher asks of a node what its element asks.
* `Placed.unique`, `Placed.not_gap`, `Assigned.unique` — the rule leaves no choice.
* `Assigned.placed` — the elements that are found have the places that they have by themselves.
* `Assigned.pairwise_lt` — the places of the elements at the top follow one another.
* `Assigned.forall₂_flattenList` — places are given to all accepted elements and to all that is
  below them, in document order.
-/

namespace ScreenPages

variable {engine : Template.Engine}

/-! ### What an element asks of a node -/

/-- A text is as an optional template asks, and the variables get these values: no template
asks for nothing, and a template asks for a text that it matches. -/
inductive Fits [Template.Engine] : Option String → Option String → List Capture → Prop
  | unasked (text : Option String) : Fits none text []
  | asked {source text : String} {t : Template} {captures : List Capture}
      (read : Template.ofText source = .ok t) (captured : t.capture text = some captures) :
      Fits (some source) (some text) captures

/-- A node is as an element asks, and the variables get these values, those of the label
before those of the value. -/
structure Element.Matches [Template.Engine] (e : Element) (s : Step) (captures : List Capture) :
    Prop where
  kind : e.kind = .any ∨ e.kind = s.kind
  identifier : ∀ i, e.identifier = some i → i = s.identifier
  texts : ∃ label value, Fits e.label (some s.label) label ∧ Fits e.value s.value value ∧
    captures = label ++ value

/-- The values that a template which was read captures. -/
theorem captureText_eq_some_iff {source : Option String} {t : Option Template}
    (h : Matcher.templateOf? source = .ok t) {text : Option String} {captures : List Capture} :
    Matcher.captureText t text = some captures ↔ Fits source text captures := by
  cases source with
  | none =>
    cases h
    simp only [Matcher.captureText, Option.some.injEq]
    constructor
    · rintro rfl; exact .unasked text
    · rintro ⟨⟩; rfl
  | some source =>
    cases hread : Template.ofText source with
    | error a => simp [Matcher.templateOf?, hread, Except.map] at h
    | ok t' =>
      simp only [Matcher.templateOf?, hread, Except.map, Except.ok.injEq] at h
      subst h
      simp only [Matcher.captureText, Option.bind_eq_some_iff]
      constructor
      · rintro ⟨text, rfl, hcap⟩
        exact .asked hread hcap
      · rintro (_ | ⟨hread', hcap⟩)
        rw [hread] at hread'
        cases hread'
        exact ⟨_, rfl, hcap⟩

/-- What a matcher is read from. -/
theorem Matcher.ofElement_eq_ok {e : Element} {m : Matcher} (h : Matcher.ofElement e = .ok m) :
    m.kind = e.kind ∧ m.identifier = e.identifier ∧
      Matcher.templateOf? e.label = .ok m.label ∧ Matcher.templateOf? e.value = .ok m.value := by
  rw [Matcher.ofElement] at h
  obtain ⟨label, hlabel, h⟩ := Except.exists_of_bind_eq_ok h
  obtain ⟨value, hvalue, h⟩ := Except.exists_of_bind_eq_ok h
  cases h
  exact ⟨rfl, rfl, hlabel, hvalue⟩

/-- **A matcher asks of a node what its element asks.** -/
theorem Matcher.capture_eq_some_iff {e : Element} {m : Matcher} (h : Matcher.ofElement e = .ok m)
    {s : Step} {captures : List Capture} :
    m.capture s = some captures ↔ e.Matches s captures := by
  obtain ⟨hkind, hident, hlabel, hvalue⟩ := Matcher.ofElement_eq_ok h
  have hk : m.acceptsKind s = true ↔ e.kind = .any ∨ e.kind = s.kind := by
    simp [Matcher.acceptsKind, hkind]
  have hi : m.acceptsIdentifier s = true ↔ ∀ i, e.identifier = some i → i = s.identifier := by
    rw [Matcher.acceptsIdentifier, hident]
    cases e.identifier <;> simp
  have ht : (do
        let label ← captureText m.label (some s.label)
        let value ← captureText m.value s.value
        return label ++ value) = some captures ↔
      ∃ label value, Fits e.label (some s.label) label ∧ Fits e.value s.value value ∧
        captures = label ++ value := by
    simp only [Option.bind_eq_bind, Option.bind_eq_some_iff, captureText_eq_some_iff hlabel,
      captureText_eq_some_iff hvalue, Option.pure_def, Option.some.injEq, eq_comm (b := captures),
      exists_and_left]
  rw [Matcher.capture]
  split
  · rename_i hboth
    rw [Bool.and_eq_true, hk, hi] at hboth
    rw [ht]
    exact ⟨fun h => ⟨hboth.1, hboth.2, h⟩, fun h => h.texts⟩
  · rename_i hboth
    rw [Bool.and_eq_true, hk, hi] at hboth
    simp only [reduceCtorEq, false_iff]
    exact fun h => hboth ⟨h.kind, h.identifier⟩

/-- A text gives the variables one choice of values only. -/
theorem Fits.unique {source text : Option String} {c₁ c₂ : List Capture}
    (h₁ : Fits source text c₁) (h₂ : Fits source text c₂) : c₁ = c₂ := by
  cases h₁ with
  | unasked => cases h₂; rfl
  | asked read₁ captured₁ =>
    obtain _ | ⟨read₂, captured₂⟩ := h₂
    rw [read₁] at read₂
    cases read₂
    exact Option.some.inj (captured₁.symm.trans captured₂)

/-- A node gives the variables of an element one choice of values only. -/
theorem Element.Matches.unique {e : Element} {s : Step} {c₁ c₂ : List Capture}
    (h₁ : e.Matches s c₁) (h₂ : e.Matches s c₂) : c₁ = c₂ := by
  obtain ⟨l₁, v₁, hl₁, hv₁, rfl⟩ := h₁.texts
  obtain ⟨l₂, v₂, hl₂, hv₂, rfl⟩ := h₂.texts
  rw [hl₁.unique hl₂, hv₁.unique hv₂]

/-! ### The first node in a scope -/

namespace Snapshot

/-- The node at a position is as an element asks, and the variables get these values. -/
def Shows [Template.Engine] (s : Snapshot) (p : Nat) (e : Element) (captures : List Capture) :
    Prop :=
  ∃ entry, s.entry? p = some entry ∧ e.Matches entry.step captures

/-- The node at a position is the first from `lo` on and before `hi` that is as an element
asks, and the variables get these values. -/
structure First [Template.Engine] (s : Snapshot) (lo hi : Nat) (e : Element) (p : Nat)
    (captures : List Capture) :
    Prop where
  le : lo ≤ p
  lt : p < hi
  shows : s.Shows p e captures
  least : ∀ q, lo ≤ q → q < p → ∀ c, ¬ s.Shows q e c

variable {s : Snapshot}

/-- Only a position of the snapshot shows anything. -/
theorem Shows.lt_size {p : Nat} {e : Element} {captures : List Capture}
    (h : s.Shows p e captures) : p < s.size := by
  obtain ⟨entry, hentry, -⟩ := h
  exact (Array.getElem?_eq_some_iff.mp hentry).1

/-- A position gives the variables of an element one choice of values only. -/
theorem Shows.unique {p : Nat} {e : Element} {c₁ c₂ : List Capture} (h₁ : s.Shows p e c₁)
    (h₂ : s.Shows p e c₂) : c₁ = c₂ := by
  obtain ⟨entry, hentry, hm₁⟩ := h₁
  obtain ⟨entry', hentry', hm₂⟩ := h₂
  rw [hentry] at hentry'
  cases hentry'
  exact hm₁.unique hm₂

/-- What a node shows is read off its entry. -/
theorem shows_iff_of_entry {p : Nat} {entry : Entry} (hentry : s.entry? p = some entry)
    {e : Element} {c : List Capture} : s.Shows p e c ↔ e.Matches entry.step c := by
  constructor
  · rintro ⟨entry', hentry', hm⟩
    rw [hentry] at hentry'
    cases hentry'
    exact hm
  · intro hm
    exact ⟨entry, hentry, hm⟩

/-- A scope has one first node only. -/
theorem First.unique {lo hi p₁ p₂ : Nat} {e : Element} {c₁ c₂ : List Capture}
    (h₁ : s.First lo hi e p₁ c₁) (h₂ : s.First lo hi e p₂ c₂) : p₁ = p₂ ∧ c₁ = c₂ := by
  -- if one of the two came first, the other would not be the first
  obtain hlt | rfl | hlt := Nat.lt_trichotomy p₁ p₂
  · exact absurd h₁.shows (h₂.least p₁ h₁.le hlt c₁)
  · exact ⟨rfl, h₁.shows.unique h₂.shows⟩
  · exact absurd h₂.shows (h₁.least p₂ h₂.le hlt c₂)

/-- A node that is as an element asks, or one in front of it, is the first that is. -/
theorem Shows.exists_first {lo hi p : Nat} {e : Element} {c : List Capture}
    (h : s.Shows p e c) (hlo : lo ≤ p) (hhi : p < hi) :
    ∃ q c', s.First lo hi e q c' ∧ q ≤ p := by
  classical
  have hsome : ∃ q, lo ≤ q ∧ ∃ c, s.Shows q e c := ⟨p, hlo, c, h⟩
  obtain ⟨hle, c', hshows⟩ := Nat.find_spec hsome
  have hmin := Nat.find_min' hsome ⟨hlo, c, h⟩
  refine ⟨Nat.find hsome, c', ⟨hle, by omega, hshows, ?_⟩, hmin⟩
  intro q hq hlt c'' hshows'
  exact Nat.find_min hsome hlt ⟨hq, c'', hshows'⟩

end Snapshot

/-! ### Places -/

/-- The node found for an element, with the findings for its children. -/
structure Finding where
  identity : Identity
  /-- The position of the node. -/
  position : Nat
  captures : List Capture
  children : List Finding
  deriving Repr, Inhabited

namespace Finding

mutual

/-- A finding and those below it in document order. -/
def flatten : Finding → List Finding
  | f@⟨_, _, _, children⟩ => f :: flattenList children

/-- Several findings and those below them in document order. -/
def flattenList : List Finding → List Finding
  | [] => []
  | f :: fs => flatten f ++ flattenList fs

end

theorem flatten_eq (f : Finding) : f.flatten = f :: flattenList f.children := by
  cases f; rw [flatten]

@[simp] theorem flattenList_nil : flattenList [] = [] := by rw [flattenList]

@[simp] theorem flattenList_cons (f : Finding) (fs : List Finding) :
    flattenList (f :: fs) = f :: (flattenList f.children ++ flattenList fs) := by
  rw [flattenList, flatten_eq, List.cons_append]

end Finding

/-- An element and all below it, the element itself in front. -/
theorem Element.flatten_eq (e : Element) : e.flatten = e :: Element.flattenList e.children := by
  cases e; rw [Element.flatten]

@[simp] theorem Element.flattenList_nil : Element.flattenList [] = [] := by
  rw [Element.flattenList]

@[simp] theorem Element.flattenList_cons (e : Element) (es : List Element) :
    Element.flattenList (e :: es)
      = e :: (Element.flattenList e.children ++ Element.flattenList es) := by
  rw [Element.flattenList, Element.flatten_eq, List.cons_append]

/-- All of some elements in order have places in a scope: each gets the first node behind the
node of the one before, and its children have places below that node. -/
inductive Placed [Template.Engine] (s : Snapshot) : Nat → Nat → List Element → List Finding → Prop
  | nil {lo hi : Nat} : Placed s lo hi [] []
  | cons {lo hi p : Nat} {e : Element} {captures : List Capture} {below fs : List Finding}
      {es : List Element} (first : s.First lo hi e p captures)
      (children : Placed s (p + 1) (s.stop p) e.children below)
      (rest : Placed s (p + 1) hi es fs) :
      Placed s lo hi (e :: es) (⟨e.identity, p, captures, below⟩ :: fs)

/-- One of some elements in order has no place in a scope, though those before it have: no
node behind theirs is as it asks, or one of its children has no place below the first that
is. -/
inductive Gap [Template.Engine] (s : Snapshot) : Nat → Nat → List Element → Prop
  | nowhere {lo hi : Nat} {e : Element} {es : List Element}
      (none : ∀ p, lo ≤ p → p < hi → ∀ c, ¬ s.Shows p e c) : Gap s lo hi (e :: es)
  | within {lo hi p : Nat} {e : Element} {captures : List Capture} {es : List Element}
      (first : s.First lo hi e p captures) (children : Gap s (p + 1) (s.stop p) e.children) :
      Gap s lo hi (e :: es)
  | behind {lo hi p : Nat} {e : Element} {captures : List Capture} {below : List Finding}
      {es : List Element} (first : s.First lo hi e p captures)
      (children : Placed s (p + 1) (s.stop p) e.children below) (rest : Gap s (p + 1) hi es) :
      Gap s lo hi (e :: es)

/-- A finding is for an element: its node is as the element asks, and what is below it has
places in the subtree of the node. -/
structure Finding.Suits [Template.Engine] (s : Snapshot) (e : Element) (f : Finding) : Prop where
  identity : f.identity = e.identity
  shows : s.Shows f.position e f.captures
  children : Placed s (f.position + 1) (s.stop f.position) e.children f.children

/-- Findings have the identities of the elements that they are for. -/
theorem Finding.map_identity_eq {s : Snapshot} {es : List Element} {fs : List Finding}
    (h : List.Forall₂ (Suits s) es fs) :
    es.map Element.identity = fs.map Finding.identity := by
  induction h with
  | nil => rfl
  | cons hsuits _ ih => rw [List.map_cons, List.map_cons, hsuits.identity, ih]

namespace Placed

variable {s : Snapshot} {lo hi : Nat} {es : List Element} {fs gs : List Finding}

/-- **Elements have one choice of places only.** -/
theorem unique (h₁ : Placed s lo hi es fs) (h₂ : Placed s lo hi es gs) : fs = gs := by
  induction h₁ generalizing gs with
  | nil => cases h₂; rfl
  | cons first _ _ ih_children ih_rest =>
    obtain _ | ⟨first', children', rest'⟩ := h₂
    obtain ⟨rfl, rfl⟩ := first.unique first'
    rw [ih_children children', ih_rest rest']

/-- **Elements that have places leave no gap.** -/
theorem not_gap (h : Placed s lo hi es fs) : ¬ Gap s lo hi es := by
  induction h with
  | nil => rintro ⟨⟩
  | cons first _ _ ih_children ih_rest =>
    intro hgap
    cases hgap with
    | nowhere hnone => exact hnone _ first.le first.lt _ first.shows
    | within first' gap =>
      obtain ⟨rfl, rfl⟩ := first.unique first'
      exact ih_children gap
    | behind first' _ gap =>
      obtain ⟨rfl, rfl⟩ := first.unique first'
      exact ih_rest gap

/-- Every element that has a place is shown somewhere in the scope. -/
theorem exists_shows (h : Placed s lo hi es fs) :
    ∀ e ∈ es, ∃ p c, lo ≤ p ∧ p < hi ∧ s.Shows p e c := by
  induction h with
  | nil => intro e he; simp at he
  | cons first _ _ _ ih_rest =>
    intro e he
    rcases List.mem_cons.mp he with rfl | he
    · exact ⟨_, _, first.le, first.lt, first.shows⟩
    · obtain ⟨p, c, hlo, hhi, hshows⟩ := ih_rest e he
      have := first.le
      exact ⟨p, c, by omega, hhi, hshows⟩

/-- Places lie in the scope. -/
theorem mem_scope (h : Placed s lo hi es fs) :
    ∀ f ∈ fs, lo ≤ f.position ∧ f.position < hi := by
  induction h with
  | nil => intro f hf; simp at hf
  | cons first _ _ _ ih_rest =>
    intro f hf
    rcases List.mem_cons.mp hf with rfl | hf
    · exact ⟨first.le, first.lt⟩
    · obtain ⟨hlo, hhi⟩ := ih_rest f hf
      have := first.le
      exact ⟨by omega, hhi⟩

/-- **The places of elements side by side follow one another.** -/
theorem pairwise_lt (h : Placed s lo hi es fs) : (fs.map Finding.position).Pairwise (· < ·) := by
  induction h with
  | nil => exact List.Pairwise.nil
  | cons _ _ rest _ ih_rest =>
    rw [List.map_cons, List.pairwise_cons]
    refine ⟨?_, ih_rest⟩
    intro q hq
    obtain ⟨f, hf, rfl⟩ := List.mem_map.mp hq
    exact (rest.mem_scope f hf).1

/-- **Places are given to all of some elements and to all below them, in document order.** -/
theorem forall₂_flattenList (h : Placed s lo hi es fs) :
    List.Forall₂ (Finding.Suits s) (Element.flattenList es) (Finding.flattenList fs) := by
  induction h with
  | nil => simp
  | cons first children rest ih_children ih_rest =>
    rw [Element.flattenList_cons, Finding.flattenList_cons]
    refine .cons ⟨rfl, first.shows, children⟩ ?_
    exact List.rel_append ih_children ih_rest

end Placed

/-- A gap at the first of some elements is a gap. -/
theorem Gap.cons {s : Snapshot} {lo hi : Nat} {e : Element} (h : Gap s lo hi [e])
    (es : List Element) : Gap s lo hi (e :: es) := by
  cases h with
  | nowhere hnone => exact .nowhere hnone
  | within first children => exact .within first children
  | behind _ _ rest => cases rest

/-! ### The top of a page -/

/-- What became of the elements at the top of a page: each with what was found for it, if
anything. -/
abbrev Outcomes := List (Element × Option Finding)

namespace Outcomes

/-- The findings for the elements that were found. -/
def found (os : Outcomes) : List Finding := os.filterMap Prod.snd

/-- The elements that were found. -/
def accepted (os : Outcomes) : List Element := (os.filter fun o => o.2.isSome).map Prod.fst

/-- The elements that were not found. -/
def missing (os : Outcomes) : List Element := (os.filter fun o => o.2.isNone).map Prod.fst

variable (e : Element) (f : Finding) (os : Outcomes)

/-- If nothing is missing all elements are accepted. -/
theorem accepted_eq {os : Outcomes} (h : os.missing = []) : os.accepted = os.map Prod.fst := by
  rw [missing, List.map_eq_nil_iff, List.filter_eq_nil_iff] at h
  rw [accepted, List.filter_eq_self.mpr]
  intro o ho
  simpa [Option.isSome_iff_ne_none] using h o ho

@[simp] theorem found_nil : found [] = [] := rfl

@[simp] theorem found_none : found ((e, none) :: os) = os.found := rfl

@[simp] theorem found_some : found ((e, some f) :: os) = f :: os.found := rfl

@[simp] theorem accepted_nil : accepted [] = [] := rfl

@[simp] theorem accepted_none : accepted ((e, none) :: os) = os.accepted := rfl

@[simp] theorem accepted_some : accepted ((e, some f) :: os) = e :: os.accepted := rfl

@[simp] theorem missing_nil : missing [] = [] := rfl

@[simp] theorem missing_none : missing ((e, none) :: os) = e :: os.missing := rfl

@[simp] theorem missing_some : missing ((e, some f) :: os) = os.missing := rfl

/-- What is in or below an accepted element is in or below an element of the page. -/
theorem flattenList_accepted_subset :
    Element.flattenList os.accepted ⊆ Element.flattenList (os.map Prod.fst) := by
  induction os with
  | nil => exact List.Subset.refl _
  | cons o os ih =>
    obtain ⟨e, outcome⟩ := o
    rw [List.map_cons, Element.flattenList_cons]
    cases outcome with
    | none =>
      rw [accepted_none]
      exact fun x hx => List.mem_cons_of_mem _ (List.mem_append_right _ (ih hx))
    | some f =>
      rw [accepted_some, Element.flattenList_cons]
      refine List.cons_subset_cons _ ?_
      exact List.append_subset.mpr
        ⟨List.subset_append_left _ _, List.Subset.trans ih (List.subset_append_right _ _)⟩

end Outcomes

/-- Where the search goes on behind the outcome for an element at the top. -/
def Finding.bound (bound : Nat) : Option Finding → Nat
  | none => bound
  | some f => f.position + 1

/-- Each of some elements at the top of a page is found exactly at its place in what is left
of the screen, and missing exactly if it has no place there.  A missing element leaves the
scope of the next one as it was. -/
inductive Assigned [Template.Engine] (s : Snapshot) : Nat → Outcomes → Prop
  | nil {bound : Nat} : Assigned s bound []
  | cons {bound : Nat} {e : Element} {outcome : Option Finding} {rest : Outcomes}
      (found : ∀ f, outcome = some f ↔ Placed s bound s.size [e] [f])
      (missing : outcome = none ↔ Gap s bound s.size [e])
      (behind : Assigned s (Finding.bound bound outcome) rest) :
      Assigned s bound ((e, outcome) :: rest)

namespace Assigned

variable {s : Snapshot} {bound : Nat} {os : Outcomes}

/-- An element that has a place is found there, and the next one is looked for behind it. -/
theorem cons_placed {e : Element} {f : Finding} (h : Placed s bound s.size [e] [f])
    (rest : Assigned s (f.position + 1) os) : Assigned s bound ((e, some f) :: os) := by
  refine .cons ?_ ?_ rest
  · intro g
    constructor
    · intro heq
      cases heq
      exact h
    · intro hg
      cases h.unique hg
      rfl
  · simp only [reduceCtorEq, false_iff]
    exact h.not_gap

/-- An element that has no place is missing, and the next one is looked for where it was. -/
theorem cons_gap {e : Element} (h : Gap s bound s.size [e]) (rest : Assigned s bound os) :
    Assigned s bound ((e, none) :: os) := by
  refine .cons ?_ ?_ rest
  · intro f
    simp only [reduceCtorEq, false_iff]
    exact fun hf => hf.not_gap h
  · simpa using h

/-- **What becomes of the elements at the top of a page leaves no choice either.** -/
theorem unique {os' : Outcomes} (h : Assigned s bound os) (h' : Assigned s bound os')
    (hpage : os.map Prod.fst = os'.map Prod.fst) : os = os' := by
  induction h generalizing os' with
  | nil =>
    rw [List.map_nil, eq_comm, List.map_eq_nil_iff] at hpage
    rw [hpage]
  | @cons bound e outcome rest found missing behind ih =>
    cases h' with
    | nil => cases hpage
    | @cons _ e' outcome' rest' found' missing' behind' =>
      simp only [List.map_cons, List.cons.injEq] at hpage
      obtain ⟨rfl, hpage⟩ := hpage
      have houtcome : outcome = outcome' := by
        cases outcome with
        | none => exact (missing'.mpr (missing.mp rfl)).symm
        | some f => exact ((found' f).mpr ((found f).mp rfl)).symm
      subst houtcome
      rw [ih behind' hpage]

/-- The elements that are found have places, each in a scope that is not above its node. -/
theorem exists_placed (h : Assigned s bound os) :
    ∀ o ∈ os, ∀ f, o.2 = some f → ∃ lo, bound ≤ lo ∧ Placed s lo s.size [o.1] [f] := by
  induction h with
  | nil => intro o ho; cases ho
  | @cons bound e outcome rest found missing behind ih =>
    intro o ho f hf
    rcases List.mem_cons.mp ho with rfl | ho
    · exact ⟨bound, Nat.le_refl bound, (found f).mp hf⟩
    · obtain ⟨lo, hlo, hplaced⟩ := ih o ho f hf
      refine ⟨lo, ?_, hplaced⟩
      cases outcome with
      | none => exact hlo
      | some g =>
        have := (((found g).mp rfl).mem_scope g List.mem_cons_self).1
        rw [Finding.bound] at hlo
        omega

/-- **The elements that are found have the places that they would have by themselves.** -/
theorem placed (h : Assigned s bound os) : Placed s bound s.size os.accepted os.found := by
  induction h with
  | nil => exact .nil
  | @cons bound e outcome rest found missing behind ih =>
    cases outcome with
    | none => exact ih
    | some f =>
      obtain _ | ⟨first, children, -⟩ := (found f).mp rfl
      exact .cons first children ih

/-- **The places of the elements at the top follow one another.** -/
theorem pairwise_lt (h : Assigned s bound os) :
    (os.found.map Finding.position).Pairwise (· < ·) := by
  induction h with
  | nil => exact List.Pairwise.nil
  | @cons bound e outcome rest found missing behind ih =>
    cases outcome with
    | none => exact ih
    | some f =>
      rw [Outcomes.found_some, List.map_cons, List.pairwise_cons]
      refine ⟨?_, ih⟩
      intro q hq
      obtain ⟨g, hg, rfl⟩ := List.mem_map.mp hq
      obtain ⟨o, ho, hsome⟩ := List.mem_filterMap.mp hg
      obtain ⟨lo, hlo, hplaced⟩ := behind.exists_placed o ho g hsome
      have := (hplaced.mem_scope g List.mem_cons_self).1
      rw [Finding.bound] at hlo
      omega

/-- **What is found on a page is found for all elements that are accepted and for all below
them, in document order.** -/
theorem forall₂_flattenList (h : Assigned s bound os) :
    List.Forall₂ (Finding.Suits s) (Element.flattenList os.accepted)
      (Finding.flattenList os.found) := by
  induction h with
  | nil => simp
  | @cons bound e outcome rest found missing behind ih =>
    cases outcome with
    | none => simpa using ih
    | some f =>
      have hall := List.rel_append ((found f).mp rfl).forall₂_flattenList ih
      simpa using hall

end Assigned

/-- Elements that have places are found at the top of a page, and nothing is missing. -/
theorem Placed.exists_assigned {s : Snapshot} {lo : Nat} {es : List Element} {fs : List Finding}
    (h : Placed s lo s.size es fs) :
    ∃ os : Outcomes, Assigned s lo os ∧ os.map Prod.fst = es ∧ os.missing = [] := by
  induction fs generalizing lo es with
  | nil =>
    cases h
    exact ⟨[], .nil, rfl, rfl⟩
  | cons f fs ih =>
    obtain _ | ⟨first, children, rest⟩ := h
    obtain ⟨os, hassigned, hpage, hmissing⟩ := ih rest
    refine ⟨_, .cons_placed (.cons first children .nil) hassigned, ?_, hmissing⟩
    rw [List.map_cons, hpage]

end ScreenPages
