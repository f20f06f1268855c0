import ScreenPages.Description
import ScreenPages.Proofs.Cutting
import ScreenPages.Proofs.Search
import ScreenPages.Proofs.Standing

/-!
# What a description keeps

A description has an element for each node that it keeps, and the element asks for what the
node shows.  The nodes that are kept side by side follow one another, and a node of one of the
kinds that are kept is one of them or stands below one.  Texts without placeholders are
templates that only they match, so that all elements are read and each node is as its element
asks.

## Main definitions

* `Node.Described`, `Node.describedList` — the nodes that a description keeps, with their
  elements.
* `Node.Described.Shown` — the element of a node that is kept.
* `Step.Plain` — no text that a description uses has a placeholder.

## Main results

* `Node.map_element_describedList` — the elements are those of the description.
* `Node.exists_described_of_stands` — which nodes are kept.
* `Node.exists_ofElements_describeList` — a description is read without fault.
* `Node.Described.Shown.matches_of_matches` — what a container takes for a node it takes for
  all that this node is taken for.
-/

namespace ScreenPages

variable {engine : Template.Engine}

/-! ### Plain texts -/

/-- A plain text is as it asks. -/
theorem Fits.plain {s : String} (h : Template.Plain s) : Fits (some s) (some s) [] :=
  .asked (Template.ofText_plain h) (if_pos rfl)

/-- The texts of a node that a description uses have no placeholders: the label and, of a text
field, the value. -/
structure Step.Plain (s : Step) : Prop where
  label : Template.Plain s.label
  value : s.kind = .textField ∨ s.kind = .secureTextField →
    ∀ t, s.value = some t → Template.Plain t

namespace Node

/-- Trees side by side are the first of them, given by what is below its root, and the
others. -/
theorem list_induction {motive : List Node → Prop} (nil : motive [])
    (cons : ∀ n ns, motive n.children → motive ns → motive (n :: ns)) (ns : List Node) :
    motive ns := by
  induction hsize : sizeList ns using Nat.strongRecOn generalizing ns with
  | ind size ih =>
    cases ns with
    | nil => exact nil
    | cons n ns =>
      have hn := size_eq n
      rw [sizeList] at hsize
      exact cons n ns (ih _ (by omega) _ rfl) (ih _ (by omega) _ rfl)

/-! ### The nodes that are kept -/

/-- A node that a description keeps, with its position and its element. -/
structure Described where
  position : Nat
  node : Node
  element : Element

mutual

/-- The nodes that the description of a tree keeps at the top, when the tree is listed from
position `p` on. -/
def described (p : Nat) : Node → List Described
  | n@⟨step, _, _, children⟩ =>
    match share step with
    | .leaf e => [⟨p, n, e⟩]
    | .container e => [⟨p, n, { e with children := describeList children }⟩]
    | .below => describedList (p + 1) children

/-- The nodes that the description of several trees keeps at the top, when they are listed
from position `p` on. -/
def describedList (p : Nat) : List Node → List Described
  | [] => []
  | n :: ns => described p n ++ describedList (p + n.size) ns

end

@[simp] theorem describedList_nil (p : Nat) : describedList p [] = [] := by rw [describedList]

@[simp] theorem describedList_cons (p : Nat) (n : Node) (ns : List Node) :
    describedList p (n :: ns) = described p n ++ describedList (p + n.size) ns := by
  rw [describedList]

/-- The element of a node that is kept is the one that is made from its step, a container with
what is kept below it. -/
inductive Described.Shown : Described → Prop
  | leaf {p : Nat} {n : Node} {e : Element} (h : share n.step = .leaf e) : Shown ⟨p, n, e⟩
  | container {p : Nat} {n : Node} {e : Element} (h : share n.step = .container e) :
      Shown ⟨p, n, { e with children := describeList n.children }⟩

/-- A node is kept by itself, or its description is that of what is below it. -/
theorem described_cases (p : Nat) (n : Node) :
    (share n.step ≠ .below ∧ ∃ x : Described, x.Shown ∧ x.position = p ∧ x.node = n ∧
        described p n = [x] ∧ describe n = [x.element]) ∨
      (share n.step = .below ∧ described p n = describedList (p + 1) n.children ∧
        describe n = describeList n.children) := by
  obtain ⟨step, frame, hittable, children⟩ := n
  rw [described, describe]
  cases hshare : share step with
  | leaf e => exact .inl ⟨by simp, ⟨p, _, e⟩, .leaf hshare, rfl, rfl, rfl, rfl⟩
  | container e => exact .inl ⟨by simp, ⟨p, _, _⟩, .container hshare, rfl, rfl, rfl, rfl⟩
  | below => exact .inr ⟨rfl, rfl, rfl⟩

variable {p q : Nat} {d : Node} {ns : List Node} {path : List Step}

/-- **The elements of the nodes that are kept are those of the description.** -/
theorem map_element_describedList (p : Nat) (ns : List Node) :
    (describedList p ns).map Described.element = describeList ns := by
  induction ns using list_induction generalizing p with
  | nil => rw [describedList_nil, describeList, List.map_nil]
  | cons n ns ih_children ih =>
    rw [describedList_cons, List.map_append, ih, describeList]
    rcases described_cases p n with ⟨-, x, -, -, -, hdescribed, hdescribe⟩ |
      ⟨-, hdescribed, hdescribe⟩
    · rw [hdescribed, hdescribe]
      rfl
    · rw [hdescribed, hdescribe, ih_children]

/-- Each node that is kept stands at its position among the trees. -/
theorem exists_stands_of_mem_describedList {x : Described} (hx : x ∈ describedList p ns) :
    x.Shown ∧ ∃ q path, x.position = p + q ∧ Stands ns q path x.node := by
  induction ns using list_induction generalizing p with
  | nil =>
    rw [describedList_nil] at hx
    cases hx
  | cons n ns ih_children ih =>
    rw [describedList_cons, List.mem_append] at hx
    rcases hx with hx | hx
    · rcases described_cases p n with ⟨-, y, hy, hp, hn, hdescribed, -⟩ | ⟨-, hdescribed, -⟩
      · rw [hdescribed, List.mem_singleton] at hx
        subst hx
        refine ⟨hy, 0, [n.step], hp, ?_⟩
        rw [hn]
        exact .root n ns
      · rw [hdescribed] at hx
        obtain ⟨hshown, q, path, hposition, hstands⟩ := ih_children hx
        refine ⟨hshown, q + 1, n.step :: path, ?_, .inner hstands⟩
        omega
    · obtain ⟨hshown, q, path, hposition, hstands⟩ := ih hx
      refine ⟨hshown, n.size + q, path, ?_, .behind hstands⟩
      omega

/-- The nodes that are kept side by side follow one another, each behind all that is below the
one before. -/
theorem pairwise_describedList (p : Nat) (ns : List Node) :
    (describedList p ns).Pairwise fun x y => x.position + x.node.size ≤ y.position := by
  induction ns using list_induction generalizing p with
  | nil =>
    rw [describedList_nil]
    exact .nil
  | cons n ns ih_children ih =>
    rw [describedList_cons, List.pairwise_append]
    refine ⟨?_, ih _, ?_⟩
    · rcases described_cases p n with ⟨-, x, -, -, -, hdescribed, -⟩ | ⟨-, hdescribed, -⟩
      · rw [hdescribed]
        exact List.pairwise_singleton _ _
      · rw [hdescribed]
        exact ih_children _
    · intro x hx y hy
      have hx : x ∈ describedList p [n] := by simpa using hx
      obtain ⟨-, q, path, hposition, hstands⟩ := exists_stands_of_mem_describedList hx
      obtain ⟨-, q', path', hposition', -⟩ := exists_stands_of_mem_describedList hy
      have hle := hstands.add_size_le
      rw [sizeList_singleton] at hle
      omega

/-- **A node of a kind that is kept is kept, or it stands below a node that is.** -/
theorem exists_described_of_stands (h : Stands ns q path d) (hd : share d.step ≠ .below) (p : Nat) :
    ∃ x ∈ describedList p ns, x.position = p + q ∨
      x.position < p + q ∧ ∃ q' path', Stands x.node.children q' path' d := by
  induction ns using list_induction generalizing p q path with
  | nil => cases h
  | cons n ns ih_children ih =>
    rw [describedList_cons]
    cases h with
    | root =>
      rcases described_cases p d with ⟨-, x, -, hp, -, hdescribed, -⟩ | ⟨hbelow, -, -⟩
      · exact ⟨x, by rw [hdescribed]; exact List.mem_cons_self, .inl hp⟩
      · exact absurd hbelow hd
    | @inner _ _ _ q path h =>
      rcases described_cases p n with ⟨-, x, -, hp, hn, hdescribed, -⟩ | ⟨-, hdescribed, -⟩
      · refine ⟨x, by rw [hdescribed]; exact List.mem_cons_self, .inr ⟨by omega, q, path, ?_⟩⟩
        rw [hn]
        exact h
      · obtain ⟨x, hx, hposition⟩ := ih_children h (p + 1)
        rw [Nat.add_assoc, Nat.add_comm 1] at hposition
        exact ⟨x, List.mem_append_left _ (by rw [hdescribed]; exact hx), hposition⟩
    | @behind _ _ _ q path h =>
      obtain ⟨x, hx, hposition⟩ := ih h (p + n.size)
      rw [Nat.add_assoc] at hposition
      exact ⟨x, List.mem_append_right _ hx, hposition⟩

/-! ### What the elements ask for -/

/-- An element asks for the kind of a node and for attributes that the node has. -/
structure Asks (s : Step) (e : Element) : Prop where
  kind : e.kind = s.kind
  kept : share s ≠ .below
  identifier : ∀ i, e.identifier = some i → i = s.identifier
  label : ∀ t, e.label = some t → t = s.label
  value : ∀ t, e.value = some t →
    (s.kind = .textField ∨ s.kind = .secureTextField) ∧ s.value = some t

theorem nonempty?_eq_some_iff {s t : String} : nonempty? s = some t ↔ t = s ∧ s ≠ "" := by
  unfold nonempty?
  split
  case isTrue h => simp [h]
  case isFalse h => simp [h, eq_comm]

/-- Whether a node is kept is a matter of its kind. -/
theorem share_eq_below_congr {s t : Step} (h : s.kind = t.kind) :
    share s = .below ↔ share t = .below := by
  obtain ⟨kind, _, _, _⟩ := s
  obtain ⟨_, _, _, _⟩ := t
  obtain rfl : kind = _ := h
  cases kind <;> simp [share]

/-- A node that is kept by itself is asked for what it shows. -/
theorem asks_of_leaf {s : Step} {e : Element} (h : share s = .leaf e) :
    Asks s e ∧ e.children = [] := by
  have hkept : share s ≠ .below := by simp [h]
  obtain ⟨kind, identifier, label, value⟩ := s
  cases kind <;> simp only [share, reduceCtorEq, Share.leaf.injEq] at h
  all_goals
    subst h
    refine ⟨⟨rfl, hkept, ?_, ?_, ?_⟩, rfl⟩
    all_goals simp +contextual [nonempty?_eq_some_iff, Option.bind_eq_some_iff]

/-- A container is asked for what it shows, but not for texts. -/
theorem asks_of_container {s : Step} {e : Element} (h : share s = .container e) :
    Asks s e ∧ e.label = none ∧ e.value = none := by
  have hkept : share s ≠ .below := by simp [h]
  obtain ⟨kind, identifier, label, value⟩ := s
  cases kind <;> simp only [share, reduceCtorEq, Share.container.injEq] at h
  all_goals
    subst h
    refine ⟨⟨rfl, hkept, ?_, ?_, ?_⟩, rfl, rfl⟩
    all_goals simp [nonempty?_eq_some_iff]

/-- If the identifier of a container is asked for, so is that of any other of the same kind
that has the same one. -/
theorem identifier_eq_of_container {s t : Step} {e e' : Element} (h : share s = .container e)
    (h' : share t = .container e') (hkind : s.kind = t.kind)
    (hidentifier : e.identifier = some t.identifier) : e'.identifier = some t.identifier := by
  obtain ⟨kind, identifier, label, value⟩ := s
  obtain ⟨_, _, _, _⟩ := t
  obtain rfl : kind = _ := hkind
  cases kind <;> simp only [share, reduceCtorEq, Share.container.injEq] at h h'
  all_goals
    subst h h'
    simp_all [nonempty?_eq_some_iff]

/-- A node of the kind of a container is a container. -/
theorem exists_share_eq_container {s t : Step} {e : Element} (h : share s = .container e)
    (hkind : s.kind = t.kind) : ∃ e', share t = .container e' := by
  obtain ⟨kind, _, _, _⟩ := s
  obtain ⟨_, _, _, _⟩ := t
  obtain rfl : kind = _ := hkind
  cases kind <;> simp only [share, reduceCtorEq] at h
  all_goals exact ⟨_, rfl⟩

/-- Of a node that is kept the element asks for what it shows. -/
theorem Described.Shown.asks {x : Described} (h : x.Shown) : Asks x.node.step x.element := by
  cases h with
  | leaf h => exact (asks_of_leaf h).1
  | container h =>
    obtain ⟨⟨hkind, hkept, hidentifier, hlabel, hvalue⟩, -, -⟩ := asks_of_container h
    exact ⟨hkind, hkept, hidentifier, hlabel, hvalue⟩

/-- An element that has others below it is made from a container, and these describe what is
below the node. -/
theorem Described.Shown.container_of_children {x : Described} (h : x.Shown)
    (hchildren : x.element.children ≠ []) :
    ∃ e, share x.node.step = .container e ∧
      x.element = { e with children := describeList x.node.children } := by
  cases h with
  | leaf h => exact absurd (asks_of_leaf h).2 hchildren
  | container h => exact ⟨_, h, rfl⟩

/-- A node that is as an element asks has the kind of the node that the element is made
from. -/
theorem Asks.kind_eq {s t : Step} {e : Element} {c : List Capture} (h : Asks s e)
    (hm : e.Matches t c) : s.kind = t.kind := by
  have hany : s.kind ≠ .any := by
    intro hany
    refine h.kept ?_
    obtain ⟨_, _, _, _⟩ := s
    obtain rfl : _ = Kind.any := hany
    rfl
  rcases hm.kind with hkind | hkind
  · rw [h.kind] at hkind
    exact absurd hkind hany
  · rw [← hkind, h.kind]

/-- A node whose texts are plain is as its element asks. -/
theorem Asks.matches_self {s : Step} {e : Element} (h : Asks s e) (hs : s.Plain) :
    e.Matches s [] where
  kind := .inr h.kind
  identifier := h.identifier
  texts := by
    refine ⟨[], [], ?_, ?_, rfl⟩
    · cases hlabel : e.label with
      | none => exact .unasked _
      | some t =>
        rw [h.label t hlabel]
        exact .plain hs.label
    · cases hvalue : e.value with
      | none => exact .unasked _
      | some t =>
        obtain ⟨hkind, hs'⟩ := h.value t hvalue
        rw [hs']
        exact .plain (hs.value hkind t hs')

/-- The templates of an element that is made from plain texts are read. -/
theorem Asks.exists_matcher {s : Step} {e : Element} (h : Asks s e) (hs : s.Plain) :
    ∃ m, Matcher.ofElement e = .ok m := by
  have hread : ∀ source : Option String, (∀ t, source = some t → Template.Plain t) →
      ∃ t, Matcher.templateOf? source = .ok t := by
    intro source hplain
    cases source with
    | none => exact ⟨none, rfl⟩
    | some t =>
      refine ⟨some ⟨[], t.toList⟩, ?_⟩
      rw [Matcher.templateOf?, Template.ofText_plain (hplain t rfl)]
      rfl
  obtain ⟨label, hlabel⟩ := hread e.label fun t ht => by
    rw [h.label t ht]
    exact hs.label
  obtain ⟨value, hvalue⟩ := hread e.value fun t ht =>
    hs.value (h.value t ht).1 t (h.value t ht).2
  refine ⟨⟨e.kind, e.identifier, label, value⟩, ?_⟩
  rw [Matcher.ofElement, hlabel, hvalue]
  rfl

/-- **What a container takes for a node it takes for all that this node is taken for.** -/
theorem Described.Shown.matches_of_matches {x y : Described} (hx : x.Shown) (hy : y.Shown)
    (hchildren : y.element.children ≠ []) {c c' : List Capture} {s : Step}
    (hnode : y.element.Matches x.node.step c) (hs : x.element.Matches s c') :
    y.element.Matches s [] := by
  obtain ⟨e, hshare, helement⟩ := hy.container_of_children hchildren
  obtain ⟨-, hlabel, hvalue⟩ := asks_of_container hshare
  have hkind := hy.asks.kind_eq hnode
  have hkind' := hx.asks.kind_eq hs
  refine ⟨.inr (hy.asks.kind.trans (hkind.trans hkind')), ?_, [], [], ?_, ?_, rfl⟩
  · -- the identifier is asked for of the node, and so by the element of the node
    intro i hi
    obtain rfl := hnode.identifier i hi
    obtain ⟨e', hshare'⟩ := exists_share_eq_container hshare hkind
    rw [helement] at hi
    have hidentifier := identifier_eq_of_container hshare hshare' hkind hi
    refine hs.identifier _ ?_
    cases hx with
    | leaf h =>
      rw [h] at hshare'
      cases hshare'
    | container h =>
      rw [h] at hshare'
      cases hshare'
      exact hidentifier
  · rw [helement, hlabel]
    exact .unasked _
  · rw [helement, hvalue]
    exact .unasked _

end Node

/-! ### Reading a description -/

namespace Expectation

/-- Elements whose templates are all read have matchers. -/
theorem exists_mapM_of_ofElements {es : List Element} {xs : List Expectation}
    (h : ofElements es = .ok xs) : ∃ ms, es.mapM Matcher.ofElement = .ok ms := by
  induction es generalizing xs with
  | nil => exact ⟨[], rfl⟩
  | cons e es ih =>
    obtain ⟨y, ys, -, hy, hys⟩ := ofElements_cons_eq_ok h
    obtain ⟨-, hown, -, -⟩ := ofElement_eq_ok hy
    obtain ⟨ms, hms⟩ := ih hys
    refine ⟨y.own :: ms, ?_⟩
    rw [List.mapM_cons, hown, hms]
    rfl

/-- An element is read if its own templates and those of all below it are. -/
theorem exists_ofElement {e : Element} (hown : ∃ m, Matcher.ofElement e = .ok m)
    (hchildren : ∃ xs, ofElements e.children = .ok xs) : ∃ x, ofElement e = .ok x := by
  obtain ⟨m, hm⟩ := hown
  obtain ⟨xs, hxs⟩ := hchildren
  obtain ⟨ms, hms⟩ := exists_mapM_of_ofElements hxs
  obtain ⟨identity, kind, identifier, label, value, children⟩ := e
  simp only at hxs hms
  refine ⟨⟨⟨identity, kind, identifier, label, value, children⟩, m, ms, xs⟩, ?_⟩
  rw [ofElement, hm, hms, hxs]
  rfl

theorem exists_ofElements_append {es fs : List Element} (hes : ∃ xs, ofElements es = .ok xs)
    (hfs : ∃ xs, ofElements fs = .ok xs) : ∃ xs, ofElements (es ++ fs) = .ok xs := by
  obtain ⟨xs, hxs⟩ := hes
  obtain ⟨ys, hys⟩ := hfs
  induction es generalizing xs with
  | nil => exact ⟨ys, hys⟩
  | cons e es ih =>
    obtain ⟨z, zs, -, hz, hzs⟩ := ofElements_cons_eq_ok hxs
    obtain ⟨ws, hws⟩ := ih zs hzs
    refine ⟨z :: ws, ?_⟩
    rw [List.cons_append, ofElements, hz, hws]
    rfl

end Expectation

/-- **A description of plain trees is read without fault.** -/
theorem Node.exists_ofElements_describeList {ns : List Node}
    (h : ∀ q path d, Stands ns q path d → d.step.Plain) :
    ∃ xs, Expectation.ofElements (describeList ns) = .ok xs := by
  induction ns using list_induction with
  | nil => exact ⟨[], by rw [describeList, Expectation.ofElements]⟩
  | cons n ns ih_children ih =>
    have hchildren := ih_children fun q path d hd => h _ _ _ (.inner hd)
    have hbehind := ih fun q path d hd => h _ _ _ (.behind hd)
    rw [describeList]
    refine Expectation.exists_ofElements_append ?_ hbehind
    rcases described_cases 0 n with ⟨-, x, hx, -, rfl, -, hdescribe⟩ | ⟨-, -, hdescribe⟩
    · have hbelow : ∃ xs, Expectation.ofElements x.element.children = .ok xs := by
        by_cases hnone : x.element.children = []
        · rw [hnone]
          exact ⟨[], by rw [Expectation.ofElements]⟩
        · obtain ⟨e, -, helement⟩ := hx.container_of_children hnone
          rw [helement]
          exact hchildren
      have hplain := h _ _ _ (.root x.node ns)
      obtain ⟨y, hy⟩ := Expectation.exists_ofElement (hx.asks.exists_matcher hplain) hbelow
      rw [hdescribe]
      exact ⟨[y], by rw [Expectation.ofElements, Expectation.ofElements, hy]; rfl⟩
    · rw [hdescribe]
      exact hchildren

end ScreenPages
