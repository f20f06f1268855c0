import ScreenPages.PageFile
import ScreenPages.Proofs.Renaming
import ScreenPages.Proofs.Shapes

/-!
# What a page file declares

A value declares an element if it is a record with the fields of an element, names a kind exactly,
gives a text or nothing for each attribute, and has a list of values below it that declare the
children, in order.  Nothing is said of identities: a declaration has none.  The reader of elements
accepts exactly the values that declare one, down to the limit, and what it reads is the element
that is declared.

## Main definitions

* `Element.Gives` — what the fields of a record say of an element.
* `Element.Declares` — a value declares an element, with all below it.
* `Element.plain` — an element without its identities.
* `PageFile.Declares` — a value declares a page.

## Main results

* `Element.Declares.plain_eq` — a value declares one element, up to identities.
* `Element.reads_decoder` — **the reader of elements accepts what declares one**.
* `PageFile.reads_decoder` — **the reader of pages accepts what declares one**.
-/

namespace ScreenPages

open Json

/-! ### Kinds by name -/

/-- A kind has exactly one name. -/
theorem Kind.ofName?_eq_some_iff {s : String} {k : Kind} : ofName? s = some k ↔ s = k.name := by
  constructor
  · intro h
    have hname := List.find?_some h
    exact (beq_iff_eq.mp hname).symm
  · rintro rfl
    exact ofName?_name k

namespace Element

/-! ### Declarations -/

/-- The keys of a declared element. -/
def keys : List String := ["type", "identifier", "label", "value", "children"]

/-- What the fields of a record say of an element, and what is below it.  A field that is absent
counts as `null`, and as the empty list where children are due. -/
structure Gives (fs : List (String × Value)) (e : Element) (below : List Value) : Prop where
  kind : fs.lookup "type" = some (.text e.kind.name)
  identifier : (fs.lookup "identifier").getD .null = .textOrNull e.identifier
  label : (fs.lookup "label").getD .null = .textOrNull e.label
  value : (fs.lookup "value").getD .null = .textOrNull e.value
  children : (fs.lookup "children").getD (.array []) = .array below

/-- A value declares an element: it has the fields of one and no others, and what is below it
declares the children. -/
inductive Declares : Value → Element → Prop
  | intro {v : Value} {fs : List (String × Value)} {e : Element} {vs : List Value}
    (record : v.Record keys fs) (own : Gives fs e vs)
    (below : List.Forall₂ Declares vs e.children) : Declares v e

/-- An element without its identities. -/
def plain (e : Element) : Element := e.mapIdentity fun _ => .dynamic

/-- Several elements without their identities. -/
def plainList (es : List Element) : List Element := mapIdentityList (fun _ => .dynamic) es

/-- What the fields say of an element does not depend on its identity and its children. -/
theorem Gives.congr {fs : List (String × Value)} {vs : List Value} {i j : Identity} {kind : Kind}
    {identifier label value : Option String} {es es' : List Element}
    (h : Gives fs ⟨i, kind, identifier, label, value, es⟩ vs) :
    Gives fs ⟨j, kind, identifier, label, value, es'⟩ vs :=
  ⟨h.kind, h.identifier, h.label, h.value, h.children⟩

mutual

/-- What declares an element declares it with identities of its own. -/
theorem Declares.declareAnew {v : Value} (next : Nat) :
    (e : Element) → Declares v e → Declares v (declareAnew next e)
  | ⟨_, _, _, _, _, children⟩, ⟨hrecord, hown, hbelow⟩ => by
    rw [Element.declareAnew]
    exact ⟨hrecord, hown.congr, forall₂_declares_declareAnewList (next + 1) children hbelow⟩

theorem forall₂_declares_declareAnewList {vs : List Value} (next : Nat) : (es : List Element) →
    List.Forall₂ Declares vs es → List.Forall₂ Declares vs (declareAnewList next es)
  | [], .nil => by
    rw [declareAnewList]
    exact .nil
  | e :: es, .cons h hs => by
    rw [declareAnewList]
    exact .cons (h.declareAnew next e)
      (forall₂_declares_declareAnewList (next + e.size) es hs)

end

/-- What some fields say of an element besides its identity and its children is said of one element
only. -/
theorem Gives.unique {fs : List (String × Value)} {vs vs' : List Value} {e e' : Element}
    (h : Gives fs e vs) (h' : Gives fs e' vs') :
    e.kind = e'.kind ∧ e.identifier = e'.identifier ∧ e.label = e'.label ∧ e.value = e'.value ∧
      vs = vs' := by
  have htext {o o' : Option String} (ho : Value.textOrNull o = Value.textOrNull o') : o = o' := by
    cases o <;> cases o' <;> cases ho <;> rfl
  have hkind : Value.text e.kind.name = Value.text e'.kind.name :=
    Option.some.inj (h.kind.symm.trans h'.kind)
  have hchildren : Value.array vs = Value.array vs' := h.children.symm.trans h'.children
  refine ⟨?_, htext (h.identifier.symm.trans h'.identifier), htext (h.label.symm.trans h'.label),
    htext (h.value.symm.trans h'.value), Value.array.inj hchildren⟩
  have hname := Kind.ofName?_name e.kind
  rw [Value.text.inj hkind, Kind.ofName?_name] at hname
  exact (Option.some.inj hname).symm

mutual

/-- **A value declares one element**, up to identities. -/
theorem Declares.plain_eq {v : Value} :
    (e e' : Element) → Declares v e → Declares v e' → e.plain = e'.plain
  | ⟨_, _, _, _, _, children⟩, ⟨_, _, _, _, _, children'⟩, ⟨hrecord, hown, hbelow⟩,
      ⟨hrecord', hown', hbelow'⟩ => by
    obtain rfl := hrecord.unique hrecord'
    obtain ⟨hkind, hidentifier, hlabel, hvalue, rfl⟩ := hown.unique hown'
    have hchildren := plainList_eq_of_declares children children' hbelow hbelow'
    simp only at hkind hidentifier hlabel hvalue
    subst hkind hidentifier hlabel hvalue
    rw [plain, plain, mapIdentity, mapIdentity]
    exact congrArg _ hchildren

theorem plainList_eq_of_declares {vs : List Value} : (es es' : List Element) →
    List.Forall₂ Declares vs es → List.Forall₂ Declares vs es' → plainList es = plainList es'
  | [], [], _, _ => rfl
  | [], _ :: _, .nil, h' => by cases h'
  | _ :: _, [], h, .nil => by cases h
  | e :: es, e' :: es', .cons h hs, .cons h' hs' => by
    rw [plainList, plainList, mapIdentityList, mapIdentityList]
    exact congrArg₂ _ (Declares.plain_eq e e' h h') (plainList_eq_of_declares es es' hs hs')

end

/-! ### Reading an element -/

section Draft

variable {child : Decoder Element} {R : Value → Element → Prop} {limit : Nat}
  {fs : List (String × Value)} {s : Draft} {e : Element} {vs : List Value}

/-- The fields of a declared element with the shapes of their values. -/
def shapedFields (child : Decoder Element) (R : Value → Element → Prop) :
    List (ShapedField Draft) :=
  [ { name := "type", get := Draft.kind, set := fun a s => { s with kind := some a }
      decoder := exactKind, shape := fun v k => v = .text k.name },
    { name := "identifier", get := Draft.identifier
      set := fun a s => { s with identifier := some a }
      decoder := .optional Decoder.text, absence := .anywhere
      shape := fun v o => v = .textOrNull o },
    { name := "label", get := Draft.label, set := fun a s => { s with label := some a }
      decoder := .optional Decoder.text, absence := .anywhere
      shape := fun v o => v = .textOrNull o },
    { name := "value", get := Draft.value, set := fun a s => { s with value := some a }
      decoder := .optional Decoder.text, absence := .anywhere
      shape := fun v o => v = .textOrNull o },
    { name := "children", get := Draft.children, set := fun a s => { s with children := some a }
      decoder := .list child, absence := .anywhere
      shape := Value.ListOf R } ]

theorem apart_shapedFields : ShapedField.Apart (shapedFields child R) where
  names := (by decide : keys.Nodup)
  get_set := by simp [shapedFields]
  get_set_of_ne := by simp [shapedFields]

/-- Kinds are read if they are named exactly. -/
theorem reads_exactKind : Decoder.Reads limit exactKind fun v k => v = .text k.name := by
  refine (Decoder.reads_textWith limit "a string" _).of_iff fun v k => ?_
  constructor
  · rintro ⟨s, rfl, h⟩
    cases hk : Kind.ofName? s with
    | none => rw [hk] at h; cases h
    | some k' =>
      rw [hk] at h
      cases h
      rw [Kind.ofName?_eq_some_iff.mp hk]
  · rintro rfl
    exact ⟨k.name, rfl, by rw [Kind.ofName?_name]⟩

/-- The fields of an element are read if its children are, two levels below. -/
theorem reads_shapedFields (h : ∀ n, limit = n + 1 → Decoder.Reads n child R) :
    ∀ c ∈ shapedFields child R, Decoder.Reads limit c.decoder c.shape := by
  simp only [shapedFields, List.forall_mem_cons]
  exact ⟨reads_exactKind, Decoder.reads_optional_text limit, Decoder.reads_optional_text limit,
    Decoder.reads_optional_text limit, Decoder.Reads.list h, List.forall_mem_nil _⟩

/-- A draft shows the fields of an element. -/
def Shows (child : Decoder Element) (R : Value → Element → Prop) (fs : List (String × Value))
    (s : Draft) : Prop :=
  ∀ c ∈ shapedFields child R, c.Shows fs s

theorem shows_iff : Shows child R fs s ↔
    Option.Rel (fun v k => v = .text k.name) (fs.lookup "type") s.kind ∧
    Option.Rel (fun v o => v = .textOrNull o) (fs.lookup "identifier") s.identifier ∧
    Option.Rel (fun v o => v = .textOrNull o) (fs.lookup "label") s.label ∧
    Option.Rel (fun v o => v = .textOrNull o) (fs.lookup "value") s.value ∧
    Option.Rel (Value.ListOf R) (fs.lookup "children") s.children := by
  simp [Shows, shapedFields, ShapedField.Shows]

/-- The element of a draft is what the fields say, with what its children are read from. -/
theorem exists_gives_of_ofDraft (h : Shows child R fs s) (he : ofDraft s = .ok e) :
    ∃ vs, Gives fs e vs ∧ List.Forall₂ R vs e.children := by
  obtain ⟨hkind, hidentifier, hlabel, hvalue, hchildren⟩ := shows_iff.mp h
  obtain ⟨kind, hsome, he⟩ := Except.exists_of_bind_eq_ok he
  cases he
  rw [orMissing_eq_ok_iff.mp hsome] at hkind
  obtain ⟨vs, hvs, hR⟩ := exists_getD_array_of_rel hchildren
  have hkind := eq_some_of_rel (f := fun k : Kind => .text k.name) hkind
  exact ⟨vs, ⟨hkind, getD_null_of_rel hidentifier, getD_null_of_rel hlabel,
    getD_null_of_rel hvalue, hvs⟩, hR⟩

/-- What fields say of an element can be in a draft. -/
theorem Gives.exists_shows (h : Gives fs e vs) (hR : List.Forall₂ R vs e.children) :
    ∃ s, Shows child R fs s := by
  refine ⟨⟨some e.kind, _, _, _, _⟩, shows_iff.mpr ⟨?_, rel_of_getD_null h.identifier,
    rel_of_getD_null h.label, rel_of_getD_null h.value, rel_of_getD_array h.children hR⟩⟩
  rw [h.kind]
  exact .some rfl

/-- **An element is read if it is declared**, given that its children are, two levels below. -/
theorem reads_decoderWith (h : ∀ n, limit = n + 2 → Decoder.Reads n child R) :
    Decoder.Reads limit (decoderWith child) fun v e =>
      ∃ fs, v.Record keys fs ∧ ∃ vs, Gives fs e vs ∧ List.Forall₂ R vs e.children := by
  have hapart : ShapedField.Apart (shapedFields child R) := apart_shapedFields
  have hstart : Shows child R [] {} := shows_iff.mpr ⟨.none, .none, .none, .none, .none⟩
  refine hapart.reads_record ofDraft (fun n hn => reads_shapedFields fun m hm => h m ?_) hstart
    exists_gives_of_ofDraft ?_ ?_ ?_
  · rw [hn, hm]
  · rintro fs e ⟨vs, hgives, hR⟩
    exact hgives.exists_shows hR
  · rintro fs e ⟨vs, hgives, -⟩
    have htype := List.isSome_lookup_iff.mp (Option.isSome_of_eq_some hgives.kind)
    simpa [shapedFields] using htype
  · rintro fs e s ⟨vs, hgives, -⟩ hshows
    obtain ⟨kind, hkind⟩ : ∃ kind, s.kind = some kind := by
      rw [← Option.isSome_iff_exists, ← (shows_iff.mp hshows).1.isSome_eq, hgives.kind]
      rfl
    exact ⟨_, by simp only [ofDraft, hkind, orMissing]; rfl⟩

end Draft

theorem declares_iff {v : Value} {e : Element} :
    Declares v e ↔
      ∃ fs, v.Record keys fs ∧ ∃ vs, Gives fs e vs ∧ List.Forall₂ Declares vs e.children :=
  ⟨fun ⟨hrecord, hown, hbelow⟩ => ⟨_, hrecord, _, hown, hbelow⟩,
    fun ⟨_, hrecord, _, hown, hbelow⟩ => ⟨hrecord, hown, hbelow⟩⟩

/-- **Elements are read exactly if they are declared**, as deep as the limit allows. -/
theorem reads_decoder : (limit : Nat) → Decoder.Reads limit decoder Declares
  | 0 => ((reads_decoderWith fun _ h => by omega).of_iff fun _ _ => declares_iff.symm).congr rfl
  | 1 => ((reads_decoderWith fun _ h => by omega).of_iff fun _ _ => declares_iff.symm).congr rfl
  | limit + 2 => by
    refine ((reads_decoderWith fun n hn => ?_).of_iff fun _ _ => declares_iff.symm).congr rfl
    obtain rfl : limit = n := by omega
    exact (reads_decoder limit).congr rfl

end Element

namespace PageFile

/-! ### Pages -/

/-- The keys of a declared page. -/
def keys : List String := ["name", "application", "elements"]

/-- What the fields of a record say of a page, and what declares its elements. -/
structure Gives (fs : List (String × Value)) (p : PageFile) (below : List Value) : Prop where
  name : fs.lookup "name" = some (.text p.name)
  application : (fs.lookup "application").getD .null = .textOrNull p.application
  elements : (fs.lookup "elements").getD (.array []) = .array below

/-- A value declares a page: it has the fields of one and no others, and what is below it declares
the elements. -/
def Declares (v : Value) (p : PageFile) : Prop :=
  ∃ fs, v.Record keys fs ∧ ∃ vs, Gives fs p vs ∧ List.Forall₂ Element.Declares vs p.elements

/-- The fields of a declared page with the shapes of their values. -/
def shapedFields : List (ShapedField Draft) :=
  [ { name := "name", get := Draft.name, set := fun a s => { s with name := some a }
      decoder := Decoder.text, shape := fun v t => v = .text t },
    { name := "application", get := Draft.application
      set := fun a s => { s with application := some a }
      decoder := .optional Decoder.text, absence := .anywhere
      shape := fun v o => v = .textOrNull o },
    { name := "elements", get := Draft.elements, set := fun a s => { s with elements := some a }
      decoder := .list Element.decoder, absence := .anywhere
      shape := Value.ListOf Element.Declares } ]

theorem apart_shapedFields : ShapedField.Apart shapedFields where
  names := by decide
  get_set := by simp [shapedFields]
  get_set_of_ne := by simp [shapedFields]

theorem reads_shapedFields (limit : Nat) :
    ∀ c ∈ shapedFields, Decoder.Reads limit c.decoder c.shape := by
  simp only [shapedFields, List.forall_mem_cons]
  exact ⟨Decoder.reads_textNamed limit "a string", Decoder.reads_optional_text limit,
    Decoder.Reads.list fun n _ => Element.reads_decoder n, List.forall_mem_nil _⟩

theorem shows_iff {fs : List (String × Value)} {s : Draft} :
    (∀ c ∈ shapedFields, c.Shows fs s) ↔
      Option.Rel (fun v t => v = .text t) (fs.lookup "name") s.name ∧
      Option.Rel (fun v o => v = .textOrNull o) (fs.lookup "application") s.application ∧
      Option.Rel (Value.ListOf Element.Declares) (fs.lookup "elements") s.elements := by
  simp [shapedFields, ShapedField.Shows]

/-- The page of a draft. -/
def ofDraft (s : Draft) : Except Fault PageFile := do
  return ⟨← orMissing "name" s.name, s.application.join,
    Element.declareAnewList 1 (s.elements.getD [])⟩

/-- **Pages are read exactly if they are declared**, as deep as the limit allows. -/
theorem reads_decoder (limit : Nat) : Decoder.Reads limit decoder Declares := by
  refine apart_shapedFields.reads_record ofDraft (fun n _ => reads_shapedFields n)
    (shows_iff.mpr ⟨.none, .none, .none⟩) ?_ ?_ ?_ ?_
  · intro fs s p hshows hp
    obtain ⟨hname, happlication, helements⟩ := shows_iff.mp hshows
    obtain ⟨name, hsome, hp⟩ := Except.exists_of_bind_eq_ok hp
    cases hp
    rw [orMissing_eq_ok_iff.mp hsome] at hname
    obtain ⟨vs, hvs, hbelow⟩ := exists_getD_array_of_rel helements
    exact ⟨vs, ⟨eq_some_of_rel hname, getD_null_of_rel happlication, hvs⟩,
      Element.forall₂_declares_declareAnewList 1 _ hbelow⟩
  · rintro fs p ⟨vs, hgives, hbelow⟩
    refine ⟨⟨some p.name, _, _⟩, shows_iff.mpr ⟨?_, rel_of_getD_null hgives.application,
      rel_of_getD_array hgives.elements hbelow⟩⟩
    rw [hgives.name]
    exact .some rfl
  · rintro fs p ⟨vs, hgives, -⟩
    have hname := List.isSome_lookup_iff.mp (Option.isSome_of_eq_some hgives.name)
    simpa [shapedFields] using hname
  · rintro fs p s ⟨vs, hgives, -⟩ hshows
    obtain ⟨name, hname⟩ : ∃ name, s.name = some name := by
      rw [← Option.isSome_iff_exists, ← (shows_iff.mp hshows).1.isSome_eq, hgives.name]
      rfl
    exact ⟨_, by simp only [ofDraft, hname, orMissing]; rfl⟩

/-- **A value declares one page**, up to the identities of its elements. -/
theorem Declares.patterns_eq {v : Value} {p q : PageFile} (hp : Declares v p) (hq : Declares v q) :
    Element.patterns p.elements = Element.patterns q.elements := by
  obtain ⟨fs, hrecord, vs, hown, hbelow⟩ := hp
  obtain ⟨gs, hrecord', ws, hown', hbelow'⟩ := hq
  obtain rfl := hrecord.unique hrecord'
  obtain rfl := Value.array.inj (hown.elements.symm.trans hown'.elements)
  have hplain := Element.plainList_eq_of_declares _ _ hbelow hbelow'
  rw [← Element.patterns_mapIdentityList (fun _ => .dynamic) p.elements,
    ← Element.patterns_mapIdentityList (fun _ => .dynamic) q.elements]
  exact congrArg _ hplain

end PageFile

end ScreenPages
