import Mathlib.Tactic.SplitIfs
import ScreenPages.Json.Token
import ScreenPages.PageSource

/-!
# Printed source can be read in one way

The source of a page shows all that the page declares, however its texts look: a quoted text ends
at its first quote that is not escaped, a builder call at the bracket behind its argument, and the
lines of the children of an element are told from the line that closes them by their indentation.
So each part of the source is read in one way whatever follows it, and two pages with the same
source declare the same.

What the source does not show are identities, and whether a static text without a label gives
none or the empty one.

## Main definitions

* `Text.readChar` — the character that is written at the front of the inside of a quoted text.
* `Element.shown` — an element as its source shows it.
* `PageSource.builder`, `PageSource.argument` — the parts of a constructor.
* `PageSource.Opens` — a text goes on with a certain call.
* `PageSource.below`, `PageSource.topLines` — the parts for the children of an element, and for the
  elements at the top of a page.

## Main results

* `Text.readChar_quotedChar` — every character is read back.
* `Text.quotedChars_append_inj` — a quoted text is read in one way.
* `PageSource.ofElement_shown` — elements that show the same have the same source.
* `PageSource.ofElement_append_inj` — the source of an element is read in one way.
* `PageSource.source_eq_iff` — the source of a page determines what the page declares.
-/

namespace List

/-- What stands in front of the first occurrence of a separator, and what follows it. -/
theorem append_cons_inj_of_first {α : Type} {x : α} {as bs r s : List α} (ha : x ∉ as)
    (hb : x ∉ bs) (h : as ++ x :: r = bs ++ x :: s) : as = bs ∧ r = s := by
  induction as generalizing bs with
  | nil =>
    cases bs with
    | nil => exact ⟨rfl, (List.cons.inj h).2⟩
    | cons b bs => exact absurd (List.mem_cons.mpr (.inl (List.cons.inj h).1)) hb
  | cons a as ih =>
    cases bs with
    | nil => exact absurd (List.mem_cons.mpr (.inl (List.cons.inj h).1.symm)) ha
    | cons b bs =>
      obtain ⟨rfl, hrest⟩ := List.cons.inj h
      obtain ⟨rfl, rfl⟩ := ih (fun hx => ha (List.mem_cons_of_mem _ hx))
        (fun hx => hb (List.mem_cons_of_mem _ hx)) hrest
      exact ⟨rfl, rfl⟩

end List

namespace ScreenPages

namespace Text

/-! ### Quoted text -/

/-- The number that hexadecimal digits write. -/
def hexNumber (ds : List Char) : Nat :=
  ds.foldl (fun n c => 16 * n + (Json.Token.hexValue? c).getD 0) 0

/-- The character that is written at the front of the inside of a quoted text, and what follows
it. -/
def readChar : List Char → Option (Char × List Char)
  | '\\' :: '0' :: cs => some ('\x00', cs)
  | '\\' :: 't' :: cs => some ('\t', cs)
  | '\\' :: 'r' :: cs => some ('\r', cs)
  | '\\' :: 'n' :: cs => some ('\n', cs)
  | '\\' :: '\\' :: cs => some ('\\', cs)
  | '\\' :: '"' :: cs => some ('"', cs)
  | '\\' :: 'u' :: '{' :: cs =>
    some (Char.ofNat (hexNumber (cs.takeWhile (· ≠ '}'))), (cs.dropWhile (· ≠ '}')).drop 1)
  | '\\' :: _ => none
  | c :: cs => some (c, cs)
  | [] => none

/-- A number is read back from its hexadecimal digits. -/
theorem hexNumber_toDigits (n : Nat) : hexNumber (Nat.toDigits 16 n) = n := by
  have hdigit : ∀ d < 16, (Json.Token.hexValue? (Nat.digitChar d)).getD 0 = d := by decide
  induction n using Nat.strongRecOn with
  | ind n ih =>
    rw [Nat.toDigits_eq_if (by decide)]
    split
    · rename_i hlt
      simp [hexNumber, hdigit n hlt]
    · rename_i hle
      have hquotient : hexNumber (Nat.toDigits 16 (n / 16)) = n / 16 :=
        ih _ (Nat.div_lt_self (by omega) (by decide))
      have hrest := hdigit (n % 16) (Nat.mod_lt n (by decide))
      rw [hexNumber] at hquotient ⊢
      rw [List.foldl_append, hquotient, List.foldl_cons, List.foldl_nil, hrest]
      exact Nat.div_add_mod n 16

/-- No hexadecimal digit is a brace. -/
theorem brace_notMem_toDigits (n : Nat) : '}' ∉ Nat.toDigits 16 n := by
  have hdigit : ∀ d < 16, '}' ≠ Nat.digitChar d := by decide
  induction n using Nat.strongRecOn with
  | ind n ih =>
    rw [Nat.toDigits_eq_if (by decide)]
    split
    · rename_i hlt
      rw [List.mem_singleton]
      exact hdigit n hlt
    · rename_i hle
      rw [List.mem_append, List.mem_singleton, not_or]
      exact ⟨ih _ (Nat.div_lt_self (by omega) (by decide)), hdigit _ (Nat.mod_lt n (by decide))⟩

/-- **Every character is read back** from how it is written between quotes. -/
theorem readChar_quotedChar (c : Char) (r : List Char) :
    readChar (quotedChar c ++ r) = some (c, r) := by
  unfold quotedChar
  split_ifs with h₁ h₂ h₃ h₄ h₅ h₆ h₇
  · rw [h₁]; rfl
  · rw [h₂]; rfl
  · rw [h₃]; rfl
  · rw [h₄]; rfl
  · rw [h₅]; rfl
  · rw [h₆]; rfl
  · -- the digits go up to the brace
    have hdigits : ∀ d ∈ hexCode c, decide (d ≠ '}') = true := by
      intro d hd
      refine decide_eq_true ?_
      rintro rfl
      exact brace_notMem_toDigits c.toNat hd
    simp only [List.cons_append, List.nil_append, List.append_assoc, readChar,
      List.takeWhile_append_of_pos hdigits, List.dropWhile_append_of_pos hdigits]
    simp [hexCode, hexNumber_toDigits]
  · simp [readChar, h₅]

/-- How a character is written does not begin with the quote. -/
theorem exists_quotedChar_eq_cons (c : Char) : ∃ x l, quotedChar c = x :: l ∧ x ≠ '"' := by
  unfold quotedChar
  split_ifs with h₁ h₂ h₃ h₄ h₅ h₆ h₇
  · exact ⟨_, _, rfl, by decide⟩
  · exact ⟨_, _, rfl, by decide⟩
  · exact ⟨_, _, rfl, by decide⟩
  · exact ⟨_, _, rfl, by decide⟩
  · exact ⟨_, _, rfl, by decide⟩
  · exact ⟨_, _, rfl, by decide⟩
  · exact ⟨_, _, rfl, by decide⟩
  · exact ⟨_, _, rfl, h₆⟩

/-- **A quoted text is read in one way**, whatever follows it. -/
theorem quotedChars_append_inj {cs ds r s : List Char}
    (h : quotedChars cs ++ r = quotedChars ds ++ s) : cs = ds ∧ r = s := by
  replace h : cs.flatMap quotedChar ++ '"' :: r = ds.flatMap quotedChar ++ '"' :: s := by
    simpa [quotedChars] using h
  induction cs generalizing ds with
  | nil =>
    cases ds with
    | nil => exact ⟨rfl, (List.cons.inj h).2⟩
    | cons d ds =>
      obtain ⟨x, l, hd, hx⟩ := exists_quotedChar_eq_cons d
      rw [List.flatMap_cons, hd] at h
      exact absurd (List.cons.inj h).1.symm hx
  | cons c cs ih =>
    cases ds with
    | nil =>
      obtain ⟨x, l, hc, hx⟩ := exists_quotedChar_eq_cons c
      rw [List.flatMap_cons, hc] at h
      exact absurd (List.cons.inj h).1 hx
    | cons d ds =>
      have hread := congrArg readChar h
      simp only [List.flatMap_cons, List.append_assoc, readChar_quotedChar, Option.some.injEq,
        Prod.mk.injEq] at hread
      obtain ⟨rfl, hrest⟩ := hread
      obtain ⟨rfl, rfl⟩ := ih hrest
      exact ⟨rfl, rfl⟩

/-- Two quoted texts are told apart, whatever follows them. -/
theorem quoted_append_inj {a b : String} {r s : List Char}
    (h : (quoted a).toList ++ r = (quoted b).toList ++ s) : a = b ∧ r = s := by
  rw [quoted, quoted, String.toList_ofList, String.toList_ofList] at h
  obtain ⟨htexts, hrest⟩ := quotedChars_append_inj h
  exact ⟨String.toList_inj.mp htexts, hrest⟩

end Text

namespace Element

/-! ### What source shows -/

mutual

/-- An element as its source shows it: without its identity, and with the empty label if it is a
static text that gives none. -/
def shown : Element → Element
  | ⟨_, kind, identifier, label, value, children⟩ =>
    ⟨.dynamic, kind, identifier, if kind = .staticText then some (label.getD "") else label, value,
      shownList children⟩

/-- Several elements as their source shows them. -/
def shownList : List Element → List Element
  | [] => []
  | e :: es => shown e :: shownList es

end

/-- Several elements as their source shows them are shown one by one. -/
theorem shownList_eq_map (es : List Element) : shownList es = es.map shown := by
  induction es with
  | nil => rw [shownList, List.map_nil]
  | cons e es ih => rw [shownList, ih, List.map_cons]

end Element

namespace PageSource

/-! ### Constructors -/

/-- The name of the constructor for a kind. -/
def builder : Kind → String
  | .staticText => "static_text"
  | .button => "button"
  | .alert => "alert"
  | .navigationBar => "navigation_bar"
  | .tabBar => "tab_bar"
  | .collectionView => "collection_view"
  | .cell => "cell"
  | .textField => "text_field"
  | .secureTextField => "secure_text_field"
  | .switch => "switch"
  | .other => "other"
  | _ => "new"

/-- The argument of the constructor for a kind and a label. -/
def argument (k : Kind) (label : Option String) : String :=
  if k = .staticText then Text.quoted (label.getD "")
  else if builder k = "new" then "ElementKind::" ++ k.name
  else ""

theorem constructor_eq (e : Element) :
    constructor e = "Element::" ++ builder e.kind ++ "(" ++ argument e.kind e.label ++ ")" := by
  obtain ⟨_, kind, _, _, _, _⟩ := e
  cases kind <;> rfl

/-- The characters of a constructor with what follows it. -/
theorem toList_constructor_append (e : Element) (r : List Char) :
    (constructor e).toList ++ r = "Element::".toList ++ ((builder e.kind).toList
      ++ '(' :: ((argument e.kind e.label).toList ++ ')' :: r)) := by
  rw [constructor_eq]
  simp

theorem bracket_notMem_builder (k : Kind) : '(' ∉ (builder k).toList := by
  cases k <;> decide

theorem bracket_notMem_name (k : Kind) : ')' ∉ k.name.toList := by
  cases k <;> decide

/-- A static text has a constructor of its own. -/
theorem ne_staticText_of_builder_eq {k : Kind} (h : builder k = "new") : k ≠ .staticText := by
  rintro rfl
  exact absurd h (by decide)

/-- A kind with a constructor of its own is known by it. -/
theorem kind_eq_of_builder_eq {k k' : Kind} (h : builder k = builder k')
    (hown : builder k ≠ "new") : k = k' := by
  have hfind : ∀ k, builder k ≠ "new" →
      (Kind.all.find? fun k' => builder k' == builder k) = some k := by
    intro k
    cases k <;> decide
  have hsame := hfind k hown
  rw [h, hfind k' (h ▸ hown)] at hsame
  exact (Option.some.inj hsame).symm

/-- A kind is known by its name. -/
theorem kind_eq_of_name_eq {k k' : Kind} (h : k.name = k'.name) : k = k' := by
  have hread := Kind.ofName?_name k
  rw [h, Kind.ofName?_name] at hread
  exact (Option.some.inj hread).symm

/-- **A constructor is read in one way**: it shows the kind, and the label of a static text. -/
theorem constructor_append_inj {e e' : Element} {r s : List Char}
    (h : (constructor e).toList ++ r = (constructor e').toList ++ s) :
    e.kind = e'.kind ∧ (e.kind = .staticText → e.label.getD "" = e'.label.getD "") ∧ r = s := by
  rw [toList_constructor_append, toList_constructor_append] at h
  obtain ⟨hbuilders, hrest⟩ := List.append_cons_inj_of_first (bracket_notMem_builder _)
    (bracket_notMem_builder _)
    (List.append_cancel_left h)
  replace hbuilders := String.toList_inj.mp hbuilders
  by_cases hnew : builder e.kind = "new"
  · -- the kind is given by its name
    have hnew' : builder e'.kind = "new" := hbuilders.symm.trans hnew
    have hother := ne_staticText_of_builder_eq hnew
    have hother' := ne_staticText_of_builder_eq hnew'
    rw [argument, if_neg hother, if_pos hnew, argument, if_neg hother', if_pos hnew'] at hrest
    simp only [String.toList_append, List.append_assoc] at hrest
    obtain ⟨hnames, hrest⟩ := List.append_cons_inj_of_first (bracket_notMem_name _)
      (bracket_notMem_name _) (List.append_cancel_left hrest)
    exact ⟨kind_eq_of_name_eq (String.toList_inj.mp hnames), fun h => absurd h hother, hrest⟩
  · have hkind := kind_eq_of_builder_eq hbuilders hnew
    refine ⟨hkind, ?_⟩
    rw [← hkind] at hrest
    by_cases hstatic : e.kind = .staticText
    · rw [argument, if_pos hstatic, argument, if_pos hstatic] at hrest
      obtain ⟨hlabel, hrest⟩ := Text.quoted_append_inj hrest
      exact ⟨fun _ => hlabel, (List.cons.inj hrest).2⟩
    · rw [argument, if_neg hstatic, if_neg hnew, argument, if_neg hstatic, if_neg hnew] at hrest
      exact ⟨fun h => absurd h hstatic, (List.cons.inj hrest).2⟩

/-! ### Calls -/

/-- A text goes on with a certain call. -/
def Opens (name : String) (r : List Char) : Prop := '.' :: (name.toList ++ ['(']) <+: r

/-- A text that does not begin with a dot goes on with no call. -/
theorem not_opens_of_head? {name : String} {r : List Char} (h : r.head? ≠ some '.') :
    ¬ Opens name r := by
  rintro ⟨s, rfl⟩
  exact h rfl

/-- A call is a call of no other name. -/
theorem not_opens_cons {name other : String} (hne : name ≠ other) (hname : '(' ∉ name.toList)
    (hother : '(' ∉ other.toList) (r : List Char) :
    ¬ Opens name ('.' :: (other.toList ++ '(' :: r)) := by
  rintro ⟨s, hs⟩
  have hcall : name.toList ++ '(' :: s = other.toList ++ '(' :: r := by simpa using hs
  exact hne (String.toList_inj.mp (List.append_cons_inj_of_first hname hother hcall).1)

/-- The characters of a call with what follows it. -/
theorem toList_setter_some_append (name a : String) (r : List Char) :
    (setter name (some a)).toList ++ r
      = '.' :: (name.toList ++ '(' :: ((Text.quoted a).toList ++ ')' :: r)) := by
  simp [setter]

/-- A text that may begin with another call goes on as it does without. -/
theorem not_opens_setter_append {name other : String} (hne : name ≠ other)
    (hname : '(' ∉ name.toList) (hother : '(' ∉ other.toList) (a : Option String) {r : List Char}
    (h : ¬ Opens name r) : ¬ Opens name ((setter other a).toList ++ r) := by
  cases a with
  | none => exact h
  | some a =>
    rw [toList_setter_some_append]
    exact not_opens_cons hne hname hother _

/-- **A call that may be left out is read in one way** if no such call follows it. -/
theorem setter_append_inj {name : String} {a b : Option String} {r s : List Char}
    (hr : ¬ Opens name r) (hs : ¬ Opens name s)
    (h : (setter name a).toList ++ r = (setter name b).toList ++ s) : a = b ∧ r = s := by
  have hopens : ∀ a r, Opens name ((setter name (some a)).toList ++ r) := by
    intro a r
    rw [toList_setter_some_append]
    exact ⟨(Text.quoted a).toList ++ ')' :: r, by simp⟩
  have hnone : ∀ r, (setter name none).toList ++ r = r := fun _ => rfl
  cases a with
  | none =>
    rw [hnone] at h
    cases b with
    | none => exact ⟨rfl, h⟩
    | some b => exact absurd (h ▸ hopens b s) hr
  | some a =>
    cases b with
    | none =>
      rw [hnone] at h
      exact absurd (h ▸ hopens a r) hs
    | some b =>
      rw [toList_setter_some_append, toList_setter_some_append] at h
      have hquoted := List.append_cancel_left (List.cons.inj h).2
      obtain ⟨rfl, hrest⟩ := Text.quoted_append_inj (List.cons.inj hquoted).2
      exact ⟨rfl, (List.cons.inj hrest).2⟩

/-! ### Elements -/

/-- The part of an expression that declares the children. -/
def below (depth : Nat) : List Element → String
  | [] => ""
  | c :: cs => ".with_children([\n" ++ ofElements (depth + 1) (c :: cs) ++ indent depth ++ "])"

theorem below_cons (depth : Nat) (c : Element) (cs : List Element) :
    below depth (c :: cs)
      = ".with_children([\n" ++ ofElements (depth + 1) (c :: cs) ++ indent depth ++ "])" := rfl

theorem ofElement_eq (depth : Nat) (e : Element) :
    ofElement depth e = constructor e ++ setters e ++ below depth e.children := by
  obtain ⟨_, _, _, _, _, children⟩ := e
  cases children with
  | nil =>
    rw [ofElement]
    rfl
  | cons c cs =>
    rw [ofElement, below_cons, ofElements]
    simp only [String.append_assoc]

/-- The characters of an expression with what follows it. -/
theorem toList_ofElement_append (depth : Nat) (e : Element) (r : List Char) :
    (ofElement depth e).toList ++ r = (constructor e).toList
      ++ ((setter "with_identifier" e.identifier).toList
      ++ ((setter "with_label" (if e.kind = .staticText then none else e.label)).toList
      ++ ((setter "with_value" e.value).toList ++ ((below depth e.children).toList ++ r)))) := by
  simp [ofElement_eq, setters]

theorem toList_childrenCall : ".with_children([\n".toList
    = '.' :: ("with_children".toList ++ ['(', '[', '\n']) := by
  decide

/-- The characters of the part for the children with what follows it. -/
theorem toList_below_cons_append (depth : Nat) (c : Element) (cs : List Element) (r : List Char) :
    (below depth (c :: cs)).toList ++ r = ".with_children([\n".toList
      ++ ((ofElements (depth + 1) (c :: cs)).toList
        ++ ((indent depth).toList ++ ']' :: ')' :: r)) := by
  have hclose : "])".toList = [']', ')'] := by decide
  rw [below_cons]
  simp only [String.toList_append, hclose, List.append_assoc, List.cons_append, List.nil_append]

/-- The characters of the lines for some elements with what follows them. -/
theorem toList_ofElements_cons_append (depth : Nat) (e : Element) (es : List Element)
    (r : List Char) :
    (ofElements depth (e :: es)).toList ++ r = (indent depth).toList ++ ((ofElement depth e).toList
      ++ ',' :: '\n' :: ((ofElements depth es).toList ++ r)) := by
  simp [ofElements]

theorem toList_indent_succ (depth : Nat) :
    (indent (depth + 1)).toList = (indent depth).toList ++ [' ', ' ', ' ', ' '] := by
  rw [indent, indent, String.toList_ofList, String.toList_ofList, Nat.mul_succ,
    ← List.replicate_append_replicate]
  rfl

/-- What follows the attributes of an element goes on with no call for an attribute. -/
theorem not_opens_below_append {name : String} (hne : name ≠ "with_children")
    (hname : '(' ∉ name.toList) (depth : Nat) (cs : List Element) {r : List Char}
    (hr : r.head? ≠ some '.') : ¬ Opens name ((below depth cs).toList ++ r) := by
  cases cs with
  | nil => exact not_opens_of_head? hr
  | cons c cs =>
    rw [toList_below_cons_append, toList_childrenCall, List.cons_append, List.append_assoc]
    exact not_opens_cons hne hname (by decide) _

/-- The attributes of an element are read in one way if no call follows the element. -/
theorem attributes_append_inj {depth : Nat} {e e' : Element} {r s : List Char}
    (hr : r.head? ≠ some '.') (hs : s.head? ≠ some '.')
    (h : (ofElement depth e).toList ++ r = (ofElement depth e').toList ++ s) :
    e.kind = e'.kind ∧ (e.kind = .staticText → e.label.getD "" = e'.label.getD "") ∧
      e.identifier = e'.identifier ∧ (e.kind ≠ .staticText → e.label = e'.label) ∧
      e.value = e'.value ∧
      (below depth e.children).toList ++ r = (below depth e'.children).toList ++ s := by
  rw [toList_ofElement_append, toList_ofElement_append] at h
  obtain ⟨hkind, hstatic, h⟩ := constructor_append_inj h
  obtain ⟨hidentifier, h⟩ := setter_append_inj
    (not_opens_setter_append (by decide) (by decide) (by decide) _
      (not_opens_setter_append (by decide) (by decide) (by decide) _
        (not_opens_below_append (by decide) (by decide) _ _ hr)))
    (not_opens_setter_append (by decide) (by decide) (by decide) _
      (not_opens_setter_append (by decide) (by decide) (by decide) _
        (not_opens_below_append (by decide) (by decide) _ _ hs))) h
  obtain ⟨hlabel, h⟩ := setter_append_inj
    (not_opens_setter_append (by decide) (by decide) (by decide) _
      (not_opens_below_append (by decide) (by decide) _ _ hr))
    (not_opens_setter_append (by decide) (by decide) (by decide) _
      (not_opens_below_append (by decide) (by decide) _ _ hs)) h
  obtain ⟨hvalue, h⟩ := setter_append_inj (not_opens_below_append (by decide) (by decide) _ _ hr)
    (not_opens_below_append (by decide) (by decide) _ _ hs) h
  refine ⟨hkind, hstatic, hidentifier, ?_, hvalue, h⟩
  intro hother
  rwa [if_neg hother, if_neg (hkind ▸ hother)] at hlabel

/-- The part for the children is read in one way if the lines for them are and no call follows
it. -/
theorem below_append_inj {depth : Nat} {cs cs' : List Element} {r s : List Char}
    (hlines : ∀ {r s : List Char},
      (ofElements (depth + 1) cs).toList ++ ((indent depth).toList ++ ']' :: r)
        = (ofElements (depth + 1) cs').toList ++ ((indent depth).toList ++ ']' :: s) →
      Element.shownList cs = Element.shownList cs' ∧ r = s)
    (hr : r.head? ≠ some '.') (hs : s.head? ≠ some '.')
    (h : (below depth cs).toList ++ r = (below depth cs').toList ++ s) :
    Element.shownList cs = Element.shownList cs' ∧ r = s := by
  cases cs with
  | nil =>
    cases cs' with
    | nil => exact ⟨rfl, List.append_cancel_left h⟩
    | cons c' cs' =>
      rw [toList_below_cons_append, toList_childrenCall] at h
      exact absurd (congrArg List.head? h) hr
  | cons c cs =>
    cases cs' with
    | nil =>
      rw [toList_below_cons_append, toList_childrenCall] at h
      exact absurd (congrArg List.head? h).symm hs
    | cons c' cs' =>
      rw [toList_below_cons_append, toList_below_cons_append] at h
      obtain ⟨hchildren, hrest⟩ := hlines (List.append_cancel_left h)
      exact ⟨hchildren, (List.cons.inj hrest).2⟩

mutual

/-- **The source of an element is read in one way** if no call follows it. -/
theorem ofElement_append_inj (depth : Nat) : (e e' : Element) → ∀ {r s : List Char},
    r.head? ≠ some '.' → s.head? ≠ some '.' →
    (ofElement depth e).toList ++ r = (ofElement depth e').toList ++ s →
    e.shown = e'.shown ∧ r = s
  | ⟨_, kind, identifier, label, value, children⟩,
    ⟨_, kind', identifier', label', value', children'⟩ => by
    intro hr hs h
    obtain ⟨hkind, hstatic, hidentifier, hlabel, hvalue, hbelow⟩ := attributes_append_inj hr hs h
    simp only at hkind hstatic hidentifier hlabel hvalue hbelow
    obtain ⟨hchildren, hrest⟩ := below_append_inj
      (ofElements_append_inj depth children children') hr hs hbelow
    refine ⟨?_, hrest⟩
    subst hkind hidentifier hvalue
    rw [Element.shown, Element.shown, hchildren]
    by_cases hk : kind = .staticText
    · rw [if_pos hk, if_pos hk, hstatic hk]
    · rw [if_neg hk, if_neg hk, hlabel hk]

/-- The lines for some elements are read in one way up to the line that closes them. -/
theorem ofElements_append_inj (depth : Nat) : (es es' : List Element) → ∀ {r s : List Char},
    (ofElements (depth + 1) es).toList ++ ((indent depth).toList ++ ']' :: r)
      = (ofElements (depth + 1) es').toList ++ ((indent depth).toList ++ ']' :: s) →
    Element.shownList es = Element.shownList es' ∧ r = s
  | [], [] => fun h => ⟨rfl, (List.cons.inj (List.append_cancel_left (List.append_cancel_left h))).2⟩
  | [], e :: es => by
    intro h
    rw [toList_ofElements_cons_append, toList_indent_succ, List.append_assoc] at h
    exact absurd (List.cons.inj (List.append_cancel_left h)).1 (by decide)
  | e :: es, [] => by
    intro h
    rw [toList_ofElements_cons_append, toList_indent_succ, List.append_assoc] at h
    exact absurd (List.cons.inj (List.append_cancel_left h)).1 (by decide)
  | e :: es, e' :: es' => by
    intro h
    rw [toList_ofElements_cons_append, toList_ofElements_cons_append] at h
    obtain ⟨hfirst, hrest⟩ := ofElement_append_inj (depth + 1) e e' (by simp) (by simp)
      (List.append_cancel_left h)
    obtain ⟨hlines, hrest⟩ := ofElements_append_inj depth es es'
      (List.cons.inj (List.cons.inj hrest).2).2
    rw [Element.shownList, Element.shownList, hfirst, hlines]
    exact ⟨rfl, hrest⟩

end

mutual

/-- **Elements that show the same have the same source.** -/
theorem ofElement_shown (depth : Nat) : (e : Element) → ofElement depth e.shown = ofElement depth e
  | ⟨_, kind, identifier, label, value, children⟩ => by
    have hconstructor : ∀ i cs, constructor ⟨i, kind, identifier,
        if kind = .staticText then some (label.getD "") else label, value, cs⟩
          = constructor ⟨.dynamic, kind, identifier, label, value, children⟩ := by
      intro i cs
      rw [constructor_eq, constructor_eq]
      by_cases hk : kind = .staticText
      · simp only [hk, if_true, argument, Option.getD_some]
      · simp only [hk, if_false]
    have hsetters : ∀ i cs, setters ⟨i, kind, identifier,
        if kind = .staticText then some (label.getD "") else label, value, cs⟩
          = setters ⟨.dynamic, kind, identifier, label, value, children⟩ := by
      intro i cs
      by_cases hk : kind = .staticText
      · simp only [setters, hk, if_true]
      · simp only [setters, hk, if_false]
    rw [Element.shown, ofElement_eq, ofElement_eq, hconstructor, hsetters]
    simp only [below_shownList depth children]
    rfl

theorem below_shownList (depth : Nat) :
    (cs : List Element) → below depth (Element.shownList cs) = below depth cs
  | [] => by rw [Element.shownList]
  | c :: cs => by
    rw [Element.shownList, below_cons, below_cons, ofElements, ofElements,
      ofElement_shown (depth + 1) c, ofElements_shownList (depth + 1) cs]

theorem ofElements_shownList (depth : Nat) :
    (es : List Element) → ofElements depth (Element.shownList es) = ofElements depth es
  | [] => by rw [Element.shownList]
  | e :: es => by
    rw [Element.shownList, ofElements, ofElements, ofElement_shown depth e,
      ofElements_shownList depth es]

end

/-! ### Pages -/

/-- The lines for the elements at the top of a page. -/
def topLines (page : List Element) : String :=
  String.join (page.map fun e => "            .with(" ++ ofElement 3 e ++ ")\n")

/-- The characters of the lines for the elements at the top with what follows them. -/
theorem toList_topLines_cons_append (e : Element) (es : List Element) (r : List Char) :
    (topLines (e :: es)).toList ++ r = "            .with(".toList ++ ((ofElement 3 e).toList
      ++ ')' :: '\n' :: ((topLines es).toList ++ r)) := by
  have hclose : ")\n".toList = [')', '\n'] := by decide
  simp only [topLines, List.map_cons, String.toList_join, List.flatMap_cons, String.toList_append,
    hclose, List.append_assoc, List.cons_append, List.nil_append]

/-- **The lines for the elements at the top are read in one way** up to the closing braces. -/
theorem topLines_append_inj {page page' : List Element}
    (h : (topLines page).toList ++ "    \x7d\n\x7d".toList
      = (topLines page').toList ++ "    \x7d\n\x7d".toList) :
    Element.shownList page = Element.shownList page' := by
  have hend : "    \x7d\n\x7d".toList = [' ', ' ', ' ', ' ', '\x7d', '\n', '\x7d'] := by decide
  have hline : "            .with(".toList
      = [' ', ' ', ' ', ' '] ++ ' ' :: "       .with(".toList := by decide
  have hnil : (topLines []).toList = [] := by decide
  rw [hend] at h
  induction page generalizing page' with
  | nil =>
    cases page' with
    | nil => rfl
    | cons e es =>
      -- a fifth space stands against the brace
      rw [toList_topLines_cons_append, hline, hnil] at h
      simp at h
  | cons e es ih =>
    cases page' with
    | nil =>
      rw [toList_topLines_cons_append, hline, hnil] at h
      simp at h
    | cons e' es' =>
      rw [toList_topLines_cons_append, toList_topLines_cons_append] at h
      obtain ⟨hfirst, hrest⟩ := ofElement_append_inj 3 e e' (by simp) (by simp)
        (List.append_cancel_left h)
      rw [Element.shownList, Element.shownList, hfirst, ih (List.cons.inj (List.cons.inj hrest).2).2]

/-- The text in front of the application of a page. -/
def applicationOpening : String :=
  "    fn application(&self) -> Option<&str> \x7b\n        Some("

/-- The text in front of the elements of a page. -/
def bodyOpening : String :=
  "    fn body(&self) -> PageDescription \x7b\n        PageDescription::new()\n"

theorem toList_applicationOpening : applicationOpening.toList = "    fn ".toList
    ++ 'a' :: "pplication(&self) -> Option<&str> \x7b\n        Some(".toList := by
  decide

theorem toList_bodyOpening : bodyOpening.toList = "    fn ".toList
    ++ 'b' :: "ody(&self) -> PageDescription \x7b\n        PageDescription::new()\n".toList := by
  decide

/-- The characters of the source of a page. -/
theorem toList_ofPage (name : String) (application : Option String) (page : List Element) :
    (ofPage name application page).toList
      = ("struct " ++ name ++ ";\n\nimpl Page for " ++ name ++ " \x7b\n").toList
        ++ (((application.map applicationPart).getD "").toList
        ++ (bodyOpening.toList ++ ((topLines page).toList ++ "    \x7d\n\x7d".toList))) := by
  simp only [ofPage, bodyOpening, topLines, String.toList_append, List.append_assoc]

/-- The characters of the part for an application with what follows it. -/
theorem toList_applicationPart_append (a : String) (r : List Char) :
    (applicationPart a).toList ++ r = applicationOpening.toList
      ++ ((Text.quoted a).toList ++ (")\n    \x7d\n\n".toList ++ r)) := by
  have hpart : applicationPart a
      = applicationOpening ++ Text.quoted a ++ ")\n    \x7d\n\n" := rfl
  rw [hpart, String.toList_append, String.toList_append, List.append_assoc, List.append_assoc]

/-- The part for an application is told from the part for the elements. -/
theorem bodyOpening_append_ne (a : String) (r s : List Char) :
    bodyOpening.toList ++ r ≠ (applicationPart a).toList ++ s := by
  rw [toList_applicationPart_append, toList_applicationOpening, toList_bodyOpening,
    List.append_assoc, List.append_assoc]
  intro h
  exact absurd (List.cons.inj (List.append_cancel_left h)).1 (by decide)

/-- The source of a page is read in one way. -/
theorem ofPage_inj {name : String} {application application' : Option String}
    {page page' : List Element} (h : ofPage name application page = ofPage name application' page') :
    application = application' ∧ Element.shownList page = Element.shownList page' := by
  replace h := congrArg String.toList h
  rw [toList_ofPage, toList_ofPage] at h
  replace h := List.append_cancel_left h
  cases application with
  | none =>
    cases application' with
    | none => exact ⟨rfl, topLines_append_inj (List.append_cancel_left (List.append_cancel_left h))⟩
    | some a' => exact absurd h (bodyOpening_append_ne a' _ _)
  | some a =>
    cases application' with
    | none => exact absurd h.symm (bodyOpening_append_ne a _ _)
    | some a' =>
      rw [Option.map_some, Option.map_some, Option.getD_some, Option.getD_some,
        toList_applicationPart_append, toList_applicationPart_append] at h
      obtain ⟨rfl, hrest⟩ := Text.quoted_append_inj (List.append_cancel_left h)
      exact ⟨rfl, topLines_append_inj (List.append_cancel_left (List.append_cancel_left hrest))⟩

/-- Pages that show the same have the same lines. -/
theorem topLines_eq_of_shownList_eq {page page' : List Element}
    (h : Element.shownList page = Element.shownList page') : topLines page = topLines page' := by
  have hshown : ∀ es : List Element, topLines es = topLines (Element.shownList es) := by
    intro es
    simp only [topLines, Element.shownList_eq_map, List.map_map, Function.comp_def,
      ofElement_shown]
  rw [hshown page, h, ← hshown page']

/-- **The source of a page determines what the page declares**: its application, and its elements
as far as source shows them, and so does the source of an element at any depth. -/
theorem source_eq_iff :
    (∀ (name : String) (application application' : Option String) (page page' : List Element),
      ofPage name application page = ofPage name application' page' ↔
        application = application' ∧ Element.shownList page = Element.shownList page') ∧
    ∀ (depth : Nat) (e e' : Element),
      ofElement depth e = ofElement depth e' ↔ e.shown = e'.shown := by
  refine ⟨?_, ?_⟩
  · intro name application application' page page'
    refine ⟨ofPage_inj, ?_⟩
    rintro ⟨rfl, hpage⟩
    have hlines := topLines_eq_of_shownList_eq hpage
    unfold topLines at hlines
    rw [ofPage, ofPage, hlines]
  · intro depth e e'
    refine ⟨?_, ?_⟩
    · intro h
      refine (ofElement_append_inj depth e e' (r := []) (s := []) (by simp) (by simp) ?_).1
      rw [h]
    · intro h
      rw [← ofElement_shown depth e, h, ofElement_shown depth e']

/-- A label that is written like a call is no call. -/
example :
    ofElement 0 ⟨.dynamic, .button, none, some "a\").with_value(\"b", none, []⟩
      ≠ ofElement 0 ⟨.dynamic, .button, none, some "a", some "b", []⟩ := by
  decide +kernel

end PageSource

end ScreenPages
