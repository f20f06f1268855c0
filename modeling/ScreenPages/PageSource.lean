import ScreenPages.Element

/-!
# Page source

A page is printed as the source text that declares it, for tests that are written against
it.  Each element is a chain of builder calls; the children of an element stand on lines of
their own, four spaces further in.

## Main definitions

* `PageSource.ofElement` — the expression for an element.
* `PageSource.ofPage` — the declaration of a whole page.
-/

namespace ScreenPages.PageSource

/-- The constructor for an element.  A static text is built from its label. -/
def constructor (e : Element) : String :=
  match e.kind with
  | .staticText => "Element::static_text(" ++ Text.quoted (e.label.getD "") ++ ")"
  | .button => "Element::button()"
  | .alert => "Element::alert()"
  | .navigationBar => "Element::navigation_bar()"
  | .tabBar => "Element::tab_bar()"
  | .collectionView => "Element::collection_view()"
  | .cell => "Element::cell()"
  | .textField => "Element::text_field()"
  | .secureTextField => "Element::secure_text_field()"
  | .switch => "Element::switch()"
  | .other => "Element::other()"
  | k => "Element::new(ElementKind::" ++ k.name ++ ")"

/-- The call that sets an attribute, if the element gives it. -/
def setter (name : String) : Option String → String
  | none => ""
  | some s => "." ++ name ++ "(" ++ Text.quoted s ++ ")"

/-- The calls after the constructor that set the attributes. -/
def setters (e : Element) : String :=
  setter "with_identifier" e.identifier
    ++ setter "with_label" (if e.kind = .staticText then none else e.label)
    ++ setter "with_value" e.value

/-- The indentation of a level. -/
def indent (depth : Nat) : String := String.ofList (List.replicate (4 * depth) ' ')

mutual

/-- The expression for an element that starts on a line of the given depth. -/
def ofElement (depth : Nat) : Element → String
  | e@⟨_, _, _, _, _, children⟩ =>
    constructor e ++ setters e ++
      match children with
      | [] => ""
      | c :: cs =>
        ".with_children([\n" ++ indent (depth + 1) ++ ofElement (depth + 1) c ++ ",\n"
          ++ ofElements (depth + 1) cs ++ indent depth ++ "])"

/-- The lines for several elements at the given depth. -/
def ofElements (depth : Nat) : List Element → String
  | [] => ""
  | e :: es => indent depth ++ ofElement depth e ++ ",\n" ++ ofElements depth es

end

/-- The part of a page declaration that names its application. -/
def applicationPart (application : String) : String :=
  "    fn application(&self) -> Option<&str> \x7b\n        Some(" ++ Text.quoted application
    ++ ")\n    \x7d\n\n"

/-- The declaration of a page with a name, perhaps for another application. -/
def ofPage (name : String) (application : Option String) (page : List Element) : String :=
  "struct " ++ name ++ ";\n\nimpl Page for " ++ name ++ " \x7b\n"
    ++ (application.map applicationPart).getD ""
    ++ "    fn body(&self) -> PageDescription \x7b\n        PageDescription::new()\n"
    ++ String.join (page.map fun e => "            .with(" ++ ofElement 3 e ++ ")\n")
    ++ "    \x7d\n\x7d"

end ScreenPages.PageSource
