/-!
# Kinds of interface elements

Every node of a screen has a **kind**.  The kinds form a fixed enumeration with a numeric
code, the position in the enumeration, and a name in upper camel case, which is how dumps
and page files spell it.  Reading a name comes in two strengths: `Kind.ofName?` knows the
exact names only, `Kind.ofDumpName` reads any other name as the generic container.

## Main definitions

* `Kind`, `Kind.all` — the enumeration and its members in order.
* `Kind.name`, `Kind.ofName?`, `Kind.ofDumpName` — names, and the two ways to read one.
* `Kind.code`, `Kind.ofCode?` — numeric codes.
* `Kind.isContainer` — whether declared elements of the kind usually hold others.
-/

namespace ScreenPages

/-- The kind of an interface element, in the order of the numeric codes. -/
inductive Kind where
  | any | other | application | group | window | sheet | drawer | alert | dialog | button
  | radioButton | radioGroup | checkBox | disclosureTriangle | popUpButton | comboBox
  | menuButton | toolbarButton | popover | keyboard | key | navigationBar | tabBar | tabGroup
  | toolbar | statusBar | table | tableRow | tableColumn | outline | outlineRow | browser
  | collectionView | slider | pageIndicator | progressIndicator | activityIndicator
  | segmentedControl | picker | pickerWheel | switch | toggle | link | image | icon
  | searchField | scrollView | scrollBar | staticText | textField | secureTextField | datePicker
  | textView | menu | menuItem | menuBar | menuBarItem | map | webView | incrementArrow
  | decrementArrow | timeline | ratingIndicator | valueIndicator | splitGroup | splitter
  | relevanceIndicator | colorWell | helpTag | matte | dockItem | ruler | rulerMarker | grid
  | levelIndicator | cell | layoutArea | layoutItem | handle | stepper | tab | touchBar
  | statusItem
  deriving DecidableEq, Repr, Inhabited

namespace Kind

/-- Every kind, in the order of the codes. -/
def all : List Kind :=
  [.any, .other, .application, .group, .window, .sheet, .drawer, .alert, .dialog, .button,
    .radioButton, .radioGroup, .checkBox, .disclosureTriangle, .popUpButton, .comboBox,
    .menuButton, .toolbarButton, .popover, .keyboard, .key, .navigationBar, .tabBar, .tabGroup,
    .toolbar, .statusBar, .table, .tableRow, .tableColumn, .outline, .outlineRow, .browser,
    .collectionView, .slider, .pageIndicator, .progressIndicator, .activityIndicator,
    .segmentedControl, .picker, .pickerWheel, .switch, .toggle, .link, .image, .icon,
    .searchField, .scrollView, .scrollBar, .staticText, .textField, .secureTextField,
    .datePicker, .textView, .menu, .menuItem, .menuBar, .menuBarItem, .map, .webView,
    .incrementArrow, .decrementArrow, .timeline, .ratingIndicator, .valueIndicator, .splitGroup,
    .splitter, .relevanceIndicator, .colorWell, .helpTag, .matte, .dockItem, .ruler,
    .rulerMarker, .grid, .levelIndicator, .cell, .layoutArea, .layoutItem, .handle, .stepper,
    .tab, .touchBar, .statusItem]

/-- The name of a kind in dumps and page files. -/
def name : Kind → String
  | .any => "Any"
  | .other => "Other"
  | .application => "Application"
  | .group => "Group"
  | .window => "Window"
  | .sheet => "Sheet"
  | .drawer => "Drawer"
  | .alert => "Alert"
  | .dialog => "Dialog"
  | .button => "Button"
  | .radioButton => "RadioButton"
  | .radioGroup => "RadioGroup"
  | .checkBox => "CheckBox"
  | .disclosureTriangle => "DisclosureTriangle"
  | .popUpButton => "PopUpButton"
  | .comboBox => "ComboBox"
  | .menuButton => "MenuButton"
  | .toolbarButton => "ToolbarButton"
  | .popover => "Popover"
  | .keyboard => "Keyboard"
  | .key => "Key"
  | .navigationBar => "NavigationBar"
  | .tabBar => "TabBar"
  | .tabGroup => "TabGroup"
  | .toolbar => "Toolbar"
  | .statusBar => "StatusBar"
  | .table => "Table"
  | .tableRow => "TableRow"
  | .tableColumn => "TableColumn"
  | .outline => "Outline"
  | .outlineRow => "OutlineRow"
  | .browser => "Browser"
  | .collectionView => "CollectionView"
  | .slider => "Slider"
  | .pageIndicator => "PageIndicator"
  | .progressIndicator => "ProgressIndicator"
  | .activityIndicator => "ActivityIndicator"
  | .segmentedControl => "SegmentedControl"
  | .picker => "Picker"
  | .pickerWheel => "PickerWheel"
  | .switch => "Switch"
  | .toggle => "Toggle"
  | .link => "Link"
  | .image => "Image"
  | .icon => "Icon"
  | .searchField => "SearchField"
  | .scrollView => "ScrollView"
  | .scrollBar => "ScrollBar"
  | .staticText => "StaticText"
  | .textField => "TextField"
  | .secureTextField => "SecureTextField"
  | .datePicker => "DatePicker"
  | .textView => "TextView"
  | .menu => "Menu"
  | .menuItem => "MenuItem"
  | .menuBar => "MenuBar"
  | .menuBarItem => "MenuBarItem"
  | .map => "Map"
  | .webView => "WebView"
  | .incrementArrow => "IncrementArrow"
  | .decrementArrow => "DecrementArrow"
  | .timeline => "Timeline"
  | .ratingIndicator => "RatingIndicator"
  | .valueIndicator => "ValueIndicator"
  | .splitGroup => "SplitGroup"
  | .splitter => "Splitter"
  | .relevanceIndicator => "RelevanceIndicator"
  | .colorWell => "ColorWell"
  | .helpTag => "HelpTag"
  | .matte => "Matte"
  | .dockItem => "DockItem"
  | .ruler => "Ruler"
  | .rulerMarker => "RulerMarker"
  | .grid => "Grid"
  | .levelIndicator => "LevelIndicator"
  | .cell => "Cell"
  | .layoutArea => "LayoutArea"
  | .layoutItem => "LayoutItem"
  | .handle => "Handle"
  | .stepper => "Stepper"
  | .tab => "Tab"
  | .touchBar => "TouchBar"
  | .statusItem => "StatusItem"

/-- The numeric code of a kind: its position in the enumeration. -/
def code (k : Kind) : Nat := k.ctorIdx

/-- The kind with a given code. -/
def ofCode? (n : Nat) : Option Kind := all[n]?

/-- The kind with exactly this name. -/
def ofName? (s : String) : Option Kind := all.find? fun k => k.name == s

/-- How dumps are read: a name outside the enumeration stands for the generic container. -/
def ofDumpName (s : String) : Kind := (ofName? s).getD .other

/-- Why a name is refused where an exact kind name is due. -/
def unknownMessage (s : String) : String := "unknown element kind '" ++ s ++ "'"

/-- Whether declared elements of this kind usually hold other declarations. -/
def isContainer : Kind → Bool
  | .other | .group | .window | .sheet | .alert | .navigationBar | .tabBar | .table
  | .collectionView | .scrollView | .cell => true
  | _ => false

/-- Kinds in the order of their codes; kinds with the same code keep their places. -/
def sort (ks : List Kind) : List Kind := ks.mergeSort fun a b => a.code ≤ b.code

/-- A kind is read back from its name. -/
theorem ofName?_name (k : Kind) : ofName? k.name = some k := by cases k <;> decide

/-- A kind is read back from its name in a dump. -/
theorem ofDumpName_name (k : Kind) : ofDumpName k.name = k := by
  rw [ofDumpName, ofName?_name]; rfl

end Kind

end ScreenPages
