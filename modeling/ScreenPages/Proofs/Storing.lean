import ScreenPages.Action
import ScreenPages.Location
import ScreenPages.Settings
import ScreenPages.Proofs.Dumps
import ScreenPages.Proofs.Numerals

/-!
# Stored records read back unchanged

Settings are kept in a file, on lines of their own and indented; queries, locations, outcomes and
actions are written without blanks.  Blanks make no difference to the tokens, so both texts are
read as the document of the value that was written.  Each record is then read member by member: a
setting that were not read would have its default without anybody being told, but none is.

Natural numbers are read back if they have 64 bits, texts whatever their characters are.  Whether a
binary real is read back *unchanged* is a question of how reals are printed; here it is a property
of the two reals of a scroll vector.

## Main definitions

* `Settings.durations`, `Action.durations` — the numbers that have to have 64 bits.
* `Action.vector` — the reals of an action.

## Main results

* `Json.Value.scan_prettyChars`, `Json.Decoder.run_pretty` — indented text is read as its document.
* `Settings.load_saved` — settings are loaded as they were saved.
* `Action.decoder_doc` — an action is read from its document.
* `read_stored` — **what is stored of a record is read as the same record.**
-/

namespace ScreenPages

open Json
open Text (Symbol symbols)
open Json.Token (scan Delimits)
open Json.Value (docs memberDocs)

/-! ### Indented text -/

namespace Json

theorem Token.Delimits.newLine {level : Nat} {ss : List Symbol} :
    Delimits ((Value.newLine level).map .char ++ ss) := by
  simp [Delimits, Value.newLine]

/-- Line breaks and indentation are passed over. -/
theorem Token.scan_newLine (level : Nat) (ss : List Symbol) :
    scan ((Value.newLine level).map .char ++ ss) = scan ss := by
  have hspaces : ∀ n, scan ((List.replicate n ' ').map .char ++ ss) = scan ss := by
    intro n
    induction n with
    | zero => rfl
    | succ n ih =>
      rw [List.replicate_succ, List.map_cons, List.cons_append, scan_of_isBlank rfl, ih]
  rw [Value.newLine, List.map_cons, List.cons_append, scan_of_isBlank rfl, hspaces]

theorem Token.scan_space (ss : List Symbol) : scan (.char ' ' :: ss) = scan ss :=
  scan_of_isBlank rfl

namespace Value

variable {rest : List Symbol}

theorem prettyItems_delimits (level : Nat) (vs : List Value) :
    Delimits ((prettyItems level vs).map .char ++ rest) := by
  cases vs with
  | nil =>
    rw [prettyItems, List.map_append, List.append_assoc]
    exact .newLine
  | cons v vs => exact .comma

theorem prettyFields_delimits (level : Nat) (fs : List (String × Value)) :
    Delimits ((prettyFields level fs).map .char ++ rest) := by
  cases fs with
  | nil =>
    rw [prettyFields, List.map_append, List.append_assoc]
    exact .newLine
  | cons f fs => exact .comma

mutual

/-- **Indented text has the tokens of its value.** -/
theorem scan_prettyChars (rest : List Symbol) (level : Nat) : (v : Value) →
    (∀ n ∈ v.numbers, n.Legible) → Delimits rest →
    scan ((prettyChars level v).map .char ++ rest) = v.tokens ++ scan rest
  | .null, h, hrest => scan_compactChars .null h hrest
  | .flag b, h, hrest => scan_compactChars (.flag b) h hrest
  | .number n, h, hrest => scan_compactChars (.number n) h hrest
  | .text s, h, hrest => scan_compactChars (.text s) h hrest
  | .array [], h, hrest => scan_compactChars (.array []) h hrest
  | .object [], h, hrest => scan_compactChars (.object []) h hrest
  | .array (v :: vs), h, _ => by
    rw [numbers, numbersOfItems, List.forall_mem_append] at h
    have hv := scan_prettyChars ((prettyItems level vs).map .char ++ rest) (level + 1) v
      h.1 (prettyItems_delimits level vs)
    have hvs := scan_prettyItems rest level v vs h.2
    simp only [prettyChars, tokens, List.map_cons, List.map_append, List.cons_append,
      List.append_assoc, Token.scan_leftBracket, Token.scan_newLine, hv, hvs]
  | .object ((k, v) :: fs), h, _ => by
    rw [numbers, numbersOfFields, List.forall_mem_append] at h
    have hv := scan_prettyChars ((prettyFields level fs).map .char ++ rest) (level + 1) v
      h.1 (prettyFields_delimits level fs)
    have hfs := scan_prettyFields rest level k v fs h.2
    simp only [prettyChars, tokens, List.map_cons, List.map_append, List.cons_append,
      List.append_assoc, Token.scan_leftBrace, Token.scan_newLine, Token.scan_textChars,
      Token.scan_colon, Token.scan_space, hv, hfs]

/-- The items after the first one complete its tokens to those of all items. -/
theorem scan_prettyItems (rest : List Symbol) (level : Nat) (v : Value) : (vs : List Value) →
    (∀ n ∈ numbersOfItems vs, n.Legible) →
    v.tokens ++ scan ((prettyItems level vs).map .char ++ rest) = itemTokens (v :: vs) ++ scan rest
  | [], _ => by
    simp only [prettyItems, itemTokens, List.map_append, List.map_cons, List.map_nil,
      List.append_assoc, List.cons_append, List.nil_append, Token.scan_newLine,
      Token.scan_rightBracket]
  | w :: vs, h => by
    rw [numbersOfItems, List.forall_mem_append] at h
    have hw := scan_prettyChars ((prettyItems level vs).map .char ++ rest) (level + 1) w
      h.1 (prettyItems_delimits level vs)
    have hvs := scan_prettyItems rest level w vs h.2
    simp only [prettyItems, itemTokens, List.map_cons, List.map_append, List.cons_append,
      List.append_assoc, Token.scan_comma, Token.scan_newLine, hw, hvs]

theorem scan_prettyFields (rest : List Symbol) (level : Nat) (k : String) (v : Value) :
    (fs : List (String × Value)) → (∀ n ∈ numbersOfFields fs, n.Legible) →
    .text (Token.piecesOf k) :: .colon ::
        (v.tokens ++ scan ((prettyFields level fs).map .char ++ rest))
      = fieldTokens ((k, v) :: fs) ++ scan rest
  | [], _ => by
    simp only [prettyFields, fieldTokens, List.map_append, List.map_cons, List.map_nil,
      List.append_assoc, List.cons_append, List.nil_append, Token.scan_newLine,
      Token.scan_rightBrace]
  | (l, w) :: fs, h => by
    rw [numbersOfFields, List.forall_mem_append] at h
    have hw := scan_prettyChars ((prettyFields level fs).map .char ++ rest) (level + 1) w
      h.1 (prettyFields_delimits level fs)
    have hfs := scan_prettyFields rest level l w fs h.2
    simp only [prettyFields, fieldTokens, List.map_cons, List.map_append, List.cons_append,
      List.append_assoc, Token.scan_comma, Token.scan_newLine, Token.scan_textChars,
      Token.scan_colon, Token.scan_space, hw, hfs]

end

/-- The symbols of indented text are the document of its value, complete. -/
theorem ofSymbols_pretty {v : Value} (h : v.Legible) :
    Doc.ofSymbols (symbols v.pretty) = (v.doc, true) := by
  have hsymbols : symbols v.pretty = (prettyChars 0 v).map .char ++ [] := by
    rw [symbols, pretty, String.toList_ofList, List.append_nil]
  refine ofSymbols_of_scan h ?_
  rw [hsymbols, scan_prettyChars [] 0 v h .nil, Token.scan_nil, List.append_nil]

end Value

namespace Decoder

/-- **Reading indented text is reading the document of its value.** -/
theorem run_pretty {α : Type} (decoder : Decoder α) {v : Value} (h : v.Legible) :
    decoder.run v.pretty = decoder nestingLimit v.doc := by
  simp only [Decoder.run, Decoder.runSymbols, Value.ofSymbols_pretty h]
  cases decoder nestingLimit v.doc <;> rfl

/-- A list is read back if each of its items is. -/
theorem list_doc_map {α : Type} {decoder : Decoder α} {limit : Nat} {json : α → Value}
    {as : List α} (h : ∀ a ∈ as, decoder limit (json a).doc = .ok a) :
    list decoder (limit + 1) (Value.array (as.map json)).doc = .ok as := by
  rw [list_doc]
  induction as with
  | nil => rfl
  | cons a as ih =>
    obtain ⟨ha, has⟩ := List.forall_mem_cons.mp h
    rw [List.map_cons, Value.docs, List.mapM_cons, ha, ih has]
    rfl

/-- A real that is read back is read as a number. -/
theorem exists_value_doc_ofFloat {x : Float} (h : Number.Exact x) (limit : Nat) :
    ∃ n, value limit (Value.ofFloat x).doc = .ok (.number n) ∧ n.toFloat = x := by
  obtain ⟨m, hscan, hread⟩ := h.exists_scan_eq
  have hdoc : (Value.ofFloat x).doc = .number m := by
    rw [Value.ofFloat, Value.doc, hscan]
    rfl
  have hvalue := hread limit
  rw [real] at hvalue
  cases hm : m.value with
  | error fault =>
    rw [hm] at hvalue
    cases hvalue
  | ok n =>
    rw [hm] at hvalue
    refine ⟨n, ?_, Except.ok.inj hvalue⟩
    rw [hdoc, value, hm]
    rfl

end Decoder

end Json

/-! ### Settings -/

namespace Settings

/-- The times of some settings. -/
def durations (s : Settings) : List Nat :=
  [s.waitTimeout, s.pollInterval, s.stableTimeout, s.stablePollInterval]

/-- The JSON of settings is legible. -/
theorem legible_json (s : Settings) : s.json.Legible := by
  intro n hn
  have hnumbers : s.json.numbers = s.durations.map .natural := rfl
  rw [hnumbers] at hn
  obtain ⟨k, -, rfl⟩ := List.mem_map.mp hn
  exact Number.legible_natural k

/-- Settings are read from their document. -/
theorem decoder_doc {s : Settings} (h : ∀ n ∈ s.durations, n < Nat.pow 2 64) (limit : Nat) :
    decoder (limit + 1) s.json.doc = .ok s := by
  simp only [durations, List.forall_mem_cons] at h
  obtain ⟨hwait, hpoll, hstable, hstablePoll, -⟩ := h
  rw [decoder, json, Decoder.record_object,
    Decoder.foldlM_member_cons rfl rfl (Decoder.natural_doc _ limit hwait),
    Decoder.foldlM_member_cons rfl rfl (Decoder.natural_doc _ limit hpoll),
    Decoder.foldlM_member_cons rfl rfl (Decoder.natural_doc _ limit hstable),
    Decoder.foldlM_member_cons rfl rfl (Decoder.natural_doc _ limit hstablePoll),
    Decoder.foldlM_member_cons rfl rfl
      (show Decoder.flag limit (Value.flag _).doc = .ok _ from rfl),
    Decoder.foldlM_member_cons rfl rfl (Decoder.text_doc limit _)]
  rfl

/-- **Settings are loaded as they were saved.** -/
theorem load_saved {s : Settings} (h : ∀ n ∈ s.durations, n < Nat.pow 2 64) :
    load (.ok s.saved.toUTF8) = s := by
  have hread : ofText s.saved = .ok s := by
    rw [ofText, saved, Decoder.run_pretty _ s.legible_json]
    exact decoder_doc h 126
  rw [load, Text.stored_toUTF8]
  simp only [hread, Except.toOption, Option.getD_some]

end Settings

/-! ### Locations and queries -/

namespace Step

/-- A step is read from its document, if one more object may be opened. -/
theorem decoder_doc (s : Step) (limit : Nat) : decoder (limit + 1) s.json.doc = .ok s := by
  have hkind := s.kind.decoder_doc limit
  obtain ⟨kind, identifier, label, value⟩ := s
  rw [decoder, json, Decoder.record_object]
  cases value with
  | none =>
    rw [jsonFields, Option.map_none, Option.toList_none, List.append_nil,
      Decoder.foldlM_member_cons rfl rfl hkind,
      Decoder.foldlM_member_cons rfl rfl (Decoder.text_doc limit identifier),
      Decoder.foldlM_member_cons rfl rfl (Decoder.text_doc limit label)]
    rfl
  | some v =>
    rw [jsonFields, Option.map_some, Option.toList_some, List.cons_append, List.cons_append,
      List.cons_append, List.nil_append,
      Decoder.foldlM_member_cons rfl rfl hkind,
      Decoder.foldlM_member_cons rfl rfl (Decoder.text_doc limit identifier),
      Decoder.foldlM_member_cons rfl rfl (Decoder.text_doc limit label),
      Decoder.foldlM_member_cons rfl rfl (Decoder.optional_text_doc limit v)]
    rfl

/-- A path is read from its document. -/
theorem list_decoder_doc (path : List Step) (limit : Nat) :
    Decoder.list decoder (limit + 2) (Value.array (path.map json)).doc = .ok path :=
  Decoder.list_doc_map fun s _ => s.decoder_doc limit

/-- There are no numbers in the JSON of a path. -/
theorem numbersOfItems_map_json (path : List Step) :
    Value.numbersOfItems (path.map json) = [] := by
  induction path with
  | nil => rfl
  | cons s path ih =>
    have hs : s.json.numbers = [] := by
      obtain ⟨kind, identifier, label, value⟩ := s
      cases value <;> rfl
    rw [List.map_cons, Value.numbersOfItems, hs, ih, List.nil_append]

end Step

namespace Location

/-- The JSON of a location is legible. -/
theorem legible_json (l : Location) : l.json.Legible := by
  intro n hn
  simp only [json, Value.ofNat, Value.numbers, Value.numbersOfFields,
    Step.numbersOfItems_map_json, List.nil_append, List.append_nil, List.mem_singleton] at hn
  rw [hn]
  exact Number.legible_natural l.index

/-- A location is read from its document. -/
theorem decoder_doc {l : Location} (h : l.index < Nat.pow 2 64) (limit : Nat) :
    decoder (limit + 3) l.json.doc = .ok l := by
  rw [decoder, json, Decoder.record_object,
    Decoder.foldlM_member_cons rfl rfl (Step.list_decoder_doc l.path limit),
    Decoder.foldlM_member_cons rfl rfl (Decoder.natural_doc _ (limit + 2) h)]
  rfl

end Location

namespace Query

/-- The JSON of a query is legible. -/
theorem legible_json (q : Query) : q.json.Legible := by
  intro n hn
  have happlication : Value.numbersOfFields
      (q.application.map fun a => ("application", Value.text a)).toList = [] := by
    cases q.application <;> rfl
  simp only [json, Value.ofNat, Value.numbers, Value.numbersOfFields_append, happlication,
    Value.numbersOfFields, Step.numbersOfItems_map_json, List.nil_append, List.append_nil,
    List.mem_singleton] at hn
  rw [hn]
  exact Number.legible_natural q.index

/-- A query is read from its document. -/
theorem decoder_doc {q : Query} (h : q.index < Nat.pow 2 64) (limit : Nat) :
    decoder (limit + 3) q.json.doc = .ok q := by
  rw [decoder, json, Decoder.record_object,
    Decoder.foldlM_member_toList_append rfl rfl
      (fun a _ => Decoder.optional_text_doc (limit + 2) a) rfl,
    Decoder.foldlM_member_cons rfl (by cases q.application <;> rfl)
      (Step.list_decoder_doc q.path limit),
    Decoder.foldlM_member_cons rfl (by cases q.application <;> rfl)
      (Decoder.natural_doc _ (limit + 2) h)]
  obtain ⟨application, path, index⟩ := q
  cases application <;> rfl

end Query

/-! ### Outcomes and actions -/

namespace Outcome

/-- The JSON of an outcome is legible. -/
theorem legible_json (o : Outcome) : o.json.Legible := by
  intro n hn
  cases o <;> cases hn

/-- An outcome is read from its document. -/
theorem decoder_doc (o : Outcome) (limit : Nat) : decoder (limit + 1) o.json.doc = .ok o := by
  cases o with
  | success =>
    rw [json, Value.doc, decoder, Piece.content_piecesOf]
    rfl
  | failure message =>
    have hcontent : content limit "Failure" (Value.text message).doc = .ok (.failure message) := by
      unfold content
      rw [if_neg (by decide), if_pos rfl, Decoder.text_doc]
      rfl
    rw [json, Value.doc, memberDocs, memberDocs, decoder, Piece.content_piecesOf]
    simp only [bind, Except.bind, hcontent]
    rfl

end Outcome

namespace Action

/-- The form of an action. -/
def form : Action → Form
  | tap _ => .tap
  | tapAny _ => .tapAny
  | typeText _ _ => .typeText
  | scroll _ _ _ => .scroll
  | waitForExistence _ _ => .waitForExistence
  | waitUntilHittable _ _ => .waitUntilHittable
  | handleInterruption _ => .handleInterruption

/-- The times of an action. -/
def durations : Action → List Nat
  | waitForExistence _ timeout | waitUntilHittable _ timeout => [timeout]
  | _ => []

/-- The vector by which an action scrolls. -/
def vector : Action → List Float
  | scroll _ dx dy => [dx, dy]
  | _ => []

/-- The JSON of an action is legible if its reals are read back. -/
theorem legible_json {a : Action} (h : ∀ x ∈ a.vector, Number.Exact x) : a.json.Legible := by
  intro n hn
  have hnumbers : a.json.numbers = a.durations.map .natural ++ a.vector.map .real := by
    cases a <;> rfl
  rw [hnumbers] at hn
  rcases List.mem_append.mp hn with hn | hn
  · obtain ⟨k, -, rfl⟩ := List.mem_map.mp hn
    exact Number.legible_natural k
  · obtain ⟨x, hx, rfl⟩ := List.mem_map.mp hn
    exact (h x hx).legible

/-- The name of a form is read as the form. -/
theorem Form.decoder_doc (f : Form) (limit : Nat) :
    Form.decoder limit (Value.text f.name).doc = .ok f := by
  have hfind : all.find? (fun g => g.name == f.name) = some f := by cases f <;> decide
  rw [decoder, Value.doc, Decoder.textNamed, Piece.content_piecesOf]
  simp only [bind, Except.bind, hfind]
  rfl

/-- The members of an action other than its form are collected in order. -/
theorem foldlM_member {limit : Nat} {fs : List (String × Value)} {vs : List Value}
    (hkeys : ∀ f ∈ fs, f.1 ≠ "type")
    (hread : List.Forall₂ (fun f v => Decoder.value limit f.2.doc = .ok v) fs vs) (s : Tagged) :
    (memberDocs fs).foldlM (member limit) s
      = .ok { s with members := s.members ++ (fs.map Prod.fst).zip vs } := by
  induction hread generalizing s with
  | nil => exact congrArg (fun members => Except.ok { s with members }) (List.append_nil _).symm
  | @cons f v fs vs hv _ ih =>
    obtain ⟨hkey, hkeys⟩ := List.forall_mem_cons.mp hkeys
    have hmember : member limit s (Token.piecesOf f.1, f.2.doc)
        = .ok { s with members := s.members ++ [(f.1, v)] } := by
      simp only [member, Piece.content_piecesOf, bind, Except.bind, if_neg hkey, hv]
      rfl
    rw [memberDocs, List.foldlM_cons, hmember]
    exact (ih hkeys _).trans (by simp)

/-- An action is read from its form and from what its other members are read as. -/
theorem decoder_object {limit : Nat} {f : Form} {fs : List (String × Value)} {vs : List Value}
    (hkeys : ∀ f ∈ fs, f.1 ≠ "type")
    (hread : List.Forall₂ (fun f v => Decoder.value limit f.2.doc = .ok v) fs vs) :
    decoder (limit + 1) (Value.object (("type", .text f.name) :: fs)).doc
      = ofMembers f {} ((fs.map Prod.fst).zip vs) := by
  have hform : member limit {} (Token.piecesOf "type", (Value.text f.name).doc)
      = .ok { form := some f } := by
    simp only [member, Piece.content_piecesOf, bind, Except.bind, Form.decoder_doc]
    rfl
  have hmembers := foldlM_member hkeys hread { form := some f }
  rw [Value.doc, memberDocs, decoder, List.foldlM_cons, hform]
  simp only [bind, Except.bind, hmembers]
  rfl

/-- A text is read as a value. -/
theorem value_doc_text (limit : Nat) (s : String) :
    Decoder.value limit (Value.text s).doc = .ok (.text s) := by
  rw [Value.doc, Decoder.value, Piece.content_piecesOf]
  rfl

/-- What is written of an action besides its form. -/
def particulars : Action → List (String × Value)
  | tap element | tapAny element => [("element", .text element)]
  | typeText element text => [("element", .text element), ("text", .text text)]
  | scroll element dx dy =>
    [("element", .text element), ("dx", .ofFloat dx), ("dy", .ofFloat dy)]
  | waitForExistence page timeout => [("page", .text page), ("timeout_ms", .ofNat timeout)]
  | waitUntilHittable element timeout =>
    [("element", .text element), ("timeout_ms", .ofNat timeout)]
  | handleInterruption page => [("page", .text page)]

theorem json_eq (a : Action) : a.json = .object (("type", .text a.form.name) :: a.particulars) := by
  cases a <;> rfl

theorem keys_particulars (a : Action) : ∀ f ∈ a.particulars, f.1 ≠ "type" := by
  cases a <;> simp [particulars]

/-- **An action is read from its document.** -/
theorem decoder_doc {a : Action} (hdurations : ∀ n ∈ a.durations, n < Nat.pow 2 64)
    (hvector : ∀ x ∈ a.vector, Number.Exact x) (limit : Nat) :
    decoder (limit + 1) a.json.doc = .ok a := by
  have htext := value_doc_text limit
  have hread {vs : List Value} (h : List.Forall₂
      (fun f v => Decoder.value limit f.2.doc = .ok v) a.particulars vs) :
      decoder (limit + 1) a.json.doc
        = ofMembers a.form {} ((a.particulars.map Prod.fst).zip vs) :=
    a.json_eq ▸ decoder_object a.keys_particulars h
  cases a with
  | tap element => exact hread (.cons (htext element) .nil)
  | tapAny element => exact hread (.cons (htext element) .nil)
  | typeText element text => exact hread (.cons (htext element) (.cons (htext text) .nil))
  | scroll element dx dy =>
    obtain ⟨hx, hy, -⟩ := by simpa only [vector, List.forall_mem_cons] using hvector
    obtain ⟨m, hm, rfl⟩ := Decoder.exists_value_doc_ofFloat hx limit
    obtain ⟨n, hn, rfl⟩ := Decoder.exists_value_doc_ofFloat hy limit
    exact hread (.cons (htext element) (.cons hm (.cons hn .nil)))
  | waitForExistence page timeout =>
    have htimeout := Decoder.value_doc_ofNat limit (hdurations timeout List.mem_cons_self)
    exact hread (.cons (htext page) (.cons htimeout .nil))
  | waitUntilHittable element timeout =>
    have htimeout := Decoder.value_doc_ofNat limit (hdurations timeout List.mem_cons_self)
    exact hread (.cons (htext element) (.cons htimeout .nil))
  | handleInterruption page => exact hread (.cons (htext page) .nil)

end Action

/-! ### All that is stored -/

/-- **What is stored of a record is read as the same record**: settings from their file, and
locations, queries, outcomes and actions from their JSON.  Texts are any texts and paths any paths;
numbers have 64 bits.  That the finite reals of a scroll vector are read back is assumed of how
reals are printed. -/
theorem read_stored :
    (∀ s : Settings, (∀ n ∈ s.durations, n < Nat.pow 2 64) →
      Settings.load (.ok s.saved.toUTF8) = s) ∧
    (∀ l : Location, l.index < Nat.pow 2 64 →
      Decoder.run Location.decoder l.json.compact = .ok l) ∧
    (∀ q : Query, q.index < Nat.pow 2 64 →
      Decoder.run Query.decoder q.json.compact = .ok q) ∧
    (∀ o : Outcome, Decoder.run Outcome.decoder o.json.compact = .ok o) ∧
    ∀ a : Action, (∀ n ∈ a.durations, n < Nat.pow 2 64) → (∀ x ∈ a.vector, x.isFinite = true) →
      (∀ x ∈ a.vector, x.isFinite = true → Number.Exact x) →
      Decoder.run Action.decoder a.json.compact = .ok a := by
  refine ⟨fun s h => s.load_saved h, fun l h => ?_, fun q h => ?_, fun o => ?_,
    fun a hdurations hfinite hprinted => ?_⟩
  · rw [Decoder.run_compact _ l.legible_json]
    exact Location.decoder_doc h 124
  · rw [Decoder.run_compact _ q.legible_json]
    exact Query.decoder_doc h 124
  · rw [Decoder.run_compact _ o.legible_json]
    exact o.decoder_doc 126
  · have hexact : ∀ x ∈ a.vector, Number.Exact x := fun x hx => hprinted x hx (hfinite x hx)
    rw [Decoder.run_compact _ (Action.legible_json hexact)]
    exact Action.decoder_doc hdurations hexact 126

/-- A label with a quotation mark, a backslash, a line break and a character of four bytes, the
longest time that there is, and a vector of a fraction and a negative number are read back. -/
theorem read_stored_samples :
    let settings : Settings :=
      { waitTimeout := Nat.pow 2 64 - 1, permissionDenyLabel := "\"No\\\n\u0001😀" }
    let location : Location :=
      ⟨[{ kind := .other }, { kind := .button, label := "<\t>", value := some "" }], 3⟩
    let action : Action := .scroll "list" 0.1 (-2.5)
    Settings.load (.ok settings.saved.toUTF8) = settings ∧
      Decoder.run Location.decoder location.json.compact = .ok location ∧
      Decoder.run Query.decoder (Query.ofLocation (some "a/b") location).json.compact
        = .ok (Query.ofLocation (some "a/b") location) ∧
      Decoder.run Outcome.decoder (Outcome.failure "é").json.compact = .ok (.failure "é") ∧
      Decoder.run Action.decoder action.json.compact = .ok action := by
  obtain ⟨hsettings, hlocation, hquery, houtcome, haction⟩ := read_stored
  refine ⟨hsettings _ (by decide), hlocation _ (by decide), hquery _ (by decide), houtcome _,
    haction _ (by decide) ?_ ?_⟩
  · simp only [Action.vector, List.forall_mem_cons]
    exact ⟨by decide +kernel, by decide +kernel, List.forall_mem_nil _⟩
  · simp only [Action.vector, List.forall_mem_cons]
    exact ⟨fun _ => by decide +kernel, fun _ => by decide +kernel, List.forall_mem_nil _⟩

end ScreenPages
