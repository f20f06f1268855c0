import ScreenPages.Proofs.Accepted
import ScreenPages.Proofs.Scanning

/-!
# Reading what has been written

The text of a value is scanned as the tokens of the value, and these are read as the document of
the value.  So a decoder reads the text of a value as it reads the document.  The one thing that
may go wrong is a number that is not written as a numeral.  Whether a real is read back
*unchanged* is a question of how reals are printed; here it is a property of the real.

## Main definitions

* `Json.Value.tokens`, `Json.Value.doc` — the tokens and the document of the text of a value.
* `Json.Number.Legible`, `Json.Value.Legible` — numbers are written as numerals.
* `Json.Number.Exact` — a real is read back unchanged from its text.

## Main results

* `Json.Value.scan_compactChars`, `Json.Value.readValue_tokens` — the text is scanned as the
  tokens, and the tokens are read as the document.
* `Json.Decoder.run_compact` — **reading the text of a value is reading its document**.
* `Json.Decoder.foldlM_member_cons`, `Json.Decoder.foldlM_member_toList_append` — a record is read
  from what is written member by member.
-/

namespace ScreenPages.Json

open Text (Symbol symbols)
open Token (scan piecesOf Delimits)

/-- The text of a number is scanned as a numeral: it is no infinity and not not-a-number. -/
def Number.Legible (n : Number) : Prop := ∃ m, scan (symbols n.text) = [.number m]

namespace Doc

/-! ### Reading step by step -/

variable {fuel : Nat} {t : Token} {ts rest : List Token} {d : Doc} {stop : Stop} {ds : List Doc}
  {key : List Piece} {ms : List (List Piece × Doc)}

theorem readValue_leftBracket (ht : t ≠ .rightBracket)
    (h : readItems fuel (t :: ts) = (ds, stop, rest)) :
    readValue (fuel + 1) (.leftBracket :: t :: ts) = (.array ds stop, rest) := by
  cases t with
  | rightBracket => exact absurd rfl ht
  | _ => simp only [readValue, h]

theorem readValue_leftBrace (ht : t ≠ .rightBrace)
    (h : readMembers fuel (t :: ts) = (ms, stop, rest)) :
    readValue (fuel + 1) (.leftBrace :: t :: ts) = (.object ms stop, rest) := by
  cases t with
  | rightBrace => exact absurd rfl ht
  | _ => simp only [readValue, h]

theorem readItems_rightBracket (h : readValue fuel ts = (d, .rightBracket :: rest)) :
    readItems (fuel + 1) ts = ([d], .closed, rest) := by
  simp only [readItems, h]

theorem readItems_comma {left : List Token} (ht : t ≠ .rightBracket)
    (h : readValue fuel ts = (d, .comma :: t :: left))
    (hrest : readItems fuel (t :: left) = (ds, stop, rest)) :
    readItems (fuel + 1) ts = (d :: ds, stop, rest) := by
  cases t with
  | rightBracket => exact absurd rfl ht
  | _ => simp only [readItems, h, hrest]

theorem readMembers_rightBrace (h : readValue fuel ts = (d, .rightBrace :: rest)) :
    readMembers (fuel + 1) (.text key :: .colon :: ts) = ([(key, d)], .closed, rest) := by
  simp only [readMembers, h]

theorem readMembers_comma {left : List Token} (ht : t ≠ .rightBrace)
    (h : readValue fuel ts = (d, .comma :: t :: left))
    (hrest : readMembers fuel (t :: left) = (ms, stop, rest)) :
    readMembers (fuel + 1) (.text key :: .colon :: ts) = ((key, d) :: ms, stop, rest) := by
  cases t with
  | rightBrace => exact absurd rfl ht
  | _ => simp only [readMembers, h, hrest]

end Doc

namespace Value

/-! ### The tokens and the document of a value -/

mutual

/-- The numbers in a value, at any depth. -/
def numbers : Value → List Number
  | .number n => [n]
  | .array items => numbersOfItems items
  | .object fields => numbersOfFields fields
  | _ => []

/-- The numbers in the items of a list. -/
def numbersOfItems : List Value → List Number
  | [] => []
  | v :: vs => numbers v ++ numbersOfItems vs

/-- The numbers in the fields of an object. -/
def numbersOfFields : List (String × Value) → List Number
  | [] => []
  | (_, v) :: fs => numbers v ++ numbersOfFields fs

end

mutual

/-- The tokens of the text of a value. -/
def tokens : Value → List Token
  | .null => [.null]
  | .flag b => [.flag b]
  | .number n => scan (symbols n.text)
  | .text s => [.text (piecesOf s)]
  | .array items => .leftBracket :: itemTokens items
  | .object fields => .leftBrace :: fieldTokens fields

/-- The tokens of the items of a list up to its closing bracket. -/
def itemTokens : List Value → List Token
  | [] => [.rightBracket]
  | [v] => tokens v ++ [.rightBracket]
  | v :: vs => tokens v ++ .comma :: itemTokens vs

/-- The tokens of the fields of an object up to its closing brace. -/
def fieldTokens : List (String × Value) → List Token
  | [] => [.rightBrace]
  | [(k, v)] => .text (piecesOf k) :: .colon :: (tokens v ++ [.rightBrace])
  | (k, v) :: fs => .text (piecesOf k) :: .colon :: (tokens v ++ .comma :: fieldTokens fs)

end

mutual

/-- The document of the text of a value. -/
def doc : Value → Doc
  | .null => .null
  | .flag b => .flag b
  | .number n => (Doc.read (scan (symbols n.text))).1
  | .text s => .text (piecesOf s)
  | .array items => .array (docs items) .closed
  | .object fields => .object (memberDocs fields) .closed

/-- The documents of several values. -/
def docs : List Value → List Doc
  | [] => []
  | v :: vs => doc v :: docs vs

/-- The documents of the fields of an object. -/
def memberDocs : List (String × Value) → List (List Piece × Doc)
  | [] => []
  | (k, v) :: fs => (piecesOf k, doc v) :: memberDocs fs

end

theorem numbersOfFields_append (fs gs : List (String × Value)) :
    numbersOfFields (fs ++ gs) = numbersOfFields fs ++ numbersOfFields gs := by
  induction fs with
  | nil => rfl
  | cons f fs ih => rw [List.cons_append, numbersOfFields, numbersOfFields, ih, List.append_assoc]

/-- All numbers in a value are legible. -/
def Legible (v : Value) : Prop := ∀ n ∈ v.numbers, n.Legible

/-! ### Scanning -/

mutual

/-- **The text of a value has the tokens of the value.** -/
theorem scan_compactChars {rest : List Symbol} : (v : Value) → (∀ n ∈ v.numbers, n.Legible) →
    Delimits rest → scan (v.compactChars.map .char ++ rest) = v.tokens ++ scan rest
  | .null, _, _ => Token.scan_of_not_isBlank rfl
  | .flag true, _, _ => Token.scan_of_not_isBlank rfl
  | .flag false, _, _ => Token.scan_of_not_isBlank rfl
  | .number n, h, hrest => by
    obtain ⟨m, hm⟩ := h n (by simp [numbers])
    rw [compactChars, tokens, hm]
    exact Token.scan_append_of_number hrest hm
  | .text s, _, _ => Token.scan_textChars s
  | .array items, h, _ => by
    rw [numbers] at h
    rw [compactChars, tokens, List.map_cons, List.cons_append, Token.scan_leftBracket,
      scan_compactItems items h, List.cons_append]
  | .object fields, h, _ => by
    rw [numbers] at h
    rw [compactChars, tokens, List.map_cons, List.cons_append, Token.scan_leftBrace,
      scan_compactFields fields h, List.cons_append]

theorem scan_compactItems {rest : List Symbol} : (vs : List Value) →
    (∀ n ∈ numbersOfItems vs, n.Legible) →
    scan ((compactItems vs).map .char ++ rest) = itemTokens vs ++ scan rest
  | [], _ => Token.scan_rightBracket
  | [v], h => by
    rw [numbersOfItems, numbersOfItems, List.append_nil] at h
    simp only [compactItems, itemTokens, List.map_append, List.map_cons, List.map_nil,
      List.append_assoc, List.cons_append, List.nil_append,
      scan_compactChars v h .rightBracket, Token.scan_rightBracket]
  | v :: w :: vs, h => by
    rw [numbersOfItems, List.forall_mem_append] at h
    simp only [compactItems, itemTokens, List.map_append, List.map_cons, List.append_assoc,
      List.cons_append, scan_compactChars v h.1 .comma, Token.scan_comma,
      scan_compactItems (w :: vs) h.2]

theorem scan_compactFields {rest : List Symbol} : (fs : List (String × Value)) →
    (∀ n ∈ numbersOfFields fs, n.Legible) →
    scan ((compactFields fs).map .char ++ rest) = fieldTokens fs ++ scan rest
  | [], _ => Token.scan_rightBrace
  | [(k, v)], h => by
    rw [numbersOfFields, numbersOfFields, List.append_nil] at h
    simp only [compactFields, fieldTokens, List.map_append, List.map_cons, List.map_nil,
      List.append_assoc, List.cons_append, List.nil_append, Token.scan_textChars,
      Token.scan_colon, scan_compactChars v h .rightBrace, Token.scan_rightBrace]
  | (k, v) :: f :: fs, h => by
    rw [numbersOfFields, List.forall_mem_append] at h
    simp only [compactFields, fieldTokens, List.map_append, List.map_cons, List.append_assoc,
      List.cons_append, Token.scan_textChars, Token.scan_colon,
      scan_compactChars v h.1 .comma, Token.scan_comma,
      scan_compactFields (f :: fs) h.2]

end

/-! ### Reading -/

/-- The text of a value does not begin with a closing bracket. -/
theorem exists_tokens_eq (v : Value) (h : v.Legible) :
    ∃ t ts, v.tokens = t :: ts ∧ t ≠ .rightBracket := by
  cases v with
  | number n =>
    obtain ⟨m, hm⟩ := h n (by simp [numbers])
    simp [tokens, hm]
  | _ => simp [tokens]

/-- The tokens of items do not begin with a closing bracket. -/
theorem exists_itemTokens_eq (v : Value) (vs : List Value) (h : v.Legible) :
    ∃ t ts, itemTokens (v :: vs) = t :: ts ∧ t ≠ .rightBracket := by
  obtain ⟨t, ts, htokens, ht⟩ := exists_tokens_eq v h
  cases vs with
  | nil => exact ⟨t, _, by rw [itemTokens, htokens]; rfl, ht⟩
  | cons w ws => exact ⟨t, _, by rw [itemTokens, htokens]; rfl; exact nofun, ht⟩

/-- The tokens of fields begin with a key. -/
theorem exists_fieldTokens_eq (k : String) (v : Value) (fs : List (String × Value)) :
    ∃ ts, fieldTokens ((k, v) :: fs) = .text (piecesOf k) :: ts := by
  cases fs with
  | nil => exact ⟨_, by rw [fieldTokens]⟩
  | cons f fs => exact ⟨_, by rw [fieldTokens]; exact nofun⟩

mutual

/-- **The tokens of a value are read as its document.**  Every level takes a token and two
steps, so twice the number of tokens is fuel enough. -/
theorem readValue_tokens (rest : List Token) : (v : Value) → (∀ n ∈ v.numbers, n.Legible) →
    (fuel : Nat) → 2 * v.tokens.length ≤ fuel →
    Doc.readValue fuel (v.tokens ++ rest) = (v.doc, rest)
  | .null, _, fuel + 1, _ => rfl
  | .flag b, _, fuel + 1, _ => rfl
  | .text s, _, fuel + 1, _ => rfl
  | .number n, h, fuel, hfuel => by
    obtain ⟨m, hm⟩ := h n (by simp [numbers])
    rw [tokens, hm] at hfuel
    obtain ⟨fuel, rfl⟩ : ∃ k, fuel = k + 1 := ⟨fuel - 1, by simp at hfuel; omega⟩
    rw [tokens, doc, hm]
    rfl
  | .array [], _, fuel + 1, _ => rfl
  | .array (v :: vs), h, fuel, hfuel => by
    rw [numbers] at h
    rw [tokens, List.length_cons] at hfuel
    obtain ⟨fuel, rfl⟩ : ∃ k, fuel = k + 1 := ⟨fuel - 1, by omega⟩
    have hread := readItems_tokens rest (v :: vs) (List.cons_ne_nil _ _) h fuel
      (by omega)
    obtain ⟨t, ts, heq, ht⟩ := exists_itemTokens_eq v vs
      fun n hn => h n (by rw [numbersOfItems]; exact List.mem_append_left _ hn)
    rw [heq, List.cons_append] at hread
    rw [tokens, heq, doc]
    exact Doc.readValue_leftBracket ht hread
  | .object [], _, fuel + 1, _ => rfl
  | .object ((k, v) :: fs), h, fuel, hfuel => by
    rw [numbers] at h
    rw [tokens, List.length_cons] at hfuel
    obtain ⟨fuel, rfl⟩ : ∃ k, fuel = k + 1 := ⟨fuel - 1, by omega⟩
    have hread := readMembers_tokens rest ((k, v) :: fs) (List.cons_ne_nil _ _) h fuel
      (by omega)
    obtain ⟨ts, heq⟩ := exists_fieldTokens_eq k v fs
    rw [heq, List.cons_append] at hread
    rw [tokens, heq, doc]
    exact Doc.readValue_leftBrace nofun hread

theorem readItems_tokens (rest : List Token) : (vs : List Value) → vs ≠ [] →
    (∀ n ∈ numbersOfItems vs, n.Legible) → (fuel : Nat) →
    2 * (itemTokens vs).length ≤ fuel + 1 →
    Doc.readItems fuel (itemTokens vs ++ rest) = (docs vs, .closed, rest)
  | [], hvs, _, _, _ => absurd rfl hvs
  | [v], _, h, fuel, hfuel => by
    rw [numbersOfItems, numbersOfItems, List.append_nil] at h
    rw [itemTokens, List.length_append, List.length_singleton] at hfuel
    obtain ⟨fuel, rfl⟩ : ∃ k, fuel = k + 1 := ⟨fuel - 1, by omega⟩
    rw [itemTokens, List.append_assoc, docs, docs]
    exact Doc.readItems_rightBracket (readValue_tokens _ v h fuel (by omega))
  | v :: w :: vs, _, h, fuel, hfuel => by
    rw [numbersOfItems, List.forall_mem_append] at h
    simp only [itemTokens, List.length_append, List.length_cons] at hfuel
    obtain ⟨fuel, rfl⟩ : ∃ k, fuel = k + 1 := ⟨fuel - 1, by omega⟩
    have hread := readItems_tokens rest (w :: vs) (List.cons_ne_nil _ _) h.2 fuel
      (by omega)
    obtain ⟨t, ts, heq, ht⟩ := exists_itemTokens_eq w vs
      fun n hn => h.2 n (by rw [numbersOfItems]; exact List.mem_append_left _ hn)
    rw [heq] at hread
    simp only [itemTokens, heq, docs, List.append_assoc, List.cons_append] at hread ⊢
    exact Doc.readItems_comma ht (readValue_tokens _ v h.1 fuel (by omega)) hread

theorem readMembers_tokens (rest : List Token) : (fs : List (String × Value)) → fs ≠ [] →
    (∀ n ∈ numbersOfFields fs, n.Legible) → (fuel : Nat) →
    2 * (fieldTokens fs).length ≤ fuel + 1 →
    Doc.readMembers fuel (fieldTokens fs ++ rest) = (memberDocs fs, .closed, rest)
  | [], hfs, _, _, _ => absurd rfl hfs
  | [(k, v)], _, h, fuel, hfuel => by
    rw [numbersOfFields, numbersOfFields, List.append_nil] at h
    simp only [fieldTokens, List.length_append, List.length_cons, List.length_nil] at hfuel
    obtain ⟨fuel, rfl⟩ : ∃ k, fuel = k + 1 := ⟨fuel - 1, by omega⟩
    simp only [fieldTokens, List.cons_append, List.append_assoc, memberDocs]
    exact Doc.readMembers_rightBrace (readValue_tokens _ v h fuel (by omega))
  | (k, v) :: (l, w) :: fs, _, h, fuel, hfuel => by
    rw [numbersOfFields, List.forall_mem_append] at h
    simp only [fieldTokens, List.length_append, List.length_cons] at hfuel
    obtain ⟨fuel, rfl⟩ : ∃ k, fuel = k + 1 := ⟨fuel - 1, by omega⟩
    have hread := readMembers_tokens rest ((l, w) :: fs) (List.cons_ne_nil _ _) h.2
      fuel (by omega)
    obtain ⟨ts, heq⟩ := exists_fieldTokens_eq l w fs
    rw [heq] at hread
    simp only [fieldTokens, heq, memberDocs, List.append_assoc, List.cons_append] at hread ⊢
    exact Doc.readMembers_comma (by simp) (readValue_tokens _ v h.1 fuel (by omega)) hread

end

/-- The tokens of a value are its document, complete. -/
theorem read_tokens {v : Value} (h : v.Legible) : Doc.read v.tokens = (v.doc, []) := by
  have hread := readValue_tokens [] v h (2 * v.tokens.length + 1) (by omega)
  rwa [List.append_nil] at hread

/-- Symbols with the tokens of a value are its document, complete. -/
theorem ofSymbols_of_scan {v : Value} (h : v.Legible) {ss : List Symbol}
    (hscan : scan ss = v.tokens) : Doc.ofSymbols ss = (v.doc, true) := by
  rw [Doc.ofSymbols, hscan, read_tokens h]
  rfl

/-- The symbols of the text of a value are its document, complete. -/
theorem ofSymbols_compact {v : Value} (h : v.Legible) :
    Doc.ofSymbols (symbols v.compact) = (v.doc, true) := by
  have hsymbols : symbols v.compact = v.compactChars.map .char ++ [] := by
    rw [symbols, compact, String.toList_ofList, List.append_nil]
  refine ofSymbols_of_scan h ?_
  rw [hsymbols, scan_compactChars v h .nil, Token.scan_nil, List.append_nil]

end Value

/-- **Reading the text of a value is reading its document.** -/
theorem Decoder.run_compact {α : Type} (decoder : Decoder α) {v : Value} (h : v.Legible) :
    decoder.run v.compact = decoder nestingLimit v.doc := by
  simp only [Decoder.run, Decoder.runSymbols, Value.ofSymbols_compact h]
  cases decoder nestingLimit v.doc <;> rfl

/-! ### Numbers -/

/-- Only a numeral is read as a number. -/
theorem Doc.eq_cons_of_readValue_eq_number {fuel : Nat} {ts rest : List Token} {m : Numeral}
    (h : readValue fuel ts = (.number m, rest)) : ts = .number m :: rest := by
  fun_cases readValue fuel ts <;> simp_all [readValue]

/-- A binary real is read back unchanged from its text. -/
def Number.Exact (x : Float) : Prop := Decoder.real.run (Value.ofFloat x).compact = .ok x

instance Number.decidableExact (x : Float) : Decidable (Exact x) :=
  decidable_of_iff ((Decoder.real.run (Value.ofFloat x).compact).toOption = some x)
    Except.toOption_eq_some_iff

namespace Number.Exact

variable {x : Float}

theorem exists_scan_eq (h : Exact x) : ∃ m, scan (symbols (Number.real x).text) = [.number m] ∧
    ∀ limit, Decoder.real limit (.number m) = .ok x := by
  have hcompact : (Value.ofFloat x).compact = (Number.real x).text := String.ofList_toList
  rw [Exact, Decoder.run_eq_ok_iff, hcompact] at h
  obtain ⟨d, hread, hx⟩ := h
  cases d with
  | number m => exact ⟨m, Doc.eq_cons_of_readValue_eq_number hread, fun _ => hx⟩
  | _ => cases hx

/-- The text of a real that is read back is a numeral. -/
theorem legible (h : Exact x) : (Number.real x).Legible :=
  let ⟨m, hm, _⟩ := exists_scan_eq h
  ⟨m, hm⟩

/-- A real that is read back is read from its document. -/
theorem real_doc (h : Exact x) (limit : Nat) : Decoder.real limit (Value.ofFloat x).doc = .ok x := by
  obtain ⟨m, hm, hx⟩ := exists_scan_eq h
  rw [Value.ofFloat, Value.doc, hm]
  exact hx limit

end Number.Exact

/-! ### Texts -/

namespace Decoder

/-- A text is read from its document. -/
theorem text_doc (limit : Nat) (s : String) : text limit (Value.text s).doc = .ok s := by
  rw [text, Value.doc, textNamed, Piece.content_piecesOf]

/-- A text that may be absent is read from its document. -/
theorem optional_text_doc (limit : Nat) (s : String) :
    optional text limit (Value.text s).doc = .ok (some s) :=
  congrArg (Except.map some) (text_doc limit s)

/-! ### Lists and records -/

/-- A list is read item by item. -/
theorem list_doc {α : Type} (decoder : Decoder α) (limit : Nat) (vs : List Value) :
    list decoder (limit + 1) (Value.array vs).doc = (Value.docs vs).mapM (decoder limit) := by
  rw [Value.doc, list]
  cases (Value.docs vs).mapM (decoder limit) <;> rfl

theorem list_doc_zero {α : Type} (decoder : Decoder α) (vs : List Value) :
    list decoder 0 (Value.array vs).doc = .error .nestingLimit := rfl

open Value (memberDocs)

/-- A record that is written as an object is read member by member. -/
theorem record_object {σ : Type} {what : String} {fields : List (RecordField σ)} {strict : Bool}
    {start : σ} (limit : Nat) (fs : List (String × Value)) :
    record what fields strict start (limit + 1) (Value.object fs).doc
      = (memberDocs fs).foldlM (member fields strict limit) start := by
  rw [Value.doc, record]
  cases (memberDocs fs).foldlM (member fields strict limit) start <;> rfl

section Members

variable {σ α β : Type} {fields : List (RecordField σ)} {strict : Bool} {limit : Nat} {s : σ}
  {key : String} {get : σ → Option α} {set : α → σ → σ} {decoder : Decoder α}
  {absence : RecordField.Absence} {v : Value} {rest : List (String × Value)}

/-- A member with the key of a field that is not set yet is read as the field is. -/
theorem member_piecesOf
    (hfield : fields.find? (fun f => f.name == key) = some (.of key get set decoder absence))
    (hget : get s = none) (d : Doc) :
    member fields strict limit s (piecesOf key, d) = (decoder limit d).map fun a => set a s := by
  simp only [member, Piece.content_piecesOf, bind, Except.bind, hfield, RecordField.of, hget,
    Option.isSome_none, Bool.false_eq_true, if_false]
  cases decoder limit d <;> rfl

theorem foldlM_member_cons {a : α}
    (hfield : fields.find? (fun f => f.name == key) = some (.of key get set decoder absence))
    (hget : get s = none) (hread : decoder limit v.doc = .ok a) :
    (memberDocs ((key, v) :: rest)).foldlM (member fields strict limit) s
      = (memberDocs rest).foldlM (member fields strict limit) (set a s) := by
  rw [memberDocs, List.foldlM_cons, member_piecesOf hfield hget, hread]
  rfl

theorem foldlM_member_cons_error {fault : Fault}
    (hfield : fields.find? (fun f => f.name == key) = some (.of key get set decoder absence))
    (hget : get s = none) (hread : decoder limit v.doc = .error fault) :
    (memberDocs ((key, v) :: rest)).foldlM (member fields strict limit) s = .error fault := by
  rw [memberDocs, List.foldlM_cons, member_piecesOf hfield hget, hread]
  rfl

/-- A member that is written only if there is something to write leaves the draft as it is
otherwise. -/
theorem foldlM_member_toList_append {o : Option β} {value : β → Value} {read : β → α} {s' : σ}
    (hfield : fields.find? (fun f => f.name == key) = some (.of key get set decoder absence))
    (hget : get s = none) (hread : ∀ b, o = some b → decoder limit (value b).doc = .ok (read b))
    (hs : o.elim s (fun b => set (read b) s) = s') :
    (memberDocs ((o.map fun b => (key, value b)).toList ++ rest)).foldlM
        (member fields strict limit) s
      = (memberDocs rest).foldlM (member fields strict limit) s' := by
  subst hs
  cases o with
  | none => rfl
  | some b => exact foldlM_member_cons hfield hget (hread b rfl)

end Members

end Decoder

end ScreenPages.Json
