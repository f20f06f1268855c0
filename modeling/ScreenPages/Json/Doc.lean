import ScreenPages.Json.Token

/-!
# JSON documents, as far as they go

A `Doc` is the structure of a text as far as the text has one.  Where the text breaks off,
the document says so at that place instead of being refused as a whole, because a reader
that finds the wrong shape before the break reports the shape and not the break.

## Main definitions

* `Doc` — a value, or the gap where one should be.
* `Doc.Stop` — how a list or an object ends.
* `Doc.read` — the document at the front of a list of tokens.
* `Doc.skip` — passing over a document whose content nobody wants.
-/

namespace ScreenPages.Json

/-- What stands where a value is due. -/
inductive Doc.Gap where
  /-- The text ends. -/
  | ended : Doc.Gap
  /-- The text ends before the colon in front of the value. -/
  | endedBeforeColon : Doc.Gap
  /-- The colon in front of the value is missing. -/
  | noColon : Doc.Gap
  /-- A token that is no complete value. -/
  | token (t : Token) : Doc.Gap
  deriving Repr, Inhabited

/-- How a list or an object ends. -/
inductive Doc.Stop where
  /-- By its closing bracket. -/
  | closed : Doc.Stop
  /-- The text ends where a comma or the closing bracket is due. -/
  | ended : Doc.Stop
  /-- Something else stands where a comma or the closing bracket is due. -/
  | stray : Doc.Stop
  /-- By its closing bracket, but right after a comma. -/
  | commaClosed : Doc.Stop
  /-- The text ends after a comma. -/
  | commaEnded : Doc.Stop
  /-- A token that is no complete string stands where a key is due. -/
  | badKey (t : Token) : Doc.Stop
  deriving Repr, Inhabited

/-- The structure of a text as far as it has one. -/
inductive Doc where
  | null : Doc
  | flag (b : Bool) : Doc
  | number (n : Numeral) : Doc
  | text (pieces : List Piece) : Doc
  | array (items : List Doc) (stop : Doc.Stop) : Doc
  | object (members : List (List Piece × Doc)) (stop : Doc.Stop) : Doc
  | gap (g : Doc.Gap) : Doc
  deriving Repr, Inhabited

namespace Token

/-- The fault of a token where a value is due. -/
def fault : Token → Fault
  | brokenText pieces stop =>
    match Piece.decode (some stop) pieces with
    | .ok _ => stop.fault
    | .error fault => fault
  | brokenNumber fault => fault
  | brokenWord fault => fault
  | _ => .expectedValue

/-- The fault of a token where a key is due. -/
def keyFault : Token → Fault
  | brokenText pieces stop => (brokenText pieces stop).fault
  | _ => .keyNotText

/-- The fault of a token in a value that is passed over: escapes count, but not what they
stand for, and a number that breaks off is just no number. -/
def skipFault : Token → Fault
  | brokenText _ stop => stop.fault
  | brokenNumber _ => .invalidNumber
  | t => t.fault

end Token

namespace Doc

/-- The fault of a gap. -/
def Gap.fault : Gap → Fault
  | ended => .endInValue
  | endedBeforeColon => .endInObject
  | noColon => .expectedColon
  | token t => t.fault

/-- The fault of a gap in a value that is passed over. -/
def Gap.skipFault : Gap → Fault
  | token t => t.skipFault
  | g => g.fault

/-- The fault of a list that does not end well. -/
def Stop.listFault : Stop → Fault
  | closed | ended | badKey _ => .endInList
  | stray => .expectedListCommaOrEnd
  | commaClosed => .trailingComma
  | commaEnded => .endInValue

/-- The fault of a list that does not end well right after all the items it may have. -/
def Stop.fullListFault : Stop → Fault
  | closed | ended | badKey _ => .endInList
  | stray | commaEnded => .trailingCharacters
  | commaClosed => .trailingComma

/-- The fault of a list that does not end well and is passed over. -/
def Stop.skipListFault : Stop → Fault
  | commaClosed => .expectedValue
  | stop => stop.listFault

/-- The fault of an object that does not end well. -/
def Stop.objectFault : Stop → Fault
  | closed | ended => .endInObject
  | stray => .expectedObjectCommaOrEnd
  | commaClosed => .trailingComma
  | commaEnded => .endInValue
  | badKey t => t.keyFault

/-- The fault of an object that does not end well and is passed over. -/
def Stop.skipObjectFault : Stop → Fault
  | commaClosed => .keyNotText
  | commaEnded => .endInObject
  | badKey (.brokenText _ stop) => stop.fault
  | stop => stop.objectFault

/-- Nothing is wrong with a closed end. -/
def Stop.check (fault : Stop → Fault) : Stop → Except Fault Unit
  | closed => .ok ()
  | stop => .error (fault stop)

/-! ### Reading tokens -/

mutual

/-- The document at the front of a list of tokens, and the tokens after it.  Each level of
nesting takes a token and two steps, so twice the number of tokens is `fuel` enough. -/
def readValue : Nat → List Token → Doc × List Token
  | 0, ts => (.gap .ended, ts)
  | _ + 1, [] => (.gap .ended, [])
  | fuel + 1, t :: ts =>
    match t with
    | .null => (.null, ts)
    | .flag b => (.flag b, ts)
    | .number n => (.number n, ts)
    | .text pieces => (.text pieces, ts)
    | .leftBracket =>
      match ts with
      | [] => (.array [] .ended, [])
      | .rightBracket :: rest => (.array [] .closed, rest)
      | ts =>
        let (items, stop, rest) := readItems fuel ts
        (.array items stop, rest)
    | .leftBrace =>
      match ts with
      | [] => (.object [] .ended, [])
      | .rightBrace :: rest => (.object [] .closed, rest)
      | ts =>
        let (members, stop, rest) := readMembers fuel ts
        (.object members stop, rest)
    | t => (.gap (.token t), [])

/-- The items of a list from the first or next item on. -/
def readItems : Nat → List Token → List Doc × Stop × List Token
  | 0, ts => ([], .ended, ts)
  | fuel + 1, ts =>
    let (item, rest) := readValue fuel ts
    match rest with
    | [] => ([item], .ended, [])
    | .rightBracket :: rest => ([item], .closed, rest)
    | .comma :: .rightBracket :: rest => ([item], .commaClosed, rest)
    | [.comma] => ([item], .commaEnded, [])
    | .comma :: rest =>
      let (items, stop, rest) := readItems fuel rest
      (item :: items, stop, rest)
    | rest => ([item], .stray, rest)

/-- The members of an object from the first or next key on. -/
def readMembers : Nat → List Token → List (List Piece × Doc) × Stop × List Token
  | 0, ts => ([], .ended, ts)
  | fuel + 1, ts =>
    match ts with
    | [] => ([], .ended, [])
    | [.text key] => ([(key, .gap .endedBeforeColon)], .ended, [])
    | .text key :: .colon :: rest =>
      let (value, rest) := readValue fuel rest
      match rest with
      | [] => ([(key, value)], .ended, [])
      | .rightBrace :: rest => ([(key, value)], .closed, rest)
      | .comma :: .rightBrace :: rest => ([(key, value)], .commaClosed, rest)
      | [.comma] => ([(key, value)], .commaEnded, [])
      | .comma :: rest =>
        let (members, stop, rest) := readMembers fuel rest
        ((key, value) :: members, stop, rest)
      | rest => ([(key, value)], .stray, rest)
    | .text key :: _ => ([(key, .gap .noColon)], .ended, [])
    | t :: _ => ([], .badKey t, [])

end

/-- The document at the front of a list of tokens, and the tokens after it. -/
def read (ts : List Token) : Doc × List Token := readValue (2 * ts.length + 1) ts

/-- The document that symbols make up, and whether nothing follows it. -/
def ofSymbols (ss : List Text.Symbol) : Doc × Bool :=
  let (d, rest) := read (Token.scan ss)
  (d, rest.isEmpty)

/-! ### Passing over -/

mutual

/-- Passes over a document: it must be complete, but neither its numbers nor its texts are
looked into, and it may be nested to any depth. -/
def skip : Doc → Except Fault Unit
  | .array items stop => do
    skipItems items
    stop.check Stop.skipListFault
  | .object members stop => do
    skipMembers members
    stop.check Stop.skipObjectFault
  | .gap g => .error g.skipFault
  | _ => .ok ()

/-- Passes over the items of a list. -/
def skipItems : List Doc → Except Fault Unit
  | [] => .ok ()
  | d :: ds => do
    skip d
    skipItems ds

/-- Passes over the members of an object. -/
def skipMembers : List (List Piece × Doc) → Except Fault Unit
  | [] => .ok ()
  | (_, d) :: ds => do
    skip d
    skipMembers ds

end

end Doc

end ScreenPages.Json
