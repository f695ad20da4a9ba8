import HtmlModules.Markup.Entity
import HtmlModules.Text.LetterCase

/-!
# Markup events

A document is read from left to right as a list of events: tags, comments, declarations and text.
The events tile the text, each begins where the one before it ends. The contents of `script` and
`style` are text up to their end tag, so such an element is one event.

Outside of tags everything can be read. Inside a tag, reading stops at the first character that
neither continues the tag nor ends it; `scan` then gives the offset where it stopped.
-/

namespace HtmlModules.Markup

open Text

/-- An attribute; a name alone has no value. In an event its value still holds references. -/
structure Attribute where
  name : String
  value : Option String
deriving DecidableEq, Repr

/-- The attribute with the references in its value replaced. -/
def Attribute.unescaped (a : Attribute) : Attribute := { a with value := a.value.map unescape }

/-- What an event is. -/
inductive EventKind where
  | comment (data : String)
  | declaration
  | text (text : String)
  | startTag (tag : String) (attributes : List Attribute) (selfClosing : Bool)
  | endTag (tag : String)
  /-- An element whose contents are text, from `innerStart` to `innerStop`. -/
  | rawElement (tag : String) (attributes : List Attribute) (innerStart innerStop : Nat)
      (text : String)
deriving DecidableEq, Repr

/-- An event with its range. -/
structure Event where
  start : Nat
  stop : Nat
  kind : EventKind
deriving DecidableEq, Repr

/-- The attributes of an event. -/
def EventKind.attributes : EventKind → List Attribute
  | startTag _ attributes _ | rawElement _ attributes _ _ _ => attributes
  | _ => []

/-- A value holds a reference by a number that is too long to be read. -/
def Event.hasLongNumber (e : Event) : Bool :=
  e.kind.attributes.any fun a => a.value.any fun v => holdsLongNumber v.toList

/-! ## Letters -/

/-- The letter `c` or a character that counts as the same letter in another case. -/
def sameLetter (c d : Char) : Bool :=
  c == d.toLower || (c == 's' && d == '\u017F') || (c == 'i' && (d == '\u0130' || d == '\u0131'))

/-- The small letters of `word` begin `cs`, in any case. -/
def startsWithWord : List Char → List Char → Bool
  | [], _ => true
  | _ :: _, [] => false
  | w :: word, c :: cs => sameLetter w c && startsWithWord word cs

/-! ## Tags -/

/-- Part of the name of an attribute. -/
def isAttributeNameChar (c : Char) : Bool :=
  !isBlank c && !(['"', '\'', '>', '/', '='].contains c)

/-- Part of a value without quotes. -/
def isBareValueChar (c : Char) : Bool :=
  !isBlank c && !(['"', '\'', '=', '<', '>', '\x60'].contains c)

/-- A value at the beginning of a text, and the number of characters it takes. -/
def value? (cs : List Char) : Option (List Char × Nat) :=
  match cs with
  | [] => none
  | q :: rest =>
    if q == '"' || q == '\'' then
      let inner := rest.takeWhile (· != q)
      if inner.length < rest.length then some (inner, inner.length + 2) else none
    else
      let bare := cs.takeWhile isBareValueChar
      if bare.isEmpty then none else some (bare, bare.length)

/-- An equals sign and a value, with the blanks around the sign. -/
def assignedValue? (cs : List Char) : Option (List Char × Nat) :=
  let before := (cs.takeWhile isBlank).length
  match cs.drop before with
  | '=' :: rest =>
    let after := (rest.takeWhile isBlank).length
    (value? (rest.drop after)).map fun (v, n) => (v, before + 1 + after + n)
  | _ => none

/-- An attribute behind blanks, and the number of characters it takes. -/
def attribute? (cs : List Char) : Option (Attribute × Nat) :=
  let blanks := (cs.takeWhile isBlank).length
  let name := (cs.drop blanks).takeWhile isAttributeNameChar
  if blanks == 0 || name.isEmpty then none
  else
    let width := blanks + name.length
    let lowered := lower (String.ofList name)
    match assignedValue? (cs.drop width) with
    | some (v, n) => some (⟨lowered, some (String.ofList v)⟩, width + n)
    | none => some (⟨lowered, none⟩, width)

/-- The end of a tag: whether a slash closes it, and the number of characters it takes. -/
def tagEnd? (cs : List Char) : Option (Bool × Nat) :=
  let blanks := (cs.takeWhile isBlank).length
  match cs.drop blanks with
  | '>' :: _ => some (false, blanks + 1)
  | '/' :: '>' :: _ => some (true, blanks + 2)
  | _ => none

/-- What follows the name of a start tag. -/
structure TagRest where
  attributes : List Attribute
  selfClosing : Bool
  /-- Where the end of the tag begins. -/
  endStart : Nat
  /-- Behind the tag. -/
  stop : Nat

/-- The attributes and the end of a tag from `offset` on; `last` is where the token before it
begins. If the text ends too early, reading stopped at the last token. -/
def tagRest : Nat → Nat → Nat → List Char → List Attribute → Except Nat TagRest
  | 0, _, offset, _, _ => .error offset
  | fuel + 1, last, offset, cs, done =>
    if cs.isEmpty then .error last
    else match attribute? cs with
      | some (a, n) => tagRest fuel offset (offset + n) (cs.drop n) (a :: done)
      | none =>
        match tagEnd? cs with
        | some (selfClosing, n) => .ok ⟨done.reverse, selfClosing, offset, offset + n⟩
        | none => .error offset

/-- The number of characters of the end tag of a raw element, if it stands here. -/
def rawClose? (word : List Char) (cs : List Char) : Option Nat :=
  if startsWithWord ('<' :: '/' :: word) cs then
    let rest := cs.drop (word.length + 2)
    let blanks := (rest.takeWhile isBlank).length
    if (rest.drop blanks).head? == some '>' then some (word.length + 2 + blanks + 1) else none
  else none

/-- The characters in front of the end tag of a raw element. -/
def rawText (word : List Char) : List Char → List Char
  | [] => []
  | c :: cs => if startsWithWord ('<' :: '/' :: word) (c :: cs) then [] else c :: rawText word cs

/-- The contents and the end tag of a raw element whose start tag ends at `offset`. -/
def rawRest (word : List Char) (tag : String) (start : Nat) (head : TagRest) (cs : List Char) :
    Except Nat Event :=
  let offset := head.stop
  let text := if (rawClose? word cs).isSome then [] else rawText word cs
  let innerStop := offset + text.length
  let rest := cs.drop text.length
  match rawClose? word rest with
  | some n => .ok ⟨start, innerStop + n,
      .rawElement tag head.attributes offset innerStop (String.ofList text)⟩
  | none =>
    if !rest.isEmpty then .error innerStop
    else .error (if text.isEmpty then head.endStart else offset)

/-! ## Events -/

/-- The name behind `<` continues up to a blank, a slash or the end of the tag. -/
def isTagNameChar (c : Char) : Bool := !isBlank c && c != '/' && c != '>'

/-- The element of a raw kind that begins here, if it does: its word ends at a blank, a slash or the
end of the tag. -/
def rawWord? (cs : List Char) : Option (List Char) :=
  [['s', 'c', 'r', 'i', 'p', 't'], ['s', 't', 'y', 'l', 'e']].find? fun word =>
    startsWithWord ('<' :: word) cs && ((cs.drop (word.length + 1)).head?.map fun c =>
      isBlank c || c == '/' || c == '>').getD false

/-- A comment, if one stands here: its data. -/
def comment? (cs : List Char) : Option (List Char) :=
  match cs with
  | '<' :: '!' :: '-' :: '-' :: rest =>
    (indexOfChars ['-', '-', '>'] rest).map fun n => rest.take n
  | _ => none

/-- The number of characters up to and with the next `>`. -/
def throughClose? (cs : List Char) : Option Nat :=
  let inner := cs.takeWhile (· != '>')
  if inner.length < cs.length then some (inner.length + 1) else none

/-- A declaration, if one stands here: the number of characters it takes. -/
def declaration? (cs : List Char) : Option Nat :=
  match cs with
  | '<' :: '!' :: '-' :: '-' :: _ => none
  | '<' :: '!' :: rest => (throughClose? rest).map (· + 2)
  | _ => none

/-- An end tag, if one stands here: the number of characters it takes. -/
def endTag? (cs : List Char) : Option Nat :=
  match cs with
  | '<' :: '/' :: c :: rest =>
    if isAsciiLetter c then (throughClose? rest).map (· + 3) else none
  | _ => none

/-- The name of a start tag, if one begins here. -/
def tagName? (cs : List Char) : Option (List Char) :=
  match cs with
  | '<' :: c :: rest => if isAsciiLetter c then some (c :: rest.takeWhile isTagNameChar) else none
  | _ => none

/-- The event that begins a text, which is not empty and starts at `start`. -/
def scanEvent (start : Nat) (cs : List Char) : Except Nat Event :=
  if let some data := comment? cs then
    .ok ⟨start, start + data.length + 7, .comment (String.ofList data)⟩
  else if let some n := declaration? cs then .ok ⟨start, start + n, .declaration⟩
  else if let some word := rawWord? cs then do
    let width := word.length + 1
    let tag := lower (String.ofList ((cs.take width).drop 1))
    let head ← tagRest (cs.length + 1) start (start + width) (cs.drop width) []
    rawRest word tag start head (cs.drop (head.stop - start))
  else if let some n := endTag? cs then
    let inner := (cs.take (n - 1)).drop 2
    .ok ⟨start, start + n, .endTag (lower (trim (String.ofList inner)))⟩
  else if let some name := tagName? cs then do
    let width := name.length + 1
    let rest ← tagRest (cs.length + 1) start (start + width) (cs.drop width) []
    return ⟨start, rest.stop, .startTag (lower (String.ofList name)) rest.attributes rest.selfClosing⟩
  else
    let text := match cs with
      | '<' :: _ => ['<']
      | _ => cs.takeWhile (· != '<')
    .ok ⟨start, start + text.length, .text (String.ofList text)⟩

/-- The events of a text from `start` on; at most `fuel` of them. -/
def scanFrom : Nat → Nat → List Char → Except Nat (List Event)
  | 0, _, _ => .ok []
  | fuel + 1, start, cs =>
    if cs.isEmpty then .ok []
    else do
      let event ← scanEvent start cs
      return event :: (← scanFrom fuel event.stop (cs.drop (event.stop - start)))

/-- The events of a text, or the offset where reading stopped. -/
def scan (source : String) : Except Nat (List Event) := scanFrom source.length 0 source.toList

end HtmlModules.Markup
