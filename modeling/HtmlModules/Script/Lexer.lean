import HtmlModules.Script.Token
import HtmlModules.Text.Alphabet
import HtmlModules.Text.Surrogate
import HtmlModules.Json.Reader

/-!
# From characters to tokens

A `Cursor` stands in front of the unread characters of a script and remembers its offset, its line
and the braces that are open; a closing brace continues a template if the innermost open one began a
substitution. `nextToken` skips white space and comments and reads one token. Whether a slash begins
a regular expression is for the grammar to say, which then calls `scanRegex`.
-/

namespace HtmlModules.Script

open Text

/-! ## Characters -/

/-- May begin an identifier; a backslash begins an escaped one. -/
def isIdentifierStart (c : Char) : Bool :=
  if c.toNat < 0x80 then isAsciiLetter c || c == '$' || c == '_' || c == '\\'
  else isLetter c || otherIdentifierStart.holds c

/-- May continue an identifier. -/
def isIdentifierPart (c : Char) : Bool :=
  if c.toNat < 0x80 then isIdentifierStart c || isAsciiDigit c
  else isIdentifierStart c || markRanges.holds c || decimalRanges.holds c ||
    connectorRanges.holds c || otherIdentifierPart.holds c || c == '\u200C' || c == '\u200D'

/-- White space between tokens. -/
def isSpace (c : Char) : Bool :=
  let n := c.toNat
  n == 0x09 || n == 0x0B || n == 0x0C || n == 0x20 || n == 0xA0 || n == 0x1680 || n == 0x180E ||
    (0x2000 ≤ n && n ≤ 0x200A) || n == 0x202F || n == 0x205F || n == 0x3000 || n == 0xFEFF

/-- Ends a line. -/
def isLineEnd (c : Char) : Bool := c == '\n' || c == '\r' || c == '\u2028' || c == '\u2029'

/-- An octal digit. -/
def isOctalDigit (c : Char) : Bool := '0' ≤ c && c ≤ '7'

/-- A hexadecimal digit. -/
def isHexDigit (c : Char) : Bool := (Json.hexValue? c).isSome

/-! ## Words -/

/-- The words that are always keywords. -/
def keywords : List String :=
  ["if", "in", "do", "var", "for", "new", "try", "let", "this", "else", "case", "void", "with",
    "enum", "while", "break", "catch", "throw", "const", "yield", "class", "super", "return",
    "typeof", "delete", "switch", "export", "import", "default", "finally", "extends", "function",
    "continue", "debugger", "instanceof"]

/-- Words reserved for the future everywhere. -/
def isFutureReserved (w : String) : Bool := ["enum", "export", "import", "super"].contains w

/-- Words reserved in strict code. -/
def isStrictReserved (w : String) : Bool :=
  ["implements", "interface", "package", "private", "protected", "public", "static", "yield",
    "let"].contains w

/-- Names that strict code may not bind. -/
def isRestricted (w : String) : Bool := w == "eval" || w == "arguments"

/-- The kind of the token that a word makes. -/
def wordKind (w : String) : TokenKind :=
  if w.length == 1 then .identifier
  else if keywords.contains w then .keyword
  else if w == "null" then .null
  else if w == "true" || w == "false" then .boolean
  else .identifier

/-! ## The cursor -/

/-- What an open brace encloses. -/
inductive Brace where
  | plain
  | substitution
deriving DecidableEq, Repr

/-- A place in the script: the unread characters, the offset and line of the first of them, the
offset the line starts at, and the open braces, innermost first. -/
structure Cursor where
  rest : List Char
  offset : Nat
  line : Nat
  lineStart : Nat
  braces : List Brace
  /-- The text `<!--` begins a comment. -/
  markupComments : Bool := true
deriving Inhabited

namespace Cursor

/-- The beginning of a script; an empty one has no first line. -/
def ofText (s : String) : Cursor :=
  { rest := s.toList, offset := 0, line := if s.isEmpty then 0 else 1, lineStart := 0, braces := [] }

/-- The next character, NUL at the end. -/
def char (c : Cursor) : Char := c.rest.headD '\x00'

/-- No character is left. -/
def atEnd (c : Cursor) : Bool := c.rest.isEmpty

/-- Moves past `n` characters. -/
def skip (n : Nat) (c : Cursor) : Cursor := { c with rest := c.rest.drop n, offset := c.offset + n }

/-- Moves past the characters that satisfy `p`. -/
def skipWhile (p : Char → Bool) (c : Cursor) : Cursor := c.skip (c.rest.takeWhile p).length

/-- Starts a new line here. -/
def newLine (c : Cursor) : Cursor := { c with line := c.line + 1, lineStart := c.offset }

/-- Moves past the line end that begins with `ch`, the cursor standing behind `ch`. -/
def finishLine (ch : Char) (c : Cursor) : Cursor :=
  (if ch == '\r' && c.rest.head? == some '\n' then c.skip 1 else c).newLine

/-- Refuses the script here. -/
def fail (c : Cursor) (fault : Fault := .illegalToken) : Except SyntaxError α :=
  .error ⟨fault, some (c.line, (c.offset : Int) - c.lineStart + 1)⟩

/-- The token of the characters from `start` up to here. -/
def token (start : Nat) (kind : TokenKind) (value : String) (c : Cursor) : Token :=
  { kind, value, start, stop := c.offset, line := c.line }

end Cursor

/-! ## White space and comments -/

/-- Moves behind the end of the line. -/
def skipLine : Nat → Cursor → Cursor
  | 0, c => c
  | fuel + 1, c =>
    match c.rest with
    | [] => c
    | ch :: _ => if isLineEnd ch then (c.skip 1).finishLine ch else skipLine fuel (c.skip 1)

/-- Moves behind the end of a block comment. -/
def skipBlock : Nat → Cursor → Except SyntaxError Cursor
  | 0, c => c.fail
  | fuel + 1, c =>
    match c.rest with
    | [] => c.fail
    | '*' :: '/' :: _ => .ok (c.skip 2)
    | ch :: _ => if isLineEnd ch then skipBlock fuel ((c.skip 1).finishLine ch)
      else skipBlock fuel (c.skip 1)

/-- Moves behind white space and comments. `fresh` tells that only those stand between the start of
the line and the cursor, where `-->` begins a comment. -/
def skipTrivia : Nat → Bool → Cursor → Except SyntaxError Cursor
  | 0, _, c => .ok c
  | fuel + 1, fresh, c =>
    match c.rest with
    | [] => .ok c
    | '/' :: '/' :: _ => skipTrivia fuel true (skipLine c.rest.length (c.skip 2))
    | '/' :: '*' :: _ => do skipTrivia fuel fresh (← skipBlock (c.rest.length + 1) (c.skip 2))
    | '<' :: '!' :: '-' :: '-' :: _ =>
      if c.markupComments then skipTrivia fuel fresh (skipLine c.rest.length (c.skip 4)) else .ok c
    | '-' :: '-' :: '>' :: _ =>
      if fresh then skipTrivia fuel fresh (skipLine c.rest.length (c.skip 3)) else .ok c
    | ch :: _ =>
      if isSpace ch then skipTrivia fuel fresh (c.skip 1)
      else if isLineEnd ch then skipTrivia fuel true ((c.skip 1).finishLine ch)
      else .ok c

/-- The place of the next token. -/
def Cursor.trimmed (c : Cursor) : Except SyntaxError Cursor :=
  skipTrivia (c.rest.length + 1) (c.offset == 0) c

/-! ## Escapes -/

/-- The number that up to `n` hexadecimal digits spell, if there are `n`, and the place behind the
digits. -/
def hexNumber : Nat → Nat → Cursor → Option Nat × Cursor
  | 0, value, c => (some value, c)
  | n + 1, value, c =>
    match c.rest with
    | ch :: _ => match Json.hexValue? ch with
      | some d => hexNumber n (value * 16 + d) (c.skip 1)
      | none => (none, c)
    | [] => (none, c)

/-- The characters of a code point in braces, the cursor standing behind the opening one. -/
def bracedCodePoint (c : Cursor) : Except SyntaxError (List Char × Cursor) :=
  if c.char == '\x7d' && !c.atEnd then c.fail
  else
    let digits := c.rest.takeWhile isHexDigit
    let value := digits.foldl (fun n d => n * 16 + (Json.hexValue? d).getD 0) 0
    let after := c.skip digits.length
    let closed := after.rest.head? == some '\x7d'
    let past := if after.atEnd then after else after.skip 1
    if value > 0x10FFFF || !closed then past.fail else .ok (pointChars value, past)

/-- The characters of `\u` in an identifier, the cursor standing behind the backslash. -/
def identifierEscape (allowed : Char → Bool) (c : Cursor) :
    Except SyntaxError (List Char × Cursor) :=
  if c.rest.head? != some 'u' then c.fail
  else
    let c := c.skip 1
    if c.rest.head? == some '\x7b' then bracedCodePoint (c.skip 1)
    else match hexNumber 4 0 c with
      | (some n, c) =>
        let ch := Char.ofNat n
        if ch == '\\' || !allowed ch then c.fail else .ok ([ch], c)
      | (none, c) => c.fail

/-- The rest of an identifier. -/
def identifierRest : Nat → Cursor → List Char → Except SyntaxError (List Char × Cursor)
  | 0, c, done => .ok (done.reverse, c)
  | fuel + 1, c, done =>
    match c.rest with
    | '\\' :: _ => do
      let (chars, c) ← identifierEscape isIdentifierPart (c.skip 1)
      identifierRest fuel c (chars.reverse ++ done)
    | ch :: _ =>
      if isIdentifierPart ch then identifierRest fuel (c.skip 1) (ch :: done)
      else .ok (done.reverse, c)
    | [] => .ok (done.reverse, c)

/-- A word; one that is not a plain identifier may not be written with escapes. -/
def scanWord (c : Cursor) : Except SyntaxError (Token × Cursor) := do
  let (first, next) ← match c.rest with
    | '\\' :: _ => identifierEscape isIdentifierStart (c.skip 1)
    | ch :: _ => pure ([ch], c.skip 1)
    | [] => c.fail
  let (word, next) ← identifierRest (next.rest.length + 1) next first.reverse
  let value := String.ofList word
  let kind := wordKind value
  if kind != .identifier && c.offset + word.length != next.offset then
    (c.fail .escapedKeyword : Except SyntaxError Unit)
  return (next.token c.offset kind value, next)

/-! ## Punctuation -/

/-- The punctuators that are read by longest match. -/
def punctuators : List String :=
  [">>>=", "===", "!==", ">>>", "<<=", ">>=", "**=", "&&", "||", "==", "!=", "+=", "-=", "*=", "/=",
    "++", "--", "<<", ">>", "&=", "|=", "^=", "%=", "<=", ">=", "=>", "**", "<", ">", "=", "!", "+",
    "-", "*", "%", "&", "|", "^", "/", "...", ".", "(", ")", ";", ",", "[", "]", ":", "?", "~",
    "\x7b", "\x7d"]

/-- One punctuator. -/
def scanPunctuator (c : Cursor) : Except SyntaxError (Token × Cursor) :=
  match punctuators.find? fun p => p.toList.isPrefixOf c.rest with
  | none => c.fail
  | some p =>
    let next := c.skip p.length
    let next := if p == "\x7b" then { next with braces := .plain :: next.braces }
      else if p == "\x7d" then { next with braces := next.braces.drop 1 } else next
    .ok (next.token c.offset .punctuator p, next)

/-! ## Numbers -/

/-- A whole number in the given base behind its marker; it is refused if it has fewer than `least`
digits or if a character follows that satisfies `bad`. -/
def scanWhole (start base : Nat) (bad : Char → Bool) (least : Nat) (octal : Bool) (c : Cursor) :
    Except SyntaxError (Token × Cursor) :=
  let digits := c.rest.takeWhile fun ch => (Json.hexValue? ch).any (· < base)
  let next := c.skip digits.length
  if digits.length < least then next.fail
  else if !next.atEnd && bad next.char then next.fail
  else
    let value := digits.foldl (fun n d => n * base + (Json.hexValue? d).getD 0) 0
    .ok ({ next.token start .number (toString value) with octal }, next)

/-- The digits behind a leading zero are octal: no 8 or 9 comes before the first other character. -/
def isImplicitOctal (cs : List Char) : Bool :=
  let rest := cs.dropWhile isOctalDigit
  rest.head? != some '8' && rest.head? != some '9'

/-- A decimal number. -/
def scanDecimal (c : Cursor) : Except SyntaxError (Token × Cursor) := do
  let next := c.skipWhile isAsciiDigit
  let next := if next.rest.head? == some '.' then (next.skip 1).skipWhile isAsciiDigit else next
  let next ← match next.rest with
    | e :: rest =>
      if e == 'e' || e == 'E' then
        let signed := match rest with
          | s :: _ => s == '+' || s == '-'
          | [] => false
        let power := next.skip (if signed then 2 else 1)
        if power.rest.head?.any isAsciiDigit then pure (power.skipWhile isAsciiDigit)
        else power.fail
      else pure next
    | [] => pure next
  if !next.atEnd && isIdentifierStart next.char then
    (next.fail : Except SyntaxError Unit)
  let value := (Decimal.Numeral.ofChars (c.rest.take (next.offset - c.offset))).nearestDouble
  return (next.token c.offset .number (Decimal.wholeText value), next)

/-- A number. -/
def scanNumber (c : Cursor) : Except SyntaxError (Token × Cursor) :=
  let digitFollows := fun ch => isIdentifierStart ch || isAsciiDigit ch
  match c.rest with
  | '0' :: x :: _ =>
    if x == 'x' || x == 'X' then scanWhole c.offset 16 isIdentifierStart 1 false (c.skip 2)
    else if x == 'b' || x == 'B' then scanWhole c.offset 2 digitFollows 1 false (c.skip 2)
    else if x == 'o' || x == 'O' then scanWhole c.offset 8 digitFollows 1 false (c.skip 2)
    else if isOctalDigit x && isImplicitOctal (c.rest.drop 2) then
      scanWhole c.offset 8 digitFollows 0 true (c.skip 1)
    else scanDecimal c
  | _ => scanDecimal c

/-! ## Strings and templates -/

/-- The character that a one-letter escape stands for. -/
def simpleEscape? : Char → Option Char
  | 'n' => some '\n'
  | 'r' => some '\r'
  | 't' => some '\t'
  | 'b' => some '\x08'
  | 'f' => some '\x0c'
  | 'v' => some '\x0b'
  | _ => none

/-- The digits of an octal escape beginning with `ch`, the cursor standing behind it: up to three if
the first is at most `3`, else up to two. -/
def octalEscape (ch : Char) (c : Cursor) : List Char :=
  (ch :: c.rest.takeWhile isOctalDigit).take (if ch ≤ '3' then 3 else 2)

/-- The characters of a string up to its closing quote, whether it holds an octal escape, and the
place behind it; the cursor stands behind the opening quote. `none` if the line or the text ends
first; the place then is where the reading stopped. -/
def stringBody (quote : Char) : Nat → Cursor → List Char → Bool →
    Except SyntaxError (Option (List Char × Bool) × Cursor)
  | 0, c, _, _ => .ok (none, c)
  | fuel + 1, c, done, octal =>
    match c.rest with
    | [] => .ok (none, c)
    | ch :: _ =>
      let c := c.skip 1
      if ch == quote then .ok (some (done.reverse, octal), c)
      else if ch == '\\' then
        match c.rest with
        | [] => .ok (none, c.skip 1)
        | e :: _ =>
          let c := c.skip 1
          if isLineEnd e then stringBody quote fuel (c.finishLine e) done octal
          else if e == 'u' then
            if c.rest.head? == some '\x7b' then do
              let (chars, c) ← bracedCodePoint (c.skip 1)
              stringBody quote fuel c (chars.reverse ++ done) octal
            else match hexNumber 4 0 c with
              | (some n, c) => stringBody quote fuel c ((pointChars n).reverse ++ done) octal
              | (none, c) => c.fail
          else if e == 'x' then match hexNumber 2 0 c with
            | (some n, c) => stringBody quote fuel c (Char.ofNat n :: done) octal
            | (none, c) => c.fail .invalidHexEscape
          else if e == '8' || e == '9' then c.fail
          else if isOctalDigit e then
            let digits := octalEscape e c
            let value := digits.foldl (fun n d => n * 8 + (d.toNat - '0'.toNat)) 0
            stringBody quote fuel (c.skip (digits.length - 1)) (Char.ofNat value :: done)
              (octal || e != '0' || digits.length > 1)
          else stringBody quote fuel c ((simpleEscape? e).getD e :: done) octal
      else if isLineEnd ch then .ok (none, c)
      else stringBody quote fuel c (ch :: done) octal

/-- A string. One without an end is reported at its beginning, on the line where reading stopped. -/
def scanString (c : Cursor) : Except SyntaxError (Token × Cursor) := do
  match ← stringBody c.char (c.rest.length + 1) (c.skip 1) [] false with
  | (some (value, octal), next) =>
    return ({ next.token c.offset .string (String.ofList value) with octal }, next)
  | (none, next) => Cursor.fail { next with rest := c.rest, offset := c.offset }

/-- The place behind a template part, and whether the template ends there; the cursor stands inside
the part. -/
def templateBody : Nat → Cursor → Except SyntaxError (Bool × Cursor)
  | 0, c => c.fail
  | fuel + 1, c =>
    match c.rest with
    | [] => c.fail
    | '\x60' :: _ => .ok (true, c.skip 1)
    | '$' :: '\x7b' :: _ => .ok (false, c.skip 2)
    | '\\' :: e :: _ =>
      let c := c.skip 2
      if isLineEnd e then templateBody fuel (c.finishLine e)
      else if e == 'u' then
        if c.rest.head? == some '\x7b' then do
          let (_, c) ← bracedCodePoint (c.skip 1)
          templateBody fuel c
        else match hexNumber 4 0 c with
          | (some _, c) => templateBody fuel c
          | (none, _) => templateBody fuel c
      else if e == 'x' then match hexNumber 2 0 c with
        | (some _, c) => templateBody fuel c
        | (none, c) => c.fail .invalidHexEscape
      else if e == '0' then
        if c.rest.head?.any isAsciiDigit then c.fail .octalInTemplate else templateBody fuel c
      else if isOctalDigit e then c.fail .octalInTemplate
      else templateBody fuel c
    | '\\' :: [] => (c.skip 2).fail
    | ch :: _ =>
      if isLineEnd ch then templateBody fuel ((c.skip 1).finishLine ch)
      else templateBody fuel (c.skip 1)

/-- One part of a template, with its delimiters. -/
def scanTemplate (c : Cursor) : Except SyntaxError (Token × Cursor) := do
  let head := c.char == '\x60'
  let (tail, next) ← templateBody (c.rest.length + 1) (c.skip 1)
  let braces := if head then next.braces else next.braces.drop 1
  let next := { next with braces := if tail then braces else .substitution :: braces }
  let width := next.offset - c.offset - (if tail then 2 else 3)
  let raw := String.ofList ((c.rest.drop 1).take width)
  return ({ next.token c.offset .template raw with head, tail }, next)

/-! ## Regular expressions -/

/-- The characters of a regular expression behind its first slash; `inSet` tells that a bracket is
open. -/
def regexBody : Nat → Bool → Cursor → List Char → Except SyntaxError (List Char × Cursor)
  | 0, _, c, _ => c.fail .unterminatedRegex
  | fuel + 1, inSet, c, done =>
    match c.rest with
    | [] => c.fail .unterminatedRegex
    | '\\' :: [] => (c.skip 2).fail .unterminatedRegex
    | '\\' :: e :: _ =>
      if isLineEnd e then (c.skip 2).fail .unterminatedRegex
      else regexBody fuel inSet (c.skip 2) (e :: '\\' :: done)
    | ch :: _ =>
      let c := c.skip 1
      if isLineEnd ch then c.fail .unterminatedRegex
      else if inSet then regexBody fuel (ch != ']') c (ch :: done)
      else if ch == '/' then .ok (done.reverse, c)
      else regexBody fuel (ch == '[') c (ch :: done)

/-- The flags behind a regular expression; they may not be escaped. -/
def regexFlags (c : Cursor) : Except SyntaxError (List Char × Cursor) :=
  let flags := c.rest.takeWhile fun ch => isIdentifierPart ch && ch != '\\'
  let next := c.skip flags.length
  match next.rest with
  | '\\' :: 'u' :: _ =>
    let next := next.skip 2
    match hexNumber 4 0 next with
    | (some _, next) => next.fail
    | (none, _) => next.fail
  | '\\' :: _ :: _ => (next.skip 1).fail
  | '\\' :: [] => .ok (flags ++ ['\\'], next.skip 1)
  | _ => .ok (flags, next)

/-- A regular expression, the cursor standing in front of its first slash. `wellFormed` decides on
its body. -/
def scanRegex (wellFormed : List Char → Bool) (c : Cursor) :
    Except SyntaxError (Token × Cursor) := do
  let (body, next) ← regexBody (c.rest.length + 1) false (c.skip 1) []
  let (flags, next) ← regexFlags next
  if !wellFormed body then (next.fail .invalidRegex : Except SyntaxError Unit)
  return ({ next.token c.offset .regex (String.ofList body) with flags := String.ofList flags },
    next)

/-! ## Tokens -/

/-- The token that starts at the cursor. -/
def scanToken (c : Cursor) : Except SyntaxError (Token × Cursor) :=
  match c.rest with
  | [] => .ok (c.token c.offset .endOfInput "", c)
  | ch :: rest =>
    if isIdentifierStart ch then scanWord c
    else if ch == '\'' || ch == '"' then scanString c
    else if ch == '.' then
      if rest.head?.any isAsciiDigit then scanNumber c else scanPunctuator c
    else if isAsciiDigit ch then scanNumber c
    else if ch == '\x60' || (ch == '\x7d' && c.braces.head? == some .substitution) then
      scanTemplate c
    else scanPunctuator c

/-- The next token behind white space and comments, and the place behind it. -/
def nextToken (c : Cursor) : Except SyntaxError (Token × Cursor) := do scanToken (← c.trimmed)

end HtmlModules.Script
