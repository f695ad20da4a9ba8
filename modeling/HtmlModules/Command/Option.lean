import HtmlModules.Failure
import HtmlModules.Json.Decimal
import HtmlModules.Text.Alphabet
import HtmlModules.Text.Basic

/-!
# Options of a command line

An option is written by one of its names or by the beginning of a long name that no other option
shares; its value follows it, or is attached to it by an equals sign. Short options take no value and
may be written together. What is neither an option nor its value is left over.

Two dashes that are attached to an option are no value at all. The command line is then read as if the
value was empty, but most options make the run fail that they are given to.

Options take effect from left to right, so the first mistake or call for help decides.
-/

namespace HtmlModules.Command

open Text

/-- Why a command line is not carried out. -/
inductive UsageExit where
  /-- Help was asked for. -/
  | help
  | mistake
deriving DecidableEq, Repr

/-- The exit code. -/
def UsageExit.code : UsageExit → Nat
  | .help => 0
  | .mistake => 2

/-- How an option is used. -/
inductive OptionKind where
  | help
  | flag
  /-- It takes a value, and not every one may do. -/
  | value (accepts : String → Bool)

/-- An option with its names; the first one stands for it. -/
structure OptionSpec where
  names : List String
  kind : OptionKind
  required : Bool := false
  /-- Why a run fails in which the option has been given no value; nothing if it does not. -/
  whenBlank : Option Failure := none

/-- The name that stands for the option. -/
def OptionSpec.key (o : OptionSpec) : String := o.names.headD ""

/-- One word of a command line. -/
inductive Token where
  | word (text : String)
  /-- Two dashes: no options follow. -/
  | separator
  | option (spec : OptionSpec) (name : String) (attached : Option String)
  /-- It looks like an option and is none. -/
  | unknown (text : String)

/-! ## Recognising options -/

/-- The options with a name. -/
def named (specs : List OptionSpec) (name : String) : Option OptionSpec :=
  specs.find? (·.names.contains name)

/-- A word split at its first equals sign. -/
def splitAttached (text : String) : String × Option String :=
  let name := before '=' text
  (name, afterStart? text (name ++ "="))

/-- The readings of a word as the beginning of a long name. -/
def longReadings (specs : List OptionSpec) (text : String) : List Token :=
  let (start, attached) := splitAttached text
  specs.flatMap fun o =>
    (o.names.filter (startsWith · start)).map fun name => .option o name attached

/-- The readings of a word as a short name with something behind it, or as the beginning of a name
with one dash. -/
def shortReadings (specs : List OptionSpec) (text : String) : List Token :=
  specs.flatMap fun o => o.names.filterMap fun name =>
    if name == slice text 0 2 then some (.option o name (some (dropFirst 2 text)))
    else if startsWith name text then some (.option o name none)
    else none

/-- A decimal number below zero. -/
def isNegativeNumber (text : String) : Bool :=
  match text.toList with
  | '-' :: cs =>
    let whole := cs.takeWhile decimalRanges.holds
    match cs.drop whole.length with
    | [] => !whole.isEmpty
    | ['\n'] => !whole.isEmpty
    | '.' :: places =>
      let rest := places.dropWhile decimalRanges.holds
      (rest == [] || rest == ['\n']) && (places.head?.any decimalRanges.holds)
    | _ => false
  | _ => false

/-- What a word that begins with a dash and is no exact name stands for. -/
def readDashed (specs : List OptionSpec) (text : String) : Except UsageExit Token :=
  let (name, attached) := splitAttached text
  match attached.bind fun _ => named specs name with
  | some o => .ok (.option o name attached)
  | none =>
    let readings := if startsWith text "--" then longReadings specs text
      else shortReadings specs text
    match readings with
    | [reading] => .ok reading
    | _ :: _ :: _ => .error .mistake
    | [] =>
      if isNegativeNumber text || contains text " " then .ok (.word text)
      else .ok (.unknown text)

/-- What a word stands for. -/
def readToken (specs : List OptionSpec) (text : String) : Except UsageExit Token :=
  if !startsWith text "-" then .ok (.word text)
  else match named specs text with
    | some o => .ok (.option o text none)
    | none => if text == "-" then .ok (.word text) else readDashed specs text

/-- What the words of a command line stand for. -/
def readTokens (specs : List OptionSpec) : List String → Except UsageExit (List Token)
  | [] => .ok []
  | "--" :: rest => .ok (.separator :: rest.map .word)
  | text :: rest => do return (← readToken specs text) :: (← readTokens specs rest)

/-! ## Carrying them out -/

/-- The options given, each with its value, whether anything is left over, and why the run will
fail. -/
structure Given where
  values : List (String × String) := []
  leftover : Bool := false
  failure : Option Failure := none

namespace Given

/-- Adds an option. -/
def add (g : Given) (o : OptionSpec) (value : String) : Given :=
  { g with values := g.values ++ [(o.key, value)] }

/-- Adds an option that has been given no value. -/
def addBlank (g : Given) (o : OptionSpec) : Given :=
  { g.add o "" with failure := g.failure.or o.whenBlank }

/-- The values of an option, in order. -/
def all (g : Given) (key : String) : List String :=
  g.values.filterMap fun (k, v) => if k == key then some v else none

/-- The last value of an option. -/
def last? (g : Given) (key : String) : Option String := (g.all key).getLast?

/-- The option was given. -/
def has (g : Given) (key : String) : Bool := g.values.any (·.1 == key)

/-- The values of an option if it was given. -/
def all? (g : Given) (key : String) : Option (List String) :=
  if g.has key then some (g.all key) else none

/-- Carries out options that take no value. -/
def addFlags (g : Given) : List OptionSpec → Except UsageExit Given
  | [] => .ok g
  | o :: rest =>
    match o.kind with
    | .help => .error .help
    | _ => (g.add o "").addFlags rest

/-- Carries out an option with its value. -/
def addValue (g : Given) (o : OptionSpec) (value : String) : Except UsageExit Given :=
  match o.kind with
  | .value accepts => if accepts value then .ok (g.add o value) else .error .mistake
  | _ => .error .mistake

end Given

/-- The short options written behind a short option. -/
def clustered (specs : List OptionSpec) (names : String) : Except UsageExit (List OptionSpec) :=
  names.toList.mapM fun c =>
    match named specs (String.ofList ['-', c]) with
    | some o => .ok o
    | none => .error .mistake

/-- Carries out an option with something attached to it. -/
def addAttached (specs : List OptionSpec) (g : Given) (o : OptionSpec) (name attached : String) :
    Except UsageExit Given :=
  match o.kind with
  | .value _ => if attached = "--" then .ok (g.addBlank o) else g.addValue o attached
  | _ =>
    if startsWith name "--" || attached = "" then .error .mistake
    else do g.addFlags (o :: (← clustered specs attached))

/-- Carries out the words of a command line. -/
def carryOut (specs : List OptionSpec) (g : Given) : List Token → Except UsageExit Given
  | [] => .ok g
  | .option o name (some attached) :: rest => do
    carryOut specs (← addAttached specs g o name attached) rest
  | .option o _ none :: rest =>
    match o.kind, rest with
    | .value _, .word value :: rest => do carryOut specs (← g.addValue o value) rest
    | .value _, _ => .error .mistake
    | _, rest => do carryOut specs (← g.addFlags [o]) rest
  | _ :: rest => carryOut specs { g with leftover := true } rest

/-- Reads a command line. -/
def readOptions (specs : List OptionSpec) (words : List String) : Except UsageExit Given := do
  let g ← carryOut specs {} (← readTokens specs words)
  if specs.any fun o => o.required && !g.has o.key then throw .mistake
  return g

/-! ## Values -/

/-- Any value will do. -/
def anyValue : OptionKind := .value fun _ => true

/-- One of some words. -/
def oneOf (allowed : List String) : OptionKind := .value allowed.contains

/-- Digits with single underscores between them. -/
def isDigits : List Char → Bool
  | [] => false
  | [c] => decimalRanges.holds c
  | c :: '_' :: cs => decimalRanges.holds c && isDigits cs
  | c :: cs => decimalRanges.holds c && isDigits cs

/-- A blank that may stand around an integer; the separators of files and records may not. -/
def isMargin (c : Char) : Bool := isBlank c && !('\x1c' ≤ c && c ≤ '\x1f')

/-- The text of an integer, perhaps with a sign and with blanks around it, that is not too long. -/
def isInteger (text : String) : Bool :=
  let digits := match (trimBoth isMargin text).toList with
    | '+' :: cs | '-' :: cs => cs
    | cs => cs
  isDigits digits && digits.countP decimalRanges.holds ≤ Decimal.mostDigits

end HtmlModules.Command
