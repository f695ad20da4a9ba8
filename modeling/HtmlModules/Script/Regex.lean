import HtmlModules.Script.Regex.Escape

/-!
# Regular expressions

A check that the body of a regular expression can be compiled. Groups are numbered from one in the
order in which they open and may have names; a reference must name a group that is closed. What stands
behind the place of a lookbehind must have one width, so every part is read with the numbers of
characters it can match. Flags at the beginning hold for the whole expression, flags in a group for the
group; of them only `x`, which allows blanks and comments, changes how an expression is read.
-/

namespace HtmlModules.Script.Regex

open Text

/-! ## Widths -/

/-- The least and the greatest number of characters that a part can match. -/
structure Width where
  least : Nat
  /-- None if there is no bound. -/
  most : Option Nat

namespace Width

/-- Nothing is matched. -/
def none : Width := ⟨0, some 0⟩

/-- One character is matched. -/
def one : Width := ⟨1, some 1⟩

/-- One part behind the other. -/
def append (a b : Width) : Width := ⟨a.least + b.least, do return (← a.most) + (← b.most)⟩

/-- One part or the other. -/
def either (a b : Width) : Width := ⟨min a.least b.least, do return max (← a.most) (← b.most)⟩

/-- A part repeated. Nothing is matched by any number of nothings, and by no parts at all. -/
def times (a count : Width) : Width :=
  let most := if a.most = some 0 || count.most = some 0 then some 0
    else do return (← a.most) * (← count.most)
  ⟨a.least * count.least, most⟩

/-- The greatest width of a lookbehind. -/
def longestBehind : Nat := 0xFFFFFFFF

/-- All matches are equally wide, and not too wide to look back. -/
def isFixed (a : Width) : Bool := a.most == some a.least && a.least ≤ longestBehind

end Width

/-! ## Repetitions -/

/-- A count must be less. -/
def countLimit : Nat := 0xFFFFFFFF

/-- Digits at the beginning of a text as a number, if there are any, and the rest. With too many
digits it is not read, and stands for one that is too great. -/
def number? (cs : List Symbol) : Option Nat × List Symbol :=
  let (digits, rest) := takeChars isAsciiDigit cs.length cs
  let n := if digits.length ≤ Decimal.mostDigits then Decimal.digitsValue digits else countLimit
  (if digits.isEmpty then none else some n, rest)

/-- The counts in braces, from behind the opening one, and the rest. -/
def braces? (cs : List Symbol) : Option (Width × List Symbol) :=
  if cs.head? == some (.char '\x7d') then none
  else
    let (least, rest) := number? cs
    let (most, rest) := match rest with
      | .char ',' :: rest => number? rest
      | _ => (least, rest)
    match rest with
    | .char '\x7d' :: rest => some (⟨least.getD 0, most⟩, rest)
    | _ => none

/-- The counts of a repetition and the rest behind it. Braces that hold no counts are none. -/
def repetition? : List Symbol → Option (Width × List Symbol)
  | .char '*' :: cs => some (⟨0, none⟩, cs)
  | .char '+' :: cs => some (⟨1, none⟩, cs)
  | .char '?' :: cs => some (⟨0, some 1⟩, cs)
  | .char '\x7b' :: cs => braces? cs
  | _ => none

/-- The counts are in order and not too great. -/
def areCounts (count : Width) : Bool :=
  count.least < countLimit && count.most.all fun most => count.least ≤ most && most < countLimit

/-- The rest behind the mark that makes a repetition lazy or possessive. -/
def skipMode : List Symbol → List Symbol
  | .char '?' :: cs | .char '+' :: cs => cs
  | cs => cs

/-! ## Flags -/

/-- The letters of the flags. -/
def flagLetters : List Char := ['i', 'L', 'm', 's', 'x', 'a', 't', 'u']

/-- Flags in parentheses. -/
inductive Flags where
  /-- For the whole expression. -/
  | whole (letters : List Char)
  /-- For a group, in which `x` is added or removed, or kept as it is. -/
  | group (blanks : Option Bool)

/-- No two of the letters tell different alphabets, and none depends on the place. -/
def areTogether (letters : List Char) : Bool :=
  !letters.contains 'L' && !(letters.contains 'a' && letters.contains 'u')

/-- Flags that are taken away are none of the alphabet or of the whole expression. -/
def areRemovable (letters : List Char) : Bool :=
  !letters.isEmpty && letters.all fun c => ['i', 'm', 's', 'x'].contains c

/-- Flags from behind their question mark, and the rest behind the parenthesis or colon that ends
them. -/
def flags? (cs : List Symbol) : Option (Flags × List Symbol) :=
  let (added, rest) := takeChars flagLetters.contains cs.length cs
  if !areTogether added then none
  else match rest with
    | .char ')' :: rest => if added.isEmpty then none else some (.whole added, rest)
    | .char ':' :: rest =>
      if added.isEmpty || added.contains 't' then none
      else some (.group (if added.contains 'x' then some true else none), rest)
    | .char '-' :: rest =>
      let (removed, rest) := takeChars flagLetters.contains rest.length rest
      let blanks := if added.contains 'x' then some true
        else if removed.contains 'x' then some false else none
      if added.contains 't' || !areRemovable removed || added.any removed.contains then none
      else match rest with
        | .char ':' :: rest => some (.group blanks, rest)
        | _ => none
    | _ => none

/-! ## Blanks -/

/-- A blank of a script that counts for nothing where flag `x` holds. -/
def isIgnored (c : Char) : Bool :=
  c == ' ' || c == '\t' || c == '\n' || c == '\r' || c == '\x0b' || c == '\x0c'

/-- The rest behind the first of the given characters. -/
def skipPast (c : Char) (cs : List Symbol) : List Symbol :=
  (cs.dropWhile (· ≠ .char c)).drop 1

/-! ## Expressions -/

/-- What was read last. -/
inductive Item where
  /-- Nothing yet. -/
  | nothing
  /-- A place between two characters: it cannot be repeated. -/
  | place
  /-- Something that is repeated already. -/
  | repeated (width : Width)
  | part (width : Width)

/-- The characters that the item can match. -/
def Item.width : Item → Width
  | nothing | place => .none
  | repeated w | part w => w

/-- Where an alternative stands. -/
inductive Level where
  /-- It is the first of the whole expression, and may begin with flags. -/
  | start
  /-- It is a later one of the whole expression. -/
  | outer
  /-- It is one of a group. -/
  | inner
deriving DecidableEq

/-- Where the alternative behind one stands. -/
def Level.next : Level → Level
  | start | outer => outer
  | inner => inner

/-- The unread symbols and the groups. -/
structure State where
  rest : List Symbol
  /-- The number of the next group. -/
  next : Nat := 1
  /-- The groups that are closed. -/
  closed : List (Nat × Width) := []
  /-- The groups that have names. -/
  names : List (List Char × Nat) := []
  /-- In a lookbehind, the number of the first group that opens in it. -/
  behind : Option Nat := none
  /-- The greatest number that a condition names a group by. -/
  condition : Nat := 0
  /-- The flags of the whole expression. -/
  flags : List Char := []
  /-- Something is repeated. -/
  repeats : Bool := false

namespace State

/-- The state behind a closing parenthesis. -/
def close (s : State) : Option State :=
  match s.rest with
  | .char ')' :: cs => some { s with rest := cs }
  | _ => none

/-- The width of a group that can be referred to. -/
def group? (s : State) (group : Nat) : Option Width :=
  if s.behind.any fun first => decide (first ≤ group) then none else s.closed.lookup group

/-- A reference to a group. -/
def reference (s : State) (group : Nat) (cs : List Symbol) : Option (Item × State) := do
  return (.part (← s.group? group), { s with rest := cs })

/-- The state behind a condition, which may name a group before the group is closed; the symbols begin
behind its parenthesis. -/
def afterCondition? (s : State) (cs : List Symbol) : Option State := do
  let (name, cs) ← enclosed? ')' cs
  let (group, s) ← if isGroupName name then do pure (← s.names.lookup name, s)
    else do
      let group ← groupNumber? name
      pure (group, { s with condition := max s.condition group })
  if s.behind.isSome && (s.group? group).isNone then none else some { s with rest := cs }

/-- An escape that begins with the digit `c`: three octal digits are a character, else it is a
reference. -/
def digits (s : State) (c : Char) (cs : List Symbol) : Option (Item × State) :=
  let digits := c :: (takeChars isAsciiDigit 2 cs).1
  if digits.length = 3 && digits.all isOctal then
    if octalValue digits > lastOctal then none else some (.part .one, { s with rest := cs.drop 2 })
  else
    let group := digits.take 2
    s.reference (Decimal.digitsValue group) (cs.drop (group.length - 1))

/-- An escape, from behind its backslash. -/
def escape (s : State) (c : Char) (cs : List Symbol) : Option (Item × State) :=
  let part := fun (cs : List Symbol) => (Item.part .one, { s with rest := cs })
  if placeLetters.contains c then some (.place, { s with rest := cs })
  else if classLetters.contains c || (controlCode? c).isSome then some (part cs)
  else if pointLetters.contains c then (escapedPoint? c cs).map fun (_, cs) => part cs
  else if c == '0' then some (part (takeChars isOctal 2 cs).2)
  else if isAsciiDigit c then s.digits c cs
  else if isAsciiLetter c then none
  else some (part cs)

/-- The state in a group that opens, which may have a name. -/
def openGroup? (s : State) (name : Option (List Char)) : Option State :=
  match name with
  | none => some { s with next := s.next + 1 }
  | some name =>
    if !isGroupName name || (s.names.lookup name).isSome then none
    else some { s with next := s.next + 1, names := (name, s.next) :: s.names }

end State

mutual

/-- Alternatives up to a closing parenthesis or the end: the characters they can match. `blanks` tells
that flag `x` holds. -/
def alternatives : Nat → Level → Bool → State → Option (Width × State)
  | 0, _, _, _ => none
  | fuel + 1, level, blanks, s => do
    let (width, s) ← sequence fuel level blanks .none .nothing s
    match s.rest with
    | .char '|' :: cs =>
      let blanks := if level = .inner then blanks else s.flags.contains 'x'
      let (other, s) ← alternatives fuel level.next blanks { s with rest := cs }
      return (width.either other, s)
    | _ => return (width, s)

/-- Items up to the end of an alternative; `done` is the width of those before `last`. -/
def sequence : Nat → Level → Bool → Width → Item → State → Option (Width × State)
  | 0, _, _, _, _, _ => none
  | fuel + 1, level, blanks, done, last, s =>
    let push := fun item s => sequence fuel level blanks (done.append last.width) item s
    let skip := fun cs => sequence fuel level blanks done last { s with rest := cs }
    match s.rest with
    | [] | .char '|' :: _ | .char ')' :: _ => some (done.append last.width, s)
    | .char '^' :: cs | .char '$' :: cs => push .place { s with rest := cs }
    | .escape c :: cs => do
      let (item, s) ← s.escape c cs
      push item s
    | .surrogate _ :: cs => push (.part .one) { s with rest := cs }
    | .char '[' :: cs => do push (.part .one) { s with rest := ← set? cs }
    | .char '(' :: .char '?' :: .char '#' :: cs =>
      if cs.contains (.char ')') then skip (skipPast ')' cs) else none
    | .char '(' :: cs =>
      match cs.head?, flags? (cs.drop 1) with
      | some (.char '?'), some (.whole letters, rest) =>
        match level, last with
        | .start, .nothing =>
          let flags := s.flags ++ letters
          sequence fuel level (flags.contains 'x') done last { s with rest, flags }
        | _, _ => none
      | _, _ => do
        let (item, s) ← group fuel blanks cs s
        push item s
    | .char c :: cs =>
      if blanks && isIgnored c then skip cs
      else if blanks && c == '#' then skip (skipPast '\n' cs)
      else match repetition? (.char c :: cs), last with
        | some (count, cs), .part width =>
          if areCounts count then
            sequence fuel level blanks done (.repeated (width.times count))
              { s with rest := skipMode cs, repeats := true }
          else none
        | some _, _ => none
        | none, _ => push (.part .one) { s with rest := cs }

/-- A group or a look at what is around, from behind its opening parenthesis. -/
def group : Nat → Bool → List Symbol → State → Option (Item × State)
  | 0, _, _, _ => none
  | fuel + 1, blanks, cs, s =>
    let inner := fun blanks cs s => do
      let (width, s) ← alternatives fuel .inner blanks { s with rest := cs }
      return (width, ← State.close s)
    let capture := fun name cs => do
      let (width, t) ← inner blanks cs (← s.openGroup? name)
      return (Item.part width, { t with closed := (s.next, width) :: t.closed })
    match cs with
    | .char '?' :: .char ':' :: cs | .char '?' :: .char '>' :: cs => do
      let (width, s) ← inner blanks cs s
      return (.part width, s)
    | .char '?' :: .char '=' :: cs | .char '?' :: .char '!' :: cs => do
      let (_, s) ← inner blanks cs s
      return (.part .none, s)
    | .char '?' :: .char '<' :: .char '=' :: cs | .char '?' :: .char '<' :: .char '!' :: cs => do
      let (width, t) ← inner blanks cs { s with behind := s.behind.or (some s.next) }
      if width.isFixed then return (.part .none, { t with behind := s.behind }) else none
    | .char '?' :: .char 'P' :: .char '<' :: cs => do
      let (name, cs) ← enclosed? '>' cs
      capture (some name) cs
    | .char '?' :: .char 'P' :: .char '=' :: cs => do
      let (name, cs) ← enclosed? ')' cs
      s.reference (← s.names.lookup name) cs
    | .char '?' :: .char '(' :: cs => do
      let s ← s.afterCondition? cs
      let (width, s) ← sequence fuel .inner blanks .none .nothing s
      match s.rest with
      | .char '|' :: cs =>
        let (other, s) ← sequence fuel .inner blanks .none .nothing { s with rest := cs }
        return (.part (width.either other), ← s.close)
      | _ => return (.part (width.either .none), ← s.close)
    | .char '?' :: cs =>
      match flags? cs with
      | some (.group own, cs) => do
        let (width, s) ← inner (own.getD blanks) cs s
        return (.part width, s)
      | _ => none
    | _ => capture none cs

end

/-- The body can be compiled. -/
def isWellFormed (body : List Char) : Bool :=
  ((do
    let cs ← Symbol.ofBody? body
    let (_, s) ← alternatives (4 * cs.length + 4) .start false { rest := cs }
    return s.rest.isEmpty && areTogether s.flags && s.condition < s.next &&
      !(s.flags.contains 't' && s.repeats)) : Option Bool).getD false

end HtmlModules.Script.Regex
