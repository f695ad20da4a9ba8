import HtmlModules.Text.Alphabet
import HtmlModules.Text.Basic
import HtmlModules.Text.CharacterName.Table

/-!
# Characters by name

`CharacterName.point?` finds the code point that a name of Unicode 14 or an alias stands for. The names
of ideographs hold their code points and those of Hangul syllables their sounds; all others are
listed, and are found in letters of any case.
-/

namespace HtmlModules.Text.CharacterName

/-! ## Names that hold a code point -/

/-- The number that hexadecimal digits in upper case spell. -/
def upperHexValue? (digits : List Char) : Option Nat :=
  digits.foldlM (fun n c =>
    if isAsciiDigit c then some (n * 16 + (c.toNat - '0'.toNat))
    else if 'A' ≤ c && c ≤ 'F' then some (n * 16 + (c.toNat - 'A'.toNat + 10)) else none) 0

/-- The unified ideographs. -/
def ideographRanges : CodeRanges :=
  [(0x3400, 0x4DBF), (0x4E00, 0x9FFF), (0x20000, 0x2A6DF), (0x2A700, 0x2B738), (0x2B740, 0x2B81D),
   (0x2B820, 0x2CEA1), (0x2CEB0, 0x2EBE0), (0x30000, 0x3134A)]

/-- The unified ideograph that four or five digits name. -/
def ideograph? (digits : List Char) : Option Nat :=
  if digits.length = 4 || digits.length = 5 then
    (upperHexValue? digits).filter fun n => ideographRanges.holds (Char.ofNat n)
  else none

/-- Beginnings of names that end with the code point, with the code points that have such names. -/
def numberedNames : List (String × CodeRanges) :=
  [("CJK COMPATIBILITY IDEOGRAPH-", [(0xF900, 0xFA6D), (0xFA70, 0xFAD9), (0x2F800, 0x2FA1D)]),
   ("NUSHU CHARACTER-", [(0x1B170, 0x1B2FB)]),
   ("KHITAN SMALL SCRIPT CHARACTER-", [(0x18B00, 0x18CD5)])]

/-- The character that a name in upper case ends with the code point of. -/
def numbered? (name : List Char) : Option Nat :=
  numberedNames.findSome? fun (beginning, points) =>
    if beginning.toList.isPrefixOf name then
      let digits := name.drop beginning.length
      if digits.head? = some '0' then none
      else (upperHexValue? digits).filter fun n => points.holds (Char.ofNat n)
    else none

/-! ## Hangul -/

/-- The sounds a syllable begins with. -/
def initials : List String :=
  ["G", "GG", "N", "D", "DD", "R", "M", "B", "BB", "S", "SS", "", "J", "JJ", "C", "K", "T", "P", "H"]

/-- The vowels of a syllable. -/
def vowels : List String :=
  ["A", "AE", "YA", "YAE", "EO", "E", "YEO", "YE", "O", "WA", "WAE", "OE", "YO", "U", "WEO", "WE",
   "WI", "YU", "EU", "YI", "I"]

/-- The sounds a syllable ends with. -/
def finals : List String :=
  ["", "G", "GG", "GS", "N", "NJ", "NH", "D", "L", "LG", "LM", "LB", "LS", "LT", "LP", "LH", "M", "B",
   "BS", "S", "SS", "NG", "J", "C", "K", "T", "P", "H"]

/-- The longest of the sounds at the beginning of a text, as its place in the list, and the text
behind it. -/
def longest? (sounds : List String) (cs : List Char) : Option (Nat × List Char) :=
  let found := sounds.zipIdx.filter fun (s, _) => s.toList.isPrefixOf cs
  (found.foldl (fun best s =>
    if best.any fun b : String × Nat => s.1.length ≤ b.1.length then best else some s) none).map
    fun (s, place) => (place, cs.drop s.length)

/-- The syllable with the sounds. -/
def syllable? (sounds : List Char) : Option Nat := do
  let (initial, rest) ← longest? initials sounds
  let (vowel, rest) ← longest? vowels rest
  let (final, rest) ← longest? finals rest
  if rest.isEmpty then some (0xAC00 + (initial * vowels.length + vowel) * finals.length + final)
  else none

/-! ## Listed names -/

/-- The words of the last name and the code point of the next. -/
structure Place where
  last : List (List Char) := []
  next : Nat := 0

/-- The code point of the name with the given words, looked for in entries of the table. -/
def search (words : List (List Char)) : List (List Char) → Place → Option Nat
  | [], _ => none
  | ('=' :: digits) :: entries, p =>
    search words entries { p with next := (upperHexValue? digits).getD 0 }
  | (shared :: rest) :: entries, p =>
    let current := p.last.take (shared.toNat - '0'.toNat) ++ splitChars ' ' rest
    if current = words then some p.next else search words entries ⟨current, p.next + 1⟩
  | [] :: entries, p => search words entries p

/-- The entries of the table. -/
def entries : List (List Char) :=
  (table.flatMap lines).flatMap fun line => splitChars ',' (trim line).toList

/-! ## All names -/

/-- The code point of the character with the given name. -/
def point? (name : List Char) : Option Nat :=
  if "HANGUL SYLLABLE ".toList.isPrefixOf name then syllable? (name.drop 16)
  else if "CJK UNIFIED IDEOGRAPH-".toList.isPrefixOf name then ideograph? (name.drop 22)
  else
    let upper := name.map Char.toUpper
    (numbered? upper).or (search (splitChars ' ' upper) entries {})

end HtmlModules.Text.CharacterName
