import HtmlModules.Text.Quoted

/-!
# UTF-8

Decoding runs over the octets once, with the unfinished character as its state. The first octet that
cannot stand where it stands ends it; surrogates and overlong forms are refused by the range of the
second octet.
-/

namespace HtmlModules.Text.Utf8

/-- Why octets are no text. -/
inductive Fault where
  | startByte
  | continuationByte
  | endOfData
deriving DecidableEq, Repr

/-- A fault with the octets from `start` up to `stop` that it is about, and the first of them. -/
structure DecodeError where
  fault : Fault
  start : Nat
  stop : Nat
  byte : UInt8
deriving DecidableEq, Repr

/-- The wording of a fault. -/
def Fault.text : Fault → String
  | .startByte => "invalid start byte"
  | .continuationByte => "invalid continuation byte"
  | .endOfData => "unexpected end of data"

/-- The fault with its place. -/
def DecodeError.message (e : DecodeError) : String :=
  if e.stop = e.start + 1 then
    "'utf-8' codec can't decode byte 0x" ++ String.ofList (hexDigits 2 e.byte.toNat) ++
      s!" in position {e.start}: {e.fault.text}"
  else s!"'utf-8' codec can't decode bytes in position {e.start}-{e.stop - 1}: {e.fault.text}"

/-- A character of which octets are missing. -/
structure Pending where
  start : Nat
  lead : UInt8
  /-- The octets read. -/
  read : Nat
  /-- The octets still to be read. -/
  missing : Nat
  value : Nat

/-- The number of octets that a character takes, by its first one; none cannot be a first one. -/
def width? (lead : UInt8) : Option Nat :=
  if lead < 0x80 then some 1
  else if lead < 0xC2 then none
  else if lead < 0xE0 then some 2
  else if lead < 0xF0 then some 3
  else if lead < 0xF5 then some 4
  else none

/-- The bits that the first octet of a character contributes. -/
def leadBits (lead : UInt8) : Nat → Nat
  | 1 => lead.toNat
  | 2 => lead.toNat % 32
  | 3 => lead.toNat % 16
  | _ => lead.toNat % 8

/-- The octet may come next in an unfinished character. -/
def Pending.accepts (p : Pending) (b : UInt8) : Bool :=
  let low : UInt8 := if p.read = 1 ∧ p.lead = 0xE0 then 0xA0
    else if p.read = 1 ∧ p.lead = 0xF0 then 0x90 else 0x80
  let high : UInt8 := if p.read = 1 ∧ p.lead = 0xED then 0x9F
    else if p.read = 1 ∧ p.lead = 0xF4 then 0x8F else 0xBF
  low ≤ b && b ≤ high

/-- The fault of an unfinished character. -/
def Pending.refuse (p : Pending) (fault : Fault) : DecodeError :=
  ⟨fault, p.start, p.start + p.read, p.lead⟩

/-- Decodes octets from `offset` on; `done` are the characters decoded, in reverse order. -/
def decodeFrom (offset : Nat) (pending : Option Pending) (done : List Char) :
    List UInt8 → Except DecodeError (List Char)
  | [] =>
    match pending with
    | none => .ok done.reverse
    | some p => .error (p.refuse .endOfData)
  | b :: rest =>
    match pending with
    | some p =>
      if !p.accepts b then .error (p.refuse .continuationByte)
      else
        let value := p.value * 64 + b.toNat % 64
        match p.missing with
        | 0 | 1 => decodeFrom (offset + 1) none (Char.ofNat value :: done) rest
        | n + 2 => decodeFrom (offset + 1)
            (some { p with read := p.read + 1, missing := n + 1, value }) done rest
    | none =>
      match width? b with
      | none => .error ⟨.startByte, offset, offset + 1, b⟩
      | some 0 | some 1 => decodeFrom (offset + 1) none (Char.ofNat b.toNat :: done) rest
      | some (n + 2) => decodeFrom (offset + 1)
          (some ⟨offset, b, 1, n + 1, leadBits b (n + 2)⟩) done rest

/-- The text that octets spell. -/
def decode (bytes : ByteArray) : Except DecodeError String :=
  (decodeFrom 0 none [] bytes.toList).map String.ofList

/-- The octets of a text. -/
def encode (s : String) : ByteArray := s.toUTF8

/-- Line ends of any kind become the one of this system. -/
def unifyLineEnds : List Char → List Char
  | '\r' :: '\n' :: cs => '\n' :: unifyLineEnds cs
  | '\r' :: cs => '\n' :: unifyLineEnds cs
  | c :: cs => c :: unifyLineEnds cs
  | [] => []

/-- The text of a file. -/
def decodeFile (bytes : ByteArray) : Except DecodeError String :=
  (decode bytes).map fun s => String.ofList (unifyLineEnds s.toList)

end HtmlModules.Text.Utf8
