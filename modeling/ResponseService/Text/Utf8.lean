import ResponseService.Text.Basic

/-!
# UTF-8

`encode` writes one to four octets per code point.  `decodeUnits` reads octets
one at a time and answers, in order, each character that was completed and
each stretch of octets that could not be read; an octet that does not continue
the character begun before it is read again as a first octet, so every
malformed stretch is as long as the longest start of a character it holds.

`decode` accepts only what holds no malformed stretch and else tells of the
first one; `decodeLossy` puts U+FFFD in the place of each.
-/

namespace ResponseService.Utf8

/-- The octets of the number of one code point. -/
def encodeNumber (number : Nat) : List UInt8 :=
  if number < 0x80 then [UInt8.ofNat number]
  else if number < 0x800 then
    [UInt8.ofNat (0xC0 + number / 0x40), UInt8.ofNat (0x80 + number % 0x40)]
  else if number < 0x10000 then
    [UInt8.ofNat (0xE0 + number / 0x1000),
      UInt8.ofNat (0x80 + number / 0x40 % 0x40),
      UInt8.ofNat (0x80 + number % 0x40)]
  else
    [UInt8.ofNat (0xF0 + number / 0x40000),
      UInt8.ofNat (0x80 + number / 0x1000 % 0x40),
      UInt8.ofNat (0x80 + number / 0x40 % 0x40),
      UInt8.ofNat (0x80 + number % 0x40)]

/-- The octets of a text of scalar values. -/
def encode (text : Text) : List UInt8 :=
  text.flatMap fun point => encodeNumber point.value

@[simp]
theorem encode_append (left right : Text) :
    encode (left ++ right) = encode left ++ encode right := by
  simp [encode]

/-- A character of which some octets have been read. -/
structure Pending where
  /-- How many octets have been read. -/
  taken : Nat
  /-- How many octets are still owed after the next one. -/
  owed : Nat
  /-- The least octet that may come next. -/
  low : Nat
  /-- The greatest octet that may come next. -/
  high : Nat
  /-- The number read so far. -/
  number : Nat
  deriving DecidableEq, Repr

/-- What a first octet begins. -/
inductive Opening where
  | complete (number : Nat)
  | pending (character : Pending)
  | malformed
  deriving DecidableEq, Repr

/-- The first octet tells how many follow and bounds the second. -/
def opening (octet : UInt8) : Opening :=
  let number := octet.toNat
  if number < 0x80 then .complete number
  else if number < 0xC2 then .malformed
  else if number < 0xE0 then .pending ⟨1, 0, 0x80, 0xBF, number - 0xC0⟩
  else if number = 0xE0 then .pending ⟨1, 1, 0xA0, 0xBF, 0⟩
  else if number = 0xED then .pending ⟨1, 1, 0x80, 0x9F, 0xD⟩
  else if number < 0xF0 then .pending ⟨1, 1, 0x80, 0xBF, number - 0xE0⟩
  else if number = 0xF0 then .pending ⟨1, 2, 0x90, 0xBF, 0⟩
  else if number < 0xF4 then .pending ⟨1, 2, 0x80, 0xBF, number - 0xF0⟩
  else if number = 0xF4 then .pending ⟨1, 2, 0x80, 0x8F, 4⟩
  else .malformed

/-- Why octets cannot be read. -/
inductive Flaw where
  /-- No character begins with this octet. -/
  | start
  /-- The character that has begun does not go on like this. -/
  | continuation
  /-- The octets end within a character. -/
  | ending
  deriving DecidableEq, Repr

namespace Flaw

/-- A flaw in words. -/
def message : Flaw → Text
  | .start => "invalid start byte"
  | .continuation => "invalid continuation byte"
  | .ending => "unexpected end of data"

end Flaw

/-- What was read: a character, or a flaw and the number of octets it takes. -/
abbrev Reading := Except (Flaw × Nat) CodePoint

/-- Read octets in the middle of a character or between two (`none`). -/
def decodeFrom : Option Pending → List UInt8 → List Reading
  | none, [] => []
  | some character, [] => [.error (.ending, character.taken)]
  | none, octet :: rest =>
      match opening octet with
      | .complete number => .ok (CodePoint.ofNat number) :: decodeFrom none rest
      | .pending character => decodeFrom (some character) rest
      | .malformed => .error (.start, 1) :: decodeFrom none rest
  | some character, octet :: rest =>
      if character.low ≤ octet.toNat ∧ octet.toNat ≤ character.high then
        let number := character.number * 0x40 + (octet.toNat - 0x80)
        match character.owed with
        | 0 => .ok (CodePoint.ofNat number) :: decodeFrom none rest
        | owed + 1 =>
            decodeFrom (some ⟨character.taken + 1, owed, 0x80, 0xBF, number⟩)
              rest
      else
        .error (.continuation, character.taken) ::
          match opening octet with
          | .complete number =>
              .ok (CodePoint.ofNat number) :: decodeFrom none rest
          | .pending next => decodeFrom (some next) rest
          | .malformed => .error (.start, 1) :: decodeFrom none rest

/-- The characters and the flaws of an octet sequence, in their order. -/
def decodeUnits (octets : List UInt8) : List Reading := decodeFrom none octets

/-- A stretch of octets that cannot be read. -/
structure Undecodable where
  flaw : Flaw
  /-- How many octets come before it. -/
  start : Nat
  /-- How many octets it takes. -/
  length : Nat
  /-- The octet it begins with. -/
  first : UInt8
  deriving DecidableEq, Repr

/-- The text of readings without a flaw, or the flaw, its place and its length;
`position` octets come before them. -/
def textOf (position : Nat) : List Reading → Except (Flaw × Nat × Nat) Text
  | [] => .ok []
  | .error (flaw, length) :: _ => .error (flaw, position, length)
  | .ok point :: rest =>
      (textOf (position + (encodeNumber point.value).length) rest).map
        (point :: ·)

/-- The text of a well-formed octet sequence, or else the first stretch of it
that cannot be read. -/
def decode (octets : List UInt8) : Except Undecodable Text :=
  (textOf 0 (decodeUnits octets)).mapError fun (flaw, start, length) =>
    ⟨flaw, start, length, octets.getD start 0⟩

/-- The text of any octet sequence, U+FFFD for each flaw. -/
def decodeLossy (octets : List UInt8) : Text :=
  (decodeUnits octets).map fun
    | .ok point => point
    | .error _ => CodePoint.replacement

end ResponseService.Utf8
