import ResponseService.Number.Decimal
import ResponseService.Number.Word
import ResponseService.Text.Latin1
import ResponseService.Text.Utf8

/-!
# Texts and octets that cannot be coded

A codec turns a text into octets or octets into a text.  Where it fails, the
message names the codec and the stretch it failed at, and gives the reason.  A
stretch of one code point or octet is shown; of a longer one only the first
and the last position are given.
-/

namespace ResponseService.Coding

/-- A stretch of which the one element is known, or the positions where it
begins and behind its end. -/
def stretch (element : Text) (shown : Option Text) (start past : Int) : Text :=
  match shown with
  | some text =>
      element ++ " " ++ text ++ " in position " ++ Decimal.ofInt start
  | none =>
      element ++ "s in position " ++ Decimal.ofInt start ++ "-" ++
        Decimal.ofInt (Word.before past)

/-- A code point as it is shown in messages. -/
def shownPoint (point : CodePoint) : Text :=
  "'" ++ Text.numberedEscape point.value ++ "'"

/-- An octet as it is shown in messages. -/
def shownOctet (octet : UInt8) : Text := "0x" ++ Text.hexadecimal 2 octet.toNat

/-- The only code point of a stretch of a text, if it has just one. -/
def onlyPoint? (text : Text) (start past : Int) : Option CodePoint :=
  if 0 ≤ start ∧ past = start + 1 then text[start.toNat]? else none

/-- Code points of a text that a codec has no octets for. -/
def unencodable (codec text : Text) (start past : Int) (reason : Text) : Text :=
  "'" ++ codec ++ "' codec can't encode " ++
    stretch "character" ((onlyPoint? text start past).map shownPoint) start past ++
    ": " ++ reason

/-- Code points of a text that cannot be replaced. -/
def unmappable (text : Text) (start past : Int) (reason : Text) : Text :=
  "can't translate " ++
    stretch "character" ((onlyPoint? text start past).map shownPoint) start past ++
    ": " ++ reason

/-- What Latin-1 has no octets for. -/
def latin1Message (found : Latin1.Unencodable) : Text :=
  let past := found.start + found.more + 1
  "'latin-1' codec can't encode " ++
    stretch "character"
      (if found.more = 0 then some (shownPoint found.first) else none)
      found.start past ++
    ": ordinal not in range(256)"

/-- What is not UTF-8. -/
def utf8Message (found : Utf8.Undecodable) : Text :=
  "'utf-8' codec can't decode " ++
    stretch "byte"
      (if found.length = 1 then some (shownOctet found.first) else none)
      found.start (found.start + found.length) ++
    ": " ++ found.flaw.message

end ResponseService.Coding
