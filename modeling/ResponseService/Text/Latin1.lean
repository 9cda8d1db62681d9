import ResponseService.Text.Basic

/-!
# Latin-1

A header name or value can be sent only if each of its code points is below
U+0100.  `unencodable?` finds the first stretch that is not, `encode?` says
which texts can be sent.
-/

namespace ResponseService.Latin1

/-- One octet stands for each code point below U+0100. -/
def encodable (point : CodePoint) : Bool := decide (point.value < 0x100)

/-- A stretch of code points that have no octet. -/
structure Unencodable where
  /-- Where the stretch begins. -/
  start : Nat
  /-- The code point it begins with. -/
  first : CodePoint
  /-- How many more follow without a gap. -/
  more : Nat
  deriving DecidableEq, Repr

/-- The first stretch without octets, of a text that begins at `position`. -/
def unencodableFrom? (position : Nat) : Text → Option Unencodable
  | [] => none
  | point :: rest =>
      if encodable point then unencodableFrom? (position + 1) rest
      else some ⟨position, point, (rest.takeWhile (!encodable ·)).length⟩

/-- The first stretch without octets. -/
def unencodable? (text : Text) : Option Unencodable := unencodableFrom? 0 text

/-- A text passes if it holds no such stretch; the octets are its code points. -/
def encode? (text : Text) : Except Unencodable Text :=
  match unencodable? text with
  | some stretch => .error stretch
  | none => .ok text

theorem unencodableFrom?_eq_none_iff (position : Nat) (text : Text) :
    unencodableFrom? position text = none ↔
      ∀ point ∈ text, point.value < 0x100 := by
  induction text generalizing position with
  | nil => simp [unencodableFrom?]
  | cons point rest ih =>
      by_cases below : point.value < 0x100 <;>
        simp [unencodableFrom?, encodable, below, ih]

/-- Exactly the texts below U+0100 can be sent. -/
theorem unencodable?_eq_none_iff (text : Text) :
    unencodable? text = none ↔ ∀ point ∈ text, point.value < 0x100 :=
  unencodableFrom?_eq_none_iff 0 text

end ResponseService.Latin1
