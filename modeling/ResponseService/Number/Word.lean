/-!
# Machine words

Some numbers have to fit into 64 bits, of which one is the sign.
-/

namespace ResponseService.Word

/-- A word holds the integer. -/
def holds (number : Int) : Bool :=
  decide (-0x8000000000000000 ≤ number) && decide (number < 0x8000000000000000)

/-- The word before another; before the least one comes the greatest. -/
def before (number : Int) : Int :=
  if number = -0x8000000000000000 then 0x7FFFFFFFFFFFFFFF else number - 1

end ResponseService.Word
