import FileQuery.Number.FloatText

/-!
# Byte counts in binary units

## Main definitions

* `FileQuery.SizeText.format`: a byte count in the largest unit of which there is at least one.
-/

namespace FileQuery.SizeText

/-- The units above a byte, each 1024 times the one before. -/
def units : List String := ["KiB", "MiB", "GiB", "TiB", "PiB", "EiB"]

/-- The factor between two units. -/
def factor : Binary64 := .ofInt 1024

/-- A size in a unit, moved up through the larger units while it is not below their factor. -/
def scale (size : Binary64) (unit : String) : List String → Binary64 × String
  | [] => (size, unit)
  | u :: us =>
    if size.isNaN || size.below factor then (size, unit) else scale (size.div factor) u us

/-- A byte count with its unit. Bytes are whole, a half away from zero; in the larger units the
number has the given places. -/
def format (bytes : Binary64) (places : Nat) : String :=
  let sign := if bytes.below (.zero false) then "-" else ""
  let (size, unit) := scale bytes.abs "B" units
  let number :=
    if unit = "B" then FloatLayout.plain.write size.roundToWhole else size.toFixed places
  sign ++ number ++ " " ++ unit

end FileQuery.SizeText
