import FileQuery.Text.Printable

/-!
# Quoted text

Text between double quotes as error messages show it: quotes, backslashes and the common controls
have short escapes, and a character without a picture of its own is given by its number.

## Main definitions

* `FileQuery.Text.quote`.
-/

namespace FileQuery.Text

/-- The escaped form of a character. -/
def escapeChar (c : Char) : List Char :=
  match c.toNat with
  | 0 => ['\\', '0']
  | 9 => ['\\', 't']
  | 10 => ['\\', 'n']
  | 13 => ['\\', 'r']
  | 34 => ['\\', c]
  | 92 => ['\\', c]
  | n => if isPictured c then [c] else '\\' :: 'u' :: Char.ofNat 123 :: Nat.toDigits 16 n ++
      [Char.ofNat 125]

/-- A text between double quotes. -/
def quote (s : String) : String :=
  let mark := Char.ofNat 34
  String.ofList (mark :: s.toList.flatMap escapeChar ++ [mark])

end FileQuery.Text
