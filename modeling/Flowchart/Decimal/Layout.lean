import Flowchart.Decimal.Shortest

/-!
# Layout of decimal numbers

How the shortest digits of a binary64 number are written: with all places shown, or with an
exponent beyond a certain range. A `Layout` holds the choices of one format.
-/

namespace Flowchart.Decimal

/-- The choices of a format for binary64 numbers. -/
structure Layout where
  /-- Which digits a number between two shortest ones takes. -/
  tie : Tie
  /-- Whether a number whose first digit stands for `10 ^ e` shows all its places. -/
  positional : Int → Bool
  /-- What follows a whole number. -/
  wholeSuffix : String
  /-- The texts of infinity and of what is no number. -/
  infinityText : String
  nanText : String

/-- Plain layout: every number shows all its places. -/
def Layout.plain : Layout where
  tie := .up
  positional _ := true
  wholeSuffix := ""
  infinityText := "inf"
  nanText := "NaN"

/-- Document layout: whole numbers end in `.0`, and numbers below `10 ^ -5` or from `10 ^ 16` on
have an exponent. -/
def Layout.document : Layout where
  tie := .even
  positional e := -5 ≤ e && e ≤ 15
  wholeSuffix := ".0"
  infinityText := "null"
  nanText := "null"

/-- The decimal digits of a natural number. -/
def natDigits (n : Nat) : List Char := Nat.toDigits 10 n

/-- Digits with all their places shown. -/
def Layout.positionalText (layout : Layout) (d : Digits) : List Char :=
  let ds := natDigits d.digits
  match d.exponent with
  | .ofNat e => ds ++ List.replicate e '0' ++ layout.wholeSuffix.toList
  | .negSucc e =>
      let places := e + 1
      if places < ds.length then ds.take (ds.length - places) ++ '.' :: ds.drop (ds.length - places)
      else '0' :: '.' :: List.replicate (places - ds.length) '0' ++ ds

/-- Digits with one place before the point and an exponent, which always has a sign. -/
def exponentText (d : Digits) : List Char :=
  let ds := natDigits d.digits
  let exponent : Int := d.exponent + (ds.length - 1 : Nat)
  let mark := if exponent < 0 then ['e', '-'] else ['e', '+']
  ds.take 1 ++ (if ds.length ≤ 1 then [] else '.' :: ds.drop 1) ++ mark ++
    natDigits exponent.natAbs

/-- Digits as a layout writes them. -/
def Layout.digitsText (layout : Layout) (d : Digits) : List Char :=
  let first : Int := d.exponent + ((natDigits d.digits).length - 1 : Nat)
  if layout.positional first then layout.positionalText d else exponentText d

/-- A binary64 number as a layout writes it. -/
def Layout.write (layout : Layout) (x : Binary64) : String :=
  let sign := if x.negative then ['-'] else []
  let code : Nat := x.code
  if Binary64.infinityCode < code then layout.nanText
  else if code = Binary64.infinityCode then String.ofList (sign ++ layout.infinityText.toList)
  else if code = 0 then String.ofList (sign ++ '0' :: layout.wholeSuffix.toList)
  else String.ofList (sign ++ layout.digitsText (shortest layout.tie code))

end Flowchart.Decimal
