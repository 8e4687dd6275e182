/-!
# Finding and replacing text

Search for a fixed piece of text: the first place it occurs (`cut?`), whether it occurs at all, at
the start or at the end, and the replacement of every occurrence from left to right.
-/

namespace Flowchart.Text

/-- What follows `piece` at the start of `cs`, if `cs` starts with it. -/
def afterPrefix? : List Char → List Char → Option (List Char)
  | [], cs => some cs
  | _ :: _, [] => none
  | p :: piece, c :: cs => if p = c then afterPrefix? piece cs else none

/-- The text before and after the first occurrence of `piece`. -/
def cut? (piece : List Char) : List Char → Option (List Char × List Char)
  | [] => match piece with
    | [] => some ([], [])
    | _ :: _ => none
  | c :: cs =>
      match afterPrefix? piece (c :: cs) with
      | some rest => some ([], rest)
      | none => (cut? piece cs).map fun (before, rest) => (c :: before, rest)

/-- Whether `piece` occurs in `s`. -/
def contains (s piece : String) : Bool :=
  (cut? piece.toList s.toList).isSome

/-- Whether `s` starts with `piece`. -/
def startsWith (s piece : String) : Bool :=
  (afterPrefix? piece.toList s.toList).isSome

/-- Whether `s` ends with `piece`. -/
def endsWith (s piece : String) : Bool :=
  (afterPrefix? piece.toList.reverse s.toList.reverse).isSome

/-- `cs` with every occurrence of `piece` replaced, from left to right; the argument `skip` counts
the characters of the occurrence just replaced that are still to be passed over. -/
def replaceFrom (piece replacement : List Char) : Nat → List Char → List Char
  | _, [] => []
  | skip + 1, _ :: cs => replaceFrom piece replacement skip cs
  | 0, c :: cs =>
      match afterPrefix? piece (c :: cs) with
      | some _ => replacement ++ replaceFrom piece replacement (piece.length - 1) cs
      | none => c :: replaceFrom piece replacement 0 cs

/-- `s` with every occurrence of the non-empty text `piece` replaced, from left to right. -/
def replaceAll (s piece replacement : String) : String :=
  String.ofList (replaceFrom piece.toList replacement.toList 0 s.toList)

/-- The pieces of `cs` between the characters that satisfy `isSeparator`. -/
def splitList (isSeparator : Char → Bool) : List Char → List (List Char)
  | [] => [[]]
  | c :: cs =>
      if isSeparator c then [] :: splitList isSeparator cs
      else match splitList isSeparator cs with
        | [] => [[c]]
        | piece :: pieces => (c :: piece) :: pieces

end Flowchart.Text
