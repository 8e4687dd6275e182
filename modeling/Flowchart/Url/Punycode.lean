/-!
# Labels in Ascii

The Ascii form of a label with other characters: the Ascii characters first, then, after a hyphen,
the others in ascending order, each as the distance from the one before, counted over all places
where it might stand. Distances are written in base 36 with digits whose thresholds adapt to the
distances before.
-/

namespace Flowchart.Url.Punycode

/-- A digit in base 36: letters first, then numerals. -/
def digit (n : Nat) : Char := Char.ofNat (if n < 26 then 97 + n else 22 + n)

/-- The value of a digit in base 36. -/
def digitValue? (c : Char) : Option Nat :=
  if c.isDigit then some (c.toNat - 22)
  else if c.isAlpha then some (c.toLower.toNat - 97)
  else none

/-- The threshold of the digit at a place, which grows by 36 from digit to digit. -/
def threshold (place bias : Nat) : Nat :=
  if place ≤ bias then 1 else min 26 (place - bias)

/-- How often a distance is divided by 35 before it is at most 455, and what is left. -/
def scale (distance : Nat) : Nat × Nat :=
  if 455 < distance then
    let (times, left) := scale (distance / 35)
    (times + 1, left)
  else (0, distance)
  termination_by distance

/-- The bias after a distance; `count` is the number of characters so far. -/
def adapt (distance count : Nat) (first : Bool) : Nat :=
  let reduced := if first then distance / 700 else distance / 2
  let (times, left) := scale (reduced + reduced / count)
  36 * times + 36 * left / (left + 38)

/-- The digits of a distance, of which at most so many are written as the first argument says. -/
def digits : Nat → Nat → Nat → Nat → List Char
  | 0, _, _, _ => []
  | n + 1, bias, place, distance =>
      let t := threshold place bias
      if distance < t then [digit distance]
      else digit (t + (distance - t) % (36 - t)) ::
        digits n bias (place + 36) ((distance - t) / (36 - t))

/-- The state of the encoding: the text so far, in reverse, the distance, the bias, and the number
of characters done. -/
structure State where
  written : List Char
  distance : Nat
  bias : Nat
  done : Nat

/-- Passes over a character of the label while the code point `current` is written. -/
def pass (basic current : Nat) (s : State) (c : Char) : State :=
  if c.toNat < current then { s with distance := s.distance + 1 }
  else if c.toNat = current then
    let text := digits 40 s.bias 36 s.distance
    ⟨text.reverse ++ s.written, 0, adapt s.distance (s.done + 1) (s.done = basic), s.done + 1⟩
  else s

/-- Writes the code points of a list in ascending order, starting from `reached`. -/
def passAll (label : List Char) (basic : Nat) : Nat → State → List Nat → State
  | _, s, [] => s
  | reached, s, current :: rest =>
      let s := { s with distance := s.distance + (current - reached) * (s.done + 1) }
      let s := label.foldl (pass basic current) s
      passAll label basic (current + 1) { s with distance := s.distance + 1 } rest

/-- The Ascii form of a label, without a mark that it is one. -/
def encode (label : List Char) : List Char :=
  let basic := label.filter (·.toNat < 128)
  let others := ((label.filter (128 ≤ ·.toNat)).map Char.toNat).eraseDups.mergeSort
  let start : State := ⟨[], 0, 72, basic.length⟩
  let s := passAll label basic.length 128 start others
  basic ++ (if basic.isEmpty then [] else ['-']) ++ s.written.reverse

/-- Reads a distance; the result is its value and the text behind it. -/
def readDistance : Nat → Nat → Nat → Nat → List Char → Option (Nat × List Char)
  | _, _, _, _, [] => none
  | bias, place, weight, sum, c :: rest => do
      let d ← digitValue? c
      let t := threshold place bias
      let sum := sum + d * weight
      if d < t then some (sum, rest)
      else readDistance bias (place + 36) (weight * (36 - t)) sum rest

/-- Reads the characters after the last hyphen, at most as many as the first argument says. -/
def decodeFrom : Nat → Nat → Nat → Nat → List Char → List Char → Option (List Char)
  | 0, _, _, _, label, _ | _, _, _, _, label, [] => some label
  | n + 1, bias, index, reached, label, text => do
      let (distance, rest) ← readDistance bias 36 1 0 text
      let size := label.length + 1
      let index := index + distance
      let code := reached + index / size
      if !code.isValidChar then none
      let place := index % size
      decodeFrom n (adapt distance size (label.all (·.toNat < 128))) (place + 1) code
        (label.take place ++ Char.ofNat code :: label.drop place) rest

/-- The label that an Ascii form stands for. -/
def decode? (text : List Char) : Option (List Char) :=
  if text.any (128 ≤ ·.toNat) then none
  else
    let back := text.reverse.dropWhile (· ≠ '-')
    let basic := back.tail.reverse
    let rest := if back.isEmpty then text else text.drop back.length
    decodeFrom text.length 72 0 128 basic rest

end Flowchart.Url.Punycode
