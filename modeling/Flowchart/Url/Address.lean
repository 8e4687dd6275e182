import Flowchart.Url.Percent

/-!
# Numeric hosts

Hosts that are addresses. An address of version 4 may be written with one to four numbers in
decimal, octal or hexadecimal; it is written back as four decimal ones. An address of version 6
stands in brackets and is written back with its longest run of zeros left out.
-/

namespace Flowchart.Url

/-- The value of digits in a base, if all are digits of that base. -/
def digitsValue? (base : Nat) (digits : List Char) : Option Nat :=
  digits.foldlM (fun n c => do
    let d ← hexValue? c
    if d < base then some (n * base + d) else none) 0

/-- A number of an address of version 4: hexadecimal after `0x`, octal after `0`, else decimal. -/
def addressNumber? : List Char → Option Nat
  | [] => none
  | '0' :: x :: digits =>
      if x = 'x' ∨ x = 'X' then digitsValue? 16 digits else digitsValue? 8 (x :: digits)
  | digits => digitsValue? 10 digits

/-- The pieces of a host between dots; a dot at the end adds none. -/
def addressParts (host : List Char) : List (List Char) :=
  let parts := host.splitOn '.'
  if 1 < parts.length ∧ parts.getLast? = some [] then parts.dropLast else parts

/-- Whether a host is meant as an address: its last part is a number. -/
def endsInNumber (host : List Char) : Bool :=
  match (addressParts host).getLast? with
  | none | some [] => false
  | some last =>
      last.all Char.isDigit ||
        match last with
        | '0' :: x :: digits => (x = 'x' || x = 'X') && digits.all fun c => (hexValue? c).isSome
        | _ => false

/-- The four bytes of an address as it is written. -/
def addressText (n : Nat) : List Char :=
  let byte := fun i => Nat.toDigits 10 (n / Nat.pow 256 i % 256)
  byte 3 ++ '.' :: byte 2 ++ '.' :: byte 1 ++ '.' :: byte 0

/-- The address of version 4 that a host stands for. The last number fills all bytes that the
others leave. -/
def address4? (host : List Char) : Option (List Char) := do
  let parts := addressParts host
  if 4 < parts.length then none
  let numbers ← parts.mapM addressNumber?
  let last ← numbers.getLast?
  let front := numbers.dropLast
  if front.any (255 < ·) ∨ Nat.pow 256 (4 - front.length) ≤ last then none
  let base := front.foldl (fun n b => n * 256 + b) 0
  return addressText (base * Nat.pow 256 (4 - front.length) + last)

/-- Up to four hexadecimal digits at the start of a text, and the rest. -/
def hexPiece (cs : List Char) : List Char × List Char :=
  let digits := (cs.take 4).takeWhile fun c => (hexValue? c).isSome
  (digits, cs.drop digits.length)

/-- The two pieces of an address of version 4 within one of version 6: four decimal numbers of at
most three digits without needless zeros. -/
def embedded4? (cs : List Char) : Option (List Nat) := do
  let parts := cs.splitOn '.'
  if parts.length ≠ 4 then none
  let bytes ← parts.mapM fun part =>
    if part.isEmpty ∨ (1 < part.length ∧ part.head? = some '0') ∨ !part.all Char.isDigit then none
    else do
      let n ← digitsValue? 10 part
      if 255 < n then none else some n
  match bytes with
  | [a, b, c, d] => some [a * 256 + b, c * 256 + d]
  | _ => none

/-- Reads pieces of an address of version 6 up to the end, at most as many as the first argument
says. The result tells where pieces are left out. -/
def pieces6? : Nat → List Nat → Option Nat → List Char → Option (List Nat × Option Nat)
  | 0, _, _, _ => none
  | n + 1, before, gap, cs =>
      match cs with
      | [] => some (before, gap)
      | ':' :: rest =>
          if gap.isSome then none else pieces6? n before (some before.length) rest
      | _ =>
          let (digits, rest) := hexPiece cs
          match rest with
          | '.' :: _ =>
              if digits.isEmpty ∨ 6 < before.length then none
              else do return (before ++ (← embedded4? cs), gap)
          | _ =>
              if digits.isEmpty ∨ 8 ≤ before.length then none
              else do
                let piece ← digitsValue? 16 digits
                match rest with
                | [] => some (before ++ [piece], gap)
                | [':'] => none
                | ':' :: rest => pieces6? n (before ++ [piece]) gap rest
                | _ => none

/-- The eight pieces of an address of version 6. -/
def address6? (cs : List Char) : Option (List Nat) := do
  let cs ← match cs with
    | ':' :: ':' :: rest => some (':' :: rest)
    | ':' :: _ => none
    | cs => some cs
  let (pieces, gap) ← pieces6? (cs.length + 1) [] none cs
  match gap with
  | none => if pieces.length = 8 then some pieces else none
  | some i =>
      if 8 ≤ pieces.length then none
      else some (pieces.take i ++ List.replicate (8 - pieces.length) 0 ++ pieces.drop i)

/-- The runs of zeros of a list: where each starts and how long it is. -/
def zeroRuns (start : Nat) : Nat → List Nat → List (Nat × Nat)
  | run, [] => if run = 0 then [] else [(start - run, run)]
  | run, n :: rest =>
      if n = 0 then zeroRuns (start + 1) (run + 1) rest
      else (if run = 0 then [] else [(start - run, run)]) ++ zeroRuns (start + 1) 0 rest

/-- Pieces of an address with colons between them. -/
def joinPieces (pieces : List Nat) : List Char :=
  [':'].intercalate (pieces.map (Nat.toDigits 16))

/-- An address of version 6 as it is written: the first of its longest runs of at least two zeros
is left out. -/
def address6Text (pieces : List Nat) : List Char :=
  let longest := (zeroRuns 0 0 pieces).foldl
    (fun best run => if best.2 < run.2 then run else best) (0, 1)
  if longest.2 < 2 then joinPieces pieces
  else joinPieces (pieces.take longest.1) ++ [':', ':'] ++
    joinPieces (pieces.drop (longest.1 + longest.2))

end Flowchart.Url
