/-!
# Numbers with a fraction

How a binary floating-point number is written in decimal: with the fewest digits that name this
number and no other, without an exponent, and with at least one place after the point. Where
several decimals of the same length name the number, the nearest one is taken, and of two equally
near ones the one farther from zero.
-/

namespace WikiEntry.Decimal

/-- The nearest whole number to `n / d`; of two equally near ones the greater one. -/
def roundDiv (n d : Nat) : Nat := if 2 * (n % d) < d then n / d else n / d + 1

/-- The ratio `n / d` times two to the power `-e`, as a ratio. -/
def scale (n d : Nat) (e : Int) : Nat × Nat :=
  if 0 ≤ e then (n, d * Nat.pow 2 e.toNat) else (n * Nat.pow 2 (-e).toNat, d)

/-- Whether the ratio `n / d` is nearer to `m * 2 ^ e` than to any other binary number; a tie goes
to the even one. Below a power of two the neighbours are twice as near. -/
def belongs (m : Nat) (e : Int) (n d : Nat) : Bool :=
  let (a, b) := scale n d e
  let below := if m = Nat.pow 2 52 ∧ -1074 < e then 4 * m - 1 else 4 * m - 2
  if m % 2 = 0 then below * b ≤ 4 * a && 4 * a ≤ (4 * m + 2) * b
  else below * b < 4 * a && 4 * a < (4 * m + 2) * b

def tenTo (k : Int) : Nat × Nat :=
  if 0 ≤ k then (Nat.pow 10 k.toNat, 1) else (1, Nat.pow 10 (-k).toNat)

/-- The multiple of ten to the power `k` that is nearest to `m * 2 ^ e` among those that name it,
the greater one of two equally near ones; `none` if no multiple does. -/
def onGrid? (m : Nat) (e k : Int) : Option Nat :=
  let (n, d) := scale m 1 (-e)
  let (p, q) := tenTo k
  let low := n * q / (d * p)
  let candidates := [roundDiv (n * q) (d * p), low, low + 1]
  candidates.find? fun c => belongs m e (c * p) q

/-- The fewest decimal digits for `m * 2 ^ e`, as a multiple of a power of ten: the powers
`k, k - 1, …` are tried, at most `tries` of them. -/
def fewest (m : Nat) (e : Int) : (tries : Nat) → (k : Int) → Nat × Int
  | 0, k => (0, k)
  | tries + 1, k =>
    match onGrid? m e k with
    | some c => (c, k)
    | none => fewest m e tries (k - 1)

/-- The digits of `c * 10 ^ k`, with at least one place after the point. -/
def positional (c : Nat) (k : Int) : String :=
  if 0 ≤ k then toString (c * Nat.pow 10 k.toNat) ++ ".0"
  else
    let places := (-k).toNat
    let fraction := toString (c % Nat.pow 10 places)
    toString (c / Nat.pow 10 places) ++ "." ++
      String.ofList (List.replicate (places - fraction.length) '0') ++ fraction

/-- The text of `m * 2 ^ e`. No decimal longer than 400 digits is needed to name a number of 64
bits. -/
def magnitude (m : Nat) (e : Int) : String :=
  if m = 0 then "0.0"
  else
    let (n, d) := scale m 1 (-e)
    let (c, k) := fewest m e 400 (Nat.toDigits 10 (n / d)).length
    positional c k

/-- The text of a number of 64 bits: a sign, eleven bits of exponent and the rest. -/
def text (x : Float) : String :=
  let bits := x.toBits.toNat
  let exponent : Nat := bits / Nat.pow 2 52 % Nat.pow 2 11
  let fraction := bits % Nat.pow 2 52
  (if bits < Nat.pow 2 63 then "" else "-") ++
    if exponent = 2047 then (if fraction = 0 then "inf" else "nan")
    else if exponent = 0 then magnitude fraction (-1074)
    else magnitude (Nat.pow 2 52 + fraction) ((exponent : Int) - 1075)

end WikiEntry.Decimal
