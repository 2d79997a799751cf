/-!
# Decimal text of a double

A double is written with the fewest digits that read back as the same double and, of those, the
digits nearest to it. `shortest` finds them on exact numbers: the double is `m · 2 ^ q`, and the reals
that round to it form an interval whose ends belong to it when `m` is even.
-/

namespace OrgConsole.Decimal

/-- `m · 2 ^ q` as a fraction of natural numbers. -/
def fraction (m : Nat) (q : Int) : Nat × Nat :=
  if 0 ≤ q then (m <<< q.toNat, 1) else (m, 1 <<< (-q).toNat)

/-- The greatest `e` with `10 ^ e ≤ num / den`, looked for upwards from `e` in `steps` steps. -/
def magnitude (num den : Nat) : (steps : Nat) → (e : Int) → Int
  | 0, e => e
  | steps + 1, e =>
    let next := e + 1
    let (n, d) := if 0 ≤ next then (num, den * 10 ^ next.toNat) else (num * 10 ^ (-next).toNat, den)
    if d ≤ n then magnitude num den steps next else e

/-- The nearest multiple of `10 ^ k` that lies in the interval, as the multiplier. The value and the
ends of its interval are `value / den`, `low / den` and `high / den`. -/
def onGrid? (value low high den : Nat) (inclusive : Bool) (k : Int) : Option Nat :=
  let (up, down) := if 0 ≤ k then (1, Nat.pow 10 k.toNat) else (Nat.pow 10 (-k).toNat, 1)
  let unit := den * down
  let inside (x : Nat) : Bool :=
    if inclusive then low * up ≤ x * unit && x * unit ≤ high * up
    else low * up < x * unit && x * unit < high * up
  let below := value * up / unit
  let rest := value * up % unit
  let nearer := if 2 * rest < unit then below else if unit < 2 * rest then below + 1
    else if below % 2 = 0 then below else below + 1
  let other := if nearer = below then below + 1 else below
  if inside nearer then some nearer else if inside other then some other else none

/-- The first grid with a point in the interval, from `10 ^ k` downwards. -/
def firstGrid (value low high den : Nat) (inclusive : Bool) : (steps : Nat) → (k : Int) → Nat × Int
  | 0, k => (value / den, k)
  | steps + 1, k =>
    match onGrid? value low high den inclusive k with
    | some x => (x, k)
    | none => firstGrid value low high den inclusive steps (k - 1)

/-- The shortest decimal `x · 10 ^ k` that reads back as `m · 2 ^ q`; `lowest` marks a double whose
lower neighbour is half as far away as its upper one. The first grid tried is coarser than the value's
own magnitude, as a double just below a power of ten may read back from that power. -/
def shortest (m : Nat) (q : Int) (lowest : Bool) : Nat × Int :=
  let (value, den) := fraction (4 * m) (q - 2)
  let low := (fraction (4 * m - if lowest then 1 else 2) (q - 2)).1
  let high := (fraction (4 * m + 2) (q - 2)).1
  firstGrid value low high den (m % 2 == 0) 19 (magnitude value den 700 (-330) + 1)

/-- The first bit of a mantissa, which a double does not store. -/
def hiddenBit : Nat := 1 <<< 52

/-- The multiplier and the power of two of a finite double without its sign. -/
def parts (x : Float) : Nat × Int × Bool :=
  let bits : Nat := x.toBits.toNat
  let exponent : Nat := bits / hiddenBit % 0x800
  let mantissa : Nat := bits % hiddenBit
  if exponent = 0 then (mantissa, -1074, false)
  else (hiddenBit + mantissa, (exponent : Int) - 1075, mantissa = 0 && 1 < exponent)

/-- At least two digits of an exponent. -/
def exponentDigits (n : Nat) : List Char :=
  if n < 10 then '0' :: Nat.toDigits 10 n else Nat.toDigits 10 n

/-- The digits of `x · 10 ^ k` with a point, or with an exponent if the point would fall more than
sixteen places to the right or more than five places to the left of the first digit. -/
def layOut (x : Nat) (k : Int) : List Char :=
  let digits := Nat.toDigits 10 x
  let zeros (n : Int) : List Char := List.replicate n.toNat '0'
  let point := digits.length + k
  if 0 ≤ k && point ≤ 16 then digits ++ zeros k ++ ['.', '0']
  else if 0 < point && point ≤ 16 then digits.take point.toNat ++ '.' :: digits.drop point.toNat
  else if -5 < point && point ≤ 0 then '0' :: '.' :: zeros (-point) ++ digits
  else
    let e := point - 1
    let tail := match digits.drop 1 with
      | [] => []
      | ds => '.' :: ds
    digits.take 1 ++ tail ++ ['e', if e < 0 then '-' else '+'] ++ exponentDigits e.natAbs

/-- The text of a finite double. -/
def text (x : Float) : String :=
  let sign := if x.toBits.toNat >>> 63 = 1 then ['-'] else []
  let (m, q, lowest) := parts x
  if m = 0 then String.ofList (sign ++ ['0', '.', '0'])
  else
    let (d, k) := shortest m q lowest
    String.ofList (sign ++ layOut d k)

/-- The digits of `x · 10 ^ k` with a point if there is a fraction. -/
def layOutPlain (x : Nat) (k : Int) : List Char :=
  let digits := Nat.toDigits 10 x
  let zeros (n : Int) : List Char := List.replicate n.toNat '0'
  let point := digits.length + k
  if 0 ≤ k then digits ++ zeros k
  else if 0 < point then digits.take point.toNat ++ '.' :: digits.drop point.toNat
  else '0' :: '.' :: zeros (-point) ++ digits

/-- The text of any double without an exponent. -/
def plainText (x : Float) : String :=
  if x.isNaN then "NaN"
  else
    let sign := if x.toBits.toNat >>> 63 = 1 then ['-'] else []
    let (m, q, lowest) := parts x
    if x.isInf then String.ofList (sign ++ ['i', 'n', 'f'])
    else if m = 0 then String.ofList (sign ++ ['0'])
    else
      let (d, k) := shortest m q lowest
      String.ofList (sign ++ layOutPlain d k)

end OrgConsole.Decimal
