/-!
# The shortest decimal of a binary number

A double stands for every real number that rounds to it. `shortest` picks from that interval the
decimal with the fewest digits, and of several such the one nearest to the double itself. All
arithmetic is exact and on natural numbers: a positive double is `mantissa * 2 ^ exponent`, and its
interval is given in quarters of a unit in the last place.
-/

namespace UiPolicy

/-- The positive decimal number `digits * 10 ^ exponent`. -/
structure Decimal where
  digits : Nat
  exponent : Int
deriving Repr, DecidableEq

namespace Decimal

/-- Which of two equally near decimals is taken. -/
inductive Tie
  | upward
  | toEven
deriving Repr, DecidableEq

/-- A positive double, taken apart: `mantissa * 2 ^ exponent`. -/
structure Binary where
  mantissa : Nat
  exponent : Int
deriving Repr, DecidableEq

/-- The value of the sign bit. -/
def isNegative (x : Float) : Bool :=
  x.toBits >>> 63 == 1

/-- The magnitude of a finite double; zero has mantissa zero. -/
def Binary.ofFloat (x : Float) : Binary :=
  let bits : Nat := x.toBits.toNat
  let fraction : Nat := bits % Nat.pow 2 52
  let biased : Nat := bits / Nat.pow 2 52 % Nat.pow 2 11
  if biased = 0 then ⟨fraction, -1074⟩ else ⟨Nat.pow 2 52 + fraction, (biased : Int) - 1075⟩

/-- `n * 2 ^ e` as a fraction. -/
def scaleTwo (n : Nat) (e : Int) : Nat × Nat :=
  if 0 ≤ e then (n * Nat.pow 2 e.toNat, 1) else (n, Nat.pow 2 (-e).toNat)

/-- `n / d` divided by `10 ^ e`, as a fraction. -/
def unscaleTen (n d : Nat) (e : Int) : Nat × Nat :=
  if 0 ≤ e then (n, d * Nat.pow 10 e.toNat) else (n * Nat.pow 10 (-e).toNat, d)

def digitCount (n : Nat) : Nat :=
  (Nat.toDigits 10 n).length

/-- The exponent of the leading digit of the positive fraction `n / d`. -/
def leadingExponent (n d : Nat) : Int :=
  if d ≤ n then (digitCount (n / d) : Int) - 1
  else -(digitCount ((d + n - 1) / n - 1) : Int)

/-- The same number with no zero at the end of its digits. -/
def normalize (d : Decimal) : Decimal :=
  go (digitCount d.digits) d
where
  go : Nat → Decimal → Decimal
    | 0, d => d
    | fuel + 1, d =>
      if d.digits ≠ 0 ∧ d.digits % 10 = 0 then go fuel ⟨d.digits / 10, d.exponent + 1⟩ else d

/-- The interval of reals that round to a double, in quarters of its last place. -/
structure Interval where
  low : Nat
  middle : Nat
  high : Nat
  closed : Bool
  exponent : Int
deriving Repr, DecidableEq

/-- The interval of a double; it is closed when the mantissa is even, and narrower below a power of
two. -/
def Binary.interval (b : Binary) : Interval where
  low := 4 * b.mantissa - (if b.mantissa = Nat.pow 2 52 ∧ -1074 < b.exponent then 1 else 2)
  middle := 4 * b.mantissa
  high := 4 * b.mantissa + 2
  closed := b.mantissa % 2 = 0
  exponent := b.exponent - 2

/-- Whether the grid point `k * 10 ^ e` lies in an interval. -/
def Interval.holds (i : Interval) (e : Int) (k : Nat) : Bool :=
  let within (a b : Nat) : Bool := if i.closed then a ≤ b else a < b
  let (lowNum, lowDen) := scaleTwo i.low i.exponent
  let (lowNum, lowDen) := unscaleTen lowNum lowDen e
  let (highNum, highDen) := scaleTwo i.high i.exponent
  let (highNum, highDen) := unscaleTen highNum highDen e
  within lowNum (k * lowDen) && within (k * highDen) highNum

/-- The point of the grid `10 ^ e` nearest to an interval's middle among those inside it. -/
def Interval.gridPoint? (tie : Tie) (i : Interval) (e : Int) : Option Nat :=
  let (num, den) := scaleTwo i.middle i.exponent
  let (num, den) := unscaleTen num den e
  let below := num / den
  let above := below + 1
  match i.holds e below && below != 0, i.holds e above with
  | false, false => none
  | true, false => some below
  | false, true => some above
  | true, true =>
    let distance := 2 * (num % den)
    if distance < den then some below
    else if den < distance then some above
    else match tie with
      | .upward => some above
      | .toEven => if below % 2 = 0 then some below else some above

/-- The first grid, from `e` downward, with a point in the interval. -/
def Interval.search (tie : Tie) (i : Interval) : Nat → Int → Decimal
  | 0, e => ⟨0, e⟩
  | fuel + 1, e =>
    match i.gridPoint? tie e with
    | some k => ⟨k, e⟩
    | none => i.search tie fuel (e - 1)

/-- The shortest decimal that rounds to a finite double, sign apart. Seventeen digits always
suffice. -/
def shortest (tie : Tie) (x : Float) : Decimal :=
  let b := Binary.ofFloat x
  if b.mantissa = 0 then ⟨0, 0⟩
  else
    let (num, den) := scaleTwo b.mantissa b.exponent
    (b.interval.search tie 18 (leadingExponent num den)).normalize

end Decimal

end UiPolicy
