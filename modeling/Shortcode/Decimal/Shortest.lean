import Shortcode.Decimal.Binary

/-!
# The fewest digits that read back

Among the decimals that round to a given binary fraction, `shortest` takes one with the fewest
digits and of those the nearest, an exact tie going to the even last digit.  If a grid of decimals
meets the interval of numbers that round to the fraction, then one of the fraction's two neighbours
on the grid lies in it, so it is enough to test these two for one digit, two digits and so on.
-/

namespace Shortcode.Decimal

/-- The decimal `digits · 10 ^ exponent`. -/
structure Scientific where
  digits : Nat
  exponent : Int
deriving DecidableEq, Repr

/-- The interval that rounds to a binary fraction, in units of a quarter of its last place. -/
structure Interval where
  lower : Nat
  centre : Nat
  upper : Nat
  /-- The ends round to the fraction too. -/
  closed : Bool
  /-- A unit is `2 ^ scale`. -/
  scale : Int

/-- The numbers that round to a fraction.  Below a power of two the gap is half as wide. -/
def Binary.interval (number : Binary) : Interval :=
  let centre := 4 * number.mantissa
  let narrow := number.mantissa == Nat.pow 2 52 && number.exponent != -1074
  ⟨centre - (if narrow then 1 else 2), centre, centre + 2, number.mantissa % 2 == 0,
    number.exponent - 2⟩

/-- The number of decimal digits. -/
def digitCount (number : Nat) : Nat := (Nat.toDigits 10 number).length

/-- The two factors that make grid points and interval units comparable. -/
def Interval.factors (interval : Interval) (exponent : Int) : Nat × Nat :=
  (Nat.pow 10 exponent.toNat * Nat.pow 2 (-interval.scale).toNat,
    Nat.pow 2 interval.scale.toNat * Nat.pow 10 (-exponent).toNat)

/-- The exponent of the leading decimal digit of the centre. -/
def Interval.magnitude (interval : Interval) : Int :=
  let (below, above) := interval.factors 0
  let estimate : Int := digitCount (interval.centre * above) - digitCount below
  let (point, unit) := interval.factors estimate
  if point ≤ interval.centre * unit then estimate else estimate - 1

/-- The better neighbour of the centre among the multiples of `10 ^ exponent`, if one rounds to
it. -/
def Interval.hit? (interval : Interval) (exponent : Int) : Option Scientific :=
  let (point, unit) := interval.factors exponent
  let centre := interval.centre * unit
  let inside (candidate : Nat) : Bool :=
    let place := candidate * point
    if interval.closed then interval.lower * unit ≤ place && place ≤ interval.upper * unit
    else interval.lower * unit < place && place < interval.upper * unit
  let floor := centre / point
  match inside floor, inside (floor + 1) with
  | false, false => none
  | true, false => some ⟨floor, exponent⟩
  | false, true => some ⟨floor + 1, exponent⟩
  | true, true =>
    let down := centre - floor * point
    let up := (floor + 1) * point - centre
    if down < up || (down == up && floor % 2 == 0) then some ⟨floor, exponent⟩
    else some ⟨floor + 1, exponent⟩

/-- Tries `remaining` finer grids, the coarsest first. -/
def Interval.search (interval : Interval) (exponent : Int) : (remaining : Nat) → Scientific
  | 0 => ⟨0, 0⟩
  | remaining + 1 =>
    match interval.hit? exponent with
    | some decimal => decimal
    | none => interval.search (exponent - 1) remaining

/-- The shortest decimal that rounds to a positive fraction; seventeen digits always suffice. -/
def Binary.shortest (number : Binary) : Scientific :=
  if number.mantissa == 0 then ⟨0, 0⟩
  else
    let interval := number.interval
    interval.search interval.magnitude 17

/-- How a decimal is written out. -/
structure Format where
  /-- Leading digits with exponents from here on are written without an exponent … -/
  least : Int
  /-- … and below here. -/
  limit : Int
  /-- The least number of digits of a written exponent. -/
  exponentDigits : Nat

/-- The text of `digits · 10 ^ exponent`, without a sign. -/
def Format.render (format : Format) (decimal : Scientific) : String :=
  let all := Nat.toDigits 10 decimal.digits
  let digits := (all.reverse.dropWhile (· == '0')).reverse
  let digits := if digits.isEmpty then ['0'] else digits
  let leading := decimal.exponent + all.length - 1
  let zeros (count : Int) := List.replicate count.toNat '0'
  let chars :=
    if format.least ≤ leading && leading < format.limit then
      if leading < 0 then '0' :: '.' :: zeros (-leading - 1) ++ digits
      else
        let whole := digits.take (leading.toNat + 1) ++ zeros (leading + 1 - digits.length)
        let part := digits.drop (leading.toNat + 1)
        whole ++ '.' :: (if part.isEmpty then ['0'] else part)
    else
      let size := Nat.toDigits 10 leading.natAbs
      let fraction := if digits.length > 1 then '.' :: digits.drop 1 else []
      digits.take 1 ++ fraction ++ 'e' :: (if leading < 0 then '-' else '+') ::
        zeros (format.exponentDigits - size.length) ++ size
  String.ofList chars

end Shortcode.Decimal
