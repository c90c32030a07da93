/-!
# The float that a written decimal is read as

The digits of a decimal are gathered into a significand for as long as it fits into 64 bits. The
significand is rounded to a float, and that is multiplied or divided by a power of ten, which is
rounded to a float as well. So the float read is near the decimal, and the nearest one wherever the
significand and the power of ten are floats; elsewhere each of the steps may round.

## Main definitions

* `Schemata.Decimal.appendDigits`: a significand with as many digits behind it as fit.
* `Schemata.Decimal.Scaled`: a significand times a power of ten.
* `Schemata.Decimal.Scaled.ofDigits`: what is kept of the digits before and behind the point.
* `Schemata.Decimal.Scaled.toFloat?`: the float that is read.

## Main results

* `Schemata.Decimal.Scaled.ofDigits_spec`: which digits the significand stands for.
* `Schemata.Decimal.Scaled.ofDigits_eq_of_lt`: a decimal whose digits fit is kept as it is written.
-/

namespace Schemata.Decimal

/-- The value of a decimal digit. -/
def digitValue (c : Char) : Nat :=
  c.toNat - '0'.toNat

/-- The number that digits stand for when they are written behind the number `n`. -/
def digitsValue (n : Nat) (digits : List Char) : Nat :=
  digits.foldl (fun n c => 10 * n + digitValue c) n

theorem digitsValue_append (n : Nat) (digits more : List Char) :
    digitsValue n (digits ++ more) = digitsValue (digitsValue n digits) more :=
  List.foldl_append

/-- Further digits do not make the number smaller. -/
theorem digitsValue_le_append (n : Nat) (digits more : List Char) :
    digitsValue n digits ≤ digitsValue n (digits ++ more) := by
  rw [digitsValue_append]
  generalize digitsValue n digits = m
  induction more generalizing m with
  | nil => exact Nat.le_refl m
  | cons c cs ih =>
    calc m ≤ 10 * m + digitValue c := by omega
      _ ≤ digitsValue m (c :: cs) := ih _

/-- Writes digits behind the number `n` for as long as the result fits into 64 bits, and gives the
result together with the digits that are left. -/
def appendDigits (n : Nat) : List Char → Nat × List Char
  | [] => (n, [])
  | c :: cs =>
    if 10 * n + digitValue c < UInt64.size then appendDigits (10 * n + digitValue c) cs
    else (n, c :: cs)

/-- The result fits into 64 bits. -/
theorem appendDigits_lt {n : Nat} (h : n < UInt64.size) (digits : List Char) :
    (appendDigits n digits).1 < UInt64.size := by
  fun_induction appendDigits n digits with
  | case1 n => exact h
  | case2 n c cs hc ih => exact ih hc
  | case3 n c cs hc => exact h

/-- The result is the number that the first digits stand for, and with the next digit it would not
fit. -/
theorem appendDigits_spec (n : Nat) (digits : List Char) :
    ∃ kept left, digits = kept ++ left ∧ appendDigits n digits = (digitsValue n kept, left) ∧
      ∀ c ∈ left.head?, UInt64.size ≤ digitsValue n (kept ++ [c]) := by
  fun_induction appendDigits n digits with
  | case1 n => exact ⟨[], [], rfl, rfl, fun c hc => by cases hc⟩
  | case2 n c cs hc ih =>
    obtain ⟨kept, left, rfl, hresult, hnext⟩ := ih
    exact ⟨c :: kept, left, rfl, hresult, hnext⟩
  | case3 n c cs hc =>
    refine ⟨[], c :: cs, rfl, rfl, fun d hd => ?_⟩
    cases hd
    exact Nat.le_of_not_lt hc

/-- The number `significand * 10 ^ exponent`. -/
structure Scaled where
  significand : Nat
  exponent : Int

/-- The largest exponent of a power of ten that fits into a float. -/
def maxPower : Nat := 308

/-- The float nearest to a power of ten, for an exponent of at most `maxPower`. -/
def powerOfTen (n : Nat) : Float :=
  Float.ofScientific 1 false n

namespace Scaled

/-- The decimal with the given digits before and behind its point, times a power of ten. A digit
before the point that is left out counts as a zero. A digit behind the point is written behind those
kept so far, and one that is left out does not count. -/
def ofDigits (whole decimals : List Char) (power : Int) : Scaled :=
  let (kept, zeros) := appendDigits 0 whole
  let (significand, ignored) := appendDigits kept decimals
  { significand, exponent := power + zeros.length - (decimals.length - ignored.length : Nat) }

/-- The significand stands for the first digits before the point with the first ones behind it. It
fits into 64 bits, and on either side the first digit left out would not have fitted. Each digit
left out before the point raises the exponent, and each one read behind it lowers it. -/
theorem ofDigits_spec (whole decimals : List Char) (power : Int) :
    ∃ kept zeros read ignored, whole = kept ++ zeros ∧ decimals = read ++ ignored ∧
      ofDigits whole decimals power =
        ⟨digitsValue 0 (kept ++ read), power + zeros.length - read.length⟩ ∧
      digitsValue 0 (kept ++ read) < UInt64.size ∧
      (∀ c ∈ zeros.head?, UInt64.size ≤ digitsValue 0 (kept ++ [c])) ∧
      ∀ c ∈ ignored.head?, UInt64.size ≤ digitsValue 0 (kept ++ read ++ [c]) := by
  obtain ⟨kept, zeros, hwhole, hkept, hzeros⟩ := appendDigits_spec 0 whole
  obtain ⟨read, ignored, hdecimals, hread, hignored⟩ :=
    appendDigits_spec (digitsValue 0 kept) decimals
  have hfits := appendDigits_lt (Nat.zero_lt_succ _) whole
  rw [hkept] at hfits
  have hlt := appendDigits_lt hfits decimals
  rw [hread] at hlt
  have hlength : decimals.length - ignored.length = read.length := by simp [hdecimals]
  refine ⟨kept, zeros, read, ignored, hwhole, hdecimals, ?_, ?_, hzeros, fun c hc => ?_⟩
  · simp only [ofDigits, hkept, hread, hlength, digitsValue_append]
  · rwa [digitsValue_append]
  · rw [List.append_assoc, digitsValue_append]
    exact hignored c hc

/-- If the digits fit into 64 bits together, the decimal is kept as it is written. -/
theorem ofDigits_eq_of_lt {whole decimals : List Char} (power : Int)
    (h : digitsValue 0 (whole ++ decimals) < UInt64.size) :
    ofDigits whole decimals power =
      ⟨digitsValue 0 (whole ++ decimals), power - decimals.length⟩ := by
  obtain ⟨kept, zeros, read, ignored, rfl, rfl, heq, -, hzeros, hignored⟩ :=
    ofDigits_spec whole decimals power
  rw [heq]
  -- The first digit left out did not fit, and the digits after it do not make the number smaller.
  cases zeros with
  | cons c zeros =>
    rw [List.append_cons, List.append_assoc] at h
    have hlt := Nat.lt_of_le_of_lt (digitsValue_le_append 0 (kept ++ [c]) _) h
    exact absurd (hzeros c rfl) (Nat.not_le_of_lt hlt)
  | nil =>
    rw [List.append_nil, ← List.append_assoc] at h ⊢
    cases ignored with
    | cons c ignored =>
      rw [List.append_cons] at h
      have hlt := Nat.lt_of_le_of_lt (digitsValue_le_append 0 (kept ++ read ++ [c]) _) h
      exact absurd (hignored c rfl) (Nat.not_le_of_lt hlt)
    | nil => simp

/-- The float that is read; none where it would be infinite. A significand of 64 bits is zero after
two divisions by the largest power of ten, so no smaller exponent needs a third one. -/
def toFloat? (d : Scaled) : Option Float :=
  let x := Float.ofNat d.significand
  if d.exponent < 0 then
    let n := d.exponent.natAbs
    if n ≤ maxPower then some (x / powerOfTen n)
    else some (x / powerOfTen maxPower / powerOfTen (min (n - maxPower) maxPower))
  else if d.exponent.natAbs ≤ maxPower then
    let y := x * powerOfTen d.exponent.natAbs
    if y.isFinite then some y else none
  else if d.significand == 0 then some x
  else none

end Scaled

end Schemata.Decimal
