import Mathlib.Tactic.Ring
import Schemata.Decimal.Shortest
import Schemata.Text.Quoted

/-!
# How long texts are

Between quotes a character is spelt by one character at least and by ten at most. What is listed
stands in the list, which is as long as its longest text and the separator allow. An integer of 64
bits has 20 characters at most, its sign included.

The text of a float has at most 25 characters. Its shortest decimal is a point of a grid with at
most 17 digits; as the float is less than the power of ten above it, so is the point next to it, or
it is that power. Positional notation is used only where the point is near the digits, so it adds no
more than exponential notation does, whose exponent has three digits and a sign.

## Main results

* `Schemata.Text.length_le_length_quote`, `Schemata.Text.length_quote_le`: quoted text.
* `Schemata.Text.isInfix_intercalate`, `Schemata.Text.length_intercalate_le`: listed text.
* `Schemata.Decimal.length_int_le`: integers.
* `Schemata.Decimal.Interval.shortest_spec`: the number of digits, and where the point is.
* `Schemata.Decimal.length_floatText_le`: floats.
-/

namespace Schemata

/-! ### Quoted text -/

namespace Text

theorem length_spellCode_le (c : Char) : (spellCode c).length ≤ 10 := by
  have hcode : c.toNat < 16 ^ 6 := by
    have hvalid : c.toNat < 0xD800 ∨ 0xDFFF < c.toNat ∧ c.toNat < 0x110000 := c.valid
    omega
  have hdigits := (Nat.length_toDigits_le_iff (by decide) (by decide)).mpr hcode
  have hopen : "\\u\x7b".length = 3 := rfl
  have hclose : "\x7d".length = 1 := rfl
  rw [spellCode, String.length_append, String.length_append, hopen, hclose, String.length_ofList]
  omega

theorem length_escape_le (c : Char) : (escape c).length ≤ 10 := by
  unfold escape
  split
  iterate 6 exact Nat.le_of_ble_eq_true rfl
  split_ifs
  · exact length_spellCode_le c
  · simp

theorem length_escape_pos (c : Char) : 0 < (escape c).length := by
  unfold escape
  split
  iterate 6 exact Nat.lt_of_sub_ne_zero (by decide)
  split_ifs
  · rw [spellCode, String.length_append]
    exact Nat.succ_pos _
  · simp

theorem length_quote (s : String) :
    (quote s).length = (String.join (s.toList.map escape)).length + 2 := by
  rw [quote, String.length_append, String.length_append]
  change 1 + _ + 1 = _
  omega

/-- **Quoted text** has at most ten characters for each that is quoted, and the quotes. -/
theorem length_quote_le (s : String) : (quote s).length ≤ 10 * s.length + 2 := by
  rw [length_quote, ← String.length_toList (s := s)]
  induction s.toList with
  | nil => exact Nat.le_refl 2
  | cons c rest ih =>
    have hfirst := length_escape_le c
    rw [List.map_cons, String.join_cons, String.length_append, List.length_cons]
    omega

/-- Every character that is quoted shows. -/
theorem length_le_length_quote (s : String) : s.length ≤ (quote s).length := by
  rw [length_quote, ← String.length_toList (s := s)]
  induction s.toList with
  | nil => exact Nat.zero_le _
  | cons c rest ih =>
    have hfirst := length_escape_pos c
    rw [List.map_cons, String.join_cons, String.length_append, List.length_cons]
    omega

/-! ### Listed text -/

/-- What stands in the middle stands in the whole. -/
theorem isInfix_between {text middle : String} (before after : String)
    (h : text.toList <:+: middle.toList) : text.toList <:+: (before ++ middle ++ after).toList := by
  rw [String.toList_append, String.toList_append]
  exact h.trans (List.infix_append _ _ _)

/-- What is listed stands in the list. -/
theorem isInfix_intercalate {separator text : String} {texts : List String} (h : text ∈ texts) :
    text.toList <:+: (separator.intercalate texts).toList := by
  rw [String.toList_intercalate, List.intercalate]
  refine List.infix_of_mem_flatten ?_
  obtain ⟨i, hi, htext⟩ := List.getElem_of_mem (List.mem_map_of_mem (f := String.toList) h)
  rw [← htext, List.getElem_eq_getElem_intersperse_two_mul]
  exact List.getElem_mem _

theorem length_intercalate_le {separator : String} {longest : Nat} {texts : List String}
    (h : ∀ text ∈ texts, text.length ≤ longest) :
    (separator.intercalate texts).length ≤ texts.length * (separator.length + longest) := by
  induction texts with
  | nil => exact Nat.zero_le _
  | cons text rest ih =>
    have hfirst := h text List.mem_cons_self
    have hrest := ih fun other hother => h other (List.mem_cons_of_mem _ hother)
    rw [List.length_cons, Nat.succ_mul]
    rcases eq_or_ne rest [] with rfl | hne
    · rw [String.intercalate_singleton]
      omega
    · rw [String.intercalate_cons_of_ne_nil hne, String.length_append, String.length_append]
      omega

end Text

/-! ### Integers -/

namespace Decimal

theorem length_nat_le {n k : Nat} (hk : 0 < k) (h : n < 10 ^ k) : (toString n).length ≤ k :=
  (Nat.length_repr_le_iff hk).mpr h

theorem length_int_le {n : Int} {k : Nat} (hk : 0 < k) (h : n.natAbs < 10 ^ k) :
    (toString n).length ≤ k + 1 := by
  cases n with
  | ofNat m => exact (length_nat_le hk h).trans (Nat.le_succ k)
  | negSucc m =>
    have hdigits : (toString (m + 1)).length ≤ k := length_nat_le hk h
    change ("-" ++ toString (m + 1)).length ≤ k + 1
    rw [String.length_append]
    change 1 + _ ≤ _
    omega

theorem length_int64_le (n : Int64) : (toString n.toInt).length ≤ 20 := by
  have hlow := n.le_toInt
  have hhigh := n.toInt_lt
  refine length_int_le (k := 19) (by decide) ?_
  omega

/-! ### Digits of floats -/

namespace Interval

variable {i : Interval}

/-- The zeros after the point are zeros. -/
theorem zerosAfterPoint_spec (bound : Nat) : ∀ {n d : Nat}, n < d →
    n * 10 ^ zerosAfterPoint n d bound < d ∧ zerosAfterPoint n d bound ≤ bound := by
  induction bound with
  | zero =>
    intro n d h
    simpa [zerosAfterPoint] using h
  | succ bound ih =>
    intro n d h
    rw [zerosAfterPoint]
    split_ifs with hdigit
    · simpa using h
    · obtain ⟨hrest, hbound⟩ := ih (n := n * 10) (Nat.lt_of_not_le hdigit)
      refine ⟨?_, Nat.succ_le_succ hbound⟩
      calc n * 10 ^ (zerosAfterPoint (n * 10) d bound + 1)
          = n * 10 * 10 ^ zerosAfterPoint (n * 10) d bound := by rw [pow_succ]; ring
        _ < d := hrest

/-- **The number is less than the power of ten** of its magnitude. -/
theorem value_lt_magnitude (i : Interval) (hunit : 0 < i.unit) :
    i.value * 10 ^ (-i.magnitude).toNat < i.unit * 10 ^ i.magnitude.toNat := by
  unfold magnitude
  split_ifs with h
  · have hpoint : 0 < digitsBeforePoint i.value i.unit := Nat.length_toDigits_pos
    have hdigits : i.value / i.unit < 10 ^ digitsBeforePoint i.value i.unit :=
      (Nat.length_toDigits_le_iff (by decide) hpoint).mp (Nat.le_refl _)
    have hvalue := (Nat.div_lt_iff_lt_mul hunit).mp hdigits
    simpa [Nat.mul_comm] using hvalue
  · have hzeros := (zerosAfterPoint_spec 400 (Nat.lt_of_not_le h)).1
    simpa using hzeros

/-- A magnitude is not far from zero. -/
theorem magnitude_bounds (i : Interval) {k : Nat} (hk : 0 < k)
    (hvalue : i.value / i.unit < 10 ^ k) : -400 ≤ i.magnitude ∧ i.magnitude ≤ k := by
  unfold magnitude
  split_ifs with h
  · have hdigits : digitsBeforePoint i.value i.unit ≤ k :=
      (Nat.length_toDigits_le_iff (by decide) hk).mpr hvalue
    omega
  · have hzeros := (zerosAfterPoint_spec 400 (Nat.lt_of_not_le h)).2
    omega

/-- The number on the grid of so many digits is less than the power of ten above it. -/
theorem value_lt_grid (i : Interval) (hunit : 0 < i.unit) (digits : Nat) :
    i.value * 10 ^ (-(i.magnitude - digits)).toNat <
      i.unit * 10 ^ (i.magnitude - digits).toNat * 10 ^ digits := by
  -- Both sides are taken as many times as the magnitude says, so that no exponent is negative.
  have hscale : (-(i.magnitude - digits)).toNat + i.magnitude.toNat =
      (-i.magnitude).toNat + ((i.magnitude - digits).toNat + digits) := by omega
  refine Nat.lt_of_mul_lt_mul_right (a := 10 ^ i.magnitude.toNat) ?_
  calc i.value * 10 ^ (-(i.magnitude - digits)).toNat * 10 ^ i.magnitude.toNat
      = i.value * 10 ^ (-i.magnitude).toNat * 10 ^ ((i.magnitude - digits).toNat + digits) := by
        rw [Nat.mul_assoc, ← Nat.pow_add, hscale, Nat.pow_add, Nat.mul_assoc]
    _ < i.unit * 10 ^ i.magnitude.toNat * 10 ^ ((i.magnitude - digits).toNat + digits) :=
        Nat.mul_lt_mul_of_pos_right (i.value_lt_magnitude hunit) (Nat.pow_pos (by decide))
    _ = i.unit * 10 ^ (i.magnitude - digits).toNat * 10 ^ digits * 10 ^ i.magnitude.toNat := by
        rw [Nat.pow_add]
        ring

/-- A point next to the number on the grid of so many digits has so many digits, or it is the power
of ten above the number. -/
theorem gridPoint_le (hunit : 0 < i.unit) {digits k : Nat}
    (h : i.gridPoint? (i.magnitude - digits) = some k) : k ≤ 10 ^ digits := by
  have hlower := Nat.div_lt_of_lt_mul (i.value_lt_grid hunit digits)
  unfold gridPoint? at h
  dsimp only at h
  change i.value * Nat.pow 10 _ / (i.unit * Nat.pow 10 _) < _ at hlower
  split at h
  · split_ifs at h <;> cases h <;> omega
  · cases h
    omega
  · cases h
    omega
  · cases h

/-- The search ends on a grid of at most as many digits as it may try, or nowhere. -/
theorem search_spec (hunit : 0 < i.unit) (bound : Nat) : ∀ {digits : Nat}, 0 < digits →
    i.search i.magnitude digits bound = (0, 0) ∨
      ∃ k d, i.search i.magnitude digits bound = (k, i.magnitude - (d : Nat)) ∧ k ≤ 10 ^ d ∧
        0 < d ∧ d < digits + bound := by
  -- The number of digits grows as the bound is used up, so it is taken as arbitrary.
  induction bound with
  | zero => exact fun _ => .inl rfl
  | succ bound ih =>
    intro digits hdigits
    rw [search]
    cases hpoint : i.gridPoint? (i.magnitude - digits) with
    | some k =>
      exact .inr ⟨k, digits, rfl, gridPoint_le hunit hpoint, hdigits,
        Nat.lt_add_of_pos_right (Nat.succ_pos bound)⟩
    | none =>
      rcases ih (Nat.succ_pos digits) with hnone | ⟨k, d, hfound, hk, hpos, hd⟩
      · exact .inl hnone
      · exact .inr ⟨k, d, hfound, hk, hpos, by omega⟩

/-- **The shortest decimal** has at most 18 digits, and its point is not far from where the
magnitude says. -/
theorem shortest_spec (hunit : 0 < i.unit) :
    i.shortest.1.length ≤ 18 ∧
      (i.shortest.2 = 1 ∨ i.magnitude - 16 ≤ i.shortest.2 ∧ i.shortest.2 ≤ i.magnitude + 1) := by
  have hkept : ∀ digits : List Char,
      (digits.reverse.dropWhile (· == '0')).reverse.length ≤ digits.length := fun digits => by
    rw [List.length_reverse]
    exact (List.dropWhile_sublist _).length_le.trans_eq List.length_reverse
  unfold shortest
  rcases search_spec hunit 17 Nat.one_pos with hnone | ⟨k, d, hfound, hk, hpos, hd⟩
  · rw [hnone]
    exact ⟨(hkept _).trans (by decide), .inl rfl⟩
  · have hdigits : (Nat.toDigits 10 k).length ≤ d + 1 :=
      (Nat.length_toDigits_le_iff (by decide) (Nat.succ_pos d)).mpr
        (hk.trans_lt (Nat.pow_lt_pow_right (by decide) (Nat.lt_succ_self d)))
    have hsome : 0 < (Nat.toDigits 10 k).length := Nat.length_toDigits_pos
    rw [hfound]
    dsimp only
    refine ⟨(hkept _).trans (by omega), .inr ?_⟩
    omega

end Interval

/-! ### The text of floats -/

theorem length_positional_le {digits : List Char} {point : Int} (hdigits : digits.length ≤ 18)
    (hlow : -3 ≤ point) (hhigh : point ≤ 16) : (positional digits point).length ≤ 24 := by
  unfold positional
  split_ifs with h
  · simp only [List.length_cons, List.length_append, List.length_replicate]
    omega
  · dsimp only
    split
    · simp only [List.length_append, List.length_take, List.length_replicate, List.length_cons,
        List.length_nil]
      omega
    · simp only [List.length_append, List.length_take, List.length_replicate, List.length_cons,
        List.length_drop]
      omega

theorem length_exponential_le {digits : List Char} {point : Int} (hdigits : digits.length ≤ 18)
    (hpoint : (point - 1).natAbs < 1000) : (exponential digits point).length ≤ 24 := by
  have hexponent : (toString (point - 1)).toList.length ≤ 4 := by
    rw [String.length_toList]
    exact length_int_le (k := 3) (by decide) hpoint
  unfold exponential
  dsimp only
  split
  · exact Nat.zero_le _
  · simp only [List.length_cons] at hdigits ⊢
    omega
  · simp only [List.length_cons, List.length_append] at hdigits ⊢
    omega

theorem two_pow_le_ten_pow (k : Nat) : 2 ^ (3 * k) ≤ 10 ^ k := by
  rw [Nat.pow_mul]
  exact Nat.pow_le_pow_left (by decide) k

/-- A double is less than `2 ^ 1024`, which has fewer than 343 digits. -/
theorem ofFields_spec {exponent fraction : Nat} (hexponent : exponent < 2047)
    (hfraction : fraction < 2 ^ 52) : 0 < (Interval.ofFields exponent fraction).unit ∧
      (Interval.ofFields exponent fraction).value / (Interval.ofFields exponent fraction).unit <
        10 ^ 342 := by
  -- The scale is kept as a variable: no power of two as large as this one is written out.
  obtain ⟨scale, hscale, hunit⟩ :
      ∃ scale, scale = 1074 ∧ (Interval.ofFields exponent fraction).unit = 4 <<< scale :=
    ⟨1074, rfl, rfl⟩
  obtain ⟨significand, shift, hsignificand, hshift, hvalue⟩ :
      ∃ significand shift, significand < 2 ^ 53 ∧ shift ≤ scale + 971 ∧
        (Interval.ofFields exponent fraction).value = (4 * significand) * 2 ^ shift := by
    refine ⟨_, _, ?_, ?_, Nat.shiftLeft_eq _ _⟩
    · split_ifs
      · omega
      · rw [Nat.one_shiftLeft]
        omega
    · split_ifs <;> omega
  have hpower : ∀ n, 0 < 2 ^ n := fun n => Nat.pow_pos (by decide)
  rw [hvalue, hunit, Nat.shiftLeft_eq]
  refine ⟨Nat.mul_pos (by decide) (hpower scale), ?_⟩
  refine lt_of_lt_of_le (b := 2 ^ (3 * 342)) (Nat.div_lt_of_lt_mul ?_) ?_
  · calc 4 * significand * 2 ^ shift
        ≤ 4 * significand * 2 ^ (scale + 971) :=
          Nat.mul_le_mul_left _ (Nat.pow_le_pow_right (by decide) hshift)
      _ < 4 * 2 ^ 53 * 2 ^ (scale + 971) :=
          Nat.mul_lt_mul_of_pos_right (Nat.mul_lt_mul_of_pos_left hsignificand (by decide))
            (hpower _)
      _ = 4 * 2 ^ (53 + (scale + 971)) := by rw [Nat.mul_assoc, ← Nat.pow_add]
      _ ≤ 4 * 2 ^ (scale + 3 * 342) :=
          Nat.mul_le_mul_left 4 (Nat.pow_le_pow_right (by decide) (by omega))
      _ = 4 * 2 ^ scale * 2 ^ (3 * 342) := by rw [Nat.mul_assoc, ← Nat.pow_add]
  · exact two_pow_le_ten_pow 342

theorem length_digitsText_le {digits : List Char} {point : Int} (hdigits : digits.length ≤ 18)
    (hpoint : (point - 1).natAbs < 1000) : (digitsText digits point).length ≤ 24 := by
  rw [digitsText, String.length_ofList]
  split_ifs with h
  · exact length_positional_le hdigits h.1 h.2
  · exact length_exponential_le hdigits hpoint

/-- **The text of a float** has at most 25 characters. -/
theorem length_floatText_le (x : Float) : (floatText x).length ≤ 25 := by
  have hsign : (if x.toBits.toNat >>> 63 == 1 then "-" else "").length ≤ 1 := by
    split_ifs <;> decide
  unfold floatText
  dsimp only
  generalize (if x.toBits.toNat >>> 63 == 1 then "-" else "") = sign at hsign ⊢
  split_ifs with hspecial hinfinite hzero
  · have hinf : "inf".length ≤ 24 := by decide
    rw [String.length_append]
    exact Nat.add_le_add hsign hinf
  · decide
  · have hnil : "0.0".length ≤ 24 := by decide
    rw [String.length_append]
    exact Nat.add_le_add hsign hnil
  · have hexponent : x.toBits.toNat >>> 52 % 2048 < 2047 := by
      have hne : x.toBits.toNat >>> 52 % 2048 ≠ 2047 := by simpa using hspecial
      omega
    have hfraction : x.toBits.toNat % (1 <<< 52) < 2 ^ 52 := Nat.mod_lt _ (by decide)
    obtain ⟨hunit, hvalue⟩ := ofFields_spec hexponent hfraction
    obtain ⟨hdigits, hpoint⟩ := Interval.shortest_spec hunit
    obtain ⟨hlow, hhigh⟩ := Interval.magnitude_bounds _ (by decide) hvalue
    rw [String.length_append]
    exact Nat.add_le_add hsign (length_digitsText_le hdigits (by omega))

end Decimal

end Schemata
