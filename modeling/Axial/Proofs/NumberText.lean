import Mathlib.Data.List.TakeWhile
import Axial.Decimal.Literal

/-!
# Numbers and their texts

The text of a number is read back as the same number.

* `Magnitude.nearest_units` : a magnitude is the nearest one to its own value.
* `Decimal.magnitude_ofMagnitude` : the shortest decimal of a magnitude reads back as it.
* `Literal.readInt?_intText`, `Literal.readFloat?_floatText` : the round trips. What is not a number
  loses its sign on the way.
-/

namespace Axial

/-! ### Magnitudes -/

namespace Magnitude

theorem units_lt_units_succ (n : Nat) : units n < units (n + 1) := by
  by_cases hn : n < 2 ^ 52
  · by_cases hn' : n + 1 < 2 ^ 52
    · rw [units, units, if_pos hn, if_pos hn']
      omega
    · have hlast : n = 2 ^ 52 - 1 := by omega
      subst hlast
      decide
  · have hn' : ¬ n + 1 < 2 ^ 52 := by omega
    rw [units, units, if_neg hn, if_neg hn']
    by_cases hr : n % 2 ^ 52 + 1 < 2 ^ 52
    · -- the next number has the same exponent
      have hdiv : (n + 1) / 2 ^ 52 = n / 2 ^ 52 := by omega
      have hmod : (n + 1) % 2 ^ 52 = n % 2 ^ 52 + 1 := by omega
      rw [hdiv, hmod]
      exact Nat.mul_lt_mul_of_pos_right (by omega) (Nat.two_pow_pos _)
    · -- the next number is the first one of the next exponent
      have hdiv : (n + 1) / 2 ^ 52 - 1 = n / 2 ^ 52 - 1 + 1 := by omega
      have hmod : (n + 1) % 2 ^ 52 = 0 := by omega
      have hdouble : (2 ^ 52 + 0) * 2 ^ (n / 2 ^ 52 - 1 + 1) = 2 ^ 53 * 2 ^ (n / 2 ^ 52 - 1) := by
        rw [Nat.pow_add_one']
        omega
      rw [hdiv, hmod, hdouble]
      exact Nat.mul_lt_mul_of_pos_right (by omega) (Nat.two_pow_pos _)

/-- A number with the leading bit `2 ^ 52` and an exponent. -/
theorem floorIndex_mul_pow {m k : Nat} (hlow : 2 ^ 52 ≤ m) (hhigh : m < 2 ^ 53) (hk : 0 < k) :
    floorIndex (m * 2 ^ k) = k * 2 ^ 52 + m := by
  have hpos : 0 < 2 ^ k := Nat.two_pow_pos k
  have hlarge : ¬ m * 2 ^ k < 2 ^ 53 := by
    have : 2 ^ 1 ≤ 2 ^ k := Nat.pow_le_pow_right (by decide) hk
    have : 2 ^ 52 * 2 ^ 1 ≤ m * 2 ^ k := Nat.mul_le_mul hlow this
    omega
  have hlog : (m * 2 ^ k).log2 = 52 + k := by
    refine (Nat.log2_eq_iff (by omega)).2 ⟨?_, ?_⟩
    · rw [Nat.pow_add]
      exact Nat.mul_le_mul_right _ hlow
    · rw [Nat.add_right_comm, Nat.pow_add]
      exact Nat.mul_lt_mul_of_pos_right hhigh hpos
  rw [floorIndex, if_neg hlarge, hlog, Nat.add_sub_cancel_left]
  simp only [Nat.mul_div_cancel _ hpos]

theorem floorIndex_units (n : Nat) : floorIndex (units n) = n := by
  by_cases hn : n < 2 ^ 52
  · rw [units, if_pos hn, floorIndex, if_pos (by omega)]
  · have hlow : 2 ^ 52 ≤ 2 ^ 52 + n % 2 ^ 52 := Nat.le_add_right ..
    have hhigh : 2 ^ 52 + n % 2 ^ 52 < 2 ^ 53 := by omega
    rw [units, if_neg hn]
    by_cases hq : n / 2 ^ 52 = 1
    · rw [hq, Nat.sub_self, Nat.pow_zero, Nat.mul_one, floorIndex, if_pos hhigh]
      omega
    · rw [floorIndex_mul_pow hlow hhigh (by omega)]
      omega

theorem floorIndex_le_nearest (num den : Nat) : floorIndex (num / den) ≤ nearest num den := by
  unfold nearest
  dsimp only
  split <;> omega

/-- A magnitude is the nearest one to its own value. -/
theorem nearest_units (n : Nat) {scale : Nat} (hscale : 0 < scale) :
    nearest (units n * scale) scale = n := by
  have hlt : compare (2 * (units n * scale)) ((units n + units (n + 1)) * scale) = .lt := by
    rw [Nat.compare_eq_lt, ← Nat.mul_assoc]
    have := units_lt_units_succ n
    exact Nat.mul_lt_mul_of_pos_right (by omega) hscale
  rw [nearest, Nat.mul_div_cancel _ hscale, floorIndex_units]
  simp only [hlt]

theorem nearest_mul_mul (num den : Nat) {scale : Nat} (hscale : 0 < scale) :
    nearest (scale * num) (scale * den) = nearest num den := by
  have hcompare : ∀ a b : Nat, compare (scale * a) (scale * b) = compare a b := by
    intro a b
    simp only [Nat.compare_eq_ite_lt, Nat.mul_lt_mul_left hscale]
  have hleft : 2 * (scale * num) = scale * (2 * num) := Nat.mul_left_comm ..
  simp only [nearest, Nat.mul_div_mul_left _ _ hscale, hleft, Nat.mul_left_comm _ scale, hcompare]

/-- Values of `2 ^ 1024` and above are rounded to infinity or beyond. -/
theorem infinity_le_floorIndex {u : Nat} (h : 2 ^ 2098 ≤ u) : infinity ≤ floorIndex u := by
  have hne : u ≠ 0 := by
    rintro rfl
    exact absurd h (Nat.not_le_of_lt (Nat.two_pow_pos 2098))
  have hlarge : ¬ u < 2 ^ 53 :=
    Nat.not_lt.2 (Nat.le_trans (Nat.pow_le_pow_right (by decide) (by decide)) h)
  have hlog : 2098 ≤ u.log2 := (Nat.le_log2 hne).2 h
  have hlead : 2 ^ 52 ≤ u / 2 ^ (u.log2 - 52) := by
    rw [Nat.le_div_iff_mul_le (Nat.two_pow_pos _), ← Nat.pow_add]
    exact (Nat.le_log2 hne).1 (by omega)
  rw [floorIndex, if_neg hlarge, infinity]
  have : 2046 * 2 ^ 52 ≤ (u.log2 - 52) * 2 ^ 52 := Nat.mul_le_mul_right _ (by omega)
  dsimp only
  omega

end Magnitude

/-! ### Decimals of magnitudes -/

namespace Decimal

theorem length_ten_mul {k : Nat} (hk : k ≠ 0) : length (10 * k) = length k + 1 := by
  rw [length, if_neg (by omega), Nat.mul_div_cancel_left _ (by decide)]

theorem lt_length_of_pow_le {k n : Nat} (h : 10 ^ k ≤ n) : k < length n := by
  induction k generalizing n with
  | zero =>
    rw [length, if_neg (by omega)]
    exact Nat.succ_pos _
  | succ k ih =>
    have hpos : 0 < 10 ^ k := Nat.pow_pos (by decide)
    rw [Nat.pow_succ] at h
    rw [length, if_neg (by omega)]
    exact Nat.succ_lt_succ (ih (by omega))

/-- A number of at least `10 ^ 310` is infinite. -/
theorem infinity_le_nearest {k : Nat} (hk : k ≠ 0) :
    Magnitude.infinity ≤ Magnitude.nearest (k * 10 ^ (310 : Int).toNat * 2 ^ 1074)
      (10 ^ (-310 : Int).toNat) := by
  have hpow : 2 ^ 1024 ≤ 10 ^ (310 : Int).toNat := by decide +kernel
  have hone : 10 ^ (-310 : Int).toNat = 1 := rfl
  have hsplit : 2 ^ 2098 = 2 ^ 1024 * 2 ^ 1074 := by decide +kernel
  have hle : 2 ^ 2098 ≤ k * 10 ^ (310 : Int).toNat * 2 ^ 1074 / 10 ^ (-310 : Int).toNat := by
    rw [hone, Nat.div_one, hsplit]
    have hdigits : 10 ^ (310 : Int).toNat ≤ k * 10 ^ (310 : Int).toNat :=
      Nat.le_mul_of_pos_left _ (Nat.pos_of_ne_zero hk)
    apply Nat.mul_le_mul_right
    exact Nat.le_trans hpow hdigits
  exact Nat.le_trans (Magnitude.infinity_le_floorIndex hle) (Magnitude.floorIndex_le_nearest ..)

/-- A zero at the end of the digits may go into the exponent, unless the number is too large to
tell. -/
theorem magnitude_ten_mul {k : Nat} {e : Int} (hk : k ≠ 0)
    (h : magnitude ⟨10 * k, e⟩ < Magnitude.infinity) :
    magnitude ⟨k, e + 1⟩ = magnitude ⟨10 * k, e⟩ := by
  have hlength := length_ten_mul hk
  have hdigits : 10 * k ≠ 0 := by omega
  simp only [magnitude, hdigits, hk, if_false] at h ⊢
  -- the cases are those in which a magnitude is not computed from its digits
  by_cases hlarge : 310 < e
  · rw [if_pos hlarge] at h
    exact absurd h (Nat.lt_irrefl _)
  rw [if_neg hlarge] at h ⊢
  by_cases hsmall : e < -(330 + length (10 * k) : Int)
  · rw [if_pos hsmall, if_neg (by omega), if_pos (by omega)]
  rw [if_neg hsmall] at h ⊢
  by_cases hlast : e = 310
  · -- the number is at least `10 ^ 311`, so it would have been infinite
    subst hlast
    exact absurd h (Nat.not_lt.2 (infinity_le_nearest hdigits))
  rw [if_neg (by omega), if_neg (by omega)]
  by_cases hneg : e < 0
  · -- both sides of the fraction lose a factor of ten
    have h₁ : (e + 1).toNat = 0 := by omega
    have h₂ : e.toNat = 0 := by omega
    have h₃ : (-e).toNat = (-(e + 1)).toNat + 1 := by omega
    have hden : 10 ^ ((-(e + 1)).toNat + 1) = 10 * 10 ^ (-(e + 1)).toNat := Nat.pow_succ'
    rw [h₁, h₂, h₃, hden, Nat.pow_zero, Nat.mul_one, Nat.mul_one, Nat.mul_assoc 10,
      Magnitude.nearest_mul_mul _ _ (by decide)]
  · have h₁ : (e + 1).toNat = e.toNat + 1 := by omega
    have h₂ : (-e).toNat = 0 := by omega
    have h₃ : (-(e + 1)).toNat = 0 := by omega
    have hnum : k * 10 ^ (e.toNat + 1) = 10 * k * 10 ^ e.toNat := by
      rw [Nat.pow_succ', ← Nat.mul_assoc, Nat.mul_comm k]
    rw [h₁, h₂, h₃, hnum]

theorem magnitude_strip {d : Decimal} (h : d.magnitude < Magnitude.infinity) :
    d.strip.magnitude = d.magnitude := by
  fun_induction strip d with
  | case1 d hd ih =>
    obtain ⟨digits, exponent⟩ := d
    obtain ⟨hne, hmod⟩ : digits ≠ 0 ∧ digits % 10 = 0 := hd
    have hdigits : 10 * (digits / 10) = digits := by omega
    have hstep := magnitude_ten_mul (k := digits / 10) (e := exponent) (by omega) (by rwa [hdigits])
    rw [hdigits] at hstep
    rw [← hstep] at h ⊢
    exact ih h
  | case2 d hd => rfl

theorem magnitude_eq_nearest {d : Decimal} (hdigits : d.digits ≠ 0) (hlarge : d.exponent ≤ 310)
    (hsmall : -(330 + length d.digits : Int) ≤ d.exponent) :
    d.magnitude = Magnitude.nearest (d.digits * 10 ^ d.exponent.toNat * 2 ^ 1074)
      (10 ^ (-d.exponent).toNat) := by
  rw [magnitude, if_neg hdigits, if_neg (Int.not_lt.2 hlarge), if_neg (Int.not_lt.2 hsmall)]

/-- The exact decimal has so many digits that it is not rounded to zero. -/
theorem magnitude_exact {n : Nat} (hn : n ≠ 0) : (exact n).magnitude = n := by
  have hunits : 0 < Magnitude.units n := by
    refine Nat.pos_of_ne_zero fun hzero => hn ?_
    rw [← Magnitude.floorIndex_units n, hzero]
    rfl
  have hpow : 10 ^ 744 ≤ (exact n).digits := by
    have hfive : 10 ^ 744 ≤ 5 ^ 1074 := by decide +kernel
    rw [exact]
    exact Nat.le_trans hfive (Nat.le_mul_of_pos_left _ hunits)
  have hlength := lt_length_of_pow_le hpow
  have hdigits : (exact n).digits ≠ 0 :=
    Nat.ne_of_gt (Nat.lt_of_lt_of_le (Nat.pow_pos (by decide)) hpow)
  have hexponent : (exact n).exponent = -1074 := rfl
  have hscale : (exact n).digits * 10 ^ (exact n).exponent.toNat * 2 ^ 1074 =
      Magnitude.units n * 10 ^ (-(exact n).exponent).toNat := by
    have hten : ∀ k, 5 ^ k * 2 ^ k = 10 ^ k := fun k => (Nat.mul_pow 5 2 k).symm
    have hnum : 10 ^ (exact n).exponent.toNat = 1 := rfl
    have hden : (-(exact n).exponent).toNat = 1074 := rfl
    rw [hnum, hden, Nat.mul_one, exact, Nat.mul_assoc, hten 1074]
  rw [magnitude_eq_nearest hdigits (by omega) (by omega), hscale]
  exact Magnitude.nearest_units n (Nat.pow_pos (by decide))

theorem magnitude_of_onGrid? {tie : TieRule} {n : Nat} {exponent : Int} {d : Decimal}
    (h : onGrid? tie n exponent = some d) : d.magnitude = n := by
  unfold onGrid? at h
  dsimp only at h
  split at h
  · next hbelow =>
    split at h
    · next habove =>
      split at h
      · cases h; exact hbelow
      · cases h; exact habove
      · split at h
        · cases h; exact habove
        · cases h; exact hbelow
    · cases h; exact hbelow
  · split at h
    · next habove => cases h; exact habove
    · cases h

/-- The shortest decimal of a finite magnitude reads back as the magnitude. -/
theorem magnitude_ofMagnitude (tie : TieRule) {n : Nat} (h : n < Magnitude.infinity) :
    (ofMagnitude tie n).magnitude = n := by
  rw [ofMagnitude]
  split
  · next hn =>
    subst hn
    rfl
  · next hn =>
    dsimp only
    -- whichever grid the decimal is found on, it was checked to read back
    generalize hgrids : (List.range 17).map _ = grids
    have hd : ((grids.findSome? (onGrid? tie n)).getD (exact n)).magnitude = n := by
      cases hfind : grids.findSome? (onGrid? tie n) with
      | none => exact magnitude_exact hn
      | some d =>
        obtain ⟨_, exponent, _, _, hgrid, _⟩ := List.findSome?_eq_some_iff.1 hfind
        exact magnitude_of_onGrid? hgrid
    rw [magnitude_strip (by rw [hd]; exact h), hd]

/-- A finite number without decimal places may be written out. -/
theorem magnitude_mul_pow {k : Nat} {e : Int} (hk : k ≠ 0) (he : 0 ≤ e)
    (h : magnitude ⟨k, e⟩ < Magnitude.infinity) :
    magnitude ⟨k * 10 ^ e.toNat, 0⟩ = magnitude ⟨k, e⟩ := by
  have hle : e ≤ 310 := by
    refine Int.not_lt.1 ?_
    intro hlt
    rw [magnitude, if_neg hk, if_pos hlt] at h
    exact Nat.lt_irrefl _ h
  have hne : k * 10 ^ e.toNat ≠ 0 :=
    Nat.ne_of_gt (Nat.mul_pos (Nat.pos_of_ne_zero hk) (Nat.pow_pos (by decide)))
  have hneg : (-e).toNat = 0 := by omega
  rw [magnitude_eq_nearest hne (by dsimp only; omega) (by dsimp only; omega),
    magnitude_eq_nearest hk hle (by dsimp only; omega)]
  simp only [hneg, Int.toNat_zero, Int.neg_zero, Nat.pow_zero, Nat.mul_one]

end Decimal

/-! ### Reading digits -/

namespace Literal

variable {whole places : List Char}

theorem ofDigits_eq (digits : List Char) : ofDigits digits = Nat.ofDigitChars 10 digits 0 := rfl

theorem isDigit_of_mem_digitChars {n : Nat} {c : Char} (h : c ∈ Decimal.digitChars n) :
    c.isDigit = true :=
  Nat.isDigit_of_mem_toDigits (by decide) (by decide) h

theorem ofDigits_digitChars (n : Nat) : ofDigits (Decimal.digitChars n) = n :=
  Nat.ofDigitChars_ten_toDigits

theorem isDigit_of_mem_zeros {n : Nat} {c : Char} (h : c ∈ List.replicate n '0') :
    c.isDigit = true := by
  rw [List.eq_of_mem_replicate h]
  decide

/-- Zeros before the digits do not count. -/
theorem ofDigits_zeros_append (n : Nat) (digits : List Char) :
    ofDigits (List.replicate n '0' ++ digits) = ofDigits digits := by
  rw [ofDigits_eq, Nat.ofDigitChars_append, Nat.ofDigitChars_replicate_zero]
  rfl

/-- Each zero after the digits is a factor of ten. -/
theorem ofDigits_append_zeros (n : Nat) (digits : List Char) :
    ofDigits (digits ++ List.replicate n '0') = ofDigits digits * 10 ^ n := by
  rw [ofDigits_eq, Nat.ofDigitChars_append, Nat.ofDigitChars_replicate_zero, ← ofDigits_eq,
    Nat.mul_comm]

theorem readDigits?_digitChars (n : Nat) : readDigits? (Decimal.digitChars n) = some n := by
  have hne : Decimal.digitChars n ≠ [] := Nat.toDigits_ne_nil
  have hall : (Decimal.digitChars n).all Char.isDigit = true :=
    List.all_eq_true.2 fun _ => isDigit_of_mem_digitChars
  rw [readDigits?, if_pos ⟨hne, hall⟩, ofDigits_digitChars]

theorem readDecimal?_digits (hne : whole ≠ []) (h : ∀ c ∈ whole, c.isDigit = true) :
    readDecimal? whole = some ⟨ofDigits whole, 0⟩ := by
  have htake : whole.takeWhile Char.isDigit = whole := List.takeWhile_eq_self_iff.2 h
  have hdrop : whole.dropWhile Char.isDigit = [] := List.dropWhile_eq_nil_iff.2 h
  simp [readDecimal?, htake, hdrop, hne, readExponent?]

theorem readDecimal?_point (hne : whole ≠ []) (hwhole : ∀ c ∈ whole, c.isDigit = true)
    (hplaces : ∀ c ∈ places, c.isDigit = true) :
    readDecimal? (whole ++ '.' :: places) = some ⟨ofDigits (whole ++ places), -places.length⟩ := by
  have htake : (whole ++ '.' :: places).takeWhile Char.isDigit = whole := by
    rw [List.takeWhile_append_of_pos hwhole]
    simp [show Char.isDigit '.' = false by decide]
  have hdrop : (whole ++ '.' :: places).dropWhile Char.isDigit = '.' :: places := by
    rw [List.dropWhile_append_of_pos hwhole]
    simp [show Char.isDigit '.' = false by decide]
  have htake' : places.takeWhile Char.isDigit = places := List.takeWhile_eq_self_iff.2 hplaces
  have hdrop' : places.dropWhile Char.isDigit = [] := List.dropWhile_eq_nil_iff.2 hplaces
  simp [readDecimal?, htake, hdrop, htake', hdrop', hne, readExponent?]

/-- Digits with a point read back as the same decimal, or written out if there is no point. -/
theorem readDecimal?_placePoint {digits : List Char} (hne : digits ≠ [])
    (hdigit : ∀ c ∈ digits, c.isDigit = true) (e : Int) :
    readDecimal? (Decimal.placePoint digits (digits.length + e) []) = some ⟨ofDigits digits, e⟩ ∨
      0 ≤ e ∧ readDecimal? (Decimal.placePoint digits (digits.length + e) []) =
        some ⟨ofDigits digits * 10 ^ e.toNat, 0⟩ := by
  have hpos := List.length_pos_iff.2 hne
  rw [Decimal.placePoint]
  by_cases hbelow : (digits.length : Int) + e ≤ 0
  · -- all digits stand after the point
    left
    rw [if_pos hbelow]
    generalize hn : (-((digits.length : Int) + e)).toNat = n
    have hplaces : ∀ c ∈ List.replicate n '0' ++ digits, c.isDigit = true :=
      fun c hc => (List.mem_append.1 hc).elim isDigit_of_mem_zeros (hdigit c)
    have hexponent : -((List.replicate n '0' ++ digits).length : Int) = e := by
      rw [List.length_append, List.length_replicate]
      omega
    have hzero : ∀ c ∈ ['0'], c.isDigit = true := List.forall_mem_singleton.2 (by decide)
    have hread := readDecimal?_point (List.cons_ne_nil '0' []) hzero hplaces
    rwa [← List.replicate_one, ofDigits_zeros_append, ofDigits_zeros_append, hexponent] at hread
  rw [if_neg hbelow]
  by_cases habove : digits.length ≤ ((digits.length : Int) + e).toNat
  · -- all digits stand before the point
    right
    have hn : ((digits.length : Int) + e).toNat - digits.length = e.toNat := by omega
    refine ⟨by omega, ?_⟩
    rw [if_pos habove, List.append_nil, hn, readDecimal?_digits (by simp [hne]),
      ofDigits_append_zeros]
    exact fun c hc => (List.mem_append.1 hc).elim (hdigit c) isDigit_of_mem_zeros
  · -- the point stands between the digits
    left
    rw [if_neg habove]
    generalize hn : ((digits.length : Int) + e).toNat = n at habove
    have hwhole : digits.take n ≠ [] := by
      rw [Ne, List.take_eq_nil_iff, or_iff_left hne]
      omega
    have hexponent : -((digits.drop n).length : Int) = e := by
      rw [List.length_drop]
      omega
    have hplaces : ∀ c ∈ digits.drop n, c.isDigit = true :=
      fun c hc => hdigit c (List.mem_of_mem_drop hc)
    have hread := readDecimal?_point hwhole (fun c hc => hdigit c (List.mem_of_mem_take hc)) hplaces
    rwa [List.take_append_drop, hexponent] at hread

/-- A finite decimal without an exponent reads back as the same magnitude. -/
theorem readDecimal?_positional {d : Decimal} (h : d.magnitude < Magnitude.infinity) :
    ∃ d', readDecimal? d.positional = some d' ∧ d'.magnitude = d.magnitude := by
  obtain ⟨k, e⟩ := d
  by_cases hk : k = 0
  · subst hk
    exact ⟨⟨0, 0⟩, rfl, by rw [Decimal.magnitude, Decimal.magnitude, if_pos rfl, if_pos rfl]⟩
  · have hread := readDecimal?_placePoint Nat.toDigits_ne_nil
      (fun _ => isDigit_of_mem_digitChars (n := k)) e
    rw [show Nat.toDigits 10 k = Decimal.digitChars k from rfl, ofDigits_digitChars] at hread
    rw [Decimal.positional, if_neg hk]
    rcases hread with hread | ⟨he, hread⟩
    · exact ⟨_, hread, rfl⟩
    · exact ⟨_, hread, Decimal.magnitude_mul_pow hk he h⟩

/-! ### Signs -/

/-- A text that starts with a digit has no sign, and is no word. -/
theorem splitSign_of_isDigit {c : Char} (h : c.isDigit = true) (cs : List Char) :
    splitSign (c :: cs) = (false, c :: cs) ∧ readWord? (c :: cs) = none := by
  have hne : ∀ d : Char, d.isDigit = false → c ≠ d := by
    rintro d hd rfl
    rw [h] at hd
    cases hd
  have hlower : c.toLower = c := by
    have hupper : ¬ (c.val ≥ 'A'.val ∧ c.val ≤ 'Z'.val) := by
      simp only [Char.isDigit, Bool.and_eq_true, decide_eq_true_eq] at h
      rintro ⟨hA, -⟩
      exact absurd (UInt32.le_trans hA h.2) (by decide)
    exact dif_neg hupper
  constructor
  · unfold splitSign
    split
    · next heq => exact absurd (List.cons.inj heq).1 (hne '-' (by decide))
    · next heq => exact absurd (List.cons.inj heq).1 (hne '+' (by decide))
    · rfl
  · have hword : ∀ word : String, word.toList.head? ≠ some c →
        String.ofList ((c :: cs).map Char.toLower) ≠ word := by
      rintro _ hhead rfl
      simp [hlower] at hhead
    have hi := hword "inf" (by simpa [eq_comm] using hne 'i' (by decide))
    have hi' := hword "infinity" (by simpa [eq_comm] using hne 'i' (by decide))
    have hn := hword "nan" (by simpa [eq_comm] using hne 'n' (by decide))
    rw [readWord?]
    simp only [hi, hi', hn, or_self, if_false]

theorem exists_isDigit_positional (d : Decimal) :
    ∃ c cs, d.positional = c :: cs ∧ c.isDigit = true := by
  unfold Decimal.positional Decimal.placePoint
  split
  · exact ⟨'0', [], rfl, by decide⟩
  have hdigit : ∀ c ∈ Decimal.digitChars d.digits, c.isDigit = true :=
    fun _ => isDigit_of_mem_digitChars
  obtain ⟨c, cs, hcons⟩ : ∃ c cs, Decimal.digitChars d.digits = c :: cs :=
    List.exists_cons_of_ne_nil Nat.toDigits_ne_nil
  rw [hcons] at hdigit ⊢
  have hc := hdigit c List.mem_cons_self
  dsimp only
  split
  · exact ⟨'0', _, rfl, by decide⟩
  next hplaces =>
  split
  · exact ⟨c, _, rfl, hc⟩
  · obtain ⟨n, hn⟩ : ∃ n, (((c :: cs).length : Int) + d.exponent).toNat = n + 1 :=
      Nat.exists_eq_succ_of_ne_zero (by omega)
    rw [hn]
    exact ⟨c, _, rfl, hc⟩

/-- The text of a whole number is read back. -/
theorem readInt?_intText (n : Int64) : readInt? (intText n) = some n := by
  have hsigned : readSigned? (intText n).toList = some n.toInt := by
    rw [intText, Int.toString_eq_repr]
    have hdigits : ∀ m : Nat, splitSign (Decimal.digitChars m) = (false, Decimal.digitChars m) := by
      intro m
      obtain ⟨c, cs, hcons⟩ : ∃ c cs, Decimal.digitChars m = c :: cs :=
        List.exists_cons_of_ne_nil Nat.toDigits_ne_nil
      have hc : c ∈ Decimal.digitChars m := hcons ▸ List.mem_cons_self
      exact hcons ▸ (splitSign_of_isDigit (isDigit_of_mem_digitChars hc) cs).1
    cases n.toInt with
    | ofNat m =>
      have htext : (Int.repr (Int.ofNat m)).toList = Decimal.digitChars m := Nat.toList_repr
      rw [htext, readSigned?, hdigits]
      simp [readDigits?_digitChars]
    | negSucc m =>
      have htext : (Int.repr (Int.negSucc m)).toList = '-' :: Decimal.digitChars (m + 1) := by
        rw [Int.repr, String.toList_append, Nat.toList_repr]
        rfl
      rw [htext, readSigned?, splitSign]
      simp [readDigits?_digitChars, Int.negSucc_eq]
  have hmin : minInt ≤ n.toInt := n.le_toInt
  have hmax : n.toInt ≤ maxInt := Int.le_sub_one_of_lt n.toInt_lt
  rw [readInt?, hsigned, Option.bind_some, toWord?, if_pos ⟨hmin, hmax⟩, Int64.ofInt_toInt]

end Literal

/-! ### Floating-point numbers -/

namespace Binary64

theorem ofMagnitude_magnitude (x : Binary64) : ofMagnitude x.isNegative x.magnitude = x := by
  obtain ⟨bits⟩ := x
  have hlt := bits.toNat_lt
  have hbits : bits.toNat % 2 ^ 63 + (if 2 ^ 63 ≤ bits.toNat then 2 ^ 63 else 0) = bits.toNat := by
    split <;> omega
  simp only [ofMagnitude, isNegative, magnitude, decide_eq_true_eq, hbits, UInt64.ofNat_toNat]

end Binary64

open Literal in
/-- The text of a floating-point number is read back, but for the sign of what is not a number. -/
theorem Literal.readFloat?_floatText (x : Binary64) : readFloat? (floatText x) = some x.plain := by
  have heta := x.ofMagnitude_magnitude
  unfold floatText floatTextWith Binary64.plain
  split
  · decide +kernel
  next hnan =>
  have hle : x.magnitude ≤ Magnitude.infinity := by simpa [Binary64.isNaN] using hnan
  dsimp only
  by_cases hinf : Magnitude.infinity ≤ x.magnitude
  · -- both infinities have words
    have hmagnitude : x.magnitude = Magnitude.infinity := Nat.le_antisymm hle hinf
    rw [hmagnitude] at heta
    rw [if_pos hinf, ← congrArg some heta]
    generalize x.isNegative = negative
    cases negative <;> decide +kernel
  · rw [if_neg hinf]
    have hfinite : (Decimal.ofMagnitude .upward x.magnitude).magnitude = x.magnitude :=
      Decimal.magnitude_ofMagnitude .upward (Nat.not_le.1 hinf)
    obtain ⟨d, hread, hd⟩ := readDecimal?_positional (hfinite.symm ▸ Nat.not_le.1 hinf)
    obtain ⟨c, cs, hcons, hc⟩ := exists_isDigit_positional (Decimal.ofMagnitude .upward x.magnitude)
    obtain ⟨hsign, hword⟩ := splitSign_of_isDigit hc cs
    rw [hcons] at hread
    have hmin : min d.magnitude Magnitude.infinity = x.magnitude := by
      rw [hd, hfinite]
      exact Nat.min_eq_left hle
    rw [hcons, readFloat?, String.toList_ofList]
    cases hneg : x.isNegative
    · rw [hneg] at heta
      simp [hsign, hword, hread, hmin, heta]
    · rw [hneg] at heta
      simp [splitSign, hword, hread, hmin, heta]

end Axial
