import Mathlib.Data.List.Basic
import Mathlib.Order.Basic
import Mathlib.Algebra.Group.Int
import Mathlib.Data.Nat.Digits

/-!
# Go integers and the `strconv` conversions the controller uses

The controller keeps its numbers in Go `int`s (64 bits on every platform the
federation runs on) and stores them in annotations as decimal text. A
`GoInt` is an integer together with the proof that it lies in
`[-2^63, 2^63)`; the arithmetic wraps as Go's does, and division by zero is
the panic Go raises, so it returns `none`.

`atoi` and `itoa` are `strconv.Atoi` and `strconv.Itoa`: an optional sign
followed by at least one decimal digit, rejected when out of range; and the
shortest decimal text with a leading `-` for negatives. `parseBool` is
`strconv.ParseBool`. The section on round trips proves
`atoi (itoa x) = some x` for every `GoInt`, extremes included.
-/

namespace Navarkos

/-- A Go `int`: an integer in `[-2^63, 2^63)`. -/
structure GoInt where
  val : Int
  min_le : -2 ^ 63 ≤ val
  lt_max : val < 2 ^ 63
deriving DecidableEq

namespace GoInt

@[ext] theorem ext {x y : GoInt} (h : x.val = y.val) : x = y := by
  cases x; cases y; cases h; rfl

/-- Two's-complement wrap of an integer into the `int` range. -/
def ofInt (x : Int) : GoInt :=
  ⟨x.bmod (2 ^ 64), by have := @Int.le_bmod x (2 ^ 64) (by decide); omega,
    by have := @Int.bmod_lt x (2 ^ 64) (by decide); omega⟩

theorem ofInt_val_of_mem {x : Int} (h₁ : -2 ^ 63 ≤ x) (h₂ : x < 2 ^ 63) :
    (ofInt x).val = x := by
  simp only [ofInt]
  rw [Int.bmod_def]
  split <;> omega

instance (n : Nat) : OfNat GoInt n := ⟨ofInt n⟩

instance : Add GoInt := ⟨fun x y => ofInt (x.val + y.val)⟩
instance : Sub GoInt := ⟨fun x y => ofInt (x.val - y.val)⟩
instance : Mul GoInt := ⟨fun x y => ofInt (x.val * y.val)⟩

/-- A count below `2^63` is an `int` as it is. -/
theorem ofInt_natCast_val {n : Nat} (h : n < 2 ^ 63) : (ofInt n).val = n :=
  ofInt_val_of_mem (by omega) (by omega)

/-- Two counts whose sum is below `2^63` add without wrapping. -/
theorem ofInt_natCast_add_val {m n : Nat} (h : m + n < 2 ^ 63) :
    (ofInt m + ofInt n).val = m + n := by
  show (ofInt ((ofInt m).val + (ofInt n).val)).val = _
  rw [ofInt_natCast_val (by omega), ofInt_natCast_val (by omega)]
  exact ofInt_val_of_mem (by omega) (by omega)
instance : LE GoInt := ⟨fun x y => x.val ≤ y.val⟩
instance : LT GoInt := ⟨fun x y => x.val < y.val⟩
instance (x y : GoInt) : Decidable (x ≤ y) := inferInstanceAs (Decidable (x.val ≤ y.val))
instance (x y : GoInt) : Decidable (x < y) := inferInstanceAs (Decidable (x.val < y.val))

@[simp] theorem le_def {x y : GoInt} : x ≤ y ↔ x.val ≤ y.val := Iff.rfl
@[simp] theorem lt_def {x y : GoInt} : x < y ↔ x.val < y.val := Iff.rfl

/-- Go's `x / y`: truncated division, wrapping on `MinInt / -1`; `none` is the
run-time panic on a zero divisor. -/
def div? (x y : GoInt) : Option GoInt :=
  if y.val = 0 then none else some (ofInt (x.val.tdiv y.val))

@[simp] theorem div?_eq_none {x y : GoInt} : x.div? y = none ↔ y.val = 0 := by
  unfold div?; split <;> simp_all

/-- A difference in range is computed exactly. -/
theorem sub_val {x y : GoInt} (h₁ : -2 ^ 63 ≤ x.val - y.val) (h₂ : x.val - y.val < 2 ^ 63) :
    (x - y).val = x.val - y.val :=
  ofInt_val_of_mem h₁ h₂

/-- A product in range is computed exactly. -/
theorem mul_val {x y : GoInt} (h₁ : -2 ^ 63 ≤ x.val * y.val) (h₂ : x.val * y.val < 2 ^ 63) :
    (x * y).val = x.val * y.val :=
  ofInt_val_of_mem h₁ h₂

/-- The difference of two `int`s wraps to zero only when they are equal. -/
theorem sub_val_eq_zero_iff {x y : GoInt} : (x - y).val = 0 ↔ x = y := by
  have := x.min_le; have := x.lt_max; have := y.min_le; have := y.lt_max
  show (x.val - y.val).bmod (2 ^ 64) = 0 ↔ x = y
  rw [Int.bmod_def]
  constructor
  · intro h
    ext
    split at h <;> omega
  · rintro rfl
    simp

/-- Truncated division by a positive number rounds the magnitude down. -/
theorem tdiv_eq_of_pos {a c : Int} (hc : 0 < c) :
    a.tdiv c = if 0 ≤ a then a / c else -((-a) / c) := by
  split
  · exact Int.tdiv_eq_ediv ‹_› (Int.le_of_lt hc)
  · rw [← Int.tdiv_eq_ediv (a := -a) (by omega) (Int.le_of_lt hc), Int.neg_tdiv, Int.neg_neg]

/-- Truncated division by a positive number is monotone. -/
theorem tdiv_le_tdiv_of_pos {a b c : Int} (hc : 0 < c) (h : a ≤ b) : a.tdiv c ≤ b.tdiv c := by
  have hna := Int.ediv_nonneg (a := -a) (b := c)
  have hb := Int.ediv_nonneg (a := b) (b := c)
  have hab := Int.ediv_le_ediv hc h
  have hba := Int.ediv_le_ediv hc (Int.neg_le_neg h)
  rw [tdiv_eq_of_pos hc, tdiv_eq_of_pos hc]
  split_ifs <;> omega

/-- A quotient by a positive divisor is computed exactly. -/
theorem div?_val_of_pos {x y q : GoInt} (hy : 0 < y.val) (h : x.div? y = some q) :
    q.val = x.val.tdiv y.val := by
  rw [div?, if_neg (by omega)] at h
  cases h
  have := x.min_le; have := x.lt_max
  rw [tdiv_eq_of_pos hy]
  split_ifs with hx
  · have := Int.ediv_nonneg hx (Int.le_of_lt hy)
    have := Int.ediv_le_self y.val hx
    exact ofInt_val_of_mem (by omega) (by omega)
  · have := Int.ediv_nonneg (a := -x.val) (by omega) (Int.le_of_lt hy)
    have := Int.ediv_le_self y.val (a := -x.val) (by omega)
    exact ofInt_val_of_mem (by omega) (by omega)

end GoInt

/-- The run-time panics the controller can raise. -/
inductive GoPanic where
  /-- Reading a field through a nil pointer. -/
  | nilPointerDereference
  /-- Integer division by zero. -/
  | integerDivideByZero
deriving DecidableEq, Repr

/-! ## `strconv` -/

/-- Decimal digits of `n`, least significant first: `Nat.digits 10 n`
(`decimalDigits_eq_digits`) by structural recursion on `fuel`, the number of
divisions allowed (`n + 1` is always enough), so that `decide` runs it. Unlike
`Nat.digits`, it gives `0` the one digit `0`, as `strconv` prints it. -/
def decimalDigits : Nat → Nat → List Nat
  | 0, _ => []
  | fuel + 1, n => n % 10 :: if n < 10 then [] else decimalDigits fuel (n / 10)

/-- The characters `strconv.FormatInt` writes for a natural number. -/
def formatNat (n : Nat) : List Char :=
  ((decimalDigits (n + 1) n).map Nat.digitChar).reverse

/-- `strconv.Itoa` on an unbounded integer. -/
def formatDecimal : Int → String
  | .ofNat n => ⟨formatNat n⟩
  | .negSucc n => ⟨'-' :: formatNat (n + 1)⟩

/-- `strconv.Itoa`. -/
def itoa (x : GoInt) : String := formatDecimal x.val

/-- Accumulate decimal digits left to right, as `strconv.ParseUint` does;
`none` on the first non-digit. -/
def parseDigits (acc : Nat) : List Char → Option Nat
  | [] => some acc
  | c :: cs => if c.isDigit then parseDigits (10 * acc + (c.toNat - '0'.toNat)) cs else none

/-- The integer syntax `strconv.ParseInt` accepts in base 10: an optional sign
and at least one digit. -/
def parseDecimal (s : String) : Option Int :=
  match s.toList with
  | [] => none
  | c :: cs =>
    if cs ≠ [] ∧ c = '-' then (parseDigits 0 cs).map fun n => -(n : Int)
    else if cs ≠ [] ∧ c = '+' then (parseDigits 0 cs).map Int.ofNat
    else (parseDigits 0 (c :: cs)).map Int.ofNat

/-- `strconv.Atoi`: the syntax of `parseDecimal`, and a range error outside
`int`. -/
def atoi (s : String) : Option GoInt :=
  (parseDecimal s).bind fun v => if h : -2 ^ 63 ≤ v ∧ v < 2 ^ 63 then some ⟨v, h.1, h.2⟩ else none

/-- `strconv.ParseBool`. -/
def parseBool (str : String) : Option Bool :=
  if str ∈ ["1", "t", "T", "TRUE", "true", "True"] then some true
  else if str ∈ ["0", "f", "F", "FALSE", "false", "False"] then some false
  else none

example : atoi "-042" = some (GoInt.ofInt (-42)) ∧ atoi "+" = none ∧ atoi "1_0" = none := by
  decide

/-! ## Round trips: `atoi` undoes `itoa` -/

theorem digitChar_spec : ∀ d < 10,
    (Nat.digitChar d).isDigit = true ∧ (Nat.digitChar d).toNat - '0'.toNat = d := by
  decide

theorem decimalDigits_eq_digits : ∀ {fuel n : Nat}, 0 < n → n < fuel →
    decimalDigits fuel n = Nat.digits 10 n
  | 0, _, _, h => absurd h (Nat.not_lt_zero _)
  | fuel + 1, n, hn, h => by
    rw [decimalDigits, Nat.digits_def' (by decide) hn]
    split
    · rw [Nat.div_eq_of_lt ‹_›, Nat.digits_zero]
    · rw [decimalDigits_eq_digits (by omega) (by omega)]

/-- Reading digits most significant first accumulates their value. -/
theorem parseDigits_map_digitChar : ∀ (ds : List Nat) (acc : Nat), (∀ d ∈ ds, d < 10) →
    parseDigits acc (ds.map Nat.digitChar) = some (ds.foldl (fun acc d => d + 10 * acc) acc)
  | [], _, _ => rfl
  | d :: ds, acc, h => by
    obtain ⟨hdigit, hval⟩ := digitChar_spec d (h d (List.mem_cons_self _ _))
    simp only [List.map_cons, parseDigits, hdigit, if_true, hval, List.foldl_cons, Nat.add_comm]
    exact parseDigits_map_digitChar ds _ fun e he => h e (List.mem_cons_of_mem _ he)

theorem parseDigits_formatNat (n : Nat) : parseDigits 0 (formatNat n) = some n := by
  rcases Nat.eq_zero_or_pos n with rfl | hn
  · rfl
  rw [formatNat, decimalDigits_eq_digits hn (Nat.lt_succ_self n), ← List.map_reverse,
    parseDigits_map_digitChar _ _ fun d hd => Nat.digits_lt_base (by decide) (List.mem_reverse.mp hd),
    List.foldl_reverse]
  simpa [Nat.ofDigits_eq_foldr] using congrArg some (Nat.ofDigits_digits 10 n)

theorem formatNat_cons (n : Nat) : ∃ c cs, formatNat n = c :: cs ∧ c.isDigit = true := by
  rcases Nat.eq_zero_or_pos n with rfl | hn
  · exact ⟨'0', [], rfl, rfl⟩
  obtain ⟨ds, d, hds⟩ := List.eq_nil_or_concat (Nat.digits 10 n) |>.resolve_left
    (Nat.digits_ne_nil_iff_ne_zero.mpr hn.ne')
  have hd : d < 10 := Nat.digits_lt_base (by decide) (by rw [hds]; simp)
  exact ⟨Nat.digitChar d, (ds.map Nat.digitChar).reverse,
    by simp [formatNat, decimalDigits_eq_digits hn (Nat.lt_succ_self n), hds], (digitChar_spec d hd).1⟩

theorem parseDecimal_formatDecimal (v : Int) : parseDecimal (formatDecimal v) = some v := by
  cases v with
  | ofNat n =>
    obtain ⟨c, cs, hcs, hc⟩ := formatNat_cons n
    have hsign : c ≠ '-' ∧ c ≠ '+' := ⟨by rintro rfl; simp at hc, by rintro rfl; simp at hc⟩
    show parseDecimal ⟨formatNat n⟩ = _
    rw [parseDecimal, String.toList, hcs]
    simp only [hsign, and_false, if_false]
    rw [← hcs, parseDigits_formatNat]
    rfl
  | negSucc n =>
    obtain ⟨c, cs, hcs, -⟩ := formatNat_cons (n + 1)
    show parseDecimal ⟨'-' :: formatNat (n + 1)⟩ = _
    rw [parseDecimal, String.toList, hcs]
    simp only [ne_eq, reduceCtorEq, not_false_eq_true, and_self, if_true]
    rw [← hcs, parseDigits_formatNat]
    rfl

/-- **`strconv.Atoi` undoes `strconv.Itoa` on every `int`.** -/
theorem atoi_itoa (x : GoInt) : atoi (itoa x) = some x := by
  rw [atoi, itoa, parseDecimal_formatDecimal, Option.some_bind, dif_pos ⟨x.min_le, x.lt_max⟩]

theorem itoa_ne_empty (x : GoInt) : itoa x ≠ "" := by
  intro h
  have := atoi_itoa x
  rw [h, show atoi "" = none from rfl] at this
  cases this

end Navarkos
