import BigX.Decimal.Rounding

set_option autoImplicit false

/- Decimal arithmetic in a context: exact numbers, and a product that is rounded to the context's
digits and has to fit its exponents. -/
namespace BigX.Decimal

/-- The signals that are trapped. -/
inductive Signal
  | invalidOperation
  | overflow
  deriving DecidableEq

inductive Number
  | finite (negative : Bool) (coef : Nat) (exp : Int)
  | infinity (negative : Bool)
  | nan (signaling : Bool)
  deriving DecidableEq

structure Context where
  prec : Nat
  emin : Int
  emax : Int

def Context.etiny (context : Context) : Int := context.emin - context.prec + 1

def Context.etop (context : Context) : Int := context.emax - context.prec + 1

/-- The context of every thread that has set none. -/
def Context.default : Context := ⟨28, -999999, 999999⟩

namespace Number

def ofNat (n : Nat) : Number := .finite false n 0

/-- The number's truth value. -/
def nonzero : Number → Bool
  | .finite _ coef _ => coef ≠ 0
  | _ => true

def signed (negative : Bool) (n : Nat) : Int := if negative then -n else n

/-- The value of a finite number. -/
def value : Number → ℚ
  | .finite negative coef exp => signed negative coef * 10 ^ exp
  | _ => 0

/-- Finite numbers are compared at the lower of their exponents. -/
def lt : Number → Number → Except Signal Bool
  | .nan _, _ => .error .invalidOperation
  | _, .nan _ => .error .invalidOperation
  | .infinity negative, .infinity negative' => .ok (negative && !negative')
  | .infinity negative, .finite _ _ _ => .ok negative
  | .finite _ _ _, .infinity negative => .ok !negative
  | .finite negative coef exp, .finite negative' coef' exp' =>
      .ok (signed negative (coef * 10 ^ (exp - min exp exp').toNat) <
        signed negative' (coef' * 10 ^ (exp' - min exp exp').toNat))

def le (a b : Number) : Except Signal Bool :=
  match b.lt a with
  | .error signal => .error signal
  | .ok less => .ok !less

/-- `to_integral_value`, with `ROUND_DOWN`. -/
def toIntegralDown : Number → Except Signal Number
  | .nan true => .error .invalidOperation
  | .finite negative coef exp =>
      if 0 ≤ exp then .ok (.finite negative coef exp)
      else .ok (.finite negative (truncate coef exp) 0)
  | special => .ok special

/-- `int()`, which a number that is not finite does not have. -/
def toInt : Number → Option Int
  | .finite negative coef exp => some (signed negative (truncate coef exp))
  | _ => none

end Number

/-- Finite numbers compare as their values do. -/
theorem Number.lt_value (negative negative' : Bool) (coef coef' : Nat) (exp exp' : Int) :
    Number.lt (.finite negative coef exp) (.finite negative' coef' exp') =
      .ok (decide ((Number.finite negative coef exp).value <
        (Number.finite negative' coef' exp').value)) := by
  have aligned : ∀ (negative : Bool) (coef : Nat) (shift : Nat) (low : Int),
      (Number.finite negative coef (low + shift)).value =
        signed negative (coef * 10 ^ shift) * 10 ^ low := by
    intro negative coef shift low
    rw [value, zpow_add₀ (by norm_num), zpow_natCast]
    cases negative <;> simp [signed] <;> ring
  have first := aligned negative coef (exp - min exp exp').toNat (min exp exp')
  have second := aligned negative' coef' (exp' - min exp exp').toNat (min exp exp')
  rw [Int.toNat_of_nonneg (by omega), add_sub_cancel] at first second
  have ordered : signed negative (coef * 10 ^ (exp - min exp exp').toNat) <
        signed negative' (coef' * 10 ^ (exp' - min exp exp').toNat) ↔
      (Number.finite negative coef exp).value < (Number.finite negative' coef' exp').value := by
    have scale : (0 : ℚ) < 10 ^ min exp exp' := zpow_pos (by norm_num) _
    rw [first, second, mul_lt_mul_iff_left₀ scale, Int.cast_lt]
  exact congrArg Except.ok (decide_eq_decide.mpr ordered)

/-- Making a number whole does not change its whole part. -/
theorem Number.toInt_toIntegralDown {number whole : Number}
    (rounded : number.toIntegralDown = .ok whole) : whole.toInt = number.toInt := by
  cases number with
  | finite negative coef exp =>
    rw [toIntegralDown] at rounded
    by_cases upper : 0 ≤ exp
    · rw [if_pos upper] at rounded
      rw [← Except.ok.inj rounded]
    · rw [if_neg upper] at rounded
      rw [← Except.ok.inj rounded]
      simp [toInt, truncate]
  | infinity negative =>
    cases rounded
    rfl
  | nan signaling =>
    cases signaling with
    | true => cases rounded
    | false =>
      cases rounded
      rfl

/-- A result is rounded to the context's digits, or to its lowest exponent. -/
def Context.fix (context : Context) (negative : Bool) (coef : Nat) (exp : Int) :
    Except Signal Number :=
  if coef = 0 then .ok (.finite negative 0 (min (max exp context.etiny) context.emax))
  else
    let expMin := digits coef + exp - context.prec
    if context.etop < expMin then .error .overflow
    else
      let expMin := max expMin context.etiny
      if exp < expMin then
        let rounded := halfEven coef (expMin - exp).toNat
        if digits rounded ≤ context.prec then .ok (.finite negative rounded expMin)
        else if context.etop < expMin + 1 then .error .overflow
        else .ok (.finite negative (rounded / 10) (expMin + 1))
      else .ok (.finite negative coef exp)

def Context.mul (context : Context) : Number → Number → Except Signal Number
  | .nan true, _ => .error .invalidOperation
  | _, .nan true => .error .invalidOperation
  | .nan false, _ => .ok (.nan false)
  | _, .nan false => .ok (.nan false)
  | .infinity negative, .infinity negative' => .ok (.infinity (negative ^^ negative'))
  | .infinity negative, .finite negative' coef _ =>
      if coef = 0 then .error .invalidOperation else .ok (.infinity (negative ^^ negative'))
  | .finite negative coef _, .infinity negative' =>
      if coef = 0 then .error .invalidOperation else .ok (.infinity (negative ^^ negative'))
  | .finite negative coef exp, .finite negative' coef' exp' =>
      context.fix (negative ^^ negative') (coef * coef') (exp + exp')

/-- A number with more digits than the context has after rounding is the next power of ten. -/
theorem halfEven_carry {coef dropped prec : Nat} (fits : digits coef ≤ prec + dropped)
    (carry : ¬ digits (halfEven coef dropped) ≤ prec) : halfEven coef dropped = 10 ^ prec := by
  rw [digits_le_iff, Nat.not_lt] at carry
  rw [digits_le_iff, pow_add] at fits
  have below : coef / 10 ^ dropped < 10 ^ prec :=
    Nat.div_lt_of_lt_mul (by rwa [Nat.mul_comm])
  unfold halfEven at carry ⊢
  split at carry
  next up =>
    rw [if_pos up]
    omega
  next down => exact absurd below (Nat.not_lt.mpr carry)

/-- The whole part of a result is that of the rounded number, unless it is too small to be
normal. -/
theorem Context.fix_truncate {context : Context} {negative : Bool} {coef : Nat} {exp : Int}
    {result : Number} (digit : 0 < context.prec) (positive : 0 < coef)
    (normal : context.etiny ≤ digits coef + exp - context.prec)
    (fixed : context.fix negative coef exp = .ok result) :
    ∃ kept shift, result = .finite negative kept shift ∧
      truncate kept shift = truncate (halfEven coef (digits coef - context.prec))
        (exp + (digits coef - context.prec : Nat)) := by
  have lowest : max (digits coef + exp - context.prec) context.etiny =
      digits coef + exp - context.prec := max_eq_left normal
  unfold Context.fix at fixed
  rw [if_neg positive.ne'] at fixed
  dsimp only at fixed
  rw [lowest] at fixed
  split at fixed
  · cases fixed
  · split at fixed
    next many =>
      have count : (digits coef + exp - context.prec - exp).toNat =
          digits coef - context.prec := by omega
      have shift : digits coef + exp - context.prec =
          exp + (digits coef - context.prec : Nat) := by omega
      rw [count, shift] at fixed
      split at fixed
      · cases fixed
        exact ⟨_, _, rfl, rfl⟩
      next carry =>
        split at fixed
        · cases fixed
        · cases fixed
          have power := halfEven_carry (by omega) carry
          refine ⟨_, _, rfl, ?_⟩
          rw [power, ← truncate_mul_ten,
            Nat.div_mul_cancel (dvd_pow_self 10 digit.ne')]
    next few =>
      cases fixed
      have none : digits coef - context.prec = 0 := by omega
      refine ⟨_, _, rfl, ?_⟩
      rw [none, halfEven_of_small (by simp [Nat.mod_one])]
      simp

end BigX.Decimal
