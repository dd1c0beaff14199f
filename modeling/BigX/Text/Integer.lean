import Mathlib.Data.List.Basic

set_option autoImplicit false

/- Integers as texts, and a text read as an integer: an optional sign, and digits that may have
single underscores between them; and where the numeral begins that a text ends with. -/
namespace BigX.Text

section Reading

variable (decimal : Char → Option Nat)

/-- The value of a decimal character; `decimal` are those beyond ASCII. -/
def digit (char : Char) : Option Nat :=
  if char.toNat < 128 then if char.isDigit then some (char.toNat - 48) else none
  else decimal char

/-- The number that goes on with a text. -/
def digitsFrom : (value : Nat) → List Char → Option Nat
  | value, [] => some value
  | value, [char] => (digit decimal char).map fun unit => 10 * value + unit
  | value, char :: next :: rest =>
    match digit decimal char with
    | some unit => digitsFrom (10 * value + unit) (next :: rest)
    | none =>
      if char = '_' then
        (digit decimal next).bind fun unit => digitsFrom (10 * value + unit) rest
      else none

def natural : List Char → Option Nat
  | [] => none
  | char :: rest => (digit decimal char).bind fun unit => digitsFrom decimal unit rest

/-- `int(text)`, of a text without the whitespace around it. -/
def integer : List Char → Option Int
  | '-' :: rest => (natural decimal rest).map fun number => -(number : Int)
  | '+' :: rest => (natural decimal rest).map fun number => (number : Int)
  | text => (natural decimal text).map fun number => (number : Int)

variable {decimal}

theorem digit_of_isDigit {char : Char} (isDigit : char.isDigit = true) :
    digit decimal char = some (char.toNat - 48) := by
  have bounds : 48 ≤ char.toNat ∧ char.toNat ≤ 57 := Char.isDigit_iff_toNat.mp isDigit
  rw [digit, if_pos (by omega), if_pos isDigit]

theorem digitsFrom_eq {digits : List Char} (all : ∀ char ∈ digits, char.isDigit = true)
    (value : Nat) : digitsFrom decimal value digits = some (Nat.ofDigitChars 10 digits value) := by
  induction digits generalizing value with
  | nil => rfl
  | cons char rest ih =>
    have known : digit decimal char = some (char.toNat - 48) :=
      digit_of_isDigit (all char List.mem_cons_self)
    have later := ih (fun next member => all next (List.mem_cons_of_mem _ member))
    rw [Nat.ofDigitChars_cons]
    cases rest with
    | nil =>
      rw [digitsFrom, known]
      rfl
    | cons next rest =>
      rw [digitsFrom, known]
      exact later _

theorem natural_repr (number : Nat) : natural decimal number.repr.toList = some number := by
  rw [Nat.toList_repr]
  have all : ∀ char ∈ Nat.toDigits 10 number, char.isDigit = true :=
    fun char member => Nat.isDigit_of_mem_toDigits (by decide) (by decide) member
  have value := Nat.ofDigitChars_ten_toDigits (n := number)
  have nonempty : Nat.toDigits 10 number ≠ [] := Nat.toDigits_ne_nil
  obtain ⟨char, rest, digits⟩ := List.exists_cons_of_ne_nil nonempty
  rw [digits] at all value
  rw [digits, natural, digit_of_isDigit (all char List.mem_cons_self), Option.bind_some,
    digitsFrom_eq fun next member => all next (List.mem_cons_of_mem _ member)]
  rw [Nat.ofDigitChars_cons] at value
  simpa using value

theorem integer_of_digits {digits : List Char} (all : ∀ char ∈ digits, char.isDigit = true) :
    integer decimal digits = (natural decimal digits).map fun number => (number : Int) := by
  unfold integer
  split
  next => exact absurd (all '-' List.mem_cons_self) (by decide)
  next => exact absurd (all '+' List.mem_cons_self) (by decide)
  next => rfl

theorem repr_negSucc (number : Nat) :
    (Int.negSucc number).repr.toList = '-' :: (number + 1).repr.toList := by
  simp [Int.repr]

/-- Writing an integer and reading it brings it back. -/
theorem integer_repr (number : Int) : integer decimal number.repr.toList = some number := by
  cases number with
  | ofNat number =>
    have all : ∀ char ∈ number.repr.toList, char.isDigit = true := by
      rw [Nat.toList_repr]
      exact fun char member => Nat.isDigit_of_mem_toDigits (by decide) (by decide) member
    change integer decimal number.repr.toList = some (number : Int)
    rw [integer_of_digits all, natural_repr]
    rfl
  | negSucc number =>
    rw [repr_negSucc, integer, natural_repr]
    rfl

theorem mem_repr {number : Int} {char : Char} (member : char ∈ number.repr.toList) :
    char = '-' ∨ char.isDigit = true := by
  cases number with
  | ofNat number =>
    change char ∈ number.repr.toList at member
    rw [Nat.toList_repr] at member
    exact .inr (Nat.isDigit_of_mem_toDigits (by decide) (by decide) member)
  | negSucc number =>
    rw [repr_negSucc, Nat.toList_repr] at member
    rcases List.mem_cons.mp member with rfl | digit
    · exact .inl rfl
    · exact .inr (Nat.isDigit_of_mem_toDigits (by decide) (by decide) digit)

end Reading

section Trailing

/-- `str(number)` -/
def numeral (number : Int) : List Char := number.repr.toList

theorem numeral_natCast (number : Nat) : numeral number = Nat.toDigits 10 number :=
  Nat.toList_repr

theorem numeral_negSucc (number : Nat) :
    numeral (Int.negSucc number) = '-' :: numeral (number + 1 : Nat) := by
  rw [numeral_natCast, numeral, repr_negSucc, Nat.toList_repr]

theorem numeral_neg {number : Nat} (positive : 0 < number) :
    numeral (-number) = '-' :: numeral number := by
  obtain ⟨less, rfl⟩ : ∃ less, number = less + 1 := ⟨number - 1, by omega⟩
  exact numeral_negSucc less

theorem numeral_injective : Function.Injective numeral := by
  intro number number' same
  have read : integer (fun _ => none) (numeral number) = some number := integer_repr number
  have read' : integer (fun _ => none) (numeral number') = some number' := integer_repr number'
  rw [same, read'] at read
  exact (Option.some.inj read).symm

theorem numeral_append {more digit : Nat} (positive : 0 < more) (small : digit < 10) :
    numeral more ++ numeral digit = numeral (10 * more + digit : Nat) := by
  rw [numeral_natCast, numeral_natCast, numeral_natCast]
  exact Nat.toDigits_append_toDigits (by decide) positive small

theorem numeral_digit {digit : Nat} (small : digit < 10) :
    numeral digit = [digit.digitChar] := by
  rw [numeral_natCast]
  exact Nat.toDigits_of_lt_base small

/-- The last digit of a numeral, and what can stand before it. -/
theorem numeral_last (number : Int) :
    ∃ front, ∃ digit : Nat, digit < 10 ∧ numeral number = front ++ numeral digit ∧
      (front = [] ∧ number = digit ∨ (∃ more : Nat, 0 < more ∧ numeral more <:+ front) ∨
        front = ['-'] ∧ digit ≠ 0) := by
  have natural (number : Nat) : ∃ front, ∃ digit : Nat, digit < 10 ∧
      numeral number = front ++ numeral digit ∧
        (front = [] ∧ number = digit ∨ ∃ more : Nat, 0 < more ∧ front = numeral more) := by
    by_cases small : number < 10
    · exact ⟨[], number, small, rfl, Or.inl ⟨rfl, rfl⟩⟩
    · have last := Nat.mod_lt number (show 10 > 0 by decide)
      have whole := Nat.div_add_mod number 10
      have positive : 0 < number / 10 := by omega
      refine ⟨numeral (number / 10 : Nat), number % 10, last, ?_, Or.inr ⟨_, positive, rfl⟩⟩
      rw [numeral_append positive last, whole]
  cases number with
  | ofNat number =>
    obtain ⟨front, digit, small, whole, first⟩ := natural number
    refine ⟨front, digit, small, whole, ?_⟩
    rcases first with ⟨rfl, rfl⟩ | ⟨more, positive, rfl⟩
    · exact Or.inl ⟨rfl, rfl⟩
    · exact Or.inr (Or.inl ⟨more, positive, List.suffix_refl _⟩)
  | negSucc number =>
    obtain ⟨front, digit, small, whole, first⟩ := natural (number + 1)
    refine ⟨'-' :: front, digit, small, ?_, ?_⟩
    · rw [numeral_negSucc, whole, List.cons_append]
    · rcases first with ⟨rfl, same⟩ | ⟨more, positive, rfl⟩
      · exact Or.inr (Or.inr ⟨rfl, by omega⟩)
      · exact Or.inr (Or.inl ⟨more, positive, List.suffix_cons _ _⟩)

theorem numeral_ne_nil (number : Int) : numeral number ≠ [] := by
  obtain ⟨front, digit, small, whole, _⟩ := numeral_last number
  rw [whole, numeral_digit small]
  exact List.append_ne_nil_of_right_ne_nil _ (List.cons_ne_nil _ _)

/-- A text that does not end with a digit ends with no numeral. -/
theorem not_numeral_suffix {text : List Char} {letter : Char} (noDigit : letter.isDigit = false)
    (number : Int) : ¬ numeral number <:+ text ++ [letter] := by
  rintro ⟨earlier, same⟩
  obtain ⟨front, digit, small, whole, _⟩ := numeral_last number
  rw [whole, numeral_digit small, ← List.append_assoc, List.append_singleton_inj] at same
  rw [← same.2, Nat.isDigit_digitChar, decide_eq_false_iff_not] at noDigit
  exact noDigit small

theorem digit_inj {front front' : List Char} {digit digit' : Nat} (small : digit < 10)
    (small' : digit' < 10) (same : front ++ numeral digit = front' ++ numeral digit') :
    front = front' ∧ digit = digit' := by
  rw [numeral_digit small, numeral_digit small'] at same
  obtain ⟨fronts, digits⟩ := List.append_singleton_inj.mp same
  rw [← List.singleton_inj, ← numeral_digit small, ← numeral_digit small'] at digits
  exact ⟨fronts, Int.ofNat_inj.mp (numeral_injective digits)⟩

/-- A text with a numeral behind it can be read in one way only exactly if the numeral is a single
digit, and the text ends neither with a numeral that could go on with it nor with its sign. -/
theorem numeral_unique_iff (text : List Char) (number : Int) :
    (∀ text' number', text' ++ numeral number' = text ++ numeral number →
      text' = text ∧ number' = number) ↔
    (0 ≤ number ∧ number ≤ 9) ∧ (∀ more : Nat, 0 < more → ¬ numeral more <:+ text) ∧
      (number = 0 ∨ ¬ ['-'] <:+ text) := by
  obtain ⟨front, digit, small, whole, first⟩ := numeral_last number
  constructor
  · intro unique
    have shorter := unique (text ++ front) digit (by rw [whole, List.append_assoc])
    obtain ⟨_, rfl⟩ := shorter
    refine ⟨by omega, ?_, ?_⟩
    · rintro more positive ⟨text', rfl⟩
      have longer := unique text' (10 * more + digit : Nat) (by
        rw [← numeral_append positive small, List.append_assoc])
      have missing := List.append_right_eq_self.mp longer.1.symm
      exact numeral_ne_nil more missing
    · by_contra signed
      rw [not_or, not_not] at signed
      obtain ⟨nonzero, text', rfl⟩ := signed
      have negative := unique text' (-digit) (by
        rw [numeral_neg (by omega), List.append_assoc, List.singleton_append])
      omega
  · rintro ⟨bounds, unnumbered, unsigned⟩ text' number' same
    obtain ⟨single, rfl⟩ : ∃ single : Nat, number = single := ⟨number.toNat, by omega⟩
    have one : single < 10 := by omega
    obtain ⟨front', digit', small', whole', first'⟩ := numeral_last number'
    rw [whole', ← List.append_assoc] at same
    obtain ⟨rfl, rfl⟩ := digit_inj small' one same
    rcases first' with ⟨rfl, rfl⟩ | ⟨more, positive, suffix⟩ | ⟨rfl, nonzero⟩
    · exact ⟨(List.append_nil text').symm, rfl⟩
    · exact absurd (suffix.trans (List.suffix_append _ _)) (unnumbered more positive)
    · rcases unsigned with zero | unsigned
      · omega
      · exact absurd (List.suffix_append _ _) unsigned

end Trailing

end BigX.Text
