import BigX.Json.Fuel

set_option autoImplicit false

/- A numeral with what may follow it is read as far as it goes. -/
namespace BigX.Json

variable {F : Type} {floats : Floats F} {rest : Text}

/-- A text that goes on with none of these characters, and with no digit. -/
def Follows (others : List Char) (text : Text) : Prop :=
  ∀ char, text.head? = some char → char.isDigit = false ∧ char ∉ others

theorem follows_nil (others : List Char) : Follows others [] := nofun

theorem follows_cons {others : List Char} {char : Char} (plain : char.isDigit = false)
    (other : char ∉ others) (rest : Text) : Follows others (char :: rest) := by
  intro head same
  cases same
  exact ⟨plain, other⟩

theorem Follows.anti {others fewer : List Char} (follows : Follows others rest)
    (subset : fewer ⊆ others) : Follows fewer rest :=
  fun char head => ⟨(follows char head).1, fun member => (follows char head).2 (subset member)⟩

theorem takeWhile_digits {digits : Text} (all : ∀ char ∈ digits, char.isDigit = true)
    {others : List Char} (follows : Follows others rest) :
    (digits ++ rest).takeWhile Char.isDigit = digits := by
  rw [List.takeWhile_append_of_pos all]
  cases rest with
  | nil => simp
  | cons char rest =>
    rw [List.takeWhile_cons_of_neg (by simp [(follows char rfl).1]), List.append_nil]

/-- The parts of a numeral, as the grammar of numbers has them. -/
structure Numeral (sign whole fraction exponent : Text) : Prop where
  signed : sign = [] ∨ sign = ['-']
  leading : whole = ['0'] ∨ whole ≠ [] ∧ whole.head? ≠ some '0'
  digits : ∀ char ∈ whole, char.isDigit = true
  fractional : fraction = [] ∨ ∃ digits, digits ≠ [] ∧ (∀ char ∈ digits, char.isDigit = true) ∧
    fraction = '.' :: digits
  scaled : exponent = [] ∨ ∃ mark sign digits, (mark = 'e' ∨ mark = 'E') ∧
    sign ∈ [[], ['-'], ['+']] ∧ digits ≠ [] ∧ (∀ char ∈ digits, char.isDigit = true) ∧
      exponent = mark :: (sign ++ digits)

variable {sign whole fraction exponent : Text}

theorem Numeral.whole_head (numeral : Numeral sign whole fraction exponent) :
    ∃ char digits, whole = char :: digits ∧ char.isDigit = true := by
  have nonempty : whole ≠ [] := by
    rcases numeral.leading with rfl | ⟨nonempty, _⟩
    · simp
    · exact nonempty
  obtain ⟨char, digits, rfl⟩ := List.exists_cons_of_ne_nil nonempty
  exact ⟨char, digits, rfl, numeral.digits char List.mem_cons_self⟩

theorem signOf_append (numeral : Numeral sign whole fraction exponent) (rest : Text) :
    signOf (sign ++ (whole ++ rest)) = sign := by
  obtain ⟨char, digits, rfl, digit⟩ := numeral.whole_head
  rcases numeral.signed with rfl | rfl
  · rw [List.nil_append, List.cons_append, signOf]
    intro tail same
    obtain ⟨rfl, _⟩ := List.cons.inj same
    exact absurd digit (by decide)
  · rfl

theorem wholeOf_append (numeral : Numeral sign whole fraction exponent) {others : List Char}
    (follows : Follows others rest) : wholeOf (whole ++ rest) = whole := by
  rcases numeral.leading with rfl | ⟨_, notZero⟩
  · rfl
  · obtain ⟨char, digits, rfl, _⟩ := numeral.whole_head
    rw [List.cons_append, wholeOf, ← List.cons_append, takeWhile_digits numeral.digits follows]
    intro tail same
    obtain ⟨rfl, _⟩ := List.cons.inj same
    exact notZero rfl

theorem fractionOf_append (numeral : Numeral sign whole fraction exponent)
    (follows : Follows ['.'] rest) : fractionOf (fraction ++ rest) = fraction := by
  rcases numeral.fractional with rfl | ⟨digits, nonempty, all, rfl⟩
  · cases rest with
    | nil => rfl
    | cons char rest =>
      rw [List.nil_append, fractionOf]
      intro tail same
      obtain ⟨rfl, _⟩ := List.cons.inj same
      exact absurd List.mem_cons_self (follows '.' rfl).2
  · rw [List.cons_append, fractionOf]
    rw [takeWhile_digits all follows, if_neg nonempty]

theorem exponentOf_append (numeral : Numeral sign whole fraction exponent)
    (follows : Follows ['.', 'e', 'E'] rest) : exponentOf (exponent ++ rest) = exponent := by
  rcases numeral.scaled with rfl | ⟨mark, sign, digits, marked, signed, nonempty, all, rfl⟩
  · cases rest with
    | nil => rfl
    | cons char rest =>
      have other := (follows char rfl).2
      rw [List.nil_append, exponentOf, if_neg]
      rintro (rfl | rfl)
      · exact other (by decide)
      · exact other (by decide)
  · have signOf : exponentSignOf (sign ++ (digits ++ rest)) = sign := by
      obtain ⟨char, others, rfl⟩ := List.exists_cons_of_ne_nil nonempty
      have digit := all char List.mem_cons_self
      simp only [List.mem_cons, List.not_mem_nil, or_false] at signed
      rcases signed with rfl | rfl | rfl
      · rw [List.nil_append, List.cons_append, exponentSignOf]
        · intro tail same
          obtain ⟨rfl, _⟩ := List.cons.inj same
          exact absurd digit (by decide)
        · intro tail same
          obtain ⟨rfl, _⟩ := List.cons.inj same
          exact absurd digit (by decide)
      · rfl
      · rfl
    rw [List.cons_append, List.append_assoc, exponentOf, if_pos marked]
    simp only [signOf, List.drop_left, takeWhile_digits all follows, if_neg nonempty]

theorem follows_fraction (numeral : Numeral sign whole fraction exponent)
    (follows : Follows [] rest) : Follows [] (fraction ++ rest) := by
  rcases numeral.fractional with rfl | ⟨digits, _, _, rfl⟩
  · exact follows
  · exact follows_cons (by decide) (by simp) _

theorem follows_exponent (numeral : Numeral sign whole fraction exponent)
    (follows : Follows ['.'] rest) : Follows ['.'] (exponent ++ rest) := by
  rcases numeral.scaled with rfl | ⟨mark, sign, digits, marked, _, _, _, rfl⟩
  · exact follows
  · rcases marked with rfl | rfl
    · exact follows_cons (by decide) (by decide) _
    · exact follows_cons (by decide) (by decide) _

/-- A numeral is read whole, and what it stands for is the number of its parts. -/
theorem scanNumber_numeral (numeral : Numeral sign whole fraction exponent)
    (follows : Follows ['.', 'e', 'E'] rest) :
    scanNumber floats (sign ++ (whole ++ (fraction ++ (exponent ++ rest)))) =
      some (number floats sign whole fraction exponent, rest) := by
  have dotless := follows_exponent numeral (follows.anti (by decide))
  have plain := follows_fraction numeral (dotless.anti (by decide))
  have nonempty : whole ≠ [] := by
    obtain ⟨char, digits, rfl, _⟩ := numeral.whole_head
    simp
  rw [scanNumber, signOf_append numeral]
  simp only [List.drop_left, wholeOf_append numeral plain, if_neg nonempty,
    fractionOf_append numeral dotless, exponentOf_append numeral follows]

/-- No word begins like a numeral. -/
theorem scanWord_numeral (numeral : Numeral sign whole fraction exponent) (rest : Text) :
    scanWord floats (sign ++ (whole ++ rest)) = none := by
  obtain ⟨char, digits, rfl, digit⟩ := numeral.whole_head
  have letters : ∀ letter, letter.isDigit = false → letter ≠ char := by
    rintro letter plain rfl
    rw [digit] at plain
    cases plain
  have first : ∀ letter, letter.isDigit = false → letter ≠ '-' → ∀ word,
      ¬ letter :: word <+: sign ++ (char :: digits ++ rest) := by
    intro letter plain positive word start
    rcases numeral.signed with rfl | rfl
    · exact letters letter plain (List.cons_prefix_cons.mp start).1
    · exact positive (List.cons_prefix_cons.mp start).1
  have second : ¬ "-Infinity".toList <+: sign ++ (char :: digits ++ rest) := by
    intro start
    rcases numeral.signed with rfl | rfl
    · exact letters '-' (by decide) (List.cons_prefix_cons.mp start).1
    · have later := (List.cons_prefix_cons.mp start).2
      exact letters 'I' (by decide) (List.cons_prefix_cons.mp later).1
  rw [scanWord, List.findSome?_eq_none_iff]
  intro pair member
  simp only [words, List.mem_cons, List.not_mem_nil, or_false] at member
  rw [ite_eq_right_iff, List.isPrefixOf_iff_prefix]
  intro start
  rcases member with rfl | rfl | rfl | rfl | rfl | rfl
  · exact (first 'n' (by decide) (by decide) _ start).elim
  · exact (first 't' (by decide) (by decide) _ start).elim
  · exact (first 'f' (by decide) (by decide) _ start).elim
  · exact (first 'N' (by decide) (by decide) _ start).elim
  · exact (first 'I' (by decide) (by decide) _ start).elim
  · exact (second start).elim

theorem head_toDigits {number : Nat} (positive : 0 < number) :
    (Nat.toDigits 10 number).head? ≠ some '0' := by
  induction number using Nat.strongRecOn with
  | ind number ih =>
    rw [Nat.toDigits_eq_if (by decide)]
    split
    next small =>
      have table : ∀ digit < 10, 0 < digit → [Nat.digitChar digit].head? ≠ some '0' := by decide
      exact table number small positive
    next large =>
      have nonempty : Nat.toDigits 10 (number / 10) ≠ [] := Nat.toDigits_ne_nil
      rw [List.head?_append_of_ne_nil _ nonempty]
      exact ih (number / 10) (by omega) (by omega)

theorem numeral_repr (sign : Text) (signed : sign = [] ∨ sign = ['-']) (number : Nat) :
    Numeral sign (Nat.toDigits 10 number) [] [] where
  signed := signed
  leading := by
    rcases Nat.eq_zero_or_pos number with rfl | positive
    · exact .inl rfl
    · exact .inr ⟨Nat.toDigits_ne_nil, head_toDigits positive⟩
  digits := fun _ member => Nat.isDigit_of_mem_toDigits (by decide) (by decide) member
  fractional := .inl rfl
  scaled := .inl rfl

/-- The numeral of an integer. -/
theorem numeral_int (floats : Floats F) (value : Int) : ∃ sign whole,
    value.repr.toList = sign ++ whole ∧ Numeral sign whole [] [] ∧
      number floats sign whole [] [] = .int value := by
  cases value with
  | ofNat value =>
    refine ⟨[], Nat.toDigits 10 value, ?_, numeral_repr [] (.inl rfl) value, ?_⟩
    · exact Nat.toList_repr
    · rw [number, if_pos ⟨rfl, rfl⟩, if_pos rfl, Nat.ofDigitChars_ten_toDigits]
      rfl
  | negSucc value =>
    refine ⟨['-'], Nat.toDigits 10 (value + 1), ?_, numeral_repr _ (.inr rfl) (value + 1), ?_⟩
    · rw [Text.repr_negSucc, Nat.toList_repr]
      rfl
    · rw [number, if_pos ⟨rfl, rfl⟩, if_neg (by decide), Nat.ofDigitChars_ten_toDigits]
      rfl

end BigX.Json
