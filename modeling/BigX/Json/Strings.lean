import BigX.Json.Fuel

set_option autoImplicit false

/- A string between quotes, with its escapes, is read as the string it was written for. -/
namespace BigX.Json

theorem hexValue_digitChar {digit : Nat} (small : digit < 16) :
    hexValue (Nat.digitChar digit) = some digit := by
  have table : ∀ digit < 16, hexValue (Nat.digitChar digit) = some digit := by decide
  exact table digit small

theorem scanUnits_unicodeEscape {unit : Nat} (small : unit < 0x10000) (rest : Text) :
    scanUnits (unicodeEscape unit ++ rest) =
      (scanUnits rest).map fun (units, rest) => (unit :: units, rest) := by
  have read : hexUnit (Nat.digitChar (unit / 4096 % 16)) (Nat.digitChar (unit / 256 % 16))
      (Nat.digitChar (unit / 16 % 16)) (Nat.digitChar (unit % 16)) = some unit := by
    have digit : ∀ number, hexValue (Nat.digitChar (number % 16)) = some (number % 16) :=
      fun number => hexValue_digitChar (Nat.mod_lt number (by decide))
    rw [hexUnit, digit, digit, digit, digit]
    simp only [Option.bind_eq_bind, Option.bind_some, Option.pure_def, Option.some.injEq]
    omega
  show scanUnits ('\\' :: 'u' :: _ :: _ :: _ :: _ :: rest) = _
  rw [scanUnits_unicode, read, Option.bind_some]

/-- The units that a code point is written with. -/
def unitsOf (point : Nat) : List Nat :=
  if point < 0x10000 then [point] else [highSurrogate point, lowSurrogate point]

theorem surrogates_lt {point : Nat} (large : 0x10000 ≤ point) (valid : point.isValidChar) :
    highSurrogate point < 0xdc00 ∧ lowSurrogate point < 0xe000 := by
  have below : point < 0x110000 := by
    rcases valid with small | ⟨_, small⟩ <;> omega
  unfold highSurrogate lowSurrogate
  omega

theorem scanUnits_escape_point {point : Nat} (valid : point.isValidChar) (rest : Text) :
    scanUnits (escape point ++ rest) =
      (scanUnits rest).map fun (units, rest) => (unitsOf point ++ units, rest) := by
  have small : ∀ {point : Nat}, point < 0x10000 → unitsOf point = [point] :=
    fun below => if_pos below
  rw [escape]
  cases found : shortEscapes.lookup point with
  | some letter =>
    have table : ∀ pair ∈ shortEscapes, pair.2 ≠ 'u' ∧ escaped pair.2 = some pair.1 ∧
        pair.1 < 0x10000 := by decide
    obtain ⟨before, after, split, _⟩ := List.lookup_eq_some_iff.mp found
    have ⟨short, read, below⟩ := table (point, letter) (by rw [split]; simp)
    show scanUnits ('\\' :: letter :: rest) = _
    rw [scanUnits_escape short, read, Option.bind_some, small below]
    rfl
  | none =>
    have absent := List.lookup_eq_none_iff.mp found
    have unquoted : point ≠ 34 := by simpa using absent (34, '"') (by decide)
    have unescaped : point ≠ 92 := by simpa using absent (92, '\\') (by decide)
    dsimp only
    split
    next printable =>
      have ascii : ∀ point ≤ 126, (Char.ofNat point).toNat = point := by decide
      have same := ascii point printable.2
      have unlike : ∀ char : Char, point ≠ char.toNat → Char.ofNat point ≠ char := by
        intro char other equal
        exact other (by rw [← equal, same])
      rw [List.singleton_append, scanUnits_plain (unlike '"' unquoted) (unlike '\\' unescaped)
        (by rw [same]; exact printable.1), same, small (by omega)]
      rfl
    next =>
      split
      next below => rw [scanUnits_unicodeEscape below, small below]; rfl
      next large =>
        have ⟨high, low⟩ := surrogates_lt (Nat.le_of_not_lt large) valid
        rw [List.append_assoc, scanUnits_unicodeEscape (by omega),
          scanUnits_unicodeEscape (by omega), Option.map_map, unitsOf, if_neg large]
        rfl

theorem scanUnits_flatMap {points : List Nat} (valid : Encodable points) (rest : Text) :
    scanUnits (points.flatMap escape ++ '"' :: rest) = some (points.flatMap unitsOf, rest) := by
  induction points with
  | nil => exact scanUnits_quote rest
  | cons point points ih =>
    rw [List.flatMap_cons, List.append_assoc,
      scanUnits_escape_point (valid point List.mem_cons_self),
      ih fun later member => valid later (List.mem_cons_of_mem _ member)]
    rfl

theorem join_units {points : List Nat} (valid : Encodable points) :
    joinSurrogates (points.flatMap unitsOf) = points := by
  induction points with
  | nil => rfl
  | cons point points ih =>
    have known := valid point List.mem_cons_self
    have later := ih fun later member => valid later (List.mem_cons_of_mem _ member)
    rw [List.flatMap_cons, unitsOf]
    split
    next below =>
      have single : isHigh point = false := by
        rcases known with small | ⟨large, _⟩ <;> simp [isHigh] <;> omega
      rw [List.singleton_append]
      cases units : points.flatMap unitsOf with
      | nil =>
        rw [units] at later
        rw [joinSurrogates, ← later]
        rfl
      | cons next rest =>
        rw [units] at later
        rw [joinSurrogates, single, Bool.false_and, if_neg Bool.false_ne_true, later]
    next large =>
      obtain ⟨high, low⟩ := surrogates_lt (Nat.le_of_not_lt large) known
      have isHigh : isHigh (highSurrogate point) = true := by
        rw [Json.isHigh, Bool.and_eq_true, decide_eq_true_eq, decide_eq_true_eq]
        unfold highSurrogate at high ⊢
        omega
      have isLow : isLow (lowSurrogate point) = true := by
        rw [Json.isLow, Bool.and_eq_true, decide_eq_true_eq, decide_eq_true_eq]
        unfold lowSurrogate at low ⊢
        omega
      have whole : 0x10000 + (highSurrogate point - 0xd800) * 1024 +
          (lowSurrogate point - 0xdc00) = point := by
        unfold highSurrogate lowSurrogate
        omega
      show joinSurrogates (highSurrogate point :: lowSurrogate point :: points.flatMap unitsOf) = _
      rw [joinSurrogates, isHigh, isLow, Bool.and_self, if_pos rfl, later, whole]

/-- Behind its opening quote, a string is read up to its closing one. -/
theorem scanString_quote {points : List Nat} (valid : Encodable points) (rest : Text) :
    scanString (points.flatMap escape ++ '"' :: rest) = some (points, rest) := by
  rw [scanString, scanUnits_flatMap valid, Option.map_some]
  dsimp only
  rw [join_units valid]

end BigX.Json
