import BigX.Guardrail.Checks

set_option autoImplicit false

/- What of a message the intent check sees: a pattern is found in the sanitised message if it
stands in the message with no bracket put inside it, before the cut. -/
namespace BigX.Guardrail

open Text (Mark Joined)

/-- The text holds the pattern, in whatever case. -/
def Holds (text pattern : Text) : Prop :=
  ∃ word, word <:+: text ∧ word.map lowerAscii = pattern

/-- The pattern stands in the text, no role marker begins or ends inside it, and with the
brackets put before it, it ends before the text is cut. -/
def Shown (text pattern : Text) : Prop :=
  ∃ earlier inside later, Text.marks injectionWrappers 0 text = earlier ++ inside ++ later ∧
    (inside.map fun mark => lowerAscii mark.value) = pattern ∧ Joined inside ∧
      Text.stop earlier inside ≤ maxMessageLength

/-- What lower-casing, stripping and brackets leave intact. -/
def plain (pattern : Text) : Bool :=
  (pattern.all fun char => char.toNat < 128 && char != 'k' && char != '[' && char != ']') &&
    (pattern.head?.any fun char => !isSpace char) &&
    pattern.getLast?.any fun char => !isSpace char && char != 'i'

theorem suspiciousPatterns_plain :
    ∀ pattern ∈ suspiciousPatterns, plain pattern.toList = true := by
  decide +kernel

structure Plain (pattern : Text) : Prop where
  chars : ∀ char ∈ pattern, char.toNat < 128 ∧ char ≠ 'k' ∧ char ≠ '[' ∧ char ≠ ']'
  first : ∃ char ∈ pattern.head?, isSpace char = false
  last : ∃ char ∈ pattern.getLast?, isSpace char = false ∧ char ≠ 'i'

theorem plain_of {pattern : Text} (holds : plain pattern = true) : Plain pattern := by
  simp only [plain, Bool.and_eq_true, List.all_eq_true, Option.any_eq_true, decide_eq_true_eq,
    bne_iff_ne, Bool.not_eq_true'] at holds
  obtain ⟨⟨chars, first⟩, last⟩ := holds
  refine ⟨?_, first, last⟩
  intro char member
  obtain ⟨⟨⟨ascii, kelvin⟩, opening⟩, closing⟩ := chars char member
  exact ⟨ascii, kelvin, opening, closing⟩

theorem Plain.nonempty {pattern : Text} (plain : Plain pattern) : pattern ≠ [] := by
  rintro rfl
  obtain ⟨char, member, _⟩ := plain.first
  cases member

theorem lowerAscii_of_outside {char : Char} (outside : ¬(65 ≤ char.toNat ∧ char.toNat ≤ 90)) :
    lowerAscii char = char :=
  if_neg outside

theorem lowerAscii_of_space {char : Char} (space : isSpace char = true) :
    lowerAscii char = char := by
  apply lowerAscii_of_outside
  rintro ⟨lower, upper⟩
  simp [isSpace] at space
  omega

/-- A character that lower-cases to one of a plain pattern is one of ASCII. -/
theorem ascii_of_lowerAscii {char : Char} (ascii : (lowerAscii char).toNat < 128) :
    char.toNat < 128 := by
  by_contra beyond
  rw [lowerAscii_of_outside (by omega)] at ascii
  exact beyond ascii

section Lower

variable {unicode : Unicode} {whole : Text}

theorem lowerChar_cases (unicode : Unicode) (whole : Text) (char : Char) (index : Nat) :
    unicode.lowerChar whole char index = [lowerAscii char] ∨
      unicode.lowerChar whole char index = ['i', '\u0307'] ∨
      ∃ other, unicode.lowerChar whole char index = [other] ∧
        (other = 'k' ∨ 128 ≤ other.toNat) := by
  unfold Unicode.lowerChar
  split
  · exact Or.inl rfl
  · split
    · exact Or.inr (Or.inl rfl)
    · split
      · exact Or.inr (Or.inr ⟨'k', rfl, Or.inl rfl⟩)
      · exact Or.inr (Or.inr ⟨_, rfl, Or.inr (unicode.lowerAt whole index).2⟩)

theorem word_of_prefix {pairs : List (Char × Nat)} {pattern after : Text}
    (ascii : ∀ char ∈ pattern, char.toNat < 128 ∧ char ≠ 'k')
    (last : ∀ char ∈ pattern.getLast?, char ≠ 'i')
    (same : (pairs.flatMap fun (char, index) => unicode.lowerChar whole char index) =
      pattern ++ after) :
    ∃ inside later, pairs = inside ++ later ∧
      (inside.map fun pair => lowerAscii pair.1) = pattern := by
  induction pattern generalizing pairs with
  | nil => exact ⟨[], pairs, rfl, rfl⟩
  | cons char pattern ih =>
    cases pairs with
    | nil => cases same
    | cons pair pairs =>
      obtain ⟨read, index⟩ := pair
      rw [List.flatMap_cons] at same
      dsimp only at same
      rcases lowerChar_cases unicode whole read index with piece | piece | ⟨other, piece, strange⟩
      · rw [piece] at same
        obtain ⟨rfl, rest⟩ := List.cons.inj same
        have shorter : ∀ char ∈ pattern.getLast?, char ≠ 'i' := by
          intro char member
          exact last char (by rw [List.getLast?_cons, member]; rfl)
        obtain ⟨inside, later, rfl, word⟩ :=
          ih (fun char member => ascii char (List.mem_cons_of_mem _ member)) shorter rest
        exact ⟨(read, index) :: inside, later, rfl, by rw [List.map_cons, word]⟩
      · rw [piece] at same
        obtain ⟨rfl, rest⟩ := List.cons.inj same
        cases pattern with
        | nil => exact absurd rfl (last 'i' rfl)
        | cons next pattern =>
          obtain ⟨rfl, _⟩ := List.cons.inj rest
          have small := (ascii _ (List.mem_cons_of_mem _ List.mem_cons_self)).1
          exact absurd small (by decide)
      · rw [piece] at same
        obtain ⟨rfl, _⟩ := List.cons.inj same
        have kept := ascii other List.mem_cons_self
        rcases strange with rfl | large
        · exact absurd rfl kept.2
        · omega

theorem word_of_lowered {pairs : List (Char × Nat)} {pattern before after : Text}
    (plain : Plain pattern)
    (same : (pairs.flatMap fun (char, index) => unicode.lowerChar whole char index) =
      before ++ (pattern ++ after)) :
    ∃ earlier inside later, pairs = earlier ++ inside ++ later ∧
      (inside.map fun pair => lowerAscii pair.1) = pattern := by
  have ascii : ∀ char ∈ pattern, char.toNat < 128 ∧ char ≠ 'k' := by
    intro char member
    exact ⟨(plain.chars char member).1, (plain.chars char member).2.1⟩
  induction pairs generalizing before with
  | nil =>
    have empty := List.append_eq_nil_iff.mp (List.append_eq_nil_iff.mp same.symm).2
    exact absurd empty.1 plain.nonempty
  | cons pair pairs ih =>
    cases before with
    | nil =>
      have last : ∀ char ∈ pattern.getLast?, char ≠ 'i' := by
        obtain ⟨final, member, _, different⟩ := plain.last
        intro char found
        rw [Option.mem_unique found member]
        exact different
      obtain ⟨inside, later, split, word⟩ := word_of_prefix ascii last same
      exact ⟨[], inside, later, split, word⟩
    | cons first before =>
      obtain ⟨read, index⟩ := pair
      rw [List.flatMap_cons] at same
      dsimp only at same
      have single (char : Char) (piece : unicode.lowerChar whole read index = [char]) :
          ∃ earlier inside later, (read, index) :: pairs = earlier ++ inside ++ later ∧
            (inside.map fun pair => lowerAscii pair.1) = pattern := by
        rw [piece] at same
        obtain ⟨earlier, inside, later, rfl, word⟩ := ih (List.cons.inj same).2
        exact ⟨(read, index) :: earlier, inside, later, rfl, word⟩
      rcases lowerChar_cases unicode whole read index with piece | piece | ⟨other, piece, _⟩
      · exact single _ piece
      · rw [piece] at same
        have past := (List.cons.inj same).2
        cases before with
        | nil =>
          cases pattern with
          | nil => exact absurd rfl plain.nonempty
          | cons char pattern =>
            obtain ⟨rfl, _⟩ := List.cons.inj past
            exact absurd (ascii _ List.mem_cons_self).1 (by decide)
        | cons second before =>
          obtain ⟨earlier, inside, later, rfl, word⟩ := ih (List.cons.inj past).2
          exact ⟨(read, index) :: earlier, inside, later, rfl, word⟩
      · exact single _ piece

theorem lowered_ascii {word : Text} (ascii : ∀ char ∈ word, char.toNat < 128) (start : Nat) :
    ((word.zipIdx start).flatMap fun (char, index) => unicode.lowerChar whole char index) =
      word.map lowerAscii := by
  induction word generalizing start with
  | nil => rfl
  | cons char word ih =>
    rw [List.zipIdx_cons, List.flatMap_cons, List.map_cons,
      ih fun other member => ascii other (List.mem_cons_of_mem _ member)]
    have single : unicode.lowerChar whole char start = [lowerAscii char] :=
      if_pos (ascii char List.mem_cons_self)
    dsimp only
    rw [single]
    rfl

end Lower

theorem Plain.ascii_word {word pattern : Text} (plain : Plain pattern)
    (same : word.map lowerAscii = pattern) : ∀ char ∈ word, char.toNat < 128 := by
  intro char member
  apply ascii_of_lowerAscii
  exact (plain.chars _ (same ▸ List.mem_map_of_mem member)).1

/-- A plain pattern is found in the lower-cased text exactly if the text holds it. -/
theorem lower_holds_iff (unicode : Unicode) {pattern : Text} (plain : Plain pattern)
    (text : Text) : pattern <:+: unicode.lower text ↔ Holds text pattern := by
  constructor
  · rintro ⟨before, after, same⟩
    rw [List.append_assoc] at same
    obtain ⟨earlier, inside, later, split, letters⟩ := word_of_lowered plain same.symm
    have parts : text = (earlier ++ inside ++ later).map Prod.fst := by
      rw [← split]
      exact (List.zipIdx_map_fst 0 text).symm
    refine ⟨inside.map Prod.fst, ?_, ?_⟩
    · rw [parts, List.map_append, List.map_append]
      exact List.infix_append _ _ _
    · rw [List.map_map]
      exact letters
  · rintro ⟨word, ⟨before, after, rfl⟩, same⟩
    unfold Unicode.lower
    rw [List.zipIdx_append, List.zipIdx_append, List.flatMap_append, List.flatMap_append,
      lowered_ascii (plain.ascii_word same), same]
    exact List.infix_append _ _ _

theorem infix_dropWhile {word text : Text} {drop : Char → Bool}
    (first : ∃ char ∈ word.head?, drop char = false) (found : word <:+: text) :
    word <:+: text.dropWhile drop := by
  obtain ⟨before, after, rfl⟩ := found
  have kept : (word ++ after).dropWhile drop = word ++ after := by
    obtain ⟨char, member, stays⟩ := first
    obtain ⟨rest, rfl⟩ := List.head?_eq_some_iff.mp member
    rw [List.cons_append, List.dropWhile_cons_of_neg (by simp [stays])]
  rw [List.append_assoc, List.dropWhile_append, kept]
  split
  · exact (List.prefix_append word after).isInfix
  · rw [← List.append_assoc]
    exact List.infix_append _ _ _

theorem infix_rdropWhile {word text : Text} {drop : Char → Bool}
    (last : ∃ char ∈ word.getLast?, drop char = false) (found : word <:+: text) :
    word <:+: text.rdropWhile drop := by
  have first : ∃ char ∈ word.reverse.head?, drop char = false := by
    rw [List.head?_reverse]
    exact last
  have back := infix_dropWhile first (List.reverse_infix.mpr found)
  rw [List.rdropWhile, ← List.reverse_infix, List.reverse_reverse]
  exact back

theorem strip_within (text : Text) : strip text <:+: text :=
  (List.rdropWhile_prefix _ _).isInfix.trans (List.dropWhile_suffix _).isInfix

/-- Stripping leaves a plain pattern where it is. -/
theorem strip_holds_iff {pattern : Text} (plain : Plain pattern) (text : Text) :
    Holds (strip text) pattern ↔ Holds text pattern := by
  constructor
  · rintro ⟨word, found, same⟩
    exact ⟨word, found.trans (strip_within text), same⟩
  · rintro ⟨word, found, rfl⟩
    obtain ⟨_, ⟨first, head, started⟩, last, final, ended, _⟩ := plain
    have unspaced {char : Char} (visible : isSpace (lowerAscii char) = false) :
        isSpace char = false := by
      rw [Bool.eq_false_iff]
      intro space
      rw [lowerAscii_of_space space, space] at visible
      cases visible
    rw [List.head?_map, Option.mem_def, Option.map_eq_some_iff] at head
    rw [List.getLast?_map, Option.mem_def, Option.map_eq_some_iff] at final
    obtain ⟨char, member, rfl⟩ := head
    obtain ⟨other, ends_, rfl⟩ := final
    refine ⟨word, ?_, rfl⟩
    apply infix_rdropWhile ⟨other, ends_, unspaced ended⟩
    exact infix_dropWhile ⟨char, member, unspaced started⟩ found

theorem truncate_eq (text : Text) : truncate text = text.take maxMessageLength := by
  unfold truncate
  split
  · rfl
  · rename_i short
    exact (List.take_of_length_le (Nat.le_of_not_lt short)).symm

/-- What of a text is left to find once the role markers are neutralised and the text is cut. -/
theorem neutralized_holds_iff {pattern : Text} (plain : Plain pattern) (text : Text) :
    Holds (truncate (neutralizeInjectionWrappers text)) pattern ↔ Shown text pattern := by
  have free {word : Text} (same : word.map lowerAscii = pattern) :
      ∀ char ∈ word, char ≠ '[' ∧ char ≠ ']' := by
    intro char member
    have kept := plain.chars _ (same ▸ List.mem_map_of_mem member)
    constructor
    · rintro rfl
      exact kept.2.2.1 (lowerAscii_of_outside (by decide))
    · rintro rfl
      exact kept.2.2.2 (lowerAscii_of_outside (by decide))
  have nonempty {word : Text} (same : word.map lowerAscii = pattern) : word ≠ [] := by
    rintro rfl
    exact plain.nonempty same.symm
  rw [truncate_eq]
  constructor
  · rintro ⟨word, found, same⟩
    obtain ⟨earlier, inside, later, split, rfl, joined, fits⟩ :=
      (Text.infix_take_wrapped_iff (free same) (nonempty same)).mp found
    rw [List.map_map] at same
    exact ⟨earlier, inside, later, split, same, joined, fits⟩
  · rintro ⟨earlier, inside, later, split, letters, joined, fits⟩
    have same : (inside.map Mark.value).map lowerAscii = pattern := by
      rw [List.map_map]
      exact letters
    refine ⟨inside.map Mark.value, ?_, same⟩
    exact (Text.infix_take_wrapped_iff (free same) (nonempty same)).mpr
      ⟨earlier, inside, later, split, rfl, joined, fits⟩

theorem Shown.holds {text pattern : Text} (shown : Shown text pattern) : Holds text pattern := by
  obtain ⟨earlier, inside, later, split, letters, _, _⟩ := shown
  refine ⟨inside.map Mark.value, ?_, by rw [List.map_map]; exact letters⟩
  rw [← Text.marks_values injectionWrappers 0 text, split, List.map_append, List.map_append]
  exact List.infix_append _ _ _

theorem sanitize_holds_iff (unicode : Unicode) {pattern : Text} (plain : Plain pattern)
    (rawMessage : Text) : Holds (sanitize unicode rawMessage) pattern ↔
      Shown (stripInvisibleChars (unicode.nfkc rawMessage)) pattern := by
  unfold sanitize
  rw [strip_holds_iff plain, neutralized_holds_iff plain]

/-- The intent check lets a message pass unless it holds one of the patterns. -/
theorem checkIntent_allowed_iff (unicode : Unicode) (userMessage : Text) :
    (checkIntent unicode userMessage).allowed = true ↔
      ∀ pattern ∈ suspiciousPatterns, ¬ Holds userMessage pattern.toList := by
  have found : (suspiciousPatterns.any fun pattern =>
        contains pattern (unicode.lower userMessage)) = true ↔
      ∃ pattern ∈ suspiciousPatterns, Holds userMessage pattern.toList := by
    rw [List.any_eq_true]
    apply exists_congr
    intro pattern
    apply and_congr_right
    intro member
    rw [contains, decide_eq_true_eq]
    exact lower_holds_iff unicode (plain_of (suspiciousPatterns_plain pattern member)) userMessage
  unfold checkIntent
  dsimp only
  split
  · rename_i some_found
    obtain ⟨pattern, member, holds⟩ := found.mp some_found
    constructor
    · intro allowed
      cases allowed
    · intro none_held
      exact absurd holds (none_held pattern member)
  · rename_i none_found
    have allowed : ∀ pattern ∈ suspiciousPatterns, ¬ Holds userMessage pattern.toList := by
      intro pattern member holds
      exact none_found (found.mpr ⟨pattern, member, holds⟩)
    refine iff_of_true ?_ allowed
    split
    · rfl
    · split
      · rfl
      · rfl

end BigX.Guardrail
