import BigX.Guardrail.Markers

set_option autoImplicit false

/- When the sanitiser's result is one that it leaves as it is: no marker of the message is kept
whole, and nothing composes where an invisible character was taken out. -/
namespace BigX.Guardrail

open Text (Unmatched splitFirst cutFirst)

variable {text : Text}

/-- No match inside the text is kept, and nothing of the first one that is kept, with the bracket
before it, holds a match. -/
def Unmarked (text : Text) : Prop :=
  ∀ size, injectionWrappers (splitFirst injectionWrappers text).2 = some size →
    maxMessageLength < (splitFirst injectionWrappers text).1.length + 1 + size ∧
      Unmatched injectionWrappers ((splitFirst injectionWrappers text).2.take
        (maxMessageLength - 1 - (splitFirst injectionWrappers text).1.length))

/-- No match begins with a bracket that was put before another one. -/
theorem unmatched_of_bracket {rest part : Text} {size : Nat}
    (matched : injectionWrappers rest = some size) (taken : part <+: rest) :
    injectionWrappers ('[' :: part) = none := by
  cases found : injectionWrappers ('[' :: part) with
  | none => rfl
  | some other =>
    exfalso
    have head := injectionWrappers_begins.head found
    have behind := injectionWrappers_begins.head matched
    cases part with
    | nil => exact absurd head (by decide)
    | cons char part =>
      obtain ⟨later, rfl⟩ := taken
      have second : ['[', ignoreCase char] ∈ wrapperHeads := head
      have letter : ignoreCase char = 'i' ∨ ignoreCase char = '/' := by
        simpa [wrapperHeads] using second
      rw [List.cons_append, List.take_succ_cons, List.map_cons] at behind
      rcases letter with same | same
      · rw [same] at behind
        simp [wrapperHeads] at behind
      · rw [same] at behind
        simp [wrapperHeads] at behind

theorem suffix_append_cases {part before after : Text} (suffix : part <:+ before ++ after) :
    part <:+ after ∨ ∃ last, last ≠ [] ∧ last <:+ before ∧ part = last ++ after := by
  induction before with
  | nil => exact Or.inl suffix
  | cons char before ih =>
    rcases List.suffix_cons_iff.mp suffix with same | shorter
    · exact Or.inr ⟨char :: before, List.cons_ne_nil char before, List.suffix_refl _, same⟩
    · rcases ih shorter with inside | ⟨last, nonempty, ends, same⟩
      · exact Or.inl inside
      · exact Or.inr ⟨last, nonempty, ends.trans (List.suffix_cons char before), same⟩

theorem unmatched_before (text : Text) :
    Unmatched injectionWrappers (splitFirst injectionWrappers text).1 := by
  intro part suffix
  by_cases empty : part = []
  · rw [empty, injectionWrappers_local.nil]
  · cases found : injectionWrappers part with
    | none => rfl
    | some size =>
      have matched := injectionWrappers_local.append found (splitFirst injectionWrappers text).2
      rw [Text.splitFirst_before suffix empty] at matched
      cases matched

/-- A text that is cut inside its first match holds a match only in what is kept of that one. -/
theorem unmatched_bracketed_iff {size : Nat} {part : Text}
    (matched : injectionWrappers (splitFirst injectionWrappers text).2 = some size)
    (taken : part <+: (splitFirst injectionWrappers text).2) :
    Unmatched injectionWrappers ((splitFirst injectionWrappers text).1 ++ '[' :: part) ↔
      Unmatched injectionWrappers part := by
  constructor
  · intro unmatched
    apply unmatched.suffix
    exact (List.suffix_cons '[' part).trans (List.suffix_append _ _)
  · intro unmatched piece suffix
    rcases suffix_append_cases suffix with behind | ⟨last, nonempty, ends, rfl⟩
    · rcases List.suffix_cons_iff.mp behind with rfl | inside
      · exact unmatched_of_bracket matched taken
      · exact unmatched piece inside
    · apply unmatched_bracket nonempty
      -- with all of the match behind it, there is no match before it
      cases found : injectionWrappers (last ++ part) with
      | none => rfl
      | some other =>
        obtain ⟨later, whole⟩ := taken
        have extended := injectionWrappers_local.append found later
        rw [List.append_assoc, whole, Text.splitFirst_before ends nonempty] at extended
        cases extended

/-- What is kept of a text whose first match is cut. -/
def kept (text : Text) : Text :=
  cutFirst '[' maxMessageLength (splitFirst injectionWrappers text).1
    (splitFirst injectionWrappers text).2

theorem truncate_of_unmatched (unmatched : Unmatched injectionWrappers text) :
    truncate (neutralizeInjectionWrappers text) = text.take maxMessageLength := by
  rw [truncate_eq, neutralizeInjectionWrappers,
    injectionWrappers_local.wrapped_marks_of_unmatched '[' ']' unmatched]

theorem truncate_of_cut {size : Nat}
    (matched : injectionWrappers (splitFirst injectionWrappers text).2 = some size)
    (cut : maxMessageLength < (splitFirst injectionWrappers text).1.length + 1 + size) :
    truncate (neutralizeInjectionWrappers text) = kept text := by
  rw [truncate_eq, neutralizeInjectionWrappers]
  exact injectionWrappers_local.take_wrapped_marks '[' ']' matched cut

theorem kept_eq (text : Text) : kept text =
    if (splitFirst injectionWrappers text).1.length < maxMessageLength then
      (splitFirst injectionWrappers text).1 ++ '[' :: (splitFirst injectionWrappers text).2.take
        (maxMessageLength - 1 - (splitFirst injectionWrappers text).1.length)
    else (splitFirst injectionWrappers text).1.take maxMessageLength := by
  unfold kept cutFirst
  split
  next shorter =>
    obtain ⟨more, same⟩ : ∃ more,
        maxMessageLength - (splitFirst injectionWrappers text).1.length = more + 1 :=
      ⟨maxMessageLength - (splitFirst injectionWrappers text).1.length - 1, by omega⟩
    rw [same, List.take_succ_cons, List.take_of_length_le (Nat.le_of_lt shorter),
      show maxMessageLength - 1 - (splitFirst injectionWrappers text).1.length = more by omega]
  next => rw [List.append_nil]

/-- The cut text is without a match exactly if the text is unmarked. -/
theorem unmatched_truncate_iff :
    Unmatched injectionWrappers (truncate (neutralizeInjectionWrappers text)) ↔ Unmarked text := by
  rcases Text.splitFirst_match injectionWrappers text with empty | ⟨size, matched⟩
  · have unmatched := injectionWrappers_local.unmatched_iff.mpr empty
    apply iff_of_true
    · rw [truncate_of_unmatched unmatched]
      exact injectionWrappers_local.unmatched_infix unmatched (List.take_prefix _ _).isInfix
    · intro size matched
      rw [empty, injectionWrappers_local.nil] at matched
      cases matched
  · have unmarked : Unmarked text ↔
        maxMessageLength < (splitFirst injectionWrappers text).1.length + 1 + size ∧
          Unmatched injectionWrappers ((splitFirst injectionWrappers text).2.take
            (maxMessageLength - 1 - (splitFirst injectionWrappers text).1.length)) := by
      constructor
      · intro all
        exact all size matched
      · intro this other found
        rw [matched] at found
        rw [← Option.some.inj found]
        exact this
    rw [unmarked]
    by_cases cut : maxMessageLength < (splitFirst injectionWrappers text).1.length + 1 + size
    · rw [truncate_of_cut matched cut, kept_eq, and_iff_right cut]
      split
      next => exact unmatched_bracketed_iff matched (List.take_prefix _ _)
      next longer =>
        rw [show maxMessageLength - 1 - (splitFirst injectionWrappers text).1.length = 0 by omega,
          List.take_zero]
        apply iff_of_true
        · exact injectionWrappers_local.unmatched_infix (unmatched_before text)
            (List.take_prefix _ _).isInfix
        · intro part suffix
          rw [List.suffix_nil.mp suffix]
          exact injectionWrappers_local.nil
    · -- all of the match is kept
      apply iff_of_false
      · intro unmatched
        rw [injectionWrappers_local.unmatched_iff_infix] at unmatched
        have taken := injectionWrappers_local.take matched
        rw [unmatched _ _] at taken
        · cases taken
        · rw [truncate_eq, neutralizeInjectionWrappers, Text.wrapped_marks_first,
            injectionWrappers_local.wrapped_marks_match '[' ']' matched]
          have bounds := injectionWrappers_local.bounds matched
          have whole : (splitFirst injectionWrappers text).1 ++
              '[' :: (splitFirst injectionWrappers text).2.take size <+:
                ((splitFirst injectionWrappers text).1 ++
                  '[' :: ((splitFirst injectionWrappers text).2.take size ++
                    ']' :: Text.wrapped '[' ']' (Text.marks injectionWrappers 0
                      ((splitFirst injectionWrappers text).2.drop size)))).take
                        maxMessageLength := by
            apply List.prefix_take_iff.mpr
            constructor
            · rw [← List.cons_append, ← List.append_assoc]
              exact List.prefix_append _ _
            · rw [List.length_append, List.length_cons, List.length_take]
              omega
          have behind : (splitFirst injectionWrappers text).2.take size <:+
              (splitFirst injectionWrappers text).1 ++
                '[' :: (splitFirst injectionWrappers text).2.take size :=
            (List.suffix_cons '[' _).trans (List.suffix_append _ _)
          exact behind.isInfix.trans whole.isInfix
      · exact fun both => cut both.1

/-- What Unicode says of NFKC: it is idempotent and leaves ASCII as it is, parts of a normal text
are normal, nothing composes across an opening bracket or a blank, and no invisible character
comes from one that is visible. -/
structure Unicode.Documented (unicode : Unicode) : Prop where
  idempotent : ∀ text, unicode.nfkc (unicode.nfkc text) = unicode.nfkc text
  ascii : ∀ text, (∀ char ∈ text, char.toNat < 128) → unicode.nfkc text = text
  part : ∀ text part, unicode.nfkc text = text → part <:+: text → unicode.nfkc part = part
  apart : ∀ before char after, char = '[' ∨ isSpace char = true → unicode.nfkc [char] = [char] →
    unicode.nfkc before = before → unicode.nfkc after = after →
      unicode.nfkc (before ++ char :: after) = before ++ char :: after
  visible : ∀ text, (∀ char ∈ text, char ∉ invisibleChars) →
    ∀ char ∈ unicode.nfkc text, char ∉ invisibleChars

section Normal

variable {unicode : Unicode}

variable (unicode) in
/-- NFKC leaves the text as it is. -/
def Normal (text : Text) : Prop := unicode.nfkc text = text

variable (unicode) in
/-- NFKC leaves what is kept of the text as it is, on either side of the bracket. -/
def Stable (text : Text) : Prop :=
  Normal unicode ((splitFirst injectionWrappers text).1.take maxMessageLength) ∧
    Normal unicode ((splitFirst injectionWrappers text).2.take
      (maxMessageLength - 1 - (splitFirst injectionWrappers text).1.length))

variable (documented : unicode.Documented)
include documented

theorem normal_nil : Normal unicode [] := documented.ascii [] nofun

theorem normal_blanks_append {blanks text : Text} (blank : ∀ char ∈ blanks, isSpace char = true)
    (single : ∀ char ∈ blanks, Normal unicode [char]) (normal : Normal unicode text) :
    Normal unicode (blanks ++ text) := by
  induction blanks with
  | nil => exact normal
  | cons char blanks ih =>
    have others := ih (fun other member => blank other (List.mem_cons_of_mem char member))
      fun other member => single other (List.mem_cons_of_mem char member)
    exact documented.apart [] char (blanks ++ text) (Or.inr (blank char List.mem_cons_self))
      (single char List.mem_cons_self) (normal_nil documented) others

theorem normal_append_blanks {blanks text : Text} (blank : ∀ char ∈ blanks, isSpace char = true)
    (single : ∀ char ∈ blanks, Normal unicode [char]) (normal : Normal unicode text) :
    Normal unicode (text ++ blanks) := by
  cases blanks with
  | nil =>
    rw [List.append_nil]
    exact normal
  | cons char blanks =>
    have others : Normal unicode (blanks ++ []) :=
      normal_blanks_append documented
        (fun other member => blank other (List.mem_cons_of_mem char member))
        (fun other member => single other (List.mem_cons_of_mem char member))
        (normal_nil documented)
    rw [List.append_nil] at others
    exact documented.apart text char blanks (Or.inr (blank char List.mem_cons_self))
      (single char List.mem_cons_self) normal others

/-- Stripping neither makes a text normal nor takes that from it. -/
theorem normal_strip_iff (single : ∀ char ∈ text, Normal unicode [char]) :
    Normal unicode (strip text) ↔ Normal unicode text := by
  constructor
  · intro normal
    have whole : text = text.takeWhile isSpace ++
        (strip text ++ (text.dropWhile isSpace).rtakeWhile isSpace) := by
      rw [strip, List.rdropWhile_append_rtakeWhile, List.takeWhile_append_dropWhile]
    rw [whole]
    apply normal_blanks_append documented
    · exact fun char member => List.mem_takeWhile_imp member
    · exact fun char member => single char ((List.takeWhile_sublist isSpace).subset member)
    · apply normal_append_blanks documented _ _ normal
      · exact fun char member => List.mem_rtakeWhile_imp member
      · intro char member
        apply single
        apply (List.dropWhile_sublist isSpace).subset
        exact (List.rtakeWhile_suffix isSpace _).subset member
  · intro normal
    exact documented.part text _ normal (strip_within text)

theorem normal_bracket_iff {before after : Text} :
    Normal unicode (before ++ '[' :: after) ↔ Normal unicode before ∧ Normal unicode after := by
  constructor
  · intro normal
    constructor
    · exact documented.part _ _ normal (List.prefix_append _ _).isInfix
    · exact documented.part _ _ normal
        ((List.suffix_cons '[' after).trans (List.suffix_append _ _)).isInfix
  · rintro ⟨normal, normal'⟩
    exact documented.apart before '[' after (Or.inl rfl) (documented.ascii _ (by simp)) normal
      normal'

/-- The cut text of an unmarked one is normal exactly if the latter is stable. -/
theorem normal_truncate_iff (unmarked : Unmarked text) :
    Normal unicode (truncate (neutralizeInjectionWrappers text)) ↔ Stable unicode text := by
  unfold Stable
  rcases Text.splitFirst_match injectionWrappers text with empty | ⟨size, matched⟩
  · have unmatched := injectionWrappers_local.unmatched_iff.mpr empty
    have whole := Text.splitFirst_append injectionWrappers text
    rw [empty, List.append_nil] at whole
    rw [truncate_of_unmatched unmatched, empty, whole, List.take_nil]
    exact (and_iff_left (normal_nil documented)).symm
  · rw [truncate_of_cut matched (unmarked size matched).1, kept_eq]
    split
    next shorter =>
      rw [List.take_of_length_le (Nat.le_of_lt shorter)]
      exact normal_bracket_iff documented
    next longer =>
      rw [show maxMessageLength - 1 - (splitFirst injectionWrappers text).1.length = 0 by omega,
        List.take_zero]
      exact (and_iff_left (normal_nil documented)).symm

theorem Stable.of_normal (normal : Normal unicode text) : Stable unicode text := by
  have whole := Text.splitFirst_append injectionWrappers text
  constructor
  · apply documented.part text _ normal
    exact ((List.take_prefix _ _).trans ⟨_, whole⟩).isInfix
  · apply documented.part text _ normal
    exact (List.take_prefix _ _).isInfix.trans (List.IsSuffix.isInfix ⟨_, whole⟩)

end Normal

theorem truncate_length_le (text : Text) : (truncate text).length ≤ maxMessageLength := by
  rw [truncate_eq, List.length_take]
  exact Nat.min_le_left _ _

theorem truncate_of_short (short : text.length ≤ maxMessageLength) : truncate text = text := by
  rw [truncate_eq, List.take_of_length_le short]

theorem strip_length_le (text : Text) : (strip text).length ≤ text.length :=
  (strip_within text).length_le

theorem strip_strip (text : Text) : strip (strip text) = strip text := by
  have started : (strip text).dropWhile isSpace = strip text := by
    cases same : strip text with
    | nil => rfl
    | cons char rest =>
      obtain ⟨later, whole⟩ : strip text <+: text.dropWhile isSpace := List.rdropWhile_prefix _ _
      have first := List.head?_dropWhile_not isSpace text
      rw [← whole, same] at first
      exact List.dropWhile_cons_of_neg (by simpa using first)
  unfold strip at started ⊢
  rw [started, List.rdropWhile_idempotent]

theorem stripInvisibleChars_of_visible (visible : ∀ char ∈ text, char ∉ invisibleChars) :
    stripInvisibleChars text = text := by
  apply List.filter_eq_self.mpr
  intro char member
  rw [decide_eq_true_eq]
  exact visible char member

/-- A character of the cut text is one of the text, or a bracket. -/
theorem mem_truncate {char : Char}
    (member : char ∈ truncate (neutralizeInjectionWrappers text)) :
    char = '[' ∨ char = ']' ∨ char ∈ text := by
  rw [truncate_eq] at member
  have wrapped := Text.mem_wrapped '[' ']' (List.mem_of_mem_take member)
  rw [Text.marks_values] at wrapped
  exact wrapped

section Sanitizer

variable {unicode : Unicode} {message : Text}

/-- The message that the markers are looked for in. -/
def shown (unicode : Unicode) (message : Text) : Text :=
  stripInvisibleChars (unicode.nfkc message)

theorem sanitize_eq (unicode : Unicode) (message : Text) : sanitize unicode message =
    strip (truncate (neutralizeInjectionWrappers (shown unicode message))) := rfl

theorem sanitize_visible : ∀ char ∈ sanitize unicode message, char ∉ invisibleChars := by
  intro char member
  rw [sanitize_eq] at member
  rcases mem_truncate ((strip_within _).subset member) with rfl | rfl | inside
  · decide
  · decide
  · simpa using (List.mem_filter.mp inside).2

theorem sanitize_short : (sanitize unicode message).length ≤ maxMessageLength :=
  Nat.le_trans (strip_length_le _) (truncate_length_le _)

theorem unmatched_sanitize_iff : Unmatched injectionWrappers (sanitize unicode message) ↔
    Unmarked (shown unicode message) := by
  rw [sanitize_eq, unmatched_strip_iff, unmatched_truncate_iff]

/-- The message comes out without a marker or an invisible character, not too long, and so that
it is not changed again. -/
structure Sanitized (unicode : Unicode) (message : Text) : Prop where
  fixed : sanitize unicode (sanitize unicode message) = sanitize unicode message
  short : (sanitize unicode message).length ≤ maxMessageLength
  visible : ∀ char ∈ sanitize unicode message, char ∉ invisibleChars
  unmatched : Unmatched injectionWrappers (sanitize unicode message)

/-- A text without a marker or an invisible character is left as it is if NFKC does so. -/
theorem sanitize_of_normal (normal : Normal unicode text)
    (visible : ∀ char ∈ text, char ∉ invisibleChars) (short : text.length ≤ maxMessageLength)
    (unmatched : Unmatched injectionWrappers text) : sanitize unicode text = strip text := by
  unfold sanitize
  dsimp only
  rw [normal, stripInvisibleChars_of_visible visible, neutralizeInjectionWrappers,
    injectionWrappers_local.wrapped_marks_of_unmatched '[' ']' unmatched, truncate_of_short short]

variable (documented : unicode.Documented)
include documented

theorem normal_sanitize_iff (unmarked : Unmarked (shown unicode message)) :
    Normal unicode (sanitize unicode message) ↔ Stable unicode (shown unicode message) := by
  rw [sanitize_eq, normal_strip_iff documented, normal_truncate_iff documented unmarked]
  intro char member
  rcases mem_truncate member with rfl | rfl | inside
  · exact documented.ascii _ (by simp)
  · exact documented.ascii _ (by simp)
  · -- a character of a normal text is normal
    have within : char ∈ unicode.nfkc message := List.mem_of_mem_filter inside
    apply documented.part _ _ (documented.idempotent message)
    obtain ⟨before, after, whole⟩ := List.mem_iff_append.mp within
    exact ⟨before, after, by rw [whole, List.append_assoc]; rfl⟩

/-- A text that the sanitiser leaves as it is and that holds no marker is normal. -/
theorem normal_of_fixed (visible : ∀ char ∈ text, char ∉ invisibleChars)
    (unmatched : Unmatched injectionWrappers text) (fixed : sanitize unicode text = text) :
    Normal unicode text := by
  have same : shown unicode text = unicode.nfkc text :=
    stripInvisibleChars_of_visible (documented.visible text visible)
  have unmarked : Unmarked (shown unicode text) := by
    rw [← unmatched_sanitize_iff, fixed]
    exact unmatched
  have normal : Normal unicode (shown unicode text) := by
    rw [same]
    exact documented.idempotent text
  rw [← fixed]
  exact (normal_sanitize_iff documented unmarked).mpr (Stable.of_normal documented normal)

/-- The sanitiser keeps its promises exactly for the messages that show no marker and are stable
once the invisible characters are taken out. -/
theorem sanitized_iff (message : Text) : Sanitized unicode message ↔
    Unmarked (shown unicode message) ∧ Stable unicode (shown unicode message) := by
  constructor
  · intro sanitized
    have unmarked := unmatched_sanitize_iff.mp sanitized.unmatched
    have normal := normal_of_fixed documented sanitized.visible sanitized.unmatched sanitized.fixed
    exact ⟨unmarked, (normal_sanitize_iff documented unmarked).mp normal⟩
  · rintro ⟨unmarked, stable⟩
    have unmatched := unmatched_sanitize_iff.mpr unmarked
    have normal := (normal_sanitize_iff documented unmarked).mpr stable
    refine ⟨?_, sanitize_short, sanitize_visible, unmatched⟩
    rw [sanitize_of_normal normal sanitize_visible sanitize_short unmatched]
    rw [sanitize_eq, strip_strip]

end Sanitizer

/-- What Unicode says of texts of ASCII characters. -/
def asciiUnicode : Unicode := ⟨id, fun _ _ => ⟨'\u0101', by decide⟩⟩

theorem asciiUnicode_documented : asciiUnicode.Documented where
  idempotent := fun _ => rfl
  ascii := fun _ _ => rfl
  part := fun _ _ _ _ => rfl
  apart := fun _ _ _ _ _ _ _ => rfl
  visible := fun _ visible => visible

theorem sanitized_iff_greeting : Sanitized asciiUnicode "hello system".toList ↔
    Unmarked (shown asciiUnicode "hello system".toList) ∧
      Stable asciiUnicode (shown asciiUnicode "hello system".toList) :=
  sanitized_iff asciiUnicode_documented "hello system".toList

/-- A marker is put in brackets each time. -/
theorem marker_not_sanitized : ¬ Sanitized asciiUnicode "system: hi".toList := by
  intro sanitized
  have once : sanitize asciiUnicode "system: hi".toList = "[system:] hi".toList := by
    decide +kernel
  have twice : sanitize asciiUnicode "[system:] hi".toList ≠ "[system:] hi".toList := by
    decide +kernel
  have fixed := sanitized.fixed
  rw [once] at fixed
  exact twice fixed

end BigX.Guardrail
