import BigX.Text.Replace

set_option autoImplicit false

/- Replacing a name where it stands between two given texts. -/
namespace BigX.Text

variable {α : Type}

/-- The text of the tokens, `none` written as the image where `renamed` says so of what stands
before and behind it, and as the name elsewhere. -/
def spell (name image : List α) (renamed : List (Option α) → List (Option α) → Bool) :
    List (Option α) → List (Option α) → List α
  | _, [] => []
  | before, some char :: rest => char :: spell name image renamed (before ++ [some char]) rest
  | before, none :: rest =>
    (if renamed before rest then image else name) ++
      spell name image renamed (before ++ [none]) rest

variable {name image : List α} {renamed other : List (Option α) → List (Option α) → Bool}

theorem spell_append (before first second : List (Option α)) :
    spell name image renamed before (first ++ second) =
      spell name image (fun earlier later => renamed earlier (later ++ second)) before first ++
        spell name image renamed (before ++ first) second := by
  induction first generalizing before with
  | nil =>
    rw [List.append_nil]
    rfl
  | cons token rest ih =>
    have continued := ih (before ++ [token])
    rw [List.append_assoc, List.singleton_append] at continued
    cases token with
    | some char => exact congrArg (char :: ·) continued
    | none =>
      rw [List.cons_append, spell, spell, continued, List.append_assoc]

theorem spell_congr {before before' text : List (Option α)}
    (same : ∀ earlier later, text = earlier ++ none :: later →
      renamed (before ++ earlier) later = other (before' ++ earlier) later) :
    spell name image renamed before text = spell name image other before' text := by
  induction text generalizing before before' with
  | nil => rfl
  | cons token rest ih =>
    have continued : spell name image renamed (before ++ [token]) rest =
        spell name image other (before' ++ [token]) rest := by
      apply ih
      intro earlier later whole
      have equal := same (token :: earlier) later (by rw [whole, List.cons_append])
      simpa using equal
    cases token with
    | some char => exact congrArg (char :: ·) continued
    | none =>
      have equal := same [] rest rfl
      rw [List.append_nil, List.append_nil] at equal
      rw [spell, spell, equal, continued]

@[simp] theorem spell_map_some (before : List (Option α)) (part : List α) :
    spell name image renamed before (part.map some) = part := by
  induction part generalizing before with
  | nil => rfl
  | cons char part ih => exact congrArg (char :: ·) (ih (before ++ [some char]))

/-- The image and the name are told apart by their first characters. -/
def Distinct (name image : List α) : Prop :=
  ∃ first rest first' rest', name = first :: rest ∧ image = first' :: rest' ∧ first ≠ first'

/-- Two ways of renaming that spell the same text rename at the same places. -/
theorem spell_agree (distinct : Distinct name image) {before before' text : List (Option α)}
    {behind behind' : List α}
    (equal : spell name image renamed before text ++ behind =
      spell name image other before' text ++ behind') :
    (∀ earlier later, text = earlier ++ none :: later →
      renamed (before ++ earlier) later = other (before' ++ earlier) later) ∧
        behind = behind' := by
  obtain ⟨first, rest, first', rest', nameEq, imageEq, differ⟩ := distinct
  induction text generalizing before before' with
  | nil =>
    constructor
    · intro earlier later whole
      cases earlier <;> cases whole
    · exact equal
  | cons token text ih =>
    have continue_with : spell name image renamed (before ++ [token]) text ++ behind =
        spell name image other (before' ++ [token]) text ++ behind' ∧
          (token = none → renamed before text = other before' text) := by
      cases token with
      | some char =>
        refine ⟨(List.cons.inj equal).2, ?_⟩
        intro absurdity
        cases absurdity
      | none =>
        rw [spell, spell, List.append_assoc, List.append_assoc] at equal
        cases here : renamed before text <;> cases there : other before' text
        · rw [here, there] at equal
          exact ⟨List.append_cancel_left equal, fun _ => rfl⟩
        · rw [here, there, nameEq, imageEq] at equal
          exact absurd (List.cons.inj equal).1 differ
        · rw [here, there, nameEq, imageEq] at equal
          exact absurd (List.cons.inj equal).1.symm differ
        · rw [here, there] at equal
          exact ⟨List.append_cancel_left equal, fun _ => rfl⟩
    obtain ⟨places, ends⟩ := ih continue_with.1
    refine ⟨?_, ends⟩
    intro earlier later whole
    cases earlier with
    | nil =>
      obtain ⟨rfl, rfl⟩ := List.cons.inj whole
      rw [List.append_nil, List.append_nil]
      exact continue_with.2 rfl
    | cons token' earlier =>
      obtain ⟨rfl, same⟩ := List.cons.inj whole
      simpa using places earlier later same

/-- No character sequence of the text, read from any of its places on, can be taken for one of
the two words or for the beginning of one. -/
def Plain (name image text : List α) : Prop :=
  ∀ part, part <:+ text → part ≠ [] → ∀ word, word = name ∨ word = image →
    ¬ part <+: word ∧ ¬ word <+: part

instance [DecidableEq α] (name image text : List α) : Decidable (Plain name image text) :=
  decidable_of_iff
    (∀ part ∈ text.tails, part ≠ [] → ∀ word ∈ [name, image], ¬ part <+: word ∧ ¬ word <+: part)
    (by simp [Plain])

theorem Plain.of_suffix {text part : List α} (plain : Plain name image text)
    (suffix : part <:+ text) : Plain name image part :=
  fun shorter ends => plain shorter (ends.trans suffix)

/-- What is plain is spelled by characters only. -/
theorem Plain.prefix_spell_iff {part : List α} (plain : Plain name image part)
    {before text : List (Option α)} :
    part <+: spell name image renamed before text ↔ part.map some <+: text := by
  constructor
  · intro begins
    induction part generalizing before text with
    | nil => exact List.nil_prefix
    | cons char part ih =>
      cases text with
      | nil =>
        rw [spell] at begins
        exact absurd (List.prefix_nil.mp begins) (List.cons_ne_nil _ _)
      | cons token text =>
        cases token with
        | some other =>
          obtain ⟨same, continued⟩ := List.cons_prefix_cons.mp begins
          have longer := ih (plain.of_suffix (List.suffix_cons char part)) continued
          rw [same]
          exact List.cons_prefix_cons.mpr ⟨rfl, longer⟩
        | none =>
          rw [spell] at begins
          have differ := plain (char :: part) (List.suffix_refl _) (List.cons_ne_nil _ _)
            (if renamed before text then image else name) (by split <;> simp)
          have either := List.prefix_or_prefix_of_prefix begins (List.prefix_append _ _)
          exact absurd either (not_or.mpr differ)
  · rintro ⟨later, rfl⟩
    rw [spell_append, spell_map_some]
    exact List.prefix_append _ _

/-- The name is spelled nowhere by characters: each of its occurrences is a token. -/
def Tokenized (name : List α) (text : List (Option α)) : Prop := ¬ name.map some <:+: text

/-- A name and an image that a text can be searched for. -/
structure Words (name image : List α) : Prop where
  distinct : Distinct name image
  tail_plain : Plain name image name.tail

/-- The name between an opening and a closing text, which an occurrence cannot overlap. -/
structure Passage (name image opening closing : List α) : Prop where
  opening_plain : Plain name image opening
  closing_plain : Plain name image closing
  head : ∃ head tail, opening ++ (name ++ closing) = head :: tail ∧ head ∉ tail ∧
    head ∉ name.tail ∧ head ∉ image

theorem Words.nonempty (words : Words name image) : name ≠ [] := by
  obtain ⟨first, rest, _, _, nameEq, _⟩ := words.distinct
  rw [nameEq]
  exact List.cons_ne_nil first rest

/-- The tokens of a passage with more behind it. -/
def passage (opening closing : List α) (later : List (Option α)) : List (Option α) :=
  opening.map some ++ none :: (closing.map some ++ later)

/-- A first character that comes once, read off the text. -/
theorem head_once {word : List α} {head : α} (begins : word.head? = some head)
    (once : head ∉ word.tail) : ∃ tail, word = head :: tail ∧ head ∉ tail := by
  cases word with
  | nil => cases begins
  | cons first tail =>
    obtain rfl := Option.some.inj begins
    exact ⟨tail, rfl, once⟩

theorem Tokenized.of_suffix {text part : List (Option α)} (tokenized : Tokenized name text)
    (suffix : part <:+ text) : Tokenized name part :=
  fun inside => tokenized (inside.trans suffix.isInfix)

section Search

variable {opening closing : List α} {before text : List (Option α)}

theorem spell_passage (before later : List (Option α)) :
    spell name image renamed before (passage opening closing later) =
      opening ++ ((if renamed (before ++ opening.map some) (closing.map some ++ later)
          then image else name) ++ closing) ++
        spell name image renamed (before ++ passage opening closing []) later := by
  unfold passage
  rw [spell_append, spell_map_some, spell, spell_append, spell_map_some]
  simp

theorem Words.prefix_spell (words : Words name image) (plain : Plain name image closing)
    (tokenized : Tokenized name text)
    (begins : name ++ closing <+: spell name image renamed before text) :
    ∃ later, text = none :: (closing.map some ++ later) ∧
      renamed before (closing.map some ++ later) = false := by
  obtain ⟨first, rest, first', rest', nameEq, imageEq, differ⟩ := words.distinct
  have tail_plain := words.tail_plain
  rw [nameEq, List.tail_cons, ← nameEq] at tail_plain
  cases text with
  | nil =>
    rw [spell, nameEq] at begins
    exact absurd (List.prefix_nil.mp begins) (List.cons_ne_nil _ _)
  | cons token text =>
    cases token with
    | some char =>
      rw [spell, nameEq] at begins
      obtain ⟨same, continued⟩ := List.cons_prefix_cons.mp begins
      rw [← nameEq] at continued
      have spelled := tail_plain.prefix_spell_iff.mp ((List.prefix_append _ _).trans continued)
      have inside : name.map some <+: some char :: text := by
        rw [nameEq, ← same]
        exact List.cons_prefix_cons.mpr ⟨rfl, spelled⟩
      exact absurd inside.isInfix tokenized
    | none =>
      cases here : renamed before text with
      | true =>
        rw [spell, here, if_pos rfl, imageEq, nameEq] at begins
        exact absurd (List.cons_prefix_cons.mp begins).1 differ
      | false =>
        rw [spell, here, if_neg Bool.false_ne_true, List.prefix_append_right_inj] at begins
        obtain ⟨later, same⟩ := plain.prefix_spell_iff.mp begins
        rw [← same] at here ⊢
        exact ⟨later, rfl, here⟩

/-- Where the passage is found in the spelled text, the tokens are its own. -/
theorem Words.passage_prefix (words : Words name image)
    (passages : Passage name image opening closing) (tokenized : Tokenized name text)
    (begins : opening ++ (name ++ closing) <+: spell name image renamed before text) :
    ∃ later, text = passage opening closing later ∧
      renamed (before ++ opening.map some) (closing.map some ++ later) = false := by
  have opened := (List.prefix_append opening (name ++ closing)).trans begins
  obtain ⟨behind, same⟩ := passages.opening_plain.prefix_spell_iff.mp opened
  rw [← same] at begins tokenized
  rw [spell_append, spell_map_some, List.prefix_append_right_inj] at begins
  obtain ⟨later, rfl, place⟩ := words.prefix_spell passages.closing_plain
    (tokenized.of_suffix (List.suffix_append _ _)) begins
  exact ⟨later, same.symm, place⟩

/-- Every passage that begins before the text and ends in it has its name renamed already. -/
def Settled (renamed : List (Option α) → List (Option α) → Bool) (opening closing : List α)
    (before text : List (Option α)) : Prop :=
  ∀ earlier part later, before = earlier ++ part → part ≠ [] →
    part.length < opening.length + 1 + closing.length →
    part ++ text = passage opening closing later →
      renamed (earlier ++ opening.map some) (closing.map some ++ later) = true

theorem Settled.nil : Settled renamed opening closing [] text := by
  intro earlier part later whole nonempty
  exact absurd (List.append_eq_nil_iff.mp whole.symm).2 nonempty

/-- A token is passed where no passage is left to be renamed. -/
theorem Settled.step {token : Option α}
    (settled : Settled renamed opening closing before (token :: text))
    (here : ∀ later, token :: text = passage opening closing later →
      renamed (before ++ opening.map some) (closing.map some ++ later) = true) :
    Settled renamed opening closing (before ++ [token]) text := by
  intro earlier part later whole nonempty shorter found
  rcases List.eq_nil_or_concat part with empty | ⟨front, last, same⟩
  · exact absurd empty nonempty
  · rw [List.concat_eq_append] at same
    subst same
    rw [← List.append_assoc, List.append_singleton_inj] at whole
    obtain ⟨rfl, rfl⟩ := whole
    rw [List.append_assoc, List.singleton_append] at found
    rw [List.length_append] at shorter
    by_cases empty : front = []
    · subst empty
      rw [List.append_nil] at here
      exact here later found
    · exact settled earlier front later rfl empty (by omega) found

/-- The name stands between the opening and the closing text. -/
def between (opening closing : List α) [DecidableEq α] (before after : List (Option α)) : Bool :=
  decide (opening.map some <:+ before) && decide (closing.map some <+: after)

theorem between_iff [DecidableEq α] {after : List (Option α)} :
    between opening closing before after = true ↔
      opening.map some <:+ before ∧ closing.map some <+: after := by
  rw [between, Bool.and_eq_true, decide_eq_true_eq, decide_eq_true_eq]

/-- A part both at the end and at the beginning of a text whose first character comes once. -/
theorem eq_of_suffix_of_prefix {head : α} {tail part : List α} (once : head ∉ tail)
    (ends : part <:+ head :: tail) (begins : part <+: head :: tail) (nonempty : part ≠ []) :
    part = head :: tail := by
  rcases List.suffix_cons_iff.mp ends with same | inside
  · exact same
  · cases part with
    | nil => exact absurd rfl nonempty
    | cons char part =>
      have same := (List.cons_prefix_cons.mp begins).1
      rw [same] at inside
      exact absurd (inside.mem List.mem_cons_self) once

theorem Passage.once (passages : Passage name image opening closing) :
    ∃ head tail, passage opening closing [] = head :: tail ∧ head ∉ tail := by
  obtain ⟨head, tail, whole, once, _⟩ := passages.head
  cases opening with
  | nil =>
    refine ⟨none, closing.map some, ?_, ?_⟩
    · rw [passage, List.append_nil, List.map_nil, List.nil_append]
    · simp
  | cons char opening =>
    rw [List.cons_append] at whole
    obtain ⟨rfl, rfl⟩ := List.cons.inj whole
    refine ⟨some char, passage opening closing [], rfl, ?_⟩
    rw [List.mem_append, List.mem_append, not_or, not_or] at once
    simp [passage, once.1, once.2.2]

theorem passage_append (opening closing : List α) (later : List (Option α)) :
    passage opening closing later = passage opening closing [] ++ later := by
  simp [passage]

theorem length_passage (opening closing : List α) :
    (passage opening closing []).length = opening.length + 1 + closing.length := by
  simp only [passage, List.length_append, List.length_cons, List.length_map, List.length_nil]
  omega

/-- Behind a passage no other one is left half read. -/
theorem Settled.passage (passages : Passage name image opening closing)
    (before later : List (Option α)) :
    Settled renamed opening closing (before ++ passage opening closing []) later := by
  intro earlier part later' whole nonempty shorter found
  obtain ⟨head, tail, split, once⟩ := passages.once
  have length := length_passage opening closing
  have ends : part <:+ Text.passage opening closing [] := by
    apply List.suffix_of_suffix_length_le ⟨earlier, whole.symm⟩ (List.suffix_append _ _)
    omega
  have begins : part <+: Text.passage opening closing [] := by
    rw [passage_append] at found
    apply List.prefix_of_prefix_length_le ⟨later, found⟩ (List.prefix_append _ _)
    omega
  rw [split] at ends begins length
  have equal := eq_of_suffix_of_prefix once ends begins nonempty
  rw [← equal] at length
  omega

/-- A name that is not renamed yet, where no passage is left to be renamed, stands in none. -/
theorem Settled.not_between [DecidableEq α]
    (settled : Settled renamed opening closing before (none :: text))
    (unnamed : renamed before text = false)
    (here : ∀ later, none :: text = Text.passage opening closing later →
      renamed (before ++ opening.map some) (closing.map some ++ later) = true) :
    between opening closing before text = false := by
  by_contra placed
  rw [Bool.not_eq_false] at placed
  obtain ⟨⟨earlier, rfl⟩, later, rfl⟩ := between_iff.mp placed
  by_cases empty : opening = []
  · subst empty
    have renamedHere := here later rfl
    rw [List.map_nil, List.append_nil] at unnamed
    rw [List.map_nil, List.append_nil, List.append_nil, unnamed] at renamedHere
    cases renamedHere
  · have nonempty : opening.map some ≠ [] := by simpa using empty
    have renamedHere := settled earlier (opening.map some) later rfl nonempty (by
      rw [List.length_map]
      omega) rfl
    rw [unnamed] at renamedHere
    cases renamedHere

section Replace

variable [DecidableEq α] {new behind : List α}

theorem Passage.replace_match (passages : Passage name image opening closing) :
    replace (opening ++ (name ++ closing)) new (opening ++ (name ++ closing) ++ behind) =
      new ++ replace (opening ++ (name ++ closing)) new behind := by
  obtain ⟨head, tail, whole, _⟩ := passages.head
  rw [whole]
  exact substitute_match behind

theorem Passage.replace_image (passages : Passage name image opening closing) :
    replace (opening ++ (name ++ closing)) new (image ++ behind) =
      image ++ replace (opening ++ (name ++ closing)) new behind := by
  obtain ⟨head, tail, whole, _, _, absent⟩ := passages.head
  rw [whole]
  calc replace (head :: tail) new (image ++ behind)
    _ = image.map id ++ replace (head :: tail) new behind :=
      substitute_append_of_notMem absent behind
    _ = image ++ replace (head :: tail) new behind := by rw [List.map_id]

/-- A name that begins no passage is passed: none begins inside it. -/
theorem Passage.replace_name (passages : Passage name image opening closing)
    (nonempty : name ≠ []) (unmatched : ¬ opening ++ (name ++ closing) <+: name ++ behind) :
    replace (opening ++ (name ++ closing)) new (name ++ behind) =
      name ++ replace (opening ++ (name ++ closing)) new behind := by
  obtain ⟨head, tail, whole, _, absent, _⟩ := passages.head
  rw [whole] at unmatched ⊢
  cases name with
  | nil => exact absurd rfl nonempty
  | cons first rest =>
    calc replace (head :: tail) new (first :: rest ++ behind)
      _ = first :: replace (head :: tail) new (rest ++ behind) := substitute_unmatched unmatched
      _ = first :: (rest.map id ++ replace (head :: tail) new behind) :=
        congrArg (first :: ·) (substitute_append_of_notMem absent behind)
      _ = first :: rest ++ replace (head :: tail) new behind := by
        rw [List.map_id, List.cons_append]

theorem Passage.replace_word (passages : Passage name image opening closing)
    (nonempty : name ≠ []) {named : Bool}
    (unmatched : ¬ opening ++ (name ++ closing) <+: (if named then image else name) ++ behind) :
    replace (opening ++ (name ++ closing)) new ((if named then image else name) ++ behind) =
      (if named then image else name) ++
        replace (opening ++ (name ++ closing)) new behind := by
  cases named with
  | true => exact passages.replace_image
  | false => exact passages.replace_name nonempty unmatched

/-- Replacing a passage renames its name in every place where the passage stands. -/
theorem replace_spell_from (words : Words name image)
    (passages : Passage name image opening closing) (tokenized : Tokenized name text)
    (settled : Settled renamed opening closing before text) :
    replace (opening ++ (name ++ closing)) (opening ++ (image ++ closing))
        (spell name image renamed before text) =
      spell name image (fun earlier later => renamed earlier later ||
        between opening closing earlier later) before text := by
  induction size : text.length using Nat.strongRecOn generalizing before text with
  | ind size ih =>
    subst size
    by_cases matched : opening ++ (name ++ closing) <+: spell name image renamed before text
    · obtain ⟨later, rfl, place⟩ := words.passage_prefix passages tokenized matched
      have here : between opening closing (before ++ opening.map some)
          (closing.map some ++ later) = true :=
        between_iff.mpr ⟨List.suffix_append _ _, List.prefix_append _ _⟩
      have shorter : later.length < (passage opening closing later).length := by
        rw [passage_append, List.length_append, length_passage]
        omega
      have suffix : later <:+ passage opening closing later := by
        rw [passage_append]
        exact List.suffix_append _ _
      have continued := ih later.length shorter (tokenized.of_suffix suffix)
        (Settled.passage passages before later) rfl
      rw [spell_passage, spell_passage, place, here, Bool.or_true, if_neg Bool.false_ne_true,
        if_pos rfl, passages.replace_match, continued]
    · have next : ∀ later, text = passage opening closing later →
          renamed (before ++ opening.map some) (closing.map some ++ later) = true := by
        rintro later rfl
        by_contra place
        rw [Bool.not_eq_true] at place
        rw [spell_passage, place, if_neg Bool.false_ne_true] at matched
        exact matched (List.prefix_append _ _)
      cases text with
      | nil => rfl
      | cons token text =>
        have continued := ih text.length (Nat.lt_succ_self _)
          (tokenized.of_suffix (List.suffix_cons token text)) (settled.step next) rfl
        cases token with
        | some char =>
          rw [spell] at matched
          rw [spell, spell, ← continued]
          exact substitute_unmatched matched
        | none =>
          have same : (renamed before text || between opening closing before text) =
              renamed before text := by
            cases here : renamed before text with
            | true => rfl
            | false => rw [Bool.false_or, settled.not_between here next]
          rw [spell] at matched
          rw [spell, spell, same, passages.replace_word words.nonempty matched, continued]

/-- Replacing a passage in a whole text. -/
theorem replace_spell (words : Words name image)
    (passages : Passage name image opening closing) (tokenized : Tokenized name text) :
    replace (opening ++ (name ++ closing)) (opening ++ (image ++ closing))
        (spell name image renamed [] text) =
      spell name image (fun earlier later => renamed earlier later ||
        between opening closing earlier later) [] text :=
  replace_spell_from words passages tokenized Settled.nil

end Replace

end Search

section Tokens

variable [DecidableEq α] {head : α} {tail : List α}

/-- The tokens of a text, the name renamed nowhere, spell the text. -/
theorem spell_tokens (image : List α) (before : List (Option α)) (text : List α) :
    spell (head :: tail) image (fun _ _ => false) before (tokens (head :: tail) text) = text := by
  induction text using reading head tail generalizing before with
  | nil => rfl
  | name rest ih =>
    rw [tokens_name, spell, if_neg Bool.false_ne_true, ih]
  | char char rest matched ih =>
    rw [tokens_char matched, spell, ih]

theorem tokens_tokenized (text : List α) :
    Tokenized (head :: tail) (tokens (head :: tail) text) := by
  induction text using reading head tail with
  | nil =>
    intro inside
    exact absurd (List.infix_nil.mp inside) (List.cons_ne_nil _ _)
  | name rest ih =>
    rw [tokens_name]
    intro inside
    rcases List.infix_cons_iff.mp inside with begins | inside
    · cases (List.cons_prefix_cons.mp begins).1
    · exact ih inside
  | char char rest matched ih =>
    intro inside
    rw [tokens_char matched] at inside
    rcases List.infix_cons_iff.mp inside with begins | inside
    · obtain ⟨later, whole⟩ := begins
      have spelled : spell (head :: tail) [] (fun _ _ => false) []
          (tokens (head :: tail) (char :: rest)) = char :: rest := spell_tokens [] [] _
      rw [tokens_char matched, ← whole, spell_append, spell_map_some] at spelled
      exact matched ⟨_, spelled⟩
    · exact ih inside

/-- Each name among the tokens is an occurrence in the text. -/
theorem tokens_split {text : List α} {earlier later : List (Option α)}
    (whole : tokens (head :: tail) text = earlier ++ none :: later) :
    ∃ front back, text = front ++ (head :: tail ++ back) ∧
      earlier = tokens (head :: tail) front ∧ later = tokens (head :: tail) back := by
  induction text using reading head tail generalizing earlier with
  | nil =>
    have length := congrArg List.length whole
    simp [tokens, substitute] at length
  | name rest ih =>
    rw [tokens_name] at whole
    cases earlier with
    | nil =>
      obtain ⟨_, same⟩ := List.cons.inj whole
      exact ⟨[], rest, rfl, rfl, same.symm⟩
    | cons token earlier =>
      obtain ⟨rfl, same⟩ := List.cons.inj whole
      obtain ⟨front, back, rfl, rfl, rfl⟩ := ih same
      refine ⟨head :: tail ++ front, back, ?_, (tokens_name front).symm, rfl⟩
      rw [List.append_assoc]
  | char char rest matched ih =>
    rw [tokens_char matched] at whole
    cases earlier with
    | nil => cases (List.cons.inj whole).1
    | cons token earlier =>
      obtain ⟨rfl, same⟩ := List.cons.inj whole
      obtain ⟨front, back, rfl, rfl, rfl⟩ := ih same
      have unmatched : ¬ head :: tail <+: char :: front := by
        intro shorter
        rw [← List.cons_append] at matched
        exact matched (shorter.trans (List.prefix_append _ _))
      exact ⟨char :: front, back, rfl, (tokens_char unmatched).symm, rfl⟩

/-- Each occurrence in the text is a name among the tokens. -/
theorem tokens_occurrence (once : head ∉ tail) (front back : List α) :
    tokens (head :: tail) (front ++ (head :: tail ++ back)) =
      tokens (head :: tail) front ++ none :: tokens (head :: tail) back := by
  have apart : Apart (head :: tail) front (head :: tail ++ back) := Apart.of_notMem_right once
  rw [tokens_append apart, tokens_name]

/-- What the text begins with is seen from its tokens. -/
theorem tokens_prefix_iff {closing text : List α} (absent : head ∉ closing) :
    closing.map some <+: tokens (head :: tail) text ↔ closing <+: text := by
  constructor
  · rintro ⟨later, whole⟩
    have spelled : spell (head :: tail) [] (fun _ _ => false) []
        (tokens (head :: tail) text) = text := spell_tokens [] [] text
    rw [← whole, spell_append, spell_map_some] at spelled
    exact ⟨_, spelled⟩
  · rintro ⟨back, rfl⟩
    have split : tokens (head :: tail) (closing ++ back) =
        closing.map some ++ tokens (head :: tail) back := substitute_append_of_notMem absent back
    rw [split]
    exact List.prefix_append _ _

/-- What the text ends with is seen from its tokens. -/
theorem tokens_suffix_iff {opening text : List α}
    (characters : tokens (head :: tail) opening = opening.map some)
    (absent : opening = [] ∨ ∃ char rest, opening = char :: rest ∧ char ∉ tail) :
    opening.map some <:+ tokens (head :: tail) text ↔ opening <:+ text := by
  constructor
  · rintro ⟨earlier, whole⟩
    have spelled : spell (head :: tail) [] (fun _ _ => false) []
        (tokens (head :: tail) text) = text := spell_tokens [] [] text
    rw [← whole, spell_append, spell_map_some] at spelled
    exact ⟨_, spelled⟩
  · rintro ⟨front, rfl⟩
    rcases absent with rfl | ⟨char, rest, rfl, absent⟩
    · exact List.nil_suffix
    · rw [tokens_append (Apart.of_notMem_right absent), characters]
      exact List.suffix_append _ _

/-- Whether a name stands between two texts is seen from the tokens around it. -/
theorem between_tokens_iff {opening closing : List α}
    (characters : tokens (head :: tail) opening = opening.map some)
    (absent : opening = [] ∨ ∃ char rest, opening = char :: rest ∧ char ∉ tail)
    (absent' : head ∉ closing)
    {before after : List α} :
    between opening closing (tokens (head :: tail) before) (tokens (head :: tail) after) = true ↔
      opening <:+ before ∧ closing <+: after := by
  rw [between_iff]
  exact and_congr (tokens_suffix_iff characters absent) (tokens_prefix_iff absent')

end Tokens

end BigX.Text
