import BigX.Notification.Discord
import Mathlib.Data.List.Infix
import Mathlib.Data.List.TakeWhile

set_option autoImplicit false

/- What the three rewriting passes leave of a message: what stands for a mention in the result of a
pass already stood in the text it was given, at a place where its pattern does not match. -/
namespace BigX.Notification.Discord

/-- What a pass puts in the place of a match, and what it goes on with: `next` and what follows
it keep the `@` apart from whatever comes after. -/
structure Harmless (rule : List Char → Option (List Char × List Char)) : Prop where
  replacement : ∀ {text replacement remaining : List Char},
    rule text = some (replacement, remaining) →
      ∃ next tail, replacement = '@' :: next :: tail ∧ next ∈ ['\u200b', 'u', 'r'] ∧
        '@' ∉ tail ∧ '<' ∉ tail
  suffix : ∀ {text replacement remaining : List Char},
    rule text = some (replacement, remaining) → remaining <:+ text
  shorter : ∀ {text replacement remaining : List Char},
    rule text = some (replacement, remaining) → remaining.length < text.length

/-- What may stand in no message. -/
inductive Mention (decimal : Char → Bool) : List Char → Prop
  | everyone : Mention decimal "@everyone".toList
  | here : Mention decimal "@here".toList
  | named (opening : String) (known : opening ∈ ["<@", "<@!", "<@&"]) (digits : List Char)
      (nonempty : digits ≠ []) (decimals : ∀ char ∈ digits, decimal char = true) :
      Mention decimal (opening.toList ++ (digits ++ ['>']))

/-- `\d` is that of a text: a digit among the ASCII characters, and no zero width space. -/
structure Decimals (decimal : Char → Bool) : Prop where
  ascii : ∀ char : Char, char.toNat < 128 → decimal char = char.isDigit
  space : decimal '\u200b' = false

variable {rule : List Char → Option (List Char × List Char)} {decimal : Char → Bool}
variable {fuel : Nat} {text word : List Char}

/-- Every replacement begins with `@`, so the text up to the first one is as it was. -/
theorem prefix_of_reSub (harmless : Harmless rule) (free : '@' ∉ word)
    (start : word <+: reSub rule fuel text) : word <+: text := by
  induction word generalizing fuel text with
  | nil => exact List.nil_prefix
  | cons first word ih =>
    match fuel, text with
    | 0, text => exact start
    | fuel + 1, [] => exact start
    | fuel + 1, char :: rest =>
      rw [reSub] at start
      split at start
      next replacement remaining matched =>
        have ⟨next, tail, shape, _⟩ := harmless.replacement matched
        rw [shape] at start
        have same := (List.cons_prefix_cons.mp start).1
        exact absurd List.mem_cons_self (same ▸ free)
      next =>
        have ⟨same, onward⟩ := List.cons_prefix_cons.mp start
        have further := ih (fun member => free (List.mem_cons_of_mem _ member)) onward
        exact List.cons_prefix_cons.mpr ⟨same, further⟩

/-- What follows the `@` of a mention. -/
structure Tail (word : List Char) : Prop where
  apart : ∀ next ∈ ['\u200b', 'u', 'r'], ¬ [next] <+: word
  nonempty : word ≠ []
  free : '@' ∉ word

theorem at_of_reSub (harmless : Harmless rule) (after : Tail word) (fits : text.length ≤ fuel)
    (start : '@' :: word <+: reSub rule fuel text) : '@' :: word <+: text ∧ rule text = none := by
  match fuel, text with
  | 0, text =>
    have empty := List.length_eq_zero_iff.mp (Nat.le_zero.mp fits)
    rw [empty] at start
    exact absurd (List.prefix_nil.mp start) (by simp)
  | fuel + 1, [] => exact absurd (List.prefix_nil.mp start) (by simp)
  | fuel + 1, char :: rest =>
    rw [reSub] at start
    split at start
    next replacement remaining matched =>
      obtain ⟨next, tail, rfl, known, _⟩ := harmless.replacement matched
      have onward := (List.cons_prefix_cons.mp start).2
      obtain ⟨first, others, rfl⟩ := List.exists_cons_of_ne_nil after.nonempty
      have same := (List.cons_prefix_cons.mp onward).1
      exact absurd (by simp [same]) (after.apart next known)
    next unmatched =>
      have ⟨same, onward⟩ := List.cons_prefix_cons.mp start
      have further := prefix_of_reSub harmless after.free onward
      exact ⟨List.cons_prefix_cons.mpr ⟨same, further⟩, unmatched⟩

theorem angle_of_reSub (harmless : Harmless rule) (after : Tail word) (fits : text.length ≤ fuel)
    (start : '<' :: '@' :: word <+: reSub rule fuel text) :
    '<' :: '@' :: word <+: text ∧ rule text = none := by
  match fuel, text with
  | 0, text =>
    have empty := List.length_eq_zero_iff.mp (Nat.le_zero.mp fits)
    rw [empty] at start
    exact absurd (List.prefix_nil.mp start) (by simp)
  | fuel + 1, [] => exact absurd (List.prefix_nil.mp start) (by simp)
  | fuel + 1, char :: rest =>
    rw [reSub] at start
    split at start
    next replacement remaining matched =>
      obtain ⟨next, tail, rfl, _⟩ := harmless.replacement matched
      have same := (List.cons_prefix_cons.mp start).1
      exact absurd same (by decide)
    next unmatched =>
      have ⟨same, onward⟩ := List.cons_prefix_cons.mp start
      have further := (at_of_reSub harmless after (by simpa using fits) onward).1
      exact ⟨List.cons_prefix_cons.mpr ⟨same, further⟩, unmatched⟩

theorem Decimals.not_decimal (decimals : Decimals decimal) {char : Char}
    (plain : char.toNat < 128 ∧ char.isDigit = false ∨ char = '\u200b') : decimal char = false := by
  rcases plain with ⟨ascii, plain⟩ | rfl
  · rw [decimals.ascii char ascii, plain]
  · exact decimals.space

theorem Decimals.not_mem (decimals : Decimals decimal) {digits : List Char}
    (all : ∀ char ∈ digits, decimal char = true) {char : Char}
    (plain : char.toNat < 128 ∧ char.isDigit = false) : char ∉ digits := by
  intro member
  have digit := all char member
  rw [decimals.not_decimal (.inl plain)] at digit
  exact absurd digit (by decide)

/-- A mention is an `@`, behind a `<` or not, and a tail. -/
theorem Mention.shape (decimals : Decimals decimal) (mention : Mention decimal word) :
    ∃ tail, Tail tail ∧ (word = '@' :: tail ∨ word = '<' :: '@' :: tail) := by
  cases mention with
  | everyone => exact ⟨"everyone".toList, ⟨by simp, by decide, by decide⟩, .inl rfl⟩
  | here => exact ⟨"here".toList, ⟨by simp, by decide, by decide⟩, .inl rfl⟩
  | named opening known digits nonempty all =>
    have plain : '@' ∉ digits ++ ['>'] := by
      intro member
      rcases List.mem_append.mp member with digit | closing
      · exact decimals.not_mem all (by decide) digit
      · exact absurd closing (by decide)
    have apart : ∀ next ∈ ['\u200b', 'u', 'r'], ¬ [next] <+: digits ++ ['>'] := by
      obtain ⟨digit, others, rfl⟩ := List.exists_cons_of_ne_nil nonempty
      intro next listed start
      have same := (List.cons_prefix_cons.mp start).1
      have undecimal : ∀ next ∈ ['\u200b', 'u', 'r'],
          next.toNat < 128 ∧ next.isDigit = false ∨ next = '\u200b' := by simp
      have isDecimal := all digit List.mem_cons_self
      rw [← same, decimals.not_decimal (undecimal next listed)] at isDecimal
      exact absurd isDecimal (by decide)
    have marked : ∀ mark ∈ ['!', '&'], Tail (mark :: (digits ++ ['>'])) := by
      intro mark listed
      have other : ∀ mark ∈ ['!', '&'], mark ∉ ['\u200b', 'u', 'r', '@'] := by simp
      have unlike := other mark listed
      refine ⟨?_, by simp, ?_⟩
      · intro next known start
        have same := (List.cons_prefix_cons.mp start).1
        exact unlike (same ▸ List.mem_append_left ['@'] known)
      · intro member
        rcases List.mem_cons.mp member with same | member
        · exact unlike (same ▸ by decide)
        · exact plain member
    simp only [List.mem_cons, List.not_mem_nil, or_false] at known
    rcases known with rfl | rfl | rfl
    · exact ⟨digits ++ ['>'], ⟨apart, by simp, plain⟩, .inr rfl⟩
    · exact ⟨'!' :: (digits ++ ['>']), marked '!' (by decide), .inr rfl⟩
    · exact ⟨'&' :: (digits ++ ['>']), marked '&' (by decide), .inr rfl⟩

theorem infix_of_append {first : Char} {skipped rest : List Char} (free : first ∉ skipped)
    (inside : first :: word <:+: skipped ++ rest) : first :: word <:+: rest := by
  induction skipped with
  | nil => exact inside
  | cons char skipped ih =>
    rcases List.infix_cons_iff.mp inside with start | later
    · have same := (List.cons_prefix_cons.mp start).1
      exact absurd List.mem_cons_self (same ▸ free)
    · exact ih (fun member => free (List.mem_cons_of_mem _ member)) later

/-- A mention in the result of a pass stood in the text, where the pattern does not match. -/
theorem reSub_infix (harmless : Harmless rule) (decimals : Decimals decimal)
    (mention : Mention decimal word) (fits : text.length ≤ fuel)
    (inside : word <:+: reSub rule fuel text) :
    ∃ place, place <:+ text ∧ word <+: place ∧ rule place = none := by
  obtain ⟨tail, after, shape⟩ := mention.shape decimals
  have here : ∀ {fuel : Nat} {text : List Char}, text.length ≤ fuel →
      word <+: reSub rule fuel text → word <+: text ∧ rule text = none := by
    intro fuel text fits start
    rcases shape with rfl | rfl
    · exact at_of_reSub harmless after fits start
    · exact angle_of_reSub harmless after fits start
  have skip : ∀ {skipped rest : List Char}, '@' ∉ skipped → '<' ∉ skipped →
      word <:+: skipped ++ rest → word <:+: rest := by
    intro skipped rest free unangled inside
    rcases shape with rfl | rfl
    · exact infix_of_append free inside
    · exact infix_of_append unangled inside
  induction fuel generalizing text with
  | zero =>
    have empty := List.length_eq_zero_iff.mp (Nat.le_zero.mp fits)
    subst empty
    rcases shape with rfl | rfl <;> exact absurd (List.infix_nil.mp inside) (by simp)
  | succ fuel ih =>
    cases text with
    | nil => rcases shape with rfl | rfl <;> exact absurd (List.infix_nil.mp inside) (by simp)
    | cons char rest =>
      by_cases start : word <+: reSub rule (fuel + 1) (char :: rest)
      · exact ⟨char :: rest, List.suffix_rfl, here fits start⟩
      · rw [reSub] at inside start
        split at inside
        next replacement remaining matched =>
          simp only [matched] at start
          obtain ⟨next, tail, rfl, known, free, unangled⟩ := harmless.replacement matched
          have unlike : ∀ next ∈ ['\u200b', 'u', 'r'], next ≠ '@' ∧ next ≠ '<' := by simp
          have ⟨notAt, notAngle⟩ := unlike next known
          rw [List.cons_append] at inside start
          have later := (List.infix_cons_iff.mp inside).resolve_left start
          have onward := skip (by simp [free, notAt.symm]) (by simp [unangled, notAngle.symm]) later
          have less := harmless.shorter matched
          obtain ⟨place, within, rest⟩ := ih (by simp at fits less; omega) onward
          exact ⟨place, within.trans (harmless.suffix matched), rest⟩
        next unmatched =>
          simp only [unmatched] at start
          have later := (List.infix_cons_iff.mp inside).resolve_left start
          obtain ⟨place, within, rest⟩ := ih (by simpa using fits) later
          exact ⟨place, within.trans (List.suffix_cons char _), rest⟩

theorem reSub_same (unmatched : ∀ place, place <:+ text → rule place = none) :
    reSub rule fuel text = text := by
  induction fuel generalizing text with
  | zero => rfl
  | succ fuel ih =>
    cases text with
    | nil => rfl
    | cons char rest =>
      rw [reSub, unmatched _ List.suffix_rfl]
      have same := ih fun place within =>
        unmatched place (within.trans (List.suffix_cons char rest))
      simp only [same]

theorem behind_eq_some {start rest : List Char} (found : behind start text = some rest) :
    text = start ++ rest := by
  unfold behind at found
  split at found
  next isPrefix =>
    have whole := List.prefix_append_drop (List.isPrefixOf_iff_prefix.mp isPrefix)
    rw [Option.some.inj found] at whole
    exact whole
  next => cases found

theorem behind_append (start rest : List Char) : behind start (start ++ rest) = some rest := by
  unfold behind
  rw [if_pos (List.isPrefixOf_iff_prefix.mpr (List.prefix_append start rest)),
    List.drop_left]

theorem everyone_eq_some {replacement remaining : List Char}
    (matched : everyone text = some (replacement, remaining)) :
    replacement = "@\u200beveryone".toList ∧
      (text = "@everyone".toList ++ remaining ∨ text = "@here".toList ++ remaining) := by
  obtain ⟨rest, found, same⟩ := Option.map_eq_some_iff.mp matched
  obtain ⟨rfl, rfl⟩ := Prod.mk.inj same
  refine ⟨rfl, ?_⟩
  rcases Option.or_eq_some_iff.mp found with every | ⟨_, here⟩
  · exact .inl (behind_eq_some every)
  · exact .inr (behind_eq_some here)

theorem everyone_ne_none {rest : List Char}
    (place : text = "@everyone".toList ++ rest ∨ text = "@here".toList ++ rest) :
    everyone text ≠ none := by
  unfold everyone
  rcases place with rfl | rfl
  · rw [behind_append, Option.some_or]
    exact Option.some_ne_none _
  · rw [behind_append]
    simp

theorem mention_eq_some {openings : List String} {label : String}
    {replacement remaining : List Char}
    (matched : mention decimal openings label text = some (replacement, remaining)) :
    ∃ opening ∈ openings, ∃ digits, digits ≠ [] ∧ (∀ char ∈ digits, decimal char = true) ∧
      text = opening.toList ++ (digits ++ '>' :: remaining) ∧
      replacement = label.toList ++ digits := by
  obtain ⟨opening, known, found⟩ := List.exists_of_findSome?_eq_some matched
  refine ⟨opening, known, ?_⟩
  split at found
  next => cases found
  next rest opened =>
    dsimp only at found
    split at found
    next => cases found
    next nonempty =>
      obtain ⟨last, closed, same⟩ := Option.map_eq_some_iff.mp found
      obtain ⟨rfl, rfl⟩ := Prod.mk.inj same
      refine ⟨rest.takeWhile decimal, nonempty, fun char member => ?_, ?_, rfl⟩
      · exact List.mem_takeWhile_imp member
      · have start : rest.takeWhile decimal <+: rest := List.takeWhile_prefix decimal
        have whole := List.prefix_append_drop start
        rw [behind_eq_some closed, List.singleton_append] at whole
        rw [behind_eq_some opened, ← whole]

theorem mention_ne_none (decimals : Decimals decimal) {openings : List String}
    {label opening : String} (known : opening ∈ openings) {digits rest : List Char}
    (nonempty : digits ≠ []) (all : ∀ char ∈ digits, decimal char = true) :
    mention decimal openings label (opening.toList ++ (digits ++ '>' :: rest)) ≠ none := by
  intro unmatched
  have here := List.findSome?_eq_none_iff.mp unmatched opening known
  have closing : decimal '>' = false := decimals.not_decimal (by decide)
  have run : (digits ++ '>' :: rest).takeWhile decimal = digits := by
    rw [List.takeWhile_append_of_pos all, List.takeWhile_cons_of_neg (by simp [closing]),
      List.append_nil]
  have closed : behind ['>'] ((digits ++ '>' :: rest).drop digits.length) = some rest := by
    rw [List.drop_left]
    exact behind_append ['>'] rest
  rw [behind_append] at here
  simp only [run, if_neg nonempty, closed] at here
  cases here

theorem everyone_harmless : Harmless everyone := by
  refine ⟨fun matched => ?_, fun matched => ?_, fun matched => ?_⟩
  · exact ⟨'\u200b', "everyone".toList, (everyone_eq_some matched).1, by decide, by decide,
      by decide⟩
  · rcases (everyone_eq_some matched).2 with rfl | rfl
    · exact List.suffix_append _ _
    · exact List.suffix_append _ _
  · rcases (everyone_eq_some matched).2 with rfl | rfl <;> simp <;> omega

theorem mention_harmless (decimals : Decimals decimal) {openings : List String} {label : String}
    (next : Char) (rest : List Char) (shape : label.toList = '@' :: next :: rest)
    (known : next ∈ ['\u200b', 'u', 'r']) (free : '@' ∉ rest) (unangled : '<' ∉ rest) :
    Harmless (mention decimal openings label) := by
  refine ⟨fun matched => ?_, fun matched => ?_, fun matched => ?_⟩
  all_goals
    obtain ⟨opening, _, digits, _, all, rfl, rfl⟩ := mention_eq_some matched
    rename_i remaining _ _
  · have noAt : '@' ∉ digits := decimals.not_mem all (by decide)
    have noAngle : '<' ∉ digits := decimals.not_mem all (by decide)
    refine ⟨next, rest ++ digits, by rw [shape]; rfl, known, ?_, ?_⟩
    · simp [free, noAt]
    · simp [unangled, noAngle]
  · have closed := List.suffix_cons '>' remaining
    exact (closed.trans (List.suffix_append digits _)).trans (List.suffix_append _ _)
  · simp only [List.length_append, List.length_cons]
    omega

/-- What one pass does to the mentions: it makes none, and leaves none that its pattern finds. -/
theorem reSub_mention (harmless : Harmless rule) (decimals : Decimals decimal)
    (mention : Mention decimal word) (inside : word <:+: reSub rule text.length text) :
    word <:+: text ∧ ∃ rest, rule (word ++ rest) = none := by
  obtain ⟨place, within, ⟨rest, rfl⟩, unmatched⟩ :=
    reSub_infix harmless decimals mention (Nat.le_refl _) inside
  exact ⟨(List.prefix_append word rest).isInfix.trans within.isInfix, rest, unmatched⟩

theorem user_harmless (decimals : Decimals decimal) :
    Harmless (mention decimal ["<@!", "<@"] "@user_") :=
  mention_harmless decimals 'u' "ser_".toList rfl (by decide) (by decide) (by decide)

theorem role_harmless (decimals : Decimals decimal) : Harmless (mention decimal ["<@&"] "@role_") :=
  mention_harmless decimals 'r' "ole_".toList rfl (by decide) (by decide) (by decide)

/-- A pass whose pattern is the opening of a mention leaves none of that opening. -/
theorem named_ne_none (decimals : Decimals decimal) {openings : List String}
    {label opening : String} (known : opening ∈ openings) {digits rest : List Char}
    (nonempty : digits ≠ []) (all : ∀ char ∈ digits, decimal char = true) :
    mention decimal openings label (opening.toList ++ (digits ++ ['>']) ++ rest) ≠ none := by
  rw [List.append_assoc, List.append_assoc, List.singleton_append]
  exact mention_ne_none decimals known nonempty all

theorem sanitize_free (decimals : Decimals decimal) (text : String)
    (mention : Mention decimal word) : ¬ word <:+: (sanitize decimal text).toList := by
  intro inside
  rw [sanitize, String.toList_ofList] at inside
  have ⟨beforeRoles, _, unrole⟩ := reSub_mention (role_harmless decimals) decimals mention inside
  have ⟨beforeUsers, _, unuser⟩ :=
    reSub_mention (user_harmless decimals) decimals mention beforeRoles
  have ⟨_, _, unevery⟩ := reSub_mention everyone_harmless decimals mention beforeUsers
  cases mention with
  | everyone => exact everyone_ne_none (.inl rfl) unevery
  | here => exact everyone_ne_none (.inr rfl) unevery
  | named opening known digits nonempty all =>
    simp only [List.mem_cons, List.not_mem_nil, or_false] at known
    rcases known with rfl | rfl | rfl
    · exact named_ne_none decimals (by decide) nonempty all unuser
    · exact named_ne_none decimals (by decide) nonempty all unuser
    · exact named_ne_none decimals (by decide) nonempty all unrole

theorem mention_unmatched {openings : List String} {label : String}
    (named : ∀ opening ∈ openings, opening ∈ ["<@", "<@!", "<@&"])
    (free : ∀ word, Mention decimal word → ¬ word <:+: text) (place : List Char)
    (within : place <:+ text) : mention decimal openings label place = none := by
  rw [Option.eq_none_iff_forall_ne_some]
  rintro ⟨replacement, remaining⟩ matched
  obtain ⟨opening, known, digits, nonempty, all, rfl, _⟩ := mention_eq_some matched
  apply free _ (.named opening (named opening known) digits nonempty all)
  have start : opening.toList ++ (digits ++ ['>']) <+:
      opening.toList ++ (digits ++ '>' :: remaining) := ⟨remaining, by simp⟩
  exact start.isInfix.trans within.isInfix

theorem everyone_unmatched (free : ∀ word, Mention decimal word → ¬ word <:+: text)
    (place : List Char) (within : place <:+ text) : everyone place = none := by
  rw [Option.eq_none_iff_forall_ne_some]
  rintro ⟨replacement, remaining⟩ matched
  rcases (everyone_eq_some matched).2 with rfl | rfl
  · exact free _ .everyone ((List.prefix_append _ _).isInfix.trans within.isInfix)
  · exact free _ .here ((List.prefix_append _ _).isInfix.trans within.isInfix)

theorem sanitize_same (text : String)
    (free : ∀ word, Mention decimal word → ¬ word <:+: text.toList) :
    sanitize decimal text = text := by
  have every : reSub everyone text.toList.length text.toList = text.toList :=
    reSub_same (everyone_unmatched free)
  have users : reSub (mention decimal ["<@!", "<@"] "@user_") text.toList.length text.toList =
      text.toList := reSub_same (mention_unmatched (by decide) free)
  have roles : reSub (mention decimal ["<@&"] "@role_") text.toList.length text.toList =
      text.toList := reSub_same (mention_unmatched (by decide) free)
  simp only [sanitize, every, users, roles, String.ofList_toList]

/-- No message mentions everyone, a user or a role once it is sanitized, and sanitizing it again
leaves it as it is. -/
theorem sanitize_mentions_no_one (decimals : Decimals decimal) (text : String) :
    (∀ word, Mention decimal word → ¬ word <:+: (sanitize decimal text).toList) ∧
      sanitize decimal (sanitize decimal text) = sanitize decimal text := by
  have free : ∀ word, Mention decimal word → ¬ word <:+: (sanitize decimal text).toList :=
    fun _ mention => sanitize_free decimals text mention
  exact ⟨free, sanitize_same _ free⟩

theorem isDigit_decimals : Decimals Char.isDigit := ⟨fun _ _ => rfl, by decide⟩

/-- A mention in a mention, in the digits of the ASCII characters. -/
theorem sanitize_mentions_no_one_nested :
    Decimals Char.isDigit ∧
      sanitize Char.isDigit "<@<@1>2> @@here" = "<@@user_12> @@\u200beveryone" ∧
      ∀ word, Mention Char.isDigit word →
        ¬ word <:+: (sanitize Char.isDigit "<@<@1>2> @@here").toList :=
  ⟨isDigit_decimals, by decide +kernel,
    (sanitize_mentions_no_one isDigit_decimals "<@<@1>2> @@here").1⟩

end BigX.Notification.Discord
