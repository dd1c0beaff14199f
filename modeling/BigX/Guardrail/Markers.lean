import BigX.Guardrail.Patterns
import BigX.Text.Pattern

set_option autoImplicit false

/- What a match of the injection wrappers looks like: how it begins and ends, and that it depends
on nothing behind it. -/
namespace BigX.Guardrail

open Text (Local Unmatched)

theorem literal_eq_some {word : String} {text : Text} {size : Nat} :
    literal word text = some size ↔
      ∃ found later, text = found ++ later ∧ found.map ignoreCase = word.toList ∧
        size = found.length := by
  unfold literal
  constructor
  · intro matched
    split at matched
    next same =>
      refine ⟨text.take word.length, text.drop word.length,
        (List.take_append_drop word.length text).symm, same, ?_⟩
      have length := congrArg List.length same
      rw [List.length_map, String.length_toList] at length
      rw [length]
      exact (Option.some.inj matched).symm
    next => cases matched
  · rintro ⟨found, later, rfl, same, rfl⟩
    have length := congrArg List.length same
    rw [List.length_map, String.length_toList] at length
    rw [← length, List.take_left, if_pos same]

theorem literal_local {word : String} (nonempty : word.toList ≠ []) : Local (literal word) where
  append := by
    intro text size matched rest
    obtain ⟨found, later, rfl, same, rfl⟩ := literal_eq_some.mp matched
    exact literal_eq_some.mpr ⟨found, later ++ rest, by simp, same, rfl⟩
  bounds := by
    intro text size matched
    obtain ⟨found, later, rfl, same, rfl⟩ := literal_eq_some.mp matched
    have positive : 0 < found.length := by
      rw [List.length_pos_iff]
      rintro rfl
      exact nonempty same.symm
    rw [List.length_append]
    omega
  take := by
    intro text size matched
    obtain ⟨found, later, rfl, same, rfl⟩ := literal_eq_some.mp matched
    exact literal_eq_some.mpr ⟨found, [], by simp, same, rfl⟩

theorem roleMarker_eq_some {role : String} {text : Text} {size : Nat} :
    roleMarker role text = some size ↔
      ∃ word spaces later, text = word ++ (spaces ++ ':' :: later) ∧
        word.map ignoreCase = role.toList ∧ (∀ char ∈ spaces, isSpace char = true) ∧
          size = word.length + spaces.length + 1 := by
  unfold roleMarker
  constructor
  · intro matched
    obtain ⟨length, found, matched⟩ := Option.bind_eq_some_iff.mp matched
    obtain ⟨word, rest, rfl, same, rfl⟩ := literal_eq_some.mp found
    dsimp only at matched
    rw [List.drop_left] at matched
    split at matched
    next colon =>
      have whole : rest.takeWhile isSpace ++ rest.dropWhile isSpace = rest :=
        List.takeWhile_append_dropWhile
      have behind : (word ++ rest).drop (word.length + (rest.takeWhile isSpace).length) =
          rest.dropWhile isSpace := by
        rw [← List.drop_drop, List.drop_left]
        nth_rewrite 2 [← whole]
        rw [List.drop_left]
      rw [behind] at colon
      obtain ⟨later, colon⟩ := List.head?_eq_some_iff.mp colon
      rw [colon] at whole
      refine ⟨word, rest.takeWhile isSpace, later, by rw [whole], same, ?_, ?_⟩
      · intro char member
        exact List.mem_takeWhile_imp member
      · exact (Option.some.inj matched).symm
    next => cases matched
  · rintro ⟨word, spaces, later, rfl, same, blank, rfl⟩
    have found := literal_eq_some.mpr ⟨word, spaces ++ ':' :: later, rfl, same, rfl⟩
    rw [found, Option.bind_some]
    dsimp only
    rw [List.drop_left]
    have taken : (spaces ++ ':' :: later).takeWhile isSpace = spaces := by
      rw [List.takeWhile_append_of_pos blank]
      rw [List.takeWhile_cons_of_neg (by decide), List.append_nil]
    rw [taken, ← List.append_assoc, ← List.length_append, List.drop_left]
    rfl

theorem roleMarker_local (role : String) : Local (roleMarker role) where
  append := by
    intro text size matched rest
    obtain ⟨word, spaces, later, rfl, same, blank, rfl⟩ := roleMarker_eq_some.mp matched
    exact roleMarker_eq_some.mpr ⟨word, spaces, later ++ rest, by simp, same, blank, rfl⟩
  bounds := by
    intro text size matched
    obtain ⟨word, spaces, later, rfl, same, blank, rfl⟩ := roleMarker_eq_some.mp matched
    simp only [List.length_append, List.length_cons]
    omega
  take := by
    intro text size matched
    obtain ⟨word, spaces, later, rfl, same, blank, rfl⟩ := roleMarker_eq_some.mp matched
    refine roleMarker_eq_some.mpr ⟨word, spaces, [], ?_, same, blank, rfl⟩
    have one : word.length + spaces.length + 1 - (word ++ spaces).length = 1 := by
      rw [List.length_append]
      omega
    rw [← List.append_assoc, List.take_append, one, List.take_of_length_le, List.append_assoc]
    · rfl
    · rw [List.length_append]
      omega

theorem tokenEnd_cons (char : Char) (rest : Text) :
    tokenEnd (char :: rest) =
      if char = '|' ∧ rest.head? = some '>' then some 2
      else if char = '\n' then none
      else (tokenEnd rest).map (· + 1) := rfl

theorem tokenEnd_append {text : Text} {size : Nat} (found : tokenEnd text = some size)
    (rest : Text) : tokenEnd (text ++ rest) = some size := by
  induction text generalizing size with
  | nil => cases found
  | cons char text ih =>
    rw [List.cons_append, tokenEnd_cons]
    rw [tokenEnd_cons] at found
    split at found
    next ends =>
      have later : char = '|' ∧ (text ++ rest).head? = some '>' := by
        refine ⟨ends.1, ?_⟩
        obtain ⟨more, same⟩ := List.head?_eq_some_iff.mp ends.2
        rw [same]
        rfl
      rw [if_pos later]
      exact found
    next goes =>
      split at found
      next => cases found
      next line =>
        obtain ⟨less, inner, rfl⟩ := Option.map_eq_some_iff.mp found
        have onward : ¬ (char = '|' ∧ (text ++ rest).head? = some '>') := by
          rintro ⟨bar, head⟩
          cases text with
          | nil => cases inner
          | cons next text => exact goes ⟨bar, head⟩
        rw [if_neg onward, if_neg line, ih inner]
        rfl

theorem tokenEnd_bounds {text : Text} {size : Nat} (found : tokenEnd text = some size) :
    2 ≤ size ∧ size ≤ text.length := by
  induction text generalizing size with
  | nil => cases found
  | cons char text ih =>
    rw [tokenEnd_cons] at found
    rw [List.length_cons]
    split at found
    next ends =>
      obtain ⟨more, same⟩ := List.head?_eq_some_iff.mp ends.2
      rw [← Option.some.inj found, same, List.length_cons]
      omega
    next =>
      split at found
      next => cases found
      next =>
        obtain ⟨less, inner, rfl⟩ := Option.map_eq_some_iff.mp found
        have bounds := ih inner
        omega

theorem tokenEnd_take {text : Text} {size : Nat} (found : tokenEnd text = some size) :
    tokenEnd (text.take size) = some size := by
  induction text generalizing size with
  | nil => cases found
  | cons char text ih =>
    rw [tokenEnd_cons] at found
    split at found
    next ends =>
      obtain ⟨more, same⟩ := List.head?_eq_some_iff.mp ends.2
      rw [← Option.some.inj found, same, ends.1]
      rfl
    next goes =>
      split at found
      next => cases found
      next line =>
        obtain ⟨less, inner, rfl⟩ := Option.map_eq_some_iff.mp found
        have onward : ¬ (char = '|' ∧ (text.take less).head? = some '>') := by
          rintro ⟨bar, head⟩
          obtain ⟨more, same⟩ := List.head?_eq_some_iff.mp head
          have whole := List.take_append_drop less text
          rw [same] at whole
          exact goes ⟨bar, by rw [← whole]; rfl⟩
        rw [List.take_succ_cons, tokenEnd_cons, if_neg onward, if_neg line, ih inner]
        rfl

theorem specialToken_eq_some {text : Text} {size : Nat} :
    specialToken text = some size ↔
      ∃ word rest inner, text = word ++ rest ∧ word.map ignoreCase = "<|".toList ∧
        tokenEnd rest = some inner ∧ size = word.length + inner := by
  unfold specialToken
  constructor
  · intro matched
    obtain ⟨length, found, matched⟩ := Option.bind_eq_some_iff.mp matched
    obtain ⟨word, rest, rfl, same, rfl⟩ := literal_eq_some.mp found
    rw [List.drop_left] at matched
    obtain ⟨inner, ended, rfl⟩ := Option.map_eq_some_iff.mp matched
    exact ⟨word, rest, inner, rfl, same, ended, rfl⟩
  · rintro ⟨word, rest, inner, rfl, same, ended, rfl⟩
    rw [literal_eq_some.mpr ⟨word, rest, rfl, same, rfl⟩, Option.bind_some, List.drop_left, ended]
    rfl

theorem specialToken_local : Local specialToken where
  append := by
    intro text size matched more
    obtain ⟨word, rest, inner, rfl, same, ended, rfl⟩ := specialToken_eq_some.mp matched
    exact specialToken_eq_some.mpr
      ⟨word, rest ++ more, inner, by simp, same, tokenEnd_append ended more, rfl⟩
  bounds := by
    intro text size matched
    obtain ⟨word, rest, inner, rfl, same, ended, rfl⟩ := specialToken_eq_some.mp matched
    have bounds := tokenEnd_bounds ended
    rw [List.length_append]
    omega
  take := by
    intro text size matched
    obtain ⟨word, rest, inner, rfl, same, ended, rfl⟩ := specialToken_eq_some.mp matched
    refine specialToken_eq_some.mpr
      ⟨word, rest.take inner, inner, ?_, same, tokenEnd_take ended, rfl⟩
    rw [List.take_append, List.take_of_length_le (by omega), Nat.add_sub_cancel_left]

/-- A pattern that is local, and how its matches begin. -/
structure Begins (length : Text → Option Nat) (heads : List Text) : Prop where
  isLocal : Local length
  head : ∀ {text : Text} {size : Nat}, length text = some size →
    (text.take 2).map ignoreCase ∈ heads

theorem literal_begins {word : String} (long : 2 ≤ word.toList.length) :
    Begins (literal word) [word.toList.take 2] where
  isLocal := by
    apply literal_local
    intro empty
    rw [empty] at long
    cases long
  head := by
    intro text size matched
    obtain ⟨found, later, rfl, same, rfl⟩ := literal_eq_some.mp matched
    have length := congrArg List.length same
    rw [List.length_map] at length
    rw [← same, ← List.map_take, List.take_append_of_le_length (by omega)]
    exact List.mem_singleton_self _

theorem roleMarker_begins {role : String} (long : 2 ≤ role.toList.length) :
    Begins (roleMarker role) [role.toList.take 2] where
  isLocal := roleMarker_local role
  head := by
    intro text size matched
    obtain ⟨length, found, _⟩ := Option.bind_eq_some_iff.mp matched
    exact (literal_begins long).head found

theorem specialToken_begins : Begins specialToken [['<', '|']] where
  isLocal := specialToken_local
  head := by
    intro text size matched
    obtain ⟨length, found, _⟩ := Option.bind_eq_some_iff.mp matched
    have begins : Begins (literal "<|") ["<|".toList.take 2] := literal_begins (by decide)
    exact begins.head found

/-- Alternatives whose matches begin differently. -/
theorem Begins.or {first second : Text → Option Nat} {heads others : List Text}
    (begins : Begins first heads) (begins' : Begins second others)
    (apart : ∀ head ∈ heads, head ∉ others) :
    Begins (fun text => first text <|> second text) (heads ++ others) where
  isLocal := by
    apply begins.isLocal.or begins'.isLocal
    intro text
    cases found : first text with
    | none => exact Or.inl rfl
    | some size =>
      cases found' : second text with
      | none => exact Or.inr rfl
      | some other => exact (apart _ (begins.head found) (begins'.head found')).elim
  head := by
    intro text size matched
    apply List.mem_append.mpr
    cases found : first text with
    | some other => exact Or.inl (begins.head found)
    | none =>
      rw [found] at matched
      exact Or.inr (begins'.head matched)

def wrapperHeads : List Text := ["sy".toList, "as".toList, "<|".toList, "[i".toList, "[/".toList]

theorem injectionWrappers_begins : Begins injectionWrappers wrapperHeads := by
  have inst : Begins (fun text => literal "[inst]" text <|> literal "[/inst]" text) _ :=
    (literal_begins (by decide)).or (literal_begins (by decide)) (by decide)
  have token : Begins (fun text =>
      specialToken text <|> literal "[inst]" text <|> literal "[/inst]" text) _ :=
    specialToken_begins.or inst (by decide)
  have assistant : Begins (fun text => roleMarker "assistant" text <|> specialToken text <|>
      literal "[inst]" text <|> literal "[/inst]" text) _ :=
    (roleMarker_begins (by decide)).or token (by decide)
  exact (roleMarker_begins (by decide)).or assistant (by decide)

theorem injectionWrappers_local : Local injectionWrappers := injectionWrappers_begins.isLocal

theorem orElse_cases {first second : Option Nat} {size : Nat}
    (found : (first <|> second) = some size) : first = some size ∨ second = some size := by
  cases first with
  | none => exact Or.inr found
  | some other => exact Or.inl found

theorem injectionWrappers_cases {text : Text} {size : Nat}
    (matched : injectionWrappers text = some size) :
    roleMarker "system" text = some size ∨ roleMarker "assistant" text = some size ∨
      specialToken text = some size ∨ literal "[inst]" text = some size ∨
        literal "[/inst]" text = some size :=
  (orElse_cases matched).imp_right fun others =>
    (orElse_cases others).imp_right fun others =>
      (orElse_cases others).imp_right orElse_cases

section Ends

theorem ignoreCase_of_space {char : Char} (space : isSpace char = true) :
    ignoreCase char = char := by
  have apart : ∀ other ∈ ['\u0130', '\u0131', '\u017f', '\u212a'], char ≠ other := by
    have solid : ∀ other ∈ ['\u0130', '\u0131', '\u017f', '\u212a'],
        isSpace other = false := by simp [isSpace]
    intro other member same
    rw [same, solid other member] at space
    cases space
  unfold ignoreCase
  rw [if_neg, if_neg, if_neg, lowerAscii_of_space space]
  · exact apart _ (by decide)
  · exact apart _ (by decide)
  · rintro (same | same)
    · exact apart _ (by decide) same
    · exact apart _ (by decide) same

/-- A character that is read as one that is not blank is not blank itself. -/
theorem solid_of_ignoreCase {char : Char} (solid : isSpace (ignoreCase char) = false) :
    isSpace char = false := by
  rw [Bool.eq_false_iff]
  intro space
  rw [ignoreCase_of_space space, space] at solid
  cases solid

variable {text : Text} {size : Nat}

theorem tokenEnd_last (found : tokenEnd text = some size) :
    (text.take size).getLast? = some '>' := by
  induction text generalizing size with
  | nil => cases found
  | cons char text ih =>
    rw [tokenEnd_cons] at found
    split at found
    next ends =>
      obtain ⟨more, same⟩ := List.head?_eq_some_iff.mp ends.2
      rw [← Option.some.inj found, same]
      rfl
    next =>
      split at found
      next => cases found
      next =>
        obtain ⟨less, inner, rfl⟩ := Option.map_eq_some_iff.mp found
        rw [List.take_succ_cons, List.getLast?_cons, ih inner]
        rfl

/-- A match neither begins nor ends with a blank. -/
theorem match_head (matched : injectionWrappers text = some size) :
    ∃ char ∈ (text.take size).head?, isSpace char = false := by
  have head := injectionWrappers_begins.head matched
  have positive := (injectionWrappers_local.bounds matched).1
  obtain ⟨less, rfl⟩ : ∃ less, size = less + 1 := ⟨size - 1, by omega⟩
  cases text with
  | nil => exact absurd head (by decide)
  | cons char rest =>
    refine ⟨char, rfl, solid_of_ignoreCase ?_⟩
    have read : ∀ word ∈ wrapperHeads, ∀ char ∈ word.head?, isSpace char = false := by
      simp [wrapperHeads, isSpace]
    exact read _ head _ rfl

theorem literal_last {word : String} {last : Char} (ends : word.toList.getLast? = some last)
    (solid : isSpace last = false) (matched : literal word text = some size) :
    ∃ char ∈ (text.take size).getLast?, isSpace char = false := by
  obtain ⟨found, later, rfl, same, rfl⟩ := literal_eq_some.mp matched
  rw [← same, List.getLast?_map, Option.map_eq_some_iff] at ends
  obtain ⟨char, member, rfl⟩ := ends
  rw [List.take_left]
  exact ⟨char, member, solid_of_ignoreCase solid⟩

theorem roleMarker_last {role : String} (matched : roleMarker role text = some size) :
    ∃ char ∈ (text.take size).getLast?, isSpace char = false := by
  have taken := (roleMarker_local role).take matched
  have bounds := (roleMarker_local role).bounds matched
  obtain ⟨word, spaces, later, split, _, _, length⟩ := roleMarker_eq_some.mp taken
  have whole := congrArg List.length split
  rw [List.length_take, Nat.min_eq_left bounds.2, List.length_append, List.length_append,
    List.length_cons] at whole
  have last : later = [] := List.length_eq_zero_iff.mp (by omega)
  refine ⟨':', ?_, by decide⟩
  rw [split, last, ← List.append_assoc, List.getLast?_append]
  rfl

theorem specialToken_last (matched : specialToken text = some size) :
    ∃ char ∈ (text.take size).getLast?, isSpace char = false := by
  obtain ⟨word, rest, inner, rfl, _, ended, rfl⟩ := specialToken_eq_some.mp matched
  refine ⟨'>', ?_, by decide⟩
  rw [List.take_append, List.take_of_length_le (by omega), Nat.add_sub_cancel_left,
    List.getLast?_append, tokenEnd_last ended]
  rfl

theorem match_last (matched : injectionWrappers text = some size) :
    ∃ char ∈ (text.take size).getLast?, isSpace char = false := by
  rcases injectionWrappers_cases matched with found | found | found | found | found
  · exact roleMarker_last found
  · exact roleMarker_last found
  · exact specialToken_last found
  · exact literal_last rfl (by decide) found
  · exact literal_last rfl (by decide) found

/-- Stripping takes no match away. -/
theorem unmatched_strip_iff :
    Unmatched injectionWrappers (strip text) ↔ Unmatched injectionWrappers text := by
  constructor
  · intro unmatched
    rw [injectionWrappers_local.unmatched_iff_infix] at unmatched
    intro part suffix
    cases found : injectionWrappers part with
    | none => rfl
    | some size =>
      have inside : part.take size <:+: text :=
        (List.take_prefix size part).isInfix.trans suffix.isInfix
      have kept : part.take size <:+: strip text :=
        infix_rdropWhile (match_last found) (infix_dropWhile (match_head found) inside)
      have taken := injectionWrappers_local.take found
      rw [unmatched _ kept] at taken
      cases taken
  · intro unmatched
    exact injectionWrappers_local.unmatched_infix unmatched (strip_within text)

end Ends

section Brackets

variable {text : Text} {size : Nat}

theorem ignoreCase_bracket {char : Char} (bracket : char = '[') : ignoreCase char = '[' := by
  rw [bracket]
  decide

/-- A match of a role or of a literal has no bracket but at its head. -/
theorem roleMarker_tail {role : String} (plain : '[' ∉ role.toList)
    (matched : roleMarker role text = some size) : '[' ∉ text.take size := by
  have taken := (roleMarker_local role).take matched
  have bounds := (roleMarker_local role).bounds matched
  obtain ⟨word, spaces, later, split, same, blank, length⟩ := roleMarker_eq_some.mp taken
  have whole := congrArg List.length split
  rw [List.length_take, Nat.min_eq_left bounds.2, List.length_append, List.length_append,
    List.length_cons] at whole
  have last : later = [] := List.length_eq_zero_iff.mp (by omega)
  rw [split, last]
  intro member
  rcases List.mem_append.mp member with inWord | rest
  · apply plain
    rw [← same, ← ignoreCase_bracket rfl]
    exact List.mem_map_of_mem inWord
  · rcases List.mem_append.mp rest with inSpaces | colon
    · exact absurd (blank _ inSpaces) (by decide)
    · exact absurd colon (by decide)

theorem literal_tail {word : String} (plain : '[' ∉ word.toList.tail)
    (matched : literal word text = some size) : '[' ∉ (text.take size).tail := by
  obtain ⟨found, later, rfl, same, rfl⟩ := literal_eq_some.mp matched
  rw [List.take_left]
  intro member
  apply plain
  rw [← same, ← List.map_tail, ← ignoreCase_bracket rfl]
  exact List.mem_map_of_mem member

/-- A token that ends behind a bracket ends without the bracket too. -/
theorem tokenEnd_bracket {before after : Text}
    (ended : (tokenEnd (before ++ '[' :: after)).isSome) : (tokenEnd (before ++ after)).isSome := by
  induction before with
  | nil =>
    have onward : ¬ ('[' = '|' ∧ after.head? = some '>') := fun both => absurd both.1 (by decide)
    rw [List.nil_append, tokenEnd_cons, if_neg onward, if_neg (by decide)] at ended
    simpa using ended
  | cons char before ih =>
    rw [List.cons_append, tokenEnd_cons] at ended ⊢
    split at ended
    next ends =>
      cases before with
      | nil => exact absurd (Option.some.inj ends.2) (by decide)
      | cons next before => rw [if_pos ⟨ends.1, ends.2⟩]; rfl
    next =>
      split at ended
      next => cases ended
      next line =>
        rw [if_neg line]
        split
        next => rfl
        next =>
          have inner : (tokenEnd (before ++ '[' :: after)).isSome := by simpa using ended
          simpa using ih inner

theorem specialToken_of_unmatched (unmatched : injectionWrappers text = none) :
    specialToken text = none := by
  cases found : specialToken text with
  | none => rfl
  | some size =>
    unfold injectionWrappers at unmatched
    rw [found] at unmatched
    cases system : roleMarker "system" text with
    | some other =>
      rw [system] at unmatched
      cases unmatched
    | none =>
      cases assistant : roleMarker "assistant" text with
      | some other =>
        rw [system, assistant] at unmatched
        cases unmatched
      | none =>
        rw [system, assistant] at unmatched
        cases unmatched

theorem specialToken_bracket {before after : Text} (nonempty : before ≠ [])
    (found : (specialToken (before ++ '[' :: after)).isSome) :
    (specialToken (before ++ after)).isSome := by
  obtain ⟨size, found⟩ := Option.isSome_iff_exists.mp found
  have head := specialToken_begins.head found
  obtain ⟨word, rest, inner, split, same, ended, _⟩ := specialToken_eq_some.mp found
  have two : word.length = 2 := by
    have length := congrArg List.length same
    rw [List.length_map] at length
    exact length
  match before, nonempty with
  | [first], _ =>
    have second := List.mem_singleton.mp head
    exact absurd (List.cons.inj (List.cons.inj second).2).1 (by decide)
  | first :: second :: before, _ =>
    have parts : word = [first, second] ∧ rest = before ++ '[' :: after := by
      have lengths : [first, second].length = word.length := two.symm
      have whole : [first, second] ++ (before ++ '[' :: after) = word ++ rest := split
      obtain ⟨head, tail⟩ := List.append_inj whole lengths
      exact ⟨head.symm, tail.symm⟩
    rw [parts.2] at ended
    obtain ⟨inner, ended⟩ := Option.isSome_iff_exists.mp
      (tokenEnd_bracket (Option.isSome_iff_exists.mpr ⟨_, ended⟩))
    rw [parts.1] at same
    have shorter := specialToken_eq_some.mpr
      ⟨[first, second], before ++ after, inner, rfl, same, ended, rfl⟩
    exact Option.isSome_iff_exists.mpr ⟨_, shorter⟩

/-- A bracket put before a match, or before the beginning of one, makes no match that begins
before the bracket. -/
theorem unmatched_bracket {before after : Text} (nonempty : before ≠ [])
    (unmatched : injectionWrappers (before ++ after) = none) :
    injectionWrappers (before ++ '[' :: after) = none := by
  cases found : injectionWrappers (before ++ '[' :: after) with
  | none => rfl
  | some size =>
    exfalso
    by_cases short : size ≤ before.length
    · -- the match ends before the bracket
      have taken := injectionWrappers_local.take found
      rw [List.take_append_of_le_length short] at taken
      have extended := injectionWrappers_local.append taken (before.drop size ++ after)
      rw [← List.append_assoc, List.take_append_drop, unmatched] at extended
      cases extended
    · have inside : '[' ∈ ((before ++ '[' :: after).take size).tail := by
        obtain ⟨char, before, rfl⟩ := List.exists_cons_of_ne_nil nonempty
        rw [List.length_cons] at short
        obtain ⟨more, rfl⟩ : ∃ more, size = before.length + 2 + more :=
          ⟨size - before.length - 2, by omega⟩
        rw [List.cons_append, Nat.add_right_comm, List.take_succ_cons, List.tail_cons,
          List.take_append, Nat.add_assoc, Nat.add_sub_cancel_left, List.take_succ_cons]
        simp
      have whole : ∀ {taken : Text}, '[' ∈ taken.tail → '[' ∈ taken := List.mem_of_mem_tail
      rcases injectionWrappers_cases found with found | found | found | found | found
      · exact roleMarker_tail (by decide) found (whole inside)
      · exact roleMarker_tail (by decide) found (whole inside)
      · have shorter := specialToken_bracket nonempty (by rw [found]; rfl)
        rw [specialToken_of_unmatched unmatched] at shorter
        cases shorter
      · exact literal_tail (by decide) found inside
      · exact literal_tail (by decide) found inside

end Brackets

end BigX.Guardrail
