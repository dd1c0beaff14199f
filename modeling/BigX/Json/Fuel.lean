import BigX.Json.Scan

set_option autoImplicit false

/- What the scanner takes of a text is not empty, and twice the length of the text is fuel
enough. -/
namespace BigX.Json

variable {F : Type} {floats : Floats F} {text rest : Text}

theorem skip_length_le (text : Text) : (skip text).length ≤ text.length :=
  (List.dropWhile_sublist isBlank).length_le

theorem scanUnits_quote (rest : Text) : scanUnits ('"' :: rest) = some ([], rest) := by
  rw [scanUnits.eq_def]
  exact if_pos rfl

theorem scanUnits_unicode (first second third fourth : Char) (rest : Text) :
    scanUnits ('\\' :: 'u' :: first :: second :: third :: fourth :: rest) =
      (hexUnit first second third fourth).bind fun unit =>
        (scanUnits rest).map fun (units, rest) => (unit :: units, rest) := by
  rw [scanUnits.eq_def]
  dsimp only
  rw [if_neg (by decide), if_pos rfl, if_pos rfl]
  cases hexUnit first second third fourth <;> cases scanUnits rest <;> rfl

theorem scanUnits_escape {letter : Char} (short : letter ≠ 'u') (rest : Text) :
    scanUnits ('\\' :: letter :: rest) =
      (escaped letter).bind fun point =>
        (scanUnits rest).map fun (units, rest) => (point :: units, rest) := by
  rw [scanUnits.eq_def]
  dsimp only
  rw [if_neg (by decide), if_pos rfl, if_neg short]
  cases escaped letter <;> cases scanUnits rest <;> rfl

theorem scanUnits_plain {char : Char} (unquoted : char ≠ '"') (unescaped : char ≠ '\\')
    (printable : 32 ≤ char.toNat) (rest : Text) :
    scanUnits (char :: rest) =
      (scanUnits rest).map fun (units, rest) => (char.toNat :: units, rest) := by
  rw [scanUnits.eq_def]
  dsimp only
  rw [if_neg unquoted, if_neg unescaped, if_neg (by omega)]
  cases scanUnits rest <;> rfl

theorem scanUnits_shorter {units : List Nat} (scanned : scanUnits text = some (units, rest)) :
    units.length + rest.length < text.length := by
  induction text using scanUnits.induct generalizing units with
  | case1 => cases scanned
  | case2 later =>
    rw [scanUnits_quote] at scanned
    obtain ⟨rfl, rfl⟩ := Prod.mk.inj (Option.some.inj scanned)
    simp only [List.length_nil, List.length_cons]
    omega
  | case3 => cases scanned
  | case4 first second third fourth later _ ih =>
    rw [scanUnits_unicode] at scanned
    obtain ⟨unit, _, scanned⟩ := Option.bind_eq_some_iff.mp scanned
    obtain ⟨⟨others, last⟩, found, same⟩ := Option.map_eq_some_iff.mp scanned
    obtain ⟨rfl, rfl⟩ := Prod.mk.inj same
    have := ih found
    simp only [List.length_cons]
    omega
  | case5 later short _ =>
    rw [scanUnits.eq_def] at scanned
    dsimp only at scanned
    rw [if_neg (by decide), if_pos rfl, if_pos rfl] at scanned
    split at scanned
    next first second third fourth more => exact (short first second third fourth more rfl).elim
    next => cases scanned
  | case6 letter later short _ ih =>
    rw [scanUnits_escape short] at scanned
    obtain ⟨point, _, scanned⟩ := Option.bind_eq_some_iff.mp scanned
    obtain ⟨⟨others, last⟩, found, same⟩ := Option.map_eq_some_iff.mp scanned
    obtain ⟨rfl, rfl⟩ := Prod.mk.inj same
    have := ih found
    simp only [List.length_cons]
    omega
  | case7 char later unquoted unescaped control =>
    rw [scanUnits.eq_def] at scanned
    dsimp only at scanned
    rw [if_neg unquoted, if_neg unescaped, if_pos control] at scanned
    cases scanned
  | case8 char later unquoted unescaped printable ih =>
    rw [scanUnits_plain unquoted unescaped (Nat.le_of_not_lt printable)] at scanned
    obtain ⟨⟨others, last⟩, found, same⟩ := Option.map_eq_some_iff.mp scanned
    obtain ⟨rfl, rfl⟩ := Prod.mk.inj same
    have := ih found
    simp only [List.length_cons]
    omega

theorem joinSurrogates_length_le (units : List Nat) :
    (joinSurrogates units).length ≤ units.length := by
  induction units using joinSurrogates.induct with
  | case1 => exact Nat.le_refl _
  | case2 => exact Nat.le_refl _
  | case3 unit next rest pair ih =>
    rw [joinSurrogates, if_pos pair]
    simp only [List.length_cons]
    omega
  | case4 unit next rest apart ih =>
    rw [joinSurrogates, if_neg apart]
    simp only [List.length_cons] at ih ⊢
    omega

/-- A string has fewer code points than the text it is taken from has characters. -/
theorem scanString_shorter {points : List Nat} (scanned : scanString text = some (points, rest)) :
    points.length + rest.length < text.length := by
  obtain ⟨⟨units, last⟩, found, same⟩ := Option.map_eq_some_iff.mp scanned
  obtain ⟨rfl, rfl⟩ := Prod.mk.inj same
  have shorter := scanUnits_shorter found
  have joined := joinSurrogates_length_le units
  omega

theorem scanNumber_shorter {value : Value F}
    (scanned : scanNumber floats text = some (value, rest)) : rest.length < text.length := by
  rw [scanNumber] at scanned
  dsimp only at scanned
  split at scanned
  next => cases scanned
  next nonempty =>
    have first : 0 < (wholeOf (text.drop (signOf text).length)).length :=
      List.length_pos_iff.mpr nonempty
    have left : 0 < text.length := by
      rw [List.length_pos_iff]
      rintro rfl
      exact nonempty rfl
    obtain ⟨_, rfl⟩ := Prod.mk.inj (Option.some.inj scanned)
    simp only [List.length_drop]
    omega

theorem scanWord_shorter {value : Value F} (scanned : scanWord floats text = some (value, rest)) :
    rest.length < text.length := by
  obtain ⟨⟨word, known⟩, member, found⟩ := List.exists_of_findSome?_eq_some scanned
  dsimp only at found
  split at found
  next starts =>
    have prefixed := (List.isPrefixOf_iff_prefix.mp starts).length_le
    have positive : 0 < word.length := by
      simp only [words, List.mem_cons, List.not_mem_nil, or_false, Prod.mk.injEq] at member
      rcases member with ⟨rfl, _⟩ | ⟨rfl, _⟩ | ⟨rfl, _⟩ | ⟨rfl, _⟩ | ⟨rfl, _⟩ | ⟨rfl, _⟩ <;> decide
    obtain ⟨_, rfl⟩ := Prod.mk.inj (Option.some.inj found)
    rw [List.length_drop]
    omega
  next => cases found

section Scanners

variable {α : Type}

/-- What is left of a text is shorter. -/
def Shrinks (scanner : Text → Option (α × Text)) : Prop :=
  ∀ text value rest, scanner text = some (value, rest) → rest.length < text.length

/-- On texts below a length the second scanner finds what the first one does. -/
def Extends (length : Nat) (first second : Text → Option (α × Text)) : Prop :=
  ∀ text result, text.length < length → first text = some result → second text = some result

theorem Extends.anti {length less : Nat} {first second : Text → Option (α × Text)}
    (extended : Extends length first second) (le : less ≤ length) : Extends less first second :=
  fun text result below found => extended text result (Nat.lt_of_lt_of_le below le) found

end Scanners

variable {value value' : Text → Option (Value F × Text)}
variable {items items' : Text → Option (List (Value F) × Text)}
variable {members members' : Text → Option (List (List Nat × Value F) × Text)}

theorem tail_length_lt {char : Char} (head : text.head? = some char) :
    text.tail.length < text.length := by
  cases text with
  | nil => cases head
  | cons first rest => exact Nat.lt_succ_self _

theorem scanValue_shrinks (shrinks : Shrinks items) (shrinks' : Shrinks members) :
    Shrinks (scanValue floats items members) := by
  intro text result rest scanned
  cases text with
  | nil => cases scanned
  | cons char later =>
    have blank := skip_length_le later
    rw [scanValue] at scanned
    rw [List.length_cons]
    split at scanned
    next =>
      obtain ⟨⟨points, last⟩, found, same⟩ := Option.map_eq_some_iff.mp scanned
      obtain ⟨_, rfl⟩ := Prod.mk.inj same
      have := scanString_shorter found
      omega
    next =>
      split at scanned
      next =>
        split at scanned
        next closed =>
          obtain ⟨_, rfl⟩ := Prod.mk.inj (Option.some.inj scanned)
          have := tail_length_lt closed
          omega
        next =>
          obtain ⟨⟨list, last⟩, found, same⟩ := Option.map_eq_some_iff.mp scanned
          obtain ⟨_, rfl⟩ := Prod.mk.inj same
          have := shrinks _ _ _ found
          omega
      next =>
        split at scanned
        next =>
          split at scanned
          next closed =>
            obtain ⟨_, rfl⟩ := Prod.mk.inj (Option.some.inj scanned)
            have := tail_length_lt closed
            omega
          next =>
            obtain ⟨⟨list, last⟩, found, same⟩ := Option.map_eq_some_iff.mp scanned
            obtain ⟨_, rfl⟩ := Prod.mk.inj same
            have := shrinks' _ _ _ found
            omega
        next =>
          rcases Option.or_eq_some_iff.mp scanned with word | ⟨_, number⟩
          · exact scanWord_shorter word
          · exact scanNumber_shorter number

theorem scanEntry_shrinks {α : Type} {closing : Char} {entry : Value F → α}
    {more : Text → Option (List α × Text)} (shrinks : Shrinks value) (shrinks' : Shrinks more) :
    Shrinks (scanEntry value closing entry more) := by
  intro text result rest scanned
  obtain ⟨⟨item, later⟩, found, scanned⟩ := Option.bind_eq_some_iff.mp scanned
  have first := shrinks _ _ _ found
  have blank := skip_length_le later
  dsimp only at scanned
  split at scanned
  next => cases scanned
  next char further split =>
    rw [split, List.length_cons] at blank
    have blank' := skip_length_le further
    split at scanned
    next =>
      obtain ⟨_, rfl⟩ := Prod.mk.inj (Option.some.inj scanned)
      omega
    next =>
      split at scanned
      next =>
        obtain ⟨⟨list, last⟩, found, same⟩ := Option.map_eq_some_iff.mp scanned
        obtain ⟨_, rfl⟩ := Prod.mk.inj same
        have := shrinks' _ _ _ found
        dsimp only
        omega
      next => cases scanned

theorem scanMember_shrinks (shrinks : Shrinks value) (shrinks' : Shrinks members) :
    Shrinks (scanMember value members) := by
  intro text result rest scanned
  cases text with
  | nil => cases scanned
  | cons char later =>
    rw [scanMember] at scanned
    split at scanned
    next =>
      obtain ⟨⟨key, later'⟩, found, scanned⟩ := Option.bind_eq_some_iff.mp scanned
      have first := scanString_shorter found
      have blank := skip_length_le later'
      dsimp only at scanned
      split at scanned
      next => cases scanned
      next char further split =>
        rw [split, List.length_cons] at blank
        have blank' := skip_length_le further
        split at scanned
        next =>
          have := scanEntry_shrinks shrinks shrinks' _ _ _ scanned
          rw [List.length_cons]
          omega
        next => cases scanned
    next => cases scanned

/-- Each of the scanners takes something of the text. -/
theorem scan_shrinks (floats : Floats F) (fuel : Nat) : Shrinks (scan floats fuel) ∧
    Shrinks (scanItems floats fuel) ∧ Shrinks (scanMembers floats fuel) := by
  induction fuel with
  | zero => exact ⟨nofun, nofun, nofun⟩
  | succ fuel ih =>
    obtain ⟨values, items, members⟩ := ih
    exact ⟨scanValue_shrinks items members, scanEntry_shrinks values items,
      scanMember_shrinks values members⟩

theorem scanValue_extends {text : Text} {result : Value F × Text}
    (extended : Extends text.length items items') (extended' : Extends text.length members members')
    (scanned : scanValue floats items members text = some result) :
    scanValue floats items' members' text = some result := by
  cases text with
  | nil => cases scanned
  | cons char later =>
    have inside : (skip later).length < (char :: later).length := by
      have := skip_length_le later
      rw [List.length_cons]
      omega
    rw [scanValue] at scanned ⊢
    split at scanned
    next quoted => rw [if_pos quoted, scanned]
    next unquoted =>
      rw [if_neg unquoted]
      split at scanned
      next opened =>
        rw [if_pos opened]
        split at scanned
        next closed => rw [if_pos closed, scanned]
        next filled =>
          rw [if_neg filled]
          obtain ⟨found, scanned, same⟩ := Option.map_eq_some_iff.mp scanned
          exact Option.map_eq_some_iff.mpr ⟨found, extended _ _ inside scanned, same⟩
      next unopened =>
        rw [if_neg unopened]
        split at scanned
        next opened =>
          rw [if_pos opened]
          split at scanned
          next closed => rw [if_pos closed, scanned]
          next filled =>
            rw [if_neg filled]
            obtain ⟨found, scanned, same⟩ := Option.map_eq_some_iff.mp scanned
            exact Option.map_eq_some_iff.mpr ⟨found, extended' _ _ inside scanned, same⟩
        next plain => rw [if_neg plain, scanned]

theorem scanEntry_extends {α : Type} {closing : Char} {entry : Value F → α}
    {more more' : Text → Option (List α × Text)} {text : Text} {result : List α × Text}
    (shrinks : Shrinks value) (extended : Extends (text.length + 1) value value')
    (extended' : Extends text.length more more')
    (scanned : scanEntry value closing entry more text = some result) :
    scanEntry value' closing entry more' text = some result := by
  obtain ⟨⟨item, later⟩, found, scanned⟩ := Option.bind_eq_some_iff.mp scanned
  have first := shrinks _ _ _ found
  have blank := skip_length_le later
  refine Option.bind_eq_some_iff.mpr ⟨(item, later), extended _ _ (Nat.lt_succ_self _) found, ?_⟩
  dsimp only at scanned ⊢
  split at scanned
  next => cases scanned
  next char further split =>
    rw [split, List.length_cons] at blank
    have blank' := skip_length_le further
    split at scanned
    next closed => rw [if_pos closed, scanned]
    next unclosed =>
      rw [if_neg unclosed]
      split at scanned
      next comma =>
        rw [if_pos comma]
        obtain ⟨found, scanned, same⟩ := Option.map_eq_some_iff.mp scanned
        exact Option.map_eq_some_iff.mpr ⟨found, extended' _ _ (by omega) scanned, same⟩
      next => cases scanned

theorem scanMember_extends {text : Text} {result : List (List Nat × Value F) × Text}
    (shrinks : Shrinks value) (extended : Extends text.length value value')
    (extended' : Extends text.length members members')
    (scanned : scanMember value members text = some result) :
    scanMember value' members' text = some result := by
  cases text with
  | nil => cases scanned
  | cons char later =>
    rw [scanMember] at scanned ⊢
    split at scanned
    next quoted =>
      rw [if_pos quoted]
      obtain ⟨⟨key, later'⟩, found, scanned⟩ := Option.bind_eq_some_iff.mp scanned
      have first := scanString_shorter found
      have blank := skip_length_le later'
      refine Option.bind_eq_some_iff.mpr ⟨(key, later'), found, ?_⟩
      dsimp only at scanned ⊢
      split at scanned
      next => cases scanned
      next char further split =>
        rw [split, List.length_cons] at blank
        have blank' := skip_length_le further
        rw [List.length_cons] at extended extended'
        split at scanned
        next colon =>
          rw [if_pos colon]
          exact scanEntry_extends shrinks (extended.anti (by omega)) (extended'.anti (by omega))
            scanned
        next => cases scanned
    next => cases scanned

/-- One call more finds what was found. -/
theorem scan_succ (floats : Floats F) (fuel length : Nat) :
    Extends length (scan floats fuel) (scan floats (fuel + 1)) ∧
      Extends length (scanItems floats fuel) (scanItems floats (fuel + 1)) ∧
        Extends length (scanMembers floats fuel) (scanMembers floats (fuel + 1)) := by
  induction fuel generalizing length with
  | zero => exact ⟨nofun, nofun, nofun⟩
  | succ fuel ih =>
    have shrinks := (scan_shrinks floats fuel).1
    refine ⟨fun text result _ found => ?_, fun text result _ found => ?_,
      fun text result _ found => ?_⟩
    · exact scanValue_extends (ih _).2.1 (ih _).2.2 found
    · exact scanEntry_extends shrinks (ih _).1 (ih _).2.1 found
    · exact scanMember_extends shrinks (ih _).1 (ih _).2.2 found

theorem scan_mono (floats : Floats F) {fuel more : Nat} (le : fuel ≤ more) (length : Nat) :
    Extends length (scan floats fuel) (scan floats more) ∧
      Extends length (scanItems floats fuel) (scanItems floats more) ∧
        Extends length (scanMembers floats fuel) (scanMembers floats more) := by
  induction le with
  | refl => exact ⟨fun _ _ _ found => found, fun _ _ _ found => found, fun _ _ _ found => found⟩
  | @step last _ ih =>
    have next := scan_succ floats last length
    exact ⟨fun text result below found => next.1 _ _ below (ih.1 _ _ below found),
      fun text result below found => next.2.1 _ _ below (ih.2.1 _ _ below found),
      fun text result below found => next.2.2 _ _ below (ih.2.2 _ _ below found)⟩

theorem scan_of_le {fuel more : Nat} (le : fuel ≤ more) {text : Text} {result : Value F × Text}
    (found : scan floats fuel text = some result) : scan floats more text = some result :=
  (scan_mono floats le (text.length + 1)).1 text result (Nat.lt_succ_self _) found

theorem scanItems_of_le {fuel more : Nat} (le : fuel ≤ more) {text : Text}
    {result : List (Value F) × Text} (found : scanItems floats fuel text = some result) :
    scanItems floats more text = some result :=
  (scan_mono floats le (text.length + 1)).2.1 text result (Nat.lt_succ_self _) found

theorem scanMembers_of_le {fuel more : Nat} (le : fuel ≤ more) {text : Text}
    {result : List (List Nat × Value F) × Text}
    (found : scanMembers floats fuel text = some result) :
    scanMembers floats more text = some result :=
  (scan_mono floats le (text.length + 1)).2.2 text result (Nat.lt_succ_self _) found

/-- What is found with any fuel is found with twice the length of the text, and a call or two. -/
theorem scan_enough (floats : Floats F) (fuel : Nat) :
    (∀ text result, scan floats fuel text = some result →
        scan floats (2 * text.length + 1) text = some result) ∧
      (∀ text result, scanItems floats fuel text = some result →
        scanItems floats (2 * text.length + 2) text = some result) ∧
      ∀ text result, scanMembers floats fuel text = some result →
        scanMembers floats (2 * text.length + 2) text = some result := by
  induction fuel with
  | zero => exact ⟨nofun, nofun, nofun⟩
  | succ fuel ih =>
    obtain ⟨values, items, members⟩ := ih
    have shrinks := (scan_shrinks floats fuel).1
    refine ⟨fun text result found => ?_, fun text result found => ?_, fun text result found => ?_⟩
    · apply scanValue_extends _ _ found
      · intro inside found below scanned
        exact (scan_mono floats (by omega) _).2.1 _ _ below (items _ _ scanned)
      · intro inside found below scanned
        exact (scan_mono floats (by omega) _).2.2 _ _ below (members _ _ scanned)
    · apply scanEntry_extends shrinks _ _ found
      · intro inside found below scanned
        exact (scan_mono floats (by omega) _).1 _ _ below (values _ _ scanned)
      · intro inside found below scanned
        exact (scan_mono floats (by omega) _).2.1 _ _ below (items _ _ scanned)
    · apply scanMember_extends shrinks _ _ found
      · intro inside found below scanned
        exact (scan_mono floats (by omega) _).1 _ _ below (values _ _ scanned)
      · intro inside found below scanned
        exact (scan_mono floats (by omega) _).2.2 _ _ below (members _ _ scanned)

theorem scanWord_ne_string {points : List Nat} :
    scanWord floats text ≠ some (.string points, rest) := by
  intro scanned
  obtain ⟨⟨word, known⟩, member, found⟩ := List.exists_of_findSome?_eq_some scanned
  dsimp only at found
  split at found
  next =>
    obtain ⟨rfl, _⟩ := Prod.mk.inj (Option.some.inj found)
    simp [words] at member
  next => cases found

theorem scanNumber_ne_string {points : List Nat} :
    scanNumber floats text ≠ some (.string points, rest) := by
  intro scanned
  rw [scanNumber] at scanned
  dsimp only at scanned
  split at scanned
  next => cases scanned
  next =>
    have same := (Prod.mk.inj (Option.some.inj scanned)).1
    rw [number] at same
    split at same
    next => cases same
    next => cases same

/-- A string is what stands behind an opening quote. -/
theorem scanValue_string {points : List Nat}
    (scanned : scanValue floats items members text = some (.string points, rest)) :
    ∃ later, text = '"' :: later ∧ scanString later = some (points, rest) := by
  cases text with
  | nil => cases scanned
  | cons char later =>
    rw [scanValue] at scanned
    split at scanned
    next quoted =>
      obtain ⟨⟨others, last⟩, found, same⟩ := Option.map_eq_some_iff.mp scanned
      have equal : others = points ∧ last = rest := by simpa using same
      rw [equal.1, equal.2] at found
      exact ⟨later, by rw [quoted], found⟩
    next =>
      exfalso
      split at scanned
      next =>
        split at scanned
        next => cases scanned
        next =>
          obtain ⟨_, _, same⟩ := Option.map_eq_some_iff.mp scanned
          cases same
      next =>
        split at scanned
        next =>
          split at scanned
          next => cases scanned
          next =>
            obtain ⟨_, _, same⟩ := Option.map_eq_some_iff.mp scanned
            cases same
        next =>
          rcases Option.or_eq_some_iff.mp scanned with word | ⟨_, number⟩
          · exact scanWord_ne_string word
          · exact scanNumber_ne_string number

/-- A string is read only from a text that is longer. -/
theorem loads_string_shorter {points : List Nat}
    (read : loads floats text = some (.string points)) : points.length < text.length := by
  rw [loads] at read
  split at read
  next => cases read
  next =>
    split at read
    next value later scanned =>
      split at read
      next =>
        have same : value = .string points := Option.some.inj read
        rw [same, scan] at scanned
        obtain ⟨quoted, start, found⟩ := scanValue_string scanned
        have blank := skip_length_le text
        have shorter := scanString_shorter found
        rw [start, List.length_cons] at blank
        omega
      next => cases read
    next => cases read

end BigX.Json
