import BigX.Json.Numbers
import BigX.Json.Strings

set_option autoImplicit false

/- Reading what was written of a value brings the value back. -/
namespace BigX.Json

variable {F : Type}

/-- What Python says of a finite number: it is written as a numeral with a fraction or an
exponent, which is read as the same number. -/
structure Floats.Lawful (floats : Floats F) : Prop where
  written : ∀ value, floats.finite value → ∃ sign whole fraction exponent,
    floats.text value = sign ++ (whole ++ (fraction ++ exponent)) ∧
      Numeral sign whole fraction exponent ∧ ¬ (fraction = [] ∧ exponent = [])
  readBack : ∀ value, floats.finite value → floats.read (floats.text value) = value

/-- Floating point numbers that are the texts they are written as. -/
def Floats.literal : Floats Text where
  text := id
  read := id
  nan := "NaN".toList
  infinity := "Infinity".toList
  negativeInfinity := "-Infinity".toList
  finite := fun text => ∃ sign whole fraction exponent,
    text = sign ++ (whole ++ (fraction ++ exponent)) ∧
      Numeral sign whole fraction exponent ∧ ¬ (fraction = [] ∧ exponent = [])

theorem Floats.literal_lawful : Floats.literal.Lawful :=
  ⟨fun _ finite => finite, fun _ _ => rfl⟩

/-- A comma and a colon, with blanks behind them. -/
structure Separators.Plain (separators : Separators) : Prop where
  item : ∃ blanks, separators.item = ',' :: blanks ∧ ∀ char ∈ blanks, isBlank char = true
  key : ∃ blanks, separators.key = ':' :: blanks ∧ ∀ char ∈ blanks, isBlank char = true

theorem Separators.default_plain : Separators.default.Plain :=
  ⟨⟨[' '], rfl, by simp [isBlank]⟩, ⟨[' '], rfl, by simp [isBlank]⟩⟩

/-- A text that begins with what is neither blank nor a closing bracket, nor a byte order mark. -/
def Begins (text : Text) : Prop :=
  ∃ char rest, text = char :: rest ∧ isBlank char = false ∧ char ∉ [']', '\ufeff']

theorem Begins.append {text : Text} (begins : Begins text) (rest : Text) :
    Begins (text ++ rest) := by
  obtain ⟨char, later, rfl, solid, opened⟩ := begins
  exact ⟨char, later ++ rest, rfl, solid, opened⟩

theorem skip_begins {text : Text} (begins : Begins text) : skip text = text := by
  obtain ⟨char, rest, rfl, solid, _⟩ := begins
  rw [skip, List.dropWhile_cons_of_neg (by simp [solid])]

theorem skip_blanks {blanks text : Text} (all : ∀ char ∈ blanks, isBlank char = true)
    (begins : Begins text) : skip (blanks ++ text) = text := by
  rw [skip, List.dropWhile_append_of_pos all]
  exact skip_begins begins

theorem begins_quote (points : List Nat) : Begins (quote points) :=
  ⟨'"', _, rfl, by decide, by decide⟩

theorem begins_numeral {sign whole fraction exponent : Text}
    (numeral : Numeral sign whole fraction exponent) (rest : Text) :
    Begins (sign ++ (whole ++ rest)) := by
  obtain ⟨char, digits, rfl, digit⟩ := numeral.whole_head
  rcases numeral.signed with rfl | rfl
  · refine ⟨char, digits ++ rest, rfl, ?_, ?_⟩
    · rw [Bool.eq_false_iff]
      intro blank
      simp only [isBlank, Bool.or_eq_true, decide_eq_true_eq] at blank
      rcases blank with ((rfl | rfl) | rfl) | rfl <;> exact absurd digit (by decide)
    · intro listed
      simp only [List.mem_cons, List.not_mem_nil, or_false] at listed
      rcases listed with rfl | rfl <;> exact absurd digit (by decide)
  · exact ⟨'-', _, rfl, by decide, by decide⟩

variable {floats : Floats F}

theorem begins_dumps (separators : Separators) (lawful : floats.Lawful) (value : Value F)
    (representable : value.Representable floats) : Begins (value.dumps floats separators) := by
  cases value with
  | null => exact ⟨'n', _, rfl, by decide, by decide⟩
  | bool value => cases value <;> exact ⟨_, _, rfl, by decide, by decide⟩
  | int value =>
    obtain ⟨sign, whole, text, numeral, _⟩ := numeral_int floats value
    rw [Value.dumps, text, ← List.append_nil whole]
    exact begins_numeral numeral []
  | float value =>
    rw [Value.Representable] at representable
    obtain ⟨sign, whole, fraction, exponent, text, numeral, _⟩ := lawful.written value representable
    rw [Value.dumps, text]
    exact begins_numeral numeral _
  | string points => exact begins_quote points
  | list items => cases items <;> exact ⟨'[', _, rfl, by decide, by decide⟩
  | dict members =>
    cases members with
    | nil => exact ⟨'\x7b', _, rfl, by decide, by decide⟩
    | cons member rest => exact ⟨'\x7b', _, rfl, by decide, by decide⟩

/-- What may stand behind a value. -/
abbrev Closes (rest : Text) : Prop := Follows ['.', 'e', 'E'] rest

section Scans

variable {sign whole fraction exponent rest : Text}

theorem scan_plain (fuel : Nat) {char : Char} (plain : char ∉ ['"', '[', '\x7b']) (later : Text) :
    scan floats (fuel + 1) (char :: later) =
      (scanWord floats (char :: later)).or (scanNumber floats (char :: later)) := by
  simp only [List.mem_cons, List.not_mem_nil, or_false, not_or] at plain
  obtain ⟨unquoted, notList, notDict⟩ := plain
  rw [scan, scanValue, if_neg unquoted, if_neg notList, if_neg notDict]

theorem scan_numeral (floats : Floats F) (fuel : Nat)
    (numeral : Numeral sign whole fraction exponent) (closes : Closes rest) :
    scan floats (fuel + 1) (sign ++ (whole ++ (fraction ++ (exponent ++ rest)))) =
      some (number floats sign whole fraction exponent, rest) := by
  have word : scanWord floats (sign ++ (whole ++ (fraction ++ (exponent ++ rest)))) = none :=
    scanWord_numeral numeral _
  have read : scanNumber floats (sign ++ (whole ++ (fraction ++ (exponent ++ rest)))) =
      some (number floats sign whole fraction exponent, rest) := scanNumber_numeral numeral closes
  obtain ⟨char, digits, shape, digit⟩ := numeral.whole_head
  have first : ∃ head later, sign ++ (whole ++ (fraction ++ (exponent ++ rest))) = head :: later ∧
      head ∉ ['"', '[', '\x7b'] := by
    rcases numeral.signed with rfl | rfl
    · refine ⟨char, digits ++ (fraction ++ (exponent ++ rest)), by rw [shape]; rfl, ?_⟩
      intro listed
      simp only [List.mem_cons, List.not_mem_nil, or_false] at listed
      rcases listed with rfl | rfl | rfl <;> exact absurd digit (by decide)
    · exact ⟨'-', _, rfl, by decide⟩
  obtain ⟨head, later, same, plain⟩ := first
  rw [same] at word read ⊢
  rw [scan_plain fuel plain, word, Option.none_or, read]

theorem scan_int (floats : Floats F) (fuel : Nat) (value : Int) (closes : Closes rest) :
    scan floats (fuel + 1) (value.repr.toList ++ rest) = some (.int value, rest) := by
  obtain ⟨sign, whole, text, numeral, same⟩ := numeral_int floats value
  rw [text, List.append_assoc, ← same]
  exact scan_numeral floats fuel numeral closes

theorem scan_float (lawful : floats.Lawful) (fuel : Nat) {value : F} (finite : floats.finite value)
    (closes : Closes rest) :
    scan floats (fuel + 1) (floats.text value ++ rest) = some (.float value, rest) := by
  obtain ⟨sign, whole, fraction, exponent, text, numeral, broken⟩ := lawful.written value finite
  have same : number floats sign whole fraction exponent = .float value := by
    rw [number, if_neg broken, ← text, lawful.readBack value finite]
  rw [text, ← same]
  simpa only [List.append_assoc] using scan_numeral floats fuel numeral closes

theorem scan_word (floats : Floats F) (fuel : Nat) (rest : Text) :
    scan floats (fuel + 1) ("null".toList ++ rest) = some (.null, rest) ∧
      scan floats (fuel + 1) ("true".toList ++ rest) = some (.bool true, rest) ∧
      scan floats (fuel + 1) ("false".toList ++ rest) = some (.bool false, rest) :=
  ⟨rfl, rfl, rfl⟩

theorem scan_string (floats : Floats F) (fuel : Nat) {points : List Nat} (valid : Encodable points)
    (rest : Text) :
    scan floats (fuel + 1) (quote points ++ rest) = some (.string points, rest) := by
  have read := scanString_quote valid rest
  have shape : quote points ++ rest = '"' :: (points.flatMap escape ++ '"' :: rest) := by
    simp [quote]
  rw [shape, scan, scanValue, if_pos rfl, read]
  rfl

end Scans

section Entries

variable {α : Type} {read : Text → Option (Value F × Text)} {more : Text → Option (List α × Text)}
variable {closing : Char} {entry : Value F → α} {text later after : Text} {value : Value F}

theorem scanEntry_close (solid : isBlank closing = false)
    (first : read text = some (value, closing :: after)) :
    scanEntry read closing entry more text = some ([entry value], after) := by
  have skipped : skip (closing :: after) = closing :: after :=
    List.dropWhile_cons_of_neg (by simp [solid])
  rw [scanEntry, first, Option.bind_some]
  dsimp only
  rw [skipped]
  exact if_pos rfl

theorem scanEntry_more {entries : List α} (other : ',' ≠ closing)
    (first : read text = some (value, ',' :: later))
    (further : more (skip later) = some (entries, after)) :
    scanEntry read closing entry more text = some (entry value :: entries, after) := by
  have skipped : skip (',' :: later) = ',' :: later := List.dropWhile_cons_of_neg (by decide)
  rw [scanEntry, first, Option.bind_some]
  dsimp only
  rw [skipped]
  dsimp only
  rw [if_neg other, if_pos rfl, further]
  rfl

end Entries

theorem insert_new {key : List Nat} {dict : List (List Nat × Value F)}
    (absent : key ∉ dict.map Prod.fst) (value : Value F) :
    insert key value dict = dict ++ [(key, value)] := by
  induction dict with
  | nil => rfl
  | cons member rest ih =>
    rw [List.map_cons, List.mem_cons, not_or] at absent
    rw [insert, if_neg fun same => absent.1 same.symm, ih absent.2, List.cons_append]

theorem dictOf_nodup {members : List (List Nat × Value F)}
    (distinct : (members.map Prod.fst).Nodup) :
    dictOf members = members := by
  have build : ∀ (rest dict : List (List Nat × Value F)), ((dict ++ rest).map Prod.fst).Nodup →
      rest.foldl (fun dict member => insert member.1 member.2 dict) dict = dict ++ rest := by
    intro rest
    induction rest with
    | nil => intro dict _; simp
    | cons member rest ih =>
      intro dict distinct
      have absent : member.1 ∉ dict.map Prod.fst := by
        intro inside
        rw [List.map_append, List.map_cons, List.nodup_append] at distinct
        exact distinct.2.2 _ inside _ List.mem_cons_self rfl
      rw [List.foldl_cons, insert_new absent, ih _ (by simpa using distinct), List.append_assoc]
      rfl
  exact build members [] distinct

section Values

variable (floats) (separators : Separators)

theorem closes_items (plain : separators.Plain) (rest : List (Value F)) (after : Text) :
    Closes (dumpItems floats separators rest ++ ']' :: after) := by
  obtain ⟨blanks, comma, _⟩ := plain.item
  cases rest with
  | nil => exact follows_cons (by decide) (by decide) _
  | cons item rest =>
    rw [dumpItems, comma]
    exact follows_cons (by decide) (by decide) _

theorem closes_members (plain : separators.Plain) (rest : List (List Nat × Value F))
    (after : Text) : Closes (dumpMembers floats separators rest ++ '\x7d' :: after) := by
  obtain ⟨blanks, comma, _⟩ := plain.item
  cases rest with
  | nil => exact follows_cons (by decide) (by decide) _
  | cons member rest =>
    rw [dumpMembers, comma]
    exact follows_cons (by decide) (by decide) _

/-- A value is read up to what stands behind it. -/
def Reads (value : Value F) : Prop :=
  ∀ rest, Closes rest →
    ∃ fuel, scan floats fuel (value.dumps floats separators ++ rest) = some (value, rest)

/-- So are the items behind one that is. -/
def ReadsItems (rest : List (Value F)) : Prop :=
  ∀ first text after,
    (∃ fuel, scan floats fuel text =
      some (first, dumpItems floats separators rest ++ ']' :: after)) →
    ∃ fuel, scanItems floats fuel text = some (first :: rest, after)

/-- So are the members behind the value of one that is. -/
def ReadsMembers (rest : List (List Nat × Value F)) : Prop :=
  ∀ key first text after,
    (∃ fuel, scan floats fuel text =
      some (first, dumpMembers floats separators rest ++ '\x7d' :: after)) →
    ∃ fuel, scanEntry (scan floats fuel) '\x7d' (fun value => (key, value))
      (scanMembers floats fuel) text = some ((key, first) :: rest, after)

variable {floats separators}

theorem readsItems_nil : ReadsItems floats separators [] := by
  rintro first text after ⟨fuel, found⟩
  exact ⟨fuel + 1, scanEntry_close (by decide) found⟩

theorem readsItems_cons (lawful : floats.Lawful) (plain : separators.Plain) {item : Value F}
    {rest : List (Value F)} (representable : item.Representable floats)
    (reads : Reads floats separators item) (further : ReadsItems floats separators rest) :
    ReadsItems floats separators (item :: rest) := by
  rintro first text after ⟨fuel, found⟩
  obtain ⟨blanks, comma, all⟩ := plain.item
  have closes := closes_items floats separators plain rest after
  obtain ⟨more, entries⟩ := further item _ after (reads _ closes)
  have begins := (begins_dumps separators lawful item representable).append
    (dumpItems floats separators rest ++ ']' :: after)
  simp only [dumpItems, comma, List.append_assoc, List.cons_append] at found
  have first' := scan_of_le (Nat.le_max_left fuel more) found
  have entries' := scanItems_of_le (Nat.le_max_right fuel more) entries
  rw [← skip_blanks all begins] at entries'
  exact ⟨max fuel more + 1, scanEntry_more (by decide) first' entries'⟩

theorem readsMembers_nil : ReadsMembers floats separators [] := by
  rintro key first text after ⟨fuel, found⟩
  exact ⟨fuel, scanEntry_close (by decide) found⟩

/-- A key and what stands behind it. -/
theorem scanMember_key (plain : separators.Plain) {key : List Nat} (valid : Encodable key)
    {read : Text → Option (Value F × Text)}
    {more : Text → Option (List (List Nat × Value F) × Text)} {text : Text}
    (begins : Begins text) :
    scanMember read more (quote key ++ (separators.key ++ text)) =
      scanEntry read '\x7d' (fun value => (key, value)) more text := by
  obtain ⟨blanks, colon, all⟩ := plain.key
  have shape : quote key ++ (separators.key ++ text) =
      '"' :: (key.flatMap escape ++ '"' :: (separators.key ++ text)) := by
    simp [quote]
  have skipped : skip (separators.key ++ text) = ':' :: (blanks ++ text) := by
    rw [colon]
    exact List.dropWhile_cons_of_neg (by decide)
  rw [shape, scanMember, if_pos rfl, scanString_quote valid, Option.bind_some]
  dsimp only
  rw [skipped]
  dsimp only
  rw [if_pos rfl, skip_blanks all begins]

theorem readsMembers_cons (lawful : floats.Lawful) (plain : separators.Plain) {key : List Nat}
    {value : Value F} {rest : List (List Nat × Value F)} (valid : Encodable key)
    (representable : value.Representable floats) (reads : Reads floats separators value)
    (further : ReadsMembers floats separators rest) :
    ReadsMembers floats separators ((key, value) :: rest) := by
  rintro key' first text after ⟨fuel, found⟩
  obtain ⟨blanks, comma, all⟩ := plain.item
  have closes := closes_members floats separators plain rest after
  obtain ⟨more, entries⟩ := further key value _ after (reads _ closes)
  have begins := (begins_dumps separators lawful value representable).append
    (dumpMembers floats separators rest ++ '\x7d' :: after)
  have quoted := (begins_quote key).append (separators.key ++ (value.dumps floats separators ++
    (dumpMembers floats separators rest ++ '\x7d' :: after)))
  simp only [dumpMembers, comma, List.append_assoc, List.cons_append] at found
  have first' := scan_of_le (Nat.le_max_left fuel (more + 1)) found
  have entries' : scanMembers floats (max fuel (more + 1)) (quote key ++ (separators.key ++
      (value.dumps floats separators ++ (dumpMembers floats separators rest ++ '\x7d' :: after)))) =
      some ((key, value) :: rest, after) := by
    apply scanMembers_of_le (Nat.le_max_right fuel (more + 1))
    rw [scanMembers, scanMember_key plain valid begins]
    exact entries
  rw [← skip_blanks all quoted] at entries'
  exact ⟨max fuel (more + 1), scanEntry_more (by decide) first' entries'⟩

theorem reads_list (lawful : floats.Lawful) (plain : separators.Plain) {item : Value F}
    {rest : List (Value F)} (representable : item.Representable floats)
    (reads : Reads floats separators item) (further : ReadsItems floats separators rest) :
    Reads floats separators (.list (item :: rest)) := by
  intro after _
  obtain ⟨fuel, found⟩ := further item _ after
    (reads _ (closes_items floats separators plain rest after))
  have begins := (begins_dumps separators lawful item representable).append
    (dumpItems floats separators rest ++ ']' :: after)
  have skipped := skip_begins begins
  have opened : (item.dumps floats separators ++
      (dumpItems floats separators rest ++ ']' :: after)).head? ≠ some ']' := by
    obtain ⟨char, later, same, _, other⟩ := begins
    rw [same]
    rintro ⟨rfl⟩
    exact other (by decide)
  have shape : (Value.list (item :: rest)).dumps floats separators ++ after =
      '[' :: (item.dumps floats separators ++
        (dumpItems floats separators rest ++ ']' :: after)) := by
    simp [Value.dumps]
  refine ⟨fuel + 1, ?_⟩
  rw [shape, scan, scanValue, if_neg (by decide), if_pos rfl, skipped, if_neg opened, found]
  rfl

theorem reads_dict (lawful : floats.Lawful) (plain : separators.Plain) {key : List Nat}
    {value : Value F} {rest : List (List Nat × Value F)} (valid : Encodable key)
    (distinct : (((key, value) :: rest).map Prod.fst).Nodup)
    (representable : value.Representable floats) (reads : Reads floats separators value)
    (further : ReadsMembers floats separators rest) :
    Reads floats separators (.dict ((key, value) :: rest)) := by
  intro after _
  obtain ⟨fuel, found⟩ := further key value _ after
    (reads _ (closes_members floats separators plain rest after))
  have begins := (begins_dumps separators lawful value representable).append
    (dumpMembers floats separators rest ++ '\x7d' :: after)
  have skipped := skip_begins ((begins_quote key).append
    (separators.key ++ (value.dumps floats separators ++
      (dumpMembers floats separators rest ++ '\x7d' :: after))))
  have opened : (quote key ++ (separators.key ++ (value.dumps floats separators ++
      (dumpMembers floats separators rest ++ '\x7d' :: after)))).head? ≠ some '\x7d' := by
    simp [quote]
  have shape : (Value.dict ((key, value) :: rest)).dumps floats separators ++ after =
      '\x7b' :: (quote key ++ (separators.key ++ (value.dumps floats separators ++
        (dumpMembers floats separators rest ++ '\x7d' :: after)))) := by
    simp [Value.dumps]
  refine ⟨fuel + 2, ?_⟩
  rw [shape, scan, scanValue, if_neg (by decide), if_neg (by decide), if_pos rfl, skipped,
    if_neg opened, scanMembers, scanMember_key plain valid begins, found]
  rw [Option.map_some]
  dsimp only
  rw [dictOf_nodup distinct]

mutual

theorem reads_dumps (lawful : floats.Lawful) (plain : separators.Plain) :
    (value : Value F) → value.Representable floats → Reads floats separators value
  | .null, _ => fun rest _ => ⟨1, (scan_word floats 0 rest).1⟩
  | .bool true, _ => fun rest _ => ⟨1, (scan_word floats 0 rest).2.1⟩
  | .bool false, _ => fun rest _ => ⟨1, (scan_word floats 0 rest).2.2⟩
  | .int value, _ => fun _ closes => ⟨1, scan_int floats 0 value closes⟩
  | .float value, finite => fun _ closes => ⟨1, scan_float lawful 0 finite closes⟩
  | .string points, valid => fun rest _ => ⟨1, scan_string floats 0 valid rest⟩
  | .list [], _ => fun rest _ => ⟨1, rfl⟩
  | .list (item :: rest), representable => by
    rw [Value.Representable, RepresentableItems] at representable
    exact reads_list lawful plain representable.1
      (reads_dumps lawful plain item representable.1)
      (reads_items lawful plain rest representable.2)
  | .dict [], _ => fun rest _ => ⟨1, rfl⟩
  | .dict ((key, value) :: rest), representable => by
    rw [Value.Representable, RepresentableMembers] at representable
    obtain ⟨distinct, valid, known, others⟩ := representable
    exact reads_dict lawful plain valid distinct known (reads_dumps lawful plain value known)
      (reads_members lawful plain rest others)

theorem reads_items (lawful : floats.Lawful) (plain : separators.Plain) :
    (rest : List (Value F)) → RepresentableItems floats rest → ReadsItems floats separators rest
  | [], _ => readsItems_nil
  | item :: rest, representable => by
    rw [RepresentableItems] at representable
    exact readsItems_cons lawful plain representable.1
      (reads_dumps lawful plain item representable.1)
      (reads_items lawful plain rest representable.2)

theorem reads_members (lawful : floats.Lawful) (plain : separators.Plain) :
    (rest : List (List Nat × Value F)) → RepresentableMembers floats rest →
      ReadsMembers floats separators rest
  | [], _ => readsMembers_nil
  | (key, value) :: rest, representable => by
    rw [RepresentableMembers] at representable
    exact readsMembers_cons lawful plain representable.1 representable.2.1
      (reads_dumps lawful plain value representable.2.1)
      (reads_members lawful plain rest representable.2.2)

end

end Values

/-- Reading a written value brings it back. -/
theorem loads_dumps (separators : Separators) (lawful : floats.Lawful) (plain : separators.Plain)
    (value : Value F) (representable : value.Representable floats) :
    loads floats (value.dumps floats separators) = some value := by
  obtain ⟨fuel, found⟩ := reads_dumps lawful plain value representable [] (follows_nil _)
  have begins := begins_dumps separators lawful value representable
  have skipped := skip_begins begins
  rw [List.append_nil] at found
  have enough := (scan_enough floats fuel).1 _ _ found
  have unmarked : (value.dumps floats separators).head? ≠ some '\ufeff' := by
    obtain ⟨char, later, same, _, other⟩ := begins
    rw [same]
    rintro ⟨rfl⟩
    exact other (by decide)
  rw [loads, if_neg unmarked, skipped, enough]
  rfl

end BigX.Json
