import BigX.Text.Rename
import Mathlib.Data.List.Forall2

set_option autoImplicit false

/- The text rewriting of `ensure_restore_schema` over all dump texts: what it renames, and when
these are the references to the public schema and no data. -/
namespace BigX.Recovery

open Text

def publicName : List Char := "public".toList

/-- The value `schema_name` has by default, and in the only call. -/
def restoreSchema : List Char := "dr_restore".toList

/-- The three calls of `sql.replace` in `ensure_restore_schema`. -/
def rewriteSql (schemaName sql : List Char) : List Char :=
  let sql := replace "public.".toList (schemaName ++ ".".toList) sql
  let sql := replace "SET search_path = public;".toList
    ("SET search_path = ".toList ++ schemaName ++ ";".toList) sql
  replace "SELECT pg_catalog.set_config('search_path', 'public', false);".toList
    ("SELECT pg_catalog.set_config('search_path', '".toList ++ schemaName ++
      "', false);".toList) sql

/-- A part of a dump: a data value (of a COPY row, or of a string literal), the name of the public
schema where it stands for the schema, or anything else. -/
inductive Piece where
  | data (value : List Char)
  | reference
  | code (text : List Char)

def Piece.text : Piece → List Char
  | .data value => value
  | .reference => publicName
  | .code text => text

def render (pieces : List Piece) : List Char := pieces.flatMap Piece.text

/-- A value or a name ends where its text says so: no occurrence of `public` runs from one part
into the next. -/
def Separate (pieces : List Piece) : Prop :=
  ∀ earlier later, pieces = earlier ++ later → Apart publicName (render earlier) (render later)

instance (pieces : List Piece) : Decidable (Separate pieces) :=
  decidable_of_iff
    (∀ cut ≤ pieces.length, Apart publicName (render (pieces.take cut))
      (render (pieces.drop cut))) (by
        constructor
        · rintro all earlier later rfl
          have apart := all earlier.length (by rw [List.length_append]; omega)
          rwa [List.take_left, List.drop_left] at apart
        · intro separate cut _
          exact separate _ _ (List.take_append_drop cut pieces).symm)

/-- The text of a dump in its parts. -/
structure Dump where
  pieces : List Piece
  separate : Separate pieces

/-- What may become of a part: data is kept, a reference redirected, and in the rest some of the
names may be replaced. -/
inductive Redirected : Piece → List Char → Prop where
  | data (value : List Char) : Redirected (.data value) value
  | reference : Redirected .reference restoreSchema
  | code (text : List Char) (renamed : List (Option Char) → List (Option Char) → Bool) :
      Redirected (.code text) (spell publicName restoreSchema renamed [] (tokens publicName text))

/-- The text is the dump with its references redirected and its data unchanged. -/
def Dump.RedirectedTo (dump : Dump) (sql : List Char) : Prop :=
  ∃ images, List.Forall₂ Redirected dump.pieces images ∧ sql = images.flatten

/-- The places in which one of the three calls replaces the name. -/
def Placed (before after : List Char) : Prop :=
  ".".toList <+: after ∨
    ("SET search_path = ".toList <:+ before ∧ ";".toList <+: after) ∨
    ("SELECT pg_catalog.set_config('search_path', '".toList <:+ before ∧
      "', false);".toList <+: after)

/-- `Placed`, of the tokens before and behind a name. -/
def placed (before after : List (Option Char)) : Bool :=
  between [] ".".toList before after ||
    between "SET search_path = ".toList ";".toList before after ||
    between "SELECT pg_catalog.set_config('search_path', '".toList "', false);".toList before after

theorem schemaWords : Words publicName restoreSchema where
  distinct := ⟨_, _, _, _, rfl, rfl, by decide⟩
  tail_plain := by decide

theorem point_passage : Passage publicName restoreSchema [] ".".toList where
  opening_plain := by decide
  closing_plain := by decide
  head := by
    obtain ⟨tail, whole, once⟩ := head_once
      (show ([] ++ (publicName ++ ".".toList)).head? = some 'p' by decide)
      (by decide)
    exact ⟨'p', tail, whole, once, by decide, by decide⟩

theorem set_passage :
    Passage publicName restoreSchema "SET search_path = ".toList ";".toList where
  opening_plain := by decide
  closing_plain := by decide
  head := by
    obtain ⟨tail, whole, once⟩ := head_once
      (show ("SET search_path = ".toList ++ (publicName ++ ";".toList)).head? = some 'S' by
        decide) (by decide)
    exact ⟨'S', tail, whole, once, by decide, by decide⟩

theorem setConfig_passage : Passage publicName restoreSchema
    "SELECT pg_catalog.set_config('search_path', '".toList "', false);".toList where
  opening_plain := by decide
  closing_plain := by decide
  head := by
    obtain ⟨tail, whole, once⟩ := head_once
      (show ("SELECT pg_catalog.set_config('search_path', '".toList ++
        (publicName ++ "', false);".toList)).head? = some 'S' by decide)
      (by decide)
    exact ⟨'S', tail, whole, once, by decide, by decide⟩

theorem point_text : "public.".toList = [] ++ (publicName ++ ".".toList) := by decide

theorem set_text : "SET search_path = public;".toList =
    "SET search_path = ".toList ++ (publicName ++ ";".toList) := by decide

theorem setConfig_text :
    "SELECT pg_catalog.set_config('search_path', 'public', false);".toList =
      "SELECT pg_catalog.set_config('search_path', '".toList ++
        (publicName ++ "', false);".toList) := by decide

/-- The three calls rename, in one go, the names that stand in one of the three places: no
replacement makes or breaks a place of another. -/
theorem rewriteSql_eq (sql : List Char) :
    rewriteSql restoreSchema sql =
      spell publicName restoreSchema placed [] (tokens publicName sql) := by
  have tokenized : Tokenized publicName (tokens publicName sql) := tokens_tokenized sql
  have unread : spell publicName restoreSchema (fun _ _ => false) []
      (tokens publicName sql) = sql := spell_tokens restoreSchema [] sql
  have first : replace "public.".toList (restoreSchema ++ ".".toList) sql =
      spell publicName restoreSchema (between [] ".".toList) [] (tokens publicName sql) := by
    nth_rewrite 1 [← unread]
    rw [point_text]
    exact replace_spell schemaWords point_passage tokenized
  unfold rewriteSql
  dsimp only
  rw [first, set_text, setConfig_text, List.append_assoc, List.append_assoc,
    replace_spell schemaWords set_passage tokenized,
    replace_spell schemaWords setConfig_passage tokenized]
  rfl

/-- The tokens around a name show in which of the places it stands. -/
theorem placed_tokens_iff (before after : List Char) :
    placed (tokens publicName before) (tokens publicName after) = true ↔
      Placed before after := by
  have point : between [] ".".toList (tokens publicName before) (tokens publicName after) = true ↔
      [] <:+ before ∧ ".".toList <+: after :=
    between_tokens_iff rfl (Or.inl rfl) (by decide)
  have set : between "SET search_path = ".toList ";".toList (tokens publicName before)
      (tokens publicName after) = true ↔
        "SET search_path = ".toList <:+ before ∧ ";".toList <+: after :=
    between_tokens_iff (by decide) (Or.inr ⟨_, _, rfl, by decide⟩) (by decide)
  have setConfig : between "SELECT pg_catalog.set_config('search_path', '".toList
      "', false);".toList (tokens publicName before) (tokens publicName after) = true ↔
        "SELECT pg_catalog.set_config('search_path', '".toList <:+ before ∧
          "', false);".toList <+: after :=
    between_tokens_iff (by decide) (Or.inr ⟨_, _, rfl, by decide⟩) (by decide)
  rw [placed, Bool.or_eq_true, Bool.or_eq_true, point, set, setConfig, Placed, or_assoc]
  simp

theorem tokens_publicName_append {first second : List Char}
    (apart : Apart publicName first second) :
    tokens publicName (first ++ second) = tokens publicName first ++ tokens publicName second :=
  tokens_append apart

theorem render_append (earlier later : List Piece) :
    render (earlier ++ later) = render earlier ++ render later :=
  List.flatMap_append

theorem Separate.left {earlier later : List Piece} (separate : Separate (earlier ++ later)) :
    Separate earlier := by
  rintro first second rfl
  have apart := separate first (second ++ later) (List.append_assoc first second later)
  rw [render_append] at apart
  exact apart.of_prefix (List.prefix_append _ _)

theorem Separate.right {earlier later : List Piece} (separate : Separate (earlier ++ later)) :
    Separate later := by
  rintro first second rfl
  have apart := separate (earlier ++ first) second (List.append_assoc earlier first second).symm
  rw [render_append] at apart
  exact apart.of_suffix (List.suffix_append _ _)

def Piece.tokens (piece : Piece) : List (Option Char) := Text.tokens publicName piece.text

/-- The tokens of a dump are those of its parts. -/
theorem Separate.tokens_render {pieces : List Piece} (separate : Separate pieces) :
    tokens publicName (render pieces) = pieces.flatMap Piece.tokens := by
  induction pieces with
  | nil => rfl
  | cons piece pieces ih =>
    have split : Separate ([piece] ++ pieces) := separate
    have alone : render [piece] = piece.text := by simp [render]
    have apart := split [piece] pieces rfl
    rw [alone] at apart
    calc tokens publicName (render (piece :: pieces))
      _ = tokens publicName (piece.text ++ render pieces) := rfl
      _ = piece.tokens ++ tokens publicName (render pieces) := tokens_publicName_append apart
      _ = piece.tokens ++ pieces.flatMap Piece.tokens := by rw [ih split.right]

section Images

variable {renamed : List (Option Char) → List (Option Char) → Bool} {before : List (Option Char)}

/-- What becomes of a part that stands before some others. -/
def image (renamed : List (Option Char) → List (Option Char) → Bool) (before : List (Option Char))
    (piece : Piece) (later : List Piece) : List Char :=
  spell publicName restoreSchema
    (fun earlier rest => renamed earlier (rest ++ later.flatMap Piece.tokens)) before piece.tokens

theorem spell_cons (piece : Piece) (later : List Piece) :
    spell publicName restoreSchema renamed before ((piece :: later).flatMap Piece.tokens) =
      image renamed before piece later ++ spell publicName restoreSchema renamed
        (before ++ piece.tokens) (later.flatMap Piece.tokens) :=
  spell_append before piece.tokens (later.flatMap Piece.tokens)

theorem Redirected.spelled {piece : Piece} {sql : List Char} (redirected : Redirected piece sql) :
    ∃ renamed, sql = spell publicName restoreSchema renamed [] piece.tokens := by
  cases redirected with
  | data => exact ⟨fun _ _ => false, (spell_tokens restoreSchema [] sql).symm⟩
  | reference => exact ⟨fun _ _ => true, rfl⟩
  | code text renamed => exact ⟨renamed, rfl⟩

/-- A text that begins with a possible image of a part begins with its image. -/
theorem Redirected.unique {piece : Piece} {later : List Piece} {sql behind behind' : List Char}
    (redirected : Redirected piece sql)
    (equal : image renamed before piece later ++ behind = sql ++ behind') :
    image renamed before piece later = sql ∧ behind = behind' := by
  obtain ⟨other, rfl⟩ := redirected.spelled
  obtain ⟨same, ends⟩ := spell_agree schemaWords.distinct equal
  exact ⟨spell_congr same, ends⟩

/-- A dump is rewritten as it should be exactly if each of its parts is. -/
theorem spell_images_iff {pieces : List Piece} :
    (∃ images, List.Forall₂ Redirected pieces images ∧
      spell publicName restoreSchema renamed before (pieces.flatMap Piece.tokens) =
        images.flatten) ↔
    ∀ earlier piece later, pieces = earlier ++ piece :: later →
      Redirected piece (image renamed (before ++ earlier.flatMap Piece.tokens) piece later) := by
  induction pieces generalizing before with
  | nil =>
    constructor
    · intro _ earlier piece later whole
      exact absurd whole.symm (List.append_ne_nil_of_right_ne_nil _ (List.cons_ne_nil _ _))
    · intro _
      exact ⟨[], List.Forall₂.nil, rfl⟩
  | cons first pieces ih =>
    constructor
    · rintro ⟨images, all, equal⟩ earlier piece later whole
      obtain ⟨sql, images, redirected, rest, rfl⟩ := List.forall₂_cons_left_iff.mp all
      rw [spell_cons, List.flatten_cons] at equal
      obtain ⟨same, continued⟩ := redirected.unique equal
      cases earlier with
      | nil =>
        obtain ⟨rfl, rfl⟩ := List.cons.inj whole
        rw [List.flatMap_nil, List.append_nil, same]
        exact redirected
      | cons _ earlier =>
        obtain ⟨rfl, same'⟩ := List.cons.inj whole
        have next := ih.mp ⟨images, rest, continued⟩ earlier piece later same'
        rw [List.append_assoc] at next
        exact next
    · intro all
      have here := all [] first pieces rfl
      rw [List.flatMap_nil, List.append_nil] at here
      have rest : ∀ earlier piece later, pieces = earlier ++ piece :: later →
          Redirected piece (image renamed (before ++ first.tokens ++
            earlier.flatMap Piece.tokens) piece later) := by
        intro earlier piece later whole
        have next := all (first :: earlier) piece later (by rw [whole, List.cons_append])
        rw [List.flatMap_cons, ← List.append_assoc] at next
        exact next
      obtain ⟨images, rest, continued⟩ := ih.mpr rest
      refine ⟨image renamed before first pieces :: images, List.Forall₂.cons here rest, ?_⟩
      rw [spell_cons, continued, List.flatten_cons]

theorem image_data_iff {value : List Char} {later : List Piece} :
    image renamed before (.data value) later = value ↔
      ∀ front back, value = front ++ (publicName ++ back) →
        renamed (before ++ tokens publicName front)
          (tokens publicName back ++ later.flatMap Piece.tokens) = false := by
  have unread : spell publicName restoreSchema (fun _ _ => false) [] (tokens publicName value) =
      value := spell_tokens restoreSchema [] value
  constructor
  · rintro kept front back rfl
    have equal : image renamed before (.data (front ++ (publicName ++ back))) later ++ [] =
        spell publicName restoreSchema (fun _ _ => false) []
          (tokens publicName (front ++ (publicName ++ back))) ++ [] := by rw [kept, unread]
    exact (spell_agree schemaWords.distinct equal).1 _ _ (tokens_occurrence (by decide) front back)
  · intro unnamed
    nth_rewrite 2 [← unread]
    apply spell_congr
    intro earlier behind whole
    obtain ⟨front, back, split, rfl, rfl⟩ := tokens_split whole
    exact unnamed front back split

theorem image_reference_iff {later : List Piece} :
    image renamed before .reference later = restoreSchema ↔
      renamed before (later.flatMap Piece.tokens) = true := by
  have whole : image renamed before .reference later =
      if renamed before (later.flatMap Piece.tokens) then restoreSchema else publicName :=
    List.append_nil _
  rw [whole]
  cases renamed before (later.flatMap Piece.tokens) with
  | true => simp
  | false =>
    rw [if_neg Bool.false_ne_true]
    exact iff_of_false (by decide) Bool.false_ne_true

theorem redirected_code (text : List Char) (later : List Piece) :
    Redirected (.code text) (image renamed before (.code text) later) := by
  have same : image renamed before (.code text) later =
      spell publicName restoreSchema (fun earlier rest =>
        renamed (before ++ earlier) (rest ++ later.flatMap Piece.tokens)) []
          (tokens publicName text) := spell_congr fun _ _ _ => rfl
  rw [same]
  exact Redirected.code text _

end Images

section Surroundings

variable {earlier later : List Piece}

/-- A data value is kept exactly if no name in it stands in one of the places. -/
theorem Separate.data_kept_iff {value : List Char}
    (separate : Separate (earlier ++ .data value :: later)) :
    image placed (earlier.flatMap Piece.tokens) (.data value) later = value ↔
      ∀ front back, value = front ++ (publicName ++ back) →
        ¬ Placed (render earlier ++ front) (back ++ render later) := by
  have split : Separate ((earlier ++ [.data value]) ++ later) := by
    rw [List.append_assoc]
    exact separate
  rw [image_data_iff]
  refine forall_congr' fun front => forall_congr' fun back => imp_congr_right fun whole => ?_
  have opened : Apart publicName (render earlier) front := by
    have apart := split.left earlier [.data value] rfl
    apply apart.of_prefix
    exact ⟨publicName ++ back, by simp [render, Piece.text, whole]⟩
  have closed : Apart publicName back (render later) := by
    have apart := split (earlier ++ [.data value]) later rfl
    apply apart.of_suffix
    exact ⟨render earlier ++ (front ++ publicName), by
      simp [render, Piece.text, whole]⟩
  have joined := placed_tokens_iff (render earlier ++ front) (back ++ render later)
  rw [tokens_publicName_append opened, tokens_publicName_append closed, separate.left.tokens_render,
    split.right.tokens_render] at joined
  rw [← joined, Bool.not_eq_true]

/-- A reference is redirected exactly if it stands in one of the places. -/
theorem Separate.reference_redirected_iff
    (separate : Separate (earlier ++ .reference :: later)) :
    image placed (earlier.flatMap Piece.tokens) .reference later = restoreSchema ↔
      Placed (render earlier) (render later) := by
  have split : Separate ((earlier ++ [.reference]) ++ later) := by
    rw [List.append_assoc]
    exact separate
  rw [image_reference_iff, ← placed_tokens_iff, separate.left.tokens_render,
    split.right.tokens_render]

end Surroundings

/-- A dump is rewritten as it should be exactly if each of its parts is, in its place. -/
theorem Dump.redirectedTo_iff_images (dump : Dump) :
    dump.RedirectedTo (rewriteSql restoreSchema (render dump.pieces)) ↔
      ∀ earlier piece later, dump.pieces = earlier ++ piece :: later →
        Redirected piece (image placed (earlier.flatMap Piece.tokens) piece later) := by
  unfold Dump.RedirectedTo
  rw [rewriteSql_eq, dump.separate.tokens_render]
  exact spell_images_iff

theorem Redirected.data_eq {value sql : List Char} (redirected : Redirected (.data value) sql) :
    sql = value := by
  cases redirected
  rfl

theorem Redirected.reference_eq {sql : List Char} (redirected : Redirected .reference sql) :
    sql = restoreSchema := by
  cases redirected
  rfl

theorem Dump.RedirectedTo.unplaced {dump : Dump}
    (redirected : dump.RedirectedTo (rewriteSql restoreSchema (render dump.pieces)))
    {earlier later : List Piece} {value : List Char}
    (whole : dump.pieces = earlier ++ .data value :: later) {front back : List Char}
    (occurrence : value = front ++ (publicName ++ back)) :
    ¬ Placed (render earlier ++ front) (back ++ render later) := by
  have separate := dump.separate
  have kept := (dump.redirectedTo_iff_images.mp redirected earlier _ later whole).data_eq
  rw [whole] at separate
  exact separate.data_kept_iff.mp kept front back occurrence

theorem Dump.RedirectedTo.placed {dump : Dump}
    (redirected : dump.RedirectedTo (rewriteSql restoreSchema (render dump.pieces)))
    {earlier later : List Piece} (whole : dump.pieces = earlier ++ .reference :: later) :
    Placed (render earlier) (render later) := by
  have separate := dump.separate
  have moved := (dump.redirectedTo_iff_images.mp redirected earlier _ later whole).reference_eq
  rw [whole] at separate
  exact separate.reference_redirected_iff.mp moved

/-- The rewriting keeps the data values and redirects the references exactly if the names in the
one stand in none of its three places, and those of the other all do. -/
theorem Dump.redirectedTo_rewriteSql_iff (dump : Dump) :
    dump.RedirectedTo (rewriteSql restoreSchema (render dump.pieces)) ↔
      (∀ earlier value later, dump.pieces = earlier ++ .data value :: later →
        ∀ front back, value = front ++ (publicName ++ back) →
          ¬ Placed (render earlier ++ front) (back ++ render later)) ∧
      ∀ earlier later, dump.pieces = earlier ++ .reference :: later →
        Placed (render earlier) (render later) := by
  constructor
  · intro redirected
    constructor
    · intro earlier value later whole front back occurrence
      exact redirected.unplaced whole occurrence
    · intro earlier later whole
      exact redirected.placed whole
  · rintro ⟨kept, moved⟩
    rw [dump.redirectedTo_iff_images]
    intro earlier piece later whole
    have separate := dump.separate
    rw [whole] at separate
    cases piece with
    | data value =>
      rw [separate.data_kept_iff.mpr (kept earlier value later whole)]
      exact Redirected.data value
    | reference =>
      rw [separate.reference_redirected_iff.mpr (moved earlier later whole)]
      exact Redirected.reference
    | code text => exact redirected_code text later

/-- A row of a table of notes, in which a table is named. -/
def notesDump : Dump where
  pieces := [.code "COPY ".toList, .reference, .code ".notes (text) FROM stdin;\n".toList,
    .data "see public.agents".toList, .code "\n\\.\n".toList]
  separate := by decide +kernel

theorem notesDump_not_redirected :
    ¬ notesDump.RedirectedTo (rewriteSql restoreSchema (render notesDump.pieces)) := by
  intro redirected
  have whole : notesDump.pieces =
      [.code "COPY ".toList, .reference, .code ".notes (text) FROM stdin;\n".toList] ++
        .data "see public.agents".toList :: [.code "\n\\.\n".toList] := rfl
  have occurrence : "see public.agents".toList =
      "see ".toList ++ (publicName ++ ".agents".toList) := rfl
  exact redirected.unplaced whole occurrence (Or.inl (by decide))

end BigX.Recovery
