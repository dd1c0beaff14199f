import BigX.Reasoning.Embedding

set_option autoImplicit false

/- The knowledge base: how it cuts a document into chunks, and what it stores of them. -/
namespace BigX.Reasoning.KnowledgeBase

open Guardrail (Text isSpace strip)
open BigX.Reasoning.Embedding Text

def chunkSizeChars : Nat := 1500
def chunkOverlapChars : Nat := 200

/-- The loop of `_chunk_text`, from a state of its two variables on. -/
def chunkText.loop (text : Text) (chunks : List Text) (start : Nat) : List Text :=
  if start < text.length then
    let stop := start + chunkSizeChars
    chunkText.loop text (chunks ++ [slice text start stop]) (stop - chunkOverlapChars)
  else chunks
termination_by text.length - start
decreasing_by
  simp only [chunkSizeChars, chunkOverlapChars]
  omega

/-- `KnowledgeBase._chunk_text` -/
def chunkText (text : Text) : List Text := chunkText.loop text [] 0

section Chunks

/-- How far a chunk begins behind the one before. -/
def stride : Nat := chunkSizeChars - chunkOverlapChars

/-- How many chunks begin before the end of a text. -/
def chunkCount (length : Nat) : Nat := (length + 1299) / 1300

theorem stride_mul_lt_iff (length index : Nat) :
    stride * index < length ↔ index < chunkCount length := by
  show 1300 * index < length ↔ index < (length + 1299) / 1300
  omega

theorem chunkText_loop_eq {text : Text} {count left : Nat}
    (total : count + left = chunkCount text.length) :
    chunkText.loop text (windows chunkSizeChars stride count text) (stride * count) =
      windows chunkSizeChars stride (chunkCount text.length) text := by
  induction left generalizing count with
  | zero =>
    have reached := (stride_mul_lt_iff text.length count).not.mpr (by omega)
    rw [chunkText.loop, if_neg reached, ← total, Nat.add_zero]
  | succ left ih =>
    have before := (stride_mul_lt_iff text.length count).mpr (by omega)
    have next : stride * count + chunkSizeChars - chunkOverlapChars = stride * (count + 1) := by
      show 1300 * count + 1500 - 200 = 1300 * (count + 1)
      omega
    have chunk : slice text (stride * count : Nat) (stride * count + chunkSizeChars : Nat) =
        (text.drop (stride * count)).take chunkSizeChars := by
      rw [Int.natCast_add]
      exact slice_window text (stride * count) chunkSizeChars
    rw [chunkText.loop, if_pos before]
    dsimp only
    rw [chunk, ← windows_succ, next]
    exact ih (by omega)

theorem chunkText_eq (text : Text) :
    chunkText text = windows chunkSizeChars stride (chunkCount text.length) text :=
  chunkText_loop_eq (show 0 + chunkCount text.length = _ from Nat.zero_add _)

theorem chunkText_short {text chunk : Text} (member : chunk ∈ chunkText text) :
    chunk.length ≤ chunkSizeChars := by
  rw [chunkText_eq] at member
  exact length_le_of_mem_windows member

theorem chunkText_whole (text : Text) :
    reassemble chunkOverlapChars (chunkText text) = text := by
  rw [chunkText_eq]
  have reached := (stride_mul_lt_iff text.length (chunkCount text.length)).not.mpr (by omega)
  show reassemble 200 (windows (stride + 200) stride (chunkCount text.length) text) = text
  exact reassemble_windows (Nat.le_of_not_lt reached)

/-- Only the last chunk can lie within the one before, and it does if the text ends there. -/
theorem chunkText_fresh_iff (text : Text) :
    (∀ chunk ∈ (chunkText text).tail, chunkOverlapChars < chunk.length) ↔
      text.length ≤ 1300 ∨ text.length % 1300 = 0 ∨ 200 < text.length % 1300 := by
  have length : ∀ index, ((text.drop (stride * index)).take chunkSizeChars).length =
      min 1500 (text.length - 1300 * index) := by
    intro index
    rw [List.length_take, List.length_drop]
    rfl
  simp only [chunkText_eq, mem_tail_windows, ← stride_mul_lt_iff]
  constructor
  · intro fresh
    by_contra! redundant
    have last := fresh _ ⟨text.length / 1300, by omega, ?_, rfl⟩
    · rw [length] at last
      change 200 < _ at last
      omega
    · show 1300 * (text.length / 1300) < text.length
      omega
  · rintro long chunk ⟨index, positive, before, rfl⟩
    rw [length]
    change 1300 * index < text.length at before
    change 200 < _
    have further : text.length = 1300 * (text.length / 1300) + text.length % 1300 := by omega
    rcases Nat.lt_or_ge index (text.length / 1300) with early | last
    · omega
    · omega

/-- What the chunks of a text are to be: short enough, the text without the overlaps, and each
one more than what the one before already has. -/
structure Overlapping (text : Text) (chunks : List Text) : Prop where
  short : ∀ chunk ∈ chunks, chunk.length ≤ chunkSizeChars
  whole : reassemble chunkOverlapChars chunks = text
  fresh : ∀ chunk ∈ chunks.tail, chunkOverlapChars < chunk.length

/-- The chunks of a text are short enough and make it up, and the last one is not redundant
exactly if the text ends after the overlap of the one before. -/
theorem chunkText_overlapping_iff (text : Text) :
    Overlapping text (chunkText text) ↔
      text.length ≤ 1300 ∨ text.length % 1300 = 0 ∨ 200 < text.length % 1300 := by
  constructor
  · intro overlapping
    exact (chunkText_fresh_iff text).mp overlapping.fresh
  · intro ends
    exact ⟨fun _ member => chunkText_short member, chunkText_whole text,
      (chunkText_fresh_iff text).mpr ends⟩

/-- A text of which the second chunk is its last character, which the first one has too. -/
theorem chunkText_redundant : ¬ Overlapping (List.replicate 1301 'a')
    (chunkText (List.replicate 1301 'a')) := by
  intro overlapping
  have ends := (chunkText_fresh_iff _).mp overlapping.fresh
  rw [List.length_replicate] at ends
  revert ends
  decide

end Chunks

section Ingestion

variable {Vector : Type}

/-- A row of `knowledge_chunks`. -/
structure Row (Vector : Type) where
  id : String
  source : String
  content : Text
  embedding : Vector

/-- What the database raises, if anything, at each insert of a session and at its commit. -/
structure Database where
  execute : Nat → Option String
  commit : Option String

inductive IngestError
  | embedding (error : EmbeddingError)
  | database (error : String)

structure Outcome (Vector : Type) where
  result : Except IngestError Nat
  table : List (Row Vector)

/-- The inserts of a session, one for each chunk that has an embedding. -/
def inserts (newId : Nat → String) (source : String) (chunks : List Text)
    (embeddings : List Vector) : List (Row Vector) :=
  (chunks.zip embeddings).zipIdx.map fun ((chunk, embedding), index) =>
    { id := newId index, source := source, content := chunk, embedding := embedding }

/-- A session that raises stores nothing. -/
def Database.raises (database : Database) (count : Nat) : Option String :=
  ((List.range count).findSome? database.execute).or database.commit

/-- `ingest_document`; `newId` are the ids `uuid4` gives. -/
def ingestDocument (settings : Settings) (api : Payload → Nat → Reply Vector) (database : Database)
    (newId : Nat → String) (source : String) (text : Text) (table : List (Row Vector)) :
    Outcome Vector :=
  let chunks := chunkText text
  match settings.embedBatch api chunks none with
  | .error error => ⟨.error (.embedding error), table⟩
  | .ok embeddings =>
    let rows := inserts newId source chunks embeddings
    match database.raises rows.length with
    | some error => ⟨.error (.database error), table⟩
    | none => ⟨.ok chunks.length, table ++ rows⟩

/-- The document is in the table: a row for each chunk, in order, with the chunk's embedding. -/
def Ingested (Embeds : Text → Vector → Prop) (source : String) (text : Text)
    (table : List (Row Vector)) (outcome : Outcome Vector) : Prop :=
  outcome.result = .ok (chunkText text).length ∧
    ∃ rows, outcome.table = table ++ rows ∧
      List.Forall₂ (fun chunk row =>
        row.content = chunk ∧ row.source = source ∧ Embeds chunk row.embedding)
        (chunkText text) rows

theorem inserts_rows {Embeds : Text → Vector → Prop} (newId : Nat → String) (source : String)
    {chunks : List Text} {embeddings : List Vector}
    (embeds : List.Forall₂ Embeds chunks embeddings) : List.Forall₂ (fun chunk row =>
      row.content = chunk ∧ row.source = source ∧ Embeds chunk row.embedding)
      chunks (inserts newId source chunks embeddings) := by
  rw [inserts]
  generalize 0 = start
  induction embeds generalizing start with
  | nil => exact .nil
  | cons embedded _ ih =>
    rw [List.zip_cons_cons, List.zipIdx_cons, List.map_cons]
    exact .cons ⟨rfl, rfl, embedded⟩ (ih (start + 1))

variable {settings : Settings} {api : Payload → Nat → Reply Vector} {database : Database}

theorem raises_none (execute : ∀ index, database.execute index = none)
    (commit : database.commit = none) (count : Nat) : database.raises count = none := by
  rw [Database.raises, commit, Option.or_none, List.findSome?_eq_none_iff]
  exact fun index _ => execute index

/-- Every chunk of a text has something in it exactly if every window has. -/
theorem chunkText_written_iff (text : Text) :
    (∀ chunk ∈ chunkText text, strip chunk ≠ []) ↔
      ∀ index, 1300 * index < text.length →
        ∃ char ∈ (text.drop (1300 * index)).take 1500, isSpace char = false := by
  rw [chunkText_eq]
  constructor
  · intro written index before
    have member : (text.drop (stride * index)).take chunkSizeChars ∈
        windows chunkSizeChars stride (chunkCount text.length) text :=
      mem_windows.mpr ⟨index, (stride_mul_lt_iff text.length index).mp before, rfl⟩
    exact strip_ne_nil_iff.mp (written _ member)
  · intro written chunk member
    obtain ⟨index, below, rfl⟩ := mem_windows.mp member
    exact strip_ne_nil_iff.mpr (written index ((stride_mul_lt_iff text.length index).mpr below))

theorem chunkText_length (text : Text) : (chunkText text).length = (text.length + 1299) / 1300 := by
  rw [chunkText_eq, windows, List.length_map, List.length_range]
  rfl

theorem chunkText_ne_nil {text : Text} (nonempty : text ≠ []) : chunkText text ≠ [] := by
  have positive := List.length_pos_iff.mpr nonempty
  intro empty
  have none := chunkText_length text
  rw [empty, List.length_nil] at none
  omega

theorem ingested_fits {Embeds : Text → Vector → Prop} {newId : Nat → String} {source : String}
    {text : Text} (nonempty : text ≠ []) {table : List (Row Vector)}
    (ingested : Ingested Embeds source text table
      (ingestDocument settings api database newId source text table)) :
    ((text.length + 1299) / 1300 : Nat) ≤ settings.maxBatchSize ∧
      ∀ index, 1300 * index < text.length →
        ∃ char ∈ (text.drop (1300 * index)).take 1500, isSpace char = false := by
  have returned := ingested.1
  rw [← chunkText_written_iff, ← chunkText_length]
  rw [ingestDocument] at returned
  dsimp only at returned
  split at returned
  next => cases returned
  next embedded => exact Settings.embedBatch_ok embedded (chunkText_ne_nil nonempty)

/-- A document that is not blank is ingested exactly if it has no more chunks than fit in one
batch, and no chunk of it is blank. -/
theorem ingestDocument_iff (settings : Settings) (Embeds : Text → Vector → Prop)
    (api : Payload → Nat → Reply Vector) (answers : Answers settings.maxBatchSize Embeds api)
    (database : Database) (execute : ∀ index, database.execute index = none)
    (commit : database.commit = none) (newId : Nat → String) (source : String) (text : Text)
    (written : ∃ char ∈ text, isSpace char = false) (table : List (Row Vector)) :
    Ingested Embeds source text table
        (ingestDocument settings api database newId source text table) ↔
      ((text.length + 1299) / 1300 : Nat) ≤ settings.maxBatchSize ∧
        ∀ index, 1300 * index < text.length →
          ∃ char ∈ (text.drop (1300 * index)).take 1500, isSpace char = false := by
  have nonempty : text ≠ [] := by
    obtain ⟨char, member, _⟩ := written
    exact List.ne_nil_of_mem member
  constructor
  · exact ingested_fits nonempty
  · rintro ⟨fits, whole⟩
    rw [← chunkText_length] at fits
    rw [← chunkText_written_iff] at whole
    obtain ⟨vectors, embedded, embeds⟩ :=
      Settings.embedBatch_answered answers (chunkText_ne_nil nonempty) fits whole
    rw [ingestDocument, embedded]
    dsimp only
    rw [raises_none execute commit]
    exact ⟨rfl, _, rfl, inserts_rows newId source embeds⟩

/-- An API with vectors of one number, the length of a text. -/
def lengthApi (payload : Payload) (_attempt : Nat) : Reply Int :=
  .answered 200 (.ok (indexed 0 (payload.input.map fun text => (text.length : Int))))

def IsLength (text : Text) (vector : Int) : Prop := vector = text.length

theorem lengthApi_answers (limit : Int) : Answers limit IsLength lengthApi := by
  intro payload _ _ _
  refine ⟨payload.input.map fun text => (text.length : Int), _, rfl, List.Perm.refl _, ?_⟩
  rw [List.forall₂_map_right_iff]
  exact List.forall₂_same.mpr fun _ _ => rfl

def willing : Database := { execute := fun _ => none, commit := none }

theorem ingestDocument_short :
    Ingested IsLength "doc" "a b".toList []
        (ingestDocument {} lengthApi willing (fun _ => "id") "doc" "a b".toList []) ↔
      (("a b".toList.length + 1299) / 1300 : Nat) ≤ (100 : Int) ∧
        ∀ index, 1300 * index < "a b".toList.length →
          ∃ char ∈ ("a b".toList.drop (1300 * index)).take 1500, isSpace char = false :=
  ingestDocument_iff {} _ lengthApi (lengthApi_answers 100) willing (fun _ => rfl) rfl _ "doc"
    "a b".toList ⟨'a', by decide, by decide⟩ []

/-- A document with a blank chunk, and one of 101 chunks, with the settings as they come. -/
theorem documents_refused :
    ¬ Ingested IsLength "doc"
        ('a' :: List.replicate 3000 ' ') []
        (ingestDocument {} lengthApi willing (fun _ => "id") "doc"
          ('a' :: List.replicate 3000 ' ') []) ∧
      ¬ Ingested IsLength "doc"
        (List.replicate 130001 'a') []
        (ingestDocument {} lengthApi willing (fun _ => "id") "doc"
          (List.replicate 130001 'a') []) := by
  constructor
  · intro ingested
    have whole := (ingested_fits (List.cons_ne_nil _ _) ingested).2 1
      (by rw [List.length_cons, List.length_replicate]; decide)
    rw [List.drop_succ_cons, List.drop_replicate, List.take_replicate] at whole
    obtain ⟨char, member, unspaced⟩ := whole
    rw [List.eq_of_mem_replicate member] at unspaced
    exact absurd unspaced (by decide)
  · intro ingested
    have length : (List.replicate 130001 'a').length = 130001 := List.length_replicate
    have positive : 0 < (List.replicate 130001 'a').length := by
      rw [length]
      decide
    have fits := (ingested_fits (List.ne_nil_of_length_pos positive) ingested).1
    rw [length] at fits
    exact absurd fits (by decide)

end Ingestion

end BigX.Reasoning.KnowledgeBase
