import BigX.Reasoning.Embedding
import BigX.Run.Lru
import BigX.Run.Pool
import BigX.Run.Trace

set_option autoImplicit false

/- Calls of `embed` that share a client and its cache. What one of them awaits, others may find
or store in the meantime. -/
namespace BigX.Reasoning.EmbeddingCache

open Guardrail (Text strip)
open BigX.Reasoning.Embedding Run

variable {Token Vector : Type}

/-- What `embed` raises: an error of `embed_batch`, `embeddings[0]` of an empty list, or what a
cache without room raises when it is written. -/
inductive Failure
  | embedding (error : EmbeddingError)
  | indexError
  | valueTooLarge
  deriving DecidableEq

/-- A client's configuration. The tokenizer, SHA-256 and the mean of several vectors are what
they are; without `cacheMaxsize` there is no cache. -/
structure Client (Token Vector : Type) where
  settings : Settings
  tokenizer : Option (Tokenizer Token)
  cacheKey : Text → String
  mean : List Vector → Vector
  cacheMaxsize : Option Nat

/-- A call that awaits `embed_batch`. -/
structure Awaiting where
  text : Text
  chunks : List Text

structure State (Vector : Type) where
  cache : Option (Lru String Vector)
  calls : List Awaiting

/-- `embed` is called, and splits the text in at most so many rounds; or the batch of a call has
been posted as often as it takes, `api` telling what became of each attempt. -/
inductive Move (Vector : Type)
  | called (text : Text) (rounds : Nat)
  | answered (index : Nat) (api : Nat → Reply Vector)

/-- What a step comes to: a call returns what it found or what the API sent, raises, or waits. -/
inductive Event (Vector : Type)
  | cached (text : Text) (vector : Vector)
  | embedded (text : Text) (vector : Vector)
  | raised (text : Text) (failure : Failure)
  | awaits (text : Text)

/-- The end of `embed`: one vector of several chunks is their mean. -/
def Client.combine (client : Client Token Vector) : List Vector → Except Failure Vector
  | [] => .error .indexError
  | [vector] => .ok vector
  | vectors => .ok (client.mean vectors)

/-- `self._cache[key] = result` -/
def store (key : String) (vector : Vector) :
    Option (Lru String Vector) → Except Failure (Option (Lru String Vector))
  | none => .ok none
  | some cache =>
      if cache.maxsize = 0 then .error .valueTooLarge else .ok (some (cache.use key vector))

/-- `embed` up to the `await`. A text whose splitting does not end holds up everything else. -/
def Client.embed (client : Client Token Vector) (text : Text) (rounds : Nat)
    (state : State Vector) : Except String (State Vector × Event Vector) :=
  match validateText text with
  | .error error => .ok (state, .raised text (.embedding error))
  | .ok () =>
    match (state.cache.bind fun cache => (cache.lookup (client.cacheKey text)).map fun vector =>
        (cache, vector)) with
    | some (cache, vector) =>
        .ok ({ state with cache := some (cache.use (client.cacheKey text) vector) },
          .cached text vector)
    | none =>
        match client.settings.chunkText client.tokenizer rounds text with
        | none => .error "still splitting"
        | some (.error error) => .ok (state, .raised text (.embedding error))
        | some (.ok chunks) =>
            .ok ({ state with calls := state.calls ++ [⟨text, chunks⟩] }, .awaits text)

/-- The rest of `embed`. What `embed_batch` raises before it posts anything is raised here too:
nothing that others see happens before it. -/
def Client.resume (client : Client Token Vector) (call : Awaiting) (api : Nat → Reply Vector)
    (cache : Option (Lru String Vector)) : Except Failure (Vector × Option (Lru String Vector)) :=
  match client.settings.embedBatch (fun _ => api) call.chunks none with
  | .error error => .error (.embedding error)
  | .ok vectors => do
      let vector ← client.combine vectors
      let cache ← store (client.cacheKey call.text) vector cache
      return (vector, cache)

def Client.step (client : Client Token Vector) (move : Move Vector) (state : State Vector) :
    Except String (State Vector × Event Vector) :=
  match move with
  | .called text rounds => client.embed text rounds state
  | .answered index api =>
      match takeOut index state.calls with
      | none => .error "no such call"
      | some (call, calls) =>
          match client.resume call api state.cache with
          | .error failure => .ok ({ state with calls := calls }, .raised call.text failure)
          | .ok (vector, cache) => .ok (⟨cache, calls⟩, .embedded call.text vector)

def Client.opened (client : Client Token Vector) : State Vector :=
  ⟨client.cacheMaxsize.map Lru.empty, []⟩

abbrev Client.history (client : Client Token Vector) (moves : List (Move Vector)) :
    Trace (State Vector) (Move Vector) (Event Vector) :=
  run client.step client.opened moves

abbrev Entry (Vector : Type) : Type := Run.Entry (State Vector) (Move Vector) (Event Vector)

/-- What an entry reads from the cache or writes to it. -/
def Client.use (client : Client Token Vector) (entry : Entry Vector) : Option (String × Vector) :=
  match entry.output with
  | .cached text vector => some (client.cacheKey text, vector)
  | .embedded text vector => some (client.cacheKey text, vector)
  | _ => none

/-- The uses of the cache, the latest first. -/
def Client.uses (client : Client Token Vector) (past : List (Entry Vector)) :
    List (String × Vector) :=
  past.reverse.filterMap client.use

/-- The vector is what the API sent for the chunks of a text with this key. -/
def Client.Sent (client : Client Token Vector) (past : List (Entry Vector)) (key : String)
    (vector : Vector) : Prop :=
  ∃ entry ∈ past, ∃ index api text rounds chunks vectors,
    entry.input = .answered index api ∧ entry.output = .embedded text vector ∧
      client.cacheKey text = key ∧
      client.settings.chunkText client.tokenizer rounds text = some (.ok chunks) ∧
      client.settings.embedBatch (fun _ => api) chunks none = .ok vectors ∧
      client.combine vectors = .ok vector

/-- A call finds its text in the cache exactly if, since the text was last found or stored, fewer
other texts have been than there is room for; and it finds what that use found or stored. -/
def Client.Found (client : Client Token Vector) (past : List (Entry Vector)) (text : Text)
    (vector : Vector) : Prop :=
  strip text ≠ [] ∧ ∃ maxsize ∈ client.cacheMaxsize,
    (client.uses past).find? (fun used => used.1 = client.cacheKey text) =
      some (client.cacheKey text, vector) ∧
    (((client.uses past).map Prod.fst).takeWhile fun used =>
      used ≠ client.cacheKey text).toFinset.card < maxsize

/-- An entry serves what it should. -/
structure Client.Served (client : Client Token Vector) (earlier : List (Entry Vector))
    (entry : Entry Vector) : Prop where
  found : ∀ text rounds, entry.input = .called text rounds → ∀ vector,
    entry.output = .cached text vector ↔ client.Found earlier text vector
  sent : ∀ use ∈ client.use entry, client.Sent (earlier ++ [entry]) use.1 use.2

/-- Everything that a step can do. -/
inductive Client.Stepped (client : Client Token Vector) (before : State Vector) :
    Move Vector → State Vector → Event Vector → Prop
  | blank (text : Text) (rounds : Nat) (error : EmbeddingError) (blank : strip text = []) :
      Stepped client before (.called text rounds) before (.raised text (.embedding error))
  | cached (text : Text) (rounds : Nat) (cache : Lru String Vector) (vector : Vector)
      (written : strip text ≠ []) (held : before.cache = some cache)
      (found : cache.lookup (client.cacheKey text) = some vector) :
      Stepped client before (.called text rounds)
        { before with cache := some (cache.use (client.cacheKey text) vector) }
        (.cached text vector)
  | unsplit (text : Text) (rounds : Nat) (error : EmbeddingError)
      (absent : ∀ cache ∈ before.cache, cache.lookup (client.cacheKey text) = none) :
      Stepped client before (.called text rounds) before (.raised text (.embedding error))
  | awaits (text : Text) (rounds : Nat) (chunks : List Text)
      (absent : ∀ cache ∈ before.cache, cache.lookup (client.cacheKey text) = none)
      (split : client.settings.chunkText client.tokenizer rounds text = some (.ok chunks)) :
      Stepped client before (.called text rounds)
        { before with calls := before.calls ++ [⟨text, chunks⟩] } (.awaits text)
  | failed (index : Nat) (api : Nat → Reply Vector) (call : Awaiting) (calls : List Awaiting)
      (failure : Failure) (taken : takeOut index before.calls = some (call, calls)) :
      Stepped client before (.answered index api) { before with calls := calls }
        (.raised call.text failure)
  | embedded (index : Nat) (api : Nat → Reply Vector) (call : Awaiting) (calls : List Awaiting)
      (vectors : List Vector) (vector : Vector) (cache : Option (Lru String Vector))
      (taken : takeOut index before.calls = some (call, calls))
      (sent : client.settings.embedBatch (fun _ => api) call.chunks none = .ok vectors)
      (combined : client.combine vectors = .ok vector)
      (stored : store (client.cacheKey call.text) vector before.cache = .ok cache) :
      Stepped client before (.answered index api) ⟨cache, calls⟩ (.embedded call.text vector)

variable {client : Client Token Vector}

theorem validateText_cases (text : Text) :
    (∃ error, validateText text = .error error ∧ strip text = []) ∨
      validateText text = .ok () ∧ strip text ≠ [] := by
  by_cases blank : strip text = []
  · left
    exact ⟨_, by rw [validateText, if_pos blank], blank⟩
  · right
    exact ⟨validateText_ok blank, blank⟩

theorem embed_stepped {text : Text} {rounds : Nat} {before after : State Vector}
    {event : Event Vector} (accepted : client.embed text rounds before = .ok (after, event)) :
    client.Stepped before (.called text rounds) after event := by
  unfold Client.embed at accepted
  rcases validateText_cases text with ⟨error, invalid, blank⟩ | ⟨valid, written⟩
  · rw [invalid] at accepted
    cases accepted
    exact .blank text rounds error blank
  · rw [valid] at accepted
    dsimp only at accepted
    split at accepted
    · rename_i cache vector looked
      cases accepted
      obtain ⟨_, held, mapped⟩ := Option.bind_eq_some_iff.mp looked
      obtain ⟨_, found, same⟩ := Option.map_eq_some_iff.mp mapped
      cases same
      exact .cached text rounds cache vector written held found
    · rename_i nothing
      have absent : ∀ cache ∈ before.cache, cache.lookup (client.cacheKey text) = none := by
        intro cache held
        rw [Option.mem_def] at held
        rw [held] at nothing
        simpa using nothing
      split at accepted
      · cases accepted
      · cases accepted
        exact .unsplit text rounds _ absent
      · rename_i chunks split
        cases accepted
        exact .awaits text rounds chunks absent split

theorem step_stepped {move : Move Vector} {before after : State Vector} {event : Event Vector}
    (accepted : client.step move before = .ok (after, event)) :
    client.Stepped before move after event := by
  cases move with
  | called text rounds => exact embed_stepped accepted
  | answered index api =>
    simp only [Client.step] at accepted
    split at accepted
    · cases accepted
    · rename_i call calls taken
      unfold Client.resume at accepted
      cases batch : client.settings.embedBatch (fun _ => api) call.chunks none with
      | error error =>
        rw [batch] at accepted
        cases accepted
        exact .failed index api call calls _ taken
      | ok vectors =>
        rw [batch] at accepted
        cases combined : client.combine vectors with
        | error failure =>
          simp only [combined, Bind.bind, Except.bind] at accepted
          cases accepted
          exact .failed index api call calls failure taken
        | ok vector =>
          cases stored : store (client.cacheKey call.text) vector before.cache with
          | error failure =>
            simp only [combined, stored, Bind.bind, Except.bind] at accepted
            cases accepted
            exact .failed index api call calls failure taken
          | ok cache =>
            simp only [combined, stored, Bind.bind, Except.bind] at accepted
            cases accepted
            exact .embedded index api call calls vectors vector cache taken batch combined stored

theorem uses_snoc (past : List (Entry Vector)) (entry : Entry Vector) :
    client.uses (past ++ [entry]) = (client.use entry).toList ++ client.uses past := by
  unfold Client.uses
  rw [List.reverse_append, List.reverse_singleton, List.singleton_append, List.filterMap_cons]
  cases client.use entry <;> rfl

theorem Client.Sent.snoc {past : List (Entry Vector)} {key : String} {vector : Vector}
    (sent : client.Sent past key vector) (entry : Entry Vector) :
    client.Sent (past ++ [entry]) key vector := by
  obtain ⟨earlier, member, rest⟩ := sent
  exact ⟨earlier, List.mem_append_left _ member, rest⟩

/-- The invariant: the cache is what its uses make of it, every use has been sent, and the calls
that wait have their texts split. -/
structure Kept (client : Client Token Vector) (past : List (Entry Vector)) (now : State Vector) :
    Prop where
  maxsize : now.cache.map Lru.maxsize = client.cacheMaxsize
  follows : ∀ cache ∈ now.cache, cache.Follows (client.uses past)
  sent : ∀ use ∈ client.uses past, client.Sent past use.1 use.2
  split : ∀ call ∈ now.calls, ∃ rounds,
    client.settings.chunkText client.tokenizer rounds call.text = some (.ok call.chunks)

theorem Kept.start (client : Client Token Vector) : Kept client [] client.opened := by
  refine ⟨?_, ?_, ?_, ?_⟩
  · unfold Client.opened
    cases client.cacheMaxsize <;> rfl
  · intro cache held
    obtain ⟨size, _, rfl⟩ := Option.map_eq_some_iff.mp held
    exact Lru.Follows.empty size
  · intro use member
    cases member
  · intro call member
    cases member

/-- What is found is told by the uses. -/
theorem Kept.lookup_iff {past : List (Entry Vector)} {now : State Vector}
    (kept : Kept client past now) {text : Text} {vector : Vector} (written : strip text ≠ []) :
    client.Found past text vector ↔
      ∃ cache ∈ now.cache, cache.lookup (client.cacheKey text) = some vector := by
  constructor
  · rintro ⟨_, maxsize, size, found⟩
    rw [Option.mem_def, ← kept.maxsize] at size
    obtain ⟨cache, held, rfl⟩ := Option.map_eq_some_iff.mp size
    exact ⟨cache, held, (kept.follows cache held).lookup_iff.mpr found⟩
  · rintro ⟨cache, held, found⟩
    refine ⟨written, cache.maxsize, ?_, (kept.follows cache held).lookup_iff.mp found⟩
    rw [← kept.maxsize, held]
    rfl

/-- A step that uses nothing changes nothing that is known. -/
theorem Kept.unused {past : List (Entry Vector)} {now after : State Vector}
    (kept : Kept client past now) (entry : Entry Vector) (silent : client.use entry = none)
    (cache : after.cache = now.cache)
    (split : ∀ call ∈ after.calls, ∃ rounds,
      client.settings.chunkText client.tokenizer rounds call.text = some (.ok call.chunks)) :
    Kept client (past ++ [entry]) after := by
  have same : client.uses (past ++ [entry]) = client.uses past := by
    rw [uses_snoc, silent]
    rfl
  refine ⟨?_, ?_, ?_, split⟩
  · rw [cache]
    exact kept.maxsize
  · rw [cache, same]
    exact kept.follows
  · rw [same]
    intro use member
    exact (kept.sent use member).snoc entry

/-- A step that reads or writes an entry that has been sent. -/
theorem Kept.used {past : List (Entry Vector)} {now after : State Vector}
    (kept : Kept client past now) (entry : Entry Vector) {key : String} {vector : Vector}
    (used : client.use entry = some (key, vector))
    (sent : client.Sent (past ++ [entry]) key vector)
    (cache : after.cache = now.cache.map fun cache => cache.use key vector)
    (split : ∀ call ∈ after.calls, ∃ rounds,
      client.settings.chunkText client.tokenizer rounds call.text = some (.ok call.chunks)) :
    Kept client (past ++ [entry]) after := by
  have same : client.uses (past ++ [entry]) = (key, vector) :: client.uses past := by
    rw [uses_snoc, used]
    rfl
  refine ⟨?_, ?_, ?_, split⟩
  · rw [cache, ← kept.maxsize, Option.map_map]
    rfl
  · rw [cache, same]
    intro next member
    obtain ⟨earlier, held, rfl⟩ := Option.map_eq_some_iff.mp member
    exact (kept.follows earlier held).use key vector
  · rw [same]
    intro use member
    rcases List.mem_cons.mp member with rfl | earlier
    · exact sent
    · exact (kept.sent use earlier).snoc entry

theorem store_eq {key : String} {vector : Vector} {before after : Option (Lru String Vector)}
    (stored : store key vector before = .ok after) :
    after = before.map fun cache => cache.use key vector := by
  cases before with
  | none =>
    cases stored
    rfl
  | some cache =>
    unfold store at stored
    dsimp only at stored
    split at stored
    · cases stored
    · cases stored
      rfl

theorem Kept.not_found {past : List (Entry Vector)} {now : State Vector}
    (kept : Kept client past now) {text : Text}
    (absent : ∀ cache ∈ now.cache, cache.lookup (client.cacheKey text) = none)
    (vector : Vector) : ¬ client.Found past text vector := by
  intro found
  obtain ⟨cache, held, looked⟩ := (kept.lookup_iff found.1).mp found
  rw [absent cache held] at looked
  cases looked

theorem step_kept {past : List (Entry Vector)} {now after : State Vector} {move : Move Vector}
    {event : Event Vector} (kept : Kept client past now)
    (accepted : client.step move now = .ok (after, event)) :
    client.Served past ⟨now, move, event, after⟩ ∧
      Kept client (past ++ [⟨now, move, event, after⟩]) after := by
  cases step_stepped accepted with
  | blank text rounds error blank =>
    refine ⟨⟨?_, ?_⟩, kept.unused _ rfl rfl kept.split⟩
    · intro _ _ called vector
      cases called
      exact iff_of_false (fun other => by cases other) fun found => found.1 blank
    · intro use used
      cases used
  | cached text rounds cache vector written held found =>
    have latest := (kept.lookup_iff written).mpr ⟨cache, held, found⟩
    have sent : client.Sent past (client.cacheKey text) vector := by
      obtain ⟨_, _, _, last, _⟩ := latest
      exact kept.sent _ (List.mem_of_find?_eq_some last)
    refine ⟨⟨?_, ?_⟩, kept.used _ rfl (sent.snoc _) ?_ kept.split⟩
    · intro _ _ called other
      cases called
      constructor
      · intro same
        cases same
        exact latest
      · intro also
        obtain ⟨again, same, looked⟩ := (kept.lookup_iff written).mp also
        rw [held, Option.mem_some_iff] at same
        rw [← same, found] at looked
        rw [Option.some.inj looked]
    · intro use used
      cases used
      exact sent.snoc _
    · rw [held]
      rfl
  | unsplit text rounds error absent =>
    refine ⟨⟨?_, ?_⟩, kept.unused _ rfl rfl kept.split⟩
    · intro _ _ called vector
      cases called
      exact iff_of_false (fun other => by cases other) (kept.not_found absent vector)
    · intro use used
      cases used
  | awaits text rounds chunks absent split =>
    refine ⟨⟨?_, ?_⟩, kept.unused _ rfl rfl ?_⟩
    · intro _ _ called vector
      cases called
      exact iff_of_false (fun other => by cases other) (kept.not_found absent vector)
    · intro use used
      cases used
    · intro call member
      rcases List.mem_append.mp member with earlier | last
      · exact kept.split call earlier
      · rw [List.mem_singleton.mp last]
        exact ⟨rounds, split⟩
  | failed index api call calls failure taken =>
    have others := (takeOut_perm taken).symm.subset
    refine ⟨⟨?_, ?_⟩, kept.unused _ rfl rfl ?_⟩
    · intro _ _ called
      cases called
    · intro use used
      cases used
    · intro other member
      exact kept.split other (others (List.mem_cons_of_mem call member))
  | embedded index api call calls vectors vector cache taken batch combined stored =>
    have others := (takeOut_perm taken).symm.subset
    obtain ⟨rounds, split⟩ := kept.split call (others List.mem_cons_self)
    have sent : client.Sent (past ++ [⟨now, .answered index api, .embedded call.text vector,
        ⟨cache, calls⟩⟩]) (client.cacheKey call.text) vector :=
      ⟨_, List.mem_append_right past List.mem_cons_self, index, api, call.text, rounds,
        call.chunks, vectors, rfl, rfl, rfl, split, batch, combined⟩
    refine ⟨⟨?_, ?_⟩, kept.used _ rfl sent (store_eq stored) ?_⟩
    · intro _ _ called
      cases called
    · intro use used
      cases used
      exact sent
    · intro other member
      exact kept.split other (others (List.mem_cons_of_mem call member))

end BigX.Reasoning.EmbeddingCache
