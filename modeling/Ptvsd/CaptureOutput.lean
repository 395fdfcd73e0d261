import Ptvsd.Program
import Ptvsd.Utf8

/-!
# Capturing the Output of the Debuggee

`CaptureOutput` of the launcher: a worker reads what the debuggee writes to a descriptor, sends it
to the adapter as "output" events, and tees it into a stream of the launcher's own. The bytes are
decoded as UTF-8 for the events, and the text is encoded again, with the encoding of the stream,
for the tee.

What `os.read` returns is a list of chunks, after which it returns nothing or raises. What the tee
stream and the channel do is given by their surroundings, call by call.

## Main results

* `outputs_iff`: **the events carry the output with its newlines normalised, in whatever chunks it
  is read**, unless a `\r\n` is cut in two, or the worker dies before the end.
* `captures_iff`: the worker reads on until the end, if and only if the encoding of the tee stream
  can represent each piece of text that it decodes before that.
-/

open ByteStream Utf8

namespace Ptvsd

namespace CaptureOutput

/-! ### The worker -/

/-- `s.replace("\r\n", "\n")`. -/
def replaceCrlf : Text → Text
  | 13 :: 10 :: text => 10 :: replaceCrlf text
  | c :: text => c :: replaceCrlf text
  | [] => []

/-- What `os.read` returns, if it is anything. -/
structure Chunk where
  bytes : Bytes
  ne_nil : bytes ≠ []
  length_le : bytes.length ≤ 0x1000

/-- What `write` of the tee stream returns, and `flush` after it. -/
inductive Written where
  /-- `None`: everything has been written. -/
  | full
  | count (n : ℕ)
  /-- An exception of one of them, when `n` bytes have been accepted. -/
  | raises (n : ℕ)

/-- The encoder of the tee stream, and what the `k`-th calls of its `write` and of `send_event`
do. -/
structure Surroundings where
  /-- `self._encode(text, "surrogateescape")`; `none` stands for an exception. -/
  encode : Text → Option Bytes
  write : ℕ → Written
  /-- The channel to the adapter is still open. -/
  send : ℕ → Bool

/-- The exceptions that end the worker. -/
inductive Exception where
  /-- `UnicodeEncodeError`. -/
  | encode
  /-- `TypeError`, of `os.close(None)`. -/
  | type
  /-- An exception of the tee stream. -/
  | tee
  deriving DecidableEq

/-- The body of an "output" event. -/
structure Output where
  category : String
  output : Text
  deriving DecidableEq

/-- A `CaptureOutput`, with what it has read, sent and written. -/
structure State where
  category : String
  /-- `self._fd` is not `None`. -/
  fd : Bool
  /-- The buffer of `self._decoder`. -/
  buffer : Bytes
  /-- What `os.read` has returned. -/
  reads : List Bytes
  events : List Output
  sends : ℕ
  /-- What the tee stream has accepted. -/
  written : Bytes
  writes : ℕ

/-- `CaptureOutput.__init__`. -/
def start (category : String) : State where
  category := category
  fd := true
  buffer := []
  reads := []
  events := []
  sends := 0
  written := []
  writes := 0

/-- `launcher.channel.send_event("output", …)`, with its exceptions ignored. -/
def sendOutput (env : Surroundings) (text : Text) (σ : State) : State :=
  { σ with
    events := if env.send σ.sends then σ.events ++ [⟨σ.category, replaceCrlf text⟩] else σ.events
    sends := σ.sends + 1 }

/-- The loop of `_process_chunk`: the bytes of `s` from `i` on are written. -/
def writeFrom (env : Surroundings) (s : Bytes) (i : ℕ) : Program State Exception PUnit :=
  if i < s.length then do
    let σ ← get
    match env.write σ.writes with
    | .full =>
        set { σ with written := σ.written ++ s.drop i, writes := σ.writes + 1 }
    | .count 0 =>
        set { σ with fd := false, writes := σ.writes + 1 }
        if σ.fd then pure ⟨⟩ else throw .type
    | .count (n + 1) =>
        set { σ with
          written := σ.written ++ (s.drop i).take (n + 1)
          writes := σ.writes + 1 }
        writeFrom env s (i + (n + 1))
    | .raises n =>
        set { σ with
          written := σ.written ++ (s.drop i).take n
          writes := σ.writes + 1 }
        throw .tee
  else pure ⟨⟩
termination_by s.length - i

/-- `_process_chunk(s, final)`. -/
def processChunk (env : Surroundings) (s : Bytes) (final : Bool) :
    Program State Exception PUnit := do
  let σ ← get
  let (text, rest) := decode final (σ.buffer ++ s)
  set { σ with buffer := rest }
  if text = [] then pure ⟨⟩
  else
    modify (sendOutput env text)
    match env.encode text with
    | none => throw .encode
    | some data => writeFrom env data 0

/-- The loop of `_worker`. -/
def readLoop (env : Surroundings) : List Chunk → Program State Exception PUnit
  | [] => pure ⟨⟩
  | c :: cs => do
      let σ ← get
      if σ.fd then
        set { σ with reads := σ.reads ++ [c.bytes] }
        processChunk env c.bytes false
        readLoop env cs
      else pure ⟨⟩

/-- `_worker`. -/
def worker (env : Surroundings) (chunks : List Chunk) : Program State Exception PUnit := do
  readLoop env chunks
  processChunk env [] true

/-! ### Newlines -/

section Newlines

variable {text text' : Text} {c : ℕ}

theorem replaceCrlf_cons (h : ¬ (c = 13 ∧ text.head? = some 10)) :
    replaceCrlf (c :: text) = c :: replaceCrlf text := by
  rw [replaceCrlf]
  rintro text' rfl rfl
  exact h ⟨rfl, rfl⟩

/-- The replacement is made on both sides of a cut, if the cut is not within a `\r\n`. -/
theorem replaceCrlf_append (h : ¬ (text.getLast? = some 13 ∧ text'.head? = some 10)) :
    replaceCrlf (text ++ text') = replaceCrlf text ++ replaceCrlf text' := by
  induction text using replaceCrlf.induct with
  | case1 text ih =>
      rw [List.cons_append, List.cons_append, replaceCrlf, replaceCrlf, List.cons_append, ih]
      intro hcut
      cases text with
      | nil => cases hcut.1
      | cons c text => exact h hcut
  | case2 c text hne ih =>
      rw [replaceCrlf.eq_2 _ _ hne]
      cases text with
      | nil =>
          rw [List.singleton_append, replaceCrlf_cons]
          · rfl
          · rintro ⟨rfl, hhead⟩
            exact h ⟨rfl, hhead⟩
      | cons d text =>
          rw [List.cons_append, replaceCrlf_cons, ih h, List.cons_append]
          rintro ⟨rfl, hhead⟩
          obtain rfl := Option.some.inj hhead
          exact hne _ rfl rfl
  | case3 => rfl

/-- A `\r\n` that is cut in two is not replaced. -/
theorem replaceCrlf_cut (text text' : Text) :
    replaceCrlf (text ++ [13]) = replaceCrlf text ++ [13] ∧
      replaceCrlf (text ++ [13] ++ 10 :: text') = replaceCrlf text ++ 10 :: replaceCrlf text' := by
  constructor
  · rw [replaceCrlf_append (by rintro ⟨-, h⟩; cases h)]
    rfl
  · rw [List.append_assoc, replaceCrlf_append (by rintro ⟨-, h⟩; cases h)]
    rfl

theorem replaceCrlf_eq_nil : replaceCrlf text = [] ↔ text = [] := by
  constructor
  · intro h
    cases text using replaceCrlf.fun_cases with
    | case1 text => cases h
    | case2 c text hne =>
        rw [replaceCrlf.eq_2 _ _ hne] at h
        cases h
    | case3 => rfl
  · rintro rfl
    rfl

end Newlines

/-! ### Pieces -/

/-- The bytes of chunks. -/
def bytesOf (chunks : List Chunk) : Bytes := chunks.flatMap Chunk.bytes

/-- The pieces of text that the chunks are decoded to, one by one, when `buffer` is in front of
them; with each piece, the bytes that are not decoded yet. -/
def pieces (buffer : Bytes) : List Chunk → List (Text × Bytes)
  | [] => []
  | c :: cs =>
      ((decode false (buffer ++ c.bytes)).1, (decode false (buffer ++ c.bytes)).2 ++ bytesOf cs) ::
        pieces (decode false (buffer ++ c.bytes)).2 cs

/-- The tee stream can represent a piece of text; an empty one is not written. -/
def Represents (env : Surroundings) (text : Text) : Prop :=
  text = [] ∨ (env.encode text).isSome

instance (env : Surroundings) (text : Text) : Decidable (Represents env text) :=
  inferInstanceAs (Decidable (text = [] ∨ (env.encode text).isSome))

/-- A `\r\n` is cut in two. -/
def CutsCrlf (chunks : List Chunk) : Prop :=
  ∃ pre c d post, chunks = pre ++ c :: d :: post ∧
    c.bytes.getLast? = some 13 ∧ d.bytes.head? = some 10

section Pieces

variable {env : Surroundings} {buffer : Bytes} {c : Chunk} {cs : List Chunk}

@[simp] theorem bytesOf_nil : bytesOf [] = [] := rfl

@[simp] theorem bytesOf_cons : bytesOf (c :: cs) = c.bytes ++ bytesOf cs := List.flatMap_cons

theorem bytesOf_eq_nil : bytesOf cs = [] ↔ cs = [] := by
  cases cs with
  | nil => exact iff_of_true rfl rfl
  | cons c cs =>
      rw [bytesOf_cons]
      exact iff_of_false (List.append_ne_nil_of_left_ne_nil c.ne_nil _) (List.cons_ne_nil _ _)

theorem head?_bytesOf {b : UInt8} :
    (bytesOf cs).head? = some b ↔ ∃ d post, cs = d :: post ∧ d.bytes.head? = some b := by
  cases cs with
  | nil => exact iff_of_false nofun (by rintro ⟨d, post, h, -⟩; cases h)
  | cons d post =>
      rw [bytesOf_cons, List.head?_append_of_ne_nil _ d.ne_nil]
      constructor
      · intro h
        exact ⟨d, post, rfl, h⟩
      · rintro ⟨d', post', h, hhead⟩
        cases h
        exact hhead

theorem not_cutsCrlf_nil : ¬ CutsCrlf [] := by
  rintro ⟨pre, c, d, post, h, -⟩
  exact List.append_ne_nil_of_right_ne_nil _ (List.cons_ne_nil _ _) h.symm

theorem cutsCrlf_cons :
    CutsCrlf (c :: cs) ↔
      (c.bytes.getLast? = some 13 ∧ (bytesOf cs).head? = some 10) ∨ CutsCrlf cs := by
  rw [head?_bytesOf]
  constructor
  · rintro ⟨pre, c', d, post, h, hlast, hhead⟩
    cases pre with
    | nil =>
        obtain ⟨rfl, rfl⟩ := List.cons.inj h
        exact .inl ⟨hlast, d, post, rfl, hhead⟩
    | cons _ pre =>
        obtain ⟨rfl, rfl⟩ := List.cons.inj h
        exact .inr ⟨pre, c', d, post, rfl, hlast, hhead⟩
  · rintro (⟨hlast, d, post, rfl, hhead⟩ | ⟨pre, c', d, post, rfl, hlast, hhead⟩)
    · exact ⟨[], c, d, post, rfl, hlast, hhead⟩
    · exact ⟨c :: pre, c', d, post, rfl, hlast, hhead⟩

/-- What is decoded of a chunk, and what follows. -/
theorem decode_chunk (final : Bool) (buffer : Bytes) (c : Chunk) (bs : Bytes) :
    (decode final (buffer ++ (c.bytes ++ bs))).1 =
      (decode false (buffer ++ c.bytes)).1 ++
        (decode final ((decode false (buffer ++ c.bytes)).2 ++ bs)).1 := by
  rw [← List.append_assoc, decode_append]

/-- A `\r\n` is cut in two in the text if it is in the bytes. -/
theorem cut_iff (buffer bs : Bytes) (c : Chunk) :
    (decode false (buffer ++ c.bytes)).1.getLast? = some 13 ∧
        (decode true ((decode false (buffer ++ c.bytes)).2 ++ bs)).1.head? = some 10 ↔
      c.bytes.getLast? = some 13 ∧ bs.head? = some 10 := by
  have hlf := head?_decode (a := 10) ((decode false (buffer ++ c.bytes)).2 ++ bs) (by decide)
  have hcr := @getLast?_decode 13 (buffer ++ c.bytes) (by decide)
  have hrest := le_of_mem_rest (buffer ++ c.bytes)
  rw [List.getLast?_append_of_ne_nil _ c.ne_nil] at hcr
  rw [show (10 : ℕ) = (10 : UInt8).toNat from rfl, show (13 : ℕ) = (13 : UInt8).toNat from rfl, hlf]
  cases hr : (decode false (buffer ++ c.bytes)).2 with
  | nil => rw [List.nil_append, hcr hr]
  | cons b rest =>
      -- what is left starts and ends with bytes that are not ASCII
      rw [hr] at hrest
      refine iff_of_false ?_ ?_
      · rintro ⟨-, hhead⟩
        obtain rfl : b = 10 := Option.some.inj hhead
        exact absurd (hrest 10 List.mem_cons_self) (by decide)
      · rintro ⟨hlast, -⟩
        obtain ⟨e, -, he⟩ := encode_decode false (buffer ++ c.bytes)
        rw [← List.getLast?_append_of_ne_nil buffer c.ne_nil, ← he, hr,
          List.getLast?_append_of_ne_nil _ (List.cons_ne_nil _ _)] at hlast
        exact absurd (hrest 13 (List.mem_of_mem_getLast? hlast)) (by decide)

/-- If a `\r\n` is cut in two, then what has been replaced in front of the cut is wrong; otherwise
only what is behind it matters. -/
theorem replaceCrlf_append_eq_iff {text text' sent : Text} :
    replaceCrlf text ++ sent = replaceCrlf (text ++ text') ↔
      ¬ (text.getLast? = some 13 ∧ text'.head? = some 10) ∧ sent = replaceCrlf text' := by
  by_cases hcut : text.getLast? = some 13 ∧ text'.head? = some 10
  · refine iff_of_false ?_ fun h => h.1 hcut
    obtain ⟨hlast, hhead⟩ := hcut
    obtain ⟨text, rfl⟩ := List.getLast?_eq_some_iff.1 hlast
    obtain ⟨text', rfl⟩ := List.head?_eq_some_iff.1 hhead
    obtain ⟨hleft, hboth⟩ := replaceCrlf_cut text text'
    rw [hleft, hboth, List.append_assoc, List.append_cancel_left_eq]
    intro h
    cases h
  · rw [replaceCrlf_append hcut, List.append_cancel_left_eq]
    exact ⟨fun h => ⟨hcut, h⟩, fun h => h.2⟩

/-- The text of the events that are sent for the chunks, when `buffer` is in front of them: the
worker ends with the first piece that the tee stream cannot represent. -/
def sentText (env : Surroundings) (buffer : Bytes) : List Chunk → Text
  | [] => replaceCrlf (decode true buffer).1
  | c :: cs =>
      replaceCrlf (decode false (buffer ++ c.bytes)).1 ++
        if Represents env (decode false (buffer ++ c.bytes)).1 then
          sentText env (decode false (buffer ++ c.bytes)).2 cs
        else []

/-- **The events carry the normalised output** if no `\r\n` is cut in two and nothing follows a
piece that cannot be represented. -/
theorem sentText_eq_iff :
    sentText env buffer cs = replaceCrlf (decode true (buffer ++ bytesOf cs)).1 ↔
      ¬ CutsCrlf cs ∧ ∀ p ∈ pieces buffer cs, ¬ Represents env p.1 → p.2 = [] := by
  induction cs generalizing buffer with
  | nil =>
      rw [bytesOf_nil, List.append_nil]
      exact iff_of_true rfl ⟨not_cutsCrlf_nil, nofun⟩
  | cons c cs ih =>
      rw [sentText, bytesOf_cons, decode_chunk, replaceCrlf_append_eq_iff, cut_iff, cutsCrlf_cons,
        not_or, pieces, List.forall_mem_cons]
      split_ifs with hrepresents
      · rw [ih]
        exact ⟨fun ⟨h, h', h''⟩ => ⟨⟨h, h'⟩, fun h => absurd hrepresents h, h''⟩,
          fun ⟨⟨h, h'⟩, _, h''⟩ => ⟨h, h', h''⟩⟩
      · -- nothing more is sent, so nothing may be left
        rw [@eq_comm _ [], replaceCrlf_eq_nil, decode_final_eq_nil]
        constructor
        · rintro ⟨h, hnil⟩
          obtain rfl := bytesOf_eq_nil.1 (List.append_eq_nil_iff.1 hnil).2
          exact ⟨⟨h, not_cutsCrlf_nil⟩, fun _ => hnil, nofun⟩
        · rintro ⟨⟨h, -⟩, hnil, -⟩
          exact ⟨h, hnil hrepresents⟩

end Pieces

/-! ### One chunk -/

section Chunks

open Program

variable {env : Surroundings} {σ σ' : State} {r : Except Exception Unit} {data : Bytes}

/-- Whatever is written to the tee stream, no exception is raised. -/
def Surroundings.Answers (env : Surroundings) : Prop := ∀ k n, env.write k ≠ .raises n

/-- The tee stream is open: every write to it is answered, and not by zero. -/
structure Surroundings.TeeOpen (env : Surroundings) : Prop where
  answers : env.Answers
  positive : ∀ k, env.write k ≠ .count 0

/-- A write to the tee stream was answered by zero. -/
def TeeClosed (env : Surroundings) (σ : State) : Prop := ∃ k < σ.writes, env.write k = .count 0

/-- What the loop of `_process_chunk` does with `data`: it is written, or the tee stream is found
closed, and then the descriptor is closed. -/
structure Wrote (env : Surroundings) (data : Bytes) (σ : State) (r : Except Exception Unit)
    (σ' : State) : Prop where
  unchanged : σ' = { σ with written := σ'.written, writes := σ'.writes, fd := σ'.fd }
  writes_le : σ.writes ≤ σ'.writes
  returns : σ.fd = true → r = .ok ⟨⟩
  taken : (σ'.fd = σ.fd ∧ σ'.written = σ.written ++ data) ∨ (σ'.fd = false ∧ TeeClosed env σ')

theorem writeFrom_wrote (hanswers : env.Answers) (s : Bytes) (i : ℕ) (σ : State) :
    (writeFrom env s i).Ends σ (Wrote env (s.drop i) σ) := by
  induction hn : s.length - i using Nat.strongRecOn generalizing i σ with
  | ind n ih =>
      subst hn
      rw [writeFrom]
      split_ifs with hi
      · refine Ends.bind_ok exec_get ?_
        split
        · exact ends_set ⟨rfl, Nat.le_succ _, fun _ => rfl, .inl ⟨rfl, rfl⟩⟩
        · next hzero =>
            refine Ends.bind_ok exec_set ?_
            have hclosed : TeeClosed env { σ with fd := false, writes := σ.writes + 1 } :=
              ⟨σ.writes, Nat.lt_succ_self _, hzero⟩
            split_ifs with hfd
            · exact ends_pure ⟨rfl, Nat.le_succ _, fun _ => rfl, .inr ⟨rfl, hclosed⟩⟩
            · exact ends_throw ⟨rfl, Nat.le_succ _, fun h => absurd h hfd, .inr ⟨rfl, hclosed⟩⟩
        · next n hcount =>
            -- the rest is written from where this write has stopped
            refine Ends.bind_ok exec_set ?_
            refine (ih _ (by omega) (i + (n + 1)) _ rfl).mono ?_
            intro r σ' h
            refine ⟨by rw [h.unchanged], Nat.le_trans (Nat.le_succ _) h.writes_le, h.returns, ?_⟩
            refine h.taken.imp_left ?_
            rintro ⟨hfd, hwritten⟩
            refine ⟨hfd, ?_⟩
            rw [hwritten, List.append_assoc, ← List.drop_drop, List.take_append_drop]
        · next n hraises => exact absurd hraises (hanswers _ n)
      · refine ends_pure ⟨rfl, Nat.le_refl _, fun _ => rfl, .inl ⟨rfl, ?_⟩⟩
        rw [List.drop_eq_nil_of_le (Nat.not_lt.1 hi), List.append_nil]

/-- The events for a piece of text: there is none if it is empty. -/
def eventsOf (category : String) (text : Text) : List Output :=
  if text = [] then [] else [⟨category, replaceCrlf text⟩]

/-- The bytes for a piece of text. -/
def dataOf (env : Surroundings) (text : Text) : Bytes :=
  if text = [] then [] else (env.encode text).getD []

/-- What `_process_chunk` does when the decoder yields `text` and keeps `rest`. -/
structure Processed (env : Surroundings) (text : Text) (rest : Bytes) (σ : State)
    (r : Except Exception Unit) (σ' : State) : Prop where
  category : σ'.category = σ.category
  reads : σ'.reads = σ.reads
  buffer : σ'.buffer = rest
  events : σ'.events = σ.events ++ eventsOf σ.category text
  writes_le : σ.writes ≤ σ'.writes
  returns : Represents env text → σ.fd = true → r = .ok ⟨⟩
  raises : ¬ Represents env text → r = .error .encode
  taken : (σ'.fd = σ.fd ∧ σ'.written = σ.written ++ dataOf env text) ∨
    (σ'.fd = false ∧ TeeClosed env σ')

theorem processChunk_processed (hsend : ∀ k, env.send k = true) (hanswers : env.Answers)
    (s : Bytes) (final : Bool) (σ : State) :
    (processChunk env s final).Ends σ
      (Processed env (decode final (σ.buffer ++ s)).1 (decode final (σ.buffer ++ s)).2 σ) := by
  generalize hdecode : decode final (σ.buffer ++ s) = decoded
  obtain ⟨text, rest⟩ := decoded
  rw [processChunk]
  refine Ends.bind_ok exec_get ?_
  rw [hdecode]
  refine Ends.bind_ok exec_set ?_
  dsimp only
  split_ifs with htext
  · subst htext
    refine ends_pure ⟨rfl, rfl, rfl, ?_, Nat.le_refl _, fun _ _ => rfl, ?_, .inl ⟨rfl, ?_⟩⟩
    · rw [eventsOf, if_pos rfl, List.append_nil]
    · intro h
      exact absurd (.inl rfl) h
    · rw [dataOf, if_pos rfl, List.append_nil]
  · refine Ends.bind_ok exec_modify ?_
    have hevents : (sendOutput env text { σ with buffer := rest }).events =
        σ.events ++ eventsOf σ.category text := by
      rw [sendOutput, if_pos (hsend _), eventsOf, if_neg htext]
    cases hencode : env.encode text with
    | none =>
        have hnot : ¬ Represents env text := by
          rintro (h | h)
          · exact htext h
          · rw [hencode] at h
            cases h
        refine ends_throw ⟨rfl, rfl, rfl, hevents, Nat.le_refl _, fun h => absurd h hnot,
          fun _ => rfl, .inl ⟨rfl, ?_⟩⟩
        rw [dataOf, if_neg htext, hencode]
        exact (List.append_nil _).symm
    | some data =>
        refine (writeFrom_wrote hanswers data 0 _).mono ?_
        intro r σ' h
        have hdata : dataOf env text = data.drop 0 := by
          rw [dataOf, if_neg htext, hencode]
          rfl
        refine ⟨?_, ?_, ?_, ?_, h.writes_le, fun _ => h.returns, ?_, ?_⟩
        · rw [h.unchanged]
          rfl
        · rw [h.unchanged]
          rfl
        · rw [h.unchanged]
          rfl
        · rw [h.unchanged, ← hevents]
        · intro hnot
          refine absurd (.inr ?_) hnot
          rw [hencode]
          rfl
        · rw [hdata]
          exact h.taken

end Chunks

/-! ### The whole run -/

section Runs

open Program

variable {env : Surroundings} {category : String} {σ σ' : State} {c : Chunk} {cs : List Chunk}

/-- What holds whenever the worker reads: what has been read is decoded and sent, but for the end
of it in the buffer, and as long as the descriptor is open, a tee stream in UTF-8 has got the bytes
of that. -/
structure Invariant (env : Surroundings) (category : String) (σ : State) : Prop where
  same : σ.category = category
  decoded : ∃ texts : List Text, σ.events = texts.flatMap (eventsOf category) ∧
    decode false σ.reads.flatten = (texts.flatten, σ.buffer)
  closed : σ.fd = false → TeeClosed env σ
  written : env.encode = Utf8.encode → σ.fd = true → σ.written ++ σ.buffer = σ.reads.flatten

theorem invariant_start (env : Surroundings) (category : String) :
    Invariant env category (start category) where
  same := rfl
  decoded := ⟨[], rfl, decode_nil⟩
  closed := nofun
  written := fun _ _ => rfl

theorem TeeClosed.mono (h : TeeClosed env σ) (hle : σ.writes ≤ σ'.writes) : TeeClosed env σ' := by
  obtain ⟨k, hk, hzero⟩ := h
  exact ⟨k, Nat.lt_of_lt_of_le hk hle, hzero⟩

/-- In UTF-8, what is written is what is decoded. -/
theorem dataOf_append_rest (hencode : env.encode = Utf8.encode) (final : Bool) (bs : Bytes) :
    dataOf env (decode final bs).1 ++ (decode final bs).2 = bs := by
  obtain ⟨e, he, hbs⟩ := encode_decode final bs
  rw [dataOf]
  split_ifs with htext
  · rw [htext] at he
    obtain rfl := Option.some.inj he
    exact hbs
  · rw [hencode, he]
    exact hbs

/-- The step of the loop: a chunk is read and processed, even if an exception is raised. -/
theorem Invariant.step (h : Invariant env category σ) {r : Except Exception Unit}
    (hprocessed : Processed env (decode false (σ.buffer ++ c.bytes)).1
      (decode false (σ.buffer ++ c.bytes)).2 { σ with reads := σ.reads ++ [c.bytes] } r σ') :
    Invariant env category σ' where
  same := hprocessed.category.trans h.same
  decoded := by
    obtain ⟨texts, hevents, hdecode⟩ := h.decoded
    refine ⟨texts ++ [(decode false (σ.buffer ++ c.bytes)).1], ?_, ?_⟩
    · rw [hprocessed.events, List.flatMap_append, List.flatMap_singleton, hevents, h.same]
    · rw [hprocessed.reads, hprocessed.buffer, List.flatten_append, List.flatten_singleton,
        decode_append, hdecode, List.flatten_append, List.flatten_singleton]
  closed := by
    intro hfd
    rcases hprocessed.taken with ⟨hsame, -⟩ | ⟨-, hclosed⟩
    · exact (h.closed (hsame.symm.trans hfd)).mono hprocessed.writes_le
    · exact hclosed
  written := by
    intro hencode hfd
    rcases hprocessed.taken with ⟨hsame, hwritten⟩ | ⟨hnot, -⟩
    · rw [hwritten, hprocessed.buffer, hprocessed.reads, List.flatten_append,
        List.flatten_singleton, List.append_assoc, dataOf_append_rest hencode,
        ← List.append_assoc, h.written hencode (hsame.symm.trans hfd)]
    · exact absurd (hfd.symm.trans hnot) nofun

/-- How the loop ends. -/
structure Looped (env : Surroundings) (category : String) (cs : List Chunk) (σ : State)
    (r : Except Exception Unit) (σ' : State) : Prop where
  invariant : Invariant env category σ'
  reads : r = .ok ⟨⟩ → σ'.fd = true → σ'.reads = σ.reads ++ cs.map Chunk.bytes
  returns : (∀ p ∈ pieces σ.buffer cs, Represents env p.1) → r = .ok ⟨⟩
  represents : (∀ k, env.write k ≠ .count 0) → σ.fd = true → r = .ok ⟨⟩ →
    ∀ p ∈ pieces σ.buffer cs, Represents env p.1

theorem readLoop_looped (hsend : ∀ k, env.send k = true) (hanswers : env.Answers)
    (h : Invariant env category σ) :
    (readLoop env cs).Ends σ (Looped env category cs σ) := by
  induction cs generalizing σ with
  | nil =>
      refine ends_pure ⟨h, fun _ _ => ?_, fun _ => rfl, fun _ _ _ => nofun⟩
      rw [List.map_nil, List.append_nil]
  | cons c cs ih =>
      rw [readLoop]
      refine Ends.bind_ok exec_get ?_
      split_ifs with hfd
      · refine Ends.bind_ok exec_set ?_
        refine (processChunk_processed hsend hanswers c.bytes false _).bind ?_ ?_
        · intro _ σ₁ hprocessed
          have hrepresents : Represents env (decode false (σ.buffer ++ c.bytes)).1 := by
            by_contra hnot
            cases hprocessed.raises hnot
          refine (ih (h.step hprocessed)).mono ?_
          intro r σ₂ hlooped
          have hreads := hlooped.reads
          have hreturns := hlooped.returns
          have hrest := hlooped.represents
          rw [hprocessed.buffer] at hreturns hrest
          rw [hprocessed.reads] at hreads
          refine ⟨hlooped.invariant, ?_, ?_, ?_⟩
          · intro hr hfd₂
            rw [hreads hr hfd₂, List.append_assoc, List.map_cons, List.singleton_append]
          · intro hall
            exact hreturns (List.forall_mem_cons.1 hall).2
          · intro hwrite _ hr
            -- the descriptor stays open when no write is answered by zero
            have hfd₁ : σ₁.fd = true := by
              rcases hprocessed.taken with ⟨hsame, -⟩ | ⟨-, k, -, hzero⟩
              · exact hsame.trans hfd
              · exact absurd hzero (hwrite k)
            exact List.forall_mem_cons.2 ⟨hrepresents, hrest hwrite hfd₁ hr⟩
        · intro e σ₁ hprocessed
          refine ⟨h.step hprocessed, nofun, ?_, fun _ _ => nofun⟩
          intro hall
          exact hprocessed.returns (List.forall_mem_cons.1 hall).1 hfd
      · exact ends_pure ⟨h, fun _ hfd' => absurd hfd' hfd, fun _ => rfl,
          fun _ hfd' => absurd hfd' hfd⟩

/-- **The worker keeps reading**, and everything that it has read is decoded and sent, and written
to the tee stream. -/
structure Captures (env : Surroundings) (category : String) (chunks : List Chunk) : Prop where
  /-- No exception ends the loop. -/
  returns : (exec (readLoop env chunks) (start category)).1 = .ok ⟨⟩
  /-- The worker reads until the end, or until the tee stream is closed. -/
  reads : (exec (worker env chunks) (start category)).2.reads = chunks.map Chunk.bytes ∨
    TeeClosed env (exec (worker env chunks) (start category)).2
  /-- Everything that has been read is in an event, but for the newlines. -/
  sends : ∃ texts : List Text,
    (exec (worker env chunks) (start category)).2.events = texts.flatMap (eventsOf category) ∧
      texts.flatten = (decode true (exec (worker env chunks) (start category)).2.reads.flatten).1
  /-- A tee stream in UTF-8 gets the bytes as they are. -/
  writes : env.encode = Utf8.encode → (∀ k, env.write k ≠ .count 0) →
    (exec (worker env chunks) (start category)).2.written = bytesOf chunks

/-- At the end, the rest in the buffer is decoded, sent and written as well. -/
theorem captures_of_returns (hsend : ∀ k, env.send k = true) (hanswers : env.Answers)
    {chunks : List Chunk} (hreturns : (exec (readLoop env chunks) (start category)).1 = .ok ⟨⟩) :
    Captures env category chunks := by
  have hlooped := @readLoop_looped env category _ chunks hsend hanswers
    (invariant_start env category)
  rw [Ends] at hlooped
  have hprocessed :=
    processChunk_processed hsend hanswers [] true (exec (readLoop env chunks) (start category)).2
  have hworker : exec (worker env chunks) (start category) =
      exec (processChunk env [] true) (exec (readLoop env chunks) (start category)).2 :=
    exec_bind_ok (Prod.ext hreturns rfl)
  rw [Ends, ← hworker] at hprocessed
  rw [hreturns] at hlooped
  generalize (exec (readLoop env chunks) (start category)).2 = σ₁ at hlooped hprocessed
  obtain ⟨texts, hevents, hdecode⟩ := hlooped.invariant.decoded
  refine ⟨hreturns, ?_, ?_, ?_⟩
  · rw [hprocessed.reads]
    by_cases hfd : σ₁.fd = true
    · exact .inl (hlooped.reads rfl hfd)
    · exact .inr ((hlooped.invariant.closed (Bool.not_eq_true _ ▸ hfd)).mono hprocessed.writes_le)
  · refine ⟨texts ++ [(decode true (σ₁.buffer ++ [])).1], ?_, ?_⟩
    · rw [hprocessed.events, List.flatMap_append, List.flatMap_singleton, hevents,
        hlooped.invariant.same]
    · have happend := decode_append true σ₁.reads.flatten []
      rw [List.append_nil, hdecode] at happend
      rw [hprocessed.reads, happend, List.flatten_append, List.flatten_singleton]
  · intro hencode hwrite
    have hfd : σ₁.fd = true := by
      by_contra hfd
      obtain ⟨k, -, hzero⟩ := hlooped.invariant.closed (Bool.not_eq_true _ ▸ hfd)
      exact hwrite k hzero
    have hflush := dataOf_append_rest hencode true (σ₁.buffer ++ [])
    rw [decode_final, List.append_nil, List.append_nil] at hflush
    rcases hprocessed.taken with ⟨-, hwritten⟩ | ⟨-, k, -, hzero⟩
    · rw [hwritten, List.append_nil, hflush, hlooped.invariant.written hencode hfd,
        hlooped.reads rfl hfd]
      rfl
    · exact absurd hzero (hwrite k)

/-- The tee stream can represent whatever the chunks are decoded to. -/
def Representable (env : Surroundings) (chunks : List Chunk) : Prop :=
  ∀ p ∈ pieces [] chunks, Represents env p.1

/-- UTF-8 can represent whatever is decoded. -/
theorem representable_utf8 (hencode : env.encode = Utf8.encode) (buffer : Bytes)
    (chunks : List Chunk) : ∀ p ∈ pieces buffer chunks, Represents env p.1 := by
  induction chunks generalizing buffer with
  | nil => nofun
  | cons c cs ih =>
      rw [pieces, List.forall_mem_cons]
      refine ⟨.inr ?_, ih _⟩
      obtain ⟨e, he, -⟩ := encode_decode false (buffer ++ c.bytes)
      rw [hencode, he]
      rfl

/-! ### The text of the events -/

/-- What the events say, put together. -/
def State.text (σ : State) : Text := σ.events.flatMap Output.output

theorem text_processed {text : Text} {rest : Bytes} {r : Except Exception Unit}
    (h : Processed env text rest σ r σ') : σ'.text = σ.text ++ replaceCrlf text := by
  rw [State.text, State.text, h.events, List.flatMap_append, eventsOf]
  split_ifs with htext
  · rw [htext]
    rfl
  · rw [List.flatMap_singleton]

/-- What is sent for the chunks and for what is left at the end. -/
theorem readLoop_sends (hsend : ∀ k, env.send k = true) (htee : env.TeeOpen)
    (hfd : σ.fd = true) :
    (readLoop env cs).Ends σ fun r σ' =>
      σ.text ++ sentText env σ.buffer cs =
        σ'.text ++ match r with
          | .ok _ => replaceCrlf (decode true σ'.buffer).1
          | .error _ => [] := by
  induction cs generalizing σ with
  | nil => exact ends_pure rfl
  | cons c cs ih =>
      rw [readLoop]
      refine Ends.bind_ok exec_get ?_
      rw [if_pos hfd]
      refine Ends.bind_ok exec_set ?_
      have hstay {r : Except Exception Unit} {σ' : State} {text : Text} {rest : Bytes}
          (h : Processed env text rest { σ with reads := σ.reads ++ [c.bytes] } r σ') :
          σ'.fd = true := by
        rcases h.taken with ⟨hsame, -⟩ | ⟨-, k, -, hzero⟩
        · exact hsame.trans hfd
        · exact absurd hzero (htee.positive k)
      refine (processChunk_processed hsend htee.answers c.bytes false _).bind ?_ ?_
      · intro _ σ₁ hprocessed
        have hrepresents : Represents env (decode false (σ.buffer ++ c.bytes)).1 := by
          by_contra hnot
          cases hprocessed.raises hnot
        refine (ih (hstay hprocessed)).mono ?_
        intro r σ₂ hrest
        rw [sentText, if_pos hrepresents, ← hrest, text_processed hprocessed, hprocessed.buffer,
          List.append_assoc]
        rfl
      · intro e σ₁ hprocessed
        have hnot : ¬ Represents env (decode false (σ.buffer ++ c.bytes)).1 := by
          intro hrepresents
          cases hprocessed.returns hrepresents hfd
        rw [sentText, if_neg hnot, text_processed hprocessed]
        exact (List.append_assoc _ _ _).symm

/-- The text of the events is as `sentText` says. -/
theorem worker_text (hsend : ∀ k, env.send k = true) (htee : env.TeeOpen)
    (chunks : List Chunk) :
    (exec (worker env chunks) (start category)).2.text = sentText env [] chunks := by
  have hworker : (worker env chunks).Ends (start category) fun _ σ' =>
      sentText env [] chunks = σ'.text := by
    refine (readLoop_sends hsend htee rfl).bind ?_ ?_
    · intro _ σ₁ hsent
      refine (processChunk_processed hsend htee.answers [] true σ₁).mono ?_
      intro r σ₂ hprocessed
      rw [List.append_nil] at hprocessed
      rw [text_processed hprocessed]
      exact hsent
    · intro e σ₁ hsent
      exact hsent.trans (List.append_nil _)
  exact hworker.symm

end Runs

/-! ### Main results -/

/-- **The events carry the output, with its newlines normalised**, if and only if no `\r\n` is cut
in two by the chunks, and nothing follows a piece that the tee stream cannot represent. -/
theorem outputs_iff (env : Surroundings) (category : String) (chunks : List Chunk)
    (hsend : ∀ k, env.send k = true) (htee : env.TeeOpen) :
    (Program.exec (worker env chunks) (start category)).2.text =
        replaceCrlf (decode true (bytesOf chunks)).1 ↔
      ¬ CutsCrlf chunks ∧ ∀ p ∈ pieces [] chunks, ¬ Represents env p.1 → p.2 = [] := by
  rw [worker_text hsend htee]
  exact @sentText_eq_iff env [] chunks

/-- A tee stream in UTF-8 that takes everything. -/
def utf8Tee : Surroundings where
  encode := Utf8.encode
  write := fun _ => .full
  send := fun _ => true

theorem utf8Tee_open : utf8Tee.TeeOpen := ⟨fun _ _ => nofun, fun _ => nofun⟩

/-- `"a\r\n"`, as it is written. -/
def lineChunk : Chunk := ⟨[97, 13, 10], by decide, by decide⟩

theorem outputs_line :
    (Program.exec (worker utf8Tee [lineChunk]) (start "stdout")).2.text =
      replaceCrlf (decode true (bytesOf [lineChunk])).1 := by
  refine (outputs_iff utf8Tee "stdout" [lineChunk] (fun _ => rfl) utf8Tee_open).2 ⟨?_, ?_⟩
  · rintro ⟨pre, c, d, post, h, -⟩
    have hlength := congrArg List.length h
    rw [List.length_append] at hlength
    simp only [List.length_cons, List.length_nil] at hlength
    omega
  · intro p hp hnot
    exact absurd (representable_utf8 rfl [] _ p hp) hnot

/-- `"a\r"` and `"\nb"`: the line ends where the first read ends. -/
def cutChunks : List Chunk :=
  [⟨[97, 13], by decide, by decide⟩, ⟨[10, 98], by decide, by decide⟩]

theorem outputs_cut :
    (Program.exec (worker utf8Tee cutChunks) (start "stdout")).2.text ≠
      replaceCrlf (decode true (bytesOf cutChunks)).1 := by
  rw [@worker_text utf8Tee "stdout" (fun _ => rfl) utf8Tee_open cutChunks]
  intro h
  exact (sentText_eq_iff.1 h).1 ⟨[], _, _, [], rfl, rfl, rfl⟩

/-- **The worker reads on until the end, whatever it reads, if and only if the tee stream can
represent it**, in every pattern of positive writes; it may also end because the tee stream is
closed, which a write says by zero. In UTF-8, everything can be represented. -/
theorem captures_iff (env : Surroundings) (category : String) (chunks : List Chunk)
    (hsend : ∀ k, env.send k = true) (hanswers : env.Answers) :
    (Representable env chunks → Captures env category chunks) ∧
      ((∀ k, env.write k ≠ .count 0) →
        (Captures env category chunks ↔ Representable env chunks)) ∧
      (env.encode = Utf8.encode → Captures env category chunks) := by
  have hlooped := @readLoop_looped env category _ chunks hsend hanswers
    (invariant_start env category)
  have hcaptures (h : Representable env chunks) : Captures env category chunks :=
    captures_of_returns hsend hanswers (hlooped.returns h)
  refine ⟨hcaptures, fun hwrite => ⟨?_, hcaptures⟩, ?_⟩
  · intro h
    exact hlooped.represents hwrite rfl h.returns
  · intro hencode
    exact hcaptures (representable_utf8 hencode [] chunks)

/-- `codecs.getencoder("ascii")(text, "surrogateescape")`. -/
def encodeAscii (text : Text) : Option Bytes :=
  text.mapM fun c =>
    if c < 0x80 then some c.toUInt8
    else if 0xDC80 ≤ c ∧ c < 0xDD00 then some (c - 0xDC00).toUInt8
    else none

/-- A tee stream in ASCII that takes everything. -/
def asciiTee : Surroundings where
  encode := encodeAscii
  write := fun _ => .full
  send := fun _ => true

/-- `"é"`, and then `"a"`. -/
def accentChunks : List Chunk :=
  [⟨[0xC3, 0xA9], by decide, by decide⟩, ⟨[97], by decide, by decide⟩]

theorem captures_utf8 : Captures utf8Tee "stdout" accentChunks :=
  (captures_iff utf8Tee "stdout" accentChunks (fun _ => rfl) utf8Tee_open.answers).2.2 rfl

theorem not_captures_ascii : ¬ Captures asciiTee "stdout" accentChunks := by
  intro h
  have hlooped := @readLoop_looped asciiTee "stdout" _ accentChunks (fun _ => rfl)
    (fun _ _ => nofun) (invariant_start asciiTee "stdout")
  have hall := hlooped.represents (fun _ => nofun) rfl h.returns
  have hfirst : Represents asciiTee (decode false [0xC3, 0xA9]).1 :=
    (List.forall_mem_cons.1 hall).1
  have hscan : scan [0xC3, 0xA9] = .char 233 [] := rfl
  rw [decode_char hscan, decode_nil] at hfirst
  exact absurd hfirst (by decide)

end CaptureOutput

end Ptvsd
