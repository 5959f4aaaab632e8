import LlmTts.Http.Responses
import LlmTts.Lib.FloatText
import LlmTts.Lib.Transition
import LlmTts.Synthesis.Durations

/-!
# The messages of a streamed response

`_TrailerStreamingResponse` sends its totals after the body, to a client and a server that
take trailers. What it sends besides is up to `StreamingResponse`, and how far that gets up
to the generator and the connection (`Streamed`). `trailers_in_order` says when a server
accepts the messages, and what the totals are that it gets.
-/

namespace LlmTts
open Python Transition

/-! ## Messages -/

/-- A message that an application sends. -/
inductive Sent where
  | start (statusCode : Nat) (headers : Headers) (trailers : Bool)
  | body (bytes : Bytes) (moreBody : Bool)
  | trailers (headers : Headers) (moreTrailers : Bool)
  deriving DecidableEq

/-- What a server takes next. -/
inductive ServerPhase where
  | start
  | body (trailers : Bool)
  | trailers
  | done
  deriving DecidableEq

/-- One message; a server refuses those that are out of order. -/
def ServerPhase.accept : ServerPhase → Sent → Option ServerPhase
  | .start, .start _ _ announced => some (.body announced)
  | .body announced, .body _ true => some (.body announced)
  | .body announced, .body _ false => some (if announced then .trailers else .done)
  | .trailers, .trailers _ true => some .trailers
  | .trailers, .trailers _ false => some .done
  | _, _ => none

/-- The messages are in order, as far as they go. -/
def Accepted (messages : List Sent) : Prop := (runs ServerPhase.accept .start messages).isSome

/-- They are the whole of a response. -/
def Finished (messages : List Sent) : Prop := runs ServerPhase.accept .start messages = some .done

instance (messages : List Sent) : Decidable (Accepted messages) :=
  inferInstanceAs (Decidable ((runs ServerPhase.accept .start messages).isSome = true))

instance (messages : List Sent) : Decidable (Finished messages) :=
  inferInstanceAs (Decidable (runs ServerPhase.accept .start messages = some .done))

/-- The chunks of the body among the messages. -/
def sentChunks (messages : List Sent) : List Bytes :=
  messages.filterMap fun message =>
    match message with
    | .body bytes true => some bytes
    | _ => none

/-! ## Streams -/

/-- The generator of a stream, at its start. -/
structure Generator where
  np : Rescale
  synthesizeChunks : Provider
  input : SynthesisInput
  chunks : List String

namespace Generator

variable (g : Generator)

/-- What it yields, if it is asked for everything. -/
def yields : List Bytes := (streamSynthesisChunks g.np g.synthesizeChunks g.input ⟨0, 0⟩ g.chunks).1

/-- How it ends then. -/
def ending : Except Raised Unit := (streamSynthesisChunks g.np g.synthesizeChunks g.input ⟨0, 0⟩ g.chunks).2.2

/-- Its totals when some chunks have been taken. -/
def totals (taken : Nat) : Totals :=
  (streamSynthesisChunks g.np g.synthesizeChunks g.input ⟨0, 0⟩ (g.chunks.take taken)).2.1

end Generator

/-- The messages of a body before its last one. -/
def bodyMessages (chunks : List Bytes) : List Sent := chunks.map (.body · true)

/-- The messages of a stream whose connection lasts. The last one is sent when the generator
has ended. -/
def Generator.messages (headers : Headers) (g : Generator) : List Sent :=
  .start 200 headers false :: bodyMessages g.yields ++
    match g.ending with
    | .ok () => [.body [] false]
    | .error _ => []

/-- The chunk taken last may not have been sent. -/
def Taken (g : Generator) (messages : List Sent) (taken : Nat) : Prop :=
  (sentChunks messages).length ≤ taken ∧ taken ≤ (sentChunks messages).length + 1 ∧ taken ≤ g.yields.length

/-- `StreamingResponse.__call__`: what it has sent, the chunks it has taken, and whether it
returns. Where it listens, a client that leaves ends it as if the response was complete. -/
inductive Streamed (listens : Bool) (headers : Headers) (g : Generator) : List Sent → Nat → Bool → Prop
  | ended : Streamed listens headers g (g.messages headers) g.yields.length g.ending.isOk
  | left {messages : List Sent} {taken : Nat} (listening : listens = true) (begun : messages <+: g.messages headers)
      (counted : Taken g messages taken) : Streamed listens headers g messages taken true
  | broken {messages : List Sent} {taken : Nat} (begun : messages <+: g.messages headers)
      (counted : Taken g messages taken) : Streamed listens headers g messages taken false

/-! ## Trailers -/

/-- `_send_with_trailer_flag`. -/
def sendWithTrailerFlag (supportsTrailers : Bool) : Sent → Sent
  | .start statusCode headers trailers => .start statusCode headers (trailers || supportsTrailers)
  | message => message

/-- The trailers of a stream. -/
def trailerMessage (totals : Totals) : Sent :=
  .trailers [(latin1Bytes "x-chunks", latin1Bytes (intStr totals.chunks)),
    (latin1Bytes "x-total-duration-ms", latin1Bytes (intStr totals.durationMs))] false

/-- `_TrailerStreamingResponse.__call__`. Sending the trailers may fail, too. -/
inductive TrailerStreamed (listens supportsTrailers : Bool) (headers : Headers) (g : Generator) : List Sent → Prop
  | returned {messages : List Sent} {taken : Nat} (streamed : Streamed listens headers g messages taken true) :
    TrailerStreamed listens supportsTrailers headers g
      (messages.map (sendWithTrailerFlag supportsTrailers) ++
        if supportsTrailers then [trailerMessage (g.totals taken)] else [])
  | raised {messages : List Sent} {taken : Nat} {returned : Bool}
      (streamed : Streamed listens headers g messages taken returned) :
    TrailerStreamed listens supportsTrailers headers g (messages.map (sendWithTrailerFlag supportsTrailers))

/-! ## Totals -/

section Totals

variable {g : Generator} {n : Nat}

/-- A generator that is asked for some of its chunks. -/
theorem stream_take {np : Rescale} {synthesizeChunks : Provider} {input : SynthesisInput} {totals : Totals}
    {chunks : List String} {n : Nat}
    (enough : n ≤ (streamSynthesisChunks np synthesizeChunks input totals chunks).1.length) :
    ∃ totals', streamSynthesisChunks np synthesizeChunks input totals (chunks.take n) =
      ((streamSynthesisChunks np synthesizeChunks input totals chunks).1.take n, totals', .ok ()) := by
  induction chunks generalizing totals n with
  | nil =>
    rw [List.take_nil]
    exact ⟨totals, by rw [streamSynthesisChunks, List.take_nil]⟩
  | cons chunkText chunks ih =>
    cases n with
    | zero => exact ⟨totals, rfl⟩
    | succ n =>
      rw [streamSynthesisChunks] at enough ⊢
      split at enough
      · cases enough
      · rename_i wav first
        split at enough
        · cases enough
        · rename_i ms duration
          obtain ⟨totals', taken⟩ := ih (Nat.le_of_succ_le_succ enough)
          refine ⟨totals', ?_⟩
          rw [List.take_succ_cons, streamSynthesisChunks, first]
          dsimp only
          rw [duration]
          dsimp only
          rw [taken]
          rfl

theorem length_yields_le (g : Generator) : g.yields.length ≤ g.chunks.length := by
  have whole {totals : Totals} {chunks : List String} :
      (streamSynthesisChunks g.np g.synthesizeChunks g.input totals chunks).1.length ≤ chunks.length := by
    induction chunks generalizing totals with
    | nil => exact Nat.le_refl 0
    | cons chunkText chunks ih =>
      rw [streamSynthesisChunks]
      split
      · exact Nat.zero_le _
      · split
        · exact Nat.zero_le _
        · exact Nat.succ_le_succ ih
  exact whole

/-- The totals count the chunks that were taken, and add up their durations. -/
theorem totals_taken (enough : n ≤ g.yields.length) :
    (g.totals n).chunks = n ∧ ∃ durations : List Int,
      List.Forall₂ (fun wav ms => wavDurationMs wav = .ok ms) (g.yields.take n) durations ∧
        (g.totals n).durationMs = durations.sum := by
  obtain ⟨totals, taken⟩ := stream_take enough
  have same : g.totals n = totals := congrArg (·.2.1) taken
  rw [same]
  obtain ⟨-, count⟩ := plays_of_completed taken
  obtain ⟨durations, each, total⟩ := duration_of_completed taken
  refine ⟨?_, durations, each, ?_⟩
  · rw [count, List.length_take, Nat.zero_add]
    exact Nat.min_eq_left (Nat.le_trans enough (length_yields_le g))
  · rw [total, Int.zero_add]

end Totals

/-! ## Order -/

/-- The message is one of trailers. -/
def Sent.isTrailers : Sent → Bool
  | .trailers _ _ => true
  | _ => false

section Order

variable {headers : Headers} {g : Generator} {messages : List Sent} {supportsTrailers listens : Bool} {taken : Nat}
  {returned : Bool}

theorem runs_bodyMessages (announced : Bool) (chunks : List Bytes) (rest : List Sent) :
    runs ServerPhase.accept (.body announced) (bodyMessages chunks ++ rest) =
      runs ServerPhase.accept (.body announced) rest := by
  induction chunks with
  | nil => rfl
  | cons chunk chunks ih => exact ih

theorem sentChunks_bodyMessages (chunks : List Bytes) : sentChunks (bodyMessages chunks) = chunks := by
  induction chunks with
  | nil => rfl
  | cons chunk chunks ih => exact congrArg (chunk :: ·) ih

theorem flagged_bodyMessages (chunks : List Bytes) :
    (bodyMessages chunks).map (sendWithTrailerFlag supportsTrailers) = bodyMessages chunks := by
  unfold bodyMessages
  rw [List.map_map]
  rfl

/-- A stream got nowhere, or into its body, or to its end. -/
inductive Reached (headers : Headers) (g : Generator) : List Sent → Prop
  | nothing : Reached headers g []
  | body (n : Nat) : Reached headers g (.start 200 headers false :: bodyMessages (g.yields.take n))
  | whole (ended : g.ending = .ok ()) :
    Reached headers g (.start 200 headers false :: (bodyMessages g.yields ++ [.body [] false]))

theorem reached_of_prefix (begun : messages <+: g.messages headers) : Reached headers g messages := by
  cases messages with
  | nil => exact .nothing
  | cons message messages =>
    unfold Generator.messages at begun
    rw [List.cons_append] at begun
    obtain ⟨rfl, rest⟩ := List.cons_prefix_cons.1 begun
    have inside {part : List Sent} (here : part <+: bodyMessages g.yields) :
        Reached headers g (.start 200 headers false :: part) := by
      rw [List.prefix_iff_eq_take.1 here]
      unfold bodyMessages
      rw [← List.map_take]
      exact .body part.length
    cases ended : g.ending with
    | error raised =>
      rw [ended, List.append_nil] at rest
      exact inside rest
    | ok _ =>
      rw [ended] at rest
      rcases List.prefix_concat_iff.1 rest with rfl | here
      · exact .whole ended
      · exact inside here

theorem Streamed.reached (streamed : Streamed listens headers g messages taken returned) : Reached headers g messages := by
  cases streamed with
  | ended => exact reached_of_prefix (List.prefix_refl _)
  | left listening begun counted => exact reached_of_prefix begun
  | broken begun counted => exact reached_of_prefix begun

/-- Where a stream leaves the server, and what it has sent. -/
theorem Reached.phase (reached : Reached headers g messages) (supportsTrailers : Bool) :
    ∃ phase, runs ServerPhase.accept .start (messages.map (sendWithTrailerFlag supportsTrailers)) = some phase ∧
      (∀ message ∈ messages.map (sendWithTrailerFlag supportsTrailers), message.isTrailers = false) ∧
      (.body [] false ∈ messages.map (sendWithTrailerFlag supportsTrailers) →
        phase = (if supportsTrailers then .trailers else .done) ∧ g.ending = .ok () ∧ sentChunks messages = g.yields) ∧
      (.body [] false ∉ messages.map (sendWithTrailerFlag supportsTrailers) → phase ≠ .trailers ∧ phase ≠ .done) := by
  have plain (chunks : List Bytes) : ∀ message ∈ bodyMessages chunks, message.isTrailers = false := by
    intro message member
    obtain ⟨chunk, -, rfl⟩ := List.mem_map.1 member
    rfl
  have unended (chunks : List Bytes) : Sent.body [] false ∉ bodyMessages chunks := by
    intro member
    obtain ⟨chunk, -, same⟩ := List.mem_map.1 member
    cases same
  cases reached with
  | nothing => exact ⟨.start, rfl, by simp, by simp, by simp⟩
  | body n =>
    refine ⟨.body supportsTrailers, ?_, ?_, ?_, by simp⟩
    · rw [List.map_cons, flagged_bodyMessages]
      have ran := runs_bodyMessages supportsTrailers (g.yields.take n) []
      rw [List.append_nil] at ran
      exact ran
    · rw [List.map_cons, flagged_bodyMessages]
      exact List.forall_mem_cons.2 ⟨rfl, plain _⟩
    · rw [List.map_cons, flagged_bodyMessages]
      intro member
      rcases List.mem_cons.1 member with first | later
      · cases first
      · exact absurd later (unended _)
  | whole ended =>
    refine ⟨if supportsTrailers then .trailers else .done, ?_, ?_, fun _ => ⟨rfl, ended, ?_⟩, fun absent => ?_⟩
    · rw [List.map_cons, List.map_append, flagged_bodyMessages]
      exact runs_bodyMessages supportsTrailers g.yields [.body [] false]
    · rw [List.map_cons, List.map_append, flagged_bodyMessages]
      refine List.forall_mem_cons.2 ⟨rfl, List.forall_mem_append.2 ⟨plain _, ?_⟩⟩
      simp [sendWithTrailerFlag, Sent.isTrailers]
    · show sentChunks (bodyMessages g.yields ++ [.body [] false]) = g.yields
      unfold sentChunks
      rw [List.filterMap_append]
      exact (List.append_nil _).trans (sentChunks_bodyMessages g.yields)
    · refine absurd ?_ absent
      simp [sendWithTrailerFlag]

/-- A stream without trailers is in order. -/
theorem Reached.accepted (reached : Reached headers g messages) : Accepted messages := by
  have unflagged : messages.map (sendWithTrailerFlag false) = messages := by
    refine (List.map_congr_left fun message _ => ?_).trans (List.map_id messages)
    cases message with
    | start statusCode own announced => exact congrArg (Sent.start statusCode own) (Bool.or_false announced)
    | body bytes moreBody => rfl
    | trailers own moreTrailers => rfl
  obtain ⟨phase, ran, -⟩ := reached.phase false
  unfold Accepted
  rw [← unflagged, ran]
  rfl

theorem sentChunks_flagged (messages : List Sent) (supportsTrailers : Bool) :
    sentChunks (messages.map (sendWithTrailerFlag supportsTrailers)) = sentChunks messages := by
  unfold sentChunks
  rw [List.filterMap_map]
  refine List.filterMap_congr fun message _ => ?_
  cases message <;> rfl

end Order

/-- The messages of a stream with its trailers. -/
structure TrailersInOrder (listens supportsTrailers : Bool) (g : Generator) (messages : List Sent) : Prop where
  accepted : Accepted messages ↔ ((∃ message ∈ messages, message.isTrailers = true) → .body [] false ∈ messages)
  prompt : listens = false → Accepted messages
  unsupported : supportsTrailers = false → ∀ message ∈ messages, message.isTrailers = false
  finished : Finished messages → (supportsTrailers = true ↔ ∃ message ∈ messages, message.isTrailers = true)
  totals : Accepted messages → ∀ message ∈ messages, message.isTrailers = true →
    ∃ totals durations, message = trailerMessage totals ∧ g.ending = .ok () ∧ sentChunks messages = g.yields ∧
      totals.chunks = g.yields.length ∧ List.Forall₂ (fun wav ms => wavDurationMs wav = .ok ms) g.yields durations ∧
      totals.durationMs = durations.sum

section Protocol

variable {headers : Headers} {g : Generator} {messages : List Sent} {supportsTrailers listens : Bool} {taken : Nat}

/-- A stream that returns where nobody listens is complete, and so is one that has sent its
last message; all chunks are taken then. -/
theorem Streamed.taken_all {returned : Bool} (streamed : Streamed listens headers g messages taken returned)
    (all : sentChunks messages = g.yields) : taken = g.yields.length := by
  have counted {taken : Nat} (counted : Taken g messages taken) : taken = g.yields.length := by
    obtain ⟨least, -, most⟩ := counted
    rw [all] at least
    omega
  cases streamed with
  | ended => rfl
  | left listening begun here => exact counted here
  | broken begun here => exact counted here

theorem Streamed.complete_of_returned (streamed : Streamed listens headers g messages taken true) (deaf : listens = false) :
    .body [] false ∈ messages.map (sendWithTrailerFlag supportsTrailers) := by
  generalize answer : true = returned at streamed
  cases streamed with
  | ended =>
    unfold Generator.messages
    cases ended : g.ending with
    | ok _ => simp [sendWithTrailerFlag]
    | error raised =>
      rw [ended] at answer
      cases answer
  | left listening begun counted => cases deaf.symm.trans listening
  | broken begun counted => cases answer

/-- What a stream has sent before any trailers. -/
theorem inOrder_of_reached {listens : Bool} (reached : Reached headers g messages)
    (finished : Finished (messages.map (sendWithTrailerFlag supportsTrailers)) → supportsTrailers = false) :
    TrailersInOrder listens supportsTrailers g (messages.map (sendWithTrailerFlag supportsTrailers)) := by
  obtain ⟨phase, ran, plain, -, -⟩ := reached.phase supportsTrailers
  have silent : ¬∃ message ∈ messages.map (sendWithTrailerFlag supportsTrailers), message.isTrailers = true := by
    rintro ⟨message, member, trailers⟩
    cases (plain message member).symm.trans trailers
  have accepted : Accepted (messages.map (sendWithTrailerFlag supportsTrailers)) := by
    unfold Accepted
    rw [ran]
    rfl
  constructor
  · exact iff_of_true accepted fun sent => absurd sent silent
  · exact fun _ => accepted
  · exact fun _ => plain
  · intro whole
    exact iff_of_false (Bool.eq_false_iff.1 (finished whole)) silent
  · exact fun _ message member trailers => absurd ⟨message, member, trailers⟩ silent

/-- **Trailers.** Whatever the generator does and whenever the connection breaks, a server
refuses the messages exactly if they have trailers before the end of the body, which takes
a client that leaves while `StreamingResponse` listens. Trailers that it takes count the
chunks that were sent, which are all of them, and add up their durations; a response that
is finished has trailers exactly where they are supported. -/
theorem trailers_in_order (streamed : TrailerStreamed listens supportsTrailers headers g messages) :
    TrailersInOrder listens supportsTrailers g messages := by
  cases streamed with
  | raised streamed =>
    rename_i inner taken returned
    refine inOrder_of_reached streamed.reached fun whole => ?_
    obtain ⟨phase, ran, -, closed, unfinished⟩ := streamed.reached.phase supportsTrailers
    unfold Finished at whole
    cases ran.symm.trans whole
    by_cases final : Sent.body [] false ∈ inner.map (sendWithTrailerFlag supportsTrailers)
    · cases supportsTrailers with
      | false => rfl
      | true => cases (closed final).1
    · exact absurd rfl (unfinished final).2
  | returned streamed =>
    rename_i inner taken
    cases supportsTrailers with
    | false =>
      have same : inner.map (sendWithTrailerFlag false) ++ [] = inner.map (sendWithTrailerFlag false) := List.append_nil _
      show TrailersInOrder listens false g (inner.map (sendWithTrailerFlag false) ++ [])
      rw [same]
      exact inOrder_of_reached streamed.reached fun _ => rfl
    | true =>
      show TrailersInOrder listens true g (inner.map (sendWithTrailerFlag true) ++ [trailerMessage (g.totals taken)])
      obtain ⟨phase, ran, plain, closed, unclosed⟩ := streamed.reached.phase true
      have after : runs ServerPhase.accept .start
            (inner.map (sendWithTrailerFlag true) ++ [trailerMessage (g.totals taken)]) =
          runs ServerPhase.accept phase [trailerMessage (g.totals taken)] := by
        rw [runs_append, ran]
        rfl
      have last : trailerMessage (g.totals taken) ∈
          inner.map (sendWithTrailerFlag true) ++ [trailerMessage (g.totals taken)] := by simp
      have final : Sent.body [] false ∈ inner.map (sendWithTrailerFlag true) ++ [trailerMessage (g.totals taken)] ↔
          Sent.body [] false ∈ inner.map (sendWithTrailerFlag true) := by
        simp [trailerMessage]
      have accepted : Accepted (inner.map (sendWithTrailerFlag true) ++ [trailerMessage (g.totals taken)]) ↔
          Sent.body [] false ∈ inner.map (sendWithTrailerFlag true) := by
        unfold Accepted
        rw [after]
        by_cases here : Sent.body [] false ∈ inner.map (sendWithTrailerFlag true)
        · rw [(closed here).1]
          exact iff_of_true rfl here
        · obtain ⟨early, late⟩ := unclosed here
          refine iff_of_false ?_ here
          cases phase with
          | start | body announced => exact Bool.false_ne_true
          | trailers => exact absurd rfl early
          | done => exact absurd rfl late
      constructor
      · rw [accepted, final]
        exact ⟨fun here _ => here, fun here => here ⟨_, last, rfl⟩⟩
      · exact fun deaf => accepted.2 (streamed.complete_of_returned deaf)
      · exact fun unsupported => nomatch unsupported
      · exact fun _ => iff_of_true rfl ⟨_, last, rfl⟩
      · intro complete message member trailers
        have here := accepted.1 complete
        obtain ⟨-, ended, all⟩ := closed here
        have each := streamed.taken_all all
        obtain ⟨count, durations, written, total⟩ := totals_taken (Nat.le_of_eq each)
        refine ⟨g.totals taken, durations, ?_, ended, ?_, count.trans each, ?_, total⟩
        · rcases List.mem_append.1 member with before | now
          · cases (plain message before).symm.trans trailers
          · exact List.mem_singleton.1 now
        · have front : sentChunks (inner.map (sendWithTrailerFlag true) ++ [trailerMessage (g.totals taken)]) =
              sentChunks (inner.map (sendWithTrailerFlag true)) := by
            unfold sentChunks
            rw [List.filterMap_append]
            exact List.append_nil _
          rw [front, sentChunks_flagged, all]
        · rw [each, List.take_length] at written
          exact written

/-- Two chunks of a provider that returns no audio. -/
def twoChunks : Generator := ⟨silence, fun _ => .ok [[]], adaInput, ["Hello.", "World."]⟩

/-- The client leaves when the first chunk has been sent. -/
def leftMessages : List Sent := [.start 200 [] true, .body [] true, trailerMessage ⟨1, 0⟩]

theorem leftMessages_inOrder : TrailersInOrder true true twoChunks leftMessages := by
  have left : Streamed true [] twoChunks [.start 200 [] false, .body [] true] 1 true :=
    .left rfl ⟨[.body [] true, .body [] false], rfl⟩ ⟨Nat.le_refl 1, Nat.le_succ 1, by decide⟩
  exact trailers_in_order (.returned left)

example : ¬Accepted leftMessages := by decide

end Protocol

end LlmTts
