import LlmTts.Voice.DiskBackend

/-!
# The blob repository on an object store

`S3BlobRepository` of `s3_blob.py` as programs over calls of a client, which may fail. The
object store is a parameter: `ObjectStore.Documented` says that an absent object is
answered with an error that `_is_missing` knows.
-/

namespace LlmTts
open Python Effect

/-! ## The service -/

/-- What `_is_missing` reads of a `ClientError`: `Error.Code` and the status. -/
structure ClientError where
  code : Option String
  httpStatusCode : Option Int
  deriving DecidableEq

/-- `_MISSING_KEY_CODES`. -/
def missingKeyCodes : List String := ["NoSuchKey", "NoSuchBucket", "404"]

/-- `_is_missing`. -/
def isMissing (exc : ClientError) : Bool :=
  if exc.code.getD "" ∈ missingKeyCodes then true else exc.httpStatusCode == some 404

/-- The objects of one bucket, as a service keeps them. -/
structure ObjectStore where
  State : Type
  putObject : State → String → Bytes → State
  getObject : State → String → Except ClientError Bytes
  headObject : State → String → Except ClientError Unit
  deleteObject : State → String → State

/-- The service does as documented: it is a map from keys to objects, reads answer what
was written last, and an absent object is answered with `NoSuchKey` or 404. -/
structure ObjectStore.Documented (service : ObjectStore) (object : service.State → String → Option Bytes) : Prop where
  put : ∀ t key data, object (service.putObject t key data) = Function.update (object t) key (some data)
  delete : ∀ t key, object (service.deleteObject t key) = Function.update (object t) key none
  get_present : ∀ t key data, object t key = some data → service.getObject t key = .ok data
  get_absent : ∀ t key, object t key = none → ∃ e, isMissing e = true ∧ service.getObject t key = .error e
  head_present : ∀ t key data, object t key = some data → service.headObject t key = .ok ()
  head_absent : ∀ t key, object t key = none → ∃ e, isMissing e = true ∧ service.headObject t key = .error e

/-! ## Calls -/

/-- What a method awaits, and the two uses of `_bucket_verified`. -/
inductive S3Call where
  | createClient
  | closeClient
  | bucketVerified
  | verifyBucket
  | headBucket
  | putObject (key : String) (data : Bytes)
  | getObject (key : String)
  | readBody (payload : Bytes)
  | headObject (key : String)
  | deleteObject (key : String)

/-- A `ClientError`, or any other exception. -/
inductive S3Error where
  | client (exc : ClientError)
  | other

namespace S3Call

@[reducible] def Value : S3Call → Type
  | bucketVerified => Bool
  | getObject _ | readBody _ => Bytes
  | _ => Unit

abbrev Reply (c : S3Call) : Type := Except S3Error c.Value

/-- The two calls that change an object. -/
def commits : S3Call → Bool
  | putObject _ _ | deleteObject _ => true
  | _ => false

/-- The two calls that touch no service. -/
def isLocal : S3Call → Bool
  | bucketVerified | verifyBucket => true
  | _ => false

end S3Call

/-- What becomes of a call. -/
inductive S3Outcome where
  | works
  | raises (e : S3Error)
  | raisesLate (e : S3Error)

/-- What becomes of the next call, whichever it is. -/
abbrev S3Outcomes : Type := S3Call → S3Outcome

/-- The service, and `_bucket_verified` of the instance. -/
structure S3State (service : ObjectStore) where
  store : service.State
  verified : Bool

namespace S3Call

variable {service : ObjectStore}

def effect (w : S3State service) : (c : S3Call) → c.Reply × S3State service
  | createClient | closeClient | headBucket => (.ok (), w)
  | bucketVerified => (.ok w.verified, w)
  | verifyBucket => (.ok (), { w with verified := true })
  | putObject key data => (.ok (), { w with store := service.putObject w.store key data })
  | getObject key => ((service.getObject w.store key).mapError .client, w)
  | readBody payload => (.ok payload, w)
  | headObject key => ((service.headObject w.store key).mapError .client, w)
  | deleteObject key => (.ok (), { w with store := service.deleteObject w.store key })

theorem effect_getObject (w : S3State service) (key : String) :
    effect w (getObject key) = ((service.getObject w.store key).mapError .client, w) := rfl

theorem effect_headObject (w : S3State service) (key : String) :
    effect w (headObject key) = ((service.headObject w.store key).mapError .client, w) := rfl

def exec (os : S3Outcomes) (w : S3State service) (c : S3Call) : c.Reply × S3State service :=
  if c.isLocal then c.effect w
  else
    match os c with
    | .works => c.effect w
    | .raises e => (.error e, w)
    | .raisesLate e => (.error e, (c.effect w).2)

end S3Call

/-! ## The repository -/

/-- A method: a program over client calls that may raise. -/
abbrev S3Action (α : Type) : Type := ExceptT StoreError (Prog S3Call S3Call.Reply) α

/-- A call whose exception is none of the store. -/
def s3 (c : S3Call) : S3Action c.Value := ExceptT.mk (.call c fun reply => .ret (reply.mapError fun _ => .other))

/-- A call on an object, whose absence is an error of the store. -/
def s3Object (voiceId : String) (c : S3Call) : S3Action c.Value :=
  ExceptT.mk (.call c fun reply => .ret (reply.mapError fun
    | .client exc => if isMissing exc then .voiceNotFound voiceId else .other
    | .other => .other))

namespace S3BlobRepository

variable (self : S3BlobRepository) (voiceId : String)

/-- `async with self._client() as client:`. -/
def withClient {α : Type} (body : S3Action α) : S3Action α := do
  s3 .createClient
  let a ← tryCatch body fun exc => do
    s3 .closeClient
    throw exc
  s3 .closeClient
  return a

/-- `_ensure_bucket`. What it raises is no typed error of the store. -/
def ensureBucket : S3Action Unit := do
  let verified : Bool ← s3 .bucketVerified
  unless verified do
    s3 .headBucket
    s3 .verifyBucket

/-- The key of the blob, or what its check raises. -/
def key : S3Action String := ExceptT.mk (.ret (self.keyFor voiceId))

/-- `put`. -/
def put (data : Bytes) : S3Action Unit := do
  let key ← self.key voiceId
  withClient do
    ensureBucket
    s3 (.putObject key data)

/-- `get`. -/
def get : S3Action Bytes := do
  let key ← self.key voiceId
  withClient do
    ensureBucket
    let payload : Bytes ← s3Object voiceId (.getObject key)
    s3 (.readBody payload)

/-- `exists`. -/
def existsId : S3Action Bool := do
  let key ← self.key voiceId
  withClient do
    ensureBucket
    tryCatch (do
      s3Object voiceId (.headObject key)
      return true) fun exc =>
        match exc with
        | .voiceNotFound _ => return false
        | exc => throw exc

/-- `delete`. -/
def delete : S3Action Unit := do
  let key ← self.key voiceId
  withClient do
    ensureBucket
    s3Object voiceId (.headObject key)
    s3 (.deleteObject key)

end S3BlobRepository

/-! ## What the bucket holds -/

/-- The objects of the bucket are the blobs of the stores. -/
def S3BlobRepository.Mirrors (repository : S3BlobRepository) {service : ObjectStore}
    (object : service.State → String → Option Bytes) (w : S3State service) (s : Stores) : Prop :=
  ∀ v key, repository.keyFor v = .ok key → object w.store key = s.blobs v

/-- The calls that find an object. -/
def S3Call.looks : S3Call → Bool
  | .getObject _ | .headObject _ => true
  | _ => false

/-- The outcomes of repository calls that those of client calls come to. An error that
says that an object is absent comes only from a service that has no such object. -/
structure S3Explains (allowed : S3Outcomes → Prop) (kind : Outcome StoreError → Prop) : Prop where
  works : kind .works
  raises : ∀ o c, allowed o → o c ≠ .works → kind (.raises .other)
  late : ∀ o c e, allowed o → c.commits = true → o c = .raisesLate e → kind (.raisesLate .other)
  closed : ∀ o, allowed o → o .closeClient ≠ .works → kind (.raisesLate .other)
  genuine : ∀ o c exc, allowed o → c.looks = true → o c = .raises (.client exc) ∨ o c = .raisesLate (.client exc) →
    isMissing exc = false

/-- What a client call replies and leaves, by its outcome. -/
inductive S3Case {service : ObjectStore} (o : S3Outcomes) (w : S3State service) (c : S3Call) :
    c.Reply × S3State service → Prop
  | works : S3Case o w c (c.effect w)
  | raises (e : S3Error) (fails : o c = .raises e) : S3Case o w c (.error e, w)
  | raisesLate (e : S3Error) (fails : o c = .raisesLate e) : S3Case o w c (.error e, (c.effect w).2)

theorem s3Case {service : ObjectStore} (o : S3Outcomes) (w : S3State service) (c : S3Call) : S3Case o w c (c.exec o w) := by
  unfold S3Call.exec
  split
  · exact .works
  · cases outcome : o c with
    | works => exact .works
    | raises e => exact .raises e outcome
    | raisesLate e => exact .raisesLate e outcome

section Methods

variable {service : ObjectStore} {object : service.State → String → Option Bytes} {repository : S3BlobRepository}
  {allowed : S3Outcomes → Prop} {kind : Outcome StoreError → Prop} {between : S3State service → Prop} {w : S3State service}
  {s : Stores} {c : StoreCall} {voiceId key : String} {data : Bytes}

open S3BlobRepository

/-- The bucket holds the blobs before or after the call. -/
def S3BlobRepository.Between (repository : S3BlobRepository) (object : service.State → String → Option Bytes) (s : Stores)
    (c : StoreCall) (w : S3State service) : Prop :=
  repository.Mirrors object w s ∨ repository.Mirrors object w (s.exec c).2

/-- A repository call that does what its contract says. -/
abbrev S3BlobRepository.MeetsCall (repository : S3BlobRepository) (object : service.State → String → Option Bytes)
    (kind : Outcome StoreError → Prop) (c : StoreCall) (s : Stores) (reply : c.Reply) (w : S3State service) : Prop :=
  Meets Stores.exec raised kind (repository.Mirrors object) c s reply w

theorem meets_between {reply : c.Reply} (met : repository.MeetsCall object kind c s reply w) :
    repository.Between object s c w := by
  obtain ⟨o, -, -, next⟩ := met
  cases o with
  | works | raisesLate => exact .inr next
  | raises => exact .inl next

/-- What raises after a call was carried out. -/
theorem meets_closed {reply : c.Reply} (met : repository.MeetsCall object kind c s reply w) (late : kind (.raisesLate .other))
    (fails : kind (.raises .other)) : repository.MeetsCall object kind c s (.error .other) w := by
  obtain ⟨o, -, -, next⟩ := met
  cases o with
  | works | raisesLate => exact .raisesLate late rfl next
  | raises => exact .raises fails rfl next

/-- A call that a method awaits, and what holds after it. -/
theorem s3_ensures {c : S3Call} {post : Except StoreError c.Value → S3State service → Prop}
    (after : ∀ o result, allowed o → S3Case o w c result → between result.2 ∧
      post (result.1.mapError fun _ => .other) result.2) :
    Ensures S3Call.exec allowed between (s3 c).run w post :=
  fun o allow => after o _ allow (s3Case o w c)

/-- A call that changes nothing. -/
theorem s3_quiet {c : S3Call} (explains : S3Explains allowed kind) (quiet : (c.effect w).2 = w) (stays : between w)
    {post : Except StoreError c.Value → S3State service → Prop}
    (works : post ((c.effect w).1.mapError fun _ => .other) w) (raises : kind (.raises .other) → post (.error .other) w) :
    Ensures S3Call.exec allowed between (s3 c).run w post := by
  refine s3_ensures fun o result allow ended => ?_
  cases ended with
  | works =>
    rw [quiet]
    exact ⟨stays, works⟩
  | raises e fails => exact ⟨stays, raises (explains.raises o c allow (by rw [fails]; exact S3Outcome.noConfusion))⟩
  | raisesLate e fails =>
    rw [quiet]
    exact ⟨stays, raises (explains.raises o c allow (by rw [fails]; exact S3Outcome.noConfusion))⟩

/-- `closeClient`, whose failure comes late. -/
theorem close_ensures (explains : S3Explains allowed kind) {reply : c.Reply}
    (met : repository.MeetsCall object kind c s reply w) {post : Except StoreError Unit → S3State service → Prop}
    (works : post (.ok ()) w) (raises : repository.MeetsCall object kind c s (.error .other) w → post (.error .other) w) :
    Ensures S3Call.exec allowed (repository.Between object s c) (s3 .closeClient).run w post := by
  have stays := meets_between met
  refine s3_ensures fun o result allow ended => ?_
  have failed (fails : o .closeClient ≠ .works) : repository.MeetsCall object kind c s (.error .other) w :=
    meets_closed met (explains.closed o allow fails) (explains.raises o _ allow fails)
  cases ended with
  | works => exact ⟨stays, works⟩
  | raises e fails => exact ⟨stays, raises (failed (by rw [fails]; exact S3Outcome.noConfusion))⟩
  | raisesLate e fails => exact ⟨stays, raises (failed (by rw [fails]; exact S3Outcome.noConfusion))⟩

/-- A method inside its client. -/
theorem withClient_meets (explains : S3Explains allowed kind) (mirrors : repository.Mirrors object w s)
    {body : S3Action c.Value}
    (after : Ensures S3Call.exec allowed (repository.Between object s c) body.run w (repository.MeetsCall object kind c s)) :
    Ensures S3Call.exec allowed (repository.Between object s c) (withClient body).run w
      (repository.MeetsCall object kind c s) := by
  have opened : Ensures S3Call.exec allowed (repository.Between object s c) (s3 .createClient).run w
      (Ended (fun _ w' => w' = w) fun e w' => e = .other ∧ kind (.raises .other) ∧ w' = w) :=
    s3_quiet explains rfl (.inl mirrors) rfl fun fails => ⟨rfl, fails, rfl⟩
  have ended : Ensures S3Call.exec allowed (repository.Between object s c)
      (tryCatch body fun exc => do s3 .closeClient; throw exc : S3Action c.Value).run w
      (Ended (fun a w' => repository.MeetsCall object kind c s (.ok a) w') fun e w' => repository.MeetsCall object kind c s (.error e) w') := by
    refine Ensures.bind after fun reply w' met => ?_
    cases reply with
    | ok a => exact met
    | error e =>
      have closed : Ensures S3Call.exec allowed (repository.Between object s c) (s3 .closeClient).run w'
          (Ended (fun _ w'' => w'' = w') fun e w'' => repository.MeetsCall object kind c s (.error e) w'') :=
        close_ensures explains met rfl fun failed => failed
      refine closed.run_bind ?_ fun e w'' failed => failed
      rintro - w'' rfl
      exact met
  refine opened.run_bind ?_ ?_
  · rintro - w' rfl
    refine ended.run_bind (fun a w'' met => ?_) fun e w'' failed => failed
    have closed : Ensures S3Call.exec allowed (repository.Between object s c) (s3 .closeClient).run w''
        (Ended (fun _ u => u = w'') fun e u => repository.MeetsCall object kind c s (.error e) u) :=
      close_ensures explains met rfl fun failed => failed
    refine closed.run_bind ?_ fun e u failed => failed
    rintro - u rfl
    exact met
  · rintro e w' ⟨rfl, fails, rfl⟩
    exact .raises fails rfl mirrors

/-- `_ensure_bucket` changes no object. -/
theorem ensureBucket_ensures (explains : S3Explains allowed kind) (stays : ∀ w' : S3State service, w'.store = w.store → between w') :
    Ensures S3Call.exec allowed between ensureBucket.run w
      (Ended (fun _ w' => w'.store = w.store) fun e w' => e = .other ∧ kind (.raises .other) ∧ w'.store = w.store) := by
  have asked : Ensures S3Call.exec allowed between (s3 .bucketVerified).run w
      (Ended (fun _ w' => w' = w) fun e w' => e = .other ∧ kind (.raises .other) ∧ w' = w) :=
    s3_quiet explains rfl (stays w rfl) rfl fun fails => ⟨rfl, fails, rfl⟩
  have headed : Ensures S3Call.exec allowed between (s3 .headBucket).run w
      (Ended (fun _ w' => w' = w) fun e w' => e = .other ∧ kind (.raises .other) ∧ w' = w) :=
    s3_quiet explains rfl (stays w rfl) rfl fun fails => ⟨rfl, fails, rfl⟩
  refine asked.run_bind ?_ ?_
  · rintro verified w' rfl
    cases verified with
    | true => exact Ensures.ret rfl
    | false =>
      refine headed.run_bind ?_ ?_
      · rintro - w'' rfl
        intro o allow
        exact ⟨stays _ rfl, rfl⟩
      · rintro e w'' ⟨rfl, fails, rfl⟩
        exact ⟨rfl, fails, rfl⟩
  · rintro e w' ⟨rfl, fails, rfl⟩
    exact ⟨rfl, fails, rfl⟩

/-- A method: the check of the id, the client and the bucket, then the calls on the object. -/
theorem method_meets (c : StoreCall) (explains : S3Explains allowed kind) (mirrors : repository.Mirrors object w s)
    {body : String → S3Action c.Value}
    (after : ∀ key w', repository.keyFor c.voiceId = .ok key → validateVoiceId c.voiceId = .ok () →
      repository.Mirrors object w' s → Ensures S3Call.exec allowed (repository.Between object s c) (body key).run w'
        (repository.MeetsCall object kind c s)) :
    Ensures S3Call.exec allowed (repository.Between object s c)
      (do let key ← repository.key c.voiceId; withClient do ensureBucket; body key : S3Action c.Value).run w
      (repository.MeetsCall object kind c s) := by
  cases valid : validateVoiceId c.voiceId with
  | ok _ =>
    have built : repository.keyFor c.voiceId = .ok (c.voiceId ++ ".wav") := keyFor_ok_iff.2 ⟨valid, rfl⟩
    unfold S3BlobRepository.key
    rw [built]
    have same : ∀ w' : S3State service, w'.store = w.store → repository.Mirrors object w' s := by
      intro w' kept v key named
      rw [kept]
      exact mirrors v key named
    refine withClient_meets explains mirrors ?_
    refine (ensureBucket_ensures explains fun w' kept => .inl (same w' kept)).run_bind ?_ ?_
    · intro _ w' kept
      exact after _ w' built valid (same w' kept)
    · rintro e w' ⟨rfl, fails, kept⟩
      exact .raises fails rfl (same w' kept)
  | error e =>
    have refused : repository.keyFor c.voiceId = .error e := by
      unfold S3BlobRepository.keyFor
      rw [valid]
      rfl
    have same : s.exec c = (.error e, s) := by
      unfold Stores.exec
      rw [valid]
    unfold S3BlobRepository.key
    rw [refused]
    show repository.MeetsCall object kind c s (.error e) w
    refine .works explains.works ?_ ?_
    · rw [same]
    · rw [same]
      exact mirrors

/-- A call that finds an object, or says that there is none, or fails otherwise. -/
theorem s3Object_ensures (c : S3Call) (found : c.Value → Prop) (absent : Prop) (looks : c.looks = true)
    (explains : S3Explains allowed kind) (stays : between w)
    (answers : (∃ v, found v ∧ (c.effect w).1 = .ok v) ∨ absent ∧ ∃ exc, isMissing exc = true ∧ (c.effect w).1 = .error (.client exc)) :
    Ensures S3Call.exec allowed between (s3Object voiceId c).run w
      (Ended (fun v w' => found v ∧ w' = w) fun e w' =>
        w' = w ∧ (e = .voiceNotFound voiceId ∧ absent ∨ e = .other ∧ kind (.raises .other))) := by
  have quiet : (c.effect w).2 = w := by
    cases c <;> first | rfl | cases looks
  have failed : ∀ e : S3Error, (∀ exc, e = .client exc → isMissing exc = false) →
      (match e with
        | .client exc => if isMissing exc then StoreError.voiceNotFound voiceId else .other
        | .other => .other) = .other := by
    intro e genuine
    cases e with
    | client exc =>
      dsimp only
      rw [genuine exc rfl]
      exact if_neg Bool.false_ne_true
    | other => rfl
  intro o allow
  have ended := s3Case o w c
  show between (c.exec o w).2 ∧ Ended _ _ ((c.exec o w).1.mapError _) (c.exec o w).2
  generalize c.exec o w = result at ended ⊢
  cases ended with
  | works =>
    rw [quiet]
    refine ⟨stays, ?_⟩
    rcases answers with ⟨v, here, answer⟩ | ⟨gone, exc, missing, answer⟩
    · rw [answer]
      exact ⟨here, rfl⟩
    · rw [answer]
      refine ⟨rfl, .inl ⟨?_, gone⟩⟩
      dsimp only
      rw [if_pos missing]
  | raises e fails =>
    refine ⟨stays, rfl, .inr ⟨failed e ?_, explains.raises o c allow (by rw [fails]; exact S3Outcome.noConfusion)⟩⟩
    rintro exc rfl
    exact explains.genuine o c exc allow looks (.inl fails)
  | raisesLate e fails =>
    rw [quiet]
    refine ⟨stays, rfl, .inr ⟨failed e ?_, explains.raises o c allow (by rw [fails]; exact S3Outcome.noConfusion)⟩⟩
    rintro exc rfl
    exact explains.genuine o c exc allow looks (.inr fails)

/-- Keys are those of one id. -/
theorem keyFor_inj {v other : String} (built : repository.keyFor voiceId = .ok key)
    (named : repository.keyFor v = .ok other) : other = key ↔ v = voiceId := by
  obtain ⟨-, rfl⟩ := keyFor_ok_iff.1 built
  obtain ⟨-, rfl⟩ := keyFor_ok_iff.1 named
  exact ⟨wav_injective, fun same => by rw [same]⟩

/-- An object that is written or removed. -/
theorem mirrors_update (built : repository.keyFor voiceId = .ok key) (mirrors : repository.Mirrors object w s)
    {data? : Option Bytes} {t : service.State} (written : object t = Function.update (object w.store) key data?) :
    repository.Mirrors object { w with store := t } (s.setBlob voiceId data?) := by
  intro v other named
  show object t other = _
  rw [written, Function.update_apply, Stores.blobs_setBlob]
  simp only [keyFor_inj built named]
  split
  · rfl
  · exact mirrors v other named

/-- What finding an object says about the blob. -/
theorem get_answers (documented : service.Documented object) (here : repository.Mirrors object w s) (built : repository.keyFor voiceId = .ok key) :
    (∃ payload, s.blobs voiceId = some payload ∧ (S3Call.effect w (.getObject key)).1 = .ok payload) ∨
      s.blobs voiceId = none ∧ ∃ exc, isMissing exc = true ∧ (S3Call.effect w (.getObject key)).1 = .error (.client exc) := by
  have same := here voiceId key built
  rw [S3Call.effect_getObject]
  cases found : s.blobs voiceId with
  | some payload =>
    rw [found] at same
    exact .inl ⟨payload, rfl, by rw [documented.get_present _ _ _ same]; rfl⟩
  | none =>
    rw [found] at same
    obtain ⟨exc, missing, answer⟩ := documented.get_absent _ _ same
    exact .inr ⟨rfl, exc, missing, by rw [answer]; rfl⟩

theorem head_answers (documented : service.Documented object) (here : repository.Mirrors object w s) (built : repository.keyFor voiceId = .ok key) :
    (∃ done : Unit, (s.blobs voiceId).isSome = true ∧ (S3Call.effect w (.headObject key)).1 = .ok done) ∨
      s.blobs voiceId = none ∧ ∃ exc, isMissing exc = true ∧ (S3Call.effect w (.headObject key)).1 = .error (.client exc) := by
  have same := here voiceId key built
  rw [S3Call.effect_headObject]
  cases found : s.blobs voiceId with
  | some payload =>
    rw [found] at same
    exact .inl ⟨(), rfl, by rw [documented.head_present _ _ _ same]; rfl⟩
  | none =>
    rw [found] at same
    obtain ⟨exc, missing, answer⟩ := documented.head_absent _ _ same
    exact .inr ⟨rfl, exc, missing, by rw [answer]; rfl⟩

section Service

variable (documented : service.Documented object) (explains : S3Explains allowed kind)

include documented explains

/-- `put`. -/
theorem s3_put_meets (mirrors : repository.Mirrors object w s) :
    Ensures S3Call.exec allowed (repository.Between object s (.blobPut voiceId data)) (repository.put voiceId data).run w
      (repository.MeetsCall object kind (.blobPut voiceId data) s) := by
  refine method_meets (.blobPut voiceId data) explains mirrors ?_
  intro key w' built valid here
  dsimp only [StoreCall.voiceId] at built valid
  have effect := @Stores.exec_blobPut s voiceId data valid
  have stored : repository.Mirrors object (S3Call.effect w' (.putObject key data)).2 (s.exec (.blobPut voiceId data)).2 := by
    rw [effect]
    exact mirrors_update built here (documented.put _ _ _)
  refine s3_ensures fun o result allow ended => ?_
  cases ended with
  | works => exact ⟨.inr stored, .works explains.works (by rw [effect]; rfl) stored⟩
  | raises e fails =>
    exact ⟨.inl here, .raises (explains.raises o _ allow (by rw [fails]; exact S3Outcome.noConfusion)) rfl here⟩
  | raisesLate e fails => exact ⟨.inr stored, .raisesLate (explains.late o _ e allow rfl fails) rfl stored⟩

/-- `get`. -/
theorem s3_get_meets (mirrors : repository.Mirrors object w s) :
    Ensures S3Call.exec allowed (repository.Between object s (.blobGet voiceId)) (repository.get voiceId).run w
      (repository.MeetsCall object kind (.blobGet voiceId) s) := by
  refine method_meets (.blobGet voiceId) explains mirrors ?_
  intro key w' built valid here
  dsimp only [StoreCall.voiceId] at built valid
  have effect := @Stores.exec_blobGet s voiceId valid
  have stays : repository.Between object s (.blobGet voiceId) w' := .inl here
  refine (s3Object_ensures (.getObject key) (fun payload => s.blobs voiceId = some payload)
    (s.blobs voiceId = none) rfl explains stays (get_answers documented here built)).run_bind ?_ ?_
  · rintro payload w'' ⟨found, rfl⟩
    refine s3_quiet explains rfl (.inl here) ?_ fun fails => .raises fails rfl here
    refine .works explains.works ?_ ?_
    · rw [effect, found]
      rfl
    · rw [effect]
      exact here
  · rintro e w'' ⟨rfl, ⟨rfl, gone⟩ | ⟨rfl, fails⟩⟩
    · refine .works explains.works ?_ ?_
      · rw [effect, gone]
        rfl
      · rw [effect]
        exact here
    · exact .raises fails rfl here

/-- `exists`. -/
theorem s3_existsId_meets (mirrors : repository.Mirrors object w s) :
    Ensures S3Call.exec allowed (repository.Between object s (.blobExists voiceId)) (repository.existsId voiceId).run w
      (repository.MeetsCall object kind (.blobExists voiceId) s) := by
  refine method_meets (.blobExists voiceId) explains mirrors ?_
  intro key w' built valid here
  dsimp only [StoreCall.voiceId] at built valid
  have effect := @Stores.exec_blobExists s voiceId valid
  have settled {reply : Bool} (same : reply = (s.blobs voiceId).isSome) :
      repository.MeetsCall object kind (.blobExists voiceId) s (.ok reply) w' := by
    refine .works explains.works ?_ ?_
    · rw [effect, same]
    · rw [effect]
      exact here
  have stays : repository.Between object s (.blobExists voiceId) w' := .inl here
  have looked : Ensures S3Call.exec allowed (repository.Between object s (.blobExists voiceId))
      (do s3Object voiceId (.headObject key); return true : S3Action Bool).run w' (Ended
        (fun present w'' => present = (s.blobs voiceId).isSome ∧ w'' = w')
        fun e w'' => w'' = w' ∧ (e = .voiceNotFound voiceId ∧ s.blobs voiceId = none ∨ e = .other ∧ kind (.raises .other))) := by
    refine (s3Object_ensures (.headObject key) (fun _ => (s.blobs voiceId).isSome = true)
    (s.blobs voiceId = none) rfl explains stays (head_answers documented here built)).run_bind ?_ fun e w'' failed => failed
    rintro - w'' ⟨present, rfl⟩
    exact ⟨present.symm, rfl⟩
  refine looked.run_tryCatch ?_ ?_
  · rintro present w'' ⟨same, rfl⟩
    exact settled same
  · rintro e w'' ⟨rfl, ⟨rfl, gone⟩ | ⟨rfl, fails⟩⟩
    · exact settled (by rw [gone]; rfl)
    · show repository.MeetsCall object kind (.blobExists voiceId) s (.error .other) w''
      exact .raises fails rfl here

/-- `delete`. -/
theorem s3_delete_meets (mirrors : repository.Mirrors object w s) :
    Ensures S3Call.exec allowed (repository.Between object s (.blobDelete voiceId)) (repository.delete voiceId).run w
      (repository.MeetsCall object kind (.blobDelete voiceId) s) := by
  refine method_meets (.blobDelete voiceId) explains mirrors ?_
  intro key w' built valid here
  dsimp only [StoreCall.voiceId] at built valid
  have effect := @Stores.exec_blobDelete s voiceId valid
  have stays : repository.Between object s (.blobDelete voiceId) w' := .inl here
  refine (s3Object_ensures (.headObject key) (fun _ => (s.blobs voiceId).isSome = true)
    (s.blobs voiceId = none) rfl explains stays (head_answers documented here built)).run_bind ?_ ?_
  · rintro - w'' ⟨present, rfl⟩
    rw [if_pos present] at effect
    have removed : repository.Mirrors object (S3Call.effect w'' (.deleteObject key)).2 (s.exec (.blobDelete voiceId)).2 := by
      rw [effect]
      exact mirrors_update built here (documented.delete _ _)
    refine s3_ensures fun o result allow ended => ?_
    cases ended with
    | works => exact ⟨.inr removed, .works explains.works (by rw [effect]; rfl) removed⟩
    | raises e fails =>
      exact ⟨stays, .raises (explains.raises o _ allow (by rw [fails]; exact S3Outcome.noConfusion)) rfl here⟩
    | raisesLate e fails => exact ⟨.inr removed, .raisesLate (explains.late o _ e allow rfl fails) rfl removed⟩
  · rintro e w'' ⟨rfl, ⟨rfl, gone⟩ | ⟨rfl, fails⟩⟩
    · rw [gone] at effect
      refine .works explains.works ?_ ?_
      · rw [effect]
        rfl
      · rw [effect]
        exact here
    · exact .raises fails rfl here

end Service

end Methods

end LlmTts
