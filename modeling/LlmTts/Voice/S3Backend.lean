import LlmTts.Voice.DiskHistories
import LlmTts.Voice.S3Blob

/-!
# The handlers over an object store

Blobs in a bucket, and records in any metadata repository that is a map. A history of
requests is one over the stores again (`bucket_explained`), so that where nothing fails
the bucket and the disk give the same answers (`blob_backends_agree`).
-/

namespace LlmTts
open Python Effect FsJsonMetadataRepository

/-! ## The backend -/

/-- A call of the metadata repository, or of the client of the bucket. -/
inductive BucketCall where
  | records (c : MetadataCall)
  | s3 (c : S3Call)

abbrev BucketCall.Reply : BucketCall → Type
  | records _ => MetadataReply
  | s3 c => c.Reply

structure BucketState (service : ObjectStore) where
  records : VoiceMap
  bucket : S3State service

/-- What becomes of the next call, whichever it is; a metadata call that fails raises none
of the typed exceptions. -/
structure BucketOutcome where
  records : Outcome Unit
  s3 : S3Outcomes

namespace S3BlobRepository

variable {service : ObjectStore}

/-- One call. -/
def exec (o : BucketOutcome) (w : BucketState service) : (c : BucketCall) → c.Reply × BucketState service
  | .records call =>
    match o.records with
    | .works => ((w.records.exec false call).1, { w with records := (w.records.exec false call).2 })
    | .raises _ => (.error .other, w)
    | .raisesLate _ => (.error .other, { w with records := (w.records.exec false call).2 })
  | .s3 call => ((call.exec o.s3 w.bucket).1, { w with bucket := (call.exec o.s3 w.bucket).2 })

/-- A call of the metadata repository. -/
def ask (call : MetadataCall) : Prog BucketCall BucketCall.Reply MetadataReply := .call (.records call) .ret

/-- A method of the blob repository. -/
def onBucket {α : Type} (p : Prog S3Call S3Call.Reply α) : Prog BucketCall BucketCall.Reply α :=
  p.inline fun c => .call (.s3 c) .ret

/-- The method that answers a call. -/
def method (self : S3BlobRepository) : (c : StoreCall) → Prog BucketCall BucketCall.Reply c.Reply :=
  backendMethod ask {
    put := fun v data => onBucket (self.put v data).run
    get := fun v => onBucket (self.get v).run
    existsId := fun v => onBucket (self.existsId v).run
    delete := fun v => onBucket (self.delete v).run }

/-- The map holds the records and the bucket the blobs. -/
structure MirrorsBoth (repository : S3BlobRepository) (object : service.State → String → Option Bytes)
    (w : BucketState service) (s : Stores) : Prop where
  records : ∀ v, s.metadata v = w.records.lookup v
  bucket : repository.Mirrors object w.bucket s

end S3BlobRepository

/-- The outcomes of repository calls that those of the two kinds of calls come to. -/
structure BucketExplains (allowed : BucketOutcome → Prop) (kind : Outcome StoreError → Prop) : Prop where
  raises : ∀ o, allowed o → o.records = .raises () → kind (.raises .other)
  late : ∀ o, allowed o → o.records = .raisesLate () → kind (.raisesLate .other)
  s3 : S3Explains (fun os => ∃ o, allowed o ∧ o.s3 = os) kind

section Methods

variable {service : ObjectStore} {object : service.State → String → Option Bytes} {repository : S3BlobRepository}
  {allowed : BucketOutcome → Prop} {kind : Outcome StoreError → Prop} {w : BucketState service} {s : Stores} {c : StoreCall}

open S3BlobRepository

/-- A method of the records leaves the bucket as it is. -/
theorem bucket_records {call : MetadataCall} (metadata : MetadataCall.ofStore? c = some call)
    (explains : BucketExplains allowed kind) (mirrors : repository.MirrorsBoth object w s) :
    Ensures S3BlobRepository.exec allowed
      (fun t => repository.MirrorsBoth object t s ∨ repository.MirrorsBoth object t (s.exec c).2) (recordsMethod ask c call) w
      (Meets Stores.exec raised kind (repository.MirrorsBoth object) c s) := by
  unfold recordsMethod
  cases valid : validateVoiceId c.voiceId with
  | error e =>
    have same : s.exec c = (.error e, s) := by
      unfold Stores.exec
      rw [valid]
    refine .works explains.s3.works ?_ ?_
    · rw [same]
    · rw [same]
      exact mirrors
  | ok _ =>
    obtain ⟨answer, after⟩ := Stores.exec_metadata mirrors.records metadata valid
    have done : repository.MirrorsBoth object { w with records := (w.records.exec false call).2 } (s.exec c).2 := by
      refine ⟨after, fun v key built => ?_⟩
      rw [exec_blobs metadata]
      exact mirrors.bucket v key built
    intro o allow
    unfold S3BlobRepository.exec
    cases outcome : o.records with
    | works =>
      refine ⟨.inr done, .works explains.s3.works ?_ done⟩
      dsimp only
      rw [← answer, bind_toStore metadata]
    | raises _ => exact ⟨.inl mirrors, .raises (explains.raises o allow outcome) rfl mirrors⟩
    | raisesLate _ => exact ⟨.inr done, .raisesLate (explains.late o allow outcome) rfl done⟩

/-- A method of the blobs leaves the records as they are. -/
theorem bucket_blobs (blob : MetadataCall.ofStore? c = none) (mirrors : repository.MirrorsBoth object w s)
    {p : Prog S3Call S3Call.Reply c.Reply}
    (meets : Ensures S3Call.exec (fun os => ∃ o, allowed o ∧ o.s3 = os) (repository.Between object s c) p w.bucket
      (repository.MeetsCall object kind c s)) :
    Ensures S3BlobRepository.exec allowed
      (fun t => repository.MirrorsBoth object t s ∨ repository.MirrorsBoth object t (s.exec c).2) (onBucket p) w
      (Meets Stores.exec raised kind (repository.MirrorsBoth object) c s) := by
  have before {t : BucketState service} (kept : t.records = w.records) : ∀ v, s.metadata v = t.records.lookup v := by
    rw [kept]
    exact mirrors.records
  have after {t : BucketState service} (kept : t.records = w.records) :
      ∀ v, (s.exec c).2.metadata v = t.records.lookup v := by
    rw [exec_records blob]
    exact before kept
  have whole : Ensures S3BlobRepository.exec allowed
      (fun t => t.records = w.records ∧ repository.Between object s c t.bucket) (onBucket p) w
      fun reply t => t.records = w.records ∧ repository.MeetsCall object kind c s reply t.bucket := by
    refine Ensures.embed ?_ meets rfl
    intro e t' kept o allow
    exact ⟨⟨kept, _, ⟨o, allow, rfl⟩, rfl⟩, kept, _, ⟨o, allow, rfl⟩, rfl, rfl⟩
  refine (whole.between_mono ?_).mono ?_
  · rintro t ⟨kept, here | here⟩
    · exact .inl ⟨before kept, here⟩
    · exact .inr ⟨after kept, here⟩
  · rintro reply t ⟨kept, outcome, ofKind, answer, next⟩
    refine ⟨outcome, ofKind, answer, ?_⟩
    cases outcome with
    | works | raisesLate => exact ⟨after kept, next⟩
    | raises => exact ⟨before kept, next⟩

/-- The methods over the bucket do what their calls do. -/
theorem bucket_implements (documented : service.Documented object) (explains : BucketExplains allowed kind) :
    Implements S3BlobRepository.exec repository.method allowed kind (fun _ => True) (repository.MirrorsBoth object)
      (repository.MirrorsBoth object) := by
  intro c w s _ mirrors
  cases c with
  | metaGet v | metaExists v | metaCreate record | metaUpdate record | metaDelete v =>
    exact bucket_records rfl explains mirrors
  | blobPut v data => exact bucket_blobs rfl mirrors (s3_put_meets documented explains.s3 mirrors.bucket)
  | blobGet v => exact bucket_blobs rfl mirrors (s3_get_meets documented explains.s3 mirrors.bucket)
  | blobExists v => exact bucket_blobs rfl mirrors (s3_existsId_meets documented explains.s3 mirrors.bucket)
  | blobDelete v => exact bucket_blobs rfl mirrors (s3_delete_meets documented explains.s3 mirrors.bucket)

end Methods

/-! ## From an empty bucket -/

/-- Only a service without the object says so. -/
def BucketOutcome.Genuine (o : BucketOutcome) : Prop :=
  ∀ c exc, c.looks = true → o.s3 c = .raises (.client exc) ∨ o.s3 c = .raisesLate (.client exc) → isMissing exc = false

/-- Besides, nothing raises after it has taken effect. -/
structure BucketOutcome.Prompt (o : BucketOutcome) : Prop where
  genuine : o.Genuine
  records : o.records ≠ .raisesLate ()
  commits : ∀ c e, c.commits = true → o.s3 c ≠ .raisesLate e
  closes : o.s3 .closeClient = .works

/-- Nothing raises. -/
structure BucketOutcome.Works (o : BucketOutcome) : Prop where
  records : o.records = .works
  s3 : ∀ c, o.s3 c = .works

/-- Calls that fail one way or another are explained by any failure of a repository. -/
theorem explains_genuine : BucketExplains BucketOutcome.Genuine Untyped where
  raises _ _ _ := rfl
  late _ _ _ := rfl
  s3 := {
    works := trivial
    raises := fun _ _ _ _ => rfl
    late := fun _ _ _ _ _ _ => rfl
    closed := fun _ _ _ => rfl
    genuine := by
      rintro os c exc ⟨o, genuine, rfl⟩
      exact genuine c exc }

/-- Calls that fail without effect are explained by such failures of the repositories. -/
theorem explains_bucketPrompt : BucketExplains BucketOutcome.Prompt (fun o => Untyped o ∧ o.Prompt) where
  raises _ _ _ := ⟨rfl, trivial⟩
  late _ prompt late := absurd late prompt.records
  s3 := {
    works := ⟨trivial, trivial⟩
    raises := fun _ _ _ _ => ⟨rfl, trivial⟩
    late := by
      rintro os c e ⟨o, prompt, rfl⟩ commits late
      exact absurd late (prompt.commits c e commits)
    closed := by
      rintro os ⟨o, prompt, rfl⟩ fails
      exact absurd prompt.closes fails
    genuine := by
      rintro os c exc ⟨o, prompt, rfl⟩
      exact prompt.genuine c exc }

/-- Calls that work are explained by calls that work. -/
theorem explains_bucketWorks : BucketExplains BucketOutcome.Works (· = .works) where
  raises _ works fails := by
    rw [works.records] at fails
    cases fails
  late _ works fails := by
    rw [works.records] at fails
    cases fails
  s3 := {
    works := rfl
    raises := by
      rintro os c ⟨o, works, rfl⟩ fails
      exact absurd (works.s3 c) fails
    late := by
      rintro os c e ⟨o, works, rfl⟩ _ late
      rw [works.s3 c] at late
      cases late
    closed := by
      rintro os ⟨o, works, rfl⟩ fails
      exact absurd (works.s3 _) fails
    genuine := by
      rintro os c exc ⟨o, works, rfl⟩ _ (raises | late)
      · rw [works.s3 c] at raises
        cases raises
      · rw [works.s3 c] at late
        cases late }

namespace S3BlobRepository

variable {service : ObjectStore}

/-- Requests over a bucket, one after the other. -/
def serveAll (self : S3BlobRepository) (usual : BucketOutcome) (requests : List (BackendRequest BucketOutcome))
    (w : BucketState service) : List (Option VoiceEnd) × BucketState service :=
  LlmTts.serveAll S3BlobRepository.exec self.method usual requests w

/-- Nothing is in the bucket, and there are no records. -/
structure Fresh (object : service.State → String → Option Bytes) (w : BucketState service) : Prop where
  records : w.records = ∅
  bucket : ∀ key, object w.bucket.store key = none

end S3BlobRepository

/-! ## A bucket in memory -/

/-- A bucket as a function. -/
def memoryBucket : ObjectStore where
  State := String → Option Bytes
  putObject t key data := Function.update t key (some data)
  getObject t key := (t key).elim (.error ⟨some "NoSuchKey", some 404⟩) .ok
  headObject t key := (t key).elim (.error ⟨none, some 404⟩) fun _ => .ok ()
  deleteObject t key := Function.update t key none

/-- A bucket in memory is as documented. -/
theorem memoryBucket_documented : memoryBucket.Documented id where
  put _ _ _ := rfl
  delete _ _ := rfl
  get_present t key data found := congrArg (Option.elim · _ _) found
  get_absent t key gone := ⟨_, by decide, congrArg (Option.elim · _ _) gone⟩
  head_present t key data found := congrArg (Option.elim · _ _) found
  head_absent t key gone := ⟨_, by decide, congrArg (Option.elim · _ _) gone⟩

def emptyBucket : BucketState memoryBucket := ⟨∅, ⟨fun _ => none, false⟩⟩

/-- And it starts empty. -/
theorem emptyBucket_fresh : @S3BlobRepository.Fresh memoryBucket id emptyBucket := ⟨rfl, fun _ => rfl⟩

def goodBucket : BucketOutcome := ⟨.works, fun _ => .works⟩

/-- The bucket cannot be reached. -/
def noBucket : BucketOutcome where
  records := .works
  s3
    | .headBucket => .raises (.client ⟨some "NoSuchBucket", some 404⟩)
    | _ => .works

/-- All its calls work. -/
theorem goodBucket_works : goodBucket.Works := ⟨rfl, fun _ => rfl⟩

theorem goodBucket_prompt : goodBucket.Prompt := by
  constructor <;> simp [goodBucket, BucketOutcome.Genuine]

/-- A bucket that is missing refuses at once. -/
theorem noBucket_prompt : noBucket.Prompt := by
  refine ⟨fun c exc looks raises => ?_, by decide, fun c e commits => ?_, rfl⟩
  · cases c with
    | getObject key | headObject key => rcases raises with raises | late <;> contradiction
    | _ => cases looks
  · cases c with
    | putObject key data | deleteObject key => exact S3Outcome.noConfusion
    | _ => cases commits

def voicesBucket : S3BlobRepository := ⟨"voices", by decide⟩

/-- A POST while the bucket cannot be reached, another one, and a look at the voice. -/
def postsOnBucket (kill : Option Nat) : List (BackendRequest BucketOutcome) :=
  [⟨.create (plainCreate 1), [goodBucket, goodBucket, goodBucket, noBucket], none⟩, ⟨.create (plainCreate 2), [], kill⟩,
    ⟨.resolve "ada", [], none⟩]

/-- The calls of the POSTs fail without effect or work. -/
theorem postsOnBucket_prompt (kill : Option Nat) : ∀ r ∈ postsOnBucket kill, Allowed BucketOutcome.Prompt r.script := by
  simp only [postsOnBucket, Allowed, List.forall_mem_cons, List.not_mem_nil, false_imp_iff, implies_true, and_true]
  exact ⟨goodBucket_prompt, goodBucket_prompt, goodBucket_prompt, noBucket_prompt⟩

/-- A voice is posted, looked at and deleted. -/
def plainRequests (O : Type) : List (BackendRequest O) :=
  [⟨.create (plainCreate 1), [], none⟩, ⟨.resolve "ada", [], none⟩, ⟨.delete "ada", [], none⟩]

theorem plainRequests_storable : ∀ r ∈ plainRequests DiskOutcome, ∀ c, Makes r.op c → Storable (· = .works) c := by
  simp only [plainRequests, List.forall_mem_cons, List.not_mem_nil, false_imp_iff, implies_true, and_true]
  exact ⟨plainCreate_storable 1, storable_resolve "ada", storable_delete "ada"⟩

theorem plainRequests_allowed {O : Type} (allowed : O → Prop) : ∀ r ∈ plainRequests O, Allowed allowed r.script := by
  simp [plainRequests, Allowed]

theorem plainRequests_survive (O : Type) : ∀ r ∈ plainRequests O, r.kill = none := by
  simp [plainRequests]

section Fresh

variable {service : ObjectStore} {object : service.State → String → Option Bytes} {repository : S3BlobRepository}
  {w : BucketState service} {usual : BucketOutcome} {requests : List (BackendRequest BucketOutcome)}

open S3BlobRepository

/-- A history on a bucket is one on the stores, call by call. -/
theorem bucket_refines (documented : service.Documented object) (fresh : S3BlobRepository.Fresh object w)
    {allowed : BucketOutcome → Prop} {kind : Outcome StoreError → Prop} (explains : BucketExplains allowed kind) (idle : allowed usual)
    (scripts : ∀ r ∈ requests, Allowed allowed r.script) :
    ∃ s, ExplainedAll kind .empty requests (repository.serveAll usual requests w).1 s ∧
      repository.MirrorsBoth object (repository.serveAll usual requests w).2 s := by
  have start : repository.MirrorsBoth object w .empty := by
    refine ⟨fun v => ?_, fun v key built => fresh.bucket key⟩
    rw [fresh.records]
    rfl
  have ordinary : ∀ r ∈ requests, r.Ordinary allowed (fun _ => True) False :=
    fun r member => ⟨scripts r member, fun _ _ => trivial, False.elim⟩
  exact history_refines (bucket_implements documented explains) (fun _ _ mirrors => mirrors) (fun _ _ mirrors _ => mirrors)
    idle ordinary start

/-- **Requests over a bucket.** Whatever client calls fail, and wherever the process is
killed, requests over an object store answer and leave records and blobs as on the stores,
as long as only an absent object is reported as one. -/
theorem bucket_explained (documented : service.Documented object) (fresh : S3BlobRepository.Fresh object w) :
    (usual.Genuine → (∀ r ∈ requests, Allowed BucketOutcome.Genuine r.script) →
      ∃ s, ExplainedAll Untyped .empty requests (repository.serveAll usual requests w).1 s ∧
        repository.MirrorsBoth object (repository.serveAll usual requests w).2 s) ∧
    (usual.Prompt → (∀ r ∈ requests, Allowed BucketOutcome.Prompt r.script) →
      ∃ s, ExplainedAll (fun o => Untyped o ∧ o.Prompt) .empty requests (repository.serveAll usual requests w).1 s ∧
        repository.MirrorsBoth object (repository.serveAll usual requests w).2 s) := by
  constructor
  · intro idle scripts
    exact bucket_refines documented fresh explains_genuine idle scripts
  · intro idle scripts
    exact bucket_refines documented fresh explains_bucketPrompt idle scripts

/-- The second POST is killed after six calls. -/
theorem postsOnBucket_explained :
    ∃ s, ExplainedAll (fun o => Untyped o ∧ o.Prompt) .empty (postsOnBucket (some 6))
        (voicesBucket.serveAll goodBucket (postsOnBucket (some 6)) emptyBucket).1 s ∧
      voicesBucket.MirrorsBoth id (voicesBucket.serveAll goodBucket (postsOnBucket (some 6)) emptyBucket).2 s :=
  (bucket_explained memoryBucket_documented emptyBucket_fresh).2 goodBucket_prompt (postsOnBucket_prompt (some 6))

end Fresh

end LlmTts
