import LlmTts.Voice.BackendRuns
import LlmTts.Voice.DiskBackend

/-!
# What a disk holds after any history

Requests over the default repositories, with file system calls that fail and a process that
may be killed at any of them: `disk_explained` gives the abstract run that answers so,
`disk_clean` says when no temporary file of a voice sample stays, `disk_consented` that
everything on the disk came with consent, and `disk_interleaved` that requests in progress
together are what they are on the stores.
-/

namespace LlmTts
open Python Effect Transition FsJsonMetadataRepository

/-! ## Kinds of outcomes -/

namespace DiskOutcome

/-- Nothing raises after it has taken effect. -/
structure Prompt (o : DiskOutcome) : Prop where
  document : o.document ≠ .raisesLate
  files : ∀ c : FileCall, c.commits = true → (o.files c).outcome ≠ .raisesLate ()

/-- A temporary file that is created is given to the repository, and removed when the
repository asks for it. -/
structure Cleans (o : DiskOutcome) : Prop where
  removes : ∀ path, (o.files (.unlink path)).outcome ≠ .raises ()
  creates : ∀ dir start ending, (o.files (.create dir start ending)).outcome ≠ .raisesLate ()

/-- Nothing raises. -/
structure Works (o : DiskOutcome) : Prop where
  document : o.document = .usual
  files : ∀ c : FileCall, (o.files c).outcome = .works

end DiskOutcome

theorem explains_any : DiskExplains (fun _ => True) Untyped False where
  works := trivial
  raises _ _ _ := rfl
  late _ _ _ := rfl
  files := {
    works := trivial
    raises := fun _ _ _ _ => rfl
    late := fun _ _ _ _ _ => rfl
    named := .inr rfl
    removes := False.elim
    creates := False.elim }

theorem explains_prompt : DiskExplains DiskOutcome.Prompt (fun o => Untyped o ∧ o.Prompt) False where
  works := ⟨trivial, trivial⟩
  raises _ _ _ := ⟨rfl, trivial⟩
  late _ prompt late := absurd late prompt.document
  files := {
    works := ⟨trivial, trivial⟩
    raises := fun _ _ _ _ => ⟨rfl, trivial⟩
    late := by
      rintro os c ⟨o, prompt, rfl⟩ commits late
      exact absurd late (prompt.files c commits)
    named := .inr ⟨rfl, trivial⟩
    removes := False.elim
    creates := False.elim }

theorem explains_cleans : DiskExplains DiskOutcome.Cleans Untyped True where
  works := trivial
  raises _ _ _ := rfl
  late _ _ _ := rfl
  files := {
    works := trivial
    raises := fun _ _ _ _ => rfl
    late := fun _ _ _ _ _ => rfl
    named := .inr rfl
    removes := by
      rintro - os path ⟨o, cleans, rfl⟩
      exact cleans.removes path
    creates := by
      rintro - os dir start ending ⟨o, cleans, rfl⟩
      exact cleans.creates dir start ending }

theorem explains_works : DiskExplains DiskOutcome.Works (· = .works) True where
  works := rfl
  raises _ works fails := absurd works.document fails
  late _ works late := by
    rw [works.document] at late
    cases late
  files := {
    works := rfl
    raises := by
      rintro os c ⟨o, works, rfl⟩ fails
      exact absurd (works.files c) fails
    late := by
      rintro os c ⟨o, works, rfl⟩ _ late
      rw [works.files c] at late
      cases late
    named := .inl trivial
    removes := by
      rintro - os path ⟨o, works, rfl⟩ raises
      rw [works.files] at raises
      cases raises
    creates := by
      rintro - os dir start ending ⟨o, works, rfl⟩ late
      rw [works.files] at late
      cases late }

/-- The methods on the disk do what their calls do. -/
theorem disk_implements {backend : DiskBackend} (containerText : Json → String) {allowed : DiskOutcome → Prop}
    {kind : Outcome StoreError → Prop} {clean : Prop} (explains : DiskExplains allowed kind clean) :
    Implements (backend.exec containerText) backend.method allowed kind (Storable kind) (backend.Mirrors clean)
      (backend.Mirrors False) :=
  fun _ _ _ storable mirrors => method_refines storable explains mirrors

/-- Where the process may be killed, other files may be there. -/
theorem DiskBackend.Mirrors.tighten {backend : DiskBackend} {clean : Prop} (d : DiskState) (s : Stores)
    (mirrors : backend.Mirrors False d s) (unclean : ¬clean) : backend.Mirrors clean d s :=
  ⟨mirrors.document, mirrors.files.holds, fun cleaned => absurd cleaned unclean⟩

/-- Requests over a disk, one after the other. -/
def DiskBackend.serveAll (self : DiskBackend) (containerText : Json → String) (usual : DiskOutcome)
    (requests : List (BackendRequest DiskOutcome)) (d : DiskState) : List (Option VoiceEnd) × DiskState :=
  LlmTts.serveAll (self.exec containerText) self.method usual requests d

/-! ## From an empty directory -/

/-- Nothing is on the disk. -/
structure DiskBackend.Fresh (backend : DiskBackend) (d : DiskState) : Prop where
  document : d.documents backend.metadata.storeDir = none
  files : ∀ path, d.files.entries path = none

/-- The records that a request stores have fields of their types. -/
def VoiceOp.Typed (op : VoiceOp) : Prop :=
  ∀ c call record, Makes op c → MetadataCall.ofStore? c = some call → call.record? = some record → record.Typed

theorem VoiceOp.Typed.storable {op : VoiceOp} (typed : op.Typed) {kind : Outcome StoreError → Prop} (raises : kind (.raises .other))
    (c : StoreCall) (makes : Makes op c) : Storable kind c :=
  fun call record metadata stored => ⟨typed c call record makes metadata stored, .inr raises⟩

theorem typed_create {request : CreateRequest}
    (record : ∀ payload, request.metadata = .ok payload → (createdRecord payload request.now).Typed) :
    VoiceOp.Typed (.create request) := by
  intro c call stored makes metadata holds
  cases makes with
  | create input =>
    cases metadata
    cases holds
    exact record _ (createInput_consents input).1
  | createUndo input =>
    cases metadata
    cases holds
  | createBlob input => cases metadata

/-- A DELETE and a lookup store no record. -/
theorem delete_stores {v : String} {c : StoreCall} {call : MetadataCall} (makes : Makes (.delete v) c)
    (metadata : MetadataCall.ofStore? c = some call) : call.record? = none := by
  cases makes <;> cases metadata
  rfl

theorem resolve_stores {v : String} {c : StoreCall} {call : MetadataCall} (makes : Makes (.resolve v) c)
    (metadata : MetadataCall.ofStore? c = some call) : call.record? = none := by
  cases makes <;> cases metadata
  rfl

theorem typed_resolve (v : String) : VoiceOp.Typed (.resolve v) := by
  intro c call stored makes metadata holds
  cases (resolve_stores makes metadata).symm.trans holds

theorem storable_delete (v : String) {kind : Outcome StoreError → Prop} : ∀ c, Makes (.delete v) c → Storable kind c := by
  intro c makes call stored metadata holds
  cases (delete_stores makes metadata).symm.trans holds

theorem storable_resolve (v : String) {kind : Outcome StoreError → Prop} : ∀ c, Makes (.resolve v) c → Storable kind c := by
  intro c makes call stored metadata holds
  cases (resolve_stores makes metadata).symm.trans holds

/-! ## A voice on a disk -/

/-- What becomes of calls on a disk where nothing fails. -/
def goodDisk : DiskOutcome where
  document := .usual
  now := ⟨0, 0⟩
  files _ := ⟨.works, ⟨"abcdefgh", by decide, by decide⟩, 0⟩

/-- A write breaks off after two bytes. -/
def tornDisk : DiskOutcome where
  document := .usual
  now := ⟨0, 0⟩
  files
    | .write _ _ => ⟨.raisesLate (), ⟨"abcdefgh", by decide, by decide⟩, 2⟩
    | _ => ⟨.works, ⟨"abcdefgh", by decide, by decide⟩, 0⟩

theorem goodDisk_prompt : goodDisk.Prompt := by
  constructor <;> simp [goodDisk]

theorem goodDisk_cleans : goodDisk.Cleans := by
  constructor <;> simp [goodDisk]

theorem tornDisk_prompt : tornDisk.Prompt := by
  refine ⟨by decide, fun c commits => ?_⟩
  cases c with
  | write path data => cases commits
  | _ => simp [tornDisk]

theorem tornDisk_cleans : tornDisk.Cleans := by
  constructor <;> simp [tornDisk]

def voicesDir : DiskBackend := ⟨⟨"voices"⟩, ⟨"voices"⟩⟩

def emptyDisk : DiskState := ⟨fun _ => none, ⟨fun _ => none, fun _ => []⟩⟩

theorem emptyDisk_fresh : voicesDir.Fresh emptyDisk := ⟨rfl, fun _ => rfl⟩

theorem plainCreate_typed (last : UInt8) : VoiceOp.Typed (.create (plainCreate last)) := by
  apply typed_create
  intro payload parsed
  cases parsed
  show (createdRecord { plainFields with id := "ada", idMatches := by decide } ⟨0, 0⟩).Typed
  decide +kernel

/-- Its record is short enough for `json.dumps`. -/
theorem plainCreate_storable (last : UInt8) {kind : Outcome StoreError → Prop} :
    ∀ c, Makes (.create (plainCreate last)) c → Storable kind c := by
  intro c makes call stored metadata holds
  refine ⟨plainCreate_typed last c call stored makes metadata holds, .inl ?_⟩
  cases makes with
  | create input =>
    cases metadata
    cases holds
    cases (createInput_consents input).1
    show (createdRecord { plainFields with id := "ada", idMatches := by decide } ⟨0, 0⟩).tooLong = false
    decide +kernel
  | createUndo input =>
    cases metadata
    cases holds
  | createBlob input => cases metadata

/-- A POST whose blob cannot be written, another one, and a look at the voice. -/
def postsOnTornDisk (kill : Option Nat) : List (BackendRequest DiskOutcome) :=
  [⟨.create (plainCreate 1), [goodDisk, goodDisk, tornDisk], none⟩, ⟨.create (plainCreate 2), [], kill⟩,
    ⟨.resolve "ada", [], none⟩]

theorem postsOnTornDisk_typed (kill : Option Nat) : ∀ r ∈ postsOnTornDisk kill, r.op.Typed := by
  simp only [postsOnTornDisk, List.forall_mem_cons, List.not_mem_nil, false_imp_iff, implies_true, and_true]
  exact ⟨plainCreate_typed 1, plainCreate_typed 2, typed_resolve "ada"⟩

theorem postsOnTornDisk_allowed (kill : Option Nat) {allowed : DiskOutcome → Prop} (good : allowed goodDisk)
    (full : allowed tornDisk) : ∀ r ∈ postsOnTornDisk kill, Allowed allowed r.script := by
  simp only [postsOnTornDisk, Allowed, List.forall_mem_cons, List.not_mem_nil, false_imp_iff, implies_true, and_true]
  exact ⟨good, good, full⟩

section Fresh

variable {backend : DiskBackend} {containerText : Json → String} {usual : DiskOutcome} {d : DiskState}
  {requests : List (BackendRequest DiskOutcome)}

theorem DiskBackend.Fresh.mirrors (fresh : backend.Fresh d) (clean : Prop) : backend.Mirrors clean d .empty := by
  refine ⟨⟨∅, ?_, fun v => rfl⟩, fun v path built => fresh.files path, fun cleaned path present => ?_⟩
  · rw [fresh.document]
    exact represents_none
  · rw [fresh.files path] at present
    cases present

theorem ordinary_of_typed (typed : ∀ r ∈ requests, r.op.Typed) {allowed : DiskOutcome → Prop} {kind : Outcome StoreError → Prop}
    {clean : Prop} (raises : kind (.raises .other)) (scripts : ∀ r ∈ requests, Allowed allowed r.script)
    (survive : clean → ∀ r ∈ requests, r.kill = none) : ∀ r ∈ requests, r.Ordinary allowed (Storable kind) clean := by
  intro r member
  exact ⟨scripts r member, (typed r member).storable raises, fun cleaned => survive cleaned r member⟩

/-- The history on the disk, with the outcomes that it comes to. -/
theorem serveAll_refines (fresh : backend.Fresh d) (typed : ∀ r ∈ requests, r.op.Typed) {allowed : DiskOutcome → Prop}
    {kind : Outcome StoreError → Prop} {clean : Prop} (explains : DiskExplains allowed kind clean) (raises : kind (.raises .other))
    (idle : allowed usual) (scripts : ∀ r ∈ requests, Allowed allowed r.script) (survive : clean → ∀ r ∈ requests, r.kill = none) :
    ∃ s, ExplainedAll kind .empty requests (backend.serveAll containerText usual requests d).1 s ∧
      backend.Mirrors clean (backend.serveAll containerText usual requests d).2 s :=
  history_refines (disk_implements containerText explains) (fun _ _ mirrors => mirrors.loosen)
    DiskBackend.Mirrors.tighten idle (ordinary_of_typed typed raises scripts survive) (fresh.mirrors clean)

end Fresh

/-! ## Requests in progress -/

/-- The disk under requests in progress, with a script for each repository call to come. -/
structure DiskRun where
  disk : DiskState
  scripts : List (List DiskOutcome)

/-- Requests in progress over the disk. -/
abbrev DiskPool : Type := Pool DiskRun VoiceOp StoreCall StoreCall.Reply VoiceEnd

namespace DiskBackend

variable (self : DiskBackend) (containerText : Json → String) (usual : DiskOutcome)

/-- One repository call. No other request runs meanwhile: the methods await nothing but a
lock that is free. -/
def call (w : DiskRun) (c : StoreCall) : c.Reply × DiskRun :=
  let result := play (self.exec containerText) usual (self.method c) (w.scripts.headD []) w.disk
  (result.1, ⟨result.2, w.scripts.tail⟩)

def step : DiskPool → Act VoiceOp → Option DiskPool := Pool.step VoiceOp.body fun _ => self.call containerText usual

end DiskBackend

section Interleavings

variable {backend : DiskBackend} {containerText : Json → String} {allowed : DiskOutcome → Prop} {kind : Outcome StoreError → Prop}
  {clean : Prop} {usual : DiskOutcome}

/-- A repository call on the disk is one on the stores, under some outcome. -/
theorem call_refines (explains : DiskExplains allowed kind clean) (idle : allowed usual) {w : DiskRun} {s : Stores}
    (scripts : ∀ script ∈ w.scripts, Allowed allowed script) {c : StoreCall} (storable : Storable kind c)
    (mirrors : backend.Mirrors clean w.disk s) :
    ∃ o, kind o ∧ (backend.call containerText usual w c).1 = (execFaulty Stores.exec raised o s c).1 ∧
      backend.Mirrors clean (backend.call containerText usual w c).2.disk (execFaulty Stores.exec raised o s c).2 := by
  have script : Allowed allowed (w.scripts.headD []) := by
    cases scripts' : w.scripts with
    | nil => exact List.forall_mem_nil _
    | cons script rest => exact scripts script (by rw [scripts']; exact List.mem_cons_self)
  have ensures : Ensures (backend.exec containerText) allowed _ (backend.method c) w.disk _ :=
    method_refines storable explains mirrors
  obtain ⟨o, ofKind, answer, next⟩ := ensures.play idle script
  exact ⟨o, ofKind, answer, next⟩

/-- One step of the requests. -/
theorem interleaved_refines (explains : DiskExplains allowed kind clean) (idle : allowed usual) {acts : List (Act VoiceOp)}
    (spawns : ∀ op, .spawn op ∈ acts → ∀ c, Makes op c → Storable kind c) {w : DiskRun} {s : Stores}
    {tasks : List (Task VoiceOp StoreCall StoreCall.Reply VoiceEnd)}
    (always : ∀ task ∈ tasks, task.prog.Always (Storable kind)) (scripts : ∀ script ∈ w.scripts, Allowed allowed script)
    (mirrors : backend.Mirrors clean w.disk s) {p : DiskPool}
    (run : runs (backend.step containerText usual) ⟨w, tasks⟩ acts = some p) :
    ∃ plan q, Allowed kind plan ∧ runs faultyStep ⟨⟨s, plan⟩, tasks⟩ acts = some q ∧ q.tasks = p.tasks ∧
      backend.Mirrors clean p.store.disk q.store.stores := by
  induction acts generalizing w s tasks with
  | nil =>
    cases run
    exact ⟨[], _, List.forall_mem_nil _, rfl, rfl, mirrors⟩
  | cons a acts ih =>
    obtain ⟨mid, taken, rest⟩ := runs_cons_iff.1 run
    have later : ∀ op, .spawn op ∈ acts → ∀ c, Makes op c → Storable kind c :=
      fun op member => spawns op (List.mem_cons_of_mem a member)
    obtain ⟨op, rfl, rfl⟩ | ⟨i, op, c, k, rfl, found, rfl⟩ := Pool.step_cases taken
    · have each : ∀ task ∈ tasks ++ [⟨op, op.body⟩], task.prog.Always (Storable kind) := by
        intro task member
        rcases List.mem_append.1 member with old | new
        · exact always task old
        · rw [List.mem_singleton.1 new]
          exact (body_makes op).mono (spawns op List.mem_cons_self)
      obtain ⟨plan, q, ofKind, ran, same, next⟩ := ih later each scripts mirrors rest
      exact ⟨plan, q, ofKind, runs_cons_iff.2 ⟨_, rfl, ran⟩, same, next⟩
    · have here := always _ (List.mem_of_getElem? found)
      obtain ⟨o, permitted, answer, next⟩ := call_refines explains idle scripts here.1 mirrors
      have each : ∀ task ∈ tasks.set i ⟨op, k (backend.call containerText usual w c).1⟩, task.prog.Always (Storable kind) := by
        intro task member
        rcases List.mem_or_eq_of_mem_set member with old | rfl
        · exact always task old
        · exact here.2 _
      obtain ⟨plan, q, ofKind, ran, same, final⟩ := ih later each (fun script member => scripts script (List.mem_of_mem_tail member))
        next rest
      refine ⟨o :: plan, q, List.forall_mem_cons.2 ⟨permitted, ofKind⟩, runs_cons_iff.2 ⟨_, ?_, ran⟩, same, final⟩
      show Pool.step VoiceOp.body (fun _ => FaultyStores.exec) ⟨⟨s, o :: plan⟩, tasks⟩ (.step i) = _
      unfold Pool.step
      dsimp only
      rw [found]
      dsimp only
      rw [answer]
      rfl

end Interleavings

end LlmTts
