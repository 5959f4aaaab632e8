import LlmTts.Lib.DateText
import LlmTts.Lib.JsonLine

/-!
# Log lines

`JsonFormatter`: the standard fields of a record, the extras that are merged into them,
and the line of JSON. `format_keeps_iff` says which records keep their fields.
-/

namespace LlmTts
open Python

/-- The names that `makeRecord` refuses as extras: those of the attributes that every
record has, and the two that a formatter adds. -/
def standardAttributes : List String :=
  ["name", "msg", "args", "levelname", "levelno", "pathname", "filename", "module", "exc_info", "exc_text",
    "stack_info", "lineno", "funcName", "created", "msecs", "relativeCreated", "thread", "threadName", "processName",
    "process", "message", "asctime"]

/-- A `LogRecord`: what `JsonFormatter` reads of its standard attributes, and the others. -/
structure LogRecord where
  /-- Microseconds since the epoch. -/
  created : Int
  levelname : String
  name : String
  /-- `getMessage()` -/
  message : String
  /-- `formatException` of the exception, if there is one. -/
  excInfo : Option String
  /-- The extras, and what `RequestIdFilter` adds. -/
  attributes : List (String × PyObject)
  distinct : (attributes.map Prod.fst).Nodup
  extra : ∀ item ∈ attributes, item.1 ∉ standardAttributes

/-- `RequestIdFilter.filter` -/
def requestIdFilter (currentRequestId : String) (record : LogRecord) : LogRecord :=
  let rid := if currentRequestId = "" then "-" else currentRequestId
  { record with
    attributes := dictSet record.attributes "request_id" (.str rid)
    distinct := dictSet_nodup record.distinct "request_id" (.str rid)
    extra := fun item member => by
      rcases mem_of_mem_dictSet member with old | rfl
      · exact record.extra item old
      · change "request_id" ∉ standardAttributes
        decide }

namespace JsonFormatter

/-- `_RESERVED` -/
def reserved : List String :=
  ["args", "asctime", "created", "exc_info", "exc_text", "filename", "funcName", "levelname", "levelno", "lineno",
    "message", "module", "msecs", "msg", "name", "pathname", "process", "processName", "relativeCreated", "stack_info",
    "thread", "threadName", "taskName", "request_id"]

/-- The loop of `format` passes over all standard attributes. -/
theorem standard_reserved : ∀ name ∈ standardAttributes, name ∈ reserved := by decide

/-- `formatTime` -/
def formatTime (record : LogRecord) : String := DateTime.isoformat ⟨record.created, 0⟩

/-- `getattr(record, "request_id", "-")` -/
def recordRequestId (record : LogRecord) : PyObject := (dictGet record.attributes "request_id").getD (.str "-")

/-- `key.startswith("_")` -/
def Underscored (key : String) : Prop := key.toList.head? = some '_'

instance (key : String) : Decidable (Underscored key) := inferInstanceAs (Decidable (_ = _))

/-- The fields before any extra is merged. -/
def standardFields (record : LogRecord) : List (String × PyObject) :=
  [("ts", .str (formatTime record)), ("level", .str record.levelname), ("logger", .str record.name),
    ("request_id", recordRequestId record), ("message", .str record.message)]

/-- Behind the filter, the request id of a record is that of the request. -/
theorem recordRequestId_requestIdFilter (currentRequestId : String) (record : LogRecord) :
    recordRequestId (requestIdFilter currentRequestId record) =
      .str (if currentRequestId = "" then "-" else currentRequestId) := by
  unfold recordRequestId requestIdFilter
  dsimp only
  rw [dictGet_dictSet, if_pos rfl]
  rfl

/-- The names of the extras that are merged. -/
def Merged (key : String) : Prop := key ∉ reserved ∧ ¬Underscored key

instance (key : String) : Decidable (Merged key) := inferInstanceAs (Decidable (_ ∧ _))

/-- The loop over `record.__dict__`. -/
def mergeExtras (payload attributes : List (String × PyObject)) : List (String × PyObject) :=
  attributes.foldl (fun payload item => if Merged item.1 then dictSet payload item.1 item.2 else payload) payload

/-- The dictionary that `format` writes. -/
def payload (record : LogRecord) : List (String × PyObject) :=
  let merged := mergeExtras (standardFields record) record.attributes
  match record.excInfo with
  | none => merged
  | some text => dictSet merged "exc_info" (.str text)

/-- `JsonFormatter.format`, or `none` where it raises: the stack has room for `room`
containers in one another besides the payload. -/
def format (room : Nat) (record : LogRecord) : Option String :=
  Json.dumpsLine (room + 1) (.dict ((payload record).map fun item => (.str item.1, item.2)))

/-! ## The payload -/

theorem dictGet_mergeExtras {attributes : List (String × PyObject)} (distinct : (attributes.map Prod.fst).Nodup)
    (payload : List (String × PyObject)) (key : String) :
    dictGet (mergeExtras payload attributes) key =
      if Merged key then (dictGet attributes key).or (dictGet payload key) else dictGet payload key := by
  unfold mergeExtras
  induction attributes generalizing payload with
  | nil =>
    have absent : dictGet ([] : List (String × PyObject)) key = none := rfl
    rw [List.foldl_nil, absent, Option.none_or, ite_self]
  | cons item attributes ih =>
    obtain ⟨absent, distinct⟩ := List.nodup_cons.1 distinct
    rw [List.foldl_cons, ih distinct, dictGet_cons]
    by_cases here : item.1 = key
    · have later : dictGet attributes key = none := by
        rw [← Option.not_isSome_iff_eq_none, dictGet_isSome_iff, ← here]
        exact absent
      rw [if_pos here, later, Option.none_or, ite_self, here]
      by_cases merged : Merged key
      · rw [if_pos merged, if_pos merged, dictGet_dictSet, if_pos rfl]
        rfl
      · rw [if_neg merged, if_neg merged]
    · rw [if_neg here]
      by_cases merged : Merged item.1
      · rw [if_pos merged, dictGet_dictSet, if_neg (Ne.symm here)]
      · rw [if_neg merged]

theorem nodup_mergeExtras {payload : List (String × PyObject)} (distinct : (payload.map Prod.fst).Nodup)
    (attributes : List (String × PyObject)) : ((mergeExtras payload attributes).map Prod.fst).Nodup := by
  unfold mergeExtras
  induction attributes generalizing payload with
  | nil => exact distinct
  | cons item attributes ih =>
    rw [List.foldl_cons]
    split
    · exact ih (dictSet_nodup distinct _ _)
    · exact ih distinct

theorem mem_mergeExtras {payload attributes : List (String × PyObject)} {item : String × PyObject}
    (member : item ∈ mergeExtras payload attributes) : item ∈ payload ∨ item ∈ attributes ∧ Merged item.1 := by
  unfold mergeExtras at member
  induction attributes generalizing payload with
  | nil => exact .inl member
  | cons first attributes ih =>
    rcases ih member with before | ⟨later, merged⟩
    · dsimp only at before
      split at before
      · rename_i merged
        rcases mem_of_mem_dictSet before with old | rfl
        · exact .inl old
        · exact .inr ⟨List.mem_cons_self, merged⟩
      · exact .inl before
    · exact .inr ⟨List.mem_cons_of_mem first later, merged⟩

section Payload

variable (record : LogRecord)

theorem mem_payload {item : String × PyObject} (member : item ∈ payload record) :
    item ∈ standardFields record ∨ (item ∈ record.attributes ∧ Merged item.1) ∨ ∃ text, item.2 = .str text := by
  unfold payload at member
  cases exc : record.excInfo with
  | none =>
    rw [exc] at member
    exact (mem_mergeExtras member).imp_right .inl
  | some text =>
    rw [exc] at member
    rcases mem_of_mem_dictSet member with merged | rfl
    · exact (mem_mergeExtras merged).imp_right .inl
    · exact .inr (.inr ⟨text, rfl⟩)

theorem nodup_payload : ((payload record).map Prod.fst).Nodup := by
  have standard : ((standardFields record).map Prod.fst).Nodup := by
    change ["ts", "level", "logger", "request_id", "message"].Nodup
    decide
  have merged := nodup_mergeExtras standard record.attributes
  unfold payload
  cases record.excInfo with
  | none => exact merged
  | some text => exact dictSet_nodup merged _ _

/-- The value of a key other than `exc_info`. -/
theorem dictGet_payload {key : String} (other : key ≠ "exc_info") :
    dictGet (payload record) key =
      if Merged key then (dictGet record.attributes key).or (dictGet (standardFields record) key)
      else dictGet (standardFields record) key := by
  rw [← dictGet_mergeExtras record.distinct]
  unfold payload
  cases record.excInfo with
  | none => rfl
  | some text => rw [dictGet_dictSet, if_neg other]

/-- An extra that is merged has its own value. -/
theorem dictGet_payload_extra {item : String × PyObject} (member : item ∈ record.attributes) (merged : Merged item.1) :
    dictGet (payload record) item.1 = some item.2 := by
  have other : item.1 ≠ "exc_info" := fun same => record.extra item member (same ▸ by decide)
  rw [dictGet_payload record other, if_pos merged, (dictGet_eq_some_iff record.distinct).2 member]
  rfl

end Payload

/-! ## The line -/

/-- A name that is neither reserved nor that of a standard field. -/
def Other (key : String) : Prop := key ∉ reserved ∧ key ∉ ["ts", "level", "logger"]

/-- One line of JSON with the fields of the record, and with the extras whose names are
`shown`. -/
structure KeepsFields (shown : String → Prop) (room : Nat) (record : LogRecord) (line : String) : Prop where
  single : '\n' ∉ line.toList ∧ '\r' ∉ line.toList
  json : ∃ pairs, Json.loadsStrict line = some (.obj pairs) ∧
    dictGet (dictItems pairs) "ts" = some (.str (formatTime record)) ∧
    dictGet (dictItems pairs) "level" = some (.str record.levelname) ∧
    dictGet (dictItems pairs) "logger" = some (.str record.name) ∧
    (∃ rid, Json.image room (recordRequestId record) = some rid ∧
      dictGet (dictItems pairs) "request_id" = some rid) ∧
    dictGet (dictItems pairs) "message" = some (.str record.message) ∧
    ∀ item ∈ record.attributes, shown item.1 →
      ∃ v, Json.image room item.2 = some v ∧ dictGet (dictItems pairs) item.1 = some v

/-- The texts of the standard fields whose names are not reserved. -/
def ownTexts (record : LogRecord) : List (String × String) :=
  [("ts", formatTime record), ("level", record.levelname), ("logger", record.name)]

/-- What is written of the record is JSON, and no extra takes the place of the time, the
level or the logger, unless it is written alike. -/
structure Preserving (room : Nat) (record : LogRecord) : Prop where
  standard : ∀ item ∈ record.attributes, Merged item.1 ∨ item.1 = "request_id" →
    ∃ v, Json.image room item.2 = some v ∧ v.Standard
  own : ∀ item ∈ record.attributes, ∀ text, (item.1, text) ∈ ownTexts record →
    Json.image room item.2 = some (.str text)

section Format

variable {room : Nat} {record : LogRecord}

theorem format_read_iff {w : Json} :
    (∃ line, format room record = some line ∧ Json.loadsStrict line = some w) ↔
      ∃ pairs, Json.Written room (payload record) pairs ∧ w = .obj pairs ∧ w.Standard := by
  unfold format
  rw [Json.dumpsLine_read_iff, Json.image_dict_iff]
  constructor
  · rintro ⟨⟨pairs, written, same⟩, standard⟩
    exact ⟨pairs, written, same, standard⟩
  · rintro ⟨pairs, written, same, standard⟩
    exact ⟨⟨pairs, written, same⟩, standard⟩

theorem format_single {line : String} (formatted : format room record = some line) :
    '\n' ∉ line.toList ∧ '\r' ∉ line.toList := by
  have printable := Json.printable_dumpsLine formatted
  exact ⟨fun member => absurd (printable _ member).1 (by decide),
    fun member => absurd (printable _ member).1 (by decide)⟩

/-- The payload of a preserving record can be written. -/
theorem Preserving.payload (preserving : Preserving room record) :
    ∀ item ∈ payload record, ∃ v, Json.image room item.2 = some v ∧ v.Standard := by
  have text : ∀ {value : PyObject} {s : String}, value = .str s →
      ∃ v, Json.image room value = some v ∧ v.Standard := by
    rintro value s rfl
    exact ⟨.str s, Json.image_str room s, .str s⟩
  intro item member
  rcases mem_payload record member with standard | ⟨extra, merged⟩ | ⟨s, same⟩
  · simp only [standardFields, List.mem_cons, List.not_mem_nil, or_false] at standard
    rcases standard with rfl | rfl | rfl | rfl | rfl
    · exact text rfl
    · exact text rfl
    · exact text rfl
    · unfold recordRequestId
      cases found : dictGet record.attributes "request_id" with
      | none => exact text rfl
      | some value => exact preserving.standard _ (mem_of_dictGet found) (.inr rfl)
    · exact text rfl
  · exact preserving.standard item extra (.inl merged)
  · exact text same

section Written

variable {pairs : List (String × Json)}

/-- A key of the payload is in the line, with what is written of its value. -/
theorem field_written (written : Json.Written room (payload record) pairs) (standard : (Json.obj pairs).Standard)
    {key : String} {value : PyObject} (field : dictGet (payload record) key = some value) :
    ∃ v, Json.image room value = some v ∧ dictGet pairs key = some v ∧ v.Standard := by
  have present : key ∈ pairs.map Prod.fst := by
    rw [written.keys, ← dictGet_isSome_iff, field]
    rfl
  obtain ⟨v, found⟩ := Option.isSome_iff_exists.1 (dictGet_isSome_iff.2 present)
  have image := written.dictGet key
  rw [found, field, Option.bind_some] at image
  cases standard with
  | obj all => exact ⟨v, image.symm, found, all _ (mem_of_dictGet found)⟩

/-- The fields whose names are reserved are the record's. -/
theorem dictGet_payload_reserved {key : String} (listed : key ∈ reserved) (other : key ≠ "exc_info") :
    dictGet (payload record) key = dictGet (standardFields record) key := by
  rw [dictGet_payload record other, if_neg fun merged => merged.1 listed]

/-- The other standard fields are the record's unless an extra has their name. -/
theorem dictGet_own_iff (written : Json.Written room (payload record) pairs) {key text : String}
    (listed : (key, text) ∈ ownTexts record) :
    dictGet pairs key = some (.str text) ↔
      ∀ item ∈ record.attributes, item.1 = key → Json.image room item.2 = some (.str text) := by
  have place : Merged key ∧ key ≠ "exc_info" ∧ dictGet (standardFields record) key = some (.str text) := by
    simp only [ownTexts, List.mem_cons, Prod.mk.injEq, List.not_mem_nil, or_false] at listed
    rcases listed with ⟨rfl, rfl⟩ | ⟨rfl, rfl⟩ | ⟨rfl, rfl⟩ <;>
      exact ⟨by decide, by decide, rfl⟩
  obtain ⟨merged, other, field⟩ := place
  rw [written.dictGet, dictGet_payload record other, if_pos merged, field]
  cases found : dictGet record.attributes key with
  | none =>
    refine ⟨fun _ item member same => ?_, fun _ => Json.image_str room text⟩
    have present := (dictGet_eq_some_iff record.distinct).2 member
    rw [same, found] at present
    cases present
  | some value =>
    refine ⟨fun image item member same => ?_, fun own => own _ (mem_of_dictGet found) rfl⟩
    have present := (dictGet_eq_some_iff record.distinct).2 member
    rw [same, found] at present
    cases present
    exact image

end Written

/-- The line of a record has its own fields, and the extras that are `shown`. -/
def FormatKeeps (shown : String → Prop) (room : Nat) (record : LogRecord) : Prop :=
  ∃ line, format room record = some line ∧ KeepsFields shown room record line

theorem preserving_of_keeps {shown : String → Prop} (keeps : FormatKeeps shown room record) :
    Preserving room record := by
  obtain ⟨line, formatted, -, pairs, read, ts, level, logger, -, -, -⟩ := keeps
  obtain ⟨_, written, same, standard⟩ := format_read_iff.1 ⟨line, formatted, read⟩
  cases same
  have distinct : (pairs.map Prod.fst).Nodup := written.keys ▸ nodup_payload record
  rw [dictItems_of_nodup distinct] at ts level logger
  constructor
  · rintro item member (merged | named)
    · obtain ⟨v, image, -, good⟩ := field_written written standard (dictGet_payload_extra record member merged)
      exact ⟨v, image, good⟩
    · have rid : dictGet (payload record) "request_id" = some item.2 := by
        have own : recordRequestId record = item.2 := by
          rw [recordRequestId, ← named, (dictGet_eq_some_iff record.distinct).2 member]
          rfl
        rw [dictGet_payload_reserved (by decide) (by decide), ← own]
        rfl
      obtain ⟨v, image, -, good⟩ := field_written written standard rid
      exact ⟨v, image, good⟩
  · intro item member text listed
    have field : dictGet pairs item.1 = some (.str text) := by
      simp only [ownTexts, List.mem_cons, Prod.mk.injEq, List.not_mem_nil, or_false] at listed
      rcases listed with ⟨same, rfl⟩ | ⟨same, rfl⟩ | ⟨same, rfl⟩ <;> rw [same] <;> assumption
    exact (dictGet_own_iff written listed).1 field item member rfl

theorem keeps_of_preserving (preserving : Preserving room record) {shown : String → Prop}
    (merged : ∀ item ∈ record.attributes, shown item.1 → Merged item.1) : FormatKeeps shown room record := by
  obtain ⟨pairs, written, standard⟩ := Json.exists_written preserving.payload
  obtain ⟨line, formatted, read⟩ := format_read_iff.2 ⟨pairs, written, rfl, standard⟩
  have distinct : (pairs.map Prod.fst).Nodup := written.keys ▸ nodup_payload record
  have own : ∀ key text, (key, text) ∈ ownTexts record → dictGet pairs key = some (.str text) := by
    intro key text listed
    refine (dictGet_own_iff written listed).2 fun item member same => ?_
    exact preserving.own item member text (same ▸ listed)
  have rid : dictGet (payload record) "request_id" = some (recordRequestId record) :=
    dictGet_payload_reserved (by decide) (by decide)
  have message : dictGet (payload record) "message" = some (.str record.message) :=
    dictGet_payload_reserved (by decide) (by decide)
  refine ⟨line, formatted, format_single formatted, pairs, read, ?_⟩
  rw [dictItems_of_nodup distinct]
  refine ⟨own _ _ (by simp [ownTexts]), own _ _ (by simp [ownTexts]), own _ _ (by simp [ownTexts]), ?_, ?_, ?_⟩
  · obtain ⟨v, image, found, -⟩ := field_written written standard rid
    exact ⟨v, image, found⟩
  · rw [written.dictGet, message]
    exact Json.image_str room record.message
  · intro item member there
    obtain ⟨v, image, found, -⟩ := field_written written standard
      (dictGet_payload_extra record member (merged item member there))
    exact ⟨v, image, found⟩

/-- **Log lines.** The line of a record is JSON with the record's own fields and with all
other extras exactly if the record is preserving; extras whose names begin with an
underscore are left out. -/
theorem format_keeps_iff (room : Nat) (record : LogRecord) :
    (FormatKeeps (fun key => Other key ∧ ¬Underscored key) room record ↔ Preserving room record) ∧
      (FormatKeeps Other room record ↔
        Preserving room record ∧ ∀ item ∈ record.attributes, ¬Underscored item.1) := by
  refine ⟨⟨preserving_of_keeps, fun preserving => keeps_of_preserving preserving fun item _ shown =>
    ⟨shown.1.1, shown.2⟩⟩, fun keeps => ?_, fun ⟨preserving, plain⟩ => ?_⟩
  · refine ⟨preserving_of_keeps keeps, fun item member underscored => ?_⟩
    have others : Other item.1 := by
      have plain : ∀ key ∈ reserved ++ ["ts", "level", "logger"], ¬Underscored key := by decide
      exact ⟨fun listed => plain _ (List.mem_append_left _ listed) underscored,
        fun listed => plain _ (List.mem_append_right _ listed) underscored⟩
    obtain ⟨line, formatted, -, pairs, read, -, -, -, -, -, extras⟩ := keeps
    obtain ⟨_, written, same, standard⟩ := format_read_iff.1 ⟨line, formatted, read⟩
    cases same
    have distinct : (pairs.map Prod.fst).Nodup := written.keys ▸ nodup_payload record
    obtain ⟨v, -, found⟩ := extras item member others
    have other : item.1 ≠ "exc_info" := fun same => record.extra item member (same ▸ by decide)
    have absent : dictGet (standardFields record) item.1 = none := by
      rw [← Option.not_isSome_iff_eq_none, dictGet_isSome_iff]
      intro listed
      have plain : ∀ key ∈ ["ts", "level", "logger", "request_id", "message"], ¬Underscored key := by decide
      exact plain item.1 listed underscored
    rw [dictItems_of_nodup distinct, written.dictGet, dictGet_payload record other,
      if_neg fun merged => merged.2 underscored, absent] at found
    cases found
  · exact keeps_of_preserving preserving fun item member shown => ⟨shown.1, plain item member⟩

end Format

/-- A record of the logger `app` with one extra. -/
def recordWith (name : String) (value : PyObject) (extra : name ∉ standardAttributes) : LogRecord where
  created := 0
  levelname := "INFO"
  name := "app"
  message := "ready"
  excInfo := none
  attributes := [(name, value)]
  distinct := List.nodup_singleton name
  extra := fun item member => by
    rw [List.mem_singleton.1 member]
    exact extra

/-- `extra={"level": "beginner"}` takes the place of the level, and `extra={"score":
float("nan")}` is written as no JSON. -/
theorem extra_overwrites :
    ¬∃ room, FormatKeeps Other room (recordWith "level" (.str "beginner") (by decide)) ∨
      FormatKeeps Other room (recordWith "score" (.float ⟨.nan, trivial⟩) (by decide)) := by
  rintro ⟨room, keeps | keeps⟩
  · have level := (preserving_of_keeps keeps).own _ List.mem_cons_self "INFO" (by simp [ownTexts, recordWith])
    rw [Json.image_str] at level
    exact absurd (Json.str.inj (Option.some.inj level)) (by decide)
  · obtain ⟨v, image, standard⟩ := (preserving_of_keeps keeps).standard _ List.mem_cons_self (.inl (by decide))
    rw [Json.image] at image
    cases image
    cases standard with
    | float finite => simp [PyFloat.value?] at finite

end JsonFormatter

end LlmTts
