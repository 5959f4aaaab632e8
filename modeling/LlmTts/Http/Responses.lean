import LlmTts.Errors
import LlmTts.Http.RequestId

/-!
# Responses and their correlation id

The exception handlers of `errors.py` and the layers of the application around a
route: `ExceptionMiddleware` with the handlers of the typed exceptions,
`RequestIDMiddleware`, and the outermost `ServerErrorMiddleware` with the handler of
every other exception. The context variable of the id is passed along explicitly.
-/

namespace LlmTts
open Python

/-- The body of a response. -/
inductive Body where
  | content (bytes : Bytes)
  /-- `as_envelope(request_id)`. -/
  | envelope (error : OpenAIError) (requestId : String)
  deriving DecidableEq

/-- A response, up to the length of its body. -/
structure Response where
  statusCode : Nat
  headers : Headers
  body : Body
  deriving DecidableEq

/-! ## The exception handlers -/

/-- One entry of `exc.errors()`. -/
structure ValidationItem where
  loc : List String
  msg : Option String
  deriving DecidableEq, Repr

/-- `_GENERIC_INTERNAL_MESSAGE`. -/
def genericInternalMessage : String := "An unexpected error occurred."

/-- `_envelope_response`. -/
def envelopeResponse (statusCode : Nat) (error : OpenAIError) (requestId : String) : Response where
  statusCode := statusCode
  headers := [(latin1Bytes "x-error-code", latin1Bytes error.code),
    (latin1Bytes "content-type", latin1Bytes "application/json")]
  body := .envelope error requestId

/-- `openai_exception_handler`. -/
def openaiExceptionHandler (exc : OpenAIHTTPException) (requestId : String) : Response :=
  envelopeResponse exc.statusCode exc.error requestId

/-- `http_exception_handler` of a plain `HTTPException`. `detail` is its `str`, if it has one. -/
def httpExceptionHandler (statusCode : Nat) (detail : Option String) (requestId : String) : Response :=
  let (category, code) :=
    if statusCode = 404 then (ErrorCategory.validationError, "not_found")
    else if statusCode = 405 then (.validationError, "method_not_allowed")
    else if statusCode ∈ [502, 503, 504] then (.capacityError, "service_unavailable")
    else if statusCode ∈ [400, 422] then (.validationError, "invalid_parameter")
    else (.internalError, "unexpected_error")
  envelopeResponse statusCode ⟨[.text (detail.getD genericInternalMessage)], category, code, none⟩ requestId

/-- `validation_exception_handler`. -/
def validationExceptionHandler (errors : List ValidationItem) (requestId : String) : Response :=
  let unspecific := "Request validation failed"
  let (message, param) := match errors with
    | [] => (unspecific, none)
    | first :: _ =>
      let tail := first.loc.filter fun p => p ∉ ["body", "query", "path", "header"]
      (first.msg.getD unspecific, if tail = [] then none else some (".".intercalate tail))
  envelopeResponse 422 ⟨[.text message], .validationError, "invalid_parameter", param⟩ requestId

/-- `unhandled_exception_handler`. -/
def unhandledExceptionHandler (requestId : String) : Response :=
  envelopeResponse 500 ⟨[.text genericInternalMessage], .internalError, "unexpected_error", none⟩ requestId

/-! ## The layers -/

/-- What a route ends in. Its own headers do not include an `X-Request-ID`; `echoes`
says that it adds the one of `current_request_id()`. -/
inductive RouteOutcome where
  | responds (statusCode : Nat) (headers : Headers) (plain : requestIds headers = []) (echoes : Bool) (body : Bytes)
  | openai (exc : OpenAIHTTPException)
  | http (statusCode : Nat) (detail : Option String)
  | validation (errors : List ValidationItem)
  /-- Any other exception, with its text. -/
  | other (text : String)

/-- What came out of a layer: the response it sent, and whether it raised. -/
structure Reply where
  sent : Option Response
  raised : Bool

/-- A layer: the reply to a request, given and returning the context variable. -/
abbrev Layer : Type := (current : String) → String × Reply

/-- The routes below `ExceptionMiddleware`. -/
def exceptionMiddleware (outcome : RouteOutcome) : Layer := fun current =>
  match outcome with
  | .responds statusCode headers _ echoes body =>
    let own := if echoes then [(requestIdHeader, latin1Bytes current)] else []
    (current, ⟨some ⟨statusCode, own ++ headers, .content body⟩, false⟩)
  | .openai exc => (current, ⟨some (openaiExceptionHandler exc current), false⟩)
  | .http statusCode detail => (current, ⟨some (httpExceptionHandler statusCode detail current), false⟩)
  | .validation errors => (current, ⟨some (validationExceptionHandler errors current), false⟩)
  | .other _ => (current, ⟨none, true⟩)

/-- `RequestIDMiddleware.__call__`. The variable is reset even if the inner layer raises. -/
def requestIdMiddleware (fresh : HexId) (headers : Headers) (inner : Layer) : Layer := fun current =>
  let requestId := resolveRequestId fresh headers
  let (_, reply) := inner requestId
  (current, { reply with sent := reply.sent.map fun response =>
    { response with headers := wrapSend requestId response.headers } })

/-- `ServerErrorMiddleware` with the handler of `Exception`; it raises again afterwards. -/
def serverErrorMiddleware (inner : Layer) : Layer := fun current =>
  let (after, reply) := inner current
  match reply.raised, reply.sent with
  | true, none => (after, ⟨some (unhandledExceptionHandler after), true⟩)
  | _, _ => (after, reply)

/-- The application on a request outside of which the context variable is empty. -/
def serve (fresh : HexId) (headers : Headers) (outcome : RouteOutcome) : Reply :=
  (serverErrorMiddleware (requestIdMiddleware fresh headers (exceptionMiddleware outcome)) "").2

/-- The response carries the id in exactly one header, and in its envelope. -/
def Response.Correlated (response : Response) (requestId : String) : Prop :=
  requestIds response.headers = [latin1Bytes requestId] ∧
    ∀ error id, response.body = .envelope error id → id = requestId

/-- The exception handlers run inside the scope of the id. -/
def RouteOutcome.Handled : RouteOutcome → Prop
  | other _ => False
  | _ => True

instance : (outcome : RouteOutcome) → Decidable outcome.Handled
  | .other _ => isFalse not_false
  | .responds .. | .openai _ | .http .. | .validation _ => isTrue trivial

theorem requestIds_envelope (statusCode : Nat) (error : OpenAIError) (requestId : String) :
    requestIds (envelopeResponse statusCode error requestId).headers = [] := by
  have code : lowerBytes (latin1Bytes "x-error-code") ≠ requestIdHeader := by decide
  have type : lowerBytes (latin1Bytes "content-type") ≠ requestIdHeader := by decide
  simp [envelopeResponse, requestIds, code, type]

/-- An envelope sent inside the scope of the id is correlated. -/
theorem envelope_correlated (statusCode : Nat) (error : OpenAIError) (requestId : String) :
    Response.Correlated { envelopeResponse statusCode error requestId with
      headers := wrapSend requestId (envelopeResponse statusCode error requestId).headers } requestId := by
  refine ⟨?_, fun error' id same => ?_⟩
  · rw [requestIds_wrapSend, if_pos (requestIds_envelope statusCode error requestId)]
  · cases same
    rfl

theorem serve_of_handled (fresh : HexId) (headers : Headers) {outcome : RouteOutcome} (handled : outcome.Handled) :
    ∃ response, (serve fresh headers outcome).sent = some response ∧
      response.Correlated (resolveRequestId fresh headers) := by
  cases outcome with
  | other text => exact absurd handled not_false
  | openai exc => exact ⟨_, rfl, envelope_correlated ..⟩
  | http statusCode detail => exact ⟨_, rfl, envelope_correlated ..⟩
  | validation errors => exact ⟨_, rfl, envelope_correlated ..⟩
  | responds statusCode own plain echoes body =>
    refine ⟨_, rfl, ?_, fun error id same => nomatch same⟩
    rw [requestIds_wrapSend, requestIds_append, plain]
    cases echoes with
    | false => rfl
    | true =>
      have here : lowerBytes requestIdHeader = requestIdHeader := by decide
      simp [requestIds, here]

end LlmTts
