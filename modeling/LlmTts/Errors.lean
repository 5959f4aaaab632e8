import LlmTts.Lib.Python

/-!
# Error taxonomy

`OpenAIError`, `OpenAIHTTPException` and the factories of `errors.py`. The
request id is no part of the error: the exception handler adds it when it
renders the envelope.
-/

namespace LlmTts
open Python

/-- `ErrorCategory`. -/
inductive ErrorCategory where
  | validationError
  | voiceError
  | providerError
  | capacityError
  | internalError
  | configError
  deriving DecidableEq, Repr

/-- `OpenAIError`: the payload of an error envelope. -/
structure OpenAIError where
  message : Message
  type : ErrorCategory
  code : String
  param : Option String
  deriving DecidableEq, Repr

/-- `OpenAIHTTPException`: a status and its payload. -/
structure OpenAIHTTPException where
  statusCode : Nat
  error : OpenAIError
  deriving DecidableEq, Repr

/-- `invalid_request`. -/
def invalidRequest (message : Message) (param : Option String)
    (code : String := "invalid_parameter") (statusCode : Nat := 400) : OpenAIHTTPException :=
  ⟨statusCode, ⟨message, .validationError, code, param⟩⟩

/-- `voice_error`. -/
def voiceError (code : String) (message : Message) (statusCode : Nat := 404)
    (param : Option String := none) : OpenAIHTTPException :=
  ⟨statusCode, ⟨message, .voiceError, code, param⟩⟩

/-- `capacity_error`. -/
def capacityError (code : String) (message : Message) (statusCode : Nat := 429)
    (param : Option String := none) : OpenAIHTTPException :=
  ⟨statusCode, ⟨message, .capacityError, code, param⟩⟩

/-- `internal_error`. -/
def internalError (message : Message) : OpenAIHTTPException :=
  ⟨500, ⟨message, .internalError, "unexpected_error", none⟩⟩

/-- The text of every refusal at admission. -/
def queueFullMessage : Message := [.text "Server is at capacity; queue is full"]

/-- `queue_full`. -/
def queueFull : OpenAIHTTPException :=
  ⟨429, ⟨queueFullMessage, .capacityError, "queue_full", none⟩⟩

end LlmTts
