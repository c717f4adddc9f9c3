import CallJournal.Json.Fields
import CallJournal.MethodPath
import CallJournal.Status
import CallJournal.Time.Instant

namespace CallJournal

namespace FieldName

def system : String := "system"

def kind : String := "span.kind"

def service : String := "grpc.service"

def method : String := "grpc.method"

def startTime : String := "grpc.start_time"

def deadline : String := "grpc.request.deadline"

def duration : String := "grpc.time_ms"

def code : String := "grpc.code"

def error : String := "error"

def logFlag : String := "log-trace-key"

end FieldName

def undefinedValue : String := "undefined"

/-- What is known of a call when it begins. -/
def callFields (path : MethodPath) (start : Instant) (deadline? : Option Instant) : Fields :=
  (Fields.ofList
    [(FieldName.system, .string "grpc"),
      (FieldName.kind, .string "gateway"),
      (FieldName.service, .string path.service),
      (FieldName.method, .string path.method),
      (FieldName.startTime, .string start.text)]).insert? FieldName.deadline
    (deadline?.map fun deadline => .string deadline.text)

def outcomeFields (elapsed : Duration) (error? : Option Status) : Fields :=
  (Fields.ofList
    [(FieldName.duration, .ofDouble elapsed.milliseconds),
      (FieldName.code, .string ((error?.map Status.code).getD .ok).name)]).insert? FieldName.error
    (error?.map fun status => .string status.text)

section

variable (elapsed : Duration) (error? : Option Status)

theorem get?_code_outcomeFields : (outcomeFields elapsed error?).get? FieldName.code =
    some (.string ((error?.map Status.code).getD .ok).name) := by
  rw [outcomeFields, Fields.get?_insert?_other _ _ (by decide)]
  simp [Fields.ofList, Fields.get?_insert, Json.arranged]

theorem get?_duration_outcomeFields : (outcomeFields elapsed error?).get? FieldName.duration =
    some (.ofDouble elapsed.milliseconds) := by
  have arranged : (Json.ofDouble elapsed.milliseconds).arranged =
      .ofDouble elapsed.milliseconds := by
    unfold Json.ofDouble
    split <;> rfl
  have differs : FieldName.duration ≠ FieldName.code := by decide
  rw [outcomeFields, Fields.get?_insert?_other _ _ (by decide)]
  simp [Fields.ofList, Fields.get?_insert, differs, arranged]

theorem get?_error_outcomeFields (status : Status) :
    (outcomeFields elapsed (some status)).get? FieldName.error = some (.string status.text) := by
  rw [outcomeFields, Fields.get?_insert?_same]
  rfl

end

end CallJournal
