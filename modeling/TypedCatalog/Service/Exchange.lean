import TypedCatalog.Note
import TypedCatalog.Value.Basic

/-! What goes over the wire: requests, and the replies that are to come. -/
namespace TypedCatalog

structure Request where
  method : Text
  url : Text
  body : Value
  headers : Value
  timeout : Value

structure Response where
  status : Int := 200
  reason : Option Text := some "OK"
  body : Text := []

/-- Whether a response is an answer; the statuses of errors are not. -/
def Response.isAnswer (response : Response) : Bool :=
  !(400 ≤ response.status && response.status < 600)

inductive Reply where
  /-- No response came. -/
  | failure (reason : Text)
  | response (response : Response)

inductive Event where
  | asked (request : Request)
  | closed

/-- A service with the replies that it will give and what it saw so far. Without a reply left it
answers with nothing. -/
structure Service where
  replies : List Reply := []
  events : List Event := []
  notes : List Note := []

namespace Service

def note (service : Service) (note : Note) : Service :=
  { service with notes := service.notes ++ [note] }

/-- Asks, and takes the next reply. -/
def ask (service : Service) (request : Request) : Reply × Service :=
  (service.replies.headD (.response {}),
    { service with
      replies := service.replies.drop 1
      events := service.events ++ [.asked request] })

def close (service : Service) : Service := { service with events := service.events ++ [.closed] }

end Service
end TypedCatalog
