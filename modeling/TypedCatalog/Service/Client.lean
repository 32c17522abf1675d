import TypedCatalog.Service.Exchange
import TypedCatalog.Service.Query
import TypedCatalog.Service.Url
import TypedCatalog.Text.Case
import TypedCatalog.Value.Access

/-! A client of a JSON service: where its requests go, what they carry, and which replies are
results. -/
namespace TypedCatalog

/-- A conversation with a service that may fail on the way. -/
abbrev Exchange := ExceptT Fault (StateM Service)

structure Client where
  /-- Where endpoints start; it ends with a slash. -/
  baseUrl : Text
  timeout : Value := .float (.ofDecimal false 10 0)
  retries : Value := .int 3
  /-- What every request carries. -/
  headers : Value.Entries := []

namespace Client

/-- The time between attempts grows by this factor. -/
def backoff : Binary64 := .ofDecimal false 5 (-1)

/-- Statuses after which a request is tried again. -/
def retryStatuses : List Nat := [500, 502, 503, 504]

/-- The starts of the addresses that are tried again. -/
def retriedAddresses : List Text := ["http://", "https://"]

def contentType : Value × Value := (.ofText "Content-Type", .ofText "application/json")

/-- Sets a header; names that differ in case only are one, and the last spelling stays. -/
def setHeader (headers : Value.Entries) (header : Value × Value) : Value.Entries :=
  headers.filter (fun held => Text.lower held.1.shown ≠ Text.lower header.1.shown) ++ [header]

def setHeaders (headers more : Value.Entries) : Value.Entries := more.foldl setHeader headers

def ensureSlash (url : Text) : Text := if url.getLast? = some '/' then url else url ++ ['/']

/-- A client of the service at an address. -/
def ofUrl (url : Text) : Client := { baseUrl := ensureSlash url, headers := [contentType] }

/-- The address of an endpoint with parameters. -/
def urlFor (client : Client) (endpoint : Text) (params : Value.Entries) : Except Fault Text := do
  let url ← Url.join client.baseUrl (endpoint.dropWhile (· = '/'))
  let query := Query.encode (← Query.ofParams params)
  return if query = [] then url else url ++ '?' :: query

/-- As `urlFor`, for arguments of any kind. -/
def urlOf (client : Client) (endpoint params : Value) : Except Fault Text :=
  match endpoint, params with
  | .str endpoint, .dict entries => client.urlFor endpoint entries
  | .str endpoint, params => do
    let url ← client.urlFor endpoint []
    if params.isTruthy then throw (.misuse .noMember) else return url
  | _, _ => .error (.misuse .noMember)

/-- The headers of one request, null if there are none. -/
def headersOf (headers : Value) : Except Fault Value :=
  if headers.isTruthy then headers.toEntries.map .dict else .ok .null

/-- The result of a response: what its body holds, null for an empty one. -/
def resultOf (url : Text) (response : Response) : Except Fault Value :=
  let held := Json.read response.body
  if response.isAnswer then
    if response.body = [] then .ok .null
    else match held with
      | .ok value => .ok value
      | .error _ => .error (.service (.notJson url response.status))
  else
    let details := match held with
      | .ok value => value
      | .error _ => .null
    .error (.service (.status response.status response.reason details))

/-- Sends a request and takes the result of the reply. -/
def send (client : Client) (method url : Text) (data headers : Value) : Exchange Value :=
  fun service =>
    let service := service.note (.asking method url)
    match headersOf headers with
    | .error fault => (.error fault, service)
    | .ok headers =>
      match service.ask ⟨method, url, data, headers, client.timeout⟩ with
      | (.failure reason, service) => (.error (.service (.network url reason)), service)
      | (.response response, service) =>
        let service :=
          if response.isAnswer then service
          else service.note (.refused method url response.status)
        (resultOf url response, service)

/-- Sends a request to an endpoint, for arguments of any kind. -/
def request (client : Client) (method : Text) (endpoint data params headers : Value) :
    Exchange Value := fun service =>
  match client.urlOf endpoint params with
  | .error fault => (.error fault, service)
  | .ok url => client.send method url data headers service

/-- Sends a request to an endpoint with parameters. -/
def call (client : Client) (method endpoint : Text) (data : Value) (params : Value.Entries) :
    Exchange Value := fun service =>
  match client.urlFor endpoint params with
  | .error fault => (.error fault, service)
  | .ok url => client.send method url data .null service

def get (client : Client) (endpoint : Text) (params : Value.Entries) : Exchange Value :=
  client.call "GET" endpoint .null params

def close : Exchange Unit := fun service => (.ok (), service.close)

/-- Closes the client after a conversation, however that ends. -/
def closing {α : Type} (exchange : Exchange α) : Exchange α := fun service =>
  let (result, service) := exchange service
  (result, service.close)

end Client
end TypedCatalog
