import Flowchart.Json.Raw
import Flowchart.Step.Executor
import Flowchart.Template

/-!
# Calls

A call node sends one request, built from its configuration and the state, and stores the answer.
Nothing is sent when any part of the request is wrong.
-/

namespace Flowchart

namespace Step

namespace Call

/-- The variable that takes the answer, if none is named. -/
def defaultKey : String :=
  "apiResponse"

/-- Reads the method in either case. -/
def method? (text : String) : Except Error Web.Method :=
  let upper := String.ofList (text.toList.map Char.toUpper)
  match Web.Method.ofText? upper with
  | some m => .ok m
  | none => .error (.unsupportedMethod upper)

/-- The headers of some keys: their names in lower case, their values filled in. Of two spellings of
a name the later one counts. -/
def headers (c : NodeConfig) (state : StateMap) :
    List String → SortedMap String → Except Error (SortedMap String)
  | [], acc => .ok acc
  | key :: keys, acc => do
    let text ← configured (c.text? key)
    let value := Template.render (text.getD "") state
    if Web.isToken key && Web.isHeaderValue value then
      headers c state keys (acc.insert (Web.lowerCase key) value)
    else throw (.invalidHeader key)

/-- The body of a mapping: a text that refers to one variable as a whole takes its value, everything
else stays as it is. -/
def body (mapping : Json.Entries) (state : StateMap) : Json :=
  .object (mapping.map fun e => (e.1, match e.2 with
    | .string s => (Template.referenced? s state).getD (.string s)
    | value => value))

/-- A request with the body that its method asks for. Its type is named unless it already is. -/
def withBody (r : Web.Request) (body : Json) : Web.Request :=
  { r with
    body := body.compact
    headers :=
      if (r.headers.find? "content-type").isSome then r.headers
      else r.headers.insert "content-type" "application/json" }

/-- The request of a node and the variable that takes the answer. -/
def request (c : NodeConfig) (state : StateMap) : Except Error (Web.Request × String) := do
  let url ← configured (c.text? "apiUrl")
  let method ← method? (← configured (c.textOr "method" "GET"))
  let key ← configured (c.textOr "responseStateKey" defaultKey)
  let names ← configured (c.section? "headers")
  let headers ← headers names state names.keys .empty
  let plain : Web.Request := { method, url := Template.render (url.getD "") state, headers }
  if method.hasBody then
    let mapping ← configured (c.object? "bodyMapping")
    return (withBody plain (body (mapping.getD []) state), key)
  else return (plain, key)

/-- The body of an answer: a document if it is one, else a text. -/
def content (text : String) : Json :=
  (Json.ofText? text).getD (.string text)

/-- The result of an answer; one that does not grant the request fails the step. -/
def answered (r : Web.Request) (key : String) (a : Web.Response) : Result :=
  let text := a.text
  let data := content text
  { success := a.isSuccess
    error :=
      if a.isSuccess then none
      else some ("API call failed with status " ++ String.ofList (Decimal.digits a.status) ++
        ": " ++ text)
    output := .ofEntries [
      ("statusCode", .ofNat a.status), ("response", data), ("url", .string r.url),
      ("method", .string r.method.text)]
    updates := .ofEntries [(key, data)] }

/-- Sends the request of the node. -/
def run (input : Input) (n : Web.Network) : Except Error Result × Web.Network :=
  match request input.config input.state with
  | .error e => (.error e, n)
  | .ok (r, key) =>
    match n.send r with
    | (some a, n) => (.ok (answered r key a), n)
    | (none, n) => (.error .request, n)

end Call

/-- Executes call nodes. -/
def call : Executor where
  family := "API call"
  run := Call.run

end Step

end Flowchart
