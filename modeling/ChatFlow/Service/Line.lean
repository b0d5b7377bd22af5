import ChatFlow.Service.Routes

/-!
# Requests in lines

Where there is no other way to the service, a request is a JSON document on a line of its own, and so
is the response to it.

* `Request.ofLine?`: the request of a line.
* `Response.line`: the line of a response.
-/

namespace ChatFlow

/-- The request of a document: method, path, query and body. -/
def Request.ofValue? (v : Value) : Option Request := do
  let .text method := v.fieldOrNull "method" | none
  let .text path := v.fieldOrNull "path" | none
  let query : Fields Text :=
    match v.fieldOrNull "query" with
    | .object fields => fields.filterMap fun (name, v) =>
        match v with
        | .text t => some (name, t)
        | _ => none
    | _ => []
  let body := ((v.field? "body").map (Json.text .wire)).getD []
  some ⟨method, path, query, body.filterMap fun c => if c.toNat < 128 then some c.toNat.toUInt8 else none⟩

/-- The request of a line. -/
def Request.ofLine? (line : Text) : Option Request := (Json.read? line).bind Request.ofValue?

/-- The line of a response: its status, and its document if there is one. -/
def Response.line (r : Response) : Text :=
  let document : Value :=
    match r with
    | .done v => v
    | _ => .null
  Json.text .wire (.object [("status", .int r.status), ("document", document)])

end ChatFlow
