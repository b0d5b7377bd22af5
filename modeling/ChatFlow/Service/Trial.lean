import ChatFlow.Run.Action

/-!
# Trial requests

An editor tries a request once before it becomes part of a workflow, and is told what came back.

* `Trial.check`: reading what an editor wants to try.
* `Trial.request`: the request.
* `Trial.run`: sends it and tells what came back.
-/

namespace ChatFlow

/-- A request that an editor wants to try. -/
structure Trial where
  url : Text
  method : Text
  /-- Headers as an object or as a text. -/
  headers : Fields Value ⊕ Text
  body : Option Text

namespace Trial

/-- Headers: an object or a text. -/
def checkHeaders : Value → Check (Fields Value ⊕ Text)
  | .object fs => .accepted (.inl fs)
  | .text t => .accepted (.inr t)
  | _ => .refuse

/-- Reads what an editor wants to try. -/
def check : Value → Check Trial
  | .object fs =>
    Trial.mk <$> Check.fieldOr fs "url" [] Check.exactText
      <*> Check.fieldOr fs "method" "GET" Check.exactText
      <*> Check.fieldOr fs "headers" (.inl []) checkHeaders
      <*> Check.fieldOr fs "body" none (Check.nullable Check.exactText)
  | _ => .refuse

/-- The headers in either form. -/
def headersOf : Fields Value ⊕ Text → Except Fault (Fields Text)
  | .inl fs => Headers.ofFields fs
  | .inr t => Headers.ofText t

/-- The request. -/
def request (t : Trial) : Except Fault Web.Request := do
  let method := (Act.orElse t.method "GET").toUpper
  let headers := Fields.setAll Act.usualHeaders (← headersOf t.headers)
  return ⟨Act.timeLimit 0, method, t.url, headers,
    if Act.bodyMethods.contains method then t.body else none⟩

/-- Words in a content type that tell of media. -/
def mediaWords : List Text := ["image", "audio", "video"]

/-- The greatest number of code points that are shown of a response. -/
def maxShown : Nat := 5000

/-- What an editor is told of a failure. -/
def failure (reason : Text) : Value :=
  .object [("success", .bool false), ("error", .text reason)]

/-- What an editor is told of a response, besides its status. -/
def shown (r : Web.Response) : Fields Value :=
  let plain : Fields Value := [("response", .text (r.text.take maxShown))]
  if mediaWords.any r.contentType.includes then
    [("is_binary", .bool true), ("response", .text "[二进制数据]")]
  else if r.contentType.includes "application/json" then
    match r.document? with
    | none | some .null => plain
    | some v => [("is_json", .bool true), ("json_data", v), ("response", .text (Json.text .line v))]
  else plain

/-- What an editor is told of an answer. -/
def tell : Web.Answer → Value
  | .timeout reason => failure (Act.orElse reason "请求失败")
  | .failure reason => failure (Act.orElse reason "请求失败")
  | .response r =>
    let head : Fields Value := [("success", .bool true), ("status_code", .int r.status)]
    .object (head ++ shown r)

/-- Sends a request and tells what came back. -/
def run (t : Trial) (w : World) : Except Fault Value × World :=
  if t.url.isEmpty then (.ok (failure "缺少URL"), w)
  else
    match t.request with
    | .error fault => (.error fault, w)
    | .ok request =>
      let (answer, w) := w.askWeb request
      (.ok (tell answer), w)

end Trial

end ChatFlow
