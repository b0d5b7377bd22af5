import ChatFlow.Json.Reader
import ChatFlow.Text.Encoding
import ChatFlow.Text.Split
import ChatFlow.Unicode.Case
import ChatFlow.Unicode.Classes

/-!
# Requests and answers

What is sent to a web service and what comes back: a response, or a failure without one.

* `Web.Response.text`: the body as text, in the encoding that its header names, else in UTF-8.
* `Web.Response.document?`: the body as JSON, in the encoding that its bytes tell.
-/

namespace ChatFlow.Web

/-- A request to a web service. -/
structure Request where
  timeout : Double
  method : Text
  url : Text
  headers : Fields Text
  content : Option Text
deriving DecidableEq

/-- A response of a web service. -/
structure Response where
  status : Int
  headers : Fields Text
  body : List UInt8
deriving DecidableEq

/-- What comes of a request. -/
inductive Answer where
  | response (r : Response)
  /-- No response came in time. -/
  | timeout (message : Text)
  /-- The request failed for another reason. -/
  | failure (message : Text)
deriving DecidableEq

/-- The answer of a service that has nothing to say. -/
def Answer.empty : Answer := .response ⟨200, [], [0x7B, 0x7D]⟩

namespace Response

/-- The value of a header; upper and lower case are the same in its name. -/
def header? (r : Response) (name : Text) : Option Text :=
  (r.headers.find? fun (n, _) => n.toLower = name.toLower).map Prod.snd

/-- The content type, which may be empty. -/
def contentType (r : Response) : Text := (r.header? "content-type").getD []

/-- The encoding that the content type names. -/
def encoding? (r : Response) : Option Encoding :=
  (Text.splitChar ';' r.contentType).tail.findSome? fun parameter =>
    match Text.partition '=' parameter with
    | (name, some value) =>
      if name.trim.toLower = "charset" then
        Encoding.ofName? (value.trim.trimBy (· = .scalar '"')).toLower
      else none
    | _ => none

/-- The body as text. -/
def text (r : Response) : Text := (r.encoding?.getD .utf8).lenient r.body

/-- The body as a JSON document. -/
def document? (r : Response) : Option Value := (Encoding.documentText? r.body).bind Json.read?

end Response

end ChatFlow.Web
