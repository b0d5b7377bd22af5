import ChatFlow.Proofs.Json.RoundTrip
import ChatFlow.Proofs.Run.Requests
import ChatFlow.Service.Routes

/-!
# Trials and actions

What an editor tries is what an action with the same settings will do: the same request is made of them, once directly
and once by way of the texts that the settings of an action are. The one difference is that an action takes the values
of headers for templates, so they must have no tokens that stand for something.

* `RequestSettings`: what is set for a request; `InTrial` and `InAction` say where it stands.
* `Headers.ofText_text`: headers that were written as a text.
* `Service.trial_agrees`: the two requests.
-/

namespace ChatFlow

/-! ## Headers -/

namespace Headers

/-- Headers that were written as a text are read from it again. -/
theorem ofText_text {fs : Fields Value} (h : (Value.object fs).IsDocument) :
    ofText (Json.text .line (.object fs)) = ofFields fs := by
  have hopen : ∃ rest, Json.text .line (.object fs) = .scalar '{' :: rest := by
    rcases fs with _ | ⟨⟨name, v⟩, fs⟩
    · exact ⟨_, rfl⟩
    · exact ⟨_, rfl⟩
  have hblank : (Json.text .line (.object fs)).isBlank = false := by
    obtain ⟨rest, hrest⟩ := hopen
    rw [hrest]
    rfl
  rw [ofText, hblank, if_neg Bool.false_ne_true, Json.read?_text rfl h]

end Headers

/-! ## Settings -/

/-- What is set for a request. -/
structure RequestSettings where
  url : Text
  method : Text
  /-- Headers as an object or as a text. -/
  headers : Fields Value ⊕ Text
  body : Text

namespace RequestSettings

variable {x : RequestSettings} {fs : Fields Value}

/-- The headers as they stand in a document. -/
def headersValue (x : RequestSettings) : Value :=
  match x.headers with
  | .inl fs => .object fs
  | .inr t => .text t

/-- The document of a trial has the settings. -/
structure InTrial (x : RequestSettings) (fs : Fields Value) : Prop where
  url : fs.get? "url" = some (.text x.url)
  method : fs.get? "method" = some (.text x.method)
  headers : fs.get? "headers" = some x.headersValue
  body : fs.get? "body" = some (.text x.body)

/-- The settings of an action have them. -/
structure InAction (x : RequestSettings) (fs : Fields Value) : Prop where
  kind : fs.get? "action_type" = some (.text "custom_api")
  url : fs.get? "api_url" = some (.text x.url)
  method : fs.get? "api_method" = some (.text x.method)
  headers : fs.get? "api_headers" = some x.headersValue
  body : fs.get? "api_body" = some (.text x.body)

theorem InTrial.check_eq (h : x.InTrial fs) :
    Trial.check (.object fs) = .accepted ⟨x.url, x.method, x.headers, some x.body⟩ := by
  have hheaders : Trial.checkHeaders x.headersValue = .accepted x.headers := by
    unfold headersValue
    rcases x.headers with fs | t
    · rfl
    · rfl
  simp only [Trial.check, Check.fieldOr, h.url, h.method, h.headers, h.body, Option.elim_some, hheaders]
  rfl

/-- Settings that are texts are read as they are. -/
theorem InAction.ofFields_eq (h : x.InAction fs) : (ActionData.ofFields fs).kind = "custom_api" ∧
    (ActionData.ofFields fs).url = x.url ∧ (ActionData.ofFields fs).method = x.method ∧
    (ActionData.ofFields fs).body = x.body := by
  have hread : ∀ name t other, fs.get? name = some (.text t) → Loose.text fs name other = t := by
    intro name t other hname
    rw [Loose.text, hname]
  refine ⟨?_, ?_, ?_, ?_⟩
  · exact hread _ _ "reply_text" h.kind
  · exact hread _ _ [] h.url
  · exact hread _ _ "GET" h.method
  · exact hread _ _ [] h.body

/-- The headers of an action are read as those of a trial. -/
theorem InAction.ofText_headers (h : x.InAction fs) (hdocument : x.headersValue.IsDocument) :
    Headers.ofText (ActionData.ofFields fs).headers = Trial.headersOf x.headers := by
  have hheaders := h.headers
  unfold headersValue at hheaders hdocument
  show Headers.ofText (Loose.text fs "api_headers" []) = _
  rcases hx : x.headers with hs | t
  · rw [hx] at hheaders hdocument
    rw [Loose.text, hheaders]
    exact Headers.ofText_text hdocument
  · rw [hx] at hheaders
    rw [Loose.text, hheaders]
    rfl

theorem exists_headersOf (hdocument : x.headersValue.IsDocument) :
    ∃ headers, Trial.headersOf x.headers = .ok headers := by
  unfold headersValue at hdocument
  rcases hx : x.headers with hs | t
  · rw [hx] at hdocument
    exact Headers.exists_ofFields hdocument.field
  · exact Headers.exists_ofText t

end RequestSettings

/-! ## Both requests -/

namespace Service

/-- A trial makes the request of its settings. -/
theorem requests_trial {s : Service} {q : Request} {fs : Fields Value} {x : RequestSettings} {headers : Fields Text}
    (hpath : q.path = "/api/test_api") (hmethod : q.method = "POST")
    (hdocument : (Encoding.documentText? q.body).bind Json.read? = some (.object fs)) (htrial : x.InTrial fs)
    (hurl : x.url ≠ []) (hheaders : Trial.headersOf x.headers = .ok headers) :
    (s.answer q).2.world.requests = s.world.requests ++
      [⟨Act.timeLimit 0, (Act.orElse x.method "GET").toUpper, x.url, Act.usualHeaders.setAll headers,
        if Act.bodyMethods.contains (Act.orElse x.method "GET").toUpper then some x.body else none⟩] := by
  have hroute : s.answer q = s.answerRoute q .trial := by
    have hfound : Fields.get? Route.paths "/api/test_api" = some .trial := rfl
    rw [answer, hpath, hfound]
    exact if_pos hmethod
  have hanswer : s.answerRoute q .trial = respond (s.tryRequest ⟨x.url, x.method, x.headers, some x.body⟩) := by
    obtain ⟨t, ht, hread⟩ := Option.bind_eq_some_iff.mp hdocument
    rw [answerRoute, withBody, ht]
    simp only [hread, Option.bind_some, htrial.check_eq, Check.toOption]
  have hrespond : ∀ a : Answer, (respond a).2 = a.2 := by
    rintro ⟨fault | v, t⟩
    · rfl
    · rfl
  -- without an address, nothing would be sent
  have hsent : ¬ x.url.isEmpty = true := by
    rw [List.isEmpty_iff]
    exact hurl
  rw [hroute, hanswer, hrespond, tryRequest, Trial.run, if_neg hsent, Trial.request, hheaders]
  exact s.world.requests_askWeb _

/-- A trial and an action with the same settings each make one request, with the same method, address, headers and
content: the address and the body are not empty and have no opening brace, and no token in the value of a header, as it
is read, stands for something where the action runs. -/
theorem trial_agrees (s : Service) (q : Request) (r : Runner) (m : Message) (sc : Scene) (fs gs : Fields Value)
    (x : RequestSettings) (hpath : q.path = "/api/test_api") (hmethod : q.method = "POST")
    (hdocument : (Encoding.documentText? q.body).bind Json.read? = some (.object fs)) (htrial : x.InTrial fs)
    (haction : x.InAction gs) (hhandled : r.handled.contains "custom_api" = false)
    (hvalue : ((Act.render m (ActionData.ofFields gs).value).run.run sc).1.isOk = true)
    (hclock : sc.world.clock.timestamp.isOk = true) (hurl : x.url ≠ [] ∧ .scalar '{' ∉ x.url)
    (hbody : x.body ≠ [] ∧ .scalar '{' ∉ x.body)
    (hheaders : ∀ headers, Trial.headersOf x.headers = .ok headers →
      ∀ header ∈ headers, Act.Unresolved m sc header.2) :
    ∃ tried made : Web.Request,
      (s.answer q).2.world.requests = s.world.requests ++ [tried] ∧
      ((Act.act r (.ofFields gs) m).run.run sc).2.world.requests = sc.world.requests ++ [made] ∧
      made.method = tried.method ∧ made.url = tried.url ∧ made.headers = tried.headers ∧
      made.content = tried.content := by
  -- what stands in a document can be written as a text, which is how an action has its headers
  have hheadersDocument : x.headersValue.IsDocument := by
    obtain ⟨t, -, hread⟩ := Option.bind_eq_some_iff.mp hdocument
    exact (Json.isDocument_of_read? hread).field _ (Fields.mem_of_get? htrial.headers)
  obtain ⟨headers, hread⟩ := x.exists_headersOf hheadersDocument
  obtain ⟨hkind, hurlText, hmethodText, hbodyText⟩ := haction.ofFields_eq
  have hmade := Act.requests_act_unresolved (r := r) hkind hhandled hvalue hclock (hurlText ▸ hurl.2)
    (hbodyText ▸ hbody.2) ((haction.ofText_headers hheadersDocument).trans hread) (hheaders headers hread)
  rw [hurlText, hmethodText, hbodyText] at hmade
  refine ⟨_, _, requests_trial hpath hmethod hdocument htrial hurl.1 hread, hmade, rfl, rfl, rfl, ?_⟩
  -- the body is not empty, so both ask the method alone
  have hfull : x.body.isEmpty = false := by
    simpa using hbody.1
  rw [hfull, Bool.false_or]
  cases Act.bodyMethods.contains (Act.orElse x.method "GET").toUpper
  · rfl
  · rfl

/-! ## Samples -/

/-- Settings with headers as an object: one that every request has, a number, and a list with braces in its text. -/
def sampleSettings : RequestSettings :=
  ⟨"http://a.b/", "post", .inl [("Accept", .text "text/html"), ("X-Limit", .float (.ofRatio 5 2)),
    ("X-Tags", .list [.text "a", .object [("b", .null)]])], "a=1"⟩

/-- The document of a trial of some settings. -/
def trialFields (x : RequestSettings) : Fields Value :=
  [("url", .text x.url), ("method", .text x.method), ("headers", x.headersValue), ("body", .text x.body)]

/-- The settings of an action. -/
def actionFields (x : RequestSettings) : Fields Value :=
  [("action_type", .text "custom_api"), ("api_url", .text x.url), ("api_method", .text x.method),
    ("api_headers", x.headersValue), ("api_body", .text x.body)]

/-- The request of an editor that tries some settings; all of its code points are ASCII. -/
def trialRequest (x : RequestSettings) : Request :=
  ⟨"POST", "/api/test_api", [], (Json.text .line (.object (trialFields x))).map fun c => .ofNat c.toNat⟩

/-- A service without workflows and tasks. -/
def sampleService : Service :=
  ⟨Act.sampleWorld .empty, .ofFile .absent, ⟨.absent, [], []⟩, ⟨[], []⟩, true, [], .zero⟩

/-- The runner of the service in the chat with a user. -/
def sampleRunner : Runner := sampleService.runner ⟨none, "u1", [], false⟩

/-- The beginning of a run. -/
def sampleScene : Scene := ⟨Act.sampleWorld .empty, .start []⟩

theorem trial_agrees_of_sample :
    ∃ tried made : Web.Request,
      (sampleService.answer (trialRequest sampleSettings)).2.world.requests = sampleService.world.requests ++ [tried] ∧
      ((Act.act sampleRunner (.ofFields (actionFields sampleSettings)) ⟨.ofUser "u1", "hi"⟩).run.run
        sampleScene).2.world.requests = sampleScene.world.requests ++ [made] ∧
      made.method = tried.method ∧ made.url = tried.url ∧ made.headers = tried.headers ∧
      made.content = tried.content := by
  have hdocument : (Encoding.documentText? (trialRequest sampleSettings).body).bind Json.read? =
      some (.object (trialFields sampleSettings)) := by
    decide +kernel
  have hread : Trial.headersOf sampleSettings.headers = .ok [("Accept", "text/html"), ("X-Limit", "2.5"),
      ("X-Tags", "[\"a\", \x7b\"b\": null\x7d]")] := by
    decide +kernel
  have hvalue : ((Act.render ⟨.ofUser "u1", "hi"⟩ (ActionData.ofFields (actionFields sampleSettings)).value).run.run
      sampleScene).1.isOk = true := by
    decide +kernel
  have hclock : sampleScene.world.clock.timestamp.isOk = true := by
    decide +kernel
  have htexts : (sampleSettings.url ≠ [] ∧ .scalar '{' ∉ sampleSettings.url) ∧
      (sampleSettings.body ≠ [] ∧ .scalar '{' ∉ sampleSettings.body) := by
    decide +kernel
  have htrial : sampleSettings.InTrial (trialFields sampleSettings) := ⟨rfl, rfl, rfl, rfl⟩
  have haction : sampleSettings.InAction (actionFields sampleSettings) := ⟨rfl, rfl, rfl, rfl, rfl⟩
  -- the braces in the text of the list stand around a name that nothing has
  have hnone : ∀ header ∈ ([("Accept", "text/html"), ("X-Limit", "2.5"),
      ("X-Tags", "[\"a\", \x7b\"b\": null\x7d]")] : Fields Text), ∀ w ∈ header.2.tokens,
      (Names.ofScene ⟨.ofUser "u1", "hi"⟩ sampleScene).resolve w = .ok none := by
    decide +kernel
  apply trial_agrees sampleService (trialRequest sampleSettings) sampleRunner ⟨.ofUser "u1", "hi"⟩ sampleScene
    (trialFields sampleSettings) (actionFields sampleSettings) sampleSettings rfl rfl hdocument htrial haction rfl
    hvalue hclock htexts.1 htexts.2
  intro headers hheaders header hmem i w hw
  obtain rfl := Except.ok.inj (hread.symm.trans hheaders)
  exact hnone header hmem w hw.mem_tokens

/-- Headers as a text of a document in which the braces of a value are escaped. -/
def escapedHeaders : Text := "\x7b\"X\": \"\\u007buser_id\\u007d\"\x7d"

/-- The text has one opening brace, that of the document. The trial sends what it escapes, and the action the user. -/
theorem trial_differs_from_action :
    (Json.read? escapedHeaders = some (.object [("X", .text (Piece.written "user_id"))]) ∧
      escapedHeaders.count (.scalar '{') = 1) ∧
    (sampleService.answer (trialRequest ⟨"http://a.b/", "get", .inr escapedHeaders, "b"⟩)).2.world.requests.map
        (·.headers.get? "X") = [some (Piece.written "user_id")] ∧
    ((Act.act sampleRunner (.ofFields (actionFields ⟨"http://a.b/", "get", .inr escapedHeaders, "b"⟩))
        ⟨.ofUser "u1", "hi"⟩).run.run sampleScene).2.world.requests.map (·.headers.get? "X") =
      ([some "u1"] : List (Option Text)) := by
  refine ⟨by decide +kernel, by decide +kernel, ?_⟩
  have hread : Headers.ofText escapedHeaders = .ok [("X", Piece.written "user_id")] := by
    decide +kernel
  have hrender : ((Act.render ⟨.ofUser "u1", "hi"⟩ (Piece.written "user_id")).run.run sampleScene).1 = .ok "u1" := by
    decide +kernel
  have hadd : ∃ k, (Act.addHeaders ⟨.ofUser "u1", "hi"⟩ Act.usualHeaders [("X", Piece.written "user_id")]).run.run
      sampleScene = (.ok (Act.usualHeaders.set "X" "u1"), sampleScene.rolled k) := by
    obtain ⟨k, hk⟩ := Act.exists_rolled ⟨.ofUser "u1", "hi"⟩ (Piece.written "user_id") sampleScene
    have hrun : (Act.render ⟨.ofUser "u1", "hi"⟩ (Piece.written "user_id")).run.run sampleScene =
        (.ok "u1", sampleScene.rolled k) := Prod.ext hrender hk
    refine ⟨k, ?_⟩
    rw [Act.addHeaders, Act.run_bind, hrun]
    rfl
  obtain ⟨k, hadd⟩ := hadd
  have hvalue : (Act.render ⟨.ofUser "u1", "hi"⟩ []).run.run sampleScene = (.ok [], sampleScene) := rfl
  have hmade := Act.requests_act (r := sampleRunner)
    (d := .ofFields (actionFields ⟨"http://a.b/", "get", .inr escapedHeaders, "b"⟩)) rfl rfl hvalue
    (Act.run_request (by decide +kernel) (by decide +kernel) hread hadd)
  rw [hmade]
  rfl

end Service

end ChatFlow
