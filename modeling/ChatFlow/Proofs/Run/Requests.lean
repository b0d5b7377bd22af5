import ChatFlow.Proofs.Json.Documents
import ChatFlow.Proofs.Run.Effects
import ChatFlow.Proofs.Store.Contents

/-!
# Requests to web services

An action that asks a web service makes one request, whatever becomes of it and however it is replied to. Where the
templates of its settings have no tokens that stand for something, the request is made of the settings as they are.

* `World.requests`: the requests that were made.
* `Act.Quiet`: a step that makes no request.
* `Act.run_render_unresolved`, `Act.run_addHeaders_unresolved`: templates that come to themselves.
* `Act.requests_askService`: the request of an action.
-/

namespace ChatFlow

variable {α : Type}

/-! ## Headers -/

namespace Headers

/-- The headers of a document can be read. -/
theorem exists_ofFields {fs : Fields Value} (h : ∀ f ∈ fs, f.2.IsDocument) : ∃ headers, ofFields fs = .ok headers := by
  induction fs with
  | nil => exact ⟨[], rfl⟩
  | cons f fs ih =>
      obtain ⟨name, v⟩ := f
      obtain ⟨t, ht⟩ : ∃ t, v.display = .ok t := (h (name, v) List.mem_cons_self).exists_display
      obtain ⟨headers, hheaders⟩ := ih fun f hf => h f (List.mem_cons_of_mem _ hf)
      refine ⟨(name, t) :: headers, ?_⟩
      unfold ofFields at hheaders ⊢
      rw [List.mapM_cons, hheaders]
      simp only [ht]
      rfl

/-- Whatever a text is, headers are read from it. -/
theorem exists_ofText (t : Text) : ∃ headers, ofText t = .ok headers := by
  unfold ofText
  split
  · exact ⟨[], rfl⟩
  · split
    · next fs hread => exact exists_ofFields (Json.isDocument_of_read? hread).field
    · exact ⟨_, rfl⟩

end Headers

/-! ## Requests -/

/-- The request to a web service that is recorded. -/
def Effect.request? : Effect → Option Web.Request
  | .requested r => some r
  | _ => none

/-- The requests to web services that were made, in order. -/
def World.requests (w : World) : List Web.Request := w.effects.filterMap Effect.request?

theorem World.requests_askWeb (w : World) (r : Web.Request) : (w.askWeb r).2.requests = w.requests ++ [r] := by
  rw [requests, effects_askWeb, List.filterMap_append]
  rfl

namespace Act

/-! ## Steps that make no request -/

-- Requests are a part of the surroundings that a bond leaves free, so what is said of bonds does not give this.
/-- The step makes no request. -/
abbrev Quiet (a : Act α) : Prop := Keeps (fun sc => sc.world.requests) a

/-- Steps that do other things only make no request. -/
theorem quiet_of_does {a : Act α} (h : Does (fun e => e.request? = none) a) : Quiet a := by
  intro sc
  obtain ⟨es, heffects, hes⟩ := h sc
  show (a.run.run sc).2.world.effects.filterMap Effect.request? = sc.world.effects.filterMap Effect.request?
  rw [heffects, List.filterMap_append, List.filterMap_eq_nil_iff.mpr hes, List.append_nil]

/-- Calls of the chat are no requests. -/
theorem does_ask_quiet (o : Outlet) (c : Call) : Does (fun e => e.request? = none) (ask o c) :=
  does_ask (fun _ => rfl) fun _ => rfl

/-- The action makes the request that its settings come to, and no other one. -/
theorem requests_askService {o : Outlet} {d : ActionData} {m : Message} {r : Web.Request} {sc sc' : Scene}
    (hrequest : (request d m).run.run sc = (.ok r, sc')) :
    ((askService o d m).run.run sc).2.world.requests = sc'.world.requests ++ [r] := by
  -- the answer, whatever it is, comes with the request recorded
  rw [askService, run_bind, hrequest, ← sc'.world.requests_askWeb r]
  simp only [run_bind, run_world]
  rcases sc'.world.askWeb r with ⟨answer, w⟩
  -- what is made of the answer is another step, from the surroundings behind it
  have hrest : ∀ a : Act Unit, Quiet a →
      (a.run.run { sc' with world := w }).2.world.requests = w.requests := fun a ha => ha { sc' with world := w }
  cases answer with
  | timeout reason => exact hrest _ (quiet_of_does (does_tell (does_ask_quiet o _)))
  | failure reason => exact hrest _ (quiet_of_does (does_tell (does_ask_quiet o _)))
  | response response =>
      have hreply := does_replyToResponse (fun c _ => does_ask_quiet o c) d m r.url response
      exact hrest _ (quiet_of_does hreply)

/-! ## Templates that come to themselves -/

/-- What comes up when the dice are rolled on is under the same names. -/
theorem names_builtins_rolled (m : Message) (sc : Scene) (k : Nat) :
    (m.builtins (sc.rolled k).world).names = (m.builtins sc.world).names := by
  have hclock : (sc.rolled k).world.clock = sc.world.clock := rfl
  have hdrawn : ∀ d e, (m.drawn d).names = (m.drawn e).names := fun _ _ => rfl
  rw [Message.builtins, Message.builtins, hclock, Fields.names, Fields.names, List.map_append, List.map_append]
  exact congrArg _ (hdrawn _ _)

/-- What is found nowhere is not found among other values of the same built-in names. -/
theorem resolve_withBuiltins {names : Names} {w : Text} {builtins : Fields Text}
    (hnames : builtins.names = names.builtins.names) (h : names.resolve w = .ok none) :
    ({ names with builtins := builtins } : Names).resolve w = .ok none := by
  have hnone : names.builtins.get? w = none := by
    by_contra hsome
    obtain ⟨x, hx⟩ := Option.ne_none_iff_exists'.mp hsome
    rw [Names.resolve, hx] at h
    cases h
  have hother : builtins.get? w = none := by
    rw [Fields.get?_eq_none_iff, hnames, ← Fields.get?_eq_none_iff]
    exact hnone
  simp only [Names.resolve, hnone] at h
  simp only [Names.resolve, hother]
  exact h

/-- No token of the text stands for something in the scene. -/
def Unresolved (m : Message) (sc : Scene) (t : Text) : Prop :=
  ∀ i w, t.TokenAt i w → (Names.ofScene m sc).resolve w = .ok none

variable {m : Message} {sc : Scene} {t : Text}

theorem Unresolved.rolled (h : Unresolved m sc t) (k : Nat) : Unresolved m (sc.rolled k) t := by
  intro i w hw
  exact resolve_withBuiltins (names_builtins_rolled m sc k) (h i w hw)

/-- A template whose tokens stand for nothing comes to itself. -/
theorem run_render_unresolved (hclock : sc.world.clock.timestamp.isOk = true) (h : Unresolved m sc t) :
    ∃ k, (render m t).run.run sc = (.ok t, sc.rolled k) := by
  have hself : Piece.fill (Names.ofScene m sc).resolve (Piece.ofText t) = .ok t := by
    apply Piece.fill_eq_ok_iff.mpr
    apply Text.IsFilled.self
    intro i w hw
    rw [Piece.valueOr, h i w hw]
    rfl
  by_cases hbrace : .scalar '{' ∈ t
  · refine ⟨3, ?_⟩
    rw [run_render_of_brace m hclock hbrace, hself]
  · exact ⟨0, run_render_of_no_brace m sc hbrace⟩

/-- Headers are added as they are. -/
theorem run_addHeaders_unresolved (hclock : sc.world.clock.timestamp.isOk = true) {more : Fields Text}
    (h : ∀ header ∈ more, Unresolved m sc header.2) (headers : Fields Text) :
    ∃ k, (addHeaders m headers more).run.run sc = (.ok (headers.setAll more), sc.rolled k) := by
  induction more generalizing headers sc with
  | nil => exact ⟨0, rfl⟩
  | cons header more ih =>
      obtain ⟨name, v⟩ := header
      obtain ⟨j, hfirst⟩ := run_render_unresolved hclock (h (name, v) List.mem_cons_self)
      -- behind the first header the dice have been rolled, and the clock stands where it did
      have hclockThen : (sc.rolled j).world.clock.timestamp.isOk = true := hclock
      obtain ⟨k, hrest⟩ := ih hclockThen
        (fun header hheader => (h header (List.mem_cons_of_mem _ hheader)).rolled j) (headers.set name v)
      refine ⟨j + k, ?_⟩
      rw [addHeaders, run_bind, hfirst]
      exact hrest.trans (congrArg (Prod.mk _) (sc.rolled_rolled j k))

/-- The request of an action whose address and body are no templates: its headers are what comes of adding those that
are read. -/
theorem run_request {d : ActionData} {read headers : Fields Text} {sc' : Scene} (hurl : .scalar '{' ∉ d.url)
    (hbody : .scalar '{' ∉ d.body) (hread : Headers.ofText d.headers = .ok read)
    (hadd : (addHeaders m usualHeaders read).run.run sc = (.ok headers, sc')) :
    (request d m).run.run sc = (.ok ⟨timeLimit d.timeout, (orElse d.method "GET").toUpper, d.url, headers,
      if d.body.isEmpty || !bodyMethods.contains (orElse d.method "GET").toUpper then none else some d.body⟩, sc') := by
  have hbodyFor : ∀ method, (bodyFor m method d.body).run.run sc' =
      (.ok (if d.body.isEmpty || !bodyMethods.contains method then none else some d.body), sc') := by
    intro method
    rw [bodyFor]
    split
    · rfl
    · rw [run_bind, run_render_of_no_brace m _ hbody]
      rfl
  rw [request, run_bind, run_render_of_no_brace m sc hurl]
  simp only [run_bind, run_lift, hread, hadd, hbodyFor]
  rfl

/-- An action that asks a web service makes the request of its settings, behind its value. -/
theorem requests_act {r : Runner} {d : ActionData} {value : Text} {request : Web.Request} {sc₁ sc₂ : Scene}
    (hkind : d.kind = "custom_api") (hhandled : r.handled.contains "custom_api" = false)
    (hvalue : (render m d.value).run.run sc = (.ok value, sc₁))
    (hrequest : (Act.request d m).run.run sc₁ = (.ok request, sc₂)) :
    ((act r d m).run.run sc).2.world.requests = sc₂.world.requests ++ [request] := by
  have hname : orElse d.kind "reply_text" = "custom_api" := by
    rw [hkind]
    rfl
  have hword : Fields.get? ActionKind.words "custom_api" = some .askService := rfl
  rw [act, hname]
  simp only [hhandled, Bool.false_eq_true, if_false, hword]
  rw [run_bind, hvalue]
  exact requests_askService hrequest

/-- Where the settings have nothing to fill in, the request is made of them as they are. -/
theorem requests_act_unresolved {r : Runner} {d : ActionData} {headers : Fields Text} (hkind : d.kind = "custom_api")
    (hhandled : r.handled.contains "custom_api" = false) (hvalue : ((render m d.value).run.run sc).1.isOk = true)
    (hclock : sc.world.clock.timestamp.isOk = true) (hurl : .scalar '{' ∉ d.url) (hbody : .scalar '{' ∉ d.body)
    (hread : Headers.ofText d.headers = .ok headers) (hheaders : ∀ header ∈ headers, Unresolved m sc header.2) :
    ((act r d m).run.run sc).2.world.requests = sc.world.requests ++
      [⟨timeLimit d.timeout, (orElse d.method "GET").toUpper, d.url, usualHeaders.setAll headers,
        if d.body.isEmpty || !bodyMethods.contains (orElse d.method "GET").toUpper then none else some d.body⟩] := by
  -- the value of the action takes some rolls of the dice, and so do the headers
  obtain ⟨value, j, hfirst⟩ : ∃ value j, (render m d.value).run.run sc = (.ok value, sc.rolled j) := by
    obtain ⟨j, hj⟩ := exists_rolled m d.value sc
    rcases hrun : (render m d.value).run.run sc with ⟨fault | value, sc'⟩
    · rw [hrun] at hvalue
      cases hvalue
    · rw [hrun] at hj
      exact ⟨value, j, by rw [← hj]⟩
  have hclockThen : (sc.rolled j).world.clock.timestamp.isOk = true := hclock
  obtain ⟨k, hadd⟩ := run_addHeaders_unresolved hclockThen
    (fun header hheader => (hheaders header hheader).rolled j) usualHeaders
  have hrolled : ((sc.rolled j).rolled k).world.requests = sc.world.requests := rfl
  rw [← hrolled]
  exact requests_act hkind hhandled hfirst (run_request hurl hbody hread hadd)

end Act

end ChatFlow
