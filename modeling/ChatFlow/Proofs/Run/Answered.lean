import ChatFlow.Proofs.Run.Requests
import ChatFlow.Proofs.Template.Paths
import ChatFlow.Proofs.Template.Responses

/-!
# Actions that ask web services

An action that asks a web service makes one request and then one call: a report if the request failed, and a reply if a
response came, which is then kept in variables. The templates of its settings stand in the way of this, before the
request and behind it: one that cannot be filled in makes the action fail. It is said here which these are.

* `Act.Rolls`, `Act.Succeeds`: steps that change nothing but the dice, and when steps come to an end.
* `Act.Fillable`: templates that can be filled in; `Act.CanAsk`, `Act.CanReply`: settings whose templates can be.
* `Context.keeping`: a context with a response kept in it.
* `Act.act_answered`: the request and the call of the action, or why there are none.
-/

namespace ChatFlow

variable {α β : Type}

namespace Act

/-! ## Steps that come to an end -/

/-- The step changes nothing but the dice, also when it fails. -/
def Rolls (a : Act α) : Prop := ∀ sc, ∃ k, (a.run.run sc).2 = sc.rolled k

/-- The step, taken in a scene, comes to an end. -/
def Succeeds (a : Act α) (sc : Scene) : Prop := ∃ x, (a.run.run sc).1 = .ok x

variable {a : Act α} {f : α → Act β} {sc : Scene}

theorem rolls_pure (x : α) : Rolls (pure x : Act α) := fun _ => ⟨0, rfl⟩

theorem rolls_lift (r : Except Fault α) : Rolls (lift r) := fun sc => ⟨0, by rw [run_lift]; rfl⟩

theorem rolls_context : Rolls context := fun _ => ⟨0, rfl⟩

theorem rolls_render (m : Message) (t : Text) : Rolls (render m t) := exists_rolled m t

theorem Rolls.bind (ha : Rolls a) (hf : ∀ x, Rolls (f x)) : Rolls (a >>= f) := by
  intro sc
  obtain ⟨j, hj⟩ := ha sc
  rw [run_bind]
  rcases hrun : a.run.run sc with ⟨fault | x, sc'⟩
  · rw [hrun] at hj
    exact ⟨j, hj⟩
  · rw [hrun] at hj
    obtain rfl : sc' = sc.rolled j := hj
    obtain ⟨k, hk⟩ := hf x (sc.rolled j)
    exact ⟨j + k, hk.trans (sc.rolled_rolled j k)⟩

theorem rolls_ite {c : Prop} [Decidable c] {a b : Act α} (ha : Rolls a) (hb : Rolls b) :
    Rolls (if c then a else b) := by
  split
  · exact ha
  · exact hb

theorem succeeds_pure (x : α) (sc : Scene) : Succeeds (pure x : Act α) sc := ⟨x, rfl⟩

theorem Rolls.exists_run (ha : Rolls a) (h : Succeeds a sc) : ∃ x k, a.run.run sc = (.ok x, sc.rolled k) := by
  obtain ⟨x, hx⟩ := h
  obtain ⟨k, hk⟩ := ha sc
  exact ⟨x, k, Prod.ext hx hk⟩

theorem Rolls.exists_fault (ha : Rolls a) (h : ¬ Succeeds a sc) :
    ∃ fault k, a.run.run sc = (.error fault, sc.rolled k) := by
  obtain ⟨k, hk⟩ := ha sc
  rcases hrun : a.run.run sc with ⟨fault | x, sc'⟩
  · rw [hrun] at hk
    exact ⟨fault, k, by rw [← hk]⟩
  · exact absurd ⟨x, by rw [hrun]⟩ h

/-- Two steps come to an end if the first one does, and the second one behind it. -/
theorem Rolls.succeeds_bind_iff {P : Prop} (ha : Rolls a) (hf : ∀ x k, Succeeds (f x) (sc.rolled k) ↔ P) :
    Succeeds (a >>= f) sc ↔ Succeeds a sc ∧ P := by
  by_cases hfirst : Succeeds a sc
  · obtain ⟨x, k, hrun⟩ := ha.exists_run hfirst
    rw [and_iff_right hfirst, ← hf x k, Succeeds, run_bind, hrun]
    rfl
  · obtain ⟨fault, k, hrun⟩ := ha.exists_fault hfirst
    rw [Succeeds, run_bind, hrun]
    refine ⟨?_, fun h => absurd h.1 hfirst⟩
    rintro ⟨y, ⟨⟩⟩

theorem Rolls.succeeds_bind_of (ha : Rolls a) (hf : ∀ x k, Succeeds (f x) (sc.rolled k)) :
    Succeeds (a >>= f) sc ↔ Succeeds a sc :=
  (ha.succeeds_bind_iff fun x k => iff_true_intro (hf x k)).trans (and_iff_left trivial)

/-! ## Templates that can be filled in -/

/-- The template can be filled in: unless it has no opening brace, the clock tells the seconds, and the look-up of each
token comes to an end. -/
def Fillable (m : Message) (sc : Scene) (t : Text) : Prop :=
  .scalar '{' ∈ t → sc.world.clock.timestamp.isOk = true ∧
    ∀ i w, t.TokenAt i w → ∃ x, (Names.ofScene m sc).resolve w = .ok x

variable {m : Message} {t w : Text}

/-- Filling comes to an end where the look-up of each token of the text does. -/
theorem exists_fill_ofText_iff {resolve : Text → Except Fault (Option Text)} :
    (∃ r, Piece.fill resolve (Piece.ofText t) = .ok r) ↔ ∀ i w, t.TokenAt i w → ∃ x, resolve w = .ok x := by
  rw [Piece.exists_fill_iff]
  constructor
  · intro h i w hw
    obtain ⟨p, hp, hname⟩ := List.mem_filterMap.mp hw.mem_tokens
    cases p with
    | plain c => cases hname
    | token w =>
        cases hname
        exact h w hp
  · intro h w hw
    obtain ⟨i, hi⟩ := (Piece.splits_ofText t).exists_tokenAt hw
    exact h i w hi

theorem succeeds_render_iff : Succeeds (render m t) sc ↔ Fillable m sc t := by
  by_cases hbrace : .scalar '{' ∈ t
  · rw [Succeeds, run_render, if_pos (List.contains_iff_mem.mpr hbrace), Fillable, imp_iff_right hbrace,
      ← exists_fill_ofText_iff]
    rcases sc.world.clock.timestamp with fault | seconds
    · constructor
      · rintro ⟨r, ⟨⟩⟩
      · rintro ⟨⟨⟩, -⟩
    · exact (and_iff_right rfl).symm
  · rw [Succeeds, run_render_of_no_brace m sc hbrace]
    exact ⟨fun _ hmem => absurd hmem hbrace, fun _ => ⟨t, rfl⟩⟩

/-- Whether the look-up comes to an end is up to the built-in names, not to what they stand for. -/
theorem exists_resolve_withBuiltins (names : Names) {builtins : Fields Text}
    (hnames : builtins.names = names.builtins.names) :
    (∃ x, ({ names with builtins := builtins } : Names).resolve w = .ok x) ↔ ∃ x, names.resolve w = .ok x := by
  have hsame : builtins.get? w = none ↔ names.builtins.get? w = none := by
    rw [Fields.get?_eq_none_iff, Fields.get?_eq_none_iff, hnames]
  rcases hother : builtins.get? w with _ | y
  · simp only [Names.resolve, hother, hsame.mp hother]
    exact Iff.rfl
  · -- a built-in name stands for some text on both sides
    have hsome : names.builtins.get? w ≠ none := fun hnone => by
      rw [hsame.mpr hnone] at hother
      cases hother
    obtain ⟨x, hx⟩ := Option.ne_none_iff_exists'.mp hsome
    simp only [Names.resolve, hother, hx]
    exact ⟨fun _ => ⟨some x, rfl⟩, fun _ => ⟨some y, rfl⟩⟩

/-- It does not matter what the dice come to. -/
theorem fillable_rolled_iff (k : Nat) : Fillable m (sc.rolled k) t ↔ Fillable m sc t := by
  have hresolve : ∀ w, (∃ x, (Names.ofScene m (sc.rolled k)).resolve w = .ok x) ↔
      ∃ x, (Names.ofScene m sc).resolve w = .ok x :=
    fun w => exists_resolve_withBuiltins (Names.ofScene m sc) (names_builtins_rolled m sc k)
  rw [Fillable, Fillable]
  simp only [hresolve]
  exact Iff.rfl

/-! ## The request -/

/-- The request can be made of the settings: all templates that are filled in for it can be. -/
@[mk_iff]
structure CanAsk (m : Message) (sc : Scene) (d : ActionData) : Prop where
  /-- The value, which every action fills in. -/
  value : Fillable m sc d.value
  url : Fillable m sc d.url
  headers : ∀ headers, Headers.ofText d.headers = .ok headers → ∀ header ∈ headers, Fillable m sc header.2
  body : d.body ≠ [] → (orElse d.method "GET").toUpper ∈ bodyMethods → Fillable m sc d.body

variable {d : ActionData}

theorem rolls_addHeaders (m : Message) (headers more : Fields Text) : Rolls (addHeaders m headers more) := by
  induction more generalizing headers with
  | nil => exact rolls_pure headers
  | cons header more ih => exact (rolls_render m _).bind fun v => ih _

theorem rolls_bodyFor (m : Message) (method body : Text) : Rolls (bodyFor m method body) :=
  rolls_ite (rolls_pure none) ((rolls_render m body).bind fun _ => rolls_pure _)

theorem rolls_request (d : ActionData) (m : Message) : Rolls (request d m) := by
  refine (rolls_render m _).bind fun url => (rolls_lift _).bind fun read => ?_
  exact (rolls_addHeaders m _ _).bind fun headers => (rolls_bodyFor m _ _).bind fun body => rolls_pure _

theorem succeeds_addHeaders_iff {headers more : Fields Text} :
    Succeeds (addHeaders m headers more) sc ↔ ∀ header ∈ more, Fillable m sc header.2 := by
  induction more generalizing headers sc with
  | nil => exact iff_of_true (succeeds_pure _ _) (List.forall_mem_nil _)
  | cons header more ih =>
      -- the other values are filled in with other dice, which do not matter
      have hrest : ∀ v k, Succeeds (addHeaders m (headers.set header.1 v) more) (sc.rolled k) ↔
          ∀ header ∈ more, Fillable m sc header.2 := by
        intro v k
        rw [ih]
        simp only [fillable_rolled_iff]
      rw [List.forall_mem_cons, ← succeeds_render_iff]
      exact (rolls_render m header.2).succeeds_bind_iff hrest

theorem succeeds_bodyFor_iff {method body : Text} :
    Succeeds (bodyFor m method body) sc ↔ (body ≠ [] → method ∈ bodyMethods → Fillable m sc body) := by
  rw [bodyFor]
  split
  · next hnone =>
      rw [Bool.or_eq_true, List.isEmpty_iff, Bool.not_eq_true', List.contains_eq_mem, decide_eq_false_iff_not] at hnone
      refine ⟨fun _ hne hmethod => ?_, fun _ => succeeds_pure _ _⟩
      rcases hnone with hempty | hother
      · exact absurd hempty hne
      · exact absurd hmethod hother
  · next hsent =>
      rw [Bool.or_eq_true, List.isEmpty_iff, Bool.not_eq_true', List.contains_eq_mem, decide_eq_false_iff_not,
        not_or, not_not] at hsent
      rw [imp_iff_right hsent.1, imp_iff_right hsent.2, ← succeeds_render_iff]
      exact (rolls_render m body).succeeds_bind_of fun _ _ => succeeds_pure _ _

/-- The request can be made exactly if all its templates can be filled in. -/
theorem succeeds_request_iff : Succeeds (request d m) sc ↔
    Fillable m sc d.url ∧
      (∀ headers, Headers.ofText d.headers = .ok headers → ∀ header ∈ headers, Fillable m sc header.2) ∧
      (d.body ≠ [] → (orElse d.method "GET").toUpper ∈ bodyMethods → Fillable m sc d.body) := by
  obtain ⟨read, hread⟩ := Headers.exists_ofText d.headers
  rw [request, ← succeeds_render_iff]
  refine (rolls_render m d.url).succeeds_bind_iff fun url j => ?_
  simp only [hread, Except.ok.injEq, forall_eq']
  rw [Succeeds, run_bind, run_lift]
  refine ((rolls_addHeaders m _ _).succeeds_bind_iff fun headers k => ?_).trans
    (and_congr_left' (succeeds_addHeaders_iff.trans (by simp only [fillable_rolled_iff])))
  refine ((rolls_bodyFor m _ _).succeeds_bind_of fun body l => succeeds_pure _ _).trans ?_
  rw [succeeds_bodyFor_iff, fillable_rolled_iff, fillable_rolled_iff]

end Act

/-! ## Responses that are kept -/

namespace Context

variable {kind : Act.ResponseKind} {url : Text} {r : Web.Response}

/-- The context with a response kept in it. -/
def keeping (c : Context) (kind : Act.ResponseKind) (url : Text) (r : Web.Response) : Context :=
  let (document, bytes, shown) := Act.responseParts kind url r
  (((c.set "api_status" (.int r.status)).set Act.documentVariable document).set hiddenVariable bytes).set
    "api_response" (.text shown)

/-- The variables that a response is kept in. -/
def responseVariables : List Text := ["api_status", Act.documentVariable, hiddenVariable, "api_response"]

/-- The variables describe a response: its status, its document, its bytes, and what is shown of it. -/
structure Describes (c : Context) (kind : Act.ResponseKind) (url : Text) (r : Web.Response) : Prop where
  status : c.get "api_status" = .int r.status
  document : c.get Act.documentVariable = (Act.responseParts kind url r).1
  bytes : c.get hiddenVariable = (Act.responseParts kind url r).2.1
  shown : c.get "api_response" = .text (Act.responseParts kind url r).2.2

theorem get_set (c : Context) (name other : Text) (v : Value) :
    (c.set name v).get other = if name = other then v else c.get other := by
  rw [get, get, set, Fields.get?_set]
  split
  · rfl
  · rfl

theorem describes_keeping (c : Context) (kind : Act.ResponseKind) (url : Text) (r : Web.Response) :
    (c.keeping kind url r).Describes kind url r := by
  constructor
  · rw [keeping, get_set, if_neg (by decide), get_set, if_neg (by decide), get_set, if_neg (by decide), get_set,
      if_pos rfl]
  · rw [keeping, get_set, if_neg (by decide), get_set, if_neg (by decide), get_set, if_pos rfl]
  · rw [keeping, get_set, if_neg (by decide), get_set, if_pos rfl]
  · rw [keeping, get_set, if_pos rfl]

/-- All other variables are left as they are. -/
theorem get_keeping_of_notMem (c : Context) {name : Text} (h : name ∉ responseVariables) :
    (c.keeping kind url r).get name = c.get name := by
  simp only [responseVariables, List.mem_cons, List.not_mem_nil, or_false, not_or] at h
  obtain ⟨hstatus, hdocument, hbytes, hshown⟩ := h
  rw [keeping, get_set, if_neg (Ne.symm hshown), get_set, if_neg (Ne.symm hbytes), get_set,
    if_neg (Ne.symm hdocument), get_set, if_neg (Ne.symm hstatus)]

end Context

namespace Act

/-! ## Replies to responses -/

/-- A token that is taken for a path into a response. -/
def IsPath (w : Text) : Prop := reservedPaths.contains w = false ∧ Text.startsWith w "$" = false

/-- It can be replied to the response that is kept in the scene: the template of the reply can be filled in, and so can
the caption of a picture; and what the template comes to first has no path at which one stumbles. -/
@[mk_iff]
structure CanReply (m : Message) (sc : Scene) (d : ActionData) : Prop where
  template : Fillable m sc d.reply
  paths : ∀ first, ((render m d.reply).run.run sc).1 = .ok first → sc.context.get documentVariable ≠ .null →
    ∀ i w, first.TokenAt i w → IsPath w → ¬ (sc.context.get documentVariable).Stumbles (Text.splitChar '.' w.trim)
  caption : orElse d.replyKind "text" = "image" → Fillable m sc d.imageText

/-- The ways of replying to a response. -/
def replyWays : List Text := ["text", "image", "voice", "video", "forward"]

/-- The call that replies in a way. -/
def callOf (way t : Text) (media : Media) (caption : Option Text) : Call :=
  if way = "image" then .replyImage media caption
  else if way = "voice" then .replyVoice media
  else if way = "video" then .replyVideo media
  else if way = "forward" then .replyForward (variants t)
  else .reply t

/-- The call that replies to a response that is kept, with its templates filled in. -/
def replyTo (d : ActionData) (m : Message) (url : Text) (r : Web.Response) : Act Call := do
  let kind := ResponseKind.ofLabel d.responseKind
  let t ← if d.reply.isEmpty then pure (responseParts kind url r).2.2 else renderResponse m d.reply
  let caption ← if orElse d.replyKind "text" = "image" then renderOptional m d.imageText else pure none
  return callOf (orElse d.replyKind "text") t (mediaOf kind r t) caption

variable {o : Outlet} {d : ActionData} {m : Message} {sc : Scene} {url t w : Text} {r : Web.Response} {document : Value}

theorem run_keepResponse (kind : ResponseKind) (url : Text) (r : Web.Response) (sc : Scene) :
    (keepResponse kind url r).run.run sc = (.ok (), { sc with context := sc.context.keeping kind url r }) := rfl

/-- In each of the ways, one call replies to the response. -/
theorem replyAs_eq (hway : orElse d.replyKind "text" ∈ replyWays) (media : Media) : replyAs o d m t media = (do
    let caption ← if orElse d.replyKind "text" = "image" then renderOptional m d.imageText else pure none
    tell o (callOf (orElse d.replyKind "text") t media caption)) := by
  simp only [replyWays, List.mem_cons, List.not_mem_nil, or_false] at hway
  rcases hway with hway | hway | hway | hway | hway
  all_goals
    rw [replyAs, hway]
    rfl

theorem replyToResponse_eq (hway : orElse d.replyKind "text" ∈ replyWays) : replyToResponse o d m url r = (do
    keepResponse (ResponseKind.ofLabel d.responseKind) url r
    let call ← replyTo d m url r
    tell o call) := by
  simp only [replyToResponse, replyTo, replyAs_eq hway]
  refine bind_congr fun _ => ?_
  split
  · split
    · simp only [bind_assoc, pure_bind]
    · simp only [pure_bind]
  · split
    · simp only [bind_assoc, pure_bind]
    · simp only [bind_assoc, pure_bind]

theorem rolls_renderOptional (m : Message) (t : Text) : Rolls (renderOptional m t) :=
  (rolls_render m t).bind fun _ => rolls_pure _

theorem rolls_renderResponse (m : Message) (t : Text) : Rolls (renderResponse m t) := by
  refine (rolls_render m t).bind fun first => rolls_context.bind fun c => ?_
  split
  · exact rolls_pure first
  · exact rolls_lift _

theorem rolls_replyTo (d : ActionData) (m : Message) (url : Text) (r : Web.Response) : Rolls (replyTo d m url r) := by
  have hcall : ∀ call : Option Text → Call, Rolls (
      if orElse d.replyKind "text" = "image" then do return call (← renderOptional m d.imageText)
      else pure (call none)) :=
    fun call => rolls_ite ((rolls_renderOptional m _).bind fun _ => rolls_pure _) (rolls_pure _)
  exact rolls_ite (hcall _) ((rolls_renderResponse m _).bind fun t => hcall _)

/-- What is found in a document can be shown, so it is only stumbling that stands in the way. -/
theorem exists_resolvePath_iff (hdocument : document.IsDocument) : (∃ x, resolvePath document w = .ok x) ↔
    (IsPath w → ¬ document.Stumbles (Text.splitChar '.' w.trim)) := by
  by_cases hpath : IsPath w
  · rw [imp_iff_right hpath, resolvePath, hpath.1, hpath.2, Bool.or_false, if_neg Bool.false_ne_true]
    constructor
    · rintro ⟨x, hx⟩ hstumbles
      obtain ⟨fault, hfault⟩ := Value.exists_extract_error hstumbles
      rw [hfault] at hx
      cases hx
    · intro hfirm
      obtain ⟨v, hv⟩ : ∃ v, document.extract w.trim = .ok v := ⟨_, Value.extract_eq hfirm⟩
      obtain ⟨shown, hshown⟩ := (hdocument.extract hv).exists_display
      exact ⟨some shown, by rw [hv]; show v.display.map some = _; rw [hshown]; rfl⟩
  · refine iff_of_true ⟨none, ?_⟩ fun h => absurd h hpath
    rw [IsPath, ← Bool.or_eq_false_iff, Bool.not_eq_false] at hpath
    rw [resolvePath, if_pos hpath]

/-- The template can be filled in exactly if both passes come to an end. -/
theorem succeeds_renderResponse_iff (hdocument : (sc.context.get documentVariable).IsDocument) :
    Succeeds (renderResponse m t) sc ↔ Fillable m sc t ∧
      ∀ first, ((render m t).run.run sc).1 = .ok first → sc.context.get documentVariable ≠ .null →
        ∀ i w, first.TokenAt i w → IsPath w →
          ¬ (sc.context.get documentVariable).Stumbles (Text.splitChar '.' w.trim) := by
  by_cases hnull : sc.context.get documentVariable = .null
  · -- without a document, the second pass is left out
    simp only [hnull, ne_eq, not_true_eq_false, false_imp_iff, implies_true, and_true]
    rw [← succeeds_render_iff]
    refine (rolls_render m t).succeeds_bind_of fun first k => ⟨first, ?_⟩
    have hsame : (sc.rolled k).context.get documentVariable = .null := hnull
    rw [run_bind, run_context]
    simp only [hsame]
    rfl
  · rw [← succeeds_render_iff, Succeeds, Succeeds]
    simp only [renderResponse_eq_ok_iff rfl hnull, ← exists_resolvePath_iff hdocument, ← exists_fill_ofText_iff]
    constructor
    · rintro ⟨r, first, hfirst, hr⟩
      refine ⟨⟨first, hfirst⟩, fun other hother _ => ?_⟩
      rw [hfirst, Except.ok.injEq] at hother
      exact ⟨r, hother ▸ hr⟩
    · rintro ⟨⟨first, hfirst⟩, hpaths⟩
      obtain ⟨r, hr⟩ := hpaths first hfirst hnull
      exact ⟨r, first, hfirst, hr⟩

/-- There is a call that replies exactly if all its templates can be filled in. -/
theorem succeeds_replyTo_iff (hdocument : (sc.context.get documentVariable).IsDocument) :
    Succeeds (replyTo d m url r) sc ↔ CanReply m sc d := by
  have hcaption : ∀ (call : Option Text → Call) k, Succeeds (
      if orElse d.replyKind "text" = "image" then do return call (← renderOptional m d.imageText)
      else pure (call none)) (sc.rolled k) ↔ (orElse d.replyKind "text" = "image" → Fillable m sc d.imageText) := by
    intro call k
    split
    · next himage =>
        rw [imp_iff_right himage, ← fillable_rolled_iff k, ← succeeds_render_iff]
        exact ((rolls_renderOptional m _).succeeds_bind_of fun _ _ => succeeds_pure _ _).trans
          ((rolls_render m _).succeeds_bind_of fun _ _ => succeeds_pure _ _)
    · next hother => exact iff_of_true (succeeds_pure _ _) fun himage => absurd himage hother
  rw [canReply_iff, ← and_assoc]
  by_cases hempty : d.reply = []
  · -- there is nothing in an empty template
    have hnothing : Fillable m sc d.reply ∧ ∀ first, ((render m d.reply).run.run sc).1 = .ok first →
        sc.context.get documentVariable ≠ .null → ∀ i w, first.TokenAt i w → IsPath w →
          ¬ (sc.context.get documentVariable).Stumbles (Text.splitChar '.' w.trim) := by
      rw [hempty]
      refine ⟨fun hmem => absurd hmem List.not_mem_nil, ?_⟩
      rintro first ⟨⟩ - i w hw
      cases hw.opens
    rw [and_iff_right hnothing, replyTo, if_pos (List.isEmpty_iff.mpr hempty)]
    exact hcaption _ 0
  · rw [replyTo, if_neg (by rwa [List.isEmpty_iff]), ← succeeds_renderResponse_iff hdocument]
    exact (rolls_renderResponse m d.reply).succeeds_bind_iff fun t k => hcaption _ k

/-! ## The action -/

/-- The request of an action, behind its value. -/
def prepare (d : ActionData) (m : Message) : Act Web.Request := do
  let _ ← render m d.value
  request d m

/-- What is done about an answer. -/
def attend (o : Outlet) (d : ActionData) (m : Message) (url : Text) : Web.Answer → Act Unit
  | .timeout _ => tell o (.reply (failureReport timeoutText))
  | .failure reason => tell o (.reply (failureReport reason))
  | .response r => replyToResponse o d m url r

theorem rolls_prepare (d : ActionData) (m : Message) : Rolls (prepare d m) :=
  (rolls_render m _).bind fun _ => rolls_request d m

theorem succeeds_prepare_iff : Succeeds (prepare d m) sc ↔ CanAsk m sc d := by
  rw [canAsk_iff, ← succeeds_render_iff, ← succeeds_request_iff]
  refine (rolls_render m d.value).succeeds_bind_iff fun value k => ?_
  rw [succeeds_request_iff, succeeds_request_iff]
  simp only [fillable_rolled_iff]

/-- The action makes its request and attends to the answer. -/
theorem run_act_askService {runner : Runner} (hkind : d.kind = "custom_api")
    (hhandled : runner.handled.contains "custom_api" = false) : (act runner d m).run.run sc =
      match (prepare d m).run.run sc with
      | (.error fault, sc') => (.error fault, sc')
      | (.ok q, sc') =>
        let (answer, w) := sc'.world.askWeb q
        (attend runner.outlet d m q.url answer).run.run { sc' with world := w } := by
  have hname : orElse d.kind "reply_text" = "custom_api" := by
    rw [hkind]
    rfl
  have hword : Fields.get? ActionKind.words "custom_api" = some .askService := rfl
  rw [act, hname]
  simp only [hhandled, Bool.false_eq_true, if_false, hword]
  rw [prepare, run_bind, run_bind]
  rcases (render m d.value).run.run sc with ⟨fault | value, sc'⟩
  · rfl
  · dsimp only
    rw [actAs, askService, run_bind]
    rcases (request d m).run.run sc' with ⟨fault | q, sc''⟩
    · rfl
    · dsimp only
      rw [run_bind, run_world]
      rcases hasked : sc''.world.askWeb q with ⟨answer, w⟩
      simp only [hasked]
      cases answer <;> rfl

end Act

/-- The scene behind a call, which the outlet carries out. Whatever comes of it, the run goes on. -/
def Scene.told (sc : Scene) (o : Outlet) (c : Call) : Scene := { sc with world := (o.perform c sc.world).2 }

/-- An outlet that records notes the call, once, also if it refuses it. -/
theorem Scene.effects_told (sc : Scene) (refused : List Text) (target : Option Target) (c : Call) :
    (sc.told (.recorder refused target) c).world.effects = sc.world.effects ++ [.asked c target] := by
  unfold told Outlet.perform
  dsimp only
  split
  · rfl
  · split
    · rfl
    · rfl

namespace Act

variable {m : Message} {sc : Scene} {d : ActionData}

theorem run_tell (o : Outlet) (c : Call) (sc : Scene) : (tell o c).run.run sc = (.ok (), sc.told o c) := rfl

/-- A response is kept, and then there is the call that replies to it. -/
theorem run_attend_response (o : Outlet) (m : Message) (sc : Scene) {url : Text} {r : Web.Response} {kept : Scene}
    (hway : orElse d.replyKind "text" ∈ replyWays)
    (hkept : kept = { sc with context := sc.context.keeping (ResponseKind.ofLabel d.responseKind) url r }) :
    (attend o d m url (.response r)).run.run sc =
      match (replyTo d m url r).run.run kept with
      | (.ok call, sc') => (.ok (), sc'.told o call)
      | (.error fault, sc') => (.error fault, sc') := by
  rw [attend, replyToResponse_eq hway, run_bind, run_keepResponse, ← hkept]
  dsimp only
  rw [run_bind]
  rcases (replyTo d m url r).run.run kept with ⟨fault | call, sc'⟩
  · rfl
  · rfl

theorem isDocument_responseParts (kind : ResponseKind) (url : Text) (r : Web.Response) :
    (responseParts kind url r).1.IsDocument := by
  cases kind with
  | document =>
      rw [responseParts]
      rcases hdocument : r.document? with _ | v
      · exact .null
      · obtain ⟨t, -, hread⟩ := Option.bind_eq_some_iff.mp hdocument
        exact Json.isDocument_of_read? hread
  | bytes => exact .null
  | text => exact .null

/-- An action that asks a web service fails before the request if this cannot be made of its settings. Otherwise it
makes one request. If no response comes, one call reports it, and no variable is changed. If one comes, the variables
describe it, and one call replies to it, unless a template of the reply cannot be filled in: then the action fails. -/
theorem act_answered (runner : Runner) (m : Message) (sc : Scene) (hkind : d.kind = "custom_api")
    (hhandled : runner.handled.contains "custom_api" = false) (hway : orElse d.replyKind "text" ∈ replyWays) :
    (¬ CanAsk m sc d → ∃ fault k, (act runner d m).run.run sc = (.error fault, sc.rolled k)) ∧
    (CanAsk m sc d → ∃ q k, (prepare d m).run.run sc = (.ok q, sc.rolled k) ∧
      ∀ answer w, (sc.rolled k).world.askWeb q = (answer, w) →
        w.effects = sc.world.effects ++ [.requested q] ∧
        match answer with
        | .timeout _ => (act runner d m).run.run sc =
            (.ok (), Scene.told ⟨w, sc.context⟩ runner.outlet (.reply ("API调用失败: " ++ timeoutText)))
        | .failure reason => (act runner d m).run.run sc =
            (.ok (), Scene.told ⟨w, sc.context⟩ runner.outlet (.reply ("API调用失败: " ++ orElse reason timeoutText)))
        | .response r =>
          let kind := ResponseKind.ofLabel d.responseKind
          let kept : Scene := ⟨w, sc.context.keeping kind q.url r⟩
          kept.context.Describes kind q.url r ∧
          (¬ CanReply m kept d → ∃ fault j, (act runner d m).run.run sc = (.error fault, kept.rolled j)) ∧
          (CanReply m kept d → ∃ call j, (replyTo d m q.url r).run.run kept = (.ok call, kept.rolled j) ∧
            (act runner d m).run.run sc = (.ok (), (kept.rolled j).told runner.outlet call))) := by
  rw [run_act_askService hkind hhandled, ← succeeds_prepare_iff]
  constructor
  · intro hnone
    obtain ⟨fault, k, hrun⟩ := (rolls_prepare d m).exists_fault hnone
    exact ⟨fault, k, by rw [hrun]⟩
  · intro hsome
    obtain ⟨q, k, hrun⟩ := (rolls_prepare d m).exists_run hsome
    refine ⟨q, k, hrun, fun answer w hanswer => ⟨?_, ?_⟩⟩
    · have heffects := World.effects_askWeb (sc.rolled k).world q
      rw [hanswer] at heffects
      exact heffects
    · simp only [hrun, hanswer]
      cases answer with
      | timeout _ => rfl
      | failure reason => rfl
      | response r =>
          have hdescribes := sc.context.describes_keeping (ResponseKind.ofLabel d.responseKind) q.url r
          have hdocument : ((sc.context.keeping (ResponseKind.ofLabel d.responseKind) q.url r).get
              documentVariable).IsDocument := by
            rw [hdescribes.document]
            exact isDocument_responseParts _ _ _
          -- the request has changed the dice and the surroundings only
          have hattend := run_attend_response runner.outlet m { sc.rolled k with world := w } hway
            (show Scene.mk w (sc.context.keeping _ q.url r) = _ from rfl)
          refine ⟨hdescribes, fun hnone => ?_, fun hsome => ?_⟩
          · obtain ⟨fault, j, hreply⟩ :=
              (rolls_replyTo d m q.url r).exists_fault (mt (succeeds_replyTo_iff hdocument).mp hnone)
            exact ⟨fault, j, hattend.trans (by rw [hreply])⟩
          · obtain ⟨call, j, hreply⟩ :=
              (rolls_replyTo d m q.url r).exists_run ((succeeds_replyTo_iff hdocument).mpr hsome)
            exact ⟨call, j, hreply, hattend.trans (by rw [hreply])⟩

/-- An action that asks a service and replies with what is found at a superscript. -/
def sampleAsking : ActionData :=
  .ofFields
    [("action_type", .text "custom_api"), ("api_url", .text "http://a"), ("api_reply", .text (Piece.written "²"))]

/-- A scene in which a service will give an answer. -/
def sampleAnswer (answer : Web.Answer) : Scene := ⟨{ sampleWorld .empty with web := [answer] }, .start []⟩

/-- No answer comes in time. -/
theorem act_answered_timeout :
    ((act ⟨.recorder [] none, [], "workflow"⟩ sampleAsking ⟨.ofUser "u", "hi"⟩).run.run
        (sampleAnswer (.timeout []))).1 = .ok () ∧
      ∃ q, ((act ⟨.recorder [] none, [], "workflow"⟩ sampleAsking ⟨.ofUser "u", "hi"⟩).run.run
        (sampleAnswer (.timeout []))).2.world.effects = [.requested q, .asked (.reply "API调用失败: 请求超时") none] := by
  have hask : CanAsk ⟨.ofUser "u", "hi"⟩ (sampleAnswer (.timeout [])) sampleAsking := by
    have hplain : ∀ t : Text, .scalar '{' ∉ t → Fillable ⟨.ofUser "u", "hi"⟩ (sampleAnswer (.timeout [])) t :=
      fun t hnone hmem => absurd hmem hnone
    refine ⟨hplain _ (by decide +kernel), hplain _ (by decide +kernel), ?_, fun _ _ => hplain _ (by decide +kernel)⟩
    have hnone : Headers.ofText sampleAsking.headers = .ok [] := by decide +kernel
    rw [hnone]
    rintro _ ⟨⟩ header ⟨⟩
  obtain ⟨q, k, -, hanswered⟩ := (act_answered ⟨.recorder [] none, [], "workflow"⟩ ⟨.ofUser "u", "hi"⟩
    (sampleAnswer (.timeout [])) (by decide +kernel) (by decide +kernel) (by decide +kernel)).2 hask
  obtain ⟨heffects, hrun⟩ := hanswered (.timeout []) _ rfl
  rw [hrun]
  refine ⟨rfl, q, ?_⟩
  rw [Scene.effects_told, heffects]
  rfl

/-- The response is a list, in which a superscript is taken for a position. Nothing is said of it to the chat. -/
theorem act_stumbles :
    let after := (act ⟨.recorder [] none, [], "workflow"⟩ sampleAsking ⟨.ofUser "u", "hi"⟩).run.run
      (sampleAnswer (.response ⟨200, [], [0x5B, 0x31, 0x5D]⟩))
    after.1 = .error .notANumber ∧ after.2.world.effects.map (fun e => e.request?.isSome) = [true] := by
  decide +kernel

end Act

end ChatFlow
