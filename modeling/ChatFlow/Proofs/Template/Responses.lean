import ChatFlow.Proofs.Template.Names

/-!
# Templates for responses

A template for a response is gone through twice: the tokens that the first pass leaves are paths into the document of
the response. The second pass reads all of what the first one comes to, so a token that was filled in, or that arose
beside what was filled in, is taken for a path too. Where neither happens, the two passes are one.

* `Names.valueOrPath`: what a token becomes when both passes are made at once.
* `Text.IsApart`: the first pass leaves no tokens but some of the template.
* `Act.renderResponse_fills`: what the two passes come to, and when they are one.
-/

namespace ChatFlow

/-- What a token becomes when both passes are made at once: what it stands for, and otherwise what is found at the path;
reserved names and names of captures stay. -/
def Names.valueOrPath (names : Names) (document : Value) (w : Text) : Except Fault Text :=
  match names.resolve w with
  | .error fault => .error fault
  | .ok (some x) => .ok x
  | .ok none =>
    if Act.reservedPaths.contains w || Text.startsWith w "$" then .ok (Piece.written w)
    else document.extract w.trim >>= Value.display

variable {t r w : Text}

namespace Piece

variable {resolve path : Text → Except Fault (Option Text)} {pieces : List Piece}

/-! ## Two passes over the pieces -/

/-- What the first pass makes of a piece: a token that is resolved gives way to single code points. -/
def settle (resolve : Text → Except Fault (Option Text)) : Piece → List Piece
  | plain c => [plain c]
  | token w =>
    match resolve w with
    | .ok (some x) => x.map plain
    | _ => [token w]

/-- The tokens that are not resolved are looked up in the second place. -/
def orElse (resolve path : Text → Except Fault (Option Text)) (w : Text) : Except Fault (Option Text) :=
  match resolve w with
  | .ok none => path w
  | found => found

/-- Code points are kept. -/
theorem fill_map_plain_append (x : Text) (rest : List Piece) :
    fill path (x.map plain ++ rest) = (fill path rest).map (x ++ ·) := by
  induction x with
  | nil =>
      show fill path rest = _
      rcases fill path rest with fault | r
      · rfl
      · rfl
  | cons c x ih =>
      rw [List.map_cons, List.cons_append, fill_plain, ih]
      rcases fill path rest with fault | r
      · rfl
      · rfl

/-- Where the first pass comes to an end, the second one over what it leaves is both at once. -/
theorem fill_settle (path : Text → Except Fault (Option Text)) {first : Text} (h : fill resolve pieces = .ok first) :
    (pieces.flatMap (settle resolve)).flatMap source = first ∧
      fill path (pieces.flatMap (settle resolve)) = fill (orElse resolve path) pieces := by
  induction pieces generalizing first with
  | nil =>
      cases h
      exact ⟨rfl, rfl⟩
  | cons p pieces ih =>
      rw [List.flatMap_cons, List.flatMap_append]
      rcases p with c | w
      · rw [fill_plain] at h
        rcases hrest : fill resolve pieces with fault | rest
        · rw [hrest] at h
          cases h
        · rw [hrest] at h
          obtain ⟨hsource, hfill⟩ := ih hrest
          refine ⟨?_, ?_⟩
          · rw [hsource]
            exact Except.ok.inj h
          · rw [settle, List.singleton_append, fill_plain, fill_plain, hfill]
      · rw [fill_token] at h
        rcases hw : resolve w with fault | found
        · rw [valueOr, hw] at h
          cases h
        rcases hrest : fill resolve pieces with fault | rest
        · rw [valueOr, hw, hrest] at h
          cases h
        rw [valueOr, hw, hrest] at h
        obtain ⟨hsource, hfill⟩ := ih hrest
        rcases found with _ | x
        · -- the token is left, and both look-ups go to the second place
          refine ⟨?_, ?_⟩
          · rw [settle, hw, hsource, ← Except.ok.inj h]
            simp [source]
          · rw [settle, hw, List.singleton_append, fill_token, fill_token, hfill, valueOr, valueOr, orElse, hw]
        · refine ⟨?_, ?_⟩
          · rw [settle, hw, hsource, flatMap_source_plain]
            exact Except.ok.inj h
          · rw [settle, hw, fill_map_plain_append, fill_token, hfill, valueOr, orElse, hw]
            rfl

/-- Filling comes to an end where the look-up of each token does. -/
theorem exists_fill_iff : (∃ r, fill resolve pieces = .ok r) ↔ ∀ w, token w ∈ pieces → ∃ x, resolve w = .ok x := by
  induction pieces with
  | nil =>
      constructor
      · rintro - w hw
        cases hw
      · intro
        exact ⟨[], rfl⟩
  | cons p pieces ih =>
      have hstep : (∃ r, fill resolve (p :: pieces) = .ok r) ↔
          (∀ w, p = token w → ∃ x, resolve w = .ok x) ∧ ∃ r, fill resolve pieces = .ok r := by
        rcases p with c | w
        · rw [fill_plain]
          rcases fill resolve pieces with fault | r
          · simp [Except.map]
          · simp [Except.map]
        · rw [fill_token, valueOr]
          rcases hw : resolve w with fault | x
          · simp [Except.map, hw]
          · rcases fill resolve pieces with fault | r
            · simp [Except.map]
            · simp [Except.map, hw]
      rw [hstep, ih]
      constructor
      · rintro ⟨hfirst, hrest⟩ w hw
        rcases List.mem_cons.mp hw with heq | hmem
        · exact hfirst w heq.symm
        · exact hrest w hmem
      · intro hall
        constructor
        · intro w hw
          exact hall w (hw ▸ List.mem_cons_self)
        · intro w hw
          exact hall w (List.mem_cons_of_mem p hw)

/-- A token that has a value in the one place or the other has one in the first place, or has none there. -/
theorem exists_fill_of_orElse (h : fill (orElse resolve path) pieces = .ok r) :
    ∃ first, fill resolve pieces = .ok first := by
  rw [exists_fill_iff]
  intro w hw
  obtain ⟨x, hx⟩ := exists_fill_iff.mp ⟨r, h⟩ w hw
  rw [orElse] at hx
  split at hx
  · next hnone => exact ⟨none, hnone⟩
  · exact ⟨x, hx⟩

/-- Pieces without a single opening brace are those of the text that they spell out. -/
theorem ofText_flatMap_source (hplain : plain (.scalar '{') ∉ pieces) (hnames : ∀ w, token w ∈ pieces → w.IsName) :
    ofText (pieces.flatMap source) = pieces := by
  induction pieces with
  | nil => rfl
  | cons p pieces ih =>
      have hrest := ih (fun h => hplain (List.mem_cons_of_mem p h)) fun w hw => hnames w (List.mem_cons_of_mem p hw)
      unfold ofText at hrest ⊢
      rw [List.flatMap_cons]
      rcases p with c | w
      · have hc : c ≠ .scalar '{' := by
          rintro rfl
          exact hplain List.mem_cons_self
        rw [source, List.singleton_append, scan, if_neg hc, hrest]
      · rw [source, scan_written (hnames w List.mem_cons_self), hrest]

end Piece

/-! ## When two passes are one -/

/-- The first pass leaves nothing but tokens of the template: no token stands in what was filled in, and none arises
beside it. -/
def Text.IsApart (resolve : Text → Except Fault (Option Text)) (t : Text) : Prop :=
  let left := (Piece.ofText t).flatMap (Piece.settle resolve)
  Piece.Splits left (left.flatMap Piece.source)

/-- Then the second pass over what the first one comes to is both passes at once. -/
theorem Text.IsApart.fill_ofText {resolve : Text → Except Fault (Option Text)} {first : Text} (h : t.IsApart resolve)
    (path : Text → Except Fault (Option Text)) (hfirst : Piece.fill resolve (Piece.ofText t) = .ok first) :
    Piece.fill path (Piece.ofText first) = Piece.fill (Piece.orElse resolve path) (Piece.ofText t) := by
  obtain ⟨hsource, hfill⟩ := Piece.fill_settle path hfirst
  have hleft := Piece.splits_iff.mp h
  rw [hsource] at hleft
  rw [hleft, hfill]

/-- No others are left if all opening braces of the template open tokens, and what is filled in has none. -/
theorem Text.isApart_of_no_brace {resolve : Text → Except Fault (Option Text)}
    (htemplate : Piece.plain (.scalar '{') ∉ Piece.ofText t)
    (hvalues : ∀ i w x, t.TokenAt i w → resolve w = .ok (some x) → .scalar '{' ∉ x) : t.IsApart resolve := by
  rw [IsApart, Piece.splits_iff]
  have hsettled : ∀ p ∈ (Piece.ofText t).flatMap (Piece.settle resolve),
      p ≠ .plain (.scalar '{') ∧ ∀ w, p = .token w → w.IsName := by
    intro p hp
    obtain ⟨q, hq, hpq⟩ := List.mem_flatMap.mp hp
    rcases q with c | w
    · obtain rfl := List.mem_singleton.mp hpq
      exact ⟨fun heq => htemplate (heq ▸ hq), fun w hw => nomatch hw⟩
    · obtain ⟨i, hi⟩ := (Piece.splits_ofText t).exists_tokenAt hq
      rw [Piece.settle] at hpq
      split at hpq
      · next x hx =>
          obtain ⟨c, hc, rfl⟩ := List.mem_map.mp hpq
          refine ⟨?_, fun w hw => nomatch hw⟩
          -- an opening brace would be one of the value
          rintro ⟨⟩
          exact hvalues i w x hi hx hc
      · obtain rfl := List.mem_singleton.mp hpq
        refine ⟨nofun, ?_⟩
        rintro _ ⟨⟩
        exact hi.1
  apply Piece.ofText_flatMap_source
  · intro hmem
    exact (hsettled _ hmem).1 rfl
  · intro w hw
    exact (hsettled _ hw).2 w rfl

namespace Names

variable {names : Names} {document : Value}

theorem valueOrPath_eq (names : Names) (document : Value) :
    names.valueOrPath document = Piece.valueOr (Piece.orElse names.resolve (Act.resolvePath document)) := by
  funext w
  rw [valueOrPath, Piece.valueOr, Piece.orElse]
  rcases names.resolve w with fault | found | x
  · rfl
  · simp only [Act.resolvePath]
    split
    · rfl
    · rcases document.extract w.trim with fault | v
      · rfl
      · exact (Piece.map_getD_some v.display _).symm
  · rfl

theorem isFilled_valueOrPath_iff : t.IsFilled (names.valueOrPath document) r ↔
    Piece.fill (Piece.orElse names.resolve (Act.resolvePath document)) (Piece.ofText t) = .ok r := by
  rw [valueOrPath_eq, Piece.fill_eq_ok_iff]

end Names

namespace Act

/-- What is looked up once more is all of what the first pass comes to. -/
theorem renderResponse_eq_ok_iff {m : Message} {sc : Scene} {document : Value}
    (hdocument : sc.context.get documentVariable = document) (hnull : document ≠ .null) :
    ((renderResponse m t).run.run sc).1 = .ok r ↔
      ∃ first, ((render m t).run.run sc).1 = .ok first ∧
        Piece.fill (resolvePath document) (Piece.ofText first) = .ok r := by
  obtain ⟨k, hrolled⟩ := exists_rolled m t sc
  rw [renderResponse, run_bind]
  rcases hrun : (render m t).run.run sc with ⟨fault | first, sc'⟩
  · simp
  · -- the context is the one before, with the document in it
    rw [hrun] at hrolled
    obtain rfl : sc' = sc.rolled k := hrolled
    have hsame : (sc.rolled k).context.get documentVariable = document := hdocument
    simp only [run_bind, run_context, Except.ok.injEq, exists_eq_left', hsame]
    rw [run_lift]

/-- A template for a response is filled in from the places of the scene, and what this comes to is filled in from the
document. If the first pass leaves nothing but tokens of the template, each token gives way to what it stands for, or
else to what is found at the path, all at once. -/
theorem renderResponse_fills (m : Message) (t r : Text) (sc : Scene) {document : Value}
    (hclock : sc.world.clock.timestamp.isOk = true) (hdocument : sc.context.get documentVariable = document)
    (hnull : document ≠ .null) :
    (((renderResponse m t).run.run sc).1 = .ok r ↔
      ∃ first, t.IsFilled (Piece.valueOr (Names.ofScene m sc).resolve) first ∧
        first.IsFilled (Piece.valueOr (resolvePath document)) r) ∧
    (t.IsApart (Names.ofScene m sc).resolve →
      (((renderResponse m t).run.run sc).1 = .ok r ↔ t.IsFilled ((Names.ofScene m sc).valueOrPath document) r)) ∧
    (Piece.plain (.scalar '{') ∉ Piece.ofText t →
      (∀ i w x, t.TokenAt i w → (Names.ofScene m sc).resolve w = .ok (some x) → .scalar '{' ∉ x) →
      t.IsApart (Names.ofScene m sc).resolve) := by
  have htwo : ((renderResponse m t).run.run sc).1 = .ok r ↔
      ∃ first, Piece.fill (Names.ofScene m sc).resolve (Piece.ofText t) = .ok first ∧
        Piece.fill (resolvePath document) (Piece.ofText first) = .ok r := by
    rw [renderResponse_eq_ok_iff hdocument hnull]
    simp only [render_eq_ok_iff hclock, Piece.fill_eq_ok_iff]
  refine ⟨?_, ?_, Text.isApart_of_no_brace⟩
  · rw [htwo]
    simp only [Piece.fill_eq_ok_iff]
  · intro hapart
    rw [htwo, Names.isFilled_valueOrPath_iff]
    constructor
    · rintro ⟨first, hfirst, hsecond⟩
      rw [← hapart.fill_ofText _ hfirst]
      exact hsecond
    · intro hboth
      obtain ⟨first, hfirst⟩ := Piece.exists_fill_of_orElse hboth
      refine ⟨first, hfirst, ?_⟩
      rw [hapart.fill_ofText _ hfirst]
      exact hboth

/-- The document of a response. -/
def sampleDocument : Value := .object [("ok", .text "yes"), ("items", .list [.int 1, .int 2])]

/-- A scene with a response and a variable. -/
def sampleResponse : Scene :=
  ⟨sampleWorld .empty, ⟨[], [(documentVariable, sampleDocument), ("greeting", .text "hi")], [], []⟩⟩

/-- A template with a variable, a path, a reserved name and an absent capture. -/
def sampleReply : Text :=
  Piece.written "greeting" ++ Piece.written "items[1]" ++ Piece.written "api_status" ++ Piece.written "$1"

theorem renderResponse_fills_reply :
    sampleReply.IsFilled ((Names.ofScene ⟨.ofUser "u", "go"⟩ sampleResponse).valueOrPath sampleDocument)
      ("hi2" ++ Piece.written "api_status" ++ Piece.written "$1") := by
  obtain ⟨-, hone, hapart⟩ := renderResponse_fills ⟨.ofUser "u", "go"⟩ sampleReply
    ("hi2" ++ Piece.written "api_status" ++ Piece.written "$1") sampleResponse (by decide +kernel) rfl nofun
  refine (hone (hapart (by decide +kernel) ?_)).mp (by decide +kernel)
  intro i w x hw hx
  have hvalues : ∀ w ∈ sampleReply.tokens, ∀ x ∈
      ((Names.ofScene ⟨.ofUser "u", "go"⟩ sampleResponse).resolve w).toOption.join, CodePoint.scalar '{' ∉ x := by
    decide +kernel
  exact hvalues w hw.mem_tokens x (by rw [hx]; rfl)

/-- The message has a token for its text. It is filled in, and then it is taken for a path. -/
theorem renderResponse_expands_message :
    (Piece.written "content").IsFilled
        ((Names.ofScene ⟨.ofUser "u", Piece.written "ok"⟩ sampleResponse).valueOrPath sampleDocument)
        (Piece.written "ok") ∧
      ((renderResponse ⟨.ofUser "u", Piece.written "ok"⟩ (Piece.written "content")).run.run sampleResponse).1 =
        .ok "yes" := by
  rw [Names.isFilled_valueOrPath_iff]
  decide +kernel

end Act

end ChatFlow
