import ChatFlow.Proofs.Run.Counting
import ChatFlow.Proofs.Text.Scalars
import ChatFlow.Proofs.Unicode.Ascii

/-!
# What is shown of stored values

A storage node that sets a value sets its result variable to the text that it was given, and stores what the text stands
for. So the variable shows the text at first, and what was stored when it is read again. The two are the same unless the
text writes a number, which is shown in its usual form then.

* `Scene.shown`: what is shown of a token.
* `Text.IsOrdinary`: names of variables that are no other names; `Scene.shown_ordinary` says what they show.
* `Store.KeepsAt`: a later store in which a value has been left as it was.
* `Storing.shown_of_set`: what is shown of a text that a node has stored.
-/

namespace ChatFlow

/-- What is shown of a token in a scene. -/
def Scene.shown (sc : Scene) (m : Message) (w : Text) : Except Fault Text :=
  ((Act.render m (Piece.written w)).run.run sc).1

/-- The built-in names. -/
def Message.builtinNames : List Text :=
  ["user_id", "group_id", "message_id", "content", "message", "date", "today", "time", "datetime", "timestamp", "year",
   "month", "day", "hour", "minute", "weekday", "weekday_cn", "random", "random100", "random10", "random6", "at_user"]

/-- The name of a variable: an identifier that is not built in, and not the name of the variable that is not seen. -/
structure Text.IsOrdinary (r : Text) : Prop where
  identifier : r.isIdentifier = true
  notBuiltin : r ∉ Message.builtinNames
  seen : r ≠ Context.hiddenVariable

variable {m : Message} {sc : Scene} {r w shown : Text} {v : Value}

theorem Message.names_builtins (m : Message) (w : World) : (m.builtins w).names = builtinNames := rfl

/-! ## Names of variables -/

/-- Of ASCII, names have letters, digits and the low line only. -/
theorem CodePoint.ne_of_isName {c : CodePoint} {ch : Char} (hascii : ch.toNat < 128)
    (hother : ¬ ((48 ≤ ch.toNat ∧ ch.toNat ≤ 57) ∨ (65 ≤ ch.toNat ∧ ch.toNat ≤ 90) ∨ ch.toNat = 95 ∨
      (97 ≤ ch.toNat ∧ ch.toNat ≤ 122))) (h : c.isNameStart = true ∨ c.isNameRest = true) : c ≠ .scalar ch := by
  rintro rfl
  rcases h with h | h
  · rw [isNameStart, toNat, Unicode.nameStartRuns_contains hascii] at h
    omega
  · rw [isNameRest, toNat, Unicode.nameRestRuns_contains hascii] at h
    omega

namespace Text.IsOrdinary

/-- It begins like a name and goes on like one. -/
theorem exists_cons (h : r.IsOrdinary) : ∃ c rest, r = c :: rest ∧
    ∀ d ∈ r, d.isNameStart = true ∨ d.isNameRest = true := by
  have hname := h.identifier
  cases r with
  | nil => cases hname
  | cons c rest =>
      rw [isIdentifier, Bool.and_eq_true, List.all_eq_true] at hname
      refine ⟨c, rest, rfl, List.forall_mem_cons.mpr ⟨.inl hname.1, ?_⟩⟩
      exact fun d hd => .inr (hname.2 d hd)

theorem isName (h : r.IsOrdinary) : r.IsName := by
  obtain ⟨c, rest, rfl, hparts⟩ := h.exists_cons
  refine ⟨List.cons_ne_nil c rest, fun d hd => ⟨?_, ?_⟩⟩
  · exact CodePoint.ne_of_isName (by decide) (by decide) (hparts d hd)
  · exact CodePoint.ne_of_isName (by decide) (by decide) (hparts d hd)

/-- It is not taken for a capture. -/
theorem captureDigits?_eq_none (h : r.IsOrdinary) : Names.captureDigits? r = none := by
  obtain ⟨c, rest, rfl, hparts⟩ := h.exists_cons
  have hdollar : c ≠ .scalar '$' := CodePoint.ne_of_isName (by decide) (by decide) (hparts c List.mem_cons_self)
  unfold Names.captureDigits?
  split
  · next hsame =>
      cases hsame
      exact absurd rfl hdollar
  · rfl

end Text.IsOrdinary

theorem Context.get?_visible {c : Context} (h : r ≠ hiddenVariable) : c.visible.get? r = c.vars.get? r :=
  Fields.get?_erase_of_ne c.vars h

/-! ## What tokens show -/

namespace Scene

/-- A token shows what it is looked up as. -/
theorem shown_eq (hclock : sc.world.clock.timestamp.isOk = true) (hw : w.IsName) :
    sc.shown m w = Piece.valueOr (Names.ofScene m sc).resolve w := by
  have hbrace : .scalar '{' ∈ Piece.written w := List.mem_cons_self
  have hpieces : Piece.ofText (Piece.written w) = [.token w] := by
    have hscan := Piece.scan_written hw []
    rw [List.append_nil] at hscan
    exact hscan
  rw [shown, Act.run_render_of_brace m hclock hbrace, hpieces, Piece.fill_token]
  rcases Piece.valueOr (Names.ofScene m sc).resolve w with fault | x
  · rfl
  · exact congrArg Except.ok (List.append_nil x)

theorem get?_builtins_eq_none (m : Message) (sc : Scene) (hw : w ∉ Message.builtinNames) :
    (Names.ofScene m sc).builtins.get? w = none := by
  rw [Fields.get?_eq_none_iff]
  exact hw

/-- A variable shows its value. -/
theorem shown_ordinary (hclock : sc.world.clock.timestamp.isOk = true) (hr : r.IsOrdinary)
    (hv : sc.context.vars.get? r = some v) : sc.shown m r = v.display := by
  have hvars : (Names.ofScene m sc).vars.get? r = some v := (Context.get?_visible hr.seen).trans hv
  rw [shown_eq hclock hr.isName, Piece.valueOr]
  simp only [Names.resolve, get?_builtins_eq_none m sc hr.notBuiltin, hr.captureDigits?_eq_none, hvars]
  exact Piece.map_getD_some v.display _

theorem dropPrefix?_append (p t : Text) : Text.dropPrefix? p (p ++ t) = some t := by
  induction p with
  | nil => cases t <;> rfl
  | cons c p ih => rw [List.cons_append, Text.dropPrefix?, if_pos rfl, ih]

/-- The token of a stored value shows it, unless a variable has this name. -/
theorem shown_stored {key : Text} (hclock : sc.world.clock.timestamp.isOk = true) (hkey : key.IsName)
    (hvars : sc.context.visible.get? (Names.storedMark ++ key) = none)
    (hread : sc.world.store.read (.user m.event.userId) key (.text []) = .ok v) :
    sc.shown m (Names.storedMark ++ key) = v.display := by
  have hname : (Names.storedMark ++ key).IsName := by
    have hmark : ∀ c ∈ Names.storedMark, c ≠ .scalar '{' ∧ c ≠ .scalar '}' := by decide
    refine ⟨List.append_ne_nil_of_right_ne_nil _ hkey.1, fun c hc => ?_⟩
    exact (List.mem_append.mp hc).elim (hmark c) (hkey.2 c)
  have hbuiltin : Names.storedMark ++ key ∉ Message.builtinNames := by
    -- no built-in name begins like the mark
    have hheads : ∀ n ∈ Message.builtinNames, n.head? ≠ some (.scalar 's') := by decide
    exact fun hmem => hheads _ hmem rfl
  obtain ⟨c, rest, rfl⟩ := List.exists_cons_of_ne_nil hkey.1
  rw [shown_eq hclock hname, Piece.valueOr]
  have hdigits : Names.captureDigits? (Names.storedMark ++ c :: rest) = none := rfl
  have hvars' : (Names.ofScene m sc).vars.get? (Names.storedMark ++ c :: rest) = none := hvars
  have hstored : (Names.ofScene m sc).stored (c :: rest) = .ok v := hread
  simp only [Names.resolve, get?_builtins_eq_none m sc hbuiltin, hdigits, hvars', dropPrefix?_append]
  rw [hstored]
  exact Piece.map_getD_some v.display _

end Scene

/-! ## Setting and getting -/

/-- The other store, which has its table, holds the same at the place. -/
structure Store.KeepsAt (s other : Store) (p : Place) : Prop where
  intact : other.intact = true
  same : other.contents p = s.contents p

/-- What is stored is read, whatever stands in for nothing. -/
theorem Store.KeepsAt.read_eq {s other : Store} {p : Place} (h : s.KeepsAt other p) (hplace : p.isEncodable = true)
    (hv : s.contents p = some v) (hnull : v ≠ .null) (standIn : Value) : other.read p.1 p.2 standIn = .ok v := by
  rw [Store.read_eq h.intact hplace, Contents.valueOr, h.same, hv]
  cases v with
  | null => exact absurd rfl hnull
  | _ => rfl

namespace Act

variable {owner : Owner} {key text : Text} {other : Value}

theorem run_doShared_set (hscalar : text.scalar = .ok v)
    (hwrite : sc.world.store.write owner key v = (true, sc.world.store.put owner key (Json.text .line v))) :
    (doShared .set owner key text other).run.run sc = (.ok (.text text),
      { sc with world := { sc.world with store := sc.world.store.put owner key (Json.text .line v) } }) := by
  rw [doShared, run_bind, run_lift, hscalar]
  dsimp only
  rw [run_bind]
  have hstored : (storeValue owner key v).run.run sc = (.ok (),
      { sc with world := { sc.world with store := (sc.world.store.write owner key v).2 } }) := rfl
  rw [hstored, hwrite]
  rfl

theorem run_doShared_get (hread : sc.world.store.read owner key other = .ok v) :
    (doShared .get owner key text other).run.run sc = (.ok v, sc) := by
  rw [doShared, stored, run_bind, run_world]
  dsimp only
  rw [hread]
  rfl

end Act

namespace Storing

variable {c d : Storing} {s : Store} {key text : Text}

/-- A node that sets a value stores what the text stands for, and sets its variable to the text. -/
theorem run_of_set (h : c.FillsIn s .set key text sc) (hintact : s.intact = true)
    (hplace : Place.isEncodable (c.owner, key) = true) (hscalar : text.scalar = .ok v) (hv : v.IsDocument)
    (hencodable : v.isEncodable = true) : c.act.run.run (c.sceneWith s) = (.ok (),
      { world := { sc.world with store := s.put c.owner key (Json.text .line v) },
        context := sc.context.set c.resultVar (.text text) }) := by
  have hstore := h.store_eq
  have hwrite := Store.write_eq (p := (c.owner, key)) hintact hplace hv hencodable
  rw [← hstore] at hwrite
  rw [h.run_eq, Act.run_doShared_set hscalar hwrite, hstore]

/-- A node that gets a value sets its variable to it. -/
theorem run_of_get (h : d.FillsIn s .get key text sc) (hread : s.read d.owner key d.other = .ok v) :
    d.act.run.run (d.sceneWith s) = (.ok (), { sc with context := sc.context.set d.resultVar v }) := by
  rw [← h.store_eq] at hread
  rw [h.run_eq, Act.run_doShared_get hread]

/-- A node that sets a value is visited, with a text that can be encoded, and sets a variable. The variable shows the
text. When the value is read again into the variable, this shows the text as it was unless it writes a number, and the
number in its usual form if it does; and so does the token of the stored value, unless a variable has its name. -/
theorem shown_of_set (h : c.FillsIn s .set key text sc) (hr : c.resultVar.IsOrdinary) (hintact : s.intact = true)
    (hplace : Place.isEncodable (c.owner, key) = true) (hformed : text.isWellFormed = true)
    (hshown : text.IsShownAs shown) :
    ∃ after, c.act.run.run (c.sceneWith s) = (.ok (), after) ∧
      (∀ m, after.world.clock.timestamp.isOk = true → after.shown m c.resultVar = .ok text) ∧
      (∀ (d : Storing) later other sc', d.FillsIn later .get key other sc' → d.owner = c.owner →
        d.resultVar = c.resultVar → after.world.store.KeepsAt later (c.owner, key) →
        ∃ reread, d.act.run.run (d.sceneWith later) = (.ok (), reread) ∧
          ∀ m, reread.world.clock.timestamp.isOk = true → reread.shown m c.resultVar = .ok shown) ∧
      ∀ (m : Message) (seen : Scene), c.owner = .user m.event.userId →
        after.world.store.KeepsAt seen.world.store (c.owner, key) → key.IsName →
        seen.context.visible.get? (Names.storedMark ++ key) = none →
        seen.world.clock.timestamp.isOk = true → seen.shown m (Names.storedMark ++ key) = .ok shown := by
  obtain ⟨v, hscalar, hnull, hv, hencodable, hdisplay⟩ := hshown.exists_scalar
  have hrun := run_of_set h hintact hplace hscalar hv (hencodable hformed)
  have hheld : (s.put c.owner key (Json.text .line v)).contents (c.owner, key) = some v := by
    rw [Store.contents_put s (c.owner, key) hv, Function.update_self]
  refine ⟨_, hrun, fun m hclock => ?_, ?_, ?_⟩
  · exact Scene.shown_ordinary hclock hr (by rw [Context.set, Fields.get?_set, if_pos rfl])
  · intro d later other sc' hd howner hvar hkeeps
    have hread : later.read d.owner key d.other = .ok v := by
      rw [howner]
      exact hkeeps.read_eq hplace hheld hnull d.other
    refine ⟨_, run_of_get hd hread, fun m hclock => ?_⟩
    rw [← hdisplay]
    exact Scene.shown_ordinary hclock hr (by rw [Context.set, Fields.get?_set, if_pos hvar])
  · -- no variable has the name of the token, so it is looked up in the store
    intro m seen howner hkeeps hkey hvars hclock
    rw [← hdisplay]
    refine Scene.shown_stored hclock hkey hvars ?_
    rw [← howner]
    exact hkeeps.read_eq hplace hheld hnull (.text [])

/-- A user sets a value, or gets it. -/
def sampleStoring (op : SharedOp) (value : Text) : Storing :=
  ⟨.user { op := .shared op, key := "k", value := value, resultVar := "r", other := .int 0, extra := [] },
    ⟨.ofUser "u", []⟩, ⟨Runner.sampleWorld, .start []⟩⟩

theorem shown_of_set_fraction :
    let c := sampleStoring .set "1.50"
    let d := sampleStoring .get []
    (c.FillsIn .empty .set "k" "1.50" (c.sceneWith .empty) ∧ c.resultVar.IsOrdinary ∧ Store.intact .empty = true ∧
        Place.isEncodable (c.owner, "k") = true ∧ Text.isWellFormed "1.50" = true ∧ Text.IsShownAs "1.50" "1.5") ∧
      ∃ after reread, c.act.run.run (c.sceneWith .empty) = (.ok (), after) ∧ after.shown c.message "r" = .ok "1.50" ∧
        d.act.run.run (d.sceneWith after.world.store) = (.ok (), reread) ∧ reread.shown d.message "r" = .ok "1.5" := by
  intro c d
  have hfills : c.FillsIn .empty .set "k" "1.50" (c.sceneWith .empty) :=
    ⟨rfl, ⟨c.sceneWith .empty, rfl, rfl⟩, by decide⟩
  have hordinary : c.resultVar.IsOrdinary := ⟨Text.isIdentifier_of_letters (by decide), by decide, by decide⟩
  have hshown : Text.IsShownAs "1.50" "1.5" := by
    have hfraction := @Text.IsShownAs.fraction false "1" "50" (by decide +kernel) (by decide +kernel)
    have htext : Text.fraction false "1" "50" = "1.50" := by decide +kernel
    have hnumber : Value.doubleText (.ofDecimal false (("1" : Text) ++ "50").numeralValue
        (0 - (("50" : Text).length : Int))) = "1.5" := by decide +kernel
    rwa [htext, hnumber] at hfraction
  obtain ⟨after, hrun, hafter, hget, -⟩ :=
    shown_of_set hfills hordinary (by decide) (by decide +kernel) (by decide +kernel) hshown
  have hresult : after = (c.act.run.run (c.sceneWith .empty)).2 := by rw [hrun]
  have hkeeps : after.world.store.KeepsAt after.world.store (c.owner, "k") := ⟨by rw [hresult]; decide +kernel, rfl⟩
  obtain ⟨reread, hrerun, hreread⟩ := hget d after.world.store [] (d.sceneWith after.world.store)
    ⟨rfl, ⟨_, rfl, rfl⟩, by decide⟩ rfl rfl hkeeps
  have hagain : reread = (d.act.run.run (d.sceneWith after.world.store)).2 := by rw [hrerun]
  refine ⟨⟨hfills, hordinary, by decide, by decide +kernel, by decide +kernel, hshown⟩, after, reread, hrun, ?_, hrerun,
    ?_⟩
  · exact hafter c.message (by rw [hresult]; decide +kernel)
  · exact hreread d.message (by rw [hagain, hresult]; decide +kernel)

/-- Zeros in front of a number are lost when it is stored, and a text that cannot be encoded is not stored. The variable
of the node shows them nevertheless. A variable may have the name of the token of the stored value. -/
theorem number_respelled :
    let after := fun value => ((sampleStoring .set value).act.run.run ((sampleStoring .set value).sceneWith .empty)).2
    let reread := fun value => ((sampleStoring .get []).act.run.run
      ((sampleStoring .get []).sceneWith (after value).world.store)).2
    let hidden : Scene := ⟨(after "hi").world, (after "hi").context.set "storage.k" (.text "x")⟩
    let m : Message := ⟨.ofUser "u", []⟩
    ((after "007").shown m "r" = .ok "007" ∧ (reread "007").shown m "r" = .ok "7" ∧
        (after "007").shown m "storage.k" = .ok "7") ∧
      ((after [.surrogate 0]).shown m "r" = .ok [.surrogate 0] ∧ (reread [.surrogate 0]).shown m "r" = .ok "0") ∧
      (after "hi").shown m "storage.k" = .ok "hi" ∧ hidden.shown m "storage.k" = .ok "x" := by
  decide +kernel

end Storing

end ChatFlow
