import ChatFlow.Proofs.Catalog.Entries
import ChatFlow.Proofs.Json.Encoding

/-!
# What was read and what is read again

A catalog keeps what it read of the file, and what it wrote into it. Reading the file again gives the same
workflows and the same unread entries in the same order; only the places of these may differ, as places are
kept that lie behind the end of the file. So a catalog that forgets what it read answers as it would have, and
the files that it writes hold the same workflows and unread entries, but not always in the same places.

* `Catalog.Agrees`: what is kept agrees with the file, up to the places of unread entries.
* `Catalog.Agrees.perform`: every turn leaves it so.
* `Catalog.Deed.perform_both`: a deed at two catalogs that differ in places at most.
* `Catalog.perform_sameEntries`, `Catalog.SideBySide.run`: two catalogs of such files, at a turn and in a run.
* `Catalog.answers_forget`: forgetting changes no later answer, and no file but for these places.
* `Catalog.places_kept_behind_end`: files that differ.
-/

namespace ChatFlow

namespace Catalog

/-- Whether a writing succeeds does not depend on the places of the entries. -/
theorem isWellFormed_textOf {ws : List Workflow} {others others' : List (Nat × Value)}
    (h : others.map Prod.snd = others'.map Prod.snd) :
    (textOf ws others).isWellFormed = (textOf ws others').isWellFormed := by
  have hperm : (entriesOf ws others).Perm (entriesOf ws others') := by
    refine (place_perm _ others).trans ?_
    rw [h]
    exact (place_perm _ others').symm
  rw [textOf, textOf, Json.text, Json.text, Json.isWellFormed_textAt rfl, Json.isWellFormed_textAt rfl,
    Bool.eq_iff_iff, Value.isEncodable_list, Value.isEncodable_list]
  exact forall_congr' fun v => imp_congr_left hperm.mem_iff

/-! ## What is kept agrees with the file -/

/-- What is kept is of a version that the file has had, and is nothing if the file was not there. -/
structure Dated (version : Nat) (s : Snapshot) : Prop where
  absent : s.tag = none → s.workflows = [] ∧ s.unread = []
  version_le : ∀ n, s.tag = some n → n ≤ version

theorem dated_ofFile (f : File) : Dated f.version (.ofFile f) where
  absent := by
    intro h
    have hnone : f.content = none := by
      cases hcontent : f.content with
      | none => rfl
      | some t =>
          have htag : f.tag? = some f.version := by rw [File.tag?, hcontent]; rfl
          have htag' : f.tag? = none := h
          rw [htag] at htag'
          cases htag'
    have hentries : Snapshot.entries f = [] := by
      rw [Snapshot.entries, File.document?, hnone]
      rfl
    rw [Snapshot.ofFile, hentries]
    exact ⟨rfl, rfl⟩
  version_le := by
    intro n h
    have htag : f.tag? = some n := h
    obtain ⟨t, -, rfl⟩ := Option.map_eq_some_iff.mp htag
    exact Nat.le_refl _

/-- After a change from elsewhere what is there is read: what was kept is outdated, or nothing was there and
nothing is. -/
theorem current_put {c : Catalog} (hfree : c.file.blocked = false)
    (hkept : ∀ s, c.snapshot = some s → Dated c.file.version s) (content : Option Text) :
    (Catalog.mk (c.file.put content) c.snapshot).current = .ofFile (c.file.put content) := by
  have hput : c.file.put content = ⟨content, c.file.version + 1, false⟩ := by
    rw [File.put, hfree]
    rfl
  rw [hput]
  cases hs : c.snapshot with
  | none => rfl
  | some s =>
      have hdated := hkept s hs
      by_cases htag : s.tag = File.tag? ⟨content, c.file.version + 1, false⟩
      · cases content with
        | none =>
            obtain ⟨hworkflows, hunread⟩ := hdated.absent htag
            obtain ⟨workflows, unread, tag⟩ := s
            cases hworkflows
            cases hunread
            cases htag
            rfl
        | some t =>
            -- what was kept would be of a version that the file has only now
            have hle : c.file.version + 1 ≤ c.file.version := hdated.version_le _ htag
            omega
      · exact if_neg htag

/-- A file of which each workflow is without numbers that are not finite. -/
def Plain (f : File) : Prop := ∀ v ∈ Snapshot.entries f, Workflow.isRefused v = false → v.settled = v

instance (f : File) : Decidable (Plain f) :=
  inferInstanceAs (Decidable (∀ v ∈ Snapshot.entries f, Workflow.isRefused v = false → v.settled = v))

/-- What is kept of a file are its workflows, and its unread entries in order; these are found in the file in
the places that are kept, or at the end of it. -/
structure Agrees (c : Catalog) : Prop extends Faithful Workflow.Settled c where
  read : c.current.workflows = workflowsOf c.file
  places : (Snapshot.ofFile c.file).unread = landed c.current.workflows.length c.current.unread
  dated : ∀ s, c.snapshot = some s → Dated c.file.version s

theorem places_ofFile (f : File) :
    landed (Snapshot.ofFile f).workflows.length (Snapshot.ofFile f).unread = (Snapshot.ofFile f).unread := by
  have hlanded := landed_sort 0 (Snapshot.entries f)
  rw [Nat.zero_add] at hlanded
  exact hlanded

theorem Agrees.dated_current {c : Catalog} (h : Agrees c) : Dated c.file.version c.current := by
  unfold current
  split
  · next s hs =>
      split
      · exact h.dated s hs
      · exact dated_ofFile c.file
  · exact dated_ofFile c.file

theorem agrees_of_current {c : Catalog} (hfree : c.file.blocked = false)
    (hcurrent : c.current = .ofFile c.file) (hplain : Plain c.file)
    (hdated : ∀ s, c.snapshot = some s → Dated c.file.version s) : Agrees c where
  toFaithful := by
    refine faithful_of_current hfree hcurrent ?_
    intro v hv w hw
    exact Workflow.settled_of_check hw (isDocument_of_entries hv)
      (hplain v hv (Workflow.isRefused_of_accepted hw))
  read := hcurrent ▸ workflows_ofFile c.file
  places := hcurrent ▸ (places_ofFile c.file).symm
  dated := hdated

section Agrees

variable {c : Catalog} (h : Agrees c)

include h

theorem Agrees.of_unchanged {c' : Catalog} (hsame : Unchanged c c') : Agrees c' where
  toFaithful := h.toFaithful.of_unchanged hsame
  read := by
    rw [hsame.current_eq, hsame.file_eq]
    exact h.read
  places := by
    rw [hsame.current_eq, hsame.file_eq]
    exact h.places
  dated := by
    obtain rfl | rfl := hsame
    · exact h.dated
    · intro s hs
      cases hs
      exact h.dated_current

/-- What is read again after forgetting agrees with the file. -/
theorem Agrees.forget : Agrees c.forget where
  toFaithful := by
    refine faithful_of_current h.free rfl ?_
    intro v hv w hw
    refine h.workflows w ?_
    rw [h.read]
    exact mem_workflowsOf.mpr ⟨v, hv, hw⟩
  read := workflows_ofFile c.file
  places := (places_ofFile c.file).symm
  dated := by
    intro s hs
    cases hs

/-- With all places in the file, what is read again is what was kept. -/
theorem Agrees.current_eq_forget (hplaces : ∀ j (hj : j < c.current.unread.length),
      c.current.unread[j].1 ≤ c.current.workflows.length + j) :
    c.current = c.forget.current := by
  have hunread : c.current.unread = c.forget.current.unread :=
    (landed_eq_self_iff.mpr hplaces).symm.trans h.places.symm
  have hworkflows : c.current.workflows = c.forget.current.workflows :=
    h.read.trans h.forget.read.symm
  have htag : c.current.tag = c.forget.current.tag := c.tag_current.trans c.forget.tag_current.symm
  cases hwarm : c.current
  cases hcold : c.forget.current
  rw [hwarm, hcold] at hworkflows hunread htag
  cases hworkflows
  cases hunread
  cases htag
  rfl

theorem Agrees.workflowsOf_written (deed : Deed) {ws : List Workflow} (hws : ∀ w ∈ ws, w.Settled) :
    workflowsOf (c.written ws (c.rest deed ws)).file = ws := by
  have hread : ws.filterMap (fun w => (Workflow.check w.toValue).toOption) = ws.filterMap some := by
    refine List.filterMap_congr ?_
    intro w hw
    rw [(hws w hw).check_toValue]
    rfl
  rw [← workflows_ofFile, h.ofFile_written deed fun w hw => (hws w hw).toWritable, hread,
    List.filterMap_some]

theorem Agrees.written (deed : Deed) {ws : List Workflow} (hws : ∀ w ∈ ws, w.Settled) :
    Agrees (c.written ws (c.rest deed ws)) where
  toFaithful := h.toFaithful.written deed (fun _ hw => hw.toWritable) hws
  read := by
    rw [current_written, h.workflowsOf_written deed hws]
  places := by
    rw [current_written, h.ofFile_written deed fun w hw => (hws w hw).toWritable]
  dated := by
    intro s hs
    cases hs
    refine ⟨by rintro ⟨⟩, ?_⟩
    rintro n ⟨⟩
    exact Nat.le_refl _

theorem Agrees.current_edit (content : Option Text) :
    (Catalog.mk (c.file.put content) c.snapshot).current = .ofFile (c.file.put content) :=
  current_put h.free h.dated content

theorem Agrees.edit {content : Option Text} (hplain : Plain (File.absent.put content)) :
    Agrees ⟨c.file.put content, c.snapshot⟩ := by
  have hput : c.file.put content = ⟨content, c.file.version + 1, false⟩ := by
    rw [File.put, h.free]
    rfl
  have hentries : Snapshot.entries (c.file.put content) = Snapshot.entries (File.absent.put content) := by
    refine entries_congr ?_
    rw [hput]
    rfl
  refine agrees_of_current ?_ (h.current_edit content) ?_ ?_
  · rw [hput]
  · intro v hv
    rw [hentries] at hv
    exact hplain v hv
  · intro s hs
    have hdated := h.dated s hs
    refine ⟨hdated.absent, ?_⟩
    intro n hn
    have hle := hdated.version_le n hn
    show n ≤ (c.file.put content).version
    rw [hput]
    exact Nat.le_succ_of_le hle

end Agrees

/-- What an editor sends and what a file is changed to is without numbers that are not finite. -/
def Turn.Plain : Turn → Prop
  | .deed d => d.Sent fun v => v.IsDocument ∧ v.settled = v
  | .edit content => Catalog.Plain (File.absent.put content)

/-- Every turn leaves what is kept in agreement with the file. -/
theorem Agrees.perform {s : Desk} (h : Agrees s.catalog) {t : Turn} (ht : t.Plain)
    (hanswer : Encodes (t.perform s).1) : Agrees (t.perform s).2.catalog := by
  cases t with
  | edit content => exact h.edit ht
  | deed d =>
      show Agrees (d.perform s).2.catalog
      obtain ⟨a, c, -, hperform, hsame⟩ | ⟨ws, reply, hwrite, -, hperform⟩ :=
        d.perform_cases h.free (hanswer _ rfl)
      · rw [hperform]
        exact h.of_unchanged hsame
      · rw [hperform]
        exact h.written d (Deed.write_lasts lasts_settled ht h.workflows hwrite)

/-! ## Two catalogs side by side -/

/-- A deed at two desks, with the same workflows and unread entries but for the places of these, is answered
in the same way. It leaves both files as they are, or the same workflows are written into both. -/
theorem Deed.perform_both (deed : Deed) {s u : Desk} (hs : s.catalog.file.blocked = false)
    (hu : u.catalog.file.blocked = false)
    (hworkflows : s.catalog.current.workflows = u.catalog.current.workflows)
    (hunread : s.catalog.current.unread.map Prod.snd = u.catalog.current.unread.map Prod.snd)
    (hdice : s.dice = u.dice) (hanswer : (deed.perform s).1.isUnencodable = false) :
    (deed.perform s).1 = (deed.perform u).1 ∧ (deed.perform s).2.dice = (deed.perform u).2.dice ∧
      ((Unchanged s.catalog (deed.perform s).2.catalog ∧
          Unchanged u.catalog (deed.perform u).2.catalog) ∨
        ∃ ws reply, (deed.comesTo s).1 = .write ws reply ∧
          (deed.perform s).2.catalog = s.catalog.written ws (s.catalog.rest deed ws) ∧
          (deed.perform u).2.catalog = u.catalog.written ws (u.catalog.rest deed ws)) := by
  have houtcome : deed.comesTo u = deed.comesTo s := by
    rw [Deed.comesTo, Deed.comesTo, hworkflows, hunread, hdice]
  obtain ⟨a, c, ha, hperform, hsame⟩ | ⟨ws, reply, hwrite, hwf, hperform⟩ := deed.perform_cases hs hanswer
  · obtain ⟨c', hperform', hsame'⟩ := Deed.perform_of_answer (houtcome ▸ ha)
    rw [hperform, hperform', houtcome]
    exact ⟨rfl, rfl, .inl ⟨hsame, hsame'⟩⟩
  · -- the writing into the other file succeeds too, as only places differ
    have hrest : (s.catalog.rest deed ws).map Prod.snd = (u.catalog.rest deed ws).map Prod.snd := by
      rw [map_rest, map_rest, hunread]
    have hperform' := Deed.perform_of_write hu (houtcome ▸ hwrite) (isWellFormed_textOf hrest ▸ hwf)
    rw [hperform, hperform', houtcome]
    exact ⟨rfl, rfl, .inr ⟨ws, reply, hwrite, rfl, rfl⟩⟩

/-- The files hold the same workflows and the same unread entries, each in the same order. -/
structure SameEntries (f g : File) : Prop where
  workflows : workflowsOf f = workflowsOf g
  unread : unreadOf f = unreadOf g

/-- At a turn, two catalogs that agree with such files give the same answer and come to such files. -/
theorem perform_sameEntries {s u : Desk} (hs : Agrees s.catalog) (hu : Agrees u.catalog)
    (hfiles : SameEntries s.catalog.file u.catalog.file) (hdice : s.dice = u.dice) {t : Turn} (ht : t.Plain)
    (hanswer : Encodes (t.perform s).1) :
    (t.perform s).1 = (t.perform u).1 ∧ (t.perform s).2.dice = (t.perform u).2.dice ∧
      SameEntries (t.perform s).2.catalog.file (t.perform u).2.catalog.file := by
  cases t with
  | edit content =>
      have hentries : Snapshot.entries (s.catalog.file.put content) =
          Snapshot.entries (u.catalog.file.put content) := by
        refine entries_congr ?_
        rw [File.put, File.put, hs.free, hu.free]
        rfl
      refine ⟨rfl, hdice, ?_, ?_⟩
      · exact congrArg (List.filterMap _) hentries
      · exact congrArg (List.filter _) hentries
  | deed d =>
      have hworkflows : s.catalog.current.workflows = u.catalog.current.workflows := by
        rw [hs.read, hu.read, hfiles.workflows]
      have hunread : s.catalog.current.unread.map Prod.snd = u.catalog.current.unread.map Prod.snd := by
        rw [hs.unread, hu.unread, hfiles.unread]
      obtain ⟨hsame, hdice, hcases⟩ :=
        d.perform_both hs.free hu.free hworkflows hunread hdice (hanswer _ rfl)
      refine ⟨congrArg some hsame, hdice, ?_⟩
      show SameEntries (d.perform s).2.catalog.file (d.perform u).2.catalog.file
      obtain ⟨hleft, hright⟩ | ⟨ws, reply, hwrite, hleft, hright⟩ := hcases
      · rw [hleft.file_eq, hright.file_eq]
        exact hfiles
      · have hws := Deed.write_lasts lasts_settled ht hs.workflows hwrite
        have hwritable : ∀ w ∈ ws, w.Writable := fun w hw => (hws w hw).toWritable
        rw [hleft, hright]
        constructor
        · rw [hs.workflowsOf_written d hws, hu.workflowsOf_written d hws]
        · rw [hs.unreadOf_written d hwritable, hu.unreadOf_written d hwritable, hfiles.unread]

/-- At a turn, two catalogs of one file that keep the same come to one file and keep the same. -/
theorem perform_same {s u : Desk} (hs : Agrees s.catalog) (hu : Agrees u.catalog)
    (hfile : s.catalog.file = u.catalog.file) (hcurrent : s.catalog.current = u.catalog.current)
    (hdice : s.dice = u.dice) {t : Turn} (hanswer : Encodes (t.perform s).1) :
    (t.perform s).2.catalog.file = (t.perform u).2.catalog.file ∧
      (t.perform s).2.catalog.current = (t.perform u).2.catalog.current := by
  cases t with
  | edit content =>
      have hsame : s.catalog.file.put content = u.catalog.file.put content :=
        congrArg (fun f => f.put content) hfile
      refine ⟨hsame, ?_⟩
      exact (hs.current_edit content).trans (hsame ▸ (hu.current_edit content).symm)
  | deed d =>
      show (d.perform s).2.catalog.file = (d.perform u).2.catalog.file ∧
        (d.perform s).2.catalog.current = (d.perform u).2.catalog.current
      obtain ⟨-, -, hcases⟩ := d.perform_both hs.free hu.free (congrArg Snapshot.workflows hcurrent)
        (congrArg (fun k => k.unread.map Prod.snd) hcurrent) hdice (hanswer _ rfl)
      obtain ⟨hleft, hright⟩ | ⟨ws, reply, -, hleft, hright⟩ := hcases
      · rw [hleft.file_eq, hright.file_eq, hleft.current_eq, hright.current_eq]
        exact ⟨hfile, hcurrent⟩
      · have hrest : u.catalog.rest d ws = s.catalog.rest d ws := by
          rw [rest, rest, hcurrent]
        rw [hleft, hright, current_written, current_written, hrest, written, written, hfile]
        exact ⟨rfl, rfl⟩

/-- Two desks at which the catalogs agree with their files and are related. -/
structure SideBySide (R : Catalog → Catalog → Prop) (s u : Desk) : Prop where
  left : Agrees s.catalog
  right : Agrees u.catalog
  catalogs : R s.catalog u.catalog
  dice : s.dice = u.dice

/-- A relation that turns keep, and under which the files have the same entries, is kept by runs of turns,
and these are answered in the same way. -/
theorem SideBySide.run {R : Catalog → Catalog → Prop}
    (hentries : ∀ {c c'}, R c c' → SameEntries c.file c'.file)
    (hkept : ∀ {s u t}, SideBySide R s u → Turn.Plain t → Encodes (t.perform s).1 →
      R (t.perform s).2.catalog (t.perform u).2.catalog)
    {turns : List Turn} {s u : Desk} (h : SideBySide R s u) (hplain : ∀ t ∈ turns, t.Plain)
    (hanswers : ∀ a ∈ answers turns s, Encodes a) :
    answers turns s = answers turns u ∧ SideBySide R (after turns s) (after turns u) := by
  induction turns generalizing s u with
  | nil => exact ⟨rfl, h⟩
  | cons t turns ih =>
      obtain ⟨hfirst, hrest⟩ := List.forall_mem_cons.mp hplain
      obtain ⟨hanswer, hanswers⟩ := List.forall_mem_cons.mp hanswers
      obtain ⟨hsame, hdice, -⟩ :=
        perform_sameEntries h.left h.right (hentries h.catalogs) h.dice hfirst hanswer
      have hnext : SideBySide R (t.perform s).2 (t.perform u).2 := {
        left := h.left.perform hfirst hanswer
        right := h.right.perform hfirst (hsame ▸ hanswer)
        catalogs := hkept h hfirst hanswer
        dice := hdice }
      obtain ⟨hlater, hafter⟩ := ih hnext hrest hanswers
      refine ⟨?_, hafter⟩
      rw [answers, answers, hsame, hlater]

/-- Every run of turns leaves what is kept in agreement with the file. -/
theorem Agrees.after {turns : List Turn} {s : Desk} (h : Agrees s.catalog) (hplain : ∀ t ∈ turns, t.Plain)
    (hanswers : ∀ a ∈ answers turns s, Encodes a) : Agrees (after turns s).catalog := by
  induction turns generalizing s with
  | nil => exact h
  | cons t turns ih =>
      obtain ⟨hfirst, hrest⟩ := List.forall_mem_cons.mp hplain
      obtain ⟨hanswer, hanswers⟩ := List.forall_mem_cons.mp hanswers
      exact ih (h.perform hfirst hanswer) hrest hanswers

theorem answers_append (before later : List Turn) (s : Desk) :
    answers (before ++ later) s = answers before s ++ answers later (Catalog.after before s) := by
  induction before generalizing s with
  | nil => rfl
  | cons t before ih =>
      rw [List.cons_append, answers, ih, answers, Catalog.after]
      rfl

/-! ## Forgetting -/

/-- A desk at which the catalog forgets what it read. -/
def Desk.forget (s : Desk) : Desk := ⟨s.catalog.forget, s.dice⟩

/-- Forgetting what was read, at any point of a run of turns in which all writings succeed, changes no later
answer. The file holds the same workflows and the same unread entries in the same order after it, and is the
same file if no unread entry has a place that lies behind the end of the file. -/
theorem answers_forget {f : File} (hfree : f.blocked = false) (hplain : Plain f) (d : Dice)
    {before later : List Turn} (hbefore : ∀ t ∈ before, t.Plain) (hlater : ∀ t ∈ later, t.Plain)
    (hanswers : ∀ a ∈ answers (before ++ later) ⟨ofFile f, d⟩, Encodes a) :
    let s := after before ⟨ofFile f, d⟩
    answers later s.forget = answers later s ∧
      SameEntries (after later s.forget).catalog.file (after later s).catalog.file ∧
      ((∀ j (hj : j < s.catalog.current.unread.length),
          s.catalog.current.unread[j].1 ≤ s.catalog.current.workflows.length + j) →
        (after later s.forget).catalog.file = (after later s).catalog.file) := by
  intro s
  have hstart : Agrees (ofFile f) := agrees_of_current hfree rfl hplain (by rintro s ⟨⟩)
  rw [answers_append] at hanswers
  have hs : Agrees s.catalog := hstart.after hbefore fun a ha => hanswers a (List.mem_append_left _ ha)
  have hanswers : ∀ a ∈ answers later s, Encodes a := fun a ha => hanswers a (List.mem_append_right _ ha)
  have hentries : SideBySide (fun c c' => SameEntries c.file c'.file) s s.forget :=
    ⟨hs, hs.forget, ⟨rfl, rfl⟩, rfl⟩
  obtain ⟨hsame, hafter⟩ := hentries.run (fun h => h)
    (fun h ht hanswer => (perform_sameEntries h.left h.right h.catalogs h.dice ht hanswer).2.2)
    hlater hanswers
  refine ⟨hsame.symm, ⟨hafter.catalogs.workflows.symm, hafter.catalogs.unread.symm⟩, ?_⟩
  intro hplaces
  have hcurrent := hs.current_eq_forget hplaces
  have hequal : SideBySide (fun c c' => c.file = c'.file ∧ c.current = c'.current) s s.forget :=
    ⟨hs, hs.forget, ⟨rfl, hcurrent⟩, rfl⟩
  have hafter := (hequal.run (fun h => ⟨congrArg workflowsOf h.1, congrArg unreadOf h.1⟩)
    (fun h _ hanswer => perform_same h.left h.right h.catalogs.1 h.catalogs.2 h.dice hanswer)
    hlater hanswers).2
  exact hafter.catalogs.1.symm

/-- A file of two workflows, with an entry between them that is no workflow. -/
def sample : File := fileOf [plain "a", broken "c", plain "b"]

/-- A workflow is disabled, and then the file is changed to one in another order and is read. -/
def turnsBefore : List Turn :=
  [.deed (.toggle "b"), .edit (fileOf [broken "c", plain "b", plain "a"]).content, .deed .load]

/-- A workflow is added and one is deleted, and then all are read. -/
def turnsAfter : List Turn := [.deed (.accept 0 newWorkflow), .deed (.delete "a"), .deed .load]

theorem answers_forget_of_sample :
    let s := after turnsBefore ⟨ofFile sample, .ofNumbers []⟩
    (sample.blocked = false ∧ Plain sample ∧ (∀ t ∈ turnsBefore, t.Plain) ∧ (∀ t ∈ turnsAfter, t.Plain) ∧
        (∀ a ∈ answers (turnsBefore ++ turnsAfter) ⟨ofFile sample, .ofNumbers []⟩, Encodes a) ∧
        ∀ j (hj : j < s.catalog.current.unread.length),
          s.catalog.current.unread[j].1 ≤ s.catalog.current.workflows.length + j) ∧
      answers turnsAfter s.forget = answers turnsAfter s ∧
      SameEntries (after turnsAfter s.forget).catalog.file (after turnsAfter s).catalog.file ∧
      (after turnsAfter s.forget).catalog.file = (after turnsAfter s).catalog.file := by
  have hfree : sample.blocked = false := rfl
  have hplain : Plain sample := by decide +kernel
  have hbefore : ∀ t ∈ turnsBefore, t.Plain := by
    simp only [turnsBefore, List.mem_cons, List.not_mem_nil, or_false]
    rintro t (rfl | rfl | rfl)
    · exact trivial
    · show Plain _
      decide +kernel
    · exact trivial
  have hafter : ∀ t ∈ turnsAfter, t.Plain := by
    simp only [turnsAfter, List.mem_cons, List.not_mem_nil, or_false]
    rintro t (rfl | rfl | rfl)
    · exact ⟨isDocument_newWorkflow, by decide +kernel⟩
    · exact trivial
    · exact trivial
  have hturns : let s := after turnsBefore ⟨ofFile sample, .ofNumbers []⟩
      (∀ a ∈ answers (turnsBefore ++ turnsAfter) ⟨ofFile sample, .ofNumbers []⟩, Encodes a) ∧
        ∀ j (hj : j < s.catalog.current.unread.length),
          s.catalog.current.unread[j].1 ≤ s.catalog.current.workflows.length + j := by
    decide +kernel
  obtain ⟨hanswers, hplaces⟩ := hturns
  obtain ⟨hsame, hentries, hfile⟩ := answers_forget hfree hplain (.ofNumbers []) hbefore hafter hanswers
  exact ⟨⟨hfree, hplain, hbefore, hafter, hanswers, hplaces⟩, hsame, hentries, hfile hplaces⟩

/-- When the first of two workflows was deleted, the entry behind them keeps its place; a new workflow is then
put before it, or behind it if what was read was forgotten. -/
theorem places_kept_behind_end :
    let start : Desk := ⟨ofFile (fileOf [plain "a", plain "b", broken "c"]), .ofNumbers []⟩
    let s := after [.deed (.delete "a")] start
    let later : List Turn := [.deed (.accept 0 newWorkflow)]
    (∀ a ∈ answers (.deed (.delete "a") :: later) start, Encodes a) ∧
      (Snapshot.entries (after later s).catalog.file).getLast? = some (broken "c") ∧
      (Snapshot.entries (after later s.forget).catalog.file).getLast? ≠ some (broken "c") := by
  decide +kernel

end Catalog

end ChatFlow
