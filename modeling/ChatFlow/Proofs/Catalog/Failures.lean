import ChatFlow.Proofs.Catalog.Cache

/-!
# Deeds that fail

A deed that fails leaves the file as it was, and nothing that happens later shows that it was tried. There are
two exceptions. A text that cannot be encoded is noticed only when the file has been emptied for it. And an
unread entry of which the id was to be deleted is forgotten, though the file could not be written and still
holds it.

* `Catalog.Happening`, `Catalog.chronicle`: what may happen to a desk, and what is seen of it.
* `Catalog.Alike`: catalogs of one file that hold the same of it.
* `Catalog.Alike.perform`, `Catalog.Alike.chronicle`: nothing tells them apart, at once or later.
* `Catalog.Deed.perform_failed`: what a deed that fails leaves behind.
* `Catalog.failed_unnoticed`: nothing is noticed of it later.
* `Catalog.failed_noticed`: the exceptions.
-/

namespace ChatFlow

namespace Catalog

/-! ## What may happen -/

/-- Does the answer tell that what was asked was not done? -/
def Answer.isFailure : Answer → Bool
  | workflows _ | workflow _ => false
  | changed (.ok done) => !done
  | report (.ok r) => !r.success
  | changed (.error _) | report (.error _) => true

/-- What may happen to a desk: a turn, that what was read is forgotten, or that the file can no longer be
written, or can be written again. -/
inductive Happening where
  | turn (t : Turn)
  | forget
  | lock (locked : Bool)

/-- What is done when something happens. -/
def Happening.perform : Happening → Desk → Option Answer × Desk
  | turn t, s => t.perform s
  | forget, s => (none, s.forget)
  | lock locked, ⟨c, d⟩ => (none, ⟨⟨{ c.file with blocked := locked }, c.snapshot⟩, d⟩)

/-- The answers, and the files after each thing that happened. -/
def chronicle : List Happening → Desk → List (Option Answer × File)
  | [], _ => []
  | h :: later, s => ((h.perform s).1, (h.perform s).2.catalog.file) :: chronicle later (h.perform s).2

/-- The desk after all that happened. -/
def past : List Happening → Desk → Desk
  | [], s => s
  | h :: later, s => past later (h.perform s).2

/-! ## Catalogs that nothing tells apart -/

/-- What is kept, if anything, is of a version that the file has had. -/
def Timely (c : Catalog) : Prop := ∀ s, c.snapshot = some s → Dated c.file.version s

theorem Dated.mono {n m : Nat} {s : Snapshot} (h : Dated n s) (hle : n ≤ m) : Dated m s where
  absent := h.absent
  version_le := fun k hk => Nat.le_trans (h.version_le k hk) hle

/-- A file that cannot be written stays as it is, but entries were left out already of what is kept. -/
theorem save_cleared_blocked {c : Catalog} (hblocked : c.file.blocked = true) (deed : Deed)
    (ws : List Workflow) : (c.cleared deed).save ws = (.ok false, c.cleared deed) := by
  have hwrite : ∀ t, c.file.write t = (.ok false, c.file) := fun t => if_pos hblocked
  have hcurrent : (c.cleared deed).current = { c.current with
      unread := c.current.unread.filter fun e => !deed.deletes e.2 } := current_keep c.tag_current
  have hfile : (c.cleared deed).file = c.file := rfl
  simp only [Catalog.save, File.writeDocument, hfile, hwrite, hcurrent]
  rfl

section Timely

variable {c : Catalog} (h : Timely c)

include h

theorem Timely.current : Dated c.file.version c.current := by
  unfold Catalog.current
  split
  · next s hs =>
      split
      · exact h s hs
      · exact dated_ofFile c.file
  · exact dated_ofFile c.file

theorem Timely.keep_current : Timely (c.keep c.current) := by
  rintro s ⟨⟩
  exact h.current

/-- An entry that is left out makes nothing older or newer. -/
theorem Timely.cleared (deed : Deed) : Timely (c.cleared deed) := by
  rintro s ⟨⟩
  refine ⟨?_, h.current.version_le⟩
  intro habsent
  obtain ⟨hworkflows, hunread⟩ := h.current.absent habsent
  refine ⟨hworkflows, ?_⟩
  show c.current.unread.filter _ = []
  rw [hunread]
  rfl

/-- What was just written is of the newest version; if nothing was, the file may have got newer. -/
theorem Timely.save_cleared (deed : Deed) (ws : List Workflow) : Timely ((c.cleared deed).save ws).2 := by
  by_cases hblocked : c.file.blocked = true
  · rw [save_cleared_blocked hblocked]
    exact h.cleared deed
  · have hfree : c.file.blocked = false := Bool.eq_false_of_not_eq_true hblocked
    rw [Catalog.save_cleared hfree]
    split
    · rintro s ⟨⟩
      refine ⟨by rintro ⟨⟩, ?_⟩
      rintro n ⟨⟩
      exact Nat.le_refl _
    · rintro s ⟨⟩
      have hput : (c.file.put (some [])).version = c.file.version + 1 := by
        rw [File.put, hfree]
        rfl
      refine (h.cleared deed).current.mono ?_
      rw [hput]
      exact Nat.le_succ _

end Timely

theorem Timely.of_unchanged {c c' : Catalog} (h : Timely c) (hsame : Unchanged c c') : Timely c' := by
  rcases hsame with rfl | rfl
  · exact h
  · exact h.keep_current

theorem timely_ofFile (f : File) : Timely (ofFile f) := by
  rintro s ⟨⟩

/-- Catalogs of one file that hold the same of it. -/
structure Alike (c c' : Catalog) : Prop where
  file : c.file = c'.file
  current : c.current = c'.current
  left : Timely c
  right : Timely c'

theorem Alike.refl {c : Catalog} (h : Timely c) : Alike c c := ⟨rfl, rfl, h, h⟩

theorem Unchanged.alike {c c' : Catalog} (h : Unchanged c c') (hc : Timely c) : Alike c' c :=
  ⟨h.file_eq, h.current_eq, hc.of_unchanged h, hc⟩

/-- A deed that writes starts from what it read, so it leaves the same behind. -/
theorem Alike.cleared_eq {c c' : Catalog} (h : Alike c c') (deed : Deed) : c.cleared deed = c'.cleared deed := by
  rw [cleared, cleared, keep, keep, h.file, h.current]

namespace Alike

variable {c c' : Catalog} (h : Alike c c') (d : Dice)

include h

theorem deed (deed : Deed) :
    (deed.perform ⟨c, d⟩).1 = (deed.perform ⟨c', d⟩).1 ∧
      (deed.perform ⟨c, d⟩).2.dice = (deed.perform ⟨c', d⟩).2.dice ∧
      Alike (deed.perform ⟨c, d⟩).2.catalog (deed.perform ⟨c', d⟩).2.catalog := by
  have houtcome : deed.comesTo ⟨c', d⟩ = deed.comesTo ⟨c, d⟩ := by
    simp only [Deed.comesTo, h.current]
  cases hcomes : (deed.comesTo ⟨c, d⟩).1 with
  | answer a =>
      obtain ⟨c₁, hperform, hsame⟩ := Deed.perform_of_answer hcomes
      obtain ⟨c₂, hperform', hsame'⟩ := Deed.perform_of_answer (houtcome ▸ hcomes)
      rw [hperform, hperform', houtcome]
      have hfile : c₁.file = c₂.file := hsame.file_eq.trans (h.file.trans hsame'.file_eq.symm)
      have hcurrent : c₁.current = c₂.current :=
        hsame.current_eq.trans (h.current.trans hsame'.current_eq.symm)
      exact ⟨rfl, rfl, hfile, hcurrent, h.left.of_unchanged hsame, h.right.of_unchanged hsame'⟩
  | write ws reply =>
      rw [Deed.perform_write hcomes, Deed.perform_write (houtcome ▸ hcomes), houtcome, h.cleared_eq deed]
      exact ⟨rfl, rfl, .refl (h.right.save_cleared deed ws)⟩

theorem edit (content : Option Text) :
    Alike ⟨c.file.put content, c.snapshot⟩ ⟨c'.file.put content, c'.snapshot⟩ := by
  have hfile : c.file.put content = c'.file.put content := congrArg (File.put · content) h.file
  have hversion : ∀ f : File, f.version ≤ (f.put content).version := by
    intro f
    rw [File.put]
    split
    · exact Nat.le_refl _
    · exact Nat.le_succ _
  refine ⟨hfile, ?_, fun s hs => (h.left s hs).mono (hversion _), fun s hs => (h.right s hs).mono (hversion _)⟩
  by_cases hblocked : c.file.blocked = true
  · have hself : c.file.put content = c.file := if_pos hblocked
    have hself' : c'.file.put content = c'.file := hfile.symm.trans (hself.trans h.file)
    rw [hself, hself']
    exact h.current
  · have hfree : c.file.blocked = false := Bool.eq_false_of_not_eq_true hblocked
    rw [current_put hfree h.left, current_put (h.file ▸ hfree) h.right, hfile]

/-- Whatever happens, the answer is the same and nothing tells them apart afterwards. -/
theorem perform (happening : Happening) :
    (happening.perform ⟨c, d⟩).1 = (happening.perform ⟨c', d⟩).1 ∧
      (happening.perform ⟨c, d⟩).2.dice = (happening.perform ⟨c', d⟩).2.dice ∧
      Alike (happening.perform ⟨c, d⟩).2.catalog (happening.perform ⟨c', d⟩).2.catalog := by
  cases happening with
  | turn t =>
      cases t with
      | deed deed =>
          obtain ⟨hanswer, hdice, halike⟩ := h.deed d deed
          exact ⟨congrArg some hanswer, hdice, halike⟩
      | edit content => exact ⟨rfl, rfl, h.edit content⟩
  | forget =>
      have hforget : c.forget = c'.forget := congrArg ofFile h.file
      refine ⟨rfl, rfl, ?_⟩
      show Alike c.forget c'.forget
      rw [hforget]
      exact .refl (timely_ofFile c'.file)
  | lock locked =>
      -- a lock changes neither what the file holds nor its version
      refine ⟨rfl, rfl, ?_, ?_, h.left, h.right⟩
      · exact congrArg (fun f : File => { f with blocked := locked }) h.file
      · exact h.current

/-- Nothing tells them apart in the long run. -/
theorem chronicle (later : List Happening) : chronicle later ⟨c, d⟩ = chronicle later ⟨c', d⟩ := by
  induction later generalizing c c' d with
  | nil => rfl
  | cons happening later ih =>
      obtain ⟨hanswer, hdice, halike⟩ := h.perform d happening
      rw [Catalog.chronicle, Catalog.chronicle, hanswer, halike.file]
      refine congrArg _ ?_
      have hrest := ih halike (happening.perform ⟨c, d⟩).2.dice
      rw [hrest, hdice]

end Alike

/-- What is kept stays of a version that the file has had. -/
theorem Timely.past {s : Desk} (h : Timely s.catalog) (before : List Happening) :
    Timely (past before s).catalog := by
  induction before generalizing s with
  | nil => exact h
  | cons happening before ih => exact ih ((Alike.refl h).perform s.dice happening).2.2.left

/-! ## What a deed that fails leaves behind -/

namespace Deed

variable {deed : Deed} {s : Desk}

/-- An answer that was not written tells of nothing that could not be encoded. -/
theorem isUnencodable_of_answer {ws : List Workflow} {unread : List Value} {d : Dice} {a : Answer}
    (h : (deed.outcome ws unread d).1 = .answer a) : a.isUnencodable = false := by
  have htake : ∀ {document : Value} {put : Workflow → List Workflow},
      Outcome.ofDocument document put = .answer a → a.isUnencodable = false := by
    intro document put htaken
    rw [Outcome.ofDocument] at htaken
    split at htaken
    · cases htaken
      rfl
    · cases htaken
  have hid : ∀ {payload : Value} {fault : Fault}, idSent payload = .error fault → fault ≠ .unencodable := by
    rintro payload fault hsent rfl
    rw [idSent, Value.plain.eq_def] at hsent
    split at hsent
    · cases hsent
    · rw [Value.literal] at hsent
      split at hsent
      · cases hsent
      · cases hsent
  cases deed with
  | load =>
      cases h
      rfl
  | get id =>
      cases h
      rfl
  | delete id =>
      simp only [outcome] at h
      split at h
      · cases h
        rfl
      · cases h
  | toggle id =>
      simp only [outcome] at h
      split at h
      · cases h
      · cases h
        rfl
  | accept seconds payload =>
      simp only [outcome] at h
      split at h
      · split at h
        · cases h
          rfl
        · split at h
          · next fault hfault =>
              cases h
              have hne := hid hfault
              cases fault with
              | unencodable => exact absurd rfl hne
              | _ => rfl
          · split at h
            · exact htake h
            · split at h
              · next id _ fault hdrawn =>
                  -- new ids can always be drawn
                  obtain ⟨t, d', hnew, -⟩ := exists_newId seconds d
                  split at hdrawn
                  · rw [hnew] at hdrawn
                    cases hdrawn
                  · cases hdrawn
              · exact htake h
      · cases h
        rfl

/-- A reply to a writing that was done is no failure. -/
theorem isFailure_of_write {ws : List Workflow} {reply : Except Fault Bool → Answer}
    (h : (deed.comesTo s).1 = .write ws reply) : (reply (.ok true)).isFailure = false := by
  rcases outcome_write h with ⟨id, -, -, rfl⟩ | ⟨id, -, -, rfl⟩ | ⟨-, -, -, -, w, -, -, -, rfl, -⟩
  · rfl
  · rfl
  · rfl

/-- A deed that fails came to an answer and left all as it was; or its text could not be encoded, and the file
is empty; or the file could not be written, and what is kept lacks the entries that were to be deleted. -/
theorem perform_failed (hfailed : (deed.perform s).1.isFailure = true) :
    ((deed.perform s).1.isUnencodable = false ∧ Unchanged s.catalog (deed.perform s).2.catalog) ∨
      ((deed.perform s).1.isUnencodable = true ∧ s.catalog.file.blocked = false ∧
        (deed.perform s).2.catalog.file.content = some []) ∨
      ((deed.perform s).1.isUnencodable = false ∧ s.catalog.file.blocked = true ∧
        (deed.perform s).2.catalog = s.catalog.cleared deed) := by
  cases hcomes : (deed.comesTo s).1 with
  | answer a =>
      obtain ⟨c, hperform, hsame⟩ := perform_of_answer hcomes
      rw [hperform]
      exact .inl ⟨isUnencodable_of_answer hcomes, hsame⟩
  | write ws reply =>
      have hperform := perform_write hcomes
      by_cases hblocked : s.catalog.file.blocked = true
      · have hreply : (reply (.ok false)).isUnencodable = false := by
          rcases outcome_write hcomes with
              ⟨id, -, -, rfl⟩ | ⟨id, -, -, rfl⟩ | ⟨-, -, -, -, w, -, -, -, rfl, -⟩
          · rfl
          · rfl
          · rfl
        rw [hperform, save_cleared_blocked hblocked]
        exact .inr (.inr ⟨hreply, hblocked, rfl⟩)
      · have hfree : s.catalog.file.blocked = false := Bool.eq_false_of_not_eq_true hblocked
        have hemptied : (s.catalog.file.put (some [])).content = some [] := by
          rw [File.put, hfree]
          rfl
        by_cases hwf : (textOf ws (s.catalog.rest deed ws)).isWellFormed = true
        · rw [perform_of_write hfree hcomes hwf, isFailure_of_write hcomes] at hfailed
          cases hfailed
        · rw [hperform, save_cleared hfree, if_neg hwf]
          exact .inr (.inl ⟨isUnencodable_of_write hcomes, hfree, hemptied⟩)

end Deed

/-! ## What is noticed of it -/

/-- Whatever happened to a file before, a deed that fails leaves it as it was, if all could be encoded, and
then whatever happens later is answered and written as if it had not been tried. Only the deletion of an id
that an unread entry has may be noticed, if the file could not be written. With a text that cannot be encoded
the file is empty. -/
theorem failed_unnoticed (f : File) (d : Dice) (before : List Happening) (deed : Deed) :
    let s := past before ⟨ofFile f, d⟩
    let s' := (deed.perform s).2
    (deed.perform s).1.isFailure = true →
      ((deed.perform s).1.isUnencodable = true → s'.catalog.file.content = some []) ∧
      ((deed.perform s).1.isUnencodable = false →
        s'.catalog.file = s.catalog.file ∧
        ((s.catalog.file.blocked = true → ∀ e ∈ s.catalog.current.unread, deed.deletes e.2 = false) →
          ∀ later d', chronicle later ⟨s'.catalog, d'⟩ = chronicle later ⟨s.catalog, d'⟩)) := by
  intro s s' hfailed
  have htimely : Timely s.catalog := (timely_ofFile f : Timely (ofFile f)).past (s := ⟨ofFile f, d⟩) before
  rcases Deed.perform_failed hfailed with
      ⟨hencodable, hsame⟩ | ⟨hunencodable, -, hempty⟩ | ⟨hencodable, hblocked, hcleared⟩
  · rw [hencodable]
    refine ⟨nofun, fun _ => ⟨hsame.file_eq, ?_⟩⟩
    intro _ later d'
    exact (hsame.alike htimely).chronicle d' later
  · rw [hunencodable]
    exact ⟨fun _ => hempty, nofun⟩
  · rw [hencodable]
    have hfile : (deed.perform s).2.catalog.file = s.catalog.file := by
      rw [hcleared]
      rfl
    refine ⟨nofun, fun _ => ⟨hfile, ?_⟩⟩
    intro hnone later d'
    have hall : s.catalog.current.unread.filter (fun e => !deed.deletes e.2) = s.catalog.current.unread := by
      rw [List.filter_eq_self]
      intro e he
      rw [hnone hblocked e he]
      rfl
    have hkept : s'.catalog = s.catalog.keep s.catalog.current := by
      refine hcleared.trans ?_
      rw [cleared, hall]
    have hsame : Unchanged s.catalog s'.catalog := .inr hkept
    exact (hsame.alike htimely).chronicle d' later

theorem failed_unnoticed_of_toggle :
    let s := past [.turn (.deed .load), .lock true] ⟨ofFile sample, .ofNumbers []⟩
    let s' := ((Deed.toggle "a").perform s).2
    (((Deed.toggle "a").perform s).1.isFailure = true ∧
        ((Deed.toggle "a").perform s).1.isUnencodable = false) ∧
      s'.catalog.file = s.catalog.file ∧
        ∀ later d', chronicle later ⟨s'.catalog, d'⟩ = chronicle later ⟨s.catalog, d'⟩ := by
  intro s s'
  have hfailed : ((Deed.toggle "a").perform s).1.isFailure = true := by decide +kernel
  have hencodable : ((Deed.toggle "a").perform s).1.isUnencodable = false := by decide +kernel
  have hunnoticed := failed_unnoticed sample (.ofNumbers []) [.turn (.deed .load), .lock true]
    (.toggle "a") hfailed
  obtain ⟨hfile, hlater⟩ := hunnoticed.2 hencodable
  exact ⟨⟨hfailed, hencodable⟩, hfile, hlater fun _ _ _ => rfl⟩

/-- What an editor sends for a workflow with a lone surrogate in its name. -/
def misnamed : Value :=
  .object [("id", .text "b"), ("name", .text [.surrogate ⟨0, by decide⟩]),
    ("nodes", .list [.object [("id", .text "t"), ("type", .text "trigger")]])]

/-- A workflow that cannot be encoded is refused, and takes the file with it. An unread entry that could not
be deleted stands in the file, and is lost with the next writing. -/
theorem failed_noticed :
    let free : Desk := ⟨ofFile (fileOf [plain "a"]), .ofNumbers []⟩
    let locked : Desk := past [.lock true] ⟨ofFile (fileOf [plain "a", broken "c"]), .ofNumbers []⟩
    let later : List Happening := [.lock false, .turn (.deed (.toggle "a"))]
    (((Deed.accept 0 misnamed).perform free).1.isFailure = true ∧
        ((Deed.accept 0 misnamed).perform free).2.catalog.file ≠ free.catalog.file) ∧
      ((Deed.delete "c").perform locked).1.isFailure = true ∧
        ((Deed.delete "c").perform locked).2.catalog.file = locked.catalog.file ∧
        (chronicle later ((Deed.delete "c").perform locked).2).map Prod.snd ≠
          (chronicle later locked).map Prod.snd := by
  refine ⟨⟨?_, ?_⟩, ?_, ?_, ?_⟩
  · decide +kernel
  · decide +kernel
  · decide +kernel
  · decide +kernel
  · decide +kernel

end Catalog

end ChatFlow
