import ChatFlow.Proofs.Run.Moments

/-!
# Conditions on stored texts

A condition asks whether a stored text is the one that stands behind a key and an equals sign. What it compares ends at
the next equals sign, so that the answer is not always right: a stored text with an equals sign in it is not found equal
to itself, and one that the compared text goes on from is found equal to it.

* `Condition.Compares`: the kinds of conditions that ask this, and of whom.
* `Condition.compared`: the part of a text that is compared.
* `Act.run_holds_compared`: what the condition finds; `holds_unless_equals_sign`: when it is right.
-/

namespace ChatFlow

namespace Condition

variable {s t : Text}

/-- The kind of condition asks for a text of the owner: one of the user who sent the message, or a shared one. -/
inductive Compares (m : Message) : (kind : Text) → Owner → Prop
  | user : Compares m "data_equals" (.user m.event.userId)
  | shared : Compares m "global_equals" .shared

/-- The part of a text that is compared: it ends before an equals sign. -/
def compared (t : Text) : Text := (Text.partition '=' t).1.trim

theorem notMem_compared (t : Text) : .scalar '=' ∉ compared t := by
  intro hmem
  exact Text.notMem_partition _ t (Text.trim_subset _ hmem)

/-- Without an equals sign, all of the text is compared. -/
theorem compared_eq (htrim : t.trim = t) (h : .scalar '=' ∉ t) : compared t = t := by
  rw [compared, Text.partition_of_not_mem h, htrim]

/-- To compare with the part is to compare with the text, unless the text has an equals sign and is one of the two. -/
theorem eq_compared_iff (htrim : t.trim = t) :
    (s = compared t ↔ t = s) ↔ (.scalar '=' ∈ t → s ≠ t ∧ s ≠ compared t) := by
  by_cases hsign : .scalar '=' ∈ t
  · have hpart : compared t ≠ t := by
      intro heq
      have hnone := notMem_compared t
      rw [heq] at hnone
      exact hnone hsign
    rw [imp_iff_right hsign]
    constructor
    · intro hright
      constructor
      · rintro rfl
        exact hpart (hright.mpr rfl).symm
      · intro heq
        exact hpart (heq ▸ (hright.mp heq).symm)
    · rintro ⟨hwhole, hpart⟩
      exact iff_of_false hpart (Ne.symm hwhole)
  · rw [compared_eq htrim hsign]
    exact iff_of_true eq_comm fun hmem => absurd hmem hsign

end Condition

namespace Act

open Condition

variable {d : ConditionData} {m : Message} {sc : Scene} {owner : Owner} {key s t : Text}

theorem run_storedEquals {sep : CodePoint} {value : Text} (hoperand : operand sep value = (key, some t))
    (hread : sc.world.store.read owner key (.text []) = .ok (.text s)) :
    (storedEquals owner sep value).run.run sc = (.ok (decide (s = t)), sc) := by
  unfold storedEquals
  simp only [hoperand, stored, run_bind, run_lift, run_world, hread, Value.display, run_pure]

/-- A condition of such a kind compares what is stored with what its value comes to. -/
theorem run_holds_of_compares (hkind : Compares m d.kind owner) (hbrace : .scalar '{' ∉ d.value) :
    (holds d m).run.run sc = (storedEquals owner '=' d.value).run.run sc := by
  rw [holds, run_bind, run_render_of_no_brace m sc hbrace]
  generalize hname : d.kind = kind at hkind
  cases hkind with
  | user => rfl
  | shared => rfl

/-- The condition finds whether the stored text is the part that is compared. -/
theorem run_holds_compared (hkind : Compares m d.kind owner) (hvalue : d.value = key ++ .scalar '=' :: t)
    (hkey : key.IsName) (hkeyTrim : key.trim = key) (hkeySign : .scalar '=' ∉ key) (ht : t.IsName)
    (hintact : sc.world.store.intact = true) (hplace : Place.isEncodable (owner, key) = true)
    (hheld : sc.world.store.contents (owner, key) = some (.text s)) :
    (holds d m).run.run sc = (.ok (decide (s = compared t)), sc) := by
  have hbrace : .scalar '{' ∉ d.value := by
    rw [hvalue, List.mem_append, List.mem_cons]
    rintro (hmem | hsign | hmem)
    · exact (hkey.2 _ hmem).1 rfl
    · cases hsign
    · exact (ht.2 _ hmem).1 rfl
  have hread : sc.world.store.read owner key (.text []) = .ok (.text s) := by
    rw [Store.read_eq (p := (owner, key)) hintact hplace, Contents.valueOr, hheld]
  rw [run_holds_of_compares hkind hbrace, hvalue]
  exact run_storedEquals (operand_append hkeyTrim hkeySign t) hread

/-- A condition asks whether a stored text is the one behind the key and the equals sign. It comes to an answer and
changes nothing. The answer is right exactly if the asked text has no equals sign, or is neither the stored text nor one
that goes on from it. -/
theorem holds_unless_equals_sign (hkind : Compares m d.kind owner) (hvalue : d.value = key ++ .scalar '=' :: t)
    (hkey : key.IsName) (hkeyTrim : key.trim = key) (hkeySign : .scalar '=' ∉ key) (ht : t.IsName) (htTrim : t.trim = t)
    (hintact : sc.world.store.intact = true) (hplace : Place.isEncodable (owner, key) = true)
    (hheld : sc.world.store.contents (owner, key) = some (.text s)) :
    ∃ answer, (holds d m).run.run sc = (.ok answer, sc) ∧
      ((answer = true ↔ t = s) ↔ (.scalar '=' ∈ t → s ≠ t ∧ s ≠ compared t)) := by
  refine ⟨_, run_holds_compared hkind hvalue hkey hkeyTrim hkeySign ht hintact hplace hheld, ?_⟩
  rw [decide_eq_true_eq]
  exact eq_compared_iff htTrim

/-- A shared text is stored, and a condition asks whether it is another one. -/
def sampleComparison (asked : Text) : ConditionData := ⟨"global_equals", "k=" ++ asked, [], []⟩

/-- A scene in which a text is stored. -/
def sampleStored (t : Text) : Scene := ⟨sampleWorld (Store.empty.write .shared "k" (.text t)).2, .start []⟩

/-- The asked text has an equals sign, and neither it nor its beginning is stored. -/
theorem holds_unless_equals_sign_of_sample :
    let d := sampleComparison "a=b"
    let m : Message := ⟨.ofUser "u", "hi"⟩
    let sc := sampleStored "b"
    (Compares m d.kind .shared ∧ d.value = ("k" : Text) ++ .scalar '=' :: ("a=b" : Text) ∧ Text.IsName "k" ∧
        Text.trim "k" = "k" ∧ .scalar '=' ∉ ("k" : Text) ∧ Text.IsName "a=b" ∧ Text.trim "a=b" = "a=b" ∧
        sc.world.store.intact = true ∧ Place.isEncodable (.shared, "k") = true ∧
        sc.world.store.contents (.shared, "k") = some (.text "b")) ∧
      (holds d m).run.run sc = (.ok false, sc) := by
  intro d m sc
  have hvalue : d.value = ("k" : Text) ++ .scalar '=' :: ("a=b" : Text) := by decide
  have hkey : Text.IsName "k" := ⟨by decide, by decide⟩
  have htext : Text.IsName "a=b" := ⟨by decide, by decide⟩
  have hsign : .scalar '=' ∉ ("k" : Text) := by decide
  have hheld : sc.world.store.contents (.shared, "k") = some (.text "b") := by decide +kernel
  obtain ⟨answer, hrun, hright⟩ :=
    holds_unless_equals_sign (d := d) (m := m) .shared hvalue hkey (by decide) hsign htext (by decide) rfl rfl hheld
  have hwrong : answer = false := by
    rw [← Bool.not_eq_true]
    exact fun htrue => absurd ((hright.mpr fun _ => by decide).mp htrue) (by decide)
  rw [hwrong] at hrun
  exact ⟨⟨.shared, hvalue, hkey, by decide, hsign, htext, by decide, rfl, rfl, hheld⟩, hrun⟩

/-- A stored text with an equals sign is not found equal to itself, and a text that goes on from a stored one behind an
equals sign is found equal to it. -/
theorem holds_beside_equals_sign :
    let m : Message := ⟨.ofUser "u", "hi"⟩
    ((holds (sampleComparison "a=b") m).run.run (sampleStored "a=b")).1 = .ok false ∧
      ((holds (sampleComparison "a=b") m).run.run (sampleStored "a")).1 = .ok true := by
  decide +kernel

end Act

end ChatFlow
