import ChatFlow.Proofs.Double.Integers
import ChatFlow.Proofs.Json.Documents
import ChatFlow.Workflow.Node

/-!
# Settings that are read and written

What a kind of node writes are its own settings, each under its name, and behind them whatever else was kept.
Read again, each setting is found under its name and has a form in which it is taken as it is.

* `Fields.Kept`: the fields that a kind does not know, which are kept.
* `Loose`: settings that stand in the form in which they are written.
* `NodeBody.ofFields_toFields`: what a node has read, it writes and reads again.
-/

namespace ChatFlow

/-! ## Values that stand in documents as they are -/

namespace Value

theorem settledFields_eq (fs : List (Text × Value)) :
    settledFields fs = fs.map fun f => (f.1, f.2.settled) := by
  induction fs with
  | nil => rfl
  | cons f fs ih =>
      obtain ⟨name, v⟩ := f
      rw [settledFields, ih]
      rfl

theorem settledItems_eq (vs : List Value) : settledItems vs = vs.map settled := by
  induction vs with
  | nil => rfl
  | cons v vs ih => rw [settledItems, ih, List.map_cons]

theorem settledFields_eq_self {fs : List (Text × Value)} :
    settledFields fs = fs ↔ ∀ f ∈ fs, f.2.settled = f.2 := by
  induction fs with
  | nil => simp [settledFields]
  | cons f fs ih =>
      obtain ⟨name, v⟩ := f
      simp [settledFields, ih]

theorem settledItems_eq_self {vs : List Value} : settledItems vs = vs ↔ ∀ v ∈ vs, v.settled = v := by
  induction vs with
  | nil => simp [settledItems]
  | cons v vs ih => simp [settledItems, ih]

theorem settled_object {fs : List (Text × Value)} (h : (object fs).settled = object fs) :
    ∀ f ∈ fs, f.2.settled = f.2 := by
  rw [settled] at h
  exact settledFields_eq_self.mp (Value.object.inj h)

theorem settled_list {vs : List Value} (h : (list vs).settled = list vs) : ∀ v ∈ vs, v.settled = v := by
  rw [settled] at h
  exact settledItems_eq_self.mp (Value.list.inj h)

/-- A document without the numbers that are not finite is one too. -/
theorem IsDocument.settled {v : Value} (h : v.IsDocument) : v.settled.IsDocument := by
  induction h with
  | null => exact .null
  | bool b => exact .bool b
  | int h => exact .int h
  | float x =>
      rw [Value.settled]
      split
      · exact .float x
      · exact .null
  | text t => exact .text t
  | list _ ih =>
      rw [Value.settled, settledItems_eq]
      refine .list ?_
      intro v hv
      obtain ⟨w, hw, rfl⟩ := List.mem_map.mp hv
      exact ih w hw
  | object hnames _ ih =>
      rw [Value.settled, settledFields_eq]
      refine .object ?_ ?_
      · rw [Fields.names, List.map_map]
        exact hnames
      · intro f hf
        obtain ⟨g, hg, rfl⟩ := List.mem_map.mp hf
        exact ih g hg

theorem IsDocument.settled_settled {v : Value} (h : v.IsDocument) : v.settled.settled = v.settled := by
  induction h with
  | null => rfl
  | bool b => rfl
  | int h => rfl
  | float x =>
      by_cases hx : x.isFinite = true
      · simp [Value.settled, hx]
      · simp [Value.settled, hx]
  | text t => rfl
  | list _ ih =>
      rw [Value.settled, Value.settled]
      refine congrArg Value.list (settledItems_eq_self.mpr ?_)
      rw [settledItems_eq]
      intro v hv
      obtain ⟨w, hw, rfl⟩ := List.mem_map.mp hv
      exact ih w hw
  | object hnames _ ih =>
      rw [Value.settled, Value.settled]
      refine congrArg Value.object (settledFields_eq_self.mpr ?_)
      rw [settledFields_eq]
      intro f hf
      obtain ⟨g, hg, rfl⟩ := List.mem_map.mp hf
      exact ih g hg

end Value

/-! ## Fields that are kept -/

namespace Fields

variable {fs own kept : Fields Value} {names : List Text} {name : Text} {v : Value}

/-- Fields that a reader does not know: they have different names, none of which it knows, and values that
a document can hold. -/
structure Kept (names : List Text) (kept : Fields Value) : Prop where
  nodup : kept.names.Nodup
  unknown : ∀ f ∈ kept, f.1 ∉ names
  documents : ∀ f ∈ kept, f.2.IsDocument

theorem mem_without : (name, v) ∈ fs.without names ↔ (name, v) ∈ fs ∧ name ∉ names := by
  simp [without]

/-- A field that the reader knows is not kept, whatever it is set to. -/
theorem without_set (h : name ∈ names) (fs : Fields Value) (v : Value) :
    (fs.set name v).without names = fs.without names := by
  have hleft : ∀ (rest : Fields Value) (u : Value), Fields.without ((name, u) :: rest) names = rest.without names := by
    intro rest u
    rw [without, List.filter_cons_of_neg (by simpa using h)]
    rfl
  induction fs with
  | nil => exact hleft [] v
  | cons f fs ih =>
      obtain ⟨n, u⟩ := f
      rw [set]
      by_cases hn : n = name
      · subst hn
        rw [if_pos rfl, hleft, hleft]
      · rw [if_neg hn, without, without, List.filter_cons, List.filter_cons]
        exact ite_congr rfl (fun _ => congrArg _ ih) fun _ => ih

/-- What is left of the fields of a document is kept. -/
theorem kept_without (h : (Value.object fs).IsDocument) (names : List Text) :
    Kept names (fs.without names) := by
  refine ⟨?_, ?_, ?_⟩
  · exact h.names_nodup.sublist (List.Sublist.map _ List.filter_sublist)
  · rintro ⟨name, v⟩ hf
    exact (mem_without.mp hf).2
  · rintro ⟨name, v⟩ hf
    exact h.field _ (mem_without.mp hf).1

/-- Behind the fields that the reader knows, the kept ones are found again. -/
theorem Kept.without_append (h : Kept names kept) (hown : own.names = names) :
    Fields.without (own ++ kept) names = kept := by
  have hnone : own.filter (fun f => !names.contains f.1) = [] := by
    refine List.filter_eq_nil_iff.mpr ?_
    intro f hf
    have hmem : f.1 ∈ names := hown ▸ List.mem_map_of_mem hf
    simp [hmem]
  have hall : kept.filter (fun f => !names.contains f.1) = kept := by
    refine List.filter_eq_self.mpr ?_
    intro f hf
    simp [h.unknown f hf]
  rw [without, List.filter_append]
  exact (congrArg₂ (· ++ ·) hnone hall).trans (List.nil_append kept)

/-- Together with the fields that the reader knows, the kept ones make a document. -/
theorem Kept.isDocument_append (h : Kept names kept) (hown : own.names = names) (hnames : names.Nodup)
    (hdocuments : ∀ f ∈ own, f.2.IsDocument) : (Value.object (own ++ kept)).IsDocument := by
  refine .object ?_ ?_
  · have hnodup : own.names.Nodup := hown ▸ hnames
    rw [Fields.names, List.map_append]
    refine hnodup.append h.nodup ?_
    intro name hmem hkept
    obtain ⟨f, hf, rfl⟩ := List.mem_map.mp hkept
    exact h.unknown f hf (hown ▸ hmem)
  · intro f hf
    rcases List.mem_append.mp hf with hf | hf
    · exact hdocuments f hf
    · exact h.documents f hf

theorem Kept.settled (h : Kept names kept) : Kept names (Value.settledFields kept) := by
  rw [Value.settledFields_eq]
  refine ⟨?_, ?_, ?_⟩
  · rw [Fields.names, List.map_map]
    exact h.nodup
  · intro f hf
    obtain ⟨g, hg, rfl⟩ := List.mem_map.mp hf
    exact h.unknown g hg
  · intro f hf
    obtain ⟨g, hg, rfl⟩ := List.mem_map.mp hf
    exact (h.documents g hg).settled

end Fields

/-! ## Settings in the form in which they are written -/

namespace Loose

variable {fs : Fields Value} {name : Text}

theorem number_isFinite (fs : Fields Value) (name : Text) {other : Double} (hother : other.isFinite = true) :
    (number fs name other).isFinite = true := by
  unfold number
  rcases hfound : (filled? fs name).bind number? with _ | x
  · exact hother
  · obtain ⟨v, -, hv⟩ := Option.bind_eq_some_iff.mp hfound
    exact (Option.filter_eq_some_iff.mp hv).2

/-- A finite number stays as it is. -/
theorem number_float {x other : Double} (h : fs.get? name = some (.float x)) (hx : x.isFinite = true) :
    number fs name other = x := by
  have hfilled : filled? fs name = some (.float x) := by
    rw [filled?, h]
    rfl
  have hnumber : number? (.float x) = some x := by
    simp [number?, Option.filter_some, hx]
  rw [number, hfilled, Option.bind_some, hnumber, Option.getD_some]

theorem exact_integer (fs : Fields Value) (name : Text) {other : Int} (hother : Double.Exact other) :
    Double.Exact (integer fs name other) := by
  unfold integer
  rcases hfound : ((filled? fs name).bind number?).bind Double.truncate? with _ | n
  · exact hother
  · obtain ⟨x, -, hx⟩ := Option.bind_eq_some_iff.mp hfound
    exact Double.exact_of_truncate? hx

/-- An integer that is a double stays as it is. -/
theorem integer_int {n other : Int} (h : fs.get? name = some (.int n)) (hn : Double.Exact n) :
    integer fs name other = n := by
  have hfilled : filled? fs name = some (.int n) := by
    rw [filled?, h]
    rfl
  have hnumber : number? (.int n) = some (Double.ofInt n) := by
    simp [number?, Option.filter_some, hn.isFinite_ofInt]
  rw [integer, hfilled, Option.bind_some, hnumber, Option.bind_some, hn.truncate?_ofInt, Option.getD_some]

/-- What is taken is the stand-in, which is not null, or the value of the field, which is not null then. -/
theorem any_spec (fs : Fields Value) (name : Text) {other : Value} (hother : other ≠ .null) :
    any fs name other ≠ .null ∧ (any fs name other = other ∨ (name, any fs name other) ∈ fs) := by
  unfold any
  cases hget : fs.get? name with
  | none => exact ⟨hother, .inl rfl⟩
  | some v =>
      have hmem : (name, v) ∈ fs := Fields.mem_of_get? hget
      cases v with
      | null => exact ⟨hother, .inl rfl⟩
      | _ => exact ⟨by simp, .inr hmem⟩

/-- A value that is not null stays as it is. -/
theorem any_value {v other : Value} (h : fs.get? name = some v) (hv : v ≠ .null) : any fs name other = v := by
  unfold any
  rw [h]
  split
  · next hnone => cases hnone
  · next hnull =>
      cases hnull
      exact absurd rfl hv
  · next hsome =>
      cases hsome
      rfl

end Loose

/-! ## The settings of each kind -/

namespace ActionData

theorem ofFields_append {d : ActionData} (h : d.timeout.isFinite = true) (kept : Fields Value) :
    ofFields (d.declared ++ kept) = { d with extra := Fields.without (d.declared ++ kept) names } := by
  have htimeout : Loose.number (d.declared ++ kept) "api_timeout" 10 = d.timeout :=
    Loose.number_float rfl h
  have hrest : ofFields (d.declared ++ kept) =
      { d with timeout := Loose.number (d.declared ++ kept) "api_timeout" 10
               extra := Fields.without (d.declared ++ kept) names } := rfl
  rw [hrest, htimeout]

end ActionData

namespace DelayData

theorem ofFields_append {d : DelayData} (h : d.seconds.isFinite = true) (kept : Fields Value) :
    ofFields (d.declared ++ kept) = { d with extra := Fields.without (d.declared ++ kept) names } := by
  have hseconds : Loose.number (d.declared ++ kept) "seconds" 1 = d.seconds := Loose.number_float rfl h
  rw [ofFields, hseconds]

end DelayData

namespace StorageData

variable {Op : Type} {words : List (Text × Op)} {label : Op → Text} {usual : Op} {resultVar : Text}

theorem ofFields_append {d : StorageData Op} (hlabel : ∀ op, (label op).isBlank = false)
    (hwords : ∀ op, Fields.get? words (label op) = some op) (hother : d.other ≠ .null)
    (kept : Fields Value) :
    ofFields words usual resultVar (d.declared label ++ kept) =
      { d with extra := Fields.without (d.declared label ++ kept) names } := by
  have hop : Loose.word words (d.declared label ++ kept) "storage_type" usual = d.op := by
    have hfilled : Loose.filled? (d.declared label ++ kept) "storage_type" =
        some (.text (label d.op)) := by
      have hget : Fields.get? (d.declared label ++ kept) "storage_type" = some (.text (label d.op)) := rfl
      simp [Loose.filled?, hget, Option.filter_some, Loose.isVoid, hlabel]
    simp [Loose.word, hfilled, hwords]
  have hany : Loose.any (d.declared label ++ kept) "default_value" (.int 0) = d.other :=
    Loose.any_value rfl hother
  have hrest : ofFields words usual resultVar (d.declared label ++ kept) =
      { d with op := Loose.word words (d.declared label ++ kept) "storage_type" usual
               other := Loose.any (d.declared label ++ kept) "default_value" (.int 0)
               extra := Fields.without (d.declared label ++ kept) names } := rfl
  rw [hrest, hop, hany]

end StorageData

namespace LeaderboardData

theorem ofFields_append {d : LeaderboardData} (hlimit : Double.Exact d.limit) (hpos : 1 ≤ d.limit)
    (kept : Fields Value) :
    ofFields (d.declared ++ kept) = { d with extra := Fields.without (d.declared ++ kept) names } := by
  have hinteger : Loose.integer (d.declared ++ kept) "limit" usualLimit = d.limit :=
    Loose.integer_int rfl hlimit
  have hquery : Loose.word RankingQuery.words (d.declared ++ kept) "leaderboard_type" .top = d.query := by
    obtain ⟨query, key, limit, ascending, extra⟩ := d
    cases query with
    | top => rfl
    | myRank => rfl
    | count => rfl
  have hrest : ofFields (d.declared ++ kept) =
      { d with query := Loose.word RankingQuery.words (d.declared ++ kept) "leaderboard_type" .top
               limit := if 1 ≤ Loose.integer (d.declared ++ kept) "limit" usualLimit then
                 Loose.integer (d.declared ++ kept) "limit" usualLimit else usualLimit
               extra := Fields.without (d.declared ++ kept) names } := rfl
  rw [hrest, hquery, hinteger, if_pos hpos]

end LeaderboardData

namespace NodeBody

variable {k : NodeKind} {fs : Fields Value}

/-- The names of the settings of a kind. -/
def names : NodeKind → List Text
  | .trigger => TriggerData.names
  | .condition => ConditionData.names
  | .action => ActionData.names
  | .delay => DelayData.names
  | .setVar => SetVarData.names
  | .storage => StorageData.names
  | .sharedStorage => StorageData.names
  | .leaderboard => LeaderboardData.names
  | .listRandom => ListRandomData.names

/-- The settings of the kind itself. -/
def declared : NodeBody → Fields Value
  | trigger d => d.declared
  | condition d => d.declared
  | action d => d.declared
  | delay d => d.declared
  | setVar d => d.declared
  | storage d => d.declared UserOp.label
  | sharedStorage d => d.declared SharedOp.label
  | leaderboard d => d.declared
  | listRandom d => d.declared

/-- The fields that are kept behind them. -/
def extra : NodeBody → Fields Value
  | trigger d => d.extra
  | condition d => d.extra
  | action d => d.extra
  | delay d => d.extra
  | setVar d => d.extra
  | storage d => d.extra
  | sharedStorage d => d.extra
  | leaderboard d => d.extra
  | listRandom d => d.extra

/-- The same settings with other fields behind them. -/
def withExtra : NodeBody → Fields Value → NodeBody
  | trigger d, kept => trigger { d with extra := kept }
  | condition d, kept => condition { d with extra := kept }
  | action d, kept => action { d with extra := kept }
  | delay d, kept => delay { d with extra := kept }
  | setVar d, kept => setVar { d with extra := kept }
  | storage d, kept => storage { d with extra := kept }
  | sharedStorage d, kept => sharedStorage { d with extra := kept }
  | leaderboard d, kept => leaderboard { d with extra := kept }
  | listRandom d, kept => listRandom { d with extra := kept }

theorem withExtra_extra (b : NodeBody) : b.withExtra b.extra = b := by
  cases b with
  | _ d => rfl

theorem toFields_eq (b : NodeBody) : b.toFields = b.declared ++ b.extra := by
  cases b with
  | _ d => rfl

theorem names_declared (b : NodeBody) : b.declared.names = names b.kind := by
  cases b with
  | _ d => rfl

theorem nodup_names (k : NodeKind) : (names k).Nodup := by
  cases k <;> decide +kernel

theorem extra_ofFields (k : NodeKind) (fs : Fields Value) :
    (ofFields k fs).extra = fs.without (names k) := by
  cases k <;> rfl

/-! ## The settings of all kinds -/

/-- A text, a truth value or a finite number. -/
def isSimple : Value → Bool
  | .text _ => true
  | .bool _ => true
  | .float x => x.isFinite
  | _ => false

theorem isDocument_of_isSimple {v : Value} (h : isSimple v = true) : v.IsDocument ∧ v.settled = v := by
  cases v with
  | text t => exact ⟨.text t, rfl⟩
  | bool b => exact ⟨.bool b, rfl⟩
  | float x =>
      have hfinite : x.isFinite = true := h
      exact ⟨.float x, by rw [Value.settled, if_pos hfinite]⟩
  | _ => cases h

theorem isFinite_seconds (fs : Fields Value) : (DelayData.ofFields fs).seconds.isFinite = true :=
  Loose.number_isFinite fs _ Double.isFinite_one

theorem isFinite_timeout (fs : Fields Value) : (ActionData.ofFields fs).timeout.isFinite = true :=
  Loose.number_isFinite fs _ Double.isFinite_ten

theorem limit_spec (fs : Fields Value) :
    Double.Exact (LeaderboardData.ofFields fs).limit ∧ 1 ≤ (LeaderboardData.ofFields fs).limit := by
  have husual : Double.Exact LeaderboardData.usualLimit := Double.exact_of_natAbs_le (by decide)
  unfold LeaderboardData.ofFields
  dsimp only
  split
  · next hpos => exact ⟨Loose.exact_integer fs _ husual, hpos⟩
  · exact ⟨husual, by decide⟩

/-- What stands in for a value that is not stored is not null, and it is a zero or was sent. -/
theorem other_spec {Op : Type} (words : List (Text × Op)) (usual : Op) (resultVar : Text)
    (fs : Fields Value) :
    (StorageData.ofFields words usual resultVar fs).other ≠ .null ∧
      ((StorageData.ofFields words usual resultVar fs).other = .int 0 ∨
        (("default_value" : Text), (StorageData.ofFields words usual resultVar fs).other) ∈ fs) :=
  Loose.any_spec fs "default_value" (fun h => nomatch h)

theorem declared_storage {Op : Type} (label : Op → Text) (d : StorageData Op) {f : Text × Value}
    (hf : f ∈ d.declared label) : isSimple f.2 = true ∨ f.2 = d.other := by
  simp only [StorageData.declared, List.mem_cons, List.not_mem_nil, or_false] at hf
  rcases hf with rfl | rfl | rfl | rfl | rfl
  · exact .inl rfl
  · exact .inl rfl
  · exact .inl rfl
  · exact .inl rfl
  · exact .inr rfl

theorem declared_leaderboard (d : LeaderboardData) {f : Text × Value} (hf : f ∈ d.declared) :
    isSimple f.2 = true ∨ f.2 = .int d.limit := by
  simp only [LeaderboardData.declared, List.mem_cons, List.not_mem_nil, or_false] at hf
  rcases hf with rfl | rfl | rfl | rfl
  · exact .inl rfl
  · exact .inl rfl
  · exact .inr rfl
  · exact .inl rfl

/-- The settings that were read of a document are simple, or else a limit or a value of the document. -/
theorem declared_spec (k : NodeKind) (fs : Fields Value) {f : Text × Value}
    (hf : f ∈ (ofFields k fs).declared) :
    isSimple f.2 = true ∨ (∃ n, f.2 = .int n ∧ Double.Exact n) ∨ ∃ g ∈ fs, g.2 = f.2 := by
  have hzero : Double.Exact 0 := Double.exact_of_natAbs_le (by decide)
  have hsimple : ∀ {own : Fields Value}, own.all (fun g => isSimple g.2) = true → f ∈ own →
      isSimple f.2 = true := fun hall hmem => List.all_eq_true.mp hall f hmem
  have hstorage : ∀ {other : Value}, f.2 = other → other = .int 0 ∨ (("default_value" : Text), other) ∈ fs →
      (∃ n, f.2 = .int n ∧ Double.Exact n) ∨ ∃ g ∈ fs, g.2 = f.2 := by
    rintro other rfl (hint | hmem)
    · exact .inl ⟨0, hint, hzero⟩
    · exact .inr ⟨_, hmem, rfl⟩
  -- only the limit of a ranking and what stands in for a stored value are not simple in any case
  cases k with
  | trigger => exact .inl (hsimple rfl hf)
  | condition => exact .inl (hsimple rfl hf)
  | action =>
      have hall : (ofFields .action fs).declared.all (fun g => isSimple g.2) =
          ((ActionData.ofFields fs).timeout.isFinite && true) := rfl
      rw [isFinite_timeout] at hall
      exact .inl (hsimple hall hf)
  | delay =>
      have hall : (ofFields .delay fs).declared.all (fun g => isSimple g.2) =
          ((DelayData.ofFields fs).seconds.isFinite && true) := rfl
      rw [isFinite_seconds] at hall
      exact .inl (hsimple hall hf)
  | setVar => exact .inl (hsimple rfl hf)
  | storage =>
      rcases declared_storage _ _ hf with hplain | hother
      · exact .inl hplain
      · exact .inr (hstorage hother (other_spec ..).2)
  | sharedStorage =>
      rcases declared_storage _ _ hf with hplain | hother
      · exact .inl hplain
      · exact .inr (hstorage hother (other_spec ..).2)
  | leaderboard =>
      rcases declared_leaderboard _ hf with hplain | hlimit
      · exact .inl hplain
      · exact .inr (.inl ⟨_, hlimit, (limit_spec fs).1⟩)
  | listRandom => exact .inl (hsimple rfl hf)

theorem isBlank_sharedLabel (op : SharedOp) : op.label.isBlank = false := by
  cases op <;> decide

theorem get?_sharedLabel (op : SharedOp) : Fields.get? SharedOp.words op.label = some op := by
  cases op <;> decide

theorem isBlank_userLabel (op : UserOp) : op.label.isBlank = false := by
  cases op with
  | shared op => exact isBlank_sharedLabel op
  | delete => decide

theorem get?_userLabel (op : UserOp) : Fields.get? UserOp.words op.label = some op := by
  cases op with
  | shared op => cases op <;> decide
  | delete => decide

/-- Settings that were read of fields are found again in front of any other ones. -/
theorem ofFields_append (k : NodeKind) (fs kept : Fields Value) :
    ofFields k ((ofFields k fs).declared ++ kept) =
      (ofFields k fs).withExtra (Fields.without ((ofFields k fs).declared ++ kept) (names k)) := by
  cases k with
  | trigger => rfl
  | condition => rfl
  | action => exact congrArg action (ActionData.ofFields_append (isFinite_timeout fs) kept)
  | delay => exact congrArg delay (DelayData.ofFields_append (isFinite_seconds fs) kept)
  | setVar => rfl
  | storage =>
      exact congrArg storage
        (StorageData.ofFields_append isBlank_userLabel get?_userLabel (other_spec ..).1 kept)
  | sharedStorage =>
      exact congrArg sharedStorage
        (StorageData.ofFields_append isBlank_sharedLabel get?_sharedLabel (other_spec ..).1 kept)
  | leaderboard =>
      exact congrArg leaderboard
        (LeaderboardData.ofFields_append (limit_spec fs).1 (limit_spec fs).2 kept)
  | listRandom => rfl

/-- Without numbers that are not finite, nothing of it is lost. -/
theorem settled_toFields (k : NodeKind) (hfinite : ∀ f ∈ fs, f.2.settled = f.2) :
    Value.settledFields (ofFields k fs).toFields = (ofFields k fs).toFields := by
  rw [Value.settledFields_eq_self, toFields_eq]
  intro f hf
  rcases List.mem_append.mp hf with hdeclared | hextra
  · rcases declared_spec k fs hdeclared with hsimple | ⟨n, hn, -⟩ | ⟨g, hg, hsame⟩
    · exact (isDocument_of_isSimple hsimple).2
    · rw [hn]
      rfl
    · exact hsame ▸ hfinite g hg
  · rw [extra_ofFields] at hextra
    exact hfinite f (Fields.mem_without.mp hextra).1

variable (h : (Value.object fs).IsDocument)

include h

theorem kept_extra (k : NodeKind) : Fields.Kept (names k) (ofFields k fs).extra := by
  rw [extra_ofFields]
  exact Fields.kept_without h (names k)

/-- What was read of a document is written as one. -/
theorem isDocument_toFields (k : NodeKind) : (Value.object (ofFields k fs).toFields).IsDocument := by
  have hnames := names_declared (ofFields k fs)
  rw [kind_ofFields] at hnames
  have hdeclared : ∀ f ∈ (ofFields k fs).declared, f.2.IsDocument := by
    intro f hf
    rcases declared_spec k fs hf with hsimple | ⟨n, hn, hexact⟩ | ⟨g, hg, hsame⟩
    · exact (isDocument_of_isSimple hsimple).1
    · rw [hn]
      exact .int hexact.not_integerTooLong
    · exact hsame ▸ h.field g hg
  rw [toFields_eq]
  exact (kept_extra h k).isDocument_append hnames (nodup_names k) hdeclared

/-- What was read of a document is read again as it is written. -/
theorem ofFields_toFields (k : NodeKind) : ofFields k (ofFields k fs).toFields = ofFields k fs := by
  have hnames := names_declared (ofFields k fs)
  rw [kind_ofFields] at hnames
  have hkept : Fields.without (ofFields k fs).toFields (names k) = (ofFields k fs).extra := by
    rw [toFields_eq]
    exact (kept_extra h k).without_append hnames
  have hread := ofFields_append k fs (ofFields k fs).extra
  rw [← toFields_eq, hkept, withExtra_extra] at hread
  exact hread

end NodeBody

end ChatFlow
