import ChatFlow.Proofs.Workflow.Settled

/-!
# Settings and their domains

Every setting of a node has a domain and a default. What an editor sent for it is taken for a value of the domain;
where nothing was sent, or null, or something that cannot be taken for such a value, the default is taken. So the
settings of a node are always read, and no workflow is refused for them.

* `Domain`: the domains, their values, and what a value is taken for.
* `NodeKind.settings`: the settings of each kind of nodes.
* `NodeBody.declared_ofFields`: each setting is read in its domain.
* `Workflow.check_withoutData`: a workflow is read without its settings as it is with them.
* `NodeBody.settings_read`: all of this together.
-/

namespace ChatFlow

/-! ## Domains -/

/-- What a setting may be. -/
inductive Domain where
  | text
  | bool
  | number
  /-- An integer that is positive. -/
  | limit
  | word (words : List Text)
  | any

namespace Domain

/-- Is it a value of the domain? -/
def admits : Domain → Value → Bool
  | text, .text _ => true
  | bool, .bool _ => true
  | number, .float x => x.isFinite
  | limit, .int n => 1 ≤ n
  | word words, .text t => words.contains t
  | any, v => v ≠ .null
  | _, _ => false

/-- The text that a value is taken for. -/
def text? : Value → Option Text
  | .null => none
  | .text t => some t
  | .bool b => some (if b then "true" else "false")
  | .int n => some (Text.ofInt n)
  | .float x => some x.toText
  | v => some (Json.text .line v)

/-- The truth value that a value is taken for. -/
def truth? : Value → Option Bool
  | .bool b => some b
  | .text t => some (Loose.isTrue (.text t))
  | .int n => some (Loose.isTrue (.int n))
  | .float x => some (Loose.isTrue (.float x))
  | _ => none

/-- The limit that a value is taken for: the integer part of a number. -/
def limit? (v : Value) : Option Int := ((Loose.number? v).bind Double.truncate?).filter (1 ≤ ·)

/-- The word that a value is. -/
def word? (words : List Text) : Value → Option Text
  | .text t => if words.contains t then some t else none
  | _ => none

/-- The value of the domain that a value is taken for. There is none for null, and for a blank text only a text. -/
def read? (d : Domain) (v : Value) : Option Value :=
  match d with
  | text => (text? v).map .text
  | any => if v = .null then none else some v
  | bool => if Loose.isVoid v then none else (truth? v).map .bool
  | number => if Loose.isVoid v then none else (Loose.number? v).map .float
  | limit => if Loose.isVoid v then none else (limit? v).map .int
  | word words => if Loose.isVoid v then none else (word? words v).map .text

/-- Null is taken for nothing. -/
theorem read?_null (d : Domain) : d.read? .null = none := by
  cases d <;> rfl

/-- What a value is taken for is of the domain. -/
theorem admits_of_read? {d : Domain} {v u : Value} (h : d.read? v = some u) : d.admits u = true := by
  have hguard : ∀ {o : Option Value}, (if Loose.isVoid v then none else o) = some u → o = some u := by
    intro o ho
    split at ho
    · cases ho
    · exact ho
  cases d with
  | text =>
      obtain ⟨t, -, rfl⟩ := Option.map_eq_some_iff.mp h
      rfl
  | any =>
      rw [read?] at h
      split at h
      · cases h
      · next hne =>
          cases h
          exact decide_eq_true hne
  | bool =>
      obtain ⟨b, -, rfl⟩ := Option.map_eq_some_iff.mp (hguard h)
      rfl
  | number =>
      obtain ⟨x, hx, rfl⟩ := Option.map_eq_some_iff.mp (hguard h)
      exact (Option.filter_eq_some_iff.mp hx).2
  | limit =>
      obtain ⟨n, hn, rfl⟩ := Option.map_eq_some_iff.mp (hguard h)
      exact (Option.filter_eq_some_iff.mp hn).2
  | word words =>
      obtain ⟨t, ht, rfl⟩ := Option.map_eq_some_iff.mp (hguard h)
      cases v with
      | text t' =>
          rw [word?] at ht
          split at ht
          · next hmem =>
              cases ht
              exact hmem
          · cases ht
      | _ => cases ht

end Domain

/-! ## Settings -/

/-- A setting: its name, its domain, and the value of the domain that stands in for it. -/
structure Setting where
  name : Text
  domain : Domain
  default : Value
  admitted : domain.admits default = true

namespace Setting

def text (name default : Text) : Setting := ⟨name, .text, .text default, rfl⟩

def bool (name : Text) : Setting := ⟨name, .bool, .bool false, rfl⟩

def number (name : Text) (default : Double) (h : default.isFinite = true) : Setting :=
  ⟨name, .number, .float default, h⟩

def limit (name : Text) : Setting := ⟨name, .limit, .int LeaderboardData.usualLimit, rfl⟩

def word (name : Text) (words : List Text) (default : Text) (h : words.contains default = true) : Setting :=
  ⟨name, .word words, .text default, h⟩

def any (name : Text) : Setting := ⟨name, .any, .int 0, rfl⟩

/-- What a setting is read as among the fields that were sent. -/
def read (s : Setting) (fs : Fields Value) : Value := ((fs.get? s.name).bind s.domain.read?).getD s.default

/-- A setting is read in its domain. -/
theorem admits_read (s : Setting) (fs : Fields Value) : s.domain.admits (s.read fs) = true := by
  rw [read]
  cases h : (fs.get? s.name).bind s.domain.read? with
  | none => exact s.admitted
  | some u =>
      obtain ⟨v, -, hv⟩ := Option.bind_eq_some_iff.mp h
      exact Domain.admits_of_read? hv

/-- What cannot be taken for a value of the domain leaves the default. -/
theorem read_unusable {s : Setting} {fs : Fields Value} {v : Value} (hget : fs.get? s.name = some v)
    (hv : s.domain.read? v = none) : s.read fs = s.default := by
  rw [read, hget, Option.bind_some, hv]
  rfl

/-! ### How settings of each domain are read -/

variable (fs : Fields Value) (name : Text)

theorem read_text (default : Text) : (text name default).read fs = .text (Loose.text fs name default) := by
  show ((fs.get? name).bind (Domain.read? .text)).getD (.text default) = _
  rw [Loose.text]
  cases fs.get? name with
  | none => rfl
  | some v => cases v <;> rfl

/-- A field that is filled is read unless it is void. -/
theorem bind_filled? {α : Type} (f : Value → Option α) :
    (Loose.filled? fs name).bind f = (fs.get? name).bind fun v => if Loose.isVoid v then none else f v := by
  rw [Loose.filled?]
  cases fs.get? name with
  | none => rfl
  | some v =>
      rw [Option.filter_some, Option.bind_some]
      cases Loose.isVoid v with
      | true => rfl
      | false => rfl

theorem read_bool : (bool name).read fs = .bool (Loose.bool fs name false) := by
  have hfilled := bind_filled? fs name fun v => (Domain.truth? v).map Value.bool
  show ((fs.get? name).bind (Domain.read? .bool)).getD (.bool false) = _
  rw [Loose.bool]
  refine (congrArg (Option.getD · _) hfilled.symm).trans ?_
  cases Loose.filled? fs name with
  | none => rfl
  | some v => cases v <;> rfl

theorem read_number {default : Double} (h : default.isFinite = true) :
    (number name default h).read fs = .float (Loose.number fs name default) := by
  have hfilled := bind_filled? fs name fun v => (Loose.number? v).map Value.float
  show ((fs.get? name).bind (Domain.read? .number)).getD (.float default) = _
  rw [Loose.number]
  refine (congrArg (Option.getD · _) hfilled.symm).trans ?_
  cases Loose.filled? fs name with
  | none => rfl
  | some v =>
      rw [Option.bind_some, Option.bind_some]
      cases Loose.number? v with
      | none => rfl
      | some x => rfl

/-- A limit that is not positive is not taken. -/
theorem read_limit : (limit name).read fs =
    .int (if 1 ≤ Loose.integer fs name LeaderboardData.usualLimit then
      Loose.integer fs name LeaderboardData.usualLimit else LeaderboardData.usualLimit) := by
  have hfilled := bind_filled? fs name fun v => (Domain.limit? v).map Value.int
  show ((fs.get? name).bind (Domain.read? .limit)).getD (.int LeaderboardData.usualLimit) = _
  rw [Loose.integer]
  refine (congrArg (Option.getD · _) hfilled.symm).trans ?_
  cases Loose.filled? fs name with
  | none => rfl
  | some v =>
      rw [Option.bind_some, Option.bind_some, Domain.limit?]
      cases (Loose.number? v).bind Double.truncate? with
      | none => rfl
      | some n =>
          rw [Option.filter_some, Option.getD_some]
          by_cases hn : 1 ≤ n
          · simp [hn]
          · simp [hn]

theorem read_any : (any name).read fs = Loose.any fs name (.int 0) := by
  show ((fs.get? name).bind (Domain.read? .any)).getD (.int 0) = _
  rw [Loose.any]
  cases fs.get? name with
  | none => rfl
  | some v => cases v <;> rfl

/-- A word that names what is chosen is read as it is. -/
theorem read_word {α : Type} {words : List (Text × α)} {label : α → Text} (usual : α)
    (hlabel : ∀ {t a}, Fields.get? words t = some a → label a = t)
    (h : (Fields.names words).contains (label usual) = true) :
    (word name (Fields.names words) (label usual) h).read fs = .text (label (Loose.word words fs name usual)) := by
  have hfilled := bind_filled? fs name fun v => (Domain.word? (Fields.names words) v).map Value.text
  show ((fs.get? name).bind (Domain.read? (.word (Fields.names words)))).getD (.text (label usual)) = _
  rw [Loose.word]
  refine (congrArg (Option.getD · _) hfilled.symm).trans ?_
  cases Loose.filled? fs name with
  | none => rfl
  | some v =>
      rw [Option.bind_some]
      cases v with
      | text t =>
          show (Option.map Value.text (if _ then some t else none)).getD _ = .text (label ((Fields.get? words t).getD usual))
          cases hget : Fields.get? words t with
          | none =>
              have hnone : (Fields.names words).contains t = false := by
                simpa using Fields.get?_eq_none_iff.mp hget
              rw [hnone]
              rfl
          | some a =>
              have hsome : (Fields.names words).contains t = true :=
                List.contains_iff_mem.mpr (Fields.mem_names_of_get? hget)
              rw [hsome, Option.getD_some, hlabel hget]
              rfl
      | _ => rfl

end Setting

/-! ## The settings of each kind -/

/-- The settings of a kind of nodes. -/
def NodeKind.settings : NodeKind → List Setting
  | .trigger =>
    [.text "trigger_type" "exact", .text "trigger_content" [], .text "trigger_value" []]
  | .condition =>
    [.text "condition_type" "contains", .text "condition_value" [], .text "var_name" []]
  | .action =>
    [.text "action_type" "reply_text", .text "action_value" [], .text "image_text" [], .text "file_name" [],
     .text "music_type" "qq", .text "target_user" ActionData.sender, .text "ban_duration" "600",
     .text "card_value" [], .bool "reject_add", .bool "enable_ban", .bool "enable_admin", .text "api_action" [],
     .text "api_params" ActionData.noParams, .text "result_var" [], .text "math_type" "add",
     .text "operand1" "0", .text "operand2" "0", .text "string_type" "concat", .text "input1" [],
     .text "input2" [], .text "target" [], .text "api_url" [], .text "api_method" "GET",
     .text "api_headers" [], .text "api_body" [], .number "api_timeout" 10 Double.isFinite_ten,
     .text "response_type" "json", .text "reply_type" "text", .text "api_reply" []]
  | .delay => [.number "seconds" 1 Double.isFinite_one]
  | .setVar => [.text "var_name" [], .text "var_value" []]
  | .storage =>
    [.word "storage_type" ["get", "set", "incr", "decr", "delete"] "get" (by decide), .text "storage_key" [],
     .text "storage_value" [], .text "result_var" "data_result", .any "default_value"]
  | .sharedStorage =>
    [.word "storage_type" ["get", "set", "incr", "decr"] "get" (by decide), .text "storage_key" [],
     .text "storage_value" [], .text "result_var" "global_result", .any "default_value"]
  | .leaderboard =>
    [.word "leaderboard_type" ["top", "my_rank", "count"] "top" (by decide), .text "leaderboard_key" "score",
     .limit "limit", .bool "ascending"]
  | .listRandom =>
    [.text "list_items" [], .text "weights" [], .text "result_var" "list_result",
     .text "index_var" "list_index"]

namespace NodeBody

variable (k : NodeKind) (fs : Fields Value)

theorem label_of_get?_user {t : Text} {op : UserOp} (h : Fields.get? UserOp.words t = some op) : op.label = t := by
  have hmem := Fields.mem_of_get? h
  simp only [UserOp.words, List.mem_cons, List.not_mem_nil, or_false] at hmem
  rcases hmem with h | h | h | h | h <;> cases h <;> rfl

theorem label_of_get?_shared {t : Text} {op : SharedOp} (h : Fields.get? SharedOp.words t = some op) :
    op.label = t := by
  have hmem := Fields.mem_of_get? h
  simp only [SharedOp.words, List.mem_cons, List.not_mem_nil, or_false] at hmem
  rcases hmem with h | h | h | h <;> cases h <;> rfl

theorem label_of_get?_query {t : Text} {q : RankingQuery} (h : Fields.get? RankingQuery.words t = some q) :
    q.label = t := by
  have hmem := Fields.mem_of_get? h
  simp only [RankingQuery.words, List.mem_cons, List.not_mem_nil, or_false] at hmem
  rcases hmem with h | h | h <;> cases h <;> rfl

theorem names_settings : k.settings.map (·.name) = names k := by
  cases k <;> rfl

/-- Each setting of a node is read in its domain. -/
theorem declared_ofFields : (ofFields k fs).declared = k.settings.map fun s => (s.name, s.read fs) := by
  open Setting in
  cases k with
  | trigger =>
      simp only [NodeKind.settings, List.map_cons, read_text]
      rfl
  | condition =>
      simp only [NodeKind.settings, List.map_cons, read_text]
      rfl
  | action =>
      simp only [NodeKind.settings, List.map_cons, read_text, read_bool, read_number]
      rfl
  | delay =>
      simp only [NodeKind.settings, List.map_cons, read_number]
      rfl
  | setVar =>
      simp only [NodeKind.settings, List.map_cons, read_text]
      rfl
  | storage =>
      have hword : (word "storage_type" ["get", "set", "incr", "decr", "delete"] "get" (by decide)).read fs =
          .text (Loose.word UserOp.words fs "storage_type" (.shared .get)).label :=
        read_word fs _ (.shared .get) label_of_get?_user rfl
      simp only [NodeKind.settings, List.map_cons, hword, read_text, read_any]
      rfl
  | sharedStorage =>
      have hword : (word "storage_type" ["get", "set", "incr", "decr"] "get" (by decide)).read fs =
          .text (Loose.word SharedOp.words fs "storage_type" .get).label :=
        read_word fs _ .get label_of_get?_shared rfl
      simp only [NodeKind.settings, List.map_cons, hword, read_text, read_any]
      rfl
  | leaderboard =>
      have hword : (word "leaderboard_type" ["top", "my_rank", "count"] "top" (by decide)).read fs =
          .text (Loose.word RankingQuery.words fs "leaderboard_type" .top).label :=
        read_word fs _ .top label_of_get?_query rfl
      simp only [NodeKind.settings, List.map_cons, hword, read_text, read_limit, read_bool]
      rfl
  | listRandom =>
      simp only [NodeKind.settings, List.map_cons, read_text]
      rfl

end NodeBody

/-! ## Workflows without their settings -/

namespace Node

/-- The node with the defaults of all settings. -/
def emptied (n : Node) : Node := { n with body := .ofFields n.body.kind [] }

/-- The document of a node without what was sent for its settings. -/
def withoutData : Value → Value
  | .object fs =>
    match Fields.get? fs "data" with
    | some (.object _) => .object (Fields.set fs "data" (.object []))
    | _ => .object fs
  | v => v

variable {fs : Fields Value}

/-- The settings are read, whatever object was sent for them. -/
theorem checkBody_object {data : Fields Value} (h : fs.get? "data" = some (.object data)) (k : NodeKind) :
    checkBody k fs = .accepted (.ofFields k data) := by
  rw [checkBody, h]
  rfl

/-- Without an object for them, the settings have their defaults already, or they are refused. -/
theorem emptied_checkBody (h : ∀ data, fs.get? "data" ≠ some (.object data)) (k : NodeKind) :
    checkBody k fs = .accepted (.ofFields k []) ∨ ∃ n, checkBody k fs = .refused n := by
  rw [checkBody]
  split
  · exact .inl rfl
  · exact .inl rfl
  · next v _ hv =>
      cases v with
      | object data => exact absurd hv (h data)
      | _ => exact .inr ⟨1, rfl⟩

/-- The fields of a node are read without its settings as they are with them. -/
theorem checkFields_emptied {data : Fields Value} (h : fs.get? "data" = some (.object data)) (k : NodeKind) :
    checkFields k (fs.set "data" (.object [])) = emptied <$> checkFields k fs := by
  have hdata : (fs.set "data" (.object [])).get? "data" = some (.object []) := by
    rw [Fields.get?_set, if_pos rfl]
  have hother : ∀ n : Text, n ≠ "data" → (fs.set "data" (.object [])).get? n = fs.get? n := by
    intro n hn
    rw [Fields.get?_set, if_neg hn.symm]
  have hkept : (fs.set "data" (.object [])).without names = fs.without names :=
    Fields.without_set (by decide) fs _
  rw [checkFields, checkFields, checkBody_object h, checkBody_object hdata, Check.field, Check.field, Loose.position,
    Loose.position, Loose.position, Loose.position, hother "id" (by decide), hother "x" (by decide),
    hother "y" (by decide), hkept]
  cases (fs.get? "id").elim Check.refuse Check.text with
  | refused n => rfl
  | accepted id =>
      show Check.accepted _ = Check.accepted (emptied _)
      rw [emptied, NodeBody.kind_ofFields]

/-- A node is read without its settings as it is with them, but for the settings. -/
theorem check_withoutData (v : Value) : check (withoutData v) = emptied <$> check v := by
  cases v with
  | object fs =>
      rw [withoutData]
      split
      · next data hdata =>
          have hkind : Check.field (Fields.set fs "data" (.object [])) "type" (Check.word NodeKind.words) =
              Check.field fs "type" (Check.word NodeKind.words) := by
            rw [Check.field, Fields.get?_set, if_neg (by decide)]
            rfl
          rw [check, check, hkind]
          cases Check.field fs "type" (Check.word NodeKind.words) with
          | refused n => rfl
          | accepted k => exact checkFields_emptied hdata k
      · next hnone =>
          rw [check]
          cases Check.field fs "type" (Check.word NodeKind.words) with
          | refused n => rfl
          | accepted k =>
              show checkFields k fs = emptied <$> checkFields k fs
              rw [checkFields]
              cases Check.field fs "id" Check.text with
              | refused m =>
                  cases checkBody k fs with
                  | refused n => rfl
                  | accepted body => rfl
              | accepted id =>
                  rcases emptied_checkBody hnone k with hbody | ⟨n, hbody⟩
                  · rw [hbody]
                    show Check.accepted _ = Check.accepted (emptied _)
                    rw [emptied, NodeBody.kind_ofFields]
                  · rw [hbody]
                    rfl
  | _ => rfl

/-- Nodes are read without their settings as they are with them. -/
theorem items_withoutData (vs : List Value) :
    Check.items check (vs.map withoutData) = List.map emptied <$> Check.items check vs := by
  induction vs with
  | nil => rfl
  | cons v vs ih =>
      rw [List.map_cons, Check.items, Check.items, ih, check_withoutData]
      cases check v with
      | refused m =>
          cases Check.items check vs with
          | refused n => rfl
          | accepted ns => rfl
      | accepted n =>
          cases Check.items check vs with
          | refused n => rfl
          | accepted ns => rfl

end Node

namespace Workflow

/-- The workflow with the defaults of all settings of its nodes. -/
def emptied (w : Workflow) : Workflow := { w with nodes := w.nodes.map Node.emptied }

/-- The document of a workflow without what was sent for the settings of its nodes. -/
def withoutData : Value → Value
  | .object fs =>
    match Fields.get? fs "nodes" with
    | some (.list nodes) => .object (Fields.set fs "nodes" (.list (nodes.map Node.withoutData)))
    | some (.object nodes) =>
      .object (Fields.set fs "nodes" (.object (nodes.map fun n => (n.1, Node.withoutData n.2))))
    | _ => .object fs
  | v => v

/-- Fields of a workflow that differ in its nodes at most, which are the same but for their settings. -/
structure Emptied (fs gs : Fields Value) : Prop where
  nodes : Check.fieldOr gs "nodes" [] (Check.list Node.check) =
    List.map Node.emptied <$> Check.fieldOr fs "nodes" [] (Check.list Node.check)
  other : ∀ name : Text, name ≠ "nodes" → gs.get? name = fs.get? name
  kept : gs.without names = fs.without names

/-- The nodes are read as fields of a workflow when they are read as a list. -/
theorem emptied_list {fs gs : Fields Value} {vs : List Value} (hfs : fs.get? "nodes" = some (.list vs))
    (hgs : gs.get? "nodes" = some (.list (vs.map Node.withoutData))) :
    Check.fieldOr gs "nodes" [] (Check.list Node.check) =
      List.map Node.emptied <$> Check.fieldOr fs "nodes" [] (Check.list Node.check) := by
  rw [Check.fieldOr, Check.fieldOr, hfs, hgs]
  exact Node.items_withoutData vs

theorem emptied_withoutData (fs : Fields Value) :
    ∃ gs, withoutData (.object fs) = .object gs ∧ Emptied (nodesOf fs) (nodesOf gs) := by
  have hset : ∀ (hs : Fields Value) (v : Value), (hs.set "nodes" v).get? "nodes" = some v := by
    intro hs v
    rw [Fields.get?_set, if_pos rfl]
  have hother : ∀ (hs : Fields Value) (v : Value) (name : Text), name ≠ "nodes" →
      (hs.set "nodes" v).get? name = hs.get? name := by
    intro hs v name hname
    rw [Fields.get?_set, if_neg hname.symm]
  have hkept : ∀ (hs : Fields Value) (v : Value), (hs.set "nodes" v).without names = hs.without names :=
    fun hs v => Fields.without_set (by decide) hs v
  rw [withoutData]
  split
  · next vs hvs =>
      have hself : nodesOf fs = fs := by rw [nodesOf, hvs]
      have hnew : ∀ us, nodesOf (fs.set "nodes" (.list us)) = fs.set "nodes" (.list us) := by
        intro us
        rw [nodesOf, hset]
      refine ⟨_, rfl, ?_⟩
      rw [hself, hnew]
      exact ⟨emptied_list hvs (hset ..), hother fs _, hkept fs _⟩
  · next ns hns =>
      have hself : nodesOf fs = fs.set "nodes" (.list (ns.map Prod.snd)) := by rw [nodesOf, hns]
      have hnew : ∀ us : Fields Value, nodesOf (fs.set "nodes" (.object us)) =
          (fs.set "nodes" (.object us)).set "nodes" (.list (us.map Prod.snd)) := by
        intro us
        rw [nodesOf, hset]
      refine ⟨_, rfl, ?_⟩
      rw [hself, hnew, List.map_map]
      refine ⟨emptied_list (hset ..) ?_, ?_, ?_⟩
      · rw [hset, List.map_map]
        rfl
      · intro name hname
        rw [hother _ _ name hname, hother _ _ name hname, hother _ _ name hname]
      · rw [hkept, hkept, hkept]
  · next hlist hobject =>
      have hself : nodesOf fs = fs := by
        rw [nodesOf]
        split
        · next ns hns => exact absurd hns (hobject ns)
        · rfl
      refine ⟨fs, rfl, ?_⟩
      rw [hself]
      refine ⟨?_, fun _ _ => rfl, rfl⟩
      rw [Check.fieldOr]
      cases hv : fs.get? "nodes" with
      | none => rfl
      | some v =>
          cases v with
          | list vs => exact absurd hv (hlist vs)
          | _ => rfl

/-- The parts of a workflow in front of its nodes. -/
def head (fs : Fields Value) : Check (List Node → List Connection → Fields Value → Workflow) :=
  Workflow.mk <$> Check.field fs "id" Check.text
    <*> Check.fieldOr fs "name" unnamed Check.text
    <*> Check.fieldOr fs "trigger_type" "exact" Check.text
    <*> Check.fieldOr fs "trigger_content" [] Check.text
    <*> Check.fieldOr fs "enabled" true Check.bool
    <*> Check.fieldOr fs "stop_propagation" false Check.bool

/-- A workflow of which the ids of the nodes differ. -/
def settle : Check Workflow → Check Workflow
  | .accepted w => if idsDiffer w.nodes then .accepted w else .refuse
  | .refused n => .refused n

theorem check_object (fs : Fields Value) : check (.object fs) =
    settle (head (nodesOf fs) <*> Check.fieldOr (nodesOf fs) "nodes" [] (Check.list Node.check)
      <*> Check.fieldOr (nodesOf fs) "connections" [] (Check.list Connection.check)
      <*> pure ((nodesOf fs).without names)) := rfl

theorem head_congr {fs gs : Fields Value} (h : ∀ name : Text, name ≠ "nodes" → gs.get? name = fs.get? name) :
    head gs = head fs := by
  simp only [head, Check.field, Check.fieldOr, h "id" (by decide), h "name" (by decide),
    h "trigger_type" (by decide), h "trigger_content" (by decide), h "enabled" (by decide),
    h "stop_propagation" (by decide)]

theorem exists_of_head {fs : Fields Value} {make : List Node → List Connection → Fields Value → Workflow}
    (h : head fs = .accepted make) :
    ∃ id name kind content enabled stop, make = Workflow.mk id name kind content enabled stop := by
  obtain ⟨f₅, stop, h₅, -, rfl⟩ := Check.seq_eq_accepted.mp h
  obtain ⟨f₄, enabled, h₄, -, rfl⟩ := Check.seq_eq_accepted.mp h₅
  obtain ⟨f₃, content, h₃, -, rfl⟩ := Check.seq_eq_accepted.mp h₄
  obtain ⟨f₂, kind, h₂, -, rfl⟩ := Check.seq_eq_accepted.mp h₃
  obtain ⟨f₁, name, h₁, -, rfl⟩ := Check.seq_eq_accepted.mp h₂
  obtain ⟨id, -, rfl⟩ := Check.map_eq_accepted.mp h₁
  exact ⟨id, name, kind, content, enabled, stop, rfl⟩

theorem settle_emptied (w : Workflow) : settle (.accepted w.emptied) = emptied <$> settle (.accepted w) := by
  have hids : idsDiffer w.emptied.nodes = idsDiffer w.nodes := by
    refine idsDiffer_congr ?_
    rw [emptied, List.map_map]
    rfl
  rw [settle, settle, hids]
  split
  · rfl
  · rfl

/-- A workflow is read without its settings as it is with them, but for the settings: what was sent for these
never makes it be refused. -/
theorem check_withoutData (v : Value) : check (withoutData v) = emptied <$> check v := by
  cases v with
  | object fs =>
      obtain ⟨gs, hgs, hemptied⟩ := emptied_withoutData fs
      have hconnections : Check.fieldOr (nodesOf gs) "connections" [] (Check.list Connection.check) =
          Check.fieldOr (nodesOf fs) "connections" [] (Check.list Connection.check) := by
        rw [Check.fieldOr, Check.fieldOr, hemptied.other "connections" (by decide)]
      rw [hgs, check_object, check_object, head_congr hemptied.other, hemptied.nodes, hconnections, hemptied.kept]
      generalize Check.fieldOr (nodesOf fs) "nodes" [] (Check.list Node.check) = nodes
      generalize Check.fieldOr (nodesOf fs) "connections" [] (Check.list Connection.check) = connections
      -- refused parts are counted whether the nodes are emptied or not
      cases hhead : head (nodesOf fs) with
      | refused m => cases nodes <;> cases connections <;> rfl
      | accepted make =>
          obtain ⟨id, name, kind, content, enabled, stop, rfl⟩ := exists_of_head hhead
          cases nodes with
          | refused m => cases connections <;> rfl
          | accepted ns =>
              cases connections with
              | refused m => rfl
              | accepted cs => exact settle_emptied ⟨id, name, kind, content, enabled, stop, ns, cs, _⟩
  | _ => rfl

end Workflow

/-- Whatever object was sent for the settings of a node, they are read, each in its domain: as the value of the domain
that was sent, or as the default if there is none, as for null; all else that was sent is kept as it is. A workflow is
accepted with any settings as it is without them. -/
theorem NodeBody.settings_read (k : NodeKind) (data : Fields Value) :
    (∀ fs : Fields Value, Node.checkBody k (fs.set "data" (.object data)) = .accepted (ofFields k data)) ∧
      (ofFields k data).toFields =
        k.settings.map (fun s => (s.name, s.read data)) ++ data.without (k.settings.map Setting.name) ∧
      (∀ s : Setting, s.domain.admits (s.read data) = true ∧
        ∀ v, data.get? s.name = some v → v = .null ∨ s.domain.read? v = none → s.read data = s.default) ∧
      ∀ v, Workflow.check (Workflow.withoutData v) = Workflow.emptied <$> Workflow.check v := by
  refine ⟨?_, ?_, ?_, Workflow.check_withoutData⟩
  · intro fs
    refine Node.checkBody_object ?_ k
    rw [Fields.get?_set, if_pos rfl]
  · rw [toFields_eq, declared_ofFields, extra_ofFields, names_settings]
  · intro s
    refine ⟨s.admits_read data, ?_⟩
    rintro v hv (rfl | hunusable)
    · exact Setting.read_unusable hv s.domain.read?_null
    · exact Setting.read_unusable hv hunusable

/-- A store of no operation that there is, with a number for a key. -/
example : (NodeKind.settings .storage).map (fun s => s.read
      [("storage_type", .text "swap"), ("storage_key", .int 5), ("default_value", .null)]) =
    [.text "get", .text "5", .text [], .text "data_result", .int 0] := by
  decide +kernel

end ChatFlow
