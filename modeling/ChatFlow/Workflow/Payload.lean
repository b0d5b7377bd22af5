import ChatFlow.Document.Loose

/-!
# What nodes hold

Each kind of node has settings of its own. They are read from what an editor wrote, which always
succeeds; fields that a kind does not know are kept behind its own.

* `TriggerData.ofFields`, …: reading settings.
* `TriggerData.toFields`, …: writing them, with all fields in a fixed order.
-/

namespace ChatFlow

/-! ## Triggers and conditions -/

/-- When a workflow starts. -/
structure TriggerData where
  kind : Text
  content : Text
  value : Text
  extra : Fields Value
deriving Inhabited

namespace TriggerData

/-- The names of the settings. -/
def names : List Text := ["trigger_type", "trigger_content", "trigger_value"]

/-- Reads the settings. -/
def ofFields (fs : Fields Value) : TriggerData :=
  { kind := Loose.text fs "trigger_type" "exact"
    content := Loose.text fs "trigger_content" []
    value := Loose.text fs "trigger_value" []
    extra := fs.without names }

/-- The settings of the kind itself. -/
def declared (d : TriggerData) : Fields Value :=
  [("trigger_type", .text d.kind), ("trigger_content", .text d.content),
   ("trigger_value", .text d.value)]

/-- Writes the settings. -/
def toFields (d : TriggerData) : Fields Value := d.declared ++ d.extra

/-- What a message is compared with. -/
def pattern (d : TriggerData) : Text := if d.content.isEmpty then d.value else d.content

end TriggerData

/-- What a condition asks. -/
structure ConditionData where
  kind : Text
  value : Text
  varName : Text
  extra : Fields Value
deriving Inhabited

namespace ConditionData

/-- The names of the settings. -/
def names : List Text := ["condition_type", "condition_value", "var_name"]

/-- Reads the settings. -/
def ofFields (fs : Fields Value) : ConditionData :=
  { kind := Loose.text fs "condition_type" "contains"
    value := Loose.text fs "condition_value" []
    varName := Loose.text fs "var_name" []
    extra := fs.without names }

/-- The settings of the kind itself. -/
def declared (d : ConditionData) : Fields Value :=
  [("condition_type", .text d.kind), ("condition_value", .text d.value),
   ("var_name", .text d.varName)]

/-- Writes the settings. -/
def toFields (d : ConditionData) : Fields Value := d.declared ++ d.extra

end ConditionData

/-! ## Actions -/

/-- What an action does. The settings of all kinds of actions stand side by side. -/
structure ActionData where
  kind : Text
  value : Text
  /-- The caption of a picture. -/
  imageText : Text
  fileName : Text
  musicKind : Text
  targetUser : Text
  banDuration : Text
  card : Text
  rejectAdd : Bool
  enableBan : Bool
  enableAdmin : Bool
  /-- The action of the chat program that is called by name. -/
  apiAction : Text
  apiParams : Text
  resultVar : Text
  mathKind : Text
  operand1 : Text
  operand2 : Text
  stringKind : Text
  input1 : Text
  input2 : Text
  target : Text
  url : Text
  method : Text
  headers : Text
  body : Text
  timeout : Double
  responseKind : Text
  replyKind : Text
  /-- The template of the reply to a response. -/
  reply : Text
  extra : Fields Value
deriving Inhabited

namespace ActionData

/-- The names of the settings. -/
def names : List Text :=
  (["action_type", "action_value", "image_text", "file_name", "music_type", "target_user",
   "ban_duration", "card_value", "reject_add", "enable_ban", "enable_admin", "api_action",
   "api_params", "result_var", "math_type"] : List Text)
  ++ (["operand1", "operand2", "string_type", "input1", "input2", "target", "api_url", "api_method",
   "api_headers", "api_body", "api_timeout", "response_type", "reply_type", "api_reply"] : List Text)

/-- The user that moderation is about, unless another one is named. -/
def sender : Text := .scalar '{' :: ("user_id" ++ ([.scalar '}'] : Text))

/-- No parameters. -/
def noParams : Text := [.scalar '{', .scalar '}']

/-- Reads the settings. -/
def ofFields (fs : Fields Value) : ActionData :=
  { kind := Loose.text fs "action_type" "reply_text"
    value := Loose.text fs "action_value" []
    imageText := Loose.text fs "image_text" []
    fileName := Loose.text fs "file_name" []
    musicKind := Loose.text fs "music_type" "qq"
    targetUser := Loose.text fs "target_user" sender
    banDuration := Loose.text fs "ban_duration" "600"
    card := Loose.text fs "card_value" []
    rejectAdd := Loose.bool fs "reject_add" false
    enableBan := Loose.bool fs "enable_ban" false
    enableAdmin := Loose.bool fs "enable_admin" false
    apiAction := Loose.text fs "api_action" []
    apiParams := Loose.text fs "api_params" noParams
    resultVar := Loose.text fs "result_var" []
    mathKind := Loose.text fs "math_type" "add"
    operand1 := Loose.text fs "operand1" "0"
    operand2 := Loose.text fs "operand2" "0"
    stringKind := Loose.text fs "string_type" "concat"
    input1 := Loose.text fs "input1" []
    input2 := Loose.text fs "input2" []
    target := Loose.text fs "target" []
    url := Loose.text fs "api_url" []
    method := Loose.text fs "api_method" "GET"
    headers := Loose.text fs "api_headers" []
    body := Loose.text fs "api_body" []
    timeout := Loose.number fs "api_timeout" 10
    responseKind := Loose.text fs "response_type" "json"
    replyKind := Loose.text fs "reply_type" "text"
    reply := Loose.text fs "api_reply" []
    extra := fs.without names }

/-- The settings of the kind itself. -/
def declared (d : ActionData) : Fields Value :=
  ([("action_type", .text d.kind), ("action_value", .text d.value), ("image_text", .text d.imageText),
   ("file_name", .text d.fileName), ("music_type", .text d.musicKind),
   ("target_user", .text d.targetUser), ("ban_duration", .text d.banDuration),
   ("card_value", .text d.card), ("reject_add", .bool d.rejectAdd), ("enable_ban", .bool d.enableBan),
   ("enable_admin", .bool d.enableAdmin), ("api_action", .text d.apiAction),
   ("api_params", .text d.apiParams), ("result_var", .text d.resultVar),
   ("math_type", .text d.mathKind)] : Fields Value)
  ++ ([("operand1", .text d.operand1), ("operand2", .text d.operand2),
   ("string_type", .text d.stringKind), ("input1", .text d.input1), ("input2", .text d.input2),
   ("target", .text d.target), ("api_url", .text d.url), ("api_method", .text d.method),
   ("api_headers", .text d.headers), ("api_body", .text d.body), ("api_timeout", .float d.timeout),
   ("response_type", .text d.responseKind), ("reply_type", .text d.replyKind),
   ("api_reply", .text d.reply)] : Fields Value)

/-- Writes the settings. -/
def toFields (d : ActionData) : Fields Value := d.declared ++ d.extra

end ActionData

/-! ## Delays and variables -/

/-- How long a run waits. -/
structure DelayData where
  seconds : Double
  extra : Fields Value
deriving Inhabited

namespace DelayData

/-- The names of the settings. -/
def names : List Text := ["seconds"]

/-- Reads the settings. -/
def ofFields (fs : Fields Value) : DelayData :=
  { seconds := Loose.number fs "seconds" 1
    extra := fs.without names }

/-- The settings of the kind itself. -/
def declared (d : DelayData) : Fields Value :=
  ([("seconds", .float d.seconds)] : Fields Value)

/-- Writes the settings. -/
def toFields (d : DelayData) : Fields Value := d.declared ++ d.extra

end DelayData

/-- A variable and its new value. -/
structure SetVarData where
  varName : Text
  value : Text
  extra : Fields Value
deriving Inhabited

namespace SetVarData

/-- The names of the settings. -/
def names : List Text := ["var_name", "var_value"]

/-- Reads the settings. -/
def ofFields (fs : Fields Value) : SetVarData :=
  { varName := Loose.text fs "var_name" []
    value := Loose.text fs "var_value" []
    extra := fs.without names }

/-- The settings of the kind itself. -/
def declared (d : SetVarData) : Fields Value :=
  [("var_name", .text d.varName), ("var_value", .text d.value)]

/-- Writes the settings. -/
def toFields (d : SetVarData) : Fields Value := d.declared ++ d.extra

end SetVarData

/-! ## Storage -/

/-- What is done with a shared value. -/
inductive SharedOp where
  | get
  | set
  | incr
  | decr
deriving DecidableEq, Repr, Inhabited

/-- The names of the operations on a shared value. -/
def SharedOp.words : List (Text × SharedOp) :=
  [("get", .get), ("set", .set), ("incr", .incr), ("decr", .decr)]

/-- The name of an operation. -/
def SharedOp.label : SharedOp → Text
  | .get => "get"
  | .set => "set"
  | .incr => "incr"
  | .decr => "decr"

/-- What is done with a value of a user: the same, or it is deleted. -/
inductive UserOp where
  | shared (op : SharedOp)
  | delete
deriving DecidableEq, Repr, Inhabited

/-- The names of the operations on a value of a user. -/
def UserOp.words : List (Text × UserOp) :=
  [("get", .shared .get), ("set", .shared .set), ("incr", .shared .incr), ("decr", .shared .decr),
   ("delete", .delete)]

/-- The name of an operation. -/
def UserOp.label : UserOp → Text
  | .shared op => op.label
  | .delete => "delete"

/-- An operation on a stored value, and the variable for its result. -/
structure StorageData (Op : Type) where
  op : Op
  key : Text
  value : Text
  resultVar : Text
  /-- Stands in for a value that is not there. -/
  other : Value
  extra : Fields Value
deriving Inhabited

namespace StorageData

/-- The names of the settings. -/
def names : List Text :=
  ["storage_type", "storage_key", "storage_value", "result_var", "default_value"]

/-- Reads the settings, given the names of the operations and the usual variable for the result. -/
def ofFields {Op : Type} (words : List (Text × Op)) (usual : Op) (resultVar : Text)
    (fs : Fields Value) : StorageData Op :=
  { op := Loose.word words fs "storage_type" usual
    key := Loose.text fs "storage_key" []
    value := Loose.text fs "storage_value" []
    resultVar := Loose.text fs "result_var" resultVar
    other := Loose.any fs "default_value" (.int 0)
    extra := fs.without names }

/-- The settings of the kind itself, given the name of the operation. -/
def declared {Op : Type} (label : Op → Text) (d : StorageData Op) : Fields Value :=
  [("storage_type", .text (label d.op)), ("storage_key", .text d.key),
   ("storage_value", .text d.value), ("result_var", .text d.resultVar), ("default_value", d.other)]

/-- Writes the settings, given the name of the operation. -/
def toFields {Op : Type} (label : Op → Text) (d : StorageData Op) : Fields Value :=
  d.declared label ++ d.extra

/-- Reads the settings of a node for values of users. -/
def ofUserFields (fs : Fields Value) : StorageData UserOp :=
  ofFields UserOp.words (.shared .get) "data_result" fs

/-- Reads the settings of a node for shared values. -/
def ofSharedFields (fs : Fields Value) : StorageData SharedOp :=
  ofFields SharedOp.words .get "global_result" fs

end StorageData

/-! ## Rankings and random picks -/

/-- What is asked of a ranking. -/
inductive RankingQuery where
  | top
  | myRank
  | count
deriving DecidableEq, Repr, Inhabited

/-- The names of the queries. -/
def RankingQuery.words : List (Text × RankingQuery) :=
  [("top", .top), ("my_rank", .myRank), ("count", .count)]

/-- The name of a query. -/
def RankingQuery.label : RankingQuery → Text
  | .top => "top"
  | .myRank => "my_rank"
  | .count => "count"

/-- A question about a ranking. -/
structure LeaderboardData where
  query : RankingQuery
  key : Text
  limit : Int
  ascending : Bool
  extra : Fields Value
deriving Inhabited

namespace LeaderboardData

/-- The names of the settings. -/
def names : List Text := ["leaderboard_type", "leaderboard_key", "limit", "ascending"]

/-- The usual number of entries. -/
def usualLimit : Int := 10

/-- Reads the settings; a limit has to be positive. -/
def ofFields (fs : Fields Value) : LeaderboardData :=
  let limit := Loose.integer fs "limit" usualLimit
  { query := Loose.word RankingQuery.words fs "leaderboard_type" .top
    key := Loose.text fs "leaderboard_key" "score"
    limit := if 1 ≤ limit then limit else usualLimit
    ascending := Loose.bool fs "ascending" false
    extra := fs.without names }

/-- The settings of the kind itself. -/
def declared (d : LeaderboardData) : Fields Value :=
  [("leaderboard_type", .text d.query.label), ("leaderboard_key", .text d.key),
   ("limit", .int d.limit), ("ascending", .bool d.ascending)]

/-- Writes the settings. -/
def toFields (d : LeaderboardData) : Fields Value := d.declared ++ d.extra

end LeaderboardData

/-- Items of which one is picked. -/
structure ListRandomData where
  items : Text
  weights : Text
  resultVar : Text
  indexVar : Text
  extra : Fields Value
deriving Inhabited

namespace ListRandomData

/-- The names of the settings. -/
def names : List Text := ["list_items", "weights", "result_var", "index_var"]

/-- Reads the settings. -/
def ofFields (fs : Fields Value) : ListRandomData :=
  { items := Loose.text fs "list_items" []
    weights := Loose.text fs "weights" []
    resultVar := Loose.text fs "result_var" "list_result"
    indexVar := Loose.text fs "index_var" "list_index"
    extra := fs.without names }

/-- The settings of the kind itself. -/
def declared (d : ListRandomData) : Fields Value :=
  [("list_items", .text d.items), ("weights", .text d.weights), ("result_var", .text d.resultVar),
   ("index_var", .text d.indexVar)]

/-- Writes the settings. -/
def toFields (d : ListRandomData) : Fields Value := d.declared ++ d.extra

end ListRandomData

end ChatFlow
