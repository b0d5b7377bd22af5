import ChatFlow.Command.Run

/-!
# What is shown

Printed lines and tables as plain text, without the marks of style, and what was done outwardly as
documents.

* `Printed.lines`: the lines that show what is printed.
* `Effect.toValue`: the document of something done outwardly.
-/

namespace ChatFlow

/-- The names of styles that stand in marks. -/
def Printed.styles : List Text :=
  ["[bold green]", "[bold red]", "[bold yellow]", "[bold cyan]", "[/]"]

/-- A text without the marks of style. -/
def Printed.plain (t : Text) : Text :=
  Printed.styles.foldl (fun t mark => (t.splitOn mark).flatten) t

/-- The lines that show what is printed. -/
def Printed.lines : Printed → List Text
  | line t => [Printed.plain t]
  | table title columns rows => title :: (columns :: rows).map (Text.join " | ")
  | serving _ _ => []

/-- How the commands are used. -/
def Command.usage : List Text :=
  (["usage: COMMAND [ARGUMENT ...]", "serve [--host HOST] [--port PORT]", "workflow-list",
    "task-list"] : List Text)
  ++ (["task-run ID", "data-set KEY VALUE [--user USER]", "data-get KEY [--user USER]"] : List Text)

/-- The document of something done outwardly. -/
def Effect.toValue : Effect → Value
  | asked call _ => .object [("call", .text call.name), ("arguments", .list call.arguments)]
  | paused seconds => .object [("pause", .float seconds)]
  | requested r =>
    .object [("request", .text r.method), ("url", .text r.url),
      ("content", r.content.elim .null .text)]
  | posted p => .object [("post", .text p.path), ("body", .object p.body)]
  | handled action v => .object [("action", .text action), ("value", .text v)]

end ChatFlow
