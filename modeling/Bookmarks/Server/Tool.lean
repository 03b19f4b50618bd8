import Bookmarks.Json.Value

/-!
# The tools

The tools that the server offers, with what they do and the arguments they take.

* `Tool`: the tools; `Tool.ofName?` finds one by its name.
* `Tool.describe`: a tool as it is listed.
-/

namespace Bookmarks

/-- The tools of the server. -/
inductive Tool where
  | search
  | parseQuery
  | listTags
  | relevant
deriving DecidableEq, Repr

namespace Tool

/-- The name of the server. -/
def serverName : String := "bookmark-search-mcp"

/-- All tools, in the order in which they are listed. -/
def all : List Tool :=
  [search, parseQuery, listTags, relevant]

/-- The name of a tool. -/
def name : Tool → String
  | search => "search_bookmarks"
  | parseQuery => "parse_query"
  | listTags => "list_tags"
  | relevant => "relevant_bookmarks"

/-- The tool of a name. -/
def ofName? (name : String) : Option Tool :=
  all.find? fun tool => tool.name == name

/-- What a tool does. -/
def description : Tool → String
  | search =>
    "Search bookmarks. Bare words match any term; +word is required, -word excludes, " ++
      "\"quoted phrases\" stay together. Filters: tag:x or #x, device:x, os:x, browser:x, " ++
      "added:>30 (days), clicked:<7, clicked:=0 (never clicked). " ++
      "Prefix a filter with - to negate it."
  | parseQuery =>
    "Show how a search query is split into required, optional, excluded terms and filters."
  | listTags => "List bookmark tags with usage counts, most used first."
  | relevant =>
    "List bookmarks ordered by usage: click count and how recently they were visited."

/-- An argument of a tool: its name, its type and what it is for. -/
def argument (name type description : String) : Text × Json :=
  (name, .object [("type", .string type), ("description", .string description)])

/-- The arguments of a tool. -/
def arguments : Tool → Table Text Json
  | search =>
    [argument "query" "string" "Search query",
     argument "page" "integer" "Page number, starting at 1",
     argument "per_page" "integer" "Results per page"]
  | parseQuery => [argument "query" "string" "Search query to parse"]
  | listTags => [argument "filter" "string" "Only tags containing this text"]
  | relevant =>
    [argument "limit" "integer" "Maximum number of bookmarks to return",
     ("tags", .object [
       ("type", .string "array"),
       ("items", .object [("type", .string "string")]),
       ("description", .string "Only bookmarks with at least one of these tags")])]

/-- The arguments that a tool cannot do without. -/
def required : Tool → List Text
  | search | parseQuery => ["query"]
  | listTags | relevant => []

/-- The form of the arguments of a tool. -/
def inputSchema (tool : Tool) : Json :=
  let required : Table Text Json :=
    if tool.required.isEmpty then [] else [("required", .array (tool.required.map .string))]
  .object (("type", .string "object") :: ("properties", .object tool.arguments) :: required)

/-- A tool as it is listed. -/
def describe (tool : Tool) : Json :=
  .object [("name", .string tool.name), ("description", .string tool.description),
    ("inputSchema", tool.inputSchema)]

end Tool

end Bookmarks
