import DocLint.Value

/-!
# The rule registry

A registry says how the host shows each check: under the key of a message id it
has an entry with a template, a symbol, a description and the code that the
rules use. One registry is packaged with the linter, and others can be loaded in
its place. An entry is any table; fields that are missing or empty fall back to
others. A field can hold any value, and what is shown is its text, if it has one.
Only strings are looked up, so the entries and their fields are those with
strings for keys.
-/
namespace DocLint

/-- The entries of a registry, by key. -/
structure Registry where
  entries : Table
  deriving Repr

/-- What a checker declares to the host about one message. -/
structure MessageEntry where
  template : String
  symbol : String
  description : String
  deriving DecidableEq, Repr

namespace Registry

def key (id : String) : String := "conventions." ++ id

/-- The registry in a file with the given content. Only a table has entries. -/
def ofValue (content : Value) : Registry := ⟨(content.fields?).getD []⟩

/-- The normal form of a written path: no doubled or trailing slashes and no
parts that stay in place. Two slashes at the start stay two. -/
def normalizePath (path : String) : String :=
  let parts := (path.splitOn "/").filter fun part => part != "" && part != "."
  let root :=
    if path.startsWith "//" && !path.startsWith "///" then "//"
    else if path.startsWith "/" then "/"
    else ""
  let shown := root ++ "/".intercalate parts
  if shown = "" then "." else shown

/-- The registry at a path where there is no file, and the warning about it. -/
def atMissing (path : String) : Registry × List LogLine :=
  (⟨[]⟩, [⟨.warning,
    s!"Rule registry not found at {normalizePath path}; checkers will have no messages."⟩])

def entry? (registry : Registry) (id : String) : Option Table :=
  (Assoc.lookup (key id) registry.entries).bind Value.fields?

/-- The registry with a field of one of its entries replaced. What is no entry
stays as it is. -/
def setField (registry : Registry) (entryKey field : String) (value : Value) : Registry :=
  match (Assoc.lookup entryKey registry.entries).bind Value.fields? with
  | some fields =>
    ⟨Assoc.upsert entryKey (.table (Assoc.upsert field value fields)) registry.entries⟩
  | none => registry

/-- A copy of a registry. It has its own keys and shares the entries, so it
shows an entry as it is when the copy is looked at. -/
structure Copy where
  keys : List String
  deriving Repr

def copy (registry : Registry) : Copy := ⟨registry.entries.map Prod.fst⟩

/-- What a copy shows, given the registry as it is now. -/
def Copy.entries (copy : Copy) (registry : Registry) : Table :=
  copy.keys.filterMap fun key => (Assoc.lookup key registry.entries).map fun value => (key, value)

/-- What a copy shows under a key, given the registry as it is now. -/
def Copy.lookup (copy : Copy) (registry : Registry) (key : String) : Option Value :=
  Assoc.lookup key (copy.entries registry)

/-- A field of an entry, if it is not empty. -/
def field? (entry : Table) (name : String) : Option Value :=
  (Assoc.lookup name entry).filter Value.isTruthy

/-- The text of a field, or another one if the field is missing or empty. -/
def textOr (field : Option Value) (default : String) : Except Fault String :=
  field.elim (.ok default) Value.asText

def symbolOf (id : String) (entry : Table) : Except Fault String :=
  textOr (field? entry "symbol") id

/-- What the entry of a message id declares. Without a template it declares
nothing. -/
def declared? (id : String) (entry : Table) : Except Fault (Option MessageEntry) :=
  match field? entry "message_template" with
  | none => .ok none
  | some template => do
    return some
      { template := ← template.asText
        symbol := ← symbolOf id entry
        description :=
          ← textOr ((field? entry "short_description").or (field? entry "display_name")) id }

/-- The code that an entry is for, with the symbol. Without a code it has none. -/
def coded? (id : String) (entry : Table) : Except Fault (Option (String × String)) :=
  match field? entry "violation_code" with
  | none => .ok none
  | some code => do return some (← code.asText, ← symbolOf id entry)

/-- What is made of the entries of some ids, one after the other. -/
def collect {α : Type} (registry : Registry) (ids : List String)
    (make : String → Table → Except Fault (Option α)) : Except Fault (List α) := do
  let made ← ids.mapM fun id => (registry.entry? id).elim (.ok none) (make id)
  return made.filterMap id

def messages (registry : Registry) (ids : List String) :
    Except Fault (List (String × MessageEntry)) := do
  let found ← registry.collect ids fun id entry => do
    return (← declared? id entry).map fun message => (id, message)
  return Assoc.ofPairs found

/-- The symbols of the entries of some ids, by the code that the rules use. -/
def symbols (registry : Registry) (ids : List String) : Except Fault (List (String × String)) := do
  return Assoc.ofPairs (← registry.collect ids coded?)

/-- What a checker takes from a registry. -/
structure Listing where
  /-- The messages that are declared to the host, by id. -/
  messages : List (String × MessageEntry)
  /-- The symbols of codes. -/
  symbols : List (String × String)
  deriving DecidableEq, Repr

/-- What a checker with some ids takes from the registry. -/
def listing (registry : Registry) (ids : List String) : Except Fault Listing := do
  return { messages := ← registry.messages ids, symbols := ← registry.symbols ids }

end Registry

end DocLint
