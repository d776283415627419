import IndexSync.Value

/-!
# Responses

How a reply of the service is understood. A mapping that says whether all is well is taken at its
word; one that only carries a status is well if the status says so. Anything else is no response.
-/

namespace IndexSync

/-- The outcome of one request. -/
structure Response where
  /-- The service did what was asked. -/
  ok : Bool
  /-- What the service replied. -/
  result : Entries := []
  /-- What the service says went wrong. -/
  error : Value := .null

namespace Response

/-- The response that stands for a failed request. -/
def failure (text : String) : Response := ⟨false, [], .str text⟩

/-- A value is the given text. -/
def isText (text : String) : Value → Bool
  | .str s => s == text
  | _ => false

/-- A mapping says that all is well. -/
def isOk (entries : Entries) : Bool :=
  match Value.lookup? entries "ok" with
  | some v => v.truthy
  -- The status counts only where no explicit flag is given, be it a false one.
  | none => ((Value.lookup? entries "status").map (isText "ok")).getD false

/-- The response that a mapping stands for. -/
def ofEntries (entries : Entries) : Response :=
  let ok := isOk entries
  ⟨ok, entries, if ok then .null else (Value.lookup? entries "error").getD .null⟩

/-- The response that a reply stands for. -/
def ofValue : Value → Response
  | .map entries => ofEntries entries
  | v => failure ("Unexpected response type: " ++ v.typeName)

end Response

end IndexSync
