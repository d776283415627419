import IndexSync.Script
import IndexSync.Value

/-!
# The service at the other end

What the service does when it is asked something, as a script per name of request. If a script has
the service break down, then it does so with an error; what else may come over a socket is in
`Channel.Conduct`.
-/

namespace IndexSync

/-- What the service does with a request. -/
inductive Reaction where
  /-- It replies. -/
  | reply (v : Value)
  /-- It refuses with a text. -/
  | refuse (text : String)
  /-- It breaks down with a text. -/
  | crash (text : String)

/-- The service, as the script of its reactions to every request it knows. -/
abbrev Remote := List (String × Script Reaction)

namespace Remote

/-- What the service does with the next request of a name; `none` if it does not know the name. -/
def react (r : Remote) (name : String) : Option Reaction × Remote :=
  match r with
  | [] => (none, [])
  | (n, script) :: rest =>
    if n = name then (some script.next, (n, script.rest) :: rest)
    else
      let (reaction, rest) := react rest name
      (reaction, (n, script) :: rest)

/-- What the service says when it is asked for a method that it does not have. -/
def absence (name : String) : String := "no attribute exposed_" ++ name

/-- The service knows a request. -/
def knows (r : Remote) (name : String) : Bool := r.any fun (n, _) => n == name

/-- Change the reactions to a request. -/
def put (r : Remote) (name : String) (script : Script Reaction) : Remote :=
  match r with
  | [] => [(name, script)]
  | (n, s) :: rest =>
    if n = name then (n, script) :: rest else (n, s) :: put rest name script

end Remote

end IndexSync
