import IndexSync.Value

/-!
# Actions

The three things that the service can be asked to do for a project, and the parameters of the
requests for them.
-/

namespace IndexSync

/-- What the service can do for a project. -/
inductive Action where
  /-- Take the project up. -/
  | register
  /-- Bring the index up to date. -/
  | refresh
  /-- Watch the files of the project. -/
  | watch
  deriving DecidableEq, Repr

/-- The names of settings and of parameters of requests. -/
inductive Setting where
  | projectRoot
  | manifestPath
  | indexPath
  | scope
  | root
  deriving DecidableEq, Repr

/-- The name under which a setting is passed. -/
def Setting.key : Setting → String
  | .projectRoot => "project_root"
  | .manifestPath => "manifest_path"
  | .indexPath => "index_path"
  | .scope => "scope"
  | .root => "root"

/-- How much of an index is brought up to date. -/
inductive Scope where
  /-- What has changed. -/
  | incremental
  /-- Everything. -/
  | full
  deriving DecidableEq, Repr

/-- The name of a scope. -/
def Scope.name : Scope → String
  | .incremental => "Incremental"
  | .full => "Full"

namespace Action

/-- The name of an action and of the request for it. -/
def name : Action → String
  | .register => "register"
  | .refresh => "refresh"
  | .watch => "watch"

/-- The value of a setting, or nothing. -/
def optional (options : Options) (s : Setting) : Value := (options.get? s.key).getD .null

/-- The scope that settings ask for. -/
def scopeOf (options : Options) : Value :=
  let asked := optional options .scope
  if asked.truthy then asked else .str Scope.incremental.name

/-- The parameters of the request for an action on the project with the given root. -/
def params (action : Action) (root : Value) (options : Options) : Options :=
  let base := [(Setting.root.key, root)]
  match action with
  | .register =>
    base ++ [(Setting.manifestPath.key, optional options .manifestPath),
      (Setting.indexPath.key, optional options .indexPath)]
  | .refresh => base ++ [(Setting.scope.key, scopeOf options)]
  | .watch => base

end Action

end IndexSync
