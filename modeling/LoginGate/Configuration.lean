namespace LoginGate

/-!
# Compiled-in configuration

The gate reads no files and no environment. What it needs are constants, and
every one of them can be replaced by whoever builds a gate.
-/

/-- The bus name under which the authority is reached. -/
def serviceName : String :=
  "io.github.soarinferret.sessionwarden"

/-- The object that the authority exports. -/
def objectPath : String :=
  "/io/github/soarinferret/sessionwarden"

/-- The interface that carries the authority's two methods. -/
def interfaceName : String :=
  "io.github.soarinferret.sessionwarden.Manager"

/-- The groups whose members pass without the authority. -/
def defaultBypassGroups : List String :=
  ["wheel", "sudo"]

/-- The account that passes without the authority. -/
def defaultRootAccount : String :=
  "root"

/-- Where the trace file lies. -/
def defaultTraceFile : String :=
  "/tmp/sessionwarden_pam.log"

/-- The name that heads every line in the system log. -/
def moduleName : String :=
  "pam_sessionwarden"

/-- Where on the bus the authority is addressed. -/
structure Endpoint where
  service : String := serviceName
  objectPath : String := objectPath
  interface : String := interfaceName
  deriving Repr, DecidableEq

/-- Who passes without the authority being asked. -/
structure BypassRules where
  /-- Group names, in the order in which they are tried. -/
  groups : List String := defaultBypassGroups
  rootAccount : String := defaultRootAccount
  deriving Repr, DecidableEq

/-- All that a gate can be told beforehand. -/
structure Configuration where
  endpoint : Endpoint := {}
  bypass : BypassRules := {}
  traceFile : String := defaultTraceFile
  deriving Repr, DecidableEq

end LoginGate
