import RowFilter.Compile.Basic
import RowFilter.Resolver.Basic

/-!
# Configurations

A configuration says which columns there are: the built-in ones, single columns for exact paths,
access list columns, and a catalog of declared columns.  They are asked in this order.  Each belongs
to a group of resolvers, and groups can be disabled.

* `Config.catalog` — the catalog of the declared columns.
* `Config.registry` — all resolvers, with their groups.
* `Config.settings` — the settings for compilation.
-/

set_option autoImplicit false

namespace RowFilter

/-- A pattern and the template that replaces its match. -/
structure PatternEntry where
  /-- The pattern. -/
  regex : String
  /-- The template. -/
  replace : String
deriving Repr, DecidableEq

/-- A declared column.  Either the column or a pattern has to be given. -/
structure ColumnEntry where
  /-- The dotted path. -/
  path : String
  /-- The type of its values. -/
  type : ValueType
  /-- The SQL text of the column. -/
  column : Option String := none
  /-- The pattern that computes it from the path. -/
  pattern : Option PatternEntry := none
deriving Repr, DecidableEq

/-- A column for one exact path. -/
structure ExactEntry where
  /-- The dotted path. -/
  path : String
  /-- The SQL text of the column. -/
  column : String
  /-- The type of its values. -/
  type : ValueType
deriving Repr, DecidableEq

/-- A column of access lists. -/
structure AclEntry where
  /-- The dotted path that leads to the groups. -/
  path : String
  /-- The SQL text of the column. -/
  column : String
deriving Repr, DecidableEq

/-- A configuration. -/
structure Config where
  /-- Whether the built-in columns are used. -/
  presets : Bool := false
  /-- The declared columns. -/
  columns : List ColumnEntry := []
  /-- The columns for exact paths. -/
  exact : List ExactEntry := []
  /-- The access list columns. -/
  aclGroups : List AclEntry := []
  /-- The groups that are left out. -/
  disable : List String := []
deriving Repr, DecidableEq

/-- Why a configuration cannot be used. -/
inductive ConfigError where
  /-- The text is no configuration. -/
  | json
  /-- A declaration is refused. -/
  | catalog (error : CatalogError)
  /-- The pattern for a path cannot be read. -/
  | pattern (path : String)
  /-- A column has neither a name nor a pattern, or both. -/
  | namer (path : String)
deriving Repr, DecidableEq

/-- The wording of an error. -/
def ConfigError.message : ConfigError → String
  | json => "invalid config: "
  | catalog error => error.message
  | pattern path => "invalid pattern for " ++ path ++ ": "
  | namer path => path ++ ": exactly one of column or pattern is required"

/-- How a declared column is named. -/
def ColumnEntry.namer (c : ColumnEntry) : Except ConfigError Namer :=
  match c.column, c.pattern with
  | some name, none => .ok (.fixed name)
  | none, some p =>
    match Namer.ofPattern? p.regex p.replace with
    | some n => .ok n
    | none => .error (.pattern c.path)
  | _, _ => .error (.namer c.path)

namespace Config

/-- The group of the catalog. -/
def columnsGroup : String := "columns"

/-- Adds declared columns to a catalog, in their order. -/
def declareAll (c : Catalog) : List ColumnEntry → Except ConfigError Catalog
  | [] => .ok c
  | e :: es =>
    match e.namer with
    | .error err => .error err
    | .ok namer =>
      match c.declare e.path { type := e.type, namer } with
      | .error err => .error (.catalog err)
      | .ok c' => declareAll c' es

/-- The catalog of the declared columns. -/
def catalog (config : Config) : Except ConfigError Catalog :=
  declareAll {} config.columns

/-- All resolvers of a configuration with their groups, in the order in which they are asked. -/
def registry (config : Config) : Except ConfigError Registry :=
  match config.catalog with
  | .error e => .error e
  | .ok c =>
    .ok ((if config.presets then Presets.registry else []) ++
      config.exact.map (fun e => (Presets.core, .ofColumn e.path e.column e.type)) ++
      config.aclGroups.map (fun e => (Presets.acl, .ofAccessList e.path e.column)) ++
      if c.isEmpty then [] else [(columnsGroup, .catalog c)])

/-- The resolvers of a configuration without those of its disabled groups. -/
def resolvers (config : Config) : Except ConfigError (List Resolver) :=
  (registry config).map fun r => Registry.excluding r config.disable

/-- **The settings for compilation that a configuration describes.** -/
def settings (config : Config) : Except ConfigError Compile.Settings :=
  config.resolvers.map fun rs => { resolvers := some rs }

end Config

end RowFilter
