import PerfStates.Config
import PerfStates.Failure
import PerfStates.Module.Builtin

namespace PerfStates

abbrev ModuleTable (M : Type) : Type := DomainMap M

namespace ModuleTable

/-- Put a module in for its own domain. -/
def register {M : Type} [DomainModule M] (table : ModuleTable M) (model : M) : ModuleTable M :=
  table.insert (DomainModule.domain model) model

/-- The module of a domain that must have one. -/
def require {M : Type} (table : ModuleTable M) (domain : Domain) : Except Failure M :=
  match table.get? domain with
  | some model => .ok model
  | none => .error (.missingDomain domain)

def describe {M : Type} (table : ModuleTable M) : String :=
  "\x7b" ++ ", ".intercalate (table.keys.map Domain.title) ++ "\x7d"

/-- The modules that a configuration calls for, in the order they are registered. -/
def builtinModules (config : Config) : List BuiltinModule :=
  Domain.foundations.map (fun domain => .unit (.start domain)) ++
  Domain.objectModels.map (fun domain =>
    .objects (.start domain (config.objectCount domain))) ++
  [.clocks (.start config.clocks)] ++
  if config.memoryClock then [.memoryClock .start] else []

def builtin (config : Config) : ModuleTable BuiltinModule :=
  (builtinModules config).foldl register DomainMap.empty

end ModuleTable

end PerfStates
