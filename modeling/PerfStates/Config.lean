import PerfStates.Capability
import PerfStates.Clock
import PerfStates.Domain.Map
import PerfStates.Text.Quoted

namespace PerfStates

/-- What a device is configured to have. -/
structure Config where
  capabilities : Capabilities
  /-- The clock domains, in the order a performance table refers to them. -/
  clocks : List ClockDomain
  /-- The configured object counts. -/
  counts : DomainMap Nat
  /-- Whether the memory clock can be programmed. -/
  memoryClock : Bool

/-- Why a configuration is inconsistent. -/
inductive ConfigFault
  | tooManyClocks (count : Nat)
  | duplicateName (name : String)
  | duplicateClock (id : ClockId)
  | countNotTaken (domain : Domain)
deriving DecidableEq, Repr

def ConfigFault.message : ConfigFault → String
  | tooManyClocks count => s!"{count} clock domains exceed 32"
  | duplicateName name => "duplicate clock domain name " ++ Text.quoted name
  | duplicateClock id => "duplicate clock api_domain " ++ id.describe
  | countNotTaken domain => "domain " ++ domain.name ++ " does not take an object count"

/-- Why a file could not be read. -/
inductive ReadError
  | notFound
  | notText
  | other (reason : String)
deriving DecidableEq, Repr

def ReadError.message : ReadError → String
  | notFound => "No such file or directory (os error 2)"
  | notText => "stream did not contain valid UTF-8"
  | other reason => reason

/-- Why a configuration could not be had. -/
inductive ConfigError
  | unreadable (path : String) (cause : ReadError)
  | malformed
  | inconsistent (fault : ConfigFault)
deriving DecidableEq, Repr

namespace ConfigError

/-- The wording for text that is no TOML document or does not fit the schema. -/
def malformedMessage : String := "TOML parse error"

def message : ConfigError → String
  | unreadable path cause => "unable to read " ++ path ++ ": " ++ cause.message
  | malformed => "invalid configuration: " ++ malformedMessage
  | inconsistent fault => "invalid configuration: " ++ fault.message

def causes : ConfigError → List String
  | unreadable _ cause => [cause.message]
  | malformed => [malformedMessage]
  | inconsistent _ => []

end ConfigError

namespace Config

def empty : Config := ⟨.none, [], .empty, false⟩

/-- The objects of a domain that no count is configured for. -/
def defaultCount : Nat := 1

/-- The number of objects to build for `domain`. -/
def objectCount (config : Config) (domain : Domain) : Nat :=
  (config.counts.get? domain).getD defaultCount

/-- The first clock domain whose name or number occurs among those before it. -/
def findDuplicate? (names : List String) (ids : List ClockId) :
    List ClockDomain → Option ConfigFault
  | [] => none
  | domain :: rest =>
    if names.contains domain.name then some (.duplicateName domain.name)
    else if ids.contains domain.id then some (.duplicateClock domain.id)
    else findDuplicate? (domain.name :: names) (domain.id :: ids) rest

/-- The first fault of the configuration, if it has one. -/
def fault? (config : Config) : Option ConfigFault :=
  if Group.smallCapacity < config.clocks.length then
    some (.tooManyClocks config.clocks.length)
  else
    (findDuplicate? [] [] config.clocks).or
      ((config.counts.keys.find? fun domain => !domain.isObjectModel).map .countNotTaken)

def validate (config : Config) : Except ConfigError Unit :=
  match config.fault? with
  | some fault => .error (.inconsistent fault)
  | none => .ok ()

end Config

end PerfStates
