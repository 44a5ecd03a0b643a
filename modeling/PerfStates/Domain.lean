namespace PerfStates

/-- A performance domain. Tables and messages list the domains in this order. -/
inductive Domain
  | clk
  | perf
  | therm
  | pmgr
  | voltRail
  | voltDev
  | voltPolicy
  | clkVin
  | clkFll
  | thermDomain
  | vfeVar
  | vfeEqu
  | clkDomain
  | clkVfPoint
  | clkProg
  | clkFreqDomain
  | pmgrDomain
  | clkFreqController
  | lpwrPg
  | changeSeq
  | mclk
deriving DecidableEq, Repr

namespace Domain

def all : List Domain :=
  [clk, perf, therm, pmgr, voltRail, voltDev, voltPolicy, clkVin, clkFll, thermDomain,
    vfeVar, vfeEqu, clkDomain, clkVfPoint, clkProg, clkFreqDomain, pmgrDomain,
    clkFreqController, lpwrPg, changeSeq, mclk]

/-- The position of a domain in the order. -/
def rank : Domain → Fin 21
  | clk => 0
  | perf => 1
  | therm => 2
  | pmgr => 3
  | voltRail => 4
  | voltDev => 5
  | voltPolicy => 6
  | clkVin => 7
  | clkFll => 8
  | thermDomain => 9
  | vfeVar => 10
  | vfeEqu => 11
  | clkDomain => 12
  | clkVfPoint => 13
  | clkProg => 14
  | clkFreqDomain => 15
  | pmgrDomain => 16
  | clkFreqController => 17
  | lpwrPg => 18
  | changeSeq => 19
  | mclk => 20

theorem all_rank (domain : Domain) : all[domain.rank]? = some domain := by
  cases domain <;> rfl

theorem rank_injective {first second : Domain} (same : first.rank = second.rank) :
    first = second :=
  Option.some.inj (by rw [← all_rank first, ← all_rank second, same])

theorem mem_all (domain : Domain) : domain ∈ all := by
  cases domain <;> decide

/-- Domains whose software half reserves state that later domains rely on. -/
def foundations : List Domain := [clk, perf, therm, pmgr]

/-- Domains whose model is a configured number of like objects. -/
def objectModels : List Domain :=
  [voltRail, voltDev, voltPolicy, clkVin, clkFll, thermDomain, vfeVar, vfeEqu, clkVfPoint,
    clkProg, clkFreqDomain, pmgrDomain, clkFreqController, lpwrPg, changeSeq]

/-- Whether a failed software phase must release the domain. -/
def isFoundation (domain : Domain) : Bool := foundations.contains domain

/-- Whether the domain is built from a configured object count. -/
def isObjectModel (domain : Domain) : Bool := objectModels.contains domain

def name : Domain → String
  | clk => "clk"
  | perf => "perf"
  | therm => "therm"
  | pmgr => "pmgr"
  | voltRail => "volt_rail"
  | voltDev => "volt_dev"
  | voltPolicy => "volt_policy"
  | clkVin => "clk_vin"
  | clkFll => "clk_fll"
  | thermDomain => "therm_domain"
  | vfeVar => "vfe_var"
  | vfeEqu => "vfe_equ"
  | clkDomain => "clk_domain"
  | clkVfPoint => "clk_vf_point"
  | clkProg => "clk_prog"
  | clkFreqDomain => "clk_freq_domain"
  | pmgrDomain => "pmgr_domain"
  | clkFreqController => "clk_freq_controller"
  | lpwrPg => "lpwr_pg"
  | changeSeq => "change_seq"
  | mclk => "mclk"

/-- The name with each of its words capitalised and no underscores. -/
def title : Domain → String
  | clk => "Clk"
  | perf => "Perf"
  | therm => "Therm"
  | pmgr => "Pmgr"
  | voltRail => "VoltRail"
  | voltDev => "VoltDev"
  | voltPolicy => "VoltPolicy"
  | clkVin => "ClkVin"
  | clkFll => "ClkFll"
  | thermDomain => "ThermDomain"
  | vfeVar => "VfeVar"
  | vfeEqu => "VfeEqu"
  | clkDomain => "ClkDomain"
  | clkVfPoint => "ClkVfPoint"
  | clkProg => "ClkProg"
  | clkFreqDomain => "ClkFreqDomain"
  | pmgrDomain => "PmgrDomain"
  | clkFreqController => "ClkFreqController"
  | lpwrPg => "LpwrPg"
  | changeSeq => "ChangeSeq"
  | mclk => "Mclk"

def ofName? (text : String) : Option Domain := all.find? fun domain => domain.name == text

def unknownMessage (text : String) : String :=
  "unknown variant `" ++ text ++ "`, expected one of "
    ++ ", ".intercalate (all.map fun domain => "`" ++ domain.name ++ "`")

/-- The domain called `text`, or the complaint that there is none. -/
def ofName (text : String) : Except String Domain :=
  match ofName? text with
  | some domain => .ok domain
  | none => .error (unknownMessage text)

theorem ofName?_name (domain : Domain) : ofName? domain.name = some domain := by
  cases domain <;> decide

theorem name_injective {first second : Domain} (same : first.name = second.name) :
    first = second :=
  Option.some.inj (by rw [← ofName?_name first, ← ofName?_name second, same])

end Domain

end PerfStates
