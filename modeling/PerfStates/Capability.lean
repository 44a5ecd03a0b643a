import PerfStates.Text.Numeral

namespace PerfStates

/-- An optional feature that gates steps of the bring-up. -/
inductive Capability
  | vfe
  | vfPoint
  | clkFreqDomain
  | clkFreqController
  | pmgrDomain
  | lpwrPg
  | changeSeq
deriving DecidableEq, Repr

namespace Capability

def all : List Capability :=
  [vfe, vfPoint, clkFreqDomain, clkFreqController, pmgrDomain, lpwrPg, changeSeq]

/-- The word whose only set bit is that of the capability. -/
def bit : Capability → UInt32
  | vfe => 1
  | vfPoint => 2
  | clkFreqDomain => 4
  | clkFreqController => 8
  | pmgrDomain => 16
  | lpwrPg => 32
  | changeSeq => 64

def title : Capability → String
  | vfe => "VFE"
  | vfPoint => "VF_POINT"
  | clkFreqDomain => "CLK_FREQ_DOMAIN"
  | clkFreqController => "CLK_FREQ_CONTROLLER"
  | pmgrDomain => "PMGR_DOMAIN"
  | lpwrPg => "LPWR_PG"
  | changeSeq => "CHANGE_SEQ"

end Capability

/-- A set of capabilities as a word of bits. -/
structure Capabilities where
  bits : UInt32
deriving DecidableEq, Repr

namespace Capabilities

def none : Capabilities := ⟨0⟩

def ofList (items : List Capability) : Capabilities :=
  ⟨items.foldl (fun bits capability => bits ||| capability.bit) 0⟩

def contains (set : Capabilities) (capability : Capability) : Bool :=
  set.bits &&& capability.bit != 0

/-- The bits that stand for no known capability. -/
def unknownBits (set : Capabilities) : UInt32 :=
  set.bits &&& ~~~(ofList Capability.all).bits

/-- The same set without the bits that stand for no known capability. -/
def known (set : Capabilities) : Capabilities :=
  ⟨set.bits &&& (ofList Capability.all).bits⟩

/-- The set as messages show it: the known capabilities by name, then the other
bits as one number; a set without bits is the number zero. -/
def describe (set : Capabilities) : String :=
  let names := (Capability.all.filter set.contains).map Capability.title
  let rest := if set.unknownBits = 0 then [] else [Text.hex set.unknownBits.toNat]
  let parts := names ++ rest
  "PerfCaps(" ++ (if parts.isEmpty then Text.hex 0 else " | ".intercalate parts) ++ ")"

end Capabilities

end PerfStates
