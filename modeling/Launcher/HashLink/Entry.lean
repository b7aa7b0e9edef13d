import Launcher.HashLink.Call

/-!
# Looking the entrypoint up

The header of a program names its entrypoint as an index into foreign tables. The index is checked
against the counts of the header before any table is read, so that no read leaves a table that is as
long as the counts say.
-/

namespace Launcher.HashLink

/-- Why a program has no entrypoint that can be called. -/
inductive EntryRefusal
  | outOfRange (entrypoint : Int)
  | notBytecode (entrypoint : Int)
  | noBody (entrypoint : Int)
  deriving DecidableEq

/-- The words for a refusal. -/
def EntryRefusal.reason : EntryRefusal → String
  | outOfRange i => "entrypoint index " ++ toString i ++ " out of range"
  | notBytecode i => "entrypoint " ++ toString i ++ " is not a bytecode function"
  | noBody i => "entrypoint " ++ toString i ++ " has no compiled body"

/-- What the lookup of an entrypoint comes to. -/
inductive EntryLookup
  | found (closure : Closure)
  | refused (refusal : EntryRefusal)
  /-- The two counts of the header have no sum. -/
  | overflow
  /-- A table is shorter than the counts of the header say. -/
  | stray
  deriving DecidableEq

/-- The sum of two 32-bit counts, if it has 32 bits. -/
def addCounts? (a b : Int32) : Option Int :=
  let sum := a.toInt + b.toInt
  if Int32.minValue.toInt ≤ sum ∧ sum ≤ Int32.maxValue.toInt then some sum else none

/-- The closure of a program's entrypoint. -/
def Header.entry (h : Header) : EntryLookup :=
  let entrypoint := h.entrypoint.toInt
  if entrypoint < 0 then .refused (.outOfRange entrypoint)
  else match addCounts? h.functionCount h.nativeCount with
    | none => .overflow
    | some count =>
      if count ≤ entrypoint then .refused (.outOfRange entrypoint)
      else match h.indexes.read? entrypoint.toNat with
        | none => .stray
        | some index =>
          if index.toInt < 0 ∨ h.functionCount.toInt ≤ index.toInt then
            .refused (.notBytecode entrypoint)
          else match h.bodies.read? entrypoint.toNat with
            | none => .stray
            | some none => .refused (.noBody entrypoint)
            | some (some body) =>
              match h.types.read? index.toInt.toNat with
              | none => .stray
              | some type => .found ⟨type, body, false⟩

end Launcher.HashLink
