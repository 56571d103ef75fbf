import PhasedInstall.Json.Decode

/-!
# Owners

An object may name the objects that own it. When the last owner disappears, so does the object;
at most one owner is the one that controls it.
-/

set_option autoImplicit false

namespace PhasedInstall

/-- A reference to an owner. -/
structure Owner where
  apiVersion : String
  blockOwnerDeletion : Option Bool
  controller : Option Bool
  kind : String
  name : String
  uid : String
deriving DecidableEq, Repr

namespace Owner

/-- Reads a reference. The names default to the empty text. -/
def ofJson? : Json → Option Owner
  | .obj m => do
    pure {
      apiVersion := ← Members.defaulted? Json.str? "" "apiVersion" m
      blockOwnerDeletion := ← Members.optional? Json.bool? "blockOwnerDeletion" m
      controller := ← Members.optional? Json.bool? "controller" m
      kind := ← Members.defaulted? Json.str? "" "kind" m
      name := ← Members.defaulted? Json.str? "" "name" m
      uid := ← Members.defaulted? Json.str? "" "uid" m }
  | _ => none

/-- Reads references. One that cannot be read spoils all. -/
def listOfJson? : Json → Option (List Owner) := Json.list? ofJson?

/-- Writes a reference. What it does not say is left out. -/
def toJson (o : Owner) : Json :=
  Json.record [
    ("apiVersion", some (.str o.apiVersion)),
    ("blockOwnerDeletion", o.blockOwnerDeletion.map .bool),
    ("controller", o.controller.map .bool),
    ("kind", some (.str o.kind)),
    ("name", some (.str o.name)),
    ("uid", some (.str o.uid))]

end Owner

end PhasedInstall
