import PhasedInstall.Json.Basic

/-!
# Overlay: a desired value laid over a live one

`overlay live desired` overwrites the fields that `desired` sets and keeps the rest, so that what
a server filled in survives. Objects are laid over each other key by key; every other value,
arrays included, replaces what was there.
-/

set_option autoImplicit false

namespace PhasedInstall.Json

mutual

/-- Lays `desired` over `live`. The recursion is on `desired`: what is overwritten does not
matter, only what overwrites. -/
def overlay : Json → Json → Json
  | .obj live, .obj desired => .obj (overlayMembers live desired)
  | _, desired => desired

/-- Lays members over members, in the order of the new ones. -/
def overlayMembers (live : Members) : List (String × Json) → Members
  | [] => live
  | (key, value) :: rest =>
    let below := (Table.get? key live).getD .null
    overlayMembers (Table.put key (overlay below value) live) rest

end

@[simp] theorem overlay_null (desired : Json) : overlay .null desired = desired := by
  cases desired <;> rfl

end PhasedInstall.Json
