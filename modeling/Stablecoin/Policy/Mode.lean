import Stablecoin.Host

set_option autoImplicit false

/-! # Modes of a transfer policy

A policy keeps a list of addresses and reads it in one of two ways. -/

namespace Stablecoin

/-- How a transfer policy reads its list. -/
inductive Policy.Mode where
  /-- Whoever is listed is refused. -/
  | blacklist
  /-- Whoever is not listed is refused. -/
  | whitelist
deriving DecidableEq

namespace Policy.Mode

/-- Whether an address may receive, given whether it is listed. -/
def allows : Mode → Bool → Bool
  | .blacklist, listed => !listed
  | .whitelist, listed => listed

@[simp] theorem allows_blacklist (listed : Bool) : blacklist.allows listed = !listed := rfl

@[simp] theorem allows_whitelist (listed : Bool) : whitelist.allows listed = listed := rfl

/-- The mode as JSON. -/
def toJson : Mode → Json
  | .blacklist => .str "blacklist"
  | .whitelist => .str "whitelist"

/-- Reads a mode. -/
def ofJson? : Json → Option Mode
  | .str "blacklist" => some .blacklist
  | .str "whitelist" => some .whitelist
  | _ => none

/-- The mode in an attribute. -/
def describe : Mode → String
  | .blacklist => "Blacklist"
  | .whitelist => "Whitelist"

end Policy.Mode

end Stablecoin
