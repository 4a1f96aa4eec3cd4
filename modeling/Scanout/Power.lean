/-!
# Power

The power state that is cached for a pipe or an output, and the power management requests of a
display. Standby and suspend are the same as on at register level.
-/

set_option autoImplicit false
set_option relaxedAutoImplicit false

namespace Scanout

/-- Cached power state of a pipe or an output. -/
inductive Power where
  | off
  | enabling
  | on
  | disabling
  deriving DecidableEq, Repr, Inhabited

/-- A power management request. -/
inductive Dpms where
  | on
  | standby
  | suspend
  | off
  deriving DecidableEq, Repr

namespace Dpms

/-- The request asks for a picture. -/
def isOn : Dpms → Bool
  | off => false
  | on | standby | suspend => true

/-- The request's written name. -/
def name : Dpms → String
  | on => "On"
  | standby => "Standby"
  | suspend => "Suspend"
  | off => "Off"

end Dpms

end Scanout
