import PatrolFleet.Interfaces

/-!
The `safety_gate` node of one robot: `cmd_vel_nav` and `estop` in, `cmd_vel`
out. A callback returns what it publishes on `cmd_vel`.
-/

set_option autoImplicit false

namespace PatrolFleet

structure Vector3 where
  x : Rat := 0
  y : Rat := 0
  z : Rat := 0
  deriving DecidableEq

structure Twist where
  linear : Vector3 := {}
  angular : Vector3 := {}
  deriving DecidableEq

namespace Twist

/-- The value-initialised message, `geometry_msgs::msg::Twist zero;`. -/
def zero : Twist := {}

end Twist

namespace Safety

structure State where
  estopActive : Bool := false
  deriving DecidableEq

def publishZero : List Twist := [Twist.zero]

def navCmdVelCallback (message : Twist) (s : State) : List Twist :=
  if s.estopActive then publishZero else [message]

def estopCallback (message : Bool) (s : State) : List Twist × State :=
  let wasActive := s.estopActive
  (if message && !wasActive then publishZero else [], { s with estopActive := message })

section

variable {s : State} {message m : Twist} {engage : Bool}

theorem navCmdVelCallback_active (h : s.estopActive = true) (hm : m ∈ navCmdVelCallback message s) :
    m = Twist.zero := by
  simpa [navCmdVelCallback, h, publishZero] using hm

theorem estopCallback_publishes (hm : m ∈ (estopCallback engage s).1) : m = Twist.zero := by
  unfold estopCallback at hm
  dsimp only at hm
  split at hm
  · simpa [publishZero] using hm
  · simp at hm

@[simp] theorem estopCallback_estopActive : (estopCallback engage s).2.estopActive = engage := rfl

end

end Safety

end PatrolFleet
