import Reconcile.Remote.Inventory

/-!
The devices of an inventory that are in use. A device stays the same for as long as it is in use; once all devices
have been closed, every one is taken into use afresh.
-/

namespace Reconcile

/-- A device in use. Devices with the same number are one and the same. -/
structure DeviceInUse where
  number : Nat
  settings : DeviceSettings
  connected : Bool := false

structure Roster where
  inventory : Inventory
  inUse : List (String × DeviceInUse) := []
  /-- The number of the next device that is taken into use. -/
  next : Nat := 0

namespace Roster

def device (id : String) (roster : Roster) : Result (DeviceInUse × Roster) :=
  match Assoc.get? roster.inUse id with
  | some device => .ok (device, roster)
  | none => do
    let device : DeviceInUse := { number := roster.next, settings := ← roster.inventory.settings id }
    return (device, { roster with inUse := Assoc.put roster.inUse id device, next := roster.next + 1 })

def mark (id : String) (connected : Bool) (roster : Roster) : Roster :=
  { roster with inUse := Assoc.mapValues (fun other device =>
    if other = id then { device with connected } else device) roster.inUse }

/-- What has become of the devices in use when all are closed, and the roster without them. -/
def close (roster : Roster) : List (String × DeviceInUse) × Roster :=
  (Assoc.mapValues (fun _ device => { device with connected := false }) roster.inUse, { roster with inUse := [] })

theorem device_again {id : String} {roster after : Roster} {device : DeviceInUse}
    (taken : roster.device id = .ok (device, after)) : after.device id = .ok (device, after) := by
  unfold Roster.device at taken
  split at taken
  · rename_i found
    cases taken
    simp [Roster.device, found]
  · cases settings : roster.inventory.settings id with
    | error fault => simp [settings, bind, Except.bind] at taken
    | ok value =>
      simp only [settings, bind, Except.bind, pure, Except.pure] at taken
      cases taken
      simp [Roster.device]

end Roster

end Reconcile
