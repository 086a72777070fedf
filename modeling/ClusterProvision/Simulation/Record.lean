import ClusterProvision.Text.Quoted
import ClusterProvision.Timed

/-!
# `ClusterProvision.Simulation.Record`: what a simulated provider has done

The record lists the nodes created so far and counts how often images were loaded. Each
created node gets a boot id, which counts the creations in hexadecimal. Boot ids are
numbered with 64 bits, so their numbers start again after `2 ^ 64` creations. Loading is
counted without a limit.
-/

set_option autoImplicit false

namespace ClusterProvision.Simulation

/-- What a simulated provider has done: the roles and names of the nodes it has created, in
order, how often images were loaded, and how many boot ids it has given out. -/
structure Record where
  created : List (Role × String) := []
  imagesLoaded : Nat := 0
  boots : UInt64 := 0
  deriving DecidableEq, Repr

namespace Record

/-- The boot id with a number: 16 hexadecimal digits. -/
def bootId (n : UInt64) : String :=
  let digits := Text.hex n.toNat
  "boot_" ++ String.ofList (List.replicate (16 - digits.length) '0' ++ digits)

/-- A node has been created. -/
def create (record : Record) (role : Role) (name : String) : Record :=
  { record with created := record.created ++ [(role, name)], boots := record.boots + 1 }

/-- Images have been loaded into a node. -/
def loadImages (record : Record) : Record :=
  { record with imagesLoaded := record.imagesLoaded + 1 }

/-- What an event adds to a record. -/
def note (record : Record) : Event → Record
  | .succeeded (.create method request) => record.create method.role request.name
  | .succeeded .loadImages => record.loadImages
  | _ => record

/-- The record of a provider on which some events have happened, one after another. -/
def ofEvents (events : List Event) : Record := events.foldl note {}

/-- The names of the created nodes, sorted, each once. -/
def names (record : Record) : List String :=
  ((record.created.map Prod.snd).mergeSort fun a b => decide (a ≤ b)).eraseDups

/-- The created nodes by name. -/
def byName (record : Record) : List (Role × String) :=
  record.created.mergeSort fun a b => decide (a.2 ≤ b.2)

end Record
end ClusterProvision.Simulation
