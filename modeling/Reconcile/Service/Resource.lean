import Reconcile.Service.Basic

/-!
The resources that the service offers: for each device of the inventory the declaration that would bring about its
configuration.
-/

namespace Reconcile.Service

structure Resource where
  address : String
  name : String
  mediaType : String := "application/json"

def scheme : String :=
  "onboard://"

def resourceOf (id : Key) (config : Value) : Result Resource := do
  let fields ← config.fieldsOrFail
  let name := (Assoc.get? fields "name").getD id.toValue
  return {
    address := scheme ++ id.display ++ "/declaration"
    name := name.display ++ " Declaration" }

def resources (service : Service) : Result (List Resource) :=
  service.inventory.devices.mapM fun (id, config) => resourceOf id config

def deviceAt? (address : String) : Option String :=
  if Text.startsWith scheme address then
    match Text.cut "/" (Text.dropHead scheme address) with
    | device :: "declaration" :: _ => some device
    | _ => none
  else none

def resourceContent (registry : Registry) (address : String) (service : Service) : Observed Value :=
  match deviceAt? address with
  | some device => service.inspect registry (.text device)
  | none => return .object [("error", .text ("Unknown resource: " ++ address))]

end Reconcile.Service
