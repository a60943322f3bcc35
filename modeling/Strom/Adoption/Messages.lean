import Strom.Go.Strings
import Strom.Go.Errors

/-!
# The messages of an adoption

The bodies of `POST /adopt`, which the controller and the agent declare alike.
-/

namespace Strom.Adoption

open Strom.Go

/-- `agentAdoptRequest` of the controller, `adoptRequest` of the agent. -/
structure AdoptRequest where
  caPEM : String
  nutUser : String
  nutPassword : String
  apiToken : String
  controllerURL : String
deriving DecidableEq, Repr

/-- `agentAdoptResponse` of the controller, `adoptResponse` of the agent. -/
structure AdoptResponse where
  serial : String
  version : String
  controllerURL : String
  tlsPort : Int
  tlsFingerprint : String
  tokenSHA256 : String
deriving DecidableEq, Repr

/-- `validateAdoptRequest`. -/
def validateAdoptRequest (req : AdoptRequest) : Except GoError Unit := do
  rejectIf (trimSpace req.caPEM = "") (.text "ca_pem is required")
  rejectIf (trimSpace req.nutUser = "") (.text "nut_user is required")
  rejectIf (trimSpace req.nutPassword = "") (.text "nut_password is required")
  rejectIf (trimSpace req.apiToken = "") (.text "api_token is required")
  rejectIf (trimSpace req.controllerURL = "") (.text "controller_url is required")

end Strom.Adoption
