import DeployCheck.Abi.Encoding
import DeployCheck.Config.Basic

/-!
Constructor data for a deployment, given raw or as arguments.
-/
namespace DeployCheck

/-- The constructor data of the contract at `address`. A contract whose constructor takes no inputs
needs none; any other needs exactly one form of it. -/
def constructorData (address : String) (abi : Json) (settings : Option BytecodeSettings) :
    Except Failure (Option (List UInt8)) :=
  match Abi.constructorInputs? abi with
  | none => .error .serialization
  | some none => .ok none
  | some (some inputs) =>
    let raw := settings.bind fun s => Json.lookup address s.calldata
    let args := settings.bind fun s => Json.lookup address s.arguments
    match raw, args with
    | some _, some _ => .error (.calldata (.givenTwice address))
    | none, none => .error (.calldata (.notGiven address))
    | some text, none =>
      match Text.Hex.read text with
      | .ok bytes => .ok (some bytes)
      | .error e => .error (.decode e)
    | none, some args =>
      match Abi.encodeArguments inputs args with
      | .error e => .error (.encode e)
      | .ok [] => .error (.calldata .empty)
      | .ok bytes => .ok (some bytes)

end DeployCheck
