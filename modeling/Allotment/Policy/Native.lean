import Allotment.Policy.Native.Bookkeeping
import Allotment.Policy.Native.Selection

/-!
# The native policy

It knows the two operations and wants for each of them the snapshot that belongs to it.
-/

namespace Allotment.Native

def misplaced (operation : String) : PolicyFault :=
  ⟨.unsupportedArguments, operation, "argument snapshot belongs to a different operation"⟩

def evaluator (settings : NativeSettings) : PolicyEvaluator := fun operation snapshot =>
  if operation = Operation.selectPools then
    match snapshot with
    | .selection s => ⟨.ok (.selection (some (select settings s))), selectLog settings s⟩
    | .grant _ => ⟨.error (misplaced operation), []⟩
  else if operation = Operation.postEntitlement then
    match snapshot with
    | .grant s => ⟨.ok (.directives (directives s)), directivesLog s⟩
    | .selection _ => ⟨.error (misplaced operation), []⟩
  else ⟨.ok .notConfigured, []⟩

end Allotment.Native
