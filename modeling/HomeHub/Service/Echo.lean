import HomeHub.Service.Service

/-!
A service that answers with what it was asked. It fails if the body is an object with a member
`fail`.
-/

namespace HomeHub

structure Echo where
  ready : Bool
  deriving DecidableEq, Repr

namespace Echo

def handle (e : Echo) (command : Command) (body : Json) : Service.Outcome Echo :=
  if (body.get? "fail").isSome then ⟨.error (.rejected "asked to fail"), [], e⟩
  else ⟨.ok (.object [("body", body), ("command", .string command.wire)]), [], e⟩

instance : Service Echo where
  serviceType _ := 0
  isReady := ready
  handle := handle
  start e _ _ := e
  poll e _ _ := ([], e)

end Echo

end HomeHub
