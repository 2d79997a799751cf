import OrgConsole.Text.Quoted
/-!
# Failures

What can go wrong between the console and its directory. A directory's own failures are of a type
`ε` that depends on the directory.
-/

namespace OrgConsole

/-- Why the console cannot do what it is asked. -/
inductive Failure (ε : Type)
  /-- A node that is no department. -/
  | notADepartment (id : String)
  /-- No node answers to the name. -/
  | nodeNotFound (key : String)
  /-- Two actions share a permission id. -/
  | duplicatePermission (id : String)
  /-- No action has the permission id. -/
  | unknownPermission (id : String)
  /-- The directory failed. -/
  | directory (cause : ε)
deriving DecidableEq, Repr

/-- The text of a failure, where `describe` gives the text of a directory's failures. -/
def Failure.message {ε : Type} (describe : ε → String) : Failure ε → String
  | notADepartment id => "node " ++ id ++ " is a corporation and cannot hold members"
  | nodeNotFound key => "no node with key " ++ Text.quoted key ++ " in the organization tree"
  | duplicatePermission id => "permission id " ++ Text.quoted id ++ " names more than one action"
  | unknownPermission id => "unknown permission id: " ++ Text.quoted id
  | directory cause => "directory error: " ++ describe cause

end OrgConsole
