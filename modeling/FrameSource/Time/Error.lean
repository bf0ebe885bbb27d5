/-!
# Time errors
-/

namespace FrameSource

/-- Why a time value could not be built from text. -/
inductive TimeError where
  | invalidTimestamp (input reason : String)
  | invalidInterval (input : String)
deriving DecidableEq, Repr

/-- The wording of a time error. -/
def TimeError.message : TimeError → String
  | .invalidTimestamp input reason => "Invalid timestamp '" ++ input ++ "': " ++ reason
  | .invalidInterval input => "Invalid interval '" ++ input ++ "'"

end FrameSource
