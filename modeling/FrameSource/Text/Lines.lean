/-!
# Lines
-/

namespace FrameSource.Text

/-- Lines put together, each with its end. -/
def unlines (lines : List String) : String :=
  String.join (lines.map (· ++ "\n"))

end FrameSource.Text
