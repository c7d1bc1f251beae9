/-!
An error together with what led to it, from the outside to the inside.
-/

namespace BulkIngest

structure Trouble where
  message : String
  causes : List String
deriving DecidableEq

namespace Trouble

def of (message : String) : Trouble := ⟨message, []⟩

/-- The same trouble, told from further outside. -/
def within (context : String) (trouble : Trouble) : Trouble :=
  ⟨context, trouble.message :: trouble.causes⟩

def chain (trouble : Trouble) : List String := trouble.message :: trouble.causes

/-- The whole chain in one line. -/
def text (trouble : Trouble) : String := ": ".intercalate trouble.chain

end Trouble

end BulkIngest
