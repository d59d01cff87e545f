/-
  What stores can do beyond reading.

  Key definitions include:
    * `Capabilities`
-/

namespace TreeKeeper

/- The operations that a store offers. -/
structure Capabilities where
  delete : Bool := false
  migrate : Bool := false
  xattrs : Bool := false
deriving DecidableEq

end TreeKeeper
