import Web3Id.Construction.Chain

/-
This file is what the two generic verifiers get from their clients and return to them.
-/

namespace Web3Id

/-- The length of a body is declared in a header, or the body arrives in chunks. -/
structure HttpBody where
  bytes : Bytes
  declared : Bool

/-- The content is a text or the value that the endpoint returns. -/
structure HttpResponse (A : Type) where
  status : Nat
  content : String ⊕ A
  deriving DecidableEq, Repr

end Web3Id
