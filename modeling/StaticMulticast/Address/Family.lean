/-!
# Address families

The two families of addresses, their two spellings, and the guess of a family from the text of an
address. The guess looks for a colon and for nothing else, so it needs no address that can be read.
-/

namespace StaticMulticast.Address

/-- The family of an address. -/
inductive Family where
  | inet
  | inet6
deriving DecidableEq, Repr

namespace Family

/-- The family as it appears in messages. -/
def name : Family → String
  | .inet => "IPv4"
  | .inet6 => "IPv6"

/-- The family as it is stored. -/
def tag : Family → String
  | .inet => "Inet"
  | .inet6 => "Inet6"

/-- The family with the given stored form. -/
def ofTag? (text : String) : Option Family :=
  if text = "Inet" then some .inet
  else if text = "Inet6" then some .inet6
  else none

/-- IPv4 comes before IPv6. -/
def rank : Family → Nat
  | .inet => 0
  | .inet6 => 1

/-- The family that the text of an address belongs to, by whether it has a colon. -/
def ofText (text : String) : Family :=
  if ':' ∈ text.toList then .inet6 else .inet

end Family

end StaticMulticast.Address
