import StaticMulticast.Address.Basic

/-!
# Group memberships

An interface is a member of a group, for packets of any source or for those of one source only.
-/

namespace StaticMulticast

open Address (Family)

/-- A membership of an interface in a group. -/
structure Membership where
  interface : String
  source : Option Address
  group : Address
deriving DecidableEq, Repr

namespace Membership

/-- The order of sources: any source first. -/
def compareSource : Option Address → Option Address → Ordering
  | none, none => .eq
  | none, some _ => .lt
  | some _, none => .gt
  | some left, some right => compare left right

/-- Memberships are ordered by the name of the interface, then source, then group. -/
instance : Ord Membership where
  compare left right :=
    (compare left.interface right.interface).then
      ((compareSource left.source right.source).then (compare left.group right.group))

/-- The family of a membership is that of its group. -/
def family (membership : Membership) : Family :=
  membership.group.family

/-- A membership as one text. -/
def text (membership : Membership) : String :=
  match membership.source with
  | some source =>
      "(" ++ source.text ++ ", " ++ membership.group.text ++ ") on " ++ membership.interface
  | none => membership.group.text ++ " on " ++ membership.interface

end Membership

end StaticMulticast
