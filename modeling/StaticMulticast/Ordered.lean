/-!
# Lists in the order of a key

A finite collection in which an element is known by its key is kept as a list whose keys ascend
strictly. So two collections with the same elements are the same list, and a listing shows nothing
of the order in which the elements came.
-/

namespace StaticMulticast.Ordered

variable {Element Key : Type} [Ord Key]

/-- The element with the given key. -/
def find? (key : Element → Key) (wanted : Key) (elements : List Element) : Option Element :=
  elements.find? fun element => compare (key element) wanted == .eq

/-- Puts an element in its place. An element with the same key gives way to it. -/
def insert (key : Element → Key) (element : Element) : List Element → List Element
  | [] => [element]
  | first :: rest =>
      match compare (key element) (key first) with
      | .lt => element :: first :: rest
      | .eq => element :: rest
      | .gt => first :: insert key element rest

end StaticMulticast.Ordered
