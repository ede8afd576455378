import CrossRef.Catalog.Place

namespace CrossRef.Catalog

/-- Records a use of a symbol. The first use gives the symbol the next number. Tells whether a
number was issued; a place without a declaration changes nothing. -/
def addUse (catalog : Catalog) (target : Place) (path : String)
    (site : UseSite) : Catalog × Bool :=
  match catalog.get? target with
  | none => (catalog, false)
  | some decl =>
    let issued := !Identifier.isIssued decl.id
    let last := if issued then Identifier.next catalog.last else catalog.last
    let id := if issued then last else decl.id
    let change (d : Declaration) : Declaration :=
      { d with id, uses := d.uses.record path site }
    ({ catalog.modify target change with last }, issued)

end CrossRef.Catalog
