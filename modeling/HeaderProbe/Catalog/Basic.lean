import HeaderProbe.Text.Blank

namespace HeaderProbe

structure Fragment where
  name : Text
  kind : Text
  declaration : Text
  files : List Text
  deriving DecidableEq, Repr

structure CatalogEntry where
  query : Text
  fragment : Option Text := none
  deriving DecidableEq, Repr

structure CatalogGroup where
  name : Text
  entries : List CatalogEntry
  fragments : List Fragment := []
  option : Option Text := none
  requiredFile : Option Text := none
  onRecord : Bool := false
  deriving DecidableEq, Repr

abbrev Catalog := List CatalogGroup

end HeaderProbe
