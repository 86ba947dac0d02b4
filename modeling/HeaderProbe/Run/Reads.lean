import HeaderProbe.Run

namespace HeaderProbe

def CatalogEntry.files (e : CatalogEntry) : List Text :=
  match Query.ofLine e.query (e.fragment.map fun _ => []) literalMark with
  | .error _ => []
  | .ok q => q.paths

def CatalogGroup.files (g : CatalogGroup) : List Text :=
  g.requiredFile.toList ++ g.fragments.flatMap Fragment.files ++
    g.entries.flatMap CatalogEntry.files

def Catalog.files (c : Catalog) : List Text :=
  c.flatMap CatalogGroup.files

def Settings.reads (s : Settings) : List Text :=
  let inTree := marker :: s.catalog.files
  (s.config.toList.map Path.plain ++ inTree.map (Path.join s.rootPath)).eraseDups

end HeaderProbe
