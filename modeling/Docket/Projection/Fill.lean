import Docket.SearchIndex
/-!
Filling an index with documents, one after another.
-/

namespace Docket.SearchIndex

/-- Puts documents in, up to the first that the index does not take. -/
def upsertAll (index : SearchIndex) : List Document → Except IndexError Unit × SearchIndex
  | [] => (.ok (), index)
  | document :: rest =>
      match index.upsert document with
      | .ok index => index.upsertAll rest
      | .error cause => (.error cause, index)

end Docket.SearchIndex
