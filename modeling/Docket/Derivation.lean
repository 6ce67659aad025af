import Docket.DocumentId
import Docket.Identity
import Docket.Resource
/-!
Document ids are derived from the coordinates of the resource and the identity.

The digest is taken of an encoding in which every text follows its length and the fields follow
their number, so that no two inputs have one encoding.
-/

namespace Docket.Derivation

/-- The octets of a number below 2 ^ 64, the least significant first. -/
def littleEndian (n : Nat) : List UInt8 :=
  (List.range 8).map fun i => UInt8.ofNat (n / 256 ^ i)

def textOctets (text : String) : List UInt8 := text.toUTF8.data.toList

def encodeText (text : String) : List UInt8 :=
  littleEndian (textOctets text).length ++ textOctets text

/-- The fields of an identity in ascending order of name. -/
def encodeFields (fields : List (String × String)) : List UInt8 :=
  fields.flatMap fun field => encodeText field.1 ++ encodeText field.2

def encode (projectName resourceName resourceVersion : String) (identity : Identity) :
    List UInt8 :=
  encodeText projectName ++ encodeText resourceName ++ encodeText resourceVersion
    ++ littleEndian identity.size ++ encodeFields identity.toList

/-- The id of a document, whatever its coordinates and identity. -/
def documentId (projectName resourceName resourceVersion : String) (identity : Identity) :
    DocumentId :=
  DocumentId.ofOctets (encode projectName resourceName resourceVersion identity)

/-- The id of a document whose coordinates are not blank and whose identity has a field. -/
def checkedId (resource : Resource) (identity : Identity) : Except Error DocumentId :=
  match resource.validate with
  | .error cause => .error cause
  | .ok () =>
      if identity.isEmpty then .error (.invalidIdentity (.noFields resource.resourceName))
      else
        .ok (documentId resource.projectName resource.resourceName resource.resourceVersion
          identity)

end Docket.Derivation
