import Docket.Proofs.Identity
/-!
The encoding that a document id is the digest of has one reading.

Every text follows its length and the fields follow their number, so what stands before the rest of
an encoding can be told from the rest (`Derivation.encodeText_append_inj`), and a list of fields is
read back field by field. So natural keys whose sizes fit in 64 bits have one encoding only if they
are the same, and one id only if they are the same or the digests of their encodings collide
(`NaturalKey.encode_unambiguous`).
-/

namespace Docket

namespace Derivation

/-- The number whose octets are given, the least significant first. -/
def octetsValue (octets : List UInt8) : Nat :=
  octets.foldr (fun octet rest => octet.toNat + 256 * rest) 0

theorem octetsValue_octets (count n : Nat) :
    octetsValue ((List.range count).map fun i => UInt8.ofNat (n / 256 ^ i)) = n % 256 ^ count := by
  induction count generalizing n with
  | zero => simp [octetsValue, Nat.mod_one]
  | succ count ih =>
      have power (i : Nat) : 256 ^ (i + 1) = 256 * 256 ^ i := Nat.pow_succ'
      -- The octets behind the first are those of `n / 256`.
      have rest := ih (n / 256)
      simp only [Nat.div_div_eq_div_mul, ← power] at rest
      rw [List.range_succ_eq_map, List.map_cons, List.map_map]
      calc
        _ = n / 256 ^ 0 % 256 + 256 * (n / 256 % 256 ^ count) := by
          rw [← rest]
          rfl
        _ = n % 256 ^ (count + 1) := by rw [Nat.pow_zero, Nat.div_one, power, Nat.mod_mul]

theorem length_littleEndian (n : Nat) : (littleEndian n).length = 8 := by
  simp [littleEndian]

theorem littleEndian_inj {n m : Nat} (small : n < 2 ^ 64) (small' : m < 2 ^ 64)
    (same : littleEndian n = littleEndian m) : n = m := by
  have value := congrArg octetsValue same
  rw [littleEndian, littleEndian, octetsValue_octets, octetsValue_octets] at value
  rwa [Nat.mod_eq_of_lt small, Nat.mod_eq_of_lt small'] at value

def Short (text : String) : Prop := (textOctets text).length < 2 ^ 64

instance (text : String) : Decidable (Short text) :=
  inferInstanceAs (Decidable (_ < _))

theorem textOctets_inj {text other : String} (same : textOctets text = textOctets other) :
    text = other := by
  apply String.toByteArray_inj.mp
  apply ByteArray.ext
  exact Array.toList_inj.mp same

/-- A text ends where its length says, whatever follows it. -/
theorem encodeText_append_inj {text other : String} {rest rest' : List UInt8} (short : Short text)
    (short' : Short other) (same : encodeText text ++ rest = encodeText other ++ rest') :
    text = other ∧ rest = rest' := by
  simp only [encodeText, List.append_assoc] at same
  obtain ⟨sameLength, same⟩ := List.append_inj same (by simp only [length_littleEndian])
  obtain ⟨octets, rests⟩ := List.append_inj same (littleEndian_inj short short' sameLength)
  exact ⟨textOctets_inj octets, rests⟩

/-- Each field is told from those behind it. The lists are as long as one another, so neither ends
    before the other. -/
theorem encodeFields_inj {fields others : List (String × String)}
    (short : ∀ field ∈ fields, Short field.1 ∧ Short field.2)
    (short' : ∀ field ∈ others, Short field.1 ∧ Short field.2)
    (length : fields.length = others.length) (same : encodeFields fields = encodeFields others) :
    fields = others := by
  induction fields generalizing others with
  | nil => exact (List.length_eq_zero_iff.mp length.symm).symm
  | cons field rest ih =>
      cases others with
      | nil => simp at length
      | cons other rest' =>
          obtain ⟨⟨shortName, shortValue⟩, shortRest⟩ := List.forall_mem_cons.mp short
          obtain ⟨⟨shortName', shortValue'⟩, shortRest'⟩ := List.forall_mem_cons.mp short'
          simp only [encodeFields, List.flatMap_cons, List.append_assoc] at same
          obtain ⟨sameName, same⟩ := encodeText_append_inj shortName shortName' same
          obtain ⟨sameValue, same⟩ := encodeText_append_inj shortValue shortValue' same
          rw [Prod.ext sameName sameValue, ih shortRest shortRest' (Nat.succ.inj length) same]

end Derivation

open Docket.Derivation

structure NaturalKey where
  projectName : String
  resourceName : String
  resourceVersion : String
  identity : Identity
  deriving DecidableEq

namespace NaturalKey

def encode (key : NaturalKey) : List UInt8 :=
  Derivation.encode key.projectName key.resourceName key.resourceVersion key.identity

def documentId (key : NaturalKey) : DocumentId :=
  Derivation.documentId key.projectName key.resourceName key.resourceVersion key.identity

structure Sized (key : NaturalKey) : Prop where
  projectName : Short key.projectName
  resourceName : Short key.resourceName
  resourceVersion : Short key.resourceVersion
  fields : ∀ field ∈ key.identity.toList, Short field.1 ∧ Short field.2
  few : key.identity.size < 2 ^ 64

variable {key other : NaturalKey}

theorem encode_inj (sized : key.Sized) (sized' : other.Sized) (same : key.encode = other.encode) :
    key = other := by
  simp only [encode, Derivation.encode, List.append_assoc] at same
  obtain ⟨projectName, same⟩ := encodeText_append_inj sized.projectName sized'.projectName same
  obtain ⟨resourceName, same⟩ := encodeText_append_inj sized.resourceName sized'.resourceName same
  obtain ⟨resourceVersion, same⟩ :=
    encodeText_append_inj sized.resourceVersion sized'.resourceVersion same
  obtain ⟨count, same⟩ := List.append_inj same (by simp only [length_littleEndian])
  have fields : key.identity.toList = other.identity.toList :=
    encodeFields_inj sized.fields sized'.fields (littleEndian_inj sized.few sized'.few count) same
  have holds : key.identity.Holds other.identity.toList := fun field => by rw [fields]
  have identity : key.identity = other.identity := holds.unique fun _ => Iff.rfl
  cases key
  cases other
  simp_all

/-- Natural keys have one encoding only if they are the same, and so two of them have one id only if
    the digest of two messages is the same. -/
theorem encode_unambiguous (sized : key.Sized) (sized' : other.Sized) :
    (key.encode = other.encode → key = other) ∧
      (key ≠ other → key.documentId = other.documentId →
        key.encode ≠ other.encode ∧
          Sha224.digest key.encode = Sha224.digest other.encode) := by
  refine ⟨encode_inj sized sized', fun differ same => ⟨fun encoded => ?_, ?_⟩⟩
  · exact differ (encode_inj sized sized' encoded)
  · exact congrArg DocumentId.digest same

theorem encode_unambiguous_movedLetter :
    let key : NaturalKey := ⟨"p", "r", "v", ⟨Table.ofList [("ab", "c")]⟩⟩
    let other : NaturalKey := ⟨"p", "r", "v", ⟨Table.ofList [("a", "bc")]⟩⟩
    key.Sized ∧ other.Sized ∧ key.encode ≠ other.encode := by
  intro key other
  have sized : key.Sized := ⟨by decide, by decide, by decide, by decide, by decide⟩
  have sized' : other.Sized := ⟨by decide, by decide, by decide, by decide, by decide⟩
  refine ⟨sized, sized', fun same => ?_⟩
  have alike : key = other := (encode_unambiguous sized sized').1 same
  exact absurd alike (by decide)

end NaturalKey

end Docket
