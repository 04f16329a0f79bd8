import ArticleTree.Digest.Sha256

/-! # Stable hashes

Hashes of texts, sequences and mappings that depend on nothing but the value. A sequence
is hashed by the hashes of its elements, in their order; a mapping by those of its
entries, in an order of their own, so that it does not matter how the mapping lists them.
The digest of a text is a parameter.
-/

namespace ArticleTree.Digest

inductive Hashable where
  | text (value : String)
  | sequence (items : List Hashable)
  | mapping (entries : List (String × Hashable))

/-- The hash of a sequence whose elements have these hashes. -/
def ofSequence (digest : String → String) (hashes : List String) : String :=
  digest ("|".intercalate hashes)

/-- An entry whose key and value have these hashes. -/
def pairText (keyHash valueHash : String) : String :=
  "<" ++ keyHash ++ ";" ++ valueHash ++ ">"

/-- The hash of a mapping whose keys and values have these hashes. -/
def ofPairs (digest : String → String) (hashes : List (String × String)) : String :=
  let pairs := hashes.map fun (keyHash, valueHash) => pairText keyHash valueHash
  ofSequence digest ((pairs.mergeSort fun a b => decide (a ≤ b)).map digest)

namespace Hashable

mutual

def hash (digest : String → String) : Hashable → String
  | text value => digest value
  | sequence items => ofSequence digest (hashAll digest items)
  | mapping entries => ofPairs digest (hashEntries digest entries)

def hashAll (digest : String → String) : List Hashable → List String
  | [] => []
  | item :: items => item.hash digest :: hashAll digest items

def hashEntries (digest : String → String) : List (String × Hashable) → List (String × String)
  | [] => []
  | (key, value) :: entries => (digest key, value.hash digest) :: hashEntries digest entries

end

end Hashable

/-- The hash of a call: of its function, its arguments and its named arguments. -/
def ofCall (digest : String → String) (function : String) (args : List String)
    (named : List (String × String)) : String :=
  ofSequence digest
    [digest function, ofSequence digest (args.map digest),
      ofPairs digest (named.map fun (key, value) => (digest key, digest value))]

end ArticleTree.Digest
