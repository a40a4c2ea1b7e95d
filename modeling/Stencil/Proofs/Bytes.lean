/-!
# Texts as bytes

A text is kept as its bytes in UTF-8, and positions inside of it count bytes. What stands between
two positions is a text only if both are boundaries of characters. Main statements: `ofBytes?_bytes`
and `slice?_bytes`.
-/

namespace Stencil.Text

/-- The bytes of a text in UTF-8. -/
def bytes (s : List Char) : List UInt8 := s.flatMap String.utf8EncodeChar

/-- The text that is encoded by bytes, if they are UTF-8. -/
def ofBytes? (bs : List UInt8) : Option (List Char) := bs.toByteArray.utf8Decode?.map Array.toList

/-- The text between two positions, which have to be in order, in range and boundaries of
characters. -/
def slice? (bs : List UInt8) (start stop : Nat) : Option (List Char) :=
  if start ≤ stop ∧ stop ≤ bs.length then ofBytes? (bs.extract start stop) else none

/-- The bytes of two texts in a row are those of both, one behind the other. -/
theorem bytes_append (s t : List Char) : bytes (s ++ t) = bytes s ++ bytes t := List.flatMap_append

/-- The bytes of one character are its encoding. -/
theorem bytes_singleton (c : Char) : bytes [c] = String.utf8EncodeChar c :=
  List.flatMap_singleton _ c

/-- A text is encoded by its bytes. -/
theorem ofBytes?_bytes (s : List Char) : ofBytes? (bytes s) = some s := by
  have hutf8 : (bytes s).toByteArray = s.utf8Encode := rfl
  rw [ofBytes?, hutf8, List.utf8Decode?_utf8Encode, Option.map_some]

/-- What stands behind the bytes of one text and in front of those of another is the text between
them. -/
theorem slice?_bytes (front run back : List Char) :
    slice? (bytes (front ++ run ++ back)) (bytes front).length (bytes (front ++ run)).length =
      some run := by
  have hle : (bytes front).length ≤ (bytes (front ++ run)).length := by
    rw [bytes_append, List.length_append]
    omega
  have hin : (bytes (front ++ run)).length ≤ (bytes (front ++ run ++ back)).length := by
    rw [bytes_append _ back, List.length_append]
    omega
  have hextract : (bytes (front ++ run ++ back)).extract (bytes front).length
      (bytes (front ++ run)).length = bytes run := by
    simp [bytes_append, List.extract_eq_take_drop]
  rw [slice?, if_pos ⟨hle, hin⟩, hextract, ofBytes?_bytes]

end Stencil.Text
