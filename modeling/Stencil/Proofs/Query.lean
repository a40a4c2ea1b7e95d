import Stencil.Environment
import Stencil.Proofs.Bytes

/-!
# Reading percent encoding

What the filter for addresses writes can be read back, whatever encoder writes the bytes for it. A
text that is decoded again is the text of the value, and a query that is cut at its ampersands, and
each part at its first equals sign, gives the names and the texts of the entries that are there,
since neither sign stands in an encoded text. Main statement: `read_urlencode`.
-/

namespace Stencil

namespace Text

/-! ### Decoding -/

/-- The byte that two hexadecimal digits stand for. -/
def hexByte? (high low : Char) : Option UInt8 := do
  return UInt8.ofNat (16 * (← hexValue? high) + (← hexValue? low))

/-- The bytes that a text in percent encoding stands for. Two hexadecimal digits behind a percent
sign stand for a byte, and every other character stands for itself. -/
def percentBytes : List Char → List UInt8
  | [] => []
  | '%' :: high :: low :: cs =>
    match hexByte? high low with
    | some b => b :: percentBytes cs
    | none => String.utf8EncodeChar '%' ++ percentBytes (high :: low :: cs)
  | c :: cs => String.utf8EncodeChar c ++ percentBytes cs

/-- The text that is written in percent encoding, if the bytes are UTF-8. -/
def percentDecode? (s : List Char) : Option (List Char) := ofBytes? (percentBytes s)

/-- The name and the value in a part of a query, which is cut at its first equals sign. -/
def readPart? (part : List Char) : Option (List Char × List Char) :=
  match part.dropWhile (· != '=') with
  | [] => none
  | _ :: value => do
    return (← percentDecode? (part.takeWhile (· != '=')), ← percentDecode? value)

/-- The names and the values in a query, which is cut at all its ampersands. -/
def readQuery? (s : List Char) : Option (List (List Char × List Char)) :=
  (s.splitOn '&').mapM readPart?

private theorem hexByte?_upperHexDigit (b : UInt8) :
    hexByte? (upperHexDigit (b.toNat / 16)) (upperHexDigit b.toNat) = some b := by
  have hlt : b.toNat < 256 := b.toNat_lt
  have hvalue : 16 * (b.toNat / 16 % 16) + b.toNat % 16 = b.toNat := by omega
  simp only [hexByte?, hexValue?_upperHexDigit, Option.bind_eq_bind, Option.bind_some, hvalue,
    UInt8.ofNat_toNat]
  rfl

private theorem percentBytes_cons {c : Char} (h : c ≠ '%') (cs : List Char) :
    percentBytes (c :: cs) = String.utf8EncodeChar c ++ percentBytes cs := by
  simp [percentBytes, h]

private theorem upperHexDigit_ne {c : Char} (hc : hexValue? c = none) (n : Nat) :
    upperHexDigit n ≠ c := by
  rintro rfl
  rw [hexValue?_upperHexDigit] at hc
  cases hc

private theorem toNat_ofNat_of_lt {n : Nat} (h : n < 0x80) : (Char.ofNat n).toNat = n := by
  have hvalid : n.isValidChar := .inl (by omega)
  rw [Char.ofNat, dif_pos hvalid]
  rfl

private theorem utf8EncodeChar_ofNat {b : UInt8} (h : b.toNat < 0x80) :
    String.utf8EncodeChar (Char.ofNat b.toNat) = [b] := by
  have hval : (Char.ofNat b.toNat).val.toNat = b.toNat := toNat_ofNat_of_lt h
  rw [String.utf8EncodeChar, hval]
  simp [show b.toNat ≤ 0x7F by omega]

private theorem ofNat_ne {n : Nat} {c : Char} (h : n < 0x80) (hne : n ≠ c.toNat) :
    Char.ofNat n ≠ c := by
  rintro rfl
  exact hne (toNat_ofNat_of_lt h).symm

end Text

namespace Filter

open Text

/-! ### Texts in addresses -/

/-- A name and a value, as a part of a query. -/
def writePart (around : Surroundings) (part : List Char × List Char) : List Char :=
  inAddress around part.1 ++ '=' :: inAddress around part.2

private theorem facts_of_encodes {b : UInt8} (h : addressSet.encodes b = false) :
    b.toNat < 0x80 ∧ b.toNat ≠ 0x25 ∧ b.toNat ≠ 0x26 ∧ b.toNat ≠ 0x3D := by
  have hslash : '/'.toNat = 0x2F := rfl
  have hpoint : '.'.toNat = 0x2E := rfl
  have hminus : '-'.toNat = 0x2D := rfl
  have hline : '_'.toNat = 0x5F := rfl
  have hblank : ' '.toNat = 0x20 := rfl
  simp only [AsciiSet.encodes, addressSet, AsciiSet.add, AsciiSet.remove, AsciiSet.nonAlphanumeric,
    hslash, hpoint, hminus, hline, hblank, Bool.or_eq_false_iff, Bool.and_eq_false_iff,
    decide_eq_false_iff_not, Bool.not_eq_false', Bool.or_eq_true, Bool.and_eq_true,
    decide_eq_true_eq, beq_eq_false_iff_ne, bne_eq_false_iff_eq] at h
  omega

private theorem percentBytes_percentByte (b : UInt8) (cs : List Char) :
    percentBytes (percentByte addressSet b ++ cs) = b :: percentBytes cs := by
  unfold percentByte
  split
  · rw [List.cons_append, List.cons_append, List.singleton_append, percentBytes,
      hexByte?_upperHexDigit]
  · next h =>
    obtain ⟨hlt, hpercent, -, -⟩ := facts_of_encodes (Bool.eq_false_iff.mpr h)
    rw [List.singleton_append, percentBytes_cons (ofNat_ne hlt hpercent),
      utf8EncodeChar_ofNat hlt, List.singleton_append]

private theorem percentBytes_flatMap (bs : List UInt8) (cs : List Char) :
    percentBytes (bs.flatMap (percentByte addressSet) ++ cs) = bs ++ percentBytes cs := by
  induction bs with
  | nil => rfl
  | cons b bs ih =>
    rw [List.flatMap_cons, List.append_assoc, percentBytes_percentByte, ih, List.cons_append]

section

variable {around : Surroundings} (hencode : around.percentEncode.IsBytewise)

include hencode

/-- What is written in an address is read as the same text. -/
theorem percentDecode?_inAddress (s : List Char) :
    percentDecode? (inAddress around s) = some s := by
  have h := percentBytes_flatMap (bytes s) []
  rw [List.append_nil, percentBytes, List.append_nil] at h
  rw [percentDecode?, inAddress, hencode.encode_eq]
  change ofBytes? (percentBytes ((bytes s).flatMap _)) = _
  rw [h, ofBytes?_bytes]

/-! ### Queries -/

/-- Neither of the signs that divide a query stands in a text in an address. -/
theorem ne_of_mem_inAddress {c : Char} {s : List Char} (h : c ∈ inAddress around s) :
    c ≠ '&' ∧ c ≠ '=' := by
  rw [inAddress, hencode.encode_eq] at h
  obtain ⟨b, -, h⟩ := List.mem_flatMap.mp h
  unfold percentByte at h
  split at h
  · simp only [List.mem_cons, List.not_mem_nil, or_false] at h
    rcases h with rfl | rfl | rfl
    · decide
    · exact ⟨upperHexDigit_ne rfl _, upperHexDigit_ne rfl _⟩
    · exact ⟨upperHexDigit_ne rfl _, upperHexDigit_ne rfl _⟩
  · next hself =>
    obtain ⟨hlt, -, hampersand, hequals⟩ := facts_of_encodes (Bool.eq_false_iff.mpr hself)
    rw [List.mem_singleton] at h
    subst h
    exact ⟨ofNat_ne hlt hampersand, ofNat_ne hlt hequals⟩

private theorem notMem_writePart (part : List Char × List Char) : '&' ∉ writePart around part := by
  intro h
  rw [writePart, List.mem_append, List.mem_cons] at h
  rcases h with h | h | h
  · exact (ne_of_mem_inAddress hencode h).1 rfl
  · cases h
  · exact (ne_of_mem_inAddress hencode h).1 rfl

private theorem readPart?_writePart (part : List Char × List Char) :
    readPart? (writePart around part) = some part := by
  have hname : ∀ c ∈ inAddress around part.1, (c != '=') = true := fun c hc ↦
    bne_iff_ne.mpr (ne_of_mem_inAddress hencode hc).2
  have hbehind :
      (writePart around part).dropWhile (· != '=') = '=' :: inAddress around part.2 := by
    rw [writePart, List.dropWhile_append_of_pos hname, List.dropWhile_cons_of_neg (by decide)]
  have hfront : (writePart around part).takeWhile (· != '=') = inAddress around part.1 := by
    rw [writePart, List.takeWhile_append_of_pos hname, List.takeWhile_cons_of_neg (by decide),
      List.append_nil]
  rw [readPart?, hbehind, hfront, percentDecode?_inAddress hencode]
  simp only [percentDecode?_inAddress hencode]
  rfl

/-- The parts that a query is put together from are read back, if there are any. -/
theorem readQuery?_intercalate {parts : List (List Char × List Char)} (h : parts ≠ []) :
    readQuery? (List.intercalate ['&'] (parts.map (writePart around))) = some parts := by
  have hsplit : (List.intercalate ['&'] (parts.map (writePart around))).splitOn '&' =
      parts.map (writePart around) := by
    refine List.splitOn_intercalate '&' (fun part hpart ↦ ?_) (by simpa using h)
    obtain ⟨p, -, rfl⟩ := List.mem_map.mp hpart
    exact notMem_writePart hencode p
  have hread : readPart? ∘ writePart around = pure := funext (readPart?_writePart hencode)
  rw [readQuery?, hsplit, List.mapM_map, hread, List.mapM_pure, List.map_id']
  rfl

end

end Filter

namespace Value

/-! ### Maps -/

/-- The entries of a map that are there, each with the text of its value. -/
def givenTexts (entries : List (String × Value)) : List (List Char × List Char) :=
  (entries.filter fun e ↦ !e.2.isMissing).map fun e ↦ (e.1.toList, e.2.chars)

/-- Writes an entry behind a query, unless it is missing. An ampersand goes in between, unless
nothing has been written. -/
def appendEntry (around : Filter.Surroundings) (query : List Char) (e : String × Value) :
    List Char :=
  if e.2.isMissing then query
  else
    (if query.isEmpty then query else query ++ ['&']) ++
      Filter.writePart around (e.1.toList, e.2.chars)

private theorem givenTexts_cons (e : String × Value) (entries : List (String × Value)) :
    givenTexts (e :: entries) =
      if e.2.isMissing then givenTexts entries
      else (e.1.toList, e.2.chars) :: givenTexts entries := by
  rw [givenTexts, List.filter_cons]
  cases e.2.isMissing <;> rfl

section

variable (around : Filter.Surroundings)

private theorem writePart_ne_nil (part : List Char × List Char) :
    Filter.writePart around part ≠ [] :=
  List.append_ne_nil_of_right_ne_nil _ (List.cons_ne_nil _ _)

private theorem intercalate_append_cons (sep a b : List Char) (parts : List (List Char)) :
    List.intercalate sep ((a ++ b) :: parts) = a ++ List.intercalate sep (b :: parts) := by
  induction a with
  | nil => rfl
  | cons c a ih => rw [List.cons_append, List.intercalate_cons_cons_left, ih, List.cons_append]

private theorem foldl_appendEntry {query : List Char} (h : query ≠ [])
    (entries : List (String × Value)) :
    entries.foldl (appendEntry around) query =
      List.intercalate ['&'] (query :: (givenTexts entries).map (Filter.writePart around)) := by
  induction entries generalizing query with
  | nil => exact List.intercalate_singleton.symm
  | cons e entries ih =>
    rw [List.foldl_cons, appendEntry, givenTexts_cons]
    split
    · exact ih h
    · have hquery : query.isEmpty = false := by simpa using h
      rw [hquery, if_neg Bool.false_ne_true,
        ih (List.append_ne_nil_of_right_ne_nil _ (writePart_ne_nil around _)), List.map_cons,
        intercalate_append_cons, List.intercalate_cons_cons]

private theorem foldl_appendEntry_nil (entries : List (String × Value)) :
    entries.foldl (appendEntry around) [] =
      List.intercalate ['&'] ((givenTexts entries).map (Filter.writePart around)) := by
  induction entries with
  | nil => rfl
  | cons e entries ih =>
    rw [List.foldl_cons, appendEntry, givenTexts_cons]
    split
    · exact ih
    · exact foldl_appendEntry around (writePart_ne_nil around _) entries

private theorem queryPairs_eq (entries : List (String × Value)) :
    Filter.queryPairs around entries = (givenTexts entries).map (Filter.writePart around) := by
  rw [Filter.queryPairs, givenTexts, List.map_map]
  rfl

private theorem filter?_urlencode : (Environment.within around).filter? "urlencode" =
    some (.ofMap .value fun v ↦ .ok (Filter.urlEncode around v)) := rfl

private theorem urlEncode_of_not_map {v : Value} (hmap : v.kind ≠ .map) (h : v.isMissing = false) :
    Filter.urlEncode around v = .ofChars (Filter.inAddress around v.chars) := by
  cases v with
  | map rows => exact absurd rfl hmap
  | undefined | null => cases h
  | _ => rfl

end

/-- Whatever encoder that goes byte by byte the filter for addresses works with, it makes a query of
a map, entry by entry, in which those that are there are read back under their names and with their
texts, in their order; without such entries it is empty. Of every other value that is not missing it
makes a text that is read back as the text of the value. -/
theorem read_urlencode (around : Filter.Surroundings)
    (hencode : around.percentEncode.IsBytewise) :
    ∃ f, (Environment.within around).filter? "urlencode" = some f ∧
      (∀ (names : List String) (rows : Rows names),
        ∃ s, (∀ view, f view [.map rows] = .ok (.plain s)) ∧
          s.toList = rows.entries.foldl (appendEntry around) [] ∧
          (givenTexts rows.entries = [] → s = "") ∧
          (givenTexts rows.entries ≠ [] →
            Text.readQuery? s.toList = some (givenTexts rows.entries))) ∧
      ∀ v : Value, v.kind ≠ .map → v.isMissing = false →
        ∃ s, (∀ view, f view [v] = .ok (.plain s)) ∧
          Text.percentDecode? s.toList = some v.chars := by
  refine ⟨_, filter?_urlencode around, fun names rows ↦ ?_, fun v hmap hmissing ↦ ?_⟩
  · refine ⟨String.ofList
        (List.intercalate ['&'] ((givenTexts rows.entries).map (Filter.writePart around))),
      fun view ↦ ?_, ?_, fun h ↦ ?_, fun h ↦ ?_⟩
    · rw [← queryPairs_eq]
      rfl
    · rw [String.toList_ofList, foldl_appendEntry_nil]
    · rw [h]
      rfl
    · rw [String.toList_ofList, Filter.readQuery?_intercalate hencode h]
  · refine ⟨String.ofList (Filter.inAddress around v.chars), fun view ↦ ?_, ?_⟩
    · exact congrArg Except.ok (urlEncode_of_not_map around hmap hmissing)
    · rw [String.toList_ofList, Filter.percentDecode?_inAddress hencode]

/-- The signs of a query in a name and in a text, an entry that is missing between two others, of
which the second has neither a name nor a text, and a map that has only missing entries. -/
theorem read_urlencode_signs :
    let table : Table Value :=
      .ofList [("a&b", .plain "é=%20"), ("c", .null), ("", .plain "")]
    Text.PercentEncoder.bytewise.IsBytewise ∧
      givenTexts table.entries = [("a&b".toList, "é=%20".toList), ([], [])] ∧
      ∃ f, Environment.new.filter? "urlencode" = some f ∧
        (∃ s, (∀ view, f view [.ofTable table] = .ok (.plain s)) ∧
          Text.readQuery? s.toList = some (givenTexts table.entries)) ∧
        (∀ view, f view [.single "c" .undefined] = .ok (.plain "")) ∧
        ∃ s, (∀ view, f view [.seq [.int 1, .null]] = .ok (.plain s)) ∧
          Text.percentDecode? s.toList = some ['1', ','] := by
  intro table
  have hencode := Text.PercentEncoder.isBytewise_bytewise
  obtain ⟨f, hf, hmap, hother⟩ := read_urlencode .standard hencode
  obtain ⟨s, happly, -, -, hread⟩ := hmap _ (.ofList table.entries table.distinct)
  obtain ⟨t, hempty, -, ht, -⟩ := hmap ["c"] (.cons "c" .undefined List.not_mem_nil .nil)
  refine ⟨hencode, rfl, f, hf, ⟨s, happly, hread nofun⟩, fun view ↦ ?_,
    hother (.seq [.int 1, .null]) nofun rfl⟩
  exact (hempty view).trans (by rw [ht rfl])

end Value

end Stencil
