import Mathlib.Data.List.Forall2
import Mathlib.Data.List.Infix
import Stencil.Proofs.AttributeList
import Stencil.Proofs.DeclaredNames
import Stencil.Proofs.Literal.Numeral
import Stencil.Proofs.Literal.RoundTrip
import Stencil.Proofs.Lookup
import Stencil.Proofs.Pipeline

/-!
# Maps from entries

A map is made from entries by an object that is written in a template, by a list of attributes and
by data that is converted. Each of them goes through the entries from first to last and writes them
to a table, so that they all make the same map: every name stands where it comes first, with the
value that comes last. Main statement: `eval_eq_table`.
-/

namespace Stencil

/-! ### Tables -/

/-- The names of a table are those of the entries that are written to it, each where it comes
first. -/
theorem Entries.map_fst_ofList {α : Type} (es : List (String × α)) :
    (ofList es).map (·.1) = (es.map (·.1)).eraseDups := by
  induction es using List.reverseRecOn with
  | nil => rfl
  | append_singleton es e ih =>
    have hinsert : ofList (es ++ [e]) = insert e.1 e.2 (ofList es) := by
      rw [ofList, List.foldl_append]
      rfl
    rw [hinsert, map_fst_insert, ih, List.map_append, List.eraseDups_append]
    by_cases h : e.1 ∈ es.map (·.1)
    · simp [List.removeAll, h]
    · simp [List.removeAll, h, List.eraseDups_cons]

/-! ### Constants and their names -/

/-- A source stands for a constant wherever expressions stand: it is read as an expression that has
the value in every scope, is not nested too deeply to stand between brackets, and takes in nothing
of what follows. -/
structure Text.IsConstant (source : List Char) (e : Expr) (v : Value) : Prop where
  /-- The expression is read, and may be nested two levels deeper. -/
  derives : ∃ ts n, Token.ofFragments (Fragment.scan source) = .ok ts ∧
    n + 2 ≤ Parser.maxNesting ∧ Derives (.item .expression) n ts e
  /-- No regular expression is left open, which would take in what follows. -/
  closed : ¬Text.LeavesRegexOpen source
  /-- The expression has the value in every scope. -/
  eval : ∀ s : Setting, e.eval s = pure v

/-- A constant with a name. -/
structure NamedConstant where
  /-- The name. -/
  name : List Char
  /-- The source of the constant. -/
  source : List Char
  /-- The expression that the source is read as. -/
  expr : Expr
  /-- The value of the constant. -/
  value : Value
  /-- The name is an identifier that stands for nothing else. -/
  isReadable : Text.IsReadable name
  /-- The source stands for the constant. -/
  isConstant : Text.IsConstant source expr value

/-- A name that is readable stands for no operator. -/
theorem Text.IsReadable.isName {name : List Char} (h : Text.IsReadable name) :
    Text.IsName name := by
  have hword : name ∉ operatorWords := fun hmem ↦ h.notWord (List.mem_append_left _ hmem)
  exact ⟨h.toIsIdentifier, by simpa [operatorWords] using hword⟩

namespace Text.IsConstant

variable {source : List Char} {e : Expr} {v : Value}

/-- A constant is read from its source. -/
theorem isReadFrom (h : IsConstant source e v) : e.IsReadFrom source := by
  obtain ⟨ts, n, hts, hn, he⟩ := h.derives
  rw [Expr.IsReadFrom, Expr.ofFragments, hts]
  exact Expr.ofTokens_of_derives he (by omega)

end Text.IsConstant

/-- A source of one token is a constant if the token is one and no regular expression. -/
theorem Text.isConstant_of_atom {source : List Char} {t : Token} {v : Value}
    (htoken : Token.ofFragments (Fragment.scan source) = .ok [t]) (ht : Atom t (.const v))
    (hv : v.kind ≠ .regex) : Text.IsConstant source (.const v) v := by
  have hderives : Derives (.item .expression) 2 [t] (.const v) :=
    .expression_of_primary (.atom ht)
  have hread : (Expr.const v).IsReadFrom source := by
    rw [Expr.IsReadFrom, Expr.ofFragments, htoken]
    exact Expr.ofTokens_of_derives hderives (by decide)
  refine ⟨⟨[t], 2, htoken, by decide, hderives⟩, hread.not_leavesRegexOpen hv, fun s ↦ ?_⟩
  rw [Expr.eval]

private theorem Scanner.ends_of_step {s : Scanner} (htidy : s.Tidy)
    (h : (s.step ']').mode = .words) : s.mode.Ends := by
  have hquoted := htidy.quoted
  cases hmode : s.mode with
  | words => trivial
  | flags => trivial
  | afterQuote q =>
    rw [hmode] at hquoted
    exact hquoted.1
  | string q escaped =>
    rw [Scanner.step, hmode] at h
    dsimp only [Scanner.extend] at h
    split at h
    · cases h
    · split at h
      · cases h
      · split at h <;> cases h
  | regex escaped =>
    rw [Scanner.step, hmode] at h
    cases h

private theorem Scanner.Spells.scan {cs : List Char} {gs : List Fragment}
    (h : Scanner.Spells cs gs) :
    (cs.foldl Scanner.step {}).mode.Ends ∧ Fragment.scan cs = gs := by
  have hstep := h {} [] Scanner.rests_empty ⟨rfl, rfl⟩ ']' .bracket
  rw [List.foldl_append, List.foldl_cons, List.foldl_nil] at hstep
  have hends := Scanner.ends_of_step (Scanner.tidy_foldl cs) hstep.mode
  have hrests : (cs.foldl Scanner.step {}).finish.Rests (Fragment.scan cs) :=
    Scanner.rests_finish _
  have hclose := hrests.step_symbol hends (c := ']') (by decide)
    (Scanner.continues_of_isBracket rfl _)
  have hfragments := hclose.fragments.symm.trans hstep.fragments
  exact ⟨hends, (List.append_inj' hfragments rfl).1⟩

/-- A literal that is nested at most 70 deep is a constant as it is written. -/
theorem Text.exists_isConstant_source {v : Value} (h : v.IsLiteral 70) :
    ∃ e, Text.IsConstant v.source e v := by
  obtain ⟨e, ⟨ts, ⟨gs, hspells, hcuts⟩, n, hn, hderives⟩, heval⟩ := h.denotes
  obtain ⟨hends, hscan⟩ := hspells.scan
  have hnested : n + 2 ≤ Parser.maxNesting := by
    have hmax : Parser.maxNesting = 150 := rfl
    omega
  have hclosed : ¬Text.LeavesRegexOpen v.source := by
    rintro ⟨escaped, hmode⟩
    rw [hmode] at hends
    exact hends
  exact ⟨e, ⟨ts, n, hscan ▸ hcuts.ofFragments, hnested, hderives⟩, hclosed, heval⟩

namespace NamedConstant

/-- The entry that the constant is in a table. -/
def entry (c : NamedConstant) : String × Value := (String.ofList c.name, c.value)

/-- The entry that the constant is read as. -/
def exprEntry (c : NamedConstant) : String × Expr := (String.ofList c.name, c.expr)

/-- Constants as they are written between the braces of an object. -/
def objectText (cs : List NamedConstant) : List Char :=
  '\x7b' :: List.intercalate [','] (cs.map fun c ↦ c.name ++ ':' :: c.source) ++ ['\x7d']

/-- Constants as they are written in a list of attributes. -/
def attributesText (cs : List NamedConstant) : List Char :=
  List.intercalate [' '] (cs.map fun c ↦ c.name ++ '=' :: c.source)

/-- The table that constants are written to, from first to last. -/
def table (cs : List NamedConstant) : Table Value := .ofList (cs.map entry)

end NamedConstant

/-! ### Reading objects -/

private theorem Scanner.Rests.foldl_key {t : Scanner} {fs : List Fragment} {name : List Char}
    (h : t.Rests fs) (hname : Text.IsName name) :
    ∃ f, Fragment.Becomes ⟨name, classify name⟩ f ∧
      ((name ++ [':']).foldl Scanner.step t).Rests (fs ++ [f] ++ [.ofOperator ':']) := by
  obtain ⟨hmode, hfinish⟩ := h.foldl_name hname
  have hends : (name.foldl Scanner.step t).mode.Ends := hmode ▸ trivial
  have hword := Scanner.Rests.pushWord h.fragments name (classify name)
  have hkind : classify name ≠ .operator := classify_ne (by decide) name
  have hlast : (t.pushWord name (classify name)).continues ':' = false := by
    rw [hword.continues]
    simp [hkind]
  have hstep : (name.foldl Scanner.step t).step ':' =
      (t.pushWord name (classify name)).pushSymbol ':' := by
    rw [Scanner.step_of_isOperatorChar hends (by decide) (by decide), hfinish]
    rfl
  rw [List.foldl_append, List.foldl_cons, List.foldl_nil, hstep, Scanner.pushSymbol, hlast]
  cases hstarts : (t.pushWord name (classify name)).startsEntry with
  | false => exact ⟨_, .refl _, hword.appendOperator [':']⟩
  | true =>
    have hmark : (t.pushWord name (classify name)).markKey.Rests
        (fs ++ [Fragment.asKey ⟨name, classify name⟩]) := by
      refine ⟨rfl, rfl, ?_⟩
      have hindex : (t.pushWord name (classify name)).lastWord = some fs.length := by
        rw [← h.fragments, Array.length_toList]
        rfl
      rw [Scanner.toList_markKey, hindex, hword.fragments, Option.elim_some,
        List.modify_eq_take_cons_drop (by simp)]
      simp
    exact ⟨_, Fragment.becomes_asKey _, hmark.appendOperator [':']⟩

private theorem Text.IsReadable.exists_key {name : List Char} (h : Text.IsReadable name)
    {f : Fragment} (hf : Fragment.Becomes ⟨name, classify name⟩ f) :
    Token.isJoined f = false ∧
      ∃ k, Token.ofFragment f = .ok [k] ∧ Key k (String.ofList name) := by
  have hword : name ∉ literalWords := fun hmem ↦ h.notWord (List.mem_append_right _ hmem)
  obtain ⟨text, kind⟩ := f
  obtain rfl : text = name := hf.text
  have hkind := hf.kind
  rw [h.toIsIdentifier.classify hword] at hkind
  rcases hkind with rfl | ⟨-, rfl⟩
  · refine ⟨rfl, .path text, ?_, .path text⟩
    rw [Token.ofFragment, number?_of_isIdentifier h.isIdentifier]
    rfl
  · exact ⟨rfl, _, rfl, .objectKey text⟩

namespace NamedConstant

private theorem isScannedFrom_entry (c : NamedConstant) :
    Item.entry.IsScannedFrom (Parser.maxNesting - 2) c.exprEntry
      (c.name ++ ':' :: c.source) := by
  intro t fs op ht _
  obtain ⟨f, hf, hcolon⟩ := ht.foldl_key c.isReadable.isName
  have hread := c.isConstant.isReadFrom
  have hscans := hread.scans c.isConstant.closed hcolon (by decide)
  obtain ⟨hjoined, k, hk, hkey⟩ := c.isReadable.exists_key hf
  refine ⟨f :: .ofOperator ':' :: Fragment.scan c.source, ⟨?_, ?_, ?_⟩, ?_, ?_⟩
  · rw [List.append_cons, List.foldl_append]
    simpa using hscans.rests
  · rw [List.append_cons, List.foldl_append]
    exact hscans.ends
  · have hbar : Pipeline.isBar f = false := by
      simp [Pipeline.isBar, Fragment.isOperator, hf.kind_ne_operator]
    exact List.forall_mem_cons.mpr ⟨hbar, List.forall_mem_cons.mpr ⟨rfl, hscans.bars⟩⟩
  · obtain ⟨before, g, hscan, hg⟩ := hread.exists_last_item
    exact ⟨f :: .ofOperator ':' :: before, g, by rw [hscan]; rfl, hg⟩
  · obtain ⟨ts, n, hts, hn, he⟩ := c.isConstant.derives
    refine ⟨k :: .symbol .colon :: ts, n, ?_, by omega, .entry hkey he⟩
    rw [Token.ofFragments_cons hjoined hk,
      Token.ofFragments_separator_cons (b := .colon) (by decide) rfl, hts]
    rfl

private theorem isReadFrom_objectText (cs : List NamedConstant) :
    (Expr.map (cs.map exprEntry)).IsReadFrom (objectText cs) := by
  have hopen : (Scanner.step {} '\x7b').Rests ([] ++ [.ofOperator '\x7b']) := ⟨rfl, rfl, rfl⟩
  have hentries : List.Forall₂ (Item.entry.IsScannedFrom (Parser.maxNesting - 2))
      (cs.map exprEntry) (cs.map fun c ↦ c.name ++ ':' :: c.source) := by
    rw [List.forall₂_map_left_iff, List.forall₂_map_right_iff, List.forall₂_same]
    exact fun c _ ↦ c.isScannedFrom_entry
  obtain ⟨gs, hscans, ts, n, hts, hn, hitems⟩ :=
    Item.exists_scans_items hentries hopen (by decide)
  have hclose := hscans.rests.step_symbol hscans.ends (c := '\x7d') (by decide)
    (Scanner.continues_of_isBracket rfl _)
  have hscan : Fragment.scan (objectText cs) =
      .ofOperator '\x7b' :: gs ++ [.ofOperator '\x7d'] := by
    rw [Fragment.scan, objectText, List.cons_append, List.foldl_cons, List.foldl_append,
      List.foldl_cons, List.foldl_nil, hclose.finish, hclose.fragments]
    rfl
  have htokens : Token.ofFragments (Fragment.scan (objectText cs)) =
      .ok (.symbol .braceOpen :: ts ++ [.symbol .braceClose]) := by
    rw [hscan, Token.ofFragments_enclosed rfl rfl rfl rfl, hts]
    rfl
  have hnested : n + 2 ≤ Parser.maxNesting := by
    have hmax : Parser.maxNesting = 150 := rfl
    omega
  rw [Expr.IsReadFrom, Expr.ofFragments, htokens]
  exact Expr.ofTokens_of_derives (.expression_of_primary (.map hitems)) hnested

private theorem read_attributesText (cs : List NamedConstant) (defaultName : String) :
    AttributeList.read (String.ofList (attributesText cs)) defaultName =
      .ok ⟨cs.map exprEntry⟩ := by
  refine AttributeList.read_named ?_ fun text htext ↦ ?_
  · rw [List.forall₂_map_left_iff, List.forall₂_map_right_iff, List.forall₂_same]
    exact fun c _ ↦ .assignment c.isReadable.isName c.isConstant.isReadFrom
  · obtain ⟨c, -, rfl⟩ := List.mem_map.mp (List.mem_of_mem_dropLast htext)
    obtain ⟨hmode, -⟩ :=
      Scanner.rests_empty.foldl_assignment c.isReadable.isName c.isConstant.isReadFrom
    rw [Text.LeavesRegexOpen, hmode]
    exact c.isConstant.closed

/-! ### Writing the entries -/

private theorem evalEntries_eq (s : Setting) (cs : List NamedConstant)
    (table : Table Value) : Expr.evalEntries s table (cs.map exprEntry) =
      pure (table.insertAll (cs.map entry)) := by
  induction cs generalizing table with
  | nil =>
    rw [List.map_nil, Expr.evalEntries]
    rfl
  | cons c cs ih =>
    rw [List.map_cons, exprEntry, Expr.evalEntries, c.isConstant.eval, pure_bind, ih]
    rfl

private theorem evalFrom_eq (s : Setting) (cs : List NamedConstant)
    (table : Table Value) : AttributeList.evalFrom s table (cs.map exprEntry) =
      pure (table.insertAll (cs.map entry)) := by
  induction cs generalizing table with
  | nil => rfl
  | cons c cs ih =>
    have hvalue : (c.expr.eval s).orIfUnknown .undefined = pure c.value := by
      rw [c.isConstant.eval]
      rfl
    rw [List.map_cons, exprEntry, AttributeList.evalFrom, hvalue, pure_bind, ih]
    rfl

private theorem ofDatum_map {cs : List NamedConstant} {entries : List (Datum × Datum)}
    {pairs : List (Value × Value)} (h : Value.AreConverted entries pairs)
    (hpairs : pairs.map (fun p ↦ (p.1.display, p.2)) = cs.map entry) :
    Value.ofDatum (.map entries) = .ok (.ofTable (table cs)) := by
  rw [Datum.ofDatum_eq_meaning, Datum.meaning, h.entryMeanings_eq, hpairs]
  rfl

private theorem ofDatum_record {cs : List NamedConstant} {fields : List (String × Datum)}
    (h : List.Forall₂ (fun f e ↦ f.1 = e.1 ∧ Value.ofDatum f.2 = .ok e.2) fields (cs.map entry)) :
    Value.ofDatum (.record fields) = .ok (.ofTable (table cs)) := by
  have hconverted : Value.AreConverted (fields.map fun f ↦ (.text f.1, f.2))
      ((cs.map entry).map fun e ↦ (.plain e.1, e.2)) := by
    rw [Value.AreConverted, List.forall₂_map_left_iff, List.forall₂_map_right_iff]
    refine h.imp fun f e ⟨hname, hvalue⟩ ↦ ⟨?_, .inl rfl, hvalue⟩
    rw [Datum.ofDatum_eq_meaning, Datum.meaning, hname]
  have hdisplay (e : String × Value) : ((Value.plain e.1).display, e.2) = e :=
    Prod.ext String.ofList_toList rfl
  have hmap : Value.ofDatum (.record fields) =
      Value.ofDatum (.map (fields.map fun f ↦ (.text f.1, f.2))) := by
    rw [Datum.ofDatum_eq_meaning, Datum.meaning, Datum.fieldMeanings_eq, ← Datum.meaning,
      ← Datum.ofDatum_eq_meaning]
  rw [hmap]
  refine ofDatum_map hconverted ?_
  simp [hdisplay]

/-- Named constants make the same map in every way that a map is made of entries: written between
the braces of an object, written in a list of attributes, converted from a map, under whatever keys
stand for the names, and converted from a record. In this map each name stands where it comes first
among the entries and has the value of its last one. -/
theorem eval_eq_table (cs : List NamedConstant) (defaultName : String) :
    (∃ p, Pipeline.read (String.ofList (objectText cs)) = .ok p ∧
        ∀ s : Setting, p.eval s = pure (.ofTable (table cs))) ∧
      (∃ a, AttributeList.read (String.ofList (attributesText cs)) defaultName = .ok a ∧
        ∀ s : Setting, a.eval s = pure (.ofTable (table cs))) ∧
      (∀ entries pairs, Value.AreConverted entries pairs →
        pairs.map (fun p ↦ (p.1.display, p.2)) = cs.map entry →
        Value.ofDatum (.map entries) = .ok (.ofTable (table cs))) ∧
      (∀ fields, List.Forall₂ (fun f e ↦ f.1 = e.1 ∧ Value.ofDatum f.2 = .ok e.2) fields
          (cs.map entry) →
        Value.ofDatum (.record fields) = .ok (.ofTable (table cs))) ∧
      (table cs).entries.map (·.1) = (cs.map fun c ↦ String.ofList c.name).eraseDups ∧
      ∀ before c after, cs = before ++ c :: after → c.name ∉ after.map name →
        Entries.get? (String.ofList c.name) (table cs).entries = some c.value := by
  refine ⟨?_, ?_, fun _ _ ↦ ofDatum_map, fun _ ↦ ofDatum_record, ?_, ?_⟩
  · have htrim : Text.trim (objectText cs) = objectText cs :=
      Pipeline.trim_enclosed (by decide) (by decide) _
    have hread := isReadFrom_objectText cs
    rw [← htrim] at hread
    refine ⟨_, Pipeline.read_of_isReadFrom hread, fun s ↦ ?_⟩
    refine Pipeline.eval_of_no_filters rfl rfl ?_
    rw [Expr.eval, evalEntries_eq, pure_bind]
    rfl
  · refine ⟨_, read_attributesText cs defaultName, fun s ↦ ?_⟩
    rw [AttributeList.eval, evalFrom_eq, pure_bind]
    rfl
  · rw [table, Table.entries_ofList, Entries.map_fst_ofList, List.map_map]
    rfl
  · rintro before c after rfl hafter
    rw [table, Table.entries_ofList, List.map_append, List.map_cons]
    refine Entries.get?_ofList ?_
    simpa [entry, Function.comp_def, String.ofList_inj] using hafter

/-- A name comes twice, with a list between its values and a space in front of the first one. -/
theorem eval_eq_table_repeated :
    ∃ cs : List NamedConstant,
      objectText cs = "\x7bx: 1,y:[-2],x:true\x7d".toList ∧
      attributesText cs = "x= 1 y=[-2] x=true".toList ∧
      (table cs).entries = [("x", .bool true), ("y", .seq [.int (-2)])] ∧
      (∃ p, Pipeline.read "\x7bx: 1,y:[-2],x:true\x7d" = .ok p ∧
        ∀ s : Setting, p.eval s = pure (.ofTable (table cs))) ∧
      (∃ a, AttributeList.read "x= 1 y=[-2] x=true" "value" = .ok a ∧
        ∀ s : Setting, a.eval s = pure (.ofTable (table cs))) ∧
      Value.ofDatum (.record [("x", .integer 1), ("y", .seq [.integer (-2)]), ("x", .bool true)]) =
        .ok (.ofTable (table cs)) := by
  have hliteral : (Value.seq [.int (-2)]).IsLiteral 70 :=
    .seq (List.forall_mem_singleton.mpr (.int (by decide)))
  obtain ⟨e, he⟩ := Text.exists_isConstant_source hliteral
  have hone : Text.IsConstant " 1".toList (.const (.int 1)) (.int 1) :=
    Text.isConstant_of_atom rfl (.int 1) (by decide)
  have htrue : Text.IsConstant "true".toList (.const (.bool true)) (.bool true) :=
    Text.isConstant_of_atom rfl (.bool true) (by decide)
  let cs : List NamedConstant := [⟨"x".toList, _, _, _, by decide, hone⟩,
    ⟨"y".toList, _, _, _, by decide, he⟩, ⟨"x".toList, _, _, _, by decide, htrue⟩]
  have hobject : objectText cs = "\x7bx: 1,y:[-2],x:true\x7d".toList := rfl
  have hattributes : attributesText cs = "x= 1 y=[-2] x=true".toList := rfl
  obtain ⟨hread, hassigned, -, hrecord, -⟩ := eval_eq_table cs "value"
  rw [hobject, String.ofList_toList] at hread
  rw [hattributes, String.ofList_toList] at hassigned
  refine ⟨cs, hobject, hattributes, rfl, hread, hassigned, hrecord _ ?_⟩
  exact .cons ⟨rfl, rfl⟩ (.cons ⟨rfl, rfl⟩ (.cons ⟨rfl, rfl⟩ .nil))

end NamedConstant

end Stencil
