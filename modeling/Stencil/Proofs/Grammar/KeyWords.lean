import Stencil.Proofs.Grammar.Fragments
import Stencil.Proofs.Grammar.Roles
import Stencil.Proofs.Names
import Stencil.Proofs.Scanning.Words

/-!
# Words that are keys

A scan marks a path as the key of a map when it comes to a colon, and all that it knows is its last
operator and its last word. The grammar decides by the brackets and conditions that are open. The
two agree wherever there is an expression: in a key's place a path is marked, and an operand never
is.
-/

namespace Stencil

namespace Fragment

/-- What a fragment between others is for in an expression that they make up. -/
def StandsAs (role : Role) (before : List Fragment) (f : Fragment) (after : List Fragment)
    (e : Expr) : Prop :=
  ∃ ts t ts', Token.ofFragments before = .ok ts ∧ Token.ofFragment f = .ok [t] ∧
    Token.ofFragments after = .ok ts' ∧ Stencil.StandsAs role (.item .expression) ts t ts' e

variable {source : List Char} {before after : List Fragment} {f : Fragment} {e : Expr}
  {role : Role}

/-! ### Paths and keys by their tokens -/

private theorem hasRole_of_path (text : List Char) :
    ((Token.number? text).getD (.path text)).HasRole := by
  unfold Token.number?
  split
  · trivial
  · split
    · cases Number.readFloat? text <;> trivial
    · trivial

private theorem exists_token (hkind : f.kind = .path ∨ f.kind = .objectKey) :
    ∃ t, Token.ofFragment f = .ok [t] ∧ t.HasRole := by
  obtain ⟨text, kind⟩ := f
  rcases hkind with rfl | rfl
  · exact ⟨_, rfl, hasRole_of_path text⟩
  · exact ⟨_, rfl, trivial⟩

private theorem exists_standsAs (h : Expr.ofFragments (before ++ f :: after) = .ok e)
    (hkind : f.kind = .path ∨ f.kind = .objectKey) : ∃ role, f.StandsAs role before after e := by
  obtain ⟨t, ht, hrole⟩ := exists_token hkind
  have hf : Token.isJoined f = false := by
    rcases hkind with hkind | hkind <;> simp [Token.isJoined, hkind]
  obtain ⟨ts, hts, h⟩ := exists_of_bind_eq_ok h
  rw [Token.ofFragments, Token.ofFragmentsAfter_append_cons hf ht] at hts
  obtain ⟨front, hfront, hts⟩ := exists_of_bind_eq_ok hts
  obtain ⟨rest, hrest, hts⟩ := exists_of_bind_eq_ok hts
  cases hts
  obtain ⟨n, -, hderives⟩ := Expr.derives_of_ofTokens h
  rw [List.append_assoc] at hderives
  obtain ⟨role, hstands⟩ := (exists_derives_iff_standsAs hrole).mp ⟨n, hderives⟩
  exact ⟨role, front, t, rest, hfront, ht, hrest, hstands⟩

private theorem StandsAs.of_objectKey (h : f.StandsAs role before after e)
    (hkind : f.kind = .objectKey) : role = .key := by
  obtain ⟨ts, t, ts', -, ht, -, hstands⟩ := h
  obtain ⟨text, kind⟩ := f
  cases hkind
  cases ht
  cases role with
  | operand =>
    obtain ⟨e', hatom⟩ := hstands.admits
    cases hatom
  | key => rfl

private theorem StandsAs.kind_of_classify (h : f.StandsAs role before after e)
    (hmem : f ∈ scan source) (hpath : classify f.text = .path) :
    f.kind = .path ∨ f.kind = .objectKey := by
  obtain ⟨ts, t, ts', -, ht, -, hstands⟩ := h
  obtain ⟨text, kind⟩ := f
  have hword := (isPath_of_classify hpath).2
  obtain ⟨c, cs, rfl, hc⟩ := exists_head_of_isPath hword
  cases kind with
  | path => exact .inl rfl
  | objectKey => exact .inr rfl
  | literal =>
    have hliteral := classify_text_of_mem_scan hmem (.inl rfl)
    rw [hpath] at hliteral
    cases hliteral
  | operator =>
    obtain ⟨b, -, rfl⟩ := Option.map_eq_some_iff.mp
      (Option.toList_eq_singleton_iff.mp (Except.ok.inj ht))
    exact hstands.admits.hasRole.elim
  | str =>
    obtain ⟨s, hs, -⟩ := exists_of_map_eq_ok ht
    simp [Text.readLiteral, isQuote_of_isNameChar hc] at hs
  | regex =>
    obtain ⟨t', ht', -⟩ := exists_of_map_eq_ok ht
    have hslash : ∀ d ∈ (c :: cs).reverse, (d != '/') = true := fun d hd ↦ by
      rw [bne_iff_ne]
      rintro rfl
      exact slash_notMem_of_isPath hword (List.mem_reverse.mp hd)
    change Token.ofRegex (c :: cs) = .ok t' at ht'
    rw [Token.ofRegex, List.takeWhile_eq_self_iff.mpr hslash, List.reverse_reverse,
      if_neg (by omega)] at ht'
    cases ht'
  | other =>
    have hpoint : c ≠ '.' := by
      rintro rfl
      cases hc
    simp [Token.ofFragment, Token.ofDottedNames, hpoint] at ht

/-! ### Keys between separators and colons -/

private theorem StandsAs.exists_startsEntry (h : f.StandsAs .key before after e)
    (hscan : scan source = before ++ f :: after) (he : Expr.ofFragments (scan source) = .ok e) :
    ∃ front g spaces, before = front ++ g :: spaces ∧ (∀ h ∈ spaces, h.isSpace = true) ∧
      g.StartsEntry := by
  obtain ⟨ts, t, ts', hbefore, -, -, hstands⟩ := h
  obtain ⟨ts, rfl | rfl⟩ := hstands.exists_separator
  · obtain ⟨front, g, spaces, rfl, hspaces, hkind, htext⟩ :=
      Token.exists_of_ofFragments_eq_concat (by decide) hbefore
    refine ⟨front, g, spaces, rfl, hspaces, .inl ?_⟩
    have hbrace : '\x7b' ∈ g.text := List.mem_of_getLast? htext
    obtain ⟨text, kind⟩ := g
    cases hkind
    have hsingle := (Token.isBracket_of_ofFragments hbefore).2 _
      (List.mem_append_right _ List.mem_cons_self) rfl
    rcases hsingle with ⟨c, rfl⟩ | hnone
    · cases List.mem_singleton.mp hbrace
      rfl
    · cases hnone _ hbrace
  · obtain ⟨front, g, spaces, rfl, hspaces, hkind, htext⟩ :=
      Token.exists_of_ofFragments_eq_concat (by decide) hbefore
    have hmem : g ∈ scan source := by simp [hscan]
    exact ⟨front, g, spaces, rfl, hspaces, .inr (Expr.eq_comma_of_ofFragments he
      (apart_scan source) hmem hkind (isRun_scan source g hmem) (List.mem_of_getLast? htext))⟩

private theorem StandsAs.not_path (h : f.StandsAs .key before after e)
    (hscan : scan source = before ++ f :: after) (he : Expr.ofFragments (scan source) = .ok e) :
    f.kind ≠ .path := by
  intro hkind
  obtain ⟨front, g, spaces, rfl, hspaces, hg⟩ := h.exists_startsEntry hscan he
  obtain ⟨ts, t, ts', -, -, hafter, hstands⟩ := h
  obtain ⟨ts', rfl⟩ := hstands.exists_colon
  obtain ⟨spaces', colon, rest, rfl, hspaces', hcolon⟩ :=
    Token.exists_of_ofFragments_eq_symbol_cons (by decide) hafter
  refine not_hasUnmarkedKey_scan source ⟨front ++ g :: (spaces ++ f :: spaces'), colon, rest, ?_,
    hcolon, front, g, spaces, f, spaces', rfl, hg, hspaces, hkind, hspaces'⟩
  simp [hscan]

end Fragment

open Fragment (scan)

variable {source : List Char} {before after : List Fragment} {f : Fragment} {e : Expr}

/-- A fragment of an expression is marked as a key just where it is a path by its text that stands
in the place of a key, and one is left as a path just where it is an operand. -/
theorem Expr.kind_iff_standsAs (h : ofFragments (scan source) = .ok e)
    (hscan : scan source = before ++ f :: after) :
    (f.kind = .objectKey ↔ classify f.text = .path ∧ f.StandsAs .key before after e) ∧
      (f.kind = .path ↔ classify f.text = .path ∧ f.StandsAs .operand before after e) := by
  have hmem : f ∈ scan source := by simp [hscan]
  have hexists (hkind : f.kind = .path ∨ f.kind = .objectKey) :
      ∃ role, f.StandsAs role before after e := Fragment.exists_standsAs (hscan ▸ h) hkind
  refine ⟨⟨fun hkind ↦ ?_, fun ⟨hpath, hkey⟩ ↦ ?_⟩, fun hkind ↦ ?_, fun ⟨hpath, hoperand⟩ ↦ ?_⟩
  · obtain ⟨role, hstands⟩ := hexists (.inr hkind)
    obtain rfl := hstands.of_objectKey hkind
    exact ⟨Fragment.classify_text_of_objectKey hmem hkind, hstands⟩
  · exact (hkey.kind_of_classify hmem hpath).resolve_left (hkey.not_path hscan h)
  · obtain ⟨role, hstands⟩ := hexists (.inl hkind)
    refine ⟨(Fragment.classify_text_of_mem_scan hmem (.inr hkind)).trans hkind, ?_⟩
    cases role with
    | operand => exact hstands
    | key => exact absurd hkind (hstands.not_path hscan h)
  · refine (hoperand.kind_of_classify hmem hpath).resolve_right fun hkind ↦ ?_
    cases hoperand.of_objectKey hkind

/-- The colon of a conditional marks no key inside of a map. -/
theorem Expr.kind_iff_standsAs_conditional :
    let fs := scan "\x7ba: t ? x : y\x7d".toList
    ∃ e, ofFragments fs = .ok e ∧
      Fragment.StandsAs .key (fs.take 1) ⟨['a'], .objectKey⟩ (fs.drop 2) e ∧
      Fragment.StandsAs .operand (fs.take 8) ⟨['x'], .path⟩ (fs.drop 9) e := by
  intro fs
  have hkey : fs = fs.take 1 ++ ⟨['a'], .objectKey⟩ :: fs.drop 2 := by decide +kernel
  have hoperand : fs = fs.take 8 ++ ⟨['x'], .path⟩ :: fs.drop 9 := by decide +kernel
  have hparse : (ofFragments fs).isOk = true := by decide +kernel
  cases h : ofFragments fs with
  | error err =>
    rw [h] at hparse
    cases hparse
  | ok e =>
    exact ⟨e, rfl, ((kind_iff_standsAs h hkey).1.mp rfl).2,
      ((kind_iff_standsAs h hoperand).2.mp rfl).2⟩

end Stencil
