import Stencil.Environment
import Stencil.Proofs.SafeText

/-!
# Texts without markup

Escaping leaves none of the characters that open or close tags and single-quoted attribute values.
The built-in filters make safe texts in three ways: by escaping, by writing JSON for markup, and by
putting breaks into a text. All but the last way keep such characters out of safe texts.
-/

namespace Stencil

namespace Text

/-! ### Characters of markup -/

/-- Whether a text holds none of the characters that open or close tags and single-quoted attribute
values. -/
def Inert (s : List Char) : Prop := ∀ c ∈ s, c ≠ '<' ∧ c ≠ '>' ∧ c ≠ '\''

/-- Whether the characters of a text are inert. -/
def InertString (s : String) : Prop := Inert s.toList

/-- An empty text is inert. -/
theorem inert_nil : Inert [] := List.forall_mem_nil _

/-- Texts are inert together if each is. -/
theorem Inert.append {s t : List Char} (hs : Inert s) (ht : Inert t) : Inert (s ++ t) := by
  intro c hc
  exact (List.mem_append.mp hc).elim (hs c) (ht c)

/-- A text is inert if each character is written as an inert one. -/
theorem inert_flatMap {f : Char → List Char} (hf : ∀ c, Inert (f c)) (s : List Char) :
    Inert (s.flatMap f) := by
  intro c hc
  obtain ⟨d, -, hd⟩ := List.mem_flatMap.mp hc
  exact hf d c hd

/-- An escaped text is inert. -/
theorem inert_escapeMarkup (s : List Char) : Inert (escapeMarkup s) := by
  intro c hc
  obtain ⟨hlt, hgt, -, hquote, -⟩ := ne_of_mem_escapeMarkup hc
  exact ⟨hlt, hgt, hquote⟩

private theorem hexDigit_ne {c : Char} (hc : hexValue? c = none) (n : Nat) : hexDigit n ≠ c := by
  rintro rfl
  rw [hexValue?_hexDigit] at hc
  cases hc

/-- No hexadecimal digit is a character of markup. -/
theorem ne_of_mem_hexDigits {c : Char} {width n : Nat} (hc : c ∈ hexDigits width n) :
    c ≠ '<' ∧ c ≠ '>' ∧ c ≠ '&' ∧ c ≠ '\'' := by
  obtain ⟨m, rfl⟩ := exists_of_mem_hexDigits hc
  exact ⟨hexDigit_ne rfl m, hexDigit_ne rfl m, hexDigit_ne rfl m, hexDigit_ne rfl m⟩

end Text

namespace Value

/-- Whether all safe texts that stand in a value are inert. -/
abbrev Inert (v : Value) : Prop := v.SafeTexts Text.InertString

/-- A safe text is inert if its characters are. -/
theorem inert_text {s : List Char} (h : Text.Inert s) : Inert (.text (String.ofList s) true) := by
  apply safeTexts_text.mpr
  rw [Text.InertString, String.toList_ofList]
  exact fun _ ↦ h

/-- What is written for markup is inert if the safe texts in the value are. -/
theorem Inert.write {v : Value} (h : v.Inert) : Text.Inert (Escaping.html.write v) := by
  unfold Escaping.write
  cases v with
  | text s safe =>
    cases safe with
    | true => exact safeTexts_text.mp h rfl
    | false => exact Text.inert_escapeMarkup _
  | _ => exact Text.inert_escapeMarkup _

end Value

namespace Filter

/-! ### Filters and the safe texts in their results -/

/-- Whether the safe texts in the results of a filter are as described if those in the values that
it is applied to are. -/
def Preserves (P : String → Prop) (f : Filter) : Prop :=
  ∀ view vs w, (∀ v ∈ vs, v.SafeTexts P) → f view vs = .ok w → w.SafeTexts P

variable {P : String → Prop}

private theorem preserves_of {kinds : List ArgKind}
    {f : FilterView → Value → Arguments kinds → Except Error Value}
    (hf : ∀ view v args w, v.SafeTexts P → (∀ u ∈ args.toValues kinds, u.SafeTexts P) →
      f view v args = .ok w → w.SafeTexts P) : (of .value kinds f).Preserves P := by
  intro view vs w hvs hw
  unfold of at hw
  split at hw
  · cases hw
  · next v hv =>
    split at hw
    · cases hw
    · next args hargs =>
      apply hf view v args w _ _ hw
      · apply Value.safeTexts_convert _ hv
        intro u hu
        exact hvs u (List.mem_of_head? hu)
      · apply Value.safeTexts_ofValues _ hargs
        intro u hu
        exact hvs u (List.mem_of_mem_tail hu)

private theorem preserves_ofMap {f : Value → Except Error Value}
    (hf : ∀ v w, v.SafeTexts P → f v = .ok w → w.SafeTexts P) : (ofMap .value f).Preserves P :=
  preserves_of fun _ v _ w hv _ hw ↦ hf v w hv hw

private theorem preserves_map {f : Value → Value} (hf : ∀ v, v.SafeTexts P → (f v).SafeTexts P) :
    (ofMap .value fun v ↦ .ok (f v)).Preserves P := by
  apply preserves_ofMap
  intro v w hv hw
  cases hw
  exact hf v hv

private theorem preserves_ofChars {f : List Char → List Char} : (ofChars f).Preserves P := by
  intro view vs w hvs hw
  unfold ofChars ofMap of at hw
  split at hw
  · cases hw
  · split at hw
    · cases hw
    · cases hw
      exact Value.safeTexts_ofChars

private theorem preserves_replace : replace.Preserves P := by
  intro view vs w hvs hw
  unfold replace of at hw
  split at hw
  · cases hw
  · split at hw
    · cases hw
    · cases hw
      exact Value.safeTexts_ofChars

private theorem safeTexts_unfitFor {operation : String} {v w : Value}
    (hw : unfitFor operation v = .ok w) : w.SafeTexts P := by
  cases hw

private theorem safeTexts_fallback {v : Value} {other : Option Value} (hv : v.SafeTexts P)
    (hother : ∀ w, other = some w → w.SafeTexts P) : (fallback v other).SafeTexts P := by
  rw [fallback]
  split
  · cases other with
    | none => exact Value.safeTexts_plain
    | some w => exact hother w rfl
  · exact hv

private theorem safeTexts_length {v w : Value} (hw : length v = .ok w) : w.SafeTexts P := by
  unfold length at hw
  split at hw
  · cases hw
    exact Value.safeTexts_ofNat
  · exact safeTexts_unfitFor hw

private theorem safeTexts_charOption {o : Option Char} :
    ((o.map Value.ofChar).getD .undefined).SafeTexts P := by
  cases o with
  | none => exact Value.safeTexts_undefined
  | some c => exact Value.safeTexts_ofChar

private theorem safeTexts_first {v : Value} (hv : v.SafeTexts P) : (first v).SafeTexts P := by
  unfold first
  split
  · exact safeTexts_charOption
  · apply Value.safeTexts_getD
    intro w hw
    exact Value.safeTexts_seq.mp hv w (List.mem_of_head? hw)
  · exact Value.safeTexts_undefined

private theorem safeTexts_last {v : Value} (hv : v.SafeTexts P) : (last v).SafeTexts P := by
  unfold last
  split
  · exact safeTexts_charOption
  · apply Value.safeTexts_getD
    intro w hw
    exact Value.safeTexts_seq.mp hv w (List.mem_of_getLast? hw)
  · exact Value.safeTexts_undefined

private theorem safeTexts_join {v w : Value} {separator : List Char}
    (hw : join v separator = .ok w) : w.SafeTexts P := by
  unfold join at hw
  split at hw
  · cases hw
    exact Value.safeTexts_plain
  · cases hw
    exact Value.safeTexts_plain
  · cases hw
    exact Value.safeTexts_ofChars
  · cases hw
    exact Value.safeTexts_ofChars
  · exact safeTexts_unfitFor hw

private theorem safeTexts_reverse {v w : Value} (hv : v.SafeTexts P) (hw : reverse v = .ok w) :
    w.SafeTexts P := by
  unfold reverse at hw
  split at hw
  · cases hw
    exact Value.safeTexts_ofChars
  · cases hw
    rw [Value.safeTexts_seq] at hv ⊢
    intro u hu
    exact hv u (List.mem_reverse.mp hu)
  · exact safeTexts_unfitFor hw

private theorem safeTexts_absolute {v w : Value} (hw : absolute v = .ok w) : w.SafeTexts P := by
  unfold absolute at hw
  split at hw
  · split at hw <;> cases hw
    · exact Value.safeTexts_int
    · exact Value.safeTexts_float
  · cases hw
    exact Value.safeTexts_float
  · exact safeTexts_unfitFor hw

private theorem safeTexts_round {v w : Value} {places : Option Int64}
    (hw : round v places = .ok w) : w.SafeTexts P := by
  unfold round at hw
  split at hw
  · cases hw
    exact Value.safeTexts_int
  · cases hw
    exact Value.safeTexts_float
  · exact safeTexts_unfitFor hw

private theorem safeTexts_toInteger {v : Value} : (toInteger v).SafeTexts P := by
  unfold toInteger
  split
  · exact Value.safeTexts_int
  · split
    · split <;> exact Value.safeTexts_int
    · exact Value.safeTexts_int

private theorem safeTexts_urlEncode {around : Surroundings} {v : Value} :
    (urlEncode around v).SafeTexts P := by
  unfold urlEncode
  split
  · exact Value.safeTexts_ofChars
  · exact Value.safeTexts_plain
  · exact Value.safeTexts_plain
  · exact Value.safeTexts_ofChars

/-! ### Filters that make safe texts -/

private theorem inert_escape {v : Value} (hv : v.Inert) : (escape v).Inert := by
  rw [escape]
  split
  · exact hv
  · exact Value.inert_text hv.write

/-- What stands for a character inside of markup begins and ends neither a tag, an entity nor a
value in single quotes. -/
theorem ne_of_mem_inertChar {c d : Char} (hd : d ∈ inertChar c) :
    d ≠ '<' ∧ d ≠ '>' ∧ d ≠ '&' ∧ d ≠ '\'' := by
  rw [inertChar] at hd
  split at hd
  · rcases List.mem_cons.mp hd with rfl | hd
    · decide
    · rcases List.mem_cons.mp hd with rfl | hd
      · decide
      · exact Text.ne_of_mem_hexDigits hd
  · next hc =>
    rw [List.mem_singleton.mp hd]
    simp only [Bool.or_eq_true, beq_iff_eq, not_or] at hc
    exact ⟨hc.1.1.1, hc.1.1.2, hc.1.2, hc.2⟩

private theorem inert_inertChar (c : Char) : Text.Inert (inertChar c) := fun _ hd ↦
  ⟨(ne_of_mem_inertChar hd).1, (ne_of_mem_inertChar hd).2.1, (ne_of_mem_inertChar hd).2.2.2⟩

private theorem inert_toJson {around : Surroundings} {v w : Value} (h : toJson around v = .ok w) :
    w.Inert := by
  rw [toJson_eq] at h
  split at h
  · cases h
    exact Value.inert_text (Text.inert_flatMap inert_inertChar _)
  · cases h

/-- All built-in filters but the one that puts breaks into a text keep safe texts inert. -/
theorem preserves_builtins (around : Surroundings) : ∀ e ∈ builtins around, e.1 ≠ "nl2br" →
    Preserves Text.InertString e.2 := by
  simp only [builtins, List.forall_mem_cons, List.not_mem_nil, false_implies, implies_true,
    and_true]
  refine ⟨?abs, ?capitalize, ?count, ?default, ?e, ?escape, ?first, ?float, ?int, ?join, ?last,
    ?length, ?lower, ?nl2br, ?replace, ?reverse, ?round, ?tojson, ?trim, ?upper, ?urlencode⟩
  case nl2br => exact fun hname ↦ absurd rfl hname
  all_goals intro _
  case abs => exact preserves_ofMap fun _ _ _ ↦ safeTexts_absolute
  case capitalize => exact preserves_ofChars
  case count => exact preserves_ofMap fun _ _ _ ↦ safeTexts_length
  case default =>
    apply preserves_of
    rintro view v ⟨other, rest⟩ w hv hargs hw
    cases hw
    apply safeTexts_fallback hv
    rintro w rfl
    exact hargs w List.mem_cons_self
  case e => exact preserves_map fun _ ↦ inert_escape
  case escape => exact preserves_map fun _ ↦ inert_escape
  case first => exact preserves_map fun _ ↦ safeTexts_first
  case float => exact preserves_map fun _ _ ↦ Value.safeTexts_float
  case int => exact preserves_map fun _ _ ↦ safeTexts_toInteger
  case join => exact preserves_of fun _ _ _ _ _ _ ↦ safeTexts_join
  case last => exact preserves_map fun _ ↦ safeTexts_last
  case length => exact preserves_ofMap fun _ _ _ ↦ safeTexts_length
  case lower => exact preserves_ofChars
  case replace => exact preserves_replace
  case reverse => exact preserves_ofMap fun _ _ ↦ safeTexts_reverse
  case round => exact preserves_of fun _ _ _ _ _ _ ↦ safeTexts_round
  case tojson => exact preserves_ofMap fun _ _ _ ↦ inert_toJson
  case trim => exact preserves_ofChars
  case upper => exact preserves_ofChars
  case urlencode => exact preserves_map fun _ _ ↦ safeTexts_urlEncode

end Filter

end Stencil
