import Stencil.Proofs.Failure

/-!
# Missing and surplus arguments

Each kind of arguments has its own rule for one that is not given, and it is the rule for an
undefined one: both have the same value, or neither has one. So values are converted as if undefined
ones stood behind them at the places that are left, and more values than places are always a
failure. Main statement: `Arguments.ofValues_uniform`.
-/

namespace Stencil

/-! ### Arguments that are not given -/

namespace ArgKind

/-- What stands for an argument that is not given. Numbers and lists have to be given. -/
def absent? : (k : ArgKind) → Option k.Carrier
  | .value => some Value.undefined
  | .text => some ""
  | .flag => some false
  | .float => none
  | .integer => none
  | .size => none
  | .list => none
  | .optional _ => some none

variable {k : ArgKind} {x : k.Carrier}

private theorem ok_eq_ok_iff {α : Type} {a b : α} :
    (.ok a : Except Error α) = .ok b ↔ some a = some b := by
  rw [Except.ok.injEq, Option.some.injEq]

/-- An undefined argument is converted like one that is not given, to what stands for it. -/
theorem convert_undefined {v : Option Value} (hv : v.getD .undefined = .undefined) :
    k.convert v = .ok x ↔ k.absent? = some x := by
  have hcases : v = none ∨ v = some .undefined := by
    cases v with
    | none => exact .inl rfl
    | some w => exact .inr (congrArg some hv)
  rcases hcases with rfl | rfl
  all_goals
    cases k with
    | value | text | flag | optional k => exact ok_eq_ok_iff
    | float | integer | size | list => exact iff_of_false nofun nofun

end ArgKind

namespace Arguments

/-! ### Arguments by their places -/

/-- Whether values are converted to the arguments place by place: each value by the kind at its
place, and at the places that are left what stands for an argument that is not given. -/
def ConvertedByPlace : (ks : List ArgKind) → List Value → Arguments ks → Prop
  | [], vs, _ => vs = []
  | k :: ks, [], (x, xs) => k.absent? = some x ∧ ConvertedByPlace ks [] xs
  | k :: ks, v :: vs, (x, xs) => k.convert (some v) = .ok x ∧ ConvertedByPlace ks vs xs

variable {k : ArgKind} {ks : List ArgKind} {vs : List Value} {xs : Arguments ks}

/-- There is a place for each value. -/
theorem ConvertedByPlace.length_le (h : ConvertedByPlace ks vs xs) : vs.length ≤ ks.length := by
  induction ks generalizing vs with
  | nil =>
    obtain rfl : vs = [] := h
    exact Nat.le_refl _
  | cons k ks ih =>
    obtain ⟨x, xs⟩ := xs
    cases vs with
    | nil => exact Nat.zero_le _
    | cons v vs => exact Nat.succ_le_succ (ih h.2)

/-- Undefined values at places that are left make no difference. -/
theorem convertedByPlace_append_undefined {n : Nat} (h : vs.length + n ≤ ks.length) :
    ConvertedByPlace ks (vs ++ List.replicate n .undefined) xs ↔ ConvertedByPlace ks vs xs := by
  induction ks generalizing vs n with
  | nil =>
    obtain rfl : n = 0 := by
      rw [List.length_nil] at h
      omega
    rw [List.replicate_zero, List.append_nil]
  | cons k ks ih =>
    obtain ⟨x, xs⟩ := xs
    rw [List.length_cons] at h
    cases vs with
    | nil =>
      cases n with
      | zero => rfl
      | succ n =>
        have hrest : ConvertedByPlace ks ([] ++ List.replicate n .undefined) xs ↔
            ConvertedByPlace ks [] xs := ih (by omega)
        exact and_congr (ArgKind.convert_undefined rfl) hrest
    | cons v vs =>
      rw [List.length_cons] at h
      have hrest : ConvertedByPlace ks (vs ++ List.replicate n .undefined) xs ↔
          ConvertedByPlace ks vs xs := ih (by omega)
      exact and_congr_right fun _ ↦ hrest

/-! ### The conversion -/

private theorem convertEach_cons {x : k.Carrier} :
    convertEach (k :: ks) vs = .ok (x, xs) ↔
      k.convert vs.head? = .ok x ∧ convertEach ks vs.tail = .ok xs := by
  rw [convertEach]
  cases k.convert vs.head? with
  | error e => simp
  | ok y =>
    cases convertEach ks vs.tail with
    | error e => simp
    | ok ys =>
      constructor
      · rintro ⟨⟩
        exact ⟨rfl, rfl⟩
      · rintro ⟨⟨⟩, ⟨⟩⟩
        rfl

private theorem convertEach_eq_ok_iff :
    vs.length ≤ ks.length ∧ convertEach ks vs = .ok xs ↔ ConvertedByPlace ks vs xs := by
  induction ks generalizing vs with
  | nil =>
    rw [List.length_nil, Nat.le_zero, List.length_eq_zero_iff]
    exact and_iff_left rfl
  | cons k ks ih =>
    obtain ⟨x, xs⟩ := xs
    rw [convertEach_cons]
    cases vs with
    | nil =>
      rw [ConvertedByPlace, ← ih, List.head?_nil, ArgKind.convert_undefined rfl]
      simp
    | cons v vs =>
      rw [ConvertedByPlace, ← ih, List.length_cons, List.length_cons, Nat.succ_le_succ_iff]
      exact and_left_comm

/-- The conversion succeeds exactly if it does at each place and there is a place for each value. -/
theorem ofValues_eq_ok_iff : ofValues ks vs = .ok xs ↔ ConvertedByPlace ks vs xs := by
  rw [← convertEach_eq_ok_iff, ofValues]
  cases convertEach ks vs with
  | error e => simp
  | ok ys =>
    by_cases h : ks.length < vs.length
    · simp [h, Nat.not_le.mpr h]
    · simp [h, Nat.not_lt.mp h]

/-- Values are converted by their places, and whatever fails is a failure of the arguments. More
values than places fail. As many undefined values as there are places left, or fewer, make no
difference behind the others, neither to whether the conversion succeeds nor to what the arguments
are converted to. -/
theorem ofValues_uniform (ks : List ArgKind) (vs : List Value) :
    (ks.length < vs.length → ∃ e, ofValues ks vs = .error e ∧ e.kind = .invalidArguments) ∧
    (∀ n, vs.length + n ≤ ks.length → ∀ xs,
      ofValues ks (vs ++ List.replicate n .undefined) = .ok xs ↔ ofValues ks vs = .ok xs) ∧
    (∀ xs, ofValues ks vs = .ok xs ↔ ConvertedByPlace ks vs xs) ∧
    ∀ e, ofValues ks vs = .error e → e.kind = .invalidArguments := by
  have hkind (e : Error) (he : ofValues ks vs = .error e) : e.kind = .invalidArguments :=
    List.mem_singleton.mp (failsIn_ofValues ks vs e he)
  refine ⟨fun hlt ↦ ?_, fun n hn xs ↦ ?_, fun xs ↦ ofValues_eq_ok_iff, hkind⟩
  · cases h : ofValues ks vs with
    | error e => exact ⟨e, rfl, hkind e h⟩
    | ok xs =>
      have hle := (ofValues_eq_ok_iff.mp h).length_le
      omega
  · rw [ofValues_eq_ok_iff, ofValues_eq_ok_iff, convertedByPlace_append_undefined hn]

/-- A number where a text is taken, and two places left; two numbers where one is taken. -/
theorem ofValues_uniform_places :
    let ks : List ArgKind := [.text, .optional .integer, .flag]
    [Value.int 42].length + 2 ≤ ks.length ∧
      ofValues ks [.int 42, .undefined, .undefined] = .ok ("42", none, false, ()) ∧
      [ArgKind.integer].length < [Value.int 1, .int 2].length ∧
      ∃ e, ofValues [.integer] [.int 1, .int 2] = .error e ∧ e.kind = .invalidArguments := by
  intro ks
  have hplaces : [Value.int 42].length + 2 ≤ ks.length := by decide
  have hsurplus : [ArgKind.integer].length < [Value.int 1, .int 2].length := by decide
  have hgiven : ofValues ks [.int 42] = .ok ("42", none, false, ()) := rfl
  exact ⟨hplaces, ((ofValues_uniform ks [.int 42]).2.1 2 hplaces _).mpr hgiven, hsurplus,
    (ofValues_uniform [.integer] [.int 1, .int 2]).1 hsurplus⟩

end Arguments

end Stencil
