import WebClip.Json.Read
import WebClip.Json.Write
import WebClip.Proofs.Numerals
/-!
# Numbers in JSON

The text of a number is read up to its end, whatever follows it that can stand behind a value. A whole number
is read as itself.
-/

namespace WebClip.Json

open WebClip.Number WebClip.Text

/-- What stands behind the text of a number: nothing that could be a part of it. -/
def Ends (rest : List Char) : Prop := ∀ c ∈ rest.head?, c.isDigit = false ∧ c ≠ '.' ∧ c ≠ 'e' ∧ c ≠ 'E'

theorem Ends.nil : Ends [] := nofun

theorem Ends.cons {c : Char} (h : c.isDigit = false ∧ c ≠ '.' ∧ c ≠ 'e' ∧ c ≠ 'E') (cs : List Char) :
    Ends (c :: cs) := by
  rintro _ ⟨⟩
  exact h

/-! ## Parts of a number -/

section Parts
variable {whole fraction exponent rest : List Char}

theorem wholeDigits_append (hdigits : Digits whole) (hzero : whole = ['0'] ∨ ∀ c ∈ whole.head?, c ≠ '0')
    (hrest : ∀ c ∈ rest.head?, c.isDigit = false) : wholeDigits (whole ++ rest) = whole := by
  rcases hzero with rfl | hzero
  · rfl
  · obtain ⟨c, cs, rfl⟩ := List.exists_cons_of_ne_nil hdigits.ne_nil
    unfold wholeDigits
    split
    next heq => exact absurd (List.cons.inj heq).1 (hzero c rfl)
    next => exact takeWhile_append_of_head hdigits.isDigit hrest

theorem marked_none {isMark : Char → Bool} {signed : Bool} (h : ∀ c ∈ rest.head?, isMark c = false) :
    marked isMark signed rest = ([], rest) := by
  cases rest with
  | nil => rfl
  | cons c rest => simp [marked, h c rfl]

/-- A point with digits behind it is read up to its end. -/
theorem marked_point (h : fraction = [] ∨ ∃ ds, Digits ds ∧ fraction = '.' :: ds)
    (hrest : ∀ c ∈ rest.head?, c.isDigit = false ∧ c ≠ '.') :
    marked (· == '.') false (fraction ++ rest) = (fraction, rest) := by
  rcases h with rfl | ⟨ds, hds, rfl⟩
  · exact marked_none fun c hc => by simpa using (hrest c hc).2
  · have htake := takeWhile_append_of_head hds.isDigit fun c hc => (hrest c hc).1
    simp [marked, htake, hds.ne_nil]

/-- So is an exponent. -/
theorem marked_exponent
    (h : exponent = [] ∨ ∃ sign ds, (sign = '+' ∨ sign = '-') ∧ Digits ds ∧ exponent = 'e' :: sign :: ds)
    (hrest : Ends rest) :
    marked (fun c => c == 'e' || c == 'E') true (exponent ++ rest) = (exponent, rest) := by
  rcases h with rfl | ⟨sign, ds, hsign, hds, rfl⟩
  · exact marked_none fun c hc => by simpa using (hrest c hc).2.2
  · have htake := takeWhile_append_of_head hds.isDigit fun c hc => (hrest c hc).1
    have hhead : ∀ c ∈ (ds ++ rest).head?, (c == '+' || c == '-') = false := by
      obtain ⟨d, ds, rfl⟩ := List.exists_cons_of_ne_nil hds.ne_nil
      rintro _ ⟨⟩
      have hd := hds.isDigit d List.mem_cons_self
      have hne : ∀ c, c.isDigit = false → d ≠ c := fun _ => ne_of_isDigit hd
      simpa using ⟨hne '+' rfl, hne '-' rfl⟩
    have hone : (sign :: (ds ++ rest)).takeWhile (fun d => d == '+' || d == '-') = [sign] :=
      takeWhile_append_of_head (by simpa using hsign : ∀ c ∈ [sign], (c == '+' || c == '-') = true) hhead
    have hdrop : (sign :: (ds ++ rest)).drop (1 + ds.length) = rest := by
      rw [Nat.add_comm, List.drop_succ_cons, List.drop_left]
    simp [marked, hone, htake, hds.ne_nil, hdrop]

/-- A number is read up to its end. -/
theorem number?_append (h : Spelled whole fraction exponent) (hrest : Ends rest) (negative : Bool) :
    number? (signText negative ++ (whole ++ fraction ++ exponent) ++ rest) =
      if fraction.isEmpty && exponent.isEmpty then
        match readInt (signText negative ++ whole) with
        | .ok n => .ok (.int n, rest)
        | .error (.tooLong digits) => .error (.oversized digits)
        | .error .notANumeral => .error .malformed
      else match readFloat (signText negative ++ (whole ++ fraction ++ exponent)) with
        | some x => .ok (.float x, rest)
        | none => .error .malformed := by
  -- what stands behind a part begins with nothing that could belong to the part
  have hexponent : ∀ c ∈ (exponent ++ rest).head?, c.isDigit = false ∧ c ≠ '.' := by
    rcases h.power with rfl | ⟨sign, ds, -, -, rfl⟩
    · exact fun c hc => ⟨(hrest c hc).1, (hrest c hc).2.1⟩
    · rintro _ ⟨⟩
      decide
  have hfraction : ∀ c ∈ (fraction ++ (exponent ++ rest)).head?, c.isDigit = false := by
    rcases h.point with rfl | ⟨ds, -, rfl⟩
    · exact fun c hc => (hexponent c hc).1
    · rintro _ ⟨⟩
      decide
  have hwhole := wholeDigits_append h.digits h.noZero hfraction
  have hempty : whole.isEmpty = false := by simpa using h.digits.ne_nil
  have hwritten : signText negative ++ (whole ++ fraction ++ exponent) =
      signText negative ++ whole ++ fraction ++ exponent := by simp only [List.append_assoc]
  have hbody : signText negative ++ whole ++ fraction ++ exponent ++ rest =
      signText negative ++ (whole ++ (fraction ++ (exponent ++ rest))) := by simp only [List.append_assoc]
  rw [hwritten, hbody]
  unfold number?
  split
  next sign body heq =>
    have hparts : sign = signText negative ∧ body = whole ++ (fraction ++ (exponent ++ rest)) := by
      cases negative with
      | true =>
        cases heq
        exact ⟨rfl, rfl⟩
      | false =>
        split at heq
        next hminus =>
          have hhead := h.head (fraction ++ (exponent ++ rest)) '-' (congrArg List.head? hminus)
          exact absurd hhead (by decide)
        next =>
          cases heq
          exact ⟨rfl, rfl⟩
    obtain ⟨rfl, rfl⟩ := hparts
    dsimp only
    rw [hwhole, hempty, if_neg Bool.false_ne_true, List.drop_left, marked_point h.point hexponent]
    dsimp only
    rewrite [marked_exponent h.power hrest]
    rfl

end Parts

/-! ## Whole numbers -/

theorem toString_int (n : Int) : (toString n).toList = signText (decide (n < 0)) ++ Nat.toDigits 10 n.natAbs := by
  cases n with
  | ofNat n =>
    show (toString n).toList = _
    rw [Nat.toString_eq_ofList_toDigits, String.toList_ofList]
    rfl
  | negSucc n =>
    show ("-" ++ toString (n + 1)).toList = _
    simp [signText, Int.negSucc_lt_zero]

/-- No word begins like a number in digits. -/
theorem find?_literals {c : Char} (h : c.isDigit = true) (negative : Bool) (cs : List Char) :
    literals.find? (fun l => startsWith l.1.toList (signText negative ++ c :: cs)) = none := by
  have hne : ∀ d, d.isDigit = false → d ≠ c := fun d hd => (ne_of_isDigit h hd).symm
  cases negative with
  | false =>
    simp [literals, startsWith, signText, hne 'n' rfl, hne 't' rfl, hne 'f' rfl, hne 'N' rfl, hne 'I' rfl, hne '-' rfl]
  | true => simp [literals, startsWith, signText, hne 'I' rfl]

/-- A word or a number that begins like one in digits is a number. -/
theorem scalar?_spelled {whole fraction exponent : List Char} (h : Spelled whole fraction exponent) (negative : Bool)
    (rest : List Char) : scalar? (signText negative ++ (whole ++ fraction ++ exponent) ++ rest) =
      number? (signText negative ++ (whole ++ fraction ++ exponent) ++ rest) := by
  have hhead := h.digits.isDigit
  unfold scalar?
  obtain ⟨c, cs, rfl⟩ := List.exists_cons_of_ne_nil h.digits.ne_nil
  rw [List.cons_append, List.cons_append, List.append_assoc, List.cons_append,
    find?_literals (hhead c List.mem_cons_self)]

/-- A whole number is read as itself. -/
theorem scalar?_int {n : Int} (hlength : (Nat.toDigits 10 n.natAbs).length ≤ maxDigits) {rest : List Char}
    (hrest : Ends rest) : scalar? ((toString n).toList ++ rest) = .ok (.int n, rest) := by
  have hspelled := toDigits_spelled n.natAbs
  have hvalue : (if decide (n < 0) = true then -(n.natAbs : Int) else n.natAbs) = n := by
    split
    next hneg => simp only [decide_eq_true_eq] at hneg; omega
    next hpos => simp only [decide_eq_true_eq] at hpos; omega
  have hread := number?_append hspelled hrest (decide (n < 0))
  rw [readInt_digits hspelled.digits hlength, digitsValue_toDigits, hvalue] at hread
  rw [List.append_nil, List.append_nil] at hread
  have hscalar := scalar?_spelled hspelled (decide (n < 0)) rest
  rw [List.append_nil, List.append_nil] at hscalar
  rw [toString_int, hscalar, hread]
  rfl

/-! ## Floating-point numbers -/

/-- The text of a floating-point number is a word, or a decimal with its sign. -/
theorem floatText_cases (x : Float) : floatText x = "NaN" ∨ floatText x = "Infinity" ∨ floatText x = "-Infinity" ∨
    ∃ negative whole fraction exponent, Spelled whole fraction exponent ∧ (fraction ≠ [] ∨ exponent ≠ []) ∧
      (floatText x).toList = signText negative ++ (whole ++ fraction ++ exponent) := by
  unfold floatText Number.floatText
  cases parts x with
  | nan => exact .inl rfl
  | infinite negative => cases negative <;> simp
  | finite negative m q =>
    right; right; right
    dsimp only
    rw [String.toList_ofList]
    rcases Nat.eq_zero_or_pos m with rfl | hm
    · exact ⟨negative, ['0'], ['.', '0'], [], ⟨.single rfl, .inl rfl, .inr ⟨['0'], .single rfl, rfl⟩, .inl rfl⟩,
        .inl (List.cons_ne_nil _ _), by cases negative <;> rfl⟩
    · obtain ⟨whole, fraction, exponent, hspelled, hparts, htext⟩ := toText_spelled (shortest_pos hm q)
      refine ⟨negative, whole, fraction, exponent, hspelled, hparts, ?_⟩
      rw [if_neg (Nat.ne_of_gt hm), htext]
      cases negative <;> rfl

/-- The text of a floating-point number is read up to its end. -/
theorem exists_scalar?_float (x : Float) :
    ∃ v, ∀ rest, Ends rest → scalar? ((floatText x).toList ++ rest) = .ok (v, rest) := by
  rcases floatText_cases x with h | h | h | ⟨negative, whole, fraction, exponent, hspelled, hparts, htext⟩
  · exact ⟨_, fun rest _ => by rw [h]; rfl⟩
  · exact ⟨_, fun rest _ => by rw [h]; rfl⟩
  · exact ⟨_, fun rest _ => by rw [h]; rfl⟩
  · -- a point or an exponent keeps it from being read as a whole number
    obtain ⟨y, hy⟩ := hspelled.exists_readFloat negative
    have hpoint : (fraction.isEmpty && exponent.isEmpty) = false := by
      rw [Bool.and_eq_false_iff]
      exact hparts.imp (by simp) (by simp)
    refine ⟨.float y, fun rest hrest => ?_⟩
    rw [htext, scalar?_spelled hspelled, number?_append hspelled hrest, hpoint, hy]
    rfl

/-- What the text of a floating-point number is read as. -/
def floatValue (x : Float) : Value :=
  match scalar? (floatText x).toList with
  | .ok (v, _) => v
  | .error _ => .null

theorem scalar?_float (x : Float) {rest : List Char} (hrest : Ends rest) :
    scalar? ((floatText x).toList ++ rest) = .ok (floatValue x, rest) := by
  obtain ⟨v, hv⟩ := exists_scalar?_float x
  have hvalue : floatValue x = v := by
    have hnone := hv [] .nil
    rw [List.append_nil] at hnone
    rw [floatValue, hnone]
  rw [hvalue, hv rest hrest]

/-! ## How a number begins -/

/-- A character that the text of a number may begin with. -/
def Begins (c : Char) : Prop := c ∈ numeralChars ∨ c = 'N' ∨ c = 'I'

theorem spelled_head {whole fraction exponent : List Char} (h : Spelled whole fraction exponent) (negative : Bool) :
    ∃ c cs, signText negative ++ (whole ++ fraction ++ exponent) = c :: cs ∧ c ∈ numeralChars := by
  have hsubset := List.forall_mem_append.2 ⟨signText_subset negative, h.subset⟩
  obtain ⟨c, cs, hcs⟩ : ∃ c cs, signText negative ++ (whole ++ fraction ++ exponent) = c :: cs := by
    refine List.exists_cons_of_ne_nil ?_
    simp [h.digits.ne_nil]
  exact ⟨c, cs, hcs, hsubset c (hcs ▸ List.mem_cons_self)⟩

theorem int_head (n : Int) : ∃ c cs, (toString n).toList = c :: cs ∧ Begins c := by
  obtain ⟨c, cs, hcs, hc⟩ := spelled_head (toDigits_spelled n.natAbs) (decide (n < 0))
  rw [List.append_nil, List.append_nil] at hcs
  exact ⟨c, cs, by rw [toString_int, hcs], .inl hc⟩

theorem float_head (x : Float) : ∃ c cs, (floatText x).toList = c :: cs ∧ Begins c := by
  rcases floatText_cases x with h | h | h | ⟨negative, whole, fraction, exponent, hspelled, -, htext⟩
  · exact ⟨'N', _, by rw [h]; rfl, .inr (.inl rfl)⟩
  · exact ⟨'I', _, by rw [h]; rfl, .inr (.inr rfl)⟩
  · exact ⟨'-', _, by rw [h]; rfl, .inl (by decide)⟩
  · obtain ⟨c, cs, hcs, hc⟩ := spelled_head hspelled negative
    exact ⟨c, cs, htext.trans hcs, .inl hc⟩

end WebClip.Json
