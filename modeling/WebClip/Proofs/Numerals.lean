import Mathlib.Algebra.Group.Nat.Defs
import WebClip.Number.Numeral
/-!
# Numerals in ASCII

A numeral is taken as it stands where it has ASCII digits alone: a whole number is the value of its
digits, and what a number is written with can be read.
-/

namespace WebClip.Number

open WebClip.Text

/-! ## Characters -/

/-- The characters that decimals are written with. -/
def numeralChars : List Char := "0123456789+-.e".toList

/-- One digit in ASCII, or more. -/
structure Digits (cs : List Char) : Prop where
  ne_nil : cs ≠ []
  isDigit : ∀ c ∈ cs, c.isDigit = true

theorem Digits.head {cs : List Char} (h : Digits cs) : ∀ c ∈ cs.head?, c.isDigit = true :=
  fun c hc => h.isDigit c (List.mem_of_mem_head? hc)

theorem Digits.single {c : Char} (h : c.isDigit = true) : Digits [c] :=
  ⟨List.cons_ne_nil c [], List.forall_mem_singleton.2 h⟩

theorem mem_numeralChars_of_isDigit {c : Char} (h : c.isDigit = true) : c ∈ numeralChars := by
  have hall : ∀ n < 58, 48 ≤ n → Char.ofNat n ∈ numeralChars := by decide
  have hrange := Char.isDigit_iff_toNat.1 h
  rw [← Char.ofNat_toNat c]
  exact hall c.toNat (Nat.lt_succ_of_le hrange.2) hrange.1

theorem ne_of_isDigit {c d : Char} (hc : c.isDigit = true) (hd : d.isDigit = false) : c ≠ d := by
  rintro rfl
  rw [hc] at hd
  cases hd

-- a check of the list itself: the characters are too many for a decision over all of them
theorem forall_numeralChars {p : Char → Prop} [DecidablePred p] (h : numeralChars.all (p ·) = true) :
    ∀ c ∈ numeralChars, p c :=
  fun c hc => of_decide_eq_true (List.all_eq_true.1 h c hc)

theorem isGap_eq_false : ∀ c ∈ numeralChars, isGap c = false := forall_numeralChars (by decide)

theorem translated : ∀ c ∈ numeralChars, (match digitValue? c with
    | some d => Nat.digitChar d
    | none => c) = c :=
  forall_numeralChars (by decide)

/-- Nothing is dropped where nothing at the ends is to be dropped. -/
theorem trimWhile_eq {p : Char → Bool} {cs : List Char} (h : ∀ c ∈ cs, p c = false) : trimWhile p cs = cs := by
  have hfront : ∀ ds : List Char, (∀ c ∈ ds, p c = false) → ds.dropWhile p = ds := by
    intro ds hds
    cases ds with
    | nil => rfl
    | cons c ds => rw [List.dropWhile_cons, if_neg (by simp [hds c List.mem_cons_self])]
  rw [trimWhile, dropEndWhile, hfront cs h, hfront cs.reverse fun c hc => h c (List.mem_reverse.1 hc),
    List.reverse_reverse]

/-- A numeral in ASCII is taken as it stands. -/
theorem plainDigits_eq {cs : List Char} (h : ∀ c ∈ cs, c ∈ numeralChars) : plainDigits cs = cs := by
  rw [plainDigits, trimWhile_eq fun c hc => isGap_eq_false c (h c hc)]
  exact (List.map_congr_left fun c hc => translated c (h c hc)).trans (List.map_id' cs)

/-- A numeral without underscores has no groups. -/
theorem ungrouped_eq {cs : List Char} (h : ∀ c ∈ cs, c ∈ numeralChars) : ungrouped cs = some cs := by
  have hplain : '_' ∉ numeralChars := by decide
  fun_induction ungrouped cs with
  | case1 => rfl
  | case2 => exact absurd (h '_' List.mem_cons_self) hplain
  | case3 => rfl
  | case4 => exact absurd (h '_' (List.mem_cons_of_mem _ List.mem_cons_self)) hplain
  | case5 => exact absurd (h '_' (List.mem_cons_of_mem _ List.mem_cons_self)) hplain
  | case6 c d rest _ _ ih => rw [ih fun x hx => h x (List.mem_cons_of_mem _ hx)]; rfl

/-! ## Whole numbers -/

theorem digits_toDigits (n : Nat) : Digits (Nat.toDigits 10 n) :=
  ⟨Nat.toDigits_ne_nil, fun _ hc => Nat.isDigit_of_mem_toDigits (by decide) (by decide) hc⟩

theorem digitsValue_toDigits (n : Nat) : digitsValue (Nat.toDigits 10 n) = n :=
  Nat.ofDigitChars_eq_foldl.symm.trans Nat.ofDigitChars_ten_toDigits

theorem digit_le {c : Char} (h : c.isDigit = true) : c.toNat - '0'.toNat ≤ 9 := by
  have hrange := (Char.isDigit_iff_toNat.1 h).2
  have hnine : '9'.toNat = '0'.toNat + 9 := rfl
  omega

theorem digitsValue_lt {cs : List Char} (h : ∀ c ∈ cs, c.isDigit = true) : digitsValue cs < 10 ^ cs.length := by
  -- behind digits of the value a
  have hfold : ∀ (cs : List Char) (a : Nat), (∀ c ∈ cs, c.isDigit = true) →
      cs.foldl (fun n c => 10 * n + (c.toNat - '0'.toNat)) a < (a + 1) * 10 ^ cs.length := by
    intro cs
    induction cs with
    | nil =>
      intro a _
      simp
    | cons c cs ih =>
      intro a hcs
      have hc := digit_le (hcs c List.mem_cons_self)
      calc (c :: cs).foldl (fun n c => 10 * n + (c.toNat - '0'.toNat)) a
          = cs.foldl (fun n c => 10 * n + (c.toNat - '0'.toNat)) (10 * a + (c.toNat - '0'.toNat)) := rfl
        _ < (10 * a + (c.toNat - '0'.toNat) + 1) * 10 ^ cs.length := ih _ fun d hd => hcs d (List.mem_cons_of_mem c hd)
        _ ≤ (10 * (a + 1)) * 10 ^ cs.length := Nat.mul_le_mul_right _ (by omega)
        _ = (a + 1) * 10 ^ (cs.length + 1) := by rw [Nat.pow_succ, Nat.mul_comm 10, Nat.mul_assoc, Nat.mul_comm 10]
  simpa [digitsValue] using hfold cs 0 h

/-- A sign in ASCII that makes a number negative, or none. -/
def signText (negative : Bool) : List Char := if negative then ['-'] else []

theorem takeSign_signText (negative : Bool) {cs : List Char} (h : ∀ c ∈ cs.head?, c.isDigit = true) :
    takeSign (signText negative ++ cs) = (negative, cs) := by
  cases negative with
  | true => rfl
  | false =>
    show takeSign cs = (false, cs)
    unfold takeSign
    split
    · exact absurd (h '-' rfl) (by decide)
    · exact absurd (h '+' rfl) (by decide)
    · rfl

theorem signText_subset (negative : Bool) : ∀ c ∈ signText negative, c ∈ numeralChars := by
  cases negative with
  | true => exact List.forall_mem_singleton.2 (by decide)
  | false => exact List.forall_mem_nil _

theorem Digits.subset {cs : List Char} (h : Digits cs) : ∀ c ∈ cs, c ∈ numeralChars :=
  fun c hc => mem_numeralChars_of_isDigit (h.isDigit c hc)

/-- A whole number of not too many digits is the value of its digits, with its sign. -/
theorem readInt_digits {cs : List Char} (h : Digits cs) (hlength : cs.length ≤ maxDigits) (negative : Bool) :
    readInt (signText negative ++ cs) = .ok (if negative then -(digitsValue cs : Int) else digitsValue cs) := by
  have hascii := List.forall_mem_append.2 ⟨signText_subset negative, h.subset⟩
  have hproper : (cs.isEmpty || !cs.all Char.isDigit) = false := by
    simpa [List.isEmpty_iff] using ⟨h.ne_nil, h.isDigit⟩
  rw [readInt, plainDigits_eq hascii, takeSign_signText negative h.head]
  dsimp only
  rw [ungrouped_eq h.subset]
  dsimp only
  rw [hproper, if_neg Bool.false_ne_true, if_neg (Nat.not_lt.2 hlength)]

/-- What is read as a whole number has not too many digits. -/
theorem length_of_readInt {cs : List Char} {n : Int} (h : readInt cs = .ok n) :
    (Nat.toDigits 10 n.natAbs).length ≤ maxDigits := by
  have hpos : 0 < maxDigits := Nat.succ_pos _
  unfold readInt at h
  dsimp only at h
  split at h
  · cases h
  next digits hdigits =>
    split at h
    · cases h
    next hproper =>
      split at h
      · cases h
      next hlength =>
        simp only [Bool.or_eq_true, not_or, Bool.not_eq_true, Bool.not_eq_false', List.all_eq_true] at hproper
        rw [Nat.length_toDigits_le_iff (by decide) hpos]
        have hvalue : n.natAbs = digitsValue digits := by
          cases h
          split <;> simp
        rw [hvalue]
        exact Nat.lt_of_lt_of_le (digitsValue_lt hproper.2) (Nat.pow_le_pow_right (by decide) (Nat.not_lt.1 hlength))

/-! ## Decimals -/

/-- A part of a text ends where something else follows. -/
theorem takeWhile_append_of_head {p : Char → Bool} {cs rest : List Char} (hcs : ∀ c ∈ cs, p c = true)
    (hrest : ∀ c ∈ rest.head?, p c = false) : (cs ++ rest).takeWhile p = cs := by
  rw [List.takeWhile_append_of_pos hcs]
  cases rest with
  | nil => simp
  | cons c rest => simp [hrest c rfl]

theorem dropWhile_append_of_head {p : Char → Bool} {cs rest : List Char} (hcs : ∀ c ∈ cs, p c = true)
    (hrest : ∀ c ∈ rest.head?, p c = false) : (cs ++ rest).dropWhile p = rest := by
  rw [List.dropWhile_append_of_pos hcs]
  cases rest with
  | nil => rfl
  | cons c rest => simp [hrest c rfl]

/-- The parts of a decimal: digits with no zero before others, and perhaps a point with digits or an exponent behind
them. -/
structure Spelled (whole fraction exponent : List Char) : Prop where
  digits : Digits whole
  noZero : whole = ['0'] ∨ ∀ c ∈ whole.head?, c ≠ '0'
  point : fraction = [] ∨ ∃ ds, Digits ds ∧ fraction = '.' :: ds
  power : exponent = [] ∨ ∃ sign ds, (sign = '+' ∨ sign = '-') ∧ Digits ds ∧ exponent = 'e' :: sign :: ds

namespace Spelled

variable {whole fraction exponent : List Char}

theorem fraction_subset (h : Spelled whole fraction exponent) : ∀ c ∈ fraction, c = '.' ∨ c.isDigit = true := by
  rcases h.point with rfl | ⟨ds, hds, rfl⟩
  · nofun
  · exact List.forall_mem_cons.2 ⟨.inl rfl, fun c hc => .inr (hds.isDigit c hc)⟩

theorem subset (h : Spelled whole fraction exponent) : ∀ c ∈ whole ++ fraction ++ exponent, c ∈ numeralChars := by
  refine List.forall_mem_append.2 ⟨List.forall_mem_append.2 ⟨h.digits.subset, fun c hc => ?_⟩, ?_⟩
  · rcases h.fraction_subset c hc with rfl | hdigit
    · decide
    · exact mem_numeralChars_of_isDigit hdigit
  · rcases h.power with rfl | ⟨sign, ds, hsign, hds, rfl⟩
    · nofun
    · have hmem : sign ∈ numeralChars := by rcases hsign with rfl | rfl <;> decide
      exact List.forall_mem_cons.2 ⟨by decide, List.forall_mem_cons.2 ⟨hmem, hds.subset⟩⟩

theorem head (h : Spelled whole fraction exponent) (rest : List Char) :
    ∀ c ∈ (whole ++ rest).head?, c.isDigit = true := by
  obtain ⟨c, cs, hcs⟩ := List.exists_cons_of_ne_nil h.digits.ne_nil
  rw [hcs]
  rintro _ ⟨⟩
  exact h.digits.isDigit c (hcs ▸ List.mem_cons_self)

/-- The digits of a decimal and its point are read. -/
theorem exists_readPoint (h : Spelled whole fraction exponent) : ∃ p, readPoint (whole ++ fraction) = some p := by
  have hempty : whole.isEmpty = false := by simpa using h.digits.ne_nil
  have hhead : ∀ c ∈ fraction.head?, c.isDigit = false := by
    rcases h.point with rfl | ⟨ds, -, rfl⟩
    · nofun
    · rintro _ ⟨⟩
      decide
  rw [readPoint, takeWhile_append_of_head h.digits.isDigit hhead, dropWhile_append_of_head h.digits.isDigit hhead]
  rcases h.point with rfl | ⟨ds, hds, rfl⟩
  · simp [hempty]
  · have hall : ds.all Char.isDigit = true := List.all_eq_true.2 hds.isDigit
    simp [hempty, hall]

/-- A decimal is read. -/
theorem exists_readDecimal (h : Spelled whole fraction exponent) (negative : Bool) :
    ∃ x, readDecimal negative (whole ++ fraction ++ exponent) = some x := by
  have hmark : ∀ c, c = '.' ∨ c.isDigit = true → (c != 'e' && c != 'E') = true := by
    rintro c (rfl | hc)
    · decide
    · have hletter : ∀ d, d.isDigit = false → c ≠ d := fun _ => ne_of_isDigit hc
      simpa using ⟨hletter 'e' rfl, hletter 'E' rfl⟩
  have hmantissa : (whole ++ fraction ++ exponent).takeWhile (fun c => c != 'e' && c != 'E') = whole ++ fraction := by
    refine takeWhile_append_of_head ?_ ?_
    · intro c hc
      rcases List.mem_append.1 hc with hwhole | hfraction
      · exact hmark c (.inr (h.digits.isDigit c hwhole))
      · exact hmark c (h.fraction_subset c hfraction)
    · rcases h.power with rfl | ⟨sign, ds, -, -, rfl⟩
      · nofun
      · rintro _ ⟨⟩
        decide
  obtain ⟨p, hp⟩ := h.exists_readPoint
  rw [readDecimal, hmantissa, hp, List.drop_left]
  rcases h.power with rfl | ⟨sign, ds, hsign, hds, rfl⟩
  · exact ⟨_, rfl⟩
  · have hproper : (ds.isEmpty || !ds.all Char.isDigit) = false := by
      simpa [List.isEmpty_iff] using ⟨hds.ne_nil, hds.isDigit⟩
    rcases hsign with rfl | rfl
    all_goals
      simp only [takeSign, hproper]
      exact ⟨_, rfl⟩

/-- What begins with a digit is no word. -/
theorem word_ne {cs : List Char} (h : ∀ c ∈ cs.head?, c.isDigit = true) {w : String} {d : Char} {ds : List Char}
    (hw : w.toList = d :: ds) (hd : d.isDigit = false) : (String.ofList (cs.map Char.toLower) == w) = false := by
  have hlower : ∀ c ∈ numeralChars, c.toLower = c := forall_numeralChars (by decide)
  rw [beq_eq_false_iff_ne]
  intro heq
  have hmap : cs.map Char.toLower = d :: ds := by rw [← hw, ← heq, String.toList_ofList]
  cases cs with
  | nil => cases hmap
  | cons c cs =>
    have hc := h c rfl
    have hsame : c = d := (hlower c (mem_numeralChars_of_isDigit hc)).symm.trans (List.cons.inj hmap).1
    exact ne_of_isDigit hc hd hsame

/-- With its sign too. -/
theorem exists_readFloat (h : Spelled whole fraction exponent) (negative : Bool) :
    ∃ x, readFloat (signText negative ++ (whole ++ fraction ++ exponent)) = some x := by
  have hascii := List.forall_mem_append.2 ⟨signText_subset negative, h.subset⟩
  have hhead : ∀ c ∈ (whole ++ fraction ++ exponent).head?, c.isDigit = true := by
    rw [List.append_assoc]
    exact h.head _
  obtain ⟨x, hx⟩ := h.exists_readDecimal negative
  rw [readFloat, plainDigits_eq hascii, ungrouped_eq hascii]
  simp only [bind, Option.bind, takeSign_signText negative hhead, word_ne hhead (w := "inf") rfl rfl,
    word_ne hhead (w := "infinity") rfl rfl, word_ne hhead (w := "nan") rfl rfl, hx]
  exact ⟨x, rfl⟩

end Spelled

/-! ## What a decimal is written with -/

theorem Fraction.scaled_pos {a : Nat} (ha : 0 < a) (q : Int) : 0 < (Fraction.scaled a q).num := by
  unfold Fraction.scaled
  split
  · exact ha
  · exact Nat.mul_pos ha (Nat.pow_pos (Nat.succ_pos _))

theorem Fraction.shift_pos {f : Fraction} (hf : 0 < f.num) (k : Int) : 0 < (f.shift k).num := by
  unfold Fraction.shift
  split
  · exact hf
  · exact Nat.mul_pos hf (Nat.pow_pos (Nat.succ_pos _))

/-- Only zero is written with zero: a decimal above a positive bound has digits. -/
theorem onGrid_pos {value low high : Fraction} {closed : Bool} {exponent : Int} {count : Nat} {d : Decimal}
    (hlow : 0 < low.num) (h : onGrid value low high closed exponent count = some d) : 0 < d.digits := by
  unfold onGrid at h
  obtain ⟨n, hfind, rfl⟩ := Option.map_eq_some_iff.1 h
  have hlow := Fraction.shift_pos hlow ((count : Int) - 1 - exponent)
  have hwithin := List.find?_some hfind
  have hn : 0 < n := by
    rcases Nat.eq_zero_or_pos n with rfl | hpos
    · -- a zero is above no positive bound, be it closed or open
      cases closed with
      | true =>
        simp at hwithin
        omega
      | false => simp at hwithin
    · exact hpos
  split
  · exact Nat.one_pos
  · exact hn

theorem shortest_pos {m : Nat} (hm : 0 < m) (q : Int) : 0 < (shortest m q).digits := by
  unfold shortest
  dsimp only
  generalize hfind : List.findSome? _ _ = found
  cases found with
  | none => exact hm
  | some d =>
    obtain ⟨i, -, hi⟩ := List.exists_of_findSome?_eq_some hfind
    -- the lower bound of what rounds to a number above zero is itself above zero
    refine onGrid_pos (Fraction.scaled_pos ?_ _) hi
    split <;> omega

theorem head_toDigits {n : Nat} (h : 0 < n) : ∃ c cs, Nat.toDigits 10 n = c :: cs ∧ c ≠ '0' := by
  induction n using Nat.strongRecOn with
  | ind n ih =>
    rcases Nat.lt_or_ge n 10 with hlt | hge
    · have hone : ∀ d < 10, 0 < d → Nat.digitChar d ≠ '0' := by decide
      exact ⟨_, _, Nat.toDigits_of_lt_base hlt, hone n hlt h⟩
    · obtain ⟨c, cs, hcs, hc⟩ := ih (n / 10) (Nat.div_lt_self h (by decide)) (Nat.div_pos hge (by decide))
      exact ⟨c, _, by rw [Nat.toDigits_of_base_le (by decide) hge, hcs, List.cons_append], hc⟩

/-- Only zeros are dropped from the end, and what comes first is none. -/
theorem trimZeros_cons {c : Char} (hc : c ≠ '0') (cs : List Char) :
    ∃ ds, trimZeros (c :: cs) = c :: ds ∧ ∀ d ∈ ds, d ∈ cs := by
  have hlast : [c].dropWhile (· == '0') = [c] := by simp [hc]
  refine ⟨(cs.reverse.dropWhile (· == '0')).reverse, ?_, fun d hd => ?_⟩
  · -- the first digit stops the dropping, if nothing behind it does
    rw [trimZeros, List.reverse_cons, List.dropWhile_append, hlast]
    split
    next hempty => simp [List.isEmpty_iff.1 hempty]
    next => simp
  · exact List.mem_reverse.1 ((List.dropWhile_sublist _).subset (List.mem_reverse.1 hd))

theorem significant {n : Nat} (h : 0 < n) :
    ∃ c cs, trimZeros (Nat.toDigits 10 n) = c :: cs ∧ c ≠ '0' ∧ Digits (c :: cs) := by
  obtain ⟨c, cs, hcs, hc⟩ := head_toDigits h
  obtain ⟨ds, hds, hsub⟩ := trimZeros_cons hc cs
  have hdigits := (digits_toDigits n).isDigit
  rw [hcs] at hdigits ⊢
  refine ⟨c, ds, hds, hc, List.cons_ne_nil c ds, List.forall_mem_cons.2 ⟨hdigits c List.mem_cons_self, ?_⟩⟩
  exact fun d hd => hdigits d (List.mem_cons_of_mem c (hsub d hd))

theorem Digits.append {cs ds : List Char} (hcs : Digits cs) (hds : ∀ c ∈ ds, c.isDigit = true) : Digits (cs ++ ds) :=
  ⟨List.append_ne_nil_of_left_ne_nil hcs.ne_nil ds, List.forall_mem_append.2 ⟨hcs.isDigit, hds⟩⟩

theorem isDigit_replicate (n : Nat) : ∀ c ∈ List.replicate n '0', c.isDigit = true := by
  intro c hc
  rw [List.eq_of_mem_replicate hc]
  rfl

theorem digits_size (n : Nat) :
    Digits (if (Nat.toDigits 10 n).length < 2 then '0' :: Nat.toDigits 10 n else Nat.toDigits 10 n) := by
  have hdigits := digits_toDigits n
  split
  · exact ⟨List.cons_ne_nil _ _, List.forall_mem_cons.2 ⟨rfl, hdigits.isDigit⟩⟩
  · exact hdigits

/-- A whole number is a decimal without a point. -/
theorem toDigits_spelled (n : Nat) : Spelled (Nat.toDigits 10 n) [] [] := by
  refine ⟨digits_toDigits n, ?_, .inl rfl, .inl rfl⟩
  rcases Nat.eq_zero_or_pos n with rfl | hpos
  · exact .inl rfl
  · obtain ⟨c, cs, hcs, hc⟩ := head_toDigits hpos
    rw [hcs]
    right
    rintro _ ⟨⟩
    exact hc

/-- A decimal is written with digits before an exponent or around a point. -/
theorem toText_spelled {d : Decimal} (h : 0 < d.digits) :
    ∃ whole fraction exponent, Spelled whole fraction exponent ∧ (fraction ≠ [] ∨ exponent ≠ []) ∧
      d.toText = whole ++ fraction ++ exponent := by
  obtain ⟨c, cs, htrim, hc, hdigits⟩ := significant h
  have hfirst : Digits [c] := .single (hdigits.isDigit c List.mem_cons_self)
  have hnoZero : ∀ rest, ∀ x ∈ (c :: rest).head?, x ≠ '0' := by
    rintro rest _ ⟨⟩
    exact hc
  unfold Decimal.toText
  dsimp only
  rw [htrim]
  split
  · -- with an exponent
    have hsign : (if d.exponent < 0 then '-' else '+') = '+' ∨ (if d.exponent < 0 then '-' else '+') = '-' := by
      split
      · exact .inr rfl
      · exact .inl rfl
    have hsize := digits_size d.exponent.natAbs
    cases cs with
    | nil =>
      exact ⟨[c], [], _, ⟨hfirst, .inr (hnoZero []), .inl rfl, .inr ⟨_, _, hsign, hsize, rfl⟩⟩,
        .inr (List.cons_ne_nil _ _), rfl⟩
    | cons e cs =>
      have hrest : Digits (e :: cs) :=
        ⟨List.cons_ne_nil e cs, fun x hx => hdigits.isDigit x (List.mem_cons_of_mem c hx)⟩
      exact ⟨[c], '.' :: e :: cs, _, ⟨hfirst, .inr (hnoZero []), .inr ⟨_, hrest, rfl⟩, .inr ⟨_, _, hsign, hsize, rfl⟩⟩,
        .inr (List.cons_ne_nil _ _), rfl⟩
  · split
    · -- less than one
      refine ⟨['0'], '.' :: (List.replicate (d.exponent.natAbs - 1) '0' ++ c :: cs), [], ⟨?_, .inl rfl, ?_, .inl rfl⟩,
        .inl (List.cons_ne_nil _ _), by simp⟩
      · exact .single rfl
      · refine .inr ⟨_, ⟨by simp, ?_⟩, rfl⟩
        exact List.forall_mem_append.2 ⟨isDigit_replicate _, hdigits.isDigit⟩
    · -- digits on both sides of the point
      have hwhole : Digits ((c :: cs).take (d.exponent.natAbs + 1) ++
          List.replicate (d.exponent.natAbs + 1 - ((c :: cs).take (d.exponent.natAbs + 1)).length) '0') :=
        .append ⟨List.cons_ne_nil _ _, fun x hx => hdigits.isDigit x (List.mem_of_mem_take hx)⟩ (isDigit_replicate _)
      have hfraction : Digits (if ((c :: cs).drop (d.exponent.natAbs + 1)).isEmpty then ['0']
          else (c :: cs).drop (d.exponent.natAbs + 1)) := by
        split
        next => exact .single rfl
        next hne => exact ⟨mt List.isEmpty_iff.2 hne, fun x hx => hdigits.isDigit x (List.mem_of_mem_drop hx)⟩
      exact ⟨_, _, [], ⟨hwhole, .inr (hnoZero _), .inr ⟨_, hfraction, rfl⟩, .inl rfl⟩, .inl (List.cons_ne_nil _ _),
        (List.append_nil _).symm⟩

end WebClip.Number
