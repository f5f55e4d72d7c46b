import Mathlib.Data.Nat.Digits.Defs
import WebClip.Proofs.Bindings
import WebClip.Proofs.JsonNumbers
/-!
# What JSON writes is read back

A text within quotes is read back character by character, whether a character stands for itself, is
escaped, or is written as one or two units. A value that has been read is read back after it is written,
and one without numbers as it is.
-/

namespace WebClip.Json

open WebClip.Text

/-! ## Digits in base sixteen -/

theorem hexValue?_digitChar : ∀ d < 16, hexValue? (Nat.digitChar d) = some d := by decide

/-- All but the last digit are those of a sixteenth. -/
theorem hex_succ {width : Nat} (hw : 0 < width) (n : Nat) :
    hex (width + 1) n = hex width (n / 16) ++ [Nat.digitChar (n % 16)] := by
  unfold hex
  dsimp only
  by_cases h : n < 16
  · rw [Nat.toDigits_of_lt_base h, Nat.div_eq_of_lt h, Nat.mod_eq_of_lt h, Nat.toDigits_of_lt_base (by omega)]
    obtain ⟨w, rfl⟩ : ∃ w, width = w + 1 := ⟨width - 1, by omega⟩
    simp [List.replicate_succ']
  · rw [Nat.toDigits_of_base_le (by omega) (by omega)]
    simp

theorem hex_four {n : Nat} (h : n < 65536) : hex 4 n = [Nat.digitChar (n / 4096), Nat.digitChar (n / 256 % 16),
    Nat.digitChar (n / 16 % 16), Nat.digitChar (n % 16)] := by
  have hone : hex 1 (n / 16 / 16 / 16) = [Nat.digitChar (n / 16 / 16 / 16)] := by
    unfold hex
    rw [Nat.toDigits_of_lt_base (by omega)]
    rfl
  rw [hex_succ (by omega), hex_succ (by omega), hex_succ (by omega), hone]
  simp [Nat.div_div_eq_div_mul]

theorem unit?_hex {n : Nat} (h : n < 65536) (rest : List Char) : unit? (hex 4 n ++ rest) = some (n, rest) := by
  have h₃ := hexValue?_digitChar (n / 4096) (by omega)
  have h₂ := hexValue?_digitChar (n / 256 % 16) (by omega)
  have h₁ := hexValue?_digitChar (n / 16 % 16) (by omega)
  have h₀ := hexValue?_digitChar (n % 16) (by omega)
  have hn : 4096 * (n / 4096) + 256 * (n / 256 % 16) + 16 * (n / 16 % 16) + n % 16 = n := by omega
  simp [hex_four h, unit?, h₃, h₂, h₁, h₀, hn]

/-! ## Texts within quotes -/

theorem toNat_lt (c : Char) : c.toNat < 0xD800 ∨ (0xE000 ≤ c.toNat ∧ c.toNat < 0x110000) := by
  rcases c.valid with h | ⟨h, h'⟩
  · exact .inl h
  · exact .inr ⟨h, h'⟩

/-- One unit stands for its character. -/
theorem unicode?_unit {c : Char} (h : c.toNat < 0x10000) (rest : List Char) :
    unicode? (hex 4 c.toNat ++ rest) = some (c, rest) := by
  unfold unicode?
  rw [unit?_hex h]
  have hc := toNat_lt c
  have hhigh : ¬ (0xD800 ≤ c.toNat ∧ c.toNat < 0xDC00) := by omega
  have hhalf : ¬ (0xD800 ≤ c.toNat ∧ c.toNat < 0xE000) := by omega
  simp [hhigh, hhalf]

/-- Two units that make a pair stand for one character. -/
theorem unicode?_two (high low : Nat) (h₁ : 0xD800 ≤ high) (h₂ : high < 0xDC00) (h₃ : 0xDC00 ≤ low) (h₄ : low < 0xE000)
    (rest : List Char) : unicode? (hex 4 high ++ '\\' :: 'u' :: (hex 4 low ++ rest)) =
      some (Char.ofNat (0x10000 + 1024 * (high - 0xD800) + (low - 0xDC00)), rest) := by
  unfold unicode?
  rw [unit?_hex (by omega)]
  simp only [h₁, h₂, decide_true, Bool.and_self, if_true]
  rw [unit?_hex (by omega)]
  simp only [h₃, h₄, decide_true, Bool.and_self, if_true]

theorem string?_unit {c : Char} (h : c.toNat < 0x10000) (n : Nat) (rest : List Char) :
    string? (n + 1) (unitText c.toNat ++ rest) = (string? n rest).map fun (s, r) => (c :: s, r) := by
  simp [unitText, string?, unicode?_unit h]

theorem string?_pair {c : Char} {high low : Nat} (hhigh : 0xD800 + (c.toNat - 0x10000) / 1024 = high)
    (hlow : 0xDC00 + (c.toNat - 0x10000) % 1024 = low) (h : 0x10000 ≤ c.toNat) (n : Nat) (rest : List Char) :
    string? (n + 1) (unitText high ++ unitText low ++ rest) = (string? n rest).map fun (s, r) => (c :: s, r) := by
  have hc := toNat_lt c
  have hsum : 0x10000 + 1024 * (high - 0xD800) + (low - 0xDC00) = c.toNat := by omega
  have htwo := unicode?_two high low (by omega) (by omega) (by omega) (by omega) rest
  rw [hsum, Char.ofNat_toNat] at htwo
  simp [unitText, string?, htwo]

/-- A character within quotes is read back, and reading goes on behind it. -/
theorem string?_charText (c : Char) (n : Nat) (rest : List Char) :
    string? (n + 1) (charText c ++ rest) = (string? n rest).map fun (s, r) => (c :: s, r) := by
  unfold charText
  split
  case h_8 hquote hslash _ _ _ _ _ =>
    dsimp only
    split
    next hplain =>
      have hvisible : ¬ c.toNat < 32 := by simp at hplain; omega
      simp [string?, show c ≠ '"' from hquote, show c ≠ '\\' from hslash, hvisible]
    next =>
      split
      next hunit => exact string?_unit hunit n rest
      next hpair => exact string?_pair rfl rfl (Nat.le_of_not_lt hpair) n rest
  all_goals simp [string?, escaped?]

/-- A text within quotes is read back. -/
theorem string?_stringText (cs : List Char) {n : Nat} (hn : cs.length < n) (rest : List Char) :
    string? n (cs.flatMap charText ++ '"' :: rest) = some (cs, rest) := by
  induction cs generalizing n with
  | nil =>
    obtain ⟨n, rfl⟩ : ∃ m, n = m + 1 := ⟨n - 1, by simp at hn; omega⟩
    simp [string?]
  | cons c cs ih =>
    rw [List.length_cons] at hn
    obtain ⟨n, rfl⟩ : ∃ m, n = m + 1 := ⟨n - 1, by omega⟩
    rw [List.flatMap_cons, List.append_assoc, string?_charText, ih (by omega)]
    rfl

/-! ## Values -/

/-- A value of null, truth values and texts, of lists of such, and of records of such with distinct keys. -/
inductive Plain : Value → Prop
  | null : Plain .null
  | bool (b : Bool) : Plain (.bool b)
  | text (s : String) : Plain (.text s)
  | list {items : List Value} : (∀ v ∈ items, Plain v) → Plain (.list items)
  | record {fields : List (String × Value)} : (fields.map (·.1)).Nodup → (∀ p ∈ fields, Plain p.2) →
    Plain (.record fields)

/-- A value as it may have been read: of whole numbers that are not too long, and of records with distinct keys. -/
inductive Legible : Value → Prop
  | null : Legible .null
  | bool (b : Bool) : Legible (.bool b)
  | int {n : Int} : (Nat.toDigits 10 n.natAbs).length ≤ Number.maxDigits → Legible (.int n)
  | float (x : Float) : Legible (.float x)
  | text (s : String) : Legible (.text s)
  | list {items : List Value} : (∀ v ∈ items, Legible v) → Legible (.list items)
  | record {fields : List (String × Value)} : (fields.map (·.1)).Nodup → (∀ p ∈ fields, Legible p.2) →
    Legible (.record fields)

theorem Plain.legible {v : Value} (h : Plain v) : Legible v := by
  induction h with
  | null => exact .null
  | bool b => exact .bool b
  | text s => exact .text s
  | list _ ih => exact .list ih
  | record hkeys _ ih => exact .record hkeys ih

mutual

/-- What the text of a value is read as. Only the floating-point numbers in it may be others. -/
def reread : Value → Value
  | .null => .null
  | .bool b => .bool b
  | .int n => .int n
  | .float x => floatValue x
  | .text s => .text s
  | .list items => .list (rereadItems items)
  | .record fields => .record (rereadFields fields)
  | .shown s => .text s

/-- What the texts of items are read as. -/
def rereadItems : List Value → List Value
  | [] => []
  | v :: rest => reread v :: rereadItems rest

/-- What the texts of fields are read as. -/
def rereadFields : List (String × Value) → List (String × Value)
  | [] => []
  | (key, v) :: rest => (key, reread v) :: rereadFields rest

end

theorem rereadItems_eq (items : List Value) : rereadItems items = items.map reread := by
  induction items with
  | nil => rw [rereadItems, List.map_nil]
  | cons v rest ih => rw [rereadItems, ih, List.map_cons]

theorem rereadFields_eq (fields : List (String × Value)) :
    rereadFields fields = fields.map fun p => (p.1, reread p.2) := by
  induction fields with
  | nil => rw [rereadFields, List.map_nil]
  | cons p rest ih => rw [rereadFields, ih, List.map_cons]

/-- A value without numbers is read as itself. -/
theorem Plain.reread_eq {v : Value} (h : Plain v) : reread v = v := by
  induction h with
  | null | bool | text => rw [reread]
  | list _ ih =>
    rw [reread, rereadItems_eq, List.map_congr_left ih, List.map_id']
  | record _ _ ih =>
    have hsame : ∀ p ∈ _, (p.1, reread p.2) = p := fun p hp => Prod.ext rfl (ih p hp)
    rw [reread, rereadFields_eq, List.map_congr_left hsame, List.map_id']

/-- White space ends where a character that is none begins. -/
theorem skip_cons {c : Char} (h : isSpace c = false) (cs : List Char) : skip (c :: cs) = c :: cs := by
  simp [skip, h]

theorem skip_lineStart (depth : Nat) (cs : List Char) : skip ((lineStart depth).toList ++ cs) = skip cs := by
  have hspaces : ∀ k, skip (List.replicate k ' ' ++ cs) = skip cs := by
    intro k
    induction k with
    | zero => rfl
    | succ k ih => exact ih
  rw [lineStart, String.toList_ofList]
  exact hspaces (2 * depth)

theorem begins_ne {c : Char} (h : Begins c) : isSpace c = false ∧ c ≠ ']' ∧ c ≠ '\x7d' := by
  have hall : ∀ c ∈ Number.numeralChars, isSpace c = false ∧ c ≠ ']' ∧ c ≠ '\x7d' :=
    Number.forall_numeralChars (by decide)
  rcases h with h | rfl | rfl
  · exact hall c h
  · decide
  · decide

/-- The text of a value begins with a character that is no white space and closes nothing. -/
theorem valueText_head {v : Value} (h : Legible v) (depth : Nat) :
    ∃ c cs, (valueText depth v).toList = c :: cs ∧ isSpace c = false ∧ c ≠ ']' ∧ c ≠ '\x7d' := by
  cases h with
  | null => exact ⟨'n', _, by rw [valueText]; rfl, by decide⟩
  | bool b =>
    cases b
    · exact ⟨'f', _, by rw [valueText]; rfl, by decide⟩
    · exact ⟨'t', _, by rw [valueText]; rfl, by decide⟩
  | int =>
    obtain ⟨c, cs, hcs, hc⟩ := int_head _
    exact ⟨c, cs, by rw [valueText, hcs], begins_ne hc⟩
  | float x =>
    obtain ⟨c, cs, hcs, hc⟩ := float_head x
    exact ⟨c, cs, by rw [valueText, hcs], begins_ne hc⟩
  | text s => exact ⟨'"', _, by simp [valueText, stringText]; rfl, by decide⟩
  | list =>
    rw [valueText]
    split
    · exact ⟨'[', _, rfl, by decide⟩
    · exact ⟨'[', _, by simp [String.toList_append]; rfl, by decide⟩
  | record =>
    rw [valueText]
    split
    · exact ⟨'\x7b', _, rfl, by decide⟩
    · exact ⟨'\x7b', _, by simp [String.toList_append]; rfl, by decide⟩

/-- The text of a value is read back at every depth, whatever follows it that is no part of it. -/
def ReadsBack (v : Value) : Prop := ∀ (depth n : Nat) (rest : List Char), Ends rest →
  (valueText depth v).toList.length ≤ n → value? n ((valueText depth v).toList ++ rest) = .ok (reread v, rest)

theorem skip_valueText {v : Value} (h : Legible v) (depth : Nat) (rest : List Char) :
    skip ((valueText depth v).toList ++ rest) = (valueText depth v).toList ++ rest := by
  obtain ⟨c, cs, hcs, hspace, -⟩ := valueText_head h depth
  rw [hcs]
  exact skip_cons hspace _

theorem skip_lineStart_cons {c : Char} (h : isSpace c = false) (depth : Nat) (cs : List Char) :
    skip ((lineStart depth).toList ++ c :: cs) = c :: cs := (skip_lineStart depth _).trans (skip_cons h cs)

theorem ends_lineStart (depth : Nat) (cs : List Char) : Ends ((lineStart depth).toList ++ cs) := by
  rw [lineStart, String.toList_ofList]
  exact .cons (by decide) _

theorem ends_comma (cs : List Char) : Ends (",".toList ++ cs) := .cons (by decide) cs

theorem length_lineStart_pos (depth : Nat) : 0 < (lineStart depth).toList.length := by simp [lineStart]

theorem skip_comma (cs : List Char) : skip (",".toList ++ cs) = ',' :: cs := skip_cons (by decide) cs

section Items
variable {v : Value} {depth n : Nat} {tail rest : List Char}

/-- The last item of a list is read back. -/
theorem items?_last (hback : ReadsBack v) (htail : Ends tail) (hn : (valueText depth v).toList.length ≤ n)
    (hend : skip tail = ']' :: rest) :
    items? (n + 1) ((valueText depth v).toList ++ tail) = .ok ([reread v], rest) := by
  rw [items?, hback depth n tail htail hn]
  simp [bind, Except.bind, pure, Except.pure, hend]

/-- An item is read back before those that follow it. -/
theorem items?_more {more : List Char} {vs : List Value} (hback : ReadsBack v) (htail : Ends tail)
    (hn : (valueText depth v).toList.length ≤ n) (hcomma : skip tail = ',' :: more)
    (hmore : items? n (skip more) = .ok (vs, rest)) :
    items? (n + 1) ((valueText depth v).toList ++ tail) = .ok (reread v :: vs, rest) := by
  rw [items?, hback depth n tail htail hn]
  simp [bind, Except.bind, pure, Except.pure, hcomma, hmore]

end Items

/-- The items of a list are read back up to its end. -/
theorem items?_itemTexts (depth outer : Nat) {v : Value} {items : List Value} (hlegible : ∀ w ∈ v :: items, Legible w)
    (hback : ∀ w ∈ v :: items, ReadsBack w) {n : Nat}
    (hn : (",".intercalate (itemTexts depth (v :: items))).toList.length ≤ n) (rest : List Char) :
    items? n (skip ((",".intercalate (itemTexts depth (v :: items))).toList ++
      ((lineStart outer).toList ++ ']' :: rest))) = .ok ((v :: items).map reread, rest) := by
  have hpos := length_lineStart_pos depth
  induction items generalizing v n with
  | nil =>
    simp only [itemTexts, String.toList_intercalate, List.map_cons, List.map_nil, List.intercalate_singleton,
      String.toList_append, List.length_append, List.append_assoc] at hn ⊢
    obtain ⟨n, rfl⟩ : ∃ m, n = m + 1 := ⟨n - 1, by omega⟩
    rw [skip_lineStart, skip_valueText (hlegible v List.mem_cons_self)]
    exact items?_last (hback v List.mem_cons_self) (ends_lineStart outer _) (by omega)
      (skip_lineStart_cons (by decide) outer rest)
  | cons w items ih =>
    have hmore {m : Nat} := @ih w (fun x hx => hlegible x (List.mem_cons_of_mem _ hx))
      (fun x hx => hback x (List.mem_cons_of_mem _ hx)) m
    have hrest : itemTexts depth (w :: items) ≠ [] := by simp [itemTexts]
    have hcomma : ",".toList.length = 1 := rfl
    rw [itemTexts, String.intercalate_cons_of_ne_nil hrest] at hn ⊢
    generalize ",".intercalate (itemTexts depth (w :: items)) = more at hn hmore ⊢
    simp only [String.toList_append, List.length_append, List.append_assoc] at hn ⊢
    obtain ⟨n, rfl⟩ : ∃ m, n = m + 1 := ⟨n - 1, by omega⟩
    rw [skip_lineStart, skip_valueText (hlegible v List.mem_cons_self), List.map_cons]
    exact items?_more (hback v List.mem_cons_self) (ends_comma _) (by omega) (skip_comma _) (hmore (by omega))

theorem length_charText_pos (c : Char) : 1 ≤ (charText c).length := by
  unfold charText
  split
  all_goals try exact Nat.le_add_left 1 _
  dsimp only
  split
  · exact Nat.le_refl 1
  · split
    · exact Nat.le_add_left 1 _
    · exact Nat.le_add_left 1 _

/-- A text within quotes, read from behind its first quote. -/
theorem string?_quoted (s : String) (cs : List Char) :
    string? ((s.toList.flatMap charText ++ '"' :: cs).length + 1) (s.toList.flatMap charText ++ '"' :: cs) =
      some (s.toList, cs) := by
  apply string?_stringText
  have hlen : s.toList.length ≤ (s.toList.flatMap charText).length := by
    induction s.toList with
    | nil => exact Nat.le_refl 0
    | cons c cs ih =>
      have hc := length_charText_pos c
      rw [List.flatMap_cons, List.length_append, List.length_cons]
      omega
  rw [List.length_append]
  omega

section Fields
variable {key : String} {v : Value} {depth n : Nat} {tail rest : List Char}

/-- A field is read back, and what follows it decides how reading goes on. -/
theorem fields?_valueText (hlegible : Legible v) (hback : ReadsBack v) (htail : Ends tail)
    (hn : (valueText depth v).toList.length ≤ n) :
    fields? (n + 1) ((stringText key).toList ++ (": ".toList ++ ((valueText depth v).toList ++ tail))) =
      match skip tail with
      | '\x7d' :: rest => pure ([(key, reread v)], rest)
      | ',' :: rest => do
        let (fs, rest) ← fields? n (skip rest)
        pure ((key, reread v) :: fs, rest)
      | _ => throw .malformed := by
  have hcolon : skip (": ".toList ++ ((valueText depth v).toList ++ tail)) =
      ':' :: ' ' :: ((valueText depth v).toList ++ tail) := skip_cons (by decide) _
  have hspace : skip (' ' :: ((valueText depth v).toList ++ tail)) = (valueText depth v).toList ++ tail :=
    skip_valueText hlegible depth tail
  simp only [stringText, String.toList_ofList, List.cons_append, List.append_assoc, List.nil_append, fields?]
  rw [string?_quoted]
  simp only [pure_bind, hcolon, hspace, hback depth n tail htail hn, String.ofList_toList]
  rfl

theorem fields?_last (key : String) (depth : Nat) (hlegible : Legible v) (hback : ReadsBack v) (htail : Ends tail)
    (hn : (valueText depth v).toList.length ≤ n) (hend : skip tail = '\x7d' :: rest) :
    fields? (n + 1) ((stringText key).toList ++ (": ".toList ++ ((valueText depth v).toList ++ tail))) =
      .ok ([(key, reread v)], rest) := by
  rw [fields?_valueText hlegible hback htail hn, hend]
  rfl

theorem fields?_more {more : List Char} {fs : List (String × Value)} (hlegible : Legible v) (hback : ReadsBack v)
    (htail : Ends tail) (hn : (valueText depth v).toList.length ≤ n) (hcomma : skip tail = ',' :: more)
    (hmore : fields? n (skip more) = .ok (fs, rest)) :
    fields? (n + 1) ((stringText key).toList ++ (": ".toList ++ ((valueText depth v).toList ++ tail))) =
      .ok ((key, reread v) :: fs, rest) := by
  rw [fields?_valueText hlegible hback htail hn, hcomma]
  simp only [hmore]
  rfl

end Fields

/-- The fields of a record are read back up to its end. -/
theorem fields?_fieldTexts (depth outer : Nat) {p : String × Value} {fields : List (String × Value)}
    (hlegible : ∀ q ∈ p :: fields, Legible q.2) (hback : ∀ q ∈ p :: fields, ReadsBack q.2) {n : Nat}
    (hn : (",".intercalate (fieldTexts depth (p :: fields))).toList.length ≤ n) (rest : List Char) :
    fields? n (skip ((",".intercalate (fieldTexts depth (p :: fields))).toList ++
      ((lineStart outer).toList ++ '\x7d' :: rest))) =
      .ok ((p :: fields).map fun q => (q.1, reread q.2), rest) := by
  have hpos := length_lineStart_pos depth
  have hquote (key : String) (cs : List Char) :
      skip ((stringText key).toList ++ cs) = (stringText key).toList ++ cs := by
    rw [stringText, String.toList_ofList]
    exact skip_cons (by decide) _
  induction fields generalizing p n with
  | nil =>
    simp only [fieldTexts, String.toList_intercalate, List.map_cons, List.map_nil, List.intercalate_singleton,
      String.toList_append, List.length_append, List.append_assoc] at hn ⊢
    obtain ⟨n, rfl⟩ : ∃ m, n = m + 1 := ⟨n - 1, by omega⟩
    rw [skip_lineStart, hquote]
    exact fields?_last p.1 depth (hlegible p List.mem_cons_self) (hback p List.mem_cons_self) (ends_lineStart outer _)
      (by omega)
      (skip_lineStart_cons (by decide) outer rest)
  | cons q fields ih =>
    have hmore {m : Nat} := @ih q (fun x hx => hlegible x (List.mem_cons_of_mem _ hx))
      (fun x hx => hback x (List.mem_cons_of_mem _ hx)) m
    have hrest : fieldTexts depth (q :: fields) ≠ [] := by simp [fieldTexts]
    have hcomma : ",".toList.length = 1 := rfl
    rw [fieldTexts, String.intercalate_cons_of_ne_nil hrest] at hn ⊢
    generalize ",".intercalate (fieldTexts depth (q :: fields)) = more at hn hmore ⊢
    simp only [String.toList_append, List.length_append, List.append_assoc] at hn ⊢
    obtain ⟨n, rfl⟩ : ∃ m, n = m + 1 := ⟨n - 1, by omega⟩
    rw [skip_lineStart, hquote, List.map_cons]
    exact fields?_more (hlegible p List.mem_cons_self) (hback p List.mem_cons_self) (ends_comma _) (by omega)
      (skip_comma _) (hmore (by omega))

/-- As a value has a text, reading it takes a step. -/
theorem ReadsBack.of_succ {v : Value} (h : Legible v) (hread : ∀ (depth n : Nat) (rest : List Char), Ends rest →
    (valueText depth v).toList.length ≤ n + 1 →
    value? (n + 1) ((valueText depth v).toList ++ rest) = .ok (reread v, rest)) : ReadsBack v := by
  intro depth n rest hrest hn
  obtain ⟨c, cs, hcs, -⟩ := valueText_head h depth
  have hpos : 0 < (valueText depth v).toList.length := by simp [hcs]
  obtain ⟨n, rfl⟩ : ∃ m, n = m + 1 := ⟨n - 1, by omega⟩
  exact hread depth n rest hrest hn

theorem readsBack_null : ReadsBack .null := by
  apply ReadsBack.of_succ .null
  intro depth n rest _ _
  rw [valueText, reread]
  show value? (n + 1) ('n' :: 'u' :: 'l' :: 'l' :: rest) = _
  simp [value?, scalar?, literals, startsWith]
  rfl

theorem readsBack_bool (b : Bool) : ReadsBack (.bool b) := by
  apply ReadsBack.of_succ (.bool b)
  intro depth n rest _ _
  rw [valueText, reread]
  cases b with
  | false =>
    show value? (n + 1) ('f' :: 'a' :: 'l' :: 's' :: 'e' :: rest) = _
    simp [value?, scalar?, literals, startsWith]
    rfl
  | true =>
    show value? (n + 1) ('t' :: 'r' :: 'u' :: 'e' :: rest) = _
    simp [value?, scalar?, literals, startsWith]
    rfl

theorem readsBack_text (s : String) : ReadsBack (.text s) := by
  apply ReadsBack.of_succ (.text s)
  intro depth n rest _ _
  rw [reread, valueText, stringText, String.toList_ofList]
  simp only [List.cons_append, List.append_assoc, List.nil_append, value?]
  rw [string?_quoted]
  simp only [String.ofList_toList]

/-- Joined texts begin with the first of them. -/
theorem exists_intercalate_eq (x : String) (xs : List String) :
    ∃ more, (",".intercalate (x :: xs)).toList = x.toList ++ more := by
  cases xs with
  | nil => exact ⟨[], by simp⟩
  | cons y ys =>
    rw [String.intercalate_cons_of_ne_nil (List.cons_ne_nil y ys), String.toList_append, String.toList_append,
      List.append_assoc]
    exact ⟨_, rfl⟩

/-- A list whose items are read back is. -/
theorem readsBack_list {items : List Value} (hlegible : ∀ v ∈ items, Legible v) (hback : ∀ v ∈ items, ReadsBack v) :
    ReadsBack (.list items) := by
  apply ReadsBack.of_succ (.list hlegible)
  intro depth n rest _ hn
  rw [reread, rereadItems_eq]
  cases items with
  | nil =>
    rw [valueText, List.isEmpty_nil, if_pos rfl]
    show value? (n + 1) ('[' :: ']' :: rest) = _
    simp [value?, skip_cons, isSpace]
  | cons v items =>
    rw [valueText, List.isEmpty_cons, if_neg Bool.false_ne_true] at hn ⊢
    have hv := hlegible v List.mem_cons_self
    have hitems := items?_itemTexts (depth + 1) depth hlegible hback (n := n)
    obtain ⟨more, hmore⟩ := exists_intercalate_eq (lineStart (depth + 1) ++ valueText (depth + 1) v)
      (itemTexts (depth + 1) items)
    rw [itemTexts] at hn hitems ⊢
    simp only [String.toList_append, List.length_append, List.append_assoc] at hn hmore ⊢
    have hopen : "[".toList.length = 1 := rfl
    -- the first item does not close the list
    obtain ⟨c, cs, hcs, hspace, hclose, -⟩ := valueText_head hv (depth + 1)
    have hhead (tail : List Char) : ∃ cs, skip ((",".intercalate ((lineStart (depth + 1) ++ valueText (depth + 1) v) ::
        itemTexts (depth + 1) items)).toList ++ tail) = c :: cs := by
      rw [hmore, List.append_assoc, List.append_assoc, skip_lineStart, skip_valueText hv, hcs]
      exact ⟨_, rfl⟩
    generalize ",".intercalate _ = body at hn hitems hhead ⊢
    obtain ⟨cs, hskip⟩ := hhead ((lineStart depth).toList ++ ']' :: rest)
    have hread := hitems (by omega) rest
    rw [hskip] at hread
    show value? (n + 1) ('[' :: (body.toList ++ ((lineStart depth).toList ++ ']' :: rest))) = _
    rw [value?, hskip]
    split
    next heq => exact absurd (List.cons.inj heq).1 hclose
    next => rw [hread]; rfl

/-- A record whose fields are read back is. -/
theorem readsBack_record {fields : List (String × Value)} (hkeys : (fields.map (·.1)).Nodup)
    (hlegible : ∀ p ∈ fields, Legible p.2) (hback : ∀ p ∈ fields, ReadsBack p.2) : ReadsBack (.record fields) := by
  apply ReadsBack.of_succ (.record hkeys hlegible)
  intro depth n rest _ hn
  rw [reread, rereadFields_eq]
  cases fields with
  | nil =>
    rw [valueText, List.isEmpty_nil, if_pos rfl]
    show value? (n + 1) ('\x7b' :: '\x7d' :: rest) = _
    simp [value?, skip_cons, isSpace]
  | cons p fields =>
    rw [valueText, List.isEmpty_cons, if_neg Bool.false_ne_true] at hn ⊢
    have hfields := fields?_fieldTexts (depth + 1) depth hlegible hback (n := n)
    obtain ⟨more, hmore⟩ := exists_intercalate_eq
      (lineStart (depth + 1) ++ stringText p.1 ++ ": " ++ valueText (depth + 1) p.2) (fieldTexts (depth + 1) fields)
    rw [fieldTexts] at hn hfields ⊢
    simp only [String.toList_append, List.length_append, List.append_assoc] at hn hmore ⊢
    have hopen : "\x7b".toList.length = 1 := rfl
    -- the first key does not close the record
    have hhead (tail : List Char) : ∃ cs, skip ((",".intercalate ((lineStart (depth + 1) ++ stringText p.1 ++ ": " ++
        valueText (depth + 1) p.2) :: fieldTexts (depth + 1) fields)).toList ++ tail) = '"' :: cs := by
      rw [hmore, List.append_assoc, List.append_assoc, skip_lineStart, stringText, String.toList_ofList]
      exact ⟨_, skip_cons (by decide) _⟩
    generalize ",".intercalate _ = body at hn hfields hhead ⊢
    obtain ⟨cs, hskip⟩ := hhead ((lineStart depth).toList ++ '\x7d' :: rest)
    have hread := hfields (by omega) rest
    rw [hskip] at hread
    show value? (n + 1) ('\x7b' :: (body.toList ++ ((lineStart depth).toList ++ '\x7d' :: rest))) = _
    rw [value?, hskip]
    split
    next heq => exact absurd (List.cons.inj heq).1 (by decide)
    next =>
      rw [hread]
      have hsame : (((p :: fields).map fun q => (q.1, reread q.2)).map (·.1)).Nodup := by rwa [List.map_map]
      simp only [Except.map, ofPairs_eq hsame]

/-- A value that is a number, at any depth. -/
theorem readsBack_scalar {v : Value} (h : Legible v)
    (hhead : ∀ depth, ∃ c cs, (valueText depth v).toList = c :: cs ∧ Begins c)
    (hread : ∀ depth rest, Ends rest → scalar? ((valueText depth v).toList ++ rest) = .ok (reread v, rest)) :
    ReadsBack v := by
  apply ReadsBack.of_succ h
  intro depth n rest hrest _
  rw [← hread depth rest hrest]
  obtain ⟨c, cs, hcs, hc⟩ := hhead depth
  have hall : ∀ c ∈ Number.numeralChars, c ≠ '"' ∧ c ≠ '[' ∧ c ≠ '\x7b' :=
    Number.forall_numeralChars (by decide)
  have hne : c ≠ '"' ∧ c ≠ '[' ∧ c ≠ '\x7b' := by
    rcases hc with hc | rfl | rfl
    · exact hall c hc
    · decide
    · decide
  rw [hcs, List.cons_append, value?]
  · exact fun _ heq => hne.1 (List.cons.inj heq).1
  · exact fun _ heq => hne.2.1 (List.cons.inj heq).1
  · exact fun _ heq => hne.2.2 (List.cons.inj heq).1

theorem readsBack_int {n : Int} (h : (Nat.toDigits 10 n.natAbs).length ≤ Number.maxDigits) : ReadsBack (.int n) := by
  refine readsBack_scalar (.int h) (fun depth => ?_) fun depth rest hrest => ?_
  · rw [valueText]
    exact int_head n
  · rw [valueText, reread, scalar?_int h hrest]

theorem readsBack_float (x : Float) : ReadsBack (.float x) := by
  refine readsBack_scalar (.float x) (fun depth => ?_) fun depth rest hrest => ?_
  · rw [valueText]
    exact float_head x
  · rw [valueText, reread, scalar?_float x hrest]

/-- A value that may have been read is read back. -/
theorem readsBack {v : Value} (h : Legible v) : ReadsBack v := by
  induction h with
  | null => exact readsBack_null
  | bool b => exact readsBack_bool b
  | int hlength => exact readsBack_int hlength
  | float x => exact readsBack_float x
  | text s => exact readsBack_text s
  | list hitems ih => exact readsBack_list hitems ih
  | record hkeys hfields ih => exact readsBack_record hkeys hfields ih

/-- What is written is read back. -/
theorem read_write_legible {v : Value} (h : Legible v) : read (write v) = .ok (reread v) := by
  obtain ⟨c, cs, hcs, hspace, -⟩ := valueText_head h 0
  have hback := readsBack h 0 ((valueText 0 v).toList.length + 1) [] .nil (by omega)
  rw [List.append_nil] at hback
  unfold read write
  have hskip : skip (valueText 0 v).toList = (valueText 0 v).toList := by rw [hcs, skip_cons hspace]
  dsimp only
  rw [hskip, hback]
  rfl

/-- A value without numbers is read back as it is. -/
theorem read_write {v : Value} (h : Plain v) : read (write v) = .ok v := by
  rw [read_write_legible h.legible, h.reread_eq]

/-- A record of one field may stand on one line. -/
theorem read_oneField {v : Value} (h : Plain v) (key : String) :
    read (String.ofList ('\x7b' :: ((stringText key).toList ++ (": ".toList ++ ((valueText 0 v).toList ++ ['\x7d']))))) =
      .ok (.record [(key, v)]) := by
  have hfields := fields?_last key 0 h.legible (readsBack h.legible) (.cons (by decide) [])
    (n := ((stringText key).toList ++ (": ".toList ++ ((valueText 0 v).toList ++ ['\x7d']))).length)
    (by simp only [List.length_append]; omega) (skip_cons (by decide) [])
  obtain ⟨more, hmore⟩ : ∃ more, (stringText key).toList ++ (": ".toList ++ ((valueText 0 v).toList ++ ['\x7d'])) =
      '"' :: more := by
    rw [stringText, String.toList_ofList]
    exact ⟨_, rfl⟩
  rw [h.reread_eq, hmore] at hfields
  rw [hmore]
  have hquote : skip ('"' :: more) = '"' :: more := skip_cons (by decide) more
  have hopen : skip ('\x7b' :: '"' :: more) = '\x7b' :: '"' :: more := skip_cons (by decide) _
  unfold read
  rw [String.toList_ofList]
  dsimp only
  rw [hopen, value?, hquote]
  split
  next heq => exact absurd (List.cons.inj heq).1 (by decide)
  next =>
    rw [List.length_cons, hfields]
    rfl

end WebClip.Json
