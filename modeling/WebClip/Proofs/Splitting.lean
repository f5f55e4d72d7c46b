import WebClip.Text.Blank
/-!
# Splitting at a character and at the ends of lines

A text cut at the first occurrence of a character, and split at all of them. Pieces without the character that are put
together with it are told apart again, and a part of the text without it is a part of one piece.

A text without carriage returns is its first line, the end of that line, and what is behind it. So each of its lines
stands behind the text that the lines before it are of.
-/

namespace WebClip.Text

theorem cutAt_append {c : Char} {front : List Char} (h : c ∉ front) (back : List Char) :
    cutAt c (front ++ c :: back) = (front, some back) := by
  induction front with
  | nil => rw [List.nil_append, cutAt, beq_self_eq_true, if_pos rfl]
  | cons d rest ih =>
    obtain ⟨hd, hrest⟩ := not_or.1 (mt List.mem_cons.2 h)
    have hne : (d == c) = false := beq_false_of_ne (Ne.symm hd)
    rw [List.cons_append, cutAt, hne, ih hrest]
    rfl

/-- There is always a first piece, to which the next character in front belongs. -/
theorem exists_splitOn (c : Char) (cs : List Char) : ∃ piece rest, splitOn c cs = piece :: rest := by
  cases cs with
  | nil => exact ⟨[], [], rfl⟩
  | cons d rest =>
    rw [splitOn, List.foldr_cons]
    split
    · exact ⟨_, _, rfl⟩
    · split <;> exact ⟨_, _, rfl⟩

theorem splitOn_cons_self (c : Char) (cs : List Char) : splitOn c (c :: cs) = [] :: splitOn c cs := by
  obtain ⟨piece, rest, hcs⟩ := exists_splitOn c cs
  rw [hcs, splitOn, List.foldr_cons, ← splitOn, hcs]
  simp only [beq_self_eq_true, if_true]

theorem splitOn_cons_of_ne {c d : Char} (h : c ≠ d) {cs piece : List Char} {rest : List (List Char)}
    (hcs : splitOn c cs = piece :: rest) : splitOn c (d :: cs) = (d :: piece) :: rest := by
  have hne : (d == c) = false := beq_false_of_ne h.symm
  rw [splitOn, List.foldr_cons, ← splitOn, hcs]
  simp only [hne, Bool.false_eq_true, if_false]

theorem splitOn_of_notMem {c : Char} {cs : List Char} (h : c ∉ cs) : splitOn c cs = [cs] := by
  induction cs with
  | nil => rfl
  | cons d rest ih =>
    obtain ⟨hd, hrest⟩ := not_or.1 (mt List.mem_cons.2 h)
    exact splitOn_cons_of_ne hd (ih hrest)

/-- A text is split on both sides of the character by itself. -/
theorem splitOn_append_cons (c : Char) (front back : List Char) :
    splitOn c (front ++ c :: back) = splitOn c front ++ splitOn c back := by
  induction front with
  | nil => exact splitOn_cons_self c back
  | cons d rest ih =>
    by_cases hd : c = d
    · subst hd
      rw [List.cons_append, splitOn_cons_self, splitOn_cons_self, ih, List.cons_append]
    · obtain ⟨piece, others, hrest⟩ := exists_splitOn c rest
      rw [hrest, List.cons_append] at ih
      rw [List.cons_append, splitOn_cons_of_ne hd ih, splitOn_cons_of_ne hd hrest, List.cons_append]

theorem splitOn_append {c : Char} {front : List Char} (h : c ∉ front) (back : List Char) :
    splitOn c (front ++ c :: back) = front :: splitOn c back := by
  rw [splitOn_append_cons, splitOn_of_notMem h, List.singleton_append]

/-- Pieces put together with a character that none of them has are told apart again. -/
theorem splitOn_intercalate {c : Char} {piece : List Char} {pieces : List (List Char)}
    (h : ∀ p ∈ piece :: pieces, c ∉ p) : splitOn c ([c].intercalate (piece :: pieces)) = piece :: pieces := by
  induction pieces generalizing piece with
  | nil =>
    rw [List.intercalate_singleton]
    exact splitOn_of_notMem (h piece List.mem_cons_self)
  | cons next pieces ih =>
    obtain ⟨hpiece, hpieces⟩ := List.forall_mem_cons.1 h
    rw [List.intercalate_cons_cons, List.append_assoc, List.singleton_append, splitOn_append hpiece, ih hpieces]

theorem notMem_intercalate {c d : Char} (hd : c ≠ d) {pieces : List (List Char)} (h : ∀ p ∈ pieces, c ∉ p) :
    c ∉ [d].intercalate pieces := by
  induction pieces with
  | nil => simp
  | cons piece pieces ih =>
    obtain ⟨hpiece, hpieces⟩ := List.forall_mem_cons.1 h
    cases pieces with
    | nil => rwa [List.intercalate_singleton]
    | cons next pieces =>
      rw [List.intercalate_cons_cons]
      simp [hpiece, hd, ih hpieces]

/-- No piece has the character that it was split at. -/
theorem notMem_of_mem_splitOn {c : Char} {cs piece : List Char} (h : piece ∈ splitOn c cs) : c ∉ piece := by
  induction cs generalizing piece with
  | nil =>
    obtain rfl := List.mem_singleton.1 h
    exact List.not_mem_nil
  | cons d rest ih =>
    obtain ⟨first, others, hrest⟩ := exists_splitOn c rest
    by_cases hd : c = d
    · subst hd
      rw [splitOn_cons_self, List.mem_cons] at h
      rcases h with rfl | h
      · exact List.not_mem_nil
      · exact ih h
    · rw [splitOn_cons_of_ne hd hrest, List.mem_cons] at h
      rcases h with rfl | h
      · have hfirst : c ∉ first := ih (by rw [hrest]; exact List.mem_cons_self)
        exact fun hc => (List.mem_cons.1 hc).elim hd hfirst
      · exact ih (by rw [hrest]; exact List.mem_cons_of_mem first h)

/-- The pieces with the character behind each of them are the text with the character behind it. -/
theorem flatMap_splitOn (c : Char) (cs : List Char) : (splitOn c cs).flatMap (· ++ [c]) = cs ++ [c] := by
  induction cs with
  | nil => rfl
  | cons d rest ih =>
    by_cases hd : c = d
    · subst hd
      rw [splitOn_cons_self, List.flatMap_cons, ih]
      rfl
    · obtain ⟨piece, others, hrest⟩ := exists_splitOn c rest
      rw [hrest, List.flatMap_cons] at ih
      rw [splitOn_cons_of_ne hd hrest, List.flatMap_cons, List.cons_append, List.cons_append, ih]
      rfl

/-- A character that is in a text has a last place in it. -/
theorem eq_append_cons_last {c : Char} {cs : List Char} (h : c ∈ cs) :
    ∃ front back, cs = front ++ c :: back ∧ c ∉ back := by
  obtain ⟨back, front, hreverse, hback⟩ := List.eq_append_cons_of_mem (List.mem_reverse.2 h)
  refine ⟨front.reverse, back.reverse, ?_, by simpa using hback⟩
  simpa using congrArg List.reverse hreverse

/-- A text is whole pieces, which no text behind it changes, and one that is not ended. -/
theorem exists_lastPiece (c : Char) (front : List Char) :
    ∃ pieces last, (∀ back, splitOn c (front ++ back) = pieces ++ splitOn c (last ++ back)) ∧ c ∉ last ∧
      front = pieces.flatMap (· ++ [c]) ++ last := by
  by_cases h : c ∈ front
  · obtain ⟨start, last, rfl, hlast⟩ := eq_append_cons_last h
    refine ⟨splitOn c start, last, fun back => ?_, hlast, ?_⟩
    · rw [List.append_assoc, List.cons_append, splitOn_append_cons]
    · rw [flatMap_splitOn, List.append_assoc, List.singleton_append]
  · exact ⟨[], front, fun _ => rfl, h, rfl⟩

/-- The start of a text ends the piece before it, and what is behind that is split by itself. -/
theorem exists_firstPiece (c : Char) (back : List Char) :
    ∃ first pieces, (∀ front, c ∉ front → splitOn c (front ++ back) = (front ++ first) :: pieces) ∧
      first <+: back := by
  by_cases h : c ∈ back
  · obtain ⟨first, rest, rfl, hfirst⟩ := List.eq_append_cons_of_mem h
    refine ⟨first, splitOn c rest, fun front hfront => ?_, List.prefix_append ..⟩
    rw [← List.append_assoc, splitOn_append (by simp [hfront, hfirst])]
  · exact ⟨back, [], fun front hfront => splitOn_of_notMem (by simp [hfront, h]), List.prefix_rfl⟩

/-- A part of a text without the character is a part of one of the pieces. -/
theorem splitOn_around {c : Char} {part : List Char} (h : c ∉ part) (before after : List Char) :
    ∃ front last first back, splitOn c (before ++ (part ++ after)) = front ++ (last ++ (part ++ first)) :: back ∧
      before = front.flatMap (· ++ [c]) ++ last ∧ first <+: after := by
  obtain ⟨front, last, hlast, hnotMem, hbefore⟩ := exists_lastPiece c before
  obtain ⟨first, back, hfirst, hprefix⟩ := exists_firstPiece c after
  refine ⟨front, last, first, back, ?_, hbefore, hprefix⟩
  rw [hlast, ← List.append_assoc last, hfirst (last ++ part) (by simp [hnotMem, h]), List.append_assoc]

/-! ## Lines -/

theorem notMem_unifyNewlines (cs : List Char) : '\r' ∉ unifyNewlines cs := by
  fun_induction unifyNewlines cs with
  | case1 => exact List.not_mem_nil
  | case2 rest ih => simp [ih]
  | case3 rest _ ih => simp [ih]
  | case4 c rest _ hc ih => simpa [ih] using fun h => hc h.symm

theorem unifyNewlines_of_notMem {cs : List Char} (h : '\r' ∉ cs) : unifyNewlines cs = cs := by
  fun_induction unifyNewlines cs with
  | case1 => rfl
  | case2 rest ih => exact absurd List.mem_cons_self h
  | case3 rest _ ih => exact absurd List.mem_cons_self h
  | case4 c rest _ _ ih => rw [ih (List.not_mem_of_not_mem_cons h)]

section
variable {line : List Char} {c e : Char}

theorem ne_of_isLineEnd (hc : isLineEnd c = false) : c ≠ '\r' := by
  rintro rfl
  exact absurd hc (by decide)

/-- A step of the scan at a character that is no carriage return. -/
theorem go_cons (hreturn : c ≠ '\r') (kept : List Char) (d : Char) (rest : List Char) :
    lines.go kept c (d :: rest) =
      if isLineEnd c = true then kept.reverse :: lines.go [] d rest else lines.go (c :: kept) d rest := by
  have hpair : ¬(c == '\r' && d == '\n') = true := by simp [hreturn]
  rw [lines.go.eq_def]
  exact if_neg hpair

/-- By the characters of the line, which join those of it that are kept already. -/
theorem go_append (hline : ∀ c ∈ line, isLineEnd c = false) (he : isLineEnd e = true) (hreturn : e ≠ '\r')
    {kept rest tail : List Char} (hcons : line ++ e :: rest = c :: tail) :
    lines.go kept c tail = (kept.reverse ++ line) :: lines rest := by
  induction line generalizing kept c tail with
  | nil =>
    obtain ⟨rfl, rfl⟩ := List.cons.inj hcons
    rw [List.append_nil]
    cases rest with
    | nil => rw [lines.go, if_pos he, lines]
    | cons d rest => rw [go_cons hreturn, if_pos he, lines]
  | cons f line ih =>
    obtain ⟨rfl, rfl⟩ := List.cons.inj hcons
    obtain ⟨hf, hline⟩ := List.forall_mem_cons.1 hline
    obtain ⟨d, tail, htail⟩ :=
      List.exists_cons_of_ne_nil (List.append_ne_nil_of_right_ne_nil line (List.cons_ne_nil e rest))
    rw [List.append_eq, htail, go_cons (ne_of_isLineEnd hf), if_neg (ne_true_of_eq_false hf), ih hline htail,
      List.reverse_cons, List.append_assoc, List.singleton_append]

/-- The first line of a text and the lines behind its end. -/
theorem lines_append (hline : ∀ c ∈ line, isLineEnd c = false) (he : isLineEnd e = true) (hreturn : e ≠ '\r')
    (rest : List Char) : lines (line ++ e :: rest) = line :: lines rest := by
  obtain ⟨c, tail, htext⟩ :=
    List.exists_cons_of_ne_nil (List.append_ne_nil_of_right_ne_nil line (List.cons_ne_nil e rest))
  rw [htext, lines, go_append hline he hreturn htext]
  rfl

theorem go_of_forall (hc : isLineEnd c = false) (hline : ∀ c ∈ line, isLineEnd c = false) (kept : List Char) :
    lines.go kept c line = [kept.reverse ++ c :: line] := by
  induction line generalizing kept c with
  | nil => rw [lines.go, if_neg (ne_true_of_eq_false hc), List.reverse_cons]
  | cons d line ih =>
    obtain ⟨hd, hline⟩ := List.forall_mem_cons.1 hline
    rw [go_cons (ne_of_isLineEnd hc), if_neg (ne_true_of_eq_false hc), ih hd hline, List.reverse_cons,
      List.append_assoc, List.singleton_append]

/-- A line without an end. -/
theorem lines_of_forall (hline : ∀ c ∈ line, isLineEnd c = false) (hne : line ≠ []) : lines line = [line] := by
  obtain ⟨c, rest, rfl⟩ := List.exists_cons_of_ne_nil hne
  obtain ⟨hc, hrest⟩ := List.forall_mem_cons.1 hline
  exact go_of_forall hc hrest []

/-- A text without carriage returns has no line, or is one, or begins with one and its end. -/
theorem lines_cases {text : List Char} (hreturn : '\r' ∉ text) :
    lines text = [] ∨ (lines text = [text] ∧ ∀ c ∈ text, isLineEnd c = false) ∨
      ∃ line e rest, text = line ++ e :: rest ∧ lines text = line :: lines rest ∧ isLineEnd e = true ∧
        (∀ c ∈ line, isLineEnd c = false) ∧ '\r' ∉ rest := by
  cases h : text.find? isLineEnd with
  | none =>
    have htext : ∀ c ∈ text, isLineEnd c = false := fun c hc => eq_false_of_ne_true (List.find?_eq_none.1 h c hc)
    by_cases hne : text = []
    · exact .inl (by rw [hne, lines])
    · exact .inr (.inl ⟨lines_of_forall htext hne, htext⟩)
  | some e =>
    obtain ⟨he, line, rest, rfl, hline⟩ := List.find?_eq_some_iff_append.1 h
    have hends : ∀ c ∈ line, isLineEnd c = false := fun c hc => by simpa using hline c hc
    have he' : e ≠ '\r' := fun h => hreturn (by simp [h])
    exact .inr (.inr ⟨line, e, rest, rfl, lines_append hends he he' rest, he, hends, fun h => hreturn (by simp [h])⟩)

end

/-- Whether what is between two texts is a line of its own: the first of them ends a line, and the second begins with
the end of one. -/
structure Parts (before after : List Char) : Prop where
  begins : ∀ c ∈ before.getLast?, isLineEnd c = true
  ends : ∀ c ∈ after.head?, isLineEnd c = true

theorem Parts.first {e : Char} (he : isLineEnd e = true) (rest : List Char) : Parts [] (e :: rest) := by
  refine ⟨nofun, fun c hc => ?_⟩
  obtain rfl : e = c := by simpa using hc
  exact he

theorem Parts.behind {before after : List Char} (h : Parts before after) {e : Char} (he : isLineEnd e = true)
    (line : List Char) : Parts (line ++ e :: before) after := by
  refine ⟨fun c hc => ?_, h.ends⟩
  rw [List.getLast?_append, List.getLast?_cons] at hc
  cases hlast : before.getLast? with
  | none =>
    obtain rfl : e = c := by simpa [hlast] using hc
    exact he
  | some d =>
    obtain rfl : d = c := by simpa [hlast] using hc
    exact h.begins d hlast

theorem Parts.mono {before after last first : List Char} (h : Parts before after) (hlast : last <:+ before)
    (hfirst : first <+: after) : Parts last first := by
  obtain ⟨start, rfl⟩ := hlast
  obtain ⟨rest, rfl⟩ := hfirst
  refine ⟨fun c hc => h.begins c ?_, fun c hc => h.ends c ?_⟩
  · rw [List.getLast?_append, Option.mem_def.1 hc]
    rfl
  · rw [List.head?_append, Option.mem_def.1 hc]
    rfl

/-- Where a line is in a text: behind the text that the lines before it are of. -/
theorem exists_of_lines_eq {text line : List Char} {front back : List (List Char)} (hreturn : '\r' ∉ text)
    (h : lines text = front ++ line :: back) :
    ∃ before after, text = before ++ (line ++ after) ∧ lines before = front ∧ Parts before after ∧
      ∀ c ∈ line, isLineEnd c = false := by
  induction front generalizing text with
  | nil =>
    rcases lines_cases hreturn with hnone | ⟨hone, hline⟩ | ⟨own, e, rest, rfl, hall, he, hown, -⟩
    · cases hnone.symm.trans h
    · obtain ⟨rfl, -⟩ := List.cons.inj (hone.symm.trans h)
      exact ⟨[], [], by simp, rfl, ⟨nofun, nofun⟩, hline⟩
    · obtain ⟨rfl, -⟩ := List.cons.inj (hall.symm.trans h)
      exact ⟨[], e :: rest, rfl, rfl, .first he rest, hown⟩
  | cons first front ih =>
    rcases lines_cases hreturn with hnone | ⟨hone, -⟩ | ⟨own, e, rest, rfl, hall, he, hown, hrest⟩
    · cases hnone.symm.trans h
    · have hlength := congrArg List.length (hone.symm.trans h)
      simp at hlength
    · obtain ⟨rfl, hlater⟩ := List.cons.inj (hall.symm.trans h)
      obtain ⟨before, after, rfl, hbefore, hparts, hline⟩ := ih hrest hlater
      have he' : e ≠ '\r' := fun h => hreturn (by simp [h])
      refine ⟨own ++ e :: before, after, by simp, ?_, hparts.behind he own, hline⟩
      rw [lines_append hown he he', hbefore]

end WebClip.Text
