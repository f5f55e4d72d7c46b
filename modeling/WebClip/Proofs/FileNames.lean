import WebClip.MediaType
import WebClip.Proofs.Bindings
import WebClip.Proofs.Splitting
/-!
# Names of uploaded files

A file name taken from a URL has a point in it, and no more is asked of it. So it is short and free of slashes, but it
may end with its last point or begin with its only one, and then it has no extension. A name made of a digest always
has one.
-/

namespace WebClip.MediaType

open WebClip.Text

/-- A name that ends in an extension: there is something before the last point and something behind it. -/
def HasExtension (name : List Char) : Prop :=
  ∃ stem ending, stem ≠ [] ∧ ending ≠ [] ∧ '.' ∉ ending ∧ name = stem ++ '.' :: ending

/-- A name is free of slashes and neither empty nor too long. -/
def IsFileName (name : List Char) : Prop := 0 < name.length ∧ name.length ≤ 100 ∧ '/' ∉ name

/-! ## Extensions -/

/-- There is an extension where a point stands behind the first character and none is the last one. -/
theorem hasExtension_iff {name : List Char} : HasExtension name ↔ '.' ∈ name.drop 1 ∧ name.getLast? ≠ some '.' := by
  constructor
  · rintro ⟨stem, ending, hstem, hending, hpoint, rfl⟩
    obtain ⟨c, stem, rfl⟩ := List.exists_cons_of_ne_nil hstem
    refine ⟨by simp, fun hlast => hpoint ?_⟩
    have hbehind : (c :: stem ++ '.' :: ending).getLast? = ending.getLast? := by
      obtain ⟨d, ending, rfl⟩ := List.exists_cons_of_ne_nil hending
      rw [List.getLast?_append_of_ne_nil _ (List.cons_ne_nil _ _), List.getLast?_cons_cons]
    exact List.mem_of_getLast? (hbehind ▸ hlast)
  · rintro ⟨hpoint, hlast⟩
    cases name with
    | nil => exact (List.not_mem_nil hpoint).elim
    | cons c rest =>
      rw [List.drop_one, List.tail_cons] at hpoint
      obtain ⟨front, back, rfl, hback⟩ := eq_append_cons_last hpoint
      refine ⟨c :: front, back, List.cons_ne_nil _ _, fun hnone => hlast ?_, hback, rfl⟩
      rw [hnone, ← List.cons_append, List.getLast?_concat]

theorem digitChar_ne : ∀ d < 16, Nat.digitChar d ≠ '.' ∧ Nat.digitChar d ≠ '/' := by decide

theorem notMem_hexDigits (n x : Nat) : '.' ∉ Sha256.hexDigits n x ∧ '/' ∉ Sha256.hexDigits n x := by
  induction n generalizing x with
  | zero => exact ⟨List.not_mem_nil, List.not_mem_nil⟩
  | succ n ih =>
    obtain ⟨hpoint, hslash⟩ := ih (x / 16)
    obtain ⟨hpoint', hslash'⟩ := digitChar_ne (x % 16) (Nat.mod_lt x (by decide))
    rw [Sha256.hexDigits, List.mem_append, List.mem_append, List.mem_singleton, List.mem_singleton]
    exact ⟨fun h => h.elim hpoint (hpoint' ∘ Eq.symm), fun h => h.elim hslash (hslash' ∘ Eq.symm)⟩

theorem notMem_toHex (s : Sha256.State) : '/' ∉ s.toHex := by
  rw [Sha256.State.toHex, List.mem_flatMap]
  rintro ⟨w, -, hw⟩
  exact (notMem_hexDigits 8 w.toNat).2 hw

/-- The extensions of the known media types, and the usual one, are short and plain. -/
theorem extension_plain (type : String) :
    let ext := ((extensions.lookup type).getD "jpg").toList
    0 < ext.length ∧ ext.length ≤ 4 ∧ '.' ∉ ext ∧ '/' ∉ ext := by
  have hall : ∀ p ∈ extensions, 0 < p.2.toList.length ∧ p.2.toList.length ≤ 4 ∧ '.' ∉ p.2.toList ∧ '/' ∉ p.2.toList := by
    decide
  cases hlookup : extensions.lookup type with
  | none => decide
  | some ext => exact hall _ (mem_of_lookup hlookup)

/-! ## Names -/

/-- A segment of a URL that becomes the file's name: the last one of the path, where that has a point and is not too
long. A data URL has none. -/
structure Taken (url : String) (segment : List Char) : Prop where
  foreign : startsWith "data:".toList url.toList = false
  last : baseName (pathOf url) = segment
  point : '.' ∈ segment
  short : segment.length ≤ 100

/-- The name that the digest of a URL gives. -/
def digestName (url type : String) : List Char :=
  "image-".toList ++ (Sha256.digest url.toUTF8).toHex.take digestLength ++
    '.' :: ((extensions.lookup type).getD "jpg").toList

theorem toList_named (digits : List Char) (ext : String) :
    ("image-" ++ String.ofList digits ++ "." ++ ext).toList = "image-".toList ++ digits ++ '.' :: ext.toList := by
  simp only [String.toList_append, String.toList_ofList, List.append_assoc]
  rfl

theorem fileName_cases (url type : String) :
    (∃ segment, Taken url segment ∧ (fileName url type).toList = segment) ∨
      (∀ segment, ¬Taken url segment) ∧ (fileName url type).toList = digestName url type := by
  cases hdata : startsWith "data:".toList url.toList with
  | true =>
    refine .inr ⟨fun segment htaken => Bool.false_ne_true (htaken.foreign.symm.trans hdata), ?_⟩
    rw [fileName, if_pos hdata]
    exact (congrArg String.toList (if_neg (by decide))).trans (toList_named _ _)
  | false =>
    have hurl : ¬startsWith "data:".toList url.toList = true := by simp only [hdata, Bool.false_eq_true, not_false_iff]
    have htest : ((baseName (pathOf url)).contains '.' && decide ((baseName (pathOf url)).length ≤ maxNameLength)) = true ↔
        '.' ∈ baseName (pathOf url) ∧ (baseName (pathOf url)).length ≤ 100 := by
      rw [Bool.and_eq_true, List.contains_iff_mem, decide_eq_true_eq, maxNameLength]
    rw [fileName, if_neg hurl]
    by_cases h : '.' ∈ baseName (pathOf url) ∧ (baseName (pathOf url)).length ≤ 100
    · refine .inl ⟨_, ⟨hdata, rfl, h.1, h.2⟩, ?_⟩
      rw [if_pos (htest.2 h), String.toList_ofList]
    · refine .inr ⟨fun segment htaken => h (htaken.last ▸ ⟨htaken.point, htaken.short⟩), ?_⟩
      exact (congrArg String.toList (if_neg (mt htest.1 h))).trans (toList_named _ _)

theorem notMem_baseName (path : List Char) : '/' ∉ baseName path := by
  rw [baseName, List.getLastD_eq_getLast?]
  cases hlast : ((splitOn '/' path).filter fun s => !(s.isEmpty || s == ['.'])).getLast? with
  | none => exact List.not_mem_nil
  | some segment => exact notMem_of_mem_splitOn (List.mem_filter.1 (List.mem_of_getLast? hlast)).1

theorem isFileName_named {digits ext : List Char} (hdigits : digits.length ≤ 12) (hext : ext.length ≤ 4)
    (hslash : '/' ∉ digits) (hslash' : '/' ∉ ext) : IsFileName ("image-".toList ++ digits ++ '.' :: ext) := by
  have hlen : ("image-".toList ++ digits ++ '.' :: ext).length = 6 + digits.length + (ext.length + 1) := by
    rw [List.length_append, List.length_append, List.length_cons]
    rfl
  refine ⟨by omega, by omega, ?_⟩
  rw [List.mem_append, List.mem_append, List.mem_cons]
  rintro ((h | h) | h | h)
  · exact absurd h (by decide)
  · exact hslash h
  · exact absurd h (by decide)
  · exact hslash' h

theorem isFileName_digestName (url type : String) : IsFileName (digestName url type) := by
  obtain ⟨-, hext, -, hslash⟩ := extension_plain type
  exact isFileName_named (List.length_take_le _ _) hext (fun h => notMem_toHex _ (List.mem_of_mem_take h)) hslash

theorem hasExtension_digestName (url type : String) : HasExtension (digestName url type) := by
  obtain ⟨hpos, -, hpoint, -⟩ := extension_plain type
  refine ⟨_, _, ?_, List.length_pos_iff.1 hpos, hpoint, rfl⟩
  exact List.append_ne_nil_of_left_ne_nil (by decide) _

/-- A file's name is short and free of slashes, whatever the URL and the media type are. It has an extension too,
unless it is the last segment of the URL's path and that begins with its only point or ends with one. -/
theorem fileName_usable (url type : String) :
    IsFileName (fileName url type).toList ∧
      (HasExtension (fileName url type).toList ↔
        ∀ segment, Taken url segment → '.' ∈ segment.drop 1 ∧ segment.getLast? ≠ some '.') := by
  rcases fileName_cases url type with ⟨segment, htaken, hname⟩ | ⟨hnone, hname⟩
  · have hslash : '/' ∉ segment := htaken.last ▸ notMem_baseName (pathOf url)
    rw [hname, hasExtension_iff]
    refine ⟨⟨List.length_pos_of_mem htaken.point, htaken.short, hslash⟩, fun h other hother => ?_, fun h => h _ htaken⟩
    rwa [← hother.last, htaken.last]
  · rw [hname]
    exact ⟨isFileName_digestName url type,
      fun _ segment htaken => (hnone segment htaken).elim, fun _ => hasExtension_digestName url type⟩

/-- The name of a hidden file is taken for one with an extension. -/
theorem hiddenName_taken :
    fileName "https://h/.hidden" "image/png" = ".hidden" ∧ ¬HasExtension ".hidden".toList := by
  refine ⟨by decide +kernel, ?_⟩
  rw [hasExtension_iff]
  decide

end WebClip.MediaType
