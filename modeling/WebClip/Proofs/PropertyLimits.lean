import WebClip.Proofs.Fields
import WebClip.Proofs.Limits
/-!
# The limits of properties

Whatever an article holds and however its fields are mapped, the properties that are set are as the
service takes them: a text of one run, a URL as it was given, names that show something and are not too
long, one file from an upload or the web. A value of the wrong kind is written out first, so nothing but
the value itself is asked for: that it is shown as something.
-/

namespace WebClip

open Text

/-! ## What a value is shown as -/

namespace Value

theorem floatText_ne_empty (x : Float) : Number.floatText x ≠ "" := by
  have hdecimal (d : Number.Decimal) : d.toText ≠ [] := by
    unfold Number.Decimal.toText
    split
    · simp
    · split <;> simp
  unfold Number.floatText
  split
  · decide
  · split <;> decide
  next negative m q _ =>
    rw [ne_eq, String.ofList_eq_empty_iff]
    split
    · exact List.cons_ne_nil _ _
    · split
      · exact List.cons_ne_nil _ _
      · exact hdecimal _

/-- A value that is there is shown as something, unless it is known to be shown as nothing. -/
theorem display_ne_empty {v : Value} (hthere : Property.isNothing v = false) (hshown : v ≠ .shown "") : v.display ≠ "" := by
  cases v with
  | null => cases hthere
  | text s => simpa [Property.isNothing, display] using hthere
  | bool b => cases b <;> decide
  | int n =>
    rw [display, quoted, Int.toString_eq_repr, Int.repr_eq_if]
    · split
      · exact Nat.repr_ne_empty
      · simp
    · exact nofun
  | float x =>
    rw [display, quoted]
    · exact floatText_ne_empty x
    · exact nofun
  | list items =>
    rw [display, quoted]
    · simp
    · exact nofun
  | record fields =>
    rw [display, quoted]
    · simp
    · exact nofun
  | shown s =>
    rw [display, quoted]
    · rintro rfl
      exact hshown rfl
    · exact nofun

end Value

namespace Property

/-! ## What is within the limits -/

/-- The name of the type of a property. -/
def typeName : Property → String
  | title _ => "title"
  | richText _ => "rich_text"
  | url _ => "url"
  | files .. => "files"
  | checkbox _ => "checkbox"
  | select _ => "select"
  | multiSelect _ => "multi_select"
  | date _ => "date"
  | number _ => "number"
  | email _ => "email"
  | phone _ => "phone_number"

/-- A list of one text object. -/
def oneText (content : String) : Value :=
  .list [.record [("type", .text "text"), ("text", .record [("content", .text content)])]]

/-- A list of one file object under the name that images get. -/
def oneFile (place : List (String × Value)) : Value := .list [.record (("name", .text "image") :: place)]

/-- A text that the service takes, made of a value: the start of its text, in the length of one run. -/
structure IsContent (v : Value) (content : String) : Prop where
  start : content.toList <+: v.display.toList
  /-- Only what no file or reply holds is shown as nothing though it is there. -/
  length_pos : v ≠ .shown "" → 1 ≤ content.length
  length_le : content.length ≤ 2000

/-- A name that the service takes: it shows something and is not too long. -/
structure IsName (name : String) : Prop where
  visible : blank name = false
  length_le : name.length ≤ 100

/-- Whether an option is there and shows something. -/
def isNamed : Value → Bool
  | .null => false
  | v => !blank v.display

/-- The name that an option gets. -/
def nameOf (v : Value) : String := shorten maxNameLength (strip v.display)

/-- What is known of the file that a value names. -/
def assetOf (assets : Assets) (v : Value) : Asset := (assets.lookup v.display).getD (.external v.display)

/-- The record of a property made of a value is as the service takes it. -/
def WithinLimits (assets : Assets) (v : Value) (p : Property) : Prop :=
  match p with
  | title _ | richText _ => ∃ content, p.toValue = .record [(p.typeName, oneText content)] ∧ IsContent v content
  | url _ =>
    p.toValue = .record [("url", .text v.display)] ∧ v.display.length ≤ 2000 ∧ (v ≠ .shown "" → v.display ≠ "")
  | files .. =>
    (assetOf assets v).isUploaded = true ∧ (∃ id, (∀ known, (assetOf assets v).value = some known → id = .text known) ∧
        p.toValue = .record [("files", oneFile [("type", .text "file_upload"), ("file_upload", .record [("id", id)])])]) ∨
      ∃ url, (assetOf assets v).value = some url ∧ Page.Shows url ∧ p.toValue =
        .record [("files", oneFile [("type", .text "external"), ("external", .record [("url", .text url)])])]
  | select _ => ∃ name, p.toValue = .record [("select", .record [("name", .text name)])] ∧ IsName name ∧
      name = nameOf ((options v).headD .null)
  | multiSelect _ => ∃ names, p.toValue =
        .record [("multi_select", .list (names.map fun name => .record [("name", .text name)]))] ∧
      names ≠ [] ∧ (∀ name ∈ names, IsName name) ∧ names = ((options v).filter isNamed).map nameOf
  | email _ => ∃ address, p.toValue = .record [("email", .text address)] ∧ '@' ∈ address.toList
  | checkbox _ | date _ | number _ | phone _ => True

/-! ## Texts and names -/

theorem length_shorten (limit : Nat) (s : String) : (shorten limit s).length = min limit s.length := by
  rw [shorten, String.length_ofList, List.length_take, String.length_toList]

theorem isContent_shorten {v : Value} (hthere : isNothing v = false) :
    IsContent v (shorten Page.maxTextLength v.display) where
  start := by
    rw [shorten, String.toList_ofList]
    exact List.take_prefix _ _
  length_pos hshown := by
    have hne := Value.display_ne_empty hthere hshown
    rw [ne_eq, ← String.length_eq_zero_iff] at hne
    rw [length_shorten, Page.maxTextLength]
    omega
  length_le := by
    rw [length_shorten, Page.maxTextLength]
    omega

/-- What is left of a text without the white space around it starts with a visible character, so cutting
it leaves that one. -/
theorem isName_shorten {s : String} (h : (strip s).isEmpty = false) : IsName (shorten maxNameLength (strip s)) where
  visible := by
    rcases trim_eq_nil_or s.toList with ⟨-, hnone⟩ | ⟨c, rest, htrim, hc⟩
    · simp [strip, hnone] at h
    · rw [blank, shorten, strip, String.toList_ofList, String.toList_ofList, htrim, List.all_eq_false]
      exact ⟨c, List.mem_cons_self, by simpa using hc⟩
  length_le := by
    rw [length_shorten, maxNameLength]
    omega

theorem display_of_written {v : Value} {s : String} (h : v.written = .ok s) : s = v.display := by
  have hwritten := Value.written_of_writable (Value.isWritable_of_written h)
  rw [h] at hwritten
  exact Except.ok.inj hwritten

theorem of_optionName {v : Value} {name : String} (h : optionName v = .ok name) : name = nameOf v ∧ IsName name := by
  obtain ⟨s, hs, h⟩ := exists_of_bind h
  obtain rfl := display_of_written hs
  dsimp only at h
  split at h
  · cases h
  next hne =>
    obtain rfl := Except.ok.inj h
    exact ⟨rfl, isName_shorten (by simpa using hne)⟩

/-- The options that are named keep their order, and no other is left out. -/
theorem of_optionNames {vs : List Value} {names : List String} (h : optionNames vs = .ok names) :
    names = (vs.filter isNamed).map nameOf ∧ ∀ name ∈ names, IsName name := by
  fun_induction optionNames vs generalizing names with
  | case1 =>
    cases h
    exact ⟨rfl, by simp⟩
  | case2 rest ih =>
    rw [List.filter_cons_of_neg (by simp [isNamed])]
    exact ih h
  | case3 v rest hv ih =>
    obtain ⟨s, hs, h⟩ := exists_of_bind h
    obtain rfl := display_of_written hs
    have hnamed : isNamed v = !blank v.display := by
      unfold isNamed
      split
      · exact absurd rfl hv
      · rfl
    split at h
    next hblank =>
      rw [List.filter_cons_of_neg (by simp [hnamed, hblank])]
      exact ih h
    next hblank =>
      obtain ⟨name, hname, h⟩ := exists_of_bind h
      obtain ⟨others, hothers, ⟨⟩⟩ := exists_of_bind h
      obtain ⟨rfl, hone⟩ := of_optionName hname
      obtain ⟨rfl, hall⟩ := ih hothers
      rw [List.filter_cons_of_pos (by simp [hnamed, hblank]), List.map_cons]
      exact ⟨rfl, List.forall_mem_cons.2 ⟨hone, hall⟩⟩

/-! ## What is built -/

theorem text?_of_typeName {type : Value} {p : Property} (h : type.text?.getD "" = p.typeName) :
    type.text? = some p.typeName := by
  cases ht : type.text? with
  | none =>
    rw [ht, Option.getD_none] at h
    cases p <;> simp [typeName] at h
  | some s => simpa [ht] using h

theorem withinLimits_of_file {assets : Assets} {v : Value} {p : Property} (h : file (assetOf assets v) = .ok (some p)) :
    p.typeName = "files" ∧ p.WithinLimits assets v := by
  unfold file at h
  split at h
  next husable =>
    cases h
    refine ⟨rfl, ?_⟩
    cases hup : (assetOf assets v).isUploaded with
    | true =>
      simp only [WithinLimits, toValue, Asset.toFile, hup, if_true]
      cases hvalue : (assetOf assets v).value with
      | none => exact .inl ⟨trivial, .null, nofun, rfl⟩
      | some id => exact .inl ⟨trivial, .text id, by simp, rfl⟩
    | false =>
      rw [hup, Bool.false_or] at husable
      obtain ⟨url, hurl, hweb⟩ := (Option.any_eq_true _ _).1 husable
      refine .inr ⟨url, hurl, Page.shows_of_isEmbeddable hweb, ?_⟩
      simp only [toValue, Asset.toFile, hup, hurl]
      rfl
  · cases h

/-- What is built is a property of the type that is asked for, and within the limits. -/
theorem withinLimits_of_build {assets : Assets} {type v : Value} {p : Property}
    (h : build assets type v = .ok (some p)) : type.text? = some p.typeName ∧ p.WithinLimits assets v := by
  unfold build at h
  split at h
  next hbox =>
    cases h
    exact ⟨hbox, trivial⟩
  split at h
  · cases h
  next hthere =>
  rw [Bool.not_eq_true] at hthere
  split at h
  case h_1 htype | h_2 htype =>
    obtain ⟨s, hs, ⟨⟩⟩ := exists_of_bind h
    obtain rfl := display_of_written hs
    exact ⟨text?_of_typeName htype, _, rfl, isContent_shorten hthere⟩
  case h_3 htype =>
    obtain ⟨s, hs, h⟩ := exists_of_bind h
    obtain rfl := display_of_written hs
    split at h
    · cases h
    next hshort =>
      cases h
      exact ⟨text?_of_typeName htype, rfl, Nat.le_of_not_lt hshort, Value.display_ne_empty hthere⟩
  case h_4 htype =>
    obtain ⟨s, hs, h⟩ := exists_of_bind h
    obtain rfl := display_of_written hs
    obtain ⟨hname, hlimits⟩ := withinLimits_of_file h
    exact ⟨text?_of_typeName (htype.trans hname.symm), hlimits⟩
  case h_5 htype =>
    obtain ⟨name, hname, ⟨⟩⟩ := exists_of_bind h
    obtain ⟨hkept, hone⟩ := of_optionName hname
    exact ⟨text?_of_typeName htype, name, rfl, hone, hkept⟩
  case h_6 htype =>
    obtain ⟨names, hnames, h⟩ := exists_of_bind h
    obtain ⟨hkept, hall⟩ := of_optionNames hnames
    split at h
    · cases h
    next hne =>
      cases h
      exact ⟨text?_of_typeName htype, names, rfl, by simpa using hne, hall, hkept⟩
  case h_7 htype | h_10 htype =>
    obtain ⟨s, -, ⟨⟩⟩ := exists_of_bind h
    exact ⟨text?_of_typeName htype, trivial⟩
  case h_8 htype =>
    unfold numberOf at h
    split at h
    · cases h
      exact ⟨text?_of_typeName htype, trivial⟩
    · cases h
    · obtain ⟨s, -, ⟨⟩⟩ := exists_of_bind h
  case h_9 htype =>
    obtain ⟨s, -, h⟩ := exists_of_bind h
    split at h
    next hat =>
      cases h
      exact ⟨text?_of_typeName htype, s, rfl, by simpa using hat⟩
    · obtain ⟨quoted, -, ⟨⟩⟩ := exists_of_bind h
  case h_11 =>
    obtain ⟨s, -, ⟨⟩⟩ := exists_of_bind h

end Property

/-! ## What a page is given -/

namespace Mapping

/-- Every property that is set comes from an entry of its type and from the value that the entry takes, and its record
is as the service takes it: one text of one run for titles and texts, the whole text of the value as a URL that is not
too long, one name or all the names there are in their order, one file in an upload or on the web, and an address with
its sign. Texts and URLs are not empty where the value is shown as something. -/
theorem properties_withinLimits (article : Article) (assets : Assets) (mapping : Mapping) {ps : Properties}
    (h : mapping.properties article assets = .ok ps) {key : String} {p : Property} (hp : (key, p) ∈ ps) :
    ∃ entry ∈ mapping, ∃ v, entry.2.enabled.truthy = true ∧ entry.2.source article = .ok v ∧
      entry.2.propertyType.text? = some p.typeName ∧ p.WithinLimits assets v := by
  obtain ⟨entry, hentry, v, henabled, hv, hbuild⟩ := built_of_mem h hp
  exact ⟨entry, hentry, v, henabled, hv, Property.withinLimits_of_build hbuild⟩

/-- Options from the tags of the article. -/
def tagsEntry : String × FieldMapping :=
  ("Tags", { propertyName := .text "Tags", propertyType := .text "multi_select", sourceField := .text "tags" })

/-- A blank tag and one that is missing name no option, and the white space around the other is no part of its name. -/
theorem namedTags_withinLimits :
    properties { tags := [.text " lean\n", .null, .text " "] } [] [tagsEntry] =
        .ok [("Tags", .multiSelect ["lean"])] ∧
      (Property.multiSelect ["lean"]).WithinLimits [] (.list [.text " lean\n", .null, .text " "]) := by
  have hset : properties { tags := [.text " lean\n", .null, .text " "] } [] [tagsEntry] =
      .ok [("Tags", .multiSelect ["lean"])] := by rfl
  obtain ⟨entry, hentry, v, -, hv, -, hlimits⟩ := properties_withinLimits _ _ _ hset List.mem_cons_self
  obtain rfl := List.mem_singleton.1 hentry
  obtain rfl := Except.ok.inj hv
  exact ⟨hset, hlimits⟩

end Mapping

end WebClip
