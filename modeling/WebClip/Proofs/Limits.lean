import WebClip.Proofs.Pages
/-!
# The limits of the service

Whatever the nodes and whatever is known of their images, the blocks of a page keep to what
the service takes. One promise has an exception: a link whose references decode to nothing
stays on its run as an empty target, which the run's record then leaves out.
-/

namespace WebClip.Page

open WebClip.Text

/-! ## What is within the limits -/

/-- A run the service takes. An empty target is no link: the record of the run has none. -/
structure Run.WithinLimits (r : Run) : Prop where
  length_pos : 0 < r.content.length
  length_le : r.content.length ≤ 2000
  link : ∀ url, r.link = some url → url = "" ∨ isLink url = true

/-- A URL from which the service shows an image. -/
structure Shows (url : String) : Prop where
  length_le : url.length ≤ 2000
  web : ∃ parts, Url.read [] url.toList = .ok parts ∧
    (parts.scheme = "http".toList ∨ parts.scheme = "https".toList)
  notData : startsWith "data:".toList url.toList = false

/-- What the service asks of a block beside its runs. -/
def Block.SuitsItsKind : Block → Prop
  | .heading level _ => 1 ≤ level ∧ level ≤ 3
  | .code language text => language ∈ Language.known ∧ (Run.text text).length ≤ 2000
  | .image (.upload id) _ => id ≠ ""
  | .image (.external url) _ => Shows url
  | .paragraph _ | .item .. | .quote _ | .divider => True

/-- A block the service takes. -/
structure Block.WithinLimits (b : Block) : Prop where
  runs : ∀ r ∈ b.runs, r.WithinLimits
  kind : b.SuitsItsKind

/-- A node that says something and has a link on some text that is nothing once its
references are decoded. -/
def Node.LosesLink (n : Node) : Prop :=
  n.error? = none ∧ ∃ spans, n.spans? = some spans ∧
    (∃ s ∈ spans, s.isImage = false ∧ blank (Run.decoded s.text) = false) ∧ ∃ s ∈ spans, Run.losesLink s

/-! ## URLs of images -/

/-- The scheme that is read is the one the URL starts with. -/
theorem scheme_of_read {url : List Char} {parts : Url.Parts} (h : Url.read [] url = .ok parts) :
    parts.scheme = (Url.takeScheme ((url.dropWhile fun c => c.toNat ≤ 32).filter fun c =>
      !(c == '\t' || c == '\r' || c == '\n'))).1 := by
  unfold Url.read at h
  simp only at h
  split at h
  · cases h
  · rw [ite_eq_iff] at h
    obtain ⟨-, h⟩ | ⟨-, h⟩ := h
    · cases h
    · rw [← Except.ok.inj h]
      simp only [ite_eq_right_iff, List.isEmpty_iff]
      exact Eq.symm

theorem scheme_of_data {url : List Char} {parts : Url.Parts} (h : startsWith "data:".toList url = true)
    (hr : Url.read [] url = .ok parts) : parts.scheme = "data".toList := by
  obtain ⟨rest, rfl⟩ := List.isPrefixOf_iff_prefix.1 h
  rw [scheme_of_read hr]
  rfl

theorem shows_of_isEmbeddable {url : String} (h : isEmbeddable url = true) : Shows url := by
  unfold isEmbeddable at h
  simp only [Bool.and_eq_true, decide_eq_true_eq] at h
  obtain ⟨⟨-, hlen⟩, hread⟩ := h
  cases hp : Url.read [] url.toList with
  | error e => simp [hp] at hread
  | ok parts =>
    simp only [hp, Bool.or_eq_true, beq_iff_eq] at hread
    refine ⟨hlen, ⟨parts, hp, hread⟩, ?_⟩
    -- a data URI would be read with a scheme of its own
    by_contra hd
    have hs := scheme_of_data (by simpa using hd) hp
    rcases hread with hw | hw <;> rw [hs] at hw <;> revert hw <;> decide

/-! ## Runs -/

theorem Run.withinLimits_of_mem_ofSpans {spans : List Span} {r : Run} (h : r ∈ Run.ofSpans spans) :
    r.WithinLimits where
  length_pos := (Run.length_of_mem_ofSpans h).1
  length_le := (Run.length_of_mem_ofSpans h).2
  link _ hl := Run.link_of_mem_ofSpans h hl

theorem Run.withinLimits_of_mem_ofText {s : String} {r : Run} (h : r ∈ Run.ofText s) : r.WithinLimits where
  length_pos := (Run.of_mem_ofText h).1
  length_le := (Run.of_mem_ofText h).2.1
  link url hl := by
    rw [(Run.of_mem_ofText h).2.2.2] at hl
    cases hl

/-! ## Blocks -/

theorem clampLevel_bounds (level : Int) : 1 ≤ clampLevel level ∧ clampLevel level ≤ 3 := by
  unfold clampLevel
  omega

theorem bounds_of_headingLevel {level : Value} {n : Int} (h : headingLevel level = .ok n) : 1 ≤ n ∧ n ≤ 3 := by
  unfold headingLevel at h
  cases hl : level.toInt with
  | error e => simp [hl, Except.map] at h
  | ok k =>
    simp only [hl, Except.map, Except.ok.injEq] at h
    rw [← h]
    exact clampLevel_bounds k

theorem known_ofName (name : String) : Language.ofName name ∈ Language.known := by
  unfold Language.ofName
  simp only
  split
  · rename_i h
    exact List.contains_iff_mem.1 h
  · decide

theorem Picture.withinLimits_of_block? {assets : Assets} {p : Picture} {b : Block} (h : p.block? assets = some b) :
    b.WithinLimits := by
  unfold Picture.block? at h
  split at h
  · rename_i hm
    cases h
    exact ⟨fun r hr => Run.withinLimits_of_mem_ofText hr, Picture.place_ne_empty hm⟩
  · split at h
    · rename_i he
      cases h
      exact ⟨fun r hr => Run.withinLimits_of_mem_ofText hr, shows_of_isEmbeddable he⟩
    · cases h

theorem withinLimits_of_mem_compileCode {language text : String} {b : Block}
    (h : b ∈ (compileCode language text).blocks) : b.WithinLimits := by
  unfold compileCode at h
  simp only at h
  split at h
  · rw [List.mem_singleton] at h
    subst h
    exact ⟨by simp [Block.runs], known_ofName language, by decide⟩
  · obtain ⟨part, hpart, rfl⟩ := List.mem_map.1 h
    refine ⟨fun r hr => Run.withinLimits_of_mem_ofText hr, known_ofName language, ?_⟩
    rw [Run.text_ofText]
    exact (length_of_mem_cutText (by decide) hpart).2

/-- The block of a node's text holds the runs of its spans. -/
theorem Node.textBlock?_spec {n : Node} {b : Block} (h : n.textBlock? = some b) :
    b.runs = Run.ofSpans (n.spans?.getD []) ∧ (n.error? = none → b.SuitsItsKind) := by
  cases n with
  | heading level spans =>
    cases h
    refine ⟨rfl, fun hs => ?_⟩
    cases hl : headingLevel level with
    | error e => simp [Node.error?, hl] at hs
    | ok k => exact bounds_of_headingLevel hl
  | paragraph spans | quote spans | item ordered spans depth =>
    cases h
    exact ⟨rfl, fun _ => trivial⟩
  | code language text | rule | image url alt | foreign spans => cases h

theorem Node.withinLimits_of_mem_ownBlocks {assets : Assets} {n : Node} {b : Block} (hs : n.error? = none)
    (h : b ∈ n.ownBlocks assets) : b.WithinLimits := by
  have text (ht : n.textBlock? = some b) : b.WithinLimits := by
    obtain ⟨hr, hk⟩ := Node.textBlock?_spec ht
    exact ⟨fun r hm => Run.withinLimits_of_mem_ofSpans (hr ▸ hm), hk hs⟩
  cases n with
  | code language content => exact withinLimits_of_mem_compileCode h
  | rule =>
    rw [Node.ownBlocks, List.mem_singleton] at h
    subst h
    exact ⟨by simp [Block.runs], trivial⟩
  | heading level spans | paragraph spans | quote spans | item ordered spans depth | image url alt | foreign spans =>
    exact text (Option.mem_toList.1 (List.mem_filter.1 h).1)

theorem withinLimits_of_mem_compile {assets : Assets} {nodes : List Node} {b : Block}
    (h : b ∈ (compile assets nodes).blocks) : b.WithinLimits := by
  obtain ⟨n, -, ⟨hs, hb⟩ | ⟨-, hb⟩⟩ := mem_blocks_compileFrom.1 h
  · rw [(Node.compileSound_eq hs).1, List.mem_append] at hb
    rcases hb with hb | hb
    · exact Node.withinLimits_of_mem_ownBlocks hs hb
    · obtain ⟨p, -, hp⟩ := List.mem_filterMap.1 hb
      exact Picture.withinLimits_of_block? hp
  · rcases (Node.fallback_eq n).2 with hf | ⟨text, -, hf⟩ <;> rw [hf] at hb
    · cases hb
    · rw [List.mem_singleton] at hb
      subst hb
      exact ⟨fun r hr => Run.withinLimits_of_mem_ofText hr, trivial⟩

/-! ## Links -/

/-- A run with a link comes from the text of a node that can be compiled. -/
theorem node_of_link {assets : Assets} {nodes : List Node} {b : Block} {r : Run} {url : String}
    (h : b ∈ (compile assets nodes).blocks) (hr : r ∈ b.runs) (hl : r.link = some url) :
    ∃ n ∈ nodes, n.error? = none ∧ ∃ spans, n.spans? = some spans ∧ r ∈ Run.ofSpans spans := by
  -- captions, code and what stands in for a failed node are plain texts, without links
  have plain (s : String) (hs : r ∈ Run.ofText s) : False := by
    rw [(Run.of_mem_ofText hs).2.2.2] at hl
    cases hl
  obtain ⟨n, hn, ⟨hs, hb⟩ | ⟨-, hb⟩⟩ := mem_blocks_compileFrom.1 h
  · refine ⟨n, hn, hs, ?_⟩
    have text (ht : n.textBlock? = some b) : ∃ spans, n.spans? = some spans ∧ r ∈ Run.ofSpans spans := by
      rw [(Node.textBlock?_spec ht).1] at hr
      cases hsp : n.spans? with
      | none => rw [hsp] at hr; cases hr
      | some spans => exact ⟨spans, rfl, by simpa [hsp] using hr⟩
    rw [(Node.compileSound_eq hs).1, List.mem_append] at hb
    rcases hb with hb | hb
    · cases n with
      | code language content =>
        simp only [Node.ownBlocks, compileCode] at hb
        split at hb
        · rw [List.mem_singleton] at hb
          subst hb
          cases hr
        · obtain ⟨part, -, rfl⟩ := List.mem_map.1 hb
          exact (plain part hr).elim
      | rule =>
        rw [Node.ownBlocks, List.mem_singleton] at hb
        subst hb
        cases hr
      | heading _ _ | paragraph _ | quote _ | item _ _ _ | image _ _ | foreign _ =>
        exact text (Option.mem_toList.1 (List.mem_filter.1 hb).1)
    · obtain ⟨p, -, hp⟩ := List.mem_filterMap.1 hb
      unfold Picture.block? at hp
      split at hp
      · cases hp
        exact (plain p.alt hr).elim
      · split at hp
        · cases hp
          exact (plain p.alt hr).elim
        · cases hp
  · rcases (Node.fallback_eq n).2 with hf | ⟨text, -, hf⟩ <;> rw [hf] at hb
    · cases hb
    · rw [List.mem_singleton] at hb
      subst hb
      exact (plain text hr).elim

/-- The text of a node that can be compiled is on the page if it says anything. -/
theorem textBlock_mem (assets : Assets) {nodes : List Node} {n : Node} (hn : n ∈ nodes) (hs : n.error? = none)
    {spans : List Span} (hsp : n.spans? = some spans) {r : Run} (hr : r ∈ Run.ofSpans spans) :
    ∃ b ∈ (compile assets nodes).blocks, r ∈ b.runs := by
  have hne : Run.ofSpans spans ≠ [] := List.ne_nil_of_mem hr
  obtain ⟨b, hb⟩ : ∃ b, n.textBlock? = some b := by
    cases n with
    | heading _ _ | paragraph _ | quote _ | item _ _ _ => exact ⟨_, rfl⟩
    | code _ _ | rule | image _ _ => cases hsp; cases hr
    | foreign _ => simp [Node.error?] at hs
  have hruns : b.runs = Run.ofSpans spans := by simpa [hsp] using (Node.textBlock?_spec hb).1
  refine ⟨b, mem_blocks_compileFrom.2 ⟨n, hn, .inl ⟨hs, ?_⟩⟩, hruns ▸ hr⟩
  rw [(Node.compileSound_eq hs).1, List.mem_append]
  left
  -- a text with a run is kept whatever pictures stand in it
  have hkept : (!b.runs.isEmpty || (n.pictureBlocks assets).isEmpty || n.isItem) = true := by
    simp [hruns, hne]
  cases n with
  | heading _ _ | paragraph _ | quote _ | item _ _ _ =>
    exact List.mem_filter.2 ⟨Option.mem_toList.2 hb, hkept⟩
  | code _ _ | rule | image _ _ | foreign _ => cases hb

/-- Every block of a page is within the limits, and every link of it is one that the service
takes unless some text had a target that decodes to nothing. -/
theorem compile_limits (assets : Assets) (nodes : List Node) :
    (∀ b ∈ (compile assets nodes).blocks, b.WithinLimits) ∧
      ((∀ b ∈ (compile assets nodes).blocks, ∀ r ∈ b.runs, ∀ url, r.link = some url → isLink url = true) ↔
        ∀ n ∈ nodes, ¬ n.LosesLink) := by
  refine ⟨fun b hb => withinLimits_of_mem_compile hb, ?_, ?_⟩
  · -- a text that loses its link puts an empty target on the page
    rintro h n hn ⟨hs, spans, hsp, hloss⟩
    obtain ⟨r, hr, hl⟩ := Run.empty_link_iff.2 hloss
    obtain ⟨b, hb, hrb⟩ := textBlock_mem assets hn hs hsp hr
    exact absurd (h b hb r hrb "" hl) (by decide)
  · intro h b hb r hr url hl
    rcases ((withinLimits_of_mem_compile hb).runs r hr).link url hl with rfl | hv
    · obtain ⟨n, hn, hs, spans, hsp, hrs⟩ := node_of_link hb hr hl
      exact absurd ⟨hs, spans, hsp, Run.empty_link_iff.1 ⟨r, hrs, hl⟩⟩ (h n hn)
    · exact hv

/-- A target that is a reference to a control character leaves an empty link, and its text
stands apart from what follows. -/
theorem empty_link_kept :
    (compile [] [.paragraph (some [{ text := "a", link := some "&#1;" }, .plain "b"])]).blocks =
        [.paragraph [{ content := "a", link := some "" }, { content := "b" }]] ∧
      isLink "" = false := by
  decide +kernel

end WebClip.Page
