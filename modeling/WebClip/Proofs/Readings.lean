import WebClip.Markdown.Draft
/-!
# Reading on behind closed blocks

Reading a document's lines never looks back at blocks that are closed, but for a list that one more item may join. So
lines behind such blocks are read as if nothing were before them.
-/

namespace WebClip.Markdown.Draft

open WebClip.Text

/-! ## Readings that differ in what is closed -/

/-- Whether a container is in the document, and goes on only with lines that begin as it demands. -/
def Container.IsInner : Container → Prop
  | .document => False
  | .quote => True
  | .item _ _ width => 0 < width

/-- Whether a fence is one: some of a character that no heading begins with. -/
def Leaf.IsSound : Leaf → Prop
  | .fenced mark size .. => mark ≠ '#' ∧ 0 < size
  | .none | .paragraph _ | .indented _ | .html .. => True

/-- Whether the newest block is a list. -/
def endsInList : List Draft → Bool
  | .list .. :: _ => true
  | _ => false

/-- Two readings, the second of them behind closed blocks and definitions that are not in the first. -/
structure Over (below : List Draft) (found : Definitions) (r r' : Reading) : Prop where
  leaf : r'.leaf = r.leaf
  sound : r.leaf.IsSound
  definitions : r'.definitions = r.definitions ++ found
  frames : ∃ inner children, r.frames = inner ++ [⟨.document, children⟩] ∧
    r'.frames = inner ++ [⟨.document, children ++ below⟩] ∧ ∀ f ∈ inner, f.container.IsInner

section
variable {below : List Draft} {found : Definitions} {r r' : Reading}

/-- What may start inside open containers is up to what they are. -/
theorem allowed_congr {fs gs : List Frame} (h : fs.map (·.container) = gs.map (·.container)) :
    quoteAllowed fs = quoteAllowed gs ∧ listAllowed fs = listAllowed gs := by
  cases fs with
  | nil => rw [List.map_eq_nil_iff.1 h.symm]; exact ⟨rfl, rfl⟩
  | cons f fs =>
    cases gs with
    | nil => cases h
    | cons g gs =>
      obtain ⟨hhead, hrest⟩ := List.cons.inj h
      have hlen : fs.length = gs.length := by simpa using congrArg List.length hrest
      obtain ⟨c, _⟩ := f
      obtain ⟨d, _⟩ := g
      obtain rfl : c = d := hhead
      cases c <;> simp only [quoteAllowed, listAllowed, hlen, and_self]

theorem takeDefinitions_append (n : Nat) (cs : List Char) (ds found : Definitions) :
    takeDefinitions n cs (ds ++ found) = ((takeDefinitions n cs ds).1 ++ found, (takeDefinitions n cs ds).2) := by
  induction n generalizing cs ds with
  | zero => rfl
  | succ n ih =>
    unfold takeDefinitions
    cases Target.definition? cs with
    | none => rfl
    | some entry => exact ih _ (_ :: ds)

/-- The leaf as the end of the innermost container leaves it. -/
def endedLeaf (r : Reading) : Leaf :=
  match r.frames with
  | f :: _ => Reading.endLeaf f r.leaf
  | [] => r.leaf

/-- A reading with the leaf closed by the end of the innermost container. -/
def lastClosed (r : Reading) : Reading := ({ r with leaf := endedLeaf r } : Reading).closeLeaf

/-- Nothing is left to close but the document. -/
theorem closeInner_document {f : Frame} (h : (lastClosed r).frames = [f]) (n : Nat) :
    r.closeInner (n + 1) = lastClosed r := by
  rw [Reading.closeInner]
  split
  next heq => cases h.symm.trans heq
  next => rfl

/-- The innermost container becomes a block of the one around it. -/
theorem closeInner_nested {f outer : Frame} {rest : List Frame} (h : (lastClosed r).frames = f :: outer :: rest) (n : Nat) :
    r.closeInner (n + 1) = Reading.closeInner n { lastClosed r with frames := Reading.nest f outer :: rest } := by
  rw [Reading.closeInner]
  split
  next heq =>
    obtain ⟨rfl, rfl, rfl⟩ : f = _ ∧ outer = _ ∧ rest = _ := by simpa using h.symm.trans heq
    rfl
  next hnone => exact (hnone f outer rest h).elim

namespace Over

theorem containers (h : Over below found r r') : r'.frames.map (·.container) = r.frames.map (·.container) := by
  obtain ⟨inner, children, hr, hr', -⟩ := h.frames
  rw [hr, hr', List.map_append, List.map_append]
  rfl

theorem length (h : Over below found r r') : r'.frames.length = r.frames.length := by
  simpa using congrArg List.length h.containers

theorem allowed (h : Over below found r r') (n : Nat) :
    quoteAllowed (r'.frames.drop n) = quoteAllowed (r.frames.drop n) ∧
      listAllowed (r'.frames.drop n) = listAllowed (r.frames.drop n) :=
  allowed_congr (by rw [List.map_drop, List.map_drop, h.containers])

theorem withLeaf (h : Over below found r r') (leaf : Leaf) (hleaf : leaf.IsSound) :
    Over below found { r with leaf } { r' with leaf } :=
  ⟨rfl, hleaf, h.definitions, h.frames⟩

theorem enter (h : Over below found r r') {c : Container} (hc : c.IsInner) :
    Over below found (r.enter c) (r'.enter c) := by
  obtain ⟨inner, children, hr, hr', hinner⟩ := h.frames
  refine ⟨h.leaf, h.sound, h.definitions, ⟨c, []⟩ :: inner, children, ?_, ?_, ?_⟩
  · rw [Reading.enter, hr, List.cons_append]
  · rw [Reading.enter, hr', List.cons_append]
  · exact List.forall_mem_cons.2 ⟨hc, hinner⟩

theorem add (h : Over below found r r') (d : Draft) : Over below found (r.add d) (r'.add d) := by
  obtain ⟨inner, children, hr, hr', hinner⟩ := h.frames
  cases inner with
  | nil =>
    rw [List.nil_append] at hr hr'
    unfold Reading.add
    rw [hr, hr']
    exact ⟨h.leaf, h.sound, h.definitions, [], d :: children, rfl, rfl, nofun⟩
  | cons f inner =>
    obtain ⟨hf, hrest⟩ := List.forall_mem_cons.1 hinner
    rw [List.cons_append] at hr hr'
    unfold Reading.add
    rw [hr, hr']
    exact ⟨h.leaf, h.sound, h.definitions, { f with children := d :: f.children } :: inner, children, rfl, rfl,
      List.forall_mem_cons.2 ⟨hf, hrest⟩⟩

theorem settle (h : Over below found r r') (lines : List (List Char)) :
    Over below found (r.settle lines).1 (r'.settle lines).1 ∧ (r'.settle lines).2 = (r.settle lines).2 := by
  unfold Reading.settle
  dsimp only
  rw [h.definitions, takeDefinitions_append]
  exact ⟨⟨h.leaf, h.sound, rfl, h.frames⟩, rfl⟩

theorem closeLeaf (h : Over below found r r') : Over below found r.closeLeaf r'.closeLeaf := by
  have hclosed := h.withLeaf .none trivial
  unfold Reading.closeLeaf
  rw [h.leaf]
  cases hleaf : r.leaf with
  | none => exact h
  | paragraph lines =>
    obtain ⟨hsettled, htext⟩ := hclosed.settle lines
    dsimp only
    rw [htext]
    split
    · exact hsettled
    · exact hsettled.add _
  | fenced mark size indent info lines => exact hclosed.add _
  | indented lines => exact hclosed.add _
  | html ending lines => exact hclosed.add _

/-- What becomes a block of the document joins no list that lies below. -/
theorem nest (hb : endsInList below = false) (f : Frame) (children : List Draft) :
    ∃ joined, Reading.nest f ⟨.document, children⟩ = ⟨.document, joined⟩ ∧
      Reading.nest f ⟨.document, children ++ below⟩ = ⟨.document, joined ++ below⟩ := by
  unfold Reading.nest
  cases f.container with
  | document => exact ⟨_, rfl, rfl⟩
  | quote => exact ⟨_, rfl, rfl⟩
  | item ordered mark width =>
    cases children with
    | nil =>
      cases below with
      | nil => exact ⟨_, rfl, rfl⟩
      | cons d rest =>
        cases d with
        | list => cases hb
        | _ => exact ⟨_, rfl, rfl⟩
    | cons d rest =>
      cases d with
      | list o m items =>
        dsimp only [List.cons_append]
        split <;> exact ⟨_, rfl, rfl⟩
      | _ => exact ⟨_, rfl, rfl⟩

theorem container_nest (f outer : Frame) : (Reading.nest f outer).container = outer.container := by
  unfold Reading.nest
  cases f.container with
  | document => rfl
  | quote => rfl
  | item ordered mark width =>
    dsimp only
    split
    · split <;> rfl
    · rfl

theorem isSound_endLeaf (f : Frame) {leaf : Leaf} (h : leaf.IsSound) : (Reading.endLeaf f leaf).IsSound := by
  unfold Reading.endLeaf
  cases f.container <;> cases leaf <;> exact h

protected theorem lastClosed (h : Over below found r r') : Over below found (lastClosed r) (lastClosed r') := by
  obtain ⟨inner, children, hr, hr', -⟩ := h.frames
  have hleaf : endedLeaf r' = endedLeaf r := by
    unfold endedLeaf
    rw [hr, hr', h.leaf]
    cases inner <;> rfl
  have hsound : (endedLeaf r).IsSound := by
    unfold endedLeaf
    cases r.frames with
    | nil => exact h.sound
    | cons f rest => exact isSound_endLeaf f h.sound
  unfold lastClosed
  rw [hleaf]
  exact (h.withLeaf _ hsound).closeLeaf

/-- Closing the innermost container closes the same one of both readings. -/
theorem nested (hb : endsInList below = false) (h : Over below found r r') {f outer : Frame} {rest : List Frame}
    (hr : r.frames = f :: outer :: rest) :
    ∃ outer' rest', r'.frames = f :: outer' :: rest' ∧
      Over below found { r with frames := Reading.nest f outer :: rest }
        { r' with frames := Reading.nest f outer' :: rest' } := by
  obtain ⟨inner, children, hframes, hframes', hinner⟩ := h.frames
  rw [hr] at hframes
  match inner, hframes, hinner with
  | [_], hframes, _ =>
    obtain ⟨rfl, rfl, rfl⟩ : f = _ ∧ outer = _ ∧ rest = _ := by simpa using hframes
    obtain ⟨joined, hjoined, hjoined'⟩ := nest hb f children
    refine ⟨_, _, hframes', ?_⟩
    rw [hjoined, hjoined']
    exact ⟨h.leaf, h.sound, h.definitions, [], joined, rfl, rfl, nofun⟩
  | _ :: _ :: inner, hframes, hinner =>
    obtain ⟨rfl, rfl, rfl⟩ : f = _ ∧ outer = _ ∧ rest = _ := by simpa using hframes
    obtain ⟨houter, hrest⟩ := List.forall_mem_cons.1 (List.forall_mem_cons.1 hinner).2
    refine ⟨_, _, hframes', h.leaf, h.sound, h.definitions, Reading.nest f outer :: inner, children, rfl, rfl, ?_⟩
    exact List.forall_mem_cons.2 ⟨by rwa [container_nest], hrest⟩

theorem closeInner (hb : endsInList below = false) (h : Over below found r r') (n : Nat) :
    Over below found (r.closeInner n) (r'.closeInner n) := by
  induction n generalizing r r' with
  | zero => exact h
  | succ n ih =>
    have hclosed := h.lastClosed
    match hr : (Draft.lastClosed r).frames with
    | [] =>
      obtain ⟨inner, children, hframes, -⟩ := hclosed.frames
      rw [hr] at hframes
      exact absurd hframes.symm (by simp)
    | [f] =>
      obtain ⟨f', hr'⟩ := List.length_eq_one_iff.1 (hclosed.length.trans (congrArg List.length hr))
      rw [closeInner_document hr, closeInner_document hr']
      exact hclosed
    | f :: outer :: rest =>
      obtain ⟨outer', rest', hr', hnested⟩ := hclosed.nested hb hr
      rw [closeInner_nested hr, closeInner_nested hr']
      exact ih hnested

end Over

/-! ## Lines -/

/-- The document always goes on, whatever it holds. -/
theorem continued_document (leaf : Leaf) (children : List Draft) (fs : List Frame) (l : Line) :
    continued leaf (⟨.document, children⟩ :: fs) l = ((continued leaf fs l).1 + 1, (continued leaf fs l).2) := rfl

theorem isSound_of_fence? {cs : List Char} {mark : Char} {size indent : Nat} {info : List Char}
    (h : Marker.fence? cs = some (mark, size, info)) : (Leaf.fenced mark size indent info []).IsSound := by
  cases cs with
  | nil => cases h
  | cons c rest =>
    unfold Marker.fence? at h
    dsimp only at h
    split at h
    next htest =>
      obtain ⟨rfl, rfl, -⟩ := Prod.mk.injEq .. ▸ Option.some.inj h
      simp only [Bool.and_eq_true, Bool.or_eq_true, beq_iff_eq, decide_eq_true_eq] at htest
      obtain ⟨⟨hmark, hsize⟩, -⟩ := htest
      refine ⟨?_, by omega⟩
      rintro rfl
      exact absurd hmark (by decide)
    next => cases h

theorem size_pos_of_bullet? {cs : List Char} {b : Marker.Bullet} (h : Marker.bullet? cs = some b) : 0 < b.size := by
  unfold Marker.bullet? at h
  dsimp only at h
  split at h
  · split at h
    · split at h
      · obtain rfl := Option.some.inj h
        exact Nat.one_pos
      · cases h
    · cases h
  · split at h
    · split at h
      · obtain rfl := Option.some.inj h
        exact Nat.succ_pos _
      · cases h
    · cases h

/-- The reading in which a line has made a heading of the paragraph above it. -/
def underlined? (last : Leaf) (r : Reading) (fits : Bool) (inner : Nat) (l : Line) : Option Reading :=
  let paragraph := match last with
    | .paragraph _ => true
    | _ => false
  if paragraph && fits && inner = 0 then
    match last, Marker.underline? l.body with
    | .paragraph lines, some level =>
      let (settled, text) := { r with leaf := .none }.settle lines
      if text.isEmpty then none else some (settled.add (.heading level text))
    | _, _ => none
  else none

/-- The readings that two lines open, with how they go on. -/
def Outcome (below : List Draft) (found : Definitions) (x x' : Reading × Nat × Bool × Option Line) : Prop :=
  Over below found x.1 x'.1 ∧ x'.2 = x.2

/-- What is opened where no heading is made is opened of both readings. -/
theorem Outcome.ofUnderlined {x x' : Option Reading} {y y' : Reading × Nat × Bool × Option Line} :
    Option.Rel (Over below found) x x' → Outcome below found y y' →
      Outcome below found (match x with | some r => (r, 0, true, none) | none => y)
        (match x' with | some r => (r, 0, true, none) | none => y') := by
  intro hx hy
  cases hx with
  | some hheading => exact ⟨hheading, rfl⟩
  | none => exact hy

namespace Over

protected theorem continued (h : Over below found r r') (l : Line) :
    continued r'.leaf r'.frames.reverse l = continued r.leaf r.frames.reverse l := by
  obtain ⟨inner, children, hr, hr', -⟩ := h.frames
  rw [h.leaf, hr, hr', List.reverse_concat, List.reverse_concat, continued_document, continued_document]

protected theorem addVerbatim (h : Over below found r r') (l : Line) :
    Option.Rel (Over below found) (addVerbatim r l) (addVerbatim r' l) := by
  unfold addVerbatim
  rw [h.leaf]
  have hclosed := h.closeLeaf
  have hsound := h.sound
  cases hleaf : r.leaf with
  | none => exact .none
  | paragraph lines => exact .none
  | fenced mark size indent info lines =>
    rw [hleaf] at hsound
    dsimp only
    split
    · exact .some hclosed
    · exact .some (h.withLeaf _ hsound)
  | indented lines =>
    dsimp only
    split
    · exact .some (h.withLeaf _ trivial)
    · split
      · exact .some (h.withLeaf _ trivial)
      · exact .none
  | html ending lines =>
    dsimp only
    split
    · exact .none
    · have hadded := h.withLeaf (.html ending (l.content :: lines)) trivial
      rcases ending with text | _
      · dsimp only
        split
        · exact .some hadded.closeLeaf
        · exact .some hadded
      · exact .some hadded

theorem underlined (h : Over below found r r') (last : Leaf) (fits : Bool) (inner : Nat) (l : Line) :
    Option.Rel (Over below found) (underlined? last r fits inner l) (underlined? last r' fits inner l) := by
  unfold underlined?
  cases last with
  | paragraph lines =>
    obtain ⟨hsettled, htext⟩ := (h.withLeaf .none trivial).settle lines
    dsimp only
    split
    · cases Marker.underline? l.body with
      | none => exact .none
      | some level =>
        dsimp only
        rw [htext]
        split
        · exact .none
        · exact .some (hsettled.add _)
    · exact .none
  | _ =>
    dsimp only
    split <;> exact .none

protected theorem openBlocks (hb : endsInList below = false) (n : Nat) (h : Over below found r r') (inner : Nat) (fits : Bool)
    (l : Line) : Outcome below found (openBlocks n r inner fits l) (openBlocks n r' inner fits l) := by
  induction n generalizing r r' inner fits l with
  | zero => exact ⟨h, rfl⟩
  | succ n ih =>
    have hclosed := (h.closeInner hb inner).closeLeaf
    obtain ⟨hquote, hlist⟩ := h.allowed inner
    rw [openBlocks, openBlocks]
    dsimp only
    rw [h.leaf, hquote, hlist]
    by_cases hblank : l.isBlank = true
    · rw [if_pos hblank, if_pos hblank]
      exact ⟨h, rfl⟩
    rw [if_neg hblank, if_neg hblank]
    by_cases hindent : l.indent ≥ 4
    · rw [if_pos hindent, if_pos hindent]
      split
      · exact ⟨h, rfl⟩
      · exact ⟨hclosed.withLeaf _ trivial, rfl⟩
    rw [if_neg hindent, if_neg hindent]
    split
    · exact ih (hclosed.enter (c := .quote) trivial) ..
    cases hheading : Marker.heading? l.body with
    | some found => exact ⟨hclosed.add _, rfl⟩
    | none =>
      dsimp only
      cases hfence : Marker.fence? l.body with
      | some found => exact ⟨hclosed.withLeaf _ (isSound_of_fence? hfence), rfl⟩
      | none =>
        dsimp only
        generalize Option.filter _ (Marker.markup? l.body) = markup
        cases markup with
        | some markup =>
          obtain ⟨ending, interrupts⟩ := markup
          have hopened := hclosed.withLeaf (.html ending [l.content]) trivial
          rcases ending with text | _
          · dsimp only
            split
            · exact ⟨hopened.closeLeaf, rfl⟩
            · exact ⟨hopened, rfl⟩
          · exact ⟨hopened, rfl⟩
        | none =>
          dsimp only
          refine Outcome.ofUnderlined (h.underlined r.leaf fits inner l) ?_
          split
          · exact ⟨hclosed.add .rule, rfl⟩
          generalize hbullet : Option.filter _ (Marker.bullet? l.body) = bullet
          cases bullet with
          | none => exact ⟨h, rfl⟩
          | some bullet =>
            have hsize : 0 < bullet.size := size_pos_of_bullet? (Option.filter_eq_some_iff.1 hbullet).1
            exact ih (hclosed.enter (c := .item ..) (Nat.add_pos_right _ (Nat.add_pos_left hsize _))) ..

/-- A line is read as if nothing lay below. -/
protected theorem readLine (hb : endsInList below = false) (h : Over below found r r') (text : List Char) :
    Over below found (readLine r text) (readLine r' text) := by
  unfold readLine
  rw [h.continued, h.length, h.leaf]
  generalize continued r.leaf r.frames.reverse { text } = reached
  obtain ⟨matched, l⟩ := reached
  dsimp only
  have htaken : Option.Rel (Over below found) (if r.frames.length - matched = 0 then addVerbatim r l else none)
      (if r.frames.length - matched = 0 then addVerbatim r' l else none) := by
    split
    · exact h.addVerbatim l
    · exact .none
  generalize (if r.frames.length - matched = 0 then addVerbatim r l else none) = taken at htaken ⊢
  generalize (if r.frames.length - matched = 0 then addVerbatim r' l else none) = taken' at htaken ⊢
  cases htaken with
  | some hadded => exact hadded
  | none =>
    dsimp only
    generalize hx : openBlocks (text.length + 1) r (r.frames.length - matched) _ l = opened
    generalize hx' : openBlocks (text.length + 1) r' (r.frames.length - matched) _ l = opened'
    obtain ⟨hopened, hrest⟩ : Outcome below found opened opened' := by
      rw [← hx, ← hx']
      exact h.openBlocks hb ..
    obtain ⟨s, inner, fits, left⟩ := opened
    obtain ⟨s', rest'⟩ := opened'
    obtain rfl : rest' = (inner, fits, left) := hrest
    cases left with
    | none => exact hopened
    | some l =>
      have hclosed := (hopened.closeInner hb inner).closeLeaf
      dsimp only at hopened hclosed ⊢
      rw [hopened.leaf]
      cases s.leaf with
      | paragraph lines =>
        dsimp only
        split
        · exact hclosed
        · exact hopened.withLeaf _ trivial
      | _ =>
        dsimp only
        split
        · exact hclosed
        · exact hclosed.withLeaf _ trivial

theorem readLines (hb : endsInList below = false) (h : Over below found r r') (lines : List (List Char)) :
    Over below found (lines.foldl readLine r) (lines.foldl readLine r') := by
  induction lines generalizing r r' with
  | nil => exact h
  | cons line rest ih => exact ih (h.readLine hb line)

end Over

end

/-! ## Readings of documents -/

/-- What holds of a reading of lines: the outermost container is the document, and those in it go on only with lines
that begin as they demand. -/
abbrev Sound (r : Reading) : Prop := Over [] [] r r

/-- A reading with all that is in the document closed. -/
def closed (r : Reading) : Reading := (r.closeInner r.frames.length).closeLeaf

/-- A reading with nothing open in the document, which has some blocks, newest first. -/
def settled (children : List Draft) (definitions : Definitions) : Reading :=
  { frames := [⟨.document, children⟩], leaf := .none, definitions }

/-- The blocks of the document once all is closed, newest first. -/
def blocksOf (r : Reading) : List Draft := ((closed r).frames.headD ⟨.document, []⟩).children

theorem ofLines_eq (lines : List (List Char)) :
    (ofLines lines).1 = (blocksOf (lines.foldl readLine {})).reverse := rfl

section
variable {r : Reading}

theorem length_add (d : Draft) (r : Reading) : (r.add d).frames.length = r.frames.length := by
  unfold Reading.add
  cases h : r.frames with
  | nil => rw [h]
  | cons f rest => rfl

theorem leaf_add (d : Draft) (r : Reading) : (r.add d).leaf = r.leaf := by
  unfold Reading.add
  cases r.frames <;> rfl

theorem closeLeaf_frames (r : Reading) : r.closeLeaf.frames.length = r.frames.length ∧ r.closeLeaf.leaf = .none := by
  unfold Reading.closeLeaf
  cases h : r.leaf with
  | none => exact ⟨rfl, h⟩
  | paragraph lines =>
    dsimp only
    split
    · exact ⟨rfl, rfl⟩
    · exact ⟨length_add .., leaf_add ..⟩
  | _ => exact ⟨length_add .., leaf_add ..⟩

theorem closeLeaf_of_none (h : r.leaf = .none) : r.closeLeaf = r := by
  unfold Reading.closeLeaf
  rw [h]

theorem exists_settled (h : Sound r) (hone : r.frames.length = 1) (hleaf : r.leaf = .none) :
    ∃ children, r = settled children r.definitions := by
  obtain ⟨inner, children, hr, -⟩ := h.frames
  rw [hr, List.length_append] at hone
  obtain rfl := List.eq_nil_of_length_eq_zero (Nat.add_right_cancel hone : inner.length = 0)
  refine ⟨children, ?_⟩
  obtain ⟨frames, leaf, definitions⟩ := r
  obtain rfl : frames = _ := hr
  obtain rfl : leaf = _ := hleaf
  rfl

/-- Closing the document itself closes its leaf, and that is all. -/
theorem closeInner_eq (h : Sound r) {n : Nat} (hn : r.frames.length = n + 1) :
    r.closeInner (n + 1) = (r.closeInner n).closeLeaf ∧ (r.closeInner n).frames.length = 1 := by
  induction n generalizing r with
  | zero =>
    have hlast : lastClosed r = r.closeLeaf := by
      obtain ⟨inner, children, hr, -⟩ := h.frames
      rw [hr, List.length_append] at hn
      obtain rfl := List.eq_nil_of_length_eq_zero (Nat.add_right_cancel hn : inner.length = 0)
      unfold lastClosed endedLeaf
      rw [hr]
      obtain ⟨frames, leaf, definitions⟩ := r
      obtain rfl : frames = _ := hr
      rfl
    obtain ⟨f, hf⟩ := List.length_eq_one_iff.1 ((closeLeaf_frames r).1.trans hn)
    rw [closeInner_document (hlast ▸ hf), hlast]
    exact ⟨rfl, hn⟩
  | succ n ih =>
    have hlength : (lastClosed r).frames.length = n + 1 + 1 := (closeLeaf_frames _).1.trans hn
    match hr : (lastClosed r).frames with
    | [] | [_] =>
      rw [hr] at hlength
      simp at hlength
    | f :: outer :: rest =>
      obtain ⟨outer', rest', hr', hnested⟩ := h.lastClosed.nested rfl hr
      obtain ⟨-, rfl, rfl⟩ : f = f ∧ outer = outer' ∧ rest = rest' := by simpa using hr.symm.trans hr'
      rw [closeInner_nested hr, closeInner_nested hr]
      rw [hr] at hlength
      exact ih hnested (by simpa using hlength)

/-- All that is in the document is closed where all but the document is. -/
theorem closed_eq (h : Sound r) : closed r = (r.closeInner (r.frames.length - 1)).closeLeaf := by
  obtain ⟨inner, children, hr, -⟩ := h.frames
  have hn : r.frames.length = inner.length + 1 := by rw [hr, List.length_append, List.length_singleton]
  rw [closed, hn, (closeInner_eq h hn).1, closeLeaf_of_none (closeLeaf_frames _).2, Nat.add_sub_cancel]

theorem closed_eq_settled (h : Sound r) : closed r = settled (blocksOf r) (closed r).definitions := by
  obtain ⟨inner, children, hr, -⟩ := h.frames
  have hn : r.frames.length = inner.length + 1 := by rw [hr, List.length_append, List.length_singleton]
  have hone : (closed r).frames.length = 1 := by
    rw [closed, hn, (closeInner_eq h hn).1, (closeLeaf_frames _).1, (closeLeaf_frames _).1, (closeInner_eq h hn).2]
  have hsound : Sound (closed r) := (h.closeInner rfl _).closeLeaf
  obtain ⟨blocks, hblocks⟩ := exists_settled hsound hone (closeLeaf_frames _).2
  rw [blocksOf, hblocks]
  rfl

end

theorem sound_lines (lines : List (List Char)) : Sound (lines.foldl readLine {}) := by
  have hstart : Sound {} := ⟨rfl, trivial, rfl, [], [], rfl, rfl, nofun⟩
  exact hstart.readLines rfl lines

/-- Lines behind closed blocks are read as if they were a document of their own, unless the last of these is a list. -/
theorem blocksOf_settled {children : List Draft} (hb : endsInList children = false) (definitions : Definitions)
    (lines : List (List Char)) :
    blocksOf (lines.foldl readLine (settled children definitions)) =
      blocksOf (lines.foldl readLine {}) ++ children := by
  have hstart : Over children definitions {} (settled children definitions) :=
    ⟨rfl, trivial, rfl, [], [], rfl, rfl, nofun⟩
  have hlines := hstart.readLines hb lines
  have hclosed : Over children definitions (closed (lines.foldl readLine {}))
      (closed (lines.foldl readLine (settled children definitions))) := by
    unfold closed
    rw [hlines.length]
    exact (hlines.closeInner hb _).closeLeaf
  obtain ⟨inner, own, hr, hr', -⟩ := hclosed.frames
  rw [closed_eq_settled (sound_lines lines), settled] at hr
  cases inner with
  | nil =>
    obtain rfl : blocksOf (lines.foldl readLine {}) = own := by simpa using hr
    rw [blocksOf, hr']
    rfl
  | cons f rest =>
    have hlength := congrArg List.length hr
    simp at hlength

end WebClip.Markdown.Draft
