import WebClip.Proofs.Coverage
/-!
# Servers of pages

A service that keeps the blocks of a page lists each part of it as the blocks then are. What an id
stands for changes only when an update of that block is answered, and then in its image alone.
-/

namespace WebClip

open Act

/-! ## Pages as they now are -/

namespace Tree

mutual

/-- The tree with the blocks that its ids now stand for. -/
def now (f : Value → Value) : Tree → Tree
  | node id _ children => node id (f id) (nowAll f children)

/-- The trees with the blocks that their ids now stand for. -/
def nowAll (f : Value → Value) : List Tree → List Tree
  | [] => []
  | t :: rest => now f t :: nowAll f rest

end

/-- The parts of a page with the blocks that their ids now stand for. -/
def cutsNow (f : Value → Value) (cuts : Value → List (Value × List Tree)) (id : Value) : List (Value × List Tree) :=
  (cuts id).map fun cut => (cut.1, cut.2.map (now f))

variable (f g : Value → Value)

theorem nowAll_eq (ts : List Tree) : nowAll f ts = ts.map (now f) := by
  induction ts with
  | nil => rfl
  | cons t rest ih => rw [nowAll, ih, List.map_cons]

@[simp] theorem id_now (t : Tree) : (t.now f).id = t.id := by
  cases t with
  | node => rw [now, id, id]

@[simp] theorem block_now (t : Tree) : (t.now f).block = f t.id := by
  cases t with
  | node => rw [now, block, id]

@[simp] theorem children_now (t : Tree) : (t.now f).children = t.children.map (now f) := by
  cases t with
  | node => rw [now, children, children, nowAll_eq]

@[simp] theorem isInner_now (t : Tree) : (t.now f).isInner = t.isInner := by simp [isInner]

mutual

theorem now_now : ∀ t : Tree, (t.now f).now g = t.now g
  | node id _ children => by rw [now, now, now, nowAll_nowAll children]

theorem nowAll_nowAll : ∀ ts : List Tree, nowAll g (nowAll f ts) = nowAll g ts
  | [] => rfl
  | t :: rest => by rw [nowAll, nowAll, nowAll, now_now t, nowAll_nowAll rest]

end

mutual

theorem descendants_now : ∀ t : Tree, (t.now f).descendants = t.descendants.map (now f)
  | node id _ children => by rw [now, descendants, descendants, preorder_nowAll children]

theorem preorder_nowAll : ∀ ts : List Tree, preorder (nowAll f ts) = (preorder ts).map (now f)
  | [] => rfl
  | t :: rest => by
    rw [nowAll, preorder, preorder, descendants_now t, preorder_nowAll rest, List.map_cons, List.map_append]

end

theorem breadthFirst_now (ts : List Tree) : breadthFirst (ts.map (now f)) = (breadthFirst ts).map (now f) := by
  have hchildren (us : List Tree) : (us.map (now f)).flatMap children = (us.flatMap children).map (now f) := by
    rw [List.flatMap_map, List.map_flatMap]
    exact List.flatMap_congr fun u _ => children_now f u
  fun_induction breadthFirst ts with
  | case1 => rw [List.map_nil, breadthFirst_nil]
  | case2 t rest ih => rw [breadthFirst_eq, hchildren, ih, List.map_append]

theorem parents_now (t : Tree) : (t.now f).parents = t.parents.map (now f) := by
  rw [parents, parents, children_now, breadthFirst_now, List.filter_map, List.map_cons]
  refine congrArg _ (congrArg _ (List.filter_congr fun u _ => ?_))
  exact isInner_now f u

end Tree

/-- The part with the blocks that its ids now stand for. -/
def Part.now (f : Value → Value) (p : Part) : Part := { p with blocks := p.blocks.map (Tree.now f) }

theorem Part.now_now (f g : Value → Value) (p : Part) : (p.now f).now g = p.now g := by
  rw [now, now, now, List.map_map]
  exact congrArg (fun blocks => { p with blocks := blocks }) (List.map_congr_left fun t _ => Tree.now_now f g t)

/-- Where the blocks of a part have not changed, what lists them now lists the part. -/
theorem Part.reads_of_now {f : Value → Value} {p : Part} {reply : Value} (h : (p.now f).Reads reply)
    (hkept : ∀ t ∈ p.blocks, f t.id = t.block) : p.Reads reply := by
  obtain ⟨hblocks, hnext⟩ := h
  have hsame : (p.now f).blocks.map Tree.block = p.blocks.map Tree.block := by
    rw [now, List.map_map]
    refine List.map_congr_left fun t ht => ?_
    exact (Tree.block_now f t).trans (hkept t ht)
  rw [hsame] at hblocks
  exact ⟨hblocks, hnext⟩

namespace Tree

variable {root : Tree} {cuts : Value → List (Value × List Tree)} (f : Value → Value)

theorem partsFrom_now (parent : Value) (cut : List (Value × List Tree)) :
    partsFrom parent (cut.map fun x => (x.1, x.2.map (now f))) = (partsFrom parent cut).map (Part.now f) := by
  induction cut with
  | nil => rfl
  | cons x rest ih =>
    rw [List.map_cons, partsFrom, partsFrom, ih, List.map_cons, List.head?_map, Option.map_map]
    rfl

theorem parts_now (root : Tree) (cuts : Value → List (Value × List Tree)) :
    (root.now f).parts (cutsNow f cuts) = (root.parts cuts).map (Part.now f) := by
  rw [parts, parts, parents_now, List.flatMap_map, List.map_flatMap]
  refine List.flatMap_congr fun t _ => ?_
  rw [id_now, cutsNow, partsFrom_now]

/-- A page is served as well when its blocks have changed, as long as they can be read. -/
theorem Served.now (h : root.Served cuts) (hreadable : ∀ t ∈ root.descendants, (t.now f).Readable) :
    (root.now f).Served (cutsNow f cuts) := by
  have hparents {P : Tree → Prop} (hP : ∀ t ∈ root.parents, P (t.now f)) : ∀ t ∈ (root.now f).parents, P t := by
    rw [parents_now]
    exact List.forall_mem_map.2 hP
  constructor
  · have hids : ((root.now f) :: (root.now f).descendants).map id = (root :: root.descendants).map id := by
      rw [descendants_now, List.map_cons, List.map_cons, List.map_map, id_now]
      exact congrArg _ (List.map_congr_left fun t _ => id_now f t)
    rw [hids]
    exact h.distinct
  · rw [descendants_now]
    exact List.forall_mem_map.2 hreadable
  · refine hparents fun t ht => ?_
    rw [id_now, children_now, ← h.whole t ht, cutsNow, List.flatMap_map, List.map_flatMap]
  · refine hparents fun t ht => ?_
    rw [id_now, cutsNow, List.head?_map, Option.map_map]
    exact h.first t ht
  · refine hparents fun t ht => ?_
    rw [id_now, cutsNow, List.map_map]
    exact h.fresh t ht

end Tree

/-! ## Blocks with another image -/

namespace Sweep

/-- The block with another image. -/
def withImage (image : Value) : Value → Value
  | .record fields => .record (putKey "image" image fields)
  | block => block

/-- What the image of a block is changed to. -/
def uploadImage (id caption : Value) : Value :=
  .record [("type", .text "file_upload"), ("file_upload", .record [("id", id)]), ("caption", caption)]

/-- The image of a block has become an upload with its caption, and nothing else of the block has changed. -/
structure Uploaded (id before after : Value) : Prop where
  image : ∃ caption, Reply.require after "image" = .ok (uploadImage id caption)
  caption : imageCaption after = imageCaption before
  others : ∀ key, key ≠ "image" → ∀ default, Reply.getD after key default = Reply.getD before key default
  required : ∀ key, key ≠ "image" → Reply.require after key = Reply.require before key

variable {id before after block caption : Value}

theorem uploaded_withImage (h : imageCaption block = .ok caption) :
    Uploaded id block (withImage (uploadImage id caption) block) := by
  cases block with
  | record fields =>
    have himage : Reply.require (withImage (uploadImage id caption) (.record fields)) "image" =
        .ok (uploadImage id caption) := by
      rw [withImage, Reply.require, lookup_putKey_self]
    refine ⟨⟨caption, himage⟩, ?_, fun key hkey default => ?_, fun key hkey => ?_⟩
    · rw [h, imageCaption, himage]
      rfl
    · rw [withImage, Reply.getD, Reply.getD, lookup_putKey_of_ne hkey]
    · rw [withImage, Reply.require, Reply.require, lookup_putKey_of_ne hkey]
  | _ => cases h

/-- A block whose image has become an upload has no image at a URL of its own. -/
theorem Uploaded.not_external (h : Uploaded id before after) : Reply.isExternalImage after = .ok false := by
  obtain ⟨caption, himage⟩ := h.image
  cases after with
  | record fields =>
    have hfield : Reply.getD (.record fields) "image" (.record []) = .ok (uploadImage id caption) := by
      rw [Reply.require] at himage
      rw [Reply.getD]
      split at himage
      next x hx => rw [hx, ← himage]; rfl
      next => cases himage
    rw [Reply.isExternalImage, hfield, Reply.get, Reply.getD]
    simp only [bind, Except.bind]
    split <;> rfl
  | _ => cases himage

/-- It can be read as it could before. -/
theorem Uploaded.readable {f : Value → Value} {t : Tree} (h : Uploaded id t.block (f t.id)) (ht : t.Readable) :
    (t.now f).Readable := by
  refine ⟨?_, ?_, ?_⟩
  · rw [Tree.block_now, Tree.id_now, h.required "id" (by decide)]
    exact ht.id
  · rw [Tree.block_now, Tree.isInner_now, Reply.get, h.others "has_children" (by decide)]
    exact ht.children
  · rw [Tree.block_now]
    exact ⟨false, h.not_external⟩

end Sweep

/-! ## Servers -/

variable {σ τ : Type}

/-- The service keeps the blocks of a page. `content` tells what each id stands for: a part of the page is
listed as it now is, and an update of an image that is answered changes the image of its block. No other block
is changed by it, nor is any by an update that is not answered, by a listing, an upload or a download. -/
structure Outside.Keeps (o : Outside σ τ) (root : Tree) (cuts : Value → List (Value × List Tree))
    (content : σ → Value → Value) : Prop where
  listed : ∀ p ∈ root.parts cuts, ∀ w reply,
    (o.ask (.children p.parent (.int maxBatch) p.cursor) w).1 = .answer reply → (p.now (content w)).Reads reply
  updated : ∀ t ∈ root.descendants, ∀ image w reply, (o.ask (.update t.id [("image", image)]) w).1 = .answer reply →
    content (o.ask (.update t.id [("image", image)]) w).2 t.id = Sweep.withImage image (content w t.id)
  others : ∀ t ∈ root.descendants, ∀ image w id, id ≠ t.id →
    content (o.ask (.update t.id [("image", image)]) w).2 id = content w id
  failed : ∀ id payload w, (∀ reply, (o.ask (.update id payload) w).1 ≠ .answer reply) →
    content (o.ask (.update id payload) w).2 = content w
  asked : ∀ parent cursor w, content (o.ask (.children parent (.int maxBatch) cursor) w).2 = content w
  uploaded : ∀ r w, content (o.upload r w).2 = content w
  fetched : ∀ url w, content (o.fetch url w).2 = content w

/-- A service that keeps the blocks of a page keeps those of the page as it now is. -/
theorem Outside.Keeps.now {o : Outside σ τ} {root : Tree} {cuts : Value → List (Value × List Tree)}
    {content : σ → Value → Value} (h : o.Keeps root cuts content) (f : Value → Value) :
    o.Keeps (root.now f) (Tree.cutsNow f cuts) content := by
  refine { h with listed := ?_, updated := ?_, others := ?_ }
  · rw [Tree.parts_now]
    refine List.forall_mem_map.2 fun p hp w reply hreply => ?_
    rw [Part.now_now]
    exact h.listed p hp w reply hreply
  · rw [Tree.descendants_now]
    refine List.forall_mem_map.2 fun t ht => ?_
    rw [Tree.id_now]
    exact h.updated t ht
  · rw [Tree.descendants_now]
    refine List.forall_mem_map.2 fun t ht => ?_
    rw [Tree.id_now]
    exact h.others t ht

section Kept
variable [Clock τ] {c : Clipper σ τ} {root : Tree} {cuts : Value → List (Value × List Tree)}
  {content : σ → Value → Value} {s t : Session σ τ} {d : Deed} {ds : List Deed}

/-- A request is refused by the budget, or its result and what it leaves outside are those of the answer. -/
theorem Act.carryOut_ask (r : Request) (s : Session σ τ) :
    ((carryOut (ask r) c s).2.outside = s.outside ∧ ∃ e, (carryOut (ask r) c s).1 = .error e) ∨
      ((carryOut (ask r) c s).2.outside = (c.outside.ask r s.outside).2 ∧
        (carryOut (ask r) c s).1 = (c.outside.ask r s.outside).1.outcome r.label) := by
  rcases ask_cases (c := c) r s with ⟨e, n, -, heq⟩ | ⟨b, -, heq⟩ <;> rw [heq]
  · exact .inl ⟨rfl, _, rfl⟩
  · exact .inr ⟨rfl, rfl⟩

theorem Response.answer_of_outcome {α : Type} {label : String} {r : Response α} {a : α} (h : r.outcome label = .ok a) :
    r = .answer a := by
  cases r with
  | answer => exact congrArg _ (Except.ok.inj h)
  | failure => cases h
  | silence => cases h

variable (hkeeps : c.outside.Keeps root cuts content)
include hkeeps

/-- Moves that ask nothing of the service change no block. -/
theorem Session.Path.kept {ms : List Move} (h : Session.Path c s ms t) (hms : ∀ r a, Move.asked r a ∉ ms) :
    content t.outside = content s.outside := by
  induction h with
  | nil => rfl
  | cons hm _ ih =>
    rw [ih fun r a hmem => hms r a (List.mem_cons_of_mem _ hmem)]
    cases hm with
    | asked => exact absurd List.mem_cons_self (hms _ _)
    | uploaded => exact hkeeps.uploaded _ _
    | fetched => exact hkeeps.fetched _ _
    | _ => rfl

/-- Only an update that is answered changes a block. -/
theorem Session.Makes.kept (h : Makes c s d t) (hd : d.changes = false) : content t.outside = content s.outside := by
  cases h with
  | noted => rfl
  | @listed _ parent cursor _ h =>
    obtain rfl := (congrArg Prod.snd h).symm
    rcases carryOut_ask (c := c) (.children parent (.int maxBatch) cursor) s with ⟨hsame, -⟩ | ⟨hout, -⟩
    · exact congrArg _ hsame
    · exact (congrArg _ hout).trans (hkeeps.asked parent cursor _)
  | @downloaded _ url _ h =>
    obtain rfl := (congrArg Prod.snd h).symm
    have hfetch : Does c (fun m => ∀ r a, m ≠ .asked r a) (Download.Fetched c url) (Download.run url) :=
      Download.run_does (fun _ _ => nofun) url
    obtain ⟨ms, hp, hms, -⟩ := hfetch s
    exact hp.kept hkeeps fun r a hmem => hms _ hmem r a rfl
  | @uploaded _ image _ h =>
    obtain rfl := (congrArg Prod.snd h).symm
    obtain ⟨ms, hp, hms, -⟩ := upload_does (c := c) image.url image.fileName image.contentType image.content s
    exact hp.kept hkeeps fun r a hmem => hms _ hmem
  | @updated _ id payload o h =>
    obtain rfl := (congrArg Prod.snd h).symm
    obtain rfl := (congrArg Prod.fst h).symm
    rcases carryOut_ask (c := c) (.update id payload) s with ⟨hsame, -⟩ | ⟨hout, hresult⟩
    · exact congrArg _ hsame
    · refine (congrArg _ hout).trans (hkeeps.failed _ _ _ fun reply hreply => ?_)
      rw [hreply] at hresult
      rw [Deed.changes, Service.update, hresult] at hd
      cases hd

theorem Session.Course.kept (h : Course c s ds t) (hds : ∀ d ∈ ds, d.changes = false) :
    content t.outside = content s.outside := by
  induction h with
  | nil => rfl
  | told _ _ ih => exact ih hds
  | cons hd _ ih =>
    obtain ⟨hd', hrest⟩ := List.forall_mem_cons.1 hds
    exact (ih hrest).trans (hd.kept hkeeps hd')

/-- An update that is answered changes the image of its block, and no other block. -/
theorem Session.Makes.update {u : Tree} (hu : u ∈ root.descendants) {image reply : Value}
    (h : Makes c s (.updated u.id [("image", image)] (.ok reply)) t) :
    content t.outside u.id = Sweep.withImage image (content s.outside u.id) ∧
      ∀ id, id ≠ u.id → content t.outside id = content s.outside id := by
  cases h with
  | updated h =>
    obtain rfl := (congrArg Prod.snd h).symm
    have hok : (carryOut (ask (.update u.id [("image", image)])) c s).1 = .ok reply := congrArg Prod.fst h
    rcases carryOut_ask (c := c) (.update u.id [("image", image)]) s with ⟨-, e, he⟩ | ⟨hout, hresult⟩
    · rw [hok] at he
      cases he
    · have hanswer := Response.answer_of_outcome (hresult.symm.trans hok)
      change content (carryOut (ask (.update u.id [("image", image)])) c s).2.outside u.id = _ ∧
        ∀ id, id ≠ u.id → content (carryOut (ask (.update u.id [("image", image)])) c s).2.outside id = _
      rw [hout]
      exact ⟨hkeeps.updated u hu image _ reply hanswer, hkeeps.others u hu image _⟩

/-- A listing that is answered lists the part of the page that it asks for, as that then is. -/
theorem Session.Makes.listed_reads {p : Part} (hp : p ∈ root.parts cuts) {reply : Value}
    (h : Makes c s (.listed p.parent p.cursor (.ok reply)) t) : (p.now (content s.outside)).Reads reply := by
  cases h with
  | listed h =>
    have hok : (carryOut (ask (.children p.parent (.int maxBatch) p.cursor)) c s).1 = .ok reply :=
      congrArg Prod.fst h
    rcases carryOut_ask (c := c) (.children p.parent (.int maxBatch) p.cursor) s with ⟨-, e, he⟩ | ⟨-, hresult⟩
    · rw [hok] at he
      cases he
    · exact hkeeps.listed p hp _ reply (Response.answer_of_outcome (hresult.symm.trans hok))

end Kept

end WebClip
