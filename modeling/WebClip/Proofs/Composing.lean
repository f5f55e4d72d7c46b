import WebClip.Proofs.Saves
/-!
# What a save composes and sends

A save reads an article, looks after its images and composes one page. The request that creates a
page is that of the composed page, and the blocks that are sent are those of the page from the
first on. A save that returns has sent them all, and its counts are those of the page.
-/

namespace WebClip

open Act

/-! ## Sending blocks -/

namespace Move

/-- The blocks that a move sends: those of a request that is made, whatever comes of it. -/
def sent : Move → List Value
  | asked r _ => r.carried
  | _ => []

/-- The blocks that moves send, in order. -/
def sentBlocks (ms : List Move) : List Value := ms.flatMap sent

variable {m : Move} {ms ns : List Move}

@[simp] theorem sentBlocks_nil : sentBlocks [] = [] := rfl

@[simp] theorem sentBlocks_cons : sentBlocks (m :: ms) = m.sent ++ sentBlocks ms := rfl

@[simp] theorem sentBlocks_append : sentBlocks (ms ++ ns) = sentBlocks ms ++ sentBlocks ns := List.flatMap_append

/-- What is written has been sent. -/
theorem blocks_sublist (ms : List Move) : (blocks ms).Sublist (sentBlocks ms) := by
  induction ms with
  | nil => exact .slnil
  | cons m rest ih =>
    rw [blocks_cons, sentBlocks_cons]
    refine .append ?_ ih
    cases m with
    | asked r a =>
      cases a with
      | answer => exact .refl _
      | _ => exact List.nil_sublist _
    | _ => exact List.nil_sublist _

theorem Quiet.sent_eq (h : m.Quiet) : m.sent = [] := by
  cases m with
  | asked q a => exact h.carried_eq
  | _ => rfl

theorem sentBlocks_of_quiet (h : ∀ m ∈ ms, m.Quiet) : sentBlocks ms = [] :=
  List.flatMap_eq_nil_iff.2 fun m hm => (h m hm).sent_eq

/-- The diagnostics that a move sets, if it sets any. -/
def diagnosed? : Move → Option (List String)
  | diagnosed ds => some ds
  | _ => none

/-- A move of writing a page: no other page is made, and no diagnostics are set. -/
def OfWriting (page : Value) : Move → Prop
  | told _ | refused | remembered _ => True
  | asked r _ => ∀ p, r = .createPage p → p = page
  | _ => False

theorem OfWriting.diagnosed?_eq {page : Value} (h : m.OfWriting page) : m.diagnosed? = none := by
  cases m <;> first | exact h.elim | rfl

end Move

variable {σ τ : Type} [Clock τ] {c : Clipper σ τ}

/-- The diagnostics of a session are the ones set last. -/
theorem Session.Path.diagnostics {s t : Session σ τ} {ms : List Move} (h : Session.Path c s ms t) :
    t.diagnostics = (ms.filterMap Move.diagnosed?).getLastD s.diagnostics := by
  induction h with
  | nil => rfl
  | cons hs _ ih =>
    rw [ih]
    cases hs with
    | diagnosed ds => exact (List.getLastD_cons ..).symm
    | _ => rfl

/-- What a session has asked of the service was asked before or on the way. -/
theorem Session.Path.exists_asked {s t : Session σ τ} {ms : List Move} (h : Session.Path c s ms t) {r : Request}
    (hr : .asked r ∈ t.events) : .asked r ∈ s.events ∨ ∃ a, .asked r a ∈ ms := by
  induction h with
  | nil => exact .inl hr
  | cons hs _ ih =>
    rcases ih hr with hmid | ⟨a, ha⟩
    · cases hs with
      | asked =>
        rcases List.mem_cons.1 hmid with heq | hbefore
        · cases heq
          exact .inr ⟨_, List.mem_cons_self⟩
        · exact .inl hbefore
      | uploaded | fetched | slept => exact .inl ((List.mem_cons.1 hmid).resolve_left nofun)
      | _ => exact .inl hmid
    · exact .inr ⟨a, List.mem_cons_of_mem _ ha⟩

/-- Some blocks are sent to a page from the first on, and all of them if that has a result. -/
structure Writes {α : Type} (page : Value) (all : List Value) (ms : List Move) (r : Except Fault α) : Prop where
  moves : ∀ m ∈ ms, m.OfWriting page
  first : Move.sentBlocks ms <+: all
  whole : ∀ x, r = .ok x → Move.sentBlocks ms = all

namespace Writes

variable {α β : Type} {page : Value} {xs ys : List Value} {ms ns : List Move}

/-- Nothing is to be sent. -/
theorem nil {r : Except Fault α} : Writes page [] [] r := ⟨by simp, List.prefix_rfl, fun _ _ => rfl⟩

/-- Something is told. -/
theorem told (news : List Notice) {r : Except Fault α} : Writes page [] [.told news] r :=
  ⟨by simp [Move.OfWriting], List.prefix_rfl, fun _ _ => rfl⟩

/-- One sending after another that has a result. -/
theorem append {x : α} {r : Except Fault β} (h : Writes page xs ms (.ok x)) (h' : Writes page ys ns r) :
    Writes page (xs ++ ys) (ms ++ ns) r := by
  refine ⟨fun m hm => (List.mem_append.1 hm).elim (h.moves m) (h'.moves m), ?_, fun y hy => ?_⟩
  · rw [Move.sentBlocks_append, h.whole x rfl]
    exact (List.prefix_append_right_inj _).2 h'.first
  · rw [Move.sentBlocks_append, h.whole x rfl, h'.whole y hy]

/-- A sending that fails sends nothing more. -/
theorem failed {e e' : Fault} (h : Writes page xs ms (.error e : Except Fault α)) (ys : List Value)
    (h' : Writes page [] ns (.error e' : Except Fault β)) : Writes page (xs ++ ys) (ms ++ ns) (.error e' : Except Fault β) := by
  refine ⟨fun m hm => (List.mem_append.1 hm).elim (h.moves m) (h'.moves m), ?_, nofun⟩
  rw [Move.sentBlocks_append, List.prefix_nil.1 h'.first, List.append_nil]
  exact h.first.trans (List.prefix_append _ _)

end Writes

namespace Act

variable {α β : Type} {page : Value} {xs ys all : List Value}

omit [Clock τ] in
/-- A composite that has a result has it from one of its first part. -/
theorem exists_of_carryOut_bind {a : Act σ τ α} {f : α → Act σ τ β} {s u : Session σ τ} {y : β}
    (h : carryOut (a >>= f) c s = (.ok y, u)) :
    ∃ x t, carryOut a c s = (.ok x, t) ∧ carryOut (f x) c t = (.ok y, u) := by
  rw [carryOut_bind] at h
  rcases hr : carryOut a c s with ⟨e | x, t⟩ <;> rw [hr] at h
  · cases h
  · exact ⟨x, t, rfl, h⟩

/-- Sending blocks leaves the diagnostics of a session as they are. -/
theorem diagnostics_of_writes {a : Act σ τ α} {s t : Session σ τ} {r : Except Fault α}
    (ha : Ensures c (Writes page xs) a) (h : carryOut a c s = (r, t)) : t.diagnostics = s.diagnostics := by
  obtain ⟨ms, hp, hw⟩ := ha s
  rw [h] at hp hw
  rw [hp.diagnostics, List.filterMap_eq_nil_iff.2 fun m hm => (hw.moves m hm).diagnosed?_eq]
  rfl

/-- First an action that sends some blocks, then one that sends the others. -/
theorem Ensures.bind_writes {a : Act σ τ α} {f : α → Act σ τ β} (ha : Ensures c (Writes page xs) a)
    (hf : ∀ x, Ensures c (Writes page ys) (f x)) (hall : xs ++ ys = all) : Ensures c (Writes page all) (a >>= f) := by
  subst hall
  refine .bind ha (fun ms e h => ?_) fun ms x h => (hf x).mono fun ns r h' => h.append h'
  simpa using h.failed ys (.nil (r := .error e))

/-- First an action that sends nothing. -/
theorem Ensures.then_writes {a : Act σ τ α} {f : α → Act σ τ β} (ha : Ensures c (Writes page []) a)
    (hf : ∀ x, Ensures c (Writes page all) (f x)) : Ensures c (Writes page all) (a >>= f) :=
  .bind_writes ha hf rfl

theorem orFault_writes (r : Except Fault α) : Ensures c (Writes page []) (orFault r) := .orFault .nil

theorem tell_writes (n : Notice) : Ensures c (Writes page []) (tell n) :=
  (Ensures.tell n).mono fun _ _ ⟨hm, _⟩ => hm ▸ .told _

theorem ask_writes (r : Request) (hr : ∀ p, r = .createPage p → p = page) :
    Ensures c (Writes page r.carried) (ask r) := by
  refine (ask_ensures r).mono ?_
  rintro _ _ (⟨ns, e, rfl, rfl, -⟩ | ⟨w, rfl, rfl⟩)
  · exact ⟨by simp [Move.OfWriting], List.nil_prefix, nofun⟩
  · refine ⟨by simpa [Move.OfWriting] using hr, ?_, fun _ _ => ?_⟩ <;> simp [Move.sent]

end Act

/-! ## Writing a page -/

theorem createPage_writes (d : Page.Draft) (parent : Value) :
    Ensures c (Writes (d.request parent) d.children) (Service.createPage (d.request parent)) := by
  obtain ⟨hcarried, hcount, hmax⟩ := d.carried_request parent
  have hask : Ensures c (Writes (d.request parent) _) (ask (.createPage (d.request parent))) :=
    ask_writes _ fun p hp => (Request.createPage.inj hp).symm
  rw [hcarried] at hask
  unfold Service.createPage
  rw [hcount]
  refine .bind_orFault (fun _ h => by cases h) ?_
  rintro _ ⟨⟩
  rw [if_neg (by omega)]
  refine .bind_writes (telling_ensures _ hask fun ms ns e h => ?_) (fun created => ?_) (List.append_nil _)
  · simpa using h.failed [] (.told ns)
  · exact .then_writes (orFault_writes _) fun id => .then_writes (tell_writes _) fun _ => .pure .nil

theorem appendBatches_writes {page id : Value} (total n : Nat) (batches : List (List Value)) :
    Ensures c (Writes page batches.flatten) (Service.appendBatches id total n batches) := by
  induction batches generalizing n with
  | nil => exact .pure .nil
  | cons batch rest ih =>
    rw [Service.appendBatches]
    have hask : Ensures c (Writes page batch) (ask (.append id batch)) := ask_writes _ (by rintro _ ⟨⟩)
    refine .bind_attempt hask fun ms o h => ?_
    cases o with
    | ok x => exact (ih _).mono fun ns r h' => h.append h'
    | error e =>
      cases e with
      | clip e => exact .bind_move (.tell _) (.throw (h.failed _ (.told _)))
      | _ => exact .throw (h.failed _ .nil)

theorem appendRest_writes (page id url : Value) (blocks : List Value) :
    Ensures c (Writes page blocks) (Save.appendRest id url blocks) := by
  unfold Save.appendRest
  split
  · have happend : Ensures c (Writes page _) (Service.appendBatches id blocks.length 0 (chunks maxBatch blocks)) :=
      appendBatches_writes _ _ _
    rw [flatten_chunks] at happend
    refine .then_writes (tell_writes _) fun _ => .bind_attempt happend fun ms o h => ?_
    cases o with
    | ok n => exact .pure (by simpa using h.append (.nil (r := .ok ())))
    | error e => exact .throw (by simpa using h.failed [] .nil)
  next h =>
    rw [show blocks = [] by simpa using h]
    exact .pure .nil

theorem remember_writes {page : Value} (clip : Clip) : Ensures c (Writes page []) (Save.remember clip) := by
  refine (remember_ensures clip).mono fun ms r ⟨hm, _⟩ => ?_
  have hsent : Move.sentBlocks ms = [] := List.flatMap_eq_nil_iff.2 fun m hmem => by
    have h := hm m hmem
    cases m <;> first | exact h.elim | rfl
  refine ⟨fun m hmem => ?_, hsent ▸ List.prefix_rfl, fun _ _ => hsent⟩
  have h := hm m hmem
  cases m <;> first | exact h.elim | trivial

namespace Save

/-- What a save says of the page it has written. -/
structure Counts (page : Page.Compiled) (saved : Saved) : Prop where
  blocks : saved.blockCount = page.blocks.length
  uploaded : saved.uploadedImages = ((page.blocks.filter Page.Block.isImage).filter Page.Block.isUpload).length
  external : saved.externalImages = (page.blocks.filter Page.Block.isImage).length - saved.uploadedImages
  dropped : saved.droppedBlocks = page.diagnostics.length

theorem deliver_writes (article : Article) (database : Value) (blocks : List Page.Block) (page : Page.Draft) :
    Ensures c (Writes (page.request (.record [("database_id", database)])) page.blocks)
      (deliver article database blocks page) := by
  unfold deliver
  refine .bind_writes (createPage_writes page _) (fun created => ?_) (List.take_append_drop maxBatch page.blocks)
  refine .then_writes (orFault_writes _) fun url => .then_writes (orFault_writes _) fun id => ?_
  refine .bind_writes (appendRest_writes _ id url page.overflow) (fun _ => ?_) (List.append_nil _)
  refine .then_writes (Ensures.get.mono fun _ _ ⟨hm, _⟩ => hm ▸ .nil) fun s => ?_
  exact .then_writes (remember_writes _) fun _ => .then_writes (tell_writes _) fun _ => .pure .nil

/-- A page is counted as it has been compiled last. -/
theorem counts_of_deliver {article : Article} {database : Value} {page : Page.Compiled} {d : Page.Draft} {saved : Saved}
    {s t : Session σ τ} (hs : s.diagnostics = page.diagnostics)
    (h : carryOut (deliver article database page.blocks d) c s = (.ok saved, t)) : Counts page saved := by
  unfold deliver at h
  obtain ⟨created, s₁, h₁, h⟩ := exists_of_carryOut_bind h
  obtain ⟨url, s₂, h₂, h⟩ := exists_of_carryOut_bind h
  obtain ⟨id, s₃, h₃, h⟩ := exists_of_carryOut_bind h
  obtain ⟨_, s₄, h₄, h⟩ := exists_of_carryOut_bind h
  obtain ⟨_, s₅, ⟨⟩, h⟩ := exists_of_carryOut_bind h
  obtain ⟨-, s₆, -, h⟩ := exists_of_carryOut_bind h
  obtain ⟨-, s₇, -, ⟨⟩⟩ := exists_of_carryOut_bind h
  rw [carryOut_orFault] at h₂ h₃
  have hcreated : s₁.diagnostics = s.diagnostics := diagnostics_of_writes (createPage_writes d _) h₁
  have hid : s₁ = s₃ := (congrArg Prod.snd h₂).trans (congrArg Prod.snd h₃)
  have happended : s₄.diagnostics = s₃.diagnostics := diagnostics_of_writes (appendRest_writes .null _ _ _) h₄
  refine ⟨rfl, rfl, rfl, ?_⟩
  rw [happended, ← hid, hcreated, hs]

/-! ## Composing a page -/

/-- All that the page of an article is composed of, once its mapping and the assets of its images are known. -/
structure Composition (article : Article) where
  mapping : Mapping
  assets : Assets
  nodes : List Page.Node
  described : List Page.Node
  cover : Option String
  icon : Option String
  properties : Properties
  nodes_eq : nodesOf article = .ok nodes
  described_eq : nodes.mapM (describe article) = .ok described
  cover_eq : ownUrl? article.mainImage = .ok cover
  icon_eq : ownUrl? article.favicon = .ok icon
  properties_eq : mapping.properties article assets = .ok properties

namespace Composition

variable {article : Article} (k : Composition article)

/-- The URLs whose images are looked after. -/
def urls : List String := Page.Node.collectUrls k.nodes ++ k.cover.toList ++ k.icon.toList

/-- What the nodes are compiled into. -/
def compiled : Page.Compiled := Page.compile k.assets k.described

/-- The page. -/
def page : Page.Draft :=
  { properties := k.properties, blocks := k.compiled.blocks.map Page.Block.toValue
    icon := ownAsset k.assets k.icon, cover := ownAsset k.assets k.cover }

end Composition

/-- What drafting a page comes to: one that is composed with the assets found for its images. -/
def Drafts (c : Clipper σ τ) (article : Article) (mapping : Mapping) (upload : Bool) (s : Session σ τ) (ms : List Move)
    (r : Except Fault (List Page.Block × Page.Draft)) : Prop :=
  (∀ m ∈ ms, m.Quiet) ∧ ∀ x, r = .ok x → ∃ k : Composition article, k.mapping = mapping ∧
    x = (k.compiled.blocks, k.page) ∧ Settles c k.urls upload s ms k.assets ∧
    (ms.filterMap Move.diagnosed?).getLast? = some k.compiled.diagnostics

theorem Drafts.error {article : Article} {mapping : Mapping} {upload : Bool} {s : Session σ τ} {ms : List Move} {e : Fault}
    (hm : ∀ m ∈ ms, m.Quiet) : Drafts c article mapping upload s ms (.error e) := by
  refine ⟨hm, ?_⟩
  rintro _ ⟨⟩

theorem compile_ensures (assets : Assets) (nodes : List Page.Node) :
    Ensures c (fun ms r => r = .ok (Page.compile assets nodes).blocks ∧
      ∃ news, ms = [.diagnosed (Page.compile assets nodes).diagnostics, .told news]) (Save.compile assets nodes) :=
  fun s => ⟨_, .cons (.diagnosed s _) (.single (.told _ _)), rfl, _, rfl⟩

theorem draft_drafts (article : Article) (mapping : Mapping) (upload : Bool) (s : Session σ τ) :
    EnsuresFrom c s (Drafts c article mapping upload s) (draft article mapping upload) := by
  unfold draft
  refine .bind_orFault (fun e _ => .error (by simp)) fun nodes hnodes => ?_
  refine .bind_orFault (fun e _ => .error (by simp)) fun cover hcover => ?_
  refine .bind_orFault (fun e _ => .error (by simp)) fun icon hicon => ?_
  refine EnsuresFrom.bind (Image.resolveAll_ensures _ upload s) ?_ ?_
  · rintro ms e ⟨⟨hm, -⟩, -⟩
    exact .error hm
  rintro ms assets t hp hrun ⟨⟨hm, -⟩, -⟩
  -- what is compiled last is what has been described
  refine Ensures.bind_orFault (fun e _ => .error (by simpa using hm)) (fun described hdescribed => ?_) t
  refine .bind (compile_ensures assets described) ?_ ?_
  · rintro _ _ ⟨⟨⟩, -⟩
  rintro _ _ ⟨⟨⟩, news, rfl⟩
  refine .bind_move (.tellAll _) (.bind_orFault (fun e _ => .error ?_) fun properties hproperties => .pure ⟨?_, ?_⟩)
  · simpa [or_imp, forall_and] using hm
  · simpa [or_imp, forall_and] using hm
  · rintro _ ⟨⟩
    refine ⟨⟨mapping, assets, nodes, described, cover, icon, properties, hnodes, hdescribed, hcover, hicon,
      hproperties⟩, rfl, rfl, ⟨[], ms, _, s, t, rfl, .nil s, hp, hrun⟩, ?_⟩
    simp [Move.diagnosed?, Composition.compiled, List.filterMap_cons]

/-! ## The whole save -/

theorem mappingFor_quiet (database : Value) (given : Mapping) :
    Does c Move.Quiet (fun r => ∀ mapping, r = .ok mapping → given ≠ [] → mapping = given) (mappingFor database given) := by
  have hschema : Does c Move.Quiet (fun _ => True) (Service.schema database) := by
    have hask : Does c Move.Quiet (fun _ => True) (ask (.database database)) := by
      refine (ask_ensures _).mono ?_
      rintro _ _ (⟨ns, e, rfl, -, -⟩ | ⟨w, rfl, -⟩) <;> simp [Move.Quiet]
    exact .bind hask (fun _ h => h) fun _ _ => .orFault trivial
  unfold mappingFor
  cases given with
  | nil =>
    refine .bind hschema ?_ fun schema _ => ?_
    · rintro _ _ _ ⟨⟩
    exact .bind_done (.of_move (Ensures.tell _) trivial rfl) (.pure fun _ _ h => absurd rfl h)
  | cons => exact .pure fun _ h _ => (Except.ok.inj h).symm

/-- A run of a save composes a page, and sends it. -/
structure Composes (c : Clipper σ τ) (article : Article) (database : Value) (given : Mapping) (upload : Bool)
    (s : Session σ τ) (ms : List Move) (r : Except Fault Saved) (k : Composition article) : Prop where
  mapping : given ≠ [] → k.mapping = given
  settles : Settles c k.urls upload s ms k.assets
  /-- No other page is created. -/
  created : ∀ page a, .asked (.createPage page) a ∈ ms → page = k.page.request (.record [("database_id", database)])
  first : Move.sentBlocks ms <+: k.page.blocks
  whole : ∀ saved, r = .ok saved → Move.sentBlocks ms = k.page.blocks ∧ Counts k.compiled saved

/-- What is settled in a part of a run is settled in the run. -/
theorem Settles.extend {urls : List String} {upload : Bool} {s t : Session σ τ} {ms ns : List Move} {assets : Assets}
    (hp : Session.Path c s ms t) (h : Settles c urls upload t ns assets) (ks : List Move) :
    Settles c urls upload s (ms ++ (ns ++ ks)) assets := by
  obtain ⟨pre, mid, post, u, v, rfl, hpre, hmid, hrun⟩ := h
  exact ⟨ms ++ pre, mid, post ++ ks, u, v, by simp only [List.append_assoc], hp.append hpre, hmid, hrun⟩

/-- What a save comes to: it ends before it has sent anything, or it composes a page. -/
def Ends (c : Clipper σ τ) (article : Article) (database : Value) (given : Mapping) (upload : Bool) (s : Session σ τ)
    (ms : List Move) (r : Except Fault Saved) : Prop :=
  ((∀ m ∈ ms, m.Quiet) ∧ ∀ saved, r ≠ .ok saved) ∨ ∃ k, Composes c article database given upload s ms r k

/-- A composed page that is delivered. -/
theorem composes_of_deliver {article : Article} (database : Value) {given : Mapping} {upload : Bool}
    {k : Composition article} (hmapping : given ≠ [] → k.mapping = given) {s t u : Session σ τ} {ms ns : List Move}
    (hp : Session.Path c s ms t) (hms : ∀ m ∈ ms, m.Quiet) (hp' : Session.Path c t ns u) (hns : ∀ m ∈ ns, m.Quiet)
    (hsettles : Settles c k.urls upload t ns k.assets)
    (hdiagnostics : (ns.filterMap Move.diagnosed?).getLast? = some k.compiled.diagnostics) :
    EnsuresFrom c u (fun ks r => Composes c article database given upload s (ms ++ (ns ++ ks)) r k)
      (deliver article database k.compiled.blocks k.page) := by
  obtain ⟨ks, hp'', hw⟩ := deliver_writes (c := c) article database k.compiled.blocks k.page u
  have hsent : Move.sentBlocks (ms ++ (ns ++ ks)) = Move.sentBlocks ks := by
    rw [Move.sentBlocks_append, Move.sentBlocks_append, Move.sentBlocks_of_quiet hms, Move.sentBlocks_of_quiet hns]
    rfl
  refine ⟨ks, hp'', hmapping, hsettles.extend hp ks, fun page a hasked => ?_, hsent ▸ hw.first, fun saved hr => ?_⟩
  · -- nothing was created before
    rcases List.mem_append.1 hasked with hm | hm
    · exact (hms _ hm).elim
    rcases List.mem_append.1 hm with hm | hm
    · exact (hns _ hm).elim
    · exact hw.moves _ hm page rfl
  · have hu : u.diagnostics = k.compiled.diagnostics := by
      rw [hp'.diagnostics, List.getLastD_eq_getLast?, hdiagnostics]
      rfl
    exact ⟨hsent ▸ hw.whole saved hr, counts_of_deliver hu (Prod.ext hr rfl)⟩

theorem unlimited_ends (article : Article) (database : Value) (given : Mapping) (upload : Bool) (s : Session σ τ) :
    EnsuresFrom c s (Ends c article database given upload s) (unlimited article database given upload) := by
  unfold unlimited
  refine .bind (Ensures.tell _ s) ?_ ?_
  · rintro _ _ ⟨-, ⟨⟩⟩
  rintro _ _ t hp - ⟨rfl, -⟩
  refine .bind (mappingFor_quiet database given t) ?_ ?_
  · rintro ms e ⟨hm, -⟩
    exact .inl ⟨by simpa using hm, nofun⟩
  rintro ms mapping u hp' - ⟨hm, hmapping⟩
  refine .bind (draft_drafts article mapping upload u) ?_ ?_
  · rintro ns e ⟨hn, -⟩
    exact .inl ⟨by simpa [or_imp, forall_and] using ⟨hm, hn⟩, nofun⟩
  rintro ns x v hp'' - ⟨hn, hdraft⟩
  obtain ⟨k, rfl, rfl, hsettles, hdiagnostics⟩ := hdraft x rfl
  obtain ⟨ks, hp₃, hk⟩ := composes_of_deliver database (hmapping k.mapping rfl) (hp.append hp') (by simpa using hm)
    hp'' hn hsettles hdiagnostics
  refine ⟨ks, hp₃, .inr ⟨k, ?_⟩⟩
  rwa [List.append_assoc] at hk

/-- However a save runs, it ends before it has sent anything, or it composes a page and sends it. -/
theorem run_ends (article : Article) (database : Value) (given : Mapping) (download limit : Value) (s : Session σ τ) :
    EnsuresFrom c s (Ends c article database given (wanted c.settings download).truthy s)
      (run article database given download limit) := by
  unfold run
  refine .bind (Ensures.read s) ?_ ?_
  · rintro _ _ ⟨-, ⟨⟩⟩
  rintro _ _ t hp - ⟨rfl, ⟨⟩⟩
  cases hp
  dsimp only
  split
  · exact ⟨[], .nil s, .inl ⟨by simp, nofun⟩⟩
  · exact unlimited_ends article database given _ s

end Save

end WebClip
