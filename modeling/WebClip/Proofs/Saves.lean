import WebClip.Proofs.Chunks
import WebClip.Proofs.Resolving
import WebClip.Save
/-!
# What a save leaves behind

A save makes one page at most and writes its blocks from the first on, in order, with no
request too large. Wherever it fails, what has been written and what its error calls missing
are together the blocks of the article, and only a save that has written them all is put into
the history.
-/

namespace WebClip

open Act

/-! ## Pages and blocks among moves -/

/-- The blocks that a request carries. -/
def Request.carried : Request → List Value
  | createPage page => ((page.field? "children").map Value.items).getD []
  | append _ blocks => blocks
  | _ => []

namespace Move

/-- The page that a move makes, if it makes one. -/
def page? : Move → Option Value
  | asked (.createPage _) (.answer page) => some page
  | _ => none

/-- The blocks that a move writes: those of a request that is answered. -/
def written : Move → List Value
  | asked r (.answer _) => r.carried
  | _ => []

/-- The pages that moves make. -/
def pages (ms : List Move) : List Value := ms.filterMap page?

/-- The blocks that moves write, in order. -/
def blocks (ms : List Move) : List Value := ms.flatMap written

variable {ms ns : List Move} {m : Move}

@[simp] theorem pages_nil : pages [] = [] := rfl

@[simp] theorem blocks_nil : blocks [] = [] := rfl

@[simp] theorem pages_cons : pages (m :: ms) = m.page?.toList ++ pages ms := by
  cases h : m.page? <;> simp [pages, h]

@[simp] theorem blocks_cons : blocks (m :: ms) = m.written ++ blocks ms := rfl

@[simp] theorem pages_append : pages (ms ++ ns) = pages ms ++ pages ns := List.filterMap_append

@[simp] theorem blocks_append : blocks (ms ++ ns) = blocks ms ++ blocks ns := List.flatMap_append

theorem pages_eq_nil (h : ∀ m ∈ ms, m.page? = none) : pages ms = [] := List.filterMap_eq_nil_iff.2 h

theorem blocks_eq_nil (h : ∀ m ∈ ms, m.written = []) : blocks ms = [] := List.flatMap_eq_nil_iff.2 h

/-- A request made quietly carries no block. -/
theorem Quiet.carried_eq {q : Request} {a : Response Value} (h : (asked q a).Quiet) : q.carried = [] := by
  cases q with
  | createPage => exact h.elim
  | append => exact h.elim
  | _ => rfl

/-- A quiet move makes no page and writes no block. -/
theorem Quiet.nothing (h : m.Quiet) : m.page? = none ∧ m.written = [] := by
  cases m with
  | asked q a =>
    cases a with
    | answer => exact ⟨by cases q <;> first | exact h.elim | rfl, h.carried_eq⟩
    | _ => exact ⟨by cases q <;> rfl, rfl⟩
  | _ => exact ⟨rfl, rfl⟩

end Move

variable {σ τ : Type} [Clock τ] {c : Clipper σ τ}

/-! ## Making a page -/

namespace Page.Draft

/-- The create request carries the first blocks of the draft, and never too many. -/
theorem carried_request (d : Draft) (parent : Value) :
    (Request.createPage (d.request parent)).carried = d.children ∧
      Service.childCount (d.request parent) = .ok d.children.length ∧ d.children.length ≤ maxBatch := by
  refine ⟨rfl, rfl, ?_⟩
  rw [children, List.length_take]
  omega

end Page.Draft

/-- A move of making a page. -/
def Move.OfCreate (page : Value) : Move → Prop
  | told _ | refused => True
  | asked r _ => r = .createPage page
  | _ => False

/-- What comes of making a page with some blocks: the page, or an answer that is no page, or
no page at all. -/
inductive Made (blocks : List Value) (ms : List Move) : Except Fault Value → Prop
  | page (page : Value) : Move.pages ms = [page] → Move.blocks ms = blocks → Made blocks ms (.ok page)
  | odd (page : Value) (e : Fault) : Move.pages ms = [page] → (∀ x, e ≠ .clip x) → Made blocks ms (.error e)
  | nothing (e : Fault) : Move.pages ms = [] → e.isPartial = false → Made blocks ms (.error e)

/-- What asking for a page comes to. -/
theorem askPage_ensures (ho : c.outside.Foreign) (page : Value) :
    Ensures c (fun ms r => (∀ m ∈ ms, m.OfCreate page) ∧ Made (Request.createPage page).carried ms r)
      (ask (.createPage page)) := by
  refine (ask_ensures _).mono ?_
  rintro _ _ (⟨ns, e, rfl, rfl, he⟩ | ⟨w, rfl, rfl⟩)
  · exact ⟨by simp [Move.OfCreate], .nothing _ rfl (by simp [Fault.isPartial, he])⟩
  · have hpart := noPartial_outcome ho (.createPage page) w
    refine ⟨by simp [Move.OfCreate], ?_⟩
    cases hr : (c.outside.ask (.createPage page) w).1 <;> rw [hr] at hpart
    · exact .page _ rfl (List.append_nil _)
    · exact .nothing _ rfl (hpart _ rfl)
    · exact .nothing _ rfl rfl

theorem telling_ensures {α : Type} {Q : List Move → Except Fault α → Prop} (failed : ClipError → String)
    {a : Act σ τ α} (ha : Ensures c Q a) (hQ : ∀ ms ns e, Q ms (.error e) → Q (ms ++ [.told ns]) (.error e)) :
    Ensures c Q (Service.telling failed a) := by
  unfold Service.telling
  refine .bind_attempt ha fun ms o hq => ?_
  cases o with
  | ok x => exact .pure (by simpa using hq)
  | error e =>
    cases e with
    | clip e =>
      refine .bind_move (.tell _) ?_
      exact .throw (by simpa using hQ ms _ _ hq)
    | _ => exact .throw (by simpa using hq)

theorem createPage_ensures (ho : c.outside.Foreign) (d : Page.Draft) (parent : Value) :
    Ensures c (fun ms r => (∀ m ∈ ms, m.OfCreate (d.request parent)) ∧ Made d.children ms r)
      (Service.createPage (d.request parent)) := by
  obtain ⟨hcarried, hcount, hmax⟩ := d.carried_request parent
  have hask := askPage_ensures ho (d.request parent)
  rw [hcarried] at hask
  unfold Service.createPage
  rw [hcount]
  refine .bind_orFault (fun _ h => by cases h) ?_
  rintro _ ⟨⟩
  rw [if_neg (by omega)]
  refine .bind (telling_ensures _ hask ?_) (fun _ _ h => h) ?_
  · rintro ms ns e ⟨hms, hmade⟩
    refine ⟨by simpa [Move.OfCreate, or_imp, forall_and] using hms, ?_⟩
    cases hmade with
    | odd page _ hp he => exact .odd page e (by simpa [Move.page?] using hp) he
    | nothing _ hp he => exact .nothing e (by simpa [Move.page?] using hp) he
  · rintro ms page ⟨hms, hmade⟩
    cases hmade with
    | page _ hp hb =>
      refine .bind_orFault (fun e he => ⟨by simpa using hms, ?_⟩) fun id _ => ?_
      · -- an answer without an id is a page all the same
        refine .odd page e (by simpa using hp) ?_
        rintro x rfl
        exact Reply.noClip_require page "id" x he
      · refine .bind_move (.tell _) (.pure ⟨?_, ?_⟩)
        · simpa [Move.OfCreate, or_imp, forall_and] using hms
        · exact .page page (by simpa [Move.page?] using hp) (by simpa [Move.written] using hb)

/-! ## Appending -/

/-- A move of appending to a page. -/
def Move.OfAppend (id : Value) : Move → Prop
  | told _ | refused => True
  | asked r _ => ∃ blocks, r = .append id blocks ∧ blocks.length ≤ maxBatch
  | _ => False

theorem Move.OfAppend.page?_eq {id : Value} {m : Move} (h : m.OfAppend id) : m.page? = none := by
  match m, h with
  | asked _ _, ⟨_, h, _⟩ =>
    subst h
    rfl
  | told _, _ | refused, _ => rfl

/-- What appending blocks to a page that has `n` already comes to: they are all written, or a
fault says how many are there and which are not. -/
def Appended {α : Type} (id url : Value) (n : Nat) (all : List Value) (ms : List Move) (r : Except Fault α) : Prop :=
  (∀ x, r = .ok x → Move.blocks ms = all) ∧
    ∀ e, r = .error (.clip e) → ∃ missing : List Value,
      e.kind = .write id (n + (Move.blocks ms).length : Nat) missing url ∧ Move.blocks ms ++ missing = all

theorem askAppend_ensures (id : Value) {batch : List Value} (hb : batch.length ≤ maxBatch) :
    Ensures c (fun ms r => (∀ m ∈ ms, m.OfAppend id) ∧
      ((∃ x, r = .ok x) ∧ Move.blocks ms = batch ∨ (∃ e, r = .error e) ∧ Move.blocks ms = []))
      (ask (.append id batch)) := by
  refine (ask_ensures _).mono ?_
  rintro _ _ (⟨ns, e, rfl, rfl, -⟩ | ⟨w, rfl, rfl⟩)
  · exact ⟨by simp [Move.OfAppend], .inr ⟨⟨_, rfl⟩, rfl⟩⟩
  · refine ⟨by simpa [Move.OfAppend] using hb, ?_⟩
    cases (c.outside.ask (.append id batch) w).1
    · exact .inl ⟨⟨_, rfl⟩, List.append_nil _⟩
    · exact .inr ⟨⟨_, rfl⟩, rfl⟩
    · exact .inr ⟨⟨_, rfl⟩, rfl⟩

/-- What has been written before counts as there. -/
theorem Appended.prepend {α : Type} {id url : Value} {n : Nat} {batch all : List Value} {ms ns : List Move}
    {r : Except Fault α} (hb : Move.blocks ms = batch) (h : Appended id url (n + batch.length) all ns r) :
    Appended id url n (batch ++ all) (ms ++ ns) r := by
  obtain ⟨hok, herr⟩ := h
  refine ⟨fun x hx => by rw [Move.blocks_append, hb, hok x hx], fun e he => ?_⟩
  obtain ⟨missing, hkind, hall⟩ := herr e he
  refine ⟨missing, ?_, by rw [Move.blocks_append, hb, List.append_assoc, hall]⟩
  rw [hkind, Move.blocks_append, hb, List.length_append, Nat.add_assoc]

theorem appendBatches_ensures (id : Value) (total n : Nat) {batches : List (List Value)}
    (hb : ∀ batch ∈ batches, batch.length ≤ maxBatch) :
    Ensures c (fun ms r => (∀ m ∈ ms, m.OfAppend id) ∧ Appended id .null n batches.flatten ms r)
      (Service.appendBatches id total n batches) := by
  induction batches generalizing n with
  | nil =>
    refine .pure ⟨by simp, fun _ _ => rfl, ?_⟩
    rintro e ⟨⟩
  | cons batch rest ih =>
    obtain ⟨hbatch, hrest⟩ := List.forall_mem_cons.1 hb
    rw [Service.appendBatches]
    refine .bind_attempt (askAppend_ensures id hbatch) ?_
    rintro ms o ⟨hms, ho⟩
    rcases ho with ⟨⟨x, rfl⟩, hblocks⟩ | ⟨⟨e, rfl⟩, hblocks⟩
    · refine .mono (ih (n + batch.length) hrest) fun ns r ⟨hns, hr⟩ => ⟨?_, .prepend hblocks hr⟩
      exact fun m hm => (List.mem_append.1 hm).elim (hms m) (hns m)
    · cases e with
      | clip e =>
        refine .bind_move (.tell _) (.throw ⟨?_, ?_, ?_⟩)
        · simpa [Move.OfAppend, or_imp, forall_and] using hms
        · rintro _ ⟨⟩
        · rintro _ ⟨⟩
          exact ⟨batch ++ rest.flatten, by simp [hblocks, Move.written, ClipError.make], by simp [hblocks, Move.written]⟩
      | _ => exact .throw ⟨by simpa using hms, by rintro _ ⟨⟩, by rintro _ ⟨⟩⟩

/-- Appending what a create request has left over. -/
theorem appendRest_ensures (id url : Value) (blocks : List Value) :
    Ensures c (fun ms r => (∀ m ∈ ms, m.OfAppend id) ∧ Appended id url 0 blocks ms r)
      (Save.appendRest id url blocks) := by
  unfold Save.appendRest
  split
  · have hb : ∀ batch ∈ chunks maxBatch blocks, batch.length ≤ maxBatch :=
      fun batch h => length_le_of_mem_chunks (by decide) h
    have happend := appendBatches_ensures (c := c) id blocks.length 0 hb
    rw [flatten_chunks] at happend
    refine .bind_move (.tell _) (.bind_attempt happend ?_)
    rintro ms o ⟨hms, hok, herr⟩
    have hms' : ∀ m ∈ .told [.info ("Appending " ++ toString blocks.length ++ " remaining blocks")] :: (ms ++ []),
        m.OfAppend id := by
      simpa [Move.OfAppend, or_imp, forall_and] using hms
    cases o with
    | ok n =>
      refine .pure ⟨hms', fun _ _ => ?_, ?_⟩
      · simpa [Move.written] using hok n rfl
      · rintro _ ⟨⟩
    | error e =>
      refine .throw ⟨hms', ?_, ?_⟩
      · rintro _ ⟨⟩
      · intro e' he
        cases e with
        | clip e =>
          obtain ⟨missing, hkind, hall⟩ := herr e rfl
          obtain ⟨kind, message, status⟩ := e
          cases hkind
          cases he
          exact ⟨missing, by simp [Move.written], by simpa [Move.written] using hall⟩
        | _ => cases he
  next h =>
    refine .pure ⟨by simp, ?_, ?_⟩
    · rintro _ -
      simpa using h
    · rintro _ ⟨⟩

/-! ## Remembering -/

/-- A move of remembering a clip. -/
def Move.OfRemember : Move → Prop
  | told _ | remembered _ => True
  | _ => False

theorem Move.OfRemember.nothing {m : Move} (h : m.OfRemember) : m.page? = none ∧ m.written = [] := by
  match m, h with
  | told _, _ | remembered _, _ => exact ⟨rfl, rfl⟩

theorem Clip.noClip_key (clip : Clip) : NoClip clip.key := by
  unfold Clip.key Clip.keyText
  split
  all_goals first | exact .ok _ | exact .error nofun

theorem History.noClip_record (now : String) (clip : Clip) (file : File) : NoClip (History.record now clip file) := by
  unfold History.record History.add History.save History.put File.write
  refine .bind ?_ fun history => ?_
  · split
    · refine .bind (Clip.noClip_key _) fun key => .bind ?_ fun clips => .ok _
      split
      · exact .ok _
      · exact .error nofun
    · exact .error nofun
  · split
    · exact .error nofun
    · exact .error nofun
    · exact .ok _

theorem remember_ensures (clip : Clip) :
    Ensures c (fun ms r => (∀ m ∈ ms, m.OfRemember) ∧ NoClip r) (Save.remember clip) := by
  intro s
  rw [EnsuresFrom, Save.remember, carryOut_bind, carryOut_get]
  dsimp only
  cases s.history with
  | none => exact ⟨[], .nil s, by simp, .ok _⟩
  | some file =>
    simp only [carryOut_bind, carryOut_read, carryOut_orFault]
    cases hr : History.record (c.outside.date s.outside) clip file with
    | error e =>
      refine ⟨[], .nil s, by simp, ?_⟩
      have hclip := History.noClip_record (c.outside.date s.outside) clip file
      rw [hr] at hclip
      exact hclip.cast
    | ok file =>
      exact ⟨_, .cons (.remembered s file) (.single (.told _ [_])), by simp [Move.OfRemember], .ok _⟩

/-! ## Before the page -/

theorem schema_does (ho : c.outside.Foreign) (database : Value) :
    Does c Move.Quiet NoPartial (Service.schema database) := by
  have hask : Does c Move.Quiet NoPartial (ask (.database database)) := by
    refine (ask_ensures _).mono ?_
    rintro _ _ (⟨ns, e, rfl, rfl, he⟩ | ⟨w, rfl, rfl⟩)
    · exact ⟨by simp, .error (by simp [Fault.isPartial, he])⟩
    · exact ⟨by simp [Move.Quiet], noPartial_outcome ho _ w⟩
  refine .bind hask (fun e h => h.cast) fun reply _ => .orFault ?_
  refine NoClip.noPartial (.bind (Reply.noClip_getD _ _ _) fun properties => ?_)
  split
  · exact .mapM fun p _ => .bind (Reply.noClip_getD _ _ _) fun type => .ok _
  · exact .error nofun

theorem mappingFor_does (ho : c.outside.Foreign) (database : Value) (given : Mapping) :
    Does c Move.Quiet NoPartial (Save.mappingFor database given) := by
  unfold Save.mappingFor
  split
  · refine .bind (schema_does ho database) (fun e h => h.cast) fun schema _ => ?_
    exact .bind_done (.of_move (Ensures.tell _) trivial rfl) (.pure (.ok _))
  · exact .pure (.ok _)

namespace Save

theorem noClip_nodesOf (article : Article) : NoClip (nodesOf article) := by
  have hpage (base : Option String) (document : List Markdown.Block) : NoClip (Page.nodesOf base document) := by
    unfold Page.nodesOf
    split
    next e _ => cases e <;> exact .error nofun
    next => exact .ok _
  refine .bind ?_ fun content => ?_
  · unfold contentOf
    repeat' split
    all_goals first | exact .ok _ | exact .error nofun
  · dsimp only
    split
    · exact hpage _ _
    · refine .bind (hpage _ _) fun nodes => ?_
      split
      · exact .bind (r := throw (.wrongKind "a URL is a text")) (.error nofun) fun _ => .ok _
      · exact .ok _

theorem noClip_describe (article : Article) (n : Page.Node) : NoClip (describe article n) := by
  unfold describe
  repeat' split
  all_goals first | exact .ok _ | exact .error nofun

theorem noClip_ownUrl? (v : Value) : NoClip (ownUrl? v) := by
  unfold ownUrl?
  repeat' split
  all_goals first | exact .ok _ | exact .error nofun

theorem noClip_fill (article : Article) (assets : Assets) (name : String) (m : FieldMapping) :
    NoClip (m.fill article assets name) := by
  unfold FieldMapping.fill
  split
  · refine .bind ?_ fun v => ?_
    · unfold FieldMapping.source
      repeat' split
      all_goals first | exact .ok _ | exact .error nofun
    · cases Property.build assets m.propertyType v with
      | ok p =>
        cases p with
        | none => exact .ok _
        | some p =>
          refine .bind ?_ fun target => .ok _
          unfold FieldMapping.target
          split
          all_goals first | exact .ok _ | exact .error nofun
      | error e =>
        cases e with
        | clip e => exact .ok _
        | _ => exact .error nofun
  · exact .ok _

theorem noClip_properties (article : Article) (assets : Assets) (mapping : Mapping) :
    NoClip (mapping.properties article assets) := by
  refine .bind (.mapM fun p hp => ?_) fun fillings => .ok _
  obtain ⟨m, -, rfl⟩ := List.mem_map.1 hp
  exact noClip_fill article assets m.1 m.2

theorem compile_does (assets : Assets) (nodes : List Page.Node) :
    Does c Move.Quiet (fun r => r = .ok (Page.compile assets nodes).blocks) (Save.compile assets nodes) :=
  fun s => ⟨_, .cons (.diagnosed s _) (.single (.told _ _)), by simp, rfl⟩

/-! ## Drafts -/

/-- The assets that images at some URLs are found to have in the course of a run. -/
def Settles (c : Clipper σ τ) (urls : List String) (upload : Bool) (s : Session σ τ) (ms : List Move)
    (assets : Assets) : Prop :=
  ∃ pre mid post t u, ms = pre ++ (mid ++ post) ∧ Session.Path c s pre t ∧ Session.Path c t mid u ∧
    carryOut (Image.resolveAll urls upload) c t = (.ok assets, u)

/-- The blocks that an article is compiled into in the course of a run: those of its nodes, with
the descriptions it knows, and with its images where they have been found to live. -/
def Compiles (c : Clipper σ τ) (article : Article) (upload : Bool) (s : Session σ τ) (ms : List Move)
    (blocks : List Page.Block) : Prop :=
  ∃ nodes described cover icon assets, nodesOf article = .ok nodes ∧
    nodes.mapM (describe article) = .ok described ∧ ownUrl? article.mainImage = .ok cover ∧
    ownUrl? article.favicon = .ok icon ∧
    Settles c (Page.Node.collectUrls nodes ++ cover.toList ++ icon.toList) upload s ms assets ∧
    blocks = (Page.compile assets described).blocks

/-- What a run compiles it still compiles when there is more of it. -/
theorem Compiles.extend {article : Article} {upload : Bool} {s t : Session σ τ} {ms ns : List Move}
    {blocks : List Page.Block} (hp : Session.Path c s ms t) (h : Compiles c article upload t ns blocks)
    (ks : List Move) : Compiles c article upload s (ms ++ (ns ++ ks)) blocks := by
  obtain ⟨nodes, described, cover, icon, assets, hn, hd, hc, hi, ⟨pre, mid, post, u, v, rfl, hpre, hmid, hrun⟩, hb⟩ := h
  refine ⟨nodes, described, cover, icon, assets, hn, hd, hc, hi, ?_, hb⟩
  exact ⟨ms ++ pre, mid, post ++ ks, u, v, by simp only [List.append_assoc], hp.append hpre, hmid, hrun⟩

/-- What drafting a page comes to: its blocks are those that the article is compiled into. -/
def Drafted (c : Clipper σ τ) (article : Article) (upload : Bool) (s : Session σ τ) (ms : List Move)
    (r : Except Fault (List Page.Block × Page.Draft)) : Prop :=
  Harmless c ms r ∧ ∀ blocks page, r = .ok (blocks, page) →
    page.blocks = blocks.map Page.Block.toValue ∧ Compiles c article upload s ms blocks

theorem Drafted.error {article : Article} {upload : Bool} {s : Session σ τ} {ms : List Move} {e : Fault}
    (hm : ∀ m ∈ ms, m.Quiet) (he : e.isPartial = false) : Drafted c article upload s ms (.error e) := by
  refine ⟨⟨hm, (NoPartial.error he).spares⟩, ?_⟩
  rintro _ _ ⟨⟩

theorem draft_from (ho : c.outside.Foreign) (article : Article) (mapping : Mapping) (upload : Bool)
    (s : Session σ τ) : EnsuresFrom c s (Drafted c article upload s) (draft article mapping upload) := by
  unfold draft
  refine .bind_orFault (fun e he => .error (by simp) ((noClip_nodesOf article).noPartial e he)) fun nodes hn => ?_
  refine .bind_orFault (fun e he => .error (by simp) ((noClip_ownUrl? _).noPartial e he)) fun cover hc => ?_
  refine .bind_orFault (fun e he => .error (by simp) ((noClip_ownUrl? _).noPartial e he)) fun icon hi => ?_
  refine EnsuresFrom.bind (Image.resolveAll_ensures _ upload s) ?_ ?_
  · rintro ms e ⟨⟨hm, hr⟩, -⟩
    exact .error hm (hr ho e rfl)
  rintro ms assets t hp hrun ⟨⟨hm, -⟩, -⟩
  -- nothing that follows can change what the article is compiled into
  refine Ensures.bind_orFault (fun e he => ?_) (fun described hd => ?_) t
  · refine .error (by simpa using hm) (NoClip.noPartial (.mapM fun n _ => noClip_describe article n) e he)
  refine .bind (compile_does assets described) ?_ ?_
  · rintro _ _ ⟨-, ⟨⟩⟩
  rintro ns _ ⟨hns, ⟨⟩⟩
  refine .bind_move (.tellAll _) (.bind_orFault (fun e he => ?_) fun properties _ => .pure ?_)
  · refine .error ?_ ((noClip_properties article assets mapping).noPartial e he)
    simpa [or_imp, forall_and] using ⟨hm, hns⟩
  · refine ⟨⟨by simpa [or_imp, forall_and] using ⟨hm, hns⟩, (NoPartial.ok _).spares⟩, ?_⟩
    rintro _ _ ⟨⟩
    exact ⟨rfl, nodes, described, cover, icon, assets, hn, hd, hc, hi,
      ⟨[], ms, _, s, t, rfl, .nil s, hp, hrun⟩, rfl⟩

/-! ## The whole save -/

/-- What holds of the moves of a save at any time, with all the blocks it sets out to write. -/
structure Orderly (all : List Value) (ms : List Move) : Prop where
  /-- It makes one page at most. -/
  single : (Move.pages ms).length ≤ 1
  /-- No request carries too many blocks. -/
  bounded : ∀ q a, .asked q a ∈ ms → q.carried.length ≤ maxBatch
  /-- It appends to the page it has made. -/
  home : ∀ id blocks a, .asked (.append id blocks) a ∈ ms →
    ∃ page, Move.pages ms = [page] ∧ Reply.require page "id" = .ok id
  /-- It remembers what it has written in full. -/
  kept : ∀ file, .remembered file ∈ ms → ∃ page, Move.pages ms = [page] ∧ Move.blocks ms = all

/-- What the moves of a save that has ended have to do with its result. -/
structure Accounts (all : List Value) (ms : List Move) (r : Except Fault Saved) : Prop extends Orderly all ms where
  /-- A save that returns has written all blocks to the page it returns. -/
  whole : ∀ saved, r = .ok saved → ∃ page, Move.pages ms = [page] ∧
    Reply.require page "id" = .ok saved.pageId ∧ Reply.pageUrl page = .ok saved.url ∧ Move.blocks ms = all
  /-- One that ends with a page written in part has written the first blocks to the page of its
  error, as many beyond the first request as the error says, and the error has the others. -/
  part : ∀ e id n missing url, r = .error (.clip e) → e.kind = .write id n missing url →
    ∃ page, ∃ k : Nat, Move.pages ms = [page] ∧ Reply.require page "id" = .ok id ∧ Reply.pageUrl page = .ok url ∧
      n = k ∧ Move.blocks ms = all.take maxBatch ++ (all.drop maxBatch).take k ∧ Move.blocks ms ++ missing = all
  /-- One that ends with another error of the clipper's own has made no page. -/
  unmade : ∀ e, r = .error (.clip e) → (Fault.clip e).isPartial = false → Move.pages ms = []

/-- A save that ends in a fault that is no error of the clipper's own. -/
theorem Orderly.crashed {all : List Value} {ms : List Move} (h : Orderly all ms) {e : Fault} (he : ∀ x, e ≠ .clip x) :
    Accounts all ms (.error e) where
  toOrderly := h
  whole := by rintro _ ⟨⟩
  part := by
    rintro x _ _ _ _ ⟨⟩ _
    exact absurd rfl (he x)
  unmade := by
    rintro x ⟨⟩ _
    exact absurd rfl (he x)

/-- A save that ends before it has made a page. -/
theorem Orderly.without_page {all : List Value} {ms : List Move} (h : Orderly all ms) (hp : Move.pages ms = [])
    {e : Fault} (he : e.isPartial = false) : Accounts all ms (.error e) where
  toOrderly := h
  whole := by rintro _ ⟨⟩
  part := by
    rintro x id n missing url ⟨⟩ hx
    simp [Fault.isPartial, hx] at he
  unmade _ _ _ := hp

/-- Quiet moves before a save change nothing of it. -/
theorem Accounts.prepend {all : List Value} {ms ns : List Move} {r : Except Fault Saved} (hm : ∀ m ∈ ms, m.Quiet)
    (h : Accounts all ns r) : Accounts all (ms ++ ns) r := by
  have hp : Move.pages (ms ++ ns) = Move.pages ns := by
    rw [Move.pages_append, Move.pages_eq_nil fun m h => (hm m h).nothing.1, List.nil_append]
  have hb : Move.blocks (ms ++ ns) = Move.blocks ns := by
    rw [Move.blocks_append, Move.blocks_eq_nil fun m h => (hm m h).nothing.2, List.nil_append]
  -- a request made before is quiet, so it carries nothing and appends to nothing
  refine ⟨⟨by rw [hp]; exact h.single, fun q a hq => ?_, fun id blocks a hq => ?_, fun file hf => ?_⟩, ?_, ?_, ?_⟩
  · rcases List.mem_append.1 hq with hq | hq
    · rw [(hm _ hq).carried_eq]
      exact Nat.zero_le _
    · exact h.bounded q a hq
  · rw [hp]
    rcases List.mem_append.1 hq with hq | hq
    · exact (hm _ hq).elim
    · exact h.home id blocks a hq
  · rw [hp, hb]
    rcases List.mem_append.1 hf with hf | hf
    · exact (hm _ hf).elim
    · exact h.kept file hf
  all_goals rw [hp]
  all_goals try rw [hb]
  · exact h.whole
  · exact h.part
  · exact h.unmade

section Stages

variable {d : Page.Draft} {parent page id url : Value} {ms ns ks : List Move}

/-- Once a page has been asked for. -/
theorem orderly_made (hm : ∀ m ∈ ms, m.OfCreate (d.request parent)) (hp : (Move.pages ms).length ≤ 1) :
    Orderly d.blocks ms where
  single := hp
  bounded := by
    rintro q a hq
    obtain ⟨hcarried, -, hmax⟩ := d.carried_request parent
    obtain rfl : q = .createPage (d.request parent) := hm _ hq
    rw [hcarried]
    exact hmax
  home := by
    intro id blocks a hq
    cases hm _ hq
  kept file hf := (hm _ hf).elim

theorem pages_appended (hp : Move.pages ms = [page]) (hn : ∀ m ∈ ns, m.OfAppend id) :
    Move.pages (ms ++ ns) = [page] := by
  rw [Move.pages_append, hp, Move.pages_eq_nil fun m h => (hn m h).page?_eq, List.append_nil]

/-- Once blocks have been appended to the page. -/
theorem orderly_appended (hm : ∀ m ∈ ms, m.OfCreate (d.request parent)) (hp : Move.pages ms = [page])
    (hid : Reply.require page "id" = .ok id) (hn : ∀ m ∈ ns, m.OfAppend id) : Orderly d.blocks (ms ++ ns) := by
  have hmade := orderly_made hm (by rw [hp]; exact Nat.le_refl 1)
  have hpages := pages_appended hp hn
  refine ⟨by rw [hpages]; exact Nat.le_refl 1, fun q a hq => ?_, fun id' blocks a hq => ⟨page, hpages, ?_⟩, fun file hf => ?_⟩
  · rcases List.mem_append.1 hq with hq | hq
    · exact hmade.bounded q a hq
    · obtain ⟨blocks, rfl, hb⟩ := hn _ hq
      exact hb
  · rcases List.mem_append.1 hq with hq | hq
    · cases hm _ hq
    · obtain ⟨_, ⟨⟩, -⟩ := hn _ hq
      exact hid
  · rcases List.mem_append.1 hf with hf | hf
    · exact (hm _ hf).elim
    · exact (hn _ hf).elim

theorem nothing_remembered (hk : ∀ m ∈ ks, m.OfRemember) :
    Move.pages (ms ++ ks) = Move.pages ms ∧ Move.blocks (ms ++ ks) = Move.blocks ms := by
  rw [Move.pages_append, Move.blocks_append, Move.pages_eq_nil fun m h => (hk m h).nothing.1,
    Move.blocks_eq_nil fun m h => (hk m h).nothing.2, List.append_nil, List.append_nil]
  exact ⟨rfl, rfl⟩

/-- Once the clip has been remembered, for which all blocks must have been written. -/
theorem Orderly.remember {all : List Value} (h : Orderly all ms) (hp : Move.pages ms = [page])
    (hb : Move.blocks ms = all) (hk : ∀ m ∈ ks, m.OfRemember) : Orderly all (ms ++ ks) := by
  obtain ⟨hpages, hblocks⟩ := nothing_remembered hk
  refine ⟨by rw [hpages]; exact h.single, fun q a hq => ?_, fun id blocks a hq => ?_, fun file _ => ?_⟩
  · rcases List.mem_append.1 hq with hq | hq
    · exact h.bounded q a hq
    · exact (hk _ hq).elim
  · rw [hpages]
    rcases List.mem_append.1 hq with hq | hq
    · exact h.home id blocks a hq
    · exact (hk _ hq).elim
  · exact ⟨page, hpages.trans hp, hblocks.trans hb⟩

/-- A page whose appending has failed accounts for what it lacks. -/
theorem accounts_of_failed_append {e : Fault} (hm : ∀ m ∈ ms, m.OfCreate (d.request parent))
    (hp : Move.pages ms = [page]) (hb : Move.blocks ms = d.children) (hid : Reply.require page "id" = .ok id)
    (hurl : Reply.pageUrl page = .ok url) (hn : ∀ m ∈ ns, m.OfAppend id)
    (herr : ∀ x, (.error e : Except Fault Unit) = .error (.clip x) → ∃ missing : List Value,
      x.kind = .write id (0 + (Move.blocks ns).length : Nat) missing url ∧ Move.blocks ns ++ missing = d.overflow) :
    Accounts d.blocks (ms ++ ns) (.error e) := by
  have happ := orderly_appended hm hp hid hn
  have hpages := pages_appended hp hn
  refine ⟨happ, by rintro _ ⟨⟩, ?_, ?_⟩
  · rintro x id' n missing url' ⟨⟩ hx
    obtain ⟨missing', hkind, hall⟩ := herr x rfl
    rw [hx] at hkind
    cases hkind
    -- what has been appended is as much of the overflow as the error counts
    have hfirst : Move.blocks ns = d.overflow.take (Move.blocks ns).length := by
      rw [← hall, List.take_left]
    refine ⟨page, (Move.blocks ns).length, hpages, hid, hurl, by rw [Nat.zero_add], ?_, ?_⟩
    · rw [Move.blocks_append, hb, ← Page.Draft.overflow, ← hfirst]
      rfl
    · rw [Move.blocks_append, hb, List.append_assoc, hall]
      exact List.take_append_drop maxBatch d.blocks
  · rintro x ⟨⟩ hx
    obtain ⟨missing, hkind, -⟩ := herr x rfl
    simp [Fault.isPartial, hkind] at hx

end Stages

/-- A page that is delivered accounts for all its blocks. -/
theorem deliver_ensures (ho : c.outside.Foreign) (article : Article) (database : Value) (blocks : List Page.Block)
    (page : Page.Draft) : Ensures c (Accounts page.blocks) (deliver article database blocks page) := by
  unfold deliver
  refine .bind (createPage_ensures ho page _) ?_ ?_
  · rintro ms e ⟨hm, hmade⟩
    cases hmade with
    | odd _ _ hp he => exact (orderly_made hm (by rw [hp]; exact Nat.le_refl 1)).crashed he
    | nothing _ hp he => exact (orderly_made hm (by rw [hp]; exact Nat.zero_le 1)).without_page hp he
  · -- from here on a page exists: every fault must leave it crashed or accounted for
    rintro ms created ⟨hm, hmade⟩
    cases hmade with
    | page _ hp hb =>
      have hmade := orderly_made hm (by rw [hp]; exact Nat.le_refl 1)
      refine .bind_orFault (fun e he => ?_) fun url hurl => .bind_orFault (fun e he => ?_) fun id hid => ?_
      · rw [List.append_nil]
        refine hmade.crashed ?_
        rintro x rfl
        exact Reply.noClip_pageUrl created x he
      · rw [List.append_nil]
        refine hmade.crashed ?_
        rintro x rfl
        exact Reply.noClip_require created "id" x he
      · refine .bind (appendRest_ensures id url page.overflow) ?_ ?_
        · rintro ns e ⟨hn, -, herr⟩
          exact accounts_of_failed_append hm hp hb hid hurl hn herr
        · rintro ns _ ⟨hn, hok, -⟩
          have hpages := pages_appended hp hn
          have hblocks : Move.blocks (ms ++ ns) = page.blocks := by
            rw [Move.blocks_append, hb, hok () rfl]
            exact List.take_append_drop maxBatch page.blocks
          have happ := orderly_appended hm hp hid hn
          refine .bind .get ?_ ?_
          · rintro _ _ ⟨-, _, ⟨⟩⟩
          rintro _ s ⟨rfl, -⟩
          refine .bind (remember_ensures _) ?_ ?_
          · rintro ks e ⟨hk, he⟩
            rw [List.nil_append, ← List.append_assoc]
            refine (happ.remember hpages hblocks hk).crashed ?_
            rintro x rfl
            exact he x rfl
          · rintro ks _ ⟨hk, -⟩
            refine .bind_move (.tell _) (.pure ?_)
            rw [List.nil_append, ← List.append_assoc]
            have hk' (r : Saved) : ∀ m ∈ ks ++ [.told [saved r]], m.OfRemember := by
              simpa [Move.OfRemember, or_imp, forall_and] using hk
            refine ⟨happ.remember hpages hblocks (hk' _), ?_, by rintro _ _ _ _ _ ⟨⟩, by rintro _ ⟨⟩⟩
            rintro _ ⟨⟩
            obtain ⟨hp', hb'⟩ := nothing_remembered (hk' _)
            exact ⟨created, hp'.trans hpages, hid, hurl, hb'.trans hblocks⟩

/-- What a save comes to: it accounts for blocks that, once it has made a page, are those its
article is compiled into. -/
def Outcome (c : Clipper σ τ) (article : Article) (upload : Bool) (s : Session σ τ) (ms : List Move)
    (r : Except Fault Saved) : Prop :=
  ∃ all, Accounts all ms r ∧ (Move.pages ms ≠ [] →
    ∃ blocks, Compiles c article upload s ms blocks ∧ all = blocks.map Page.Block.toValue)

/-- A save that never comes to making a page. -/
theorem Outcome.of_quiet {article : Article} {upload : Bool} {s : Session σ τ} {ms : List Move} {e : Fault}
    (hm : ∀ m ∈ ms, m.Quiet) (he : e.isPartial = false) : Outcome c article upload s ms (.error e) := by
  have hp : Move.pages ms = [] := Move.pages_eq_nil fun m h => (hm m h).nothing.1
  have horderly : Orderly [] ([] : List Move) := ⟨Nat.zero_le 1, by simp, by simp, by simp⟩
  refine ⟨[], ?_, fun h => absurd hp h⟩
  have hacc := (horderly.without_page rfl he).prepend hm
  rwa [List.append_nil] at hacc

theorem unlimited_from (ho : c.outside.Foreign) (article : Article) (database : Value) (mapping : Mapping)
    (upload : Bool) (s : Session σ τ) :
    EnsuresFrom c s (Outcome c article upload s) (unlimited article database mapping upload) := by
  unfold unlimited
  refine .bind (Ensures.tell _ s) ?_ ?_
  · rintro _ _ ⟨-, ⟨⟩⟩
  rintro _ _ t hp - ⟨rfl, -⟩
  refine .bind (mappingFor_does ho database mapping t) ?_ ?_
  · rintro ms e ⟨hm, he⟩
    exact .of_quiet (by simpa using hm) (he e rfl)
  · rintro ms m u hp' - ⟨hm, -⟩
    refine .bind (draft_from ho article m upload u) ?_ ?_
    · rintro ns e ⟨⟨hn, he⟩, -⟩
      refine .of_quiet ?_ (he ho e rfl)
      simpa [or_imp, forall_and] using ⟨hm, hn⟩
    · rintro ns ⟨blocks, page⟩ v hp'' - ⟨⟨hn, -⟩, hdraft⟩
      obtain ⟨hblocks, hcompiles⟩ := hdraft blocks page rfl
      obtain ⟨ks, hp₃, hacc⟩ := deliver_ensures ho article database blocks page v
      refine ⟨ks, hp₃, page.blocks, ?_, fun _ => ⟨blocks, ?_, hblocks⟩⟩
      · exact .prepend (by simp) (.prepend hm (.prepend hn hacc))
      · have hall := (hcompiles.extend hp' ks).extend hp []
        rwa [List.append_nil] at hall

/-- What becomes of the history in a save that accounts for its blocks. -/
theorem history_of_accounts {all : List Value} {ms : List Move} {r : Except Fault Saved} {s t : Session σ τ}
    (hp : Session.Path c s ms t) (ha : Accounts all ms r) (h : t.history ≠ s.history) :
    ∃ page, Move.pages ms = [page] ∧ Move.blocks ms = all := by
  -- a history that differs has had a clip put into it
  by_contra hn
  refine h (hp.history fun file hf => hn (ha.kept file hf))

theorem isPartial_of_limitFault? {limit : Value} {e : Fault} (h : limitFault? limit = some e) : e.isPartial = false := by
  have hfloat : NoClip limit.toFloat := by
    unfold Value.toFloat
    repeat' split
    all_goals first | exact .ok _ | exact .error nofun
  unfold limitFault? at h
  split at h
  · split at h
    · cases h
    · split at h
      · cases h
        rfl
      · split at h
        next => cases h
        next he =>
          cases h
          exact hfloat.noPartial e he
  · split at h <;> cases h
    rfl
  · cases h
  · cases h
  · split at h <;> cases h
    rfl

/-- However a save runs, whatever the service and the hosts of images answer, and wherever it
fails: it makes one page at most, no request carries too many blocks, a save that returns has
written all blocks the article is compiled into, and one that ends with a page written in part
has the others in its error. Another error of the clipper's own means that no page was made, and
the history changes only when every block has been written. -/
theorem run_accounts_for_blocks (ho : c.outside.Foreign) (article : Article) (database : Value) (mapping : Mapping)
    (download limit : Value) (s : Session σ τ) :
    (∀ (d : Page.Draft) parent, ∃ n ≤ maxBatch, Service.childCount (d.request parent) = .ok n) ∧
    ∃ ms, Session.Path c s ms (carryOut (run article database mapping download limit) c s).2 ∧
      ∃ all, Accounts all ms (carryOut (run article database mapping download limit) c s).1 ∧
        (Move.pages ms ≠ [] → ∃ blocks, Compiles c article (wanted c.settings download).truthy s ms blocks ∧
          all = blocks.map Page.Block.toValue) ∧
        ((carryOut (run article database mapping download limit) c s).2.history ≠ s.history →
          ∃ page, Move.pages ms = [page] ∧ Move.blocks ms = all) := by
  refine ⟨fun d parent => ⟨_, (d.carried_request parent).2.2, (d.carried_request parent).2.1⟩, ?_⟩
  have hrun : EnsuresFrom c s (Outcome c article (wanted c.settings download).truthy s)
      (run article database mapping download limit) := by
    unfold run
    refine .bind (Ensures.read s) ?_ ?_
    · rintro _ _ ⟨-, ⟨⟩⟩
    rintro _ _ t hp - ⟨rfl, ⟨⟩⟩
    cases hp
    dsimp only
    split
    next e he => exact ⟨[], .nil s, .of_quiet (by simp) (isPartial_of_limitFault? he)⟩
    next => exact unlimited_from ho article database mapping _ s
  obtain ⟨ms, hp, all, hacc, hall⟩ := hrun
  exact ⟨ms, hp, all, hacc, hall, history_of_accounts hp hacc⟩

section Headings

instance : Clock Nat where
  decideLe := inferInstance

/-- A service that makes pages and fails to append to them. -/
def pagesOnly : Outside Unit Nat where
  now _ := 0
  date _ := ""
  ask r _ := match r with
    | .createPage _ => (.answer (.record [("id", .text "p")]), ())
    | _ => (.failure (.refused 500 ""), ())
  upload _ _ := (.silence, ())
  fetch _ _ := (.silence, ())
  finish urls := List.range urls.length

/-- An article with one heading more than a request takes. -/
def headings : Article := { content := .text (String.join (List.replicate 101 "#\n")) }

/-- A clipper that saves without moving images. -/
def headingsClipper : Clipper Unit Nat := { outside := pagesOnly, settings := {}, token := "" }

/-- Its session, before anything has happened. -/
def headingsSession : Session Unit Nat := { outside := (), budget := { perMinute := 60 } }

theorem pagesOnly_foreign : pagesOnly.Foreign where
  ask r _ _ h := by cases r <;> cases h
  fetch _ _ _ h := by cases h

/-- The last heading is missing, and the save accounts for it. -/
theorem headings_accounted :
    pagesOnly.Foreign ∧
      (match (carryOut (run headings .null [("f", ⟨.null, .null, .null, .null, .null⟩)] .null .null)
          headingsClipper headingsSession).1 with
        | .error (.clip ⟨.write _ 0 [_] _, _, _⟩) => true
        | _ => false) = true ∧
      ∃ ms, Session.Path headingsClipper headingsSession ms
          (carryOut (run headings .null [("f", ⟨.null, .null, .null, .null, .null⟩)] .null .null)
            headingsClipper headingsSession).2 ∧
        ∃ all, Accounts all ms (carryOut (run headings .null [("f", ⟨.null, .null, .null, .null, .null⟩)] .null .null)
            headingsClipper headingsSession).1 := by
  obtain ⟨-, ms, hp, all, hacc, -⟩ := run_accounts_for_blocks (c := headingsClipper) pagesOnly_foreign headings .null
    [("f", ⟨.null, .null, .null, .null, .null⟩)] .null .null headingsSession
  exact ⟨pagesOnly_foreign, by decide +kernel, ms, hp, all, hacc⟩

end Headings

end Save

end WebClip
