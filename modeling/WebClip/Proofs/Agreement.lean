import WebClip.Proofs.Bindings
import WebClip.Proofs.Captions
import WebClip.Proofs.Fates
/-!
# What shows an image shows the same

A page shows an image as a picture, in a files property, as its icon or as its cover. Each of them
has its own test for what can be shown. If every upload has an id, they come to the same: whatever
shows the image at a URL finds it at one target, or nothing shows it.
-/

namespace WebClip

open Act

/-! ## Uploads and their ids -/

/-- An id that is not empty. -/
def Named (id : Value) : Prop := id.truthy = true ∧ id.display ≠ ""

/-- Every upload that the service starts has an id that is not empty. -/
def Outside.NamesUploads {σ τ : Type} (o : Outside σ τ) : Prop :=
  ∀ fileName contentType w reply v id, (o.upload (.create fileName contentType) w).1 = .answer reply →
    Service.decoded reply.body = .ok v → Reply.require v "id" = .ok id → Named id

section Uploads
variable {σ τ : Type} {c : Clipper σ τ}

/-- This holds of every result that the action has. -/
def Act.Gives {α : Type} (c : Clipper σ τ) (P : α → Prop) (a : Act σ τ α) : Prop :=
  ∀ s x, (carryOut a c s).1 = .ok x → P x

namespace Act.Gives

variable {α β : Type} {P : α → Prop} {Q : β → Prop}

theorem any (a : Act σ τ α) : Gives c (fun _ => True) a := fun _ _ _ => trivial

theorem pure {x : α} (h : P x) : Gives c P (Pure.pure x : Act σ τ α) := by
  rintro s _ ⟨⟩
  exact h

theorem throw (e : Fault) : Gives c P (throw e : Act σ τ α) := by rintro s _ ⟨⟩

theorem orFault {r : Except Fault α} (h : ∀ x, r = .ok x → P x) : Gives c P (orFault r : Act σ τ α) := by
  intro s x hx
  rw [carryOut_orFault] at hx
  exact h x hx

theorem bind {a : Act σ τ α} {f : α → Act σ τ β} (ha : Gives c P a) (hf : ∀ x, P x → Gives c Q (f x)) :
    Gives c Q (a >>= f) := by
  intro s y h
  obtain ⟨x, t, hx, hy⟩ := exists_of_carryOut_bind (Prod.ext h rfl)
  exact hf x (ha s x (congrArg Prod.fst hx)) t y (congrArg Prod.fst hy)

/-- Behind an action whose result tells nothing. -/
theorem after {a : Act σ τ α} {f : α → Act σ τ β} (hf : ∀ x, Gives c Q (f x)) : Gives c Q (a >>= f) :=
  (any a).bind fun x _ => hf x

theorem bind_throw (e : Fault) {f : α → Act σ τ β} : Gives c Q (MonadExcept.throw e >>= f) :=
  .bind (P := fun _ => False) (.throw e) fun _ hnever => hnever.elim

/-- Behind a look at the clipper. -/
theorem bind_read {f : Clipper σ τ → Act σ τ β} (hf : Gives c Q (f c)) :
    Gives c Q ((read : Act σ τ (Clipper σ τ)) >>= f) := by
  intro s y h
  rw [carryOut_bind, carryOut_read] at h
  exact hf s y h

/-- Behind an action whose faults are caught. -/
theorem bind_attempt {a : Act σ τ α} {f : Except Fault α → Act σ τ β} (ha : Gives c P a)
    (hok : ∀ x, P x → Gives c Q (f (.ok x))) (herror : ∀ e, Gives c Q (f (.error e))) :
    Gives c Q (Act.attempt a >>= f) := by
  intro s y h
  rw [carryOut_bind, carryOut_attempt] at h
  cases hr : (carryOut a c s).1 with
  | error e => exact herror e _ y (hr ▸ h)
  | ok x => exact hok x (ha s x hr) _ y (hr ▸ h)

end Act.Gives

variable [Clock τ]

/-- What asking about an upload gives has been answered. -/
theorem askUpload_gives (r : UploadRequest) :
    Gives c (fun v => ∃ w reply, (c.outside.upload r w).1 = .answer reply ∧ Service.decoded reply.body = .ok v)
      (Service.askUpload r) := by
  unfold Service.askUpload
  refine .after fun _ => .bind_read ?_
  dsimp only
  split
  · exact .bind_throw _
  refine .after fun _ => .after fun s => .after fun _ => ?_
  rw [answerOf_eq]
  refine .bind (P := fun reply => (c.outside.upload r s.outside).1 = .answer reply) (.orFault fun reply hreply => ?_)
    fun reply hreply => ?_
  · cases hanswer : (c.outside.upload r s.outside).1 with
    | answer a =>
      rw [hanswer] at hreply
      cases hreply
      rfl
    | _ =>
      rw [hanswer] at hreply
      cases hreply
  · split
    · exact .bind_throw _
    · exact .orFault fun v hv => ⟨s.outside, reply, hreply, hv⟩

theorem id_of_withStatus {u u' : Service.Upload} {reply : Value} (h : Service.withStatus u reply = .ok u') :
    u'.id = u.id := by
  unfold Service.withStatus at h
  obtain ⟨status, -, ⟨⟩⟩ := exists_of_bind h
  rfl

theorem createUpload_gives (hnames : c.outside.NamesUploads) (fileName contentType : String) :
    Gives c (fun u => Named u.id) (Service.createUpload fileName contentType) := by
  refine .bind (askUpload_gives _) fun v ⟨w, reply, hanswer, hdecoded⟩ => .orFault fun u hu => ?_
  obtain ⟨id, hid, hu⟩ := exists_of_bind hu
  exact (id_of_withStatus hu) ▸ hnames _ _ _ _ _ _ hanswer hdecoded hid

theorem sendUpload_gives (u : Service.Upload) (fileName contentType : String) (content : ByteArray) :
    Gives c (fun u' => u'.id = u.id) (Service.sendUpload u fileName contentType content) :=
  .after fun _ => .orFault fun _ => id_of_withStatus

theorem poll_gives (interval : Value) (n : Nat) (u : Service.Upload) :
    Gives c (fun u' => u'.id = u.id) (Service.poll interval n u) := by
  induction n generalizing u with
  | zero => exact .pure rfl
  | succ n ih =>
    rw [Service.poll]
    split
    · exact .pure rfl
    · refine .after fun _ => .after fun reply => .bind (.orFault fun _ => id_of_withStatus) fun u' hu' => ?_
      exact hu' ▸ ih u'

/-- The id that an upload gives is that of the upload that was started. -/
theorem upload_gives (hnames : c.outside.NamesUploads) (url fileName contentType : String) (content : ByteArray) :
    Gives c Named (Service.upload url fileName contentType content) := by
  unfold Service.upload
  refine .bind (createUpload_gives hnames _ _) fun u hu => .bind (sendUpload_gives u _ _ _) fun u' hu' => ?_
  -- however often the status is asked for, the id stays what it was
  have hend (n : Nat) : Gives c Named (do
      let u ← Service.poll c.settings.uploadPollInterval n u'
      if u.isDone then Pure.pure u.id
      else throw (.clip (.make (.upload url) ("Upload " ++ u.id.display ++ " not confirmed (status=" ++
        u.status.display ++ ")"))) : Act σ τ Value) := by
    refine .bind (poll_gives _ n u') fun u'' hu'' => ?_
    split
    · exact .pure (by rwa [hu'', hu'])
    · exact .throw _
  refine .bind_read ?_
  dsimp only
  split
  · exact hend 0
  · exact .after hend

namespace Image

theorem isResolved_uploadedAt {id : Value} (h : Named id) (url : String) : (uploadedAt url id).isResolved = true := by
  obtain ⟨htruthy, hdisplay⟩ := h
  cases id with
  | null => cases htruthy
  | _ => simpa [uploadedAt, Asset.isResolved] using hdisplay

theorem isResolved_external {url : String} (h : url ≠ "") (degraded : Option Degraded) :
    (Asset.external url degraded).isResolved = true := by
  simpa [Asset.external, Asset.isResolved] using h

theorem imageUpload_gives (hnames : c.outside.NamesUploads) (image : Download) : Gives c Named (upload image) := by
  unfold upload
  refine .after fun _ => .bind_attempt (upload_gives hnames _ _ _ _) (fun id hid => .after fun _ => .pure hid) fun e => ?_
  cases e with
  | clip e => exact .after fun _ => .throw _
  | _ => exact .throw _

theorem resolve_gives (hnames : c.outside.NamesUploads) (found : Downloads) {url : String} (hurl : url ≠ "") :
    Gives c (fun asset => asset.isResolved = true) (resolve found url) := by
  unfold resolve
  split
  · exact .pure (isResolved_external hurl _)
  · refine .bind_attempt (imageUpload_gives hnames _) (fun id hid => .pure (isResolved_uploadedAt hid url)) fun e => ?_
    cases e with
    | clip e =>
      dsimp only
      split
      · exact .after fun _ => .pure (isResolved_external hurl _)
      · exact .throw _
    | _ => exact .throw _

/-- Everything that is looked up of the images is resolved. -/
def Resolved (assets : Assets) : Prop := ∀ p ∈ assets, p.2.isResolved = true

theorem resolveEach_gives (hnames : c.outside.NamesUploads) (found : Downloads) {urls : List String}
    (hurls : ∀ url ∈ urls, url ≠ "") : Gives c Resolved (resolveEach found urls) := by
  induction urls with
  | nil => exact .pure (by simp [Resolved])
  | cons url rest ih =>
    obtain ⟨hurl, hrest⟩ := List.forall_mem_cons.1 hurls
    rw [resolveEach]
    refine .bind (resolve_gives hnames found hurl) fun asset hasset => .after fun _ => ?_
    exact .bind (ih hrest) fun assets hassets => .pure (List.forall_mem_cons.2 ⟨hasset, hassets⟩)

omit [Clock τ] in
theorem leaveEach_gives {urls : List String} (hurls : ∀ url ∈ urls, url ≠ "") : Gives c Resolved (leaveEach urls) := by
  induction urls with
  | nil => exact .pure (by simp [Resolved])
  | cons url rest ih =>
    obtain ⟨hurl, hrest⟩ := List.forall_mem_cons.1 hurls
    rw [leaveEach]
    refine .after fun _ => .bind (ih hrest) fun assets hassets => .pure ?_
    exact List.forall_mem_cons.2 ⟨isResolved_external hurl _, hassets⟩

/-- It is known of every image looked after where it lives. -/
theorem resolveAll_gives (hnames : c.outside.NamesUploads) (urls : List String) (uploadEnabled : Bool) :
    Gives c Resolved (resolveAll urls uploadEnabled) := by
  have hurls : ∀ url ∈ distinct urls, url ≠ "" := fun url h => (mem_distinct.1 h).2
  unfold resolveAll
  dsimp only
  refine .after fun _ => ?_
  split
  · refine .after fun found => .bind (resolveEach_gives hnames found hurls) fun assets hassets => ?_
    exact .after fun _ => .pure hassets
  · exact leaveEach_gives hurls

end Image

end Uploads

/-! ## Targets -/

namespace Page.Target

/-- The file object of a target. -/
def toFile : Target → Value
  | upload id => .record [("type", .text "file_upload"), ("file_upload", .record [("id", .text id)])]
  | external url => .record [("type", .text "external"), ("external", .record [("url", .text url)])]

/-- A files property that holds nothing but the file at a target. -/
def toFiles (t : Target) : Value := .record [("files", .list [.record (("name", .text "image") :: t.toFile.fields)])]

end Page.Target

namespace Asset

/-- Where an image can be shown from, if it can. -/
def target? (a : Asset) : Option Page.Target :=
  if a.isUploaded then some (.upload (a.value.getD ""))
  else if Page.isEmbeddable (a.value.getD "") then some (.external (a.value.getD ""))
  else none

/-- What is known of the image at a URL, or else that it is there. -/
def found (assets : Assets) (url : String) : Asset := (assets.lookup url).getD (.external url)

variable {assets : Assets} {a : Asset} {t : Page.Target} {v : String}

theorem exists_value (h : a.isResolved = true) : ∃ v, a.value = some v := by
  cases hv : a.value with
  | none => simp [isResolved, hv] at h
  | some v => exact ⟨v, rfl⟩

theorem found_value (h : Image.Resolved assets) (url : String) : ∃ v, (found assets url).value = some v := by
  unfold found
  cases hl : assets.lookup url with
  | none => exact ⟨url, rfl⟩
  | some a => exact exists_value (h _ (mem_of_lookup hl))

/-- What the asset of an image shows is what its target shows. -/
theorem toFile_of_target? (hv : a.value = some v) (ht : a.target? = some t) : a.toFile = t.toFile := by
  unfold target? at ht
  rw [hv, Option.getD_some] at ht
  split at ht
  next hu =>
    cases ht
    simp [toFile, hu, hv, Page.Target.toFile]
  next hu =>
    split at ht
    · cases ht
      simp [toFile, hu, hv, Page.Target.toFile]
    · cases ht

theorem target?_isSome (hv : a.value = some v) : a.target?.isSome = (a.isUploaded || a.value.any Page.isEmbeddable) := by
  unfold target?
  rw [hv, Option.getD_some, Option.any_some]
  cases a.isUploaded <;> cases Page.isEmbeddable v <;> rfl

end Asset

/-- A picture is shown from the target of what is known of its image. -/
theorem Page.Picture.block?_eq {assets : Assets} (h : Image.Resolved assets) (p : Picture) :
    p.block? assets = (Asset.found assets p.url).target?.map (Block.image · (Run.ofText p.alt)) := by
  have hfound : assetFor assets p.url = Asset.found assets p.url := by
    unfold assetFor Asset.found
    cases hl : assets.lookup p.url with
    | none => rfl
    | some a => simp [h _ (mem_of_lookup hl)]
  obtain ⟨hvalue, hmoved⟩ := assetFor_eq assets p
  rw [hfound] at hvalue hmoved
  unfold block? Asset.target?
  rw [hvalue, hmoved, Option.getD_some]
  cases p.isMoved assets <;> cases isEmbeddable (p.place assets) <;> rfl

/-- An icon or a cover is shown from its target. -/
theorem Page.Draft.file?_eq {a : Asset} (h : a.isResolved = true) :
    file? (some a) = a.target?.map Target.toFile := by
  obtain ⟨v, hv⟩ := Asset.exists_value h
  have hshown := Asset.target?_isSome hv
  unfold file?
  simp only [h, Bool.true_and, ← hshown]
  cases ht : a.target? with
  | none => rfl
  | some t => simp [Asset.toFile_of_target? hv ht]

/-- A files property shows a file from its target or is refused. -/
theorem Property.file_eq {a : Asset} {v : String} (hv : a.value = some v) :
    match a.target? with
    | some t => file a = .ok (some (.files "image" a)) ∧ (files "image" a).toValue = t.toFiles
    | none => ∃ e, file a = .error (.clip e) := by
  have hshown := Asset.target?_isSome hv
  unfold file
  rw [← hshown]
  cases ht : a.target? with
  | none => exact ⟨_, rfl⟩
  | some t =>
    refine ⟨rfl, ?_⟩
    rw [Property.toValue, Asset.toFile_of_target? hv ht]
    rfl

/-! ## Properties -/

/-- An entry that puts the file at a URL into a files property. -/
structure FieldMapping.Files (article : Article) (m : FieldMapping) (url : String) : Prop where
  enabled : m.enabled.truthy = true
  type : m.propertyType.text? = some "files"
  value : ∃ v, m.source article = .ok v ∧ Property.isNothing v = false ∧ v.written = .ok url

/-- Such an entry comes to what is built of the file. -/
theorem FieldMapping.Files.build {article : Article} {m : FieldMapping} {url : String} (h : m.Files article url)
    (assets : Assets) :
    ∃ v, m.source article = .ok v ∧ Property.build assets m.propertyType v = Property.file (Asset.found assets url) := by
  obtain ⟨v, hsource, hsome, hwritten⟩ := h.value
  refine ⟨v, hsource, ?_⟩
  simp [Property.build, h.type, hsome, hwritten, bind, Except.bind, Asset.found]

namespace Mapping

variable {article : Article} {assets : Assets} {before after : Mapping} {name : String} {m : FieldMapping}
  {key : String} {p : Property} {ps : Properties}

theorem lookup_foldl_set {fillings : List Filling} (h : ∀ q, .filled key q ∉ fillings) (ps : Properties) :
    (fillings.foldl set ps).lookup key = ps.lookup key := by
  induction fillings generalizing ps with
  | nil => rfl
  | cons filling rest ih =>
    rw [List.foldl_cons, ih fun q hq => h q (List.mem_cons_of_mem _ hq)]
    cases filling with
    | filled other q =>
      have hne : key ≠ other := by
        rintro rfl
        exact h q List.mem_cons_self
      exact lookup_putKey_of_ne hne q ps
    | _ => rfl

/-- A property is what the last entry that fills it comes to. -/
theorem lookup_properties (h : properties article assets (before ++ (name, m) :: after) = .ok ps)
    (hm : m.fill article assets name = .ok (.filled key p))
    (hafter : ∀ e ∈ after, ∀ q, e.2.fill article assets e.1 ≠ .ok (.filled key q)) : ps.lookup key = some p := by
  obtain ⟨fillings, hfillings, rfl⟩ := exists_fillings h
  rw [List.mapM_append] at hfillings
  obtain ⟨fillings, -, hall⟩ := exists_of_bind hfillings
  obtain ⟨_, hfrom, ⟨⟩⟩ := exists_of_bind hall
  -- what comes behind the entry sets its property no more
  rw [List.mapM_cons] at hfrom
  obtain ⟨filling, hfirst, hfrom⟩ := exists_of_bind hfrom
  obtain ⟨rest, hrest, ⟨⟩⟩ := exists_of_bind hfrom
  cases hm.symm.trans hfirst
  have hnone : ∀ q, .filled key q ∉ rest := by
    intro q hq
    obtain ⟨e, he, hfill⟩ := mem_of_mapM hrest hq
    exact hafter e he q hfill
  rw [List.foldl_append, List.foldl_cons, lookup_foldl_set hnone]
  exact lookup_putKey_self key p _

end Mapping

/-! ## The request -/

namespace Page.Draft

theorem properties_request (parent : Value) (d : Draft) : (d.request parent).field? "properties" =
    some (.record (d.properties.map fun p => (p.1, p.2.toValue))) := rfl

theorem icon_request (parent : Value) (d : Draft) : (d.request parent).field? "icon" = file? d.icon := by
  unfold request
  cases parent.truthy <;> cases file? d.icon <;> cases file? d.cover <;> rfl

theorem cover_request (parent : Value) (d : Draft) : (d.request parent).field? "cover" = file? d.cover := by
  unfold request
  cases parent.truthy <;> cases file? d.icon <;> cases file? d.cover <;> rfl

end Page.Draft

/-! ## Roles -/

namespace Save

/-- What can show an image on a page. -/
inductive Role where
  | picture (p : Page.Picture)
  /-- The property of an entry that stands between others in the mapping. -/
  | property (before : Mapping) (name : String) (m : FieldMapping) (after : Mapping)
  | icon
  | cover

namespace Composition

variable {article : Article} (k : Composition article)

/-- The image at a URL is to be shown so. A property is only filled by the last entry that fills it. -/
def Plays (url : String) : Role → Prop
  | .picture p => p ∈ k.shown ∧ p.url = url
  | .property before name m after => k.mapping = before ++ (name, m) :: after ∧ m.Files article url ∧
      ∀ key, m.target name = .ok key → ∀ e ∈ after, ∀ q, e.2.fill article k.assets e.1 ≠ .ok (.filled key q)
  | .icon => k.icon = some url
  | .cover => k.cover = some url

/-- A page that is created shows the image from a target, or leaves it out. -/
def Shows (page : Value) (target? : Option Page.Target) : Role → Prop
  | .picture p => p.block? k.assets = target?.map (Page.Block.image · (Page.Run.ofText p.alt))
  | .property before name m after =>
    match target? with
    | some t => ∃ key, m.target name = .ok key ∧
        (page.field? "properties").bind (·.field? key) = some t.toFiles
    | none => Mapping.properties article k.assets (before ++ after) = .ok k.properties
  | .icon => page.field? "icon" = target?.map Page.Target.toFile
  | .cover => page.field? "cover" = target?.map Page.Target.toFile

variable {k} {url : String} {before after : Mapping} {name : String} {m : FieldMapping}

/-- An icon or a cover is shown from the target of what is known of it. -/
theorem file?_ownAsset (hresolved : Image.Resolved k.assets) (hkeys : k.assets.map (·.1) = Image.distinct k.urls)
    (hurl : url ∈ k.urls) (hne : url ≠ "") :
    Page.Draft.file? (ownAsset k.assets (some url)) = (Asset.found k.assets url).target?.map Page.Target.toFile := by
  have hkey : url ∈ k.assets.map (·.1) := hkeys ▸ Image.mem_distinct.2 ⟨hurl, hne⟩
  obtain ⟨p, hmem, hp⟩ := List.mem_map.1 hkey
  cases hl : k.assets.lookup url with
  | none => simpa [hp] using List.lookup_eq_none_iff.1 hl p hmem
  | some a =>
    have hown : ownAsset k.assets (some url) = some a := hl
    have hfound : Asset.found k.assets url = a := by simp [Asset.found, hl]
    rw [hown, hfound, Page.Draft.file?_eq (hresolved _ (mem_of_lookup hl))]

theorem ne_of_ownUrl? {v : Value} (h : ownUrl? v = .ok (some url)) : url ≠ "" := by
  rintro rfl
  unfold ownUrl? at h
  repeat' split at h
  all_goals simp_all

/-- A files property shows its file from its target, or is left out. -/
theorem property_shows (hresolved : Image.Resolved k.assets) (parent : Value)
    (h : k.Plays url (.property before name m after)) :
    k.Shows (k.page.request parent) (Asset.found k.assets url).target? (.property before name m after) := by
  obtain ⟨hmapping, hfiles, hlast⟩ := h
  obtain ⟨v, hv⟩ := Asset.found_value hresolved url
  obtain ⟨w, hsource, hbuild⟩ := hfiles.build k.assets
  have hfill : m.fill article k.assets name = _ := FieldMapping.fill_of_source hfiles.enabled hsource
  have hset : Mapping.properties article k.assets (before ++ (name, m) :: after) = .ok k.properties :=
    hmapping ▸ k.properties_eq
  have hfile := Property.file_eq hv
  rw [hbuild] at hfill
  cases ht : (Asset.found k.assets url).target? with
  | none =>
    rw [ht] at hfile
    obtain ⟨e, he⟩ := hfile
    rw [he] at hfill
    exact (Mapping.properties_dropped hfill).symm.trans hset
  | some t =>
    rw [ht] at hfile
    obtain ⟨hbuilt, hshown⟩ := hfile
    rw [hbuilt] at hfill
    cases hkey : m.target name with
    | error e =>
      -- a property without a name would have broken them all
      rw [hkey] at hfill
      exact absurd (FieldMapping.breaks_of_fill hfill)
        (Mapping.properties_isOk_iff.1 ⟨_, hset⟩ (name, m) (by simp) e)
    | ok key =>
      rw [hkey] at hfill
      refine ⟨key, hkey, ?_⟩
      have hlookup := Mapping.lookup_properties hset hfill (hlast key hkey)
      rw [Page.Draft.properties_request, Option.bind_some, Value.field?, lookup_map]
      change (k.properties.lookup key).map Property.toValue = _
      rw [hlookup, Option.map_some, hshown]

/-- Whatever shows the image at a URL shows it from the target of what is known of it. -/
theorem shows_of_plays (hresolved : Image.Resolved k.assets) (hkeys : k.assets.map (·.1) = Image.distinct k.urls)
    (parent : Value) {role : Role} (h : k.Plays url role) :
    k.Shows (k.page.request parent) (Asset.found k.assets url).target? role := by
  cases role with
  | picture p =>
    obtain ⟨-, rfl⟩ := h
    exact Page.Picture.block?_eq hresolved p
  | property before name m after => exact property_shows hresolved parent h
  -- an icon or a cover is looked after with the pictures, so it is among the assets
  | icon =>
    have hicon : k.icon = some url := h
    have hurl : url ∈ k.urls := by simp [urls, hicon]
    have hne := ne_of_ownUrl? (hicon ▸ k.icon_eq)
    have hasset : k.page.icon = ownAsset k.assets (some url) := congrArg (ownAsset k.assets) hicon
    refine (Page.Draft.icon_request parent k.page).trans ?_
    rw [hasset, file?_ownAsset hresolved hkeys hurl hne]
  | cover =>
    have hcover : k.cover = some url := h
    have hurl : url ∈ k.urls := by simp [urls, hcover]
    have hne := ne_of_ownUrl? (hcover ▸ k.cover_eq)
    have hasset : k.page.cover = ownAsset k.assets (some url) := congrArg (ownAsset k.assets) hcover
    refine (Page.Draft.cover_request parent k.page).trans ?_
    rw [hasset, file?_ownAsset hresolved hkeys hurl hne]

end Composition

variable {σ τ : Type} [Clock τ] {c : Clipper σ τ}

/-- What is settled has every URL that is not empty, and all of it is resolved. -/
theorem Settles.resolved {urls : List String} {upload : Bool} {s : Session σ τ} {ms : List Move} {assets : Assets}
    (h : Settles c urls upload s ms assets) (hnames : c.outside.NamesUploads) :
    Image.Resolved assets ∧ assets.map (·.1) = Image.distinct urls := by
  obtain ⟨_, _, _, t, u, -, -, -, hrun⟩ := h
  have hassets : (carryOut (Image.resolveAll urls upload) c t).1 = .ok assets := congrArg Prod.fst hrun
  obtain ⟨_, -, -, htells⟩ := Image.resolveAll_ensures (c := c) urls upload t
  exact ⟨Image.resolveAll_gives hnames urls upload t assets hassets, (htells assets hassets).1⟩

/-- Whatever shows the image at a URL on a page that a save creates shows it from one target, or nothing shows it: the
pictures of the nodes that can be compiled, the files properties, the icon and the cover. That is so if every upload
has an id that is not empty. -/
theorem run_agrees (hnames : c.outside.NamesUploads) (article : Article) (database : Value) (given : Mapping)
    (download limit : Value) (s : Session σ τ) :
    ∃ ms, Session.Path c s ms (carryOut (run article database given download limit) c s).2 ∧
      ∀ page a, .asked (.createPage page) a ∈ ms → ∃ k : Composition article,
        Composes c article database given (wanted c.settings download).truthy s ms
          (carryOut (run article database given download limit) c s).1 k ∧
        k.compiled.blocks.filter Page.Block.isImage = k.shown.filterMap (Page.Picture.block? k.assets) ∧
        ((∀ n ∈ k.nodes, n.error? = none) → k.shown = k.nodes.flatMap (captioned article)) ∧
        ∀ url, ∃ target?, ∀ role, k.Plays url role → k.Shows page target? role := by
  obtain ⟨ms, hp, hends⟩ := run_ends (c := c) article database given download limit s
  refine ⟨ms, hp, fun page a hasked => ?_⟩
  rcases hends with ⟨hquiet, -⟩ | ⟨k, hk⟩
  · exact (hquiet _ hasked).elim
  obtain ⟨hresolved, hkeys⟩ := hk.settles.resolved hnames
  obtain rfl := hk.created page a hasked
  exact ⟨k, hk, k.images_eq, k.shown_of_sound, fun url => ⟨(Asset.found k.assets url).target?,
    fun _ hplays => k.shows_of_plays hresolved hkeys _ hplays⟩⟩

section Gallery

/-- A service that creates every page and takes every file. -/
def gallery : Outside Unit Int :=
  { Image.hospitable with
    ask := fun _ _ => (.answer (.record [("id", .text "page"), ("url", .text "https://h/page")]), ()) }

/-- A clipper and that service. -/
def galleryClipper : Clipper Unit Int := { Image.hospitableClipper with outside := gallery }

theorem gallery_names : gallery.NamesUploads := by
  have hbody : (match Service.decoded (HttpReply.body
      { chunks := ["\x7b\"id\":\"1\",\"status\":\"uploaded\"\x7d".toUTF8] }) with
      | .ok v =>
        match Reply.require v "id" with
        | .ok id => id.truthy && !id.display.isEmpty
        | .error _ => true
      | .error _ => true) = true := by decide +kernel
  rintro fileName contentType w reply v id ⟨⟩ hv hid
  rw [hv] at hbody
  simpa [hid, Named] using hbody

/-- An article with one image, which it shows everywhere. -/
def thumbnail : Article :=
  { content := .text "a ![x](data:image/gif,a)"
    mainImage := .text "data:image/gif,a"
    favicon := .text "data:image/gif,a" }

/-- An entry that puts its main image into a property. -/
def coverEntry : FieldMapping :=
  { propertyName := .text "Cover", propertyType := .text "files", sourceField := .text "main_image" }

/-- Saving it. -/
def saveThumbnail : Act Unit Int Saved :=
  run thumbnail .null [("Cover", coverEntry)] (.bool true) .null

/-- Whether an event creates a page with an icon. -/
def setsIcon : Event → Bool
  | .asked (.createPage page) => (page.field? "icon").isSome
  | _ => false

/-- Its image is to be shown everywhere. -/
theorem thumbnail_plays {database : Value} {upload : Bool} {s : Session Unit Int} {ms : List Move}
    {r : Except Fault Saved} {k : Composition thumbnail}
    (hk : Composes galleryClipper thumbnail database [("Cover", coverEntry)] upload s ms r k) :
    k.Plays "data:image/gif,a" (.picture ⟨"data:image/gif,a", "x"⟩) ∧
      k.Plays "data:image/gif,a" (.property [] "Cover" coverEntry []) ∧ k.Plays "data:image/gif,a" .icon ∧
      k.Plays "data:image/gif,a" .cover := by
  have hown : ownUrl? (.text "data:image/gif,a") = .ok (some "data:image/gif,a") := by simp [ownUrl?]
  have hfiles : coverEntry.Files thumbnail "data:image/gif,a" :=
    ⟨rfl, rfl, .text "data:image/gif,a", rfl, by decide, rfl⟩
  refine ⟨⟨?_, rfl⟩, ⟨hk.mapping (by simp), hfiles, by simp⟩, ?_, ?_⟩
  · have hshown : (match nodesOf thumbnail with
        | .ok nodes => decide (⟨"data:image/gif,a", "x"⟩ ∈
            (nodes.filter (·.error?.isNone)).flatMap (captioned thumbnail))
        | .error _ => false) = true := by decide +kernel
    rw [k.nodes_eq] at hshown
    exact of_decide_eq_true hshown
  · exact Except.ok.inj (k.icon_eq.symm.trans hown)
  · exact Except.ok.inj (k.cover_eq.symm.trans hown)

/-- Its picture, its property, its icon and its cover all show its image from one upload. -/
theorem thumbnail_agrees :
    gallery.NamesUploads ∧ ∃ ms page a, Session.Path galleryClipper Image.hospitableSession ms
        (carryOut saveThumbnail galleryClipper Image.hospitableSession).2 ∧ .asked (.createPage page) a ∈ ms ∧
      ∃ (k : Composition thumbnail) (t : Page.Target), k.Shows page (some t) (.picture ⟨"data:image/gif,a", "x"⟩) ∧
        k.Shows page (some t) (.property [] "Cover" coverEntry []) ∧ k.Shows page (some t) .icon ∧
        k.Shows page (some t) .cover := by
  obtain ⟨ms, hp, hall⟩ := run_agrees (c := galleryClipper) gallery_names thumbnail .null [("Cover", coverEntry)]
    (.bool true) .null Image.hospitableSession
  change Session.Path galleryClipper Image.hospitableSession ms
    (carryOut saveThumbnail galleryClipper Image.hospitableSession).2 at hp
  have hsets : (carryOut saveThumbnail galleryClipper Image.hospitableSession).2.events.any setsIcon = true := by
    decide +kernel
  obtain ⟨e, he, hicon⟩ := List.any_eq_true.1 hsets
  obtain ⟨page, rfl, hpage⟩ : ∃ page, e = .asked (.createPage page) ∧ (page.field? "icon").isSome = true := by
    unfold setsIcon at hicon
    split at hicon
    · exact ⟨_, rfl, hicon⟩
    · cases hicon
  obtain ⟨a, hasked⟩ := (hp.exists_asked he).resolve_left (List.not_mem_nil)
  obtain ⟨k, hk, -, -, hshows⟩ := hall page a hasked
  obtain ⟨hpicture, hproperty, hplaysIcon, hplaysCover⟩ := thumbnail_plays hk
  obtain ⟨target?, htarget⟩ := hshows "data:image/gif,a"
  cases target? with
  | none =>
    have hnone : page.field? "icon" = none := htarget .icon hplaysIcon
    rw [hnone] at hpage
    cases hpage
  | some t =>
    exact ⟨gallery_names, ms, page, a, hp, hasked, k, t, htarget _ hpicture, htarget _ hproperty, htarget _ hplaysIcon,
      htarget _ hplaysCover⟩

end Gallery

end Save

end WebClip
