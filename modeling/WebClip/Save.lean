import WebClip.History
import WebClip.Image.Resolve
import WebClip.Mapping.OfSchema
import WebClip.Markdown.Read
import WebClip.Page.Compile
import WebClip.Page.Document
import WebClip.Page.Draft
import WebClip.Sweep
/-!
# Saving

An article becomes a page of a database: its content is read, its images are moved into
uploads where that is wanted, the page is created with as many blocks as one request
takes, and the others are appended. A page that lacks blocks is an error that names the
page and the blocks.
-/

namespace WebClip

open Act

/-- What came of saving an article. -/
structure Saved where
  pageId : Value
  url : Value
  blockCount : Nat
  uploadedImages : Nat
  externalImages : Nat
  droppedBlocks : Nat

namespace Save

/-! ## Content and images -/

/-- The markdown of an article. -/
def contentOf (article : Article) : Except Fault String :=
  match article.content with
  | .text s => .ok s
  | v => if v.truthy then .error (.wrongShape "content is a text") else .ok ""

/-- The nodes of an article's content. -/
def nodesOf (article : Article) : Except Fault (List Page.Node) := do
  let document := Markdown.read (← contentOf article)
  match article.url with
  | .text url => Page.nodesOf (some url) document
  | url =>
    let nodes ← Page.nodesOf none document
    if url.truthy && (Page.Node.collectUrls nodes).any Page.Node.isRelative then
      throw (.wrongKind "a URL is a text")
    pure nodes

/-- A node whose image has a description, if the article knows one. -/
def describe (article : Article) : Page.Node → Except Fault Page.Node
  | .image url alt =>
    if alt.isEmpty then
      match article.altFor url with
      | .text alt => .ok (.image url alt)
      | _ => .error (.wrongShape "a description is a text")
    else .ok (.image url alt)
  | n => .ok n

/-- The URL of an article's own image, if it has one. -/
def ownUrl? : Value → Except Fault (Option String)
  | .text url => .ok (if url.isEmpty then none else some url)
  | v@(.list _) | v@(.record _) =>
    if v.truthy then .error (.wrongKind "a URL is a text") else .ok none
  | v => if v.truthy then .error (.wrongShape "a URL is a text") else .ok none

/-- What is known of an article's own image. -/
def ownAsset (assets : Assets) (url : Option String) : Option Asset := url.bind fun url => assets.lookup url

/-! ## The page -/

variable {σ τ : Type} [Clock τ]

/-- The mapping given, or else the one that the database's schema suggests. -/
def mappingFor (database : Value) (given : Mapping) : Act σ τ Mapping := do
  if given.isEmpty then
    let detected := Mapping.ofSchema (← Service.schema database)
    let names := ", ".intercalate (detected.map (·.1))
    tell (.info ("Using detected field mapping: " ++ if names.isEmpty then "(none)" else names))
    pure detected
  else pure given

/-- Compile nodes, and keep what went wrong. -/
def compile (assets : Assets) (nodes : List Page.Node) : Act σ τ (List Page.Block) := do
  let c := Page.compile assets nodes
  modify fun s => { s with diagnostics := c.diagnostics }
  tellAll c.notices
  pure c.blocks

/-- The page of an article, with its images where they live now. -/
def draft (article : Article) (mapping : Mapping) (upload : Bool) :
    Act σ τ (List Page.Block × Page.Draft) := do
  let nodes ← orFault (nodesOf article)
  let cover ← orFault (ownUrl? article.mainImage)
  let icon ← orFault (ownUrl? article.favicon)
  let urls := Page.Node.collectUrls nodes ++ cover.toList ++ icon.toList
  let assets ← Image.resolveAll urls upload
  let blocks ← compile assets (← orFault (nodes.mapM (describe article)))
  tellAll (mapping.notices article assets)
  let properties ← orFault (mapping.properties article assets)
  pure (blocks,
    { properties, blocks := blocks.map Page.Block.toValue
      icon := ownAsset assets icon, cover := ownAsset assets cover })

/-- An error that lacks the URL of the page it is about, with it. -/
def located (url : Value) : Fault → Fault
  | .clip { kind := .write page appended missing _, message, status } =>
    .clip { kind := .write page appended missing url, message, status }
  | e => e

/-- Append the blocks that the create request did not take. -/
def appendRest (id url : Value) (blocks : List Value) : Act σ τ Unit := do
  if !blocks.isEmpty then
    tell (.info ("Appending " ++ toString blocks.length ++ " remaining blocks"))
    match ← attempt (Service.append id blocks) with
    | .ok _ => pure ()
    | .error e => throw (located url e)

/-- Put the clip into the history, if one is kept. -/
def remember (c : Clip) : Act σ τ Unit := do
  let s ← get
  match s.history with
  | none => pure ()
  | some file =>
    let file ← orFault (History.record ((← read).outside.date s.outside) c file)
    set { s with history := some file }
    tell (History.recorded c)

/-- What is told of an article that has been saved. -/
def saved (r : Saved) : Notice :=
  .info ("✓ Saved " ++ toString r.blockCount ++ " blocks (" ++ toString r.uploadedImages ++
    " images uploaded, " ++ toString r.externalImages ++ " external): " ++ r.url.display)

/-- Create a drafted page, write all its blocks and remember it. -/
def deliver (article : Article) (database : Value) (blocks : List Page.Block) (page : Page.Draft) :
    Act σ τ Saved := do
  let created ← Service.createPage (page.request (.record [("database_id", database)]))
  let url ← orFault (Reply.pageUrl created)
  let pageId ← orFault (Reply.require created "id")
  appendRest pageId url page.overflow
  let images := blocks.filter Page.Block.isImage
  let uploaded := (images.filter Page.Block.isUpload).length
  let r : Saved :=
    { pageId, url, blockCount := blocks.length, uploadedImages := uploaded
      externalImages := images.length - uploaded
      droppedBlocks := (← get).diagnostics.length }
  remember { sourceUrl := article.url, pageId, pageUrl := url, databaseId := database }
  tell (saved r)
  pure r

/-- Save an article without a time limit. -/
def unlimited (article : Article) (database : Value) (mapping : Mapping) (upload : Bool) :
    Act σ τ Saved := do
  tell (.info ("Saving: " ++ article.title.display ++ " → Notion (" ++ database.display ++ ")"))
  let mapping ← mappingFor database mapping
  let (blocks, page) ← draft article mapping upload
  deliver article database blocks page

/-! ## Time limits and what follows a save -/

/-- Why nothing begins under a time limit: no time is left, or it is no time. -/
def limitFault? (limit : Value) : Option Fault :=
  match limit with
  | .int n =>
    if n = 0 then none
    else if n < 0 then some .timedOut
    else match limit.toFloat with
      | .ok _ => none
      | .error e => some e
  | .float x => if x < 0 then some .timedOut else none
  | .bool _ | .null => none
  | v => if v.truthy then some (.wrongKind "not a time") else none

/-- Whether images are to be moved into uploads: as said, or else as the settings say. -/
def wanted (settings : Settings) (said : Value) : Value :=
  match said with
  | .null => settings.downloadImages
  | v => v

/-- Save an article within a time limit. -/
def run (article : Article) (database : Value) (mapping : Mapping) (download limit : Value) :
    Act σ τ Saved := do
  let upload := (wanted (← read).settings download).truthy
  match limitFault? limit with
  | some e => throw e
  | none => unlimited article database mapping upload

/-- Whether a sweep is to follow a save: the first of the settings that says no, or else
whether an image is left to move. -/
def needsSweep (settings : Settings) (download : Value) (externalImages : Int) : Value :=
  let download := wanted settings download
  if !download.truthy then download
  else if !settings.migrateImages.truthy then settings.migrateImages
  else .bool (externalImages > 0)

/-- The sweep that follows a save. -/
def sweep (pageId : Value) : Act σ τ SweepResult := do
  tell (.info ("Scheduling image migration for " ++ pageId.display))
  Sweep.run pageId

end Save

end WebClip
