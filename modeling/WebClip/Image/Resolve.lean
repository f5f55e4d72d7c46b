import WebClip.Asset
import WebClip.Image.Download
import WebClip.Service.Client
/-!
# Resolving images

Images are downloaded in batches and moved into uploads one by one. An image for which
either fails stays at its own URL, with the reason kept; only errors that concern the
whole document end everything.
-/

namespace WebClip.Image

open WebClip.Act

variable {σ τ : Type}

/-- What has been downloaded, and the messages of downloads that failed, by URL. -/
structure Downloads where
  images : List (String × Download) := []
  errors : List (String × String) := []

/-! ## Downloads in batches -/

/-- What came of a download. -/
abbrev Outcome := Except Fault Download

/-- The message of a download that failed as downloads do. -/
def failure? : Outcome → Option String
  | .error (.clip e) =>
    match e.kind with
    | .download _ => some e.message
    | _ => none
  | _ => none

/-- The fault of a download that failed in some other way. -/
def fault? (o : Outcome) : Option Fault :=
  match o, failure? o with
  | .error e, none => some e
  | _, _ => none

/-- Start the downloads of a batch. -/
def startAll : List String → Act σ τ (List (String × Outcome))
  | [] => pure []
  | url :: rest => do
    note url .downloading
    let outcome ← attempt (Download.run url)
    pure ((url, outcome) :: (← startAll rest))

/-- Take down what came of a download. -/
def record (found : Downloads) (url : String) (o : Outcome) : Act σ τ Downloads := do
  match o, failure? o with
  | .ok image, _ =>
    note url .downloaded
    pure { found with images := putKey url image found.images }
  | .error _, some message =>
    note url .downloadFailed
    tell (.warning ("Failed to download " ++ Download.shown url ++ ": " ++ message))
    pure { found with errors := putKey url message found.errors }
  | .error _, none => pure found

/-- Take down what came of downloads, in the order in which they finished. -/
def recordAll : Downloads → List (String × Outcome) → Act σ τ Downloads
  | found, [] => pure found
  | found, (url, o) :: rest => do recordAll (← record found url o) rest

/-- The fault that ends a batch: one that came over it, or else that something never ended. -/
def batchFault? (outcomes : List (String × Outcome)) : Option Fault :=
  let faults := outcomes.filterMap fun o => fault? o.2
  (faults.find? fun
    | .timedOut => false
    | _ => true).or faults.head?

/-- Download a batch and wait for all of it. -/
def downloadBatch (found : Downloads) (urls : List String) : Act σ τ Downloads := do
  let outcomes ← startAll urls
  let finished := ((← read).outside.finish urls).filterMap (outcomes[·]?)
  let found ← recordAll found finished
  match batchFault? finished with
  | some e => throw e
  | none => pure found

/-- Download batches one after another. -/
def downloadBatches : Downloads → List (List String) → Act σ τ Downloads
  | found, [] => pure found
  | found, batch :: rest => do downloadBatches (← downloadBatch found batch) rest

/-- How many images are downloaded at a time: at least one. -/
def batchSize (concurrency : Value) : Except Fault Nat :=
  match concurrency with
  | .int n => .ok (max 1 n.toNat)
  | .bool _ => .ok 1
  | .float x => if x ≤ 1 then .ok 1 else .error (.wrongKind "not a whole number")
  | _ => .error (.wrongKind "not a number of downloads")

/-- Download images. -/
def downloadAll (urls : List String) : Act σ τ Downloads := do
  let size ← orFault (batchSize (← read).settings.downloadConcurrency)
  let found ← downloadBatches {} (chunks size urls)
  tell (.info ("Downloaded " ++ toString found.images.length ++ "/" ++ toString urls.length ++
    " images"))
  pure found

/-! ## Uploads -/

variable [Clock τ]

/-- The error of an upload. Errors that concern the whole document stay what they are. -/
def uploadError (url : String) (e : ClipError) : ClipError :=
  match e.kind with
  | .rateLimit | .auth | .upload _ => e
  | _ => .make (.upload url) e.message e.status

/-- Move a downloaded image into an upload. -/
def upload (image : Download) : Act σ τ Value := do
  note image.url .uploading
  match ← attempt (Service.upload image.url image.fileName image.contentType image.content) with
  | .ok id =>
    note image.url .uploaded
    pure id
  | .error (.clip e) =>
    note image.url .uploadFailed
    throw (.clip (uploadError image.url e))
  | .error e => throw e

/-- Move the image at a URL into an upload. -/
def rehost (url : String) : Act σ τ Value := do
  note url .discovered
  note url .downloading
  match ← attempt (Download.run url) with
  | .ok image =>
    note url .downloaded
    let id ← upload image
    note url .resolved
    pure id
  | .error e =>
    if (failure? (.error e)).isSome then note url .downloadFailed
    throw e

/-! ## Resolution -/

/-- The distinct URLs that are not empty, in the order of their first occurrence. -/
def distinct (urls : List String) : List String :=
  urls.foldl (fun acc url => if url.isEmpty || acc.contains url then acc else acc ++ [url]) []

/-- Note that images have been discovered. -/
def discoverAll : List String → Act σ τ Unit
  | [] => pure ()
  | url :: rest => do
    note url .discovered
    discoverAll rest

/-- The id of an upload as the value of an asset. -/
def uploadedAt (url : String) (id : Value) : Asset :=
  { sourceUrl := url, kind := .uploaded
    value := match id with
      | .null => none
      | v => some v.display }

/-- Where an image lives after an attempt to move it into an upload. -/
def resolve (found : Downloads) (url : String) : Act σ τ Asset := do
  match found.images.lookup url with
  | none =>
    pure (.external url (some ⟨"download", (found.errors.lookup url).getD "not downloaded"⟩))
  | some image =>
    match ← attempt (upload image) with
    | .ok id => pure (uploadedAt url id)
    | .error (.clip e) =>
      match e.kind with
      | .upload _ =>
        tell (.warning ("Upload failed for " ++ Download.shown url ++ ", using original URL: " ++
          e.message))
        pure (.external url (some ⟨"upload", e.message⟩))
      | _ => throw (.clip e)
    | .error e => throw e

/-- Where images live after attempts to move them into uploads, one by one. -/
def resolveEach (found : Downloads) : List String → Act σ τ Assets
  | [] => pure []
  | url :: rest => do
    let asset ← resolve found url
    note url .resolved
    pure ((url, asset) :: (← resolveEach found rest))

/-- Leave images at their own URLs. -/
def leaveEach : List String → Act σ τ Assets
  | [] => pure []
  | url :: rest => do
    note url .resolved
    pure ((url, .external url) :: (← leaveEach rest))

/-- Find out where the images at URLs live, moving them into uploads if that is enabled. -/
def resolveAll (urls : List String) (uploadEnabled : Bool) : Act σ τ Assets := do
  let urls := distinct urls
  discoverAll urls
  if uploadEnabled then
    let found ← downloadAll urls
    let assets ← resolveEach found urls
    let uploaded := (assets.filter fun a => a.2.isUploaded).length
    tell (.info ("Resolved " ++ toString assets.length ++ " images (" ++ toString uploaded ++
      " uploaded, " ++ toString (assets.length - uploaded) ++ " external)"))
    pure assets
  else leaveEach urls

end WebClip.Image
