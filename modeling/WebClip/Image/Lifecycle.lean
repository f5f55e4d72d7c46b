/-!
# The life of an image

The states an image goes through while it is moved into an upload.
-/

namespace WebClip

/-- A state of an image. -/
inductive ImageState where
  | discovered
  | downloading
  | downloaded
  | downloadFailed
  | uploading
  | uploaded
  | uploadFailed
  | resolved
  deriving DecidableEq, Inhabited

namespace ImageState

/-- The name of a state. -/
def name : ImageState → String
  | discovered => "discovered"
  | downloading => "downloading"
  | downloaded => "downloaded"
  | downloadFailed => "download_failed"
  | uploading => "uploading"
  | uploaded => "uploaded"
  | uploadFailed => "upload_failed"
  | resolved => "resolved"

end ImageState

end WebClip
