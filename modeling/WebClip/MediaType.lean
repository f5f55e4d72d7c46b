import WebClip.Url.Parts
import WebClip.Bytes.Sha256
/-!
# Media types and file names

The media type of an image is what its host declares, or else what the extension in
its URL says. Its file name is the last segment of the URL's path when that has an
extension, or else a name made of the digest of the URL.
-/

namespace WebClip.MediaType

open WebClip.Text

/-- Whether a media type is one of images. -/
def isImage (type : String) : Bool := startsWith "image/".toList type.toList

/-- Media types that say nothing about the content. -/
def generic : List String := ["application/octet-stream", "binary/octet-stream"]

/-- The media type of an image of which nothing is known. -/
def usual : String := "image/jpeg"

/-- The media types of image files by extension. -/
def byExtension : List (String × String) :=
  [(".avif", "image/avif"), (".bmp", "image/bmp"), (".gif", "image/gif"), (".ief", "image/ief"),
   (".jpg", "image/jpeg"), (".jpe", "image/jpeg"), (".jpeg", "image/jpeg"), (".heic", "image/heic"),
   (".heif", "image/heif"), (".png", "image/png"), (".svg", "image/svg+xml"),
   (".tiff", "image/tiff"), (".tif", "image/tiff"), (".ico", "image/vnd.microsoft.icon"),
   (".ras", "image/x-cmu-raster"), (".pnm", "image/x-portable-anymap"),
   (".pbm", "image/x-portable-bitmap"), (".pgm", "image/x-portable-graymap"),
   (".ppm", "image/x-portable-pixmap"), (".rgb", "image/x-rgb"), (".xbm", "image/x-xbitmap"),
   (".xpm", "image/x-xpixmap"), (".xwd", "image/x-xwindowdump")]

/-- Extensions of compressed files. -/
def compressed : List String := [".gz", ".Z", ".bz2", ".xz", ".br"]

/-- The extension of file names by media type. -/
def extensions : List (String × String) :=
  [("image/jpeg", "jpg"), ("image/jpg", "jpg"), ("image/png", "png"), ("image/gif", "gif"),
   ("image/webp", "webp"), ("image/svg+xml", "svg"), ("image/bmp", "bmp"), ("image/x-icon", "ico"),
   ("image/vnd.microsoft.icon", "ico"), ("image/tiff", "tiff"), ("image/heic", "heic")]

/-- The last segment of a path. -/
def lastSegment (path : List Char) : List Char := (path.reverse.takeWhile (· != '/')).reverse

/-- A path and the extension of its last segment, which begins at the last point that has
something other than points before it. -/
def splitExtension (path : List Char) : List Char × List Char :=
  let segment := lastSegment path
  let ending := (segment.reverse.takeWhile (· != '.')).reverse
  let stem := segment.take (segment.length - ending.length - 1)
  if segment.contains '.' && stem.any (· != '.') then
    let size := path.length - ending.length - 1
    (path.take size, path.drop size)
  else (path, [])

/-- The media type that a path's extension says, if it is one of images. -/
def ofPath? (path : List Char) : Option String :=
  let (base, ext) := splitExtension path
  let (base, ext) :=
    if ext.map Char.toLower == ".svgz".toList then (base ++ ".svg".toList, ".gz".toList)
    else (base, ext)
  let ext := if compressed.contains (String.ofList ext) then (splitExtension base).2 else ext
  byExtension.lookup (String.ofList (ext.map Char.toLower))

/-- The media type that the path of a data URL declares. -/
def ofDataPath? (path : List Char) : Option String :=
  match cutAt ',' path with
  | (_, none) => none
  | (header, some _) =>
    let type := (cutAt ';' header).1
    if type.contains '=' || !type.contains '/' then some "text/plain"
    else some (String.ofList type)

/-- The path of a URL; a malformed one has none. -/
def pathOf (url : String) : List Char :=
  match Url.read [] url.toList with
  | .ok parts => parts.path
  | .error _ => []

/-- The scheme that a path begins with, in lower case, and what follows its colon. Anything that
has no slash in it counts as a scheme. -/
def splitScheme (path : List Char) : List Char × List Char :=
  match cutAt ':' path with
  | (c :: scheme, some rest) =>
    if (c :: scheme).contains '/' then ([], path) else (lower (c :: scheme), rest)
  | _ => ([], path)

/-- The media type of an image at a URL by its extension. A path may begin with a scheme of its
own, and may so be that of a data URL. -/
def guess (url : String) : String :=
  let (scheme, path) := splitScheme (pathOf url)
  let type? := if scheme == "data".toList then ofDataPath? path else ofPath? path
  (type?.filter isImage).getD usual

/-- The last segment of a path that names something: empty ones and single points do not. -/
def baseName (path : List Char) : List Char :=
  ((splitOn '/' path).filter fun s => !(s.isEmpty || s == ['.'])).getLastD []

/-- The longest file name taken from a URL. -/
def maxNameLength : Nat := 100

/-- The digits of a digest in a file name. -/
def digestLength : Nat := 12

/-- The file name of an image at a URL. -/
def fileName (url type : String) : String :=
  let ext := (extensions.lookup type).getD "jpg"
  let name := if startsWith "data:".toList url.toList then [] else baseName (pathOf url)
  if name.contains '.' && name.length ≤ maxNameLength then String.ofList name
  else
    let digest := (Sha256.digest url.toUTF8).toHex.take digestLength
    "image-" ++ String.ofList digest ++ "." ++ ext

end WebClip.MediaType
