import FileQuery.Text.CaseMap
import FileQuery.Text.WhiteSpace

/-!
# Media types

Guessing the media type of a file from its extension, and the classes of media types that queries
ask for.

## Main definitions

* `FileQuery.MediaType.ofExtension`.
* `FileQuery.MediaType.isText`, `isImage`, `isPdf`, `isAudio`, `isVideo`, `isArchive`.
-/

namespace FileQuery.MediaType

/-- The type of directories. -/
def directory : String := "inode/directory"

/-- The type of symbolic links. -/
def symlink : String := "inode/symlink"

/-- The type of files about which nothing is known. -/
def unknown : String := "application/octet-stream"

/-- Texts and sources. -/
def textTypes : List (String × String) :=
  [("txt", "text/plain"), ("log", "text/plain"), ("md", "text/markdown"),
    ("markdown", "text/markdown"), ("rst", "text/x-rst"), ("csv", "text/csv"),
    ("tsv", "text/tab-separated-values"), ("html", "text/html"), ("htm", "text/html"),
    ("css", "text/css"), ("xml", "application/xml"), ("json", "application/json"),
    ("js", "text/javascript"), ("mjs", "text/javascript"), ("ts", "text/x-typescript"),
    ("yaml", "application/yaml"), ("yml", "application/yaml"), ("toml", "application/toml"),
    ("ini", "text/plain"), ("cfg", "text/plain"), ("rs", "text/x-rust"), ("py", "text/x-python"),
    ("go", "text/x-go"), ("c", "text/x-c"), ("h", "text/x-c"), ("cc", "text/x-c++"),
    ("cpp", "text/x-c++"), ("hpp", "text/x-c++"), ("java", "text/x-java"), ("rb", "text/x-ruby"),
    ("sh", "application/x-sh"), ("sql", "application/sql")]

/-- Images. -/
def imageTypes : List (String × String) :=
  [("jpg", "image/jpeg"), ("jpeg", "image/jpeg"), ("png", "image/png"), ("gif", "image/gif"),
    ("bmp", "image/bmp"), ("tif", "image/tiff"), ("tiff", "image/tiff"), ("webp", "image/webp"),
    ("ico", "image/vnd.microsoft.icon"), ("svg", "image/svg+xml"), ("heic", "image/heic"),
    ("heif", "image/heif"), ("psd", "image/vnd.adobe.photoshop")]

/-- Sounds. -/
def audioTypes : List (String × String) :=
  [("mp3", "audio/mpeg"), ("wav", "audio/wav"), ("flac", "audio/flac"), ("aac", "audio/aac"),
    ("ogg", "audio/ogg"), ("oga", "audio/ogg"), ("opus", "audio/opus"), ("m4a", "audio/mp4"),
    ("wma", "audio/x-ms-wma"), ("aiff", "audio/aiff"), ("mid", "audio/midi"),
    ("midi", "audio/midi")]

/-- Films. -/
def videoTypes : List (String × String) :=
  [("mp4", "video/mp4"), ("m4v", "video/mp4"), ("mov", "video/quicktime"),
    ("avi", "video/x-msvideo"), ("mkv", "video/x-matroska"), ("wmv", "video/x-ms-wmv"),
    ("webm", "video/webm"), ("flv", "video/x-flv"), ("mpg", "video/mpeg"), ("mpeg", "video/mpeg"),
    ("3gp", "video/3gpp")]

/-- Archives. -/
def archiveTypes : List (String × String) :=
  [("zip", "application/zip"), ("jar", "application/java-archive"), ("tar", "application/x-tar"),
    ("gz", "application/gzip"), ("tgz", "application/gzip"), ("bz2", "application/x-bzip2"),
    ("xz", "application/x-xz"), ("zst", "application/zstd"), ("7z", "application/x-7z-compressed"),
    ("rar", "application/vnd.rar"), ("iso", "application/x-iso9660-image"),
    ("dmg", "application/x-apple-diskimage")]

/-- Documents and programs. -/
def documentTypes : List (String × String) :=
  [("pdf", "application/pdf"), ("doc", "application/msword"),
    ("docx", "application/vnd.openxmlformats-officedocument.wordprocessingml.document"),
    ("xls", "application/vnd.ms-excel"),
    ("xlsx", "application/vnd.openxmlformats-officedocument.spreadsheetml.sheet"),
    ("ppt", "application/vnd.ms-powerpoint"),
    ("pptx", "application/vnd.openxmlformats-officedocument.presentationml.presentation"),
    ("odt", "application/vnd.oasis.opendocument.text"), ("rtf", "application/rtf"),
    ("epub", "application/epub+zip"), ("wasm", "application/wasm")]

/-- The media types of archives, which share no beginning. -/
def archiveNames : List String :=
  ["application/zip", "application/java-archive", "application/x-tar", "application/gzip",
    "application/x-gzip", "application/x-bzip2", "application/x-xz", "application/zstd",
    "application/x-7z-compressed", "application/vnd.rar", "application/x-rar-compressed",
    "application/x-iso9660-image", "application/x-apple-diskimage"]

/-- The media types whose content is text although their names do not say so. -/
def textualNames : List String :=
  ["application/json", "application/xml", "application/yaml", "application/toml",
    "application/javascript", "application/x-sh", "application/sql"]

/-- The media type of an extension, in any case of ASCII letters. -/
def ofExtension (extension : String) : String :=
  let types := textTypes ++ imageTypes ++ audioTypes ++ videoTypes ++ archiveTypes ++ documentTypes
  (types.lookup (Text.toAsciiLower extension)).getD unknown

/-- A media type without its parameters, in lower case. -/
def essence (name : String) : String :=
  Text.toAsciiLower (Text.trim (String.ofList (name.toList.takeWhile (· != ';'))))

/-- Whether the essence of a media type begins with the name of a family. -/
def inFamily (family name : String) : Bool :=
  family.toList.isPrefixOf (essence name).toList

def isText (name : String) : Bool :=
  inFamily "text/" name || textualNames.contains (essence name)

def isImage (name : String) : Bool := inFamily "image/" name

def isPdf (name : String) : Bool := essence name == "application/pdf"

def isAudio (name : String) : Bool := inFamily "audio/" name

def isVideo (name : String) : Bool := inFamily "video/" name

def isArchive (name : String) : Bool := archiveNames.contains (essence name)

end FileQuery.MediaType
